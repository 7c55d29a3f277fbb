import ClusterSurvey.Proofs.ConfigJson
import Mathlib.Logic.Relation

/-! Which fields of a document count. An object is read by the fields of its type and by no others:
a field that its type does not have, or a default that is spelled out, leaves what is read as it is,
while a field of its type that is missing without a default, or `null`, spoils the whole document
(`SurveyConfig.reads_by_type`). -/
namespace ClusterSurvey

namespace Json

variable {α : Type} {read : Json → Option α} {default : α} {names : List String}
  {defaults before after a b : List (String × Json)} {key name : String} {x y : Json}

theorem lookup_append (before after : List (String × Json)) :
    lookup key (before ++ after) = (lookup key after).or (lookup key before) := by
  induction before with
  | nil => simp [lookup]
  | cons f before ih =>
    obtain ⟨name, value⟩ := f
    rw [List.cons_append, lookup, ih, lookup]
    cases lookup key after <;> rfl

theorem lookup_append_cons (before after : List (String × Json)) :
    lookup key (before ++ (name, x) :: after) =
      (lookup key after).or (if name = key then some x else lookup key before) := by
  rw [lookup_append, lookup]
  cases lookup key after with
  | some w => rfl
  | none => by_cases hname : name = key <;> simp [hname]

/-- One field more, anywhere among those of an object: one that has none of the `names`, or one that
was omitted, with its default. -/
inductive Padded (names : List String) (defaults : List (String × Json)) :
    List (String × Json) → List (String × Json) → Prop where
  | unknown (before after : List (String × Json)) (name : String) (value : Json)
      (notMem : name ∉ names) :
      Padded names defaults (before ++ after) (before ++ (name, value) :: after)
  | spelledOut (before after : List (String × Json)) (name : String) (value : Json)
      (omitted : lookup name (before ++ after) = none) (mem : (name, value) ∈ defaults) :
      Padded names defaults (before ++ after) (before ++ (name, value) :: after)

theorem lookup_insert_of_ne (h : name ≠ key) (before after : List (String × Json)) :
    lookup key (before ++ (name, x) :: after) = lookup key (before ++ after) := by
  rw [lookup_append_cons, if_neg h, lookup_append]

theorem lookup_insert_of_omitted (h : lookup key (before ++ after) = none) :
    lookup key (before ++ (key, x) :: after) = some x := by
  rw [lookup_append, Option.or_eq_none_iff] at h
  rw [lookup_append_cons, h.1, if_pos rfl]
  rfl

theorem Padded.lookup_cases (h : Padded names defaults a b) (hkey : key ∈ names) :
    lookup key b = lookup key a ∨
      ∃ x, (key, x) ∈ defaults ∧ lookup key a = none ∧ lookup key b = some x := by
  cases h with
  | unknown before after name value notMem =>
    have hne : name ≠ key := fun hname => notMem (hname ▸ hkey)
    exact .inl (lookup_insert_of_ne hne before after)
  | spelledOut before after name value omitted mem =>
    by_cases hname : name = key
    · subst hname
      exact .inr ⟨value, mem, omitted, lookup_insert_of_omitted omitted⟩
    · exact .inl (lookup_insert_of_ne hname before after)

theorem Padded.setting_eq (h : Padded names defaults a b) (hkey : key ∈ names)
    (hdefault : ∀ x, (key, x) ∈ defaults → read x = some default) :
    (obj b).setting read default key = (obj a).setting read default key := by
  unfold setting field?
  dsimp only
  rcases h.lookup_cases hkey with hsame | ⟨x, hmem, ha, hb⟩
  · rw [hsame]
  · rw [ha, hb]
    exact hdefault x hmem

theorem Padded.required_eq (h : Padded names defaults a b) (hkey : key ∈ names)
    (hdefault : key ∉ defaults.map (·.1)) :
    (obj b).required read key = (obj a).required read key := by
  unfold required field?
  dsimp only
  rcases h.lookup_cases hkey with hsame | ⟨x, hmem, _, _⟩
  · rw [hsame]
  · exact absurd (List.mem_map_of_mem hmem) hdefault

theorem setting_replace (h : name = key → read x = read y) (before after : List (String × Json)) :
    (obj (before ++ (name, x) :: after)).setting read default key =
      (obj (before ++ (name, y) :: after)).setting read default key := by
  unfold setting field?
  dsimp only
  rw [lookup_append_cons, lookup_append_cons]
  cases lookup key after with
  | some w => rfl
  | none =>
    by_cases hname : name = key
    · simp [hname, h hname]
    · simp [hname]

theorem listOf?_replace (h : read x = read y) (first last : List Json) :
    (arr (first ++ x :: last)).listOf? read = (arr (first ++ y :: last)).listOf? read := by
  simp [listOf?, arr?, List.mapM_append, List.mapM_cons, h]

theorem listOf?_eq_none_of_mem {items : List Json} (hx : x ∈ items) (h : read x = none) :
    (arr items).listOf? read = none := by
  obtain ⟨first, last, rfl⟩ := List.append_of_mem hx
  simp [listOf?, arr?, List.mapM_append, List.mapM_cons, h]

theorem setting_eq_none {fields : List (String × Json)} (h : lookup key fields = some x)
    (hread : read x = none) : (obj fields).setting read default key = none := by
  unfold setting field?
  dsimp only
  rw [h]
  exact hread

theorem required_eq_none {fields : List (String × Json)} (h : lookup key fields = some x)
    (hread : read x = none) : (obj fields).required read key = none := by
  unfold required field?
  dsimp only
  rw [h]
  exact hread

theorem required_of_omitted {fields : List (String × Json)} (h : lookup key fields = none) :
    (obj fields).required read key = none := by
  unfold required field?
  dsimp only
  rw [h]
  rfl

end Json

open Json (Padded lookup)

namespace SourceType

def defaults (t : SourceType) : List (String × Json) :=
  let targets := [("nodes", .ofStrings []), ("master_nodes", .bool false)]
  match t with
  | auto => ("labels", .obj []) :: targets
  | label => []
  | staticPod | bare => targets

theorem ofJson?_eq_none {x : Json} (format : ConfigFormat)
    (hname : ∀ t : SourceType, x ≠ .str t.name) (hplace : ∀ i : Fin 4, x ≠ .int i.val) :
    ofJson? format x = none := by
  cases x with
  | str s =>
    refine List.find?_eq_none.mpr ?_
    intro t _ heq
    exact hname t (by rw [of_decide_eq_true heq])
  | int n =>
    cases n with
    | negSucc n => rfl
    | ofNat n =>
      cases format with
      | toml => rfl
      | json =>
        have hn : 4 ≤ n := by
          by_contra hlt
          exact hplace ⟨n, Nat.not_le.mp hlt⟩ rfl
        exact List.getElem?_eq_none hn
  | _ => rfl

theorem source?_eq_none_of_null {t : SourceType} {key : String} {fields : List (String × Json)}
    (hkey : key ∈ t.fieldNames) (hnull : lookup key fields = some .null) :
    t.source? (.obj fields) = none := by
  have hlabels : key = "labels" →
      (Json.obj fields).setting (Json.dictOf? Json.str?) ∅ "labels" = none ∧
        (Json.obj fields).required (Json.dictOf? Json.str?) "labels" = none := by
    rintro rfl
    exact ⟨Json.setting_eq_none hnull rfl, Json.required_eq_none hnull rfl⟩
  have hnodes : key = "nodes" → (Json.obj fields).setting Json.strings? [] "nodes" = none := by
    rintro rfl
    exact Json.setting_eq_none hnull rfl
  have honMasters : key = "master_nodes" →
      (Json.obj fields).setting Json.bool? false "master_nodes" = none := by
    rintro rfl
    exact Json.setting_eq_none hnull rfl
  cases t with
  | auto =>
    simp only [fieldNames, List.mem_cons, List.not_mem_nil, or_false] at hkey
    rcases hkey with h | h | h
    · simp [source?, hlabels h]
    · simp [source?, hnodes h]
    · simp [source?, honMasters h]
  | label =>
    simp only [fieldNames, List.mem_cons, List.not_mem_nil, or_false] at hkey
    simp [source?, hlabels hkey]
  | staticPod | bare =>
    simp only [fieldNames, List.mem_cons, List.not_mem_nil, or_false] at hkey
    rcases hkey with h | h
    · simp [source?, hnodes h]
    · simp [source?, honMasters h]

end SourceType

namespace ComponentConfig

variable {format : ConfigFormat} {t : SourceType} {type? : Option SourceType}
  {a b : List (String × Json)}

def typeOf (format : ConfigFormat) (fields : List (String × Json)) : Option SourceType :=
  (Json.obj fields).required (SourceType.ofJson? format) "type"

def defaults (type? : Option SourceType) : List (String × Json) :=
  ("namespace", .str defaultNamespace) :: type?.elim [] SourceType.defaults

theorem mem_fieldNames_of_type {key : String} (h : key ∈ t.fieldNames) :
    key ∈ fieldNames (some t) :=
  List.mem_append_right _ h

theorem source?_eq_of_padded (h : Padded (fieldNames (some t)) (defaults (some t)) a b) :
    t.source? (.obj b) = t.source? (.obj a) := by
  have hnodes : "nodes" ∈ t.fieldNames → (Json.obj b).setting Json.strings? [] "nodes" =
      (Json.obj a).setting Json.strings? [] "nodes" := by
    intro hkey
    refine h.setting_eq (mem_fieldNames_of_type hkey) ?_
    cases t <;> simp [defaults, SourceType.defaults] <;> rfl
  have honMasters : "master_nodes" ∈ t.fieldNames →
      (Json.obj b).setting Json.bool? false "master_nodes" =
        (Json.obj a).setting Json.bool? false "master_nodes" := by
    intro hkey
    refine h.setting_eq (mem_fieldNames_of_type hkey) ?_
    cases t <;> simp [defaults, SourceType.defaults] <;> rfl
  cases t with
  | auto =>
    have hlabels : (Json.obj b).setting (Json.dictOf? Json.str?) ∅ "labels" =
        (Json.obj a).setting (Json.dictOf? Json.str?) ∅ "labels" := by
      refine h.setting_eq (by decide) ?_
      simp [defaults, SourceType.defaults]
      rfl
    simp only [SourceType.source?, hlabels, hnodes (by decide), honMasters (by decide)]
  | label =>
    have hlabels : (Json.obj b).required (Json.dictOf? Json.str?) "labels" =
        (Json.obj a).required (Json.dictOf? Json.str?) "labels" :=
      h.required_eq (by decide) (by decide)
    simp only [SourceType.source?, hlabels]
  | staticPod | bare => simp only [SourceType.source?, hnodes (by decide), honMasters (by decide)]

theorem ofJson?_eq_of_padded
    (h : Padded (fieldNames (typeOf format a)) (defaults (typeOf format a)) a b) :
    ofJson? format (.obj b) = ofJson? format (.obj a) := by
  have hnotDefault : ∀ key, key ∈ ["name", "type"] →
      key ∉ (defaults (typeOf format a)).map (·.1) := by
    cases typeOf format a with
    | none => decide
    | some t => cases t <;> decide
  have hname : (Json.obj b).required Json.str? "name" = (Json.obj a).required Json.str? "name" :=
    h.required_eq (by simp [fieldNames]) (hnotDefault _ (by decide))
  have hns : (Json.obj b).setting Json.str? defaultNamespace "namespace" =
      (Json.obj a).setting Json.str? defaultNamespace "namespace" := by
    refine h.setting_eq (by simp [fieldNames]) ?_
    cases typeOf format a with
    | none => simp [defaults, Json.str?]
    | some t => cases t <;> simp [defaults, SourceType.defaults, Json.str?]
  have htype : typeOf format b = typeOf format a :=
    h.required_eq (by simp [fieldNames]) (hnotDefault _ (by decide))
  have hsource : Source.ofJson? format (.obj b) = Source.ofJson? format (.obj a) := by
    rw [Source.ofJson?_eq_bind, Source.ofJson?_eq_bind, ← typeOf, ← typeOf, htype]
    cases ht : typeOf format a with
    | none => rfl
    | some t =>
      rw [ht] at h
      exact source?_eq_of_padded h
  unfold ofJson?
  rw [hname, hns, hsource]
  rfl

/-- What spoils a component: a field of its type is missing without a default or has no value, or
its type is no type. -/
inductive Flawed (format : ConfigFormat) (fields : List (String × Json)) : Prop where
  | unnamed (missing : lookup "name" fields = none)
  | untyped (missing : lookup "type" fields = none)
  | unknownType (x : Json) (found : lookup "type" fields = some x)
      (noName : ∀ t : SourceType, x ≠ .str t.name) (noPlace : ∀ i : Fin 4, x ≠ .int i.val)
  | unlabelled (ofLabels : typeOf format fields = some .label)
      (missing : lookup "labels" fields = none)
  | null (key : String) (mem : key ∈ fieldNames (typeOf format fields))
      (found : lookup key fields = some .null)

theorem ofJson?_eq_none_of_source {fields : List (String × Json)}
    (h : ∀ t, typeOf format fields = some t → t.source? (.obj fields) = none) :
    ofJson? format (.obj fields) = none := by
  have hsource : Source.ofJson? format (.obj fields) = none := by
    rw [Source.ofJson?_eq_bind, ← typeOf]
    exact Option.bind_eq_none_iff.mpr h
  unfold ofJson?
  rw [hsource]
  simp

theorem ofJson?_eq_none_of_typeOf {fields : List (String × Json)}
    (h : typeOf format fields = none) : ofJson? format (.obj fields) = none := by
  apply ofJson?_eq_none_of_source
  intro t ht
  rw [h] at ht
  cases ht

theorem ofJson?_eq_none_of_name {fields : List (String × Json)}
    (h : (Json.obj fields).required Json.str? "name" = none) :
    ofJson? format (.obj fields) = none := by
  unfold ofJson?
  rw [h]
  rfl

theorem ofJson?_eq_none_of_flawed {fields : List (String × Json)} (h : Flawed format fields) :
    ofJson? format (.obj fields) = none := by
  cases h with
  | unnamed missing => exact ofJson?_eq_none_of_name (Json.required_of_omitted missing)
  | untyped missing => exact ofJson?_eq_none_of_typeOf (Json.required_of_omitted missing)
  | unknownType x found noName noPlace =>
    have hnone := SourceType.ofJson?_eq_none format noName noPlace
    exact ofJson?_eq_none_of_typeOf (Json.required_eq_none found hnone)
  | unlabelled ofLabels missing =>
    apply ofJson?_eq_none_of_source
    intro t ht
    cases ofLabels.symm.trans ht
    simp [SourceType.source?, Json.required_of_omitted missing]
  | null key mem found =>
    rcases List.mem_append.mp mem with hown | hsetting
    · simp only [List.mem_cons, List.not_mem_nil, or_false] at hown
      rcases hown with rfl | rfl | rfl
      · exact ofJson?_eq_none_of_name (Json.required_eq_none found rfl)
      · have hns : (Json.obj fields).setting Json.str? defaultNamespace "namespace" = none :=
          Json.setting_eq_none found rfl
        simp [ofJson?, hns]
      · exact ofJson?_eq_none_of_typeOf (Json.required_eq_none found rfl)
    · apply ofJson?_eq_none_of_source
      intro t ht
      rw [ht] at hsetting
      exact SourceType.source?_eq_none_of_null hsetting found

end ComponentConfig

namespace BridgeConfig

variable {a b : List (String × Json)}

def typeOf (fields : List (String × Json)) : Option String :=
  (Json.obj fields).required Json.str? "type"

def fieldNames (type? : Option String) : List String :=
  "type" :: if type? = some "proxy" then ["namespace", "agent"] else []

def defaults (type? : Option String) : List (String × Json) :=
  if type? = some "proxy" then
    [("namespace", .str defaultNamespace), ("agent", .str defaultAgent)]
  else []

theorem ofJson?_eq_bind (fields : List (String × Json)) :
    ofJson? (.obj fields) = (typeOf fields).bind (ofSettings? · (.obj fields)) := rfl

theorem ofJson?_eq_of_padded (h : Padded (fieldNames (typeOf a)) (defaults (typeOf a)) a b) :
    ofJson? (.obj b) = ofJson? (.obj a) := by
  have htype : typeOf b = typeOf a := by
    refine h.required_eq List.mem_cons_self ?_
    unfold defaults
    split <;> decide
  rw [ofJson?_eq_bind, ofJson?_eq_bind, htype]
  cases ha : typeOf a with
  | none => rfl
  | some type =>
    rw [ha] at h
    rw [Option.bind_some, Option.bind_some]
    by_cases hproxy : type = "proxy"
    · subst hproxy
      have hns : (Json.obj b).setting Json.str? defaultNamespace "namespace" =
          (Json.obj a).setting Json.str? defaultNamespace "namespace" :=
        h.setting_eq (by decide) (by simp [defaults, Json.str?])
      have hagent : (Json.obj b).setting Json.str? defaultAgent "agent" =
          (Json.obj a).setting Json.str? defaultAgent "agent" :=
        h.setting_eq (by decide) (by simp [defaults, Json.str?])
      simp [ofSettings?, Json.settings?, hns, hagent]
    · simp [ofSettings?, Json.settings?, hproxy]

inductive Flawed (fields : List (String × Json)) : Prop where
  | untyped (missing : lookup "type" fields = none)
  | unknownType (x : Json) (found : lookup "type" fields = some x)
      (noName : ∀ name ∈ ["proxy", "none"], x ≠ .str name)
  | null (key : String) (mem : key ∈ fieldNames (typeOf fields))
      (found : lookup key fields = some .null)

theorem ofJson?_eq_none_of_flawed {fields : List (String × Json)} (h : Flawed fields) :
    ofJson? (.obj fields) = none := by
  rw [ofJson?_eq_bind]
  cases h with
  | untyped missing =>
    unfold typeOf
    rw [Json.required_of_omitted missing, Option.bind_none]
  | unknownType x found noName =>
    refine Option.bind_eq_none_iff.mpr ?_
    intro type htype
    have hx : x = .str type := by
      unfold typeOf Json.required Json.field? at htype
      dsimp only at htype
      rw [found] at htype
      cases x <;> cases htype
      rfl
    have hproxy : type ≠ "proxy" := fun heq => noName "proxy" (by decide) (by rw [hx, heq])
    have hnone : type ≠ "none" := fun heq => noName "none" (by decide) (by rw [hx, heq])
    simp [ofSettings?, hproxy, hnone]
  | null key mem found =>
    refine Option.bind_eq_none_iff.mpr ?_
    intro type htype
    rw [htype] at mem
    rcases List.mem_cons.mp mem with rfl | hsetting
    · unfold typeOf at htype
      rw [Json.required_eq_none found rfl] at htype
      cases htype
    · by_cases hproxy : type = "proxy"
      · subst hproxy
        have hkey : key = "namespace" ∨ key = "agent" := by simpa using hsetting
        rcases hkey with rfl | rfl
        · have hns : (Json.obj fields).setting Json.str? defaultNamespace "namespace" = none :=
            Json.setting_eq_none found rfl
          simp [ofSettings?, Json.settings?, hns]
        · have hagent : (Json.obj fields).setting Json.str? defaultAgent "agent" = none :=
            Json.setting_eq_none found rfl
          simp [ofSettings?, Json.settings?, hagent]
      · simp [hproxy] at hsetting

end BridgeConfig

namespace SurveyConfig

variable {format : ConfigFormat} {a b : List (String × Json)}

def defaults : List (String × Json) :=
  [("bridge", standard.bridge.toJson),
    ("components", .ofList ComponentConfig.toJson standard.components),
    ("tolerate_component_failures", .bool standard.tolerateFailures),
    ("machine_concurrency", .ofNat standard.concurrency.toNat)]

/-- One field more in a document, in its bridge or in one of its components: one that the object
does not have, or one that was omitted, with its default. -/
inductive Elaborates (format : ConfigFormat) :
    List (String × Json) → List (String × Json) → Prop where
  | top {a b : List (String × Json)} (h : Padded fieldNames defaults a b) :
      Elaborates format a b
  | bridge (before after : List (String × Json)) {a b : List (String × Json)}
      (h : Padded (BridgeConfig.fieldNames (BridgeConfig.typeOf a))
        (BridgeConfig.defaults (BridgeConfig.typeOf a)) a b) :
      Elaborates format (before ++ ("bridge", .obj a) :: after)
        (before ++ ("bridge", .obj b) :: after)
  | component (before after : List (String × Json)) (first last : List Json)
      {a b : List (String × Json)}
      (h : Padded (ComponentConfig.fieldNames (ComponentConfig.typeOf format a))
        (ComponentConfig.defaults (ComponentConfig.typeOf format a)) a b) :
      Elaborates format (before ++ ("components", .arr (first ++ .obj a :: last)) :: after)
        (before ++ ("components", .arr (first ++ .obj b :: last)) :: after)

theorem Elaborates.setting_eq {α : Type} {read : Json → Option α} {default : α} {key : String}
    (h : Elaborates format a b) (hkey : key ∈ fieldNames)
    (hdefault : ∀ x, (key, x) ∈ defaults → read x = some default)
    (hbridge : "bridge" = key → ∀ x y, BridgeConfig.ofJson? x = BridgeConfig.ofJson? y →
      read x = read y)
    (hcomponents : "components" = key → ∀ first last x y,
      ComponentConfig.ofJson? format x = ComponentConfig.ofJson? format y →
        read (.arr (first ++ x :: last)) = read (.arr (first ++ y :: last))) :
    (Json.obj b).setting read default key = (Json.obj a).setting read default key := by
  cases h with
  | top h => exact h.setting_eq hkey hdefault
  | bridge before after h =>
    refine Json.setting_replace (fun hname => ?_) before after
    exact hbridge hname _ _ (BridgeConfig.ofJson?_eq_of_padded h)
  | component before after first last h =>
    refine Json.setting_replace (fun hname => ?_) before after
    exact hcomponents hname _ _ _ _ (ComponentConfig.ofJson?_eq_of_padded h)

theorem Elaborates.setting_eq_of_ne {α : Type} {read : Json → Option α} {default : α}
    {key : String} (h : Elaborates format a b) (hkey : key ∈ fieldNames)
    (hbridge : "bridge" ≠ key) (hcomponents : "components" ≠ key)
    (hdefault : ∀ x, (key, x) ∈ defaults → read x = some default) :
    (Json.obj b).setting read default key = (Json.obj a).setting read default key :=
  h.setting_eq hkey hdefault (fun hname => absurd hname hbridge)
    (fun hname => absurd hname hcomponents)

theorem ofJson?_eq_of_elaborates (h : Elaborates format a b) :
    ofJson? format (.obj b) = ofJson? format (.obj a) := by
  have hbridge : (Json.obj b).setting BridgeConfig.ofJson? standard.bridge "bridge" =
      (Json.obj a).setting BridgeConfig.ofJson? standard.bridge "bridge" := by
    refine h.setting_eq (by decide) ?_ (fun _ _ _ heq => heq) (fun hname => by simp at hname)
    simp [defaults, BridgeConfig.readsBack.read_write]
  have hcomponents : (Json.obj b).setting (Json.listOf? (ComponentConfig.ofJson? format))
        standard.components "components" =
      (Json.obj a).setting (Json.listOf? (ComponentConfig.ofJson? format))
        standard.components "components" := by
    refine h.setting_eq (by decide) ?_ (fun hname => by simp at hname) ?_
    · have hread := Json.readsBack_ofList (ComponentConfig.readsBack format)
      simp [defaults, hread.read_write]
    · intro _ first last x y heq
      exact Json.listOf?_replace heq first last
  have htolerate : (Json.obj b).setting Json.bool? standard.tolerateFailures
        "tolerate_component_failures" =
      (Json.obj a).setting Json.bool? standard.tolerateFailures "tolerate_component_failures" := by
    refine h.setting_eq_of_ne (by decide) (by decide) (by decide) ?_
    simp [defaults, Json.bool?]
  have hconcurrency : (Json.obj b).setting Json.word? standard.concurrency "machine_concurrency" =
      (Json.obj a).setting Json.word? standard.concurrency "machine_concurrency" := by
    refine h.setting_eq_of_ne (by decide) (by decide) (by decide) ?_
    simp [defaults, Json.readsBack_word.read_write]
  unfold ofJson?
  simp [Json.settings?, hbridge, hcomponents, htolerate, hconcurrency]

/-- What spoils a document: a field that is `null`, a bridge or a component that is spoilt. -/
inductive Flawed (format : ConfigFormat) (fields : List (String × Json)) : Prop where
  | null (key : String) (mem : key ∈ fieldNames) (found : lookup key fields = some .null)
  | bridge (b : List (String × Json)) (found : lookup "bridge" fields = some (.obj b))
      (flawed : BridgeConfig.Flawed b)
  | component (items : List Json) (c : List (String × Json))
      (found : lookup "components" fields = some (.arr items)) (mem : .obj c ∈ items)
      (flawed : ComponentConfig.Flawed format c)

theorem ofJson?_eq_none_of_bridge {fields : List (String × Json)} {x : Json}
    (hfound : lookup "bridge" fields = some x) (hx : BridgeConfig.ofJson? x = none) :
    ofJson? format (.obj fields) = none := by
  have hbridge : (Json.obj fields).setting BridgeConfig.ofJson? standard.bridge "bridge" = none :=
    Json.setting_eq_none hfound hx
  simp [ofJson?, Json.settings?, hbridge]

theorem ofJson?_eq_none_of_components {fields : List (String × Json)} {x : Json}
    (hfound : lookup "components" fields = some x)
    (hx : x.listOf? (ComponentConfig.ofJson? format) = none) :
    ofJson? format (.obj fields) = none := by
  have hcomponents : (Json.obj fields).setting (Json.listOf? (ComponentConfig.ofJson? format))
      standard.components "components" = none :=
    Json.setting_eq_none hfound hx
  simp [ofJson?, Json.settings?, hcomponents]

theorem ofJson?_eq_none_of_flawed {fields : List (String × Json)} (h : Flawed format fields) :
    ofJson? format (.obj fields) = none := by
  cases h with
  | null key mem found =>
    simp only [fieldNames, List.mem_cons, List.not_mem_nil, or_false] at mem
    rcases mem with rfl | rfl | rfl | rfl
    · exact ofJson?_eq_none_of_bridge found rfl
    · exact ofJson?_eq_none_of_components found rfl
    · have htolerate : (Json.obj fields).setting Json.bool? standard.tolerateFailures
          "tolerate_component_failures" = none := Json.setting_eq_none found rfl
      simp [ofJson?, Json.settings?, htolerate]
    · have hconcurrency : (Json.obj fields).setting Json.word? standard.concurrency
          "machine_concurrency" = none := Json.setting_eq_none found rfl
      simp [ofJson?, Json.settings?, hconcurrency]
  | bridge b found flawed =>
    exact ofJson?_eq_none_of_bridge found (BridgeConfig.ofJson?_eq_none_of_flawed flawed)
  | component items c found mem flawed =>
    have hc := ComponentConfig.ofJson?_eq_none_of_flawed flawed
    exact ofJson?_eq_none_of_components found (Json.listOf?_eq_none_of_mem mem hc)

/-- Reading goes by the fields of the types that are chosen, and needs all of them. -/
structure ReadsByType (format : ConfigFormat) : Prop where
  elaborated : ∀ a b, Relation.ReflTransGen (Elaborates format) a b →
    ofJson? format (.obj b) = ofJson? format (.obj a)
  flawed : ∀ fields, Flawed format fields → ofJson? format (.obj fields) = none

/-- Fields that a type does not have and defaults that are spelled out may be put into a document
in any number, and anything that its types do have must be there in full. -/
theorem reads_by_type (format : ConfigFormat) : ReadsByType format where
  elaborated := by
    intro a b h
    induction h with
    | refl => rfl
    | tail _ hstep ih => rw [ofJson?_eq_of_elaborates hstep, ih]
  flawed := fun _ => ofJson?_eq_none_of_flawed

/-- A component may give its type by number, which is none of the names that types have. -/
theorem reads_place_as_type :
    lookup "type" [("name", .str "etcd"), ("type", .int 0)] = some (.int 0) ∧
      (∀ t : SourceType, Json.int 0 ≠ .str t.name) ∧
      ofJson? .json (.obj [("components",
          .arr [.obj [("name", .str "etcd"), ("type", .int 0)]])]) =
        some { standard with components := [⟨"etcd", defaultNamespace, .auto ∅ [] false⟩] } :=
  ⟨rfl, fun _ => Json.noConfusion, by decide +kernel⟩

end SurveyConfig

end ClusterSurvey
