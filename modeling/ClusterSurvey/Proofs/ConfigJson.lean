import ClusterSurvey.Config.Json
import ClusterSurvey.Proofs.JsonText
import ClusterSurvey.Proofs.ObjectJson

/-! Configurations written as JSON and read back. Every part of a configuration has a reader that
undoes its writer, and what is written is plain enough for its text to be read back as well
(`SurveyConfig.json_round_trip`). -/
namespace ClusterSurvey

namespace Json

variable {α : Type} {read : Json → Option α} {write : α → Json} {fields : List (String × Json)}
  {key : String} {value : Json} {a default : α}

theorem lookup_eq_none_iff : lookup key fields = none ↔ key ∉ fields.map (·.1) := by
  induction fields with
  | nil => simp [lookup]
  | cons f rest ih =>
    obtain ⟨name, v⟩ := f
    rw [lookup]
    cases hrest : lookup key rest with
    | none => simp [ih.mp hrest, eq_comm]
    | some w =>
      have hmem : key ∈ rest.map (·.1) := by
        by_contra hnot
        rw [ih.mpr hnot] at hrest
        cases hrest
      simp [hmem]

theorem lookup_of_mem (hn : (fields.map (·.1)).Nodup) (h : (key, value) ∈ fields) :
    lookup key fields = some value := by
  induction fields with
  | nil => cases h
  | cons f rest ih =>
    rw [List.map_cons, List.nodup_cons] at hn
    rcases List.mem_cons.mp h with rfl | hrest
    · rw [lookup, lookup_eq_none_iff.mpr hn.1]
      simp
    · rw [lookup, ih hn.2 hrest]

theorem setting_of_mem (h : ReadsBack read write) (hn : (fields.map (·.1)).Nodup)
    (hmem : (key, write a) ∈ fields) : (obj fields).setting read default key = some a := by
  unfold setting field?
  dsimp only
  rw [lookup_of_mem hn hmem]
  exact h.read_write a

theorem required_of_mem (h : ReadsBack read write) (hn : (fields.map (·.1)).Nodup)
    (hmem : (key, write a) ∈ fields) : (obj fields).required read key = some a := by
  unfold required field?
  dsimp only
  rw [lookup_of_mem hn hmem]
  exact h.read_write a

theorem readsBack_ofList (h : ReadsBack read write) : ReadsBack (listOf? read) (ofList write) where
  read_write := by
    intro l
    have hitems : (l.map write).mapM read = some l := by
      induction l with
      | nil => rfl
      | cons a rest ih => simp [List.mapM_cons, h.read_write, ih]
    exact hitems
  ne_null := fun _ => Json.noConfusion

theorem readsBack_ofStrings : ReadsBack strings? ofStrings := readsBack_ofList readsBack_str

theorem readsBack_word : ReadsBack word? fun n => ofNat n.toNat where
  read_write := by
    intro n
    have hbelow : (ofNat n.toNat).natBelow? UInt64.size = some n.toNat := if_pos n.toNat_lt_size
    unfold word?
    rw [hbelow, Option.map_some, UInt64.ofNat_toNat]
  ne_null := fun _ => Json.noConfusion

end Json

namespace SourceType

theorem ofJson?_str_name (format : ConfigFormat) (t : SourceType) :
    ofJson? format (.str t.name) = some t := by
  cases t <;> rfl

def fieldNames : SourceType → List String
  | auto => ["labels", "nodes", "master_nodes"]
  | label => ["labels"]
  | staticPod | bare => ["nodes", "master_nodes"]

def source? (t : SourceType) (j : Json) : Option Source := do
  let nodes := j.setting Json.strings? [] "nodes"
  let onMasters := j.setting Json.bool? false "master_nodes"
  match t with
  | auto => return .auto (← j.setting (Json.dictOf? Json.str?) ∅ "labels") (← nodes) (← onMasters)
  | label => return .label (← j.required (Json.dictOf? Json.str?) "labels")
  | staticPod => return .staticPod (← nodes) (← onMasters)
  | bare => return .bare (← nodes) (← onMasters)

end SourceType

namespace Source

def type : Source → SourceType
  | auto .. => .auto
  | label .. => .label
  | staticPod .. => .staticPod
  | bare .. => .bare

theorem typeName_eq (s : Source) : s.typeName = s.type.name := by
  cases s <;> rfl

theorem map_fst_jsonFields (s : Source) : s.jsonFields.map (·.1) = "type" :: s.type.fieldNames := by
  cases s <;> rfl

theorem ofJson?_eq_bind (format : ConfigFormat) (j : Json) :
    ofJson? format j =
      (j.required (SourceType.ofJson? format) "type").bind fun t => t.source? j := rfl

theorem ofJson?_of_subset (format : ConfigFormat) {s : Source} {fields : List (String × Json)}
    (hn : (fields.map (·.1)).Nodup) (h : s.jsonFields ⊆ fields) :
    ofJson? format (.obj fields) = some s := by
  have htexts := Json.readsBack_ofDict Json.readsBack_str
  have htype : (Json.obj fields).required (SourceType.ofJson? format) "type" = some s.type := by
    unfold Json.required Json.field?
    dsimp only
    rw [Json.lookup_of_mem hn (h List.mem_cons_self), s.typeName_eq]
    exact SourceType.ofJson?_str_name format s.type
  have hnodes : ∀ nodes, ("nodes", .ofStrings nodes) ∈ s.jsonFields →
      (Json.obj fields).setting Json.strings? [] "nodes" = some nodes :=
    fun _ hmem => Json.setting_of_mem Json.readsBack_ofStrings hn (h hmem)
  have honMasters : ∀ onMasters, ("master_nodes", .bool onMasters) ∈ s.jsonFields →
      (Json.obj fields).setting Json.bool? false "master_nodes" = some onMasters :=
    fun _ hmem => Json.setting_of_mem Json.readsBack_bool hn (h hmem)
  rw [ofJson?_eq_bind, htype, Option.bind_some]
  cases s with
  | auto labels nodes onMasters =>
    have hlabels : (Json.obj fields).setting (Json.dictOf? Json.str?) ∅ "labels" = some labels :=
      Json.setting_of_mem htexts hn (h (by simp [jsonFields]))
    rw [type, SourceType.source?, hlabels, hnodes nodes (by simp [jsonFields]),
      honMasters onMasters (by simp [jsonFields])]
    rfl
  | label labels =>
    have hlabels : (Json.obj fields).required (Json.dictOf? Json.str?) "labels" = some labels :=
      Json.required_of_mem htexts hn (h (by simp [jsonFields]))
    rw [type, SourceType.source?, hlabels]
    rfl
  | staticPod nodes onMasters | bare nodes onMasters =>
    rw [type, SourceType.source?, hnodes nodes (by simp [jsonFields]),
      honMasters onMasters (by simp [jsonFields])]
    rfl

end Source

namespace ComponentConfig

def fieldNames (type? : Option SourceType) : List String :=
  ["name", "namespace", "type"] ++ type?.elim [] SourceType.fieldNames

theorem nodup_fieldNames (type? : Option SourceType) : (fieldNames type?).Nodup := by
  cases type? with
  | none => decide
  | some t => cases t <;> decide

theorem map_fst_fields (c : ComponentConfig) :
    ([("name", Json.str c.name), ("namespace", .str c.ns)] ++ c.source.jsonFields).map (·.1) =
      fieldNames (some c.source.type) := by
  rw [List.map_append, c.source.map_fst_jsonFields]
  rfl

theorem readsBack (format : ConfigFormat) : Json.ReadsBack (ofJson? format) toJson where
  read_write := by
    intro c
    have hn := nodup_fieldNames (some c.source.type)
    rw [← map_fst_fields] at hn
    have hname : c.toJson.required Json.str? "name" = some c.name :=
      Json.required_of_mem Json.readsBack_str hn (by simp)
    have hns : c.toJson.setting Json.str? defaultNamespace "namespace" = some c.ns :=
      Json.setting_of_mem Json.readsBack_str hn (by simp)
    have hsource : Source.ofJson? format c.toJson = some c.source :=
      Source.ofJson?_of_subset format hn (List.subset_append_right _ _)
    unfold ofJson?
    rw [hname, hns, hsource]
    rfl
  ne_null := fun _ => Json.noConfusion

end ComponentConfig

theorem BridgeConfig.readsBack : Json.ReadsBack ofJson? toJson where
  read_write := by
    intro b
    cases b <;> rfl
  ne_null := by
    intro b
    cases b <;> exact Json.noConfusion

theorem SurveyConfig.readsBack (format : ConfigFormat) :
    Json.ReadsBack (ofJson? format) toJson where
  read_write := by
    intro c
    have hn : fieldNames.Nodup := by decide
    have hbridge : c.toJson.setting BridgeConfig.ofJson? standard.bridge "bridge" = some c.bridge :=
      Json.setting_of_mem BridgeConfig.readsBack hn (by simp)
    have hcomponents : c.toJson.setting (Json.listOf? (ComponentConfig.ofJson? format))
        standard.components "components" = some c.components :=
      Json.setting_of_mem (Json.readsBack_ofList (ComponentConfig.readsBack format)) hn (by simp)
    have htolerate : c.toJson.setting Json.bool? standard.tolerateFailures
        "tolerate_component_failures" = some c.tolerateFailures :=
      Json.setting_of_mem Json.readsBack_bool hn (by simp)
    have hconcurrency : c.toJson.setting Json.word? standard.concurrency "machine_concurrency" =
        some c.concurrency :=
      Json.setting_of_mem Json.readsBack_word hn (by simp)
    have hsettings : c.toJson.settings? fieldNames = some c.toJson := rfl
    unfold ofJson?
    rw [hsettings]
    simp [hbridge, hcomponents, htolerate, hconcurrency]
  ne_null := fun _ => Json.noConfusion

namespace Json

variable {α : Type} {write : α → Json} {depth : Nat}

theorem Plain.ofList (h : ∀ a, Plain depth (write a)) (l : List α) :
    Plain (depth + 1) (.ofList write l) := by
  refine .arr fun j hj => ?_
  obtain ⟨a, _, rfl⟩ := List.mem_map.mp hj
  exact h a

theorem Plain.ofDict (h : ∀ a, Plain depth (write a)) (d : Dict α) :
    Plain (depth + 1) (.ofDict write d) := by
  refine .obj fun f hf => ?_
  obtain ⟨e, _, rfl⟩ := List.mem_map.mp hf
  exact h e.2

theorem plain_word (n : UInt64) : Plain depth (.ofNat n.toNat) :=
  .int (by omega) (Int.ofNat_lt.mpr n.toNat_lt_size)

end Json

section Plain

open Json (Plain)

variable {depth : Nat}

theorem Source.plain_jsonFields (s : Source) : ∀ f ∈ s.jsonFields, Plain (depth + 1) f.2 := by
  have hlabels : ∀ labels : Dict String, Plain (depth + 1) (.ofDict .str labels) := .ofDict .str
  have hnodes : ∀ nodes : List String, Plain (depth + 1) (.ofStrings nodes) := .ofList .str
  cases s <;> simp [jsonFields, hlabels, hnodes, Plain.str, Plain.bool]

theorem ComponentConfig.plain_toJson (c : ComponentConfig) : Plain (depth + 2) c.toJson := by
  refine .obj fun f hf => ?_
  rcases List.mem_append.mp hf with hf | hf
  · simp only [List.mem_cons, List.not_mem_nil, or_false] at hf
    rcases hf with rfl | rfl <;> exact .str _
  · exact c.source.plain_jsonFields f hf

theorem BridgeConfig.plain_toJson (b : BridgeConfig) : Plain (depth + 1) b.toJson := by
  cases b <;> exact .obj (by simp [Plain.str])

theorem SurveyConfig.plain_toJson (c : SurveyConfig) : Plain (depth + 4) c.toJson := by
  have hcomponents : Plain (depth + 3) (.ofList ComponentConfig.toJson c.components) :=
    .ofList ComponentConfig.plain_toJson c.components
  exact .obj (by simp [hcomponents, c.bridge.plain_toJson, Json.plain_word, Plain.bool])

end Plain

namespace SurveyConfig

def jsonText (c : SurveyConfig) : String := c.toJson.compact

def ofJsonText? (text : String) : Option SurveyConfig :=
  (Json.parse? text).bind (ofJson? .json)

theorem ofJsonText?_jsonText (c : SurveyConfig) : ofJsonText? c.jsonText = some c := by
  rw [ofJsonText?, jsonText, Json.parse?_compact c.plain_toJson]
  exact (readsBack .json).read_write c

/-- A configuration is read back from the value and from the text that is written for it. What is
read of any value is written so that the same is read, and then written, again. -/
theorem json_round_trip :
    (∀ c : SurveyConfig, ofJson? .json c.toJson = some c ∧ ofJsonText? c.jsonText = some c) ∧
      ∀ j : Json,
        (ofJson? .json j).bind (fun c => ofJson? .json c.toJson) = ofJson? .json j ∧
        (ofJson? .json j).bind (fun c => ofJsonText? c.jsonText) = ofJson? .json j ∧
        ((ofJson? .json j).bind fun c => ofJson? .json c.toJson).map toJson =
          (ofJson? .json j).map toJson := by
  have hvalue := (readsBack .json).read_write
  refine ⟨fun c => ⟨hvalue c, ofJsonText?_jsonText c⟩, fun j => ?_⟩
  cases ofJson? .json j with
  | none => exact ⟨rfl, rfl, rfl⟩
  | some c => exact ⟨hvalue c, ofJsonText?_jsonText c, congrArg (Option.map toJson) (hvalue c)⟩

end SurveyConfig

end ClusterSurvey
