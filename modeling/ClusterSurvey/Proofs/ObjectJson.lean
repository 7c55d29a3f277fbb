import ClusterSurvey.Object.Json
import ClusterSurvey.Proofs.Lookup

/-! Reading back what was written. A field is found under its name among fields with different
names, and what a reader makes of it is what the writer was given (`Json.optional_ofFields_of_mem`);
a name that no field has gives nothing. -/
namespace ClusterSurvey

namespace Json

variable {α : Type} {read : Json → Option α} {write : α → Json}
  {fields : List (String × Option Json)} {key : String} {value? : Option Json}

/-- A reader of what a writer writes, which is never `null`. -/
structure ReadsBack (read : Json → Option α) (write : α → Json) : Prop where
  read_write : ∀ a, read (write a) = some a
  ne_null : ∀ a, write a ≠ .null

theorem readsBack_str : ReadsBack str? .str := ⟨fun _ => rfl, fun _ => Json.noConfusion⟩

theorem readsBack_bool : ReadsBack bool? .bool := ⟨fun _ => rfl, fun _ => Json.noConfusion⟩

theorem readsBack_ofDict (h : ReadsBack read write) :
    ReadsBack (dictOf? read) (ofDict write) where
  read_write := by
    intro d
    have hentries : ∀ entries : List (String × α),
        (entries.map fun e => (e.1, write e.2)).mapM
          (fun e => (read e.2).map fun v => (e.1, v)) = some entries := by
      intro entries
      induction entries with
      | nil => rfl
      | cons e rest ih => simp [List.mapM_cons, h.read_write, ih]
    unfold dictOf? ofDict
    simp [obj?, hentries, Dict.ofList_entries]
  ne_null := fun _ => Json.noConfusion

theorem nullable_of_ne_null (read : Json → Option α) {j : Json} (h : j ≠ .null) :
    nullable read j = (read j).map some := by
  cases j with
  | null => exact absurd rfl h
  | _ => rfl

theorem fieldsNamed_ofFields_cons (name : String) (value? : Option Json)
    (rest : List (String × Option Json)) (key : String) :
    (ofFields ((name, value?) :: rest)).fieldsNamed key =
      (if name = key then value?.toList else []) ++ (ofFields rest).fieldsNamed key := by
  unfold ofFields fieldsNamed
  cases value? with
  | none => simp
  | some value => by_cases hname : name = key <;> simp [hname]

theorem fieldsNamed_ofFields_of_notMem (h : key ∉ fields.map (·.1)) :
    (ofFields fields).fieldsNamed key = [] := by
  induction fields with
  | nil => rfl
  | cons f rest ih =>
    rw [List.map_cons, List.mem_cons, not_or] at h
    rw [fieldsNamed_ofFields_cons, if_neg (Ne.symm h.1), ih h.2]
    rfl

theorem fieldsNamed_ofFields_of_mem (hn : (fields.map (·.1)).Nodup) (h : (key, value?) ∈ fields) :
    (ofFields fields).fieldsNamed key = value?.toList := by
  induction fields with
  | nil => cases h
  | cons f rest ih =>
    rw [List.map_cons, List.nodup_cons] at hn
    rw [fieldsNamed_ofFields_cons]
    -- no later field has the name of the first
    rcases List.mem_cons.mp h with rfl | h
    · rw [fieldsNamed_ofFields_of_notMem hn.1, if_pos rfl, List.append_nil]
    · have hne : f.1 ≠ key := fun heq => hn.1 (heq ▸ List.mem_map_of_mem h)
      rw [if_neg hne]
      exact ih hn.2 h

@[simp] theorem mem_inOrder {f : String × Option Json} : f ∈ inOrder fields ↔ f ∈ fields :=
  List.mem_mergeSort

theorem inOrder_perm (fields : List (String × Option Json)) : (inOrder fields).Perm fields :=
  List.mergeSort_perm _ _

theorem fieldsNamed_ofFields_of_perm {others : List (String × Option Json)}
    (hperm : fields.Perm others) (hn : (fields.map (·.1)).Nodup) (key : String) :
    (ofFields fields).fieldsNamed key = (ofFields others).fieldsNamed key := by
  by_cases hkey : key ∈ fields.map (·.1)
  · obtain ⟨⟨name, value?⟩, hf, rfl⟩ := List.mem_map.mp hkey
    have hn' : (others.map (·.1)).Nodup := (hperm.map _).nodup_iff.mp hn
    rw [fieldsNamed_ofFields_of_mem hn hf,
      fieldsNamed_ofFields_of_mem hn' (hperm.mem_iff.mp hf)]
  · have hkey' : key ∉ others.map (·.1) := fun h => hkey ((hperm.map _).mem_iff.mpr h)
    rw [fieldsNamed_ofFields_of_notMem hkey, fieldsNamed_ofFields_of_notMem hkey']

theorem fieldsNamed_obj_of_mem {fields : List (String × Json)} {value : Json}
    (hn : (fields.map (·.1)).Nodup) (h : (key, value) ∈ fields) :
    (obj fields).fieldsNamed key = [value] := by
  have hfields : obj fields = ofFields (fields.map fun f => (f.1, some f.2)) := by
    simp [ofFields, List.filterMap_map]
  have hnames : ((fields.map fun f => (f.1, some f.2)).map (·.1)).Nodup := by
    rwa [List.map_map]
  rw [hfields]
  exact fieldsNamed_ofFields_of_mem hnames (List.mem_map_of_mem h)

theorem agrees_ofFields_of_mem {text : String} (hn : (fields.map (·.1)).Nodup)
    (h : (key, some (.str text)) ∈ fields) : (ofFields fields).agrees key text = true := by
  unfold agrees
  rw [fieldsNamed_ofFields_of_mem hn h]
  simp [str?]

theorem optional_ofFields_of_mem (hread : ReadsBack read write) {a? : Option α}
    (hn : (fields.map (·.1)).Nodup) (h : (key, a?.map write) ∈ fields) :
    (ofFields fields).optional read key = some a? := by
  unfold optional
  rw [fieldsNamed_ofFields_of_mem hn h]
  cases a? with
  | none => rfl
  | some a =>
    have hnullable : nullable read (write a) = some (some a) := by
      rw [nullable_of_ne_null read (hread.ne_null a), hread.read_write]
      rfl
    simp [List.mapM_cons, hnullable]

end Json

theorem PassedValue.readsBack : Json.ReadsBack ofJson? Subtype.val where
  read_write v := dif_pos v.property
  ne_null v hnull := by
    have hpassable := v.property
    rw [hnull] at hpassable
    cases hpassable

namespace PassedFields

variable {table : FieldTable}

@[simp] theorem map_fst_fields (f : PassedFields table) : f.fields.map (·.1) = table.names := by
  unfold fields
  rw [List.map_map]
  exact List.attach_map_subtype_val _

theorem mem_fields (f : PassedFields table) (hleast : table.least = [])
    (name : {name : String // name ∈ table.names}) :
    (name.val, (f name).map (·.val)) ∈ f.fields := by
  unfold fields
  rw [hleast]
  refine List.mem_map.mpr ⟨name, List.mem_attach _ _, ?_⟩
  rw [Json.lookup, Option.or_none]

/-- Fields are read back from among others, if no name is there twice and none of them is written
unless it is there. -/
theorem ofJson?_ofFields (f : PassedFields table) (hleast : table.least = [])
    {written : List (String × Option Json)} (hn : (written.map (·.1)).Nodup)
    (hfields : f.fields ⊆ written) : ofJson? table (.ofFields written) = some f := by
  have hvalue : ∀ name : {name : String // name ∈ table.names},
      (Json.ofFields written).optional PassedValue.ofJson? name.val = some (f name) :=
    fun name => Json.optional_ofFields_of_mem PassedValue.readsBack hn
      (hfields (f.mem_fields hleast name))
  have hall : (table.names.all fun name =>
      ((Json.ofFields written).optional PassedValue.ofJson? name).isSome) = true := by
    rw [List.all_eq_true]
    intro name hname
    rw [hvalue ⟨name, hname⟩]
    rfl
  have hread : (fun name : {name : String // name ∈ table.names} =>
      ((Json.ofFields written).optional PassedValue.ofJson? name.val).join) = f := by
    funext name
    rw [hvalue name]
    rfl
  unfold ofJson?
  rw [hall, hread]
  rfl

end PassedFields

namespace Metadata

theorem nodup_fields (m : Metadata) : ((Json.inOrder m.fields).map (·.1)).Nodup := by
  have hn : (["name", "namespace", "labels", "annotations"] ++ FieldTable.metadata.names).Nodup :=
    by decide
  have hnames : (m.fields.map (·.1)).Nodup := by
    unfold fields
    rwa [List.map_append, PassedFields.map_fst_fields]
  exact ((Json.inOrder_perm _).map _).nodup_iff.mpr hnames

theorem readsBack : Json.ReadsBack ofJson? toJson where
  read_write := by
    intro m
    have hn := m.nodup_fields
    have htexts := Json.readsBack_ofDict Json.readsBack_str
    have hname : m.toJson.optional Json.str? "name" = some m.name :=
      Json.optional_ofFields_of_mem Json.readsBack_str hn (by simp [fields])
    have hns : m.toJson.optional Json.str? "namespace" = some m.ns :=
      Json.optional_ofFields_of_mem Json.readsBack_str hn (by simp [fields])
    have hlabels : m.toJson.optional (Json.dictOf? Json.str?) "labels" = some m.labels :=
      Json.optional_ofFields_of_mem htexts hn (by simp [fields])
    have hannotations :
        m.toJson.optional (Json.dictOf? Json.str?) "annotations" = some m.annotations :=
      Json.optional_ofFields_of_mem htexts hn (by simp [fields])
    have hothers : PassedFields.ofJson? .metadata m.toJson = some m.others := by
      refine m.others.ofJson?_ofFields rfl hn fun f hf => ?_
      exact Json.mem_inOrder.mpr (List.mem_append_right _ hf)
    unfold ofJson?
    rw [hname, hns, hlabels, hannotations, hothers]
    rfl
  ne_null := fun _ => Json.noConfusion

end Metadata

end ClusterSurvey
