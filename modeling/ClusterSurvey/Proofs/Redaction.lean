import ClusterSurvey.Proofs.Base64
import ClusterSurvey.Proofs.ObjectJson
import ClusterSurvey.Snapshot.Summary

/-! What the outputs show of secrets. A secret is written with all it holds, so that all of it can be
read back (`KubeObject.ofJson?_toJson_secrets`); redacted before, it is written as it was but for the
two fields of what it holds (`KubeObject.fieldsNamed_toJson_redacted`). Since an inventory is
redacted before it is written, a snapshot and its summary come out as if no secret held anything
(`Snapshot.toJson_redacted`, `Summary.ofSnapshot_redacted`). -/
namespace ClusterSurvey

namespace KubeObject

variable {kind : ObjectKind}

theorem redacted_of_ne (h : kind ≠ .secrets) (object : KubeObject kind) :
    object.redacted = object := by
  cases kind <;> first | rfl | exact absurd rfl h

@[simp] theorem redacted_redacted (object : KubeObject kind) :
    object.redacted.redacted = object.redacted := by
  cases kind <;> rfl

end KubeObject

def ObjectList.redacted (l : ObjectList) : ObjectList := ⟨l.kind, l.items.map KubeObject.redacted⟩

namespace Inventory

@[simp] theorem redacted_redacted (inventory : Inventory) :
    inventory.redacted.redacted = inventory.redacted := by
  unfold redacted
  congr 1
  funext kind
  rw [List.map_map]
  exact List.map_congr_left fun object _ => object.redacted_redacted

theorem redacted_absorb (inventory : Inventory) (l : ObjectList) :
    (inventory.absorb l).redacted = inventory.redacted.absorb l.redacted := by
  unfold redacted
  congr 1
  funext kind
  by_cases h : l.kind = kind
  · subst h
    rw [slot_absorb_self]
    exact (slot_absorb_self (redacted inventory) l.redacted).symm
  · rw [slot_absorb_of_ne inventory h]
    exact (slot_absorb_of_ne (redacted inventory) (l := l.redacted) h).symm

theorem redacted_foldl_absorb (lists : List ObjectList) (inventory : Inventory) :
    (lists.foldl absorb inventory).redacted =
      (lists.map ObjectList.redacted).foldl absorb inventory.redacted := by
  induction lists generalizing inventory with
  | nil => rfl
  | cons l rest ih => rw [List.foldl_cons, ih, redacted_absorb, List.map_cons, List.foldl_cons]

theorem slot_eq_of_redacted_eq {inventory other : Inventory}
    (h : inventory.redacted = other.redacted) {kind : ObjectKind} (hkind : kind ≠ .secrets) :
    inventory.slot kind = other.slot kind := by
  have hid : (KubeObject.redacted : KubeObject kind → KubeObject kind) = id :=
    funext (KubeObject.redacted_of_ne hkind)
  have hslots := congrFun (congrArg slot h) kind
  unfold redacted at hslots
  simpa [hid] using hslots

end Inventory

def Snapshot.redacted (s : Snapshot) : Snapshot := { s with inventory := s.inventory.redacted }

namespace SecretBody

theorem readsBack_payload : Json.ReadsBack payload? payloadJson where
  read_write bytes := by
    change (Base64.decode (Base64.encode bytes)).toOption = some bytes
    rw [Base64.decode_encode]
    rfl
  ne_null := fun _ => Json.noConfusion

def payloadFields : List String := ["data", "stringData"]

end SecretBody

namespace KubeObject

theorem fields_perm (object : KubeObject kind) :
    ([("apiVersion", some (Json.str kind.apiVersion)), ("kind", some (Json.str kind.objectName))] ++
      Json.inOrder object.fields).Perm
        ([("apiVersion", some (Json.str kind.apiVersion)),
          ("kind", some (Json.str kind.objectName))] ++ object.fields) :=
  (Json.inOrder_perm _).append_left _

theorem nodup_fields_secrets (secret : Secret) :
    (([("apiVersion", some (Json.str (ObjectKind.apiVersion .secrets))),
      ("kind", some (Json.str (ObjectKind.objectName .secrets)))] ++
        Json.inOrder secret.fields).map (·.1)).Nodup := by
  have hnames : ["apiVersion", "kind", "metadata", "data", "stringData", "type",
    "immutable"].Nodup := by decide
  exact (secret.fields_perm.map _).nodup_iff.mpr hnames

theorem bodyOfJson?_toJson_secrets (secret : Secret) :
    SecretBody.ofJson? secret.toJson = some secret.body := by
  have hn := nodup_fields_secrets secret
  have hdata : secret.toJson.optional (Json.dictOf? SecretBody.payload?) "data" =
      some (SecretBody.data secret.body) :=
    Json.optional_ofFields_of_mem (Json.readsBack_ofDict SecretBody.readsBack_payload) hn
      (by simp [fields, ObjectKind.bodyFields, SecretBody.fields])
  have hstringData : secret.toJson.optional (Json.dictOf? Json.str?) "stringData" =
      some (SecretBody.stringData secret.body) :=
    Json.optional_ofFields_of_mem (Json.readsBack_ofDict Json.readsBack_str) hn
      (by simp [fields, ObjectKind.bodyFields, SecretBody.fields])
  have htype : secret.toJson.optional Json.str? "type" =
      some (SecretBody.secretType secret.body) :=
    Json.optional_ofFields_of_mem Json.readsBack_str hn
      (by simp [fields, ObjectKind.bodyFields, SecretBody.fields])
  have himmutable : secret.toJson.optional Json.bool? "immutable" =
      some (SecretBody.immutable secret.body) :=
    Json.optional_ofFields_of_mem Json.readsBack_bool hn
      (by simp [fields, ObjectKind.bodyFields, SecretBody.fields])
  unfold SecretBody.ofJson?
  rw [hdata, hstringData, htype, himmutable]
  rfl

theorem ofJson?_toJson_secrets (secret : Secret) :
    ofJson? .secrets secret.toJson = some secret := by
  have hn := nodup_fields_secrets secret
  have hversion : secret.toJson.agrees "apiVersion" (ObjectKind.apiVersion .secrets) = true :=
    Json.agrees_ofFields_of_mem hn (by simp)
  have hkind : secret.toJson.agrees "kind" (ObjectKind.objectName .secrets) = true :=
    Json.agrees_ofFields_of_mem hn (by simp)
  have hmetadata : secret.toJson.optional Metadata.ofJson? "metadata" =
      some (some secret.metadata) :=
    Json.optional_ofFields_of_mem Metadata.readsBack hn (by simp [fields])
  have hbody : ObjectKind.bodyOfJson? .secrets secret.toJson = some secret.body :=
    bodyOfJson?_toJson_secrets secret
  unfold ofJson?
  rw [hversion, hkind, hmetadata, hbody]
  rfl

theorem fieldsNamed_toJson_redacted (secret : Secret) {key : String}
    (h : key ∉ SecretBody.payloadFields) :
    secret.redacted.toJson.fieldsNamed key = secret.toJson.fieldsNamed key := by
  have hbody : (Json.ofFields (ObjectKind.bodyFields .secrets secret.redacted.body)).fieldsNamed
      key = (Json.ofFields (ObjectKind.bodyFields .secrets secret.body)).fieldsNamed key := by
    have hdata : "data" ≠ key := fun heq => h (heq ▸ by decide)
    have hstringData : "stringData" ≠ key := fun heq => h (heq ▸ by decide)
    change (Json.ofFields (SecretBody.fields (SecretBody.redacted secret.body))).fieldsNamed key =
      (Json.ofFields (SecretBody.fields secret.body)).fieldsNamed key
    unfold SecretBody.fields
    simp only [Json.fieldsNamed_ofFields_cons, if_neg hdata, if_neg hstringData]
    rfl
  unfold toJson
  rw [Json.fieldsNamed_ofFields_of_perm (fields_perm _) (nodup_fields_secrets _),
    Json.fieldsNamed_ofFields_of_perm (fields_perm _) (nodup_fields_secrets _)]
  unfold fields
  simp only [List.cons_append, List.nil_append, Json.fieldsNamed_ofFields_cons, hbody]
  rfl

theorem fieldsNamed_toJson_redacted_of_mem (secret : Secret) {key : String}
    (h : key ∈ SecretBody.payloadFields) : secret.redacted.toJson.fieldsNamed key = [] := by
  have hn := nodup_fields_secrets secret.redacted
  have hentry : (key, none) ∈ secret.redacted.fields := by
    obtain rfl | rfl : key = "data" ∨ key = "stringData" := by
      simpa [SecretBody.payloadFields] using h
    · exact .tail _ (.head _)
    · exact .tail _ (.tail _ (.head _))
  exact Json.fieldsNamed_ofFields_of_mem hn
    (List.mem_append_right _ (Json.mem_inOrder.mpr hentry))

end KubeObject

namespace Inventory

theorem jsonFields_redacted (inventory : Inventory) :
    inventory.redacted.jsonFields = inventory.jsonFields := by
  unfold jsonFields
  rw [redacted_redacted]

theorem counts_redacted (inventory : Inventory) : inventory.redacted.counts = inventory.counts := by
  unfold counts count redacted
  simp only [List.length_map]

end Inventory

/-- What a snapshot is written as does not depend on what its secrets hold. -/
theorem Snapshot.toJson_redacted (s : Snapshot) : s.redacted.toJson = s.toJson := by
  unfold toJson redacted
  rw [Inventory.jsonFields_redacted]

theorem Summary.ofSnapshot_redacted (s : Snapshot) : ofSnapshot s.redacted = ofSnapshot s := by
  have hcounts : s.redacted.inventory.counts = s.inventory.counts := s.inventory.counts_redacted
  unfold ofSnapshot
  rw [hcounts]
  rfl

def Snapshot.fieldNames : List String :=
  ["synced_at"] ++ ObjectKind.all.map ObjectKind.snapshotKey ++
    ["core_components", "component_errors", "machines"]

theorem Snapshot.fieldsNamed_toJson (s : Snapshot) (kind : ObjectKind) :
    s.toJson.fieldsNamed kind.snapshotKey =
      [.ofList KubeObject.toJson (s.inventory.redacted.slot kind)] := by
  have hnodup : fieldNames.Nodup := by decide +kernel
  have hnames : s.inventory.jsonFields.map (·.1) = ObjectKind.all.map ObjectKind.snapshotKey := by
    unfold Inventory.jsonFields
    rw [List.map_map]
    rfl
  apply Json.fieldsNamed_obj_of_mem
  · rw [List.map_append, List.map_append, hnames]
    exact hnodup
  · rw [List.mem_append, List.mem_append]
    exact .inl (.inr (List.mem_map_of_mem (ObjectKind.mem_all kind)))

end ClusterSurvey
