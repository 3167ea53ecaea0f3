import CredRegistry.Cluster.ApiServer
import CredRegistry.Proofs.Json.Lookup

/-!
# The fields of a manifest

What stands where in the JSON of a config map: `field?_data`, `field?_metadata` and
`field?_version` find the parts that an update changes, and the other lemmas say that nothing
else changes with them.
-/

namespace CredRegistry

open CredRegistry.Json

namespace Manifest

theorem lookup_optionalField {α : Type} (name key : String) (toJson : α → Value) (a : Option α) :
    lookup name (optionalField key toJson a) = if key = name then a.map toJson else none := by
  cases a with
  | none => simp [optionalField, lookup]
  | some a => rw [optionalField, lookup_cons]; rfl

theorem dictJson_str_inj {d e : Dict String} (h : dictJson .str d = dictJson .str e) : d = e := by
  refine Dict.ext_entries ((List.map_inj_right fun a b hab => ?_).mp (Value.object.inj h))
  obtain ⟨hkey, hvalue⟩ := Prod.mk.inj hab
  exact Prod.ext hkey (Value.str.inj hvalue)

namespace Metadata

theorem field?_version (m : Metadata) :
    m.toJson.field? "resourceVersion" = m.version.map .str := by
  simp [toJson, Value.field?, lookup_append, lookup_optionalField]

theorem field?_setVersion (m : Metadata) (version : Option String) {name : String}
    (h : name ≠ "resourceVersion") :
    { m with version }.toJson.field? name = m.toJson.field? name := by
  simp [toJson, Value.field?, lookup_append, lookup_optionalField, h.symm]

end Metadata

namespace ConfigMapManifest

theorem field?_metadata (m : ConfigMapManifest) :
    m.toJson.field? "metadata" = some m.metadata.toJson := by
  simp [toJson, header, Value.field?, lookup_append, lookup_cons, lookup_optionalField]

theorem field?_data (m : ConfigMapManifest) :
    m.toJson.field? "data" = m.data.map (dictJson .str) := by
  simp [toJson, header, Value.field?, lookup_append, lookup_cons, lookup_optionalField, lookup_nil]

/-- Data and metadata are where they stand, and nowhere else. -/
theorem field?_congr {m m' : ConfigMapManifest} (hbinary : m'.binaryData = m.binaryData)
    (himmutable : m'.immutable = m.immutable) {name : String} (hdata : name ≠ "data")
    (hmetadata : name ≠ "metadata") : m'.toJson.field? name = m.toJson.field? name := by
  simp [toJson, Value.field?, lookup_append, lookup_cons, lookup_optionalField, hbinary,
    himmutable, hdata.symm, hmetadata.symm]

end ConfigMapManifest

end Manifest

end CredRegistry
