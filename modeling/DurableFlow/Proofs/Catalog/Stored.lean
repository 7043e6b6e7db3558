import DurableFlow.Catalog.File
import DurableFlow.Proofs.Json.Written
import DurableFlow.Proofs.Record.Reading

/-!
Definitions in their JSON form. A definition that keeps the rules of its fields is read back from its
form with all its parts: the metadata, the schema, the requirements, the examples and the preset
output, and nulls inside of them. Definitions that are read keep the rules.
-/

namespace DurableFlow

open Checked

/-! ### Requirements -/

namespace Requirement

theorem readKind_eq_ok_iff {v : Json} {kind : String} :
    readKind v = .ok kind ↔ v = .str kind ∧ kind ∈ resourceKinds := by
  simp only [readKind, andThen_eq_ok_iff, string_eq_ok_iff]
  constructor
  · rintro ⟨s, rfl, h⟩
    split at h
    next hkind =>
      obtain rfl := Checked.ok.inj h
      exact ⟨rfl, hkind⟩
    · contradiction
  · rintro ⟨rfl, hkind⟩
    exact ⟨kind, rfl, if_pos hkind⟩

theorem read_eq_ok_iff {v : Json} {r : Requirement} :
    read v = .ok r ↔ ∃ ms, v = .obj ms ∧
      field ms "kind" readKind = .ok r.kind ∧
      field ms "name" string = .ok r.name ∧
      fieldD ms ["required"] bool true = .ok r.required ∧
      fieldD ms ["description"] string "" = .ok r.description ∧
      fieldD ms ["configField", "config_field"] (optional string) none = .ok r.configField := by
  simp only [read, record_eq_ok_iff, seq_eq_ok_iff, map_eq_ok_iff]
  constructor
  · rintro ⟨ms, hv, _, ⟨_, ⟨_, ⟨_, ⟨kind, hkind, rfl⟩, name, hname, rfl⟩, required, hrequired, rfl⟩,
      description, hdescription, rfl⟩, configField, hfield, rfl⟩
    exact ⟨ms, hv, hkind, hname, hrequired, hdescription, hfield⟩
  · rintro ⟨ms, hv, hkind, hname, hrequired, hdescription, hfield⟩
    exact ⟨ms, hv, _, ⟨_, ⟨_, ⟨_, ⟨_, hkind, rfl⟩, _, hname, rfl⟩, _, hrequired, rfl⟩, _, hdescription,
      rfl⟩, _, hfield, rfl⟩

theorem kind_of_read {v : Json} {r : Requirement} (h : read v = .ok r) : r.kind ∈ resourceKinds := by
  obtain ⟨ms, -, hkind, -⟩ := read_eq_ok_iff.mp h
  obtain ⟨w, hw⟩ := field_eq_ok hkind
  exact (readKind_eq_ok_iff.mp hw).2

theorem read_toJson {r : Requirement} (h : r.kind ∈ resourceKinds) : read r.toJson = .ok r := by
  obtain ⟨kind, name, required, description, configField⟩ := r
  refine read_eq_ok_iff.mpr ⟨_, rfl, (fieldOr_of_get? rfl _ _).mpr (readKind_eq_ok_iff.mpr ⟨rfl, h⟩),
    (fieldOr_of_get? rfl _ _).mpr rfl, (fieldOr_of_get? rfl _ _).mpr rfl,
    (fieldOr_of_get? rfl _ _).mpr rfl, ?_⟩
  cases configField with
  | none => exact fieldOr_of_absent (by simp [Members.get?]) _
  | some field => exact (fieldOr_of_get? rfl _ _).mpr rfl

theorem distinct_toJson (r : Requirement) : r.toJson.Distinct := by
  obtain ⟨kind, name, required, description, configField⟩ := r
  cases configField <;> simp [toJson, Json.Distinct, Json.DistinctMembers]

end Requirement

/-! ### Definitions -/

namespace Definition

/-- The definition keeps the rules of its fields: its requirements are of known kinds, and no object
in it has a key twice. -/
structure Valid (d : Definition) : Prop where
  kinds : ∀ r ∈ d.bindings, r.kind ∈ resourceKinds
  schema : (Json.obj d.configSchema).Distinct
  examples : ∀ ms ∈ d.examples, (Json.obj ms).Distinct
  preset : ∀ ms ∈ d.presetOutput, (Json.obj ms).Distinct

theorem readMetadata_eq_ok_iff {v : Json} {type name description category : String} :
    readMetadata v = .ok (type, name, description, category) ↔ ∃ ms, v = .obj ms ∧
      field ms "type" string = .ok type ∧
      field ms "name" string = .ok name ∧
      fieldD ms ["description"] string "" = .ok description ∧
      fieldD ms ["category"] string "utils" = .ok category := by
  simp only [readMetadata, record_eq_ok_iff, seq_eq_ok_iff, map_eq_ok_iff]
  constructor
  · rintro ⟨ms, hv, _, ⟨_, ⟨_, ⟨type, htype, rfl⟩, name, hname, rfl⟩, description, hdescription, rfl⟩,
      category, hcategory, h⟩
    cases h
    exact ⟨ms, hv, htype, hname, hdescription, hcategory⟩
  · rintro ⟨ms, hv, htype, hname, hdescription, hcategory⟩
    exact ⟨ms, hv, _, ⟨_, ⟨_, ⟨_, htype, rfl⟩, _, hname, rfl⟩, _, hdescription, rfl⟩, _, hcategory, rfl⟩

theorem read_eq_ok_iff {v : Json} {d : Definition} :
    read v = .ok d ↔ ∃ ms, v = .obj ms ∧
      field ms "metadata" readMetadata = .ok (d.type, d.name, d.description, d.category) ∧
      fieldD ms ["configSchema", "config_schema"] dictionary [] = .ok d.configSchema ∧
      fieldD ms ["bindings"] (list Requirement.read) [] = .ok d.bindings ∧
      fieldD ms ["examples"] (list dictionary) [] = .ok d.examples ∧
      fieldD ms ["presetOutput", "preset_output"] (optional dictionary) none = .ok d.presetOutput := by
  simp only [read, record_eq_ok_iff, seq_eq_ok_iff, map_eq_ok_iff]
  constructor
  · rintro ⟨ms, hv, _, ⟨_, ⟨_, ⟨_, ⟨metadata, hmetadata, rfl⟩, schema, hschema, rfl⟩, bindings,
      hbindings, rfl⟩, examples, hexamples, rfl⟩, preset, hpreset, rfl⟩
    exact ⟨ms, hv, hmetadata, hschema, hbindings, hexamples, hpreset⟩
  · rintro ⟨ms, hv, hmetadata, hschema, hbindings, hexamples, hpreset⟩
    exact ⟨ms, hv, _, ⟨_, ⟨_, ⟨_, ⟨_, hmetadata, rfl⟩, _, hschema, rfl⟩, _, hbindings, rfl⟩, _,
      hexamples, rfl⟩, _, hpreset, rfl⟩

theorem read_toJson {d : Definition} (h : d.Valid) : read d.toJson = .ok d := by
  obtain ⟨type, name, description, category, configSchema, bindings, examples, presetOutput⟩ := d
  have hmetadata : readMetadata (Json.obj [("type", .str type), ("name", .str name),
      ("description", .str description), ("category", .str category)]) =
        .ok (type, name, description, category) :=
    readMetadata_eq_ok_iff.mpr ⟨_, rfl, (fieldOr_of_get? rfl _ _).mpr rfl,
      (fieldOr_of_get? rfl _ _).mpr rfl, (fieldOr_of_get? rfl _ _).mpr rfl,
      (fieldOr_of_get? rfl _ _).mpr rfl⟩
  have hbindings : list Requirement.read (.arr (bindings.map Requirement.toJson)) = .ok bindings :=
    list_map fun r hr => Requirement.read_toJson (h.kinds r hr)
  have hexamples : list dictionary (.arr (examples.map .obj)) = .ok examples :=
    list_map fun _ _ => rfl
  refine read_eq_ok_iff.mpr ⟨_, rfl, (fieldOr_of_get? rfl _ _).mpr hmetadata,
    (fieldOr_of_get? rfl _ _).mpr rfl, (fieldOr_of_get? rfl _ _).mpr hbindings,
    (fieldOr_of_get? rfl _ _).mpr hexamples, ?_⟩
  cases presetOutput with
  | none => exact fieldOr_of_absent (by simp [Members.get?]) _
  | some preset => exact (fieldOr_of_get? rfl _ _).mpr rfl

end Definition

namespace Definition

theorem distinct_toJson {d : Definition} (h : d.Valid) : d.toJson.Distinct := by
  have hbindings : (Json.arr (d.bindings.map Requirement.toJson)).Distinct := by
    rw [Json.Distinct, Json.distinctItems_iff, List.forall_mem_map]
    exact fun r _ => r.distinct_toJson
  have hexamples : (Json.arr (d.examples.map .obj)).Distinct := by
    rw [Json.Distinct, Json.distinctItems_iff, List.forall_mem_map]
    exact h.examples
  have hmetadata : d.metadata.Distinct := by
    simp [metadata, Json.Distinct, Json.DistinctMembers]
  have hschema := h.schema
  have hpreset := h.preset
  obtain ⟨type, name, description, category, configSchema, bindings, examples, presetOutput⟩ := d
  cases presetOutput with
  | none =>
      refine ⟨by simp, ?_⟩
      exact ⟨hmetadata, hschema, hbindings, hexamples, trivial⟩
  | some preset =>
      refine ⟨by simp, ?_⟩
      exact ⟨hmetadata, hschema, hbindings, hexamples, hpreset preset rfl, trivial⟩

theorem valid_of_read {v : Json} {d : Definition} (hv : v.Distinct) (h : read v = .ok d) : d.Valid := by
  obtain ⟨ms, rfl, -, hschema, hbindings, hexamples, hpreset⟩ := read_eq_ok_iff.mp h
  have hmembers : ∀ {name w}, Members.get? name ms = some w → w.Distinct := hv.2.get?
  constructor
  case kinds =>
    intro r hr
    rcases fieldD_eq_ok hbindings with ⟨_, w, -, hread⟩ | hnil
    · obtain ⟨items, -, hall⟩ := list_eq_ok hread
      obtain ⟨item, -, hitem⟩ := hall r hr
      exact Requirement.kind_of_read hitem
    · simp [← hnil] at hr
  case schema =>
    rcases fieldD_eq_ok hschema with ⟨_, w, hget, hread⟩ | hnil
    · exact dictionary_eq_ok_iff.mp hread ▸ hmembers hget
    · simp [← hnil, Json.Distinct, Json.DistinctMembers]
  case examples =>
    intro example' hexample
    rcases fieldD_eq_ok hexamples with ⟨_, w, hget, hread⟩ | hnil
    · obtain ⟨items, rfl, hall⟩ := list_eq_ok hread
      obtain ⟨item, hmem, hitem⟩ := hall example' hexample
      exact dictionary_eq_ok_iff.mp hitem ▸ Json.distinctItems_iff.mp (hmembers hget) item hmem
    · simp [← hnil] at hexample
  case preset =>
    intro preset hmem
    rw [Option.mem_def] at hmem
    rcases fieldD_eq_ok hpreset with ⟨_, w, hget, hread⟩ | hnil
    · rw [hmem] at hread
      exact dictionary_eq_ok_iff.mp (optional_eq_some hread) ▸ hmembers hget
    · simp [← hnil] at hmem

end Definition

end DurableFlow
