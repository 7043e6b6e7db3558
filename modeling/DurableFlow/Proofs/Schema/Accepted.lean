import DurableFlow.Proofs.Outcome
import DurableFlow.Schema.Check

/-!
Values that pass a schema. A value without violations has the type that its schema asks for, its
members pass the schemas of the properties of their names, and its items pass the schema for items;
and all of this can be told from the JSON value that the schema was read from.
-/

namespace DurableFlow.Schema

/-! ### Rules -/

variable {follow : Follow} {rs : List Rule} {r : Rule} {s : Schema} {v : Json}

theorem inOrder_eq_nil_iff {found : List Violation} : inOrder found = [] ↔ found = [] := by
  rw [inOrder, ← List.length_eq_zero_iff, List.length_mergeSort, List.length_eq_zero_iff]

theorem checkRule_of_mem (h : check follow (.rules rs) v = []) (hr : r ∈ rs) :
    checkRule follow r v = [] := by
  rw [check] at h
  induction rs with
  | nil => simp at hr
  | cons r' rs ih =>
      rw [checkRules, List.append_eq_nil_iff] at h
      rcases List.mem_cons.mp hr with rfl | hr
      · exact h.1
      · exact ih h.2 hr

theorem descend_eq_nil_iff {step : PathStep} {found : List Violation} :
    descend step s found = [] ↔ found = [] := by
  cases s <;> simp [descend]

theorem hasType_of_check {names : List String} {shown : Json} (h : check follow (.rules rs) v = [])
    (hr : .types names shown ∈ rs) : names.any v.hasType = true := by
  have hrule := checkRule_of_mem h hr
  rw [checkRule] at hrule
  split at hrule
  · assumption
  · simp [broken] at hrule

theorem check_of_checkProperties {ps : List (String × Schema)} {ms : Members} {name : String}
    (h : checkProperties follow ps ms = []) (hp : (name, s) ∈ ps)
    (hv : Members.get? name ms = some v) : check follow s v = [] := by
  induction ps with
  | nil => simp at hp
  | cons p ps ih =>
      obtain ⟨name', s'⟩ := p
      rw [checkProperties, List.append_eq_nil_iff] at h
      rcases List.mem_cons.mp hp with heq | hp
      · obtain ⟨rfl, rfl⟩ := Prod.mk.inj heq
        have hhere := h.1
        rw [hv] at hhere
        exact descend_eq_nil_iff.mp hhere
      · exact ih h.2 hp

theorem check_property {ms : Members} {ps : List (String × Schema)} {name : String}
    (h : check follow (.rules rs) (.obj ms) = []) (hr : .properties ps ∈ rs) (hp : (name, s) ∈ ps)
    (hv : Members.get? name ms = some v) : check follow s v = [] := by
  have hrule := checkRule_of_mem h hr
  rw [checkRule] at hrule
  exact check_of_checkProperties hrule hp hv

theorem check_item {items : List Json} (h : check follow (.rules rs) (.arr items) = [])
    (hr : .each s ∈ rs) (hv : v ∈ items) : check follow s v = [] := by
  have hrule := checkRule_of_mem h hr
  rw [checkRule, onItems_arr, List.flatMap_eq_nil_iff] at hrule
  obtain ⟨i, hi⟩ := List.mem_iff_getElem?.mp hv
  have hplace : (v, i) ∈ items.zipIdx := by
    rw [List.mem_zipIdx_iff_getElem?]
    exact hi
  exact descend_eq_nil_iff.mp (hrule (v, i) hplace)

/-! ### Schemas as they are written -/

/-- The value is a schema that can be read, and the other value passes it. -/
def Accepts (follow : Follow) (schema v : Json) : Prop :=
  ∃ s, readAll schema = .ok s ∧ check follow s v = []

/-- A value that is found to be valid passes the schema, whose references lead into itself. -/
theorem accepts_of_validate {schema : Json} (h : validate schema v = .ok []) :
    Accepts (references schema) schema v := by
  obtain ⟨s, hs, h⟩ := bind_eq_ok h
  refine ⟨s, mapError_eq_ok hs, ?_⟩
  dsimp only at h
  split at h
  · contradiction
  · exact Except.ok.inj h

theorem gather_eq_error {read : List (String × Read (List Rule))} {faults : List Fault}
    (h : gather read = .error faults) : faults ≠ [] := by
  rw [gather] at h
  split at h
  · contradiction
  · rename_i hne
    obtain rfl := Except.error.inj h
    exact hne

theorem readAll_eq_error {schema : Json} {faults : List Fault} (h : readAll schema = .error faults) :
    faults ≠ [] := by
  cases schema with
  | obj ms =>
      rw [readAll] at h
      exact gather_eq_error (map_eq_error h)
  | bool b => cases b <;> simp [readAll] at h
  | _ =>
      simp only [readAll, malformed, Except.error.injEq] at h
      simp [← h]

theorem readMembers_eq_error {ms : Members} {faults : List Fault}
    (h : readMembers ms = .error faults) : faults ≠ [] := by
  induction ms generalizing faults with
  | nil => simp [readMembers] at h
  | cons m ms ih =>
      obtain ⟨key, v⟩ := m
      rw [readMembers] at h
      have h := map_eq_error h
      cases hv : readAll v with
      | error found =>
          have hne := readAll_eq_error hv
          cases hms : readMembers ms with
          | error rest =>
              rw [hv, hms, both, Except.error.injEq] at h
              simp [← h, hne]
          | ok ps =>
              rw [hv, hms, both, Except.error.injEq] at h
              exact h ▸ hne
      | ok s =>
          cases hms : readMembers ms with
          | error rest =>
              rw [hv, hms, both, Except.error.injEq] at h
              exact h ▸ ih hms
          | ok ps =>
              rw [hv, hms, both] at h
              contradiction

theorem readMembers_eq_ok {ms : Members} {ps : List (String × Schema)} {name : String} {p : Json}
    (h : readMembers ms = .ok ps) (hp : (name, p) ∈ ms) :
    ∃ s, readAll p = .ok s ∧ (name, s) ∈ ps := by
  induction ms generalizing ps with
  | nil => simp at hp
  | cons m ms ih =>
      obtain ⟨key, v⟩ := m
      rw [readMembers] at h
      obtain ⟨⟨s, rest⟩, h, rfl⟩ := map_eq_ok h
      have hparts : readAll v = .ok s ∧ readMembers ms = .ok rest := by
        cases hv : readAll v <;> cases hms : readMembers ms <;> simp_all [both]
      rcases List.mem_cons.mp hp with heq | hp
      · obtain ⟨rfl, rfl⟩ := Prod.mk.inj heq
        exact ⟨s, hparts.1, List.mem_cons_self⟩
      · obtain ⟨s', hs', hmem⟩ := ih hparts.2 hp
        exact ⟨s', hs', List.mem_cons_of_mem _ hmem⟩

theorem mem_readRules (beside : Siblings) {ms : Members} {key : String} {v : Json}
    (h : (key, v) ∈ ms) : (key, ruleOf beside key v (readAll v) (readNamed v) (readListed v)
      (readDependents v)) ∈ readRules beside ms := by
  induction ms with
  | nil => simp at h
  | cons m ms ih =>
      obtain ⟨key', v'⟩ := m
      rw [readRules]
      rcases List.mem_cons.mp h with heq | h
      · obtain ⟨rfl, rfl⟩ := Prod.mk.inj heq
        exact List.mem_cons_self
      · exact List.mem_cons_of_mem _ (ih h)

/-- Of a schema that can be read and is no reference, every member that has a meaning is read, and its
rules are among those of the schema. -/
theorem rules_of_member {ms : Members} {key : String} {v : Json} {s : Schema}
    (h : readAll (.obj ms) = .ok s) (href : Members.get? "$ref" ms = none) (hm : (key, v) ∈ ms)
    (hkey : key ∈ memberOrder)
    (hfaults : ∀ beside faults, ruleOf beside key v (readAll v) (readNamed v) (readListed v)
      (readDependents v) = .error faults → faults ≠ []) :
    ∃ rs beside here, s = .rules rs ∧
      ruleOf beside key v (readAll v) (readNamed v) (readListed v) (readDependents v) = .ok here ∧
      ∀ r ∈ here, r ∈ rs := by
  rw [readAll] at h
  obtain ⟨rs, hrs, rfl⟩ := map_eq_ok h
  have hgoverning : governing ms rs = rs := by rw [governing, href]
  have hread := mem_readRules (readBranches ⟨ms, .always, .always⟩ ms) hm
  rw [gather] at hrs
  split at hrs
  · rename_i hnone
    obtain rfl := Except.ok.inj hrs
    cases hrule : ruleOf (readBranches ⟨ms, .always, .always⟩ ms) key v (readAll v) (readNamed v)
        (readListed v) (readDependents v) with
    | error faults =>
        rw [List.flatMap_eq_nil_iff] at hnone
        have hkeyFaults := List.flatMap_eq_nil_iff.mp (hnone key hkey) _ hread
        rw [hrule] at hkeyFaults
        exact absurd (by simpa using hkeyFaults) (hfaults _ faults hrule)
    | ok here =>
        refine ⟨_, _, here, congrArg Schema.rules hgoverning, hrule, fun r hr =>
          List.mem_flatMap.mpr ⟨_, hread, ?_⟩⟩
        rw [hrule]
        exact hr
  · contradiction

theorem ruleOf_type (name : String) {beside : Siblings} {one : Read Schema}
    {named : Read (List (String × Schema))} {listed : Read (List (Json × Schema))}
    {dependents : Read (List Rule)} : ruleOf beside "type" (.str name) one named listed dependents =
      ofOption ((typeName? (.str name)).map fun name' => [.types [name'] (.str name)]) := by
  show ofOption (((typeName? (.str name)).map fun name' => Rule.types [name'] (.str name)).map
    ([·])) = _
  rw [Option.map_map]
  rfl

theorem typeName?_eq_some {name name' : String} (h : typeName? (.str name) = some name') :
    name' = name := by
  rw [typeName?] at h
  split at h
  · exact (Option.some.inj h).symm
  · contradiction

theorem ofOption_eq_error {α : Type} {x : Option α} {faults : List Fault}
    (h : ofOption x = .error faults) : faults ≠ [] := by
  cases x with
  | none =>
      simp only [ofOption, malformed, Except.error.injEq] at h
      simp [← h]
  | some _ => contradiction

theorem ofOption_eq_ok {α : Type} {x : Option α} {a : α} (h : ofOption x = .ok a) : x = some a := by
  cases x with
  | none => contradiction
  | some b => exact congrArg some (Except.ok.inj h)

namespace Accepts

variable {rules : Members}

theorem hasType {name : String} (h : Accepts follow (.obj rules) v)
    (href : Members.get? "$ref" rules = none) (hr : ("type", .str name) ∈ rules) :
    v.hasType name = true := by
  obtain ⟨s, hs, hcheck⟩ := h
  obtain ⟨rs, beside, here, rfl, hhere, hsub⟩ := rules_of_member hs href hr (by decide)
    fun beside faults hfaults => by
      rw [ruleOf_type] at hfaults
      exact ofOption_eq_error hfaults
  rw [ruleOf_type] at hhere
  obtain ⟨name', hname, rfl⟩ := Option.map_eq_some_iff.mp (ofOption_eq_ok hhere)
  obtain rfl := typeName?_eq_some hname
  simpa using hasType_of_check hcheck (hsub _ List.mem_cons_self)

theorem property {ms ps : Members} {name : String} {p : Json}
    (h : Accepts follow (.obj rules) (.obj ms)) (href : Members.get? "$ref" rules = none)
    (hr : ("properties", .obj ps) ∈ rules) (hp : (name, p) ∈ ps)
    (hv : Members.get? name ms = some v) : Accepts follow p v := by
  obtain ⟨s, hs, hcheck⟩ := h
  have hrule : ∀ {beside one listed dependents}, ruleOf beside "properties" (.obj ps) one
      (readNamed (.obj ps)) listed dependents = (readMembers ps).map fun qs => [.properties qs] := by
    intro beside one listed dependents
    rw [readNamed]
    rfl
  obtain ⟨rs, beside, here, rfl, hhere, hsub⟩ := rules_of_member hs href hr (by decide)
    fun beside faults hfaults => readMembers_eq_error (map_eq_error (hrule.symm.trans hfaults))
  rw [hrule] at hhere
  obtain ⟨qs, hqs, rfl⟩ := map_eq_ok hhere
  obtain ⟨s, hs, hmem⟩ := readMembers_eq_ok hqs hp
  exact ⟨s, hs, check_property hcheck (hsub _ List.mem_cons_self) hmem hv⟩

theorem item {items : List Json} {schema : Members} (h : Accepts follow (.obj rules) (.arr items))
    (href : Members.get? "$ref" rules = none) (hr : ("items", .obj schema) ∈ rules)
    (hv : v ∈ items) : Accepts follow (.obj schema) v := by
  obtain ⟨s, hs, hcheck⟩ := h
  have hrule : ∀ {beside named listed dependents}, ruleOf beside "items" (.obj schema)
      (readAll (.obj schema)) named listed dependents =
      asOne ((readAll (.obj schema)).map fun s => [.each s]) := fun {_ _ _ _} => rfl
  obtain ⟨rs, beside, here, rfl, hhere, hsub⟩ := rules_of_member hs href hr (by decide)
    fun beside faults hfaults => by
      rw [hrule] at hfaults
      obtain ⟨_, -, rfl⟩ := mapError_eq_error hfaults
      simp
  rw [hrule] at hhere
  obtain ⟨s, hs, rfl⟩ := map_eq_ok (mapError_eq_ok hhere)
  exact ⟨s, hs, check_item hcheck (hsub _ List.mem_cons_self) hv⟩

end Accepts

end DurableFlow.Schema
