import DurableFlow.Expression.Resolver
import DurableFlow.Proofs.Json.Unambiguous

/-!
Values without references. Whatever the resolver knows, such a value is rendered as JSON text that
spells the value and nothing else, and a reader of JSON gets it back with its members in their order.
Keys are quoted as they are, also where they look like references.
-/

namespace DurableFlow.Resolver

open Template

theorem string_eq_quote (r : Resolver) {s : String} (h : hasRefs s = false) :
    r.string s = Json.quote s := by
  rw [hasRefs] at h
  rw [string]
  split
  next inner hpieces =>
    rw [hpieces] at h
    contradiction
  next => rw [if_neg (by simp [h])]

theorem blank_space : Json.Blank " ".toList := Json.blank_space

mutual

theorem spells_value (r : Resolver) (v : Json) (h : inValue v = false) :
    Json.Spells v (r.value v).toList := by
  match v with
  | .null => rfl
  | .bool b => rfl
  | .int n => rfl
  | .float x => rfl
  | .str s => rw [value, r.string_eq_quote h]; rfl
  | .arr [] => exact ⟨[], _, Json.blank_nil, by simp [value, valueItems], .inl ⟨rfl, rfl⟩⟩
  | .arr (v :: vs) =>
      refine ⟨[], _, Json.blank_nil, ?_, .inr (Json.spellsItems_intercalate
        (spells_valueItems r (v :: vs) h) (by simp) blank_space Json.blank_nil)⟩
      simp [value]
  | .obj [] => exact ⟨[], _, Json.blank_nil, by simp [value], .inl ⟨rfl, rfl⟩⟩
  | .obj (m :: ms) =>
      refine ⟨[' '], _, Json.blank_space, ?_, .inr (Json.spellsMembers_intercalate
        (spells_valueMembers r (m :: ms) h) (by simp) blank_space Json.blank_space)⟩
      simp [value, braced]

theorem spells_valueItems (r : Resolver) (items : List Json) (h : inItems items = false) :
    List.Forall₂ (fun v t => Json.Spells v t.toList) items (valueItems r items) := by
  match items with
  | [] => exact .nil
  | v :: vs =>
      obtain ⟨hv, hvs⟩ := Bool.or_eq_false_iff.mp h
      exact .cons (spells_value r v hv) (spells_valueItems r vs hvs)

theorem spells_valueMembers (r : Resolver) (ms : Members) (h : inMembers ms = false) :
    List.Forall₂ Json.SpellsMember ms (valueMembers r ms) := by
  match ms with
  | [] => exact .nil
  | (k, v) :: ms =>
      obtain ⟨hv, hms⟩ := Bool.or_eq_false_iff.mp h
      exact .cons ⟨_, rfl, spells_value r v hv⟩ (spells_valueMembers r ms hms)

end

/-- What is rendered for a value without references is JSON text of that value and of no other. A reader
gets the value from it where as many arrays and objects may be opened as stand inside each other, unless
a whole number is longer than any that is read. -/
theorem value_reads_back (r : Resolver) {v : Json} (hkeys : v.Distinct) (h : inValue v = false) :
    (∀ w, Json.Spells w (r.value v).toList ↔ w = v) ∧
      (∀ depth, Json.readWithin depth (r.value v).toList = .ok v ↔ v.Limited ∧ v.nesting ≤ depth) ∧
      (Json.parse (r.value v) = .ok v ↔ v.Within) := by
  have hspells := spells_value r v h
  refine ⟨fun w => ⟨fun hw => hw.unique hspells, fun hw => hw ▸ hspells⟩, ?_, ?_⟩
  · exact fun depth => Json.readWithin_spells_iff hkeys hspells
  · rw [Json.parse_eq_ok_iff, Json.readWithin_spells_iff hkeys hspells, Json.Within]

/-- A key that looks like a reference to a step, escapes, a character beyond the basic plane, a fraction,
empty containers, and keys out of order. -/
def awkwardValue : Json :=
  .obj [("\x7b\x7bfetch.output\x7d\x7d", .str "\"\\\n\x7b\x7b 𝄞"),
    ("b", .arr [.obj [], .arr [], .null, .int (-7), .float (Binary64.ofDecimal false 25 (-2))]),
    ("a", .obj [("", .bool true)])]

theorem value_reads_back_awkward :
    awkwardValue.Distinct ∧ inValue awkwardValue = false ∧
      (∀ w, Json.Spells w ((⟨["fetch"]⟩ : Resolver).value awkwardValue).toList ↔ w = awkwardValue) ∧
      Json.parse ((⟨["fetch"]⟩ : Resolver).value awkwardValue) = .ok awkwardValue := by
  have hkeys : awkwardValue.Distinct := by decide
  have hplain : inValue awkwardValue = false := by decide
  have hwithin : awkwardValue.Within :=
    ⟨⟨trivial, ⟨trivial, trivial, trivial, Decimal.limited_of_lt_pow (by decide), trivial, trivial⟩,
      ⟨trivial, trivial⟩, trivial⟩, by decide⟩
  obtain ⟨hspells, -, hparse⟩ := value_reads_back ⟨["fetch"]⟩ hkeys hplain
  exact ⟨hkeys, hplain, hspells, hparse.mpr hwithin⟩

end DurableFlow.Resolver
