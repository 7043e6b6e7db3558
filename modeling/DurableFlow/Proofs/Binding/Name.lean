import DurableFlow.Binding.Basic
import DurableFlow.Proofs.Json.Spelling
import DurableFlow.Proofs.Outcome

/-!
The names of resources. Whatever a name is taken from, letters, digits and underscores are all that is
left of it, and something is left: the name of a resource can be a member of the environment.
-/

namespace DurableFlow

theorem Decimal.magnitudeText_ne_nil (mantissa : Nat) (exponent : Int) :
    magnitudeText mantissa exponent ≠ [] := by
  rw [magnitudeText]
  split
  · simp
  · dsimp only
    split
    · rw [positional]
      split
      · simp
      · dsimp only
        split <;> simp
    · simp [scientific]

theorem append_ne_empty {s t : String} (h : s ≠ "" ∨ t ≠ "") : s ++ t ≠ "" := by
  rw [Ne, String.append_eq_empty_iff, not_and_or]
  exact h

theorem toString_int_ne_empty (k : Int) : toString k ≠ "" := by
  cases k with
  | ofNat m =>
      intro h
      have hdigits := Nat.length_toDigits_pos (b := 10) (n := m)
      rw [← Nat.toList_repr, show Nat.repr m = "" from h] at hdigits
      contradiction
  | negSucc m => exact append_ne_empty (.inl (by decide))

theorem Json.plainText_ne_empty {v : Json} (h : v.isGiven = true) : v.plainText ≠ "" := by
  cases v with
  | null => contradiction
  | bool b =>
      cases b with
      | false => contradiction
      | true => decide
  | int k => exact toString_int_ne_empty k
  | float x =>
      cases x with
      | nan => decide
      | infinite negative => cases negative <;> decide
      | finite negative m e hnormal =>
          refine append_ne_empty (.inr fun hempty => Decimal.magnitudeText_ne_nil m e ?_)
          rw [← String.toList_inj, String.toList_ofList] at hempty
          exact hempty
  | str s =>
      show s ≠ ""
      simpa [isGiven] using h
  | arr items => exact append_ne_empty (.inl (append_ne_empty (.inl (by decide))))
  | obj ms => exact append_ne_empty (.inl (append_ne_empty (.inl (by decide))))

theorem Json.plainText_orElse_ne_empty (v : Json) {default : String} (h : default ≠ "") :
    (v.orElse (.str default)).plainText ≠ "" := by
  rw [orElse]
  split
  · rename_i hgiven
    exact plainText_ne_empty hgiven
  · exact h

/-- The name has letters, digits and underscores only, and at least one of them. -/
def IsSafe (name : String) : Prop := name ≠ "" ∧ ∀ ch ∈ name.toList, Text.isAsciiWord ch = true

theorem isSafe_safeName {name : String} (h : name ≠ "") : IsSafe (safeName name) := by
  refine ⟨fun hempty => h ?_, fun ch hch => ?_⟩
  · rw [safeName, ← String.toList_inj, String.toList_ofList] at hempty
    rw [← String.toList_inj]
    simpa using hempty
  · rw [safeName, String.toList_ofList] at hch
    obtain ⟨given, -, rfl⟩ := List.mem_map.mp hch
    rw [safeChar]
    split
    · assumption
    · decide

theorem isSafe_kvNamespace {n : Node} {c : Catalog} {key name : String}
    (h : n.kvNamespace c key = .ok name) : IsSafe name := by
  have hfallback : (do
      let chosen ← (do
        let declared ← c.schemaDefault n.type key
        return (declared.orElse (.str Builtin.kvBinding)).plainText : Except Fault String)
      pure (safeName chosen)) = .ok name → IsSafe name := by
    intro h
    obtain ⟨chosen, hchosen, h⟩ := bind_eq_ok h
    obtain ⟨declared, -, hchosen⟩ := bind_eq_ok hchosen
    obtain rfl := Except.ok.inj hchosen
    obtain rfl := Except.ok.inj h
    exact isSafe_safeName (declared.plainText_orElse_ne_empty (by decide))
  rw [Node.kvNamespace] at h
  split at h
  · split at h
    · rename_i given _ hgiven
      obtain rfl := Except.ok.inj h
      simp only [Bool.and_eq_true, decide_eq_true_eq] at hgiven
      exact isSafe_safeName hgiven.1
    · exact hfallback h
  · exact hfallback h

theorem isSafe_cacheNamespace {n : Node} {c : Catalog} {s : CompilerSettings} {name : String}
    (h : n.cacheNamespace c s = .ok (some name)) : IsSafe name := by
  rw [Node.cacheNamespace] at h
  obtain ⟨ttl, -, h⟩ := bind_eq_ok h
  split at h
  · cases h
  · obtain ⟨given, hgiven, h⟩ := bind_eq_ok h
    obtain rfl := Option.some.inj (Except.ok.inj h)
    exact isSafe_kvNamespace hgiven

theorem isSafe_d1Database (n : Node) (key : String) : IsSafe (n.d1Database key) :=
  isSafe_safeName (Json.plainText_orElse_ne_empty _ (by decide))

theorem isSafe_aiBinding : IsSafe Builtin.aiBinding := ⟨by decide, List.all_eq_true.mp (by decide)⟩

end DurableFlow
