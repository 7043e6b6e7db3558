import DurableFlow.Proofs.Json.Number

/-!
Values that are written to be read again. A value is written when its whole numbers are not too long
and it is not nested too deeply, which are the limits of the reader too. Main statement: a value with
distinct keys is read back from its text, whatever numbers, texts and nulls it holds.
-/

namespace DurableFlow.Json

mutual

/-- No object in the value has a key twice. -/
def Distinct : Json → Prop
  | .arr items => DistinctItems items
  | .obj ms => (ms.map Prod.fst).Nodup ∧ DistinctMembers ms
  | _ => True

def DistinctItems : List Json → Prop
  | [] => True
  | v :: vs => Distinct v ∧ DistinctItems vs

def DistinctMembers : List (String × Json) → Prop
  | [] => True
  | (_, v) :: ms => Distinct v ∧ DistinctMembers ms

end

mutual

instance decidableDistinct : (v : Json) → Decidable v.Distinct
  | .null | .bool _ | .int _ | .float _ | .str _ => .isTrue trivial
  | .arr items => decidableDistinctItems items
  | .obj ms => @instDecidableAnd _ _ inferInstance (decidableDistinctMembers ms)

instance decidableDistinctItems : (items : List Json) → Decidable (DistinctItems items)
  | [] => .isTrue trivial
  | v :: vs => @instDecidableAnd _ _ (decidableDistinct v) (decidableDistinctItems vs)

instance decidableDistinctMembers : (ms : List (String × Json)) → Decidable (DistinctMembers ms)
  | [] => .isTrue trivial
  | (_, v) :: ms => @instDecidableAnd _ _ (decidableDistinct v) (decidableDistinctMembers ms)

end

theorem distinctItems_iff {items : List Json} : DistinctItems items ↔ ∀ v ∈ items, v.Distinct := by
  induction items with
  | nil => simp [DistinctItems]
  | cons v vs ih => rw [DistinctItems, ih, List.forall_mem_cons]

theorem DistinctMembers.get? {ms : Members} (h : DistinctMembers ms) {key : String} {v : Json}
    (hv : Members.get? key ms = some v) : v.Distinct := by
  induction ms with
  | nil => contradiction
  | cons m ms ih =>
      obtain ⟨k, w⟩ := m
      rw [Members.get?] at hv
      split at hv
      · exact Option.some.inj hv ▸ h.1
      · exact ih h.2 hv

theorem limitedItems_iff {items : List Json} : LimitedItems items ↔ ∀ v ∈ items, v.Limited := by
  induction items with
  | nil => simp [LimitedItems]
  | cons v vs ih => rw [LimitedItems, ih, List.forall_mem_cons]

theorem nestingItems_le_iff {items : List Json} {n : Nat} :
    nestingItems items ≤ n ↔ ∀ v ∈ items, v.nesting ≤ n := by
  induction items with
  | nil => simp [nestingItems]
  | cons v vs ih => rw [nestingItems, Nat.max_le, ih, List.forall_mem_cons]

def Within (v : Json) : Prop := v.Limited ∧ v.nesting ≤ maxDepth

/-! ### The limits -/

theorem checks_eq_ok_iff {ε : Type} {x y : Except ε Unit} :
    (x >>= fun _ => y) = .ok () ↔ x = .ok () ∧ y = .ok () := by
  cases x with
  | error e => simp [bind, Except.bind]
  | ok u => simp [bind, Except.bind]

mutual

/-- Only a number that is too long and nesting that is too deep are refused. -/
theorem checkAt_eq_ok_iff (v : Json) (depth : Nat) :
    checkAt depth v = .ok () ↔ v.Limited ∧ v.nesting ≤ depth := by
  match v, depth with
  | .null, _ => simp [checkAt, Limited, nesting]
  | .bool b, _ => simp [checkAt, Limited, nesting]
  | .float x, _ => simp [checkAt, Limited, nesting]
  | .str s, _ => simp [checkAt, Limited, nesting]
  | .int n, _ => simp [checkAt, Limited, nesting, Decimal.Limited]
  | .arr items, 0 => simp [checkAt, nesting]
  | .obj ms, 0 => simp [checkAt, nesting]
  | .arr items, depth + 1 =>
      rw [checkAt, checkItems_eq_ok_iff items depth, Limited, nesting, Nat.add_le_add_iff_right]
  | .obj ms, depth + 1 =>
      rw [checkAt, checkMembers_eq_ok_iff ms depth, Limited, nesting, Nat.add_le_add_iff_right]

theorem checkItems_eq_ok_iff (items : List Json) (depth : Nat) :
    checkItems depth items = .ok () ↔ LimitedItems items ∧ nestingItems items ≤ depth := by
  match items with
  | [] => simp [checkItems, LimitedItems, nestingItems]
  | v :: vs =>
      rw [checkItems, checks_eq_ok_iff, checkAt_eq_ok_iff v depth, checkItems_eq_ok_iff vs depth,
        LimitedItems, nestingItems, Nat.max_le]
      tauto

theorem checkMembers_eq_ok_iff (ms : Members) (depth : Nat) :
    checkMembers depth ms = .ok () ↔ LimitedMembers ms ∧ nestingMembers ms ≤ depth := by
  match ms with
  | [] => simp [checkMembers, LimitedMembers, nestingMembers]
  | (k, v) :: ms =>
      rw [checkMembers, checks_eq_ok_iff, checkAt_eq_ok_iff v depth, checkMembers_eq_ok_iff ms depth,
        LimitedMembers, nestingMembers, Nat.max_le]
      tauto

end

theorem write_eq_ok_iff {v : Json} {text : String} :
    v.write = .ok text ↔ v.Within ∧ text = v.pretty := by
  rw [Within, ← checkAt_eq_ok_iff, write]
  cases checkAt maxDepth v with
  | error f => simp [bind, Except.bind]
  | ok u => simp [bind, Except.bind, pure, Except.pure, eq_comm]

/-! ### Reading back -/

mutual

/-- Apart from keys that come twice, nothing but the limits keeps a value from being read. -/
theorem legible_of_distinct (v : Json) {depth : Nat} (hkeys : v.Distinct) (hlimited : v.Limited)
    (hdepth : v.nesting ≤ depth) : v.Legible depth := by
  match v with
  | .null => trivial
  | .bool b => trivial
  | .str s => trivial
  | .int n => exact hlimited
  | .float x => exact scalarText_float x
  | .arr items =>
      rw [nesting] at hdepth
      exact ⟨by omega, legibleItems_of_distinct items hkeys hlimited (by omega)⟩
  | .obj ms =>
      rw [nesting] at hdepth
      exact ⟨by omega, hkeys.1, legibleMembers_of_distinct ms hkeys.2 hlimited (by omega)⟩

theorem legibleItems_of_distinct (items : List Json) {depth : Nat} (hkeys : DistinctItems items)
    (hlimited : LimitedItems items) (hdepth : nestingItems items ≤ depth) :
    LegibleItems items depth := by
  match items with
  | [] => trivial
  | v :: vs =>
      rw [nestingItems, Nat.max_le] at hdepth
      exact ⟨legible_of_distinct v hkeys.1 hlimited.1 hdepth.1,
        legibleItems_of_distinct vs hkeys.2 hlimited.2 hdepth.2⟩

theorem legibleMembers_of_distinct (ms : Members) {depth : Nat} (hkeys : DistinctMembers ms)
    (hlimited : LimitedMembers ms) (hdepth : nestingMembers ms ≤ depth) :
    LegibleMembers ms depth := by
  match ms with
  | [] => trivial
  | (k, v) :: ms =>
      rw [nestingMembers, Nat.max_le] at hdepth
      exact ⟨legible_of_distinct v hkeys.1 hlimited.1 hdepth.1,
        legibleMembers_of_distinct ms hkeys.2 hlimited.2 hdepth.2⟩

end

/-- A value with distinct keys is read from its spellings, unless it passes a limit. -/
theorem readWithin_spells_iff {v : Json} {depth : Nat} {cs : List Char} (hkeys : v.Distinct)
    (h : Spells v cs) : readWithin depth cs = .ok v ↔ v.Limited ∧ v.nesting ≤ depth :=
  ⟨within_of_readWithin, fun hlimits =>
    readWithin_spells (legible_of_distinct v hkeys hlimits.1 hlimits.2) h⟩

theorem parse_write {v : Json} {text : String} (hkeys : v.Distinct) (h : v.write = .ok text) :
    parse text = .ok v := by
  obtain ⟨⟨hlimited, hdepth⟩, rfl⟩ := write_eq_ok_iff.mp h
  exact parse_pretty (legible_of_distinct v hkeys hlimited hdepth)

theorem write_no_return {v : Json} {text : String} (h : v.write = .ok text) : '\r' ∉ text.toList := by
  obtain ⟨-, rfl⟩ := write_eq_ok_iff.mp h
  exact prettyAt_no_return v 0

end DurableFlow.Json
