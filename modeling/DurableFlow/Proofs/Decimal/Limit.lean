import DurableFlow.Json.Convert
import DurableFlow.Json.Reader
import DurableFlow.Record.Checked
import DurableFlow.Proofs.Outcome
import Mathlib.Data.List.TakeWhile
import Mathlib.Data.List.TakeDrop
import Mathlib.Tactic.Ring

/-!
The limits on what is read. A whole number never has more digits than can be read again, wherever it
came from: from JSON text, from a text in a record, or from another value of a record.
JSON text gives no value in which more arrays and objects stand inside each other than may be opened.
-/

namespace DurableFlow.Decimal

def Limited (n : Int) : Prop := n.natAbs < 10 ^ maxDigits

theorem limited_of_lt_pow {n : Int} (h : n.natAbs < 10 ^ 19) : Limited n := by
  have hpow : (10 : Nat) ^ 19 ≤ 10 ^ maxDigits := Nat.pow_le_pow_right (by omega) (by decide)
  exact Nat.lt_of_lt_of_le h hpow

theorem ofDigits_lt {ds : List Nat} (h : ∀ d ∈ ds, d < 10) : ofDigits ds < 10 ^ ds.length := by
  have hgo : ∀ n, ds.foldl (fun n d => 10 * n + d) n < (n + 1) * 10 ^ ds.length := by
    induction ds with
    | nil => intro n; simp
    | cons d ds ih =>
        intro n
        rw [List.forall_mem_cons] at h
        calc ds.foldl (fun n d => 10 * n + d) (10 * n + d)
            < (10 * n + d + 1) * 10 ^ ds.length := ih h.2 _
          _ ≤ (10 * (n + 1)) * 10 ^ ds.length := Nat.mul_le_mul_right _ (by omega)
          _ = (n + 1) * 10 ^ (d :: ds).length := by rw [List.length_cons]; ring
  simpa [ofDigits] using hgo 0

theorem limited_ofDigits {ds : List Nat} (h : ∀ d ∈ ds, d < 10) (hlength : ds.length ≤ maxDigits)
    (negative : Bool) : Limited (if negative then -(ofDigits ds : Int) else ofDigits ds) := by
  have hpow : (10 : Nat) ^ ds.length ≤ 10 ^ maxDigits := Nat.pow_le_pow_right (by omega) hlength
  have hlt := ofDigits_lt h
  simp only [Limited]
  split <;> omega

theorem decimalValueFrom_lt {n d : Nat} {zs : List Nat}
    (h : Text.decimalValueFrom n zs = some d) : d < 10 := by
  induction zs with
  | nil => contradiction
  | cons z zs ih =>
      rw [Text.decimalValueFrom] at h
      split at h
      · contradiction
      · split at h
        · have hd := Option.some.inj h
          omega
        · exact ih h

end DurableFlow.Decimal

namespace DurableFlow.Numeral

/-! ### Texts in records -/

theorem digit_lt {c : Char} (h : Text.isAsciiDigit c = true) : c.toNat - 48 < 10 := by
  simp only [Text.isAsciiDigit, Bool.and_eq_true, decide_eq_true_eq] at h
  have hc : c.toNat ≤ 57 := h.2
  omega

theorem limited_of_plain {cs : List Char} {n : Int} (h : plain cs = .ok n) : Decimal.Limited n := by
  simp only [plain] at h
  generalize (if cs.head? = some '-' then cs.tail else cs) = body at h
  have hdigits : ∀ d ∈ (body.takeWhile Text.isAsciiDigit).map fun c => c.toNat - 48, d < 10 := by
    intro d hd
    obtain ⟨c, hc, rfl⟩ := List.mem_map.mp hd
    exact digit_lt (List.mem_takeWhile_imp hc)
  by_cases hzero : body = ['0']
  · rw [if_pos hzero] at h
    exact Except.ok.inj h ▸ Decimal.limited_of_lt_pow (by decide)
  rw [if_neg hzero] at h
  split at h
  · contradiction
  split at h
  · contradiction
  next hlength =>
    split at h
    · contradiction
    · have hlimited := Decimal.limited_ofDigits hdigits (by simpa using hlength)
        (decide (cs.head? = some '-'))
      simp only [decide_eq_true_eq] at hlimited
      exact Except.ok.inj h ▸ hlimited

theorem limited_of_int {s : String} {n : Int} (h : int s = .ok n) : Decimal.Limited n := by
  rw [int] at h
  split at h
  · split at h
    · exact limited_of_plain h
    · contradiction
  · exact limited_of_plain h

end DurableFlow.Numeral

namespace DurableFlow.Json

/-! ### JSON text -/

mutual

/-- All whole numbers in the value have no more digits than are read. -/
def Limited : Json → Prop
  | .int n => Decimal.Limited n
  | .arr items => LimitedItems items
  | .obj ms => LimitedMembers ms
  | _ => True

def LimitedItems : List Json → Prop
  | [] => True
  | v :: vs => Limited v ∧ LimitedItems vs

def LimitedMembers : List (String × Json) → Prop
  | [] => True
  | (_, v) :: ms => Limited v ∧ LimitedMembers ms

end

mutual

/-- How many arrays and objects stand inside each other. -/
def nesting : Json → Nat
  | .arr items => nestingItems items + 1
  | .obj ms => nestingMembers ms + 1
  | _ => 0

def nestingItems : List Json → Nat
  | [] => 0
  | v :: vs => max (nesting v) (nestingItems vs)

def nestingMembers : List (String × Json) → Nat
  | [] => 0
  | (_, v) :: ms => max (nesting v) (nestingMembers ms)

end

theorem LimitedMembers.get? {ms : Members} (h : LimitedMembers ms) {key : String} {v : Json}
    (hv : Members.get? key ms = some v) : v.Limited := by
  induction ms with
  | nil => contradiction
  | cons m ms ih =>
      obtain ⟨k, w⟩ := m
      rw [Members.get?] at hv
      split at hv
      · exact Option.some.inj hv ▸ h.1
      · exact ih h.2 hv

theorem LimitedMembers.set {ms : Members} (h : LimitedMembers ms) (key : String) {v : Json}
    (hv : v.Limited) : LimitedMembers (Members.set key v ms) := by
  induction ms with
  | nil => exact ⟨hv, trivial⟩
  | cons m ms ih =>
      obtain ⟨k, w⟩ := m
      rw [Members.set]
      split
      · exact ⟨hv, h.2⟩
      · exact ⟨h.1, ih h.2⟩

theorem nestingMembers_set_le {ms : Members} {n : Nat} (h : nestingMembers ms ≤ n) (key : String)
    {v : Json} (hv : v.nesting ≤ n) : nestingMembers (Members.set key v ms) ≤ n := by
  induction ms with
  | nil => exact Nat.max_le.mpr ⟨hv, Nat.zero_le n⟩
  | cons m ms ih =>
      obtain ⟨hm, hms⟩ := Nat.max_le.mp h
      rw [Members.set]
      split
      · exact Nat.max_le.mpr ⟨hv, hms⟩
      · exact Nat.max_le.mpr ⟨hm, ih hms⟩

/-- Setting members over others keeps both limits. -/
theorem within_merge {front ms : Members} {n : Nat}
    (hfront : LimitedMembers front ∧ nestingMembers front ≤ n)
    (h : LimitedMembers ms ∧ nestingMembers ms ≤ n) :
    LimitedMembers (Members.merge front ms) ∧ nestingMembers (Members.merge front ms) ≤ n := by
  induction ms generalizing front with
  | nil => exact hfront
  | cons m ms ih =>
      obtain ⟨hm, hms⟩ := Nat.max_le.mp h.2
      exact ih ⟨hfront.1.set m.1 h.1.1, nestingMembers_set_le hfront.2 m.1 hm⟩ ⟨h.1.2, hms⟩

theorem takeWhole_digits (cs : List Char) : ∀ c ∈ (takeWhole cs).1, Text.isAsciiDigit c = true := by
  rw [takeWhole.eq_def]
  split
  · simp [Text.isAsciiDigit]
  · rw [List.span_eq_takeWhile_dropWhile]
    exact fun c hc => List.mem_takeWhile_imp hc

theorem within_of_readNumber {cs rest : List Char} {v : Json} (h : readNumber cs = .ok (v, rest)) :
    v.Limited ∧ v.nesting = 0 := by
  simp only [readNumber] at h
  generalize (if (cs.head? == some '-') = true then cs.tail else cs) = unsigned at h
  have hdigits := takeWhole_digits unsigned
  split at h
  · contradiction
  next whole rest' _ hwhole =>
    rw [hwhole] at hdigits
    split at h
    · split at h
      · contradiction
      next hlength =>
        have hvalues : ∀ d ∈ whole.map fun c => c.toNat - 48, d < 10 := by
          intro d hd
          obtain ⟨c, hc, rfl⟩ := List.mem_map.mp hd
          exact Numeral.digit_lt (hdigits c hc)
        have hlimited := Decimal.limited_ofDigits hvalues (by simpa using hlength)
          (cs.head? == some '-')
        rw [Decimal.ofDigits, List.foldl_map] at hlimited
        obtain ⟨rfl, -⟩ := Prod.mk.inj (Except.ok.inj h)
        exact ⟨hlimited, rfl⟩
    · obtain ⟨rfl, -⟩ := Prod.mk.inj (Except.ok.inj h)
      exact ⟨trivial, rfl⟩

theorem within_of_readName? {cs rest : List Char} {v : Json} (h : readName? cs = some (v, rest)) :
    v.Limited ∧ v.nesting = 0 := by
  simp only [readName?, Option.orElse_eq_orElse, Option.orElse_eq_or, Option.or_eq_some_iff] at h
  rcases h with h | ⟨-, h | ⟨-, h | ⟨-, h | ⟨-, h | ⟨-, h⟩⟩⟩⟩⟩
  all_goals
    obtain ⟨_, -, hpair⟩ := Option.map_eq_some_iff.mp h
    obtain ⟨rfl, -⟩ := Prod.mk.inj hpair
    exact ⟨trivial, rfl⟩

/-- With so many steps the reader gives only values within its limits. -/
structure ReadsWithin (fuel : Nat) : Prop where
  value : ∀ {depth cs v rest}, readValue fuel depth cs = .ok (v, rest) →
    v.Limited ∧ v.nesting ≤ depth
  items : ∀ {depth cs vs rest}, readItems fuel depth cs = .ok (vs, rest) →
    LimitedItems vs ∧ nestingItems vs ≤ depth
  members : ∀ {depth cs ms rest}, readMembers fuel depth cs = .ok (ms, rest) →
    LimitedMembers ms ∧ nestingMembers ms ≤ depth

namespace ReadsWithin

variable {fuel depth : Nat} {cs rest : List Char}

theorem value_succ (ih : ReadsWithin fuel) {v : Json}
    (h : readValue (fuel + 1) depth cs = .ok (v, rest)) : v.Limited ∧ v.nesting ≤ depth := by
  rw [readValue.eq_def] at h
  simp only at h
  -- A string, an array, an object, and what has no mark of its own.
  split at h
  · obtain ⟨p, -, hp⟩ := map_eq_ok h
    obtain ⟨rfl, -⟩ := Prod.mk.inj hp
    exact ⟨trivial, Nat.zero_le depth⟩
  · contradiction
  · split at h
    · obtain ⟨rfl, -⟩ := Prod.mk.inj (Except.ok.inj h)
      exact ⟨trivial, Nat.le_add_left 1 _⟩
    · obtain ⟨p, hitems, hp⟩ := map_eq_ok h
      obtain ⟨rfl, -⟩ := Prod.mk.inj hp
      obtain ⟨hlimited, hnesting⟩ := ih.items hitems
      exact ⟨hlimited, Nat.succ_le_succ hnesting⟩
  · contradiction
  · split at h
    · obtain ⟨rfl, -⟩ := Prod.mk.inj (Except.ok.inj h)
      exact ⟨trivial, Nat.le_add_left 1 _⟩
    · obtain ⟨p, hms, hp⟩ := map_eq_ok h
      obtain ⟨rfl, -⟩ := Prod.mk.inj hp
      have hnil (n : Nat) : LimitedMembers [] ∧ nestingMembers [] ≤ n := ⟨trivial, Nat.zero_le n⟩
      obtain ⟨hlimited, hnesting⟩ := within_merge (hnil _) (ih.members hms)
      exact ⟨hlimited, Nat.succ_le_succ hnesting⟩
  · have hscalar : v.Limited ∧ v.nesting = 0 := by
      split at h
      · next hname => exact within_of_readName? (Except.ok.inj h ▸ hname)
      · exact within_of_readNumber h
    exact ⟨hscalar.1, hscalar.2 ▸ Nat.zero_le depth⟩

theorem items_succ (ih : ReadsWithin fuel) {vs : List Json}
    (h : readItems (fuel + 1) depth cs = .ok (vs, rest)) :
    LimitedItems vs ∧ nestingItems vs ≤ depth := by
  rw [readItems] at h
  split at h
  · contradiction
  next w rest' hvalue =>
    obtain ⟨hw, hnesting⟩ := ih.value hvalue
    split at h
    · obtain ⟨rfl, -⟩ := Prod.mk.inj (Except.ok.inj h)
      exact ⟨⟨hw, trivial⟩, Nat.max_le.mpr ⟨hnesting, Nat.zero_le depth⟩⟩
    · obtain ⟨p, hitems, hp⟩ := map_eq_ok h
      obtain ⟨rfl, -⟩ := Prod.mk.inj hp
      obtain ⟨hrest, hnesting'⟩ := ih.items hitems
      exact ⟨⟨hw, hrest⟩, Nat.max_le.mpr ⟨hnesting, hnesting'⟩⟩
    · contradiction

theorem members_succ (ih : ReadsWithin fuel) {ms : Members}
    (h : readMembers (fuel + 1) depth cs = .ok (ms, rest)) :
    LimitedMembers ms ∧ nestingMembers ms ≤ depth := by
  rw [readMembers.eq_def] at h
  simp only at h
  split at h
  · split at h
    · contradiction
    · split at h
      · split at h
        · contradiction
        next w rest' hvalue =>
          obtain ⟨hw, hnesting⟩ := ih.value hvalue
          split at h
          · obtain ⟨rfl, -⟩ := Prod.mk.inj (Except.ok.inj h)
            exact ⟨⟨hw, trivial⟩, Nat.max_le.mpr ⟨hnesting, Nat.zero_le depth⟩⟩
          · obtain ⟨p, hms, hp⟩ := map_eq_ok h
            obtain ⟨rfl, -⟩ := Prod.mk.inj hp
            obtain ⟨hrest, hnesting'⟩ := ih.members hms
            exact ⟨⟨hw, hrest⟩, Nat.max_le.mpr ⟨hnesting, hnesting'⟩⟩
          · contradiction
      · contradiction
  · contradiction

end ReadsWithin

theorem readsWithin (fuel : Nat) : ReadsWithin fuel := by
  induction fuel with
  | zero => constructor <;> simp [readValue, readItems, readMembers]
  | succ fuel ih => exact ⟨ih.value_succ, ih.items_succ, ih.members_succ⟩

/-- Reads a whole text, like `readChars`, where that many arrays and objects may be opened. -/
def readWithin (depth : Nat) (cs : List Char) : Except ReadFault Json :=
  if cs.head? == some (Char.ofNat 0xFEFF) then .error ⟨.byteOrderMark, cs.length⟩
  else
    match readValue (2 * cs.length + 1) depth (skipSpace cs) with
    | .error e => .error e
    | .ok (v, rest) =>
      match skipSpace rest with
      | [] => .ok v
      | other => .error ⟨.extraData, other.length⟩

theorem readChars_eq (cs : List Char) : readChars cs = readWithin maxDepth cs := rfl

/-- What is read from a text is within the limits. -/
theorem within_of_readWithin {depth : Nat} {cs : List Char} {v : Json}
    (h : readWithin depth cs = .ok v) : v.Limited ∧ v.nesting ≤ depth := by
  rw [readWithin] at h
  split at h
  · contradiction
  · split at h
    · contradiction
    next w rest hvalue =>
      split at h
      · exact Except.ok.inj h ▸ (readsWithin _).value hvalue
      · contradiction

theorem parse_eq_ok_iff {s : String} {v : Json} :
    parse s = .ok v ↔ readWithin maxDepth s.toList = .ok v := by
  rw [parse, readChars_eq]
  cases readWithin maxDepth s.toList with
  | ok w => simp
  | error e =>
      dsimp only
      split <;> simp

theorem limited_of_parse {s : String} {v : Json} (h : parse s = .ok v) : v.Limited :=
  (within_of_readWithin (parse_eq_ok_iff.mp h)).1

end DurableFlow.Json

namespace DurableFlow.Checked

/-! ### Fields of records -/

theorem limited_of_floatInt {x : Binary64} {n : Int} (h : floatInt x = .ok n) :
    Decimal.Limited n := by
  rw [floatInt] at h
  split at h
  · contradiction
  · split at h
    · contradiction
    · split at h
      next hsize =>
        obtain rfl := Checked.ok.inj h
        exact Decimal.limited_of_lt_pow (Nat.lt_of_lt_of_le hsize (by decide))
      · contradiction

/-- A whole number of a record has no more digits than are read, when the value in its place has
none. -/
theorem limited_of_int {v : Json} {n : Int} (hv : v.Limited) (h : int v = .ok n) :
    Decimal.Limited n := by
  cases v with
  | int m => exact Checked.ok.inj h ▸ hv
  | bool b =>
      obtain rfl := Checked.ok.inj h
      cases b <;> exact Decimal.limited_of_lt_pow (by decide)
  | str s =>
      rw [int] at h
      split at h
      · next hread => exact Checked.ok.inj h ▸ Numeral.limited_of_int hread
      · contradiction
  | float x => exact limited_of_floatInt h
  | null => contradiction
  | arr items => contradiction
  | obj ms => contradiction

end DurableFlow.Checked
