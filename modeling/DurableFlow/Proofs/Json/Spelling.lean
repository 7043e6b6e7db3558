import DurableFlow.Json.Writer
import DurableFlow.Proofs.Decimal.Limit
import DurableFlow.Proofs.Json.Quoted
import DurableFlow.Proofs.Text.Class
import DurableFlow.Proofs.Text.Split
import Mathlib.Data.Nat.Digits.Lemmas

/-!
Spellings of JSON values. The spellings of a value differ in the blanks around the marks of its arrays
and objects. Reading any spelling of a value gives the value, as long as its numbers are not too long,
its keys are distinct and it is not nested too deeply. Main statement: a value that is written over
several lines reads back.
-/

namespace DurableFlow.Json

/-! ### Blanks and numbers -/

def Blank (cs : List Char) : Prop := ∀ c ∈ cs, isSpace c = true

theorem blank_nil : Blank [] := fun _ hc => absurd hc List.not_mem_nil

theorem blank_space : Blank [' '] := fun _ hc => List.mem_singleton.mp hc ▸ rfl

theorem skipSpace_blank {pad : List Char} (h : Blank pad) (cs : List Char) :
    skipSpace (pad ++ cs) = skipSpace cs := by
  rw [skipSpace, List.dropWhile_append_of_pos h]
  rfl

theorem skipSpace_cons {c : Char} (h : isSpace c = false) (cs : List Char) :
    skipSpace (c :: cs) = c :: cs := by
  rw [skipSpace, List.dropWhile_cons_of_neg (by simp [h])]

/-- What may stand behind a number: nothing that would be read as a part of it. -/
def EndsNumber (rest : List Char) : Prop :=
  ∀ c ∈ rest.head?, Text.isAsciiDigit c = false ∧ c ≠ '.' ∧ c ≠ 'e' ∧ c ≠ 'E'

theorem EndsNumber.cons {c : Char} (hdigit : Text.isAsciiDigit c = false)
    (h : c ≠ '.' ∧ c ≠ 'e' ∧ c ≠ 'E') (rest : List Char) : EndsNumber (c :: rest) := by
  intro d hd
  obtain rfl : c = d := by simpa using hd
  exact ⟨hdigit, h⟩

theorem EndsNumber.blank {pad rest : List Char} (hpad : Blank pad) (hrest : EndsNumber rest) :
    EndsNumber (pad ++ rest) := by
  cases pad with
  | nil => exact hrest
  | cons c pad =>
      have hc : isSpace c = true := hpad c List.mem_cons_self
      simp only [isSpace, Bool.or_eq_true, decide_eq_true_eq] at hc
      rcases hc with ((rfl | rfl) | rfl) | rfl
      all_goals exact .cons (by decide) (by decide) _

theorem isAsciiDigit_of_mem_toDigits {n : Nat} {c : Char} (h : c ∈ Nat.toDigits 10 n) :
    Text.isAsciiDigit c = true := by
  exact Nat.isDigit_of_mem_toDigits (by omega) (by omega) h

theorem head_toDigits_ne_zero {n : Nat} (h : 0 < n) : (Nat.toDigits 10 n).head? ≠ some '0' := by
  induction n using Nat.strongRecOn with
  | ind n ih =>
      by_cases hn : n < 10
      · rw [Nat.toDigits_of_lt_base hn]
        interval_cases n <;> decide
      · rw [Nat.toDigits_of_base_le (by omega) (by omega), List.head?_append_of_ne_nil]
        · exact ih (n / 10) (by omega) (by omega)
        · exact List.ne_nil_of_length_pos Nat.length_toDigits_pos

theorem span_run {ds rest : List Char} (hds : ∀ c ∈ ds, Text.isAsciiDigit c = true)
    (hrest : ∀ c ∈ rest.head?, Text.isAsciiDigit c = false) :
    (ds ++ rest).span Text.isAsciiDigit = (ds, rest) := by
  obtain ⟨htake, hdrop⟩ := Text.run_append hds hrest
  rw [List.span_eq_takeWhile_dropWhile, htake, hdrop]

theorem takeWhole_run {ds rest : List Char} (hds : ∀ c ∈ ds, Text.isAsciiDigit c = true)
    (hne : ds ≠ []) (hhead : ds.head? ≠ some '0')
    (hrest : ∀ c ∈ rest.head?, Text.isAsciiDigit c = false) :
    takeWhole (ds ++ rest) = (ds, rest) := by
  obtain ⟨d, ds', rfl⟩ := List.exists_cons_of_ne_nil hne
  rw [takeWhole.eq_def]
  split
  · next heq => simp_all
  · exact span_run hds hrest

theorem takeWhole_toDigits (n : Nat) {rest : List Char} (hrest : EndsNumber rest) :
    takeWhole (Nat.toDigits 10 n ++ rest) = (Nat.toDigits 10 n, rest) := by
  by_cases hn : n = 0
  · subst hn
    rfl
  · exact takeWhole_run (fun _ hc => isAsciiDigit_of_mem_toDigits hc)
      (List.ne_nil_of_length_pos Nat.length_toDigits_pos)
      (head_toDigits_ne_zero (Nat.pos_of_ne_zero hn)) fun c hc => (hrest c hc).1

theorem takeFraction_of_endsNumber {rest : List Char} (h : EndsNumber rest) :
    takeFraction rest = ([], rest) := by
  cases rest with
  | nil => rfl
  | cons c rest =>
      have hc := (h c rfl).2.1
      rw [takeFraction.eq_def]
      split <;> simp_all

theorem takePower_of_endsNumber {rest : List Char} (h : EndsNumber rest) :
    takePower rest = (none, rest) := by
  cases rest with
  | nil => rfl
  | cons c rest => simp [takePower, (h c rfl).2.2]

theorem digitsValue_toDigits (n : Nat) : digitsValue (Nat.toDigits 10 n) = n :=
  Nat.ofDigitChars_ten_toDigits

theorem toDigits_ne_nil (n : Nat) : Nat.toDigits 10 n ≠ [] :=
  List.ne_nil_of_length_pos Nat.length_toDigits_pos

/-- The digits of a whole number, with a minus in front of them or without: they are read unless there
are too many of them. -/
theorem readNumber_toDigits (negative : Bool) (n : Nat) {rest : List Char}
    (hrest : EndsNumber rest) :
    readNumber ((if negative then ['-'] else []) ++ (Nat.toDigits 10 n ++ rest)) =
      if Decimal.maxDigits < (Nat.toDigits 10 n).length then
        .error ⟨.tooManyDigits (Nat.toDigits 10 n).length,
          ((if negative then ['-'] else []) ++ (Nat.toDigits 10 n ++ rest)).length⟩
      else .ok (.int (if negative then -(n : Int) else n), rest) := by
  have hwhole := takeWhole_toDigits n hrest
  obtain ⟨d, ds, hds⟩ := List.exists_cons_of_ne_nil (toDigits_ne_nil n)
  have hd : d ≠ '-' := by
    rintro rfl
    exact absurd (isAsciiDigit_of_mem_toDigits (hds ▸ List.mem_cons_self)) (by decide)
  have hvalue := digitsValue_toDigits n
  rw [hds] at hvalue
  rw [hds, List.cons_append] at hwhole
  cases negative with
  | true =>
      simp [readNumber, hds, hwhole, hvalue, takeFraction_of_endsNumber hrest,
        takePower_of_endsNumber hrest]
  | false =>
      simp [readNumber, hds, hwhole, hvalue, takeFraction_of_endsNumber hrest,
        takePower_of_endsNumber hrest, hd]

/-! ### Values without parts -/

def readScalar (cs : List Char) : Except ReadFault (Json × List Char) :=
  match readName? cs with
  | some p => .ok p
  | none => readNumber cs

theorem readValue_scalar {c : Char} (hquote : c ≠ '"') (harray : c ≠ '[') (hobject : c ≠ '\x7b')
    (fuel depth : Nat) (cs : List Char) :
    readValue (fuel + 1) depth (c :: cs) = readScalar (c :: cs) := by
  cases hname : readName? (c :: cs) with
  | some p => simp [readValue, readScalar, hname, hquote, harray, hobject]
  | none => simp [readValue, readScalar, hname, hquote, harray, hobject]

/-- The characters that start nothing but the values that have parts, or no value. -/
def marks : List Char :=
  [' ', '\t', '\n', '\r', '"', '[', ']', '\x7b', '\x7d', Char.ofNat 0xFEFF]

theorem readScalar_mark {c : Char} (hc : c ∈ marks) (cs : List Char) (p : Json × List Char) :
    readScalar (c :: cs) ≠ .ok p := by
  simp only [marks, List.mem_cons, List.not_mem_nil, or_false] at hc
  rcases hc with rfl | rfl | rfl | rfl | rfl | rfl | rfl | rfl | rfl | rfl
  all_goals
    simp [readScalar, readName?, Text.after?, readNumber, takeWhole,
      List.span_eq_takeWhile_dropWhile, Text.isAsciiDigit]

/-- The text is read as the value in front of anything but a part of a number. -/
def ScalarText (cs : List Char) (v : Json) : Prop :=
  ∀ rest, EndsNumber rest → readScalar (cs ++ rest) = .ok (v, rest)

namespace ScalarText

variable {cs : List Char} {v : Json}

theorem exists_cons (h : ScalarText cs v) : ∃ c cs', cs = c :: cs' ∧ ∀ x ∈ marks, c ≠ x := by
  have hread := h [] (by simp [EndsNumber])
  cases cs with
  | nil => exact absurd hread (by simp [readScalar, readName?, Text.after?, readNumber, takeWhole])
  | cons c cs' => exact ⟨c, cs', rfl, fun _ hx hc => readScalar_mark (hc ▸ hx) _ _ hread⟩

theorem readValue (h : ScalarText cs v) (fuel depth : Nat) {rest : List Char}
    (hrest : EndsNumber rest) : readValue (fuel + 1) depth (cs ++ rest) = .ok (v, rest) := by
  obtain ⟨c, cs', rfl, hc⟩ := h.exists_cons
  rw [List.cons_append, readValue_scalar (hc '"' (by decide)) (hc '[' (by decide))
    (hc '\x7b' (by decide))]
  exact h rest hrest

end ScalarText

theorem readName?_digit (negative : Bool) {d : Char} (hd : Text.isAsciiDigit d = true)
    (cs : List Char) : readName? ((if negative then ['-'] else []) ++ d :: cs) = none := by
  have hne : ∀ x, Text.isAsciiDigit x = false → ¬x = d := by
    rintro x hx rfl
    rw [hd] at hx
    contradiction
  cases negative with
  | true => simp [readName?, Text.after?, hne _ (show Text.isAsciiDigit 'I' = false by decide)]
  | false => simp [readName?, Text.after?, hne _ (show Text.isAsciiDigit 'n' = false by decide),
      hne _ (show Text.isAsciiDigit 't' = false by decide),
      hne _ (show Text.isAsciiDigit 'f' = false by decide),
      hne _ (show Text.isAsciiDigit 'N' = false by decide),
      hne _ (show Text.isAsciiDigit 'I' = false by decide),
      hne _ (show Text.isAsciiDigit '-' = false by decide)]

theorem readName?_toDigits (negative : Bool) (n : Nat) (rest : List Char) :
    readName? ((if negative then ['-'] else []) ++ (Nat.toDigits 10 n ++ rest)) = none := by
  obtain ⟨d, ds, hds⟩ := List.exists_cons_of_ne_nil (toDigits_ne_nil n)
  rw [hds, List.cons_append]
  exact readName?_digit negative (isAsciiDigit_of_mem_toDigits (hds ▸ List.mem_cons_self)) _

theorem toList_toString_int (n : Int) :
    (toString n).toList = (if n < 0 then ['-'] else []) ++ Nat.toDigits 10 n.natAbs := by
  rw [Int.toString_eq_repr, Int.repr_eq_if]
  by_cases hn : n < 0
  · rw [if_neg (by omega), if_pos hn, String.toList_append, Nat.toList_repr,
      show (-n).toNat = n.natAbs by omega]
    rfl
  · rw [if_pos (by omega), if_neg hn, Nat.toList_repr, show n.toNat = n.natAbs by omega]
    rfl

theorem scalarText_null : ScalarText (compact .null).toList .null := by
  intro rest _
  simp [compact, readScalar, readName?, Text.after?]

theorem scalarText_bool (b : Bool) : ScalarText (compact (.bool b)).toList (.bool b) := by
  intro rest _
  cases b <;> simp [compact, boolText, readScalar, readName?, Text.after?]

theorem readScalar_int (n : Int) {rest : List Char} (hrest : EndsNumber rest) :
    (Decimal.Limited n → readScalar ((compact (.int n)).toList ++ rest) = .ok (.int n, rest)) ∧
      (¬Decimal.Limited n →
        ∃ fault, readScalar ((compact (.int n)).toList ++ rest) = .error fault) := by
  have hvalue : (if n < 0 then -(n.natAbs : Int) else n.natAbs) = n := by
    split <;> omega
  have hlength : Decimal.maxDigits < (Nat.toDigits 10 n.natAbs).length ↔ ¬Decimal.Limited n := by
    rw [← Nat.not_le]
    exact not_congr (Nat.length_toDigits_le_iff (by omega) (by decide))
  have hname := readName?_toDigits (decide (n < 0)) n.natAbs rest
  have hnumber := readNumber_toDigits (decide (n < 0)) n.natAbs hrest
  simp only [decide_eq_true_eq, hvalue] at hname hnumber
  rw [compact, toList_toString_int, List.append_assoc, readScalar, hname]
  simp only [hnumber]
  exact ⟨fun h => if_neg fun hlong => hlength.mp hlong h, fun h => ⟨_, if_pos (hlength.mpr h)⟩⟩

theorem scalarText_int {n : Int} (hn : Decimal.Limited n) :
    ScalarText (compact (.int n)).toList (.int n) :=
  fun _ hrest => (readScalar_int n hrest).1 hn

/-! ### Spellings -/

mutual

/-- The value can be read where that many arrays and objects may still be opened: its whole numbers are
not too long, its other numbers read back, and no object has a key twice. -/
def Legible : Json → (depth : Nat) → Prop
  | .int n, _ => Decimal.Limited n
  | .float x, _ => ScalarText (compact (.float x)).toList (.float x)
  | .arr items, depth => 0 < depth ∧ LegibleItems items (depth - 1)
  | .obj ms, depth => 0 < depth ∧ (ms.map Prod.fst).Nodup ∧ LegibleMembers ms (depth - 1)
  | _, _ => True

def LegibleItems : List Json → (depth : Nat) → Prop
  | [], _ => True
  | v :: vs, depth => Legible v depth ∧ LegibleItems vs depth

def LegibleMembers : List (String × Json) → (depth : Nat) → Prop
  | [], _ => True
  | (_, v) :: ms, depth => Legible v depth ∧ LegibleMembers ms depth

end

mutual

/-- The text spells the value: it is written as on one line, but for the blanks around the marks. -/
def Spells : Json → List Char → Prop
  | .arr items, cs =>
    ∃ pad inner, Blank pad ∧ cs = '[' :: (pad ++ inner) ∧
      ((items = [] ∧ inner = [']']) ∨ SpellsItems items inner)
  | .obj ms, cs =>
    ∃ pad inner, Blank pad ∧ cs = '\x7b' :: (pad ++ inner) ∧
      ((ms = [] ∧ inner = ['\x7d']) ∨ SpellsMembers ms inner)
  | v, cs => cs = v.compact.toList

/-- The text spells the items of an array, at least one, up to the closing bracket. -/
def SpellsItems : List Json → List Char → Prop
  | [], _ => False
  | v :: vs, cs =>
    ∃ text pad rest, Spells v text ∧ Blank pad ∧ cs = text ++ (pad ++ rest) ∧
      ((vs = [] ∧ rest = [']']) ∨
        ∃ pad' more, Blank pad' ∧ rest = ',' :: (pad' ++ more) ∧ SpellsItems vs more)

/-- The text spells the members of an object, at least one, up to the closing brace. -/
def SpellsMembers : List (String × Json) → List Char → Prop
  | [], _ => False
  | (k, v) :: ms, cs =>
    ∃ pad text pad' rest, Blank pad ∧ Spells v text ∧ Blank pad' ∧
      cs = quoteChars k.toList ++ ':' :: (pad ++ (text ++ (pad' ++ rest))) ∧
      ((ms = [] ∧ rest = ['\x7d']) ∨
        ∃ pad'' more, Blank pad'' ∧ rest = ',' :: (pad'' ++ more) ∧ SpellsMembers ms more)

end

theorem spells_str {s : String} {cs : List Char} : Spells (.str s) cs ↔ cs = quoteChars s.toList := by
  simp [Spells, compact, quote]

theorem Spells.exists_cons {v : Json} {depth : Nat} {cs : List Char} (hv : v.Legible depth)
    (h : Spells v cs) :
    ∃ c cs', cs = c :: cs' ∧ isSpace c = false ∧ c ≠ ']' ∧ c ≠ Char.ofNat 0xFEFF := by
  have hscalar {cs : List Char} {v : Json} (h : ScalarText cs v) :
      ∃ c cs', cs = c :: cs' ∧ isSpace c = false ∧ c ≠ ']' ∧ c ≠ Char.ofNat 0xFEFF := by
    obtain ⟨c, cs', rfl, hc⟩ := h.exists_cons
    refine ⟨c, cs', rfl, ?_, hc ']' (by decide), hc _ (by decide)⟩
    simp [isSpace, hc ' ' (by decide), hc '\t' (by decide), hc '\n' (by decide), hc '\r' (by decide)]
  cases v with
  | null => exact h ▸ hscalar scalarText_null
  | bool b => exact h ▸ hscalar (scalarText_bool b)
  | int n => exact h ▸ hscalar (scalarText_int hv)
  | float x => exact h ▸ hscalar hv
  | str s => exact ⟨'"', _, spells_str.mp h, by decide, by decide, by decide⟩
  | arr items =>
      obtain ⟨pad, inner, -, rfl, -⟩ := h
      exact ⟨'[', _, rfl, by decide, by decide, by decide⟩
  | obj ms =>
      obtain ⟨pad, inner, -, rfl, -⟩ := h
      exact ⟨'\x7b', _, rfl, by decide, by decide, by decide⟩

theorem SpellsItems.exists_cons {items : List Json} {depth : Nat} {cs : List Char}
    (hitems : LegibleItems items depth) (h : SpellsItems items cs) :
    ∃ c cs', cs = c :: cs' ∧ isSpace c = false ∧ c ≠ ']' := by
  cases items with
  | nil => exact h.elim
  | cons v vs =>
      obtain ⟨text, pad, tail, htext, -, rfl, -⟩ := h
      obtain ⟨c, cs', rfl, hc⟩ := htext.exists_cons hitems.1
      exact ⟨c, _, rfl, hc.1, hc.2.1⟩

theorem SpellsMembers.exists_quote {ms : Members} {cs : List Char} (h : SpellsMembers ms cs) :
    ∃ cs', cs = '"' :: cs' := by
  cases ms with
  | nil => exact h.elim
  | cons m ms =>
      obtain ⟨pad, text, pad', tail, -, -, -, rfl, -⟩ := h
      exact ⟨_, rfl⟩

theorem endsNumber_mark {pad : List Char} (hpad : Blank pad) {c : Char}
    (hc : c ∈ [',', ']', '\x7d']) (rest : List Char) : EndsNumber (pad ++ c :: rest) := by
  refine .blank hpad ?_
  simp only [List.mem_cons, List.not_mem_nil, or_false] at hc
  rcases hc with rfl | rfl | rfl
  all_goals exact .cons (by decide) (by decide) rest

theorem set_of_not_mem {key : String} {ms : Members} (h : key ∉ ms.map Prod.fst) (value : Json) :
    Members.set key value ms = ms ++ [(key, value)] := by
  induction ms with
  | nil => rfl
  | cons m ms ih =>
      rw [List.map_cons, List.mem_cons, not_or] at h
      rw [Members.set, if_neg (Ne.symm h.1), ih h.2, List.cons_append]

/-- Distinct keys are kept as they stand. -/
theorem merge_of_nodup {front ms : Members} (h : ((front ++ ms).map Prod.fst).Nodup) :
    Members.merge front ms = front ++ ms := by
  induction ms generalizing front with
  | nil => simp [Members.merge]
  | cons m ms ih =>
      have hset : Members.set m.1 m.2 front = front ++ [m] := by
        refine set_of_not_mem (fun hm => ?_) m.2
        rw [List.map_append, List.map_cons, List.nodup_append] at h
        exact h.2.2 _ hm _ List.mem_cons_self rfl
      rw [List.append_cons] at h ⊢
      rw [← ih h, ← hset]
      rfl

/-- Behind an opening bracket, the items start with the first character that is no blank. -/
theorem readValue_array {pad cs : List Char} {c : Char} (hpad : Blank pad) (hc : isSpace c = false)
    (hne : c ≠ ']') (fuel depth : Nat) :
    readValue (fuel + 1) (depth + 1) ('[' :: (pad ++ c :: cs)) =
      (readItems fuel depth (c :: cs)).map fun p => (.arr p.1, p.2) := by
  simp [readValue, skipSpace_blank hpad, skipSpace_cons hc, hne]

/-- Behind an opening brace, the members start with the quote of the first key. -/
theorem readValue_object {pad : List Char} (hpad : Blank pad) (cs : List Char) (fuel depth : Nat) :
    readValue (fuel + 1) (depth + 1) ('\x7b' :: (pad ++ '"' :: cs)) =
      (readMembers fuel depth ('"' :: cs)).map fun p => (.obj (Members.merge [] p.1), p.2) := by
  simp [readValue, skipSpace_blank hpad, skipSpace_cons (show isSpace '"' = false by decide)]

/-- A member is read when its value is. -/
theorem readMembers_key (fuel depth : Nat) (k cs : List Char) :
    readMembers (fuel + 1) depth (quoteChars k ++ ':' :: cs) =
      match readValue fuel depth (skipSpace cs) with
      | .error e => .error e
      | .ok (v, afterValue) =>
        match skipSpace afterValue with
        | '\x7d' :: after => .ok ([(String.ofList k, v)], after)
        | ',' :: more =>
          (readMembers fuel depth (skipSpace more)).map fun p => ((String.ofList k, v) :: p.1, p.2)
        | other => .error ⟨.comma, other.length⟩ := by
  simp only [quoteChars, List.cons_append, List.append_assoc, readMembers, readString_quoted]
  rfl

mutual

/-- Reading a spelling of a value gives the value and stops behind it. -/
theorem readValue_spells (v : Json) {fuel depth : Nat} {cs rest : List Char} (hv : v.Legible depth)
    (h : Spells v cs) (hfuel : cs.length ≤ fuel) (hrest : EndsNumber rest) :
    readValue fuel depth (cs ++ rest) = .ok (v, rest) := by
  obtain ⟨fuel, rfl⟩ : ∃ n, fuel = n + 1 := by
    obtain ⟨c, cs', rfl, -⟩ := h.exists_cons hv
    exact Nat.exists_eq_succ_of_ne_zero (by simp at hfuel; omega)
  -- Each mark that is passed takes one step, so the steps last as long as the text.
  match v, hv, h with
  | .null, _, h => exact h ▸ scalarText_null.readValue fuel depth hrest
  | .bool b, _, h => exact h ▸ (scalarText_bool b).readValue fuel depth hrest
  | .int n, hv, h => exact h ▸ (scalarText_int hv).readValue fuel depth hrest
  | .float x, hv, h => exact h ▸ ScalarText.readValue hv fuel depth hrest
  | .str s, _, h =>
      rw [spells_str.mp h, readValue_quoteChars]
      simp
  | .arr items, ⟨hdepth, hitems⟩, ⟨pad, inner, hpad, hcs, hinner⟩ =>
      obtain ⟨depth, rfl⟩ : ∃ n, depth = n + 1 := Nat.exists_eq_succ_of_ne_zero (by omega)
      subst hcs
      rw [List.cons_append, List.append_assoc]
      rw [List.length_cons, List.length_append] at hfuel
      rcases hinner with ⟨rfl, rfl⟩ | hinner
      · simp [readValue, skipSpace_blank hpad, skipSpace_cons (show isSpace ']' = false by decide)]
      · have hread : readItems fuel depth (inner ++ rest) = .ok (items, rest) :=
          readItems_spells items hitems hinner (by omega)
        obtain ⟨c, inner, rfl, hc, hne⟩ := hinner.exists_cons hitems
        rw [List.cons_append, readValue_array hpad hc hne, ← List.cons_append, hread]
        rfl
  | .obj ms, ⟨hdepth, hdistinct, hms⟩, ⟨pad, inner, hpad, hcs, hinner⟩ =>
      obtain ⟨depth, rfl⟩ : ∃ n, depth = n + 1 := Nat.exists_eq_succ_of_ne_zero (by omega)
      subst hcs
      rw [List.cons_append, List.append_assoc]
      rw [List.length_cons, List.length_append] at hfuel
      rcases hinner with ⟨rfl, rfl⟩ | hinner
      · simp [readValue, skipSpace_blank hpad, skipSpace_cons (show isSpace '\x7d' = false by decide)]
      · have hread : readMembers fuel depth (inner ++ rest) = .ok (ms, rest) :=
          readMembers_spells ms hms hinner (by omega)
        -- No key comes twice, so the members stay as they are spelled.
        have hmerge : Members.merge [] ms = ms := merge_of_nodup hdistinct
        obtain ⟨inner, rfl⟩ := hinner.exists_quote
        rw [List.cons_append, readValue_object hpad, ← List.cons_append, hread]
        simp only [Except.map, hmerge]

theorem readItems_spells (items : List Json) {fuel depth : Nat} {cs rest : List Char}
    (hitems : LegibleItems items depth) (h : SpellsItems items cs) (hfuel : cs.length ≤ fuel) :
    readItems fuel depth (cs ++ rest) = .ok (items, rest) := by
  match items, hitems, h with
  | v :: vs, ⟨hv, hvs⟩, ⟨text, pad, tail, htext, hpad, hcs, htail⟩ =>
      subst hcs
      obtain ⟨fuel, rfl⟩ : ∃ n, fuel = n + 1 := by
        obtain ⟨c, cs', rfl, -⟩ := htext.exists_cons hv
        exact Nat.exists_eq_succ_of_ne_zero (by simp at hfuel; omega)
      simp only [List.length_append] at hfuel
      rw [List.append_assoc, List.append_assoc, readItems]
      -- A number in the item ends at the blanks behind it, or at the bracket or the comma.
      rcases htail with ⟨rfl, rfl⟩ | ⟨pad', more, hpad', rfl, hmore⟩
      · rw [List.singleton_append, readValue_spells v hv htext (by simp at hfuel; omega)
          (endsNumber_mark hpad (by simp) rest)]
        simp [skipSpace_blank hpad, skipSpace_cons (show isSpace ']' = false by decide)]
      · have hread : readItems fuel depth (more ++ rest) = .ok (vs, rest) :=
          readItems_spells vs hvs hmore (by simp at hfuel; omega)
        obtain ⟨c, more, rfl, hc, -⟩ := hmore.exists_cons hvs
        rw [List.cons_append, readValue_spells v hv htext (by simp at hfuel; omega)
          (endsNumber_mark hpad (by simp) _)]
        simp only [skipSpace_blank hpad, skipSpace_cons (show isSpace ',' = false by decide),
          List.append_assoc, List.cons_append, skipSpace_blank hpad', skipSpace_cons hc]
        rw [← List.cons_append, hread]
        rfl

theorem readMembers_spells (ms : Members) {fuel depth : Nat} {cs rest : List Char}
    (hms : LegibleMembers ms depth) (h : SpellsMembers ms cs) (hfuel : cs.length ≤ fuel) :
    readMembers fuel depth (cs ++ rest) = .ok (ms, rest) := by
  match ms, hms, h with
  | (k, v) :: ms, ⟨hv, hms⟩, ⟨pad, text, pad', tail, hpad, htext, hpad', hcs, htail⟩ =>
      subst hcs
      obtain ⟨fuel, rfl⟩ : ∃ n, fuel = n + 1 :=
        Nat.exists_eq_succ_of_ne_zero (by simp [quoteChars] at hfuel; omega)
      simp only [List.length_append, List.length_cons] at hfuel
      have hskip (more : List Char) : skipSpace (text ++ more) = text ++ more := by
        obtain ⟨c, text', rfl, hc, -⟩ := htext.exists_cons hv
        exact skipSpace_cons hc _
      simp only [List.append_assoc, List.cons_append, readMembers_key, skipSpace_blank hpad, hskip]
      rcases htail with ⟨rfl, rfl⟩ | ⟨pad'', more, hpad'', rfl, hmore⟩
      · rw [List.singleton_append, readValue_spells v hv htext (by simp at hfuel; omega)
          (endsNumber_mark hpad' (by simp) rest)]
        simp [skipSpace_blank hpad', skipSpace_cons (show isSpace '\x7d' = false by decide)]
      · have hread : readMembers fuel depth (more ++ rest) = .ok (ms, rest) :=
          readMembers_spells ms hms hmore (by simp at hfuel; omega)
        obtain ⟨more, rfl⟩ := hmore.exists_quote
        rw [List.cons_append, readValue_spells v hv htext (by simp at hfuel; omega)
          (endsNumber_mark hpad' (by simp) _)]
        simp only [skipSpace_blank hpad', skipSpace_cons (show isSpace ',' = false by decide),
          List.append_assoc, List.cons_append, skipSpace_blank hpad'',
          skipSpace_cons (show isSpace '"' = false by decide)]
        rw [← List.cons_append, hread]
        simp [Except.map]

end

theorem readWithin_spells {v : Json} {depth : Nat} {cs : List Char} (hv : v.Legible depth)
    (h : Spells v cs) : readWithin depth cs = .ok v := by
  have hread : readValue (2 * cs.length + 1) depth (cs ++ []) = .ok (v, []) :=
    readValue_spells v hv h (by omega) (by simp [EndsNumber])
  rw [List.append_nil] at hread
  obtain ⟨c, cs', hcs, hspace, -, hmark⟩ := h.exists_cons hv
  have hskip : skipSpace cs = cs := by rw [hcs, skipSpace_cons hspace]
  rw [readWithin, if_neg (by simpa [hcs] using hmark), hskip, hread]
  rfl

theorem parse_spells {v : Json} {s : String} (hv : v.Legible maxDepth) (h : Spells v s.toList) :
    parse s = .ok v :=
  parse_eq_ok_iff.mpr (readWithin_spells hv h)

/-! ### Parts behind each other -/

section Parts

variable {sep : String} {pad : List Char}

theorem spellsItems_intercalate {items : List Json} {ts : List String}
    (h : List.Forall₂ (fun v t => Spells v t.toList) items ts) (hne : items ≠ [])
    (hsep : Blank sep.toList) (hpad : Blank pad) :
    SpellsItems items ((("," ++ sep).intercalate ts).toList ++ (pad ++ [']'])) := by
  induction h with
  | nil => contradiction
  | @cons v t vs ts hv hvs ih =>
      cases hvs with
      | nil => exact ⟨_, pad, [']'], hv, hpad, by rw [String.intercalate_singleton], .inl ⟨rfl, rfl⟩⟩
      | cons hw hws =>
          refine ⟨_, [], _, hv, blank_nil, ?_, .inr ⟨sep.toList, _, hsep, rfl, ih (by simp)⟩⟩
          rw [String.intercalate_cons_cons]
          simp

def SpellsMember (m : String × Json) (t : String) : Prop :=
  ∃ text, t = quote m.1 ++ ": " ++ text ∧ Spells m.2 text.toList

theorem spellsMembers_intercalate {ms : Members} {ts : List String}
    (h : List.Forall₂ SpellsMember ms ts) (hne : ms ≠ []) (hsep : Blank sep.toList)
    (hpad : Blank pad) :
    SpellsMembers ms ((("," ++ sep).intercalate ts).toList ++ (pad ++ ['\x7d'])) := by
  induction h with
  | nil => contradiction
  | @cons m t ms ts hm hms ih =>
      obtain ⟨k, v⟩ := m
      obtain ⟨text, rfl, htext⟩ := hm
      cases hms with
      | nil =>
          refine ⟨[' '], _, pad, ['\x7d'], blank_space, htext, hpad, ?_, .inl ⟨rfl, rfl⟩⟩
          rw [String.intercalate_singleton]
          simp [quote]
      | cons hn hns =>
          refine ⟨[' '], _, [], _, blank_space, htext, blank_nil, ?_,
            .inr ⟨sep.toList, _, hsep, rfl, ih (by simp)⟩⟩
          rw [String.intercalate_cons_cons]
          simp [quote]

end Parts

/-! ### The indented form -/

theorem blank_breakAt (depth : Nat) : Blank (breakAt depth).toList := by
  intro c hc
  simp only [breakAt, String.toList_append, String.toList_ofList, List.mem_append,
    List.mem_replicate] at hc
  rcases hc with hc | ⟨-, rfl⟩
  · obtain rfl : c = '\n' := by simpa using hc
    decide
  · decide

mutual

theorem spells_prettyAt (v : Json) (depth : Nat) : Spells v (prettyAt depth v).toList := by
  match v with
  | .null => rfl
  | .bool b => rfl
  | .int n => rfl
  | .float x => rfl
  | .str s => rfl
  | .arr [] => exact ⟨[], _, blank_nil, by simp [prettyAt], .inl ⟨rfl, rfl⟩⟩
  | .arr (v :: vs) =>
      refine ⟨(breakAt (depth + 1)).toList, _, blank_breakAt _, ?_,
        .inr (spellsItems_intercalate (spells_prettyItems (v :: vs) (depth + 1)) (by simp)
          (blank_breakAt (depth + 1)) (blank_breakAt depth))⟩
      simp [prettyAt]
  | .obj [] =>
      exact ⟨[], _, blank_nil, by simp [prettyAt, openBrace, closeBrace], .inl ⟨rfl, rfl⟩⟩
  | .obj (m :: ms) =>
      refine ⟨(breakAt (depth + 1)).toList, _, blank_breakAt _, ?_,
        .inr (spellsMembers_intercalate (spells_prettyMembers (m :: ms) (depth + 1)) (by simp)
          (blank_breakAt (depth + 1)) (blank_breakAt depth))⟩
      simp [prettyAt, openBrace, closeBrace]

theorem spells_prettyItems (items : List Json) (depth : Nat) :
    List.Forall₂ (fun v t => Spells v t.toList) items (prettyItems depth items) := by
  match items with
  | [] => exact .nil
  | v :: vs => exact .cons (spells_prettyAt v depth) (spells_prettyItems vs depth)

theorem spells_prettyMembers (ms : Members) (depth : Nat) :
    List.Forall₂ SpellsMember ms (prettyMembers depth ms) := by
  match ms with
  | [] => exact .nil
  | (k, v) :: ms =>
      exact .cons ⟨_, rfl, spells_prettyAt v depth⟩ (spells_prettyMembers ms depth)

end

theorem parse_pretty {v : Json} (hv : v.Legible maxDepth) : parse v.pretty = .ok v :=
  parse_spells hv (spells_prettyAt v 0)

/-! ### Characters of numbers -/

def isNumeralChar (c : Char) : Bool :=
  Text.isAsciiDigit c || c = '.' || c = 'e' || c = '+' || c = '-'

theorem isPrintable_of_isNumeralChar {c : Char} (h : isNumeralChar c = true) : IsPrintable c := by
  simp only [isNumeralChar, Bool.or_eq_true, decide_eq_true_eq] at h
  rcases h with (((h | rfl) | rfl) | rfl) | rfl
  · obtain ⟨hlow, hhigh⟩ := (Text.isAsciiDigit_iff c).mp h
    exact ⟨by omega, by omega⟩
  all_goals decide

theorem isNumeralChar_of_mem_toDigits (n : Nat) : ∀ c ∈ Nat.toDigits 10 n, isNumeralChar c = true := by
  intro c hc
  rw [isNumeralChar, isAsciiDigit_of_mem_toDigits hc]
  rfl

theorem isNumeralChar_of_mem_significant (n : Nat) :
    ∀ c ∈ Decimal.significant n, isNumeralChar c = true := by
  intro c hc
  rw [Decimal.significant, List.mem_reverse] at hc
  exact isNumeralChar_of_mem_toDigits n c (List.mem_reverse.mp (List.dropWhile_subset _ hc))

theorem isNumeralChar_of_mem_zeros (n : Nat) : ∀ c ∈ Decimal.zeros n, isNumeralChar c = true := by
  intro c hc
  rw [(List.mem_replicate.mp hc).2]
  decide

section Digits

variable {ds : List Char} (h : ∀ c ∈ ds, isNumeralChar c = true) (point : Int)

include h

theorem isNumeralChar_of_mem_positional :
    ∀ c ∈ Decimal.positional ds point, isNumeralChar c = true := by
  have htake : ∀ c ∈ ds.take point.toNat, isNumeralChar c = true := fun c hc =>
    h c (List.mem_of_mem_take hc)
  have hdrop : ∀ c ∈ ds.drop point.toNat, isNumeralChar c = true := fun c hc =>
    h c (List.mem_of_mem_drop hc)
  simp only [Decimal.positional]
  split
  · simp only [List.forall_mem_cons, List.forall_mem_append]
    exact ⟨by decide, by decide, isNumeralChar_of_mem_zeros _, h⟩
  · split
    · simp only [List.forall_mem_append]
      exact ⟨⟨h, isNumeralChar_of_mem_zeros _⟩, Text.forall_mem_of_all (by decide)⟩
    · simp only [List.forall_mem_cons, List.forall_mem_append]
      exact ⟨htake, by decide, hdrop⟩

theorem isNumeralChar_of_mem_scientific :
    ∀ c ∈ Decimal.scientific ds point, isNumeralChar c = true := by
  have hhead : ∀ c ∈ ds.take 1 ++ (if ds.length ≤ 1 then [] else '.' :: ds.drop 1),
      isNumeralChar c = true := by
    refine List.forall_mem_append.mpr ⟨fun c hc => h c (List.mem_of_mem_take hc), ?_⟩
    split
    · exact fun _ hc => absurd hc List.not_mem_nil
    · exact List.forall_mem_cons.mpr ⟨by decide, fun c hc => h c (List.mem_of_mem_drop hc)⟩
  simp only [Decimal.scientific, List.forall_mem_cons, List.forall_mem_append]
  refine ⟨List.forall_mem_append.mp hhead, by decide, ?_, isNumeralChar_of_mem_zeros _,
    isNumeralChar_of_mem_toDigits _⟩
  split <;> decide

end Digits

/-- A number that is finite is written with digits and the marks of numbers, others have names. -/
theorem floatText_cases (x : Binary64) : floatText x ∈ ["NaN", "Infinity", "-Infinity"] ∨
    ∀ c ∈ (floatText x).toList, isNumeralChar c = true := by
  cases x with
  | nan => exact .inl (by decide)
  | infinite negative => cases negative <;> exact .inl (by decide)
  | finite negative m e h =>
      refine .inr ?_
      rw [floatText, Decimal.text, String.toList_append, String.toList_ofList]
      refine List.forall_mem_append.mpr ⟨?_, ?_⟩
      · cases negative
        · exact fun _ hc => absurd hc List.not_mem_nil
        · exact Text.forall_mem_of_all (by decide)
      · simp only [Decimal.magnitudeText]
        split
        · exact Text.forall_mem_of_all (by decide)
        · split
          · exact isNumeralChar_of_mem_positional (isNumeralChar_of_mem_significant _) _
          · exact isNumeralChar_of_mem_scientific (isNumeralChar_of_mem_significant _) _

theorem isPrintable_of_mem_floatText (x : Binary64) :
    ∀ c ∈ (floatText x).toList, IsPrintable c := by
  rcases floatText_cases x with hname | hnumber
  · have hall : ∀ s ∈ ["NaN", "Infinity", "-Infinity"],
        s.toList.all (fun c => decide (IsPrintable c)) = true := by decide
    exact Text.forall_mem_of_all (hall _ hname)
  · exact fun c hc => isPrintable_of_isNumeralChar (hnumber c hc)

theorem isNumeralChar_of_mem_int (n : Int) : ∀ c ∈ (toString n).toList, isNumeralChar c = true := by
  rw [toList_toString_int]
  refine List.forall_mem_append.mpr ⟨?_, isNumeralChar_of_mem_toDigits _⟩
  split
  · exact Text.forall_mem_of_all (by decide)
  · exact fun _ hc => absurd hc List.not_mem_nil

theorem isPrintable_of_mem_int (n : Int) : ∀ c ∈ (toString n).toList, IsPrintable c := fun c hc =>
  isPrintable_of_isNumeralChar (isNumeralChar_of_mem_int n c hc)

/-! ### Line breaks of the indented form -/

theorem no_return_of_isPrintable {cs : List Char} (h : ∀ c ∈ cs, IsPrintable c) : '\r' ∉ cs :=
  fun hc => absurd (h '\r' hc) (by decide)

theorem quote_no_return (s : String) : '\r' ∉ (quote s).toList := by
  rw [quote, String.toList_ofList]
  exact no_return_of_isPrintable fun _ hc => isPrintable_quoteChars hc

theorem breakAt_no_return (depth : Nat) : '\r' ∉ (breakAt depth).toList := by
  simp [breakAt, List.mem_replicate]

/-- Texts joined by commas and line breaks have no other breaks than the texts have. -/
theorem intercalate_no_return (depth : Nat) {ts : List String} (h : ∀ t ∈ ts, '\r' ∉ t.toList) :
    '\r' ∉ (("," ++ breakAt depth).intercalate ts).toList := by
  induction ts with
  | nil => simp
  | cons t ts ih =>
      rw [List.forall_mem_cons] at h
      cases ts with
      | nil => rw [String.intercalate_singleton]; exact h.1
      | cons u ts =>
          rw [String.intercalate_cons_cons]
          simp only [String.toList_append, List.mem_append, not_or]
          exact ⟨⟨h.1, by decide, breakAt_no_return depth⟩, ih h.2⟩

mutual

/-- The line breaks of the indented form are line feeds. -/
theorem prettyAt_no_return (v : Json) (depth : Nat) : '\r' ∉ (prettyAt depth v).toList := by
  match v with
  | .null => simp [prettyAt]
  | .bool b => cases b <;> simp [prettyAt, boolText]
  | .int n => exact no_return_of_isPrintable (isPrintable_of_mem_int n)
  | .float x => exact no_return_of_isPrintable (isPrintable_of_mem_floatText x)
  | .str s => exact quote_no_return s
  | .arr [] => simp [prettyAt]
  | .arr (v :: vs) =>
      have hitems := intercalate_no_return (depth + 1) (prettyItems_no_return (v :: vs) (depth + 1))
      simp only [prettyAt, String.toList_append, List.mem_append, not_or]
      exact ⟨⟨⟨⟨by decide, breakAt_no_return _⟩, hitems⟩, breakAt_no_return _⟩, by decide⟩
  | .obj [] => simp [prettyAt, openBrace, closeBrace]
  | .obj (m :: ms) =>
      have hms := intercalate_no_return (depth + 1) (prettyMembers_no_return (m :: ms) (depth + 1))
      simp only [prettyAt, String.toList_append, List.mem_append, not_or]
      exact ⟨⟨⟨⟨by decide, breakAt_no_return _⟩, hms⟩, breakAt_no_return _⟩, by decide⟩

theorem prettyItems_no_return (items : List Json) (depth : Nat) :
    ∀ t ∈ prettyItems depth items, '\r' ∉ t.toList := by
  match items with
  | [] => simp [prettyItems]
  | v :: vs =>
      rw [prettyItems, List.forall_mem_cons]
      exact ⟨prettyAt_no_return v depth, prettyItems_no_return vs depth⟩

theorem prettyMembers_no_return (ms : Members) (depth : Nat) :
    ∀ t ∈ prettyMembers depth ms, '\r' ∉ t.toList := by
  match ms with
  | [] => simp [prettyMembers]
  | (k, v) :: ms =>
      rw [prettyMembers, List.forall_mem_cons]
      refine ⟨?_, prettyMembers_no_return ms depth⟩
      simp only [String.toList_append, List.mem_append, not_or]
      exact ⟨⟨quote_no_return k, by decide⟩, prettyAt_no_return v depth⟩

end

end DurableFlow.Json
