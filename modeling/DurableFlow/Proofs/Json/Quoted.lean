import DurableFlow.Json.Quoted
import DurableFlow.Json.Reader
import DurableFlow.Module.Skeleton
import Mathlib.Data.List.Basic
import Mathlib.Tactic.IntervalCases

/-!
Quoted texts read back. The written form of a character is printable, and each of the two readers of
quoted texts gets past it: the reader of JSON with the character itself, the reader of event texts
with the written form. So a quoted text ends exactly at its closing quote.
-/

namespace DurableFlow.Json

/-! ### Hexadecimal digits -/

theorem hexValue?_hexDigit {n : Nat} (h : n < 16) : hexValue? (hexDigit n) = some n := by
  interval_cases n <;> rfl

theorem hexUnit?_digits {n : Nat} (h : n < 65536) :
    hexUnit? (hexDigit (n / 4096 % 16)) (hexDigit (n / 256 % 16)) (hexDigit (n / 16 % 16))
      (hexDigit (n % 16)) = some n := by
  rw [hexUnit?, hexValue?_hexDigit (Nat.mod_lt _ (by omega)),
    hexValue?_hexDigit (Nat.mod_lt _ (by omega)), hexValue?_hexDigit (Nat.mod_lt _ (by omega)),
    hexValue?_hexDigit (Nat.mod_lt _ (by omega))]
  simp only [Option.bind_eq_bind, Option.bind_some, Option.pure_def, Option.some.injEq]
  omega

/-! ### Printable characters -/

def IsPrintable (c : Char) : Prop := 32 ≤ c.toNat ∧ c.toNat ≤ 126

instance (c : Char) : Decidable (IsPrintable c) := inferInstanceAs (Decidable (_ ∧ _))

theorem isPrintable_of_all {cs : List Char} {x : Char} (hx : x ∈ cs)
    (h : cs.all (fun c => decide (IsPrintable c)) = true) : IsPrintable x :=
  of_decide_eq_true (List.all_eq_true.mp h x hx)

theorem isPrintable_hexDigit {n : Nat} (h : n < 16) : IsPrintable (hexDigit n) := by
  interval_cases n <;> decide

/-- What holds of a backslash, of the letter behind it and of all digits holds of a whole escape. -/
theorem forall_mem_unitEscape {p : Char → Prop} (hback : p '\\') (hletter : p 'u')
    (hdigit : ∀ k < 16, p (hexDigit k)) (n : Nat) : ∀ x ∈ unitEscape n, p x := by
  simp only [unitEscape, List.forall_mem_cons]
  exact ⟨hback, hletter, hdigit _ (Nat.mod_lt _ (by omega)), hdigit _ (Nat.mod_lt _ (by omega)),
    hdigit _ (Nat.mod_lt _ (by omega)), hdigit _ (Nat.mod_lt _ (by omega)), by simp⟩

theorem isPrintable_unitEscape {n : Nat} {x : Char} (hx : x ∈ unitEscape n) : IsPrintable x :=
  forall_mem_unitEscape (by decide) (by decide) (fun _ h => isPrintable_hexDigit h) n x hx

/-! ### Written forms -/

/-- The letters of short escapes, with what they stand for. -/
def shortForms : List (Char × Char) :=
  [('"', '"'), ('\\', '\\'), ('n', '\n'), ('r', '\r'), ('t', '\t'), ('b', Char.ofNat 8),
   ('f', Char.ofNat 12)]

/-- The ways in which a character is written inside quotes. -/
inductive Written (c : Char) : List Char → Prop where
  | plain (h : IsPrintable c) (hquote : c ≠ '"') (hslash : c ≠ '\\') : Written c [c]
  | short {letter : Char} (h : (letter, c) ∈ shortForms) : Written c ['\\', letter]
  | unit (h : c.toNat < 0x10000) : Written c (unitEscape c.toNat)
  | halves {high low : Nat} (hhigh : isHighSurrogate high = true) (hlow : isLowSurrogate low = true)
      (h : joinSurrogates high low = c.toNat) : Written c (unitEscape high ++ unitEscape low)

theorem joinSurrogates_halves {n : Nat} (h : 0x10000 ≤ n) :
    joinSurrogates (0xD800 + (n - 0x10000) / 0x400) (0xDC00 + (n - 0x10000) % 0x400) = n := by
  unfold joinSurrogates
  omega

theorem written_halves {c : Char} (h : 0x10000 ≤ c.toNat) :
    Written c (unitEscape (0xD800 + (c.toNat - 0x10000) / 0x400) ++
      unitEscape (0xDC00 + (c.toNat - 0x10000) % 0x400)) := by
  have hvalid : c.toNat < 0xD800 ∨ (0xDFFF < c.toNat ∧ c.toNat < 0x110000) := c.valid
  refine .halves ?_ ?_ (joinSurrogates_halves h)
  · simp only [isHighSurrogate, Bool.and_eq_true, decide_eq_true_eq]
    omega
  · simp only [isLowSurrogate, Bool.and_eq_true, decide_eq_true_eq]
    omega

theorem written_escapeChar (c : Char) : Written c (escapeChar c) := by
  have hcode : ∀ n, c.toNat = n → c = Char.ofNat n := fun n h => by rw [← h, Char.ofNat_toNat]
  rw [escapeChar]
  refine iteInduction (fun h => .short ?_) fun hquote => ?_
  · rw [h]
    decide
  refine iteInduction (fun h => .short ?_) fun hslash => ?_
  · rw [h]
    decide
  refine iteInduction (fun h => .short ?_) fun _ => ?_
  · rw [h]
    decide
  refine iteInduction (fun h => .short ?_) fun _ => ?_
  · rw [h]
    decide
  refine iteInduction (fun h => .short ?_) fun _ => ?_
  · rw [h]
    decide
  refine iteInduction (fun h => .short ?_) fun _ => ?_
  · rw [hcode 8 h]
    decide
  refine iteInduction (fun h => .short ?_) fun _ => ?_
  · rw [hcode 12 h]
    decide
  refine iteInduction (fun h => .plain (by simpa [IsPrintable] using h) hquote hslash) fun _ => ?_
  exact iteInduction (fun h => .unit h) fun h => written_halves (Nat.le_of_not_lt h)

theorem isPrintable_shortForms {letter c : Char} (h : (letter, c) ∈ shortForms) :
    IsPrintable letter := by
  have hall : shortForms.all (fun p => decide (IsPrintable p.1)) = true := by decide
  simpa using List.all_eq_true.mp hall _ h

theorem isPrintable_escapeChar {c x : Char} (hx : x ∈ escapeChar c) : IsPrintable x := by
  have hform := written_escapeChar c
  generalize escapeChar c = form at hform hx
  cases hform with
  | plain h _ _ => exact List.mem_singleton.mp hx ▸ h
  | short h =>
      rcases List.mem_cons.mp hx with rfl | hx
      · decide
      · exact List.mem_singleton.mp hx ▸ isPrintable_shortForms h
  | unit _ => exact isPrintable_unitEscape hx
  | halves _ _ _ =>
      rcases List.mem_append.mp hx with hx | hx
      · exact isPrintable_unitEscape hx
      · exact isPrintable_unitEscape hx

theorem quoteChars_append (cs rest : List Char) :
    quoteChars cs ++ rest = '"' :: (cs.flatMap escapeChar ++ '"' :: rest) := by
  rw [quoteChars, List.cons_append, List.append_assoc, List.singleton_append]

theorem isPrintable_quoteChars {cs : List Char} {x : Char} (hx : x ∈ quoteChars cs) :
    IsPrintable x := by
  rw [quoteChars, List.mem_cons, List.mem_append, List.mem_flatMap, List.mem_singleton] at hx
  rcases hx with rfl | ⟨c, -, hx⟩ | rfl
  · decide
  · exact isPrintable_escapeChar hx
  · decide

theorem hexDigit_plain {n : Nat} (h : n < 16) : hexDigit n ≠ '"' ∧ hexDigit n ≠ '\\' := by
  interval_cases n <;> decide

/-- Quoted text is made of printable characters, some of them behind a backslash. What holds of such
parts and is kept when they are joined holds of every quoted text. -/
theorem escapes_induction {P : List Char → Prop} (nil : P [])
    (append : ∀ {a b}, P a → P b → P (a ++ b))
    (plain : ∀ {c}, IsPrintable c → c ≠ '"' → c ≠ '\\' → P [c])
    (escape : ∀ {c}, IsPrintable c → P ['\\', c]) (cs : List Char) : P (cs.flatMap escapeChar) := by
  have hdigit (n : Nat) : P [hexDigit (n % 16)] := by
    have hn := Nat.mod_lt n (by omega : 16 > 0)
    obtain ⟨hquote, hslash⟩ := hexDigit_plain hn
    exact plain (isPrintable_hexDigit hn) hquote hslash
  have hunit (n : Nat) : P (unitEscape n) :=
    append (escape (c := 'u') (by decide))
      (append (hdigit (n / 4096)) (append (hdigit (n / 256)) (append (hdigit (n / 16)) (hdigit n))))
  have hchar (c : Char) : P (escapeChar c) := by
    have hform := written_escapeChar c
    generalize escapeChar c = form at hform
    cases hform with
    | plain h hquote hslash => exact plain h hquote hslash
    | short h => exact escape (isPrintable_shortForms h)
    | unit _ => exact hunit _
    | halves _ _ _ => exact append (hunit _) (hunit _)
  induction cs with
  | nil => exact nil
  | cons c cs ih => exact append (hchar c) ih

/-! ### Reading a quoted text as JSON -/

theorem isHighSurrogate_toNat (c : Char) : isHighSurrogate c.toNat = false := by
  have hc : c.toNat < 0xD800 ∨ (0xDFFF < c.toNat ∧ c.toNat < 0x110000) := c.valid
  simp only [isHighSurrogate, Bool.and_eq_false_iff, decide_eq_false_iff_not]
  omega

theorem isLowSurrogate_toNat (c : Char) : isLowSurrogate c.toNat = false := by
  have hc : c.toNat < 0xD800 ∨ (0xDFFF < c.toNat ∧ c.toNat < 0x110000) := c.valid
  simp only [isLowSurrogate, Bool.and_eq_false_iff, decide_eq_false_iff_not]
  omega

theorem readUnit_toNat (c : Char) {tail : List Char} (htail : tail ≠ []) :
    readUnit c.toNat tail = .ok (c, 5) := by
  have hunit : unitChar c.toNat = c := by
    rw [unitChar, isHighSurrogate_toNat, isLowSurrogate_toNat]
    exact Char.ofNat_toNat c
  rw [readUnit.eq_def]
  split
  · contradiction
  · rw [isHighSurrogate_toNat, hunit]
    rfl
  · rw [hunit]

theorem readUnit_pair {high low : Nat} (hhigh : isHighSurrogate high = true)
    (hlow : isLowSurrogate low = true) (hunit : low < 65536) {tail : List Char} (htail : tail ≠ []) :
    readUnit high (unitEscape low ++ tail) = .ok (Char.ofNat (joinSurrogates high low), 11) := by
  obtain ⟨d, tail, rfl⟩ := List.exists_cons_of_ne_nil htail
  simp only [unitEscape, List.cons_append, List.nil_append, readUnit, hhigh, if_true,
    hexUnit?_digits hunit, hlow]

theorem readStringFrom_skip (opened : Nat) (front rest : List Char) :
    readStringFrom opened front.length (front ++ rest) = readStringFrom opened 0 rest := by
  induction front with
  | nil => cases rest <;> rfl
  | cons c front ih => rw [List.length_cons, List.cons_append, readStringFrom, ih]

/-- The reader gets past an escape once it is known what the escape stands for. -/
theorem readStringFrom_escape {opened : Nat} (front : List Char) {rest : List Char} {c : Char}
    (h : readEscape opened (front ++ rest) = .ok (c, front.length)) :
    readStringFrom opened 0 ('\\' :: front ++ rest) =
      (readStringFrom opened 0 rest).map fun p => (c :: p.1, p.2) := by
  rw [List.cons_append, readStringFrom, if_neg (by decide), if_pos rfl, h]
  simp only [readStringFrom_skip]

theorem readEscape_unit (opened : Nat) {n : Nat} (hn : n < 65536) (tail : List Char) :
    readEscape opened ((unitEscape n).tail ++ tail) = readUnit n tail := by
  simp only [unitEscape, List.tail_cons, List.cons_append, List.nil_append, readEscape,
    hexUnit?_digits hn]

theorem readEscape_shortForms (opened : Nat) {letter c : Char} (h : (letter, c) ∈ shortForms)
    (rest : List Char) : readEscape opened ([letter] ++ rest) = .ok (c, 1) := by
  simp only [shortForms, List.mem_cons, Prod.mk.injEq, List.not_mem_nil, or_false] at h
  rcases h with ⟨rfl, rfl⟩ | ⟨rfl, rfl⟩ | ⟨rfl, rfl⟩ | ⟨rfl, rfl⟩ | ⟨rfl, rfl⟩ | ⟨rfl, rfl⟩ | ⟨rfl, rfl⟩
  all_goals rfl

/-- The reader of JSON gets past the written form of a character with that character. -/
theorem readStringFrom_escapeChar (opened : Nat) (c : Char) {rest : List Char} (hrest : rest ≠ []) :
    readStringFrom opened 0 (escapeChar c ++ rest) =
      (readStringFrom opened 0 rest).map fun p => (c :: p.1, p.2) := by
  have hform := written_escapeChar c
  generalize escapeChar c = form at hform
  cases hform with
  | plain h hquote hslash =>
      rw [List.singleton_append, readStringFrom, if_neg hquote, if_neg hslash,
        if_neg (Nat.not_le.mpr h.1)]
  | short h => exact readStringFrom_escape _ (readEscape_shortForms opened h rest)
  | unit h =>
      refine readStringFrom_escape (unitEscape c.toNat).tail ?_
      rw [readEscape_unit opened h, readUnit_toNat c hrest]
      rfl
  | @halves high low hhigh hlow h =>
      have hbounds : high < 0x10000 ∧ low < 0x10000 := by
        simp only [isHighSurrogate, isLowSurrogate, Bool.and_eq_true, decide_eq_true_eq] at hhigh hlow
        omega
      refine readStringFrom_escape ((unitEscape high).tail ++ unitEscape low) ?_
      rw [List.append_assoc, readEscape_unit opened hbounds.1,
        readUnit_pair hhigh hlow hbounds.2 hrest, h, Char.ofNat_toNat]
      rfl

theorem readString_quoted (opened : Nat) (cs rest : List Char) :
    readString opened (cs.flatMap escapeChar ++ '"' :: rest) = .ok (cs, rest) := by
  rw [readString]
  induction cs with
  | nil => rfl
  | cons c cs ih =>
      rw [List.flatMap_cons, List.append_assoc, readStringFrom_escapeChar opened c (by simp), ih]
      rfl

theorem readValue_quoteChars (fuel depth : Nat) (cs rest : List Char) :
    readValue (fuel + 1) depth (quoteChars cs ++ rest) = .ok (.str (String.ofList cs), rest) := by
  rw [quoteChars_append]
  simp only [readValue, readString_quoted]
  rfl

theorem parse_quote (s : String) : parse (quote s) = .ok (.str s) := by
  have hspace : skipSpace (quoteChars s.toList) = quoteChars s.toList := rfl
  have hread := readValue_quoteChars (2 * (quoteChars s.toList).length) maxDepth s.toList []
  rw [List.append_nil] at hread
  rw [parse, quote, String.toList_ofList, readChars, hspace, hread]
  simp [quoteChars, skipSpace]

end DurableFlow.Json

namespace DurableFlow.Skeleton

/-! ### Reading a quoted text up to its end -/

theorem stringRest_escapes (cs rest : List Char) :
    stringRest false (cs.flatMap Json.escapeChar ++ rest) =
      (stringRest false rest).map fun p => (cs.flatMap Json.escapeChar ++ p.1, p.2) := by
  refine Json.escapes_induction (P := fun front => ∀ rest, stringRest false (front ++ rest) =
    (stringRest false rest).map fun p => (front ++ p.1, p.2)) ?_ ?_ ?_ ?_ cs rest
  · simp
  · intro a b ha hb rest
    rw [List.append_assoc, ha, hb, Option.map_map]
    simp [Function.comp_def]
  · intro c _ hquote hslash rest
    rw [List.singleton_append, stringRest, if_neg hquote, decide_eq_false hslash]
    rfl
  · intro c hc rest
    have hfeed : c ≠ '\n' := fun heq => absurd hc (heq ▸ by decide)
    rw [List.cons_append, List.singleton_append, stringRest, if_neg (by decide), decide_eq_true rfl,
      stringRest, if_neg hfeed, Option.map_map]
    rfl

/-- A quoted text at the start is found with its quotes, and it ends at its closing quote. -/
theorem stringToken?_quoteChars (cs rest : List Char) :
    stringToken? (Json.quoteChars cs ++ rest) = some (Json.quoteChars cs, rest) := by
  rw [Json.quoteChars_append, stringToken?, stringRest_escapes]
  rfl

theorem unquote_quoteChars (s : String) : unquote (Json.quoteChars s.toList) = .ok (.str s) := by
  have hparse : Json.parse (String.ofList (Json.quoteChars s.toList)) = .ok (.str s) :=
    Json.parse_quote s
  rw [unquote, hparse]

end DurableFlow.Skeleton
