import DurableFlow.Proofs.Decimal.Printed
import DurableFlow.Proofs.Json.Spelling

/-!
Floating point numbers in JSON text. A numeral is what the reader takes for such a number: a whole
part with a fraction or an exponent behind it. Both notations of the writer are numerals, and they have
the value of the digits that are printed. Main statement: every floating point number, also one that
is not finite, reads back as itself.
-/

namespace DurableFlow.Json

open Decimal (zeros significant positional scientific magnitudeText)

/-! ### Digits -/

def Digits (ds : List Char) : Prop := ∀ c ∈ ds, Text.isAsciiDigit c = true

theorem Digits.append {ds es : List Char} (hds : Digits ds) (hes : Digits es) : Digits (ds ++ es) := by
  intro c hc
  rcases List.mem_append.mp hc with hc | hc
  · exact hds c hc
  · exact hes c hc

theorem digits_toDigits (n : Nat) : Digits (Nat.toDigits 10 n) :=
  fun _ hc => isAsciiDigit_of_mem_toDigits hc

theorem digits_zeros (n : Nat) : Digits (zeros n) := by
  intro c hc
  rw [List.eq_of_mem_replicate hc]
  rfl

theorem zeros_succ (n : Nat) : zeros (n + 1) = zeros n ++ ['0'] := List.replicate_succ'

theorem digitsValue_append (ds es : List Char) :
    digitsValue (ds ++ es) = digitsValue ds * 10 ^ es.length + digitsValue es := by
  have happend : digitsValue (ds ++ es) = Nat.ofDigitChars 10 es (digitsValue ds) :=
    Nat.ofDigitChars_append 0
  rw [happend, Nat.ofDigitChars_eq_ofDigitChars_zero, Nat.mul_comm]
  rfl

theorem digitsValue_zeros (n : Nat) : digitsValue (zeros n) = 0 :=
  Nat.ofDigitChars_replicate_zero

theorem digitsValue_zeros_append (n : Nat) (ds : List Char) :
    digitsValue (zeros n ++ ds) = digitsValue ds := by
  rw [digitsValue_append, digitsValue_zeros, Nat.zero_mul, Nat.zero_add]

theorem digitsValue_append_zeros (n : Nat) (ds : List Char) :
    digitsValue (ds ++ zeros n) = digitsValue ds * 10 ^ n := by
  rw [digitsValue_append, digitsValue_zeros, Nat.add_zero, zeros, List.length_replicate]

/-- The digits of a number are the significant ones and zeros behind them. -/
theorem exists_toDigits_eq (n : Nat) : ∃ k, Nat.toDigits 10 n = significant n ++ zeros k := by
  let tail := (Nat.toDigits 10 n).reverse.takeWhile (· == '0')
  have htail : tail.reverse = zeros tail.length := by
    rw [zeros, ← List.length_reverse]
    refine List.eq_replicate_of_mem fun c hc => ?_
    simpa using List.mem_takeWhile_imp (List.mem_reverse.mp hc)
  refine ⟨tail.length, ?_⟩
  rw [← htail, significant, ← List.reverse_append, List.takeWhile_append_dropWhile,
    List.reverse_reverse]

/-! ### Numerals -/

/-- A whole part: a zero alone, or digits that do not start with zero. -/
def Whole (ds : List Char) : Prop := ds = ['0'] ∨ (Digits ds ∧ ds ≠ [] ∧ ds.head? ≠ some '0')

/-- A number that is not written as a whole number: it has a fraction or an exponent. -/
structure Numeral where
  whole : List Char
  fraction : List Char := []
  power : Option (Bool × List Char) := none
  isWhole : Whole whole
  digits_fraction : Digits fraction
  digits_power : ∀ p ∈ power, Digits p.2 ∧ p.2 ≠ []
  floating : fraction ≠ [] ∨ power ≠ none

namespace Numeral

def powerText : Option (Bool × List Char) → List Char
  | none => []
  | some (negative, es) => 'e' :: (if negative then '-' else '+') :: es

def fractionText : List Char → List Char
  | [] => []
  | d :: ds => '.' :: d :: ds

theorem fractionText_of_ne_nil {ds : List Char} (h : ds ≠ []) : fractionText ds = '.' :: ds := by
  obtain ⟨d, ds, rfl⟩ := List.exists_cons_of_ne_nil h
  rfl

def text (n : Numeral) : List Char := n.whole ++ (fractionText n.fraction ++ powerText n.power)

def powerValue : Option (Bool × List Char) → Int
  | none => 0
  | some (true, es) => -(digitsValue es : Int)
  | some (false, es) => digitsValue es

def mantissa (n : Numeral) : Nat := digitsValue (n.whole ++ n.fraction)

def exponent (n : Numeral) : Int := powerValue n.power - n.fraction.length

/-- The numeral has the value of digits whose point stands after the first `point` of them. Zeros may
have been filled in behind the digits. -/
def Denotes (n : Numeral) (ds : List Char) (point : Int) : Prop :=
  ∃ k : Nat, n.mantissa = digitsValue ds * 10 ^ k ∧ n.exponent = point - ds.length - k

variable (n : Numeral) {rest : List Char}

theorem exists_digit : ∃ d cs, n.whole = d :: cs ∧ Text.isAsciiDigit d = true := by
  rcases n.isWhole with hzero | ⟨hdigits, hne, -⟩
  · exact ⟨'0', [], hzero, rfl⟩
  · obtain ⟨d, cs, hcons⟩ := List.exists_cons_of_ne_nil hne
    exact ⟨d, cs, hcons, hdigits d (hcons ▸ List.mem_cons_self)⟩

/-- Digits end in front of the exponent. -/
theorem powerText_head (power : Option (Bool × List Char)) (hrest : EndsNumber rest) :
    ∀ c ∈ (powerText power ++ rest).head?, Text.isAsciiDigit c = false := by
  cases power with
  | none => exact fun c hc => (hrest c hc).1
  | some p =>
      rintro c ⟨⟩
      rfl

theorem takePower_text (hrest : EndsNumber rest) :
    takePower (powerText n.power ++ rest) = (n.power, rest) := by
  cases hpower : n.power with
  | none => exact takePower_of_endsNumber hrest
  | some p =>
      obtain ⟨negative, es⟩ := p
      obtain ⟨hdigits, hne⟩ := n.digits_power (negative, es) hpower
      have hspan : (es ++ rest).span Text.isAsciiDigit = (es, rest) :=
        span_run hdigits fun c hc => (hrest c hc).1
      obtain ⟨d, ds, rfl⟩ := List.exists_cons_of_ne_nil hne
      cases negative with
      | true => simp_all [powerText, takePower]
      | false => simp_all [powerText, takePower]

theorem takeFraction_text (hrest : EndsNumber rest) :
    takeFraction (fractionText n.fraction ++ (powerText n.power ++ rest)) =
      (n.fraction, powerText n.power ++ rest) := by
  have hspan : (n.fraction ++ (powerText n.power ++ rest)).span Text.isAsciiDigit =
      (n.fraction, powerText n.power ++ rest) :=
    span_run n.digits_fraction (powerText_head n.power hrest)
  cases hfraction : n.fraction with
  | nil =>
      cases hpower : n.power with
      | none => exact takeFraction_of_endsNumber hrest
      | some p => rfl
  | cons d ds => simp_all [fractionText, takeFraction]

theorem takeWhole_text (hrest : EndsNumber rest) :
    takeWhole (n.text ++ rest) =
      (n.whole, fractionText n.fraction ++ (powerText n.power ++ rest)) := by
  have hhead : ∀ c ∈ (fractionText n.fraction ++ (powerText n.power ++ rest)).head?,
      Text.isAsciiDigit c = false := by
    cases hfraction : n.fraction with
    | nil => exact powerText_head n.power hrest
    | cons d ds =>
        rintro c ⟨⟩
        rfl
  rw [text, List.append_assoc, List.append_assoc]
  rcases n.isWhole with hzero | ⟨hdigits, hne, hstart⟩
  · rw [hzero]
    rfl
  · exact takeWhole_run hdigits hne hstart hhead

theorem readNumber_unsigned {cs : List Char} {negative : Bool}
    (hnegative : (cs.head? == some '-') = negative)
    (hcs : (if negative then cs.tail else cs) = n.text ++ rest) (hrest : EndsNumber rest) :
    readNumber cs = .ok (.float (.ofDecimal negative n.mantissa n.exponent), rest) := by
  obtain ⟨d, ds, hwhole, -⟩ := n.exists_digit
  have htake := n.takeWhole_text hrest
  rw [hwhole] at htake
  simp only [readNumber, hnegative, hcs, htake, n.takeFraction_text hrest, n.takePower_text hrest]
  rw [mantissa, exponent, hwhole]
  split
  · next hfraction hpower => exact absurd n.floating (by simp [hfraction, hpower])
  · generalize n.power = power
    obtain _ | ⟨_ | _, es⟩ := power
    all_goals rfl

theorem readNumber_text (negative : Bool) (hrest : EndsNumber rest) :
    readNumber ((if negative then ['-'] else []) ++ (n.text ++ rest)) =
      .ok (.float (.ofDecimal negative n.mantissa n.exponent), rest) := by
  cases negative with
  | true => exact n.readNumber_unsigned rfl rfl hrest
  | false =>
      refine n.readNumber_unsigned ?_ rfl hrest
      obtain ⟨d, ds, hwhole, hd⟩ := n.exists_digit
      have hne : d ≠ '-' := by
        rintro rfl
        contradiction
      simpa [text, hwhole] using hne

/-- A numeral of a number is its text in JSON, with its sign. -/
theorem scalarText {x : Binary64} {negative : Bool}
    (hx : Binary64.ofDecimal negative n.mantissa n.exponent = x) :
    ScalarText ((if negative then ['-'] else []) ++ n.text) (.float x) := by
  intro rest hrest
  obtain ⟨d, ds, hwhole, hd⟩ := n.exists_digit
  have hname : readName? ((if negative then ['-'] else []) ++ (n.text ++ rest)) = none := by
    rw [text, hwhole]
    exact readName?_digit negative hd _
  rw [List.append_assoc, readScalar, hname, ← hx]
  exact n.readNumber_text negative hrest

end Numeral

/-! ### Both notations -/

variable {ds : List Char}

theorem whole_take (hds : Digits ds) (hne : ds ≠ []) (hhead : ds.head? ≠ some '0') {n : Nat}
    (hn : 0 < n) : Whole (ds.take n) := by
  refine .inr ⟨fun c hc => hds c (List.mem_of_mem_take hc), ?_, ?_⟩
  · simp [hne, Nat.ne_of_gt hn]
  · rwa [List.head?_take, if_neg (Nat.ne_of_gt hn)]

theorem exists_numeral_point {whole fraction : List Char} (hwhole : Whole whole)
    (hfraction : Digits fraction) (hne : fraction ≠ []) :
    ∃ n : Numeral, n.text = whole ++ '.' :: fraction ∧
      n.mantissa = digitsValue (whole ++ fraction) ∧ n.exponent = -(fraction.length : Int) := by
  refine ⟨{ whole := whole, fraction := fraction, isWhole := hwhole, digits_fraction := hfraction,
            digits_power := by simp, floating := .inl hne }, ?_, rfl, ?_⟩
  · simp [Numeral.text, Numeral.powerText, Numeral.fractionText_of_ne_nil hne]
  · simp [Numeral.exponent, Numeral.powerValue]

/-- The notation without an exponent; zeros may fill the digits up to the point and behind it. -/
theorem exists_numeral_positional (hds : Digits ds) (hne : ds ≠ []) (hhead : ds.head? ≠ some '0')
    (point : Int) :
    ∃ n : Numeral, n.text = positional ds point ∧ n.Denotes ds point := by
  rw [positional]
  split
  · next hpoint =>
      -- All digits stand behind the point.
      obtain ⟨n, htext, hmantissa, hexponent⟩ := exists_numeral_point (Or.inl rfl : Whole ['0'])
        ((digits_zeros (-point).toNat).append hds) (List.append_ne_nil_of_right_ne_nil _ hne)
      refine ⟨n, htext, 0, ?_, ?_⟩
      · rw [hmantissa, pow_zero, Nat.mul_one]
        exact (digitsValue_zeros_append 1 _).trans (digitsValue_zeros_append _ _)
      · rw [hexponent, List.length_append, zeros, List.length_replicate]
        omega
  · next hpoint =>
      simp only
      split
      · next hlength =>
          -- All digits stand before the point, with zeros up to it and one behind it.
          have hwhole : Whole (ds ++ zeros (point.toNat - ds.length)) :=
            .inr ⟨hds.append (digits_zeros _), by simp [hne], by rwa [List.head?_append_of_ne_nil _ hne]⟩
          obtain ⟨n, htext, hmantissa, hexponent⟩ :=
            exists_numeral_point hwhole (digits_zeros 1) (List.cons_ne_nil _ _)
          refine ⟨n, htext, point.toNat - ds.length + 1, ?_, ?_⟩
          · rw [hmantissa, ← digitsValue_append_zeros, zeros_succ (point.toNat - ds.length),
              ← List.append_assoc]
            rfl
          · rw [hexponent, zeros, List.length_replicate]
            omega
      · next hlength =>
          obtain ⟨n, htext, hmantissa, hexponent⟩ :=
            exists_numeral_point (whole_take hds hne hhead (n := point.toNat) (by omega))
              (fun c hc => hds c (List.mem_of_mem_drop hc)) (by simpa using hlength)
          refine ⟨n, htext, 0, ?_, ?_⟩
          · rw [hmantissa, List.take_append_drop, pow_zero, Nat.mul_one]
          · rw [hexponent, List.length_drop]
            omega

theorem powerValue_decide (e : Int) {es : List Char} (hes : digitsValue es = e.natAbs) :
    Numeral.powerValue (some (decide (e < 0), es)) = e := by
  by_cases he : e < 0
  · simp only [he, decide_true, Numeral.powerValue, hes]
    omega
  · simp only [he, decide_false, Numeral.powerValue, hes]
    omega

/-- The notation with an exponent has one digit before the point. -/
theorem exists_numeral_scientific (hds : Digits ds) (hne : ds ≠ []) (hhead : ds.head? ≠ some '0')
    (point : Int) :
    ∃ n : Numeral, n.text = scientific ds point ∧ n.Denotes ds point := by
  obtain ⟨d, tail, rfl⟩ := List.exists_cons_of_ne_nil hne
  let size := Nat.toDigits 10 (point - 1).natAbs
  have hvalue : digitsValue (zeros (2 - size.length) ++ size) = (point - 1).natAbs := by
    rw [digitsValue_zeros_append, digitsValue_toDigits]
  refine ⟨{ whole := [d], fraction := tail,
            power := some (decide (point - 1 < 0), zeros (2 - size.length) ++ size),
            isWhole := whole_take hds hne hhead Nat.one_pos,
            digits_fraction := fun c hc => hds c (List.mem_cons_of_mem d hc),
            digits_power := ?_, floating := .inr (by simp) }, ?_, 0, ?_, ?_⟩
  · rintro p ⟨⟩
    exact ⟨(digits_zeros _).append (digits_toDigits _), by simp [size]⟩
  · cases tail with
    | nil => simp [Numeral.text, Numeral.powerText, Numeral.fractionText, scientific, size]
    | cons c cs => simp [Numeral.text, Numeral.powerText, Numeral.fractionText, scientific, size]
  · simp [Numeral.mantissa]
  · rw [Numeral.exponent, powerValue_decide _ hvalue, List.length_cons]
    push_cast
    ring

theorem significant_spec {n : Nat} (hn : 0 < n) :
    Digits (significant n) ∧ significant n ≠ [] ∧ (significant n).head? ≠ some '0' := by
  obtain ⟨k, hk⟩ := exists_toDigits_eq n
  have hhead : (significant n ++ zeros k).head? ≠ some '0' := hk ▸ head_toDigits_ne_zero hn
  have hne : significant n ≠ [] := by
    intro hnil
    cases k with
    | zero => exact toDigits_ne_nil n (by simp [hk, hnil, zeros])
    | succ k => simp [hnil, zeros, List.replicate_succ] at hhead
  refine ⟨fun c hc => digits_toDigits n c (hk ▸ List.mem_append_left _ hc), hne, ?_⟩
  rwa [List.head?_append_of_ne_nil _ hne] at hhead

/-- Trailing zeros of the digits may go into the exponent before the value is rounded. -/
theorem Numeral.Denotes.ofDecimal_eq {n : Numeral} {digits : Nat} {exponent : Int}
    (h : n.Denotes (significant digits) ((Nat.toDigits 10 digits).length + exponent))
    (negative : Bool) :
    Binary64.ofDecimal negative n.mantissa n.exponent = .ofDecimal negative digits exponent := by
  obtain ⟨k, hmantissa, hexponent⟩ := h
  obtain ⟨z, hz⟩ := exists_toDigits_eq digits
  have hdigits : digits = digitsValue (significant digits) * 10 ^ z := by
    rw [← digitsValue_append_zeros, ← hz, digitsValue_toDigits]
  have hlength : ((Nat.toDigits 10 digits).length : Int) = (significant digits).length + z := by
    rw [hz, List.length_append, zeros, List.length_replicate]
    push_cast
    rfl
  calc Binary64.ofDecimal negative n.mantissa n.exponent
      = .ofDecimal negative (digitsValue (significant digits)) (exponent + z) := by
        rw [hmantissa, hexponent, Binary64.ofDecimal_zeros, hlength]
        congr 1
        ring
    _ = .ofDecimal negative (digitsValue (significant digits) * 10 ^ z) exponent := by
        rw [← Binary64.ofDecimal_zeros negative _ (exponent + z) z, add_sub_cancel_right]
    _ = .ofDecimal negative digits exponent := by rw [← hdigits]

/-- The text of a finite number is a numeral that is rounded to the number. -/
theorem exists_numeral_magnitudeText {m : Nat} {e : Int} (h : Binary64.IsNormal m e) :
    ∃ n : Numeral, n.text = magnitudeText m e ∧
      ∀ negative, Binary64.ofDecimal negative n.mantissa n.exponent = .finite negative m e h := by
  rw [magnitudeText]
  split
  · next hm =>
      subst hm
      obtain rfl : e = Binary64.minExponent := h.2.2.2.resolve_left (by decide)
      obtain ⟨n, htext, hmantissa, hexponent⟩ :=
        exists_numeral_point (.inl rfl) (digits_zeros 1) (List.cons_ne_nil _ _)
      refine ⟨n, htext, fun negative => ?_⟩
      rw [hmantissa, hexponent]
      rfl
  · next hm =>
      have hround := Decimal.ofDecimal_shortest (Nat.pos_of_ne_zero hm) h
      have hpos : 0 < (Decimal.shortest m e).1 := by
        refine Nat.pos_of_ne_zero fun hzero => hm ?_
        have := hround false
        rw [hzero] at this
        cases this
        rfl
      obtain ⟨hdigits, hne, hhead⟩ := significant_spec hpos
      have hrounds {n : Numeral} (hn : n.Denotes (significant (Decimal.shortest m e).1)
          ((Nat.toDigits 10 (Decimal.shortest m e).1).length + (Decimal.shortest m e).2))
          (negative : Bool) :
          Binary64.ofDecimal negative n.mantissa n.exponent = .finite negative m e h := by
        rw [hn.ofDecimal_eq, hround]
      simp only
      split
      · obtain ⟨n, htext, hn⟩ := exists_numeral_positional hdigits hne hhead _
        exact ⟨n, htext, hrounds hn⟩
      · obtain ⟨n, htext, hn⟩ := exists_numeral_scientific hdigits hne hhead _
        exact ⟨n, htext, hrounds hn⟩

theorem scalarText_float (x : Binary64) : ScalarText (compact (.float x)).toList (.float x) := by
  cases x with
  | nan =>
      intro rest _
      simp [compact, floatText, Decimal.text, specialNames, readScalar, readName?, Text.after?]
  | infinite negative =>
      intro rest _
      cases negative <;>
        simp [compact, floatText, Decimal.text, specialNames, readScalar, readName?, Text.after?]
  | finite negative m e h =>
      obtain ⟨n, htext, hround⟩ := exists_numeral_magnitudeText h
      have hscalar := n.scalarText (hround negative)
      rw [htext] at hscalar
      have hcompact : (compact (.float (.finite negative m e h))).toList =
          (if negative then ['-'] else []) ++ magnitudeText m e := by
        cases negative <;> simp [compact, floatText, Decimal.text]
      rwa [hcompact]

end DurableFlow.Json
