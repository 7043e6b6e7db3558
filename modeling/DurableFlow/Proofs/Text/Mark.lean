import DurableFlow.Proofs.Json.Quoted
import DurableFlow.Proofs.Text.Indent
import Mathlib.Data.List.Infix
import Mathlib.Tactic.IntervalCases

/-!
Texts in which none of some words stands. Such texts can be put together as long as no word can grow
across the seam, which is so when one of the two texts is fenced there. Words without blanks are not
made by indentation either, and words of plain characters are not made by quoting.
-/

namespace DurableFlow.Text

def Avoids (ws : List (List Char)) (t : List Char) : Prop := ∀ w ∈ ws, ¬w <:+: t

/-- No word starts in the text and goes on behind it, whatever stands before the text. -/
def FencedBehind (ws : List (List Char)) (t : List Char) : Prop :=
  ∀ w ∈ ws, ∀ k < w.length, 0 < k → ¬w.take k <:+ t ∧ ¬t <:+ w.take k

/-- No word starts before the text and ends in it, whatever stands behind the text. -/
def FencedBefore (ws : List (List Char)) (t : List Char) : Prop :=
  ∀ w ∈ ws, ∀ k < w.length, 0 < k → ¬w.drop k <+: t ∧ ¬t <+: w.drop k

/-- A text without the words that is fenced on both sides. -/
structure Fenced (ws : List (List Char)) (t : List Char) : Prop where
  avoids : Avoids ws t
  before : FencedBefore ws t
  behind : FencedBehind ws t

variable {ws : List (List Char)}

/-! ### Seams -/

theorem FencedBehind.append {t : List Char} (h : FencedBehind ws t) (u : List Char) :
    FencedBehind ws (u ++ t) := by
  intro w hw k hk hpos
  obtain ⟨hshort, hlong⟩ := h w hw k hk hpos
  constructor
  · intro hs
    rcases List.suffix_or_suffix_of_suffix hs (List.suffix_append u t) with hs | hs
    · exact hshort hs
    · exact hlong hs
  · intro hs
    exact hlong ((List.suffix_append u t).trans hs)

theorem FencedBefore.append {t : List Char} (h : FencedBefore ws t) (u : List Char) :
    FencedBefore ws (t ++ u) := by
  intro w hw k hk hpos
  obtain ⟨hshort, hlong⟩ := h w hw k hk hpos
  constructor
  · intro hp
    rcases List.prefix_or_prefix_of_prefix hp (List.prefix_append t u) with hp | hp
    · exact hshort hp
    · exact hlong hp
  · intro hp
    exact hlong ((List.prefix_append t u).trans hp)

namespace Avoids

theorem nil {t : List Char} (h : Avoids ws t) : Avoids ws [] := by
  intro w hw hin
  rw [List.infix_nil] at hin
  subst hin
  exact h [] hw List.nil_infix

theorem mono {ws' : List (List Char)} {t : List Char} (h : Avoids ws t)
    (hsub : ∀ w' ∈ ws', ∃ w ∈ ws, w <:+: w') : Avoids ws' t := by
  intro w' hw' hin
  obtain ⟨w, hw, hsub⟩ := hsub w' hw'
  exact h w hw (hsub.trans hin)

theorem subset {ws' : List (List Char)} {t : List Char} (h : Avoids ws t) (hsub : ws' ⊆ ws) :
    Avoids ws' t :=
  fun w hw => h w (hsub hw)

theorem part {t u : List Char} (h : Avoids ws t) (hu : u <:+: t) : Avoids ws u :=
  fun w hw hin => h w hw (hin.trans hu)

theorem of_forall {p : Char → Bool} (hws : ws.all (fun w => w.any fun c => !p c) = true)
    {t : List Char} (h : ∀ c ∈ t, p c = true) : Avoids ws t := by
  intro w hw hin
  obtain ⟨c, hc, hnot⟩ := List.any_eq_true.mp (List.all_eq_true.mp hws w hw)
  rw [h c (hin.subset hc)] at hnot
  exact Bool.noConfusion hnot

theorem append {a b : List Char} (ha : Avoids ws a) (hb : Avoids ws b)
    (h : FencedBehind ws a ∨ FencedBefore ws b) : Avoids ws (a ++ b) := by
  intro w hw hin
  rcases List.infix_append_iff_ne_nil.mp hin with hin | hin | ⟨x, y, hx, hy, hsplit, hs, hp⟩
  · exact ha w hw hin
  · exact hb w hw hin
  · -- The word would start in the first text and end in the second one.
    have hx := List.length_pos_iff.mpr hx
    have hy := List.length_pos_iff.mpr hy
    have hlength : w.length = x.length + y.length := by rw [hsplit, List.length_append]
    rcases h with h | h
    · refine (h w hw x.length (by omega) hx).1 ?_
      rw [hsplit, List.take_left]
      exact hs
    · refine (h w hw x.length (by omega) hx).1 ?_
      rw [hsplit, List.drop_left]
      exact hp

end Avoids

namespace Fenced

theorem subset {ws' : List (List Char)} {t : List Char} (h : Fenced ws t) (hsub : ws' ⊆ ws) :
    Fenced ws' t :=
  ⟨fun w hw => h.avoids w (hsub hw), fun w hw => h.before w (hsub hw),
    fun w hw => h.behind w (hsub hw)⟩

theorem of_chars {s : String} {cs : List Char} (hs : s = String.ofList cs) (h : Fenced ws cs) :
    Fenced ws s.toList := by
  rw [hs, String.toList_ofList]
  exact h

theorem append {a b : String} (ha : Fenced ws a.toList) (hb : Fenced ws b.toList) :
    Fenced ws (a ++ b).toList := by
  rw [String.toList_append]
  exact ⟨ha.avoids.append hb.avoids (.inl ha.behind), ha.before.append _, hb.behind.append _⟩

theorem between {a b t : String} (ha : Fenced ws a.toList) (ht : Avoids ws t.toList)
    (hb : Fenced ws b.toList) : Fenced ws (a ++ t ++ b).toList := by
  rw [String.toList_append, String.toList_append]
  refine ⟨(ha.avoids.append ht (.inl ha.behind)).append hb.avoids (.inr hb.before), ?_,
    hb.behind.append _⟩
  rw [List.append_assoc]
  exact ha.before.append _

end Fenced

/-! ### Fences that are spelled out -/

/-- Whether one of the two texts is the start of the other one. -/
def meets : List Char → List Char → Bool
  | [], _ => true
  | _, [] => true
  | a :: as, c :: cs => a.toNat == c.toNat && meets as cs

theorem not_prefix_of_meets {a b : List Char} (h : meets a b = false) : ¬a <+: b ∧ ¬b <+: a := by
  induction a generalizing b with
  | nil => simp [meets] at h
  | cons x a ih =>
      cases b with
      | nil => simp [meets] at h
      | cons y b =>
          simp only [List.cons_prefix_cons]
          constructor
          · rintro ⟨rfl, hp⟩
            exact (ih (by simpa [meets] using h)).1 hp
          · rintro ⟨rfl, hp⟩
            exact (ih (by simpa [meets] using h)).2 hp

/-- Whether no word starts in the text: none stands in it, and none goes on behind it. -/
def startsNone (ws : List (List Char)) : List Char → Bool
  | [] => ws.all fun w => !w.isEmpty
  | c :: cs => ws.all (fun w => !meets w (c :: cs)) && startsNone ws cs

/-- Whether the text is not met by the word from its second character on, or from a later one. -/
def isPassed (t : List Char) : (word : List Char) → Bool
  | [] => true
  | c :: cs => !meets (c :: cs) t && isPassed t cs

def isFenced (ws : List (List Char)) (t : List Char) : Bool :=
  startsNone ws t && ws.all fun w => isPassed t w.tail

theorem not_prefix_of_startsNone {t v w : List Char} (h : startsNone ws t = true) (hw : w ∈ ws)
    (hv : v <:+ t) (hne : v ≠ []) : ¬w <+: v ∧ ¬v <+: w := by
  induction t with
  | nil => exact absurd (List.suffix_nil.mp hv) hne
  | cons c cs ih =>
      rw [startsNone, Bool.and_eq_true, List.all_eq_true] at h
      rcases List.suffix_cons_iff.mp hv with rfl | hv
      · exact not_prefix_of_meets (by simpa using h.1 w hw)
      · exact ih h.2 hv

theorem ne_nil_of_startsNone {t w : List Char} (h : startsNone ws t = true) (hw : w ∈ ws) :
    w ≠ [] := by
  induction t with
  | nil => simpa using List.all_eq_true.mp h w hw
  | cons c cs ih =>
      rw [startsNone, Bool.and_eq_true] at h
      exact ih h.2

theorem not_prefix_of_isPassed {t v word : List Char} (h : isPassed t word = true)
    (hv : v <:+ word) (hne : v ≠ []) : ¬v <+: t ∧ ¬t <+: v := by
  induction word with
  | nil => exact absurd (List.suffix_nil.mp hv) hne
  | cons c cs ih =>
      rw [isPassed, Bool.and_eq_true] at h
      rcases List.suffix_cons_iff.mp hv with rfl | hv
      · exact not_prefix_of_meets (by simpa using h.1)
      · exact ih h.2 hv

theorem avoids_of_startsNone {t : List Char} (h : startsNone ws t = true) : Avoids ws t := by
  rintro w hw ⟨front, rest, rfl⟩
  have hne : w ++ rest ≠ [] := List.append_ne_nil_of_left_ne_nil (ne_nil_of_startsNone h hw) rest
  rw [List.append_assoc] at h
  exact (not_prefix_of_startsNone h hw (List.suffix_append front _) hne).1
    (List.prefix_append w rest)

/-- A word that goes on behind the text does not go on behind a space. -/
theorem avoids_of_spaced {s : String} {cs : List Char} (hs : s = String.ofList cs)
    (h : startsNone ws (cs ++ [' ']) = true) : Avoids ws s.toList := by
  rw [hs, String.toList_ofList]
  exact (avoids_of_startsNone h).part (List.prefix_append cs [' ']).isInfix

theorem fencedBefore_of_isPassed {t : List Char} (h : ∀ w ∈ ws, isPassed t w.tail = true) :
    FencedBefore ws t := by
  intro w hw k hk hpos
  have hend : w.drop k <:+ w.tail := by
    rw [← List.drop_one]
    exact List.drop_suffix_drop_left w hpos
  exact not_prefix_of_isPassed (h w hw) hend (by simpa using hk)

theorem fencedBehind_of_startsNone {t : List Char} (h : startsNone ws t = true)
    (hbefore : FencedBefore ws t) : FencedBehind ws t := by
  intro w hw k hk hpos
  have htake : w.take k ≠ [] := List.ne_nil_of_length_pos (by rw [List.length_take]; omega)
  constructor
  · intro hs
    exact (not_prefix_of_startsNone h hw hs htake).2 (List.take_prefix k w)
  · -- The text would stand inside of the word: at its start, or further on.
    rintro ⟨front, hfront⟩
    cases front with
    | nil =>
        rw [List.nil_append] at hfront
        subst hfront
        exact (not_prefix_of_startsNone h hw List.suffix_rfl htake).2 (List.take_prefix k w)
    | cons c front =>
        have hlength := congrArg List.length hfront
        rw [List.length_append, List.length_take, List.length_cons] at hlength
        have hp : t <+: w.drop (front.length + 1) := by
          have hdrop := (List.take_prefix k w).drop (front.length + 1)
          rwa [← hfront, ← List.length_cons (a := c), List.drop_left] at hdrop
        exact (hbefore w hw _ (by omega) (Nat.succ_pos _)).2 hp

/-- Behind a fence, it is enough that no word starts in a text. -/
theorem FencedBehind.append_startsNone {a t : List Char} (ha : FencedBehind ws a)
    (h : startsNone ws t = true) : FencedBehind ws (a ++ t) := by
  intro w hw k hk hpos
  have htake : w.take k ≠ [] := List.ne_nil_of_length_pos (by rw [List.length_take]; omega)
  -- What the word has before the second text would be the end of a fence, or nothing.
  have hstart : ∀ v, v ++ t = w.take k → ¬(v <:+ a ∨ a <:+ v) := by
    intro v hv hends
    have hlength := congrArg List.length hv
    rw [List.length_append, List.length_take] at hlength
    by_cases hnil : v = []
    · rw [hnil, List.nil_append] at hv
      subst hv
      exact (not_prefix_of_startsNone h hw List.suffix_rfl htake).2 (List.take_prefix k w)
    · have hp : v = w.take v.length :=
        List.prefix_iff_eq_take.mp ((hv ▸ List.prefix_append v t).trans (List.take_prefix k w))
      have hfence := ha w hw v.length (by omega) (List.length_pos_iff.mpr hnil)
      rw [← hp] at hfence
      exact hends.elim hfence.1 hfence.2
  constructor
  · intro hs
    rcases List.suffix_or_suffix_of_suffix hs (List.suffix_append a t) with hs | ⟨v, hv⟩
    · exact (not_prefix_of_startsNone h hw hs htake).2 (List.take_prefix k w)
    · refine hstart v hv (.inl ?_)
      rwa [← hv, List.suffix_append_self_iff] at hs
  · rintro ⟨u, hu⟩
    rw [← List.append_assoc] at hu
    exact hstart (u ++ a) hu (.inr (List.suffix_append u a))

theorem Fenced.append_startsNone {a b : String} {cs : List Char} (ha : Fenced ws a.toList)
    (hb : b = String.ofList cs) (h : startsNone ws cs = true) : Fenced ws (a ++ b).toList := by
  rw [String.toList_append, hb, String.toList_ofList]
  exact ⟨ha.avoids.append (avoids_of_startsNone h) (.inl ha.behind), ha.before.append _,
    ha.behind.append_startsNone h⟩

theorem Fenced.of_isFenced {t : List Char} (h : isFenced ws t = true) : Fenced ws t := by
  rw [isFenced, Bool.and_eq_true, List.all_eq_true] at h
  have hbefore := fencedBefore_of_isPassed h.2
  exact ⟨avoids_of_startsNone h.1, hbefore, fencedBehind_of_startsNone h.1 hbefore⟩

namespace Avoids

theorem intercalate {sep : String} (hsep : Fenced ws sep.toList) {ts : List String}
    (h : ∀ t ∈ ts, Avoids ws t.toList) : Avoids ws (sep.intercalate ts).toList := by
  induction ts with
  | nil => exact hsep.avoids.nil
  | cons t ts ih =>
      have ht := h t List.mem_cons_self
      have hts := ih fun u hu => h u (List.mem_cons_of_mem t hu)
      cases ts with
      | nil => rwa [String.intercalate_singleton]
      | cons next ts =>
          rw [String.intercalate_cons_cons, String.toList_append, String.toList_append]
          refine (ht.append hsep.avoids (.inr hsep.before)).append hts (.inl ?_)
          exact hsep.behind.append _

theorem indentBy (hws : ∀ w ∈ ws, w.all (fun c => !isBlank c) = true) {margin t : String}
    (hmargin : margin.toList.all isBlank = true) (h : Avoids ws t.toList) :
    Avoids ws (Text.indentBy margin t).toList := by
  intro w hw hin
  rw [toList_indentBy] at hin
  have hsolid : ∀ c ∈ w, isBlank c = false := fun c hc => by
    simpa using List.all_eq_true.mp (hws w hw) c hc
  exact h w hw ((Spread.of_indentation hmargin t.toList).within hsolid hin)

end Avoids

/-! ### Quoted texts -/

def escapeLetters : List Char :=
  ['\\', '"', 'n', 'r', 't', 'b', 'f', 'u', '0', '1', '2', '3', '4', '5', '6', '7', '8', '9', 'a',
   'b', 'c', 'd', 'e', 'f']

theorem hexDigit_mem_escapeLetters {n : Nat} (h : n < 16) : Json.hexDigit n ∈ escapeLetters := by
  interval_cases n <;> decide

theorem mem_unitEscape {n : Nat} {x : Char} (hx : x ∈ Json.unitEscape n) : x ∈ escapeLetters :=
  Json.forall_mem_unitEscape (by decide) (by decide) (fun _ h => hexDigit_mem_escapeLetters h) n x hx

/-- A text that starts with a backslash and is made of the characters of escapes. -/
def IsEscape (cs : List Char) : Prop := (∃ rest, cs = '\\' :: rest) ∧ ∀ x ∈ cs, x ∈ escapeLetters

theorem isEscape_short {letter c : Char} (h : (letter, c) ∈ Json.shortForms) :
    IsEscape ['\\', letter] := by
  have hall : Json.shortForms.all (fun p => escapeLetters.contains p.1) = true := by decide
  refine ⟨⟨[letter], rfl⟩, fun x hx => ?_⟩
  rw [List.mem_cons, List.mem_singleton] at hx
  rcases hx with rfl | rfl
  · decide
  · simpa using List.all_eq_true.mp hall _ h

theorem escapeChar_cases (c : Char) : Json.escapeChar c = [c] ∨ IsEscape (Json.escapeChar c) := by
  have hform := Json.written_escapeChar c
  generalize Json.escapeChar c = form at hform
  cases hform with
  | plain _ _ _ => exact .inl rfl
  | short h => exact .inr (isEscape_short h)
  | unit _ => exact .inr ⟨⟨_, rfl⟩, fun x hx => mem_unitEscape hx⟩
  | halves _ _ _ =>
      refine .inr ⟨⟨_, rfl⟩, fun x hx => ?_⟩
      rcases List.mem_append.mp hx with hx | hx
      · exact mem_unitEscape hx
      · exact mem_unitEscape hx

/-- A word that quoting cannot make: no quote or backslash is in it, and it does not start inside of
an escape. -/
def isPlain (w : List Char) : Bool :=
  w.all (fun c => c != '"' && c != '\\') && !w.head?.any escapeLetters.contains

theorem isPlain_cons {d : Char} {w : List Char} (h : isPlain (d :: w) = true) :
    (∀ c ∈ d :: w, c ≠ '"' ∧ c ≠ '\\') ∧ d ∉ escapeLetters := by
  rw [isPlain, Bool.and_eq_true, List.all_eq_true] at h
  refine ⟨fun c hc => by simpa using h.1 c hc, by simpa using h.2⟩

theorem prefix_of_prefix_escapes {w cs : List Char} (hw : ∀ c ∈ w, c ≠ '"' ∧ c ≠ '\\')
    (h : w <+: cs.flatMap Json.escapeChar ++ ['"']) : w <+: cs := by
  induction cs generalizing w with
  | nil =>
      cases w with
      | nil => exact List.nil_prefix
      | cons d w =>
          obtain ⟨rfl, -⟩ := List.cons_prefix_cons.mp h
          exact absurd rfl (hw '"' List.mem_cons_self).1
  | cons c cs ih =>
      cases w with
      | nil => exact List.nil_prefix
      | cons d w =>
          rw [List.flatMap_cons, List.append_assoc] at h
          -- An escape starts with a backslash, so the word can only go on with the character itself.
          rcases escapeChar_cases c with hself | ⟨⟨rest, hrest⟩, -⟩
          · rw [hself] at h
            obtain ⟨rfl, htail⟩ := List.cons_prefix_cons.mp h
            exact List.cons_prefix_cons.mpr
              ⟨rfl, ih (fun x hx => hw x (List.mem_cons_of_mem d hx)) htail⟩
          · rw [hrest] at h
            obtain ⟨rfl, -⟩ := List.cons_prefix_cons.mp h
            exact absurd rfl (hw '\\' List.mem_cons_self).2

theorem infix_of_infix_append {d : Char} {w front rest : List Char} (hd : d ∉ front)
    (h : d :: w <:+: front ++ rest) : d :: w <:+: rest := by
  induction front with
  | nil => exact h
  | cons c front ih =>
      rcases List.infix_cons_iff.mp h with hp | h
      · obtain ⟨rfl, -⟩ := List.cons_prefix_cons.mp hp
        exact absurd List.mem_cons_self hd
      · exact ih (fun hmem => hd (List.mem_cons_of_mem c hmem)) h

theorem infix_of_infix_escapes {d : Char} {w cs : List Char}
    (hall : ∀ c ∈ d :: w, c ≠ '"' ∧ c ≠ '\\') (hd : d ∉ escapeLetters)
    (h : d :: w <:+: cs.flatMap Json.escapeChar ++ ['"']) : d :: w <:+: cs := by
  induction cs with
  | nil => exact (prefix_of_prefix_escapes hall (by simpa [List.infix_cons_iff] using h)).isInfix
  | cons c cs ih =>
      rw [List.flatMap_cons, List.append_assoc] at h
      rcases escapeChar_cases c with hself | ⟨-, hletters⟩
      · rw [hself] at h
        rcases List.infix_cons_iff.mp h with hp | hin
        · refine List.IsPrefix.isInfix (prefix_of_prefix_escapes hall ?_)
          rw [List.flatMap_cons, hself, List.append_assoc]
          exact hp
        · exact List.infix_cons_iff.mpr (.inr (ih hin))
      · -- The word starts with no character of an escape, so it stands behind the escape.
        have hin := infix_of_infix_append (fun hmem => hd (hletters d hmem)) h
        exact List.infix_cons_iff.mpr (.inr (ih hin))

theorem infix_of_infix_quoteChars {w cs : List Char} (hw : isPlain w = true)
    (h : w <:+: Json.quoteChars cs) : w <:+: cs := by
  cases w with
  | nil => exact List.nil_infix
  | cons d w =>
      obtain ⟨hall, hd⟩ := isPlain_cons hw
      have hopen : d ∉ ['"'] := by
        rw [List.mem_singleton]
        exact (hall d List.mem_cons_self).1
      have h : d :: w <:+: ['"'] ++ (cs.flatMap Json.escapeChar ++ ['"']) := h
      exact infix_of_infix_escapes hall hd (infix_of_infix_append hopen h)

theorem Avoids.quote (hws : ∀ w ∈ ws, isPlain w = true) {s : String} (h : Avoids ws s.toList) :
    Avoids ws (Json.quote s).toList := by
  intro w hw hin
  rw [Json.quote, String.toList_ofList] at hin
  exact h w hw (infix_of_infix_quoteChars (hws w hw) hin)

/-! ### Runs of characters -/

theorem runs_of_not {p : Char → Bool} {c : Char} {cs : List Char} (hc : ¬p c = true) :
    runs p (c :: cs) = runs p cs := by
  cases cs with
  | nil => simp [runs, hc]
  | cons d cs => rw [runs, if_neg hc]

/-- A text that starts with a character of a run starts with the run. -/
theorem runs_cons {p : Char → Bool} {c : Char} (cs : List Char) (hc : p c = true) :
    ∃ r rs, runs p (c :: cs) = (c :: r) :: rs ∧ c :: r <+: c :: cs := by
  induction cs generalizing c with
  | nil => exact ⟨[], [], by simp [runs, hc], List.prefix_rfl⟩
  | cons d cs ih =>
      by_cases hd : p d = true
      · obtain ⟨r, rs, hruns, hpre⟩ := ih hd
        refine ⟨d :: r, rs, ?_, (List.prefix_cons_inj c).mpr hpre⟩
        rw [runs, if_pos hc]
        simp only [hd, if_true, hruns]
      · refine ⟨[], runs p (d :: cs), ?_, List.prefix_append [c] (d :: cs)⟩
        rw [runs, if_pos hc]
        simp only [hd, Bool.false_eq_true, if_false]

theorem runs_cons_tail {p : Char → Bool} {c : Char} {r cs : List Char} {rs : List (List Char)}
    (hc : p c = true) (h : runs p (c :: cs) = (c :: r) :: rs) :
    (r = [] ∨ ∃ rs', runs p cs = r :: rs') ∧ ∀ x ∈ rs, x ∈ runs p cs := by
  cases cs with
  | nil =>
      simp only [runs, hc, if_true, List.cons.injEq, true_and] at h
      exact ⟨.inl h.1.symm, by simp [← h.2]⟩
  | cons d cs =>
      rw [runs, if_pos hc] at h
      by_cases hd : p d = true
      · obtain ⟨r', rs', hruns, -⟩ := runs_cons cs hd
        simp only [hd, if_true, hruns, List.cons.injEq, true_and] at h
        obtain ⟨rfl, rfl⟩ := h
        exact ⟨.inr ⟨rs', hruns⟩, fun x hx => by rw [hruns]; exact List.mem_cons_of_mem _ hx⟩
      · simp only [hd, Bool.false_eq_true, if_false, List.cons.injEq, true_and] at h
        obtain ⟨rfl, rfl⟩ := h
        exact ⟨.inl rfl, fun x hx => hx⟩

theorem of_mem_runs {p : Char → Bool} {r cs : List Char} (h : r ∈ runs p cs) :
    r <:+: cs ∧ r ≠ [] ∧ ∀ c ∈ r, p c = true := by
  induction cs generalizing r with
  | nil => simp [runs] at h
  | cons c cs ih =>
      by_cases hc : p c = true
      · obtain ⟨r', rs, hruns, hpre⟩ := runs_cons cs hc
        obtain ⟨htail, hrest⟩ := runs_cons_tail hc hruns
        rw [hruns, List.mem_cons] at h
        rcases h with rfl | h
        · refine ⟨hpre.isInfix, List.cons_ne_nil c r', fun x hx => ?_⟩
          rcases List.mem_cons.mp hx with rfl | hx
          · exact hc
          · rcases htail with rfl | ⟨rs', hrs'⟩
            · simp at hx
            · exact (ih (by rw [hrs']; exact List.mem_cons_self)).2.2 x hx
        · obtain ⟨hin, hne, hall⟩ := ih (hrest r h)
          exact ⟨List.infix_cons hin, hne, hall⟩
      · rw [runs_of_not hc] at h
        obtain ⟨hin, hne, hall⟩ := ih h
        exact ⟨List.infix_cons hin, hne, hall⟩

theorem Avoids.singleLine (hspace : Fenced ws [' ']) {s : String} (h : Avoids ws s.toList) :
    Avoids ws (Text.singleLine s).toList := by
  rw [Text.singleLine]
  refine Avoids.intercalate (Fenced.of_chars rfl hspace) ?_
  intro t ht
  obtain ⟨r, hr, rfl⟩ := List.mem_map.mp ht
  rw [String.toList_ofList]
  exact h.part (of_mem_runs hr).1

end DurableFlow.Text
