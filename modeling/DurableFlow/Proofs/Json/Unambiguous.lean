import DurableFlow.Proofs.Json.Written

/-!
Spellings are unambiguous. What stands at the start of a text can be a spelling of one value at most,
and it ends in one place, whatever limits the value passes: a number ends where its digits end, a quoted
text at its closing quote, and an array or object at the bracket or brace behind its last part.
-/

namespace DurableFlow.Json

/-! ### Values without parts -/

theorem toDigits_cut {m n : Nat} {rest rest' : List Char} (hrest : EndsNumber rest)
    (hrest' : EndsNumber rest') (h : Nat.toDigits 10 m ++ rest = Nat.toDigits 10 n ++ rest') :
    m = n ∧ rest = rest' := by
  have htake := takeWhole_toDigits m hrest
  rw [h, takeWhole_toDigits n hrest'] at htake
  obtain ⟨hdigits, hrests⟩ := Prod.mk.inj htake
  rw [← digitsValue_toDigits m, ← digitsValue_toDigits n, hdigits]
  exact ⟨rfl, hrests.symm⟩

theorem minus_ne_toDigits (n : Nat) (cs rest : List Char) : '-' :: cs ≠ Nat.toDigits 10 n ++ rest := by
  intro h
  obtain ⟨d, ds, hds⟩ := List.exists_cons_of_ne_nil (toDigits_ne_nil n)
  rw [hds, List.cons_append] at h
  have hd : Text.isAsciiDigit d = true := isAsciiDigit_of_mem_toDigits (hds ▸ List.mem_cons_self)
  rw [← (List.cons.inj h).1] at hd
  contradiction

theorem int_cut {m n : Int} {rest rest' : List Char} (hrest : EndsNumber rest)
    (hrest' : EndsNumber rest') (h : (toString m).toList ++ rest = (toString n).toList ++ rest') :
    m = n ∧ rest = rest' := by
  simp only [toList_toString_int, List.append_assoc] at h
  by_cases hm : m < 0
  · by_cases hn : n < 0
    · simp only [if_pos hm, if_pos hn, List.singleton_append] at h
      obtain ⟨habs, hrests⟩ := toDigits_cut hrest hrest' (List.cons.inj h).2
      exact ⟨by omega, hrests⟩
    · simp only [if_pos hm, if_neg hn, List.singleton_append, List.nil_append] at h
      exact absurd h (minus_ne_toDigits _ _ _)
  · by_cases hn : n < 0
    · simp only [if_neg hm, if_pos hn, List.singleton_append, List.nil_append] at h
      exact absurd h.symm (minus_ne_toDigits _ _ _)
    · simp only [if_neg hm, if_neg hn, List.nil_append] at h
      obtain ⟨habs, hrests⟩ := toDigits_cut hrest hrest' h
      exact ⟨by omega, hrests⟩

/-- The mark at which a value with quotes or parts starts; other values have none. -/
def opener? : Json → Option Char
  | .str _ => some '"'
  | .arr _ => some '['
  | .obj _ => some '\x7b'
  | _ => none

theorem eq_of_readScalar {v w : Json} (hv : opener? v = none) {rest rest' : List Char}
    (hrest : EndsNumber rest) (h : readScalar (v.compact.toList ++ rest) = .ok (w, rest')) :
    v = w ∧ rest = rest' := by
  have hread : readScalar (v.compact.toList ++ rest) = .ok (v, rest) := by
    cases v with
    | null => exact scalarText_null rest hrest
    | bool b => exact scalarText_bool b rest hrest
    | float x => exact scalarText_float x rest hrest
    | int n =>
        by_cases hn : Decimal.Limited n
        · exact scalarText_int hn rest hrest
        · obtain ⟨fault, hfault⟩ := (readScalar_int n hrest).2 hn
          rw [hfault] at h
          contradiction
    | str s => contradiction
    | arr items => contradiction
    | obj ms => contradiction
  rw [hread] at h
  exact Prod.mk.inj (Except.ok.inj h)

theorem scalar_cut {v w : Json} (hv : opener? v = none) (hw : opener? w = none)
    {rest rest' : List Char} (hrest : EndsNumber rest) (hrest' : EndsNumber rest')
    (h : v.compact.toList ++ rest = w.compact.toList ++ rest') : v = w ∧ rest = rest' := by
  -- A value that is read settles the matter, and of two numbers too long to be read there are digits.
  have hcases : ∀ u, opener? u = none → (∃ n, u = .int n) ∨ ScalarText u.compact.toList u := by
    intro u hu
    cases u with
    | null => exact .inr scalarText_null
    | bool b => exact .inr (scalarText_bool b)
    | float x => exact .inr (scalarText_float x)
    | int n => exact .inl ⟨n, rfl⟩
    | str s => contradiction
    | arr items => contradiction
    | obj ms => contradiction
  rcases hcases w hw with ⟨n, rfl⟩ | hread
  · rcases hcases v hv with ⟨m, rfl⟩ | hread
    · obtain ⟨rfl, hrests⟩ := int_cut hrest hrest' h
      exact ⟨rfl, hrests⟩
    · obtain ⟨heq, hrests⟩ := eq_of_readScalar hw hrest' (h ▸ hread rest hrest)
      exact ⟨heq.symm, hrests.symm⟩
  · exact eq_of_readScalar hv hrest (h ▸ hread rest' hrest')

/-! ### Where values start -/

theorem exists_cons_int (n : Int) :
    ∃ c cs, (toString n).toList = c :: cs ∧ ∀ x ∈ marks, c ≠ x := by
  rw [toList_toString_int]
  by_cases hn : n < 0
  · exact ⟨'-', _, by rw [if_pos hn]; rfl, Text.forall_mem_of_all (by decide)⟩
  · obtain ⟨d, ds, hds⟩ := List.exists_cons_of_ne_nil (toDigits_ne_nil n.natAbs)
    refine ⟨d, ds, by rw [if_neg hn, hds]; rfl, ?_⟩
    have hdigit : Text.isAsciiDigit d = true := isAsciiDigit_of_mem_toDigits (hds ▸ List.mem_cons_self)
    rintro x hx rfl
    have hmarks : ∀ x ∈ marks, Text.isAsciiDigit x = false := Text.forall_mem_of_all (by decide)
    rw [hmarks d hx] at hdigit
    contradiction

/-- A value starts with its mark, or with a character that is no mark. -/
theorem Spells.exists_start {v : Json} {cs : List Char} (h : Spells v cs) :
    ∃ c cs', cs = c :: cs' ∧ (opener? v = some c ∨ (opener? v = none ∧ ∀ x ∈ marks, c ≠ x)) := by
  cases v with
  | null =>
      obtain ⟨c, cs', hcs, hc⟩ := scalarText_null.exists_cons
      exact ⟨c, cs', h.trans hcs, .inr ⟨rfl, hc⟩⟩
  | bool b =>
      obtain ⟨c, cs', hcs, hc⟩ := (scalarText_bool b).exists_cons
      exact ⟨c, cs', h.trans hcs, .inr ⟨rfl, hc⟩⟩
  | float x =>
      obtain ⟨c, cs', hcs, hc⟩ := (scalarText_float x).exists_cons
      exact ⟨c, cs', h.trans hcs, .inr ⟨rfl, hc⟩⟩
  | int n =>
      obtain ⟨c, cs', hcs, hc⟩ := exists_cons_int n
      exact ⟨c, cs', h.trans hcs, .inr ⟨rfl, hc⟩⟩
  | str s => exact ⟨'"', _, spells_str.mp h, .inl rfl⟩
  | arr items =>
      obtain ⟨pad, inner, -, rfl, -⟩ := h
      exact ⟨'[', _, rfl, .inl rfl⟩
  | obj ms =>
      obtain ⟨pad, inner, -, rfl, -⟩ := h
      exact ⟨'\x7b', _, rfl, .inl rfl⟩

theorem Spells.exists_cons_of_ne {v : Json} {cs : List Char} (h : Spells v cs) :
    ∃ c cs', cs = c :: cs' ∧ isSpace c = false ∧ c ≠ ']' := by
  obtain ⟨c, cs', rfl, hc⟩ := h.exists_start
  refine ⟨c, cs', rfl, ?_⟩
  rcases hc with hc | ⟨-, hc⟩
  · cases v with
    | str s => exact Option.some.inj hc ▸ by decide
    | arr items => exact Option.some.inj hc ▸ by decide
    | obj ms => exact Option.some.inj hc ▸ by decide
    | _ => contradiction
  · refine ⟨?_, hc ']' (by decide)⟩
    simp [isSpace, hc ' ' (by decide), hc '\t' (by decide), hc '\n' (by decide), hc '\r' (by decide)]

theorem Spells.skipSpace_append {v : Json} {cs : List Char} (h : Spells v cs) (rest : List Char) :
    skipSpace (cs ++ rest) = cs ++ rest := by
  obtain ⟨c, cs', rfl, hc, -⟩ := h.exists_cons_of_ne
  exact skipSpace_cons hc _

/-- Two values that start a text have the same mark, or have none. -/
theorem Spells.opener?_eq {v w : Json} {cs cs' rest rest' : List Char} (h : Spells v cs)
    (h' : Spells w cs') (heq : cs ++ rest = cs' ++ rest') : opener? v = opener? w := by
  have hmark : ∀ u c, opener? u = some c → c ∈ marks := by
    intro u c hc
    cases u with
    | str s => exact Option.some.inj hc ▸ by decide
    | arr items => exact Option.some.inj hc ▸ by decide
    | obj ms => exact Option.some.inj hc ▸ by decide
    | _ => contradiction
  obtain ⟨c, front, rfl, hc⟩ := h.exists_start
  obtain ⟨c', front', rfl, hc'⟩ := h'.exists_start
  obtain ⟨rfl, -⟩ := List.cons.inj heq
  rcases hc with hc | ⟨hc, hne⟩ <;> rcases hc' with hc' | ⟨hc', hne'⟩
  · rw [hc, hc']
  · exact absurd rfl (hne' c (hmark v c hc))
  · exact absurd rfl (hne c (hmark w c hc'))
  · rw [hc, hc']

/-! ### Cutting a text -/

theorem blank_cut {pad pad' cs cs' : List Char} (hpad : Blank pad) (hpad' : Blank pad')
    (hcs : skipSpace cs = cs) (hcs' : skipSpace cs' = cs') (h : pad ++ cs = pad' ++ cs') : cs = cs' := by
  have hskip := skipSpace_blank hpad cs
  rwa [h, skipSpace_blank hpad', hcs, hcs', eq_comm] at hskip

theorem quoteChars_cut {a b rest rest' : List Char}
    (h : quoteChars a ++ rest = quoteChars b ++ rest') : a = b ∧ rest = rest' := by
  rw [quoteChars_append, quoteChars_append] at h
  have hread := readString_quoted 0 a rest
  rw [(List.cons.inj h).2, readString_quoted] at hread
  obtain ⟨hchars, hrests⟩ := Prod.mk.inj (Except.ok.inj hread)
  exact ⟨hchars.symm, hrests.symm⟩

section Parts

variable {α : Type} {P : List α → List Char → Prop} {close : Char} {as bs : List α}
  {pad pad' tail tail' rest rest' : List Char}

/-- Behind the opening mark of an array or object: its parts, or nothing but the closing mark. -/
theorem inner_cut (hclose : isSpace close = false)
    (hstart : ∀ xs cs, P xs cs → ∃ c cs', cs = c :: cs' ∧ isSpace c = false ∧ c ≠ close)
    (hcut : P as tail → P bs tail' → tail ++ rest = tail' ++ rest' → as = bs ∧ rest = rest')
    (hpad : Blank pad) (hpad' : Blank pad')
    (h : (as = [] ∧ tail = [close]) ∨ P as tail) (h' : (bs = [] ∧ tail' = [close]) ∨ P bs tail')
    (heq : pad ++ (tail ++ rest) = pad' ++ (tail' ++ rest')) : as = bs ∧ rest = rest' := by
  have hskip : ∀ xs cs r, (xs = [] ∧ cs = [close]) ∨ P xs cs → skipSpace (cs ++ r) = cs ++ r := by
    rintro xs cs r (⟨-, rfl⟩ | hP)
    · exact skipSpace_cons hclose r
    · obtain ⟨c, cs', rfl, hc, -⟩ := hstart xs cs hP
      exact skipSpace_cons hc _
  have htails := blank_cut hpad hpad' (hskip as tail rest h) (hskip bs tail' rest' h') heq
  rcases h with ⟨rfl, rfl⟩ | hP <;> rcases h' with ⟨rfl, rfl⟩ | hP'
  · exact ⟨rfl, (List.cons.inj htails).2⟩
  · obtain ⟨c, cs, rfl, -, hc⟩ := hstart bs tail' hP'
    exact absurd (List.cons.inj htails).1.symm hc
  · obtain ⟨c, cs, rfl, -, hc⟩ := hstart as tail hP
    exact absurd (List.cons.inj htails).1 hc
  · exact hcut hP hP' htails

/-- Behind a part: the closing mark, or a comma and the other parts. -/
theorem tail_cut (hcomma : close ≠ ',') (hclose : isSpace close = false)
    (hstart : ∀ xs cs, P xs cs → ∃ c cs', cs = c :: cs' ∧ isSpace c = false ∧ c ≠ close)
    (hcut : ∀ cs cs', P as cs → P bs cs' → cs ++ rest = cs' ++ rest' → as = bs ∧ rest = rest')
    (hpad : Blank pad) (hpad' : Blank pad')
    (h : (as = [] ∧ tail = [close]) ∨
      ∃ pad more, Blank pad ∧ tail = ',' :: (pad ++ more) ∧ P as more)
    (h' : (bs = [] ∧ tail' = [close]) ∨
      ∃ pad more, Blank pad ∧ tail' = ',' :: (pad ++ more) ∧ P bs more)
    (heq : pad ++ (tail ++ rest) = pad' ++ (tail' ++ rest')) : as = bs ∧ rest = rest' := by
  -- The comma is one more thing that can stand in front of parts.
  refine inner_cut (P := fun xs cs => ∃ pad more, Blank pad ∧ cs = ',' :: (pad ++ more) ∧ P xs more)
    hclose ?_ ?_ hpad hpad' h h' heq
  · rintro xs cs ⟨pad, more, -, rfl, -⟩
    exact ⟨',', _, rfl, by decide, hcomma.symm⟩
  · rintro ⟨front, more, hfront, rfl, hmore⟩ ⟨front', more', hfront', rfl, hmore'⟩ htails
    simp only [List.cons_append, List.append_assoc] at htails
    exact inner_cut hclose hstart (hcut more more') hfront hfront' (.inr hmore) (.inr hmore')
      (List.cons.inj htails).2

theorem endsNumber_tail (hclose : close ∈ [']', '\x7d']) (hpad : Blank pad)
    (h : (as = [] ∧ tail = [close]) ∨
      ∃ pad more, Blank pad ∧ tail = ',' :: (pad ++ more) ∧ P as more)
    (rest : List Char) : EndsNumber (pad ++ (tail ++ rest)) := by
  rcases h with ⟨-, rfl⟩ | ⟨front, more, -, rfl, -⟩
  · exact endsNumber_mark hpad (List.mem_cons_of_mem ',' hclose) rest
  · exact endsNumber_mark hpad List.mem_cons_self _

end Parts

theorem SpellsItems.exists_cons_of_ne {items : List Json} {cs : List Char} (h : SpellsItems items cs) :
    ∃ c cs', cs = c :: cs' ∧ isSpace c = false ∧ c ≠ ']' := by
  cases items with
  | nil => exact h.elim
  | cons v vs =>
      obtain ⟨text, pad, tail, htext, -, rfl, -⟩ := h
      obtain ⟨c, cs', rfl, hc⟩ := htext.exists_cons_of_ne
      exact ⟨c, _, rfl, hc⟩

theorem SpellsMembers.exists_cons_of_ne {ms : Members} {cs : List Char} (h : SpellsMembers ms cs) :
    ∃ c cs', cs = c :: cs' ∧ isSpace c = false ∧ c ≠ '\x7d' := by
  obtain ⟨cs', rfl⟩ := h.exists_quote
  exact ⟨'"', cs', rfl, by decide, by decide⟩

theorem spells_scalar {v : Json} (hv : opener? v = none) {cs : List Char} :
    Spells v cs ↔ cs = v.compact.toList := by
  cases v with
  | str s => contradiction
  | arr items => contradiction
  | obj ms => contradiction
  | _ => simp [Spells]

theorem exists_of_opener? (v : Json) :
    (opener? v = some '"' → ∃ s, v = .str s) ∧ (opener? v = some '[' → ∃ items, v = .arr items) ∧
      (opener? v = some '\x7b' → ∃ ms, v = .obj ms) := by
  cases v <;> simp [opener?]

mutual

/-- What stands at the start of a text spells one value, and ends in one place. -/
theorem spells_cut (v w : Json) {cs cs' rest rest' : List Char} (h : Spells v cs)
    (h' : Spells w cs') (hrest : EndsNumber rest) (hrest' : EndsNumber rest')
    (heq : cs ++ rest = cs' ++ rest') : v = w ∧ rest = rest' := by
  have hmark : opener? w = opener? v := (h.opener?_eq h' heq).symm
  have hscalar (hv : opener? v = none) : v = w ∧ rest = rest' := by
    have hw : opener? w = none := hmark.trans hv
    rw [spells_scalar hv] at h
    rw [spells_scalar hw] at h'
    exact scalar_cut hv hw hrest hrest' (h ▸ h' ▸ heq)
  obtain ⟨hstr, harr, hobj⟩ := exists_of_opener? w
  match v, h with
  | .null, _ => exact hscalar rfl
  | .bool b, _ => exact hscalar rfl
  | .int n, _ => exact hscalar rfl
  | .float x, _ => exact hscalar rfl
  | .str s, h =>
      obtain ⟨t, rfl⟩ := hstr hmark
      rw [spells_str.mp h, spells_str.mp h'] at heq
      obtain ⟨hchars, hrests⟩ := quoteChars_cut heq
      exact ⟨congrArg Json.str (String.toList_inj.mp hchars), hrests⟩
  | .arr vs, ⟨pad, inner, hpad, hcs, hinner⟩ =>
      obtain ⟨ws, rfl⟩ := harr hmark
      obtain ⟨pad', inner', hpad', hcs', hinner'⟩ := h'
      rw [hcs, hcs', List.cons_append, List.cons_append, List.append_assoc, List.append_assoc] at heq
      obtain ⟨rfl, hrests⟩ := inner_cut (by decide) (fun _ _ hitems => hitems.exists_cons_of_ne)
        (spellsItems_cut vs ws) hpad hpad' hinner hinner' (List.cons.inj heq).2
      exact ⟨rfl, hrests⟩
  | .obj ms, ⟨pad, inner, hpad, hcs, hinner⟩ =>
      obtain ⟨ns, rfl⟩ := hobj hmark
      obtain ⟨pad', inner', hpad', hcs', hinner'⟩ := h'
      rw [hcs, hcs', List.cons_append, List.cons_append, List.append_assoc, List.append_assoc] at heq
      obtain ⟨rfl, hrests⟩ := inner_cut (by decide) (fun _ _ hms => hms.exists_cons_of_ne)
        (spellsMembers_cut ms ns) hpad hpad' hinner hinner' (List.cons.inj heq).2
      exact ⟨rfl, hrests⟩

theorem spellsItems_cut (vs ws : List Json) {cs cs' rest rest' : List Char} (h : SpellsItems vs cs)
    (h' : SpellsItems ws cs') (heq : cs ++ rest = cs' ++ rest') : vs = ws ∧ rest = rest' := by
  match vs, ws, h, h' with
  | v :: vs, w :: ws, ⟨text, pad, tail, htext, hpad, hcs, htail⟩,
      ⟨text', pad', tail', htext', hpad', hcs', htail'⟩ =>
      subst hcs hcs'
      simp only [List.append_assoc] at heq
      obtain ⟨rfl, htails⟩ := spells_cut v w htext htext' (endsNumber_tail (by decide) hpad htail rest)
        (endsNumber_tail (by decide) hpad' htail' rest') heq
      obtain ⟨rfl, hrests⟩ := tail_cut (by decide) (by decide)
        (fun _ _ hitems => hitems.exists_cons_of_ne) (fun _ _ => spellsItems_cut vs ws) hpad hpad'
        htail htail' htails
      exact ⟨rfl, hrests⟩

theorem spellsMembers_cut (ms ns : Members) {cs cs' rest rest' : List Char} (h : SpellsMembers ms cs)
    (h' : SpellsMembers ns cs') (heq : cs ++ rest = cs' ++ rest') : ms = ns ∧ rest = rest' := by
  match ms, ns, h, h' with
  | (k, v) :: ms, (l, w) :: ns, ⟨front, text, pad, tail, hfront, htext, hpad, hcs, htail⟩,
      ⟨front', text', pad', tail', hfront', htext', hpad', hcs', htail'⟩ =>
      subst hcs hcs'
      simp only [List.append_assoc, List.cons_append] at heq
      obtain ⟨hkey, hvalues⟩ := quoteChars_cut heq
      obtain rfl := String.toList_inj.mp hkey
      have hvalues := blank_cut hfront hfront' (htext.skipSpace_append _) (htext'.skipSpace_append _)
        (List.cons.inj hvalues).2
      obtain ⟨rfl, htails⟩ := spells_cut v w htext htext' (endsNumber_tail (by decide) hpad htail rest)
        (endsNumber_tail (by decide) hpad' htail' rest') hvalues
      obtain ⟨rfl, hrests⟩ := tail_cut (by decide) (by decide)
        (fun _ _ hms => hms.exists_cons_of_ne) (fun _ _ => spellsMembers_cut ms ns) hpad hpad'
        htail htail' htails
      exact ⟨rfl, hrests⟩

end

theorem Spells.unique {v w : Json} {cs : List Char} (h : Spells v cs) (h' : Spells w cs) : v = w := by
  have hnil : EndsNumber [] := by simp [EndsNumber]
  exact (spells_cut v w h h' hnil hnil rfl).1

end DurableFlow.Json
