import DurableFlow.Proofs.Expression.Literal
import DurableFlow.Proofs.Fragment.Renaming
import DurableFlow.Proofs.Module.Comment
import DurableFlow.Proofs.Text.Split

/-!
References in the code of a node that reshapes data. The code is cut at its references, and what is
emitted has the plain texts in their order, with the input names in them replaced, and between them
what the replacement makes of each accessor. That is the accessor itself exactly when no free input
name stands in it, which can only be inside a quoted key such as the id of a node.
-/

namespace DurableFlow

namespace Fragment

/-! ### Rewritten texts -/

namespace Rewritten

theorem blanks {t u margin : List Char} (h : Rewritten t u)
    (hmargin : margin.all Text.isBlank = true) : Rewritten t (margin ++ u) := by
  induction margin with
  | nil => exact h
  | cons c margin ih =>
      rw [List.all_cons, Bool.and_eq_true] at hmargin
      exact .blank hmargin.1 (ih hmargin.2)

theorem indents {atStart : Bool} {t u v : List Char} (h : Rewritten t u)
    (hv : Text.Indents atStart u v) : Rewritten t v := by
  induction h generalizing atStart v with
  | nil =>
      have hblank := hv.all_isBlank_of_nil
      simpa using Rewritten.nil.blanks hblank
  | keep c _ ih =>
      obtain ⟨margin, w, rfl, hmargin, hw⟩ := Text.Indents.split (a := []) hv
      cases hw with
      | keep hw => exact (Rewritten.keep c (ih hw)).blanks hmargin.all_isBlank_of_nil
  | name hname _ ih =>
      obtain ⟨margin, w, rfl, hmargin, hw⟩ := Text.Indents.split (a := []) hv
      have hbreak : ∀ c ∈ replacement, ¬Text.isLineBreak c = true :=
        Text.forall_mem_of_all (by decide)
      obtain ⟨w', rfl, hw'⟩ := hw.single hbreak
      exact (Rewritten.name hname (ih hw')).blanks hmargin.all_isBlank_of_nil
  | blank hc _ ih =>
      obtain ⟨margin, w, rfl, hmargin, hw⟩ := Text.Indents.split (a := []) hv
      cases hw with
      | keep hw => exact (Rewritten.blank hc (ih hw)).blanks hmargin.all_isBlank_of_nil

/-- A cut beside a character that is in no replacement does not go through one. -/
theorem eq_nil_of_cut {u v w : List Char} (h : replacement = u ++ v)
    (hcut : (∀ c ∈ u.getLast?, c ∉ replacement) ∨ ∀ c ∈ (v ++ w).head?, c ∉ replacement) :
    u = [] ∨ v = [] := by
  rcases hcut with hlast | hhead
  · rcases List.eq_nil_or_concat' u with rfl | ⟨front, x, rfl⟩
    · exact .inl rfl
    · exact absurd (by simp [h]) (hlast x (by simp))
  · cases v with
    | nil => exact .inr rfl
    | cons y v => exact absurd (by simp [h]) (hhead y rfl)

/-- A rewritten text may be cut anywhere but within a replacement. -/
theorem split {t u v : List Char} (h : Rewritten t (u ++ v))
    (hcut : (∀ c ∈ u.getLast?, c ∉ replacement) ∨ ∀ c ∈ v.head?, c ∉ replacement) :
    ∃ t₁ t₂, t = t₁ ++ t₂ ∧ Rewritten t₁ u ∧ Rewritten t₂ v := by
  have hbehind {a b : List Char} (h : (∀ c ∈ (a ++ b).getLast?, c ∉ replacement) ∨
      ∀ c ∈ v.head?, c ∉ replacement) : (∀ c ∈ b.getLast?, c ∉ replacement) ∨
      ∀ c ∈ v.head?, c ∉ replacement :=
    h.imp_left fun h c hc => h c (Text.mem_getLast?_append a hc)
  generalize hw : u ++ v = w at h
  induction h generalizing u with
  | nil =>
      obtain ⟨rfl, rfl⟩ := List.append_eq_nil_iff.mp hw
      exact ⟨[], [], rfl, .nil, .nil⟩
  | @keep c t w h ih =>
      cases u with
      | nil =>
          rw [List.nil_append] at hw
          exact ⟨[], c :: t, rfl, .nil, hw ▸ .keep c h⟩
      | cons d u =>
          obtain ⟨rfl, htail⟩ := List.cons.inj hw
          obtain ⟨t₁, t₂, rfl, h₁, h₂⟩ := ih (hbehind (a := [d]) hcut) htail
          exact ⟨d :: t₁, t₂, rfl, .keep d h₁, h₂⟩
  | @name name t w hname h ih =>
      rcases List.append_eq_append_iff.mp hw with ⟨b, hb, rfl⟩ | ⟨a, rfl, rfl⟩
      · rcases eq_nil_of_cut hb hcut with rfl | rfl
        · rw [List.nil_append] at hb
          exact ⟨[], name ++ t, rfl, .nil, hb ▸ .name hname h⟩
        · rw [List.append_nil] at hb
          exact ⟨name ++ [], t, by simp, by simpa [← hb] using Rewritten.name hname .nil, h⟩
      · obtain ⟨t₁, t₂, rfl, h₁, h₂⟩ := ih (hbehind hcut) rfl
        exact ⟨name ++ t₁, t₂, by rw [List.append_assoc], .name hname h₁, h₂⟩
  | @blank c t w hc h ih =>
      cases u with
      | nil =>
          rw [List.nil_append] at hw
          exact ⟨[], t, rfl, .nil, hw ▸ .blank hc h⟩
      | cons d u =>
          obtain ⟨rfl, htail⟩ := List.cons.inj hw
          obtain ⟨t₁, t₂, rfl, h₁, h₂⟩ := ih (hbehind (a := [d]) hcut) htail
          exact ⟨t₁, t₂, rfl, .blank hc h₁, h₂⟩

theorem forall_of_forall {p : Char → Prop} (hp : ¬p 'i') {t u : List Char} (h : Rewritten t u)
    (hu : ∀ c ∈ u, p c) : ∀ c ∈ t, p c := by
  induction h with
  | nil => exact hu
  | keep c _ ih =>
      obtain ⟨hc, hu⟩ := List.forall_mem_cons.mp hu
      exact List.forall_mem_cons.mpr ⟨hc, ih hu⟩
  | name _ _ _ => exact absurd (hu 'i' (List.mem_append_left _ List.mem_cons_self)) hp
  | blank _ _ ih => exact ih (List.forall_mem_cons.mp hu).2

theorem word {w t u : List Char} (hw : ∀ c ∈ w, Text.isBlank c = false ∧ c ≠ 'i')
    (h : Rewritten t (w ++ u)) : ∃ t', t = w ++ t' ∧ Rewritten t' u := by
  induction w generalizing t with
  | nil => exact ⟨t, rfl, h⟩
  | cons c w ih =>
      obtain ⟨⟨hblank, hletter⟩, hw⟩ := List.forall_mem_cons.mp hw
      generalize hv : c :: w ++ u = v at h
      cases h with
      | nil => cases hv
      | keep d h =>
          obtain ⟨rfl, rfl⟩ := List.cons.inj hv
          obtain ⟨t', rfl, h'⟩ := ih hw h
          exact ⟨t', rfl, h'⟩
      | name hname h => exact absurd (List.cons.inj hv).1 hletter
      | blank hd h =>
          obtain ⟨rfl, rfl⟩ := List.cons.inj hv
          rw [hblank] at hd
          cases hd

end Rewritten

/-! ### Accessors where they are written -/

def isAccessorEnd (c : Char) : Bool := Path.isNamePart c || c = ']'

theorem isBlank_of_isAccessorEnd {c : Char} (h : isAccessorEnd c = true) :
    Text.isBlank c = false := by
  rw [isAccessorEnd, Path.isNamePart, Bool.or_eq_true, Bool.or_eq_true, decide_eq_true_eq,
    decide_eq_true_eq] at h
  rcases h with (h | rfl) | rfl
  · exact Text.not_isBlank_of_isWord h
  · decide
  · decide

/-- A single line that starts as a variable and ends as an accessor does. -/
structure IsPlace (x : List Char) : Prop where
  start : ∃ rest, x = '_' :: rest
  last : ∀ c ∈ x.getLast?, isAccessorEnd c = true
  single : ∀ c ∈ x, ¬Text.isLineBreak c = true

theorem forall_getLast?_append {p : Char → Prop} {a b : List Char} (ha : ∀ c ∈ a.getLast?, p c)
    (hb : ∀ c ∈ b.getLast?, p c) : ∀ c ∈ (a ++ b).getLast?, p c := by
  intro c hc
  rw [List.getLast?_append, Option.mem_def, Option.or_eq_some_iff] at hc
  rcases hc with hc | ⟨-, hc⟩
  · exact hb c hc
  · exact ha c hc

theorem getLast?_chain {cs : List Char} (h : Path.Chain cs) :
    ∀ c ∈ cs.getLast?, isAccessorEnd c = true := by
  have hclosed (front : List Char) : ∀ c ∈ (front ++ [']']).getLast?, isAccessorEnd c = true := by
    rw [List.getLast?_concat]
    rintro c ⟨⟩
    rfl
  induction h with
  | nil => simp
  | @name c cs rest hc hcs _ ih =>
      refine forall_getLast?_append (a := '.' :: c :: cs) (fun x hx => ?_) ih
      rw [List.getLast?_cons_cons] at hx
      rw [isAccessorEnd]
      rcases List.mem_cons.mp (List.mem_of_getLast? hx) with rfl | hx
      · rw [Path.isNamePart_of_isNameStart hc, Bool.true_or]
      · rw [hcs x hx, Bool.true_or]
  | @index ds rest hds _ ih => simpa using forall_getLast?_append (hclosed ('[' :: ds)) ih
  | key cs _ ih => simpa using forall_getLast?_append (hclosed ('[' :: Json.quoteChars cs)) ih

theorem not_isLineBreak_of_isNamePart {c : Char} (h : Path.isNamePart c = true) :
    ¬Text.isLineBreak c = true :=
  Text.not_isLineBreak_of_not_isBlank (isBlank_of_isAccessorEnd (by rw [isAccessorEnd, h, Bool.true_or]))

theorem single_chain {cs : List Char} (h : Path.Chain cs) :
    ∀ c ∈ cs, ¬Text.isLineBreak c = true := by
  have hpoint : ¬Text.isLineBreak '.' = true := by decide
  have hopen : ¬Text.isLineBreak '[' = true := by decide
  have hclose : ¬Text.isLineBreak ']' = true := by decide
  induction h with
  | nil => simp
  | name hc hcs _ ih =>
      have hstart := not_isLineBreak_of_isNamePart (Path.isNamePart_of_isNameStart hc)
      simp only [List.forall_mem_cons, List.forall_mem_append]
      exact ⟨hpoint, hstart, fun x hx => not_isLineBreak_of_isNamePart (hcs x hx), ih⟩
  | index hds _ ih =>
      have hdigits := fun x hx =>
        Text.not_isLineBreak_of_not_isBlank (Text.not_isBlank_of_digit (hds x hx))
      simp only [List.forall_mem_cons, List.forall_mem_append]
      exact ⟨hopen, hdigits, hclose, ih⟩
  | key cs _ ih =>
      simp only [List.forall_mem_cons, List.forall_mem_append]
      exact ⟨hopen, fun x hx => not_isLineBreak_of_isPrintable (Json.isPrintable_quoteChars hx),
        hclose, ih⟩

theorem isPlace_accessor {r : Resolver} (hr : ∀ step ∈ r.steps, Step.IsIdentifier step.toList)
    (inner : List Char) : IsPlace (r.accessor inner) := by
  obtain ⟨word, chain, heq, hword, hchain⟩ := accessor_eq_chain hr inner
  have hvariable : ∀ c ∈ '_' :: word, Path.isNamePart c = true := by
    refine List.forall_mem_cons.mpr ⟨by decide, fun c hc => ?_⟩
    exact Path.isNamePart_of_isAsciiWord (hword c hc)
  rw [heq]
  refine ⟨⟨_, rfl⟩, ?_, ?_⟩
  · refine forall_getLast?_append (a := '_' :: word) (fun c hc => ?_) (getLast?_chain hchain)
    rw [isAccessorEnd, hvariable c (List.mem_of_getLast? hc), Bool.true_or]
  · rw [← List.cons_append]
    exact List.forall_mem_append.mpr
      ⟨fun c hc => not_isLineBreak_of_isNamePart (hvariable c hc), single_chain hchain⟩

theorem Renames.getLast? {before cs out : List Char} (h : Renames before cs out) :
    ∀ c ∈ out.getLast?, c = 'a' ∨ c ∈ cs.getLast? := by
  induction h with
  | nil => simp
  | @keep before cs out c _ h ih =>
      intro x hx
      cases out with
      | nil =>
          rw [List.length_eq_zero_iff.mp (Nat.le_zero.mp h.length_le)]
          exact .inr hx
      | cons d out =>
          rw [List.getLast?_cons_cons] at hx
          exact (ih x hx).imp_right (Text.mem_getLast?_append [c])
  | @name before name rest out _ _ _ _ ih =>
      have hlast : ∀ c ∈ replacement.getLast?, c = 'a' ∨ c ∈ (name ++ rest).getLast? := by
        rintro c ⟨⟩
        exact .inl rfl
      refine forall_getLast?_append hlast fun x hx => ?_
      exact (ih x hx).imp_right (Text.mem_getLast?_append name)

theorem Renames.mem {before cs out : List Char} (h : Renames before cs out) :
    ∀ c ∈ out, c ∈ replacement ∨ c ∈ cs := by
  induction h with
  | nil => simp
  | @keep before cs out c _ _ ih =>
      refine List.forall_mem_cons.mpr ⟨.inr List.mem_cons_self, fun x hx => ?_⟩
      exact (ih x hx).imp_right (List.mem_cons_of_mem c)
  | @name before name rest out _ _ _ _ ih =>
      refine List.forall_mem_append.mpr ⟨fun x hx => .inl hx, fun x hx => ?_⟩
      exact (ih x hx).imp_right (List.mem_append_right name)

theorem IsPlace.renameInputs {x : List Char} (h : IsPlace x) : IsPlace (renameInputs x) := by
  have hrenames := renames_renameFrom [] x
  refine ⟨?_, fun c hc => ?_, fun c hc => ?_⟩
  · obtain ⟨rest, rfl⟩ := h.start
    exact ⟨_, renameFrom_keep (freeName?_of_head (by decide) [] rest)⟩
  · rcases hrenames.getLast? c hc with rfl | hc
    · decide
    · exact h.last c hc
  · rcases hrenames.mem c hc with hc | hc
    · exact Text.forall_mem_of_all (p := (¬Text.isLineBreak · = true)) (by decide) c hc
    · exact h.single c hc

/-! ### What is emitted -/

def returnWord : List Char := ['r', 'e', 't', 'u', 'r', 'n']

/-- Blanks, or a `return` between blanks. -/
def IsLead (lead : List Char) : Prop :=
  ∃ b b', b.all Text.isBlank = true ∧ b'.all Text.isBlank = true ∧
    (lead = b ++ b' ∨ lead = b ++ (returnWord ++ b'))

/-- Plain text in front of the first reference, of which a lead may be left out. -/
def Front (t u : List Char) : Prop := ∃ lead t', t = lead ++ t' ∧ Rewritten t' u ∧ IsLead lead

theorem IsLead.append_blanks {lead blanks : List Char} (h : IsLead lead)
    (hblanks : blanks.all Text.isBlank = true) : IsLead (lead ++ blanks) := by
  obtain ⟨b, b', hb, hb', hlead⟩ := h
  refine ⟨b, b' ++ blanks, hb, by rw [List.all_append, hb', hblanks, Bool.and_self], ?_⟩
  exact hlead.imp (fun h => by rw [h, List.append_assoc]) fun h => by
    rw [h, List.append_assoc, List.append_assoc]

theorem not_mem_replacement_of_isBlank {c : Char} (h : Text.isBlank c = true) :
    c ∉ replacement := by
  intro hc
  have hall : ∀ c ∈ replacement, Text.isBlank c = false := Text.forall_mem_of_all (by decide)
  rw [hall c hc] at h
  cases h

theorem Front.drop {t blanks u : List Char} (h : Front t (blanks ++ u))
    (hblanks : ∀ c ∈ blanks, Text.isBlank c = true) : Front t u := by
  obtain ⟨lead, t', rfl, ht, hlead⟩ := h
  obtain ⟨t₁, t₂, rfl, h₁, h₂⟩ := ht.split
    (.inl fun c hc => not_mem_replacement_of_isBlank (hblanks c (List.mem_of_getLast? hc)))
  have hall : t₁.all Text.isBlank = true :=
    List.all_eq_true.mpr (h₁.forall_of_forall (by decide) hblanks)
  exact ⟨lead ++ t₁, t₂, by rw [List.append_assoc], h₂, hlead.append_blanks hall⟩

/-- Plain text behind the last reference: blanks and semicolons at its end may be left out. -/
def Back (t u : List Char) : Prop :=
  ∃ t' trail, t = t' ++ trail ∧ Rewritten t' u ∧ ∀ c ∈ trail, Text.isBlank c = true ∨ c = ';'

/-- For each reference, in order, what is made of its accessor and of the plain text behind it. -/
inductive Placed (r : Resolver) : (parts : List (List Char × List Char)) → List Char → Prop where
  | last {inner t u : List Char} (h : Back t u) :
      Placed r [(inner, t)] (renameInputs (r.accessor inner) ++ u)
  | cons {inner t u out : List Char} {parts : List (List Char × List Char)} (h : Rewritten t u)
      (hrest : Placed r parts out) :
      Placed r ((inner, t) :: parts) (renameInputs (r.accessor inner) ++ (u ++ out))

/-- Only blanks and semicolons are left out at an end. -/
def Trailing (p : Char → Bool) : Prop := ∀ c, p c = true → Text.isBlank c = true ∨ c = ';'

theorem Trailing.eq_false {p : Char → Bool} (hp : Trailing p) {c : Char}
    (h : Text.isBlank c = false ∧ c ≠ ';') : p c = false := by
  rw [Bool.eq_false_iff]
  intro hc
  rcases hp c hc with hblank | hsemicolon
  · rw [h.1] at hblank
    cases hblank
  · exact h.2 hsemicolon

theorem IsPlace.exists_kept {p : Char → Bool} (hp : Trailing p) {x : List Char} (h : IsPlace x) :
    ∃ c ∈ x.getLast?, p c = false := by
  obtain ⟨rest, rfl⟩ := h.start
  have hlast := List.getLast?_eq_some_getLast (List.cons_ne_nil '_' rest)
  have hend := h.last _ hlast
  refine ⟨_, hlast, hp.eq_false ⟨isBlank_of_isAccessorEnd hend, fun hsemicolon => ?_⟩⟩
  rw [hsemicolon] at hend
  exact absurd hend (by decide)

/-- What is emitted for code that is cut into `text` and `parts`. -/
def Emitted (r : Resolver) (text : List Char) (parts : List (List Char × List Char))
    (out : List Char) : Prop :=
  ∃ u rest, out = u ++ rest ∧ Front text u ∧ Placed r parts rest

def Holds (r : Resolver) (text : List Char) (parts : List (List Char × List Char))
    (whole : String) : Prop :=
  ∃ out, Emitted r text parts out ∧ Text.Occurs (String.ofList out) whole

def resolved (r : Resolver) (parts : List (List Char × List Char)) : List Char :=
  parts.flatMap fun p => r.accessor p.1 ++ p.2

section

variable {r : Resolver} (hr : ∀ step ∈ r.steps, Step.IsIdentifier step.toList)

include hr

theorem isPlace_renamed (inner : List Char) : IsPlace (renameInputs (r.accessor inner)) :=
  (isPlace_accessor hr inner).renameInputs

theorem Placed.start {parts : List (List Char × List Char)} {out : List Char}
    (h : Placed r parts out) : ∃ rest, out = '_' :: rest := by
  cases h with
  | @last inner t u _ =>
      obtain ⟨rest, hrest⟩ := (isPlace_renamed hr inner).start
      exact ⟨rest ++ u, by rw [hrest]; rfl⟩
  | @cons inner t u out _ _ _ =>
      obtain ⟨rest, hrest⟩ := (isPlace_renamed hr inner).start
      exact ⟨rest ++ (u ++ out), by rw [hrest]; rfl⟩

theorem Placed.dropEnd {p : Char → Bool} (hp : Trailing p)
    {parts : List (List Char × List Char)} {out : List Char} (h : Placed r parts out) :
    Placed r parts (Text.dropEnd p out) := by
  have hletters : ∀ c ∈ replacement, Text.isBlank c = false ∧ c ≠ ';' :=
    Text.forall_mem_of_all (by decide)
  induction h with
  | @last inner t u hback =>
      obtain ⟨t', trail, rfl, ht, htrail⟩ := hback
      obtain ⟨dropped, hu, hdropped⟩ := Text.exists_dropped p u
      rw [hu] at ht
      have hcut : ∀ c ∈ dropped.head?, c ∉ replacement := fun c hc hmem => by
        have hkept := hp.eq_false (hletters c hmem)
        rw [hdropped c (List.mem_of_head? hc)] at hkept
        cases hkept
      obtain ⟨t₁, t₂, rfl, h₁, h₂⟩ := ht.split (.inr hcut)
      rw [Text.dropEnd_append_of_last ((isPlace_renamed hr inner).exists_kept hp)]
      refine .last ⟨t₁, t₂ ++ trail, by rw [List.append_assoc], h₁, ?_⟩
      refine List.forall_mem_append.mpr ⟨?_, htrail⟩
      exact h₂.forall_of_forall (by decide) fun c hc => hp c (hdropped c hc)
  | @cons inner t u out _ ht hrest ih =>
      obtain ⟨rest, hstart⟩ := hrest.start hr
      have hkept : ∃ x ∈ out, p x = false :=
        ⟨'_', by rw [hstart]; exact List.mem_cons_self, hp.eq_false (by decide)⟩
      rw [← List.append_assoc, Text.dropEnd_append _ hkept, List.append_assoc]
      exact .cons ht ih

theorem Placed.indents {parts : List (List Char × List Char)} {out back ds : List Char}
    (h : Placed r parts out) (hds : Text.Indents false (out ++ back) ds) :
    ∃ out' back', ds = out' ++ back' ∧ Placed r parts out' := by
  induction h generalizing ds with
  | @last inner t u hback =>
      obtain ⟨t', trail, rfl, ht, htrail⟩ := hback
      rw [List.append_assoc] at hds
      obtain ⟨more, hplace, hmore⟩ := hds.single (isPlace_renamed hr inner).single
      obtain ⟨u', back', rfl, hu, -⟩ := hmore.split
      refine ⟨_, back', ?_, .last ⟨t', trail, rfl, ht.indents hu, htrail⟩⟩
      rw [hplace, List.append_assoc]
  | @cons inner t u out _ ht _ ih =>
      rw [List.append_assoc, List.append_assoc] at hds
      obtain ⟨more, hplace, hmore⟩ := hds.single (isPlace_renamed hr inner).single
      obtain ⟨u', rest, rfl, hu, hrest⟩ := hmore.split
      obtain ⟨out', back', rfl, hout⟩ := ih hrest
      refine ⟨_, back', ?_, .cons (ht.indents hu) hout⟩
      rw [hplace, List.append_assoc, List.append_assoc]

theorem Emitted.dropEnd {p : Char → Bool} (hp : Trailing p) {text out : List Char}
    {parts : List (List Char × List Char)} (h : Emitted r text parts out) :
    Emitted r text parts (Text.dropEnd p out) := by
  obtain ⟨u, rest, rfl, hfront, hplaced⟩ := h
  obtain ⟨more, hstart⟩ := hplaced.start hr
  have hkept : ∃ x ∈ rest, p x = false :=
    ⟨'_', by rw [hstart]; exact List.mem_cons_self, hp.eq_false (by decide)⟩
  exact ⟨u, _, Text.dropEnd_append u hkept, hfront, hplaced.dropEnd hr hp⟩

theorem Emitted.dropBlanks {text out : List Char} {parts : List (List Char × List Char)}
    (h : Emitted r text parts out) : Emitted r text parts (out.dropWhile Text.isBlank) := by
  obtain ⟨u, rest, rfl, hfront, hplaced⟩ := h
  obtain ⟨more, rfl⟩ := hplaced.start hr
  refine ⟨_, _, Text.dropWhile_append_of_head u (by decide) more, ?_, hplaced⟩
  rw [← List.takeWhile_append_dropWhile (p := Text.isBlank) (l := u)] at hfront
  exact hfront.drop fun c hc => List.mem_takeWhile_imp hc

theorem Emitted.trim {text out : List Char} {parts : List (List Char × List Char)}
    (h : Emitted r text parts out) : Emitted r text parts (Text.trimChars out) :=
  (h.dropBlanks hr).dropEnd hr fun _ hc => .inl hc

theorem Emitted.indents {atStart : Bool} {text out back ds : List Char}
    {parts : List (List Char × List Char)} (h : Emitted r text parts out)
    (hds : Text.Indents atStart (out ++ back) ds) :
    ∃ out' back', ds = out' ++ back' ∧ Emitted r text parts out' := by
  obtain ⟨u, rest, rfl, ⟨lead, t, rfl, ht, hlead⟩, hplaced⟩ := h
  rw [List.append_assoc] at hds
  obtain ⟨u', ds', rfl, hu, hrest⟩ := hds.split
  obtain ⟨rest', back', rfl, hplaced'⟩ := hplaced.indents hr hrest
  exact ⟨u' ++ rest', back', by rw [List.append_assoc], u', rest', rfl,
    ⟨lead, t, rfl, ht.indents hu, hlead⟩, hplaced'⟩

/-! ### The code and its shape -/

/-- Behind blanks that are left out, the first accessor still starts what is left. -/
theorem dropEnd_resolved {parts : List (List Char × List Char)} (hparts : parts ≠ []) :
    ∃ rest, Text.dropEnd Text.isBlank (resolved r parts) = '_' :: rest := by
  obtain ⟨⟨inner, t⟩, parts, rfl⟩ := List.exists_cons_of_ne_nil hparts
  obtain ⟨rest, hrest⟩ := (isPlace_accessor hr inner).start
  have hresolved : resolved r ((inner, t) :: parts) =
      ['_'] ++ (rest ++ (t ++ resolved r parts)) := by
    simp [resolved, hrest]
  exact ⟨_, hresolved ▸ Text.dropEnd_append_of_last ⟨'_', rfl, by decide⟩ _⟩

theorem dropEnd_append_resolved (t : List Char) {parts : List (List Char × List Char)}
    (hparts : parts ≠ []) : Text.dropEnd Text.isBlank (t ++ resolved r parts) =
      t ++ Text.dropEnd Text.isBlank (resolved r parts) := by
  obtain ⟨rest, hrest⟩ := dropEnd_resolved hr hparts
  obtain ⟨trail, htrail, -⟩ := Text.exists_dropped Text.isBlank (resolved r parts)
  refine Text.dropEnd_append t ⟨'_', ?_, by decide⟩
  rw [htrail, hrest]
  exact List.mem_cons_self

/-- Plain text before accessors is rewritten by itself. -/
theorem renameFrom_resolved (before t : List Char) {parts : List (List Char × List Char)}
    (hparts : parts ≠ []) :
    ∃ u, Rewritten t u ∧
      renameFrom before 0 (t ++ Text.dropEnd Text.isBlank (resolved r parts)) =
        u ++ renameFrom (t.reverse ++ before) 0 (Text.dropEnd Text.isBlank (resolved r parts)) := by
  have hhead : ∀ c ∈ (Text.dropEnd Text.isBlank (resolved r parts)).head?, c ∉ nameLetters := by
    obtain ⟨rest, hrest⟩ := dropEnd_resolved hr hparts
    rw [hrest]
    rintro c ⟨⟩
    decide
  obtain ⟨u, out, hout, hbehind, hu, -⟩ := (renames_renameFrom before (t ++ _)).append hhead
  exact ⟨u, hu, by rw [hout, hbehind.eq_renameFrom]⟩

theorem placed_renameFrom {parts : List (List Char × List Char)} (hparts : parts ≠ [])
    (before : List Char) :
    Placed r parts (renameFrom before 0 (Text.dropEnd Text.isBlank (resolved r parts))) := by
  have hblank : Trailing Text.isBlank := fun _ hc => .inl hc
  induction parts generalizing before with
  | nil => contradiction
  | cons p parts ih =>
      obtain ⟨inner, t⟩ := p
      have hresolved : resolved r ((inner, t) :: parts) =
          r.accessor inner ++ (t ++ resolved r parts) := by
        simp [resolved]
      rw [hresolved, Text.dropEnd_append_of_last ((isPlace_accessor hr inner).exists_kept hblank),
        renameFrom_accessor hr]
      by_cases hnil : parts = []
      · subst hnil
        obtain ⟨trail, ht, htrail⟩ := Text.exists_dropped Text.isBlank (t ++ resolved r [])
        refine .last ⟨_, trail, ?_, (renames_renameFrom _ _).rewritten, fun c hc => ?_⟩
        · rw [← ht, resolved, List.flatMap_nil, List.append_nil]
        · exact .inl (htrail c hc)
      · obtain ⟨u, hu, hrename⟩ := renameFrom_resolved hr _ t hnil
        rw [dropEnd_append_resolved hr t hnil, hrename]
        exact .cons hu (ih hnil _)

/-- The code of a node once its references are resolved and its input names replaced. -/
theorem exists_renamed {s : String} {text : List Char} {parts : List (List Char × List Char)}
    (h : Template.Leftmost s.toList text parts) (hparts : parts ≠ []) :
    ∃ lead t u rest, text = lead ++ t ∧ lead.all Text.isBlank = true ∧ Rewritten t u ∧
      Placed r parts rest ∧ renameInputs (Text.trimChars (r.code s).toList) = u ++ rest := by
  have hstart : (text ++ resolved r parts).dropWhile Text.isBlank =
      text.dropWhile Text.isBlank ++ resolved r parts := by
    obtain ⟨rest, hrest⟩ := dropEnd_resolved hr hparts
    obtain ⟨trail, htrail, -⟩ := Text.exists_dropped Text.isBlank (resolved r parts)
    rw [htrail, hrest]
    exact Text.dropWhile_append_of_head text (by decide) _
  have htrim : Text.trimChars (r.code s).toList =
      text.dropWhile Text.isBlank ++ Text.dropEnd Text.isBlank (resolved r parts) := by
    rw [r.toList_code h, ← dropEnd_append_resolved hr _ hparts, ← hstart]
    rfl
  obtain ⟨u, hu, hrename⟩ := renameFrom_resolved hr [] (text.dropWhile Text.isBlank) hparts
  have hlead : (text.takeWhile Text.isBlank).all Text.isBlank = true :=
    List.all_eq_true.mpr fun c hc => List.mem_takeWhile_imp hc
  rw [htrim, renameInputs, hrename]
  exact ⟨_, _, u, _, List.takeWhile_append_dropWhile.symm, hlead, hu, placed_renameFrom hr hparts _,
    rfl⟩

theorem emitted_behind_return {text lead t u rest more : List Char}
    {parts : List (List Char × List Char)} (htext : text = lead ++ t)
    (hlead : lead.all Text.isBlank = true) (hu : Rewritten t u) (hplaced : Placed r parts rest)
    (h : Text.after? "return ".toList (u ++ rest) = some more) : Emitted r text parts more := by
  obtain ⟨behind, rfl⟩ := hplaced.start hr
  have hcode : u ++ '_' :: behind = (returnWord ++ [' ']) ++ more := Text.eq_append_of_after? h
  -- No underscore stands in the word, so the text in front holds all of it.
  obtain ⟨u', rfl, rfl⟩ : ∃ u', u = (returnWord ++ [' ']) ++ u' ∧ more = u' ++ '_' :: behind := by
    rcases List.append_eq_append_iff.mp hcode with ⟨b, hb, hmore⟩ | ⟨u', hu', hmore⟩
    · cases b with
      | nil => exact ⟨[], by simpa using hb.symm, by simpa using hmore.symm⟩
      | cons x b =>
          have hx : '_' ∈ returnWord ++ [' '] := by
            rw [hb, (List.cons.inj hmore).1]
            simp
          exact absurd hx (by decide)
    · exact ⟨u', hu', hmore⟩
  rw [List.append_assoc] at hu
  obtain ⟨t', rfl, ht'⟩ := hu.word (Text.forall_mem_of_all (by decide))
  have hfront : Front text ([' '] ++ u') :=
    ⟨lead ++ returnWord, t', by rw [htext, List.append_assoc], ht', lead, [], hlead, rfl,
      .inr (by rw [List.append_nil])⟩
  exact ⟨u', _, rfl, hfront.drop (Text.forall_mem_of_all (by decide)), hplaced⟩

theorem Holds.indent {text : List Char} {parts : List (List Char × List Char)} {whole : String}
    (h : Holds r text parts whole) : Holds r text parts (Text.indent whole) := by
  obtain ⟨out, hout, front, back, hwhole⟩ := h
  rw [String.toList_ofList, List.append_assoc] at hwhole
  have hindents := Text.Indents.of_indentation (by decide : "  ".toList.all Text.isBlank = true)
    whole.toList
  rw [← hwhole] at hindents
  obtain ⟨front', rest, hrest, -, hout'⟩ := hindents.split
  obtain ⟨out', back', rfl, hemitted⟩ := hout.indents hr hout'
  refine ⟨out', hemitted, front', back', ?_⟩
  rw [Text.indent, Text.toList_indentBy, ← hwhole, hrest, List.append_assoc]
  exact congrArg (front' ++ ·) (congrArg (· ++ back') String.toList_ofList)

/-- Whatever shape the code is given, it holds what is emitted for it. -/
theorem holds_shape {s : String} {text : List Char} {parts : List (List Char × List Char)}
    (h : Template.Leftmost s.toList text parts) (hparts : parts ≠ []) :
    Holds r text parts (shape (r.code s)) := by
  obtain ⟨lead, t, u, rest, htext, hlead, hu, hplaced, hcode⟩ := exists_renamed hr h hparts
  have hfront : Front text u :=
    ⟨lead, t, htext, hu, lead, [], hlead, rfl, .inl (by rw [List.append_nil])⟩
  have hemitted : Emitted r text parts (u ++ rest) := ⟨u, rest, rfl, hfront, hplaced⟩
  have hsemicolon : Trailing isSemicolon := fun c hc => .inr (of_decide_eq_true hc)
  have hparens {out : List Char} (hout : Emitted r text parts out) :
      Holds r text parts ("(" ++ String.ofList out ++ ")") :=
    ⟨out, hout, ((Text.Occurs.refl _).append_right "(").append_left ")"⟩
  unfold shape
  simp only [hcode]
  split
  next hnil =>
    obtain ⟨more, rfl⟩ := hplaced.start hr
    simp at hnil
  next =>
    split
    next behind _ hbehind =>
      have hrest := emitted_behind_return hr htext hlead hu hplaced hbehind
      exact hparens ((hrest.dropEnd hr hsemicolon).trim hr)
    next =>
      split
      next => exact hparens (hemitted.dropEnd hr hsemicolon)
      next =>
        have hcode : Holds r text parts (String.ofList (u ++ rest)) :=
          ⟨_, hemitted, Text.Occurs.refl _⟩
        obtain ⟨out, hout, hin⟩ := hcode.indent hr
        exact ⟨out, hout, (((hin.append_right _).append_left _).append_left _).append_left _⟩

end

theorem isIdentifier_of_resolver (g : Graph) (c : Catalog) (st : CompilerSettings) :
    ∀ step ∈ (Context.ofGraph g c st).resolver.steps, Step.IsIdentifier step.toList := by
  intro step hstep
  obtain ⟨p, hp, rfl⟩ := List.mem_map.mp hstep
  exact Step.isIdentifier_of_mem_namesFrom (by simp) p hp

theorem orElse_of_parts {code default : String} {text : List Char}
    {parts : List (List Char × List Char)} (h : Template.Leftmost code.toList text parts)
    (hparts : parts ≠ []) : (Json.str code).orElse (.str default) = .str code := by
  have hne : code ≠ "" := by
    rintro rfl
    exact hparts (Template.leftmost_nil.unique h).2
  exact if_pos (decide_eq_true hne)

theorem holds_render {r : Resolver} (hr : ∀ step ∈ r.steps, Step.IsIdentifier step.toList)
    {text : List Char} {parts : List (List Char × List Char)} {line : String}
    (h : Holds r text parts line) (ctx : Context) (n : Node) :
    Holds r text parts ((Body.durable (Code.texts [line])).render ctx n) := by
  obtain ⟨out, hout, hin⟩ := h.indent hr
  refine ⟨out, hout, Text.Occurs.block (t := Text.indent line) hin ?_⟩
  have hblock : Text.block ((Code.texts [line]).map Code.render) = line := by
    rw [Code.map_render_texts]
    rfl
  rw [hblock]
  simp

/-- What the code of a node becomes. For every reference in it, what is emitted holds the accessor
with the free input names in it replaced, between the plain texts that stand around the reference in
the code. That is the accessor exactly when no free name stands in it. The same goes for any text
between double quotes, wherever it stands in code. -/
theorem transform_places_accessors {g : Graph} {c : Catalog} {st : CompilerSettings} {n : Node}
    {code : String} {text : List Char} {parts : List (List Char × List Char)}
    (hcode : n.setting "code" = .str code) (hcut : Template.Leftmost code.toList text parts)
    (hparts : parts ≠ []) :
    (∃ b, (transform n (Context.ofGraph g c st)).result = .ok b ∧
      Holds (Context.ofGraph g c st).resolver text parts (b.render (Context.ofGraph g c st) n)) ∧
    (∀ p ∈ parts, renameInputs ((Context.ofGraph g c st).resolver.accessor p.1) =
        (Context.ofGraph g c st).resolver.accessor p.1 ↔
      ¬HoldsFreeName ((Context.ofGraph g c st).resolver.accessor p.1)) ∧
    ∀ front q back, ∃ front' back', Rewritten front front' ∧ Rewritten back back' ∧
      renameInputs (front ++ (doubleQuoted q ++ back)) =
        front' ++ (renameInputs (doubleQuoted q) ++ back') ∧
      (renameInputs (doubleQuoted q) = doubleQuoted q ↔ ¬HoldsFreeName (doubleQuoted q)) := by
  have hr := isIdentifier_of_resolver g c st
  refine ⟨?_, fun p _ => renameInputs_eq_self_iff _, fun front q back => ?_⟩
  · obtain ⟨out, hout, hin⟩ := holds_shape hr hcut hparts
    have hline : Holds (Context.ofGraph g c st).resolver text parts
        ("const result = " ++ shape ((Context.ofGraph g c st).resolver.code code) ++ ";") :=
      ⟨out, hout, (hin.append_right _).append_left _⟩
    refine ⟨_, ?_, holds_render hr hline _ n⟩
    rw [transform, hcode, orElse_of_parts hcut hparts]
    rfl
  · obtain ⟨front', back', hfront, hback, heq⟩ := renameInputs_around_doubleQuoted front q back
    exact ⟨front', back', hfront, hback, heq, renameInputs_eq_self_iff _⟩

def withCode (code : String) : Node :=
  { id := "t", type := "transform", data := { config := [("code", .str code)] } }

def behindEntry (id code : String) : Context :=
  .ofGraph { nodes := [{ id := id, type := "entry" }, withCode code],
             edges := [{ source := id, target := "t" }] } .builtin {}

def lengthCode : String := "return \x7b\x7bstate.s.output\x7d\x7d.length"

theorem transform_places_accessors_length :
    ∃ b, (transform (withCode lengthCode) (behindEntry "s" lengthCode)).result = .ok b ∧
      Holds (behindEntry "s" lengthCode).resolver "return ".toList
        [("state.s.output".toList, ".length".toList)]
        (b.render (behindEntry "s" lengthCode) (withCode lengthCode)) := by
  have hcut := Template.leftmost_cutOf lengthCode.toList
  have hparts : Template.cutOf (Template.pieces lengthCode.toList) =
      ("return ".toList, [("state.s.output".toList, ".length".toList)]) := by
    decide
  rw [hparts] at hcut
  exact (transform_places_accessors rfl hcut (by simp)).1

def dashedCode : String := "\x7b\x7bstate.user-data.output\x7d\x7d"

/-- With the id `user-data`, the accessor of the reference is not emitted: a part of the quoted id
is taken for a free name. -/
theorem not_placed_dashedCode :
    ∃ b, (transform (withCode dashedCode) (behindEntry "user-data" dashedCode)).result = .ok b ∧
      ¬Text.Occurs
        ((behindEntry "user-data" dashedCode).resolver.reference "state.user-data.output")
        (b.render (behindEntry "user-data" dashedCode) (withCode dashedCode)) ∧
      Text.Occurs "_workflowState[\"user-inputData\"].output"
        (b.render (behindEntry "user-data" dashedCode) (withCode dashedCode)) := by
  refine ⟨_, rfl, ?_⟩
  simp only [Text.Occurs, Body.render, Code.map_render_texts, Text.block_cons_cons]
  -- The lines as lists of characters; joined strings take long to evaluate.
  simp only [Text.block, String.intercalate_singleton, String.toList_append, Text.indent,
    Text.toList_indentBy, opens, Body.record, braced, toList_quote, stateEntry_eq, Context.input]
  decide +kernel

end Fragment

end DurableFlow
