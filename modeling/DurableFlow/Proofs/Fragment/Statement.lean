import DurableFlow.Proofs.Fragment.References
import DurableFlow.Proofs.Module.Comment
import DurableFlow.Proofs.Json.Spelling
import DurableFlow.Proofs.Text.Margin

/-!
Statements with rendered values. Line breaks in a value are written as escapes, with one exception: a
text with references is a template literal, and of the breaks in it only line feeds and carriage returns
are escaped. A statement with such a break is more than one line, and indentation puts blanks into its
literal; any other statement only gets the margin in front of it.
-/

namespace DurableFlow

namespace Json

mutual

def texts : Json → List String
  | .str s => [s]
  | .arr items => textsOfItems items
  | .obj ms => textsOfMembers ms
  | _ => []

def textsOfItems : List Json → List String
  | [] => []
  | v :: vs => texts v ++ textsOfItems vs

def textsOfMembers : List (String × Json) → List String
  | [] => []
  | (_, v) :: ms => texts v ++ textsOfMembers ms

end

end Json

def Piece.plain : Piece → List Char
  | .text cs => cs
  | .ref _ => []

def Template.plain (s : String) : List Char := (pieces s.toList).flatMap Piece.plain

namespace Resolver

open Template

/-- The text has a reference, and beside it this line break, which is no line feed and no carriage
return. -/
def KeepsBreak (c : Char) (s : String) : Prop :=
  hasRefs s = true ∧ c ∈ plain s ∧ c ≠ '\n' ∧ c ≠ '\r'

instance (c : Char) (s : String) : Decidable (KeepsBreak c s) := inferInstanceAs (Decidable (_ ∧ _))

/-! ### Line breaks of a rendered value -/

section Breaks

variable {r : Resolver} (hr : ∀ step ∈ r.steps, Step.IsIdentifier step.toList)
  {c : Char} (hc : Text.isLineBreak c = true)

include hc

theorem not_mem_of_single {s : String} (h : Single s) : c ∉ s.toList := fun hmem => h c hmem hc

theorem mem_escapeText_iff (cs : List Char) :
    c ∈ escapeText cs ↔ c ∈ cs ∧ c ≠ '\n' ∧ c ≠ '\r' := by
  have hne (x : Char) (hx : ¬Text.isLineBreak x = true) : c ≠ x := fun h => hx (h ▸ hc)
  have hslash := hne '\\' (by decide)
  have hdollar := hne '$' (by decide)
  have hbrace := hne '\x7b' (by decide)
  have htick := hne '`' (by decide)
  have hletter := hne 'n' (by decide)
  have hletter' := hne 'r' (by decide)
  fun_induction escapeText cs with
  | case1 => simp
  | case2 cs ih => simp [ih, hslash, hdollar, hbrace]
  | case3 x cs _ ih =>
      simp only [List.mem_append, ih, List.mem_cons]
      grind

theorem mem_intercalate_iff {sep : String} (hsep : Single sep) (ts : List String) :
    c ∈ (sep.intercalate ts).toList ↔ ∃ t ∈ ts, c ∈ t.toList := by
  induction ts with
  | nil => simp
  | cons t ts ih =>
      cases ts with
      | nil => simp
      | cons next ts =>
          rw [String.intercalate_cons_cons, String.toList_append, String.toList_append,
            List.mem_append, List.mem_append, ih]
          simp only [not_mem_of_single hc hsep, or_false, List.exists_mem_cons_iff]

include hr

theorem not_mem_reference (inner : List Char) : c ∉ (r.reference (String.ofList inner)).toList :=
  fun hmem => (Fragment.isPlace_accessor hr inner).single c hmem hc

theorem mem_literalPiece_iff (piece : Piece) :
    c ∈ (r.literalPiece piece).toList ↔ c ∈ piece.plain ∧ c ≠ '\n' ∧ c ≠ '\r' := by
  cases piece with
  | text cs => rw [literalPiece, String.toList_ofList, mem_escapeText_iff hc, Piece.plain]
  | ref inner =>
      have hopen : c ∉ "$\x7b".toList := not_mem_of_single hc (single_chars rfl (by decide))
      have hclose : c ∉ "\x7d".toList := not_mem_of_single hc (single_chars rfl (by decide))
      simp only [literalPiece, String.toList_append, List.mem_append, hopen, hclose,
        not_mem_reference hr hc inner, or_self, Piece.plain, List.not_mem_nil, false_and]

/-- Only a line break beside a reference is kept, and no line feed or carriage return. -/
theorem mem_string_iff (s : String) : c ∈ (r.string s).toList ↔ KeepsBreak c s := by
  rw [KeepsBreak, hasRefs, plain, string]
  split
  next inner hpieces => simpa [hpieces, Piece.plain] using not_mem_reference hr hc inner
  next =>
    split
    next hrefs =>
      have htick : c ∉ "`".toList := not_mem_of_single hc (single_chars rfl (by decide))
      simp only [String.toList_append, List.mem_append, htick, false_or, or_false, hrefs, true_and,
        toList_join_map, List.mem_flatMap, mem_literalPiece_iff hr hc]
      constructor
      · rintro ⟨piece, hpiece, hmem, hne⟩
        exact ⟨⟨piece, hpiece, hmem⟩, hne⟩
      · rintro ⟨⟨piece, hpiece, hmem⟩, hne⟩
        exact ⟨piece, hpiece, hmem, hne⟩
    next hrefs =>
      exact iff_of_false (not_mem_of_single hc (single_quote s)) fun h => hrefs h.1

end Breaks

mutual

theorem mem_value_iff {r : Resolver} (hr : ∀ step ∈ r.steps, Step.IsIdentifier step.toList) {c : Char}
    (hc : Text.isLineBreak c = true) (v : Json) :
    c ∈ (r.value v).toList ↔ ∃ s ∈ v.texts, KeepsBreak c s := by
  have hprintable {t : List Char} (h : ∀ x ∈ t, Json.IsPrintable x) : c ∉ t := fun hmem =>
    not_isLineBreak_of_isPrintable (h c hmem) hc
  have hnone {t : List Char} (h : ∀ x ∈ t, Json.IsPrintable x) :
      c ∈ t ↔ ∃ s ∈ ([] : List String), KeepsBreak c s :=
    iff_of_false (hprintable h) (by simp)
  have hsep : Single ", " := single_chars rfl (by decide)
  match v with
  | .null => exact hnone (t := "null".toList) (Text.forall_mem_of_all (by decide))
  | .bool b =>
      have hname : ∀ x ∈ (Json.boolText b).toList, Json.IsPrintable x := by
        cases b <;> exact Text.forall_mem_of_all (by decide)
      exact hnone hname
  | .int n => exact hnone (Json.isPrintable_of_mem_int n)
  | .float x => exact hnone (Json.isPrintable_of_mem_floatText x)
  | .str s => simp [value, Json.texts, mem_string_iff hr hc s]
  | .arr items =>
      have hopen : c ∉ "[".toList := hprintable (Text.forall_mem_of_all (by decide))
      have hclose : c ∉ "]".toList := hprintable (Text.forall_mem_of_all (by decide))
      simp only [value, String.toList_append, List.mem_append, hopen, hclose, false_or, or_false,
        mem_intercalate_iff hc hsep, mem_valueItems_iff hr hc items, Json.texts]
  | .obj [] => exact hnone (t := "\x7b\x7d".toList) (Text.forall_mem_of_all (by decide))
  | .obj (m :: ms) =>
      have hopen : c ∉ "\x7b ".toList := hprintable (Text.forall_mem_of_all (by decide))
      have hclose : c ∉ " \x7d".toList := hprintable (Text.forall_mem_of_all (by decide))
      simp only [value, braced, String.toList_append, List.mem_append, hopen, hclose, false_or, or_false,
        mem_intercalate_iff hc hsep, mem_valueMembers_iff hr hc (m :: ms), Json.texts]

theorem mem_valueItems_iff {r : Resolver} (hr : ∀ step ∈ r.steps, Step.IsIdentifier step.toList)
    {c : Char} (hc : Text.isLineBreak c = true) (items : List Json) :
    (∃ t ∈ valueItems r items, c ∈ t.toList) ↔ ∃ s ∈ Json.textsOfItems items, KeepsBreak c s := by
  match items with
  | [] => simp [valueItems, Json.textsOfItems]
  | v :: vs =>
      simp only [valueItems, Json.textsOfItems, List.exists_mem_cons_iff, List.mem_append, or_and_right,
        exists_or, mem_value_iff hr hc v, mem_valueItems_iff hr hc vs]

theorem mem_valueMembers_iff {r : Resolver} (hr : ∀ step ∈ r.steps, Step.IsIdentifier step.toList)
    {c : Char} (hc : Text.isLineBreak c = true) (ms : Members) :
    (∃ t ∈ valueMembers r ms, c ∈ t.toList) ↔ ∃ s ∈ Json.textsOfMembers ms, KeepsBreak c s := by
  match ms with
  | [] => simp [valueMembers, Json.textsOfMembers]
  | (k, v) :: ms =>
      have hkey : c ∉ (Json.quote k ++ ": ").toList :=
        not_mem_of_single hc ((single_quote k).append (single_chars rfl (by decide)))
      have hmember : c ∈ (Json.quote k ++ ": " ++ r.value v).toList ↔ c ∈ (r.value v).toList := by
        rw [String.toList_append, List.mem_append, or_iff_right hkey]
      simp only [valueMembers, Json.textsOfMembers, List.exists_mem_cons_iff, hmember, List.mem_append,
        or_and_right, exists_or, mem_value_iff hr hc v, mem_valueMembers_iff hr hc ms]

end

end Resolver

/-! ### Indentation of a statement -/

/-- Where a statement of a durable body stands in a module: the body, the envelope of the fragment and
the method each put a margin in front of it. -/
def laidDown (line : String) : String :=
  Text.indentBy Module.methodMargin (Text.indent (Text.indent line))

theorem length_indentBy (margin s : String) :
    (Text.indentBy margin s).toList.length =
      margin.toList.length * Text.fullLines s.toList + s.toList.length := by
  rw [Text.toList_indentBy, Text.length_indentChars]

theorem Full.indentBy {s : String} (h : Full s) (margin : String) :
    Full (Text.indentBy margin s) := by
  rw [Full, Text.toList_indentBy]
  exact Text.indentChars_full _ h

theorem Full.le_length_indentBy {s : String} (h : Full s) (margin : String) :
    margin.toList.length + s.toList.length ≤ (Text.indentBy margin s).toList.length := by
  rw [length_indentBy]
  exact Nat.add_le_add_right (Nat.le_mul_of_pos_right _ (Text.fullLines_pos h)) _

/-- A statement that starts and ends in characters that are not blank gets nothing but the margins
exactly when it is a single line. -/
theorem laidDown_eq_iff {line : String} {first last : Char} {mid : List Char}
    (hline : line.toList = first :: (mid ++ [last])) (hfirst : Text.isBlank first = false)
    (hlast : Text.isBlank last = false) :
    laidDown line = "        " ++ line ↔ Single line := by
  have hfull : Full line := by
    rw [Full, hline, List.all_cons, hfirst, Bool.false_and]
  constructor
  · intro heq c hc hbreak
    have hmid : c ∈ mid := by
      rw [hline, List.mem_cons, List.mem_append, List.mem_singleton] at hc
      rcases hc with rfl | hc | rfl
      · exact absurd hbreak (Text.not_isLineBreak_of_not_isBlank hfirst)
      · exact hc
      · exact absurd hbreak (Text.not_isLineBreak_of_not_isBlank hlast)
    -- The innermost margin is put in twice, and that is more than all three margins.
    have htwice : 2 * 2 + line.toList.length ≤ (Text.indent line).toList.length := by
      rw [Text.indent, length_indentBy]
      have hlines := hline ▸ Text.two_le_fullLines hfirst hlast hmid hbreak
      exact Nat.add_le_add_right (Nat.mul_le_mul_left 2 hlines) _
    have hmiddle := (hfull.indentBy "  ").le_length_indentBy "  "
    have houter := ((hfull.indentBy "  ").indentBy "  ").le_length_indentBy Module.methodMargin
    have hlength : (laidDown line).toList.length = 8 + line.toList.length := by
      rw [heq, String.toList_append, List.length_append]
      rfl
    have hmargins : "  ".toList.length = 2 ∧ Module.methodMargin.toList.length = 4 := by decide
    simp only [laidDown, Text.indent] at hlength htwice hmiddle houter
    omega
  · intro hsingle
    have hmargin : Single "  " := single_chars rfl (by decide)
    have hinner : Text.indent line = "  " ++ line := indentBy_single hsingle hfull "  "
    have hmiddle : Text.indent ("  " ++ line) = "  " ++ ("  " ++ line) :=
      indentBy_single (hmargin.append hsingle) (hfull.behind "  ") "  "
    rw [laidDown, hinner, hmiddle, indentBy_single (hmargin.append (hmargin.append hsingle))
      ((hfull.behind "  ").behind "  "), Module.methodMargin, ← String.toList_inj]
    simp

/-! ### Where a statement stands -/

namespace Fragment

theorem within_workflowClass {fragments : List String} {f : String} (hf : f ∈ fragments)
    (className workflow : String) :
    Text.Within (Text.indentBy Module.methodMargin f)
      (Module.workflowClass className workflow fragments) := by
  have hlaid : Text.Within (Text.indentBy Module.methodMargin f)
      (Text.indentBy Module.methodMargin ("\n\n".intercalate fragments)) := by
    rw [Text.indentBy_intercalate]
    exact Text.Within.intercalate (x := "\n") (y := "\n") rfl rfl (List.mem_map_of_mem hf)
  exact hlaid.trans (Text.Within.block (List.mem_of_getElem? (i := 6) rfl))

/-- A statement of a durable body stands in the class of the workflow, laid down. -/
theorem within_laidDown (ctx : Context) (n : Node) {lines : List Code} {line : String}
    (hline : [.text line] ∈ lines) {fragments : List String}
    (hf : wrap n ((Body.durable lines).render ctx n) ∈ fragments) (className workflow : String) :
    Text.Within (laidDown line) (Module.workflowClass className workflow fragments) := by
  have hbody : Text.Within (Text.indent line) ((Body.durable lines).render ctx n) := by
    have hin : line ∈ lines.map Code.render := List.mem_map.mpr ⟨_, hline, Code.render_text line⟩
    exact ((Text.Within.block hin).indentBy "  ").trans
      (Text.Within.block (List.mem_of_getElem? (i := 2) rfl))
  have hwrap : Text.Within (Text.indent (Text.indent line))
      (wrap n ((Body.durable lines).render ctx n)) :=
    (hbody.indentBy "  ").trans (within_wrap_code n _)
  exact (hwrap.indentBy Module.methodMargin).trans (within_workflowClass hf className workflow)

/-- For every value: the line breaks of the rendered value are those that a text keeps beside its
references, and a statement with the value in a durable body, which stands in the class of the workflow
with the margins of body, envelope and method put in, is otherwise as it was exactly when no text keeps a
line break. -/
theorem value_laidDown_iff (g : Graph) (c : Catalog) (st : CompilerSettings) (n : Node) (v : Json)
    (before behind : List Code) (front back : List String) (className workflow : String) :
    let ctx := Context.ofGraph g c st
    let rendered := ctx.resolver.value v
    let line := "const x = " ++ rendered ++ ";"
    let fragment := wrap n ((Body.durable (before ++ [.text line] :: behind)).render ctx n)
    (∀ ch, Text.isLineBreak ch = true →
        (ch ∈ rendered.toList ↔ ∃ s ∈ v.texts, Resolver.KeepsBreak ch s)) ∧
      Text.Within (laidDown line)
        (Module.workflowClass className workflow (front ++ fragment :: back)) ∧
      (laidDown line = "        " ++ line ↔
        ∀ s ∈ v.texts, ∀ ch, Text.isLineBreak ch = true → ¬Resolver.KeepsBreak ch s) := by
  intro ctx rendered line fragment
  have hbreaks : ∀ ch, Text.isLineBreak ch = true →
      (ch ∈ rendered.toList ↔ ∃ s ∈ v.texts, Resolver.KeepsBreak ch s) := fun ch hch =>
    Resolver.mem_value_iff (isIdentifier_of_resolver g c st) hch v
  have hwithin : Text.Within (laidDown line)
      (Module.workflowClass className workflow (front ++ fragment :: back)) :=
    within_laidDown ctx n (List.mem_append_right before List.mem_cons_self)
      (List.mem_append_right front List.mem_cons_self) className workflow
  have hchars : line.toList = 'c' :: ("onst x = ".toList ++ rendered.toList ++ [';']) := by
    simp [line]
  have hsingle : Single line ↔ Single rendered :=
    single_between_iff (single_chars rfl (by decide)) (single_chars rfl (by decide))
  refine ⟨hbreaks, hwithin, (laidDown_eq_iff hchars (by decide) (by decide)).trans (hsingle.trans ?_)⟩
  constructor
  · intro h s hs ch hch hkeeps
    exact h ch ((hbreaks ch hch).mpr ⟨s, hs, hkeeps⟩) hch
  · intro h ch hmem hch
    obtain ⟨s, hs, hkeeps⟩ := (hbreaks ch hch).mp hmem
    exact h s hs ch hch hkeeps

/-- A line separator beside a reference is kept, and the margin of the body is put in behind it. -/
theorem not_laidDown_lineSeparator :
    let r : Resolver := ⟨["entry", "kvGet"]⟩
    let rendered := r.value (.str "x\u2028y\x7b\x7bstate.a.output\x7d\x7d")
    let line := "const x = " ++ rendered ++ ";"
    '\u2028' ∈ rendered.toList ∧ Text.isLineBreak '\u2028' = true ∧
      (Text.indent line).toList =
        "  const x = `x\u2028  y$\x7b_workflowState[\"a\"].output\x7d`;".toList := by
  decide +kernel

end Fragment

end DurableFlow
