import DurableFlow.Proofs.Expression.Accessor
import DurableFlow.Proofs.Expression.Decomposition
import DurableFlow.Proofs.Module.Layout

/-!
Texts as expressions. A text with references in it becomes a template literal, and a reader of such
literals, which follows escapes, counts braces and knows quoted texts, gets from it the plain texts
with the accessors between them and ends behind its last character. So no plain text can end the
literal or open a substitution, whatever it holds, and no accessor can end its substitution.
-/

namespace DurableFlow

namespace Literal

/-! ### Reading a template literal -/

/-- A part of a template literal: text with its escapes read, or the code of a substitution. -/
inductive Chunk where
  | text (cs : List Char)
  | code (cs : List Char)
  deriving DecidableEq, Repr

/-- Where the reader stands: in text, behind a backslash there, before the brace of a substitution,
in code within so many braces, in a quoted text of that code, or behind a backslash in it. -/
inductive Place where
  | text
  | escape
  | opening
  | code (depth : Nat)
  | quoted (depth : Nat)
  | quotedEscape (depth : Nat)

/-- What a character of a text stands for behind a backslash. Escapes by number and the backslash
before a line break are not known. -/
def escaped? (c : Char) : Option Char :=
  if c = 'n' then some '\n'
  else if c = 'r' then some '\r'
  else if c = 't' then some '\t'
  else if c = 'b' then some (Char.ofNat 8)
  else if c = 'f' then some (Char.ofNat 12)
  else if c = 'v' then some (Char.ofNat 11)
  else if c = 'x' || c = 'u' || Text.isAsciiDigit c || Text.isLineBreak c then none
  else some c

/-- What cannot stand in code without an end of its own that the reader would have to know: other
quotes, comments, regular expressions, and line breaks. -/
def refused : List Char := ['\'', '`', '/', '\\', '\n', '\r', Char.ofNat 0x2028, Char.ofNat 0x2029]

def push (cs : List Char) : List Chunk → List Chunk
  | .text t :: rest => .text (cs ++ t) :: rest
  | .code t :: rest => .code (cs ++ t) :: rest
  | [] => []

def keep (cs : List Char) (p : List Chunk × List Char) : List Chunk × List Char :=
  (push cs p.1, p.2)

/-- Reads a template literal from behind its opening backtick: its chunks, and what stands behind
its closing backtick. A carriage return in the text is refused, since it would be read as a line
feed. -/
def scan : Place → List Char → Option (List Chunk × List Char)
  | _, [] => none
  | .text, c :: cs =>
    if c = '`' then some ([.text []], cs)
    else if c = '\\' then scan .escape cs
    else if c = '$' && cs.head? = some '\x7b' then
      (scan .opening cs).map fun p => (.text [] :: p.1, p.2)
    else if c = '\r' then none
    else (scan .text cs).map (keep [c])
  | .escape, c :: cs =>
    match escaped? c with
    | some d => (scan .text cs).map (keep [d])
    | none => none
  | .opening, _ :: cs => scan (.code 0) cs
  | .code depth, c :: cs =>
    if c = '"' then (scan (.quoted depth) cs).map (keep [c])
    else if c = '\x7b' then (scan (.code (depth + 1)) cs).map (keep [c])
    else if c = '\x7d' then
      if depth = 0 then (scan .text cs).map fun p => (.code [] :: p.1, p.2)
      else (scan (.code (depth - 1)) cs).map (keep [c])
    else if c ∈ refused then none
    else (scan (.code depth) cs).map (keep [c])
  | .quoted depth, c :: cs =>
    if c = '"' then (scan (.code depth) cs).map (keep [c])
    else if c = '\\' then (scan (.quotedEscape depth) cs).map (keep [c])
    else if Text.isLineBreak c then none
    else (scan (.quoted depth) cs).map (keep [c])
  | .quotedEscape depth, c :: cs =>
    if Text.isLineBreak c then none else (scan (.quoted depth) cs).map (keep [c])

/-- The reader keeps these characters as they are and stands where it stood before. -/
def Passes (place : Place) (front : List Char) : Prop :=
  ∀ rest, scan place (front ++ rest) = (scan place rest).map (keep front)

theorem keep_keep (a b : List Char) : keep a ∘ keep b = keep (a ++ b) := by
  funext p
  obtain ⟨chunks, rest⟩ := p
  match chunks with
  | [] => rfl
  | .text t :: more => simp [keep, push]
  | .code t :: more => simp [keep, push]

theorem keep_nil : keep [] = id := by
  funext p
  obtain ⟨chunks, rest⟩ := p
  match chunks with
  | [] => rfl
  | .text t :: more => rfl
  | .code t :: more => rfl

namespace Passes

variable {place : Place}

theorem nil : Passes place [] := by
  intro rest
  rw [keep_nil, Option.map_id_fun, id_eq, List.nil_append]

theorem append {a b : List Char} (ha : Passes place a) (hb : Passes place b) :
    Passes place (a ++ b) := by
  intro rest
  rw [List.append_assoc, ha, hb, Option.map_map, keep_keep]

theorem cons {c : Char} {cs : List Char} (hc : Passes place [c]) (h : Passes place cs) :
    Passes place (c :: cs) := append hc h

theorem of_forall {cs : List Char} (h : ∀ c ∈ cs, Passes place [c]) : Passes place cs := by
  induction cs with
  | nil => exact .nil
  | cons c cs ih =>
      exact .cons (h c List.mem_cons_self) (ih fun x hx => h x (List.mem_cons_of_mem c hx))

end Passes

/-! ### Plain text -/

theorem scan_escaped {c d : Char} (h : escaped? c = some d) (rest : List Char) :
    scan .text ('\\' :: c :: rest) = (scan .text rest).map (keep [d]) := by
  rw [scan, if_neg (by decide), if_pos rfl, scan]
  simp only [h]

theorem scan_text {c : Char} (htick : c ≠ '`') (hslash : c ≠ '\\') (hreturn : c ≠ '\r')
    {rest : List Char} (hopen : ¬(c = '$' ∧ rest.head? = some '\x7b')) :
    scan .text (c :: rest) = (scan .text rest).map (keep [c]) := by
  rw [scan, if_neg htick, if_neg hslash, if_neg (by simpa using hopen), if_neg hreturn]

theorem head?_escapeText {text rest : List Char} (hrest : rest.head? ≠ some '\x7b')
    (h : (Resolver.escapeText text ++ rest).head? = some '\x7b') : text.head? = some '\x7b' := by
  fun_induction Resolver.escapeText text with
  | case1 => exact absurd h hrest
  | case2 => cases h
  | case3 c cs _ _ =>
      repeat' split at h
      all_goals simp_all

theorem scan_escapeText (text : List Char) {rest : List Char} (hrest : rest.head? ≠ some '\x7b') :
    scan .text (Resolver.escapeText text ++ rest) = (scan .text rest).map (keep text) := by
  fun_induction Resolver.escapeText text with
  | case1 => exact Passes.nil rest
  | case2 cs ih =>
      rw [List.cons_append, List.cons_append, List.cons_append,
        scan_escaped (by rfl : escaped? '$' = some '$'),
        scan_text (by decide) (by decide) (by decide) (by simp), ih, Option.map_map, keep_keep,
        Option.map_map, keep_keep]
      rfl
  | case3 c cs hdollar ih =>
      have hkeep : keep (c :: cs) = keep [c] ∘ keep cs := (keep_keep [c] cs).symm
      rw [List.append_assoc, hkeep, ← Option.map_map, ← ih]
      split
      next h => exact scan_escaped (by rw [h]; rfl) _
      next hslash =>
        split
        next h => exact scan_escaped (by rw [h]; rfl) _
        next htick =>
          split
          next h => exact scan_escaped (h ▸ rfl) _
          next =>
            split
            next h => exact scan_escaped (h ▸ rfl) _
            next hreturn =>
              refine scan_text htick hslash hreturn fun hopen => ?_
              obtain ⟨d, more⟩ := List.head?_eq_some_iff.mp (head?_escapeText hrest hopen.2)
              exact hdollar d hopen.1 more

/-! ### Accessors -/

theorem passes_code {p : Char → Bool}
    (hp : ('"' :: '\x7b' :: '\x7d' :: refused).all (fun c => !p c) = true) {c : Char}
    (hc : p c = true) (depth : Nat) : Passes (.code depth) [c] := by
  have hne : c ∉ '"' :: '\x7b' :: '\x7d' :: refused := fun hmem => by
    simpa [hc] using List.all_eq_true.mp hp c hmem
  simp only [List.mem_cons, not_or] at hne
  obtain ⟨hquote, hopen, hclose, hrefused⟩ := hne
  intro rest
  rw [List.singleton_append, scan, if_neg hquote, if_neg hopen, if_neg hclose,
    if_neg hrefused]

theorem passes_escapes (cs : List Char) (depth : Nat) :
    Passes (.quoted depth) (cs.flatMap Json.escapeChar) := by
  refine Json.escapes_induction .nil .append ?_ ?_ cs
  · intro c hc hquote hslash rest
    have hbreak := not_isLineBreak_of_isPrintable hc
    rw [List.singleton_append, scan, if_neg hquote, if_neg hslash, if_neg hbreak]
  · intro c hc rest
    have hbreak := not_isLineBreak_of_isPrintable hc
    rw [List.cons_append, List.singleton_append, scan, if_neg (by decide), if_pos rfl, scan,
      if_neg hbreak, Option.map_map, keep_keep]
    rfl

theorem passes_quoteChars (cs : List Char) (depth : Nat) :
    Passes (.code depth) (Json.quoteChars cs) := by
  intro rest
  rw [Json.quoteChars_append, scan, if_pos rfl, passes_escapes, scan, if_pos rfl, Option.map_map,
    Option.map_map, keep_keep, keep_keep]
  rfl

set_option maxRecDepth 2000 in
theorem passes_chain {cs : List Char} (h : Path.Chain cs) (depth : Nat) :
    Passes (.code depth) cs := by
  have hpoint : Passes (.code depth) ['.'] := passes_code (p := (· = '.')) (by decide) rfl depth
  have hopen : Passes (.code depth) ['['] := passes_code (p := (· = '[')) (by decide) rfl depth
  have hclose : Passes (.code depth) [']'] := passes_code (p := (· = ']')) (by decide) rfl depth
  have hdigit {c : Char} (hc : Text.isDecimal c = true ∨ Text.isDigitLike c = true) :
      Passes (.code depth) [c] := by
    refine passes_code (p := fun c => Text.isDecimal c || Text.isDigitLike c) (by decide) ?_ depth
    simpa using hc
  induction h with
  | nil => exact .nil
  | name hc hcs _ ih =>
      have hstart := passes_code (by decide) hc depth
      have hpart := Passes.of_forall fun c hmem =>
        passes_code (p := Path.isNamePart) (by decide) (hcs c hmem) depth
      exact hpoint.cons (hstart.cons (hpart.append ih))
  | index hds _ ih =>
      have hdigits := Passes.of_forall fun c hc => hdigit (hds c hc)
      exact hopen.cons (hdigits.append (hclose.cons ih))
  | key cs _ ih => exact hopen.cons ((passes_quoteChars cs depth).append (hclose.cons ih))

set_option maxRecDepth 2000 in
theorem passes_identifier {cs : List Char} (h : Path.IsIdentifierName cs) (depth : Nat) :
    Passes (.code depth) cs := .of_forall fun c hc =>
  passes_code (p := Path.isIdentifierPart) (by decide) (h.2 c hc) depth

theorem passes_accessor {r : Resolver} (hr : ∀ step ∈ r.steps, Path.IsIdentifierName step.toList)
    (inner : List Char) (depth : Nat) : Passes (.code depth) (r.accessor inner) := by
  have hword {cs : List Char} (h : cs.all Text.isAsciiWord = true) : Passes (.code depth) cs :=
    .of_forall fun c hc => passes_code (by decide) (List.all_eq_true.mp h c hc) depth
  rcases r.accessor_cases inner with ⟨id, chain, hchain, heq⟩ | ⟨step, hstep, chain, hchain, heq⟩
  · rw [heq]
    exact (hword (by decide)).append (passes_chain (.key id hchain) depth)
  · have hpoint : Passes (.code depth) ['.'] := passes_code (p := (· = '.')) (by decide) rfl depth
    rw [heq]
    refine (hword (by decide)).append (hpoint.cons ?_)
    exact (passes_identifier (hr step hstep) depth).append (passes_chain hchain depth)

/-! ### The whole literal -/

def partChunks (r : Resolver) (parts : List (List Char × List Char)) : List Chunk :=
  parts.flatMap fun p => [.code (r.accessor p.1), .text p.2]

def partBody (r : Resolver) (parts : List (List Char × List Char)) : List Char :=
  parts.flatMap fun p => '$' :: '\x7b' :: (r.accessor p.1 ++ '\x7d' :: Resolver.escapeText p.2)

theorem scan_substitution {r : Resolver} (hr : ∀ step ∈ r.steps, Path.IsIdentifierName step.toList)
    (inner rest : List Char) :
    scan .text ('$' :: '\x7b' :: (r.accessor inner ++ '\x7d' :: rest)) =
      (scan .text rest).map fun p => (.text [] :: .code (r.accessor inner) :: p.1, p.2) := by
  rw [scan, if_neg (by decide), if_neg (by decide), if_pos (by rfl), scan,
    passes_accessor hr inner 0, scan, if_neg (by decide), if_neg (by decide), if_pos rfl,
    if_pos rfl]
  cases scan .text rest with
  | none => rfl
  | some p => simp [keep, push]

theorem scan_body {r : Resolver} (hr : ∀ step ∈ r.steps, Path.IsIdentifierName step.toList)
    (text : List Char) (parts : List (List Char × List Char)) :
    scan .text (Resolver.escapeText text ++ (partBody r parts ++ ['`'])) =
      some (.text text :: partChunks r parts, []) := by
  induction parts generalizing text with
  | nil =>
      rw [partBody, List.flatMap_nil, List.nil_append, scan_escapeText text (by decide), scan,
        if_pos rfl]
      simp [keep, push, partChunks]
  | cons p parts ih =>
      have hbody : partBody r (p :: parts) ++ ['`'] = '$' :: '\x7b' :: (r.accessor p.1 ++
          '\x7d' :: (Resolver.escapeText p.2 ++ (partBody r parts ++ ['`']))) := by
        simp [partBody]
      rw [hbody, scan_escapeText text (by simp), scan_substitution hr, ih]
      simp [keep, push, partChunks]

end Literal

namespace Resolver

open Template Literal

theorem toList_join_map {α : Type} (f : α → String) (xs : List α) :
    (String.join (xs.map f)).toList = xs.flatMap fun x => (f x).toList := by
  induction xs with
  | nil => rfl
  | cons x xs ih => simp_all [String.join_cons]

/-- Pieces written one behind the other, along the cut that they come from. -/
theorem toList_join_pieces {f : Piece → String} {g : List Char → List Char} (hnil : g [] = [])
    (htext : ∀ cs, (f (.text cs)).toList = g cs) (text : List Char)
    (parts : List (List Char × List Char)) :
    (String.join ((textPieces text ++ partPieces parts).map f)).toList =
      g text ++ parts.flatMap fun p => (f (.ref p.1)).toList ++ g p.2 := by
  have hpieces (cs : List Char) :
      (textPieces cs).flatMap (fun piece => (f piece).toList) = g cs := by
    cases cs with
    | nil => exact hnil.symm
    | cons c cs => simpa [textPieces] using htext (c :: cs)
  rw [toList_join_map, List.flatMap_append, hpieces, partPieces, List.flatMap_assoc]
  simp only [List.flatMap_cons, hpieces]

theorem toList_code (r : Resolver) {s : String} {text : List Char}
    {parts : List (List Char × List Char)} (h : Leftmost s.toList text parts) :
    (r.code s).toList = text ++ parts.flatMap fun p => r.accessor p.1 ++ p.2 := by
  rw [code, h.pieces_eq]
  exact toList_join_pieces (f := r.codePiece) (g := id) rfl (fun _ => String.toList_ofList) _ _

theorem string_plain (r : Resolver) {s : String} {text : List Char}
    (h : Leftmost s.toList text []) : r.string s = Json.quote s := by
  rw [string, h.pieces_eq]
  cases text <;> rfl

theorem string_single (r : Resolver) {s : String} {inner : List Char}
    (h : Leftmost s.toList [] [(inner, [])]) : r.string s = r.reference (String.ofList inner) := by
  rw [string, h.pieces_eq]
  rfl

theorem string_mixed (r : Resolver) {s : String} {text : List Char}
    {parts : List (List Char × List Char)} (h : Leftmost s.toList text parts) (hparts : parts ≠ [])
    (hmixed : ∀ inner, ¬(text = [] ∧ parts = [(inner, [])])) :
    (r.string s).toList = '`' :: (escapeText text ++ (partBody r parts ++ ['`'])) := by
  rw [string, h.pieces_eq]
  split
  next inner heq =>
    have hcut := cutOf_pieces text parts
    rw [heq] at hcut
    exact absurd ⟨(Prod.mk.inj hcut).1.symm, (Prod.mk.inj hcut).2.symm⟩ (hmixed inner)
  next =>
    obtain ⟨p, more, rfl⟩ := List.exists_cons_of_ne_nil hparts
    have href : (textPieces text ++ partPieces (p :: more)).any isRef = true := by
      simp [partPieces, isRef]
    rw [if_pos href, String.toList_append, String.toList_append,
      toList_join_pieces (f := r.literalPiece) rfl (fun cs => String.toList_ofList)]
    simp [partBody, literalPiece, accessor]

/-- What is made of a text, given how it is cut: as code, and as an expression. -/
structure Renders (r : Resolver) (s : String) (text : List Char)
    (parts : List (List Char × List Char)) : Prop where
  code : (r.code s).toList = text ++ parts.flatMap fun p => r.accessor p.1 ++ p.2
  plain : parts = [] → r.string s = Json.quote s ∧ Json.parse (r.string s) = .ok (.str s)
  single : ∀ inner, text = [] → parts = [(inner, [])] →
    r.string s = r.reference (String.ofList inner)
  mixed : parts ≠ [] → (∀ inner, ¬(text = [] ∧ parts = [(inner, [])])) →
    ∃ body, (r.string s).toList = '`' :: body ∧
      scan .text body = some (.text text :: partChunks r parts, [])

/-- A text is cut at its references in exactly one way. As code it is the plain texts with the
accessors between them; as an expression it is a quoted text that reads back as the text, an accessor
alone, or a template literal that is read as the plain texts with the accessors between them. -/
theorem renders_leftmost {r : Resolver} (hr : ∀ step ∈ r.steps, Path.IsIdentifierName step.toList)
    (s : String) :
    ∃ text parts, Leftmost s.toList text parts ∧
      (∀ text' parts', Leftmost s.toList text' parts' → text' = text ∧ parts' = parts) ∧
      Renders r s text parts := by
  obtain ⟨text, parts, h⟩ := exists_leftmost s.toList
  refine ⟨text, parts, h, fun text' parts' h' => h.unique h', r.toList_code h, ?_, ?_, ?_⟩
  · rintro rfl
    rw [r.string_plain h]
    exact ⟨rfl, Json.parse_quote s⟩
  · rintro inner rfl rfl
    exact r.string_single h
  · intro hparts hmixed
    exact ⟨_, r.string_mixed h hparts hmixed, scan_body hr text parts⟩

/-- A text with a backtick, a backslash, a dollar sign before a reference and a brace behind one. -/
theorem renders_leftmost_awkward :
    (∀ step ∈ ["fetchUser"], Path.IsIdentifierName step.toList) ∧
      ∃ text parts, Leftmost "`\\$\x7b\x7bfetchUser.name\x7d\x7d\x7d".toList text parts ∧
        (∀ text' parts', Leftmost "`\\$\x7b\x7bfetchUser.name\x7d\x7d\x7d".toList text' parts' →
          text' = text ∧ parts' = parts) ∧
        Renders ⟨["fetchUser"]⟩ "`\\$\x7b\x7bfetchUser.name\x7d\x7d\x7d" text parts := by
  have hr : ∀ step ∈ ["fetchUser"], Path.IsIdentifierName step.toList := by
    intro step hstep
    rw [List.mem_singleton.mp hstep]
    exact ⟨⟨'f', by decide, by decide⟩, Text.forall_mem_of_all (by decide)⟩
  exact ⟨hr, renders_leftmost hr _⟩

end Resolver

end DurableFlow
