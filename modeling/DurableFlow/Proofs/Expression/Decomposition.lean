import DurableFlow.Expression.Resolver
import DurableFlow.Proofs.Text.Split

/-!
How a text is cut at its references. The cut is described without the function that makes it: plain
text in which no reference starts, then references with such plain text behind each. Every text has
one such cut and no other, and the pieces of the text are those of the cut.
-/

namespace DurableFlow.Template

/-! ### Where a reference starts -/

/-- The inside of a reference: at least one character, and no closing brace. -/
def IsInner (inner : List Char) : Prop := inner ≠ [] ∧ '\x7d' ∉ inner

def written (inner : List Char) : List Char :=
  '\x7b' :: '\x7b' :: (inner ++ ['\x7d', '\x7d'])

def StartsRef (cs : List Char) : Prop := ∃ inner rest, IsInner inner ∧ cs = written inner ++ rest

theorem takeWhile_inner {inner : List Char} (h : '\x7d' ∉ inner) (rest : List Char) :
    (inner ++ '\x7d' :: rest).takeWhile (· ≠ '\x7d') = inner ∧
      (inner ++ '\x7d' :: rest).dropWhile (· ≠ '\x7d') = '\x7d' :: rest := by
  have hne : ∀ x ∈ inner, decide (x ≠ '\x7d') = true := fun x hx =>
    decide_eq_true fun heq => h (heq ▸ hx)
  exact Text.run_append hne (by simp)

theorem refAt?_written {inner : List Char} (h : IsInner inner) (rest : List Char) :
    refAt? (written inner ++ rest) = some inner := by
  obtain ⟨hne, hclose⟩ := h
  obtain ⟨c, more, rfl⟩ := List.exists_cons_of_ne_nil hne
  have hwritten : written (c :: more) ++ rest =
      '\x7b' :: '\x7b' :: (c :: more ++ '\x7d' :: '\x7d' :: rest) := by
    simp [written]
  obtain ⟨htake, hdrop⟩ := takeWhile_inner hclose ('\x7d' :: rest)
  rw [hwritten, refAt?]
  simp only [htake, hdrop]

theorem startsRef_of_refAt? {cs inner : List Char} (h : refAt? cs = some inner) :
    IsInner inner ∧ ∃ rest, cs = written inner ++ rest := by
  rw [refAt?.eq_def] at h
  split at h
  · rename_i rest
    dsimp only at h
    split at h
    next c more behind htake hdrop =>
      have hinner : c :: more = inner := htake ▸ Option.some.inj h
      have hrest := List.takeWhile_append_dropWhile (p := (· ≠ '\x7d')) (l := rest)
      rw [htake, hdrop, hinner] at hrest
      refine ⟨⟨hinner ▸ List.cons_ne_nil c more, fun hclose => ?_⟩, behind, ?_⟩
      · rw [← hinner, ← htake] at hclose
        exact absurd (List.mem_takeWhile_imp hclose) (by decide)
      · rw [← hrest]
        simp [written]
    next => cases h
  · cases h

theorem refAt?_eq_none {cs : List Char} (h : ¬StartsRef cs) : refAt? cs = none := by
  refine Option.eq_none_iff_forall_ne_some.mpr fun inner hinner => h ?_
  obtain ⟨hinside, rest, hcs⟩ := startsRef_of_refAt? hinner
  exact ⟨inner, rest, hinside, hcs⟩

theorem not_startsRef_nil : ¬StartsRef [] := by
  rintro ⟨inner, rest, -, h⟩
  cases h

/-! ### The cut -/

/-- A text cut at its references from left to right: the plain text in front, and the references
with the plain text behind each. No reference starts within plain text. -/
inductive Leftmost : (cs text : List Char) → (parts : List (List Char × List Char)) → Prop where
  | plain {text : List Char} (h : ∀ front back, text = front ++ back → ¬StartsRef back) :
      Leftmost text text []
  | ref {text inner rest behind : List Char} {parts : List (List Char × List Char)}
      (h : ∀ front back, text = front ++ back → back ≠ [] →
        ¬StartsRef (back ++ (written inner ++ rest)))
      (hinner : IsInner inner) (hrest : Leftmost rest behind parts) :
      Leftmost (text ++ (written inner ++ rest)) text ((inner, behind) :: parts)

theorem Leftmost.cons {c : Char} {cs text : List Char} {parts : List (List Char × List Char)}
    (h : Leftmost cs text parts) (hc : ¬StartsRef (c :: cs)) :
    Leftmost (c :: cs) (c :: text) parts := by
  cases h with
  | plain h =>
      refine .plain fun front back heq => ?_
      cases front with
      | nil => exact (List.nil_append back ▸ heq) ▸ hc
      | cons d front => exact h front back (List.cons.inj heq).2
  | ref h hinner hrest =>
      rw [← List.cons_append]
      refine .ref (fun front back heq hback => ?_) hinner hrest
      cases front with
      | nil => exact (List.nil_append back ▸ heq) ▸ hc
      | cons d front => exact h front back (List.cons.inj heq).2 hback

theorem length_lt_written (inner rest : List Char) :
    rest.length < (written inner ++ rest).length := by
  rw [List.length_append, written, List.length_cons]
  omega

theorem Leftmost.written {inner rest text : List Char} {parts : List (List Char × List Char)}
    (h : Leftmost rest text parts) (hinner : IsInner inner) :
    Leftmost (written inner ++ rest) [] ((inner, text) :: parts) := by
  have hfront : ∀ front back, ([] : List Char) = front ++ back → back ≠ [] →
      ¬StartsRef (back ++ (Template.written inner ++ rest)) := fun front back heq hback =>
    absurd (List.append_eq_nil_iff.mp heq.symm).2 hback
  exact .ref hfront hinner h

theorem leftmost_nil : Leftmost [] [] [] := by
  refine .plain fun front back heq => ?_
  rw [(List.append_eq_nil_iff.mp heq.symm).2]
  exact not_startsRef_nil

theorem exists_leftmost (cs : List Char) : ∃ text parts, Leftmost cs text parts := by
  -- A reference leaves less text behind it, so the induction is on the length.
  induction hlength : cs.length using Nat.strong_induction_on generalizing cs with
  | h n ih =>
      subst hlength
      by_cases hstart : StartsRef cs
      · obtain ⟨inner, rest, hinner, rfl⟩ := hstart
        obtain ⟨text, parts, hrest⟩ := ih _ (length_lt_written inner rest) rest rfl
        exact ⟨[], (inner, text) :: parts, hrest.written hinner⟩
      · cases cs with
        | nil => exact ⟨[], [], leftmost_nil⟩
        | cons c cs =>
            obtain ⟨text, parts, h⟩ := ih _ (Nat.lt_succ_self cs.length) cs rfl
            exact ⟨c :: text, parts, h.cons hstart⟩

/-! ### The pieces of a cut -/

def textPieces : List Char → List Piece
  | [] => []
  | c :: cs => [.text (c :: cs)]

def partPieces (parts : List (List Char × List Char)) : List Piece :=
  parts.flatMap fun p => .ref p.1 :: textPieces p.2

theorem piecesFrom_skip (front rest : List Char) :
    piecesFrom front.length (front ++ rest) = piecesFrom 0 rest := by
  induction front with
  | nil => rfl
  | cons c front ih => rw [List.length_cons, List.cons_append, piecesFrom, ih]

theorem pieces_written {inner : List Char} (h : IsInner inner) (rest : List Char) :
    pieces (written inner ++ rest) = .ref inner :: pieces rest := by
  have htail : written inner ++ rest =
      '\x7b' :: ('\x7b' :: (inner ++ ['\x7d', '\x7d']) ++ rest) := rfl
  have hsize : inner.length + 3 = ('\x7b' :: (inner ++ ['\x7d', '\x7d'])).length := by simp
  have href := refAt?_written h rest
  rw [htail] at href
  rw [pieces, htail, piecesFrom]
  simp only [href]
  rw [hsize, piecesFrom_skip, pieces]

theorem pieces_cons {c : Char} {cs : List Char} (h : ¬StartsRef (c :: cs)) :
    pieces (c :: cs) = consText c (pieces cs) := by
  rw [pieces, piecesFrom]
  simp only [refAt?_eq_none h]
  rfl

theorem pieces_append {text rest : List Char} {parts : List (List Char × List Char)}
    (h : ∀ front back, text = front ++ back → back ≠ [] → ¬StartsRef (back ++ rest))
    (hrest : pieces rest = partPieces parts) :
    pieces (text ++ rest) = textPieces text ++ partPieces parts := by
  induction text with
  | nil => exact hrest
  | cons c text ih =>
      have hstart : ¬StartsRef (c :: (text ++ rest)) :=
        h [] (c :: text) rfl (List.cons_ne_nil c text)
      have hbehind := ih fun front back heq hback => h (c :: front) back (by rw [heq]; rfl) hback
      rw [List.cons_append, pieces_cons hstart, hbehind]
      cases text with
      | nil =>
          cases parts with
          | nil => rfl
          | cons p parts => rfl
      | cons d text => rfl

/-- The pieces of a text are those of its cut. -/
theorem Leftmost.pieces_eq {cs text : List Char} {parts : List (List Char × List Char)}
    (h : Leftmost cs text parts) : pieces cs = textPieces text ++ partPieces parts := by
  induction h with
  | @plain text h =>
      have hstart : ∀ front back, text = front ++ back → back ≠ [] → ¬StartsRef (back ++ []) := by
        intro front back heq _
        rw [List.append_nil]
        exact h front back heq
      have hpieces : pieces (text ++ []) = textPieces text ++ partPieces [] :=
        pieces_append hstart rfl
      rwa [List.append_nil] at hpieces
  | ref h hinner _ ih =>
      refine pieces_append h ?_
      rw [pieces_written hinner, ih]
      rfl

def cutOf : List Piece → List Char × List (List Char × List Char)
  | [] => ([], [])
  | .text cs :: rest => (cs ++ (cutOf rest).1, (cutOf rest).2)
  | .ref inner :: rest => ([], (inner, (cutOf rest).1) :: (cutOf rest).2)

theorem cutOf_textPieces (text : List Char) (rest : List Piece) :
    cutOf (textPieces text ++ rest) = (text ++ (cutOf rest).1, (cutOf rest).2) := by
  cases text <;> rfl

theorem cutOf_pieces (text : List Char) (parts : List (List Char × List Char)) :
    cutOf (textPieces text ++ partPieces parts) = (text, parts) := by
  induction parts generalizing text with
  | nil => rw [cutOf_textPieces, partPieces, List.flatMap_nil, cutOf, List.append_nil]
  | cons p parts ih =>
      have hparts : partPieces (p :: parts) =
          .ref p.1 :: (textPieces p.2 ++ partPieces parts) := rfl
      rw [cutOf_textPieces, hparts, cutOf, ih, List.append_nil]

theorem leftmost_cutOf (cs : List Char) :
    Leftmost cs (cutOf (pieces cs)).1 (cutOf (pieces cs)).2 := by
  obtain ⟨text, parts, h⟩ := exists_leftmost cs
  rw [h.pieces_eq, cutOf_pieces]
  exact h

theorem Leftmost.unique {cs text text' : List Char} {parts parts' : List (List Char × List Char)}
    (h : Leftmost cs text parts) (h' : Leftmost cs text' parts') :
    text' = text ∧ parts' = parts := by
  have hcut : (text', parts') = (text, parts) := by
    rw [← cutOf_pieces text parts, ← cutOf_pieces text' parts', ← h.pieces_eq, ← h'.pieces_eq]
  exact Prod.mk.inj hcut

end DurableFlow.Template
