import DurableFlow.Proofs.Expression.Literal
import DurableFlow.Proofs.Text.Split

/-!
Object literals. A reader that counts brackets and knows quoted texts cuts what stands between the
braces at the commas, and takes a quoted name and the text behind its colon from every piece. It finds
the fields of a literal as they were written, whatever is quoted in their names and values.
-/

namespace DurableFlow.ObjectLiteral

/-! ### The reader -/

/-- Where the reader stands: in code within so many brackets, in a quoted text of that code, or behind
a backslash in it. -/
inductive Place where
  | code (depth : Nat)
  | quoted (depth : Nat)
  | escaped (depth : Nat)
  deriving DecidableEq, Repr

def opensBracket (c : Char) : Bool := c = '(' || c = '[' || c = '\x7b'

def closesBracket (c : Char) : Bool := c = ')' || c = ']' || c = '\x7d'

namespace Place

/-- Where the reader stands behind a character. What is refused in the code of a substitution is
refused here too, and so are line breaks in quoted texts. -/
def next? : Place → Char → Option Place
  | code depth, c =>
    if c = '"' then some (quoted depth)
    else if opensBracket c then some (code (depth + 1))
    else if closesBracket c then some (code (depth - 1))
    else if c ∈ Literal.refused then none
    else some (code depth)
  | quoted depth, c =>
    if c = '"' then some (code depth)
    else if c = '\\' then some (escaped depth)
    else if Text.isLineBreak c then none
    else some (quoted depth)
  | escaped depth, c => if Text.isLineBreak c then none else some (quoted depth)

/-- A piece ends in front of this character. -/
def ends : Place → Char → Bool
  | code 0, c => c = ',' || closesBracket c
  | _, _ => false

end Place

/-- Puts characters in front of the first piece. -/
def prepend (cs : List Char) : List (List Char) → List (List Char)
  | [] => []
  | piece :: pieces => (cs ++ piece) :: pieces

/-- The pieces between the commas of a literal, read from behind its opening brace. Its closing brace
is the last character. -/
def pieces : Place → List Char → Option (List (List Char))
  | _, [] => none
  | place, c :: cs =>
    if place.ends c then
      if c = ',' then (pieces (.code 0) cs).map ([] :: ·)
      else if c = '\x7d' ∧ cs = [] then some [[]]
      else none
    else
      match place.next? c with
      | some place' => (pieces place' cs).map (prepend [c])
      | none => none

/-- The text that a quoted token stands for. -/
def quotedText? (token : List Char) : Option String :=
  match Skeleton.unquote token with
  | .ok (.str s) => some s
  | _ => none

/-- A field: its quoted name, a colon, and the text of its value. -/
def field? (piece : List Char) : Option (String × String) :=
  (Skeleton.stringToken? (Text.trimChars piece)).bind fun p =>
    (Text.after? [':', ' '] p.2).bind fun value =>
      (quotedText? p.1).map fun name => (name, String.ofList value)

/-- The fields of an object literal, in order: their names with the texts of their values. -/
def fields? (text : String) : Option (List (String × String)) :=
  (Text.after? ['\x7b'] text.toList).bind fun rest =>
    if rest = ['\x7d'] then some []
    else (pieces (.code 0) rest).bind fun found => found.mapM field?

/-! ### What the reader gets past -/

/-- Where the reader stands behind some characters, if no piece ends among them. -/
def walk : Place → List Char → Option Place
  | place, [] => some place
  | place, c :: cs => if place.ends c then none else (place.next? c).bind fun place' => walk place' cs

theorem walk_append (place : Place) (a b : List Char) :
    walk place (a ++ b) = (walk place a).bind fun place' => walk place' b := by
  induction a generalizing place with
  | nil => rfl
  | cons c a ih =>
      rw [List.cons_append, walk, walk]
      split
      · rfl
      · cases place.next? c with
        | none => rfl
        | some place' => exact ih place'

theorem prepend_prepend (a b : List Char) : prepend a ∘ prepend b = prepend (a ++ b) := by
  funext found
  cases found with
  | nil => rfl
  | cons piece found => simp [prepend]

theorem pieces_append {place place' : Place} {front : List Char} (h : walk place front = some place')
    (rest : List Char) : pieces place (front ++ rest) = (pieces place' rest).map (prepend front) := by
  induction front generalizing place with
  | nil =>
      obtain rfl := Option.some.inj h
      have hnil : prepend [] = id := by
        funext found
        cases found <;> rfl
      rw [hnil, Option.map_id_fun, id_eq, List.nil_append]
  | cons c front ih =>
      rw [walk] at h
      split at h
      · contradiction
      · rename_i hends
        obtain ⟨middle, hmiddle, hwalk⟩ := Option.bind_eq_some_iff.mp h
        rw [List.cons_append, pieces, if_neg hends, hmiddle]
        dsimp only
        rw [ih hwalk, Option.map_map, prepend_prepend]
        rfl

theorem walk_quoteChars (depth : Nat) (cs : List Char) :
    walk (.code depth) (Json.quoteChars cs) = some (.code depth) := by
  have hescapes : walk (.quoted depth) (cs.flatMap Json.escapeChar) = some (.quoted depth) := by
    refine Json.escapes_induction (P := fun front => walk (.quoted depth) front = some _) rfl ?_ ?_ ?_
      cs
    · intro a b ha hb
      rw [walk_append, ha]
      exact hb
    · intro c hc hquote hslash
      have hbreak := not_isLineBreak_of_isPrintable hc
      simp [walk, Place.ends, Place.next?, hquote, hslash, hbreak]
    · intro c hc
      have hbreak := not_isLineBreak_of_isPrintable hc
      simp [walk, Place.ends, Place.next?, hbreak]
  have hopens : walk (.code depth) ['"'] = some (.quoted depth) := by
    cases depth <;> rfl
  rw [Json.quoteChars, ← List.singleton_append, walk_append, hopens]
  show walk (.quoted depth) (cs.flatMap Json.escapeChar ++ ['"']) = _
  rw [walk_append, hescapes]
  rfl

/-! ### Literals that were written -/

/-- A text that can stand as the value of a field: the reader gets past it, and it does not end in a
blank. -/
structure IsValue (v : String) : Prop where
  passed : walk (.code 0) v.toList = some (.code 0)
  full : ∃ c ∈ v.toList.getLast?, Text.isBlank c = false

theorem IsValue.append {v w : String} (hv : IsValue v) (hw : IsValue w) : IsValue (v ++ w) where
  passed := by
    rw [String.toList_append, walk_append, hv.passed]
    exact hw.passed
  full := by
    obtain ⟨c, hc, hblank⟩ := hw.full
    rw [String.toList_append]
    exact ⟨c, Text.mem_getLast?_append _ hc, hblank⟩

def fieldText (f : String × String) : String := Json.quote f.1 ++ ": " ++ f.2

theorem toList_fieldText (f : String × String) :
    (fieldText f).toList = Json.quoteChars f.1.toList ++ ([':', ' '] ++ f.2.toList) := by
  simp [fieldText]

theorem walk_fieldText {f : String × String} (h : IsValue f.2) :
    walk (.code 0) (' ' :: (fieldText f).toList) = some (.code 0) := by
  have hspace : walk (.code 0) [' '] = some (.code 0) := rfl
  have hcolon : walk (.code 0) [':', ' '] = some (.code 0) := rfl
  rw [toList_fieldText, ← List.singleton_append, walk_append, hspace, Option.bind_some, walk_append,
    walk_quoteChars, Option.bind_some, walk_append, hcolon, Option.bind_some, h.passed]

theorem field?_fieldText {f : String × String} (h : IsValue f.2) {trail : List Char}
    (htrail : ∀ c ∈ trail, Text.isBlank c = true) :
    field? (' ' :: (fieldText f).toList ++ trail) = some f := by
  have hlast : ∃ c ∈ (fieldText f).toList.getLast?, Text.isBlank c = false := by
    obtain ⟨c, hc, hblank⟩ := h.full
    rw [toList_fieldText]
    exact ⟨c, Text.mem_getLast?_append _ (Text.mem_getLast?_append _ hc), hblank⟩
  have hquote (cs : List Char) : Json.quoteChars f.1.toList ++ cs =
      '"' :: (f.1.toList.flatMap Json.escapeChar ++ ['"'] ++ cs) := rfl
  have hnone : Text.dropEnd Text.isBlank trail = [] := by
    rw [Text.dropEnd, List.reverse_eq_nil_iff, List.dropWhile_eq_nil_iff]
    exact fun c hc => htrail c (List.mem_reverse.mp hc)
  have htrim : Text.trimChars (' ' :: (fieldText f).toList ++ trail) = (fieldText f).toList := by
    rw [List.cons_append, Text.trimChars_space, toList_fieldText, List.append_assoc, hquote,
      Text.trimChars_of_head (by decide), ← hquote, ← List.append_assoc, ← toList_fieldText,
      Text.dropEnd_append_of_last hlast, hnone, List.append_nil]
  have hname : quotedText? (Json.quoteChars f.1.toList) = some f.1 := by
    rw [quotedText?, Skeleton.unquote_quoteChars]
  rw [field?, htrim, toList_fieldText, Skeleton.stringToken?_quoteChars, Option.bind_some,
    Text.after?_append, Option.bind_some, hname, Option.map_some, String.ofList_toList]

/-- Written fields are cut into pieces from which they are read. -/
theorem exists_pieces {fields : List (String × String)} (hne : fields ≠ [])
    (h : ∀ f ∈ fields, IsValue f.2) :
    ∃ found, found.mapM field? = some fields ∧ pieces (.code 0)
      (' ' :: (", ".intercalate (fields.map fieldText)).toList ++ [' ', '\x7d']) = some found := by
  induction fields with
  | nil => contradiction
  | cons f fields ih =>
      rw [List.forall_mem_cons] at h
      have hwalk := walk_fieldText h.1
      cases fields with
      | nil =>
          have hblank : ∀ c ∈ [' '], Text.isBlank c = true :=
            List.forall_mem_singleton.mpr (by decide)
          refine ⟨[' ' :: (fieldText f).toList ++ [' ']], ?_, ?_⟩
          · rw [List.mapM_cons, field?_fieldText h.1 hblank]
            rfl
          · rw [List.map_singleton, String.intercalate_singleton, pieces_append hwalk]
            rfl
      | cons g fields =>
          obtain ⟨found, hfound, hpieces⟩ := ih (by simp) h.2
          have hsplit : ' ' :: (", ".intercalate ((f :: g :: fields).map fieldText)).toList ++
              [' ', '\x7d'] = ' ' :: (fieldText f).toList ++ ',' ::
                (' ' :: (", ".intercalate ((g :: fields).map fieldText)).toList ++ [' ', '\x7d']) := by
            simp [String.intercalate_cons_cons]
          refine ⟨(' ' :: (fieldText f).toList) :: found, ?_, ?_⟩
          · have hfirst : field? (' ' :: (fieldText f).toList ++ []) = some f :=
              field?_fieldText h.1 (by simp)
            rw [List.append_nil] at hfirst
            rw [List.mapM_cons, hfirst, hfound]
            rfl
          · rw [hsplit, pieces_append hwalk, pieces, if_pos (by rfl), if_pos rfl, hpieces]
            simp [prepend]

theorem fields?_braced {fields : List (String × String)} (hne : fields ≠ [])
    (h : ∀ f ∈ fields, IsValue f.2) :
    fields? (braced (", ".intercalate (fields.map fieldText))) = some fields := by
  obtain ⟨found, hfound, hpieces⟩ := exists_pieces hne h
  have htext : (braced (", ".intercalate (fields.map fieldText))).toList =
      ['\x7b'] ++ (' ' :: (", ".intercalate (fields.map fieldText)).toList ++ [' ', '\x7d']) := by
    simp [braced]
  rw [fields?, htext, Text.after?_append, Option.bind_some, if_neg (by simp), hpieces,
    Option.bind_some, hfound]

theorem fields?_emptyObject : fields? emptyObject = some [] := rfl

end DurableFlow.ObjectLiteral
