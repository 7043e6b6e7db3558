import DurableFlow.Expression.Resolver
import DurableFlow.Proofs.Text.Class
import DurableFlow.Text.Identifier
import Mathlib.Data.List.TakeWhile

/-!
What accessors look like. A path is written as a chain of accesses, each of them by a name, by an
index or by a quoted key, whatever the segments of the path are. The accessor of a reference is the
variable of the states or of the results with such a chain behind it.
-/

namespace DurableFlow

namespace Path

/-! ### Characters of names -/

theorem isNamePart_of_isAsciiWord {c : Char} (h : Text.isAsciiWord c = true) :
    isNamePart c = true := by
  rw [isNamePart, Text.isWord_of_isAsciiWord h, Bool.true_or]

theorem isNameStart_of_isAsciiWord {c : Char} (h : Text.isAsciiWord c = true)
    (hdigit : ¬Text.isAsciiDigit c = true) : isNameStart c = true := by
  rw [Text.isAsciiWord, Bool.or_eq_true, Bool.or_eq_true] at h
  rw [isNameStart, Bool.or_eq_true, Bool.or_eq_true]
  rcases h with (h | h) | h
  · exact .inl (.inl h)
  · exact absurd h hdigit
  · exact .inl (.inr h)

theorem isNameStart_iff (c : Char) : isNameStart c = true ↔
    (97 ≤ c.toNat ∧ c.toNat ≤ 122) ∨ (65 ≤ c.toNat ∧ c.toNat ≤ 90) ∨ c.toNat = 95 ∨ c = '$' := by
  have hunderscore : c = '_' ↔ c.toNat = 95 := (Char.toNat_inj (d := '_')).symm
  rw [isNameStart, Bool.or_eq_true, Bool.or_eq_true, decide_eq_true_eq, decide_eq_true_eq,
    Text.isAsciiLetter_iff, hunderscore, or_assoc, or_assoc]

theorem isNamePart_of_isNameStart {c : Char} (h : isNameStart c = true) : isNamePart c = true := by
  rw [isNameStart, Bool.or_eq_true, Bool.or_eq_true] at h
  rcases h with (h | h) | h
  · exact isNamePart_of_isAsciiWord (by rw [Text.isAsciiWord, h]; rfl)
  · exact isNamePart_of_isAsciiWord (by rw [Text.isAsciiWord, h, Bool.or_true])
  · rw [isNamePart, h, Bool.or_true]

/-! ### Names of the target language -/

/-- Letters that may start an identifier although their compatibility forms may not stand in one. -/
def letterForms : List (Nat × Nat) :=
  [(890, 890), (3635, 3635), (3763, 3763), (12443, 12444), (64606, 64611), (65018, 65019),
   (65136, 65136), (65138, 65138), (65140, 65140), (65142, 65142), (65144, 65144), (65146, 65146),
   (65148, 65148), (65150, 65150), (65438, 65439)]

/-- A letter of any script, an underscore or a dollar sign. -/
def isIdentifierStart (c : Char) : Bool :=
  c = '$' || Text.isNameStart c || Text.inRanges c.toNat letterForms

/-- Also marks, decimal digits, connecting punctuation and the two joiners of width zero. -/
def isIdentifierPart (c : Char) : Bool :=
  isIdentifierStart c || Text.isNamePart c || c.toNat = 0x200C || c.toNat = 0x200D

def IsIdentifierName (cs : List Char) : Prop :=
  (∃ c ∈ cs.head?, isIdentifierStart c = true) ∧ ∀ c ∈ cs, isIdentifierPart c = true

/-! ### Chains -/

inductive Chain : List Char → Prop where
  | nil : Chain []
  | name {c : Char} {cs rest : List Char} (hc : isNameStart c = true)
      (hcs : ∀ x ∈ cs, isNamePart x = true) (h : Chain rest) : Chain ('.' :: c :: (cs ++ rest))
  | index {ds rest : List Char}
      (hds : ∀ x ∈ ds, Text.isDecimal x = true ∨ Text.isDigitLike x = true) (h : Chain rest) :
      Chain ('[' :: (ds ++ ']' :: rest))
  | key (cs : List Char) {rest : List Char} (h : Chain rest) :
      Chain ('[' :: (Json.quoteChars cs ++ ']' :: rest))

theorem Chain.append {a b : List Char} (ha : Chain a) (hb : Chain b) : Chain (a ++ b) := by
  induction ha with
  | nil => exact hb
  | name hc hcs _ ih =>
      rw [List.cons_append, List.cons_append, List.append_assoc]
      exact .name hc hcs ih
  | index hds _ ih =>
      rw [List.cons_append, List.append_assoc, List.cons_append]
      exact .index hds ih
  | key cs _ ih =>
      rw [List.cons_append, List.append_assoc, List.cons_append]
      exact .key cs ih

/-! ### Segments -/

theorem dropFinalBreak_cons {c : Char} {cs : List Char} (h : c ≠ '\n' ∨ cs ≠ []) :
    dropFinalBreak (c :: cs) = c :: dropFinalBreak cs := by
  cases cs with
  | nil => simp [dropFinalBreak, h.neg_resolve_right (by simp)]
  | cons d cs =>
      rw [dropFinalBreak, dropFinalBreak, List.getLast?_cons_cons, List.dropLast_cons_cons]
      split <;> rfl

theorem dropFinalBreak_append {front : List Char} (h : ∀ x ∈ front, x ≠ '\n') (cs : List Char) :
    dropFinalBreak (front ++ cs) = front ++ dropFinalBreak cs := by
  induction front with
  | nil => rfl
  | cons c front ih =>
      rw [List.cons_append, dropFinalBreak_cons (.inl (h c List.mem_cons_self)),
        ih fun x hx => h x (List.mem_cons_of_mem c hx), List.cons_append]

/-- What is left of an index group, and the groups behind it, from where their reader stands. -/
def Continues : IndexState → List Char → Prop
  | .between, cs => Chain cs
  | .opened, cs => Chain ('[' :: cs)
  | .digits, cs => ∀ ds, (∀ x ∈ ds, Text.isDecimal x = true) → Chain ('[' :: (ds ++ cs))

theorem continues_of_isIndices (state : IndexState) (cs : List Char)
    (h : isIndices state cs = true) : Continues state (dropFinalBreak cs) := by
  have hfeed {c : Char} (hc : Text.isDecimal c = true) : c ≠ '\n' := by
    rintro rfl
    exact absurd hc (by decide)
  induction cs generalizing state with
  | nil =>
      cases state with
      | between => exact .nil
      | opened => cases h
      | digits => cases h
  | cons c cs ih =>
      cases state with
      | between =>
          rw [isIndices] at h
          split at h
          next hopen =>
            rw [hopen, dropFinalBreak_cons (.inl (by decide))]
            exact ih .opened h
          next =>
            simp only [Bool.and_eq_true, decide_eq_true_eq, List.isEmpty_iff] at h
            rw [h.1, h.2]
            exact .nil
      | opened =>
          rw [isIndices, Bool.and_eq_true] at h
          rw [dropFinalBreak_cons (.inl (hfeed h.1))]
          exact ih .digits h.2 [c] (by simpa using h.1)
      | digits =>
          intro ds hds
          rw [isIndices] at h
          split at h
          next hclose =>
            rw [hclose, dropFinalBreak_cons (.inl (by decide))]
            exact .index (fun x hx => .inl (hds x hx)) (ih .between h)
          next =>
            rw [Bool.and_eq_true] at h
            rw [dropFinalBreak_cons (.inl (hfeed h.1)), List.append_cons]
            refine ih .digits h.2 (ds ++ [c]) fun x hx => ?_
            rcases List.mem_append.mp hx with hx | hx
            · exact hds x hx
            · exact List.mem_singleton.mp hx ▸ h.1

theorem chain_member {cs : List Char} (h : isMember cs = true) :
    Chain ('.' :: dropFinalBreak cs) := by
  cases cs with
  | nil => cases h
  | cons c cs =>
      rw [isMember, Bool.and_eq_true] at h
      obtain ⟨hstart, hindices⟩ := h
      have hpart : ∀ x ∈ cs.takeWhile isNamePart, isNamePart x = true := fun _ =>
        List.mem_takeWhile_imp
      have hfeed : ∀ x ∈ cs.takeWhile isNamePart, x ≠ '\n' := by
        rintro x hx rfl
        exact absurd (hpart _ hx) (by decide)
      have hfirst : c ≠ '\n' := by
        rintro rfl
        exact absurd hstart (by decide)
      rw [dropFinalBreak_cons (.inl hfirst), ← List.takeWhile_append_dropWhile (p := isNamePart) (l := cs),
        dropFinalBreak_append hfeed]
      exact .name hstart hpart (continues_of_isIndices .between _ hindices)

theorem chain_renderSegment (cs : List Char) : Chain (renderSegment cs) := by
  rw [renderSegment]
  refine iteInduction (fun _ => .nil) fun _ => ?_
  refine iteInduction chain_member fun _ => ?_
  refine iteInduction (fun hdigits => ?_) fun _ => .key cs .nil
  exact .index (fun x hx => .inr (List.all_eq_true.mp hdigits x hx)) .nil

theorem chain_render (segments : List String) : Chain (render segments).toList := by
  rw [render, String.toList_ofList]
  induction segments with
  | nil => exact .nil
  | cons s segments ih => exact (chain_renderSegment s.toList).append ih

end Path

namespace Resolver

/-- The characters of the accessor for the inside of a reference. -/
def accessor (r : Resolver) (inner : List Char) : List Char :=
  (r.reference (String.ofList inner)).toList

theorem toList_stateAccessor (id : String) (path : List String) :
    ∃ chain, Path.Chain chain ∧
      (stateAccessor id path).toList = stateVariable.toList ++ '[' :: (Json.quoteChars id.toList ++
        ']' :: chain) := by
  refine ⟨_, Path.chain_render (if path.isEmpty then ["output"] else path), ?_⟩
  simp [stateAccessor, stateEntry, stateEntryAt, Json.compact, Json.quote]

/-- A reference reads the state of a node, or the result of a step that the resolver knows. -/
theorem accessor_cases (r : Resolver) (inner : List Char) :
    (∃ id chain, Path.Chain chain ∧
      r.accessor inner = stateVariable.toList ++ '[' :: (Json.quoteChars id ++ ']' :: chain)) ∨
    ∃ step ∈ r.steps, ∃ chain, Path.Chain chain ∧
      r.accessor inner = resultsVariable.toList ++ '.' :: (step.toList ++ chain) := by
  have hstate (id : String) (path : List String) : ∃ id' chain, Path.Chain chain ∧
      (stateAccessor id path).toList =
        stateVariable.toList ++ '[' :: (Json.quoteChars id' ++ ']' :: chain) :=
    ⟨id.toList, toList_stateAccessor id path⟩
  unfold accessor reference
  dsimp only
  split
  · split <;> exact .inl (hstate _ _)
  · split
    · exact .inl (hstate _ _)
    · split
      next step path _ hstep =>
        exact .inr ⟨step, hstep, _, Path.chain_render path, by simp⟩
      next => exact .inl (hstate _ _)

end Resolver

end DurableFlow
