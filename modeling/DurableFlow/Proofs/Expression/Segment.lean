import DurableFlow.Proofs.Expression.Accessor
import DurableFlow.Proofs.Expression.MemberChain

/-!
The keys that a path selects. A segment which is a name with index groups behind it stands for the name
and for each of the indices, and any other segment for itself. Main statement: what a path is written as
selects the keys of its segments in order exactly when every segment is kept, and it says for which
segments a key is lost.
-/

namespace DurableFlow.Path

/-! ### The keys of a segment -/

def groups (indices : List (List Char)) : List Char :=
  indices.flatMap fun ds => '[' :: (ds ++ [']'])

/-- The indices of a sequence of groups such as `[12][0]`, given the digits of a group that is open. -/
def indices? : Option (List Char) → List Char → Option (List (List Char))
  | none, [] => some []
  | none, c :: cs => if c = '[' then indices? (some []) cs else none
  | some _, [] => none
  | some ds, c :: cs =>
    if c = ']' ∧ ds ≠ [] then (indices? none cs).map (ds :: ·)
    else if Text.isDecimal c then indices? (some (ds ++ [c])) cs
    else none

/-- The name and the indices of a segment such as `items[12][0]`. -/
def indexed? : List Char → Option (List Char × List (List Char))
  | [] => none
  | c :: cs =>
    if isNameStart c then
      (indices? none (cs.dropWhile isNamePart)).map (c :: cs.takeWhile isNamePart, ·)
    else none

def keys (cs : List Char) : List (List Char) :=
  match indexed? cs with
  | some (name, indices) => name :: indices
  | none => if cs.isEmpty then [] else [cs]

def IsIndex (ds : List Char) : Prop := ds ≠ [] ∧ ∀ c ∈ ds, Text.isDecimal c = true

structure IsIndexed (cs name : List Char) (indices : List (List Char)) : Prop where
  text : cs = name ++ groups indices
  start : ∃ c ∈ name.head?, isNameStart c = true
  part : ∀ c ∈ name, isNamePart c = true
  index : ∀ ds ∈ indices, IsIndex ds

def openText : Option (List Char) → List Char
  | none => []
  | some ds => '[' :: ds

theorem groups_of_indices? {pending : Option (List Char)} {cs : List Char} {indices : List (List Char)}
    (hpending : ∀ ds ∈ pending, ∀ c ∈ ds, Text.isDecimal c = true)
    (h : indices? pending cs = some indices) :
    openText pending ++ cs = groups indices ∧ ∀ ds ∈ indices, IsIndex ds := by
  induction cs generalizing pending indices with
  | nil =>
      cases pending with
      | none =>
          cases h
          exact ⟨rfl, by simp⟩
      | some ds => cases h
  | cons c cs ih =>
      cases pending with
      | none =>
          rw [indices?] at h
          split at h
          next hopen =>
            rw [hopen]
            exact ih (by simp) h
          next => cases h
      | some ds =>
          have hds := hpending ds rfl
          rw [indices?] at h
          split at h
          next hclose =>
            obtain ⟨more, hmore, rfl⟩ := Option.map_eq_some_iff.mp h
            obtain ⟨htext, hindex⟩ := ih (by simp) hmore
            refine ⟨?_, List.forall_mem_cons.mpr ⟨⟨hclose.2, hds⟩, hindex⟩⟩
            rw [openText, List.nil_append] at htext
            simp [openText, hclose.1, htext, groups]
          next =>
            split at h
            next hdigit =>
              obtain ⟨htext, hindex⟩ := ih (by simpa [or_imp, forall_and] using ⟨hds, hdigit⟩) h
              exact ⟨by simpa [openText] using htext, hindex⟩
            next => cases h

theorem indices?_close {ds more : List Char} (hne : ds ++ more ≠ [])
    (hmore : ∀ c ∈ more, Text.isDecimal c = true) (cs : List Char) :
    indices? (some ds) (more ++ ']' :: cs) = (indices? none cs).map ((ds ++ more) :: ·) := by
  induction more generalizing ds with
  | nil =>
      rw [List.append_nil] at hne ⊢
      rw [List.nil_append, indices?, if_pos ⟨rfl, hne⟩]
  | cons c more ih =>
      have hc := hmore c List.mem_cons_self
      have hclose : c ≠ ']' := by
        rintro rfl
        exact absurd hc (by decide)
      rw [List.cons_append, indices?, if_neg fun h => hclose h.1, if_pos hc,
        ih (by simp) fun x hx => hmore x (List.mem_cons_of_mem c hx), List.append_assoc,
        List.singleton_append]

theorem indices?_groups {indices : List (List Char)} (h : ∀ ds ∈ indices, IsIndex ds) :
    indices? none (groups indices) = some indices := by
  induction indices with
  | nil => rfl
  | cons ds indices ih =>
      obtain ⟨hds, hindices⟩ := List.forall_mem_cons.mp h
      have htext : groups (ds :: indices) = '[' :: (ds ++ ']' :: groups indices) := by simp [groups]
      rw [htext, indices?, if_pos rfl, indices?_close (by simpa using hds.1) hds.2, ih hindices]
      rfl

theorem head?_groups (indices : List (List Char)) :
    ∀ c ∈ (groups indices).head?, isNamePart c = false := by
  cases indices with
  | nil => simp [groups]
  | cons ds indices =>
      rintro c ⟨⟩
      decide

theorem indexed?_eq_some_iff {cs name : List Char} {indices : List (List Char)} :
    indexed? cs = some (name, indices) ↔ IsIndexed cs name indices := by
  constructor
  · intro h
    cases cs with
    | nil => cases h
    | cons c cs =>
        rw [indexed?] at h
        split at h
        next hstart =>
          obtain ⟨found, hfound, hparts⟩ := Option.map_eq_some_iff.mp h
          obtain ⟨rfl, rfl⟩ := Prod.mk.inj hparts
          obtain ⟨htext, hindex⟩ := groups_of_indices? (by simp) hfound
          refine ⟨?_, ⟨c, rfl, hstart⟩, ?_, hindex⟩
          · rw [← htext, openText, List.nil_append, List.cons_append, List.takeWhile_append_dropWhile]
          · refine List.forall_mem_cons.mpr ⟨isNamePart_of_isNameStart hstart, fun x hx => ?_⟩
            exact List.mem_takeWhile_imp hx
        next => cases h
  · rintro ⟨rfl, ⟨c, hc, hstart⟩, hpart, hindex⟩
    obtain ⟨name, rfl⟩ := List.head?_eq_some_iff.mp hc
    obtain ⟨htake, hdrop⟩ := Text.run_append (fun x hx => hpart x (List.mem_cons_of_mem c hx))
      (head?_groups indices)
    rw [List.cons_append, indexed?, if_pos hstart, htake, hdrop, indices?_groups hindex]
    rfl

/-! ### Line feeds -/

theorem IsIndexed.not_mem_feed {cs name : List Char} {indices : List (List Char)}
    (h : IsIndexed cs name indices) : '\n' ∉ cs := by
  rw [h.text, List.mem_append, not_or]
  refine ⟨fun hmem => absurd (h.part _ hmem) (by decide), fun hmem => ?_⟩
  obtain ⟨ds, hds, hmem⟩ := List.mem_flatMap.mp hmem
  rcases List.mem_cons.mp hmem with heq | hmem
  · exact absurd heq (by decide)
  rcases List.mem_append.mp hmem with hmem | hmem
  · exact absurd ((h.index ds hds).2 _ hmem) (by decide)
  · exact absurd (List.mem_singleton.mp hmem) (by decide)

theorem indexed?_of_feed {cs : List Char} (h : '\n' ∈ cs) : indexed? cs = none :=
  Option.eq_none_iff_forall_ne_some.mpr fun _ hparts =>
    (indexed?_eq_some_iff.mp hparts).not_mem_feed h

/-- Where the reader of groups stands while a group is open. -/
def stateOf : Option (List Char) → IndexState
  | none => .between
  | some [] => .opened
  | some (_ :: _) => .digits

theorem isIndices_eq (pending : Option (List Char)) (cs : List Char) :
    isIndices (stateOf pending) cs = (indices? pending (dropFinalBreak cs)).isSome := by
  induction cs generalizing pending with
  | nil =>
      cases pending with
      | none => rfl
      | some ds => cases ds <;> rfl
  | cons c cs ih =>
      by_cases hfeed : c = '\n' ∧ cs = []
      · obtain ⟨rfl, rfl⟩ := hfeed
        cases pending with
        | none => rfl
        | some ds => cases ds <;> rfl
      rw [dropFinalBreak_cons (Decidable.not_and_iff_not_or_not.mp hfeed)]
      match pending with
      | none =>
          rw [stateOf, isIndices, indices?]
          split
          · exact ih (some [])
          · simpa using hfeed
      | some [] =>
          rw [stateOf, isIndices, indices?, if_neg (by simp)]
          split
          next hdigit => rw [hdigit, Bool.true_and, ← ih, List.nil_append, stateOf]
          next hdigit => rw [Bool.eq_false_iff.mpr hdigit, Bool.false_and, Option.isSome_none]
      | some (d :: ds) =>
          rw [stateOf, isIndices, indices?]
          by_cases hclose : c = ']'
          · rw [if_pos hclose, if_pos ⟨hclose, by simp⟩, Option.isSome_map, ← ih, stateOf]
          rw [if_neg hclose, if_neg fun h => hclose h.1]
          split
          next hdigit => rw [hdigit, Bool.true_and, ← ih, List.cons_append, stateOf]
          next hdigit => rw [Bool.eq_false_iff.mpr hdigit, Bool.false_and, Option.isSome_none]

theorem dropWhile_dropFinalBreak (cs : List Char) :
    (dropFinalBreak cs).dropWhile isNamePart = dropFinalBreak (cs.dropWhile isNamePart) := by
  induction cs with
  | nil => rfl
  | cons c cs ih =>
      by_cases hfeed : c = '\n' ∧ cs = []
      · obtain ⟨rfl, rfl⟩ := hfeed
        rfl
      have hcons := dropFinalBreak_cons (Decidable.not_and_iff_not_or_not.mp hfeed)
      rw [hcons, List.dropWhile_cons, List.dropWhile_cons]
      split
      · exact ih
      · exact hcons.symm

/-- A segment is written as a name when it is indexed, up to a line feed at its end. -/
theorem isMember_eq (cs : List Char) : isMember cs = (indexed? (dropFinalBreak cs)).isSome := by
  cases cs with
  | nil => rfl
  | cons c cs =>
      by_cases hfeed : c = '\n' ∧ cs = []
      · obtain ⟨rfl, rfl⟩ := hfeed
        rfl
      rw [dropFinalBreak_cons (Decidable.not_and_iff_not_or_not.mp hfeed), isMember, indexed?]
      split
      next hstart =>
        rw [hstart, Bool.true_and, Option.isSome_map, dropWhile_dropFinalBreak]
        exact isIndices_eq none _
      next hstart => rw [Bool.eq_false_iff.mpr hstart, Bool.false_and, Option.isSome_none]

theorem indexed?_of_not_isMember {cs : List Char} (h : isMember cs = false) : indexed? cs = none := by
  rw [isMember_eq, Option.isSome_eq_false_iff, Option.isNone_iff_eq_none] at h
  by_cases hfeed : cs.getLast? = some '\n'
  · exact indexed?_of_feed (List.mem_of_getLast? hfeed)
  · rwa [dropFinalBreak, if_neg hfeed] at h

/-! ### Segments that are kept -/

/-- The number between brackets selects the property that is named by its digits. -/
def IsIndexKey (ds : List Char) : Prop := ∃ n, ds = Nat.toDigits 10 n ∧ Decimal.keyText n = ds

/-- The keys of the segment are selected. -/
structure Kept (cs : List Char) : Prop where
  /-- Word characters that may not stand in a name, and numbers that are not written as they are read,
  are lost. -/
  indexed : ∀ name indices, indexed? cs = some (name, indices) →
    (∀ c ∈ name, isIdentifierPart c = true) ∧ ∀ ds ∈ indices, IsIndexKey ds
  /-- A line feed behind an indexed segment is lost. -/
  feed : ∀ front, cs = front ++ ['\n'] → indexed? front = none
  /-- So are digits that do not make a number which is written as it is read. -/
  digits : cs ≠ [] → (∀ c ∈ cs, Text.isDigitLike c = true) → IsIndexKey cs

theorem isIdentifierStart_of_isNameStart {c : Char} (h : isNameStart c = true) :
    isIdentifierStart c = true := by
  have hhead : Text.nameStartRanges =
    (65, 90) :: (95, 95) :: (97, 122) :: Text.nameStartRanges.drop 3 := rfl
  rw [isIdentifierStart, Bool.or_eq_true, Bool.or_eq_true, decide_eq_true_eq, Text.isNameStart, hhead,
    Text.inRanges_cons, Text.inRanges_cons, Text.inRanges_cons]
  rcases (isNameStart_iff c).mp h with h | h | h | h
  · exact .inl (.inr (by omega))
  · exact .inl (.inr (by omega))
  · exact .inl (.inr (by omega))
  · exact .inl (.inl h)

theorem not_isDigitLike_of_isNameStart {c : Char} (h : isNameStart c = true) :
    ¬Text.isDigitLike c = true := by
  have hhead : Text.digitRanges = (48, 57) :: (178, 179) :: Text.digitRanges.drop 2 := rfl
  have hdollar : c = '$' ↔ c.toNat = 36 := (Char.toNat_inj (d := '$')).symm
  rw [isNameStart_iff, hdollar] at h
  rw [Text.isDigitLike, hhead, Text.inRanges_cons, Text.inRanges_cons]
  omega

theorem IsIndexed.not_startsAccess {cs name : List Char} {indices : List (List Char)}
    (h : IsIndexed cs name indices) : ∀ c ∈ name, startsAccess c = false := fun c hc =>
  not_startsAccess_of_class (p := isNamePart) (by decide) (by decide) (h.part c hc)

theorem follows_groups (indices : List (List Char)) : Follows (groups indices) := by
  cases indices with
  | nil => simp [Follows, groups]
  | cons ds indices => simp [Follows, groups, startsAccess]

section Access

variable {cs rest : List Char} {more : List (List Char)}

theorem selects_name_iff (hcs : ∀ c ∈ cs, startsAccess c = false) (hrest : Follows rest) :
    Selects ('.' :: (cs ++ rest)) (cs :: more) ↔ IsIdentifierName cs ∧ Selects rest more := by
  refine ⟨fun h => ?_, fun h => .name h.1 h.2⟩
  obtain ⟨more', hmore, hname, hselects⟩ := h.of_name hcs hrest
  obtain ⟨-, rfl⟩ := List.cons.inj hmore
  exact ⟨hname, hselects⟩

theorem selects_index_iff (hcs : ∀ c ∈ cs, Text.isDecimal c = true ∨ Text.isDigitLike c = true) :
    Selects ('[' :: (cs ++ ']' :: rest)) (cs :: more) ↔ IsIndexKey cs ∧ Selects rest more := by
  constructor
  · intro h
    have hclose : ']' ∉ cs := fun hmem => absurd (hcs _ hmem) (by decide)
    have hquote : cs.head? ≠ some '"' := fun hhead =>
      absurd (hcs _ (List.mem_of_mem_head? hhead)) (by decide)
    obtain ⟨n, more', hn, hkeys, hselects⟩ := h.of_index hclose hquote
    obtain ⟨hkey, rfl⟩ := List.cons.inj hkeys
    exact ⟨⟨n, hn, hkey.symm⟩, hselects⟩
  · rintro ⟨⟨n, hn, hkey⟩, h⟩
    have := Selects.index n h
    rwa [← hn, hkey] at this

theorem selects_quoted_iff :
    Selects ('[' :: (Json.quoteChars cs ++ ']' :: rest)) (cs :: more) ↔ Selects rest more := by
  refine ⟨fun h => ?_, .quoteChars cs⟩
  obtain ⟨more', hmore, hselects⟩ := h.of_quoted
  obtain ⟨-, rfl⟩ := List.cons.inj hmore
  exact hselects

theorem selects_groups_iff {indices : List (List Char)} (h : ∀ ds ∈ indices, IsIndex ds) :
    Selects (groups indices ++ rest) (indices ++ more) ↔
      (∀ ds ∈ indices, IsIndexKey ds) ∧ Selects rest more := by
  induction indices with
  | nil => simp [groups]
  | cons ds indices ih =>
      obtain ⟨hds, hindices⟩ := List.forall_mem_cons.mp h
      have htext : groups (ds :: indices) ++ rest = '[' :: (ds ++ ']' :: (groups indices ++ rest)) := by
        simp [groups]
      rw [htext, List.cons_append, selects_index_iff fun c hc => .inl (hds.2 c hc), ih hindices,
        List.forall_mem_cons, and_assoc]

theorem selects_indexed_iff {name : List Char} {indices : List (List Char)}
    (h : IsIndexed cs name indices) (hrest : Follows rest) :
    Selects ('.' :: (cs ++ rest)) (name :: (indices ++ more)) ↔
      ((∀ c ∈ name, isIdentifierPart c = true) ∧ ∀ ds ∈ indices, IsIndexKey ds) ∧
        Selects rest more := by
  have hname : IsIdentifierName name ↔ ∀ c ∈ name, isIdentifierPart c = true := by
    obtain ⟨c, hc, hstart⟩ := h.start
    exact ⟨fun hname => hname.2, fun hpart => ⟨⟨c, hc, isIdentifierStart_of_isNameStart hstart⟩, hpart⟩⟩
  rw [h.text, List.append_assoc,
    selects_name_iff h.not_startsAccess ((follows_groups indices).append hrest),
    selects_groups_iff h.index, hname, and_assoc]

theorem not_selects_feed {name : List Char} {indices : List (List Char)}
    (h : IsIndexed cs name indices) (hrest : Follows rest) :
    ¬Selects ('.' :: (cs ++ rest)) ((cs ++ ['\n']) :: more) := by
  intro hselects
  rw [h.text, List.append_assoc] at hselects
  obtain ⟨more', hkeys, -⟩ :=
    hselects.of_name h.not_startsAccess ((follows_groups indices).append hrest)
  have hlength := congrArg List.length (List.cons.inj hkeys).1
  simp only [List.length_append, List.length_singleton] at hlength
  omega

end Access

section Kept

variable {cs name : List Char} {indices : List (List Char)}

theorem kept_iff_of_indexed (h : IsIndexed cs name indices) :
    Kept cs ↔ (∀ c ∈ name, isIdentifierPart c = true) ∧ ∀ ds ∈ indices, IsIndexKey ds := by
  have hread := indexed?_eq_some_iff.mpr h
  constructor
  · exact fun hkept => hkept.indexed name indices hread
  · intro hparts
    refine ⟨fun name' indices' h' => ?_, fun front hfront => ?_, fun _ hdigits => ?_⟩
    · obtain ⟨rfl, rfl⟩ := Prod.mk.inj (Option.some.inj (hread.symm.trans h'))
      exact hparts
    · exact absurd (hfront ▸ List.mem_append_right front (by simp)) h.not_mem_feed
    · obtain ⟨c, hc, hstart⟩ := h.start
      have hmem : c ∈ cs := h.text ▸ List.mem_append_left _ (List.mem_of_mem_head? hc)
      exact absurd (hdigits c hmem) (not_isDigitLike_of_isNameStart hstart)

theorem kept_iff_of_not_isMember (hne : cs ≠ []) (h : isMember cs = false) :
    Kept cs ↔ ((∀ c ∈ cs, Text.isDigitLike c = true) → IsIndexKey cs) := by
  refine ⟨fun hkept => hkept.digits hne, fun hdigits => ⟨?_, ?_, fun _ => hdigits⟩⟩
  · rw [indexed?_of_not_isMember h]
    simp
  · rintro front rfl
    rw [isMember_eq, Option.isSome_eq_false_iff, Option.isNone_iff_eq_none] at h
    simpa [dropFinalBreak] using h

end Kept

/-! ### Paths -/

theorem follows_renderSegment (cs : List Char) : Follows (renderSegment cs) := by
  rw [renderSegment]
  split
  · simp [Follows]
  split
  · simp [Follows, startsAccess]
  split <;> simp [Follows, startsAccess]

theorem selects_member_iff {cs rest : List Char} {more : List (List Char)} (hrest : Follows rest)
    (hmember : isMember cs = true) :
    Selects ('.' :: (dropFinalBreak cs ++ rest)) (keys cs ++ more) ↔ Kept cs ∧ Selects rest more := by
  rw [isMember_eq, Option.isSome_iff_exists] at hmember
  obtain ⟨⟨name, indices⟩, hread⟩ := hmember
  have hindexed := indexed?_eq_some_iff.mp hread
  by_cases hfeed : cs.getLast? = some '\n'
  · obtain ⟨front, rfl⟩ := List.getLast?_eq_some_iff.mp hfeed
    have hdrop : dropFinalBreak (front ++ ['\n']) = front := by simp [dropFinalBreak]
    rw [hdrop] at hindexed hread ⊢
    have hkeys : keys (front ++ ['\n']) = [front ++ ['\n']] := by
      rw [keys, indexed?_of_feed (by simp)]
      simp
    rw [hkeys]
    refine iff_of_false (not_selects_feed hindexed hrest) fun h => ?_
    rw [h.1.feed front rfl] at hread
    cases hread
  · rw [dropFinalBreak, if_neg hfeed] at hread hindexed ⊢
    rw [keys, hread, List.cons_append, selects_indexed_iff hindexed hrest,
      kept_iff_of_indexed hindexed]

/-- The access that a segment is written as selects the keys of the segment exactly when it is kept. -/
theorem renderSegment_selects_iff {cs rest : List Char} {more : List (List Char)}
    (hrest : Follows rest) :
    Selects (renderSegment cs ++ rest) (keys cs ++ more) ↔ Kept cs ∧ Selects rest more := by
  rcases eq_or_ne cs [] with rfl | hne
  · have hkept : Kept [] := ⟨by simp [indexed?], by simp, fun h => absurd rfl h⟩
    simp [renderSegment, keys, indexed?, hkept]
  rw [renderSegment, if_neg (by simpa using hne)]
  cases hmember : isMember cs with
  | true => exact selects_member_iff hrest hmember
  | false =>
      have hkeys : keys cs = [cs] := by
        rw [keys, indexed?_of_not_isMember hmember]
        simp [hne]
      rw [if_neg Bool.false_ne_true, hkeys, kept_iff_of_not_isMember hne hmember, List.singleton_append]
      split
      next hdigits =>
        have hall := List.all_eq_true.mp hdigits
        rw [List.cons_append, List.append_assoc, List.singleton_append,
          selects_index_iff fun c hc => .inr (hall c hc)]
        rw [forall_prop_of_true hall]
      next hdigits =>
        rw [List.cons_append, List.append_assoc, List.singleton_append, selects_quoted_iff]
        exact (and_iff_right fun hall => absurd (List.all_eq_true.mpr hall) hdigits).symm

theorem follows_render (segments : List String) : Follows (render segments).toList := by
  rw [render, String.toList_ofList]
  induction segments with
  | nil => simp [Follows]
  | cons s segments ih => exact (follows_renderSegment s.toList).append ih

/-- What a path is written as selects the keys of its segments, one after the other, exactly when every
segment is kept. -/
theorem render_selects_iff (segments : List String) :
    (Selects (render segments).toList (segments.flatMap fun s => keys s.toList) ↔
      ∀ s ∈ segments, Kept s.toList) ∧
    ∀ n < 2 ^ 53, IsIndexKey (Nat.toDigits 10 n) := by
  refine ⟨?_, fun n hn => ⟨n, rfl, Decimal.keyText_eq_toDigits hn⟩⟩
  induction segments with
  | nil => simp [render, Selects.nil]
  | cons s segments ih =>
      have htext : (render (s :: segments)).toList =
          renderSegment s.toList ++ (render segments).toList := by
        simp [render]
      rw [htext, List.flatMap_cons, renderSegment_selects_iff (follows_render segments), ih,
        List.forall_mem_cons]

theorem render_selects_iff_assorted :
    Selects (render ["items[12]", "", "user-id"]).toList
      ["items".toList, "12".toList, "user-id".toList] := by
  have hitems : indexed? "items[12]".toList = some ("items".toList, ["12".toList]) := by decide
  have hkeys : (["items[12]", "", "user-id"].flatMap fun s => keys s.toList) =
      ["items".toList, "12".toList, "user-id".toList] := by
    decide
  rw [← hkeys, (render_selects_iff _).1]
  intro s hs
  simp only [List.mem_cons, List.not_mem_nil, or_false] at hs
  rcases hs with rfl | rfl | rfl
  · rw [kept_iff_of_indexed (indexed?_eq_some_iff.mp hitems)]
    have hdigits : "12".toList = Nat.toDigits 10 12 := by decide
    refine ⟨Text.forall_mem_of_all (by decide), List.forall_mem_singleton.mpr ?_⟩
    rw [hdigits]
    exact (render_selects_iff []).2 12 (by norm_num)
  · exact ⟨by simp [indexed?], by simp, by simp⟩
  · rw [kept_iff_of_not_isMember (by decide) (by decide)]
    exact fun hdigits => absurd (hdigits 'u' (by decide)) (by decide)

/-- A line feed behind a name is dropped, and the property without it is read. -/
theorem not_selects_lineFeed :
    (∀ ks, Selects (render ["body\n"]).toList ks → ks = ["body".toList]) ∧
      ¬Selects (render ["body\n"]).toList (["body\n"].flatMap fun s => keys s.toList) := by
  have hname : IsIdentifierName "body".toList :=
    ⟨⟨'b', rfl, by decide⟩, Text.forall_mem_of_all (by decide)⟩
  have hread : Selects (render ["body\n"]).toList ["body".toList] := .name hname .nil
  refine ⟨fun ks h => h.unique hread, fun h => ?_⟩
  exact absurd (h.unique hread) (by decide)

end DurableFlow.Path
