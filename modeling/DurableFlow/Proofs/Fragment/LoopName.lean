import DurableFlow.Proofs.Compile.Escape
import DurableFlow.Proofs.Expression.Accessor
import DurableFlow.Proofs.Step.Identifier

/-!
The variables of a loop. The name of a variable is checked when the code of the loop is made, and a line
feed at its end passes the check. Main statement: the names that a loop binds are distinct, and each of
them can be given to a variable exactly when it does not end with a line feed.
-/

namespace DurableFlow.Fragment

/-- A name that the code of a loop can give to a variable of its own. -/
structure IsLoopName (name : String) : Prop where
  identifier : Step.IsIdentifier name.toList
  not_reserved : name ∉ Step.reservedWords
  not_local : name ∉ loopLocals

/-- The code binds the two names in a loop, for the items one after the other or for all at once. -/
def BindsInLoop (item index : String) (b : Body) : Prop :=
  ∃ lines, b = .durable (Code.texts lines) ∧
    ((opens ("for (let " ++ index ++ " = 0; " ++ index ++ " < items.length; " ++ index ++ "++)") ∈ lines ∧
        "  const " ++ item ++ " = items[" ++ index ++ "];" ∈ lines) ∨
      ∃ mapped, "const settled = await Promise.allSettled(items.map(async (" ++ item ++ ", " ++ index ++
        ") => " ++ mapped ++ "));" ∈ lines)

/-! ### The check of a name -/

theorem dropWhile_word_iff (cs : List Char) :
    cs.dropWhile Text.isAsciiWord = [] ∨ cs.dropWhile Text.isAsciiWord = ['\n'] ↔
      ∀ c ∈ Path.dropFinalBreak cs, Text.isAsciiWord c = true := by
  induction cs with
  | nil => simp [Path.dropFinalBreak]
  | cons c cs ih =>
      by_cases hword : Text.isAsciiWord c = true
      · have hfeed : c ≠ '\n' := by
          rintro rfl
          exact absurd hword (by decide)
        rw [List.dropWhile_cons_of_pos hword, ih, Path.dropFinalBreak_cons (.inl hfeed),
          List.forall_mem_cons, and_iff_right hword]
      rw [List.dropWhile_cons_of_neg hword]
      by_cases hfeed : c = '\n' ∧ cs = []
      · obtain ⟨rfl, rfl⟩ := hfeed
        simp [Path.dropFinalBreak]
      rw [Path.dropFinalBreak_cons (Decidable.not_and_iff_not_or_not.mp hfeed)]
      exact iff_of_false (by simpa using hfeed) fun h => hword (h c List.mem_cons_self)

theorem isVariable_iff {s : String} :
    isVariable s = true ↔ Step.IsIdentifier (Path.dropFinalBreak s.toList) := by
  rw [isVariable]
  cases s.toList with
  | nil => simp [Path.dropFinalBreak, Step.IsIdentifier]
  | cons c cs =>
      have hstart : (Text.isAsciiLetter c || decide (c = '_')) = true ↔
          Text.isAsciiWord c = true ∧ ¬Text.isAsciiDigit c = true := by
        have hunderscore : c = '_' ↔ c.toNat = 95 := (Char.toNat_inj (d := '_')).symm
        rw [Bool.or_eq_true, decide_eq_true_eq, hunderscore, Text.isAsciiLetter_iff,
          Text.isAsciiWord_iff, Text.isAsciiDigit_iff]
        omega
      rw [Bool.and_eq_true, hstart]
      trans (Text.isAsciiWord c = true ∧ ¬Text.isAsciiDigit c = true) ∧
        ∀ c ∈ Path.dropFinalBreak cs, Text.isAsciiWord c = true
      · rw [← dropWhile_word_iff]
        exact and_congr_right' (by split <;> simp_all)
      by_cases hfeed : c = '\n'
      · subst hfeed
        refine iff_of_false (fun h => absurd h.1.1 (by decide)) fun h => ?_
        cases cs with
        | nil => simpa [Path.dropFinalBreak] using h.2
        | cons d cs =>
            rw [Path.dropFinalBreak_cons (.inr (by simp))] at h
            exact absurd (h.1 _ List.mem_cons_self) (by decide)
      rw [Path.dropFinalBreak_cons (.inl hfeed), Step.IsIdentifier, List.forall_mem_cons]
      simp [and_assoc, and_comm]

variable {n : Node} {ctx : Context} {key default name : String}

theorem loopVariable_eq_ok_iff :
    loopVariable n key default = .ok name ↔ (n.setting key).orElse (.str default) = .str name ∧
      Step.IsIdentifier (Path.dropFinalBreak name.toList) ∧ name ∉ Step.reservedWords ∧
        name ∉ loopLocals := by
  rw [← isVariable_iff, loopVariable]
  split
  next name' hname =>
    simp only [Bool.or_eq_true, Bool.not_eq_true', decide_eq_true_eq]
    rw [hname, Json.str.injEq]
    split
    next hrefused =>
      refine iff_of_false (by simp) ?_
      rintro ⟨rfl, hvariable, hreserved, hlocal⟩
      simp [hvariable, hreserved, hlocal] at hrefused
    next hfine =>
      simp only [not_or, Bool.not_eq_false] at hfine
      rw [Except.ok.injEq]
      refine ⟨?_, And.left⟩
      rintro rfl
      exact ⟨rfl, hfine.1.1, hfine.1.2, hfine.2⟩
  next hother =>
    refine iff_of_false (by simp) fun h => hother name h.1

/-- What passes the check is the name of a variable unless a line feed stands at its end. -/
theorem isLoopName_iff (h : loopVariable n key default = .ok name) :
    IsLoopName name ↔ name.toList.getLast? ≠ some '\n' := by
  obtain ⟨-, hidentifier, hreserved, hlocal⟩ := loopVariable_eq_ok_iff.mp h
  constructor
  · intro hname hfeed
    exact absurd (hname.identifier.1 _ (List.mem_of_getLast? hfeed)) (by decide)
  · intro hfeed
    rw [Path.dropFinalBreak, if_neg hfeed] at hidentifier
    exact ⟨hidentifier, hreserved, hlocal⟩

/-! ### The names of a loop -/

theorem forEach_eq_ok {b : Body} (h : (forEach n ctx).result = .ok b) :
    ∃ item index, loopVariable n "itemName" "item" = .ok item ∧
      loopVariable n "indexName" "index" = .ok index ∧ item ≠ index ∧ BindsInLoop item index b := by
  rw [forEach] at h
  obtain ⟨item, hitem, h⟩ := Outcome.result_bind_eq_ok h
  obtain ⟨index, hindex, h⟩ := Outcome.result_bind_eq_ok h
  refine ⟨item, index, hitem, hindex, ?_⟩
  dsimp only at h
  split at h
  next => cases h
  next hne =>
    refine ⟨hne, ?_⟩
    obtain ⟨source, -, h⟩ := Outcome.result_bind_eq_ok h
    obtain ⟨limit, -, h⟩ := Outcome.result_bind_eq_ok h
    obtain rfl := Except.ok.inj h
    refine ⟨_, rfl, ?_⟩
    split
    · exact .inr ⟨_, List.mem_append_left _ (List.mem_append_right _ List.mem_cons_self)⟩
    · refine .inl ⟨?_, ?_⟩ <;> refine List.mem_append_left _ (List.mem_append_right _ ?_)
      · exact List.mem_cons_self
      · exact List.mem_cons_of_mem _ List.mem_cons_self

/-- The names that a loop binds are those of the configuration, or the usual ones. They are distinct
identifiers up to a line feed at the end, and can be given to variables exactly when there is none. -/
theorem forEach_names_iff {b : Body} (h : (forEach n ctx).result = .ok b) :
    ∃ item index, (n.setting "itemName").orElse (.str "item") = .str item ∧
      (n.setting "indexName").orElse (.str "index") = .str index ∧ BindsInLoop item index b ∧
        item ≠ index ∧ ∀ name ∈ [item, index],
          Step.IsIdentifier (Path.dropFinalBreak name.toList) ∧
            (IsLoopName name ↔ name.toList.getLast? ≠ some '\n') := by
  obtain ⟨item, index, hitem, hindex, hne, hbinds⟩ := forEach_eq_ok h
  have hitem' := loopVariable_eq_ok_iff.mp hitem
  have hindex' := loopVariable_eq_ok_iff.mp hindex
  refine ⟨item, index, hitem'.1, hindex'.1, hbinds, hne, ?_⟩
  rw [List.forall_mem_cons, List.forall_mem_singleton]
  exact ⟨⟨hitem'.2.1, isLoopName_iff hitem⟩, hindex'.2.1, isLoopName_iff hindex⟩

def loopOver (itemName : String) : Node :=
  { id := "l", type := "for-each", data := { config := [("itemName", .str itemName)] } }

def alone (n : Node) : Context := .ofGraph { nodes := [n] } .builtin {}

theorem forEach_names_iff_user :
    ∃ b, (forEach (loopOver "user") (alone (loopOver "user"))).result = .ok b ∧
      BindsInLoop "user" "index" b ∧ IsLoopName "user" ∧ IsLoopName "index" := by
  have hok : (forEach (loopOver "user") (alone (loopOver "user"))).result = .ok _ := rfl
  obtain ⟨item, index, hitem, hindex, hbinds, -, hnames⟩ := forEach_names_iff hok
  obtain rfl : "user" = item := Json.str.inj hitem
  obtain rfl : "index" = index := Json.str.inj hindex
  rw [List.forall_mem_cons, List.forall_mem_singleton] at hnames
  exact ⟨_, hok, hbinds, hnames.1.2.mpr (by decide), hnames.2.2.mpr (by decide)⟩

/-- The schema and the check both let a reserved word pass with a line feed behind it. -/
theorem not_isLoopName_lineFeed :
    (loopOver "class\n").IsConfigured ∧
      ∃ b, (forEach (loopOver "class\n") (alone (loopOver "class\n"))).result = .ok b ∧
        BindsInLoop "class\n" "index" b ∧ ¬IsLoopName "class\n" := by
  have hok : (forEach (loopOver "class\n") (alone (loopOver "class\n"))).result = .ok _ := rfl
  refine ⟨Node.isConfigured_of_check (by decide +kernel), _, hok, ?_, fun h => ?_⟩
  · obtain ⟨item, index, hitem, hindex, -, hbinds⟩ := forEach_eq_ok hok
    obtain rfl : "class\n" = item := Json.str.inj (loopVariable_eq_ok_iff.mp hitem).1
    obtain rfl : "index" = index := Json.str.inj (loopVariable_eq_ok_iff.mp hindex).1
    exact hbinds
  · exact absurd (h.identifier.1 '\n' (by decide)) (by decide)

end DurableFlow.Fragment
