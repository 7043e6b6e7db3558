import DurableFlow.Fragment.Transform
import DurableFlow.Proofs.Expression.Accessor
import DurableFlow.Proofs.Module.Scan

/-!
The replacement of the free input names, step by step. It changes a text exactly when a free name
stands in it. It knows nothing of quotes, so a free name inside a quoted text is replaced as well;
what it makes of a quoted text, or of an accessor, does not depend on what stands around it.
-/

namespace DurableFlow

theorem Text.eq_append_of_after? {start cs rest : List Char} (h : after? start cs = some rest) :
    cs = start ++ rest := by
  induction start generalizing cs with
  | nil =>
      rw [after?_nil] at h
      exact Option.some.inj h
  | cons a start ih =>
      cases cs with
      | nil => cases h
      | cons c cs =>
          rw [after?] at h
          split at h
          next heq => rw [ih h, heq, List.cons_append]
          next => cases h

namespace Fragment

/-! ### The steps of the replacement -/

def inputNames : List (List Char) := ["input".toList, "data".toList]

def replacement : List Char := ['i', 'n', 'p', 'u', 't', 'D', 'a', 't', 'a']

theorem toList_inputData : "inputData".toList = replacement := rfl

/-- A free input name stands somewhere in the text. -/
def HoldsFreeName (cs : List Char) : Prop :=
  ∃ front, ∃ name ∈ inputNames, ∃ rest, cs = front ++ (name ++ rest) ∧
    mayStartName front.reverse = true ∧ endsWord rest = true

/-- The length of a name that starts here and ends as a word. -/
def wordAt? (name cs : List Char) : Option Nat :=
  match Text.after? name cs with
  | some rest => if endsWord rest then some name.length else none
  | none => none

theorem wordAt?_eq_some_iff {name cs : List Char} {size : Nat} :
    wordAt? name cs = some size ↔
      ∃ rest, cs = name ++ rest ∧ endsWord rest = true ∧ size = name.length := by
  constructor
  · intro h
    rw [wordAt?] at h
    split at h
    next rest hafter =>
      split at h
      next hend => exact ⟨rest, Text.eq_append_of_after? hafter, hend, (Option.some.inj h).symm⟩
      next => cases h
    next => cases h
  · rintro ⟨rest, rfl, hend, rfl⟩
    rw [wordAt?, Text.after?_append]
    exact if_pos hend

theorem freeName?_eq (before cs : List Char) : freeName? before cs =
    if mayStartName before then wordAt? "input".toList cs <|> wordAt? "data".toList cs else none :=
  rfl

theorem freeName?_eq_some {before cs : List Char} {size : Nat}
    (h : freeName? before cs = some size) :
    mayStartName before = true ∧ ∃ name ∈ inputNames, ∃ rest, cs = name ++ rest ∧
      endsWord rest = true ∧ size = name.length := by
  rw [freeName?_eq] at h
  split at h
  next hbefore =>
    refine ⟨hbefore, ?_⟩
    rw [Option.orElse_eq_orElse, Option.orElse_eq_or] at h
    rcases Option.or_eq_some_iff.mp h with h | ⟨-, h⟩
    · exact ⟨_, List.mem_cons_self, wordAt?_eq_some_iff.mp h⟩
    · exact ⟨_, List.mem_cons_of_mem _ List.mem_cons_self, wordAt?_eq_some_iff.mp h⟩
  next => cases h

theorem freeName?_name {before name rest : List Char} (hbefore : mayStartName before = true)
    (hname : name ∈ inputNames) (hend : endsWord rest = true) :
    freeName? before (name ++ rest) = some name.length := by
  have hword : wordAt? name (name ++ rest) = some name.length :=
    wordAt?_eq_some_iff.mpr ⟨rest, rfl, hend, rfl⟩
  rw [freeName?_eq, if_pos hbefore]
  rcases List.mem_cons.mp hname with rfl | hname
  · rw [hword]
    rfl
  · obtain rfl := List.mem_singleton.mp hname
    rw [hword]
    rfl

/-- One replacement after the other, with the characters between them. -/
inductive Renames : (before cs out : List Char) → Prop where
  | nil {before : List Char} : Renames before [] []
  | keep {before cs out : List Char} {c : Char} (h : freeName? before (c :: cs) = none)
      (hrest : Renames (c :: before) cs out) : Renames before (c :: cs) (c :: out)
  | name {before name rest out : List Char} (hbefore : mayStartName before = true)
      (hname : name ∈ inputNames) (hend : endsWord rest = true)
      (hrest : Renames (name.reverse ++ before) rest out) :
      Renames before (name ++ rest) (replacement ++ out)

theorem renameFrom_skip (before front rest : List Char) :
    renameFrom before front.length (front ++ rest) =
      renameFrom (front.reverse ++ before) 0 rest := by
  induction front generalizing before with
  | nil => rfl
  | cons c front ih => rw [List.length_cons, List.cons_append, renameFrom, ih]; simp

theorem renameFrom_keep {before cs : List Char} {c : Char} (h : freeName? before (c :: cs) = none) :
    renameFrom before 0 (c :: cs) = c :: renameFrom (c :: before) 0 cs := by
  rw [renameFrom]
  simp only [h]

theorem renameFrom_name {before name rest : List Char} (hbefore : mayStartName before = true)
    (hname : name ∈ inputNames) (hend : endsWord rest = true) :
    renameFrom before 0 (name ++ rest) =
      replacement ++ renameFrom (name.reverse ++ before) 0 rest := by
  have hfree := freeName?_name hbefore hname hend
  obtain ⟨c, more, rfl⟩ : ∃ c more, name = c :: more := by
    rcases List.mem_cons.mp hname with rfl | hname
    · exact ⟨'i', _, rfl⟩
    · exact ⟨'d', _, List.mem_singleton.mp hname⟩
  rw [List.cons_append] at hfree
  rw [List.cons_append, renameFrom]
  simp only [hfree, List.length_cons, Nat.add_sub_cancel, renameFrom_skip, toList_inputData,
    List.reverse_cons, List.append_assoc, List.singleton_append]

theorem renames_renameFrom (before cs : List Char) :
    Renames before cs (renameFrom before 0 cs) := by
  -- A replacement goes past the whole name, so the induction is on the length.
  induction hlength : cs.length using Nat.strong_induction_on generalizing before cs with
  | h n ih =>
      subst hlength
      cases cs with
      | nil => exact .nil
      | cons c cs =>
          cases hfree : freeName? before (c :: cs) with
          | none =>
              rw [renameFrom_keep hfree]
              exact .keep hfree (ih _ (Nat.lt_succ_self cs.length) _ cs rfl)
          | some size =>
              obtain ⟨hbefore, name, hname, rest, hcs, hend, -⟩ := freeName?_eq_some hfree
              have hless : rest.length < (c :: cs).length := by
                have hpos : ∀ name ∈ inputNames, 0 < name.length := by decide
                rw [hcs, List.length_append]
                exact Nat.lt_add_of_pos_left (hpos name hname)
              rw [hcs, renameFrom_name hbefore hname hend]
              exact .name hbefore hname hend (ih _ hless _ rest rfl)

theorem Renames.eq_renameFrom {before cs out : List Char} (h : Renames before cs out) :
    out = renameFrom before 0 cs := by
  induction h with
  | nil => rfl
  | keep h _ ih => rw [renameFrom_keep h, ← ih]
  | name hbefore hname hend _ ih => rw [renameFrom_name hbefore hname hend, ← ih]

theorem Renames.length_le {before cs out : List Char} (h : Renames before cs out) :
    cs.length ≤ out.length := by
  have hnames : ∀ name ∈ inputNames, name.length ≤ replacement.length := by decide
  induction h with
  | nil => exact Nat.le_refl _
  | keep _ _ ih => exact Nat.succ_le_succ ih
  | name _ hname _ _ ih =>
      rw [List.length_append, List.length_append]
      exact Nat.add_le_add (hnames _ hname) ih

theorem renameFrom_eq_self_iff (before cs : List Char) :
    renameFrom before 0 cs = cs ↔
      ∀ front rest, cs = front ++ rest → freeName? (front.reverse ++ before) rest = none := by
  have hnames : ∀ name ∈ inputNames, name.length < replacement.length := by decide
  induction cs generalizing before with
  | nil =>
      refine iff_of_true rfl fun front rest h => ?_
      obtain ⟨rfl, rfl⟩ := List.append_eq_nil_iff.mp h.symm
      rw [freeName?_eq]
      split <;> rfl
  | cons c cs ih =>
      cases hfree : freeName? before (c :: cs) with
      | none =>
          rw [renameFrom_keep hfree, List.cons_inj_right]
          refine (ih (c :: before)).trans ⟨fun h front rest heq => ?_, fun h front rest heq => ?_⟩
          · cases front with
            | nil =>
                rw [List.nil_append] at heq
                exact heq ▸ hfree
            | cons d front =>
                obtain ⟨rfl, htail⟩ := List.cons.inj heq
                simpa using h front rest htail
          · simpa using h (c :: front) rest (by rw [heq, List.cons_append])
      | some size =>
          refine iff_of_false (fun h => ?_) fun h => ?_
          · obtain ⟨hbefore, name, hname, rest, hcs, hend, -⟩ := freeName?_eq_some hfree
            have hrest := (renames_renameFrom (name.reverse ++ before) rest).length_le
            have hlength := congrArg List.length h
            rw [hcs, renameFrom_name hbefore hname hend, List.length_append,
              List.length_append] at hlength
            have := hnames name hname
            omega
          · exact absurd (hfree.symm.trans (h [] (c :: cs) rfl)) (Option.some_ne_none size)

theorem renameInputs_eq_self_iff (cs : List Char) : renameInputs cs = cs ↔ ¬HoldsFreeName cs := by
  rw [renameInputs, renameFrom_eq_self_iff]
  constructor
  · rintro h ⟨front, name, hname, rest, rfl, hbefore, hend⟩
    have hfree := h front (name ++ rest) rfl
    rw [List.append_nil, freeName?_name hbefore hname hend] at hfree
    cases hfree
  · intro h front rest hcs
    refine Option.eq_none_iff_forall_ne_some.mpr fun size hfree => h ?_
    rw [List.append_nil] at hfree
    obtain ⟨hbefore, name, hname, behind, rfl, hend, -⟩ := freeName?_eq_some hfree
    exact ⟨front, name, hname, behind, hcs, hbefore, hend⟩

/-! ### Cutting a text in two -/

def nameLetters : List Char := inputNames.flatten

/-- A name that starts within a text, and is free there, is free with more text behind it. -/
theorem freeName?_eq_none_of_append {before t rest : List Char} (hend : endsWord rest = true)
    (h : freeName? before (t ++ rest) = none) : freeName? before t = none := by
  refine Option.eq_none_iff_forall_ne_some.mpr fun size hfree => ?_
  obtain ⟨hbefore, name, hname, r, rfl, hr, -⟩ := freeName?_eq_some hfree
  have hmore : endsWord (r ++ rest) = true := by
    cases r with
    | nil => exact hend
    | cons x r => exact hr
  rw [List.append_assoc, freeName?_name hbefore hname hmore] at h
  cases h

/-- The second text comes from the first: some of the input names in it are replaced, and blanks are
put in. -/
inductive Rewritten : List Char → List Char → Prop where
  | nil : Rewritten [] []
  | keep (c : Char) {t u : List Char} (h : Rewritten t u) : Rewritten (c :: t) (c :: u)
  | name {name t u : List Char} (hname : name ∈ inputNames) (h : Rewritten t u) :
      Rewritten (name ++ t) (replacement ++ u)
  | blank {c : Char} {t u : List Char} (hc : Text.isBlank c = true) (h : Rewritten t u) :
      Rewritten t (c :: u)

theorem Renames.rewritten {before cs out : List Char} (h : Renames before cs out) :
    Rewritten cs out := by
  induction h with
  | nil => exact .nil
  | keep _ _ ih => exact .keep _ ih
  | name _ hname _ _ ih => exact .name hname ih

/-- A text may be cut before a character that no name has: the replacement goes on behind it as it
stands. If that character does not go on with a word either, the front is replaced by itself. -/
theorem Renames.append {before t rest out : List Char} (h : Renames before (t ++ rest) out)
    (hrest : ∀ c ∈ rest.head?, c ∉ nameLetters) :
    ∃ u out', out = u ++ out' ∧ Renames (t.reverse ++ before) rest out' ∧ Rewritten t u ∧
      (endsWord rest = true → Renames before t u) := by
  generalize hcs : t ++ rest = cs at h
  induction h generalizing t with
  | nil =>
      obtain ⟨rfl, rfl⟩ := List.append_eq_nil_iff.mp hcs
      exact ⟨[], [], rfl, .nil, .nil, fun _ => .nil⟩
  | @keep before cs out c hfree hbehind ih =>
      cases t with
      | nil =>
          refine ⟨[], c :: out, rfl, ?_, .nil, fun _ => .nil⟩
          rw [List.nil_append] at hcs
          exact hcs ▸ .keep hfree hbehind
      | cons d t =>
          obtain ⟨rfl, rfl⟩ := List.cons.inj hcs
          obtain ⟨u, out', rfl, hout, hu, hexact⟩ := ih rfl
          refine ⟨d :: u, out', rfl, by simpa using hout, .keep d hu, fun hend => ?_⟩
          exact .keep (freeName?_eq_none_of_append hend hfree) (hexact hend)
  | @name before name r out hbefore hname hend hbehind ih =>
      obtain ⟨a, rfl, rfl⟩ : ∃ a, t = name ++ a ∧ r = a ++ rest := by
        rcases List.append_eq_append_iff.mp hcs with ⟨b, rfl, hb⟩ | ⟨a, ht, hr⟩
        · cases b with
          | nil => exact ⟨[], by simp, by simpa using hb.symm⟩
          | cons x b =>
              have hx : x ∈ nameLetters :=
                List.mem_flatten.mpr ⟨_, hname, List.mem_append_right t List.mem_cons_self⟩
              exact absurd hx (hrest x (by rw [hb]; rfl))
        · exact ⟨a, ht, hr⟩
      obtain ⟨u, out', rfl, hout, hu, hexact⟩ := ih rfl
      refine ⟨replacement ++ u, out', by rw [List.append_assoc], by simpa using hout,
        .name hname hu, fun hrestEnd => .name hbefore hname ?_ (hexact hrestEnd)⟩
      cases a with
      | nil => rfl
      | cons x a => exact hend

/-! ### What stands around a text -/

/-- The same names may start behind both, whatever stands between. -/
def SameBefore (before before' : List Char) : Prop :=
  ∀ front, mayStartName (front ++ before) = mayStartName (front ++ before')

theorem SameBefore.append {before before' : List Char} (h : SameBefore before before')
    (front : List Char) : SameBefore (front ++ before) (front ++ before') := by
  intro more
  rw [← List.append_assoc, ← List.append_assoc]
  exact h (more ++ front)

theorem mayStartName_cons (c : Char) (rest : List Char) : mayStartName (c :: rest) =
    if c = '.' then rest.take 2 == ['.', '.']
    else !(Text.isWord c || c = '$' || c = '"' || c = '\'') := by
  rw [mayStartName.eq_def]
  split
  next h => cases h
  next h =>
    obtain ⟨rfl, rfl⟩ := List.cons.inj h
    rw [if_pos rfl]
  next hpoint h =>
    obtain ⟨rfl, rfl⟩ := List.cons.inj h
    rw [if_neg hpoint]

/-- Nothing before a character other than a point matters to what follows it. -/
theorem sameBefore_cons {c : Char} (hc : c ≠ '.') (before before' : List Char) :
    SameBefore (c :: before) (c :: before') := by
  intro front
  cases front with
  | nil =>
      rw [List.nil_append, List.nil_append, mayStartName_cons, mayStartName_cons, if_neg hc,
        if_neg hc]
  | cons x front =>
      have hpoint : (c == '.') = false := beq_false_of_ne hc
      rw [List.cons_append, List.cons_append, mayStartName_cons, mayStartName_cons]
      match front with
      | [] => simp [hpoint]
      | [y] => simp [hpoint]
      | y :: z :: front => simp

theorem freeName?_congr {before before' : List Char} (h : SameBefore before before')
    (cs : List Char) : freeName? before cs = freeName? before' cs := by
  have hstart : mayStartName before = mayStartName before' := h []
  rw [freeName?_eq, freeName?_eq, hstart]

theorem renameFrom_congr {before before' : List Char} (h : SameBefore before before')
    (cs : List Char) : renameFrom before 0 cs = renameFrom before' 0 cs := by
  have hrenames := renames_renameFrom before cs
  generalize renameFrom before 0 cs = out at hrenames
  induction hrenames generalizing before' with
  | nil => rfl
  | @keep before cs out c hfree _ ih =>
      rw [freeName?_congr h] at hfree
      rw [renameFrom_keep hfree, ih (h.append [c])]
      rfl
  | name hbefore hname hend _ ih =>
      have hstart : mayStartName _ = mayStartName before' := h []
      rw [renameFrom_name (hstart ▸ hbefore) hname hend, ih (h.append _)]

/-- The replacement in a sealed text is the same whatever stands around the text, a point before it
aside, and it goes on behind the text as it would without it. -/
def Sealed (x : List Char) : Prop :=
  ∀ before rest, before.head? ≠ some '.' →
    renameFrom before 0 (x ++ rest) = renameInputs x ++ renameFrom (x.reverse ++ before) 0 rest

def Untouched (x : List Char) : Prop :=
  ∀ before rest, before.head? ≠ some '.' →
    renameFrom before 0 (x ++ rest) = x ++ renameFrom (x.reverse ++ before) 0 rest

theorem Untouched.sealed {x : List Char} (h : Untouched x) : Sealed x := by
  have hself : renameInputs x = x := by
    have hx := h [] [] (by simp)
    rwa [List.append_nil, renameFrom, List.append_nil] at hx
  intro before rest hbefore
  rw [h before rest hbefore, hself]

theorem Sealed.renameFrom_eq {x before : List Char} (h : Sealed x)
    (hbefore : before.head? ≠ some '.') : renameFrom before 0 x = renameInputs x := by
  have hx := h before [] hbefore
  rwa [List.append_nil, renameFrom, List.append_nil] at hx

theorem head?_reverse_append {a before : List Char} (ha : a.getLast? ≠ some '.')
    (hbefore : before.head? ≠ some '.') : (a.reverse ++ before).head? ≠ some '.' := by
  cases a using List.reverseRecOn with
  | nil => exact hbefore
  | append_singleton a x => simpa using ha

theorem Sealed.append {a b : List Char} (ha : Sealed a) (hb : Sealed b)
    (hlast : a.getLast? ≠ some '.') : Sealed (a ++ b) := by
  have hjoin : renameInputs (a ++ b) = renameInputs a ++ renameInputs b := by
    rw [renameInputs, ha [] b (by simp), hb.renameFrom_eq (head?_reverse_append hlast (by simp))]
  intro before rest hbefore
  rw [List.append_assoc, ha before _ hbefore, hb _ rest (head?_reverse_append hlast hbefore), hjoin]
  simp

/-! ### Quoted texts -/

theorem freeName?_of_head {c : Char} (h : c ≠ 'i' ∧ c ≠ 'd') (before cs : List Char) :
    freeName? before (c :: cs) = none := by
  refine Option.eq_none_iff_forall_ne_some.mpr fun size hfree => ?_
  obtain ⟨-, name, hname, rest, hcs, -⟩ := freeName?_eq_some hfree
  rcases List.mem_cons.mp hname with rfl | hname
  · exact h.1 (List.cons.inj hcs).1
  · obtain rfl := List.mem_singleton.mp hname
    exact h.2 (List.cons.inj hcs).1

theorem renameFrom_append {before t rest : List Char} (hrest : ∀ c ∈ rest.head?, c ∉ nameLetters)
    (hend : endsWord rest = true) :
    renameFrom before 0 (t ++ rest) =
      renameFrom before 0 t ++ renameFrom (t.reverse ++ before) 0 rest := by
  obtain ⟨u, out, hout, hbehind, -, hexact⟩ := (renames_renameFrom before (t ++ rest)).append hrest
  rw [hout, hbehind.eq_renameFrom, (hexact hend).eq_renameFrom]

def doubleQuoted (q : List Char) : List Char := '"' :: (q ++ ['"'])

/-- The replacement goes through a quoted text as through any other, but what stands before the
quote is without effect on it. -/
theorem renameFrom_doubleQuoted (before q rest : List Char) :
    renameFrom before 0 (doubleQuoted q ++ rest) = '"' :: (renameFrom ['"'] 0 q ++
      '"' :: renameFrom ((doubleQuoted q).reverse ++ before) 0 rest) := by
  have hquote (before cs : List Char) :
      renameFrom before 0 ('"' :: cs) = '"' :: renameFrom ('"' :: before) 0 cs :=
    renameFrom_keep (freeName?_of_head (by decide) before cs)
  have hwritten : doubleQuoted q ++ rest = '"' :: (q ++ '"' :: rest) := by simp [doubleQuoted]
  have hletters : ∀ c ∈ ('"' :: rest).head?, c ∉ nameLetters := by
    simp only [List.head?_cons, Option.mem_some_iff, forall_eq']
    decide
  have hend : endsWord ('"' :: rest) = true := by simp only [endsWord, List.head?_cons]; decide
  rw [hwritten, hquote, renameFrom_append hletters hend,
    renameFrom_congr (sameBefore_cons (by decide) before []), hquote]
  simp [doubleQuoted]

theorem renameInputs_doubleQuoted (q : List Char) :
    renameInputs (doubleQuoted q) = '"' :: (renameFrom ['"'] 0 q ++ ['"']) := by
  have h := renameFrom_doubleQuoted [] q []
  rwa [List.append_nil, renameFrom] at h

theorem sealed_doubleQuoted (q : List Char) : Sealed (doubleQuoted q) := by
  intro before rest _
  rw [renameFrom_doubleQuoted, renameInputs_doubleQuoted]
  simp

/-- Whatever stands around a quoted text in code, the replacement in it is that in the quoted text
alone. -/
theorem renameInputs_around_doubleQuoted (front q back : List Char) :
    ∃ front' back', Rewritten front front' ∧ Rewritten back back' ∧
      renameInputs (front ++ (doubleQuoted q ++ back)) =
        front' ++ (renameInputs (doubleQuoted q) ++ back') := by
  have hhead : ∀ c ∈ (doubleQuoted q ++ back).head?, c ∉ nameLetters := by
    rintro c ⟨⟩
    decide
  obtain ⟨front', out, hout, hbehind, hfront, -⟩ :=
    (renames_renameFrom [] (front ++ _)).append hhead
  have hback := renames_renameFrom ((doubleQuoted q).reverse ++ (front.reverse ++ [])) back
  refine ⟨front', _, hfront, hback.rewritten, ?_⟩
  rw [renameInputs, hout, hbehind.eq_renameFrom, renameFrom_doubleQuoted, renameInputs_doubleQuoted]
  simp

/-! ### Accessors -/

theorem untouched_of_letters {x : List Char} (h : ∀ c ∈ x, c ≠ 'i' ∧ c ≠ 'd') : Untouched x := by
  have hkept (before rest : List Char) :
      renameFrom before 0 (x ++ rest) = x ++ renameFrom (x.reverse ++ before) 0 rest := by
    induction x generalizing before with
    | nil => rfl
    | cons c x ih =>
        rw [List.cons_append, renameFrom_keep (freeName?_of_head (h c List.mem_cons_self) before _),
          ih fun d hd => h d (List.mem_cons_of_mem c hd)]
        simp
  exact fun before rest _ => hkept before rest

/-- Behind a word character or a dollar sign, nothing is replaced up to the end of the word. -/
theorem renameFrom_word {x : List Char} (h : ∀ c ∈ x, Path.isNamePart c = true) {c : Char}
    (hc : Path.isNamePart c = true) (before rest : List Char) :
    renameFrom (c :: before) 0 (x ++ rest) = x ++ renameFrom (x.reverse ++ c :: before) 0 rest := by
  induction x generalizing c before with
  | nil => rfl
  | cons d x ih =>
      have hfree : freeName? (c :: before) (d :: (x ++ rest)) = none := by
        have hpoint : c ≠ '.' := by
          rintro rfl
          exact absurd hc (by decide)
        have hstart : mayStartName (c :: before) = false := by
          rw [Path.isNamePart, Bool.or_eq_true] at hc
          rw [mayStartName_cons, if_neg hpoint]
          rcases hc with hc | hc <;> simp [hc]
        rw [freeName?_eq, hstart]
        rfl
      rw [List.cons_append, renameFrom_keep hfree,
        ih (fun x hx => h x (List.mem_cons_of_mem d hx)) (h d List.mem_cons_self)]
      simp

theorem untouched_member {c : Char} {cs : List Char} (hc : Path.isNamePart c = true)
    (hcs : ∀ x ∈ cs, Path.isNamePart x = true) : Untouched ('.' :: c :: cs) := by
  intro before rest hbefore
  have hstart : mayStartName ('.' :: before) = false := by
    cases before with
    | nil => rfl
    | cons b before =>
        have hb : (b == '.') = false := beq_false_of_ne fun h => hbefore (by rw [h]; rfl)
        simp [mayStartName_cons, hb]
  have hfree : freeName? ('.' :: before) (c :: (cs ++ rest)) = none := by
    rw [freeName?_eq, hstart]
    rfl
  rw [List.cons_append, List.cons_append, renameFrom_keep (freeName?_of_head (by decide) before _),
    renameFrom_keep hfree, renameFrom_word hcs hc]
  simp

theorem getLast?_ne_point {x : List Char} (h : ∀ c ∈ x, c ≠ '.') : x.getLast? ≠ some '.' :=
  fun hlast => h '.' (List.mem_of_getLast? hlast) rfl

theorem sealed_member {c : Char} {cs rest : List Char} (hc : Path.isNamePart c = true)
    (hcs : ∀ x ∈ cs, Path.isNamePart x = true) (h : Sealed rest) :
    Sealed ('.' :: c :: (cs ++ rest)) := by
  have hlast : ('.' :: c :: cs).getLast? ≠ some '.' := by
    rw [List.getLast?_cons_cons]
    refine getLast?_ne_point fun x hx hpoint => ?_
    rcases List.mem_cons.mp hx with rfl | hx
    · exact absurd (hpoint ▸ hc) (by decide)
    · exact absurd (hpoint ▸ hcs x hx) (by decide)
  exact (untouched_member hc hcs).sealed.append h hlast

/-- What is replaced in a chain of accesses is replaced inside its quoted keys. -/
theorem sealed_chain {cs : List Char} (h : Path.Chain cs) : Sealed cs := by
  have hopen : Sealed ['['] := (untouched_of_letters (by simp)).sealed
  have hclose : Sealed [']'] := (untouched_of_letters (by simp)).sealed
  induction h with
  | nil => exact (untouched_of_letters (by simp)).sealed
  | name hc hcs _ ih => exact sealed_member (Path.isNamePart_of_isNameStart hc) hcs ih
  | @index ds _ hds _ ih =>
      have hdigit : ∀ c ∈ ds, c ≠ '.' ∧ c ≠ 'i' ∧ c ≠ 'd' := by
        intro c hc
        refine ⟨?_, ?_, ?_⟩ <;> rintro rfl <;> exact absurd (hds _ hc) (by decide)
      have hdigits : Sealed ds := (untouched_of_letters fun c hc => (hdigit c hc).2).sealed
      have hlast : ds.getLast? ≠ some '.' := getLast?_ne_point fun c hc => (hdigit c hc).1
      exact hopen.append (hdigits.append (hclose.append ih (by decide)) hlast) (by decide)
  | key cs _ ih =>
      have hkey : Sealed (Json.quoteChars cs) := sealed_doubleQuoted (cs.flatMap Json.escapeChar)
      have hlast : (Json.quoteChars cs).getLast? = some '"' := by
        rw [Json.quoteChars, ← List.cons_append, List.getLast?_concat]
      exact hopen.append (hkey.append (hclose.append ih (by decide)) (by simp [hlast])) (by decide)

theorem untouched_word {c : Char} {cs : List Char} (hc : Path.isNamePart c = true)
    (hletter : c ≠ 'i' ∧ c ≠ 'd') (hcs : ∀ x ∈ cs, Path.isNamePart x = true) :
    Untouched (c :: cs) := by
  intro before rest _
  rw [List.cons_append, renameFrom_keep (freeName?_of_head hletter before _),
    renameFrom_word hcs hc]
  simp

/-- An accessor is a variable with a chain of accesses, if the steps are named as they should be. -/
theorem accessor_eq_chain {r : Resolver} (hr : ∀ step ∈ r.steps, Step.IsIdentifier step.toList)
    (inner : List Char) : ∃ word chain, r.accessor inner = '_' :: (word ++ chain) ∧
      (∀ c ∈ word, Text.isAsciiWord c = true) ∧ Path.Chain chain := by
  have hword {cs : List Char} (h : cs.all Text.isAsciiWord = true) :
      ∀ c ∈ cs, Text.isAsciiWord c = true := List.all_eq_true.mp h
  rcases r.accessor_cases inner with ⟨id, chain, hchain, heq⟩ | ⟨step, hstep, chain, hchain, heq⟩
  · exact ⟨_, _, heq, hword (by decide), .key id hchain⟩
  · obtain ⟨hall, c, hc, hdigit⟩ := hr step hstep
    obtain ⟨more, hmore⟩ := List.head?_eq_some_iff.mp hc
    rw [hmore] at heq hall
    obtain ⟨hfirst, hall⟩ := List.forall_mem_cons.mp hall
    exact ⟨_, _, heq, hword (by decide), .name (Path.isNameStart_of_isAsciiWord hfirst hdigit)
      (fun x hx => Path.isNamePart_of_isAsciiWord (hall x hx)) hchain⟩

/-- What the replacement makes of an accessor is the same wherever the accessor stands. -/
theorem renameFrom_accessor {r : Resolver} (hr : ∀ step ∈ r.steps, Step.IsIdentifier step.toList)
    (inner before rest : List Char) :
    renameFrom before 0 (r.accessor inner ++ rest) = renameInputs (r.accessor inner) ++
      renameFrom ((r.accessor inner).reverse ++ before) 0 rest := by
  obtain ⟨word, chain, heq, hword, hchain⟩ := accessor_eq_chain hr inner
  have hvariable : Untouched ('_' :: word) := untouched_word (by decide) (by decide) fun c hc =>
    Path.isNamePart_of_isAsciiWord (hword c hc)
  have hlast : ('_' :: word).getLast? ≠ some '.' := by
    refine getLast?_ne_point (List.forall_mem_cons.mpr ⟨by decide, fun c hc hpoint => ?_⟩)
    exact absurd (hpoint ▸ hword c hc) (by decide)
  have hsealed : Sealed (r.accessor inner) := by
    rw [heq, ← List.cons_append]
    exact hvariable.sealed.append (sealed_chain hchain) hlast
  -- The accessor starts with an underscore, so even a point before it is without effect.
  have hbefore : SameBefore ((r.accessor inner).reverse ++ before)
      ((r.accessor inner).reverse ++ []) := by
    rw [heq, List.reverse_cons, List.append_assoc, List.append_assoc]
    exact (sameBefore_cons (by decide) before []).append _
  have hstart : renameFrom before 0 (r.accessor inner ++ rest) =
      renameFrom [] 0 (r.accessor inner ++ rest) := by
    rw [heq, List.cons_append, renameFrom_keep (freeName?_of_head (by decide) before _),
      renameFrom_keep (freeName?_of_head (by decide) [] _),
      renameFrom_congr (sameBefore_cons (by decide) before [])]
  rw [hstart, hsealed [] rest (by simp), renameFrom_congr hbefore]

end Fragment

end DurableFlow
