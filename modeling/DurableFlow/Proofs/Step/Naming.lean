import DurableFlow.Proofs.Graph.Link
import DurableFlow.Proofs.Step.Identifier
import Mathlib.Data.List.Perm.Subperm

/-!
Step names do not collide. The search for a name that is not taken tries the base and then the base
with the numbers from two on. There are more numbers to try than names that may be taken, so the
bounded search ends where an unbounded one would: at the first free name. Nodes are named one after
the other, and a node never changes the names that were given before it.
-/

namespace DurableFlow.Step

/-! ### Numbered names -/

def numbered (base : String) (n : Nat) : String := base ++ toString n

theorem toList_toString (n : Nat) : (toString n).toList = Nat.toDigits 10 n := by
  rw [Nat.toString_eq_repr, Nat.toList_repr]

theorem numbered_injective (base : String) : Function.Injective (numbered base) := by
  intro i j h
  have hchars : base.toList ++ (toString i).toList = base.toList ++ (toString j).toList := by
    rw [← String.toList_append, ← String.toList_append]
    exact congrArg String.toList h
  have hdigits : Nat.toDigits 10 i = Nat.toDigits 10 j := by
    rw [← toList_toString, ← toList_toString]
    exact List.append_cancel_left hchars
  simpa using congrArg (fun digits => Nat.ofDigitChars 10 digits 0) hdigits

theorem numbered_ne_base (base : String) (n : Nat) : numbered base n ≠ base := by
  intro h
  have hlength := congrArg (fun s => s.toList.length) h
  have hdigits : 0 < (Nat.toDigits 10 n).length := Nat.length_toDigits_pos
  simp only [numbered, String.toList_append, List.length_append, toList_toString] at hlength
  omega

/-! ### The search for a free name -/

/-- The name that a search without a bound ends at: the base if it is free, else the base with the
first number from two on that makes it free. -/
def FirstFree (used : List String) (base name : String) : Prop :=
  (base ∉ used ∧ name = base) ∨
    base ∈ used ∧ ∃ n ≥ 2, name = numbered base n ∧ numbered base n ∉ used ∧
      ∀ m, 2 ≤ m → m < n → numbered base m ∈ used

theorem FirstFree.not_mem {used : List String} {base name : String}
    (h : FirstFree used base name) : name ∉ used := by
  rcases h with ⟨hfree, rfl⟩ | ⟨-, n, -, rfl, hfree, -⟩
  · exact hfree
  · exact hfree

/-- A taken base and some taken numbers behind it are at most all the taken names. -/
theorem lt_length_of_taken {used : List String} {base : String} (hbase : base ∈ used) {count : Nat}
    (h : ∀ i < count, numbered base (2 + i) ∈ used) : count < used.length := by
  let tried := (List.range count).map fun i => numbered base (2 + i)
  have hnodup : (base :: tried).Nodup := by
    refine List.nodup_cons.mpr ⟨fun hmem => ?_, ?_⟩
    · obtain ⟨i, -, heq⟩ := List.mem_map.mp hmem
      exact numbered_ne_base base (2 + i) heq
    · refine List.nodup_range.map fun i j hij => ?_
      have := numbered_injective base hij
      omega
  have hsub : base :: tried ⊆ used := by
    refine List.cons_subset.mpr ⟨hbase, fun name hname => ?_⟩
    obtain ⟨i, hi, rfl⟩ := List.mem_map.mp hname
    exact h i (List.mem_range.mp hi)
  have hlength := (hnodup.subperm hsub).length_le
  simp only [List.length_cons, List.length_map, List.length_range, tried] at hlength
  omega

/-- One round of the search: all numbers below the counter are taken, and the numbers that are left
to try would exhaust the taken names. -/
theorem firstFree_freshFrom {used : List String} {base : String} (hbase : base ∈ used)
    (fuel tried : Nat) (hfuel : used.length ≤ tried + fuel)
    (htaken : ∀ i < tried, numbered base (2 + i) ∈ used) :
    FirstFree used base (freshFrom used base fuel (2 + tried)) := by
  induction fuel generalizing tried with
  | zero =>
      -- With no tries left, more names would be taken than there are.
      have hcount := lt_length_of_taken hbase htaken
      omega
  | succ fuel ih =>
      rw [freshFrom]
      split
      · rename_i hmem
        refine ih (tried + 1) (by omega) fun i hi => ?_
        rcases Nat.lt_succ_iff_lt_or_eq.mp hi with hi | rfl
        · exact htaken i hi
        · exact hmem
      · rename_i hfree
        refine .inr ⟨hbase, 2 + tried, by omega, rfl, hfree, fun m hlow hhigh => ?_⟩
        obtain ⟨i, rfl⟩ := Nat.exists_eq_add_of_le hlow
        exact htaken i (by omega)

theorem firstFree_fresh (used : List String) (base : String) :
    FirstFree used base (fresh used base) := by
  rw [fresh]
  split
  · rename_i hbase
    exact firstFree_freshFrom hbase used.length 0 (by omega) (by simp)
  · rename_i hfree
    exact .inl ⟨hfree, rfl⟩

/-! ### Reserved words -/

/-- No reserved word is another one with `Step` behind it, and none ends in a digit. -/
theorem reservedWords_endings : ∀ word ∈ reservedWords, word ++ "Step" ∉ reservedWords ∧
    word.toList.getLast?.all (fun c => !c.isDigit) = true := by
  decide

theorem avoidReserved_not_mem (s : String) : avoidReserved s ∉ reservedWords := by
  rw [avoidReserved]
  split
  · rename_i hmem
    exact (reservedWords_endings s hmem).1
  · rename_i hfree
    exact hfree

theorem identifier_not_mem (s : String) : identifier s ∉ reservedWords := by
  rw [identifier]
  split
  · simp [reservedWords]
  · exact avoidReserved_not_mem _

theorem numbered_not_mem (base : String) (n : Nat) : numbered base n ∉ reservedWords := by
  intro hmem
  have hne : Nat.toDigits 10 n ≠ [] := Nat.toDigits_ne_nil
  have hlast : (numbered base n).toList.getLast? = some ((Nat.toDigits 10 n).getLast hne) := by
    rw [numbered, String.toList_append, toList_toString, List.getLast?_append_of_ne_nil _ hne]
    exact List.getLast?_eq_some_getLast hne
  -- A numbered name ends in a digit, and no reserved word does.
  have hdigit := Nat.isDigit_of_mem_toDigits (by decide) (by decide) (List.getLast_mem hne)
  have hletter := (reservedWords_endings _ hmem).2
  rw [hlast, Option.all_some, hdigit] at hletter
  exact Bool.noConfusion hletter

theorem FirstFree.not_reserved {used : List String} {base name : String}
    (h : FirstFree used base name) (hbase : base ∉ reservedWords) : name ∉ reservedWords := by
  rcases h with ⟨-, rfl⟩ | ⟨-, n, -, rfl, -, -⟩
  · exact hbase
  · exact numbered_not_mem base n

/-! ### Naming the nodes of a graph -/

/-- Different names for some ids: each id is named once, in the order of the ids. -/
structure Naming (ids : List String) (named : List (String × String)) : Prop where
  keys : named.map (·.1) = Graph.distinct ids
  nodup : (named.map (·.2)).Nodup
  identifiers : ∀ p ∈ named, IsIdentifier p.2.toList
  notReserved : ∀ p ∈ named, p.2 ∉ reservedWords

theorem naming_nil : Naming [] [] := ⟨rfl, List.nodup_nil, by simp, by simp⟩

theorem distinct_concat (ids : List String) (id : String) :
    Graph.distinct (ids ++ [id]) = Graph.distinct ids ++ (if id ∈ ids then [] else [id]) := by
  induction ids with
  | nil => rfl
  | cons x xs ih =>
      rw [List.cons_append, Graph.distinct, ih, List.filter_append, Graph.distinct, List.cons_append]
      by_cases hmem : id ∈ xs
      · simp [hmem]
      · by_cases heq : id = x <;> simp [hmem, heq]

theorem Naming.any_iff {ids : List String} {named : List (String × String)} (h : Naming ids named)
    (id : String) : named.any (fun p => p.1 == id) = true ↔ id ∈ ids := by
  rw [← Graph.mem_distinct, ← h.keys, List.any_eq_true, List.mem_map]
  simp only [beq_iff_eq]

theorem Naming.skip {ids : List String} {named : List (String × String)} (h : Naming ids named)
    {id : String} (hid : id ∈ ids) : Naming (ids ++ [id]) named where
  keys := by rw [distinct_concat, if_pos hid, List.append_nil, h.keys]
  nodup := h.nodup
  identifiers := h.identifiers
  notReserved := h.notReserved

theorem Naming.add {ids : List String} {named : List (String × String)} (h : Naming ids named)
    {id name : String} {n : Node} (hid : id ∉ ids)
    (hname : FirstFree (named.map (·.2)) (base n) name) (hidentifier : IsIdentifier name.toList) :
    Naming (ids ++ [id]) (named ++ [(id, name)]) where
  keys := by
    rw [List.map_append, distinct_concat, if_neg hid, h.keys]
    rfl
  nodup := by
    rw [List.map_append]
    refine h.nodup.append (List.nodup_singleton name) fun x hx hx' => ?_
    obtain rfl := List.mem_singleton.mp hx'
    exact hname.not_mem hx
  identifiers := List.forall_mem_append.mpr
    ⟨h.identifiers, List.forall_mem_singleton.mpr hidentifier⟩
  notReserved := List.forall_mem_append.mpr
    ⟨h.notReserved, List.forall_mem_singleton.mpr (hname.not_reserved (identifier_not_mem _))⟩

theorem Naming.run {ids : List String} {named : List (String × String)} (h : Naming ids named)
    (ns : List Node) : Naming (ids ++ ns.map (·.id)) (namesFrom named ns) := by
  induction ns generalizing ids named with
  | nil => simpa [namesFrom] using h
  | cons n ns ih =>
      have hids : ids ++ (n :: ns).map (·.id) = (ids ++ [n.id]) ++ ns.map (·.id) := by simp
      rw [hids, namesFrom]
      split
      · rename_i htaken
        exact ih (h.skip ((h.any_iff n.id).mp htaken))
      · rename_i hnew
        refine ih (h.add (n := n) (fun hmem => hnew ((h.any_iff n.id).mpr hmem))
          (firstFree_fresh _ _) ?_)
        exact isIdentifier_fresh (isIdentifier_identifier _)

theorem naming_names (g : Graph) : Naming g.ids (names g) := naming_nil.run g.nodes

/-! ### Names that were given before -/

theorem namesFrom_append (named : List (String × String)) (ns more : List Node) :
    namesFrom named (ns ++ more) = namesFrom (namesFrom named ns) more := by
  induction ns generalizing named with
  | nil => rfl
  | cons n ns ih =>
      rw [List.cons_append, namesFrom, namesFrom]
      split <;> exact ih _

theorem prefix_namesFrom (named : List (String × String)) (ns : List Node) :
    named <+: namesFrom named ns := by
  induction ns generalizing named with
  | nil => exact List.prefix_rfl
  | cons n ns ih =>
      rw [namesFrom]
      split
      · exact ih named
      · exact (List.prefix_append named _).trans (ih _)

theorem names_prefix (g : Graph) (more : List Node) :
    names g <+: names { g with nodes := g.nodes ++ more } := by
  rw [names, names, namesFrom_append]
  exact prefix_namesFrom _ more

/-- A node whose id is new gets the first name that the nodes before it leave free. -/
theorem names_step {g : Graph} {ns more : List Node} {n : Node} (hsplit : g.nodes = ns ++ n :: more)
    (hnew : n.id ∉ ns.map (·.id)) :
    ∃ name, FirstFree ((namesFrom [] ns).map (·.2)) (base n) name ∧
      namesFrom [] ns ++ [(n.id, name)] <+: names g := by
  refine ⟨_, firstFree_fresh _ _, ?_⟩
  have hearlier : ¬(namesFrom [] ns).any (fun p => p.1 == n.id) = true := fun htaken =>
    hnew (by simpa using ((naming_nil.run ns).any_iff n.id).mp htaken)
  rw [names, hsplit, namesFrom_append, namesFrom, if_neg hearlier]
  exact prefix_namesFrom _ more

/-- Every graph has its ids named, each by the first free name, with different identifiers that are
not reserved, and nodes that are appended leave the names as they are. -/
theorem names_unique_stable (g : Graph) :
    Naming g.ids (names g) ∧
      (∀ more, names g <+: names { g with nodes := g.nodes ++ more }) ∧
      ∀ ns n more, g.nodes = ns ++ n :: more → n.id ∉ ns.map (·.id) →
        ∃ name, FirstFree ((namesFrom [] ns).map (·.2)) (base n) name ∧
          namesFrom [] ns ++ [(n.id, name)] <+: names g :=
  ⟨naming_names g, names_prefix g, fun _ _ _ => names_step⟩

def collidingLabels : Graph :=
  { nodes :=
      [{ id := "a", data := { label := some "call api" } },
       { id := "b", data := { label := some "call api 2" } },
       { id := "c", data := { label := some "Call API" } },
       { id := "b", data := { label := some "again" } },
       { id := "d", type := "return" }] }

example : names collidingLabels =
    [("a", "callApi"), ("b", "callApi2"), ("c", "callApi3"), ("d", "returnStep")] := by
  decide

end DurableFlow.Step
