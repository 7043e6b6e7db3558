import DurableFlow.Binding.Collect
import DurableFlow.Proofs.Outcome
import Mathlib.Algebra.GroupWithZero.Nat
import Mathlib.Data.List.Nodup

/-!
Bindings are groups of uses. The uses of a graph are listed node by node, and requirement by requirement
within a node. Adding one use after the other gives one binding for each kind and name, which gathers the
uses of that kind and name and nothing else. Main statement: `Binding.collect_groups_uses`.
-/

namespace DurableFlow

namespace Binding

variable {c : Catalog} {s : CompilerSettings} {n : Node}

/-! ### The uses of a graph -/

def requirements (c : Catalog) (n : Node) : List Requirement :=
  ((c.get? n.type).map (·.bindings)).getD []

def use? (c : Catalog) (s : CompilerSettings) (n : Node) (r : Requirement) : Option Use :=
  (n.requirementName r c s).toOption.join.map fun name => ⟨n, r, name⟩

def usesIn (c : Catalog) (s : CompilerSettings) (g : Graph) : List Use :=
  g.nodes.flatMap fun n => (requirements c n).filterMap (use? c s n)

/-- Every requirement of the node has a name, or is not needed. -/
def Resolves (c : Catalog) (s : CompilerSettings) (n : Node) : Prop :=
  ∀ r ∈ requirements c n, ∃ found, n.requirementName r c s = .ok found

theorem use?_eq_some_iff {r : Requirement} {u : Use} :
    use? c s n r = some u ↔
      n.requirementName r c s = .ok (some u.name) ∧ u.node = n ∧ u.requirement = r := by
  obtain ⟨node, requirement, name⟩ := u
  rw [use?]
  cases hfound : n.requirementName r c s with
  | error f => simp [Except.toOption]
  | ok found =>
      cases found with
      | none => simp [Except.toOption]
      | some name' =>
          simp only [Except.toOption, Option.join_some, Option.map_some, Option.some.injEq,
            Use.mk.injEq, Except.ok.injEq]
          tauto

theorem mem_usesIn_iff {g : Graph} {u : Use} :
    u ∈ usesIn c s g ↔ u.node ∈ g.nodes ∧ u.requirement ∈ requirements c u.node ∧
      u.node.requirementName u.requirement c s = .ok (some u.name) := by
  simp only [usesIn, List.mem_flatMap, List.mem_filterMap, use?_eq_some_iff]
  constructor
  · rintro ⟨n, hn, r, hr, hname, rfl, rfl⟩
    exact ⟨hn, hr, hname⟩
  · rintro ⟨hn, hr, hname⟩
    exact ⟨_, hn, _, hr, hname, rfl, rfl⟩

theorem usesOf_eq_ok_iff {rs : List Requirement} {us : List Use} :
    usesOf c s n rs = .ok us ↔ us = rs.filterMap (use? c s n) ∧
      ∀ r ∈ rs, ∃ found, n.requirementName r c s = .ok found := by
  induction rs generalizing us with
  | nil => simp [usesOf, eq_comm]
  | cons r rs ih =>
      rw [List.forall_mem_cons, List.filterMap_cons, use?]
      constructor
      · intro h
        obtain ⟨found, hfound, h⟩ := bind_eq_ok h
        obtain ⟨rest, hrest, h⟩ := bind_eq_ok h
        obtain rfl := Except.ok.inj h
        obtain ⟨rfl, hresolves⟩ := ih.mp hrest
        refine ⟨?_, ⟨found, hfound⟩, hresolves⟩
        rw [hfound]
        cases found <;> rfl
      · rintro ⟨rfl, ⟨found, hfound⟩, hresolves⟩
        rw [usesOf, hfound, ih.mpr ⟨rfl, hresolves⟩]
        cases found <;> rfl

theorem uses_cons (n : Node) (ns : List Node) : uses c s (n :: ns) = do
    let here ← usesOf c s n (requirements c n)
    let rest ← uses c s ns
    return here ++ rest := by
  rw [uses, requirements]
  cases c.get? n.type <;> rfl

theorem uses_eq_ok_iff {ns : List Node} {us : List Use} :
    uses c s ns = .ok us ↔
      us = ns.flatMap (fun n => (requirements c n).filterMap (use? c s n)) ∧
        ∀ n ∈ ns, Resolves c s n := by
  induction ns generalizing us with
  | nil => simp [uses, eq_comm]
  | cons n ns ih =>
      rw [uses_cons, List.forall_mem_cons, List.flatMap_cons]
      constructor
      · intro h
        obtain ⟨here, hhere, h⟩ := bind_eq_ok h
        obtain ⟨rest, hrest, h⟩ := bind_eq_ok h
        obtain rfl := Except.ok.inj h
        obtain ⟨rfl, hnode⟩ := usesOf_eq_ok_iff.mp hhere
        obtain ⟨rfl, hnodes⟩ := ih.mp hrest
        exact ⟨rfl, hnode, hnodes⟩
      · rintro ⟨rfl, hnode, hnodes⟩
        rw [usesOf_eq_ok_iff.mpr ⟨rfl, hnode⟩, ih.mpr ⟨rfl, hnodes⟩]
        rfl

/-- Everything is collected when every requirement of every node has a name, or is not needed. -/
theorem collect_eq_ok_iff {g : Graph} {bs : List Binding} :
    collect c s g = .ok bs ↔
      bs = (usesIn c s g).foldl (fun bs u => add u bs) [] ∧ ∀ n ∈ g.nodes, Resolves c s n := by
  rw [collect]
  constructor
  · intro h
    obtain ⟨us, hus, h⟩ := bind_eq_ok h
    obtain rfl := Except.ok.inj h
    obtain ⟨rfl, hresolves⟩ := uses_eq_ok_iff.mp hus
    exact ⟨rfl, hresolves⟩
  · rintro ⟨rfl, hresolves⟩
    rw [uses_eq_ok_iff.mpr ⟨rfl, hresolves⟩]
    rfl

/-! ### Groups -/

def Use.key (u : Use) : String × String := (u.requirement.kind, u.name)

def key (b : Binding) : String × String := (b.kind, b.name)

def group (us : List Use) (k : String × String) : List Use := us.filter fun u => u.key = k

/-- The description of a use; an empty one counts as none. -/
def Use.description? (u : Use) : Option String :=
  (some u.requirement.description).filter fun text => text ≠ ""

def extend (b : Binding) (u : Use) : Binding :=
  { b with
    required := b.required || u.requirement.required
    usages := b.usages ++ [u.usage] }

/-- The binding stands for the uses: all nodes that have one, in order; whether one of them is required;
and what the first of them is described as. -/
structure Gathers (us : List Use) (b : Binding) : Prop where
  usages : b.usages = us.map Use.usage
  required : b.required = us.any fun u => u.requirement.required
  description : b.description = us.head?.bind Use.description?

/-- Each binding stands for the uses of its kind and name. No kind and name comes twice, and they are in
the order in which they are first used. -/
structure Groups (us : List Use) (bs : List Binding) : Prop where
  nodup : (bs.map key).Nodup
  keys : bs.map key = (us.map Use.key).eraseDups
  gathers : ∀ b ∈ bs, Gathers (group us b.key) b

@[simp] theorem key_extend (b : Binding) (u : Use) : (b.extend u).key = b.key := rfl

@[simp] theorem key_binding (u : Use) : u.binding.key = u.key := rfl

theorem add_cons (u : Use) (b : Binding) (bs : List Binding) :
    add u (b :: bs) = if b.key = u.key then b.extend u :: bs else b :: add u bs := by
  rw [add]
  by_cases h : b.key = u.key
  · obtain ⟨hkind, hname⟩ := Prod.mk.inj h
    rw [if_pos h, if_pos (by simp [hkind, hname])]
    rfl
  · rw [if_neg h, if_neg]
    intro hsame
    rw [Bool.and_eq_true, decide_eq_true_eq, decide_eq_true_eq] at hsame
    exact h (Prod.ext hsame.1 hsame.2)

/-- A use adds its kind and name when no binding has them. -/
theorem map_key_add (u : Use) (bs : List Binding) :
    (add u bs).map key = if u.key ∈ bs.map key then bs.map key else bs.map key ++ [u.key] := by
  induction bs with
  | nil => rfl
  | cons b bs ih =>
      rw [add_cons]
      by_cases h : b.key = u.key
      · rw [if_pos h, List.map_cons, key_extend, List.map_cons, if_pos (by simp [h])]
      · rw [if_neg h, List.map_cons, ih, List.map_cons]
        by_cases hmem : u.key ∈ bs.map key
        · rw [if_pos hmem, if_pos (List.mem_cons_of_mem _ hmem)]
        · have hnot : u.key ∉ b.key :: bs.map key := by
            rw [List.mem_cons, not_or]
            exact ⟨Ne.symm h, hmem⟩
          rw [if_neg hmem, if_neg hnot, List.cons_append]

/-- A binding behind a use that was added is one of another kind or name, or one that was extended by
the use, or that of the use alone. -/
theorem of_mem_add {u : Use} {bs : List Binding} (hnodup : (bs.map key).Nodup) {b : Binding}
    (h : b ∈ add u bs) :
    (b ∈ bs ∧ b.key ≠ u.key) ∨ (∃ old ∈ bs, old.key = u.key ∧ b = old.extend u) ∨
      (u.key ∉ bs.map key ∧ b = u.binding) := by
  induction bs with
  | nil => exact .inr (.inr ⟨List.not_mem_nil, List.mem_singleton.mp h⟩)
  | cons first bs ih =>
      rw [List.map_cons, List.nodup_cons] at hnodup
      rw [add_cons] at h
      by_cases hkey : first.key = u.key
      · rw [if_pos hkey] at h
        rcases List.mem_cons.mp h with rfl | hb
        · exact .inr (.inl ⟨first, List.mem_cons_self, hkey, rfl⟩)
        · -- No later binding has the key of the first.
          refine .inl ⟨List.mem_cons_of_mem _ hb, fun hsame => hnodup.1 ?_⟩
          exact List.mem_map.mpr ⟨b, hb, hsame.trans hkey.symm⟩
      · rw [if_neg hkey] at h
        rcases List.mem_cons.mp h with rfl | hb
        · exact .inl ⟨List.mem_cons_self, hkey⟩
        · rcases ih hnodup.2 hb with ⟨hb, hne⟩ | ⟨old, hold, hsame, rfl⟩ | ⟨hnew, rfl⟩
          · exact .inl ⟨List.mem_cons_of_mem _ hb, hne⟩
          · exact .inr (.inl ⟨old, List.mem_cons_of_mem _ hold, hsame, rfl⟩)
          · refine .inr (.inr ⟨?_, rfl⟩)
            rw [List.map_cons, List.mem_cons, not_or]
            exact ⟨Ne.symm hkey, hnew⟩

theorem group_concat (us : List Use) (u : Use) (k : String × String) :
    group (us ++ [u]) k = group us k ++ if u.key = k then [u] else [] := by
  rw [group, List.filter_append, ← group]
  by_cases h : u.key = k
  · simp [h]
  · simp [h]

theorem group_ne_nil_iff {us : List Use} {k : String × String} :
    group us k ≠ [] ↔ k ∈ us.map Use.key := by
  simp [group]

theorem Gathers.binding (u : Use) : Gathers [u] u.binding where
  usages := rfl
  required := by simp [Use.binding]
  description := by
    by_cases h : u.requirement.description = ""
    · simp [Use.binding, Use.description?, h, Option.filter]
    · simp [Use.binding, Use.description?, h, Option.filter]

theorem Gathers.extend {us : List Use} {b : Binding} (h : Gathers us b) (hne : us ≠ []) (u : Use) :
    Gathers (us ++ [u]) (b.extend u) where
  usages := by simp [Binding.extend, h.usages]
  required := by simp [Binding.extend, h.required]
  description := by
    obtain ⟨first, rest, rfl⟩ := List.exists_cons_of_ne_nil hne
    exact h.description

theorem Groups.mem_keys_iff {us : List Use} {bs : List Binding} (h : Groups us bs)
    {k : String × String} : k ∈ bs.map key ↔ k ∈ us.map Use.key := by
  rw [h.keys, List.mem_eraseDups]

/-- What one more use preserves. -/
theorem Groups.add {us : List Use} {bs : List Binding} (h : Groups us bs) (u : Use) :
    Groups (us ++ [u]) (Binding.add u bs) := by
  have hmem : u.key ∈ bs.map key ↔ u.key ∈ us.map Use.key := h.mem_keys_iff
  refine ⟨?_, ?_, ?_⟩
  · rw [map_key_add]
    split
    · exact h.nodup
    next hnew =>
      refine List.nodup_append.mpr ⟨h.nodup, List.nodup_singleton _, ?_⟩
      rintro k hk k' hk' rfl
      exact hnew (List.mem_singleton.mp hk' ▸ hk)
  · rw [map_key_add, List.map_append, List.map_singleton, List.eraseDups_append, ← h.keys]
    rw [List.cons_removeAll, List.nil_removeAll]
    by_cases hold : u.key ∈ us.map Use.key
    · rw [if_pos (hmem.mpr hold), if_neg (by simpa using hold), List.eraseDups_nil, List.append_nil]
    · rw [if_neg fun hnew => hold (hmem.mp hnew), if_pos (by simpa using hold)]
      rfl
  · intro b hb
    rcases of_mem_add h.nodup hb with ⟨hb, hne⟩ | ⟨old, hold, hsame, rfl⟩ | ⟨hnew, rfl⟩
    · rw [group_concat, if_neg (Ne.symm hne), List.append_nil]
      exact h.gathers b hb
    · rw [key_extend, group_concat, if_pos hsame.symm]
      refine (h.gathers old hold).extend ?_ u
      rw [group_ne_nil_iff, hsame, ← hmem, ← hsame]
      exact List.mem_map_of_mem hold
    · have hnone : group us u.binding.key = [] := by
        by_contra hne
        exact hnew (hmem.mpr (group_ne_nil_iff.mp hne))
      rw [group_concat, hnone, key_binding, if_pos rfl, List.nil_append]
      exact .binding u

theorem Groups.foldl {us : List Use} {bs : List Binding} (h : Groups us bs) (more : List Use) :
    Groups (us ++ more) (more.foldl (fun bs u => Binding.add u bs) bs) := by
  induction more generalizing us bs with
  | nil => rwa [List.append_nil]
  | cons u more ih =>
      rw [List.foldl_cons, ← List.singleton_append, ← List.append_assoc]
      exact ih (h.add u)

theorem groups_nil : Groups [] [] where
  nodup := List.nodup_nil
  keys := rfl
  gathers _ hb := absurd hb List.not_mem_nil

theorem groups_collect {g : Graph} {bs : List Binding} (h : collect c s g = .ok bs) :
    Groups (usesIn c s g) bs := by
  obtain ⟨rfl, -⟩ := collect_eq_ok_iff.mp h
  exact groups_nil.foldl (usesIn c s g)

theorem Groups.exists_usage_iff {us : List Use} {bs : List Binding} (h : Groups us bs)
    {k : String × String} {usage : Usage} :
    (∃ b ∈ bs, b.key = k ∧ usage ∈ b.usages) ↔ ∃ u ∈ us, u.key = k ∧ u.usage = usage := by
  constructor
  · rintro ⟨b, hb, rfl, husage⟩
    rw [(h.gathers b hb).usages] at husage
    obtain ⟨u, hu, rfl⟩ := List.mem_map.mp husage
    obtain ⟨hu, hkey⟩ := List.mem_filter.mp hu
    exact ⟨u, hu, of_decide_eq_true hkey, rfl⟩
  · rintro ⟨u, hu, rfl, rfl⟩
    obtain ⟨b, hb, hkey⟩ := List.mem_map.mp (h.mem_keys_iff.mpr (List.mem_map_of_mem hu))
    refine ⟨b, hb, hkey, ?_⟩
    rw [(h.gathers b hb).usages]
    exact List.mem_map_of_mem (List.mem_filter.mpr ⟨hu, decide_eq_true hkey.symm⟩)

/-! ### Nothing is lost or counted twice -/

/-- A use adds itself to what the bindings list. -/
theorem perm_usages_add (u : Use) (bs : List Binding) :
    ((add u bs).flatMap (·.usages)).Perm (bs.flatMap (·.usages) ++ [u.usage]) := by
  induction bs with
  | nil => exact .refl _
  | cons b bs ih =>
      rw [add_cons, List.flatMap_cons]
      split
      · -- The use stands behind those of its own binding, and moves behind those of the others.
        rw [List.flatMap_cons, extend, List.append_assoc, List.append_assoc]
        exact List.perm_append_comm.append_left _
      · rw [List.flatMap_cons, List.append_assoc]
        exact ih.append_left _

theorem perm_usages_foldl (us : List Use) (bs : List Binding) :
    ((us.foldl (fun bs u => add u bs) bs).flatMap (·.usages)).Perm
      (bs.flatMap (·.usages) ++ us.map Use.usage) := by
  induction us generalizing bs with
  | nil => simp
  | cons u us ih =>
      rw [List.foldl_cons, List.map_cons, ← List.singleton_append, ← List.append_assoc]
      exact (ih (add u bs)).trans ((perm_usages_add u bs).append_right _)

/-- For any catalog, settings and graph, the bindings can be collected exactly when all requirements of
all nodes resolve; and then there is one for each kind and name that is used, which gathers the uses of
that kind and name. All uses are listed, each of them once. -/
theorem collect_groups_uses (c : Catalog) (s : CompilerSettings) (g : Graph) :
    ((∃ bs, collect c s g = .ok bs) ↔ ∀ n ∈ g.nodes, Resolves c s n) ∧
      ∀ bs, collect c s g = .ok bs →
        Groups (usesIn c s g) bs ∧
        (bs.flatMap (·.usages)).Perm ((usesIn c s g).map Use.usage) ∧
        (bs.map (·.usages.length)).sum = (usesIn c s g).length := by
  refine ⟨⟨fun ⟨bs, h⟩ => (collect_eq_ok_iff.mp h).2,
    fun h => ⟨_, collect_eq_ok_iff.mpr ⟨rfl, h⟩⟩⟩, fun bs h => ?_⟩
  have hgroups := groups_collect h
  obtain ⟨rfl, -⟩ := collect_eq_ok_iff.mp h
  have hperm := perm_usages_foldl (usesIn c s g) []
  refine ⟨hgroups, hperm, ?_⟩
  have hlength := hperm.length_eq
  rwa [List.length_flatMap, List.length_append, List.length_flatMap, List.length_map,
    List.map_nil, List.sum_nil, Nat.zero_add] at hlength

end Binding

/-- A model node that keeps its answers in the namespace that another node reads. -/
def sharedNamespace : Graph :=
  { nodes :=
      [{ id := "start", type := "entry" },
       { id := "lookup", type := "kv-get", data := { config := [("namespace", .str "my answers")] } },
       { id := "ask", type := "ai-gateway", data := { config := [("cacheNamespace", .str "my answers")] } }] }

/-- A namespace that one node reads and another keeps its answers in is one binding with two nodes. -/
theorem Binding.collect_groups_sharedNamespace :
    ∃ bs, collect Catalog.builtin {} sharedNamespace = .ok bs ∧
      Groups (usesIn Catalog.builtin {} sharedNamespace) bs ∧
      bs.map key = [("kv", "my_answers"), ("ai", "AI")] ∧ (bs.map (·.usages.length)).sum = 3 := by
  obtain ⟨-, hgroups⟩ := collect_groups_uses Catalog.builtin {} sharedNamespace
  have hok : (collect Catalog.builtin {} sharedNamespace).isOk = true := by decide
  have hkeys : ((usesIn Catalog.builtin {} sharedNamespace).map Use.key).eraseDups =
      [("kv", "my_answers"), ("ai", "AI")] := by decide
  have hlength : (usesIn Catalog.builtin {} sharedNamespace).length = 3 := by decide
  cases hcollect : collect Catalog.builtin {} sharedNamespace with
  | error f =>
      rw [hcollect] at hok
      contradiction
  | ok bs =>
      obtain ⟨hgroups, -, hcounts⟩ := hgroups bs hcollect
      exact ⟨bs, rfl, hgroups, hgroups.keys.trans hkeys, hcounts.trans hlength⟩

end DurableFlow
