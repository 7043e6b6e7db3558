import DurableFlow.Graph.Order
import Mathlib.Data.Fintype.Card
import Mathlib.Data.List.Nodup
import Mathlib.Data.Set.Finite.List
import Mathlib.Logic.Relation
import Mathlib.Order.WellFounded

/-!
Links between declared nodes, and the cycles that they form. Both the placing of nodes and the
search for cycles use up links, so the links that leave a set of nodes not yet dealt with are
counted here, once for both.
-/

namespace DurableFlow.Graph

open Relation

/-- An edge between two declared nodes leads from the first to the second. -/
def Link (g : Graph) (a b : String) : Prop :=
  ∃ e ∈ g.edges, g.declares e = true ∧ e.source = a ∧ e.target = b

def OnCycle (g : Graph) (id : String) : Prop := TransGen g.Link id id

def Cyclic (g : Graph) : Prop := ∃ id, g.OnCycle id

def Acyclic (g : Graph) : Prop := ∀ id, ¬g.OnCycle id

/-- The node lies on a directed cycle or can be reached from one. -/
def BehindCycle (g : Graph) (id : String) : Prop :=
  ∃ c, g.OnCycle c ∧ ReflTransGen g.Link c id

theorem not_cyclic_iff (g : Graph) : ¬g.Cyclic ↔ g.Acyclic := by
  simp [Cyclic, Acyclic]

theorem declares_iff {g : Graph} {e : Edge} :
    g.declares e = true ↔ e.source ∈ g.ids ∧ e.target ∈ g.ids := by
  simp [declares]

theorem Link.source_mem {g : Graph} {a b : String} (h : g.Link a b) : a ∈ g.ids := by
  obtain ⟨e, -, hd, rfl, -⟩ := h
  exact (declares_iff.mp hd).1

theorem Link.target_mem {g : Graph} {a b : String} (h : g.Link a b) : b ∈ g.ids := by
  obtain ⟨e, -, hd, -, rfl⟩ := h
  exact (declares_iff.mp hd).2

theorem mem_successors {g : Graph} {a b : String} : b ∈ g.successors a ↔ g.Link a b := by
  simp only [successors, Link, List.mem_map, List.mem_filter, Bool.and_eq_true, beq_iff_eq]
  constructor
  · rintro ⟨e, ⟨he, hs, hd⟩, ht⟩
    exact ⟨e, he, hd, hs, ht⟩
  · rintro ⟨e, he, hd, hs, ht⟩
    exact ⟨e, ⟨he, hs, hd⟩, ht⟩

theorem OnCycle.mem {g : Graph} {id : String} (h : g.OnCycle id) : id ∈ g.ids := by
  obtain ⟨b, hb, -⟩ := TransGen.head'_iff.mp h
  exact hb.source_mem

theorem OnCycle.behind {g : Graph} {id : String} (h : g.OnCycle id) : g.BehindCycle id :=
  ⟨id, h, .refl⟩

/-- When every node of a finite set has a predecessor in the set, each of them is behind a cycle: an
ancestor that is minimal for the links could not have one. -/
theorem behindCycle_of_predecessors {g : Graph} {s : List String}
    (hs : ∀ b ∈ s, ∃ a ∈ s, g.Link a b) {id : String} (hid : id ∈ s) : g.BehindCycle id := by
  by_contra hno
  let T := { x : String // x ∈ s ∧ ReflTransGen g.Link x id }
  have hfin : Finite T :=
    Set.Finite.subset (List.finite_toSet s) fun x (hx : x ∈ s ∧ ReflTransGen g.Link x id) => hx.1
  let r : T → T → Prop := fun x y => TransGen g.Link x.1 y.1
  have : IsTrans T r := ⟨fun _ _ _ hxy hyz => hxy.trans hyz⟩
  have : Std.Irrefl r := ⟨fun x hx => hno ⟨x.1, hx, x.2.2⟩⟩
  have hwf : WellFounded r := Finite.wellFounded_of_trans_of_irrefl r
  obtain ⟨m, -, hmin⟩ := hwf.has_min Set.univ ⟨⟨id, hid, .refl⟩, trivial⟩
  obtain ⟨p, hp, hlink⟩ := hs m.1 m.2.1
  exact hmin ⟨p, hp, .head hlink m.2.2⟩ trivial (.single hlink)

/-! ### Distinct ids -/

theorem mem_distinct {x : String} {xs : List String} : x ∈ distinct xs ↔ x ∈ xs := by
  induction xs with
  | nil => simp [distinct]
  | cons y ys ih =>
      simp only [distinct, List.mem_cons, List.mem_filter, ih, decide_eq_true_eq]
      by_cases h : x = y <;> simp [h]

theorem nodup_distinct (xs : List String) : (distinct xs).Nodup := by
  induction xs with
  | nil => exact List.nodup_nil
  | cons y ys ih =>
      refine List.nodup_cons.mpr ⟨?_, ih.filter _⟩
      simp

theorem distinct_eq_self {xs : List String} (h : xs.Nodup) : distinct xs = xs := by
  induction xs with
  | nil => rfl
  | cons y ys ih =>
      obtain ⟨hy, hys⟩ := List.nodup_cons.mp h
      rw [distinct, ih hys, List.filter_eq_self.mpr]
      intro x hx
      simpa using fun heq : x = y => hy (heq ▸ hx)

theorem length_distinct_le (xs : List String) : (distinct xs).length ≤ xs.length := by
  induction xs with
  | nil => exact Nat.le_refl 0
  | cons y ys ih =>
      have h := List.length_filter_le (· ≠ y) (distinct ys)
      simp only [distinct, List.length_cons]
      omega

/-! ### Counting links -/

def linksTo (g : Graph) (gone : List String) (id : String) : Nat :=
  g.edges.countP fun e => g.declares e && e.target == id && !gone.contains e.source

def linksLeft (g : Graph) (gone : List String) : Nat :=
  g.edges.countP fun e => g.declares e && !gone.contains e.source

theorem linksLeft_le (g : Graph) (gone : List String) : g.linksLeft gone ≤ g.edges.length :=
  List.countP_le_length

theorem linksTo_nil (g : Graph) (id : String) : g.linksTo [] id = g.inDegree id := by
  rw [linksTo, inDegree, ← List.countP_eq_length_filter]
  refine List.countP_congr fun e _ => ?_
  simp [and_comm]

theorem linksTo_eq_zero {g : Graph} {gone : List String} {id : String} :
    g.linksTo gone id = 0 ↔ ∀ a, g.Link a id → a ∈ gone := by
  rw [linksTo, List.countP_eq_zero]
  constructor
  · rintro h a ⟨e, he, hd, rfl, rfl⟩
    simpa [hd] using h e he
  · intro h e he hcount
    simp only [Bool.and_eq_true, beq_iff_eq, Bool.not_eq_true', List.contains_eq_mem,
      decide_eq_false_iff_not] at hcount
    exact hcount.2 (h e.source ⟨e, he, hcount.1.1, rfl, hcount.1.2⟩)

theorem countP_split {α : Type} (p q : α → Bool) (xs : List α) :
    xs.countP p = xs.countP (fun x => p x && !q x) + xs.countP (fun x => p x && q x) := by
  induction xs with
  | nil => rfl
  | cons x xs ih =>
      simp only [List.countP_cons, ih]
      cases p x <;> cases q x <;> simp <;> omega

theorem length_successors (g : Graph) (id : String) :
    (g.successors id).length = g.edges.countP fun e => g.declares e && e.source == id := by
  rw [successors, List.length_map, ← List.countP_eq_length_filter]
  refine List.countP_congr fun e _ => ?_
  simp [and_comm]

theorem count_successors (g : Graph) (a b : String) :
    (g.successors a).count b =
      g.edges.countP fun e => g.declares e && e.target == b && e.source == a := by
  rw [successors, List.count, List.countP_map, List.countP_filter]
  refine List.countP_congr fun e _ => ?_
  simp [and_comm, and_left_comm]

section Gone

variable {g : Graph} {gone gone' : List String} {id : String}

theorem countP_gone (hid : id ∉ gone) (hgone : ∀ x, x ∈ gone' ↔ x = id ∨ x ∈ gone)
    (p : Edge → Bool) (es : List Edge) :
    es.countP (fun e => p e && !gone.contains e.source) =
      es.countP (fun e => p e && !gone'.contains e.source) +
        es.countP (fun e => p e && e.source == id) := by
  rw [countP_split _ (fun e => e.source == id)]
  congr 1
  · refine List.countP_congr fun e _ => ?_
    simp [hgone, and_comm, and_left_comm]
  · refine List.countP_congr fun e _ => ?_
    by_cases hs : e.source = id <;> simp [hs, hid]

theorem linksLeft_cons (hid : id ∉ gone) (hgone : ∀ x, x ∈ gone' ↔ x = id ∨ x ∈ gone) :
    g.linksLeft gone = g.linksLeft gone' + (g.successors id).length := by
  rw [length_successors]
  exact countP_gone hid hgone _ _

theorem linksTo_cons (hid : id ∉ gone) (hgone : ∀ x, x ∈ gone' ↔ x = id ∨ x ∈ gone) (b : String) :
    g.linksTo gone b = g.linksTo gone' b + (g.successors id).count b := by
  rw [count_successors]
  exact countP_gone hid hgone _ _

end Gone

theorem mem_concat_iff {gone : List String} {id : String} (x : String) :
    x ∈ gone ++ [id] ↔ x = id ∨ x ∈ gone := by
  rw [List.mem_append, List.mem_singleton, or_comm]

theorem linksLeft_concat {g : Graph} {gone : List String} {id : String} (hid : id ∉ gone) :
    g.linksLeft gone = g.linksLeft (gone ++ [id]) + (g.successors id).length :=
  linksLeft_cons hid mem_concat_iff

theorem linksTo_concat {g : Graph} {gone : List String} {id : String} (hid : id ∉ gone)
    (b : String) : g.linksTo gone b = g.linksTo (gone ++ [id]) b + (g.successors id).count b :=
  linksTo_cons hid mem_concat_iff b

end DurableFlow.Graph
