import DurableFlow.Proofs.Graph.Detection
import Mathlib.Data.List.Dedup
import Mathlib.Data.List.MinMax
import Mathlib.Data.Prod.Lex

/-!
The order among nodes that could run in any order. Links are released in the order in which their
sources are placed, those of one source in the order of the edges, and a node joins the line when the
last link to it is released. So behind the nodes without incoming links, the nodes are placed in the
order of their last releases, and no other order of the nodes has this property.
-/

namespace DurableFlow.Graph

/-! ### Times of release -/

def linksInto (g : Graph) (id : String) : List (Edge × Nat) :=
  g.edges.zipIdx.filter fun p => g.declares p.1 && p.1.target == id

def linksFrom (g : Graph) (id : String) : List (Edge × Nat) :=
  g.edges.zipIdx.filter fun p => p.1.source == id && g.declares p.1

/-- When the links to a node are released, while the nodes are placed in that order: the place of the
source counts first, then the place of the link among the edges. -/
def releases (g : Graph) (order : List String) (id : String) : List (Nat ×ₗ Nat) :=
  (g.linksInto id).map fun p => toLex (order.idxOf p.1.source, p.2)

/-- When the last link to a node is released; there is no such time for a node without one. -/
def lastRelease (g : Graph) (order : List String) (id : String) : WithBot (Nat ×ₗ Nat) :=
  (g.releases order id).maximum

/-- All links to the first node are released before the last one to the second. -/
def ReleasedBefore (g : Graph) (order : List String) (v w : String) : Prop :=
  ∃ t ∈ g.releases order w, ∀ s ∈ g.releases order v, s < t

theorem maximum_lt_maximum_iff {α : Type} [LinearOrder α] {l m : List α} :
    l.maximum < m.maximum ↔ ∃ b ∈ m, ∀ a ∈ l, a < b := by
  constructor
  · intro h
    cases hm : m.maximum with
    | bot => exact absurd h (hm ▸ not_lt_bot)
    | coe b =>
        refine ⟨b, List.maximum_mem hm, fun a ha => ?_⟩
        exact WithBot.coe_lt_coe.mp ((List.le_maximum_of_mem' ha).trans_lt (hm ▸ h))
  · rintro ⟨b, hb, hall⟩
    refine lt_of_lt_of_le ?_ (List.le_maximum_of_mem' hb)
    cases hl : l.maximum with
    | bot => exact WithBot.bot_lt_coe b
    | coe a => exact WithBot.coe_lt_coe.mpr (hall a (List.maximum_mem hl))

theorem lastRelease_lt_iff {g : Graph} {order : List String} {v w : String} :
    g.lastRelease order v < g.lastRelease order w ↔ g.ReleasedBefore order v w :=
  maximum_lt_maximum_iff

theorem mem_linksInto {g : Graph} {id : String} {p : Edge × Nat} :
    p ∈ g.linksInto id ↔ p ∈ g.edges.zipIdx ∧ g.declares p.1 = true ∧ p.1.target = id := by
  simp [linksInto]

theorem mem_linksFrom {g : Graph} {id : String} {p : Edge × Nat} :
    p ∈ g.linksFrom id ↔ p ∈ g.edges.zipIdx ∧ p.1.source = id ∧ g.declares p.1 = true := by
  simp [linksFrom]

theorem link_of_mem_linksInto {g : Graph} {id : String} {p : Edge × Nat} (h : p ∈ g.linksInto id) :
    g.Link p.1.source id := by
  obtain ⟨hedge, hdeclared, htarget⟩ := mem_linksInto.mp h
  exact ⟨p.1, List.fst_mem_of_mem_zipIdx hedge, hdeclared, rfl, htarget⟩

/-- The times of release depend only on where the sources stand. -/
theorem releases_congr {g : Graph} {order order' : List String} {id : String}
    (h : ∀ a, g.Link a id → order.idxOf a = order'.idxOf a) :
    g.releases order id = g.releases order' id := by
  refine List.map_congr_left fun p hp => ?_
  rw [h _ (link_of_mem_linksInto hp)]

theorem successors_eq (g : Graph) (id : String) :
    g.successors id = (g.linksFrom id).map (·.1.target) := by
  conv_lhs => rw [successors, ← List.zipIdx_map_fst 0 g.edges, List.filter_map, List.map_map]
  rfl

theorem linksFrom_pairwise (g : Graph) (id : String) :
    (g.linksFrom id).Pairwise fun p q => p.2 < q.2 := by
  refine List.Pairwise.filter _ (List.pairwise_map.mp ?_)
  rw [List.zipIdx_map_snd]
  exact List.pairwise_lt_range'

/-! ### Joining the line -/

/-- In a list without repetitions, of which each item keeps its last place, every item comes behind
all places of the items before it. -/
theorem pairwise_dedup_map {α β : Type} [DecidableEq β] {f : α → β} {R : α → α → Prop} {l : List α}
    (h : l.Pairwise R) :
    (l.map f).dedup.Pairwise fun a b => ∃ y ∈ l, f y = b ∧ ∀ x ∈ l, f x = a → R x y := by
  induction l with
  | nil => exact .nil
  | cons z l ih =>
      obtain ⟨hz, hl⟩ := List.pairwise_cons.mp h
      have htail : (l.map f).dedup.Pairwise fun a b =>
          ∃ y ∈ z :: l, f y = b ∧ ∀ x ∈ z :: l, f x = a → R x y := by
        refine (ih hl).imp ?_
        rintro a b ⟨y, hy, hb, hall⟩
        exact ⟨y, List.mem_cons_of_mem z hy, hb, List.forall_mem_cons.mpr ⟨fun _ => hz y hy, hall⟩⟩
      by_cases hmem : f z ∈ l.map f
      · rwa [List.map_cons, List.dedup_cons_of_mem hmem]
      · rw [List.map_cons, List.dedup_cons_of_notMem hmem]
        refine List.pairwise_cons.mpr ⟨fun b hb => ?_, htail⟩
        obtain ⟨y, hy, rfl⟩ := List.mem_map.mp (List.mem_dedup.mp hb)
        refine ⟨y, List.mem_cons_of_mem z hy, rfl, List.forall_mem_cons.mpr ⟨fun _ => hz y hy, ?_⟩⟩
        exact fun x hx heq => absurd (List.mem_map.mpr ⟨x, hx, heq⟩) hmem

/-- Releasing a list of links lets those targets join that have no other link left, each at its last
place in the list. -/
theorem Line.waiting_foldl_release {ids : List String} {l : Line} (hkeys : ∀ x ∈ ids, x ∈ l.keys)
    (hcount : ∀ x ∈ ids, ids.count x ≤ l.count x) :
    (ids.foldl release l).waiting =
      l.waiting ++ ids.dedup.filter fun x => l.count x = ids.count x := by
  induction ids generalizing l with
  | nil => simp
  | cons id ids ih =>
      rw [List.forall_mem_cons] at hkeys
      have hid : ids.count id + 1 ≤ l.count id := by
        simpa using hcount id List.mem_cons_self
      have hsplit : ∀ x, (id :: ids).count x = [id].count x + ids.count x := fun x => by
        rw [← List.count_append, List.singleton_append]
      have hleft : ∀ x ∈ ids, (l.release id).count x = l.count x - [id].count x := fun x hx =>
        count_foldl_release [id] l (hkeys.2 x hx)
      have hbound : ∀ x ∈ ids, ids.count x ≤ (l.release id).count x := by
        intro x hx
        have hx' := hcount x (List.mem_cons_of_mem id hx)
        rw [hsplit] at hx'
        rw [hleft x hx]
        omega
      have hsame : ids.dedup.filter (fun x => (l.release id).count x = ids.count x) =
          ids.dedup.filter fun x => l.count x = (id :: ids).count x := by
        refine List.filter_congr fun x hx => ?_
        have hx' := hcount x (List.mem_cons_of_mem id (List.mem_dedup.mp hx))
        rw [hsplit] at hx' ⊢
        rw [hleft x (List.mem_dedup.mp hx), decide_eq_decide]
        omega
      rw [List.foldl_cons, ih (fun x hx => by rw [keys_release]; exact hkeys.2 x hx) hbound, hsame,
        release_waiting]
      by_cases hmem : id ∈ ids
      · -- A later link to the same node keeps it from joining now.
        have hpos := List.count_pos_iff.mpr hmem
        rw [List.dedup_cons_of_mem hmem, if_neg (by omega)]
      · have hnone := List.count_eq_zero_of_not_mem hmem
        rw [List.dedup_cons_of_notMem hmem, List.filter_cons, List.count_cons_self, hnone]
        by_cases hone : l.count id = 1
        · simp [hone]
        · rw [if_neg (by omega), if_neg (by simpa using hone)]

/-! ### Repetitions -/

theorem filter_distinct (p : String → Bool) (xs : List String) :
    (distinct xs).filter p = distinct (xs.filter p) := by
  induction xs with
  | nil => rfl
  | cons x xs ih =>
      rw [distinct, List.filter_cons, List.filter_cons, List.filter_comm, ih]
      split
      · rw [distinct]
      · next hx =>
          refine List.filter_eq_self.mpr fun y hy => decide_eq_true ?_
          rintro rfl
          exact hx (List.mem_filter.mp (mem_distinct.mp hy)).2

theorem distinct_cons (x : String) (xs : List String) :
    distinct (x :: xs) = x :: distinct (xs.filter (· ≠ x)) := by
  rw [distinct, filter_distinct]

theorem distinct_append_cons {front : List String} {x : String} (hx : x ∈ front)
    (rest : List String) : distinct (front ++ x :: rest) = distinct (front ++ rest) := by
  induction front with
  | nil => contradiction
  | cons y front ih =>
      rw [List.cons_append, List.cons_append]
      by_cases heq : x = y
      · subst heq
        rw [distinct_cons, distinct_cons]
        simp
      · rw [distinct, distinct, ih ((List.mem_cons.mp hx).resolve_left heq)]

theorem distinct_append {front new : List String} (hnew : new.Nodup) (h : ∀ x ∈ new, x ∉ front) :
    distinct (front ++ new) = distinct front ++ new := by
  induction front with
  | nil => exact distinct_eq_self hnew
  | cons y front ih =>
      have hkept : new.filter (· ≠ y) = new :=
        List.filter_eq_self.mpr fun x hx => decide_eq_true fun heq =>
          h x hx (heq ▸ List.mem_cons_self)
      rw [List.cons_append, distinct, ih fun x hx => fun hmem => h x hx (List.mem_cons_of_mem y hmem),
        List.filter_append, hkept, distinct, List.cons_append]

/-! ### The run -/

def startNodes (g : Graph) : List String := (distinct g.ids).filter fun id => g.inDegree id = 0

/-- Behind the nodes without incoming links stand, placed or waiting, the nodes that joined the line, in
the order of their last releases. -/
structure Joining (g : Graph) (line : Line) (placed joined : List String) : Prop where
  split : distinct (placed ++ line.waiting) = g.startNodes ++ joined
  sorted : joined.Pairwise (g.ReleasedBefore placed)

theorem joining_start (g : Graph) : Joining g g.startLine [] [] where
  split := by
    rw [startNodes, filter_distinct, List.append_nil]
    rfl
  sorted := .nil

theorem Joining.drop {g : Graph} {id : String} {rest placed joined : List String}
    {counts : List (String × Nat)} (h : Joining g ⟨id :: rest, counts⟩ placed joined)
    (hid : id ∈ placed) : Joining g ⟨rest, counts⟩ placed joined where
  split := by
    rw [← h.split]
    exact (distinct_append_cons hid rest).symm
  sorted := h.sorted

/-- The nodes that join when the links of a node are released. -/
def newcomers (g : Graph) (line : Line) (id : String) : List String :=
  (g.successors id).dedup.filter fun x => line.count x = (g.successors id).count x

theorem Placing.waiting_foldl_release {g : Graph} {id : String} {rest placed : List String}
    {counts : List (String × Nat)} (h : Placing g ⟨id :: rest, counts⟩ placed) (hid : id ∉ placed) :
    ((g.successors id).foldl Line.release ⟨rest, counts⟩).waiting =
      rest ++ g.newcomers ⟨rest, counts⟩ id := by
  refine Line.waiting_foldl_release (fun x hx => ?_) fun x hx => ?_
  · exact h.mem_keys (mem_successors.mp hx).target_mem
  · have hcount : (⟨rest, counts⟩ : Line).count x = g.linksTo placed x :=
      h.count x (mem_successors.mp hx).target_mem
    rw [hcount, linksTo_concat hid x]
    exact Nat.le_add_left _ _

theorem Joining.sources {g : Graph} {line : Line} {placed joined : List String}
    (hp : Placing g line placed) (h : Joining g line placed joined) {v a : String} (hv : v ∈ joined)
    (hlink : g.Link a v) : a ∈ placed := by
  have hmem : v ∈ placed ++ line.waiting :=
    mem_distinct.mp (h.split ▸ List.mem_append_right _ hv)
  exact hp.sources (List.mem_append.mp hmem).symm hlink

/-- The links of a node that is placed last are released last, in the order of the edges. -/
theorem releasedBefore_of_last {g : Graph} {id : String} {placed : List String} (hid : id ∉ placed)
    {y : Edge × Nat} (hy : y ∈ g.linksFrom id) {v : String}
    (hv : ∀ p ∈ g.linksInto v, p.1.source ∈ placed ∨ p.1.source = id ∧ p.2 < y.2) :
    g.ReleasedBefore (placed ++ [id]) v y.1.target := by
  obtain ⟨hedge, hsource, hdeclared⟩ := mem_linksFrom.mp hy
  have hplace : (placed ++ [id]).idxOf id = placed.length := by
    rw [List.idxOf_append_of_notMem hid, List.idxOf_cons_self, Nat.add_zero]
  refine ⟨_, List.mem_map.mpr ⟨y, mem_linksInto.mpr ⟨hedge, hdeclared, rfl⟩, rfl⟩, fun s hs => ?_⟩
  obtain ⟨p, hp, rfl⟩ := List.mem_map.mp hs
  rw [Prod.Lex.toLex_lt_toLex, hsource, hplace]
  rcases hv p hp with hplaced | ⟨heq, hlt⟩
  · left
    rw [List.idxOf_append_of_mem hplaced]
    exact List.idxOf_lt_length_of_mem hplaced
  · right
    exact ⟨by rw [heq, hplace], hlt⟩

theorem Joining.place {g : Graph} {id : String} {rest placed joined : List String}
    {counts : List (String × Nat)} (hp : Placing g ⟨id :: rest, counts⟩ placed)
    (h : Joining g ⟨id :: rest, counts⟩ placed joined) (hid : id ∉ placed) :
    Joining g ((g.successors id).foldl Line.release ⟨rest, counts⟩) (placed ++ [id])
      (joined ++ g.newcomers ⟨rest, counts⟩ id) := by
  have hwaiting := hp.waiting_foldl_release hid
  have hsucc : ∀ x ∈ g.newcomers ⟨rest, counts⟩ id, g.Link id x := fun x hx =>
    mem_successors.mp (List.mem_dedup.mp (List.mem_filter.mp hx).1)
  have hsources : ∀ x ∈ g.newcomers ⟨rest, counts⟩ id, ∀ a, g.Link a x → a ∈ placed ++ [id] := by
    intro x hx a
    refine (hp.place hid).sources (.inl ?_)
    exact hwaiting ▸ List.mem_append_right rest hx
  have hbefore : ∀ v ∈ joined, ∀ p ∈ g.linksInto v, p.1.source ∈ placed := fun v hv p hpv =>
    h.sources hp hv (link_of_mem_linksInto hpv)
  have hsame : ∀ v ∈ joined, g.releases (placed ++ [id]) v = g.releases placed v := fun v hv =>
    releases_congr fun a ha => List.idxOf_append_of_mem (h.sources hp hv ha)
  refine ⟨?_, List.pairwise_append.mpr ⟨?_, ?_, ?_⟩⟩
  · rw [hwaiting, ← List.append_assoc, ← List.append_cons, ← List.append_assoc, ← h.split]
    refine distinct_append ((List.nodup_dedup _).filter _) fun x hx hmem => ?_
    obtain ⟨hline, hplaced⟩ := hp.fresh_of_link (hsucc x hx) hid
    exact (List.mem_append.mp hmem).elim hplaced hline
  · refine h.sorted.imp_of_mem fun {v w} hv hw hvw => ?_
    rwa [ReleasedBefore, hsame v hv, hsame w hw]
  · -- Those that join together do so in the order of the last links to them.
    have hlast := pairwise_dedup_map (f := fun p : Edge × Nat => p.1.target) (g.linksFrom_pairwise id)
    rw [← successors_eq] at hlast
    refine (hlast.filter _).imp_of_mem fun {v w} hv _ hvw => ?_
    obtain ⟨y, hy, rfl, hall⟩ := hvw
    refine releasedBefore_of_last hid hy fun p hpv => ?_
    obtain ⟨hedge, hdeclared, htarget⟩ := mem_linksInto.mp hpv
    rcases List.mem_append.mp (hsources v hv _ (link_of_mem_linksInto hpv)) with hplaced | hplaced
    · exact .inl hplaced
    · have hsource := List.mem_singleton.mp hplaced
      exact .inr ⟨hsource, hall p (mem_linksFrom.mpr ⟨hedge, hsource, hdeclared⟩) htarget⟩
  · intro v hv w hw
    obtain ⟨y, hy, rfl⟩ := List.mem_map.mp (successors_eq g id ▸ mem_successors.mpr (hsucc w hw))
    exact releasedBefore_of_last hid hy fun p hpv => .inl (hbefore v hv p hpv)

/-- The placed nodes: those without incoming links, then the others in the order of their last
releases. -/
theorem placed_eq (g : Graph) :
    ∃ joined, g.placed = g.startNodes ++ joined ∧ joined.Pairwise (g.ReleasedBefore g.placed) := by
  obtain ⟨last, hlast, -, joined, h⟩ := Placing.run
    (P := fun line placed => ∃ joined, Joining g line placed joined)
    (fun _ hid ⟨joined, h⟩ => ⟨joined, h.drop hid⟩)
    (fun hp hid ⟨_, h⟩ => ⟨_, h.place hp hid⟩) (placing_start g) ⟨[], joining_start g⟩
    (length_startLine_le g)
  refine ⟨joined, ?_, h.sorted⟩
  have hsplit := h.split
  rw [hlast, List.append_nil] at hsplit
  exact (distinct_eq_self (nodup_placed g)).symm.trans hsplit

/-! ### The law of the order -/

/-- The order in which the nodes of a graph without cycles run. -/
structure RunsIn (g : Graph) (order : List String) : Prop where
  nodup : order.Nodup
  mem_iff : ∀ id, id ∈ order ↔ id ∈ g.ids
  sorted : ∀ e ∈ g.edges, g.declares e = true → order.idxOf e.source < order.idxOf e.target
  start : g.startNodes <+: order
  released : ∀ v ∈ g.ids, ∀ w ∈ g.ids, 0 < g.inDegree v → 0 < g.inDegree w →
    (order.idxOf v < order.idxOf w ↔ g.lastRelease order v < g.lastRelease order w)

theorem mem_startNodes {g : Graph} {id : String} :
    id ∈ g.startNodes ↔ id ∈ g.ids ∧ g.inDegree id = 0 := by
  simp [startNodes, mem_distinct]

theorem rel_of_idxOf_lt {R : String → String → Prop} {front joined : List String}
    (hnodup : (front ++ joined).Nodup) (h : joined.Pairwise R) {v w : String} (hv : v ∈ joined)
    (hw : w ∈ joined) (hlt : (front ++ joined).idxOf v < (front ++ joined).idxOf w) : R v w := by
  have hout : ∀ x ∈ joined, x ∉ front := fun x hx hfront =>
    (List.nodup_append.mp hnodup).2.2 x hfront x hx rfl
  rw [List.idxOf_append_of_notMem (hout v hv), List.idxOf_append_of_notMem (hout w hw),
    Nat.add_lt_add_iff_left] at hlt
  have hrel := List.pairwise_iff_getElem.mp h _ _ (List.idxOf_lt_length_of_mem hv)
    (List.idxOf_lt_length_of_mem hw) hlt
  rwa [List.getElem_idxOf, List.getElem_idxOf] at hrel

theorem runsIn_placed {g : Graph} (h : g.Acyclic) : RunsIn g g.placed := by
  have hmem : ∀ id, id ∈ g.placed ↔ id ∈ g.ids := fun id => by
    rw [(order_eq_ok h).2.mem_iff, mem_distinct]
  obtain ⟨joined, hplaced, hsorted⟩ := placed_eq g
  have hjoined : ∀ v ∈ g.ids, 0 < g.inDegree v → v ∈ joined := by
    intro v hv hpos
    have hv' : v ∈ g.startNodes ++ joined := hplaced ▸ (hmem v).mpr hv
    refine (List.mem_append.mp hv').resolve_left fun hstart => ?_
    exact Nat.ne_of_gt hpos (mem_startNodes.mp hstart).2
  have hrel : ∀ v ∈ joined, ∀ w ∈ joined, g.placed.idxOf v < g.placed.idxOf w →
      g.lastRelease g.placed v < g.lastRelease g.placed w := by
    intro v hv w hw hlt
    refine lastRelease_lt_iff.mpr (rel_of_idxOf_lt (hplaced ▸ nodup_placed g) hsorted hv hw ?_)
    rwa [← hplaced]
  refine ⟨nodup_placed g, hmem, fun e he hd => ?_, ⟨joined, hplaced.symm⟩, ?_⟩
  · exact (placed_sorted ⟨e, he, hd, rfl, rfl⟩ ((hmem _).mpr (declares_iff.mp hd).2)).2
  · intro v hv w hw hvpos hwpos
    have hv' := hjoined v hv hvpos
    have hw' := hjoined w hw hwpos
    refine ⟨hrel v hv' w hw', fun hlt => ?_⟩
    rcases lt_trichotomy (g.placed.idxOf v) (g.placed.idxOf w) with hidx | hidx | hidx
    · exact hidx
    · have heq := (List.idxOf_inj ((hmem v).mpr hv)).mp hidx
      exact absurd hlt (heq ▸ lt_irrefl _)
    · exact absurd hlt (lt_asymm (hrel w hw' v hv' hidx))

/-! ### No other order -/

namespace RunsIn

variable {g : Graph} {a b : List String} {k : Nat}

theorem idxOf_getElem (ha : RunsIn g a) (hk : k < a.length) : a.idxOf a[k] = k :=
  ha.nodup.idxOf_getElem k hk

theorem idxOf_eq_of_take (htake : a.take k = b.take k) {x : String} (hx : x ∈ a.take k) :
    a.idxOf x = b.idxOf x := by
  calc a.idxOf x = (a.take k ++ a.drop k).idxOf x := by rw [List.take_append_drop]
    _ = (b.take k ++ b.drop k).idxOf x := by
      rw [List.idxOf_append_of_mem hx, htake, List.idxOf_append_of_mem (htake ▸ hx)]
    _ = b.idxOf x := by rw [List.take_append_drop]

theorem mem_take (ha : RunsIn g a) {x : String} (hx : x ∈ g.ids) (hlt : a.idxOf x < k) :
    x ∈ a.take k := by
  have hmem := (ha.mem_iff x).mpr hx
  rw [List.mem_take_iff_getElem]
  refine ⟨a.idxOf x, ?_, List.getElem_idxOf _⟩
  have := List.idxOf_lt_length_of_mem hmem
  omega

/-- The next node is released at the same time in both orders: its sources are placed already. -/
theorem lastRelease_eq (ha : RunsIn g a) (htake : a.take k = b.take k) (hk : k < a.length) :
    g.lastRelease a a[k] = g.lastRelease b a[k] := by
  rw [lastRelease, lastRelease, releases_congr fun x hx => ?_]
  obtain ⟨e, he, hd, rfl, htarget⟩ := hx
  have hlt := ha.sorted e he hd
  rw [htarget, ha.idxOf_getElem hk] at hlt
  exact idxOf_eq_of_take htake (ha.mem_take (declares_iff.mp hd).1 hlt)

theorem inDegree_pos (ha : RunsIn g a) (hk : k < a.length) (hstart : g.startNodes.length ≤ k) :
    0 < g.inDegree a[k] := by
  refine Nat.pos_of_ne_zero fun hzero => ?_
  have hmem : a[k] ∈ g.startNodes :=
    mem_startNodes.mpr ⟨(ha.mem_iff _).mp (List.getElem_mem hk), hzero⟩
  have hidx := ha.idxOf_getElem hk
  obtain ⟨rest, rfl⟩ := ha.start
  rw [List.idxOf_append_of_mem hmem] at hidx
  have := List.idxOf_lt_length_of_mem hmem
  omega

/-- The next node of one order is released before the next node of the other one. -/
theorem lastRelease_lt (ha : RunsIn g a) (hb : RunsIn g b) (htake : a.take k = b.take k)
    (hka : k < a.length) (hkb : k < b.length) (hstart : g.startNodes.length ≤ k)
    (hne : a[k] ≠ b[k]) : g.lastRelease a a[k] < g.lastRelease a b[k] := by
  have hmem : b[k] ∈ g.ids := (hb.mem_iff _).mp (List.getElem_mem hkb)
  refine (ha.released _ ((ha.mem_iff _).mp (List.getElem_mem hka)) _ hmem
    (ha.inDegree_pos hka hstart) (hb.inDegree_pos hkb hstart)).mp ?_
  rw [ha.idxOf_getElem hka]
  rcases lt_trichotomy k (a.idxOf b[k]) with hlt | heq | hlt
  · exact hlt
  · have hidx : a.idxOf a[k] = a.idxOf b[k] := (ha.idxOf_getElem hka).trans heq
    exact absurd ((List.idxOf_inj (List.getElem_mem hka)).mp hidx) hne
  · have hidx := idxOf_eq_of_take htake (ha.mem_take hmem hlt)
    rw [hb.idxOf_getElem hkb] at hidx
    omega

theorem getElem_eq (ha : RunsIn g a) (hb : RunsIn g b) (htake : a.take k = b.take k)
    (hka : k < a.length) (hkb : k < b.length) : a[k] = b[k] := by
  by_cases hstart : k < g.startNodes.length
  · rw [← ha.start.getElem hstart, ← hb.start.getElem hstart]
  · by_contra hne
    have hle := Nat.le_of_not_lt hstart
    have hab := ha.lastRelease_lt hb htake hka hkb hle hne
    have hba := hb.lastRelease_lt ha htake.symm hkb hka hle (Ne.symm hne)
    rw [ha.lastRelease_eq htake hka, ← hb.lastRelease_eq htake.symm hkb] at hab
    exact lt_asymm hab hba

/-- The law leaves one order only. -/
theorem unique (ha : RunsIn g a) (hb : RunsIn g b) : a = b := by
  have hlength : a.length = b.length :=
    ((List.perm_ext_iff_of_nodup ha.nodup hb.nodup).mpr fun id => by
      rw [ha.mem_iff, hb.mem_iff]).length_eq
  have htake : ∀ k, k ≤ a.length → a.take k = b.take k := by
    intro k hk
    induction k with
    | zero => rfl
    | succ k ih =>
        have hsame := ih (by omega)
        rw [List.take_succ_eq_append_getElem hk, List.take_succ_eq_append_getElem (hlength ▸ hk), hsame,
          ha.getElem_eq hb hsame hk (hlength ▸ hk)]
  have hall := htake a.length le_rfl
  rwa [List.take_length, hlength, List.take_length] at hall

end RunsIn

/-- Without a cycle, the order is found, with no notice, and it is the one order in which the declared
nodes stand once each, the sources of links before their targets, those without incoming links in
front, and the others by the times of their last releases. -/
theorem order_by_last_release {g : Graph} (h : g.Acyclic) :
    ∃ order, g.order = .ok order ∧ Compile.order g = ⟨.ok order, []⟩ ∧ RunsIn g order ∧
      ∀ other, RunsIn g other → other = order :=
  ⟨g.placed, (order_eq_ok h).1, compileOrder_of_acyclic h, runsIn_placed h, fun _ hother =>
    hother.unique (runsIn_placed h)⟩

/-- Two links from `s` to `x` around one to `y`, a declaration that is repeated, and a link from
nowhere. -/
def tiedGraph : Graph where
  nodes := [{ id := "x" }, { id := "s" }, { id := "y" }, { id := "t" }, { id := "s" }]
  edges := [{ source := "s", target := "x" }, { source := "s", target := "y" },
    { source := "s", target := "x" }, { source := "nowhere", target := "t" }]

theorem acyclic_tiedGraph : tiedGraph.Acyclic :=
  (not_cyclic_iff _).mp fun h => absurd ((hasCycle_iff _).mpr h) (by decide)

/-- The second link keeps `x` behind `y`, although the first one comes before that to `y`. -/
theorem order_by_last_release_tied :
    tiedGraph.Acyclic ∧ tiedGraph.order = .ok ["s", "t", "y", "x"] ∧
      ∃ order, tiedGraph.order = .ok order ∧ Compile.order tiedGraph = ⟨.ok order, []⟩ ∧
        RunsIn tiedGraph order ∧ ∀ other, RunsIn tiedGraph other → other = order :=
  ⟨acyclic_tiedGraph, by rfl, order_by_last_release acyclic_tiedGraph⟩

end DurableFlow.Graph
