import DurableFlow.Proofs.Graph.Link

/-!
Placing the nodes of a graph. The line counts, for each node, the links to it from nodes that are
not placed yet, and a node has joined the line exactly when that count is zero. So a node is placed
behind all nodes that link to it, and the nodes that are never placed are those behind a cycle.
-/

namespace DurableFlow.Graph

open Relation

namespace Line

def keys (l : Line) : List String := l.counts.map (·.1)

theorem release_counts (l : Line) (id : String) :
    (l.release id).counts = l.counts.map fun p => if p.1 == id then (p.1, l.count id - 1) else p :=
  rfl

theorem release_waiting (l : Line) (id : String) :
    (l.release id).waiting = if l.count id - 1 = 0 then l.waiting ++ [id] else l.waiting :=
  rfl

theorem keys_release (l : Line) (id : String) : (l.release id).keys = l.keys := by
  rw [keys, release_counts, List.map_map, keys]
  refine List.map_congr_left fun p _ => ?_
  by_cases h : p.1 = id <;> simp [h]

theorem lookup_map_update (counts : List (String × Nat)) (id x : String) (n : Nat) :
    (counts.map fun p => if p.1 == id then (p.1, n) else p).lookup x =
      (counts.lookup x).map fun m => if x = id then n else m := by
  induction counts with
  | nil => rfl
  | cons p rest ih =>
      obtain ⟨k, m⟩ := p
      by_cases hx : x = k
      · subst hx
        by_cases hk : x = id <;> simp [hk]
      · have hne : (x == k) = false := by simpa using hx
        rw [List.map_cons]
        by_cases hk : k = id
        · simpa [List.lookup_cons, hk, hk ▸ hne] using ih
        · simpa [List.lookup_cons, hk, hne] using ih

theorem lookup_isSome {counts : List (String × Nat)} {x : String}
    (h : x ∈ counts.map (·.1)) : ∃ n, counts.lookup x = some n := by
  induction counts with
  | nil => simp at h
  | cons p rest ih =>
      obtain ⟨k, m⟩ := p
      by_cases hx : x = k
      · exact ⟨m, by simp [hx]⟩
      · have hne : (x == k) = false := by simpa using hx
        obtain ⟨n, hn⟩ := ih (by simpa [hx] using h)
        exact ⟨n, by simp [List.lookup_cons, hne, hn]⟩

theorem count_release (l : Line) {id x : String} (h : x ∈ l.keys) :
    (l.release id).count x = if x = id then l.count x - 1 else l.count x := by
  obtain ⟨n, hn⟩ := lookup_isSome h
  rw [count, release_counts, lookup_map_update]
  by_cases hx : x = id
  · subst hx
    simp [hn]
  · simp [hx, hn, count]

theorem keys_foldl_release (ids : List String) (l : Line) : (ids.foldl release l).keys = l.keys := by
  induction ids generalizing l with
  | nil => rfl
  | cons id ids ih => rw [List.foldl_cons, ih, keys_release]

theorem count_foldl_release (ids : List String) (l : Line) {x : String} (h : x ∈ l.keys) :
    (ids.foldl release l).count x = l.count x - ids.count x := by
  induction ids generalizing l with
  | nil => rfl
  | cons id ids ih =>
      rw [List.foldl_cons, ih (l.release id) (by rwa [keys_release]), count_release l h]
      by_cases hx : x = id
      · subst hx
        simp only [if_true, List.count_cons_self]
        omega
      · simp [hx, Ne.symm hx]

/-- The nodes in the line after a list of links is released: of the targets, those join that have no
other link left. -/
theorem mem_waiting_foldl_release_iff (ids : List String) (l : Line) {x : String}
    (h : x ∈ l.keys) :
    x ∈ (ids.foldl release l).waiting ↔ x ∈ l.waiting ∨ (x ∈ ids ∧ l.count x ≤ ids.count x) := by
  induction ids generalizing l with
  | nil => simp
  | cons id ids ih =>
      rw [List.foldl_cons, ih (l.release id) (by rwa [keys_release]), count_release l h,
        release_waiting]
      by_cases hx : x = id
      · subst hx
        -- The node joins at this release, at a later one, or not at all.
        by_cases hmem : x ∈ ids
        · have hpos := List.count_pos_iff.mpr hmem
          by_cases hz : l.count x - 1 = 0
          · simp [hz, hmem]
            omega
          · simp [hz, hmem]
        · have hnone := List.count_eq_zero_of_not_mem hmem
          by_cases hz : l.count x - 1 = 0
          · simp [hz, hmem, hnone]
            omega
          · simp [hz, hmem, hnone]
            omega
      · have hne : id ≠ x := Ne.symm hx
        split <;> simp [hx, hne]

theorem length_waiting_foldl_release (ids : List String) (l : Line) :
    (ids.foldl release l).waiting.length ≤ l.waiting.length + ids.length := by
  induction ids generalizing l with
  | nil => simp
  | cons id ids ih =>
      have h := ih (l.release id)
      have hone : (l.release id).waiting.length ≤ l.waiting.length + 1 := by
        rw [release_waiting]
        split <;> simp
      simp only [List.foldl_cons, List.length_cons]
      omega

theorem mem_waiting_foldl_release {ids : List String} {l : Line} {x : String}
    (h : x ∈ (ids.foldl release l).waiting) : x ∈ l.waiting ∨ x ∈ ids := by
  induction ids generalizing l with
  | nil => exact .inl h
  | cons id ids ih =>
      rcases ih h with hw | hi
      · rw [release_waiting] at hw
        split at hw
        · rcases List.mem_append.mp hw with hw | hw
          · exact .inl hw
          · exact .inr (by simp [List.mem_singleton.mp hw])
        · exact .inl hw
      · exact .inr (List.mem_cons_of_mem id hi)

end Line

theorem lookup_map_self {f : String → Nat} {ids : List String} {x : String} (h : x ∈ ids) :
    (ids.map fun id => (id, f id)).lookup x = some (f x) := by
  induction ids with
  | nil => simp at h
  | cons id ids ih =>
      by_cases hx : x = id
      · simp [hx]
      · have hne : (x == id) = false := by simpa using hx
        simpa [List.lookup_cons, hne] using ih (by simpa [hx] using h)

/-- What holds while the nodes of a graph are placed. -/
structure Placing (g : Graph) (line : Line) (placed : List String) : Prop where
  nodup : placed.Nodup
  declared : ∀ id ∈ placed, id ∈ g.ids
  waiting : ∀ id ∈ line.waiting, id ∈ g.ids
  keys : line.keys = distinct g.ids
  count : ∀ id ∈ g.ids, line.count id = g.linksTo placed id
  ready : ∀ id ∈ g.ids, g.linksTo placed id = 0 ↔ id ∈ line.waiting ∨ id ∈ placed
  sorted : ∀ a b, g.Link a b → b ∈ placed → a ∈ placed ∧ placed.idxOf a < placed.idxOf b

theorem placing_start (g : Graph) : Placing g g.startLine [] where
  nodup := List.nodup_nil
  declared := by simp
  waiting := by
    intro id h
    exact (List.mem_filter.mp h).1
  keys := by simp [Line.keys, startLine, Function.comp_def]
  count := by
    intro id h
    rw [linksTo_nil, Line.count, startLine, lookup_map_self (mem_distinct.mpr h)]
    rfl
  ready := by
    intro id h
    simp [linksTo_nil, startLine, h]
  sorted := by simp

theorem Placing.drop {g : Graph} {id : String} {rest placed : List String}
    {counts : List (String × Nat)} (h : Placing g ⟨id :: rest, counts⟩ placed)
    (hid : id ∈ placed) : Placing g ⟨rest, counts⟩ placed where
  nodup := h.nodup
  declared := h.declared
  waiting := fun x hx => h.waiting x (List.mem_cons_of_mem id hx)
  keys := h.keys
  count := h.count
  ready := by
    intro x hx
    rw [h.ready x hx]
    by_cases heq : x = id
    · simp [heq, hid]
    · simp [heq]
  sorted := h.sorted

theorem Placing.fresh_of_link {g : Graph} {line : Line} {placed : List String}
    (h : Placing g line placed) {id x : String} (hlink : g.Link id x) (hid : id ∉ placed) :
    x ∉ line.waiting ∧ x ∉ placed := by
  rw [← not_or, ← h.ready x hlink.target_mem, linksTo_eq_zero]
  exact fun hall => hid (hall id hlink)

theorem Placing.mem_keys {g : Graph} {line : Line} {placed : List String}
    (h : Placing g line placed) {x : String} (hx : x ∈ g.ids) : x ∈ line.keys := by
  rw [h.keys]
  exact mem_distinct.mpr hx

theorem Placing.sources {g : Graph} {line : Line} {placed : List String} (h : Placing g line placed)
    {id a : String} (hid : id ∈ line.waiting ∨ id ∈ placed) (hlink : g.Link a id) : a ∈ placed :=
  linksTo_eq_zero.mp ((h.ready id hlink.target_mem).mpr hid) a hlink

section Step

variable {g : Graph} {id : String} {rest placed : List String} {counts : List (String × Nat)}

/-- Releasing the links of a node that is placed last keeps the count of the links left to each
node. -/
theorem Placing.count_place (h : Placing g ⟨id :: rest, counts⟩ placed) (hid : id ∉ placed)
    {x : String} (hx : x ∈ g.ids) :
    ((g.successors id).foldl Line.release ⟨rest, counts⟩).count x =
      g.linksTo (placed ++ [id]) x := by
  have hcount : (⟨rest, counts⟩ : Line).count x = g.linksTo placed x := h.count x hx
  rw [Line.count_foldl_release (g.successors id) ⟨rest, counts⟩ (h.mem_keys hx), hcount,
    linksTo_concat hid x]
  omega

/-- A node that is placed last lets those join that have no other link left. -/
theorem Placing.ready_place (h : Placing g ⟨id :: rest, counts⟩ placed) (hid : id ∉ placed)
    {x : String} (hx : x ∈ g.ids) :
    g.linksTo (placed ++ [id]) x = 0 ↔
      x ∈ ((g.successors id).foldl Line.release ⟨rest, counts⟩).waiting ∨ x ∈ placed ++ [id] := by
  have hcount : (⟨rest, counts⟩ : Line).count x = g.linksTo placed x := h.count x hx
  have hready := h.ready x hx
  have hsplit := linksTo_concat (g := g) hid x
  rw [Line.mem_waiting_foldl_release_iff (g.successors id) ⟨rest, counts⟩ (h.mem_keys hx),
    mem_concat_iff, hcount]
  by_cases hxid : x = id
  · subst hxid
    have hzero := hready.mpr (.inl List.mem_cons_self)
    simp only [true_or, or_true, iff_true]
    omega
  · by_cases hmem : x ∈ g.successors id
    · have hpos := List.count_pos_iff.mpr hmem
      obtain ⟨hwaiting, hplaced⟩ := h.fresh_of_link (mem_successors.mp hmem) hid
      have hrest : x ∉ rest := fun hr => hwaiting (List.mem_cons_of_mem id hr)
      simp only [hmem, hrest, hplaced, hxid, false_or, or_false, true_and]
      omega
    · have hnone := List.count_eq_zero_of_not_mem hmem
      have heq : g.linksTo (placed ++ [id]) x = g.linksTo placed x := by omega
      rw [heq, hready]
      simp [hxid, hmem]

/-- All sources of the links to a node that is placed last stand before it. -/
theorem Placing.sorted_place (h : Placing g ⟨id :: rest, counts⟩ placed) (hid : id ∉ placed)
    {a b : String} (hab : g.Link a b) (hb : b ∈ placed ++ [id]) :
    a ∈ placed ++ [id] ∧ (placed ++ [id]).idxOf a < (placed ++ [id]).idxOf b := by
  have hbefore : ∀ x ∈ placed, (placed ++ [id]).idxOf x = placed.idxOf x := fun x hx =>
    List.idxOf_append_of_mem hx
  rcases (mem_concat_iff b).mp hb with rfl | hb
  · have ha := h.sources (.inl List.mem_cons_self) hab
    refine ⟨List.mem_append_left _ ha, ?_⟩
    have hlt := List.idxOf_lt_length_of_mem ha
    rw [hbefore a ha, List.idxOf_append_of_notMem hid]
    omega
  · obtain ⟨ha, hlt⟩ := h.sorted a b hab hb
    exact ⟨List.mem_append_left _ ha, by rwa [hbefore a ha, hbefore b hb]⟩

/-- A node of the line that is not placed yet is placed last, and its links are released. -/
theorem Placing.place (h : Placing g ⟨id :: rest, counts⟩ placed) (hid : id ∉ placed) :
    Placing g ((g.successors id).foldl Line.release ⟨rest, counts⟩) (placed ++ [id]) where
  nodup := List.concat_eq_append ▸ h.nodup.concat hid
  declared := by
    intro x hx
    rcases (mem_concat_iff x).mp hx with rfl | hx
    · exact h.waiting x List.mem_cons_self
    · exact h.declared x hx
  waiting := by
    intro x hx
    rcases Line.mem_waiting_foldl_release hx with hx | hx
    · exact h.waiting x (List.mem_cons_of_mem id hx)
    · exact (mem_successors.mp hx).target_mem
  keys := (Line.keys_foldl_release (g.successors id) ⟨rest, counts⟩).trans h.keys
  count := fun _ hx => h.count_place hid hx
  ready := fun _ hx => h.ready_place hid hx
  sorted := fun _ _ hab hb => h.sorted_place hid hab hb

end Step

/-- What holds at the start and is kept by both kinds of steps holds at the end. With fuel for the line
and for the links left, the run ends with an empty line. -/
theorem Placing.run {g : Graph} {P : Line → List String → Prop}
    (hdrop : ∀ {id rest counts placed}, Placing g ⟨id :: rest, counts⟩ placed → id ∈ placed →
      P ⟨id :: rest, counts⟩ placed → P ⟨rest, counts⟩ placed)
    (hplace : ∀ {id rest counts placed}, Placing g ⟨id :: rest, counts⟩ placed → id ∉ placed →
      P ⟨id :: rest, counts⟩ placed →
      P ((g.successors id).foldl Line.release ⟨rest, counts⟩) (placed ++ [id]))
    {fuel : Nat} {line : Line} {placed : List String} (h : Placing g line placed)
    (hP : P line placed) (hfuel : line.waiting.length + g.linksLeft placed ≤ fuel) :
    ∃ last, last.waiting = [] ∧ Placing g last (Graph.place g fuel line placed) ∧
      P last (Graph.place g fuel line placed) := by
  induction fuel generalizing line placed with
  | zero =>
      refine ⟨line, ?_, h, hP⟩
      exact List.length_eq_zero_iff.mp (by omega)
  | succ fuel ih =>
      obtain ⟨waiting, counts⟩ := line
      cases waiting with
      | nil => exact ⟨⟨[], counts⟩, rfl, h, hP⟩
      | cons id rest =>
          simp only [List.length_cons] at hfuel
          by_cases hid : id ∈ placed
          · simp only [Graph.place, hid, if_true]
            exact ih (h.drop hid) (hdrop h hid hP) (by simp only; omega)
          · simp only [Graph.place, hid, if_false]
            refine ih (h.place hid) (hplace h hid hP) ?_
            have hlen := Line.length_waiting_foldl_release (g.successors id) ⟨rest, counts⟩
            have hleft := linksLeft_concat (g := g) hid
            simp only at hlen
            omega

theorem length_startLine_le (g : Graph) :
    g.startLine.waiting.length + g.linksLeft [] ≤ g.nodes.length + g.edges.length + 1 := by
  have hwait : g.startLine.waiting.length ≤ g.nodes.length := by
    refine (List.length_filter_le _ _).trans ?_
    simp [ids]
  have hleft := linksLeft_le g []
  omega

/-- The placed nodes with an empty line: nothing more can be placed. -/
theorem placing_placed (g : Graph) : ∃ last, last.waiting = [] ∧ Placing g last g.placed := by
  obtain ⟨last, hlast, h, -⟩ := Placing.run (P := fun _ _ => True) (fun _ _ _ => trivial)
    (fun _ _ _ => trivial) (placing_start g) trivial (length_startLine_le g)
  exact ⟨last, hlast, h⟩

theorem nodup_placed (g : Graph) : g.placed.Nodup := by
  obtain ⟨_, -, h⟩ := placing_placed g
  exact h.nodup

theorem placed_sorted {g : Graph} {a b : String} (h : g.Link a b) (hb : b ∈ g.placed) :
    a ∈ g.placed ∧ g.placed.idxOf a < g.placed.idxOf b := by
  obtain ⟨_, -, hp⟩ := placing_placed g
  exact hp.sorted a b h hb

/-- Along a path whose end is placed, the nodes are placed in the order of the path. -/
theorem placed_sorted_of_path {g : Graph} {a b : String} (h : TransGen g.Link a b)
    (hb : b ∈ g.placed) : a ∈ g.placed ∧ g.placed.idxOf a < g.placed.idxOf b := by
  induction h using TransGen.head_induction_on with
  | single hlink => exact placed_sorted hlink hb
  | head hlink _ ih =>
      obtain ⟨ha, hlt⟩ := placed_sorted hlink ih.1
      exact ⟨ha, hlt.trans ih.2⟩

/-- The nodes that are not placed are those behind a cycle. -/
theorem not_mem_placed_iff {g : Graph} {id : String} (hid : id ∈ g.ids) :
    id ∉ g.placed ↔ g.BehindCycle id := by
  constructor
  · intro hnot
    obtain ⟨last, hlast, hp⟩ := placing_placed g
    refine behindCycle_of_predecessors (s := g.unplaced g.placed) ?_
      (List.mem_filter.mpr ⟨hid, by simpa using hnot⟩)
    intro b hb
    obtain ⟨hbdecl, hbnot⟩ := List.mem_filter.mp hb
    have hbnot : b ∉ g.placed := by simpa using hbnot
    have hcount : g.linksTo g.placed b ≠ 0 := by
      rw [Ne, hp.ready b hbdecl, hlast]
      simpa using hbnot
    rw [Ne, linksTo_eq_zero] at hcount
    push Not at hcount
    obtain ⟨a, hab, ha⟩ := hcount
    exact ⟨a, List.mem_filter.mpr ⟨hab.source_mem, by simpa using ha⟩, hab⟩
  · rintro ⟨c, hc, hr⟩ hmem
    have hcmem : c ∈ g.placed := by
      rcases reflTransGen_iff_eq_or_transGen.mp hr with rfl | hpath
      · exact hmem
      · exact (placed_sorted_of_path hpath hmem).1
    exact lt_irrefl _ (placed_sorted_of_path hc hcmem).2

theorem mem_placed_iff {g : Graph} {id : String} :
    id ∈ g.placed ↔ id ∈ g.ids ∧ ¬g.BehindCycle id := by
  constructor
  · intro h
    obtain ⟨_, -, hp⟩ := placing_placed g
    have hid := hp.declared id h
    exact ⟨hid, fun hb => (not_mem_placed_iff hid).mpr hb h⟩
  · rintro ⟨hid, hno⟩
    by_contra hnot
    exact hno ((not_mem_placed_iff hid).mp hnot)

theorem length_placed_lt_iff (g : Graph) :
    g.placed.length < (distinct g.ids).length ↔ g.Cyclic := by
  have hsub : g.placed ⊆ distinct g.ids := fun id h =>
    mem_distinct.mpr (mem_placed_iff.mp h).1
  have hle : g.placed.Subperm (distinct g.ids) := (nodup_placed g).subperm hsub
  constructor
  · intro hlt
    by_contra hno
    have hacyclic := (not_cyclic_iff g).mp hno
    have hrev : distinct g.ids ⊆ g.placed := by
      intro id h
      refine mem_placed_iff.mpr ⟨mem_distinct.mp h, ?_⟩
      rintro ⟨c, hc, -⟩
      exact hacyclic c hc
    have := ((nodup_distinct g.ids).subperm hrev).length_le
    omega
  · rintro ⟨c, hc⟩
    refine lt_of_le_of_ne hle.length_le fun heq => ?_
    have hperm := hle.perm_of_length_le heq.ge
    have hmem := hperm.mem_iff.mpr (mem_distinct.mpr hc.mem)
    exact (mem_placed_iff.mp hmem).2 hc.behind

theorem order_eq_ok {g : Graph} (h : g.Acyclic) :
    g.order = .ok g.placed ∧ g.placed.Perm (distinct g.ids) := by
  have hnot : ¬g.placed.length < (distinct g.ids).length := by
    rw [length_placed_lt_iff, not_cyclic_iff]
    exact h
  refine ⟨by simp [order, hnot], ?_⟩
  refine (List.perm_ext_iff_of_nodup (nodup_placed g) (nodup_distinct g.ids)).mpr fun id => ?_
  rw [mem_placed_iff, mem_distinct]
  constructor
  · exact And.left
  · rintro hid
    refine ⟨hid, ?_⟩
    rintro ⟨c, hc, -⟩
    exact h c hc

theorem order_eq_error {g : Graph} (h : g.Cyclic) : g.order = .error (g.unplaced g.placed) := by
  have hlt := (length_placed_lt_iff g).mpr h
  simp [order, hlt]

open Classical in
theorem unplaced_placed (g : Graph) :
    g.unplaced g.placed = g.ids.filter fun id => g.BehindCycle id := by
  refine List.filter_congr fun id hid => ?_
  rw [decide_eq_decide]
  exact not_mem_placed_iff hid

end DurableFlow.Graph
