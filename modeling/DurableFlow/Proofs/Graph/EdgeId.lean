import DurableFlow.Proofs.Graph.Acceptance
import Mathlib.Data.Finset.Card

/-!
Ids that are made for edges. An edge without an id gets one made of its two ends with a dash between
them. The ends may have dashes themselves, and then two edges with different ends can get the same id:
this is so exactly when the dash between the ends of one of them stands inside an end of the other.
The check of the edges reports these pairs, and no others, among the edges without ids.
-/

namespace DurableFlow

namespace Edge

/-- The edge brings no id; an empty one counts as none. -/
def Unnamed (e : Edge) : Prop := e.id.getD "" = ""

def ends (e : Edge) : String × String := (e.source, e.target)

/-- The second edge takes some words, and a dash in front of them, from the target of the first one
into its source. Both have the same words between their outer ends. -/
def Shifted (e f : Edge) : Prop :=
  ∃ words, f.source = e.source ++ "-" ++ words ∧ e.target = words ++ "-" ++ f.target

theorem Shifted.ends_ne {e f : Edge} (h : e.Shifted f) : e.ends ≠ f.ends := by
  intro heq
  obtain ⟨words, hsource, -⟩ := h
  have hsame : e.source = f.source := congrArg Prod.fst heq
  have hlength := congrArg String.length (hsame.trans hsource)
  simp only [String.length_append] at hlength
  have hdash : "-".length = 1 := rfl
  omega

end Edge

/-! ### Texts with a dash in them -/

theorem append_dash_eq_iff {a b c d : List Char} :
    a ++ '-' :: b = c ++ '-' :: d ↔ (a = c ∧ b = d) ∨
      (∃ w, c = a ++ '-' :: w ∧ b = w ++ '-' :: d) ∨ ∃ w, a = c ++ '-' :: w ∧ d = w ++ '-' :: b := by
  constructor
  · intro h
    rcases List.append_eq_append_iff.mp h with ⟨w, hc, hb⟩ | ⟨w, ha, hd⟩
    · cases w with
      | nil => exact .inl ⟨by simpa using hc.symm, by simpa using hb⟩
      | cons x w =>
          rw [List.cons_append, List.cons.injEq] at hb
          obtain ⟨rfl, hb⟩ := hb
          exact .inr (.inl ⟨w, hc, hb⟩)
    · cases w with
      | nil => exact .inl ⟨by simpa using ha, by simpa using hd.symm⟩
      | cons x w =>
          rw [List.cons_append, List.cons.injEq] at hd
          obtain ⟨rfl, hd⟩ := hd
          exact .inr (.inr ⟨w, ha, hd⟩)
  · rintro (⟨rfl, rfl⟩ | ⟨w, rfl, rfl⟩ | ⟨w, rfl, rfl⟩)
    · rfl
    · rw [List.append_assoc, List.cons_append]
    · rw [List.append_assoc, List.cons_append]

namespace Report

theorem edgeId_of_unnamed {e : Edge} (h : e.Unnamed) :
    edgeId e = "e-" ++ e.source ++ "-" ++ e.target := if_pos h

/-- Two edges without ids get the same one when they have the same ends, or when the dash between the
ends of one of them stands inside an end of the other. -/
theorem edgeId_eq_iff {e f : Edge} (he : e.Unnamed) (hf : f.Unnamed) :
    edgeId e = edgeId f ↔ e.ends = f.ends ∨ e.Shifted f ∨ f.Shifted e := by
  have htexts : ∀ s t w : String, s = t ++ "-" ++ w ↔ s.toList = t.toList ++ '-' :: w.toList := by
    intro s t w
    rw [← String.toList_inj]
    simp
  have hwords : ∀ {P : List Char → Prop}, (∃ w, P w) ↔ ∃ words : String, P words.toList := by
    intro P
    exact ⟨fun ⟨w, hw⟩ => ⟨String.ofList w, by simpa using hw⟩, fun ⟨words, hw⟩ => ⟨_, hw⟩⟩
  have hchars : edgeId e = edgeId f ↔
      e.source.toList ++ '-' :: e.target.toList = f.source.toList ++ '-' :: f.target.toList := by
    rw [edgeId_of_unnamed he, edgeId_of_unnamed hf, ← String.toList_inj]
    simp
  rw [hchars, append_dash_eq_iff, hwords, hwords]
  simp only [Edge.ends, Edge.Shifted, Prod.mk.injEq, htexts, String.toList_inj]

/-- Among things that are told apart by one property, a value of another one that is counted twice
belongs to two of them. -/
theorem two_le_count_map_iff {α β γ : Type} [BEq β] [LawfulBEq β] (k : α → β) {tell : α → γ}
    {xs : List α} (h : (xs.map tell).Nodup) (b : β) :
    2 ≤ (xs.map k).count b ↔ ∃ x ∈ xs, ∃ y ∈ xs, tell x ≠ tell y ∧ k x = b ∧ k y = b := by
  classical
  have hnodup : ((xs.filter fun x => k x == b).map tell).Nodup :=
    h.sublist (List.filter_sublist.map tell)
  have hcount : (xs.map k).count b = ((xs.filter fun x => k x == b).map tell).toFinset.card := by
    rw [List.toFinset_card_of_nodup hnodup, List.length_map, ← List.countP_eq_length_filter,
      List.count_eq_countP, List.countP_map]
    rfl
  rw [hcount, Nat.succ_le_iff, Finset.one_lt_card]
  simp only [List.mem_toFinset, List.mem_map, List.mem_filter, beq_iff_eq]
  constructor
  · rintro ⟨_, ⟨x, ⟨hx, hkx⟩, rfl⟩, _, ⟨y, ⟨hy, hky⟩, rfl⟩, hne⟩
    exact ⟨x, hx, y, hy, hne, hkx, hky⟩
  · rintro ⟨x, hx, y, hy, hne, hkx, hky⟩
    exact ⟨_, ⟨x, ⟨hx, hkx⟩, rfl⟩, _, ⟨y, ⟨hy, hky⟩, rfl⟩, hne⟩

theorem mem_duplicate_iff (g : Graph) (id : String) :
    "Duplicate edge id '" ++ id ++ "'" ∈ edgeErrorsFrom g [] g.edges ↔
      2 ≤ (g.edges.map edgeId).count id := by
  rw [← List.one_le_count_iff, count_edgeErrorsFrom, if_neg List.not_mem_nil]
  omega

end Report

open Report in
/-- In a graph whose edges bring no ids and have different ends, the check of the edges reports an id
as repeated exactly when it is the one of two edges of which the second takes a dash from the target of
the first into its source. -/
theorem duplicate_assignedId_iff {g : Graph} (hunnamed : ∀ e ∈ g.edges, e.Unnamed)
    (hends : (g.edges.map Edge.ends).Nodup) (id : String) :
    "Duplicate edge id '" ++ id ++ "'" ∈ edgeErrorsFrom g [] g.edges ↔
      ∃ e ∈ g.edges, ∃ f ∈ g.edges, e.Shifted f ∧ id = "e-" ++ e.source ++ "-" ++ e.target := by
  rw [mem_duplicate_iff, two_le_count_map_iff edgeId hends]
  constructor
  · rintro ⟨e, he, f, hf, hne, hid, hid'⟩
    have hsame := (edgeId_eq_iff (hunnamed e he) (hunnamed f hf)).mp (hid.trans hid'.symm)
    rcases hsame.resolve_left hne with hshift | hshift
    · exact ⟨e, he, f, hf, hshift, by rw [← hid, edgeId_of_unnamed (hunnamed e he)]⟩
    · exact ⟨f, hf, e, he, hshift, by rw [← hid', edgeId_of_unnamed (hunnamed f hf)]⟩
  · rintro ⟨e, he, f, hf, hshift, rfl⟩
    have hid := edgeId_of_unnamed (hunnamed e he)
    have hsame := (edgeId_eq_iff (hunnamed e he) (hunnamed f hf)).mpr (.inr (.inl hshift))
    exact ⟨e, he, f, hf, hshift.ends_ne, hid, hsame.symm.trans hid⟩

def shiftedDashes : Graph :=
  { nodes := ["a", "b-c-d", "a-b-c", "d", "x-y", "z"].map fun id => { id := id }
    edges :=
      [{ source := "a", target := "b-c-d" }, { source := "a-b-c", target := "d" },
       { source := "x-y", target := "z" }] }

/-- The id of the first two edges is reported, and that of the third one is not. -/
theorem duplicate_assignedId_iff_shiftedDashes :
    (∀ e ∈ shiftedDashes.edges, e.Unnamed) ∧ (shiftedDashes.edges.map Edge.ends).Nodup ∧
      "Duplicate edge id 'e-a-b-c-d'" ∈ Report.edgeErrorsFrom shiftedDashes [] shiftedDashes.edges ∧
      "Duplicate edge id 'e-x-y-z'" ∉ Report.edgeErrorsFrom shiftedDashes [] shiftedDashes.edges := by
  have hunnamed : ∀ e ∈ shiftedDashes.edges, e.Unnamed := by
    simp [shiftedDashes, Edge.Unnamed]
  have hends : (shiftedDashes.edges.map Edge.ends).Nodup := by decide
  have hreported := duplicate_assignedId_iff hunnamed hends "e-a-b-c-d"
  refine ⟨hunnamed, hends, hreported.mpr ?_, by decide⟩
  exact ⟨_, List.mem_cons_self, _, List.mem_cons_of_mem _ List.mem_cons_self,
    ⟨"b-c", by decide, by decide⟩, by decide⟩

def dashedIds : Graph :=
  { nodes :=
      [{ id := "a", type := "entry" }, { id := "b-c", type := "return" },
       { id := "a-b", type := "return" }, { id := "c", type := "return" }],
    edges := [{ source := "a", target := "b-c" }, { source := "a-b", target := "c" }] }

/-- The two edges have different ends and get one id. Nothing else is wrong with the graph, which is
refused for it. -/
theorem refused_dashedIds :
    (∀ e ∈ dashedIds.edges, e.Unnamed) ∧ (dashedIds.edges.map Edge.ends).Nodup ∧
      Report.edgeErrorsFrom dashedIds [] dashedIds.edges = ["Duplicate edge id 'e-a-b-c'"] ∧
      (Report.ofGraph (some Catalog.builtin) none dashedIds).toOption.map (·.errors) =
        some ["Duplicate edge id 'e-a-b-c'"] := by
  refine ⟨?_, by decide, by decide, by with_unfolding_all decide⟩
  simp [dashedIds, Edge.Unnamed]

end DurableFlow
