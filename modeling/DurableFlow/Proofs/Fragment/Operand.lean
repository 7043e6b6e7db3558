import DurableFlow.Proofs.Expression.Reference

/-!
What an operand without references reads. Where the path of an operand names its own node, a field of the
payload is read instead. The test for that takes the path as it is written, and a reference without the
blanks at its end. Main statement: an operand reads the state of its own node exactly when the path is the
id of the node with blanks behind it.
-/

namespace DurableFlow.Fragment

variable {path : String} (n : Node) (ctx : Context)

/-- The expression reads the entry of a node, or something inside it. -/
def ReadsEntry (id expression : String) : Prop := (stateEntry id).toList <+: expression.toList

theorem readsEntry_stateAccessor {id id' : String} {segments : List String} :
    ReadsEntry id (Resolver.stateAccessor id' segments) ↔ id' = id := by
  obtain ⟨chain, -, haccessor⟩ := Resolver.toList_stateAccessor id' segments
  have hentry : (stateEntry id).toList =
      stateVariable.toList ++ '[' :: (Json.quoteChars id.toList ++ [']']) := by
    simp [stateEntry_eq, stateVariable]
  rw [ReadsEntry, haccessor, hentry]
  constructor
  · rintro ⟨rest, hrest⟩
    have hquoted : Json.quoteChars id.toList ++ (']' :: rest) =
        Json.quoteChars id'.toList ++ (']' :: chain) := by
      simpa using hrest
    exact String.toList_inj.mp (Json.quoteChars_cut hquoted).1.symm
  · rintro rfl
    exact ⟨chain, by simp⟩

theorem not_readsEntry_root {id root : String} (h : root ∈ ["event", "inputData", "event.payload"])
    (rest : String) : ¬ReadsEntry id (root ++ rest) := by
  rintro ⟨more, hmore⟩
  have hhead := congrArg List.head? hmore
  simp only [List.mem_cons, List.not_mem_nil, or_false] at h
  rcases h with rfl | rfl | rfl <;> simp [stateEntry_eq] at hhead

/-- An operand without references reads another node, or the input in place of its own node, or whatever
else it names. -/
theorem pathExpression_cases (hrefs : Template.hasRefs path = false) :
    (∃ id rest, Text.splitAt '.' path = "state" :: id :: rest ∧ id ≠ n.id ∧
      (pathExpression path n ctx).result = .ok (ctx.resolver.reference path)) ∨
    (∃ rest, Text.splitAt '.' path = "state" :: n.id :: rest ∧
      (pathExpression path n ctx).result = .ok ("event.payload" ++ Path.render rest)) ∨
    ((∀ id rest, Text.splitAt '.' path ≠ "state" :: id :: rest) ∧
      ∃ root ∈ ["event", "inputData", "event.payload"], ∃ rest,
        (pathExpression path n ctx).result = .ok (root ++ rest)) := by
  rw [pathExpression, hrefs, if_neg Bool.false_ne_true]
  dsimp only
  split
  · next rest hsegments =>
    refine .inr (.inr ⟨fun id rest' h => ?_, "event", by simp, _, rfl⟩)
    rw [hsegments] at h
    exact absurd (List.cons.inj h).1 (by decide)
  · next id rest hsegments =>
    split
    next hother => exact .inl ⟨id, rest, hsegments, hother, rfl⟩
    next hown =>
      obtain rfl := not_not.mp hown
      exact .inr (.inl ⟨rest, hsegments, rfl⟩)
  · next head rest hevent hstate hsegments =>
    refine .inr (.inr ⟨fun id rest' h => ?_, ?_⟩)
    · obtain ⟨rfl, rfl⟩ := List.cons.inj (hsegments.symm.trans h)
      exact hstate id rest' rfl rfl
    · split
      · exact ⟨"inputData", by simp, _, rfl⟩
      · exact ⟨"event.payload", by simp, _, rfl⟩
  · next hsegments =>
    obtain ⟨first, pieces, hpieces, -⟩ := Text.exists_splitChars '.' path.toList
    rw [Text.splitAt, hpieces] at hsegments
    cases hsegments

/-! ### The path of a node with blanks behind it -/

def IsBlanked (id path : String) : Prop :=
  IsSegment id ∧ ∃ blanks : String, blanks ≠ "" ∧ (∀ c ∈ blanks.toList, Text.isBlank c = true) ∧
    path = "state." ++ id ++ blanks

/-- The test for the own node does not take the blanks for a part of the id. -/
theorem IsBlanked.splitAt {id path : String} (h : IsBlanked id path) :
    ∃ segment, segment ≠ id ∧ Text.splitAt '.' path = ["state", segment] := by
  obtain ⟨hid, blanks, hne, hblanks, rfl⟩ := h
  refine ⟨id ++ blanks, fun heq => hne ?_, ?_⟩
  · have hchars := congrArg String.toList heq
    simpa using hchars
  have hdot : '.' ∉ (id ++ blanks).toList := by
    rw [String.toList_append, List.mem_append, not_or]
    exact ⟨hid.no_dot, fun hmem => absurd (hblanks _ hmem) (by decide)⟩
  have hpath : "state." ++ id ++ blanks = "state" ++ (String.singleton '.' ++ (id ++ blanks)) := by
    simp [← String.toList_inj]
  rw [hpath, Text.splitAt_append (by decide), Text.splitAt_of_not_mem hdot]

theorem exists_prefixed {id : String} {rest : List String}
    (h : Text.splitAt '.' path = "state" :: id :: rest) :
    ∃ t : String, path = String.ofList ("state.".toList ++ t.toList) ∧
      Text.splitAt '.' t = id :: rest := by
  obtain ⟨first, pieces, hpieces, -⟩ := Text.exists_splitChars '.' path.toList
  rw [Text.splitAt, hpieces] at h
  obtain ⟨hfirst, hrest⟩ := List.cons.inj h
  rcases Text.of_splitChars_eq_cons hpieces with ⟨rfl, -⟩ | ⟨t, hpath, hsplit⟩
  · cases hrest
  refine ⟨String.ofList t, ?_, ?_⟩
  · rw [← String.toList_inj, hpath, ← String.toList_ofList (l := first), hfirst]
    simp
  · rw [Text.splitAt, String.toList_ofList, hsplit, hrest]

/-- A reference reads the node of the path exactly when the path is its id with blanks behind it, if the
path is not taken for that of the node. -/
theorem readsEntry_reference_iff (r : Resolver) {id segment : String} {rest : List String}
    (h : Text.splitAt '.' path = "state" :: segment :: rest) (hne : segment ≠ id) :
    ReadsEntry id (r.reference path) ↔ IsBlanked id path := by
  obtain ⟨t, rfl, hparts⟩ := exists_prefixed h
  obtain ⟨first, more, hread, -, hdot, hmore⟩ := r.exists_reference_prefixed t
  obtain ⟨piece, pieces, hpieces, -⟩ :=
    Text.exists_splitChars '.' (Text.dropEnd Text.isBlank t.toList)
  obtain rfl : piece = first := by
    rw [hpieces, List.map_cons, List.cons.injEq] at hmore
    exact String.ofList_injective hmore.1
  rw [hread, readsEntry_stateAccessor]
  constructor
  · rintro rfl
    rcases Text.of_splitChars_eq_cons hpieces with ⟨-, hfront⟩ | ⟨behind, hfront, -⟩
    · obtain ⟨hlast, blanks, ht, hblanks⟩ := Text.dropEnd_eq_iff.mp hfront
      refine ⟨⟨by simpa using hdot, by simpa using hlast⟩, String.ofList blanks, fun hnil => ?_,
        by simpa using hblanks, by simp [← String.toList_inj, ht]⟩
      -- Without blanks, the part behind the prefix would be the id.
      have hnone : blanks = [] := by simpa using congrArg String.toList hnil
      rw [Text.splitAt, ht, hnone, List.append_nil, Text.splitChars_of_not_mem hdot] at hparts
      exact hne (List.cons.inj hparts).1.symm
    · -- A dot behind the first part is found in the path as well.
      obtain ⟨trail, ht, -⟩ := Text.exists_dropped Text.isBlank t.toList
      rw [hfront, List.append_assoc, List.cons_append] at ht
      rw [Text.splitAt, ht, Text.splitChars_append hdot] at hparts
      exact absurd (List.cons.inj hparts).1.symm hne
  · rintro ⟨hid, blanks, -, hblanks, hpath⟩
    have ht : t.toList = id.toList ++ blanks.toList := by
      simpa [← String.toList_inj] using hpath
    rw [Text.dropEnd_eq_iff.mpr ⟨hid.no_blank, blanks.toList, ht, hblanks⟩,
      Text.splitChars_of_not_mem hid.no_dot] at hpieces
    rw [← (List.cons.inj hpieces).1, String.ofList_toList]

/-- An operand without references reads the state of its own node exactly when its path is the id of the
node with blanks behind it. Where the path names the node itself, it reads a field of the payload. -/
theorem pathExpression_reads_own_iff (hrefs : Template.hasRefs path = false) :
    ∃ expression, (pathExpression path n ctx).result = .ok expression ∧
      (ReadsEntry n.id expression ↔ IsBlanked n.id path) ∧
      ∀ rest, Text.splitAt '.' path = "state" :: n.id :: rest →
        expression = "event.payload" ++ Path.render rest := by
  rcases pathExpression_cases n ctx hrefs with
    ⟨id, rest, hparts, hne, hresult⟩ | ⟨rest, hparts, hresult⟩ | ⟨hother, root, hroot, rest, hresult⟩
  · refine ⟨_, hresult, readsEntry_reference_iff _ hparts hne, fun rest' hown => ?_⟩
    rw [hparts] at hown
    exact absurd (List.cons.inj (List.cons.inj hown).2).1 hne
  · refine ⟨_, hresult, iff_of_false ?_ fun h => ?_, fun rest' hown => ?_⟩
    · exact not_readsEntry_root (by simp) _
    · obtain ⟨segment, hsegment, hblanked⟩ := h.splitAt
      rw [hparts] at hblanked
      exact hsegment (List.cons.inj (List.cons.inj hblanked).2).1.symm
    · rw [hparts] at hown
      rw [(List.cons.inj (List.cons.inj hown).2).2]
  · refine ⟨_, hresult, iff_of_false ?_ fun h => ?_, fun rest' hown => absurd hown (hother _ _)⟩
    · exact not_readsEntry_root hroot rest
    · obtain ⟨segment, -, hblanked⟩ := h.splitAt
      exact hother _ _ hblanked

theorem pathExpression_reads_own_iff_tier :
    let n : Node := { id := "r", type := "conditional-router" }
    let ctx := Context.ofGraph { nodes := [n] } Catalog.builtin {}
    Template.hasRefs "state.r.tier" = false ∧
      (pathExpression "state.r.tier" n ctx).result = .ok ("event.payload" ++ Path.render ["tier"]) ∧
      ¬ReadsEntry "r" ("event.payload" ++ Path.render ["tier"]) := by
  intro n ctx
  have hrefs : Template.hasRefs "state.r.tier" = false := by decide
  have hparts : Text.splitAt '.' "state.r.tier" = ["state", "r", "tier"] := by decide
  obtain ⟨expression, hresult, hown, hfield⟩ :=
    pathExpression_reads_own_iff n ctx hrefs
  obtain rfl := hfield ["tier"] hparts
  refine ⟨hrefs, hresult, fun hreads => ?_⟩
  obtain ⟨segment, -, hblanked⟩ := (hown.mp hreads).splitAt
  rw [hparts] at hblanked
  cases hblanked

/-- With a blank behind its id, a node reads its own state, which is not there yet. -/
theorem reads_own_blank :
    let n : Node := { id := "r", type := "conditional-router" }
    let ctx := Context.ofGraph { nodes := [n] } Catalog.builtin {}
    Template.hasRefs "state.r " = false ∧
      (pathExpression "state.r " n ctx).result = .ok "_workflowState[\"r\"].output" ∧
      ReadsEntry n.id "_workflowState[\"r\"].output" := by
  intro n ctx
  have hfound : (pathExpression "state.r " n ctx).result.toOption.map id =
      some "_workflowState[\"r\"].output" := by
    decide
  obtain ⟨expression, hresult, rfl⟩ := map_toOption_eq_some hfound
  exact ⟨by decide, hresult, ".output".toList, by decide⟩

end DurableFlow.Fragment
