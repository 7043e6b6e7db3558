import DurableFlow.Proofs.Expression.Literal
import DurableFlow.Proofs.Json.Unambiguous
import DurableFlow.Proofs.Module.Segment
import DurableFlow.Proofs.Text.Split
import DurableFlow.Catalog.Builtin
import DurableFlow.Graph.Report

/-!
What references read. A reference that starts with the name of a step reads the result of that step,
where the code of its node has put it. Only a path behind a step that is called `state` is taken for
the id of a node.
-/

namespace DurableFlow

/-- A part of a reference that is kept as it is, wherever it stands behind a dot. -/
structure IsSegment (segment : String) : Prop where
  no_dot : '.' ∉ segment.toList
  no_blank : ∀ c ∈ segment.toList.getLast?, Text.isBlank c = false

/-- Whether a text has a last character that is a blank can be seen from that character alone. -/
theorem forall_mem_getLast?_iff {cs : List Char} :
    (∀ c ∈ cs.getLast?, Text.isBlank c = false) ↔ cs.getLast?.all (!Text.isBlank ·) = true := by
  simp [Option.all_eq_true]

instance (segment : String) : Decidable (IsSegment segment) :=
  decidable_of_iff ('.' ∉ segment.toList ∧ segment.toList.getLast?.all (!Text.isBlank ·) = true)
    ⟨fun h => ⟨h.1, forall_mem_getLast?_iff.mpr h.2⟩,
      fun h => ⟨h.no_dot, forall_mem_getLast?_iff.mp h.no_blank⟩⟩

namespace Resolver

variable {r : Resolver} {inner head id : String} {rest : List Char} {path : List String}

theorem reference_of_prefix (htrim : Text.trimChars inner.toList = "state.".toList ++ rest)
    (hparts : (Text.splitChars '.' rest).map String.ofList = id :: path) :
    r.reference inner = stateAccessor id path := by
  rw [reference, htrim, Text.after?_append]
  dsimp only
  rw [hparts]

theorem reference_of_parts (htrim : Text.trimChars inner.toList = inner.toList)
    (hopens : ¬"state.".toList <+: inner.toList) (hparts : Text.splitAt '.' inner = head :: path) :
    r.reference inner = if head ∈ r.steps then resultsVariable ++ "." ++ head ++ Path.render path
      else stateAccessor head path := by
  rw [reference, htrim, Text.after?_eq_none hopens]
  dsimp only
  rw [Text.splitAt] at hparts
  rw [hparts]

end Resolver

/-! ### References by the name of a step -/

def dotted (name : String) (path : List String) : String := ".".intercalate (name :: path)

section Dotted

variable {name : String} {path : List String}

theorem splitAt_dotted (hname : '.' ∉ name.toList) (hpath : ∀ segment ∈ path, IsSegment segment) :
    Text.splitAt '.' (dotted name path) = name :: path :=
  Text.splitAt_intercalate (List.cons_ne_nil name path)
    (List.forall_mem_cons.mpr ⟨hname, fun segment h => (hpath segment h).no_dot⟩)

theorem not_isBlank_of_getLast?_dotted (hname : ∀ c ∈ name.toList.getLast?, Text.isBlank c = false)
    (hpath : ∀ segment ∈ path, IsSegment segment) :
    ∀ c ∈ (dotted name path).toList.getLast?, Text.isBlank c = false := by
  rcases List.eq_nil_or_concat path with rfl | ⟨front, last, rfl⟩
  · rw [dotted, String.intercalate_singleton]
    exact hname
  rw [List.concat_eq_append] at hpath ⊢
  rw [dotted, ← List.cons_append, String.intercalate_append_of_ne_nil (by simp) (by simp),
    String.intercalate_singleton, String.toList_append, String.toList_append, List.append_assoc]
  intro c hc
  rw [List.getLast?_append_of_ne_nil _ (by simp)] at hc
  by_cases hempty : last.toList = []
  · rw [hempty] at hc
    obtain rfl : '.' = c := by simpa using hc
    decide
  · rw [List.getLast?_append_of_ne_nil _ hempty] at hc
    exact (hpath last (by simp)).no_blank c hc

theorem trimChars_dotted (hname : Step.IsIdentifier name.toList)
    (hpath : ∀ segment ∈ path, IsSegment segment) :
    Text.trimChars (dotted name path).toList = (dotted name path).toList := by
  have hkept : ∀ c ∈ name.toList, Text.isBlank c = false := fun c hc =>
    Text.not_isBlank_of_isWord (Text.isWord_of_isAsciiWord (hname.1 c hc))
  have hlast := not_isBlank_of_getLast?_dotted
    (fun c hc => hkept c (List.mem_of_mem_getLast? hc)) hpath
  obtain ⟨behind, hbehind⟩ := Text.intercalate_cons "." name path
  obtain ⟨c, hc, -⟩ := hname.2
  obtain ⟨cs, hcs⟩ := List.head?_eq_some_iff.mp hc
  have hhead : (dotted name path).toList = c :: (cs ++ behind.toList) := by
    rw [dotted, hbehind, String.toList_append, hcs, List.cons_append]
  rw [hhead] at hlast ⊢
  have hblank : Text.isBlank c = false := hkept c (hcs ▸ List.mem_cons_self)
  rw [Text.trimChars_of_head hblank, Text.dropEnd_eq_self_iff]
  exact hlast

/-- Only the name `state` with a path behind it starts as the references to nodes do. -/
theorem prefix_dotted_iff (hname : '.' ∉ name.toList) (hpath : ∀ segment ∈ path, IsSegment segment) :
    "state.".toList <+: (dotted name path).toList ↔ name = "state" ∧ path ≠ [] := by
  constructor
  · rintro ⟨rest, hrest⟩
    have heq : dotted name path = "state" ++ (String.singleton '.' ++ String.ofList rest) := by
      rw [← String.toList_inj, ← hrest]
      simp
    have hparts := splitAt_dotted hname hpath
    rw [heq, Text.splitAt_append (by decide)] at hparts
    obtain ⟨rfl, rfl⟩ := List.cons.inj hparts
    obtain ⟨piece, pieces, hpieces, -⟩ := Text.exists_splitChars '.' (String.ofList rest).toList
    refine ⟨rfl, ?_⟩
    rw [Text.splitAt, hpieces]
    exact List.cons_ne_nil _ _
  · rintro ⟨rfl, hne⟩
    obtain ⟨first, more, rfl⟩ := List.exists_cons_of_ne_nil hne
    refine ⟨(".".intercalate (first :: more)).toList, ?_⟩
    simp [dotted, String.intercalate_cons_cons]

/-- The name of a step reads its result, unless the name is `state` and a path stands behind it. -/
theorem Resolver.reference_dotted_iff {r : Resolver} (hname : Step.IsIdentifier name.toList)
    (hstep : name ∈ r.steps) (hpath : ∀ segment ∈ path, IsSegment segment) :
    r.reference (dotted name path) = resultsVariable ++ "." ++ name ++ Path.render path ↔
      (name = "state" → path = []) := by
  have hdot : '.' ∉ name.toList := fun hmem => absurd (hname.1 '.' hmem) (by decide)
  have htrim := trimChars_dotted hname hpath
  have hopens := prefix_dotted_iff hdot hpath
  constructor
  · rintro hread rfl
    by_contra hne
    obtain ⟨rest, hrest⟩ := hopens.mpr ⟨rfl, hne⟩
    obtain ⟨id, more, hparts, -⟩ := Text.exists_splitChars '.' rest
    rw [r.reference_of_prefix (htrim.trans hrest.symm) (by rw [hparts, List.map_cons])] at hread
    -- The state map and the map of results have different names.
    have hchars := congrArg String.toList hread
    obtain ⟨chain, -, haccessor⟩ := toList_stateAccessor (String.ofList id) (more.map String.ofList)
    rw [haccessor] at hchars
    simp [stateVariable, resultsVariable] at hchars
  · intro hstate
    have hnot : ¬"state.".toList <+: (dotted name path).toList := fun h =>
      (hopens.mp h).2 (hstate (hopens.mp h).1)
    rw [r.reference_of_parts htrim hnot (splitAt_dotted hdot hpath), if_pos hstep]

end Dotted

/-! ### Where the result of a node is put -/

namespace Fragment

theorem occurs_resultRef_ofNode {n : Node} {ctx : Context} {f : String}
    (hname : Step.IsIdentifier (ctx.stepName n).toList) (h : (ofNode n ctx).result = .ok f) :
    Text.Occurs (ctx.resultRef n ++ " = ") f := by
  have hsingle : Single (ctx.resultRef n ++ " = ") := by
    rw [resultRef_eq]
    exact ((single_chars rfl (by decide)).append (single_identifier hname)).append
      (single_chars rfl (by decide))
  obtain ⟨b, -, rfl⟩ := ofNode_eq_ok h
  refine ((startsLine_result ctx n b).occurs.indentBy hsingle "  ").block ?_
  simp [Text.indent]

end Fragment

/-- For every node of every graph, and every path behind the name of its step: the reference reads the
place that the code of the node assigns, followed by the path, exactly when the step is not called
`state` or there is no path. -/
theorem reference_stepName_iff (g : Graph) (c : Catalog) (s : CompilerSettings) {n : Node}
    (hn : n ∈ g.nodes) {path : List String} (hpath : ∀ segment ∈ path, IsSegment segment) :
    let ctx := Context.ofGraph g c s
    (Step.names g).lookup n.id = some (ctx.stepName n) ∧
      (ctx.resolver.reference (dotted (ctx.stepName n) path) = ctx.resultRef n ++ Path.render path ↔
        (ctx.stepName n = "state" → path = [])) ∧
      ctx.resolver.reference (ctx.stepName n) = ctx.resultRef n ∧
      ∀ f, (Fragment.ofNode n ctx).result = .ok f → Text.Occurs (ctx.resultRef n ++ " = ") f := by
  intro ctx
  obtain ⟨name, hlookup, hname⟩ := Step.lookup_names hn
  have hstepName : ctx.stepName n = name := by
    show ((Step.names g).lookup n.id).getD "" = name
    rw [hlookup, Option.getD_some]
  have hstep : name ∈ ctx.resolver.steps := by
    obtain ⟨front, back, hnames, -⟩ := List.lookup_eq_some_iff.mp hlookup
    show name ∈ (Step.names g).map (·.2)
    rw [hnames]
    simp
  rw [hstepName, Context.resultRef, hstepName]
  have halone := (Resolver.reference_dotted_iff hname hstep fun _ h => absurd h List.not_mem_nil).mpr
    fun _ => rfl
  refine ⟨hlookup, Resolver.reference_dotted_iff hname hstep hpath, ?_, fun f hf => ?_⟩
  · rw [dotted, String.intercalate_singleton] at halone
    rw [halone]
    exact String.append_empty
  · rw [← hstepName, ← Context.resultRef]
    exact Fragment.occurs_resultRef_ofNode (hstepName ▸ hname) hf

/-- A step that reads two levels into the result of another one. -/
theorem reference_stepName_iff_fetchUser :
    let g : Graph :=
      { nodes := [{ id := "start", type := "entry", data := { label := some "Fetch User" } }] }
    let ctx := Context.ofGraph g Catalog.builtin {}
    ∃ n ∈ g.nodes, (∀ segment ∈ ["body", "first name"], IsSegment segment) ∧
      ctx.stepName n = "fetchUser" ∧
      ctx.resolver.reference (dotted "fetchUser" ["body", "first name"]) =
        ctx.resultRef n ++ Path.render ["body", "first name"] := by
  intro g ctx
  have hn : { id := "start", type := "entry", data := { label := some "Fetch User" } } ∈ g.nodes :=
    List.mem_cons_self
  have hpath : ∀ segment ∈ ["body", "first name"], IsSegment segment := by decide
  have hname : ctx.stepName { id := "start", type := "entry", data := { label := some "Fetch User" } } =
      "fetchUser" := by decide
  obtain ⟨-, hiff, -⟩ := reference_stepName_iff g Catalog.builtin {} hn hpath
  refine ⟨_, hn, hpath, hname, ?_⟩
  have hread := hiff.mpr fun hstate => absurd (hname.symm.trans hstate) (by decide)
  rwa [hname] at hread

/-- The label `State` gives a name that is taken for the prefix of references to nodes. -/
theorem reference_stepName_state :
    let g : Graph := { nodes := [{ id := "start", type := "entry", data := { label := some "State" } }] }
    let ctx := Context.ofGraph g Catalog.builtin {}
    ∃ n ∈ g.nodes, ctx.stepName n = "state" ∧ (∀ segment ∈ ["body"], IsSegment segment) ∧
      ctx.resolver.reference "state.body" = "_workflowState[\"body\"].output" ∧
      ctx.resolver.reference "state.body" ≠ ctx.resultRef n ++ Path.render ["body"] := by
  refine ⟨_, List.mem_cons_self, ?_, ?_, ?_, ?_⟩
  · decide
  · decide
  · decide +kernel
  · decide

/-! ### References by the id of a node -/

def outputReference (id : String) : String := "\x7b\x7bstate." ++ id ++ "\x7d\x7d"

/-- The id is kept as it is in a reference. -/
structure Referable (id : String) : Prop where
  no_dot : '.' ∉ id.toList
  no_brace : '\x7d' ∉ id.toList
  no_blank : ∀ c ∈ id.toList.getLast?, Text.isBlank c = false

instance (id : String) : Decidable (Referable id) :=
  decidable_of_iff ('.' ∉ id.toList ∧ '\x7d' ∉ id.toList ∧
      id.toList.getLast?.all (!Text.isBlank ·) = true)
    ⟨fun h => ⟨h.1, h.2.1, forall_mem_getLast?_iff.mpr h.2.2⟩,
      fun h => ⟨h.no_dot, h.no_brace, forall_mem_getLast?_iff.mp h.no_blank⟩⟩

namespace Template

theorem written_inj {a b : List Char} : written a = written b ↔ a = b := by
  simp [written]

theorem of_leftmost_single {cs inner : List Char} (h : Leftmost cs [] [(inner, [])]) :
    IsInner inner ∧ cs = written inner := by
  generalize htext : ([] : List Char) = text at h
  cases h with
  | ref _ hinner hrest =>
      subst htext
      cases hrest with
      | plain => exact ⟨hinner, by simp⟩

end Template

theorem toList_outputReference (id : String) :
    (outputReference id).toList = Template.written ("state.".toList ++ id.toList) := by
  simp [outputReference, Template.written]

theorem trimChars_prefixed (cs : List Char) :
    Text.trimChars ("state.".toList ++ cs) = "state.".toList ++ Text.dropEnd Text.isBlank cs := by
  have hopens : "state.".toList = ['s', 't', 'a', 't', 'e', '.'] := by decide
  rw [hopens, List.cons_append, Text.trimChars_of_head (by decide), ← List.cons_append]
  exact Text.dropEnd_append_of_last ⟨'.', rfl, by decide⟩ cs

namespace Resolver

variable (r : Resolver) (id : String)

theorem exists_reference_prefixed :
    ∃ first path, r.reference (String.ofList ("state.".toList ++ id.toList)) =
        stateAccessor (String.ofList first) path ∧
      first <+: Text.dropEnd Text.isBlank id.toList ∧ '.' ∉ first ∧
      (Text.splitChars '.' (Text.dropEnd Text.isBlank id.toList)).map String.ofList =
        String.ofList first :: path := by
  obtain ⟨first, more, hparts, hopens, hdot⟩ :=
    Text.exists_splitChars '.' (Text.dropEnd Text.isBlank id.toList)
  have hmap : (Text.splitChars '.' (Text.dropEnd Text.isBlank id.toList)).map String.ofList =
      String.ofList first :: more.map String.ofList := by
    rw [hparts, List.map_cons]
  refine ⟨first, more.map String.ofList, ?_, hopens, hdot, hmap⟩
  refine r.reference_of_prefix ?_ hmap
  rw [String.toList_ofList, trimChars_prefixed]

theorem string_outputReference_single
    (h : r.string (outputReference id) = stateEntry id ++ ".output") : '\x7d' ∉ id.toList ∧
      r.string (outputReference id) =
        r.reference (String.ofList ("state.".toList ++ id.toList)) := by
  have hstart : ∃ rest, (r.string (outputReference id)).toList = '_' :: rest := by
    rw [h]
    exact ⟨_, by simp [stateEntry, stateEntryAt, stateVariable]; rfl⟩
  obtain ⟨rest, hrest⟩ := hstart
  obtain ⟨text, parts, hcut⟩ := Template.exists_leftmost (outputReference id).toList
  by_cases hplain : parts = []
  · subst hplain
    rw [r.string_plain hcut, toList_quote] at hrest
    exact absurd (List.cons.inj hrest).1 (by decide)
  by_cases hmixed : ∀ inner, ¬(text = [] ∧ parts = [(inner, [])])
  · rw [r.string_mixed hcut hplain hmixed] at hrest
    exact absurd (List.cons.inj hrest).1 (by decide)
  · obtain ⟨inner, rfl, rfl⟩ : ∃ inner, text = [] ∧ parts = [(inner, [])] := by
      simpa only [not_forall, not_not] using hmixed
    obtain ⟨hinner, hwritten⟩ := Template.of_leftmost_single hcut
    rw [toList_outputReference, Template.written_inj] at hwritten
    subst hwritten
    refine ⟨fun hmem => hinner.2 (List.mem_append_right _ hmem), r.string_single hcut⟩

/-- The reference is one piece when there is no closing brace in the id. -/
theorem string_outputReference_of_no_brace (h : '\x7d' ∉ id.toList) :
    r.string (outputReference id) = r.reference (String.ofList ("state.".toList ++ id.toList)) := by
  have hinner : Template.IsInner ("state.".toList ++ id.toList) := by
    refine ⟨by simp, fun hmem => ?_⟩
    rcases List.mem_append.mp hmem with hmem | hmem
    · exact absurd hmem (by decide)
    · exact h hmem
  refine r.string_single ?_
  rw [toList_outputReference, ← List.append_nil (Template.written _)]
  exact Template.leftmost_nil.written hinner

/-- The reference to the output of a node reads it exactly when the id is kept. -/
theorem string_outputReference_iff :
    r.string (outputReference id) = stateEntry id ++ ".output" ↔ Referable id := by
  obtain ⟨first, path, hread, hopens, hdot, hparts⟩ := r.exists_reference_prefixed id
  constructor
  · intro h
    obtain ⟨hbrace, hsingle⟩ := r.string_outputReference_single id h
    rw [hsingle, hread] at h
    obtain ⟨chain, -, haccessor⟩ := toList_stateAccessor (String.ofList first) path
    have hchars := congrArg String.toList h
    rw [haccessor, String.toList_append, stateEntry_eq] at hchars
    have hquoted : Json.quoteChars first ++ (']' :: chain) =
        Json.quoteChars id.toList ++ (']' :: ".output".toList) := by
      simpa [stateVariable] using hchars
    have hid : first = id.toList := (Json.quoteChars_cut hquoted).1
    -- The first part is within the trimmed id, so nothing was trimmed.
    obtain ⟨trail, htrail, -⟩ := Text.exists_dropped Text.isBlank id.toList
    have hfront : Text.dropEnd Text.isBlank id.toList <+: id.toList := ⟨trail, htrail.symm⟩
    have htrimmed := hfront.eq_of_length_le (hid ▸ hopens.length_le)
    exact ⟨hid ▸ hdot, hbrace, Text.dropEnd_eq_self_iff.mp htrimmed⟩
  · rintro ⟨hno, hbrace, hblank⟩
    rw [Text.dropEnd_eq_self_iff.mpr hblank, Text.splitChars_of_not_mem hno, List.map_singleton]
      at hparts
    obtain ⟨hfirst, rfl⟩ := List.cons.inj hparts
    rw [r.string_outputReference_of_no_brace id hbrace, hread, ← hfirst, String.ofList_toList,
      stateAccessor]
    rfl

end Resolver

/-- For every node of every graph: the reference to its output reads the entry of the state that the code
of the node assigns, exactly when the id of the node is kept in references. -/
theorem string_outputReference_reads_iff (g : Graph) (c : Catalog) (s : CompilerSettings) (n : Node) :
    let ctx := Context.ofGraph g c s
    (ctx.resolver.string (outputReference n.id) = stateEntry n.id ++ ".output" ↔ Referable n.id) ∧
      ∀ f, (Fragment.ofNode n ctx).result = .ok f → Text.Occurs (assignment n.id) f :=
  ⟨Resolver.string_outputReference_iff _ n.id, fun _ hf => Fragment.occurs_ofNode hf⟩

/-- Blanks in an id are kept, as long as none is the last character. -/
theorem string_outputReference_reads_iff_innerBlank :
    let n : Node := { id := " user 1", type := "entry" }
    let ctx := Context.ofGraph { nodes := [n] } Catalog.builtin {}
    ctx.resolver.string (outputReference n.id) = stateEntry n.id ++ ".output" ∧
      ∃ f, (Fragment.ofNode n ctx).result = .ok f ∧ Text.Occurs (assignment n.id) f := by
  intro n ctx
  obtain ⟨hiff, hassigns⟩ := string_outputReference_reads_iff { nodes := [n] } Catalog.builtin {} n
  refine ⟨hiff.mpr (by decide), ?_⟩
  have hok : (Fragment.ofNode n ctx).result.isOk = true := by decide
  cases hf : (Fragment.ofNode n ctx).result with
  | error e =>
      rw [hf] at hok
      contradiction
  | ok f => exact ⟨f, rfl, hassigns f hf⟩

/-- A document with a node whose id has a dot is accepted, and the reference to its output reads the entry
of another id. -/
theorem string_outputReference_dottedId :
    let document : Json := .obj [("nodes", .arr [.obj [("id", .str "a.b"), ("type", .str "entry")]])]
    ∃ r g, Report.ofDocument (some Catalog.builtin) none document = .ok r ∧ r.errors = [] ∧
      r.graph = some g ∧ "a.b" ∈ g.ids ∧
      let ctx := Context.ofGraph g Catalog.builtin {}
      ctx.resolver.string (outputReference "a.b") = "_workflowState[\"a\"].b" ∧
      ctx.resolver.string (outputReference "a.b") ≠ stateEntry "a.b" ++ ".output" := by
  intro document
  have hreport : (Report.ofDocument (some Catalog.builtin) none document).toOption.map
      (fun r => (r.errors, r.graph.map (·.ids))) = some ([], some ["a.b"]) := by
    with_unfolding_all decide
  obtain ⟨r, hr, hfound⟩ := map_toOption_eq_some hreport
  obtain ⟨herrors, hgraph⟩ := Prod.mk.inj hfound
  obtain ⟨g, hg, hids⟩ := Option.map_eq_some_iff.mp hgraph
  refine ⟨r, g, hr, herrors, hg, by simp [hids], ?_, fun h => ?_⟩
  · have htrim : Text.trimChars (String.ofList ("state.".toList ++ "a.b".toList)).toList =
        "state.".toList ++ "a.b".toList := by decide
    have hparts : (Text.splitChars '.' "a.b".toList).map String.ofList = ["a", "b"] := by
      decide
    rw [Resolver.string_outputReference_of_no_brace _ _ (by decide),
      Resolver.reference_of_prefix htrim hparts]
    decide
  · exact absurd ((Resolver.string_outputReference_iff _ _).mp h).no_dot (by decide)

end DurableFlow
