import DurableFlow.Proofs.Compile.Defined
import DurableFlow.Proofs.Step.Identifier
import DurableFlow.Proofs.Text.Line

/-!
Comments in a module. The comments around a fragment and the one in the code of an unknown type hold
texts of the graph: the name of a node with its blanks collapsed, a type in quotes, but ids, and the
type around a fragment, as they stand. A comment fills a line of its own exactly when those that
stand as they are have no line breaks.
-/

namespace DurableFlow

theorem single_append_iff {s t : String} : Single (s ++ t) ↔ Single s ∧ Single t := by
  simp only [Single, String.toList_append, List.mem_append, or_imp, forall_and]

/-- What stands between single lines decides whether the whole is one. -/
theorem single_between_iff {a t b : String} (ha : Single a) (hb : Single b) :
    Single (a ++ t ++ b) ↔ Single t :=
  ⟨fun h => (single_append_iff.mp (single_append_iff.mp h).1).2, fun h => (ha.append h).append hb⟩

theorem single_singleLine (s : String) : Single (Text.singleLine s) := by
  refine Text.forall_mem_intercalate (single_chars rfl (by decide)) fun word hword => ?_
  obtain ⟨run, hrun, rfl⟩ := List.mem_map.mp hword
  intro c hc hbreak
  rw [String.toList_ofList] at hc
  have hsolid := (Text.of_mem_runs hrun).2.2 c hc
  rw [Text.isBlank_of_isLineBreak hbreak] at hsolid
  contradiction

theorem Code.render_text (s : String) : Code.render [.text s] = s := String.empty_append

theorem Code.map_render_texts (lines : List String) :
    (Code.texts lines).map Code.render = lines := by
  rw [Code.texts, List.map_map]
  exact (List.map_congr_left fun s _ => Code.render_text s).trans (List.map_id lines)

namespace Fragment

/-! ### The comments of a node -/

def startComment (n : Node) : String := "// === NODE START: " ++ marker n ++ " ==="

def endComment (n : Node) : String := "// === NODE END: " ++ marker n ++ " ==="

def unsupportedComment (n : Node) : String :=
  "// Unsupported node type " ++ Json.quote n.type ++ " (" ++ n.id ++ "): passing input through"

theorem single_marker_iff (n : Node) : Single (marker n) ↔ Single n.type ∧ Single n.id := by
  have hopen : Single " (" := single_chars rfl (by decide)
  have hmiddle : Single ") [" := single_chars rfl (by decide)
  have hclose : Single "]" := single_chars rfl (by decide)
  constructor
  · intro h
    have hfront := (single_append_iff.mp h).1
    have htype := (single_append_iff.mp (single_append_iff.mp (single_append_iff.mp hfront).1).1).1
    exact ⟨(single_append_iff.mp htype).1, (single_append_iff.mp hfront).2⟩
  · rintro ⟨htype, hid⟩
    exact ((((htype.append hopen).append (single_singleLine n.displayName)).append
      hmiddle).append hid).append hclose

theorem single_startComment_iff (n : Node) :
    Single (startComment n) ↔ Single n.type ∧ Single n.id :=
  (single_between_iff (single_chars rfl (by decide)) (single_chars rfl (by decide))).trans
    (single_marker_iff n)

theorem single_endComment_iff (n : Node) :
    Single (endComment n) ↔ Single n.type ∧ Single n.id :=
  (single_between_iff (single_chars rfl (by decide)) (single_chars rfl (by decide))).trans
    (single_marker_iff n)

theorem single_unsupportedComment_iff (n : Node) :
    Single (unsupportedComment n) ↔ Single n.id := by
  refine single_between_iff (.append (.append ?_ (single_quote n.type)) ?_) ?_
  all_goals exact single_chars rfl (by decide)

/-! ### Where the comments stand -/

theorem within_wrap_start (n : Node) (code : String) : Text.Within (startComment n) (wrap n code) :=
  Text.Within.block List.mem_cons_self

/-- What follows a line feed in an id is a line behind the start of the comment. -/
theorem within_startComment {n : Node} {before behind : String}
    (h : n.id = before ++ "\n" ++ behind) :
    Text.Within (behind ++ "]" ++ " ===") (startComment n) :=
  Text.Within.behind_feed h "// === NODE START: "
    (n.type ++ " (" ++ Text.singleLine n.displayName ++ ") [") "]" " ==="

theorem within_wrap_end (n : Node) (code : String) : Text.Within (endComment n) (wrap n code) :=
  Text.Within.block (List.mem_of_getLast? rfl)

theorem within_wrap_code (n : Node) (code : String) :
    Text.Within (Text.indent code) (wrap n code) :=
  Text.Within.block (List.mem_of_getElem? (i := 3) rfl)

theorem within_passthrough (n : Node) (ctx : Context) :
    Text.Within (unsupportedComment n) ((passthrough n ctx).render ctx n) := by
  refine Text.Within.block (List.mem_append_left _ ?_)
  rw [Code.map_render_texts]
  exact List.mem_singleton_self _

end Fragment

namespace Module

/-- A line of a fragment is a line of the module. -/
theorem ownLine_source {fragments : List String} {className workflow : String}
    {tool : Option Node} {outputStep : Json} {text f line : String} (margin : String)
    (h : source fragments className workflow tool outputStep = .ok text) (hf : f ∈ fragments)
    (hwithin : Text.Within (margin ++ line) f) (hmargin : margin.toList.all Text.isBlank = true)
    (hsingle : Single (margin ++ line)) (hfull : Full line) : Text.OwnLine line text := by
  obtain ⟨sections, -, rfl⟩ := source_eq_ok h
  have hlaid : Text.Within (methodMargin ++ (margin ++ line)) (laidOut fragments) := by
    rw [← indentBy_single hsingle (hfull.behind margin) methodMargin]
    exact (hwithin.indentBy methodMargin).trans
      (Text.Within.intercalate (x := "\n") (y := "\n") rfl rfl (List.mem_map_of_mem hf))
  obtain ⟨before, hopening⟩ := opening_ends className workflow tool
  obtain ⟨behind, hclosing⟩ := closing_starts workflow sections
  obtain ⟨before', behind', hlaid⟩ := hlaid
  have hsplit : opening className workflow tool ++ laidOut fragments ++ closing workflow sections =
      before ++ before' ++ "\n" ++
        (methodMargin ++ (margin ++ line) ++ "\n" ++ (behind' ++ behind)) := by
    calc opening className workflow tool ++ laidOut fragments ++ closing workflow sections
        = before ++ ("\n" ++ laidOut fragments ++ "\n") ++ behind := by
          rw [hopening, hclosing]
          simp only [String.append_assoc]
      _ = _ := by
          rw [hlaid]
          simp only [String.append_assoc]
  refine ⟨methodMargin.toList ++ margin.toList, ?_, ?_⟩
  · rw [List.all_append, hmargin]
    rfl
  · have hline : Single (methodMargin ++ (margin ++ line)) :=
      (single_chars rfl (by decide)).append hsingle
    have hmem :=
      Text.mem_linesOf_between hline (before ++ before').toList (behind' ++ behind).toList
    rw [hsplit]
    simpa using hmem

end Module

namespace Compile

theorem exists_fragment {c : Catalog} {s : CompilerSettings} {o : CompileOptions} {g : Graph}
    {a : Artifact} {made : List String} (h : Compiled c s o g a made) (hlinked : g.WellLinked)
    {n : Node} (hn : n ∈ g.nodes) :
    ∃ f ∈ made, (Fragment.ofNode n (Context.ofGraph g c s)).result = .ok f := by
  have hmem := (mem_order_iff h.order).mpr (List.mem_map_of_mem hn)
  obtain ⟨i, hi⟩ := List.mem_iff_getElem?.mp hmem
  obtain ⟨f, m, hf, hm, hmade⟩ := made_getElem h.made hi
  have hsame : g.node? n.id = some m := hm
  rw [node?_of_mem hlinked.nodup hn, Option.some.injEq] at hsame
  subst hsame
  exact ⟨f, List.mem_of_getElem? hf, hmade⟩

end Compile

namespace Fragment

/-- The comments of a node, each in a line of the text by itself. -/
structure Commented (n : Node) (text : String) : Prop where
  start : Text.OwnLine (startComment n) text
  stop : Text.OwnLine (endComment n) text
  unsupported : generators.lookup n.type = none → Text.OwnLine (unsupportedComment n) text

theorem full_startComment (n : Node) : Full (startComment n) :=
  ((full_chars rfl (by decide)).append _).append _

theorem full_endComment (n : Node) : Full (endComment n) :=
  ((full_chars rfl (by decide)).append _).append _

theorem full_unsupportedComment (n : Node) : Full (unsupportedComment n) :=
  ((((full_chars rfl (by decide)).append _).append _).append _).append _

theorem single_of_ownLine {line text : String} {last : Char}
    (hlast : line.toList.getLast? = some last) (hplain : ¬Text.isLineBreak last = true)
    (h : Text.OwnLine line text) : Single line := by
  obtain ⟨margin, -, hmem⟩ := h
  obtain ⟨front, hchars⟩ := List.getLast?_eq_some_iff.mp hlast
  rw [hchars] at hmem
  rw [Single, hchars]
  exact Text.not_isLineBreak_of_line hmem hplain

theorem getLast?_append_chars {s t : String} {cs : List Char} {c : Char} (ht : t = String.ofList cs)
    (hc : cs.getLast? = some c) : (s ++ t).toList.getLast? = some c := by
  rw [ht, String.toList_append, String.toList_ofList, List.getLast?_append, hc, Option.some_or]

theorem getLast?_startComment (n : Node) : (startComment n).toList.getLast? = some '=' :=
  getLast?_append_chars rfl rfl

/-- In a module with the fragment of a node, its comments fill lines of their own. -/
theorem commented_source {ctx : Context} {n : Node} {fragments : List String}
    {className workflow : String} {tool : Option Node} {outputStep : Json} {text f : String}
    (h : Module.source fragments className workflow tool outputStep = .ok text) (hf : f ∈ fragments)
    (hmade : (ofNode n ctx).result = .ok f) (htype : Single n.type) (hid : Single n.id) :
    Commented n text := by
  obtain ⟨b, hbody, rfl⟩ := ofNode_eq_ok hmade
  have hmargin : Single "" := single_chars rfl (by decide)
  refine ⟨?_, ?_, fun hunknown => ?_⟩
  · refine Module.ownLine_source "" h hf ?_ rfl ?_ (full_startComment n)
    · rw [String.empty_append]
      exact within_wrap_start n _
    · exact hmargin.append ((single_startComment_iff n).mpr ⟨htype, hid⟩)
  · refine Module.ownLine_source "" h hf ?_ rfl ?_ (full_endComment n)
    · rw [String.empty_append]
      exact within_wrap_end n _
    · exact hmargin.append ((single_endComment_iff n).mpr ⟨htype, hid⟩)
  · -- This comment is part of the body, which is set in once more than the comments around it.
    have hpassed : b = passthrough n ctx := by
      rw [body, hunknown] at hbody
      exact (Except.ok.inj hbody).symm
    have hsingle := (single_unsupportedComment_iff n).mpr hid
    have hindented : Text.indent (unsupportedComment n) = "  " ++ unsupportedComment n :=
      indentBy_single hsingle (full_unsupportedComment n) "  "
    refine Module.ownLine_source "  " h hf ?_ rfl
      ((single_chars rfl (by decide)).append hsingle) (full_unsupportedComment n)
    rw [← hindented, hpassed]
    exact ((within_passthrough n ctx).indentBy "  ").trans (within_wrap_code n _)

end Fragment

open Fragment in
/-- In the module of any graph that compiles, the comments of a node fill lines of their own exactly
when neither its type nor its id has a line break. Its label may have any. -/
theorem compile_commented_iff {c : Catalog} {s : CompilerSettings} {o : CompileOptions}
    {input : GraphInput} {a : Artifact} (h : (compile c s o input).result = .ok a) :
    ∃ g, input.graph? = some g ∧
      ∀ n ∈ g.nodes, Commented n a.moduleSource ↔ Single n.type ∧ Single n.id := by
  obtain ⟨g, _, hg, -, -, -⟩ := compile_eq_ok h
  obtain ⟨hlinked, ⟨made, hcompiled⟩, -⟩ := compiled_of_compile h hg
  refine ⟨g, hg, fun n hn => ⟨fun hcommented => ?_, fun hsingle => ?_⟩⟩
  · rw [← single_startComment_iff]
    exact single_of_ownLine (getLast?_startComment n) (by decide) hcommented.start
  · obtain ⟨f, hf, hmade⟩ := Compile.exists_fragment hcompiled hlinked hn
    exact commented_source hcompiled.source hf hmade hsingle.1 hsingle.2

/-- A label over two lines, and a node of a type without code. -/
def labelOverLines : Graph :=
  { nodes := [{ id := "a", type := "entry", data := { label := some "Start\nHere" } },
      { id := "b", type := "unheard-of" }],
    edges := [{ source := "a", target := "b" }] }

theorem compile_commented_iff_labelOverLines :
    ∃ a, (compile Catalog.builtin {} {} (.graph labelOverLines)).result = .ok a ∧
      ∀ n ∈ labelOverLines.nodes, Fragment.Commented n a.moduleSource := by
  have hok : (compile Catalog.builtin {} {} (.graph labelOverLines)).result.isOk = true := by
    with_unfolding_all decide
  have hsingle : ∀ n ∈ labelOverLines.nodes, Single n.type ∧ Single n.id := by
    simp only [labelOverLines, List.forall_mem_cons, List.not_mem_nil, false_imp_iff, implies_true,
      and_true]
    exact ⟨⟨single_chars rfl rfl, single_chars rfl rfl⟩, single_chars rfl rfl, single_chars rfl rfl⟩
  cases h : (compile Catalog.builtin {} {} (.graph labelOverLines)).result with
  | error e =>
      rw [h] at hok
      contradiction
  | ok a =>
      obtain ⟨g, hg, hiff⟩ := compile_commented_iff h
      obtain rfl := Option.some.inj hg
      exact ⟨a, rfl, fun n hn => (hiff n hn).mpr (hsingle n hn)⟩

/-- In a module with the fragment of a node, what follows a line feed in its id is a line of its
own. -/
theorem Fragment.ownLine_of_broken {ctx : Context} {n : Node} {fragments : List String}
    {className workflow : String} {tool : Option Node} {outputStep : Json}
    {text f before behind : String}
    (h : Module.source fragments className workflow tool outputStep = .ok text) (hf : f ∈ fragments)
    (hmade : (ofNode n ctx).result = .ok f) (hid : n.id = before ++ "\n" ++ behind)
    (hsingle : Single (behind ++ "]" ++ " ===")) (hfull : Full (behind ++ "]" ++ " ===")) :
    Text.OwnLine (behind ++ "]" ++ " ===") text := by
  obtain ⟨b, -, rfl⟩ := ofNode_eq_ok hmade
  refine Module.ownLine_source "" h hf ?_ rfl ?_ hfull
  · rw [String.empty_append]
    exact (within_startComment hid).trans (within_wrap_start n _)
  · exact (single_chars rfl (by decide)).append hsingle

/-- A document whose only node has an id over two lines. -/
def idOverLines : Json :=
  .obj [("nodes", .arr [.obj [("id", .str "a\ninjected(); //"), ("type", .str "entry")]])]

/-- The document is accepted and compiled, but the comment at the start of its fragment is broken by
the id, and what follows the break is a line of code. -/
theorem not_commented_idOverLines :
    ∃ g n a, (GraphInput.document idOverLines).graph? = some g ∧ n ∈ g.nodes ∧
      (compile Catalog.builtin {} {} (.document idOverLines)).result = .ok a ∧
      ¬Fragment.Commented n a.moduleSource ∧
      Text.OwnLine ("injected(); //" ++ "]" ++ " ===") a.moduleSource := by
  have hids : (GraphInput.document idOverLines).graph?.map Graph.ids =
      some ["a\ninjected(); //"] := by
    decide
  have hok : (compile Catalog.builtin {} {} (.document idOverLines)).result.isOk = true := by
    with_unfolding_all decide
  obtain ⟨g, hg, hids⟩ := Option.map_eq_some_iff.mp hids
  obtain ⟨n, hn, hid⟩ : ∃ n ∈ g.nodes, n.id = "a\ninjected(); //" := by
    rw [← List.mem_map, ← Graph.ids, hids]
    exact List.mem_singleton_self _
  cases h : (compile Catalog.builtin {} {} (.document idOverLines)).result with
  | error e =>
      rw [h] at hok
      contradiction
  | ok a =>
      obtain ⟨hlinked, ⟨made, hcompiled⟩, -⟩ := compiled_of_compile h hg
      obtain ⟨f, hf, hmade⟩ := Compile.exists_fragment hcompiled hlinked hn
      refine ⟨g, n, a, hg, hn, rfl, fun hcommented => ?_, ?_⟩
      · have hsingle := Fragment.single_of_ownLine (Fragment.getLast?_startComment n) (by decide)
          hcommented.start
        have hbroken : ¬Single n.id := by
          rw [hid]
          exact fun h => h '\n' (by decide) (by decide)
        exact hbroken ((Fragment.single_startComment_iff n).mp hsingle).2
      · have hsplit : n.id = "a" ++ "\n" ++ "injected(); //" := hid.trans (by decide)
        exact Fragment.ownLine_of_broken hcompiled.source hf hmade hsplit
          (.append (.append (single_chars rfl (by decide)) (single_chars rfl (by decide)))
            (single_chars rfl (by decide)))
          (.append (.append (full_chars rfl (by decide)) "]") " ===")

end DurableFlow
