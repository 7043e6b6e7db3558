import DurableFlow.Proofs.Compile.Refusal
import DurableFlow.Proofs.Fragment.Shape
import DurableFlow.Proofs.Graph.Acceptance
import DurableFlow.Proofs.Module.Comment
import DurableFlow.Proofs.Text.Split

/-!
Warnings of types without code. The report warns of every node whose type the catalog does not know,
and says that it will only hand its input on; what decides whether it does is the table of the types
with code of their own. So the warnings are true exactly where the catalog and the table agree.
-/

namespace DurableFlow

namespace Report

/-! ### Warnings of unknown types -/

def unknownWarning (n : Node) : String :=
  "Node '" ++ n.id ++ "' has unknown type '" ++ n.type ++ "'; it will compile to a passthrough"

theorem nodeFindings_warnings {validator : Schema.Validator} {c : Catalog} {n : Node}
    {found : List String × List String} (h : nodeFindings validator c n = .ok found) (htype : n.type ≠ "") :
    found.2 = if (c.get? n.type).isNone then [unknownWarning n] else [] := by
  rw [nodeFindings, if_neg htype] at h
  cases hget : c.get? n.type with
  | none =>
      rw [hget] at h
      obtain rfl := Except.ok.inj h
      rfl
  | some d =>
      rw [hget] at h
      obtain ⟨problems, -, h⟩ := bind_eq_ok h
      obtain rfl := Except.ok.inj h
      rfl

/-- The warnings of a catalog are those of the nodes of unknown types, in order. -/
theorem catalogFindings_warnings {validator : Schema.Validator} {c : Catalog} {ns : List Node}
    {found : List String × List String} (h : catalogFindings validator c ns = .ok found)
    (htypes : ∀ n ∈ ns, n.type ≠ "") :
    found.2 = (ns.filter fun n => (c.get? n.type).isNone).map unknownWarning := by
  induction ns generalizing found with
  | nil =>
      obtain rfl := Except.ok.inj h
      rfl
  | cons n ns ih =>
      rw [List.forall_mem_cons] at htypes
      rw [catalogFindings] at h
      obtain ⟨here, hhere, h⟩ := bind_eq_ok h
      obtain ⟨rest, hrest, h⟩ := bind_eq_ok h
      obtain rfl := Except.ok.inj h
      dsimp only
      rw [nodeFindings_warnings hhere htypes.1, ih hrest htypes.2, List.filter_cons]
      split <;> rfl

/-- What other warnings start with. -/
def otherFronts : List String := ["Edge ", "Workflow ", "Compiled "]

theorem unknownWarning_not_mem {texts : List String} (h : StartWith otherFronts texts) (n : Node) :
    unknownWarning n ∉ texts := by
  have hsplit : unknownWarning n = "Node '" ++ n.id ++
      ("' has unknown type '" ++ n.type ++ "'; it will compile to a passthrough") := by
    simp only [unknownWarning, String.append_assoc]
  rw [hsplit, ← List.count_eq_zero]
  exact h.count_eq_zero (by simp [otherFronts]) _ _

theorem startWith_allEdgeWarnings (g : Graph) : StartWith otherFronts (allEdgeWarnings g) := by
  intro text htext
  obtain ⟨⟨e, i⟩, -, hp⟩ := List.mem_flatMap.mp htext
  have hedge : StartWith otherFronts (edgeWarnings i e) := by
    have hfront : "Edge " ∈ otherFronts := by simp [otherFronts]
    rw [edgeWarnings]
    refine .append ?_ ?_
    all_goals exact iteInduction (fun _ => .single hfront (by simp)) fun _ => .nil _
  exact hedge text hp

theorem startWith_entryWarnings (g : Graph) (asked : Option String) :
    StartWith otherFronts (findEntry g asked).warnings := by
  have hfront : "Workflow " ∈ otherFronts := by simp [otherFronts]
  rw [findEntry]
  repeat' split
  all_goals
    first
    | exact .nil _
    | exact .single hfront (by simp)

/-- A report warns of a node in the words for unknown types exactly if the catalog misses the type of
this node, or of another one of which the words are the same. -/
theorem unknownWarning_mem_iff {c : Catalog} {asked : Option String} {g : Graph} {r : Report}
    (h : ofGraph (some c) asked g = .ok r) (htypes : ∀ n ∈ g.nodes, n.type ≠ "") (n : Node) :
    unknownWarning n ∈ r.warnings ↔
      ∃ m ∈ g.nodes, c.get? m.type = none ∧ unknownWarning m = unknownWarning n := by
  dsimp only [ofGraph, ofGraphBy] at h
  obtain ⟨found, hfound, h⟩ := bind_eq_ok h
  obtain rfl := Except.ok.inj h
  have hedges := unknownWarning_not_mem (startWith_allEdgeWarnings g) n
  have hentry := unknownWarning_not_mem (startWith_entryWarnings g asked) n
  have hfront : "Workflow " ∈ otherFronts := by simp [otherFronts]
  have hcycle : unknownWarning n ∉
      (if g.hasCycle then ["Workflow graph contains a cycle"] else []) := by
    refine unknownWarning_not_mem ?_ n
    exact iteInduction (fun _ => .single hfront (by simp)) fun _ => .nil _
  have hreturn : unknownWarning n ∉ (if g.nodes.any Node.isReturn then []
      else ["Workflow has no return node; deployed runs will return only step results"]) := by
    refine unknownWarning_not_mem ?_ n
    exact iteInduction (fun _ => .nil _) fun _ => .single hfront (by simp)
  rw [List.mem_append, List.mem_append, List.mem_append, List.mem_append,
    catalogFindings_warnings hfound htypes]
  simp only [hedges, hentry, hcycle, hreturn, or_false, false_or, List.mem_map, List.mem_filter,
    Option.isNone_iff_eq_none, and_assoc]

theorem type_ne_empty {c : Option Catalog} {asked : Option String} {g : Graph} {r : Report}
    (h : ofGraph c asked g = .ok r) (hvalid : r.isValid = true) : ∀ n ∈ g.nodes, n.type ≠ "" := by
  have htypes := (errors_eq_nil h hvalid).2.1
  intro n hn hempty
  obtain ⟨ch, hch, -⟩ := (typeErrors_eq_nil_iff g).mp htypes n hn
  rw [hempty] at hch
  contradiction

/-- Without single quotes in ids, a warning tells which node it is about. -/
theorem id_eq_of_unknownWarning {m n : Node} (hm : '\'' ∉ m.id.toList) (hn : '\'' ∉ n.id.toList)
    (h : unknownWarning m = unknownWarning n) : m.id = n.id := by
  have hchars (k : Node) : (unknownWarning k).toList = "Node '".toList ++ (k.id.toList ++ '\'' ::
      (" has unknown type '" ++ k.type ++ "'; it will compile to a passthrough").toList) := by
    simp [unknownWarning]
  have hrest := congrArg String.toList h
  rw [hchars, hchars, List.append_cancel_left_eq] at hrest
  have hpieces := congrArg (Text.splitChars '\'') hrest
  rw [Text.splitChars_append hm, Text.splitChars_append hn, List.cons.injEq] at hpieces
  exact String.toList_injective hpieces.1

end Report

/-! ### The start of a body -/

namespace Fragment

def firstSolid? (s : String) : Option Char := s.toList.find? fun c => !Text.isBlank c

theorem firstSolid?_indent (s : String) : firstSolid? (Text.indent s) = firstSolid? s := by
  have hspread : Text.Spread s.toList (Text.indentChars "  ".toList s.toList) :=
    .of_indentation (by decide) _
  rw [firstSolid?, Text.indent, Text.toList_indentBy]
  exact hspread.find?_solid

theorem firstSolid?_append {s : String} {c : Char} (h : firstSolid? s = some c) (t : String) :
    firstSolid? (s ++ t) = some c := by
  rw [firstSolid?] at h
  rw [firstSolid?, String.toList_append, List.find?_append, h, Option.some_or]

theorem firstSolid?_block {line : String} {c : Char} (h : firstSolid? line = some c)
    (lines : List String) : firstSolid? (Text.block (line :: lines)) = some c := by
  cases lines with
  | nil => exact (congrArg firstSolid? String.intercalate_singleton).trans h
  | cons next lines =>
      rw [Text.block_cons_cons]
      exact firstSolid?_append (firstSolid?_append h "\n") _

variable {n : Node} {ctx : Context}

theorem firstSolid?_direct {line : String} {c : Char} (h : firstSolid? line = some c)
    (setup : List String) (input output : String) :
    firstSolid? ((Body.direct (Code.texts (line :: setup)) input output).render ctx n) = some c := by
  rw [Body.render, Code.map_render_texts]
  exact firstSolid?_block h _

theorem firstSolid?_passthrough (n : Node) (ctx : Context) :
    firstSolid? ((passthrough n ctx).render ctx n) = some '/' := by
  refine firstSolid?_direct ?_ [] _ _
  exact firstSolid?_append (firstSolid?_append (firstSolid?_append (firstSolid?_append rfl _) _) _) _

theorem firstSolid?_durable (lines : List Code) :
    firstSolid? ((Body.durable lines).render ctx n) = some '_' := by
  have hresult : firstSolid? (ctx.resultRef n) = some '_' :=
    firstSolid?_append (firstSolid?_append rfl _) _
  rw [Body.render]
  refine firstSolid?_block ?_ _
  exact firstSolid?_append (firstSolid?_append (firstSolid?_append (firstSolid?_append hresult _) _)
    _) _

theorem firstSolid?_waits {b : Body} (h : Waits ctx n b) :
    ∃ c, firstSolid? (b.render ctx n) = some c ∧ c ≠ '/' := by
  obtain ⟨before, behind, lead, call, rest, input, output, rfl, hbefore, hlead, -⟩ := h
  cases before with
  | nil =>
      simp only [List.mem_cons, List.not_mem_nil, or_false] at hlead
      have hline (c : Char) (hc : firstSolid? lead = some c) :
          firstSolid? (lead ++ " " ++ call ++ Json.quote (ctx.stepName n) ++ rest) = some c :=
        firstSolid?_append (firstSolid?_append (firstSolid?_append (firstSolid?_append hc _) _) _) _
      rcases hlead with rfl | rfl | rfl
      · exact ⟨'a', firstSolid?_direct (hline 'a' rfl) _ _ _, by decide⟩
      · exact ⟨'r', firstSolid?_direct (hline 'r' rfl) _ _ _, by decide⟩
      · exact ⟨'r', firstSolid?_direct (hline 'r' rfl) _ _ _, by decide⟩
  | cons line before =>
      have hline := hbefore line List.mem_cons_self
      simp only [List.mem_cons, List.not_mem_nil, or_false] at hline
      rcases hline with rfl | rfl | rfl | rfl
      · exact ⟨'c', firstSolid?_direct (firstSolid?_append (firstSolid?_append rfl _) _) _ _ _,
          by decide⟩
      · exact ⟨'l', firstSolid?_direct rfl _ _ _, by decide⟩
      · exact ⟨'l', firstSolid?_direct rfl _ _ _, by decide⟩
      · exact ⟨'t', firstSolid?_direct rfl _ _ _, by decide⟩

theorem firstSolid?_payload (names : List String) :
    ∃ c, firstSolid? ((payload names).render ctx n) = some c ∧ c ≠ '/' := by
  rw [payload]
  split
  · refine ⟨'_', ?_, by decide⟩
    rw [Body.render]
    refine firstSolid?_block ?_ _
    have hstate : firstSolid? (stateEntry n.id) = some '_' :=
      firstSolid?_append (firstSolid?_append (firstSolid?_append rfl _) _) _
    exact firstSolid?_append (firstSolid?_append (firstSolid?_append hstate _) _) _
  · exact ⟨'c', firstSolid?_direct (firstSolid?_append (firstSolid?_append rfl _) _) [] _ _, by decide⟩

theorem Formed.lookup_eq_none {b : Body} (h : Formed n ctx b)
    (hstart : firstSolid? (b.render ctx n) = some '/') : generators.lookup n.type = none := by
  have hdurable : ¬b.IsDurable := by
    rintro ⟨lines, rfl⟩
    rw [firstSolid?_durable] at hstart
    exact absurd hstart (by decide)
  have hother : ¬∃ c, firstSolid? (b.render ctx n) = some c ∧ c ≠ '/' := by
    rintro ⟨c, hc, hne⟩
    exact hne (Option.some.inj (hc.symm.trans hstart))
  cases h with
  | plain _ h => exact absurd h.isDurable hdurable
  | payload _ names _ _ h =>
      subst h
      exact absurd (firstSolid?_payload names) hother
  | waits _ h => exact absurd (firstSolid?_waits h) hother
  | namespaced _ _ _ h => exact absurd h.1 hdurable
  | database _ h => exact absurd h.1 hdurable
  | model _ h =>
      obtain ⟨_, -, h⟩ := h
      exact absurd h.1 hdurable
  | unknown htype _ => exact htype

/-! ### Fragments that hand the input on -/

def passing (n : Node) (ctx : Context) : String := wrap n ((passthrough n ctx).render ctx n)

theorem indent_of_wrap {x y : String} (h : wrap n x = wrap n y) : Text.indent x = Text.indent y := by
  obtain ⟨front, back, hblock⟩ := Text.exists_block
    ["// === NODE START: " ++ marker n ++ " ===", opens "try",
      Text.indent (logEvent "WF_NODE_START" n "")]
    [Text.indent (logEvent "WF_NODE_END" n ", success: true"), reopens "catch (error)",
      "  const errorMessage = error instanceof Error ? error.message : String(error);",
      Text.indent (logEvent "WF_NODE_ERROR" n ", success: false, error: errorMessage"),
      "  throw error;", closes, "// === NODE END: " ++ marker n ++ " ==="]
  have hwrap (code : String) : wrap n code = front ++ Text.indent code ++ back := hblock _
  rw [hwrap, hwrap] at h
  exact Report.between_injective front back h

theorem ofNode_eq_passing_iff {f : String} (h : (ofNode n ctx).result = .ok f) :
    f = passing n ctx ↔ generators.lookup n.type = none := by
  obtain ⟨b, hb, rfl⟩ := ofNode_eq_ok h
  constructor
  · intro hsame
    have hstart := congrArg firstSolid? (indent_of_wrap hsame)
    rw [firstSolid?_indent, firstSolid?_indent, firstSolid?_passthrough] at hstart
    exact ((body_meets n ctx).of_ok hb).lookup_eq_none hstart
  · intro hunknown
    rw [body, hunknown] at hb
    obtain rfl := Except.ok.inj hb
    rfl

end Fragment

/-- The catalog misses the type of this node, or of another one of which a warning would have the same
words. -/
def Graph.Missed (g : Graph) (c : Catalog) (n : Node) : Prop :=
  ∃ m ∈ g.nodes, c.get? m.type = none ∧ Report.unknownWarning m = Report.unknownWarning n

theorem Graph.missed_iff {g : Graph} (h : g.ids.Nodup) (hquote : ∀ m ∈ g.nodes, '\'' ∉ m.id.toList)
    (c : Catalog) {n : Node} (hn : n ∈ g.nodes) : g.Missed c n ↔ c.get? n.type = none := by
  constructor
  · rintro ⟨m, hm, hmissed, hsame⟩
    have hid := Report.id_eq_of_unknownWarning (hquote m hm) (hquote n hn) hsame
    obtain rfl : m = n := List.inj_on_of_nodup_map h hm hn hid
    exact hmissed
  · exact fun hmissed => ⟨n, hn, hmissed, rfl⟩

open Compile Fragment Report in
/-- In every compilation a node is warned of if the catalog misses its type, and its fragment hands the
input on if there is no code for it. So the warning is true of the fragment, in both directions, exactly
if the catalog misses the type when there is no code for it, as long as no id has a single quote in it,
with which the warning of another node could have the same words. -/
theorem compile_warning_true_iff {c : Catalog} {s : CompilerSettings} {o : CompileOptions}
    {input : GraphInput} {a : Artifact} (h : (compile c s o input).result = .ok a) :
    ∃ g made, input.graph? = some g ∧ Compiled c s o g a made ∧
      ∀ n ∈ g.nodes, ∃ f ∈ made, (ofNode n (Context.ofGraph g c s)).result = .ok f ∧
        (unknownWarning n ∈ a.warnings ↔ g.Missed c n) ∧
        (f = passing n (Context.ofGraph g c s) ↔ generators.lookup n.type = none) ∧
        ((∀ m ∈ g.nodes, '\'' ∉ m.id.toList) →
          ((unknownWarning n ∈ a.warnings ↔ f = passing n (Context.ofGraph g c s)) ↔
            (c.get? n.type = none ↔ generators.lookup n.type = none))) := by
  obtain ⟨g, r, hg, hreport, hvalid, hcompile⟩ := compile_eq_ok h
  obtain ⟨made, hcompiled⟩ := compileGraph_eq_ok hcompile
  have hlinked := (ofGraph_eq_ok hreport).2.2 hvalid
  have hwarned (n : Node) : unknownWarning n ∈ a.warnings ↔ g.Missed c n := by
    have hfront : "Compiled " ∈ otherFronts := by simp [otherFronts]
    have hcycle : unknownWarning n ∉ (if r.hasCycle then [cycleWarning] else []) := by
      refine unknownWarning_not_mem ?_ n
      exact iteInduction (fun _ => .single hfront (by simp [cycleWarning])) fun _ => .nil _
    rw [compileGraph_warnings hcompile, List.mem_append, or_iff_left hcycle]
    exact unknownWarning_mem_iff hreport (type_ne_empty hreport hvalid) n
  refine ⟨g, made, hg, hcompiled, fun n hn => ?_⟩
  obtain ⟨f, hf, hmade⟩ := exists_fragment hcompiled hlinked hn
  have hpassing := ofNode_eq_passing_iff hmade
  refine ⟨f, hf, hmade, hwarned n, hpassing, fun hquote => ?_⟩
  rw [hwarned, hpassing, Graph.missed_iff hlinked.nodup hquote c hn]

def startThenTeleport : Graph :=
  { nodes := [{ id := "a", type := "entry" }, { id := "b", type := "teleport" }],
    edges := [{ id := some "e", source := "a", target := "b" }] }

theorem compile_warning_true_iff_startThenTeleport :
    ∃ (a : Artifact) (made : List String),
      (compile Catalog.builtin {} {} (.graph startThenTeleport)).result = .ok a ∧
      ∀ n ∈ startThenTeleport.nodes, ∃ f ∈ made,
        (Report.unknownWarning n ∈ a.warnings ↔
          f = Fragment.passing n (Context.ofGraph startThenTeleport Catalog.builtin {})) := by
  have hok : (compile Catalog.builtin {} {} (.graph startThenTeleport)).result.toOption.map
      (fun _ => ()) = some () := by with_unfolding_all decide
  have hquote : ∀ m ∈ startThenTeleport.nodes, '\'' ∉ m.id.toList := by decide
  have hagree : ∀ n ∈ startThenTeleport.nodes, (Catalog.builtin.get? n.type).isNone =
      (Fragment.generators.lookup n.type).isNone := by decide
  obtain ⟨a, ha, -⟩ := map_toOption_eq_some hok
  obtain ⟨g, made, hg, -, hnodes⟩ := compile_warning_true_iff ha
  obtain rfl := Option.some.inj hg
  refine ⟨a, made, ha, fun n hn => ?_⟩
  obtain ⟨f, hf, -, -, -, htrue⟩ := hnodes n hn
  refine ⟨f, hf, (htrue hquote).mpr ?_⟩
  rw [← Option.isNone_iff_eq_none, hagree n hn, Option.isNone_iff_eq_none]

def teleportCatalog : Catalog := ({} : Catalog).register { type := "teleport", name := "Teleport" }

/-- With a catalog that knows a type without code and misses one that has code, the compilation warns
of the node that does not hand its input on, and keeps silent about the one that does. -/
theorem not_true_startThenTeleport :
    ∃ a, (compile teleportCatalog {} {} (.graph startThenTeleport)).result = .ok a ∧
      (∃ n ∈ startThenTeleport.nodes, ∃ f,
        (Fragment.ofNode n (.ofGraph startThenTeleport teleportCatalog {})).result = .ok f ∧
        f ≠ Fragment.passing n (.ofGraph startThenTeleport teleportCatalog {}) ∧
        Report.unknownWarning n ∈ a.warnings) ∧
      ∃ n ∈ startThenTeleport.nodes, ∃ f,
        (Fragment.ofNode n (.ofGraph startThenTeleport teleportCatalog {})).result = .ok f ∧
        f = Fragment.passing n (.ofGraph startThenTeleport teleportCatalog {}) ∧
        Report.unknownWarning n ∉ a.warnings := by
  have hwarnings : (compile teleportCatalog {} {} (.graph startThenTeleport)).result.toOption.map
      (·.warnings) = some ["Node 'a' has unknown type 'entry'; it will compile to a passthrough",
        "Workflow has no return node; deployed runs will return only step results"] := by
    decide
  obtain ⟨a, ha, hwarnings⟩ := map_toOption_eq_some hwarnings
  refine ⟨a, ha, ⟨_, List.mem_cons_self, _, rfl, ?_, ?_⟩,
    ⟨_, List.mem_cons_of_mem _ List.mem_cons_self, _, rfl, ?_, ?_⟩⟩
  · rw [Ne, Fragment.ofNode_eq_passing_iff rfl]
    simp [Fragment.generators]
  · rw [hwarnings]
    decide
  · rw [Fragment.ofNode_eq_passing_iff rfl]
    rfl
  · rw [hwarnings]
    decide

end DurableFlow
