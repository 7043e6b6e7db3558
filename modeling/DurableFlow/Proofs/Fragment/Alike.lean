import DurableFlow.Proofs.Fragment.Shape
import DurableFlow.Proofs.Graph.Alike

/-!
Fragments of nodes that cannot be told apart. Every generator looks the settings of its node up by key,
and sees no more of the graph than its edges and the step names.
-/

namespace DurableFlow

/-- The contexts have graphs that cannot be told apart, and are the same otherwise. -/
structure Context.Alike (ctx ctx' : Context) : Prop where
  graph : ctx.graph.Alike ctx'.graph
  stepNames : ctx'.stepNames = ctx.stepNames
  catalog : ctx'.catalog = ctx.catalog
  settings : ctx'.settings = ctx.settings

namespace Context.Alike

variable {ctx ctx' : Context}

theorem ofGraph {g g' : Graph} (h : g.Alike g') (c : Catalog) (s : CompilerSettings) :
    (Context.ofGraph g c s).Alike (Context.ofGraph g' c s) :=
  ⟨h, h.stepNames, rfl, rfl⟩

theorem resolver (hc : ctx.Alike ctx') : ctx'.resolver = ctx.resolver := by
  rw [Context.resolver, hc.stepNames, Context.resolver]

variable {n n' : Node}

theorem stepName (hc : ctx.Alike ctx') (h : n.Alike n') : ctx'.stepName n' = ctx.stepName n := by
  rw [Context.stepName, hc.stepNames, h.id, Context.stepName]

theorem input (hc : ctx.Alike ctx') (h : n.Alike n') : ctx'.input n' = ctx.input n := by
  simp only [Context.input, Graph.incoming, hc.graph.edges, h.id]

theorem routes (hc : ctx.Alike ctx') (h : n.Alike n') : ctx'.routes n' = ctx.routes n := by
  simp only [Context.routes, Graph.outgoing, hc.graph.edges, h.id]

end Context.Alike

/-! ### The names of resources -/

namespace Node.Alike

variable {n n' : Node}

theorem kvNamespace (h : n.Alike n') (c : Catalog) (name : String) :
    n'.kvNamespace c name = n.kvNamespace c name := by
  simp only [Node.kvNamespace, h.setting, h.type]

theorem d1Database (h : n.Alike n') (name : String) : n'.d1Database name = n.d1Database name := by
  simp only [Node.d1Database, h.setting]

theorem cacheTtl (h : n.Alike n') (s : CompilerSettings) : n'.cacheTtl s = n.cacheTtl s := by
  simp only [Node.cacheTtl, h.setting, h.type]

theorem cacheNamespace (h : n.Alike n') (c : Catalog) (s : CompilerSettings) :
    n'.cacheNamespace c s = n.cacheNamespace c s := by
  simp only [Node.cacheNamespace, h.cacheTtl, h.kvNamespace]

theorem requirementName (h : n.Alike n') (r : Requirement) (c : Catalog) (s : CompilerSettings) :
    n'.requirementName r c s = n.requirementName r c s := by
  simp only [Node.requirementName, h.cacheNamespace, h.kvNamespace, h.d1Database, h.setting]

end Node.Alike

namespace Fragment

variable {n n' : Node} {ctx ctx' : Context}

/-! ### The ends of a workflow -/

theorem entry_alike (h : n.Alike n') : entry n' ctx' = entry n ctx := by
  simp only [entry, h.setting]

theorem toolInput_alike (h : n.Alike n') : toolInput n' ctx' = toolInput n ctx := by
  simp only [toolInput, h.setting]

theorem returning_alike (h : n.Alike n') (hc : ctx.Alike ctx') :
    returning n' ctx' = returning n ctx := by
  simp only [returning, returnValue, h.setting, hc.resolver]

theorem toolOutput_alike (h : n.Alike n') (hc : ctx.Alike ctx') :
    toolOutput n' ctx' = toolOutput n ctx := by
  simp only [toolOutput, h.setting, h.settingD, hc.resolver]

theorem passthrough_alike (h : n.Alike n') (hc : ctx.Alike ctx') :
    passthrough n' ctx' = passthrough n ctx := by
  simp only [passthrough, h.type, h.id, hc.input h]

/-! ### Services and storage -/

theorem httpRequest_alike (h : n.Alike n') (hc : ctx.Alike ctx') :
    httpRequest n' ctx' = httpRequest n ctx := by
  simp only [httpRequest, h.setting, h.settingD, hc.resolver, hc.settings]

theorem keyLine_alike (h : n.Alike n') (hc : ctx.Alike ctx') : keyLine n' ctx' = keyLine n ctx := by
  simp only [keyLine, h.settingD, hc.resolver]

theorem kvGet_alike (h : n.Alike n') (hc : ctx.Alike ctx') : kvGet n' ctx' = kvGet n ctx := by
  simp only [kvGet, h.setting, h.settingD, h.kvNamespace, keyLine_alike h hc, hc.catalog]

theorem kvPut_alike (h : n.Alike n') (hc : ctx.Alike ctx') : kvPut n' ctx' = kvPut n ctx := by
  simp only [kvPut, h.setting, h.kvNamespace, keyLine_alike h hc, hc.catalog, hc.resolver]

theorem d1Query_alike (h : n.Alike n') (hc : ctx.Alike ctx') : d1Query n' ctx' = d1Query n ctx := by
  simp only [d1Query, h.id, h.setting, h.settingD, h.d1Database, hc.resolver]

theorem cacheLines_alike (h : n.Alike n') (hc : ctx.Alike ctx') :
    cacheLines n' ctx' = cacheLines n ctx := by
  simp only [cacheLines, h.id, h.cacheNamespace, h.cacheTtl, hc.catalog, hc.settings, Body.record]

theorem modelLines_alike (h : n.Alike n') (hc : ctx.Alike ctx') :
    modelLines n' ctx' = modelLines n ctx := by
  simp only [modelLines, h.setting, hc.resolver, hc.settings]

theorem inferenceOptions_alike (h : n.Alike n') (temperature : Json) :
    inferenceOptions n' temperature = inferenceOptions n temperature := by
  simp only [inferenceOptions, h.setting, h.settingD]

theorem aiGateway_alike (h : n.Alike n') (hc : ctx.Alike ctx') :
    aiGateway n' ctx' = aiGateway n ctx := by
  simp only [aiGateway, h.setting, cacheLines_alike h hc, modelLines_alike h hc,
    inferenceOptions_alike h]

theorem workersAi_alike (h : n.Alike n') (hc : ctx.Alike ctx') :
    workersAi n' ctx' = workersAi n ctx := by
  simp only [workersAi, cacheLines_alike h hc, modelLines_alike h hc, inferenceOptions_alike h]

/-! ### Checks and code -/

theorem ruleCode_alike (hc : ctx.Alike ctx') : ruleCode ctx' = ruleCode ctx := by
  funext ms
  simp only [ruleCode, hc.resolver]

theorem validate_alike (h : n.Alike n') (hc : ctx.Alike ctx') :
    validate n' ctx' = validate n ctx := by
  simp only [validate, h.setting, h.settingD, ruleCode_alike hc]

theorem transform_alike (h : n.Alike n') (hc : ctx.Alike ctx') :
    transform n' ctx' = transform n ctx := by
  simp only [transform, h.setting, hc.resolver]

/-! ### Branches and loops -/

theorem pathExpression_alike (h : n.Alike n') (hc : ctx.Alike ctx') (path : String) :
    pathExpression path n' ctx' = pathExpression path n ctx := by
  simp only [pathExpression, h.id, hc.resolver]

theorem operand_alike (hc : ctx.Alike ctx') (v : Json) : operand v ctx' = operand v ctx := by
  simp only [operand, hc.resolver]

theorem comparison_alike (h : n.Alike n') (hc : ctx.Alike ctx') (ms : Members) (left : Json) :
    comparison ms left n' ctx' = comparison ms left n ctx := by
  simp only [comparison, h.id, pathExpression_alike h hc, operand_alike hc]

theorem condition_alike (h : n.Alike n') (hc : ctx.Alike ctx') :
    condition n' ctx' = condition n ctx := by
  simp only [condition, h.setting, comparison_alike h hc, hc.resolver]

theorem routesLine_alike (h : n.Alike n') (hc : ctx.Alike ctx') :
    routesLine n' ctx' = routesLine n ctx := by
  rw [routesLine, hc.routes h, routesLine]

theorem conditional_alike (h : n.Alike n') (hc : ctx.Alike ctx') :
    conditional n' ctx' = conditional n ctx := by
  simp only [conditional, condition_alike h hc, routesLine_alike h hc]

theorem caseLines_alike (hc : ctx.Alike ctx') (first : Bool) (cases : List Members) :
    caseLines ctx' first cases = caseLines ctx first cases := by
  induction cases generalizing first with
  | nil => rfl
  | cons ms cases ih => simp only [caseLines, operand_alike hc, ih]

theorem router_alike (h : n.Alike n') (hc : ctx.Alike ctx') : router n' ctx' = router n ctx := by
  simp only [router, h.setting, h.config "conditionPath", pathExpression_alike h hc,
    caseLines_alike hc, routesLine_alike h hc, conditional_alike h hc]

theorem loopVariable_alike (h : n.Alike n') (key default : String) :
    loopVariable n' key default = loopVariable n key default := by
  simp only [loopVariable, h.id, h.setting]

theorem forEach_alike (h : n.Alike n') (hc : ctx.Alike ctx') : forEach n' ctx' = forEach n ctx := by
  simp only [forEach, h.id, h.setting, h.settingD, loopVariable_alike h, pathExpression_alike h hc,
    hc.resolver]

/-! ### Waiting -/

theorem sleepPlan_alike {config config' : Members} (h : config.Alike config') :
    sleepPlan config' = sleepPlan config := by
  rw [sleepPlan, h "duration", h "ms", sleepPlan]

theorem waitTimeout_alike {config config' : Members} (h : config.Alike config') :
    waitTimeout config' = waitTimeout config := by
  rw [waitTimeout, h "timeout", waitTimeout]

theorem sleep_alike (h : n.Alike n') (hc : ctx.Alike ctx') : sleep n' ctx' = sleep n ctx := by
  simp only [sleep, sleepPlan_alike h.config, hc.stepName h, hc.input h]

theorem waitEvent_alike (h : n.Alike n') (hc : ctx.Alike ctx') :
    waitEvent n' ctx' = waitEvent n ctx := by
  simp only [waitEvent, waitEvent.missingEvent, h.id, h.setting, h.settingD,
    waitTimeout_alike h.config, hc.stepName h, hc.input h]

/-! ### Complete fragments -/

theorem generator_alike {type : String} {generate : Node → Context → Build Body}
    (hmem : (type, generate) ∈ generators) (h : n.Alike n') (hc : ctx.Alike ctx') :
    generate n' ctx' = generate n ctx := by
  -- One case per entry of the table, in its order: a generator added there adds a case here.
  simp only [generators, List.mem_cons, Prod.mk.injEq, List.not_mem_nil, or_false] at hmem
  rcases hmem with ⟨-, rfl⟩ | ⟨-, rfl⟩ | ⟨-, rfl⟩ | ⟨-, rfl⟩ | ⟨-, rfl⟩ | ⟨-, rfl⟩ | ⟨-, rfl⟩ |
    ⟨-, rfl⟩ | ⟨-, rfl⟩ | ⟨-, rfl⟩ | ⟨-, rfl⟩ | ⟨-, rfl⟩ | ⟨-, rfl⟩ | ⟨-, rfl⟩ | ⟨-, rfl⟩ |
    ⟨-, rfl⟩ | ⟨-, rfl⟩
  · exact entry_alike h
  · exact returning_alike h hc
  · exact httpRequest_alike h hc
  · exact kvGet_alike h hc
  · exact kvPut_alike h hc
  · exact d1Query_alike h hc
  · exact transform_alike h hc
  · exact router_alike h hc
  · exact conditional_alike h hc
  · exact sleep_alike h hc
  · exact waitEvent_alike h hc
  · exact forEach_alike h hc
  · exact validate_alike h hc
  · exact toolInput_alike h
  · exact toolOutput_alike h hc
  · exact aiGateway_alike h hc
  · exact workersAi_alike h hc

theorem body_alike (h : n.Alike n') (hc : ctx.Alike ctx') : body n' ctx' = body n ctx := by
  rw [body, body, h.type]
  split
  · rename_i generate hlookup
    exact generator_alike (mem_generators hlookup) h hc
  · rw [passthrough_alike h hc]

theorem render_alike (h : n.Alike n') (hc : ctx.Alike ctx') (b : Body) :
    b.render ctx' n' = b.render ctx n := by
  simp only [Body.render, Body.record, Context.resultRef, hc.stepName h, hc.input h, h.id]

theorem marker_alike (h : n.Alike n') : marker n' = marker n := by
  rw [marker, h.type, h.displayName, h.id, marker]

theorem logEvent_alike (h : n.Alike n') (event extra : String) :
    logEvent event n' extra = logEvent event n extra := by
  unfold logEvent
  rw [h.id, h.displayName, h.type]

theorem wrap_alike (h : n.Alike n') (code : String) : wrap n' code = wrap n code := by
  rw [wrap, marker_alike h, logEvent_alike h, logEvent_alike h, logEvent_alike h, wrap]

theorem ofNode_alike (h : n.Alike n') (hc : ctx.Alike ctx') : ofNode n' ctx' = ofNode n ctx := by
  simp only [ofNode, body_alike h hc, render_alike h hc, wrap_alike h]

end Fragment

end DurableFlow
