import DurableFlow.Error
import DurableFlow.Fragment.Envelope
import DurableFlow.Module.Skeleton
import DurableFlow.Proofs.Module.Layout
import DurableFlow.Proofs.Outcome

/-!
The code of each node type: which bodies run inside a durable step, which ones run directly, which
resources they read, and why no code can be made for a node.
-/

namespace DurableFlow

namespace Code

@[simp] theorem reads_texts (lines : List String) : (texts lines).flatMap reads = [] := by
  simp [texts, reads, CodePart.read?]

end Code

namespace Body

def IsDurable (b : Body) : Prop := ∃ lines, b = .durable lines

def IsPlain (b : Body) : Prop := ∃ lines, b = .durable (Code.texts lines)

theorem IsPlain.isDurable {b : Body} (h : b.IsPlain) : b.IsDurable := by
  obtain ⟨lines, rfl⟩ := h
  exact ⟨_, rfl⟩

theorem IsPlain.reads_eq {b : Body} (h : b.IsPlain) : b.reads = [] := by
  obtain ⟨lines, rfl⟩ := h
  exact Code.reads_texts lines

end Body

/-! ### Conversions that fail -/

namespace Json

def IsInfinite (v : Json) : Prop := ∃ negative, v = .float (.infinite negative)

theorem toInt_meets (v : Json) :
    Meets v.toInt (fun _ => True) (fun f => f.isReported = true ∨ f = .tooLarge ∧ v.IsInfinite) := by
  cases v with
  | float x =>
      cases x with
      | nan => exact .inl rfl
      | infinite negative => exact .inr ⟨rfl, negative, rfl⟩
      | finite negative m e h => exact trivial
  | str s =>
      rw [toInt]
      split
      · exact trivial
      · exact .inl rfl
      · exact .inl rfl
  | bool b => exact trivial
  | int n => exact trivial
  | null => exact .inl rfl
  | arr items => exact .inl rfl
  | obj ms => exact .inl rfl

theorem scaled_meets (v : Json) (factor : Nat) :
    Meets (v.scaled factor) (fun _ => True) (fun f => f.isReported = true ∨ f = .tooLarge) := by
  have hfloat : Meets v.toFloat (fun _ => True) (fun f => f.isReported = true ∨ f = .tooLarge) := by
    cases v with
    | int n =>
        rw [toFloat]
        split
        · exact trivial
        · exact .inr rfl
    | str s =>
        rw [toFloat]
        split
        · exact trivial
        · exact .inl rfl
    | float x => exact trivial
    | bool b => exact trivial
    | null => exact .inl rfl
    | arr items => exact .inl rfl
    | obj ms => exact .inl rfl
  exact hfloat.bind fun x _ =>
    (toInt_meets _).imp (fun _ _ => trivial) fun _ hf => hf.imp id And.left

theorem elements_meets (v : Json) :
    Meets v.elements (fun items => v.elements = .ok items) (fun f => f.isReported = true) := by
  cases v <;> exact rfl

theorem elementsIfGiven_meets (v : Json) :
    Meets v.elementsIfGiven (fun items => v.elementsIfGiven = .ok items)
      (fun f => f.isReported = true) := by
  refine Meets.of_errors fun f hf => ?_
  rw [elementsIfGiven] at hf
  split at hf
  · exact (elements_meets v).of_error hf
  · contradiction

theorem asKey_meets (v : Json) :
    Meets v.asKey (fun _ => True) (fun f => f.isReported = true) := by
  rw [asKey]
  split <;> first | exact trivial | exact rfl

end Json

namespace Fragment

open Outcome

def wholeSettings : List (String × String) :=
  [("http-request", "timeout"), ("for-each", "maxIterations"), ("ai-gateway", "maxTokens"),
   ("ai-gateway", "cacheTTL"), ("workers-ai", "maxTokens"), ("workers-ai", "cacheTTL")]

def expiryOptions : List String := ["expirationTtl", "expiration"]

/-- The types whose code converts numbers that need not be whole. -/
def spanTypes : List String := ["sleep", "wait-event", "validate"]

/-- Why no code can be made for a node. Beyond the faults that are reported, the catalog may lack a
default, a number may have no bounds, a case may be no object, and a text that is read as JSON may
be nested too deeply. -/
inductive Unmade (n : Node) (ctx : Context) : Fault → Prop where
  | reported {f : Fault} (h : f.isReported = true) : Unmade n ctx f
  | undeclared {f : Fault} (name : String) (h : ctx.catalog.schemaDefault n.type name = .error f) :
      Unmade n ctx f
  | whole (key : String) (hkey : (n.type, key) ∈ wholeSettings) (h : (n.setting key).IsInfinite) :
      Unmade n ctx .tooLarge
  | expiry (key : String) (htype : n.type = "kv-put") (hkey : key ∈ expiryOptions)
      (h : ((n.setting "options").field key).IsInfinite) : Unmade n ctx .tooLarge
  | span (htype : n.type ∈ spanTypes) : Unmade n ctx .tooLarge
  | case (items : List Json) (v : Json) (htype : n.type = "conditional-router")
      (hitems : (n.setting "cases").elements = .ok items) (hv : v ∈ items) (h : v.members? = none) :
      Unmade n ctx .notAnObject
  | nested {f : Fault} (s : String) (htype : n.type = "http-request")
      (h : Json.parse s = .error (.limit f)) : Unmade n ctx f

variable {n : Node} {ctx : Context}

/-! ### Parts of the code -/

theorem reported_unmade {α : Type} {x : Except Fault α} {P : α → Prop}
    (h : Meets x P fun f => f.isReported = true) : Meets x P (Unmade n ctx) :=
  h.imp (fun _ ha => ha) fun _ hf => .reported hf

theorem toInt_unmade {v : Json} (key : String) (hkey : (n.type, key) ∈ wholeSettings)
    (hv : v = n.setting key ∨ ¬v.IsInfinite) : Meets v.toInt (fun _ => True) (Unmade n ctx) := by
  refine (Json.toInt_meets v).imp (fun _ _ => trivial) ?_
  rintro f (hf | ⟨rfl, hinf⟩)
  · exact .reported hf
  · rcases hv with rfl | hv
    · exact .whole key hkey hinf
    · exact absurd hinf hv

theorem toInt_span (htype : n.type ∈ spanTypes) (v : Json) :
    Meets v.toInt (fun _ => True) (Unmade n ctx) := by
  refine (Json.toInt_meets v).imp (fun _ _ => trivial) ?_
  rintro f (hf | ⟨rfl, -⟩)
  · exact .reported hf
  · exact .span htype

theorem not_isInfinite_int (k : Int) : ¬(Json.int k).IsInfinite := by
  rintro ⟨_, h⟩
  contradiction

theorem parameterNames_meets (v : Json) :
    Meets (parameterNames v) (fun names => parameterNames v = .ok names) (Unmade n ctx) := by
  refine Meets.of_errors fun f hf => ?_
  rcases bind_eq_error hf with hf | ⟨items, -, hf⟩
  · exact .reported ((Json.elementsIfGiven_meets v).of_error hf)
  · contradiction

theorem pathExpression_meets (path : String) (n : Node) (ctx : Context) {E : Fault → Prop} :
    Meets (pathExpression path n ctx).result (fun _ => True) E := by
  rw [pathExpression]
  split
  · exact trivial
  · dsimp only
    split
    · exact trivial
    · split
      · exact trivial
      · exact trivial
    · split
      · exact trivial
      · exact trivial
    · exact trivial

theorem kvNamespace_meets (name : String) :
    Meets (n.kvNamespace ctx.catalog name) (fun s => n.kvNamespace ctx.catalog name = .ok s)
      (Unmade n ctx) := by
  refine Meets.of_errors fun f hf => ?_
  -- Only the default of the schema can be missing; a given name is always taken.
  have hfallback : ∀ g : String → String, (do
      let chosen ← (do
        let declared ← ctx.catalog.schemaDefault n.type name
        return (declared.orElse (.str Builtin.kvBinding)).plainText : Except Fault String)
      pure (g chosen)) = .error f → Unmade n ctx f := by
    intro g hf
    rcases bind_eq_error hf with hf | ⟨_, -, hf⟩
    · rcases bind_eq_error hf with hf | ⟨_, -, hf⟩
      · exact .undeclared name hf
      · contradiction
    · contradiction
  rw [Node.kvNamespace] at hf
  split at hf
  · split at hf
    · contradiction
    · exact hfallback safeName hf
  · exact hfallback safeName hf

/-! ### The ends of a workflow -/

theorem reads_payload (names : List String) : (payload names).reads = [] := by
  rw [payload]
  split
  · rfl
  · exact Code.reads_texts _

theorem entry_meets : Meets (entry n ctx).result
    (fun b => ∃ names, parameterNames (n.setting "params") = .ok names ∧ b = payload names)
    (Unmade n ctx) :=
  meets_bind (parameterNames_meets _) fun names hnames => ⟨names, hnames, rfl⟩

theorem toolInput_meets : Meets (toolInput n ctx).result
    (fun b => ∃ names, parameterNames (n.setting "parameters") = .ok names ∧ b = payload names)
    (Unmade n ctx) :=
  meets_bind (parameterNames_meets _) fun names hnames => ⟨names, hnames, rfl⟩

theorem returning_meets : Meets (returning n ctx).result Body.IsPlain (Unmade n ctx) := ⟨_, rfl⟩

theorem toolOutput_meets : Meets (toolOutput n ctx).result Body.IsPlain (Unmade n ctx) := ⟨_, rfl⟩

theorem reads_passthrough (n : Node) (ctx : Context) : (passthrough n ctx).reads = [] :=
  Code.reads_texts _

/-! ### Calls of a service -/

theorem headerPairs_meets (v : Json) :
    Meets (headerPairs v) (fun _ => True) (Unmade n ctx) := by
  cases v with
  | obj ms => exact trivial
  | _ => exact (reported_unmade (Json.elementsIfGiven_meets _)).bind fun _ _ => trivial

theorem jsonContent_meets (htype : n.type = "http-request") (v : Json) :
    Meets (jsonContent v) (fun _ => True) (Unmade n ctx) := by
  cases v with
  | str s =>
      rw [jsonContent]
      split
      · exact trivial
      · split
        · exact trivial
        · exact trivial
        · rename_i f hlimit
          exact .nested s htype hlimit
  | _ => exact trivial

theorem requestBody?_meets (htype : n.type = "http-request") (v : Json) (r : Resolver) :
    Meets (requestBody? v r) (fun _ => True) (Unmade n ctx) := by
  cases v with
  | obj ms =>
      rw [requestBody?]
      split
      · exact trivial
      · exact trivial
      · exact (jsonContent_meets htype _).bind fun _ _ => trivial
      · exact trivial
      · exact trivial
  | _ => exact trivial

theorem httpRequest_meets (htype : n.type = "http-request") :
    Meets (httpRequest n ctx).result Body.IsPlain (Unmade n ctx) := by
  rw [httpRequest]
  have htimeout : Meets ((n.setting "timeout").orElse (.int ctx.settings.httpTimeoutMs)).toInt
      (fun _ => True) (Unmade n ctx) := by
    refine toInt_unmade "timeout" (by rw [htype]; decide) ?_
    rw [Json.orElse]
    split
    · exact .inl rfl
    · exact .inr (not_isInfinite_int _)
  refine meets_bind htimeout fun timeout _ => ?_
  refine meets_bind (headerPairs_meets _) fun given _ => ?_
  dsimp only
  split
  · exact meets_bind (P := fun _ => True) trivial fun body _ => ⟨_, rfl⟩
  · exact meets_bind (requestBody?_meets htype _ _) fun body _ => ⟨_, rfl⟩

/-! ### Choices and loops -/

theorem transform_meets : Meets (transform n ctx).result Body.IsPlain (Unmade n ctx) := by
  rw [transform]
  split
  · exact ⟨_, rfl⟩
  · exact .reported rfl

theorem comparison_meets (ms : Members) (left : Json) :
    Meets (comparison ms left n ctx).result (fun _ => True) (Unmade n ctx) := by
  rw [comparison]
  refine meets_bind (pathExpression_meets _ n ctx) fun code _ => ?_
  dsimp only
  split
  · exact trivial
  · refine meets_bind (reported_unmade (Json.asKey_meets _)) fun key _ => ?_
    split
    · exact trivial
    · exact trivial

theorem condition_meets : Meets (condition n ctx).result (fun _ => True) (Unmade n ctx) := by
  rw [condition]
  split
  · exact comparison_meets _ _
  · split
    · split
      · exact trivial
      · exact trivial
    · exact trivial

theorem conditional_meets : Meets (conditional n ctx).result Body.IsPlain (Unmade n ctx) :=
  meets_bind condition_meets fun _ _ => ⟨_, rfl⟩

theorem router_meets (htype : n.type = "conditional-router") :
    Meets (router n ctx).result Body.IsPlain (Unmade n ctx) := by
  rw [router]
  split
  · refine meets_bind (reported_unmade (Json.elements_meets _)) fun items hitems => ?_
    have hcases : Meets (items.mapM Json.asObject) (fun _ => True) (Unmade n ctx) := by
      refine (Meets.mapM (R := fun _ => True) fun v hv => ?_).imp (fun _ _ => trivial) fun _ => id
      cases hmembers : v.members? with
      | none =>
          have hfault : v.asObject = .error .notAnObject := by
            cases v <;> first | rfl | contradiction
          rw [hfault]
          exact .case items v htype hitems hv hmembers
      | some ms => cases v <;> first | exact trivial | contradiction
    refine meets_bind hcases fun cases _ => ?_
    exact meets_bind (pathExpression_meets _ n ctx) fun value _ => ⟨_, rfl⟩
  · exact conditional_meets

theorem loopVariable_meets (key default : String) :
    Meets (loopVariable n key default) (fun _ => True) (Unmade n ctx) := by
  rw [loopVariable]
  split
  · split
    · exact .reported rfl
    · exact trivial
  · exact .reported rfl

theorem forEach_meets (htype : n.type = "for-each") :
    Meets (forEach n ctx).result Body.IsPlain (Unmade n ctx) := by
  rw [forEach]
  have hlimit : Meets (n.settingD "maxIterations" (.int 1000)).toInt (fun _ => True)
      (Unmade n ctx) := by
    refine toInt_unmade "maxIterations" (by rw [htype]; decide) ?_
    rw [Node.settingD, Node.setting]
    cases n.config.get? "maxIterations" with
    | none => exact .inr (not_isInfinite_int _)
    | some v => exact .inl rfl
  refine meets_bind (loopVariable_meets _ _) fun item _ => ?_
  refine meets_bind (loopVariable_meets _ _) fun index _ => ?_
  dsimp only
  split
  · exact .reported rfl
  · refine meets_bind (pathExpression_meets _ n ctx) fun source _ => ?_
    exact meets_bind hlimit fun limit _ => ⟨_, rfl⟩

theorem ruleCode_meets (ctx' : Context) (htype : n.type ∈ spanTypes) (ms : Members) :
    Meets (ruleCode ctx' ms) (fun _ => True) (Unmade n ctx) := by
  rw [ruleCode]
  dsimp only
  split
  · exact trivial
  · exact trivial
  · exact trivial
  · exact (toInt_span htype _).bind fun low _ => (toInt_span htype _).bind fun high _ => trivial
  · exact trivial
  · exact trivial
  · split
    · exact trivial
    · exact trivial
  · exact trivial

theorem validate_meets (htype : n.type = "validate") :
    Meets (validate n ctx).result Body.IsPlain (Unmade n ctx) := by
  rw [validate]
  refine meets_bind (reported_unmade (Json.elementsIfGiven_meets _)) fun items _ => ?_
  have hrules : Meets ((items.filterMap Json.members?).mapM (ruleCode ctx)) (fun _ => True)
      (Unmade n ctx) :=
    (Meets.mapM fun ms _ => ruleCode_meets ctx (by rw [htype]; decide) ms).imp
      (fun _ _ => trivial) fun _ => id
  exact meets_bind hrules fun rules _ => ⟨_, rfl⟩

/-! ### Waiting -/

theorem milliseconds_meets (htype : n.type ∈ spanTypes) (what : String) (ms : Members)
    (value : Json) : Meets (milliseconds what ms value).result (fun _ => True) (Unmade n ctx) := by
  have hscaled : ∀ factor, Meets (value.scaled factor) (fun _ => True) (Unmade n ctx) := by
    intro factor
    refine (Json.scaled_meets value factor).imp (fun _ _ => trivial) ?_
    rintro f (hf | rfl)
    · exact .reported hf
    · exact .span htype
  rw [milliseconds]
  split
  · exact hscaled _
  · exact meets_bind (P := fun _ => True) trivial fun _ _ => hscaled _

theorem sleepPlan_meets (htype : n.type = "sleep") :
    Meets (sleepPlan n.config).result (fun _ => True) (Unmade n ctx) := by
  have hspan : n.type ∈ spanTypes := by rw [htype]; decide
  have hrelative : ∀ ms, Meets (sleepPlan.relative ms).result (fun _ => True) (Unmade n ctx) :=
    fun ms => meets_bind (milliseconds_meets hspan _ _ _) fun _ _ => trivial
  rw [sleepPlan]
  split
  · exact trivial
  · exact meets_bind (toInt_span hspan _) fun _ _ => trivial
  · split
    · exact hrelative _
    · exact trivial
    · exact hrelative _
  · exact trivial

/-- The body calls a step for its node directly, on a line of its own, behind lines that only take
the input and declare what the step gives. -/
def Waits (ctx : Context) (n : Node) (b : Body) : Prop :=
  ∃ (before behind : List String) (front call rest input output : String),
    b = .direct (Code.texts
      (before ++ (front ++ " " ++ call ++ Json.quote (ctx.stepName n) ++ rest) :: behind))
      input output ∧
    (∀ l ∈ before, l = "const inputData = " ++ ctx.input n ++ ";" ∨
      l ∈ ["let received = null;", "let timedOut = false;", opens "try"]) ∧
    front ∈ ["await", "received = await", "  received = await"] ∧ call ∈ Skeleton.stepCalls

theorem Waits.reads_eq {b : Body} (h : Waits ctx n b) : b.reads = [] := by
  obtain ⟨_, _, _, _, _, _, _, rfl, -⟩ := h
  exact Code.reads_texts _

theorem waitLine_eq (l front call : String) (h : l = front ++ " " ++ call)
    (name a b c : String) :
    l ++ name ++ a ++ b ++ c = front ++ " " ++ call ++ name ++ (a ++ b ++ c) := by
  subst h
  simp only [String.append_assoc]

theorem sleep_meets (htype : n.type = "sleep") :
    Meets (sleep n ctx).result (Waits ctx n) (Unmade n ctx) := by
  refine meets_bind (sleepPlan_meets htype) fun plan _ => ?_
  cases plan with
  | absolute moment =>
      refine ⟨["const inputData = " ++ ctx.input n ++ ";"], [], "await", "step.sleepUntil(",
        ", new Date(" ++ moment.compact ++ "));", "inputData", braced ("until: " ++ moment.compact),
        ?_, by simp, by simp, by simp [Skeleton.stepCalls]⟩
      have hline := waitLine_eq "await step.sleepUntil(" "await" "step.sleepUntil("
        (by simp) (Json.quote (ctx.stepName n)) ", new Date(" moment.compact "));"
      exact congrArg (fun line => Body.direct
        (Code.texts ["const inputData = " ++ ctx.input n ++ ";", line]) "inputData"
        (braced ("until: " ++ moment.compact))) hline
  | relative ms =>
      refine ⟨["const inputData = " ++ ctx.input n ++ ";"], [], "await", "step.sleep(",
        ", " ++ toString ms ++ ");", "inputData", braced ("sleptMs: " ++ toString ms),
        ?_, by simp, by simp, by simp [Skeleton.stepCalls]⟩
      have hline := waitLine_eq "await step.sleep(" "await" "step.sleep(" (by simp)
        (Json.quote (ctx.stepName n)) ", " (toString ms) ");"
      exact congrArg (fun line => Body.direct
        (Code.texts ["const inputData = " ++ ctx.input n ++ ";", line]) "inputData"
        (braced ("sleptMs: " ++ toString ms))) hline

theorem waitTimeout_meets (htype : n.type = "wait-event") :
    Meets (waitTimeout n.config).result (fun _ => True) (Unmade n ctx) := by
  have hspan : n.type ∈ spanTypes := by rw [htype]; decide
  rw [waitTimeout]
  split
  · split
    · exact trivial
    · exact meets_bind (milliseconds_meets hspan _ _ _) fun _ _ => trivial
  · exact trivial

theorem indent_waitLine {l front call name : String} (hset : "  " ++ l = front ++ " " ++ call)
    (hsingle : Single (l ++ name)) (hfull : Full (l ++ name)) (a b c : String) :
    ∃ rest, Text.indent (l ++ name ++ a ++ b ++ c) = front ++ " " ++ call ++ name ++ rest := by
  obtain ⟨rest, hrest⟩ := indentBy_append hsingle hfull "  " (a ++ b ++ c)
  have hregroup : l ++ name ++ a ++ b ++ c = l ++ name ++ (a ++ b ++ c) := by
    simp only [String.append_assoc]
  refine ⟨rest, ?_⟩
  rw [hregroup, Text.indent, hrest, ← hset]
  simp only [String.append_assoc]

theorem waitEvent_meets (htype : n.type = "wait-event") :
    Meets (waitEvent n ctx).result (Waits ctx n) (Unmade n ctx) := by
  rw [waitEvent]
  split
  · split
    · exact .reported rfl
    · refine meets_bind (waitTimeout_meets htype) fun timeout _ => ?_
      dsimp only
      split
      · -- With a time limit the call stands inside a `try`, one margin further in.
        have hset : "  " ++ "received = await step.waitForEvent(" =
            "  received = await" ++ " " ++ "step.waitForEvent(" := by simp
        obtain ⟨rest, hrest⟩ := indent_waitLine hset
          ((single_chars rfl (by decide)).append (single_quote (ctx.stepName n)))
          ((full_chars rfl (by decide)).append _) ", " _ ");"
        rw [hrest]
        exact ⟨["const inputData = " ++ ctx.input n ++ ";", "let received = null;",
            "let timedOut = false;", opens "try"],
          [reopens "catch (error)", "  timedOut = true;", closes], "  received = await",
          "step.waitForEvent(", rest, "inputData", _, rfl, by simp, by simp,
          by simp [Skeleton.stepCalls]⟩
      · rw [waitLine_eq "received = await step.waitForEvent(" "received = await"
          "step.waitForEvent(" (by simp)]
        exact ⟨["const inputData = " ++ ctx.input n ++ ";", "let received = null;",
            "let timedOut = false;"], [], "received = await", "step.waitForEvent(", _,
          "inputData", _, rfl, by simp, by simp, by simp [Skeleton.stepCalls]⟩
  · exact .reported rfl

/-! ### Resources -/

def ReadsAll (resources : List (String × String)) (b : Body) : Prop :=
  b.IsDurable ∧ b.reads = resources

theorem kvGet_meets : Meets (kvGet n ctx).result
    (fun b => ∃ name, n.kvNamespace ctx.catalog "namespace" = .ok name ∧ ReadsAll [("kv", name)] b)
    (Unmade n ctx) := by
  refine meets_bind (kvNamespace_meets "namespace") fun name hname => ?_
  refine ⟨name, hname, ⟨_, rfl⟩, ?_⟩
  have hcheck : ∀ p : Bool, ∀ lines : List String,
      (if p = true then Code.texts lines else []).flatMap Code.reads = [] := by
    intro p lines
    cases p with
    | true => exact Code.reads_texts lines
    | false => rfl
  rw [Body.reads, List.flatMap_append, List.flatMap_append, List.flatMap_append, Code.reads_texts,
    Code.reads_texts, hcheck]
  rfl

theorem secondsOption_meets {ms : Members} (htype : n.type = "kv-put")
    (hoptions : n.setting "options" = .obj ms) {key : String} (hkey : key ∈ expiryOptions) :
    Meets (secondsOption ms key) (fun _ => True) (Unmade n ctx) := by
  rw [secondsOption]
  split
  · refine Meets.bind ((Json.toInt_meets _).imp (fun _ _ => trivial) ?_) fun _ _ => trivial
    rintro f (hf | ⟨rfl, hinf⟩)
    · exact .reported hf
    · refine .expiry key htype hkey ?_
      rw [hoptions]
      exact hinf
  · exact trivial

theorem putOptions_meets (htype : n.type = "kv-put") (r : Resolver) :
    Meets (putOptions (n.setting "options") r) (fun _ => True) (Unmade n ctx) := by
  cases hoptions : n.setting "options" with
  | obj ms =>
      refine (secondsOption_meets htype hoptions (by decide)).bind fun _ _ => ?_
      exact (secondsOption_meets htype hoptions (by decide)).bind fun _ _ => trivial
  | _ => exact trivial

theorem kvPut_meets (htype : n.type = "kv-put") : Meets (kvPut n ctx).result
    (fun b => ∃ name, n.kvNamespace ctx.catalog "namespace" = .ok name ∧ ReadsAll [("kv", name)] b)
    (Unmade n ctx) := by
  refine meets_bind (kvNamespace_meets "namespace") fun name hname => ?_
  refine meets_bind (putOptions_meets htype _) fun options _ => ?_
  refine ⟨name, hname, ⟨_, rfl⟩, ?_⟩
  rw [Body.reads, List.flatMap_append, List.flatMap_append, Code.reads_texts, Code.reads_texts]
  rfl

theorem queryParameters_meets (v : Json) (r : Resolver) :
    Meets (queryParameters v r) (fun _ => True) (Unmade n ctx) :=
  (reported_unmade (Json.elementsIfGiven_meets v)).bind fun _ _ => trivial

theorem d1Query_meets : Meets (d1Query n ctx).result
    (ReadsAll [("d1", n.d1Database "database")]) (Unmade n ctx) := by
  rw [d1Query]
  dsimp only
  split
  · refine meets_bind (P := fun _ => True) trivial fun _ _ => ?_
    refine meets_bind (queryParameters_meets _ _) fun _ _ => ⟨⟨_, rfl⟩, ?_⟩
    rw [Body.reads, List.flatMap_append, List.flatMap_append, Code.reads_texts, Code.reads_texts]
    rfl
  · refine meets_bind (queryParameters_meets _ _) fun _ _ => ⟨⟨_, rfl⟩, ?_⟩
    rw [Body.reads, List.flatMap_append, List.flatMap_append, Code.reads_texts, Code.reads_texts]
    rfl

def modelTypes : List String := ["ai-gateway", "workers-ai"]

theorem model_wholeSettings (htype : n.type ∈ modelTypes) :
    (n.type, "cacheTTL") ∈ wholeSettings ∧ (n.type, "maxTokens") ∈ wholeSettings := by
  have hall : ∀ t ∈ modelTypes,
      (t, "cacheTTL") ∈ wholeSettings ∧ (t, "maxTokens") ∈ wholeSettings := by decide
  exact hall n.type htype

theorem cacheTtl_meets (htype : n.type ∈ modelTypes) (s : CompilerSettings) :
    Meets (n.cacheTtl s) (fun ttl => n.cacheTtl s = .ok ttl) (Unmade n ctx) := by
  refine Meets.of_errors fun f hf => ?_
  rw [Node.cacheTtl] at hf
  split at hf
  · contradiction
  · rcases bind_eq_error hf with hf | ⟨_, -, hf⟩
    · exact (toInt_unmade "cacheTTL" (model_wholeSettings htype).1 (.inl rfl)).of_error hf
    · contradiction

theorem cacheNamespace_meets (htype : n.type ∈ modelTypes) :
    Meets (n.cacheNamespace ctx.catalog ctx.settings)
      (fun cache => n.cacheNamespace ctx.catalog ctx.settings = .ok cache) (Unmade n ctx) := by
  refine Meets.of_errors fun f hf => ?_
  rw [Node.cacheNamespace] at hf
  rcases bind_eq_error hf with hf | ⟨ttl, -, hf⟩
  · exact (cacheTtl_meets htype _).of_error hf
  · split at hf
    · contradiction
    · rcases bind_eq_error hf with hf | ⟨_, -, hf⟩
      · exact (kvNamespace_meets "cacheNamespace").of_error hf
      · contradiction

def cacheReads (cache : Option String) : List (String × String) :=
  (cache.map fun name => ("kv", name)).toList

theorem cacheLines_meets (htype : n.type ∈ modelTypes) : Meets (cacheLines n ctx)
    (fun lines => ∃ cache, n.cacheNamespace ctx.catalog ctx.settings = .ok cache ∧
      lines.1.flatMap Code.reads = cacheReads cache ∧ lines.2.flatMap Code.reads = cacheReads cache)
    (Unmade n ctx) := by
  refine (cacheNamespace_meets htype).bind fun cache hcache => ?_
  cases cache with
  | none => exact ⟨none, hcache, rfl, rfl⟩
  | some name =>
      refine (cacheTtl_meets htype ctx.settings).bind fun ttl _ => ⟨some name, hcache, ?_, rfl⟩
      rw [List.flatMap_append, List.flatMap_append, Code.reads_texts, Code.reads_texts]
      rfl

theorem inferenceOptions_meets (htype : n.type ∈ modelTypes) (temperature : Json) :
    Meets (inferenceOptions n temperature) (fun _ => True) (Unmade n ctx) := by
  rw [inferenceOptions]
  split
  · exact trivial
  · exact (toInt_unmade "maxTokens" (model_wholeSettings htype).2 (.inl rfl)).bind fun _ _ => trivial

/-- The body runs inside a durable step and reads the model, and the cache if there is one. -/
def AsksModel (n : Node) (ctx : Context) (b : Body) : Prop :=
  ∃ cache, n.cacheNamespace ctx.catalog ctx.settings = .ok cache ∧
    ReadsAll (cacheReads cache ++ [("ai", Builtin.aiBinding)] ++ cacheReads cache) b

theorem reads_model {before after : List Code} {cache : Option String} (call result : String)
    (hbefore : before.flatMap Code.reads = cacheReads cache)
    (hafter : after.flatMap Code.reads = cacheReads cache) :
    (Body.durable (modelLines n ctx ++ before ++
      [[.text "const response = await ", modelEnv, .text call]] ++ Code.texts [result] ++ after)).reads =
      cacheReads cache ++ [("ai", Builtin.aiBinding)] ++ cacheReads cache := by
  rw [Body.reads, List.flatMap_append, List.flatMap_append, List.flatMap_append, List.flatMap_append,
    modelLines, Code.reads_texts, Code.reads_texts, hbefore, hafter, List.nil_append, List.append_nil]
  rfl

theorem aiGateway_meets (htype : n.type ∈ modelTypes) :
    Meets (aiGateway n ctx).result (AsksModel n ctx) (Unmade n ctx) := by
  refine meets_bind (cacheLines_meets htype) fun lines hlines => ?_
  obtain ⟨cache, hcache, hbefore, hafter⟩ := hlines
  exact meets_bind (inferenceOptions_meets htype _) fun options _ =>
    ⟨cache, hcache, ⟨_, rfl⟩, reads_model _ _ hbefore hafter⟩

theorem workersAi_meets (htype : n.type ∈ modelTypes) :
    Meets (workersAi n ctx).result (AsksModel n ctx) (Unmade n ctx) := by
  refine meets_bind (cacheLines_meets htype) fun lines hlines => ?_
  obtain ⟨cache, hcache, hbefore, hafter⟩ := hlines
  exact meets_bind (inferenceOptions_meets htype _) fun options _ =>
    ⟨cache, hcache, ⟨_, rfl⟩, reads_model _ _ hbefore hafter⟩

/-! ### All types -/

def plainTypes : List String :=
  ["return", "http-request", "transform", "conditional-router", "conditional-inline", "for-each",
   "validate", "mcp-tool-output"]

def payloadTypes : List (String × String) := [("entry", "params"), ("mcp-tool-input", "parameters")]

def waitTypes : List String := ["sleep", "wait-event"]

def namespaceTypes : List String := ["kv-get", "kv-put"]

/-- The code that is made for a node, by its type. -/
inductive Formed (n : Node) (ctx : Context) (b : Body) : Prop where
  | plain (htype : n.type ∈ plainTypes) (h : b.IsPlain)
  | payload (key : String) (names : List String) (htype : (n.type, key) ∈ payloadTypes)
      (hnames : parameterNames (n.setting key) = .ok names) (h : b = payload names)
  | waits (htype : n.type ∈ waitTypes) (h : Waits ctx n b)
  | namespaced (name : String) (htype : n.type ∈ namespaceTypes)
      (hname : n.kvNamespace ctx.catalog "namespace" = .ok name) (h : ReadsAll [("kv", name)] b)
  | database (htype : n.type = "d1-query") (h : ReadsAll [("d1", n.d1Database "database")] b)
  | model (htype : n.type ∈ modelTypes) (h : AsksModel n ctx b)
  | unknown (htype : generators.lookup n.type = none) (h : b = passthrough n ctx)

theorem plain_formed {type : String} (hmem : type ∈ plainTypes) (htype : n.type = type)
    {x : Except Fault Body} (h : Meets x Body.IsPlain (Unmade n ctx)) :
    Meets x (Formed n ctx) (Unmade n ctx) :=
  h.imp (fun _ hb => .plain (htype ▸ hmem) hb) fun _ => id

theorem mem_generators {type : String} {generate : Node → Context → Build Body}
    (h : generators.lookup type = some generate) : (type, generate) ∈ generators := by
  obtain ⟨l, l', hsplit, -⟩ := List.lookup_eq_some_iff.mp h
  rw [hsplit]
  simp

/-- What the code of a node is, and why there can be none. -/
theorem body_meets (n : Node) (ctx : Context) :
    Meets (body n ctx).result (Formed n ctx) (Unmade n ctx) := by
  rw [body]
  split
  · rename_i generate hlookup
    have hmem := mem_generators hlookup
    -- One case per entry of the table, in its order.
    unfold generators at hmem
    simp only [List.mem_cons, Prod.mk.injEq, List.not_mem_nil, or_false] at hmem
    rcases hmem with ⟨htype, rfl⟩ | ⟨htype, rfl⟩ | ⟨htype, rfl⟩ | ⟨htype, rfl⟩ | ⟨htype, rfl⟩ |
      ⟨htype, rfl⟩ | ⟨htype, rfl⟩ | ⟨htype, rfl⟩ | ⟨htype, rfl⟩ | ⟨htype, rfl⟩ | ⟨htype, rfl⟩ |
      ⟨htype, rfl⟩ | ⟨htype, rfl⟩ | ⟨htype, rfl⟩ | ⟨htype, rfl⟩ | ⟨htype, rfl⟩ | ⟨htype, rfl⟩
    · exact entry_meets.imp (fun b ⟨names, hnames, hb⟩ =>
        .payload "params" names (htype ▸ by decide) hnames hb) fun _ => id
    · exact plain_formed (by decide) htype returning_meets
    · exact plain_formed (by decide) htype (httpRequest_meets htype)
    · exact kvGet_meets.imp (fun b ⟨name, hname, hb⟩ =>
        .namespaced name (htype ▸ by decide) hname hb) fun _ => id
    · exact (kvPut_meets htype).imp (fun b ⟨name, hname, hb⟩ =>
        .namespaced name (htype ▸ by decide) hname hb) fun _ => id
    · exact d1Query_meets.imp (fun b hb => .database htype hb) fun _ => id
    · exact plain_formed (by decide) htype transform_meets
    · exact plain_formed (by decide) htype (router_meets htype)
    · exact plain_formed (by decide) htype conditional_meets
    · exact (sleep_meets htype).imp (fun b hb => .waits (htype ▸ by decide) hb) fun _ => id
    · exact (waitEvent_meets htype).imp (fun b hb => .waits (htype ▸ by decide) hb) fun _ => id
    · exact plain_formed (by decide) htype (forEach_meets htype)
    · exact plain_formed (by decide) htype (validate_meets htype)
    · exact toolInput_meets.imp (fun b ⟨names, hnames, hb⟩ =>
        .payload "parameters" names (htype ▸ by decide) hnames hb) fun _ => id
    · exact plain_formed (by decide) htype toolOutput_meets
    · have hmodel : n.type ∈ modelTypes := htype ▸ by decide
      exact (aiGateway_meets hmodel).imp (fun b hb => .model hmodel hb) fun _ => id
    · have hmodel : n.type ∈ modelTypes := htype ▸ by decide
      exact (workersAi_meets hmodel).imp (fun b hb => .model hmodel hb) fun _ => id
  · rename_i hnone
    exact .unknown hnone rfl

end Fragment

end DurableFlow
