import DurableFlow.Proofs.Code.Line
import DurableFlow.Proofs.Fragment.LoopName
import DurableFlow.Proofs.Fragment.Operand

/-!
The code of nodes that need no resource. A reader of its text finds nothing that it reads of its
environment. A node may hand in code of its own, which is used as it is written; of that code it is supposed
that it reads nothing.
-/

namespace DurableFlow

open Access

namespace Fragment

/-! ### Code that is handed in -/

/-- The settings whose value may be given as code: by type, the setting and the member with the code. -/
def sourceFields : List (String × String × String) :=
  [("return", "returnValue", "value"), ("mcp-tool-output", "responseStructure", "value"),
   ("kv-put", "value", "content")]

/-- Code that a node takes as it is written from its configuration, with the references in it replaced. -/
inductive Gives (n : Node) (ctx : Context) : String → Prop where
  | transform {s : String} (htype : n.type = "transform")
      (h : (n.setting "code").orElse (.str "return inputData;") = .str s) :
      Gives n ctx (shape (ctx.resolver.code s))
  | condition {s : String} (htype : n.type ∈ ["conditional-router", "conditional-inline"])
      (h : ((n.setting "condition").field "expression").orElse (n.setting "expression") = .str s) :
      Gives n ctx (ctx.resolver.code s)
  | mapping (htype : n.type = "for-each") (h : (n.setting "expression").isGiven = true) :
      Gives n ctx (ctx.resolver.code (n.setting "expression").plainText)
  | rule {items : List Json} {ms : Members} {key : String} {v : Json} (htype : n.type = "validate")
      (hitems : (n.setting "rules").elementsIfGiven = .ok items) (hms : .obj ms ∈ items)
      (hkind : Members.get? "type" ms = some (.str "custom")) (hkey : key ∈ ["expression", "customCode"])
      (h : Members.get? key ms = some v) : Gives n ctx (ctx.resolver.code v.plainText)
  | source {key member : String} {ms : Members} (hfield : (n.type, key, member) ∈ sourceFields)
      (hms : n.setting key = .obj ms) (hkind : Members.get? "type" ms = some (.str "expression")) :
      Gives n ctx (ctx.resolver.code
        ((Members.get? member ms).getD ((Members.get? "content" ms).getD .null)).plainText)

/-- What the node hands in reads nothing, and what comments say of the node is on one line. -/
structure SelfContained (n : Node) (ctx : Context) : Prop where
  given : ∀ code, Gives n ctx code → Silent code
  marker : Single (marker n)

variable {n : Node} {ctx : Context} {b : Body}

def codeTypes : List String :=
  ["transform", "conditional-router", "conditional-inline", "for-each", "validate"] ++
    sourceFields.map (·.1)

theorem Gives.type_mem {code : String} (h : Gives n ctx code) : n.type ∈ codeTypes := by
  cases h with
  | transform htype => simp [htype, codeTypes]
  | condition htype =>
      have hcode : ∀ t ∈ ["conditional-router", "conditional-inline"], t ∈ codeTypes := by decide
      exact hcode n.type htype
  | mapping htype => simp [htype, codeTypes]
  | rule htype => simp [htype, codeTypes]
  | source hfield => exact List.mem_append_right _ (List.mem_map_of_mem (f := Prod.fst) hfield)

theorem selfContained_of_type (htype : n.type ∉ codeTypes) (hmarker : Single (marker n)) :
    SelfContained n ctx := ⟨fun _ hgives => absurd hgives.type_mem htype, hmarker⟩

/-! ### Parts of the code -/

theorem reads_around {a b t : String} (ha : Whole a) (ht : Silent t) (hb : Closer b) :
    Reads [] (a ++ t ++ b) := (ha.around ht hb).reads

theorem reads_constant {a t : String} (ha : Whole a) (ht : Silent t) : Reads [] (a ++ t ++ ";") :=
  reads_around ha ht (closer_chars rfl rfl)

/-- A chain of accesses behind an expression whose last word counts for nothing. -/
theorem silent_rooted {root : String} (h : root ∈ ["event", "inputData", "event.payload", "data"])
    (path : List String) : Silent (root ++ Path.render path) := by
  have hvalued : ∃ st, Valued [] st ∧ Runs (State.start []) root.toList [] st := by
    simp only [List.mem_cons, List.not_mem_nil, or_false] at h
    rcases h with rfl | rfl | rfl | rfl
    · exact runs_root _ (by decide) (by decide) []
    · exact runs_root _ (by decide) (by decide) []
    · exact ⟨⟨.code, "daolyap".toList, .dotted, []⟩, ⟨⟨_, .dotted, trivial, rfl⟩, rfl⟩, rfl⟩
    · exact runs_root _ (by decide) (by decide) []
  obtain ⟨st, hst, hroot⟩ := hvalued
  obtain ⟨st', hst', hchain⟩ := hst.runs_chain (Path.chain_render path)
  rw [Silent, String.toList_append]
  exact ⟨st', hst'.1, hroot.append hchain⟩

section

variable (hctx : ctx.Named)

include hctx

theorem silent_pathExpression {path code : String} (h : (pathExpression path n ctx).result = .ok code) :
    Silent code := by
  rw [pathExpression] at h
  split at h
  · obtain rfl := Except.ok.inj h
    exact silent_string hctx.steps path
  · dsimp only at h
    split at h
    · obtain rfl := Except.ok.inj h
      exact silent_rooted (by simp) _
    · split at h
      · obtain rfl := Except.ok.inj h
        exact silent_reference hctx.steps path
      · obtain ⟨_, -, h⟩ := Outcome.result_bind_eq_ok h
        obtain rfl := Except.ok.inj h
        exact silent_rooted (by simp) _
    · split at h
      · obtain rfl := Except.ok.inj h
        exact silent_rooted (by simp) _
      · obtain rfl := Except.ok.inj h
        exact silent_rooted (by simp) _
    · obtain rfl := Except.ok.inj h
      exact silent_chars rfl rfl

theorem silent_operand (v : Json) : Silent (operand v ctx) := by
  cases v with
  | str s =>
      rw [operand]
      split
      · exact silent_string hctx.steps s
      · exact (whole_quote s).silent
  | _ => exact silent_compact _

theorem silent_source {key : String} {ms : Members}
    (h : Members.get? "type" ms = some (.str "expression") → Silent (ctx.resolver.code
      ((Members.get? key ms).getD ((Members.get? "content" ms).getD .null)).plainText)) :
    Silent (ctx.resolver.source key ms) := by
  rw [Resolver.source]
  split
  · exact silent_chars rfl rfl
  · exact silent_chars rfl rfl
  · rename_i hkind _ _
    exact h hkind
  · split
    · exact silent_string hctx.steps _
    · exact silent_reference hctx.steps _
  · exact silent_value hctx.steps _

end

/-! ### The ends of a workflow -/

theorem faithful_payload (names : List String) : (payload names).Faithful := by
  have hpayload : Silent "event.payload" := silent_chars rfl rfl
  rw [payload]
  split
  · exact ⟨by simp, hpayload, hpayload⟩
  · have hline : Whole ("const payload = event.payload || " ++ emptyObject ++ ";") :=
      .append (.append (whole_chars rfl rfl) whole_emptyObject) (whole_chars rfl rfl)
    refine ⟨Code.faithful_texts (by simpa using hline.reads), hpayload, ?_⟩
    refine (whole_braced (silent_list fun t ht => ?_)).silent
    obtain ⟨name, -, rfl⟩ := List.mem_map.mp ht
    have hquote := whole_quote name
    have hopen : Whole (Json.quote name ++ ": payload[") := .append hquote (whole_chars rfl rfl)
    exact (Whole.append (hopen.append hquote) (whole_chars rfl rfl)).silent

theorem faithful_entry (h : (entry n ctx).result = .ok b) : b.Faithful := by
  obtain ⟨names, -, h⟩ := Outcome.result_bind_eq_ok h
  obtain rfl := Except.ok.inj h
  exact faithful_payload names

theorem faithful_toolInput (h : (toolInput n ctx).result = .ok b) : b.Faithful := by
  obtain ⟨names, -, h⟩ := Outcome.result_bind_eq_ok h
  obtain rfl := Except.ok.inj h
  exact faithful_payload names

theorem source?_eq_some {v : Json} {ms : Members} (h : source? v = some ms) : v = .obj ms := by
  cases v with
  | obj ms' =>
      rw [source?] at h
      split at h
      · cases h
      · rw [Option.some.inj h]
  | _ => cases h

theorem silent_toolContent (format : Json) : Silent (toolContent format) := by
  have hcontent {text : String} (ht : Silent text) :
      Whole ("content: [" ++ braced ("type: \"text\", text: " ++ text) ++ "]") :=
    .append (.append (whole_chars rfl rfl) (whole_braced (Whole.before (whole_chars rfl rfl) ht)))
      (whole_chars rfl rfl)
  have hshown : Silent "JSON.stringify(value)" := silent_chars rfl rfl
  unfold toolContent
  split
  · exact (whole_braced (hcontent (silent_chars rfl rfl)).silent).silent
  · exact (whole_braced ((hcontent hshown).before (silent_chars rfl rfl))).silent
  · exact (whole_braced (hcontent hshown).silent).silent

section

variable (hctx : ctx.Named) (hself : SelfContained n ctx)

include hctx hself

theorem silent_givenSource {key member : String} {ms : Members}
    (hfield : (n.type, key, member) ∈ sourceFields) (hms : n.setting key = .obj ms) :
    Silent (ctx.resolver.source member ms) :=
  silent_source hctx fun hkind => hself.given _ (.source hfield hms hkind)

theorem faithful_returning (htype : n.type = "return") (h : (returning n ctx).result = .ok b) :
    b.Faithful := by
  obtain rfl := Except.ok.inj h
  have hvalue : Silent (returnValue n ctx.resolver) := by
    rw [returnValue]
    split
    · split
      · rename_i ms hms
        exact silent_givenSource hctx hself (by rw [htype]; decide) (source?_eq_some hms)
      · exact (whole_quote _).silent
    · exact silent_value hctx.steps _
  have hline : Reads [] ("const result = " ++ returnValue n ctx.resolver ++ ";") :=
    reads_constant (whole_chars rfl rfl) hvalue
  exact Code.faithful_texts (List.forall_mem_singleton.mpr hline)

theorem faithful_toolOutput (htype : n.type = "mcp-tool-output")
    (h : (toolOutput n ctx).result = .ok b) : b.Faithful := by
  rw [toolOutput] at h
  obtain rfl := Except.ok.inj h
  refine Code.faithful_texts ?_
  simp only [List.forall_mem_cons, List.not_mem_nil, false_imp_iff, implies_true, and_true]
  refine ⟨reads_constant (whole_chars rfl rfl) ?_,
    reads_constant (whole_chars rfl rfl) (silent_toolContent _)⟩
  split
  · rename_i ms hms
    exact silent_givenSource hctx hself (by rw [htype]; decide) (source?_eq_some hms)
  · exact silent_chars rfl rfl

end

theorem faithful_passthrough (hid : Single n.id) : (passthrough n ctx).Faithful := by
  have hquote := single_quote n.type
  have hcomment : Reads [] ("// " ++ ("Unsupported node type " ++ Json.quote n.type ++ " (" ++ n.id ++
      "): passing input through")) := by
    refine reads_comment ((((Single.append ?_ hquote).append ?_).append hid).append ?_)
    all_goals exact single_chars rfl rfl
  have hline : Reads [] (unsupportedComment n) := by
    rw [← String.append_assoc, ← String.append_assoc, ← String.append_assoc, ← String.append_assoc]
      at hcomment
    exact hcomment
  exact ⟨Code.faithful_texts (List.forall_mem_singleton.mpr hline), silent_input ctx n, silent_input ctx n⟩

/-! ### Calls of a service -/

theorem silent_requestBody {v : Json} {expression contentType : String} (hctx : ctx.Named)
    (h : requestBody? v ctx.resolver = .ok (some (expression, contentType))) : Silent expression := by
  have hwrapped {a : String} (ha : Whole a) (v : Json) : Silent (a ++ ctx.resolver.value v ++ ")") :=
    (ha.around (silent_value hctx.steps v) (closer_chars rfl rfl)).silent
  cases v with
  | obj ms =>
      rw [requestBody?] at h
      split at h
      · cases h
      · cases h
      · obtain ⟨inner, -, h⟩ := bind_eq_ok h
        obtain ⟨rfl, -⟩ := Prod.mk.inj (Option.some.inj (Except.ok.inj h))
        exact hwrapped (whole_chars rfl rfl) inner
      · obtain ⟨rfl, -⟩ := Prod.mk.inj (Option.some.inj (Except.ok.inj h))
        exact hwrapped (whole_chars rfl rfl) _
      · obtain ⟨rfl, -⟩ := Prod.mk.inj (Option.some.inj (Except.ok.inj h))
        exact hwrapped (whole_chars rfl rfl) _
  | _ => cases h

theorem silent_headers (hctx : ctx.Named) (headers : List (String × Json)) :
    Silent (if (headers.map fun h => Json.quote h.1 ++ ": " ++ ctx.resolver.value h.2).isEmpty then
      emptyObject
    else braced (", ".intercalate
      (headers.map fun h => Json.quote h.1 ++ ": " ++ ctx.resolver.value h.2))) := by
  split
  · exact whole_emptyObject.silent
  · refine (whole_braced (silent_list fun t ht => ?_)).silent
    obtain ⟨header, -, rfl⟩ := List.mem_map.mp ht
    exact Whole.before (Whole.append (whole_quote header.1) (whole_chars rfl rfl))
      (silent_value hctx.steps _)

theorem faithful_httpRequest (hctx : ctx.Named) (h : (httpRequest n ctx).result = .ok b) :
    b.Faithful := by
  rw [httpRequest] at h
  obtain ⟨timeout, -, h⟩ := Outcome.result_bind_eq_ok h
  obtain ⟨given, -, h⟩ := Outcome.result_bind_eq_ok h
  extract_lets finish at h
  -- Whatever the body of the request is, the lines are made in the same way.
  have hfinish (body : Option (String × String)) (hbody : ∀ p ∈ body, Silent p.1)
      (h : (finish body).result = .ok b) : b.Faithful := by
    obtain rfl := Except.ok.inj h
    refine Code.faithful_texts ?_
    simp only [List.forall_mem_append, List.forall_mem_cons, List.not_mem_nil, false_imp_iff,
      implies_true, and_true]
    refine ⟨⟨⟨reads_constant (whole_chars rfl rfl) (silent_value hctx.steps _),
      reads_constant (whole_chars rfl rfl) ?_, reads_constant (whole_chars rfl rfl) ?_⟩, ?_⟩,
      reads_chars rfl rfl, Whole.reads (whole_opens (silent_chars rfl rfl)), reads_chars rfl rfl,
      whole_closes.reads, reads_chars rfl rfl, ?_, reads_constant (whole_chars rfl rfl) ?_⟩
    · exact silent_headers hctx _
    · have hmethod : Whole ("method: " ++ Json.quote
          (Text.upper ((n.setting "method").orElse (.str "GET")).plainText) ++
            ", headers, signal: AbortSignal.timeout(") :=
        .append (.append (whole_chars rfl rfl) (whole_quote _)) (whole_chars rfl rfl)
      exact (whole_braced (hmethod.around (silent_int timeout) (closer_chars rfl rfl)).silent).silent
    · cases body with
      | none => simp
      | some p =>
          have hline : Reads [] ("init.body = " ++ p.1 ++ ";") :=
            reads_constant (whole_chars rfl rfl) (hbody p rfl)
          simpa using hline
    · simp only [String.reduceAppend]
      exact reads_chars rfl rfl
    · simp only [String.reduceAppend]
      exact (whole_braced (silent_chars rfl rfl)).silent
  split at h
  · rw [Outcome.pure_bind] at h
    exact hfinish none (by simp) h
  · obtain ⟨body, hbody, h⟩ := Outcome.result_bind_eq_ok h
    refine hfinish body (fun p hp => ?_) h
    rw [Option.mem_def] at hp
    rw [hp] at hbody
    exact silent_requestBody hctx hbody

/-! ### Choices -/

theorem faithful_transform (hself : SelfContained n ctx) (htype : n.type = "transform")
    (h : (transform n ctx).result = .ok b) : b.Faithful := by
  rw [transform] at h
  split at h
  · rename_i hcode
    obtain rfl := Except.ok.inj h
    exact Code.faithful_texts (List.forall_mem_singleton.mpr
      (reads_constant (whole_chars rfl rfl) (hself.given _ (.transform htype hcode))))
  · cases h

theorem closer_operator {name symbol : String} (h : operators.lookup name = some symbol) :
    Closer symbol := by
  have hall : ∀ p ∈ operators, (startsApart p.2.toList && isWhole p.2.toList) = true := by decide
  obtain ⟨front, back, hoperators, -⟩ := List.lookup_eq_some_iff.mp h
  exact closer_chars String.ofList_toList.symm (hall (name, symbol) (hoperators ▸ by simp))

theorem silent_comparison (hctx : ctx.Named) {ms : Members} {left : Json} {p : String × String}
    (h : (comparison ms left n ctx).result = .ok p) : Silent p.1 := by
  rw [comparison] at h
  obtain ⟨code, hcode, h⟩ := Outcome.result_bind_eq_ok h
  have hleft := silent_pathExpression hctx hcode
  have hright := silent_operand hctx ((Members.get? "right" ms).getD .null)
  split at h
  · obtain rfl := Except.ok.inj h
    exact (Whole.around (Whole.around (whole_chars rfl rfl) hleft (closer_chars rfl rfl)) hright
      (closer_chars rfl rfl)).silent
  · obtain ⟨key, -, h⟩ := Outcome.result_bind_eq_ok h
    split at h
    · rename_i symbol hsymbol
      obtain rfl := Except.ok.inj h
      obtain ⟨name, -, hlookup⟩ := Option.bind_eq_some_iff.mp hsymbol
      have hspaced : Silent (code ++ " ") := hleft.spaced rfl rfl
      have hfront := hspaced.closed (closer_operator hlookup)
      exact Whole.before (Whole.append hfront (whole_chars rfl rfl)) hright
    · obtain ⟨_, -, h⟩ := Outcome.result_bind_eq_ok h
      obtain rfl := Except.ok.inj h
      exact (hleft.closed (closer_chars rfl rfl)).before hright

theorem silent_condition (hctx : ctx.Named) (hself : SelfContained n ctx)
    (htype : n.type ∈ ["conditional-router", "conditional-inline"]) {p : String × String}
    (h : (condition n ctx).result = .ok p) : Silent p.1 := by
  rw [condition] at h
  split at h
  · exact silent_comparison hctx h
  · split at h
    · rename_i s hs
      split at h
      · obtain rfl := Except.ok.inj h
        exact silent_chars rfl rfl
      · obtain rfl := Except.ok.inj h
        exact hself.given _ (.condition htype hs)
    · obtain rfl := Except.ok.inj h
      exact silent_chars rfl rfl

theorem reads_routesLine (n : Node) (ctx : Context) : Reads [] (routesLine n ctx) := by
  rw [routesLine]
  split
  · exact reads_constant (whole_chars rfl rfl) whole_emptyObject.silent
  · refine reads_constant (whole_chars rfl rfl) (whole_braced (silent_list fun t ht => ?_)).silent
    obtain ⟨route, -, rfl⟩ := List.mem_map.mp ht
    exact Whole.before (Whole.append (whole_quote route.1) (whole_chars rfl rfl)) (silent_compact _)

theorem faithful_conditional (hctx : ctx.Named) (hself : SelfContained n ctx)
    (htype : n.type ∈ ["conditional-router", "conditional-inline"])
    (h : (conditional n ctx).result = .ok b) : b.Faithful := by
  obtain ⟨p, hp, h⟩ := Outcome.result_bind_eq_ok h
  obtain rfl := Except.ok.inj h
  have hresult : Silent ("branch, result: conditionResult, condition: " ++ Json.quote p.2 ++
      ", next: routes[branch] || []") :=
    Whole.before (Whole.append (whole_chars rfl rfl) (whole_quote p.2)) (silent_chars rfl rfl)
  refine Code.faithful_texts ?_
  simp only [List.forall_mem_cons, List.not_mem_nil, false_imp_iff, implies_true, and_true]
  exact ⟨reads_around (whole_chars rfl rfl) (silent_condition hctx hself htype hp)
    (closer_chars rfl rfl), reads_chars rfl rfl, reads_routesLine n ctx,
    reads_constant (whole_chars rfl rfl) (whole_braced hresult).silent⟩

theorem reads_caseLines (hctx : ctx.Named) (cases : List Members) (first : Bool) :
    ∀ l ∈ caseLines ctx first cases, Reads [] l := by
  induction cases generalizing first with
  | nil =>
      cases first with
      | true => simp [caseLines]
      | false => simpa [caseLines] using whole_closes.reads
  | cons ms cases ih =>
      have htest : Silent ("if (conditionValue === " ++
          operand ((Members.get? "value" ms).getD .null) ctx ++ ")") :=
        (Whole.around (whole_chars rfl rfl) (silent_operand hctx _) (closer_chars rfl rfl)).silent
      have hname : Reads [] ("  branch = " ++ ((Members.get? "case" ms).getD .null).compact ++ ";") :=
        reads_constant (whole_chars rfl rfl) (silent_compact _)
      rw [caseLines, List.forall_mem_cons, List.forall_mem_cons]
      refine ⟨?_, hname, ih false⟩
      cases first with
      | true => exact (whole_opens htest).reads
      | false => exact (whole_reopens (Whole.before (whole_chars rfl rfl) htest)).reads

theorem faithful_router (hctx : ctx.Named) (hself : SelfContained n ctx)
    (htype : n.type ∈ ["conditional-router", "conditional-inline"])
    (h : (router n ctx).result = .ok b) : b.Faithful := by
  rw [router] at h
  split at h
  · obtain ⟨items, -, h⟩ := Outcome.result_bind_eq_ok h
    obtain ⟨cases, -, h⟩ := Outcome.result_bind_eq_ok h
    obtain ⟨value, hvalue, h⟩ := Outcome.result_bind_eq_ok h
    obtain rfl := Except.ok.inj h
    refine Code.faithful_texts ?_
    simp only [List.forall_mem_append, List.forall_mem_cons, List.not_mem_nil, false_imp_iff,
      implies_true, and_true]
    refine ⟨⟨⟨reads_constant (whole_chars rfl rfl) (silent_pathExpression hctx hvalue),
      reads_constant (whole_chars rfl rfl) (silent_compact _)⟩, reads_caseLines hctx _ true⟩,
      reads_constant (whole_chars rfl rfl) (whole_braced (silent_list fun t ht => ?_)).silent,
      reads_routesLine n ctx, reads_constant (whole_chars rfl rfl) (whole_braced ?_).silent⟩
    · obtain ⟨ms, -, rfl⟩ := List.mem_map.mp ht
      exact (Silent.closed (silent_compact _) (closer_chars rfl rfl)).before (silent_compact _)
    · simp only [String.reduceAppend]
      exact silent_chars rfl rfl
  · exact faithful_conditional hctx hself htype h

/-! ### Loops -/

theorem silent_loopVariable {key default name : String} (h : loopVariable n key default = .ok name) :
    Silent name := by
  obtain ⟨-, hidentifier, -⟩ := loopVariable_eq_ok_iff.mp h
  obtain ⟨st, hst, hruns⟩ := settles_word
    (fun c hc => isWordChar_of_isAsciiWord (hidentifier.1 c hc)) []
  rw [Path.dropFinalBreak] at hruns
  split at hruns
  · rename_i hlast
    obtain ⟨st', hst', hstep⟩ := hst.step_blank (c := '\n') rfl
    have hchars := List.dropLast_append_getLast? '\n' hlast
    rw [Silent, ← hchars]
    exact ⟨st', hst', hruns.append (.single hstep)⟩
  · exact ⟨st, hst, hruns⟩

theorem reads_failureLines {thrown index : String} (hthrown : Silent thrown)
    (hmessage : Silent (thrownMessage thrown)) (hindex : Silent index) (goOn : Bool) :
    ∀ l ∈ failureLines thrown index goOn, Reads [] l := by
  have hfields : Silent ("index: " ++ index ++ ", error: " ++ thrownMessage thrown) :=
    (Whole.around (whole_chars rfl rfl) hindex (closer_chars rfl rfl)).before hmessage
  have hpush : Reads [] ("    errors.push(" ++ braced ("index: " ++ index ++ ", error: " ++
      thrownMessage thrown) ++ ");") :=
    reads_around (whole_chars rfl rfl) (whole_braced hfields).silent (closer_chars rfl rfl)
  have hcloses : Whole ("  " ++ closes) := .append (whole_chars rfl rfl) whole_closes
  have hthrow : Reads [] ("    throw " ++ thrown ++ ";") := reads_constant (whole_chars rfl rfl) hthrown
  cases goOn with
  | true => simpa [failureLines] using ⟨hpush, hcloses.reads, whole_closes.reads⟩
  | false => simpa [failureLines] using ⟨hthrow, hpush, hcloses.reads, whole_closes.reads⟩

section

variable {item index mapped : String} (hitem : Silent item) (hindex : Silent index)
  (hmapped : Silent mapped) (goOn : Bool)

include hitem hindex hmapped

theorem reads_parallelLines : ∀ l ∈ parallelLines item index mapped goOn, Reads [] l := by
  have hreason : Silent (thrownMessage "settled[position].reason") := by
    simp only [thrownMessage, String.reduceAppend]
    exact silent_chars rfl (by decide +kernel)
  have hhead : Whole ("const settled = await Promise.allSettled(items.map(async (" ++ item ++ ", " ++
      index ++ ") => ") :=
    Whole.around (Whole.around (whole_chars rfl rfl) hitem (closer_chars rfl rfl)) hindex
      (closer_chars rfl rfl)
  have hreopens : Whole ("  " ++ reopens "else") :=
    .append (whole_chars rfl rfl) (whole_reopens (silent_chars rfl rfl))
  rw [parallelLines]
  simp only [List.forall_mem_append, List.forall_mem_cons, List.not_mem_nil, false_imp_iff,
    implies_true, and_true]
  refine ⟨⟨reads_around hhead hmapped (closer_chars rfl rfl),
    Whole.reads (whole_opens (silent_chars rfl rfl)), Whole.reads (whole_opens (silent_chars rfl rfl)),
    reads_chars rfl rfl, hreopens.reads⟩, ?_⟩
  exact reads_failureLines (silent_chars rfl rfl) hreason (silent_chars rfl rfl) goOn

theorem reads_sequentialLines : ∀ l ∈ sequentialLines item index mapped goOn, Reads [] l := by
  have herror : Silent (thrownMessage "error") := by
    simp only [thrownMessage, String.reduceAppend]
    exact silent_chars rfl rfl
  have hhead : Silent ("for (let " ++ index ++ " = 0; " ++ index ++ " < items.length; " ++ index ++
      "++)") :=
    (Whole.around (Whole.around (Whole.around (whole_chars rfl rfl) hindex (closer_chars rfl rfl)) hindex
      (closer_chars rfl rfl)) hindex (closer_chars rfl rfl)).silent
  have hreopens : Whole ("  " ++ reopens "catch (error)") :=
    .append (whole_chars rfl rfl) (whole_reopens (silent_chars rfl rfl))
  rw [sequentialLines]
  simp only [List.forall_mem_append, List.forall_mem_cons, List.not_mem_nil, false_imp_iff,
    implies_true, and_true]
  exact ⟨⟨(whole_opens hhead).reads,
    reads_around (Whole.around (whole_chars rfl rfl) hitem (closer_chars rfl rfl)) hindex
      (closer_chars rfl rfl),
    Whole.reads (whole_opens (silent_chars rfl rfl)),
    reads_around (whole_chars rfl rfl) hmapped (closer_chars rfl rfl), hreopens.reads⟩,
    reads_failureLines (silent_chars rfl rfl) herror hindex goOn⟩

end

theorem faithful_forEach (hctx : ctx.Named) (hself : SelfContained n ctx) (htype : n.type = "for-each")
    (h : (forEach n ctx).result = .ok b) : b.Faithful := by
  rw [forEach] at h
  obtain ⟨item, hitem, h⟩ := Outcome.result_bind_eq_ok h
  obtain ⟨index, hindex, h⟩ := Outcome.result_bind_eq_ok h
  dsimp only at h
  split at h
  · cases h
  obtain ⟨source, hsource, h⟩ := Outcome.result_bind_eq_ok h
  obtain ⟨limit, -, h⟩ := Outcome.result_bind_eq_ok h
  obtain rfl := Except.ok.inj h
  have hitem := silent_loopVariable hitem
  have hindex := silent_loopVariable hindex
  have hmapped : Silent (if (n.setting "expression").isGiven then
      ctx.resolver.code (n.setting "expression").plainText else item) := by
    split
    · rename_i hgiven
      exact hself.given _ (.mapping htype hgiven)
    · exact hitem
  refine Code.faithful_texts ?_
  simp only [List.forall_mem_append, List.forall_mem_cons, List.not_mem_nil, false_imp_iff,
    implies_true, and_true]
  refine ⟨⟨⟨?_, Whole.reads (whole_opens (silent_chars rfl rfl)), reads_chars rfl rfl, whole_closes.reads,
    reads_around (whole_chars rfl rfl) (silent_int limit) (closer_chars rfl rfl), reads_chars rfl rfl,
    reads_chars rfl rfl⟩, ?_⟩,
    reads_constant (whole_chars rfl rfl) (whole_braced (silent_chars rfl rfl)).silent⟩
  · exact reads_around (whole_chars rfl rfl) (silent_pathExpression hctx hsource) (closer_chars rfl rfl)
  · split
    · exact reads_parallelLines hitem hindex hmapped _
    · exact reads_sequentialLines hitem hindex hmapped _

/-! ### Rules -/

theorem whole_pushError (field : String) {rule message : String} (hrule : Silent rule)
    (hmessage : Silent message) : Whole (pushError field rule message) := by
  have hfield : Whole ("field: " ++ Json.quote field ++ ", rule: ") :=
    .append (.append (whole_chars rfl rfl) (whole_quote field)) (whole_chars rfl rfl)
  exact Whole.around (whole_chars rfl rfl)
    (whole_braced ((hfield.around hrule (closer_chars rfl rfl)).before hmessage)).silent
    (closer_chars rfl rfl)

section

variable {value : String} (hvalue : Silent value)

include hvalue

theorem reads_ruleBlock {failed push : String} (hfailed : Silent failed) (hpush : Whole push) :
    Reads [] (ruleBlock value failed push) := by
  have hopens : Whole (opens ("  if (" ++ failed ++ ")")) :=
    whole_opens (Whole.around (whole_chars rfl rfl) hfailed (closer_chars rfl rfl)).silent
  have hpush : Whole ("    " ++ push) := .append (whole_chars rfl rfl) hpush
  have hcloses : Whole ("  " ++ closes) := .append (whole_chars rfl rfl) whole_closes
  rw [ruleBlock]
  refine reads_lines ?_
  simp only [List.forall_mem_cons, List.not_mem_nil, false_imp_iff, implies_true, and_true]
  exact ⟨reads_chars rfl rfl, reads_constant (whole_chars rfl rfl) hvalue, hopens.reads, hpush.reads,
    hcloses.reads, whole_closes.reads⟩

/-- Code that is handed in as a statement ends where its block ends. -/
theorem reads_customBlock {code : String} (hcode : Silent code) :
    Reads [] (Text.block ["\x7b", "  const value = " ++ value ++ ";", Text.indent code, closes]) := by
  have hline : Whole ("  const value = " ++ value ++ ";") :=
    Whole.around (whole_chars rfl rfl) hvalue (closer_chars rfl rfl)
  have hcode : Whole (Text.indent code ++ "\n" ++ closes) :=
    ((silent_indent hcode).spaced rfl rfl).closed (closer_chars rfl rfl)
  have hbreak : Whole "\n" := whole_chars rfl rfl
  have hopen : Whole "\x7b" := whole_chars rfl rfl
  have hlast : Text.block [closes] = closes := String.intercalate_singleton
  rw [Text.block_cons_cons, Text.block_cons_cons, Text.block_cons_cons, hlast]
  exact ((hopen.append hbreak).append ((hline.append hbreak).append hcode)).reads

end

/-! The tests of the rules. -/

theorem silent_dataField (field : String) :
    Silent ("data" ++ (if field = "" then "" else Path.render (Text.splitAt '.' field))) := by
  split
  · rw [String.append_empty]
    exact silent_chars rfl rfl
  · exact silent_rooted (by simp) _

theorem silent_present : Silent present := silent_chars rfl rfl

theorem silent_formTest {test : String} (h : Silent test) : Silent (present ++ " && " ++ test) :=
  Whole.before (silent_present.closed (closer_chars rfl rfl)) h

theorem silent_lengthTest (low high : Int) :
    Silent (present ++ " && (" ++ sizeOfValue ++ " < " ++ toString low ++ " || " ++ sizeOfValue ++ " > " ++
      toString high ++ ")") := by
  have hsize : Silent sizeOfValue := silent_chars rfl rfl
  have hopen : Whole (present ++ " && (") := silent_present.closed (closer_chars rfl rfl)
  have hlow : Whole (present ++ " && (" ++ sizeOfValue ++ " < " ++ toString low ++ " || ") :=
    (hopen.around hsize (closer_chars rfl rfl)).around (silent_int low) (closer_chars rfl rfl)
  exact ((hlow.around hsize (closer_chars rfl rfl)).around (silent_int high) (closer_chars rfl rfl)).silent

theorem silent_rangeTest (low high : Json) :
    Silent (present ++ " && (Number.isNaN(Number(value)) || Number(value) < " ++ low.compact ++
      " || Number(value) > " ++ high.compact ++ ")") := by
  have hfront : Whole (present ++ " && (Number.isNaN(Number(value)) || Number(value) < ") :=
    silent_present.closed (closer_chars rfl rfl)
  exact ((hfront.around (silent_compact low) (closer_chars rfl rfl)).around (silent_compact high)
    (closer_chars rfl rfl)).silent

theorem silent_regexTest (pattern : String) :
    Silent (present ++ " && !new RegExp(" ++ Json.quote pattern ++ ").test(String(value))") := by
  have hfront : Whole (present ++ " && !new RegExp(") := silent_present.closed (closer_chars rfl rfl)
  exact (hfront.around (whole_quote pattern).silent (closer_chars rfl rfl)).silent

theorem reads_unsupportedRule (rule : Json) (field : String) :
    Reads [] ("// Unsupported validation rule " ++ rule.compact ++ " on field " ++ Json.quote field) := by
  have hfront : Single "Unsupported validation rule " := single_chars rfl rfl
  have hmiddle : Single " on field " := single_chars rfl rfl
  have hcomment := reads_comment
    (((hfront.append (single_compact rule)).append hmiddle).append (single_quote field))
  rwa [← String.append_assoc, ← String.append_assoc, ← String.append_assoc] at hcomment

/-- One case per kind of rule; only the custom ones hold code that is handed in. -/
theorem reads_ruleCode {ms : Members} {text : String}
    (hcustom : ∀ key ∈ ["expression", "customCode"], ∀ v, Members.get? "type" ms = some (.str "custom") →
      Members.get? key ms = some v → Silent (ctx.resolver.code v.plainText))
    (h : ruleCode ctx ms = .ok text) : Reads [] text := by
  have hvalue := silent_dataField ((Members.get? "field" ms).getD (.str "")).plainText
  have hpush (field : String) (default : String) : Whole (pushError field
      ((Members.get? "type" ms).getD (.str "")).compact
        (((Members.get? "message" ms).getD .null).orElse (.str default)).compact) :=
    whole_pushError field (silent_compact _) (silent_compact _)
  rw [ruleCode] at h
  dsimp only at h
  split at h
  · obtain rfl := Except.ok.inj h
    exact reads_ruleBlock hvalue (silent_chars rfl rfl)
      (whole_pushError _ (whole_quote _).silent (silent_compact _))
  · obtain rfl := Except.ok.inj h
    exact reads_ruleBlock hvalue (silent_formTest (silent_chars rfl rfl)) (hpush _ _)
  · obtain rfl := Except.ok.inj h
    exact reads_ruleBlock hvalue (silent_formTest (silent_chars rfl rfl)) (hpush _ _)
  · obtain ⟨low, -, h⟩ := bind_eq_ok h
    obtain ⟨high, -, h⟩ := bind_eq_ok h
    obtain rfl := Except.ok.inj h
    exact reads_ruleBlock hvalue (silent_lengthTest low high) (hpush _ _)
  · obtain rfl := Except.ok.inj h
    exact reads_ruleBlock hvalue (silent_rangeTest _ _) (hpush _ _)
  · obtain rfl := Except.ok.inj h
    exact reads_ruleBlock hvalue (silent_regexTest _) (hpush _ _)
  · rename_i hkind
    have hkind : Members.get? "type" ms = some (.str "custom") := by
      cases hget : Members.get? "type" ms with
      | none => simp [hget] at hkind
      | some v => simpa [hget] using hkind
    split at h
    · rename_i hgiven
      obtain rfl := Except.ok.inj h
      cases hget : Members.get? "expression" ms with
      | none => simp [hget, Json.isGiven] at hgiven
      | some v =>
          exact reads_ruleBlock hvalue (Whole.around (whole_chars rfl rfl)
            (hcustom _ (by simp) v hkind hget) (closer_chars rfl rfl)).silent (hpush _ _)
    · obtain rfl := Except.ok.inj h
      refine reads_customBlock hvalue ?_
      cases hget : Members.get? "customCode" ms with
      | none => exact whole_empty.silent
      | some v => exact hcustom _ (by simp) v hkind hget
  · obtain rfl := Except.ok.inj h
    exact reads_unsupportedRule _ _

theorem faithful_validate (hself : SelfContained n ctx) (htype : n.type = "validate")
    (h : (validate n ctx).result = .ok b) : b.Faithful := by
  rw [validate] at h
  obtain ⟨items, hitems, h⟩ := Outcome.result_bind_eq_ok h
  obtain ⟨rules, hrules, h⟩ := Outcome.result_bind_eq_ok h
  obtain rfl := Except.ok.inj h
  have hrules : ∀ l ∈ rules, Reads [] l := by
    refine Meets.of_ok (Meets.mapM (E := fun _ => True) fun ms hms => ?_) hrules
    obtain ⟨v, hv, hmembers⟩ := List.mem_filterMap.mp hms
    obtain rfl := Json.eq_obj_of_members? hmembers
    cases htext : ruleCode ctx ms with
    | error f => exact trivial
    | ok text =>
        exact reads_ruleCode (fun key hkey w hkind hget =>
          hself.given _ (.rule htype hitems hv hkind hkey hget)) htext
  refine Code.faithful_texts ?_
  simp only [List.forall_mem_append, List.forall_mem_cons, List.not_mem_nil, false_imp_iff,
    implies_true, and_true]
  refine ⟨⟨⟨⟨⟨?_, reads_chars rfl rfl⟩, hrules⟩, reads_chars rfl rfl⟩, ?_⟩, ?_⟩
  · exact reads_constant (whole_chars rfl rfl) whole_emptyObject.silent
  · split
    · simp only [List.forall_mem_cons, List.not_mem_nil, false_imp_iff, implies_true, and_true]
      exact ⟨Whole.reads (whole_opens (silent_chars rfl rfl)), reads_chars rfl rfl, whole_closes.reads⟩
    · simp
  · refine reads_constant (whole_chars rfl rfl) (whole_braced ?_).silent
    simp only [String.reduceAppend]
    exact silent_chars rfl rfl

/-! ### Waiting -/

theorem reads_inputLine (ctx : Context) (n : Node) :
    Reads [] ("const inputData = " ++ ctx.input n ++ ";") :=
  reads_constant (whole_chars rfl rfl) (silent_input ctx n)

theorem faithful_sleep (h : (sleep n ctx).result = .ok b) : b.Faithful := by
  rw [sleep] at h
  obtain ⟨plan, -, h⟩ := Outcome.result_bind_eq_ok h
  dsimp only at h
  have hstep := whole_quote (ctx.stepName n)
  have hinput : Silent "inputData" := silent_chars rfl rfl
  -- What is waited for, and what is told of it, depend on the plan; the lines are the same.
  have hlines {wait : String} (hwait : Reads [] wait) :
      ∀ c ∈ Code.texts ["const inputData = " ++ ctx.input n ++ ";", wait], c.Faithful := by
    refine Code.faithful_texts ?_
    simp only [List.forall_mem_cons, List.not_mem_nil, false_imp_iff, implies_true, and_true]
    exact ⟨reads_inputLine ctx n, hwait⟩
  cases plan with
  | absolute moment =>
      obtain rfl := Except.ok.inj h
      refine ⟨hlines (reads_around ?_ (silent_compact _) (closer_chars rfl rfl)), hinput,
        (whole_braced (Whole.before (whole_chars rfl rfl) (silent_compact _))).silent⟩
      exact .append (.append (whole_chars rfl rfl) hstep) (whole_chars rfl rfl)
  | relative ms =>
      obtain rfl := Except.ok.inj h
      refine ⟨hlines (reads_around ?_ (silent_int ms) (closer_chars rfl rfl)), hinput,
        (whole_braced (Whole.before (whole_chars rfl rfl) (silent_int ms))).silent⟩
      exact .append (.append (whole_chars rfl rfl) hstep) (whole_chars rfl rfl)

theorem silent_limit (timeout : Option Int) : Silent (match timeout with
    | some ms => ", timeout: " ++ toString ms
    | none => "") := by
  cases timeout with
  | none => exact whole_empty.silent
  | some ms => exact Whole.before (whole_chars rfl rfl) (silent_int ms)

theorem whole_waitLine (step eventType : String) {limit : String} (hlimit : Silent limit) :
    Whole ("received = await step.waitForEvent(" ++ Json.quote step ++ ", " ++
      braced ("type: " ++ Json.quote eventType ++ limit) ++ ");") := by
  have htype : Whole ("type: " ++ Json.quote eventType) :=
    .append (whole_chars rfl rfl) (whole_quote eventType)
  have hstep : Whole ("received = await step.waitForEvent(" ++ Json.quote step ++ ", ") :=
    .append (.append (whole_chars rfl rfl) (whole_quote step)) (whole_chars rfl rfl)
  exact .append (hstep.append (whole_braced (htype.before hlimit))) (whole_chars rfl rfl)

theorem faithful_waitEvent (h : (waitEvent n ctx).result = .ok b) : b.Faithful := by
  have hresult : Silent (braced "event: received, timedOut") := (whole_braced (silent_chars rfl rfl)).silent
  rw [waitEvent] at h
  split at h
  · split at h
    · cases h
    obtain ⟨timeout, -, h⟩ := Outcome.result_bind_eq_ok h
    obtain rfl := Except.ok.inj h
    refine ⟨Code.faithful_texts (List.forall_mem_append.mpr ⟨?_, ?_⟩), silent_chars rfl rfl, hresult⟩
    · simp only [List.forall_mem_cons, List.not_mem_nil, false_imp_iff, implies_true, and_true]
      exact ⟨reads_inputLine ctx n, reads_chars rfl rfl, reads_chars rfl rfl⟩
    · have hwait := whole_waitLine (ctx.stepName n) ‹String› (silent_limit timeout)
      split
      · simp only [List.forall_mem_cons, List.not_mem_nil, false_imp_iff, implies_true, and_true]
        exact ⟨Whole.reads (whole_opens (silent_chars rfl rfl)), (whole_indent hwait).reads,
          Whole.reads (whole_reopens (silent_chars rfl rfl)), reads_chars rfl rfl, whole_closes.reads⟩
      · exact List.forall_mem_singleton.mpr hwait.reads
  · cases h

end Fragment

end DurableFlow
