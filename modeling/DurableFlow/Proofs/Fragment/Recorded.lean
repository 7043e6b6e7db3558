import DurableFlow.Proofs.Module.Segment

/-!
What a fragment tells and records of its node. Main statement: the code of the body stands between the
event for the start and the event for the end, both events name the node, and the body assigns the state
of the node and the result of its step.
-/

namespace DurableFlow.Fragment

def LogsEvent (event : String) (n : Node) (line : String) : Prop :=
  Single line ∧ ∃ rest, line = "console.log(JSON.stringify(\x7b type: " ++ Json.quote event ++
    ", nodeId: " ++ Json.quote n.id ++ ", nodeName: " ++ Json.quote n.displayName ++ ", nodeType: " ++
    Json.quote n.type ++ rest

theorem logsEvent_logEvent (event : String) (n : Node) {extra : String} (h : Single extra) :
    LogsEvent event n (logEvent event n extra) := by
  have hopens : "console.log(JSON.stringify(\x7b type: " =
      "console.log(JSON.stringify(" ++ "\x7b " ++ "type: " := rfl
  refine ⟨single_logEvent event n h, logEnd extra, ?_⟩
  rw [logEvent_eq, nodeFields, hopens]
  simp only [String.append_assoc]

theorem assignment_eq (id : String) :
    assignment id = "_workflowState[" ++ Json.quote id ++ "] = \x7b input: " := by
  have hclose : "] = \x7b input: " = "]" ++ " = \x7b input: " := rfl
  rw [assignment, stateEntry_eq, hclose, String.append_assoc, String.append_assoc]

theorem indent_logEvent (event : String) (n : Node) {extra : String} (h : Single extra) :
    Text.indent (logEvent event n extra) = "  " ++ logEvent event n extra :=
  indentBy_single (single_logEvent event n h) (full_logEvent event n extra) "  "

/-- The code of a body stands between two events, each of them on a line of its own. -/
theorem exists_wrap (n : Node) (code : String) : ∃ start finish before behind,
    LogsEvent "WF_NODE_START" n start ∧ LogsEvent "WF_NODE_END" n finish ∧
      wrap n code = before ++ "\n" ++ "  " ++ start ++ "\n" ++ Text.indent code ++ "\n" ++ "  " ++
        finish ++ "\n" ++ behind := by
  have hstart : Single "" := by simp [Single]
  have hfinish : Single ", success: true" := single_chars rfl (by decide)
  have hwrap := wrap_eq n code
  rw [indent_logEvent _ n hstart, indent_logEvent _ n hfinish] at hwrap
  simp only [← String.append_assoc] at hwrap
  exact ⟨_, _, _, _, logsEvent_logEvent _ n hstart, logsEvent_logEvent _ n hfinish, hwrap⟩

/-- The fragment of every node for which code can be made logs the start of the node, runs the code of its
body and logs the end, and the body assigns the state of the node and the result of its step. An assignment
starts a line of the body, and a line of the fragment unless the name of the step has a line break in it. -/
theorem ofNode_records {n : Node} {ctx : Context} {f : String} (h : (ofNode n ctx).result = .ok f) :
    ∃ b start finish before behind, (body n ctx).result = .ok b ∧
      LogsEvent "WF_NODE_START" n start ∧ LogsEvent "WF_NODE_END" n finish ∧
      f = before ++ "\n" ++ "  " ++ start ++ "\n" ++ Text.indent (b.render ctx n) ++ "\n" ++ "  " ++
        finish ++ "\n" ++ behind ∧
      ∀ w ∈ ["_workflowState[" ++ Json.quote n.id ++ "] = \x7b input: ",
          "_workflowResults." ++ ctx.stepName n ++ " = "],
        Text.StartsLine w (b.render ctx n) ∧
          (Single w → Text.StartsLine w (Text.indent (b.render ctx n))) := by
  obtain ⟨b, hb, rfl⟩ := ofNode_eq_ok h
  obtain ⟨start, finish, before, behind, hstart, hfinish, hwrap⟩ := exists_wrap n (b.render ctx n)
  refine ⟨b, start, finish, before, behind, hb, hstart, hfinish, hwrap, ?_⟩
  have hstate := startsLine_state ctx n b
  have hresult := startsLine_result ctx n b
  rw [assignment_eq] at hstate
  rw [resultRef_eq] at hresult
  have hfull {w t u : String} (hw : Full w) : Full (w ++ t ++ u) := (hw.append t).append u
  rw [List.forall_mem_cons, List.forall_mem_singleton]
  exact ⟨⟨hstate, fun h => hstate.indent h (hfull (full_chars rfl (by decide)))⟩,
    hresult, fun h => hresult.indent h (hfull (full_chars rfl (by decide)))⟩

/-- A node of a type for which there is no code, and with an id that has to be quoted. -/
theorem ofNode_records_teleport :
    let n : Node := { id := "a\"b", type := "teleport", data := { label := some "Go" } }
    let ctx := Context.ofGraph { nodes := [n] } Catalog.builtin {}
    ∃ f b, (ofNode n ctx).result = .ok f ∧ (body n ctx).result = .ok b ∧
      Text.StartsLine "_workflowState[\"a\\\"b\"] = \x7b input: " (b.render ctx n) ∧
      Text.StartsLine "_workflowResults.go = " (b.render ctx n) := by
  intro n ctx
  have hok : (ofNode n ctx).result = .ok (wrap n ((passthrough n ctx).render ctx n)) := rfl
  obtain ⟨b, start, finish, before, behind, hb, -, -, -, hassigns⟩ := ofNode_records hok
  rw [List.forall_mem_cons, List.forall_mem_singleton] at hassigns
  have hid : "_workflowState[" ++ Json.quote n.id ++ "] = \x7b input: " =
      "_workflowState[\"a\\\"b\"] = \x7b input: " := by
    decide
  have hname : "_workflowResults." ++ ctx.stepName n ++ " = " = "_workflowResults.go = " := by
    decide
  rw [hid, hname] at hassigns
  exact ⟨_, b, hok, hb, hassigns.1.1, hassigns.2.1⟩

end DurableFlow.Fragment
