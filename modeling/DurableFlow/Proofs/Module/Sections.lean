import DurableFlow.Proofs.Module.Quiet

/-!
The sections of a source around the fragments: the class of the workflow, the handler, and the
server of a workflow that is a tool. No signal stands in them when no mark stands in the names,
descriptions and parameters that they hold.
-/

namespace DurableFlow.Module

open Skeleton Fragment

theorem quiet_runEvent {event workflow : String} (hevent : Quiet (Json.quote event))
    (h : Unmarked workflow) : Quiet (runEvent event workflow) := by
  have hfields : Quiet ("type: " ++ Json.quote event ++ ", workflow: " ++ Json.quote workflow ++
      ", timestamp: Date.now(), instanceId: event.instanceId") := by
    refine ((hevent.between ?_ ?_).between (quiet_quote h) ?_).avoids
    all_goals exact fenced_chars rfl rfl
  unfold runEvent methodMargin
  refine ((quiet_braced hfields).between (.append ?_ ?_) ?_).avoids
  all_goals exact fenced_chars rfl rfl

theorem quiet_headLine {workflow : String} (h : Unmarked workflow) : Quiet (headLine workflow) :=
  (quiet_quote h.singleLine).behindFenced (fenced_chars rfl rfl)

theorem quiet_importLine {name source : String} (hname : Quiet name)
    (hsource : Quiet (Json.quote source)) : Quiet (importLine name source) := by
  unfold importLine
  refine (((quiet_braced hname).between ?_ ?_).between hsource ?_).avoids
  all_goals exact fenced_chars rfl rfl

theorem quiet_imports (tool : Option Node) :
    Quiet (Text.block (baseImports ++ (if tool.isSome then toolImports else []))) := by
  apply quiet_block
  intro l hl
  have hmem : l ∈ baseImports ++ toolImports := by
    rcases List.mem_append.mp hl with hl | hl
    · exact List.mem_append_left _ hl
    · split at hl
      · exact List.mem_append_right _ hl
      · simp at hl
  unfold baseImports toolImports at hmem
  simp only [List.cons_append, List.nil_append, List.mem_cons, List.not_mem_nil, or_false] at hmem
  rcases hmem with rfl | rfl | rfl | rfl
  all_goals
    exact quiet_importLine (quiet_chars rfl rfl) (quiet_quote (unmarked_chars rfl rfl))

theorem quiet_classHead {className workflow : String} (hclass : Unmarked className)
    (h : Unmarked workflow) : Quiet (classHead className workflow) := by
  apply quiet_block
  simp only [List.forall_mem_cons, List.not_mem_nil, false_imp_iff, implies_true, and_true]
  refine ⟨quiet_opens (hclass.quiet.between ?_ ?_).avoids,
    quiet_opens (quiet_chars rfl rfl),
    quiet_runEvent (quiet_quote (unmarked_chars rfl rfl)) h,
    (quiet_emptyObject.between ?_ ?_).avoids, (quiet_emptyObject.between ?_ ?_).avoids,
    quiet_empty, quiet_empty⟩
  all_goals exact fenced_chars rfl rfl

theorem quiet_classFoot {workflow : String} (h : Unmarked workflow) :
    Quiet (classFoot workflow) := by
  apply quiet_block
  simp only [List.forall_mem_cons, List.not_mem_nil, false_imp_iff, implies_true, and_true]
  refine ⟨quiet_empty, quiet_empty, quiet_runEvent (quiet_quote (unmarked_chars rfl rfl)) h,
    quiet_chars rfl rfl,
    (Text.Fenced.append ?_ fenced_closes).avoids, fenced_closes.avoids⟩
  exact fenced_chars rfl rfl

theorem fenced_gap : Text.Fenced signals "\n\n".toList := fenced_chars rfl rfl

theorem quiet_opening {className workflow : String} (hclass : Unmarked className)
    (h : Unmarked workflow) (tool : Option Node) : Quiet (opening className workflow tool) := by
  unfold opening
  refine (((quiet_headLine h).appendFenced fenced_gap).append (quiet_imports tool)
    (.inl ?_) |>.appendFenced fenced_gap).append (quiet_classHead hclass h) (.inl ?_)
  · rw [String.toList_append]
    exact fenced_gap.behind.append _
  · rw [String.toList_append]
    exact fenced_gap.behind.append _

theorem fencedBehind_opening (className workflow : String) (tool : Option Node) :
    Text.FencedBehind signals (opening className workflow tool).toList := by
  obtain ⟨before, hopening⟩ := opening_ends className workflow tool
  rw [hopening, String.toList_append]
  exact fenced_feed.behind.append _

/-! ### The handler -/

theorem quiet_of_isAsciiWord {s : String} (h : ∀ c ∈ s.toList, Text.isAsciiWord c = true) :
    Quiet s :=
  Text.Avoids.of_forall rfl h

/-- The binding of a workflow, with what it is read from. -/
theorem fenced_binding {a : String} (ha : Text.Fenced signals a.toList) (className : String) :
    Text.Fenced signals (a ++ bindingName className).toList := by
  rw [bindingName, ← String.append_assoc]
  refine ha.between (quiet_of_isAsciiWord fun c hc => ?_) (fenced_chars rfl rfl)
  rw [String.toList_ofList] at hc
  obtain ⟨d, -, rfl⟩ := List.mem_map.mp hc
  split
  · rename_i hd
    rw [Bool.or_eq_true] at hd
    rw [Text.isAsciiWord, Text.isAsciiLetter]
    rcases hd with hd | hd
    · simp [hd]
    · simp [hd]
  · rfl

theorem fenced_toolClass {a className : String} (ha : Text.Fenced signals a.toList)
    (h : Unmarked className) : Text.Fenced signals (a ++ toolClass className).toList := by
  rw [toolClass, ← String.append_assoc]
  exact ha.between h.quiet (fenced_chars rfl rfl)

theorem quiet_closes : Quiet closes := fenced_closes.avoids

theorem quiet_handlerLines (className : String) :
    ∀ l ∈ handlerLines (bindingName className), Quiet l := by
  have hbinding := fenced_binding (a := "const instance = await env.") (fenced_chars rfl rfl)
    className
  unfold handlerLines
  simp only [List.forall_mem_cons, List.not_mem_nil, false_imp_iff, implies_true, and_true]
  refine ⟨quiet_chars rfl rfl, quiet_chars rfl rfl, quiet_opens (quiet_chars rfl rfl),
    Quiet.behindFenced (quiet_chars rfl rfl) (fenced_binding ?_ className),
    ((quiet_braced (quiet_chars rfl rfl)).between ?_ ?_).avoids, quiet_closes,
    (quiet_emptyObject.between ?_ ?_).avoids, quiet_opens (quiet_chars rfl rfl),
    quiet_opens (quiet_chars rfl rfl), quiet_chars rfl rfl,
    (quiet_reopens (quiet_chars rfl rfl)).behindFenced ?_,
    (quiet_emptyObject.between ?_ ?_).avoids, quiet_closes.behindFenced ?_, quiet_closes,
    ((quiet_braced (quiet_chars rfl rfl)).between (hbinding.append_startsNone rfl rfl) ?_).avoids,
    ((quiet_braced (quiet_chars rfl rfl)).between ?_ ?_).avoids⟩
  all_goals exact fenced_chars rfl rfl

theorem quiet_toolRoutes {className : String} (h : Unmarked className) :
    ∀ l ∈ toolRoutes (toolClass className), Quiet l := by
  have hclass := fenced_toolClass (a := "  return ") (fenced_chars rfl rfl) h
  unfold toolRoutes
  simp only [List.forall_mem_cons, List.not_mem_nil, false_imp_iff, implies_true, and_true]
  exact ⟨quiet_opens (quiet_chars rfl rfl), (hclass.append_startsNone rfl rfl).avoids, quiet_closes,
    quiet_opens (quiet_chars rfl rfl), (hclass.append_startsNone rfl rfl).avoids, quiet_closes⟩

theorem quiet_handler {parameters : String} {lines : List String} (hparameters : Quiet parameters)
    (hlines : ∀ l ∈ lines, Quiet l) : Quiet (handler parameters lines) := by
  apply quiet_block
  simp only [List.forall_mem_cons, List.not_mem_nil, false_imp_iff, implies_true, and_true]
  refine ⟨quiet_opens (quiet_chars rfl rfl), quiet_opens (hparameters.between ?_ ?_).avoids,
    quiet_methodMargin (quiet_block hlines), (quiet_closes.between ?_ ?_).avoids,
    quiet_closes.appendFenced ?_⟩
  all_goals exact fenced_chars rfl rfl

/-! ### The server of a tool -/

theorem quiet_toString (n : Nat) : Quiet (toString n) :=
  quiet_of_isAsciiWord fun _ hc => Step.isAsciiWord_of_mem_toString hc

theorem mem_slug (name : String) : ∀ c ∈ (slug name).toList, isSlugChar c = true ∨ c = '-' := by
  rw [slug]
  split
  · intro c hc
    have hall : "workflow".toList.all isSlugChar = true := by decide
    exact .inl (List.all_eq_true.mp hall c hc)
  · refine Text.forall_mem_intercalate (by simp) fun word hword c hc => .inl ?_
    obtain ⟨run, hrun, rfl⟩ := List.mem_map.mp hword
    rw [String.toList_ofList] at hc
    exact (Text.of_mem_runs hrun).2.2 c hc

/-- The name that a tool gets from its workflow has small letters, digits and underscores only. -/
theorem unmarked_defaultName (workflow : String) : Unmarked (String.ofList
    ((slug workflow).toList.map fun c => if c = '-' then '_' else c) ++ "_tool") := by
  rw [unmarked_iff, String.toList_append, String.toList_ofList]
  refine Text.Avoids.of_forall (p := fun c => isSlugChar c || c == '_') rfl fun c hc => ?_
  rcases List.mem_append.mp hc with hc | hc
  · obtain ⟨d, hd, rfl⟩ := List.mem_map.mp hc
    split
    · rfl
    · rename_i hdash
      rw [(mem_slug workflow d hd).resolve_right hdash, Bool.true_or]
  · have hall : "_tool".toList.all (fun c => isSlugChar c || c == '_') = true := by decide
    exact List.all_eq_true.mp hall c hc

theorem quiet_toolName {n : Node} (h : UnmarkedValue (n.setting "toolName")) (workflow : String) :
    Quiet (Tool.name n workflow).compact :=
  (UnmarkedValue.orElse h (unmarked_defaultName workflow)).quiet

theorem quiet_toolDescription {n : Node} {workflow : String}
    (h : UnmarkedValue (n.setting "description")) (hworkflow : Unmarked workflow) :
    Quiet (Tool.description n workflow).compact := by
  have hdefault : Unmarked ("Execute " ++ workflow ++ " via MCP") := by
    refine hworkflow.between ?_ ?_
    all_goals exact .of_chars rfl (.of_isFenced rfl)
  exact (UnmarkedValue.orElse h hdefault).quiet

theorem fenced_shape (type : Json) :
    Text.Fenced signals
      ((type.string?.bind fun name => Tool.shapes.lookup name).getD "z.any()").toList := by
  have hshapes : ∀ p ∈ Tool.shapes, Text.Fenced signals p.2.toList := by
    unfold Tool.shapes
    simp only [List.forall_mem_cons, List.not_mem_nil, false_imp_iff, implies_true, and_true]
    refine ⟨?_, ?_, ?_, ?_, ?_⟩
    all_goals exact fenced_chars rfl rfl
  cases hshape : type.string?.bind fun name => Tool.shapes.lookup name with
  | none => exact fenced_chars rfl rfl
  | some code =>
      obtain ⟨name, -, hlookup⟩ := Option.bind_eq_some_iff.mp hshape
      obtain ⟨before, behind, hsplit, -⟩ := List.lookup_eq_some_iff.mp hlookup
      exact hshapes (name, code) (hsplit ▸ List.mem_append_right _ List.mem_cons_self)

theorem quiet_shapeEntry {p : Tool.Parameter} {entry : String} (hname : UnmarkedValue p.name)
    (hdescription : UnmarkedValue (p.get "description")) (h : Tool.shapeEntry p = .ok entry) :
    Quiet entry := by
  obtain ⟨type, -, h⟩ := bind_eq_ok h
  obtain rfl := Except.ok.inj h
  have hbase := (hname.quiet.between (a := " ") (b := ": ") (fenced_chars rfl rfl)
    (fenced_chars rfl rfl)).append (fenced_shape type)
  have hdescribed : ∀ {t : String}, Text.Fenced signals t.toList → Text.Fenced signals (t ++
      if (p.get "description").isGiven then ".describe(" ++ (p.get "description").compact ++ ")"
      else "").toList := by
    intro t ht
    split
    · rw [← String.append_assoc, ← String.append_assoc]
      exact (ht.append_startsNone rfl rfl).between hdescription.quiet (fenced_chars rfl rfl)
    · rwa [String.append_empty]
  have hoptional : ∀ {t : String}, Text.Fenced signals t.toList →
      Text.Fenced signals (t ++ if p.isRequired then "" else ".optional()").toList := by
    intro t ht
    split
    · rwa [String.append_empty]
    · exact ht.append_startsNone rfl rfl
  -- A name may be any text, so the entry is fenced only behind the space that stands before it.
  apply quiet_of_spaced
  rw [← String.append_assoc, ← String.append_assoc, ← String.append_assoc, ← String.append_assoc]
  exact hoptional (hdescribed hbase)

theorem quiet_shape {n : Node} {text : String}
    (hparameters : ∀ ps, Tool.parameters n = .ok ps → ∀ p ∈ ps,
      UnmarkedValue p.name ∧ UnmarkedValue (p.get "description"))
    (h : Tool.shape n = .ok text) : Quiet text := by
  obtain ⟨ps, hps, h⟩ := bind_eq_ok h
  obtain ⟨entries, hentries, h⟩ := bind_eq_ok h
  obtain rfl := Except.ok.inj h
  have hquiet : Meets (ps.mapM Tool.shapeEntry) (fun entries => ∀ e ∈ entries, Quiet e)
      fun _ => True := by
    refine Meets.mapM fun p hp => ?_
    obtain ⟨hname, hdescription⟩ := hparameters ps hps p hp
    exact (Meets.of_errors fun _ _ => trivial).imp
      (fun _ hmade => quiet_shapeEntry hname hdescription hmade) fun _ => id
  have hquiet := hquiet.of_ok hentries
  split
  · exact quiet_emptyObject
  · exact quiet_braced (Text.Avoids.intercalate (fenced_chars rfl rfl) hquiet)

/-- What a node needs for its tool server to be quiet. -/
structure UnmarkedTool (n : Node) : Prop where
  name : UnmarkedValue (n.setting "toolName")
  description : UnmarkedValue (n.setting "description")
  parameters : ∀ ps, Tool.parameters n = .ok ps → ∀ p ∈ ps,
    UnmarkedValue p.name ∧ UnmarkedValue (p.get "description")

theorem UnmarkedTool.of_toolInput? {g : Graph} (h : g.UnmarkedTexts) {n : Node}
    (hn : g.toolInput? = some n) : UnmarkedTool n := by
  have hmem := List.mem_of_find?_eq_some hn
  have htype : n.type = toolInputType := by simpa using List.find?_some hn
  exact ⟨h.toolName n hmem htype, h.toolDescription n hmem htype, h.toolParameter n hmem htype⟩

theorem quiet_output {outputStep : Json} (h : UnmarkedValue outputStep) :
    Quiet (if outputStep.isGiven then "status.output?.[" ++ outputStep.compact ++ "]"
      else "status.output") := by
  split
  · exact (h.quiet.between (fenced_chars rfl rfl) (fenced_chars rfl rfl)).avoids
  · exact quiet_chars rfl rfl

theorem quiet_toolServer {className workflow server : String} {n : Node} {outputStep : Json}
    (hn : UnmarkedTool n) (hclass : Unmarked className) (hworkflow : Unmarked workflow)
    (hstep : UnmarkedValue outputStep)
    (h : toolServer className n workflow outputStep = .ok server) : Quiet server := by
  obtain ⟨_, -, h⟩ := bind_eq_ok h
  obtain ⟨shape, hshape, h⟩ := bind_eq_ok h
  obtain rfl := Except.ok.inj h
  have hname := quiet_toolName hn.name workflow
  have hclassName := fenced_toolClass (a := "export class ") (fenced_chars rfl rfl) hclass
  have hbinding := fenced_binding (a := "        const instance = await this.env.")
    (fenced_chars rfl rfl) className
  have hversion : Quiet ("name: " ++ (Tool.name n workflow).compact ++ ", version: " ++
      Json.quote Tool.version) := by
    refine (quiet_quote ?_).behindFenced (hname.between ?_ ?_)
    · exact unmarked_chars rfl rfl
    all_goals exact fenced_chars rfl rfl
  -- Line by line, in the order of the server.
  apply quiet_block
  simp only [List.forall_mem_cons, List.not_mem_nil, false_imp_iff, implies_true, and_true]
  refine ⟨quiet_opens (hclassName.append ?_).avoids, ((quiet_braced hversion).between ?_ ?_).avoids,
    quiet_empty, quiet_opens (quiet_chars rfl rfl), quiet_chars rfl rfl,
    (hname.between ?_ ?_).avoids,
    ((quiet_toolDescription hn.description hworkflow).between ?_ ?_).avoids,
    ((quiet_shape hn.parameters hshape).between ?_ ?_).avoids, quiet_opens (quiet_chars rfl rfl),
    ((quiet_braced (quiet_chars rfl rfl)).between (hbinding.append_startsNone rfl rfl) ?_).avoids,
    quiet_chars rfl rfl, quiet_opens ((quiet_toString _).between ?_ ?_).avoids,
    quiet_chars rfl rfl, ((quiet_toString _).between ?_ ?_).avoids, quiet_chars rfl rfl,
    quiet_closes.behindFenced ?_, ((quiet_output hstep).between ?_ ?_).avoids, quiet_chars rfl rfl,
    quiet_opens (quiet_chars rfl rfl), ((quiet_braced (quiet_chars rfl rfl)).between ?_ ?_).avoids,
    quiet_chars rfl rfl, (quiet_closes.between ?_ ?_).avoids, quiet_closes.behindFenced ?_,
    quiet_chars rfl rfl, quiet_closes.behindFenced ?_, quiet_closes⟩
  all_goals exact fenced_chars rfl rfl

/-! ### All that stands behind the fragments -/

theorem quiet_sections {className workflow : String} {outputStep : Json} {tool : Option Node}
    {sections : List String} (htool : ∀ n ∈ tool, UnmarkedTool n) (hclass : Unmarked className)
    (hworkflow : Unmarked workflow) (hstep : UnmarkedValue outputStep)
    (h : ClosingSections className workflow outputStep tool sections) :
    ∀ part ∈ sections, Quiet part := by
  cases h with
  | plain =>
      simp only [List.forall_mem_cons, List.not_mem_nil, false_imp_iff, implies_true, and_true]
      exact quiet_handler (quiet_chars rfl rfl) (quiet_handlerLines className)
  | @tool n server hserver =>
      simp only [List.forall_mem_cons, List.not_mem_nil, false_imp_iff, implies_true, and_true]
      refine ⟨quiet_toolServer (htool n rfl) hclass hworkflow hstep hserver,
        quiet_handler (quiet_chars rfl rfl) (List.forall_mem_append.mpr
          ⟨quiet_toolRoutes hclass, quiet_handlerLines className⟩)⟩

theorem quiet_closing {workflow : String} {sections : List String} (hworkflow : Unmarked workflow)
    (h : ∀ part ∈ sections, Quiet part) : Quiet (closing workflow sections) := by
  unfold closing
  refine (((quiet_classFoot hworkflow).appendFenced fenced_gap).append
    (Text.Avoids.intercalate fenced_gap h) (.inl ?_)).appendFenced fenced_feed
  rw [String.toList_append]
  exact fenced_gap.behind.append _

theorem fencedBefore_closing (workflow : String) (sections : List String) :
    Text.FencedBefore signals (closing workflow sections).toList := by
  obtain ⟨behind, hclosing⟩ := closing_starts workflow sections
  rw [hclosing, String.toList_append]
  exact fenced_feed.before.append _

end DurableFlow.Module
