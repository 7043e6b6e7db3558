import DurableFlow.Proofs.Code.Generated

/-!
The code of nodes that store, query or ask a model, and with it the code of every node. It is faithful: a
reader of its text finds the resources that it is said to read, and nothing else, if the node hands in no
code that reads something.
-/

namespace DurableFlow

open Access

namespace Fragment

variable {n : Node} {ctx : Context} {b : Body}

/-! ### Storage -/

theorem reads_keyLine (hctx : ctx.Named) (n : Node) : Reads [] (keyLine n ctx) :=
  reads_constant (whole_chars rfl rfl) (silent_value hctx.steps _)

theorem faithful_kvGet (hctx : ctx.Named) (h : (kvGet n ctx).result = .ok b) : b.Faithful := by
  obtain ⟨name, hname, h⟩ := Outcome.result_bind_eq_ok h
  obtain rfl := Except.ok.inj h
  have hsafe := isSafe_kvNamespace hname
  have hform (form : String) : Whole (".get(key, " ++ Json.quote form ++ ");") :=
    Whole.around (whole_chars rfl rfl) (whole_quote form).silent (closer_chars rfl rfl)
  have hresult : Silent ("value, exists: value !== null, metadata: value !== null ? " ++ braced "key" ++
      " : null") :=
    Whole.before (Whole.append (whole_chars rfl rfl) (whole_braced (silent_chars rfl rfl)))
      (silent_chars rfl rfl)
  refine List.forall_mem_append.mpr ⟨List.forall_mem_append.mpr ⟨List.forall_mem_append.mpr ⟨?_, ?_⟩, ?_⟩, ?_⟩
  · exact Code.faithful_texts (List.forall_mem_singleton.mpr (reads_keyLine hctx n))
  · exact List.forall_mem_singleton.mpr
      (Code.faithful_call "kv" (whole_chars rfl rfl) hsafe (hform _) (by simp))
  · split
    · refine Code.faithful_texts ?_
      simp only [List.forall_mem_cons, List.not_mem_nil, false_imp_iff, implies_true, and_true]
      exact ⟨Whole.reads (whole_opens (silent_chars rfl rfl)), reads_chars rfl rfl, whole_closes.reads⟩
    · simp
  · exact Code.faithful_texts (List.forall_mem_singleton.mpr
      (reads_constant (whole_chars rfl rfl) (whole_braced hresult).silent))

theorem silent_secondsOption {ms : Members} {key : String} (hkey : isWhole (key ++ ": ").toList = true)
    {entries : List String} (h : secondsOption ms key = .ok entries) : ∀ t ∈ entries, Silent t := by
  rw [secondsOption] at h
  split at h
  · obtain ⟨seconds, -, h⟩ := bind_eq_ok h
    obtain rfl := Except.ok.inj h
    exact List.forall_mem_singleton.mpr ((Whole.of_isWhole hkey).before (silent_int seconds))
  · obtain rfl := Except.ok.inj h
    simp

/-- The options are the last argument of the call, if there are any. -/
theorem whole_putCall (hctx : ctx.Named) {v : Json} {options : String}
    (h : putOptions v ctx.resolver = .ok options) : Whole (".put(key, stored" ++ options ++ ");") := by
  have hplain : Whole ".put(key, stored);" := whole_chars rfl rfl
  cases v with
  | obj ms =>
      rw [putOptions] at h
      obtain ⟨ttl, httl, h⟩ := bind_eq_ok h
      obtain ⟨expiration, hexpiration, h⟩ := bind_eq_ok h
      have httl : ∀ t ∈ ttl, Silent t := silent_secondsOption (by decide) httl
      have hexpiration : ∀ t ∈ expiration, Silent t :=
        silent_secondsOption (by decide) hexpiration
      obtain ⟨entries, hentries, rfl⟩ : ∃ entries, (∀ t ∈ entries, Silent t) ∧
          (if entries.isEmpty then "" else ", " ++ braced (", ".intercalate entries)) = options := by
        refine ⟨_, ?_, Except.ok.inj h⟩
        simp only [List.forall_mem_append]
        refine ⟨⟨httl, hexpiration⟩, ?_⟩
        split
        · exact List.forall_mem_singleton.mpr
            (Whole.before (whole_chars rfl rfl) (silent_value hctx.steps _))
        · simp
      split
      · exact hplain
      · rw [← String.append_assoc]
        have hopen : Whole (".put(key, stored" ++ ", ") := by
          simp only [String.reduceAppend]
          exact whole_chars rfl rfl
        exact hopen.around (whole_braced (silent_list hentries)).silent (closer_chars rfl rfl)
  | _ =>
      obtain rfl := Except.ok.inj h
      exact hplain

theorem faithful_kvPut (hctx : ctx.Named) (hself : SelfContained n ctx) (htype : n.type = "kv-put")
    (h : (kvPut n ctx).result = .ok b) : b.Faithful := by
  obtain ⟨name, hname, h⟩ := Outcome.result_bind_eq_ok h
  obtain ⟨options, hoptions, h⟩ := Outcome.result_bind_eq_ok h
  obtain rfl := Except.ok.inj h
  refine List.forall_mem_append.mpr ⟨List.forall_mem_append.mpr ⟨?_, ?_⟩, ?_⟩
  · refine Code.faithful_texts ?_
    simp only [List.forall_mem_cons, List.not_mem_nil, false_imp_iff, implies_true, and_true]
    refine ⟨reads_keyLine hctx n, reads_constant (whole_chars rfl rfl) ?_, reads_chars rfl rfl⟩
    split
    · rename_i ms hms
      exact silent_source hctx fun hkind => hself.given _ (.source (by rw [htype]; decide) hms hkind)
    · exact silent_chars rfl rfl
    · exact silent_value hctx.steps _
  · exact List.forall_mem_singleton.mpr (Code.faithful_call "kv" (whole_chars rfl rfl)
      (isSafe_kvNamespace hname) (whole_putCall hctx hoptions) (by simp))
  · exact Code.faithful_texts (List.forall_mem_singleton.mpr
      (reads_constant (whole_chars rfl rfl) (whole_braced (silent_chars rfl rfl)).silent))

theorem silent_queryParameters (hctx : ctx.Named) {v : Json} {parameters : List String}
    (h : queryParameters v ctx.resolver = .ok parameters) : ∀ t ∈ parameters, Silent t := by
  obtain ⟨items, -, h⟩ := bind_eq_ok h
  obtain rfl := Except.ok.inj h
  intro t ht
  obtain ⟨item, -, rfl⟩ := List.mem_map.mp ht
  split <;> exact silent_value hctx.steps _

theorem whole_executeLines (returnType : Json) : ∀ l ∈ executeLines returnType, Whole l := by
  have hconstant {a t : String} (ha : Whole a) (ht : Silent t) : Whole (a ++ t ++ ";") :=
    ha.around ht (closer_chars rfl rfl)
  unfold executeLines
  split
  all_goals
    simp only [List.forall_mem_cons, List.not_mem_nil, false_imp_iff, implies_true, and_true]
    refine ⟨whole_chars rfl rfl, hconstant (whole_chars rfl rfl) (whole_braced ?_).silent⟩
  · exact (Whole.append (whole_chars rfl rfl) whole_emptyObject).silent
  · exact (Whole.append (whole_chars rfl rfl) whole_emptyObject).silent
  · simp only [String.reduceAppend]
    exact (Whole.append (whole_chars rfl rfl) whole_emptyObject).silent

/-- The statement is prepared with the query and bound to the parameters, if there are any. -/
theorem whole_prepareCall (hctx : ctx.Named) (query : Json) {parameters : List String}
    (h : ∀ t ∈ parameters, Silent t) : Whole (".prepare(" ++ ctx.resolver.value query ++ ")" ++
      (if parameters.isEmpty then "" else ".bind(" ++ ", ".intercalate parameters ++ ")") ++ ";") := by
  have hprepare : Whole (".prepare(" ++ ctx.resolver.value query ++ ")") :=
    Whole.around (whole_chars rfl rfl) (silent_value hctx.steps query) (closer_chars rfl rfl)
  refine Whole.append (hprepare.append ?_) (whole_chars rfl rfl)
  split
  · exact whole_empty
  · exact Whole.around (whole_chars rfl rfl) (silent_list h) (closer_chars rfl rfl)

theorem faithful_queryLines (hctx : ctx.Named) (n : Node) (query : Json) {parameters : List String}
    (h : ∀ t ∈ parameters, Silent t) : (Body.durable (Code.texts ["let result;", opens "try"] ++
      [[.text "  const statement = ", .env "d1" (n.d1Database "database"),
        .text (".prepare(" ++ ctx.resolver.value query ++ ")" ++
          (if parameters.isEmpty then "" else ".bind(" ++ ", ".intercalate parameters ++ ")") ++ ";")]] ++
      Code.texts ((executeLines (n.settingD "returnType" (.str "all"))).map ("  " ++ ·) ++
        [reopens "catch (error)",
         "  const message = error instanceof Error ? error.message : String(error);",
         "  result = " ++ braced ("success: false, error: message, results: [], meta: " ++ emptyObject) ++
           ";",
         closes]))).Faithful := by
  have hfailed : Silent ("success: false, error: message, results: [], meta: " ++ emptyObject) :=
    (Whole.append (whole_chars rfl rfl) whole_emptyObject).silent
  refine List.forall_mem_append.mpr ⟨List.forall_mem_append.mpr ⟨?_, ?_⟩, ?_⟩
  · refine Code.faithful_texts ?_
    simp only [List.forall_mem_cons, List.not_mem_nil, false_imp_iff, implies_true, and_true]
    exact ⟨reads_chars rfl rfl, Whole.reads (whole_opens (silent_chars rfl rfl))⟩
  · exact List.forall_mem_singleton.mpr (Code.faithful_call "d1" (whole_chars rfl rfl)
      (isSafe_d1Database n "database") (whole_prepareCall hctx query h) (by simp))
  · refine Code.faithful_texts ?_
    simp only [List.forall_mem_append, List.forall_mem_map, List.forall_mem_cons, List.not_mem_nil,
      false_imp_iff, implies_true, and_true]
    exact ⟨fun l hl => Whole.reads (.append (whole_chars rfl rfl) (whole_executeLines _ l hl)),
      Whole.reads (whole_reopens (silent_chars rfl rfl)), reads_chars rfl rfl,
      reads_constant (whole_chars rfl rfl) (whole_braced hfailed).silent, whole_closes.reads⟩

/-- The notice about the text of the query leaves the lines as they are. -/
theorem faithful_d1Query (hctx : ctx.Named) (h : (d1Query n ctx).result = .ok b) : b.Faithful := by
  rw [d1Query] at h
  dsimp only at h
  split at h
  · obtain ⟨_, -, h⟩ := Outcome.result_bind_eq_ok h
    obtain ⟨parameters, hparameters, h⟩ := Outcome.result_bind_eq_ok h
    obtain rfl := Except.ok.inj h
    exact faithful_queryLines hctx n _ (silent_queryParameters hctx hparameters)
  · obtain ⟨parameters, hparameters, h⟩ := Outcome.result_bind_eq_ok h
    obtain rfl := Except.ok.inj h
    exact faithful_queryLines hctx n _ (silent_queryParameters hctx hparameters)

/-! ### Language models -/

theorem faithful_cacheLines {before after : List Code} (h : cacheLines n ctx = .ok (before, after)) :
    (∀ c ∈ before, c.Faithful) ∧ ∀ c ∈ after, c.Faithful := by
  obtain ⟨cache, hcache, h⟩ := bind_eq_ok h
  split at h
  · obtain ⟨rfl, rfl⟩ := Prod.mk.inj (Except.ok.inj h)
    simp
  · rename_i name
    obtain ⟨ttl, -, h⟩ := bind_eq_ok h
    obtain ⟨rfl, rfl⟩ := Prod.mk.inj (Except.ok.inj h)
    have hsafe : IsSafe name := isSafe_cacheNamespace hcache
    have hrecord : Whole ("  " ++ Body.record n "inputData" "cached") :=
      .append (whole_chars rfl rfl) (Body.whole_record n (silent_chars rfl rfl) (silent_chars rfl rfl))
    have hkept : Whole (".put(cacheKey, JSON.stringify(result), " ++
        braced ("expirationTtl: " ++ toString ttl) ++ ");") :=
      Whole.around (whole_chars rfl rfl)
        (whole_braced (Whole.before (whole_chars rfl rfl) (silent_int ttl))).silent
        (closer_chars rfl rfl)
    refine ⟨List.forall_mem_append.mpr ⟨List.forall_mem_append.mpr ⟨?_, ?_⟩, ?_⟩, ?_⟩
    · refine Code.faithful_texts ?_
      simp only [String.reduceAppend, List.forall_mem_cons, List.not_mem_nil, false_imp_iff,
        implies_true, and_true]
      exact ⟨reads_chars rfl rfl, reads_chars rfl rfl⟩
    · exact List.forall_mem_singleton.mpr
        (Code.faithful_call "kv" (whole_chars rfl rfl) hsafe (whole_chars rfl rfl) (by simp))
    · refine Code.faithful_texts ?_
      simp only [List.forall_mem_cons, List.not_mem_nil, false_imp_iff, implies_true, and_true]
      exact ⟨Whole.reads (whole_opens (silent_chars rfl rfl)), hrecord.reads, reads_chars rfl rfl,
        whole_closes.reads⟩
    · exact List.forall_mem_singleton.mpr
        (Code.faithful_call "kv" (whole_chars rfl rfl) hsafe hkept (by simp))

theorem silent_inferenceOptions {temperature : Json} {options : List String}
    (h : inferenceOptions n temperature = .ok options) : ∀ t ∈ options, Silent t := by
  rw [inferenceOptions] at h
  have hfirst : ∀ t ∈ (if (n.settingD "temperature" temperature).isNull = true then []
      else ["temperature: " ++ (n.settingD "temperature" temperature).compact]), Silent t := by
    split
    · simp
    · exact List.forall_mem_singleton.mpr (Whole.before (whole_chars rfl rfl) (silent_compact _))
  split at h
  · obtain rfl := Except.ok.inj h
    exact hfirst
  · obtain ⟨tokens, -, h⟩ := bind_eq_ok h
    obtain rfl := Except.ok.inj h
    exact List.forall_mem_append.mpr ⟨hfirst, List.forall_mem_singleton.mpr
      (Whole.before (whole_chars rfl rfl) (silent_int tokens))⟩

theorem faithful_modelLines (hctx : ctx.Named) (n : Node) : ∀ c ∈ modelLines n ctx, c.Faithful := by
  refine Code.faithful_texts ?_
  simp only [List.forall_mem_cons, List.not_mem_nil, false_imp_iff, implies_true, and_true]
  refine ⟨reads_constant (whole_chars rfl rfl) (silent_value hctx.steps _),
    reads_around (whole_chars rfl rfl) ?_ (closer_chars rfl rfl)⟩
  split
  · exact silent_chars rfl rfl
  · exact silent_value hctx.steps _

/-- The lines of a node that asks a model: the question and its answer, between those of the cache. -/
theorem faithful_asked (hctx : ctx.Named) {before after : List Code}
    (hcache : cacheLines n ctx = .ok (before, after)) {behind result : String} (hbehind : Whole behind)
    (hpoint : behind.toList.head? = some '.') (hresult : Reads [] result) :
    (Body.durable (modelLines n ctx ++ before ++
      [[.text "const response = await ", modelEnv, .text behind]] ++ Code.texts [result] ++
        after)).Faithful := by
  obtain ⟨hbefore, hafter⟩ := faithful_cacheLines hcache
  have hcall : Code.Faithful [.text "const response = await ", modelEnv, .text behind] :=
    Code.faithful_call "ai" (whole_chars rfl rfl) isSafe_aiBinding hbehind hpoint
  have hshown := Code.faithful_texts (List.forall_mem_singleton.mpr hresult)
  exact List.forall_mem_append.mpr ⟨List.forall_mem_append.mpr ⟨List.forall_mem_append.mpr
    ⟨List.forall_mem_append.mpr ⟨faithful_modelLines hctx n, hbefore⟩,
      List.forall_mem_singleton.mpr hcall⟩, hshown⟩, hafter⟩

theorem faithful_aiGateway (hctx : ctx.Named) (h : (aiGateway n ctx).result = .ok b) : b.Faithful := by
  obtain ⟨⟨before, after⟩, hcache, h⟩ := Outcome.result_bind_eq_ok h
  obtain ⟨options, hoptions, h⟩ := Outcome.result_bind_eq_ok h
  obtain rfl := Except.ok.inj h
  have hmessage : Silent ("messages: [" ++ braced "role: \"user\", content: prompt" ++ "]") :=
    (Whole.around (whole_chars rfl rfl) (whole_braced (silent_chars rfl rfl)).silent
      (closer_chars rfl rfl)).silent
  have hextra : Whole ((if (n.setting "gatewayId").isGiven then ", " ++ braced ("gateway: " ++
      braced ("id: " ++ (n.setting "gatewayId").compact)) else "") ++ ");") := by
    split
    · exact .append (.append (whole_chars rfl rfl) (whole_braced (Whole.append (whole_chars rfl rfl)
        (whole_braced (Whole.before (whole_chars rfl rfl) (silent_compact _)))).silent))
        (whole_chars rfl rfl)
    · rw [String.empty_append]
      exact whole_chars rfl rfl
  have hoptions := List.forall_mem_cons.mpr ⟨hmessage, silent_inferenceOptions hoptions⟩
  refine faithful_asked hctx hcache ?_ (by simp) ?_
  · rw [String.append_assoc]
    exact .append (.append (whole_chars rfl rfl) (whole_braced (silent_list hoptions))) hextra
  · refine reads_constant (whole_chars rfl rfl) (whole_braced ?_).silent
    simp only [String.reduceAppend]
    exact silent_chars rfl (by decide +kernel)

theorem faithful_workersAi (hctx : ctx.Named) (h : (workersAi n ctx).result = .ok b) : b.Faithful := by
  obtain ⟨⟨before, after⟩, hcache, h⟩ := Outcome.result_bind_eq_ok h
  obtain ⟨options, hoptions, h⟩ := Outcome.result_bind_eq_ok h
  obtain rfl := Except.ok.inj h
  have hprompt : Silent "prompt" := silent_chars rfl rfl
  have hoptions := List.forall_mem_cons.mpr ⟨hprompt, silent_inferenceOptions hoptions⟩
  refine faithful_asked hctx hcache ?_ (by simp) ?_
  · exact .append (.append (whole_chars rfl rfl) (whole_braced (silent_list hoptions)))
      (whole_chars rfl rfl)
  · exact reads_constant (whole_chars rfl rfl) (whole_braced (silent_chars rfl rfl)).silent

/-! ### Every node -/

/-- The code of every node reads what it is said to read, and nothing else. -/
theorem faithful_body (hctx : ctx.Named) (hself : SelfContained n ctx) (h : (body n ctx).result = .ok b) :
    b.Faithful := by
  rw [body] at h
  split at h
  · rename_i generate hlookup
    have hmem := mem_generators hlookup
    simp only [generators, List.mem_cons, Prod.mk.injEq, List.not_mem_nil, or_false] at hmem
    rcases hmem with ⟨-, rfl⟩ | ⟨htype, rfl⟩ | ⟨-, rfl⟩ | ⟨-, rfl⟩ | ⟨htype, rfl⟩ | ⟨-, rfl⟩ |
      ⟨htype, rfl⟩ | ⟨htype, rfl⟩ | ⟨htype, rfl⟩ | ⟨-, rfl⟩ | ⟨-, rfl⟩ | ⟨htype, rfl⟩ | ⟨htype, rfl⟩ |
      ⟨-, rfl⟩ | ⟨htype, rfl⟩ | ⟨-, rfl⟩ | ⟨-, rfl⟩
    · exact faithful_entry h
    · exact faithful_returning hctx hself htype h
    · exact faithful_httpRequest hctx h
    · exact faithful_kvGet hctx h
    · exact faithful_kvPut hctx hself htype h
    · exact faithful_d1Query hctx h
    · exact faithful_transform hself htype h
    · exact faithful_router hctx hself (by simp [htype]) h
    · exact faithful_conditional hctx hself (by simp [htype]) h
    · exact faithful_sleep h
    · exact faithful_waitEvent h
    · exact faithful_forEach hctx hself htype h
    · exact faithful_validate hself htype h
    · exact faithful_toolInput h
    · exact faithful_toolOutput hctx hself htype h
    · exact faithful_aiGateway hctx h
    · exact faithful_workersAi hctx h
  · obtain rfl := Except.ok.inj h
    exact faithful_passthrough ((single_marker_iff n).mp hself.marker).2

end Fragment

end DurableFlow
