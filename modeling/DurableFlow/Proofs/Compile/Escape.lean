import DurableFlow.Proofs.Binding.Required
import DurableFlow.Proofs.Compile.Defined
import DurableFlow.Proofs.Compile.Refusal
import DurableFlow.Proofs.Fragment.Statement
import DurableFlow.Proofs.Graph.Validity

/-!
Faults that escape. A compilation ends in an artifact, in a refusal, or in an error about a node;
the schemas of the built-in types keep almost every other fault away. What they let through are
numbers that are too large for the code of a node that waits or validates, and texts that are nested
too deeply for the body of a request.
-/

namespace DurableFlow

open Fragment

/-! ### Configurations that pass -/

theorem Members.mem_of_get? {key : String} {ms : Members} {v : Json} (h : get? key ms = some v) :
    (key, v) ∈ ms := by
  induction ms with
  | nil => contradiction
  | cons m ms ih =>
      obtain ⟨k, w⟩ := m
      rw [get?] at h
      split at h
      · rename_i hk
        obtain rfl := Option.some.inj h
        exact hk ▸ List.mem_cons_self
      · exact List.mem_cons_of_mem _ (ih h)

def Builtin.settingSchema? (type key : String) : Option Json :=
  match (Catalog.builtin.get? type).bind fun d => Members.get? "properties" d.configSchema with
  | some (.obj ps) => Members.get? key ps
  | _ => none

theorem Json.mem_of_field {v w : Json} {key : String} (h : v.field key = w) (hw : w ≠ .null) :
    ∃ ms, v = .obj ms ∧ (key, w) ∈ ms := by
  cases v with
  | obj ms =>
      rw [field] at h
      cases hget : Members.get? key ms with
      | none =>
          rw [hget] at h
          exact absurd h.symm hw
      | some w' =>
          rw [hget] at h
          obtain rfl : w' = w := h
          exact ⟨ms, rfl, Members.mem_of_get? hget⟩
  | _ => exact absurd h.symm hw

namespace Schema

/-- Whether a schema says itself what it asks for, and does not refer to another one. -/
def isDirect (schema : Json) : Bool :=
  match schema with
  | .obj ms => (Members.get? "$ref" ms).isNone
  | _ => true

def statedType? (schema : Json) : Option String :=
  if isDirect schema then (schema.field "type").string? else none

theorem not_refers_of_isDirect {ms : Members} (h : isDirect (.obj ms) = true) :
    Members.get? "$ref" ms = none := Option.isNone_iff_eq_none.mp h

theorem statedType?_eq_some {schema : Json} {name : String} (h : statedType? schema = some name) :
    isDirect schema = true ∧ schema.field "type" = .str name := by
  rw [statedType?] at h
  split at h
  · rename_i hdirect
    refine ⟨hdirect, ?_⟩
    cases htype : schema.field "type" with
    | str s =>
        rw [htype] at h
        exact congrArg Json.str (Option.some.inj h)
    | _ =>
        rw [htype] at h
        contradiction
  · contradiction

namespace Accepts

variable {follow : Follow} {schema v : Json} {ms : Members} {key name : String}

theorem hasType_of_stated (h : Accepts follow schema v) (htype : statedType? schema = some name) :
    v.hasType name = true := by
  obtain ⟨hdirect, htype⟩ := statedType?_eq_some htype
  obtain ⟨rules, rfl, hmem⟩ := Json.mem_of_field htype (by simp)
  exact h.hasType (not_refers_of_isDirect hdirect) hmem

theorem member_hasType (h : Accepts follow schema (.obj ms)) (hdirect : isDirect schema = true)
    (hv : Members.get? key ms = some v)
    (htype : statedType? ((schema.field "properties").field key) = some name) :
    v.hasType name = true := by
  have hproperty : (schema.field "properties").field key ≠ .null := by
    intro hnull
    rw [hnull] at htype
    simp [statedType?, isDirect, Json.field, Json.string?] at htype
  obtain ⟨ps, hps, hkey⟩ := Json.mem_of_field rfl hproperty
  obtain ⟨rules, rfl, hmem⟩ := Json.mem_of_field hps (by simp)
  exact (h.property (not_refers_of_isDirect hdirect) hmem hkey hv).hasType_of_stated htype

theorem item_of_field {items : List Json} {rules : Members} (h : Accepts follow schema (.arr items))
    (hdirect : isDirect schema = true) (hitems : schema.field "items" = .obj rules)
    (hv : v ∈ items) : Accepts follow (.obj rules) v := by
  obtain ⟨_, rfl, hmem⟩ := Json.mem_of_field hitems (by simp)
  exact h.item (not_refers_of_isDirect hdirect) hmem hv

end Accepts

end Schema

/-- The configuration of the node passes the built-in schema of its type, if there is one. -/
def Node.IsConfigured (n : Node) : Prop :=
  ∀ d, Catalog.builtin.get? n.type = some d → n.Configured d

variable {n : Node}

/-- Whether a node is configured can be computed. -/
theorem Node.isConfigured_of_check (h : (Catalog.builtin.get? n.type).all (fun d =>
    (Schema.validate (.obj d.configSchema) (.obj n.config)).toOption.any List.isEmpty) = true) :
    n.IsConfigured := by
  intro d hd _
  rw [hd, Option.all_some] at h
  cases hfound : Schema.validate (.obj d.configSchema) (.obj n.config) with
  | error f =>
      rw [hfound] at h
      exact absurd h Bool.false_ne_true
  | ok found =>
      rw [hfound] at h
      rw [List.isEmpty_iff.mp h]

theorem Builtin.not_refers {d : Definition} (hd : d ∈ Catalog.builtin.definitions) :
    Members.get? "$ref" d.configSchema = none := by
  have hall : ∀ d ∈ Catalog.builtin.definitions, Schema.isDirect (.obj d.configSchema) = true := by
    decide
  exact Schema.not_refers_of_isDirect (hall d hd)

/-- A setting that is there passes its schema, in which references would lead into the whole one. -/
theorem Node.IsConfigured.setting (h : n.IsConfigured) (key : String) {schema : Json}
    (hs : Builtin.settingSchema? n.type key = some schema) :
    n.setting key = .null ∨ ∃ follow, Schema.Accepts follow schema (n.setting key) := by
  rw [Builtin.settingSchema?] at hs
  split at hs
  · rename_i ps hps
    obtain ⟨d, hd, hps⟩ := Option.bind_eq_some_iff.mp hps
    obtain ⟨hmem, -⟩ := Catalog.mem_of_get? hd
    rw [Node.setting]
    cases hv : n.config.get? key with
    | none => exact .inl rfl
    | some v =>
        have haccepts := Schema.accepts_of_validate (h d hd (Builtin.schema_ne_nil hmem))
        exact .inr ⟨_, haccepts.property (Builtin.not_refers hmem) (Members.mem_of_get? hps)
          (Members.mem_of_get? hs) hv⟩
  · contradiction

theorem Node.IsConfigured.whole (h : n.IsConfigured) {key : String}
    (hkey : (n.type, key) ∈ wholeSettings) :
    n.setting key = .null ∨ (n.setting key).hasType "integer" = true := by
  have hall : ∀ p ∈ wholeSettings,
      (Builtin.settingSchema? p.1 p.2).bind Schema.statedType? = some "integer" := by decide
  obtain ⟨schema, hs, htype⟩ := Option.bind_eq_some_iff.mp (hall _ hkey)
  exact (h.setting key hs).imp_right fun ⟨_, haccepts⟩ => haccepts.hasType_of_stated htype

theorem Json.toInt_of_integer {v : Json} (h : v.hasType "integer" = true) :
    ∃ k, v.toInt = .ok k := by
  cases v with
  | int k => exact ⟨k, rfl⟩
  | float x =>
      cases x with
      | finite negative m e hnormal => exact ⟨_, rfl⟩
      | nan => simp [hasType, Binary64.isInteger] at h
      | infinite negative => simp [hasType, Binary64.isInteger] at h
  | _ => simp [hasType] at h

theorem Json.not_isInfinite {v : Json} (h : v = .null ∨ v.hasType "integer" = true) :
    ¬v.IsInfinite := by
  rintro ⟨negative, rfl⟩
  simp [hasType, Binary64.isInteger] at h

theorem Json.isObject_of_hasType {v : Json} (h : v.hasType "object" = true) :
    ∃ ms, v = .obj ms := by
  cases v <;> simp [hasType] at h ⊢

theorem Json.isArray_of_hasType {v : Json} (h : v.hasType "array" = true) :
    ∃ items, v = .arr items := by
  cases v <;> simp [hasType] at h ⊢

theorem Json.isString_of_hasType {v : Json} (h : v.hasType "string" = true) : ∃ s, v = .str s := by
  cases v <;> simp [hasType] at h ⊢

/-! ### Faults that the schemas let through -/

/-- The faults of a node that are neither kept away by the schema of its type nor reported. -/
def Fragment.Escapes (n : Node) (f : Fault) : Prop :=
  (f = .tooLarge ∧ n.type ∈ spanTypes) ∨ (∃ place, f = .tooDeep place) ∧ n.type = "http-request"

theorem Json.eq_obj_of_members? {v : Json} {ms : Members} (h : v.members? = some ms) :
    v = .obj ms := by
  cases v with
  | obj ms' => exact congrArg obj (Option.some.inj h)
  | _ => contradiction

/-- The built-in schemas declare a default, or none, for every setting. -/
theorem Catalog.schemaDefault_builtin (type name : String) :
    ∃ v, Catalog.builtin.schemaDefault type name = .ok v := by
  have hall : ∀ d ∈ Catalog.builtin.definitions,
      ((Members.get? "properties" d.configSchema).bind Json.members?).map
        (fun ps => ps.all fun p => p.2.members?.isSome) = some true := by decide
  rw [schemaDefault]
  cases hd : Catalog.builtin.get? type with
  | none => exact ⟨_, rfl⟩
  | some d =>
      obtain ⟨ps, hps, hobjects⟩ := Option.map_eq_some_iff.mp (hall d (Catalog.mem_of_get? hd).1)
      obtain ⟨v, hv, hmembers⟩ := Option.bind_eq_some_iff.mp hps
      obtain rfl := Json.eq_obj_of_members? hmembers
      have hproperty : ∃ rules, (Members.get? name ps).getD (.obj []) = .obj rules := by
        cases hget : Members.get? name ps with
        | none => exact ⟨[], rfl⟩
        | some p =>
            have hobject := List.all_eq_true.mp hobjects _ (Members.mem_of_get? hget)
            obtain ⟨rules, hrules⟩ := Option.isSome_iff_exists.mp hobject
            exact ⟨rules, Json.eq_obj_of_members? hrules⟩
      obtain ⟨rules, hrules⟩ := hproperty
      show ∃ v, d.schemaDefault name = .ok v
      rw [Definition.schemaDefault, Definition.memberOf, hv]
      show ∃ v, (do
        let property ← Except.ok ((Members.get? name ps).getD (.obj []))
        Definition.memberOf property "default" .null) = Except.ok v
      rw [hrules]
      exact ⟨_, rfl⟩

theorem Json.limit_of_parse {s : String} {f : Fault} (h : Json.parse s = .error (.limit f)) :
    f.isReported = true ∨ ∃ place, f = .tooDeep place := by
  rw [parse] at h
  split at h
  · contradiction
  · rename_i e _
    split at h
    · rename_i f' hlimit
      obtain rfl := ParseError.limit.inj (Except.error.inj h)
      rw [ReadCause.limit?.eq_def] at hlimit
      split at hlimit
      · obtain rfl := Option.some.inj hlimit
        exact .inl rfl
      · exact .inr ⟨_, (Option.some.inj hlimit).symm⟩
      · contradiction
    · simp at h

theorem Node.IsConfigured.expiry (hn : n.IsConfigured) (htype : n.type = "kv-put") {key : String}
    (hkey : key ∈ Fragment.expiryOptions) :
    (n.setting "options").field key = .null ∨
      ((n.setting "options").field key).hasType "integer" = true := by
  rcases hn.setting "options" (by rw [htype]; rfl) with hnull | ⟨_, haccepts⟩
  · rw [hnull]
    exact .inl rfl
  · obtain ⟨ms, hobject⟩ := Json.isObject_of_hasType (haccepts.hasType_of_stated rfl)
    rw [hobject] at haccepts ⊢
    rw [Json.field]
    cases hget : Members.get? key ms with
    | none => exact .inl rfl
    | some v =>
        refine .inr ?_
        simp only [Fragment.expiryOptions, List.mem_cons, List.not_mem_nil, or_false] at hkey
        rcases hkey with rfl | rfl
        · exact haccepts.member_hasType rfl hget rfl
        · exact haccepts.member_hasType rfl hget rfl

theorem Node.IsConfigured.case (hn : n.IsConfigured) (htype : n.type = "conditional-router")
    {items : List Json} (hitems : (n.setting "cases").elements = .ok items) {v : Json}
    (hv : v ∈ items) : ∃ ms, v = .obj ms := by
  rcases hn.setting "cases" (by rw [htype]; rfl) with hnull | ⟨_, haccepts⟩
  · rw [hnull] at hitems
    contradiction
  · obtain ⟨cases, harray⟩ := Json.isArray_of_hasType (haccepts.hasType_of_stated rfl)
    rw [harray] at hitems haccepts
    obtain rfl := Except.ok.inj hitems
    exact Json.isObject_of_hasType ((haccepts.item_of_field rfl rfl hv).hasType_of_stated rfl)

/-- In a configured node, a fault that is not reported is one that the schemas let through. -/
theorem Fragment.Unmade.escapes {ctx : Context} {f : Fault} (h : Unmade n ctx f)
    (hc : ctx.catalog = Catalog.builtin) (hn : n.IsConfigured) :
    f.isReported = true ∨ Escapes n f := by
  cases h with
  | reported h => exact .inl h
  | undeclared name h =>
      obtain ⟨v, hv⟩ := Catalog.schemaDefault_builtin n.type name
      rw [hc, hv] at h
      contradiction
  | whole key hkey h => exact absurd h (Json.not_isInfinite (hn.whole hkey))
  | expiry key htype hkey h => exact absurd h (Json.not_isInfinite (hn.expiry htype hkey))
  | span htype => exact .inr (.inl ⟨rfl, htype⟩)
  | case items v htype hitems hv h =>
      obtain ⟨ms, rfl⟩ := hn.case htype hitems hv
      contradiction
  | nested s htype h => exact (Json.limit_of_parse h).imp_right fun hdeep => .inr ⟨hdeep, htype⟩

/-! ### Collection and assembly -/

theorem Node.kvNamespace_builtin (n : Node) (key : String) :
    ∃ name, n.kvNamespace Catalog.builtin key = .ok name := by
  obtain ⟨declared, hdeclared⟩ := Catalog.schemaDefault_builtin n.type key
  rw [kvNamespace, hdeclared]
  split
  · split
    · exact ⟨_, rfl⟩
    · exact ⟨_, rfl⟩
  · exact ⟨_, rfl⟩

theorem Node.IsConfigured.cacheNamespace (h : n.IsConfigured) (htype : n.type ∈ modelTypes)
    (s : CompilerSettings) : ∃ cache, n.cacheNamespace Catalog.builtin s = .ok cache := by
  have httl : ∃ ttl, n.cacheTtl s = .ok ttl := by
    rcases h.whole (model_wholeSettings htype).1 with hnull | hwhole
    · rw [cacheTtl, hnull]
      exact ⟨_, rfl⟩
    · obtain ⟨k, hk⟩ := Json.toInt_of_integer hwhole
      rw [cacheTtl]
      split
      · exact ⟨_, rfl⟩
      · rw [hk]
        exact ⟨_, rfl⟩
  obtain ⟨ttl, httl⟩ := httl
  obtain ⟨name, hname⟩ := n.kvNamespace_builtin "cacheNamespace"
  rw [Node.cacheNamespace, httl]
  by_cases hkept : ttl ≤ 0
  · exact ⟨none, if_pos hkept⟩
  · refine ⟨some name, (if_neg hkept).trans ?_⟩
    rw [hname]
    rfl

/-- What the nodes of a graph without errors need is always collected. -/
theorem Binding.collect_builtin {g : Graph} (h : ∀ n ∈ g.nodes, n.IsConfigured)
    (s : CompilerSettings) : ∃ bs, collect Catalog.builtin s g = .ok bs := by
  refine ⟨_, collect_eq_ok_iff.mpr ⟨rfl, fun n hn r hr => ?_⟩⟩
  rcases requirements_builtin n with ⟨-, hreq⟩ | ⟨-, hreq⟩ | ⟨htype, hreq⟩ | ⟨-, hreq⟩
  · rw [hreq, List.mem_singleton] at hr
    obtain ⟨name, hname⟩ := n.kvNamespace_builtin "namespace"
    rw [hr, requirementName_namespace, hname]
    exact ⟨_, rfl⟩
  · rw [hreq, List.mem_singleton] at hr
    rw [hr]
    exact ⟨_, requirementName_database⟩
  · rw [hreq, List.mem_cons, List.mem_singleton] at hr
    rcases hr with rfl | rfl
    · exact ⟨_, requirementName_model⟩
    · exact (h n hn).cacheNamespace htype s
  · rw [hreq] at hr
    exact absurd hr List.not_mem_nil

theorem Json.elementsIfGiven_arr (items : List Json) :
    (Json.arr items).elementsIfGiven = .ok items := by
  cases items <;> rfl

namespace Tool

theorem parameters_meets {items : List Json} (h : n.setting "parameters" = .arr items) :
    Meets (parameters n)
      (fun ps => ∀ p ∈ ps, .obj p.members ∈ items ∧ Members.get? "name" p.members = some p.name)
      (fun _ => False) := by
  rw [parameters, h, Json.elementsIfGiven_arr]
  intro p hp
  obtain ⟨v, hv, hparameter⟩ := List.mem_filterMap.mp hp
  split at hparameter
  · rename_i ms
    dsimp only at hparameter
    split at hparameter
    · rename_i hname
      obtain rfl := Option.some.inj hparameter
      refine ⟨hv, ?_⟩
      cases hget : Members.get? "name" ms with
      | none =>
          rw [hget] at hname
          contradiction
      | some name => rfl
    · contradiction
  · contradiction

/-- A parameter whose name and type are texts, and whose description is one if it is there. -/
structure Parameter.IsDeclared (p : Parameter) : Prop where
  name : ∃ s, p.name = .str s
  type : ∃ s, p.type = .str s
  description : p.get "description" = .null ∨ ∃ s, p.get "description" = .str s

theorem parameters_builtin (h : n.IsConfigured) (htype : n.type = toolInputType) :
    Meets (parameters n) (fun ps => ∀ p ∈ ps, p.IsDeclared) fun _ => False := by
  rcases h.setting "parameters" (by rw [htype]; rfl) with hnull | ⟨_, haccepts⟩
  · rw [parameters, hnull]
    exact fun p hp => absurd hp List.not_mem_nil
  · obtain ⟨items, harray⟩ := Json.isArray_of_hasType (haccepts.hasType_of_stated rfl)
    rw [harray] at haccepts
    refine (parameters_meets harray).imp (fun ps hps p hp => ?_) fun _ => id
    obtain ⟨hmem, hname⟩ := hps p hp
    have hitem := haccepts.item_of_field rfl rfl hmem
    refine ⟨Json.isString_of_hasType (hitem.member_hasType rfl hname rfl), ?_, ?_⟩
    · rw [Parameter.type]
      cases hget : Members.get? "type" p.members with
      | none => exact ⟨_, rfl⟩
      | some type => exact Json.isString_of_hasType (hitem.member_hasType rfl hget rfl)
    · rw [Parameter.get]
      cases hget : Members.get? "description" p.members with
      | none => exact .inl rfl
      | some description =>
          exact .inr (Json.isString_of_hasType (hitem.member_hasType rfl hget rfl))

theorem properties_meets {ps : List Parameter} (h : ∀ p ∈ ps, ∃ name, p.name = .str name)
    (acc : List (Json × Json)) : Meets (properties acc ps) (fun _ => True) fun _ => False := by
  induction ps generalizing acc with
  | nil => exact trivial
  | cons p ps ih =>
      obtain ⟨name, hname⟩ := h p List.mem_cons_self
      rw [properties, hname]
      exact ih (fun q hq => h q (List.mem_cons_of_mem p hq)) _

theorem manifest_builtin (h : n.IsConfigured) (htype : n.type = toolInputType) (workflow : String) :
    Meets (manifest n workflow) (fun _ => True) fun _ => False :=
  (parameters_builtin h htype).bind fun _ hps =>
    (properties_meets (fun p hp => (hps p hp).name) []).bind fun _ _ => trivial

theorem shape_builtin (h : n.IsConfigured) (htype : n.type = toolInputType) :
    Meets (shape n) (fun _ => True) fun _ => False := by
  refine (parameters_builtin h htype).bind fun ps hps => ?_
  refine (Meets.mapM (R := fun _ => True) fun p hp => ?_).bind fun _ _ => trivial
  obtain ⟨type, hkind⟩ := (hps p hp).type
  rw [shapeEntry, hkind]
  exact trivial

end Tool

/-- A module is put together for every graph whose tool, if it has one, is configured. -/
theorem Module.source_builtin {tool : Option Node}
    (h : ∀ n, tool = some n → n.IsConfigured ∧ n.type = toolInputType) (fragments : List String)
    (className workflow : String) (outputStep : Json) :
    Meets (source fragments className workflow tool outputStep) (fun _ => True) fun _ => False := by
  cases tool with
  | none => exact trivial
  | some n =>
      obtain ⟨hconfigured, htype⟩ := h n rfl
      have hserver : Meets (toolServer className n workflow outputStep) (fun _ => True)
          fun _ => False :=
        (Tool.manifest_builtin hconfigured htype workflow).bind fun _ _ =>
          (Tool.shape_builtin hconfigured htype).bind fun _ _ => trivial
      exact hserver.bind fun _ _ => trivial

theorem Compile.assemble_builtin {ctx : Context} (h : ∀ n ∈ ctx.graph.nodes, n.IsConfigured)
    (o : CompileOptions) (warnings ids made : List String) (collected : List Binding) :
    Meets (assemble ctx o warnings ids made collected) (fun _ => True) fun _ => False := by
  have htool : ∀ n, ctx.graph.toolInput? = some n → n.IsConfigured ∧ n.type = toolInputType :=
    fun n hn => ⟨h n (List.mem_of_find?_eq_some hn), by simpa using List.find?_some hn⟩
  rw [assemble]
  cases hn : ctx.graph.toolInput? with
  | none =>
      refine Meets.bind (P := fun _ => True) trivial fun _ _ => ?_
      exact (Module.source_builtin (fun n hnone => by simp at hnone) _ _ _ _).bind
        fun _ _ => trivial
  | some n =>
      obtain ⟨hconfigured, htype⟩ := htool n hn
      have hmanifest : Meets ((Tool.manifest n (workflowName o ctx.graph)).map some) (fun _ => True)
          fun _ => False := by
        obtain ⟨m, hm⟩ :=
          (Tool.manifest_builtin hconfigured htype (workflowName o ctx.graph)).exists_ok
        rw [hm]
        exact trivial
      refine hmanifest.bind fun _ _ => ?_
      exact (Module.source_builtin (fun m hm => htool m (hn.trans hm)) _ _ _ _).bind
        fun _ _ => trivial

/-! ### The first node without code -/

namespace Compile

/-- The node is the first one of these ids for which no code can be made, because of that fault. -/
def StopsAt (ctx : Context) (ids : List String) (n : Node) (f : Fault) : Prop :=
  ∃ before behind, ids = before ++ n.id :: behind ∧ ctx.graph.node? n.id = some n ∧
    (∀ id ∈ before, ∀ m, ctx.graph.node? id = some m → ∃ code, (ofNode m ctx).result = .ok code) ∧
    (ofNode n ctx).result = .error f

theorem stopsAt_cons {ctx : Context} {id : String} {ids : List String} {f : Fault} :
    StopsAt ctx (id :: ids) n f ↔
      (ctx.graph.node? id = some n ∧ (ofNode n ctx).result = .error f) ∨
      ((∀ m, ctx.graph.node? id = some m → ∃ code, (ofNode m ctx).result = .ok code) ∧
        StopsAt ctx ids n f) := by
  constructor
  · rintro ⟨before, behind, hids, hn, hbefore, hfault⟩
    cases before with
    | nil =>
        obtain ⟨rfl, rfl⟩ := List.cons.inj hids
        exact .inl ⟨hn, hfault⟩
    | cons first before =>
        obtain ⟨rfl, rfl⟩ := List.cons.inj hids
        exact .inr ⟨hbefore _ List.mem_cons_self, before, behind, rfl, hn,
          fun id hid => hbefore id (List.mem_cons_of_mem _ hid), hfault⟩
  · rintro (⟨hn, hfault⟩ | ⟨hfirst, before, behind, rfl, hn, hbefore, hfault⟩)
    · obtain rfl := node?_id hn
      exact ⟨[], ids, rfl, hn, fun _ hid => absurd hid List.not_mem_nil, hfault⟩
    · refine ⟨id :: before, behind, rfl, hn, fun id' hid' => ?_, hfault⟩
      rcases List.mem_cons.mp hid' with rfl | hid'
      · exact hfirst
      · exact hbefore id' hid'

def nodeError (n : Node) (f : Fault) : CompileError :=
  if f.isReported then .generation n.id n.type f else .fault f

theorem fragment_eq_error_iff {ctx : Context} {e : CompileError} :
    (fragment ctx n).result = .error e ↔
      ∃ f, (ofNode n ctx).result = .error f ∧ nodeError n f = e := by
  constructor
  · exact mapError_eq_error
  · rintro ⟨f, hf, rfl⟩
    show (ofNode n ctx).result.mapError _ = _
    rw [hf]
    rfl

theorem fragments_cons {ctx : Context} {id : String} {m : Node} (h : ctx.graph.node? id = some m)
    (ids : List String) : fragments ctx (id :: ids) = do
      let here ← fragment ctx m
      let rest ← fragments ctx ids
      return here :: rest := by
  rw [fragments, h]

theorem fragments_skip {ctx : Context} {id : String} (h : ctx.graph.node? id = none)
    (ids : List String) : fragments ctx (id :: ids) = fragments ctx ids := by
  rw [fragments, h]

theorem stopsAt_of_fragments {ctx : Context} {ids : List String} {e : CompileError}
    (h : (fragments ctx ids).result = .error e) :
    ∃ n f, StopsAt ctx ids n f ∧ nodeError n f = e := by
  induction ids with
  | nil => contradiction
  | cons id ids ih =>
      cases hnode : ctx.graph.node? id with
      | none =>
          rw [fragments_skip hnode] at h
          obtain ⟨n, f, hstops, he⟩ := ih h
          refine ⟨n, f, stopsAt_cons.mpr (.inr ⟨fun m hm => ?_, hstops⟩), he⟩
          rw [hnode] at hm
          contradiction
      | some m =>
          rw [fragments_cons hnode] at h
          rcases Outcome.result_bind_eq_error h with h | ⟨here, hhere, h⟩
          · obtain ⟨f, hf, he⟩ := fragment_eq_error_iff.mp h
            exact ⟨m, f, stopsAt_cons.mpr (.inl ⟨hnode, hf⟩), he⟩
          · rcases Outcome.result_bind_eq_error h with h | ⟨rest, -, h⟩
            · obtain ⟨n, f, hstops, he⟩ := ih h
              refine ⟨n, f, stopsAt_cons.mpr (.inr ⟨fun m' hm' => ?_, hstops⟩), he⟩
              obtain rfl := Option.some.inj (hnode.symm.trans hm')
              exact ⟨here, fragment_eq_ok hhere⟩
            · contradiction

theorem fragments_of_stopsAt {ctx : Context} {ids : List String} {f : Fault}
    (h : StopsAt ctx ids n f) : (fragments ctx ids).result = .error (nodeError n f) := by
  induction ids with
  | nil =>
      obtain ⟨before, behind, hids, -⟩ := h
      simp at hids
  | cons id ids ih =>
      rcases stopsAt_cons.mp h with ⟨hnode, hfault⟩ | ⟨hfirst, hstops⟩
      · rw [fragments_cons hnode, Outcome.result_bind, fragment_eq_error_iff.mpr ⟨f, hfault, rfl⟩]
        rfl
      · cases hnode : ctx.graph.node? id with
        | none =>
            rw [fragments_skip hnode]
            exact ih hstops
        | some m =>
            obtain ⟨code, hcode⟩ := hfirst m hnode
            have hfragment : (fragment ctx m).result = .ok code := by
              show (ofNode m ctx).result.mapError _ = _
              rw [hcode]
              rfl
            rw [fragments_cons hnode, Outcome.result_bind, hfragment]
            show (fragments ctx ids >>= _).result = _
            rw [Outcome.result_bind, ih hstops]
            rfl

/-- For a graph whose nodes are configured, only a node without code keeps the artifact away. -/
theorem compileGraph_eq_error_iff {s : CompilerSettings} {o : CompileOptions} {r : Report} {g : Graph}
    (h : ∀ n ∈ g.nodes, n.IsConfigured) {e : CompileError} :
    (compileGraph Catalog.builtin s o r g).result = .error e ↔ ∃ ids n f,
      (order g).result = .ok ids ∧ StopsAt (Context.ofGraph g Catalog.builtin s) ids n f ∧
        nodeError n f = e := by
  obtain ⟨ids, hids⟩ := order_isOk g
  obtain ⟨bs, hbs⟩ := Binding.collect_builtin h s
  constructor
  · -- Of the four steps only the second one, which makes the fragments, can fail.
    intro hfail
    rw [compileGraph] at hfail
    rcases Outcome.result_bind_eq_error hfail with hfail | ⟨ids', hids', hfail⟩
    · rw [hids] at hfail
      contradiction
    rcases Outcome.result_bind_eq_error hfail with hfail | ⟨made, -, hfail⟩
    · obtain ⟨n, f, hstops, he⟩ := stopsAt_of_fragments hfail
      exact ⟨ids', n, f, hids', hstops, he⟩
    rcases Outcome.result_bind_eq_error hfail with hfail | ⟨collected, -, hfail⟩
    · obtain ⟨f, hf, -⟩ := mapError_eq_error hfail
      rw [hbs] at hf
      contradiction
    rcases Outcome.result_bind_eq_error hfail with hfail | ⟨artifact, -, hfail⟩
    · obtain ⟨f, hf, -⟩ := mapError_eq_error hfail
      exact ((assemble_builtin h o _ _ _ _).of_error hf).elim
    · contradiction
  · rintro ⟨ids', n, f, hids', hstops, rfl⟩
    rw [compileGraph, Outcome.result_bind, hids']
    show (fragments (Context.ofGraph g Catalog.builtin s) ids' >>= _).result = _
    rw [Outcome.result_bind, fragments_of_stopsAt hstops]
    rfl

end Compile

/-- Whether a compilation ended as it is said to end: with an artifact, with a refusal, or with an
error about a node. -/
def Compile.isDocumented : Except CompileError Artifact → Bool
  | .ok _ => true
  | .error (.invalid _) => true
  | .error (.cycle _) => true
  | .error (.generation _ _ _) => true
  | .error (.notJson _) => false
  | .error (.fault _) => false

/-- The graph of the input is compiled: its report has no errors, and a cycle is allowed. -/
def Compile.Admits (s : CompilerSettings) (o : CompileOptions) (input : GraphInput) (g : Graph) : Prop :=
  ∃ r, report (some Catalog.builtin) o.entryNodeId input = .ok r ∧ r.errors = [] ∧ r.graph = some g ∧
    ¬(g.Cyclic ∧ policy s o = .error)

theorem Fragment.Escapes.not_reported {f : Fault} (h : Escapes n f) : f.isReported = false := by
  rcases h with ⟨rfl, -⟩ | ⟨⟨place, rfl⟩, -⟩ <;> rfl

theorem Compile.StopsAt.escapes {g : Graph} {s : CompilerSettings} {ids : List String} {f : Fault}
    (h : ∀ n ∈ g.nodes, n.IsConfigured)
    (hstops : StopsAt (Context.ofGraph g Catalog.builtin s) ids n f) :
    f.isReported = true ∨ Escapes n f := by
  obtain ⟨before, behind, -, hnode, -, hfault⟩ := hstops
  rcases Outcome.result_bind_eq_error hfault with hfault | ⟨_, -, hfault⟩
  · exact ((body_meets n _).of_error hfault).escapes rfl (h n (List.mem_of_find?_eq_some hnode))
  · contradiction

namespace Compile

variable {s : CompilerSettings} {o : CompileOptions} {input : GraphInput} {r : Report} {g : Graph}

/-- What a report without errors says of the graph it carries. -/
theorem configured_of_report (h : report (some Catalog.builtin) o.entryNodeId input = .ok r)
    (hvalid : r.errors = []) (hg : r.graph = some g) :
    (r.hasCycle = true ↔ g.Cyclic) ∧ ∀ n ∈ g.nodes, n.IsConfigured := by
  obtain ⟨-, hreport⟩ := report_eq_ok h hg
  obtain ⟨r', hr', hconfigured⟩ := Report.ofGraph_builtin o.entryNodeId g
  obtain rfl := Except.ok.inj (hreport.symm.trans hr')
  refine ⟨?_, hconfigured hvalid⟩
  rw [(Report.ofGraph_eq_ok hreport).2.1, Graph.hasCycle_iff]

theorem compileGraph_isDocumented_or (h : ∀ n ∈ g.nodes, n.IsConfigured) :
    isDocumented (compileGraph Catalog.builtin s o r g).result = true ∨
      ∃ f, (compileGraph Catalog.builtin s o r g).result = .error (.fault f) := by
  cases hresult : (compileGraph Catalog.builtin s o r g).result with
  | ok a => exact .inl rfl
  | error e =>
      obtain ⟨ids, n, f, -, -, rfl⟩ := (compileGraph_eq_error_iff h).mp hresult
      rw [nodeError]
      split
      · exact .inl rfl
      · exact .inr ⟨f, rfl⟩

theorem compileGraph_eq_fault_iff (h : ∀ n ∈ g.nodes, n.IsConfigured) {f : Fault} :
    (compileGraph Catalog.builtin s o r g).result = .error (.fault f) ↔ ∃ ids n,
      (order g).result = .ok ids ∧ StopsAt (Context.ofGraph g Catalog.builtin s) ids n f ∧
        Escapes n f := by
  rw [compileGraph_eq_error_iff h]
  constructor
  · rintro ⟨ids, n, f', hids, hstops, hfault⟩
    rw [nodeError] at hfault
    split at hfault
    · contradiction
    · rename_i hreported
      obtain rfl := CompileError.fault.inj hfault
      exact ⟨ids, n, hids, hstops, (hstops.escapes h).resolve_left hreported⟩
  · rintro ⟨ids, n, hids, hstops, hescapes⟩
    refine ⟨ids, n, f, hids, hstops, ?_⟩
    rw [nodeError, hescapes.not_reported]
    rfl

end Compile

/-- The value stays clear of what stops functions that call themselves for each level, which is beyond some
330 levels, and of numbers too long to be displayed. The same is asked of what its texts say where they
are JSON, for the body of a request is laid out as what it says. Here nothing is said of values beyond
that. -/
structure Json.Moderate (v : Json) : Prop where
  shallow : v.nesting ≤ 100
  limited : v.Limited
  said : ∀ s ∈ v.texts, ∀ w ∈ (Json.parse s).toOption, w.nesting ≤ 100

open Compile in
/-- With the built-in catalog, the compilation of any moderate object ends as it is said to, unless it
ends in a fault. It ends in a fault exactly when the graph is compiled and the first node without code
fails over a number that is too large, or over a text that is nested too deeply. -/
theorem compile_fault_iff (s : CompilerSettings) (o : CompileOptions) {ms : Members}
    (_hmoderate : (Json.obj ms).Moderate) :
    (isDocumented (compile Catalog.builtin s o (.document (.obj ms))).result = true ∨
      ∃ f, (compile Catalog.builtin s o (.document (.obj ms))).result = .error (.fault f)) ∧
    ∀ f, (compile Catalog.builtin s o (.document (.obj ms))).result = .error (.fault f) ↔
      ∃ g ids n, Admits s o (.document (.obj ms)) g ∧ (order g).result = .ok ids ∧
        StopsAt (Context.ofGraph g Catalog.builtin s) ids n f ∧ Escapes n f := by
  obtain ⟨r, hr⟩ := Report.ofDocument_builtin o.entryNodeId ms
  have hreport : report (some Catalog.builtin) o.entryNodeId (.document (.obj ms)) = .ok r := by
    rw [report, hr]
    rfl
  rw [compile_result hreport]
  by_cases hvalid : r.errors = []
  · obtain ⟨g, hg⟩ := exists_graph_of_report hreport hvalid
    obtain ⟨hcycle, hconfigured⟩ := configured_of_report hreport hvalid hg
    -- Reports are unique, so a graph that is admitted is the one of this report.
    have hgraph : ∀ {g'}, Admits s o (.document (.obj ms)) g' →
        g' = g ∧ ¬(g.Cyclic ∧ policy s o = .error) := by
      rintro g' ⟨r', hr', -, hg', hallowed⟩
      obtain rfl := Except.ok.inj (hr'.symm.trans hreport)
      obtain rfl := Option.some.inj (hg'.symm.trans hg)
      exact ⟨rfl, hallowed⟩
    by_cases hstrict : g.Cyclic ∧ policy s o = .error
    · rw [decide_of_cycle hg hvalid (hcycle.mpr hstrict.1) hstrict.2]
      refine ⟨.inl rfl, fun f => ⟨fun h => by simp at h, ?_⟩⟩
      rintro ⟨g', -, -, hadmits, -⟩
      exact absurd hstrict (hgraph hadmits).2
    · rw [decide_of_allowed hg hvalid (fun h => hstrict ⟨hcycle.mp h.1, h.2⟩)]
      refine ⟨compileGraph_isDocumented_or hconfigured, fun f => ?_⟩
      rw [compileGraph_eq_fault_iff hconfigured]
      constructor
      · rintro ⟨ids, n, hrest⟩
        exact ⟨g, ids, n, ⟨r, hreport, hvalid, hg, hstrict⟩, hrest⟩
      · rintro ⟨g', ids, n, hadmits, hrest⟩
        obtain rfl := (hgraph hadmits).1
        exact ⟨ids, n, hrest⟩
  · rw [decide_of_errors hvalid]
    refine ⟨.inl rfl, fun f => ⟨fun h => by simp at h, ?_⟩⟩
    rintro ⟨g', -, -, ⟨r', hr', hvalid', -⟩, -⟩
    obtain rfl := Except.ok.inj (hr'.symm.trans hreport)
    exact absurd hvalid' hvalid

def endlessSleep : Members :=
  [("nodes", .arr
    [.obj [("id", .str "a"), ("type", .str "entry")],
     .obj [("id", .str "b"), ("type", .str "sleep"),
       ("config", .obj [("duration", .obj
         [("value", .float (Binary64.ofDecimal false 1 308)), ("unit", .str "weeks")])])]])]

/-- The compilation ends in a fault, over the node that sleeps. -/
theorem compile_fault_iff_endlessSleep :
    (Json.obj endlessSleep).Moderate ∧ ∃ f g ids n,
      (compile Catalog.builtin {} {} (.document (.obj endlessSleep))).result = .error (.fault f) ∧
        Compile.Admits {} {} (.document (.obj endlessSleep)) g ∧
          Compile.StopsAt (Context.ofGraph g Catalog.builtin {}) ids n f ∧ Escapes n f := by
  have hmoderate : (Json.obj endlessSleep).Moderate :=
    { shallow := by decide
      limited := by simp [endlessSleep, Json.Limited, Json.LimitedMembers, Json.LimitedItems]
      said := by decide +kernel }
  have hfails : Compile.isDocumented
      (compile Catalog.builtin {} {} (.document (.obj endlessSleep))).result = false := by
    decide +kernel
  obtain ⟨hends, hfault⟩ := compile_fault_iff {} {} hmoderate
  obtain ⟨f, hf⟩ := hends.resolve_left fun hdocumented =>
    absurd (hdocumented.symm.trans hfails) (by decide)
  obtain ⟨g, ids, n, hadmits, -, hstops, hescapes⟩ := (hfault f).mp hf
  exact ⟨hmoderate, f, g, ids, n, hf, hadmits, hstops, hescapes⟩

/-- The schema of the type takes the duration, which is too long to be told in milliseconds, and the
fault is not reported. -/
theorem not_documented_endlessSleep :
    Compile.isDocumented (compile Catalog.builtin {} {} (.document (.obj endlessSleep))).result =
      false := by
  decide +kernel

end DurableFlow
