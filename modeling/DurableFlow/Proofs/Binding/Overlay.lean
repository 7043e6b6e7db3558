import DurableFlow.Proofs.Binding.Collected
import DurableFlow.Proofs.Module.Comment

/-!
Catalogs with definitions of their own. The code of a node that stores or queries takes the name of its
resource from one field of the configuration; the bindings follow whatever field the definition of a
type names. So a resource that is read is bound exactly when some requirement stands for it, and it is
sure to be bound when the definition of the node names the field that its code reads.
-/

namespace DurableFlow

open Fragment

/-- The types of nodes that store or query, with the kind of resource that their code reads and the
field of the configuration that has its name. -/
def storageFields : List (String × String × String) :=
  [("kv-get", "kv", "namespace"), ("kv-put", "kv", "namespace"), ("d1-query", "d1", "database")]

/-- The requirement is of that kind and takes its name from that field. A database is looked up in its
usual field when none is named. -/
def Requirement.Names (r : Requirement) (kind field : String) : Prop :=
  r.kind = kind ∧ (r.configField = some field ∨ kind = "d1" ∧ r.configField.getD "" = "")

/-- A resource of that kind and name is bound for the artifact. -/
def Artifact.Binds (a : Artifact) (kind name : String) : Prop :=
  ∃ b ∈ a.bindings, b.kind = kind ∧ b.name = name

variable {n : Node} {c : Catalog} {s : CompilerSettings} {kind name field : String}

/-! ### Names -/

theorem storageFields_cases (h : (n.type, kind, field) ∈ storageFields) :
    n.type ∈ namespaceTypes ∧ kind = "kv" ∧ field = "namespace" ∨
      n.type = "d1-query" ∧ kind = "d1" ∧ field = "database" := by
  simp only [storageFields, List.mem_cons, Prod.mk.injEq, List.not_mem_nil, or_false] at h
  rcases h with ⟨htype, hkind, hfield⟩ | ⟨htype, hkind, hfield⟩ | ⟨htype, hkind, hfield⟩
  · exact .inl ⟨htype ▸ by decide, hkind, hfield⟩
  · exact .inl ⟨htype ▸ by decide, hkind, hfield⟩
  · exact .inr ⟨htype, hkind, hfield⟩

/-- The code of a node that stores or queries reads one resource, the one that the node needs. -/
theorem Fragment.reads_of_storage {ctx : Context} {b : Body}
    (hfield : (n.type, kind, field) ∈ storageFields) (h : (body n ctx).result = .ok b) :
    ∃ name, b.reads = [(kind, name)] ∧ n.Needs ctx.catalog ctx.settings kind name := by
  have hother : ∀ {types : List String} {P : Prop}, n.type ∈ types →
      (∀ t ∈ types, t ∉ storageFields.map (·.1)) → P := fun htype hapart =>
    absurd (List.mem_map_of_mem hfield) (hapart n.type htype)
  cases (body_meets n ctx).of_ok h with
  | plain htype _ => exact hother htype (by decide)
  | payload key names htype _ _ =>
      exact hother (List.mem_map_of_mem (f := Prod.fst) htype) (by decide)
  | waits htype _ => exact hother htype (by decide)
  | unknown htype _ =>
      have hknown : ∀ p ∈ storageFields, (generators.lookup p.1).isSome = true := by decide
      have hsome := hknown _ hfield
      rw [htype] at hsome
      contradiction
  | namespaced name htype hname hreads =>
      obtain ⟨-, rfl, -⟩ | ⟨hquery, -⟩ := storageFields_cases hfield
      · exact ⟨name, hreads.2, .keyValue htype hname⟩
      · rw [hquery] at htype
        contradiction
  | database htype hreads =>
      obtain ⟨hnamespace, -⟩ | ⟨-, rfl, -⟩ := storageFields_cases hfield
      · rw [htype] at hnamespace
        contradiction
      · exact ⟨_, hreads.2, .database htype⟩
  | model htype _ => exact hother htype (by decide)

namespace Binding

/-- A requirement that names the field that the code reads stands for what the code reads. -/
theorem requirementName_of_names {r : Requirement} (hfield : (n.type, kind, field) ∈ storageFields)
    (hr : r.Names kind field) (hneeds : n.Needs c s kind name) :
    n.requirementName r c s = .ok (some name) := by
  obtain ⟨hkind, hname⟩ := hr
  obtain ⟨htype, rfl, rfl⟩ | ⟨htype, rfl, rfl⟩ := storageFields_cases hfield
  · obtain ⟨-, hspace⟩ := (Node.needs_iff_of_namespace htype).mp hneeds
    obtain hname | ⟨hd1, -⟩ := hname
    · rw [Node.requirementName, hkind, hname]
      show (n.kvNamespace c "namespace").map some = _
      rw [hspace]
      rfl
    · contradiction
  · obtain ⟨-, rfl⟩ := (Node.needs_iff_of_database htype).mp hneeds
    rw [Node.requirementName, hkind]
    obtain hname | ⟨-, hname⟩ := hname
    · rw [hname]
      rfl
    · rw [hname]
      rfl

/-! ### Bindings -/

theorem exists_collected_iff {g : Graph} {bs : List Binding} (h : collect c s g = .ok bs) :
    (∃ b ∈ bs, b.kind = kind ∧ b.name = name) ↔ ∃ m ∈ g.nodes, Requires c s m kind name := by
  have hkeys := (groups_collect h).mem_keys_iff (k := (kind, name))
  constructor
  · rintro ⟨b, hb, rfl, rfl⟩
    obtain ⟨u, hu, hkey⟩ := List.mem_map.mp (hkeys.mp (List.mem_map_of_mem hb))
    obtain ⟨n, hn, -, hrequires⟩ := exists_mem_usesIn_iff.mp ⟨u, hu, hkey, rfl⟩
    exact ⟨n, hn, hrequires⟩
  · rintro ⟨n, hn, hrequires⟩
    obtain ⟨b, hb, hkind, hname, -⟩ := (usedBy_collect h).mpr ⟨n, hn, rfl, hrequires⟩
    exact ⟨b, hb, hkind, hname⟩

/-- An entry of a section belongs to a binding of the kind of the section. -/
theorem mem_of_declared {key kind name : String} {bs : List Binding} {declaration : Binding → Members}
    {entries : List Json} {entry : Members} (hdeclaration : ∀ b,
      Members.get? "binding" (declaration b) = some (.str b.name))
    (hsection : Members.get? key (declared key ((ofKind kind bs).map fun b => .obj (declaration b))) =
      some (.arr entries))
    (hentry : .obj entry ∈ entries) (hname : Members.get? "binding" entry = some (.str name)) :
    ∃ b ∈ bs, b.kind = kind ∧ b.name = name := by
  rw [declared] at hsection
  split at hsection
  · contradiction
  · simp only [Members.get?, if_true, Option.some.injEq, Json.arr.injEq] at hsection
    subst hsection
    obtain ⟨b, hb, hsame⟩ := List.mem_map.mp hentry
    obtain ⟨hmem, hkind⟩ := List.mem_filter.mp hb
    obtain rfl := Json.obj.inj hsame
    rw [hdeclaration, Option.some.injEq, Json.str.injEq] at hname
    exact ⟨b, hmem, of_decide_eq_true hkind, hname⟩

end Binding

/-! ### Descriptors -/

namespace Module

theorem get?_descriptor_of_section {key : String} (bs : List Binding)
    (hkey : key ∈ ["kv_namespaces", "d1_databases"]) (deployment className : String)
    (s : CompilerSettings) (isTool : Bool) :
    Members.get? key (descriptor deployment className bs s isTool) =
      Members.get? key (Binding.sections bs) := by
  have hfront : ∀ rest, Members.get? key ([("name", Json.str (slug deployment ++ "-worker")),
      ("main", .str s.mainModule), ("compatibility_date", .str s.compatibilityDate),
      ("workflows", .arr [.obj [("name", .str (slug deployment)),
        ("binding", .str (bindingName className)), ("class_name", .str className)]])] ++ rest) =
      Members.get? key rest := by
    intro rest
    simp only [List.mem_cons, List.not_mem_nil, or_false] at hkey
    rcases hkey with rfl | rfl <;> simp [Members.get?]
  have htool : Members.get? key (if isTool then toolMembers className else []) = none := by
    simp only [List.mem_cons, List.not_mem_nil, or_false] at hkey
    cases isTool <;> rcases hkey with rfl | rfl <;> rfl
  rw [descriptor, List.append_assoc, hfront, Members.get?_append, htool, Option.or_none]

/-- What a descriptor declares of the kinds that storage nodes read is bound. -/
theorem mem_of_declares {bs : List Binding} {deployment className : String} {isTool : Bool}
    (hkind : kind = "kv" ∨ kind = "d1")
    (h : Declares (descriptor deployment className bs s isTool) kind name) :
    ∃ b ∈ bs, b.kind = kind ∧ b.name = name := by
  have hr2 : ∀ {key : String} (entries : List Json), key ∈ ["kv_namespaces", "d1_databases"] →
      Members.get? key (Binding.declared "r2_buckets" entries) = none := by
    intro key entries hkey
    refine Binding.get?_declared_of_ne (fun heq => ?_) entries
    subst heq
    contradiction
  have hai : ∀ {key : String}, key ∈ ["kv_namespaces", "d1_databases"] → Members.get? key
      (if (Binding.ofKind "ai" bs).isEmpty then []
       else [("ai", .obj [("binding", .str Builtin.aiBinding)])]) = none := by
    intro key hkey
    simp only [List.mem_cons, List.not_mem_nil, or_false] at hkey
    split <;> rcases hkey with rfl | rfl <;> rfl
  cases h with
  | keyValue hsection hentry hname =>
      have hother : "d1_databases" ≠ "kv_namespaces" := by decide
      rw [get?_descriptor_of_section bs (by decide), Binding.sections, Members.get?_append,
        Members.get?_append, Members.get?_append, hr2 _ (by decide), hai (by decide),
        Binding.get?_declared_of_ne hother, Option.or_none, Option.or_none,
        Option.or_none] at hsection
      exact Binding.mem_of_declared (fun b => rfl) hsection hentry hname
  | database hsection hentry hname =>
      have hother : "kv_namespaces" ≠ "d1_databases" := by decide
      rw [get?_descriptor_of_section bs (by decide), Binding.sections, Members.get?_append,
        Members.get?_append, Members.get?_append, hr2 _ (by decide), hai (by decide),
        Binding.get?_declared_of_ne hother, Option.or_none, Option.or_none,
        Option.none_or] at hsection
      exact Binding.mem_of_declared (fun b => rfl) hsection hentry hname
  | model => simp at hkind

end Module

/-! ### Compiled graphs -/

namespace Compile

/-- The bindings of an artifact are those that were collected, and those of a tool, which no code of a
node reads; the descriptor is made from them. -/
theorem assemble_bindings {ctx : Context} {o : CompileOptions} {warnings ids made : List String}
    {collected : List Binding} {a : Artifact}
    (h : assemble ctx o warnings ids made collected = .ok a) :
    (∃ more, a.bindings = collected ++ more ∧ ∀ b ∈ more, b.kind ∈ ["durable_object", "workflow"]) ∧
      ∃ deployment className isTool,
        a.descriptor = Module.descriptor deployment className a.bindings ctx.settings isTool := by
  rw [assemble] at h
  split at h
  all_goals
    obtain ⟨manifest, -, h⟩ := bind_eq_ok h
    obtain ⟨source, -, h⟩ := bind_eq_ok h
    obtain rfl := Except.ok.inj h
    refine ⟨⟨_, rfl, ?_⟩, _, _, _, rfl⟩
  · simp [Tool.bindings]
  · simp

theorem compileGraph_bindings {c : Catalog} {s : CompilerSettings} {o : CompileOptions} {r : Report}
    {g : Graph} {a : Artifact} (h : (compileGraph c s o r g).result = .ok a) :
    ∃ collected, Binding.collect c s g = .ok collected ∧
      (∃ more, a.bindings = collected ++ more ∧ ∀ b ∈ more, b.kind ∈ ["durable_object", "workflow"]) ∧
      ∃ deployment className isTool,
        a.descriptor = Module.descriptor deployment className a.bindings s isTool := by
  rw [compileGraph] at h
  obtain ⟨ids, -, h⟩ := Outcome.result_bind_eq_ok h
  obtain ⟨made, -, h⟩ := Outcome.result_bind_eq_ok h
  obtain ⟨collected, hcollected, h⟩ := Outcome.result_bind_eq_ok h
  obtain ⟨artifact, hartifact, h⟩ := Outcome.result_bind_eq_ok h
  obtain ⟨_, -, h⟩ := Outcome.result_bind_eq_ok h
  obtain rfl := Except.ok.inj h
  exact ⟨collected, mapError_eq_ok hcollected, assemble_bindings (mapError_eq_ok hartifact)⟩

variable {o : CompileOptions} {input : GraphInput} {a : Artifact} {g : Graph}

theorem declares_iff_binds (h : (compile c s o input).result = .ok a)
    (hkind : kind = "kv" ∨ kind = "d1") :
    Module.Declares a.descriptor kind name ↔ a.Binds kind name := by
  obtain ⟨g, r, -, -, -, hcompiled⟩ := compile_eq_ok h
  obtain ⟨-, -, -, deployment, className, isTool, hdescriptor⟩ := compileGraph_bindings hcompiled
  rw [hdescriptor]
  constructor
  · exact Module.mem_of_declares hkind
  · rintro ⟨b, hb, rfl, rfl⟩
    exact Module.declares_of_mem hb (hkind.imp id .inl) deployment className s isTool

theorem binds_iff_requires (h : (compile c s o input).result = .ok a) (hg : input.graph? = some g)
    (hkind : kind = "kv" ∨ kind = "d1") :
    a.Binds kind name ↔ ∃ m ∈ g.nodes, Binding.Requires c s m kind name := by
  obtain ⟨g', r, hinput, -, -, hcompiled⟩ := compile_eq_ok h
  obtain rfl := Option.some.inj (hg.symm.trans hinput)
  obtain ⟨collected, hcollected, ⟨more, hmore, hkinds⟩, -⟩ := compileGraph_bindings hcompiled
  rw [← Binding.exists_collected_iff hcollected, Artifact.Binds, hmore]
  constructor
  · rintro ⟨b, hb, rfl, rfl⟩
    rcases List.mem_append.mp hb with hb | hb
    · exact ⟨b, hb, rfl, rfl⟩
    -- A tool is served by an object and a workflow, which are of other kinds.
    · have htool := hkinds b hb
      rcases hkind with hkind | hkind <;> simp [hkind] at htool
  · rintro ⟨b, hb, hsame⟩
    exact ⟨b, List.mem_append_left more hb, hsame⟩

end Compile

/-- The fragment of a node that stores or queries spells out the one read, and a reader of the fragment
finds no other one, unless the node hands in code with others. -/
theorem Fragment.spelled_of_storage {ctx : Context} (hctx : ctx.Named) {b : Body}
    (hb : (body n ctx).result = .ok b) (hreads : b.reads = [(kind, name)]) (hname : IsSafe name) :
    Text.Occurs (environmentRead kind name) (wrap n (b.render ctx n)) ∧
      (SelfContained n ctx →
        Access.ofCode (wrap n (b.render ctx n)) = [Access.ofResource (kind, name)]) := by
  have hread : (kind, name) ∈ b.reads := hreads ▸ List.mem_singleton_self _
  refine ⟨occurs_wrap (Body.occurs_read hread hname) (single_environmentRead kind hname) n,
    fun hself => ?_⟩
  rw [ofCode_wrap hctx hself.marker (faithful_body hctx hself hb), hreads]
  rfl

open Binding in
/-- In a compiled graph the code of each node that stores or queries reads one resource. The read is
spelled out in the text of the fragment, where a reader finds no other one unless the node hands in code
with others. The resource is bound, and the descriptor declares it, exactly when a requirement of some node
stands for it; and this is so when the definition of the node has a requirement that names the field that
the code reads. -/
theorem compile_binds_iff {c : Catalog} {s : CompilerSettings} {o : CompileOptions}
    {input : GraphInput} {a : Artifact} {g : Graph} (h : (compile c s o input).result = .ok a)
    (hg : input.graph? = some g) {n : Node} (hn : n ∈ g.nodes) {kind field : String}
    (hfield : (n.type, kind, field) ∈ storageFields) :
    ∃ b name f, (body n (Context.ofGraph g c s)).result = .ok b ∧ b.reads = [(kind, name)] ∧
      (ofNode n (Context.ofGraph g c s)).result = .ok f ∧
      Text.Occurs (environmentRead kind name) f ∧
      (SelfContained n (Context.ofGraph g c s) → Access.ofCode f = [Access.ofResource (kind, name)]) ∧
      (a.Binds kind name ↔ ∃ m ∈ g.nodes, Requires c s m kind name) ∧
      (Module.Declares a.descriptor kind name ↔ a.Binds kind name) ∧
      ((∃ r ∈ requirements c n, r.Names kind field) → a.Binds kind name) := by
  obtain ⟨hlinked, ⟨made, hmade⟩, -⟩ := compiled_of_compile h hg
  obtain ⟨f, -, hf⟩ := Compile.exists_fragment hmade hlinked hn
  obtain ⟨b, hb, rfl⟩ := ofNode_eq_ok hf
  obtain ⟨name, hreads, hneeds⟩ := reads_of_storage hfield hb
  have hkind : kind = "kv" ∨ kind = "d1" := by
    obtain ⟨-, rfl, -⟩ | ⟨-, rfl, -⟩ := storageFields_cases hfield
    · exact .inl rfl
    · exact .inr rfl
  have hbinds : a.Binds kind name ↔ ∃ m ∈ g.nodes, Requires c s m kind name :=
    Compile.binds_iff_requires h hg hkind
  obtain ⟨hspelled, honly⟩ :=
    spelled_of_storage (Context.named_ofGraph g c s) hb hreads hneeds.isSafe
  refine ⟨b, name, _, hb, hreads, hf, hspelled, honly, hbinds, Compile.declares_iff_binds h hkind, ?_⟩
  rintro ⟨r, hr, hnames⟩
  exact hbinds.mpr ⟨n, hn, r, hr, hnames.1, requirementName_of_names hfield hnames hneeds⟩

/-- The built-in catalog with another definition for nodes that read a key. -/
def readingFrom (field : String) (configSchema : Members) : Catalog :=
  Catalog.builtin.register
    { type := "kv-get"
      name := "Read a key"
      configSchema := configSchema
      bindings := [{ kind := "kv", name := "KV", configField := some field }] }

def sessionsCatalog : Catalog :=
  readingFrom "namespace"
    [("properties", .obj [("namespace", .obj [("default", .str "user sessions")])])]

/-- A node to start from, and a node that reads a key. -/
def lookupKey : Graph :=
  { nodes :=
      [{ id := "a", type := "entry" },
       { id := "b", type := "kv-get", data := { config := [("key", .str "k")] } }],
    edges := [{ id := some "e", source := "a", target := "b" }] }

/-- The namespace that the schema of another definition names is read and bound. -/
theorem compile_binds_iff_lookupKey :
    ∃ a, (compile sessionsCatalog {} {} (.graph lookupKey)).result = .ok a ∧
      (∃ n ∈ lookupKey.nodes, ∃ f,
        (ofNode n (Context.ofGraph lookupKey sessionsCatalog {})).result = .ok f ∧
          Text.Occurs "this.env[\"user_sessions\"]" f ∧
            Access.ofCode f = [.key "user_sessions".toList]) ∧
      a.Binds "kv" "user_sessions" ∧ Module.Declares a.descriptor "kv" "user_sessions" := by
  obtain ⟨n, hn, hfield, hself, hnames, hreads⟩ : ∃ n ∈ lookupKey.nodes,
      (n.type, "kv", "namespace") ∈ storageFields ∧
      SelfContained n (Context.ofGraph lookupKey sessionsCatalog {}) ∧
      (∃ r ∈ Binding.requirements sessionsCatalog n, r.Names "kv" "namespace") ∧
      ((body n (Context.ofGraph lookupKey sessionsCatalog {})).result.toOption.map Body.reads) =
        some [("kv", "user_sessions")] := by
    refine ⟨_, List.mem_of_getElem? (i := 1) rfl, by decide, ?_, ?_, by decide⟩
    · exact selfContained_of_type (by decide)
        ((single_marker_iff _).mpr ⟨single_chars rfl rfl, single_chars rfl rfl⟩)
    · exact ⟨{ kind := "kv", name := "KV", configField := some "namespace" }, by decide, rfl,
        .inl rfl⟩
  have hcompile : (compile sessionsCatalog {} {} (.graph lookupKey)).result.toOption.map
      (fun _ => ()) = some () := by with_unfolding_all decide
  obtain ⟨a, ha, -⟩ := map_toOption_eq_some hcompile
  obtain ⟨b, hb, hsame⟩ := map_toOption_eq_some hreads
  obtain ⟨b', name, f, hb', hname, hf, hspelled, honly, -, hdeclares, hbinds⟩ :=
    compile_binds_iff ha rfl hn hfield
  obtain rfl := Except.ok.inj (hb.symm.trans hb')
  obtain rfl : name = "user_sessions" := by simpa [hname] using hsame
  exact ⟨a, ha, ⟨n, hn, f, hf, hspelled, honly hself⟩, hbinds hnames, hdeclares.mpr (hbinds hnames)⟩

def storeCatalog : Catalog := readingFrom "store" []

def lookupOrder : Graph :=
  { nodes :=
      [{ id := "a", type := "entry" },
       { id := "b", type := "kv-get",
         data := { config := [("key", .str "k"), ("namespace", .str "ORDERS")] } }],
    edges := [{ id := some "e", source := "a", target := "b" }] }

/-- Each of the types still requires a resource of the kind that its nodes read. The text of the code reads
the namespace in the configuration, but another one is bound and declared. -/
theorem not_binds_lookupOrder :
    (∀ p ∈ storageFields, ∃ d, storeCatalog.get? p.1 = some d ∧ ∃ r ∈ d.bindings, r.kind = p.2.1) ∧
    ∃ a, (compile storeCatalog {} {} (.graph lookupOrder)).result = .ok a ∧
      (∃ n ∈ lookupOrder.nodes, ∃ f,
        (ofNode n (Context.ofGraph lookupOrder storeCatalog {})).result = .ok f ∧
          Text.Occurs "this.env[\"ORDERS\"]" f ∧ Access.ofCode f = [.key "ORDERS".toList]) ∧
      ¬a.Binds "kv" "ORDERS" ∧ ¬Module.Declares a.descriptor "kv" "ORDERS" := by
  have hrequired : ∀ p ∈ storageFields, (storeCatalog.get? p.1).map
      (fun d => d.bindings.any fun r => r.kind == p.2.1) = some true := by
    decide
  have hbound : (compile storeCatalog {} {} (.graph lookupOrder)).result.toOption.map
      (·.bindings.map fun b => (b.kind, b.name)) = some [("kv", "KV")] := by
    with_unfolding_all decide
  obtain ⟨n, hn, hself, hreads⟩ : ∃ n ∈ lookupOrder.nodes,
      SelfContained n (Context.ofGraph lookupOrder storeCatalog {}) ∧
      ((body n (Context.ofGraph lookupOrder storeCatalog {})).result.toOption.map Body.reads) =
        some [("kv", "ORDERS")] :=
    ⟨_, List.mem_of_getElem? (i := 1) rfl, selfContained_of_type (by decide)
      ((single_marker_iff _).mpr ⟨single_chars rfl rfl, single_chars rfl rfl⟩), by decide⟩
  obtain ⟨a, ha, hbindings⟩ := map_toOption_eq_some hbound
  obtain ⟨b, hb, hreads⟩ := map_toOption_eq_some hreads
  have hsafe : IsSafe "ORDERS" := ⟨by decide, List.all_eq_true.mp (by decide)⟩
  obtain ⟨hspelled, honly⟩ :=
    spelled_of_storage (Context.named_ofGraph lookupOrder storeCatalog {}) hb hreads hsafe
  have hother : ¬a.Binds "kv" "ORDERS" := by
    rintro ⟨b, hb, hkind, hname⟩
    have hmem := List.mem_map_of_mem (f := fun b : Binding => (b.kind, b.name)) hb
    rw [hbindings, hkind, hname] at hmem
    exact absurd hmem (by decide)
  refine ⟨fun p hp => ?_, a, ha, ⟨n, hn, _, ofNode_of_body hb, hspelled, honly hself⟩, hother, ?_⟩
  · obtain ⟨d, hd, hany⟩ := Option.map_eq_some_iff.mp (hrequired p hp)
    obtain ⟨r, hr, hkind⟩ := List.any_eq_true.mp hany
    exact ⟨d, hd, r, hr, beq_iff_eq.mp hkind⟩
  · rw [Compile.declares_iff_binds ha (.inl rfl)]
    exact hother

end DurableFlow
