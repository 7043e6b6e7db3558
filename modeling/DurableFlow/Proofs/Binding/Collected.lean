import DurableFlow.Module.Descriptor
import DurableFlow.Proofs.Binding.Required
import DurableFlow.Proofs.Code.Spelled

/-!
Code and bindings agree. What the code of a node reads and what is collected for the node are the
resources that the node needs. Each of them has a name that can be a member of the environment, is spelled
out in the text of the code, and is declared by the descriptor.
-/

namespace DurableFlow

open Fragment

variable {n : Node} {c : Catalog} {s : CompilerSettings} {kind name : String}

/-! ### Declarations -/

theorem Members.get?_append (key : String) (ms rest : Members) :
    get? key (ms ++ rest) = (get? key ms).or (get? key rest) := by
  induction ms with
  | nil => rfl
  | cons m ms ih =>
      obtain ⟨k, v⟩ := m
      by_cases hk : k = key
      · simp [get?, hk]
      · simp [get?, hk, ih]

/-- The descriptor declares a resource of that kind and name in the section of its kind. -/
inductive Module.Declares (d : Members) : (kind name : String) → Prop where
  | keyValue {name : String} {entries : List Json} {entry : Members}
      (hsection : Members.get? "kv_namespaces" d = some (.arr entries)) (hentry : .obj entry ∈ entries)
      (hname : Members.get? "binding" entry = some (.str name)) : Declares d "kv" name
  | database {name : String} {entries : List Json} {entry : Members}
      (hsection : Members.get? "d1_databases" d = some (.arr entries)) (hentry : .obj entry ∈ entries)
      (hname : Members.get? "binding" entry = some (.str name)) : Declares d "d1" name
  | model {name : String} {entry : Members} (hsection : Members.get? "ai" d = some (.obj entry))
      (hname : Members.get? "binding" entry = some (.str name)) : Declares d "ai" name

namespace Binding

theorem get?_declared (key : String) {entries : List Json} {entry : Json} (h : entry ∈ entries) :
    Members.get? key (declared key entries) = some (.arr entries) := by
  rw [declared, if_neg (by simp [List.ne_nil_of_mem h])]
  simp [Members.get?]

theorem get?_declared_of_ne {key other : String} (h : key ≠ other) (entries : List Json) :
    Members.get? other (declared key entries) = none := by
  rw [declared]
  split
  · rfl
  · simp [Members.get?, h]

theorem mem_ofKind {b : Binding} {bs : List Binding} (h : b ∈ bs) : b ∈ ofKind b.kind bs :=
  List.mem_filter.mpr ⟨h, by simp⟩

end Binding

/-- What the sections declare under a key that the descriptor has no other use for stands in it. -/
theorem Module.get?_descriptor {key : String} {bs : List Binding} {v : Json}
    (hkey : key ∉ ["name", "main", "compatibility_date", "workflows"])
    (h : Members.get? key (Binding.sections bs) = some v) (deployment className : String)
    (s : CompilerSettings) (isTool : Bool) :
    Members.get? key (descriptor deployment className bs s isTool) = some v := by
  simp only [List.mem_cons, List.not_mem_nil, or_false, not_or] at hkey
  obtain ⟨hname, hmain, hdate, hworkflows⟩ := hkey
  rw [descriptor, Members.get?_append, Members.get?_append, h]
  simp [Members.get?, Ne.symm hname, Ne.symm hmain, Ne.symm hdate, Ne.symm hworkflows]

/-- A descriptor declares every binding of the kinds that code reads. -/
theorem Module.declares_of_mem {b : Binding} {bs : List Binding} (h : b ∈ bs)
    (hkind : b.kind = "kv" ∨ b.kind = "d1" ∨ b.kind = "ai" ∧ b.name = Builtin.aiBinding)
    (deployment className : String) (s : CompilerSettings) (isTool : Bool) :
    Declares (descriptor deployment className bs s isTool) b.kind b.name := by
  have hmem := Binding.mem_ofKind h
  rcases hkind with hkind | hkind | ⟨hkind, hname⟩
  · rw [hkind] at hmem ⊢
    have hentry := List.mem_map_of_mem (f := fun b : Binding =>
      Json.obj [("binding", .str b.name), ("id", .str ""), ("preview_id", .str "")]) hmem
    refine .keyValue (get?_descriptor (by decide) ?_ deployment className s isTool) hentry rfl
    rw [Binding.sections, Members.get?_append, Members.get?_append, Members.get?_append,
      Binding.get?_declared _ hentry]
    rfl
  · rw [hkind] at hmem ⊢
    have hentry := List.mem_map_of_mem (f := fun b : Binding =>
      Json.obj [("binding", .str b.name), ("database_name", .str (Text.lower b.name)),
        ("database_id", .str "")]) hmem
    refine .database (get?_descriptor (by decide) ?_ deployment className s isTool) hentry rfl
    rw [Binding.sections, Members.get?_append, Members.get?_append, Members.get?_append,
      Binding.get?_declared_of_ne (by decide), Binding.get?_declared _ hentry]
    rfl
  · rw [hkind] at hmem ⊢
    rw [hname]
    have hsection : Members.get? "ai" (Binding.sections bs) =
        some (.obj [("binding", .str Builtin.aiBinding)]) := by
      rw [Binding.sections, Members.get?_append, Members.get?_append, Members.get?_append,
        Binding.get?_declared_of_ne (by decide), Binding.get?_declared_of_ne (by decide),
        if_neg (by simp [List.ne_nil_of_mem hmem])]
      rfl
    exact .model (get?_descriptor (by decide) hsection deployment className s isTool) rfl

theorem Node.Needs.kind_cases (h : n.Needs c s kind name) :
    kind = "kv" ∨ kind = "d1" ∨ kind = "ai" ∧ name = Builtin.aiBinding := by
  cases h with
  | keyValue => exact .inl rfl
  | database => exact .inr (.inl rfl)
  | model => exact .inr (.inr ⟨rfl, rfl⟩)
  | cache => exact .inl rfl

/-- In any graph with distinct ids whose bindings can be collected, the code of each node reads
exactly the resources that are collected for it, which are the ones that it needs. Each of them has
a safe name, and every descriptor made from the bindings, and perhaps others, declares it. Each of them
is spelled out in the text of the code; and in this text a reader finds these reads alone, unless the
node itself hands in code with others. -/
theorem reads_iff_collected {s : CompilerSettings} {g : Graph} {bs : List Binding}
    (hids : g.ids.Nodup) (hcollect : Binding.collect Catalog.builtin s g = .ok bs) {n : Node}
    (hn : n ∈ g.nodes) {b : Body}
    (hb : (body n (Context.ofGraph g Catalog.builtin s)).result = .ok b) (kind name : String) :
    ((kind, name) ∈ b.reads ↔ Binding.UsedBy bs n.id kind name) ∧
    ((kind, name) ∈ b.reads ↔ n.Needs Catalog.builtin s kind name) ∧
    ((kind, name) ∈ b.reads → IsSafe name ∧ ∀ more deployment className isTool,
      Module.Declares (Module.descriptor deployment className (bs ++ more) s isTool) kind name) ∧
    ((kind, name) ∈ b.reads → Text.Occurs (environmentRead kind name)
      (b.render (Context.ofGraph g Catalog.builtin s) n)) ∧
    (SelfContained n (Context.ofGraph g Catalog.builtin s) →
      Access.ofCode (b.render (Context.ofGraph g Catalog.builtin s) n) =
        b.reads.map Access.ofResource) := by
  have hneeds : (kind, name) ∈ b.reads ↔ n.Needs Catalog.builtin s kind name := mem_reads_iff hb
  have hused : Binding.UsedBy bs n.id kind name ↔ n.Needs Catalog.builtin s kind name := by
    rw [Binding.usedBy_collect hcollect, ← Binding.requires_iff_needs]
    constructor
    · rintro ⟨m, hm, hid, hrequires⟩
      have hsame : m = n := List.inj_on_of_nodup_map hids hm hn hid
      exact hsame ▸ hrequires
    · exact fun hrequires => ⟨n, hn, rfl, hrequires⟩
  have hctx := Context.named_ofGraph g Catalog.builtin s
  refine ⟨hneeds.trans hused.symm, hneeds, fun hread => ⟨(hneeds.mp hread).isSafe, ?_⟩,
    fun hread => Body.occurs_read hread (hneeds.mp hread).isSafe,
    fun hself => Body.ofCode_render hctx (faithful_body hctx hself hb)⟩
  intro more deployment className isTool
  obtain ⟨x, hx, rfl, rfl, -⟩ := hused.mpr (hneeds.mp hread)
  exact Module.declares_of_mem (List.mem_append_left more hx) (hneeds.mp hread).kind_cases
    deployment className s isTool

theorem reads_iff_collected_sharedNamespace :
    ∃ n ∈ sharedNamespace.nodes, n.id = "ask" ∧ ∃ bs b,
      Binding.collect Catalog.builtin {} sharedNamespace = .ok bs ∧
      (body n (Context.ofGraph sharedNamespace Catalog.builtin {})).result = .ok b ∧
      ("kv", "my_answers") ∈ b.reads ∧ Binding.UsedBy bs "ask" "kv" "my_answers" ∧
      IsSafe "my_answers" ∧ Module.Declares (Module.descriptor "d" "D" bs {} false) "kv" "my_answers" ∧
      Text.Occurs "this.env[\"my_answers\"]"
        (b.render (Context.ofGraph sharedNamespace Catalog.builtin {}) n) ∧
      Access.ofCode (b.render (Context.ofGraph sharedNamespace Catalog.builtin {}) n) =
        [.key "my_answers".toList, .member "AI".toList, .key "my_answers".toList] := by
  obtain ⟨n, hn, hid, hself, hreads⟩ : ∃ n ∈ sharedNamespace.nodes, n.id = "ask" ∧
      SelfContained n (Context.ofGraph sharedNamespace Catalog.builtin {}) ∧
      (body n (Context.ofGraph sharedNamespace Catalog.builtin {})).result.toOption.map Body.reads =
        some [("kv", "my_answers"), ("ai", "AI"), ("kv", "my_answers")] :=
    ⟨_, List.mem_of_getElem? (i := 2) rfl, rfl,
      selfContained_of_type (by decide)
        ((single_marker_iff _).mpr ⟨single_chars rfl rfl, single_chars rfl rfl⟩), by decide⟩
  have hids : sharedNamespace.ids.Nodup := by decide
  have hok : (Binding.collect Catalog.builtin {} sharedNamespace).isOk = true := by decide
  obtain ⟨b, hb, hbody⟩ := map_toOption_eq_some hreads
  refine ⟨n, hn, hid, ?_⟩
  cases hcollect : Binding.collect Catalog.builtin {} sharedNamespace with
  | error f =>
      rw [hcollect] at hok
      contradiction
  | ok bs =>
      have hread : ("kv", "my_answers") ∈ b.reads := hbody ▸ by decide
      obtain ⟨hused, -, hdeclared, hspelled, honly⟩ :=
        reads_iff_collected hids hcollect hn hb "kv" "my_answers"
      obtain ⟨hsafe, hdeclares⟩ := hdeclared hread
      refine ⟨bs, b, rfl, hb, hread, hid ▸ hused.mp hread, hsafe, ?_, hspelled hread, ?_⟩
      · simpa using hdeclares [] "d" "D" false
      · rw [honly hself, hbody]
        rfl

end DurableFlow
