import DurableFlow.Proofs.Binding.Grouped
import DurableFlow.Proofs.Binding.Name
import DurableFlow.Proofs.Fragment.Shape
import Mathlib.Data.List.Nodup

/-!
What a node needs of its environment. The resources that its code reads, and those that are collected for
it, are found independently from the same configuration; with the built-in types both are the resources
that the node needs.
-/

namespace DurableFlow

open Fragment

/-! ### What a node needs -/

/-- The resources that a node needs, by its type. A node that asks a model needs a namespace for its
cache exactly when answers are kept for some time. -/
inductive Node.Needs (n : Node) (c : Catalog) (s : CompilerSettings) : (kind name : String) → Prop where
  | keyValue {name : String} (htype : n.type ∈ namespaceTypes)
      (h : n.kvNamespace c "namespace" = .ok name) : Needs n c s "kv" name
  | database (htype : n.type = "d1-query") : Needs n c s "d1" (n.d1Database "database")
  | model (htype : n.type ∈ modelTypes) : Needs n c s "ai" Builtin.aiBinding
  | cache {name : String} {ttl : Int} (htype : n.type ∈ modelTypes) (httl : n.cacheTtl s = .ok ttl)
      (hkept : 0 < ttl) (h : n.kvNamespace c "cacheNamespace" = .ok name) : Needs n c s "kv" name

def resourceTypes : List String := namespaceTypes ++ ["d1-query"] ++ modelTypes

variable {n : Node} {c : Catalog} {s : CompilerSettings} {kind name : String}

theorem Node.Needs.type_mem (h : n.Needs c s kind name) : n.type ∈ resourceTypes := by
  cases h with
  | keyValue htype => exact List.mem_append_left _ (List.mem_append_left _ htype)
  | database htype =>
      rw [htype]
      decide
  | model htype => exact List.mem_append_right _ htype
  | cache htype => exact List.mem_append_right _ htype

theorem Node.cacheNamespace_eq_some_iff :
    n.cacheNamespace c s = .ok (some name) ↔
      ∃ ttl, n.cacheTtl s = .ok ttl ∧ 0 < ttl ∧ n.kvNamespace c "cacheNamespace" = .ok name := by
  constructor
  · intro h
    obtain ⟨ttl, httl, h⟩ := bind_eq_ok h
    split at h
    · simp [pure, Except.pure] at h
    · rename_i hkept
      obtain ⟨name', hname, h⟩ := bind_eq_ok h
      obtain rfl := Option.some.inj (Except.ok.inj h)
      exact ⟨ttl, httl, Int.not_le.mp hkept, hname⟩
  · rintro ⟨ttl, httl, hkept, hname⟩
    rw [Node.cacheNamespace, httl]
    show (if ttl ≤ 0 then _ else _) = _
    rw [if_neg (Int.not_le.mpr hkept), hname]
    rfl

theorem Node.needs_iff_of_namespace (htype : n.type ∈ namespaceTypes) :
    n.Needs c s kind name ↔ kind = "kv" ∧ n.kvNamespace c "namespace" = .ok name := by
  have hapart : ∀ t ∈ namespaceTypes, t ≠ "d1-query" ∧ t ∉ modelTypes := by decide
  obtain ⟨hdatabase, hmodel⟩ := hapart n.type htype
  constructor
  · intro h
    cases h with
    | keyValue _ h => exact ⟨rfl, h⟩
    | database hother => exact absurd hother hdatabase
    | model hother => exact absurd hother hmodel
    | cache hother => exact absurd hother hmodel
  · rintro ⟨rfl, h⟩
    exact .keyValue htype h

theorem Node.needs_iff_of_database (htype : n.type = "d1-query") :
    n.Needs c s kind name ↔ kind = "d1" ∧ name = n.d1Database "database" := by
  have hapart : "d1-query" ∉ namespaceTypes ∧ "d1-query" ∉ modelTypes := by decide
  rw [← htype] at hapart
  constructor
  · intro h
    cases h with
    | keyValue hother => exact absurd hother hapart.1
    | database _ => exact ⟨rfl, rfl⟩
    | model hother => exact absurd hother hapart.2
    | cache hother => exact absurd hother hapart.2
  · rintro ⟨rfl, rfl⟩
    exact .database htype

theorem Node.needs_iff_of_model (htype : n.type ∈ modelTypes) :
    n.Needs c s kind name ↔ kind = "ai" ∧ name = Builtin.aiBinding ∨
      kind = "kv" ∧ n.cacheNamespace c s = .ok (some name) := by
  have hapart : ∀ t ∈ modelTypes, t ≠ "d1-query" ∧ t ∉ namespaceTypes := by decide
  obtain ⟨hdatabase, hnamespace⟩ := hapart n.type htype
  rw [cacheNamespace_eq_some_iff]
  constructor
  · intro h
    cases h with
    | keyValue hother => exact absurd hother hnamespace
    | database hother => exact absurd hother hdatabase
    | model _ => exact .inl ⟨rfl, rfl⟩
    | cache _ httl hkept h => exact .inr ⟨rfl, _, httl, hkept, h⟩
  · rintro (⟨rfl, rfl⟩ | ⟨rfl, ttl, httl, hkept, h⟩)
    · exact .model htype
    · exact .cache htype httl hkept h

theorem Node.Needs.isSafe (h : n.Needs c s kind name) : IsSafe name := by
  cases h with
  | keyValue _ h => exact isSafe_kvNamespace h
  | database _ => exact isSafe_d1Database n "database"
  | model _ => exact isSafe_aiBinding
  | cache _ _ _ h => exact isSafe_kvNamespace h

/-! ### What the code of a node reads -/

theorem Fragment.mem_cacheReads {cache : Option String} :
    (kind, name) ∈ cacheReads cache ↔ kind = "kv" ∧ cache = some name := by
  cases cache with
  | none => simp [cacheReads]
  | some name' => simp [cacheReads, eq_comm]

theorem Fragment.mem_reads_iff {ctx : Context} {b : Body} (h : (body n ctx).result = .ok b) :
    (kind, name) ∈ b.reads ↔ n.Needs ctx.catalog ctx.settings kind name := by
  -- Code without reads is right for the types that need nothing.
  have hnone : b.reads = [] → n.type ∉ resourceTypes →
      ((kind, name) ∈ b.reads ↔ n.Needs ctx.catalog ctx.settings kind name) := by
    intro hreads htype
    rw [hreads]
    exact ⟨fun hmem => absurd hmem List.not_mem_nil, fun hneeds => absurd hneeds.type_mem htype⟩
  cases (body_meets n ctx).of_ok h with
  | plain htype hplain =>
      have hapart : ∀ t ∈ plainTypes, t ∉ resourceTypes := by decide
      exact hnone hplain.reads_eq (hapart n.type htype)
  | payload key names htype hnames hpayload =>
      have hapart : ∀ p ∈ payloadTypes, p.1 ∉ resourceTypes := by decide
      exact hnone (hpayload ▸ reads_payload names) (hapart _ htype)
  | waits htype hwaits =>
      have hapart : ∀ t ∈ waitTypes, t ∉ resourceTypes := by decide
      exact hnone hwaits.reads_eq (hapart n.type htype)
  | unknown htype hpassed =>
      have hknown : ∀ t ∈ resourceTypes, (generators.lookup t).isSome = true := by decide
      refine hnone (hpassed ▸ reads_passthrough n ctx) fun hmem => ?_
      have hsome := hknown n.type hmem
      rw [htype] at hsome
      contradiction
  | namespaced name' htype hname hreads =>
      rw [hreads.2, List.mem_singleton, Prod.mk.injEq, Node.needs_iff_of_namespace htype, hname,
        Except.ok.injEq, eq_comm (a := name)]
  | database htype hreads =>
      rw [hreads.2, List.mem_singleton, Prod.mk.injEq, Node.needs_iff_of_database htype]
  | model htype hasks =>
      obtain ⟨cache, hcache, hreads⟩ := hasks
      rw [hreads.2, List.mem_append, List.mem_append, List.mem_singleton, Prod.mk.injEq,
        mem_cacheReads, Node.needs_iff_of_model htype, hcache, Except.ok.injEq]
      tauto

/-! ### What is collected for a node -/

namespace Binding

/-- A requirement of a node stands for a resource of that kind and name. -/
def Requires (c : Catalog) (s : CompilerSettings) (n : Node) (kind name : String) : Prop :=
  ∃ r ∈ requirements c n, r.kind = kind ∧ n.requirementName r c s = .ok (some name)

theorem exists_mem_usesIn_iff {g : Graph} {id : String} :
    (∃ u ∈ usesIn c s g, u.key = (kind, name) ∧ u.usage.nodeId = id) ↔
      ∃ n ∈ g.nodes, n.id = id ∧ Requires c s n kind name := by
  constructor
  · rintro ⟨u, hu, hkey, hid⟩
    obtain ⟨hn, hr, hname⟩ := mem_usesIn_iff.mp hu
    obtain ⟨hkind, rfl⟩ := Prod.mk.inj hkey
    exact ⟨u.node, hn, hid, u.requirement, hr, hkind, hname⟩
  · rintro ⟨n, hn, hid, r, hr, rfl, hname⟩
    exact ⟨⟨n, r, name⟩, mem_usesIn_iff.mpr ⟨hn, hr, hname⟩, rfl, hid⟩

/-- The binding is of that kind and name, and the node with that id uses it. -/
def Serves (b : Binding) (id kind name : String) : Prop :=
  b.kind = kind ∧ b.name = name ∧ ∃ u ∈ b.usages, u.nodeId = id

/-- Among the bindings, the resource is used by the node with that id. -/
def UsedBy (bs : List Binding) (id kind name : String) : Prop := ∃ b ∈ bs, b.Serves id kind name

theorem usedBy_collect {g : Graph} {bs : List Binding} (h : collect c s g = .ok bs) {id : String} :
    UsedBy bs id kind name ↔ ∃ n ∈ g.nodes, n.id = id ∧ Requires c s n kind name := by
  rw [← exists_mem_usesIn_iff]
  constructor
  · rintro ⟨b, hb, rfl, rfl, usage, husage, hid⟩
    obtain ⟨u, hu, hkey, rfl⟩ := (groups_collect h).exists_usage_iff.mp ⟨b, hb, rfl, husage⟩
    exact ⟨u, hu, hkey, hid⟩
  · rintro ⟨u, hu, hkey, hid⟩
    obtain ⟨b, hb, hkey, husage⟩ := (groups_collect h).exists_usage_iff.mpr ⟨u, hu, hkey, rfl⟩
    obtain ⟨hkind, hname⟩ := Prod.mk.inj hkey
    exact ⟨b, hb, hkind, hname, u.usage, husage, hid⟩

/-! ### The built-in types -/

def databaseRequirement : Requirement where
  kind := "d1"
  name := Builtin.d1Binding
  description := "D1 database binding"
  configField := some "database"

theorem requirements_builtin (n : Node) :
    (n.type ∈ namespaceTypes ∧ requirements Catalog.builtin n = [Builtin.kvRequirement]) ∨
    (n.type = "d1-query" ∧ requirements Catalog.builtin n = [databaseRequirement]) ∨
    (n.type ∈ modelTypes ∧
      requirements Catalog.builtin n = [Builtin.aiRequirement, Builtin.cacheRequirement]) ∨
    (n.type ∉ resourceTypes ∧ requirements Catalog.builtin n = []) := by
  have hnamespace : ∀ t ∈ namespaceTypes, ((Catalog.builtin.get? t).map (·.bindings)).getD [] =
      [Builtin.kvRequirement] := by decide
  have hdatabase : ((Catalog.builtin.get? "d1-query").map (·.bindings)).getD [] =
      [databaseRequirement] := by decide
  have hmodel : ∀ t ∈ modelTypes, ((Catalog.builtin.get? t).map (·.bindings)).getD [] =
      [Builtin.aiRequirement, Builtin.cacheRequirement] := by decide
  have hothers : ∀ d ∈ Catalog.builtin.definitions, d.type ∉ resourceTypes → d.bindings = [] := by
    decide
  by_cases htype : n.type ∈ resourceTypes
  · simp only [resourceTypes, List.mem_append, List.mem_singleton] at htype
    rcases htype with (htype | htype) | htype
    · exact .inl ⟨htype, hnamespace n.type htype⟩
    · refine .inr (.inl ⟨htype, ?_⟩)
      rw [requirements, htype]
      exact hdatabase
    · exact .inr (.inr (.inl ⟨htype, hmodel n.type htype⟩))
  · refine .inr (.inr (.inr ⟨htype, ?_⟩))
    rw [requirements]
    cases hget : Catalog.builtin.get? n.type with
    | none => rfl
    | some d =>
        have hd : d.type = n.type := by simpa using List.find?_some hget
        exact hothers d (List.mem_of_find?_eq_some hget) (hd ▸ htype)

/-! The names that the requirements stand for. -/

theorem requirementName_namespace :
    n.requirementName Builtin.kvRequirement c s = (n.kvNamespace c "namespace").map some := rfl

theorem requirementName_database :
    n.requirementName databaseRequirement c s = .ok (some (n.d1Database "database")) := rfl

theorem requirementName_model :
    n.requirementName Builtin.aiRequirement c s = .ok (some Builtin.aiBinding) := rfl

theorem requirementName_cache :
    n.requirementName Builtin.cacheRequirement c s = n.cacheNamespace c s := rfl

theorem map_some_eq_ok_iff {x : Except Fault String} :
    x.map some = .ok (some name) ↔ x = .ok name := by
  cases x with
  | error f => simp [Except.map]
  | ok a => simp [Except.map]

theorem requires_iff_needs :
    Requires Catalog.builtin s n kind name ↔ n.Needs Catalog.builtin s kind name := by
  rw [Requires]
  rcases requirements_builtin n with ⟨htype, hreq⟩ | ⟨htype, hreq⟩ | ⟨htype, hreq⟩ | ⟨htype, hreq⟩
  · rw [hreq, List.exists_mem_cons_iff, requirementName_namespace, map_some_eq_ok_iff,
      Node.needs_iff_of_namespace htype, eq_comm (a := kind)]
    simp [Builtin.kvRequirement]
  · rw [hreq, List.exists_mem_cons_iff, requirementName_database, Except.ok.injEq,
      Option.some.injEq, Node.needs_iff_of_database htype, eq_comm (a := kind), eq_comm (a := name)]
    simp [databaseRequirement]
  · rw [hreq, List.exists_mem_cons_iff, List.exists_mem_cons_iff, requirementName_model,
      requirementName_cache, Except.ok.injEq, Option.some.injEq, Node.needs_iff_of_model htype,
      eq_comm (a := kind), eq_comm (a := name)]
    simp [Builtin.aiRequirement, Builtin.cacheRequirement, eq_comm]
  · rw [hreq]
    refine ⟨?_, fun hneeds => absurd hneeds.type_mem htype⟩
    rintro ⟨r, hr, -⟩
    exact absurd hr List.not_mem_nil

end Binding

end DurableFlow
