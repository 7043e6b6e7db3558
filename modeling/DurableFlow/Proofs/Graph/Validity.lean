import DurableFlow.Catalog.Builtin
import DurableFlow.Graph.Report
import DurableFlow.Proofs.Record.Reading
import DurableFlow.Proofs.Schema.Accepted
import DurableFlow.Proofs.Schema.Unstopped

/-!
What a report on a document settles. Every object gets a report from the built-in catalog: a
document whose structure has no problems can be examined to its end, and the schemas of the catalog
can be read. In a graph without errors the configuration of each node passes the schema of its type.
-/

namespace DurableFlow

/-! ### Documents that can be examined -/

namespace Checked

variable {α β : Type}

/-- The value was examined, with or without issues. -/
def Examined : Checked α → Prop
  | .stopped => False
  | _ => True

theorem Examined.seq {f : Checked (α → β)} {x : Checked α} (hf : f.Examined) (hx : x.Examined) :
    (f <*> x).Examined := by
  cases f <;> cases x <;> first | exact trivial | contradiction

theorem Examined.map {x : Checked α} (hx : x.Examined) (f : α → β) : (f <$> x).Examined := by
  cases x <;> first | exact trivial | contradiction

theorem Examined.under {x : Checked α} (hx : x.Examined) (name : String) : (under name x).Examined := by
  cases x <;> first | exact trivial | contradiction

theorem examined_string (v : Json) : (string v).Examined := by
  cases v <;> exact trivial

theorem examined_dictionary (v : Json) : (dictionary v).Examined := by
  cases v <;> exact trivial

theorem examined_number (v : Json) : (number v).Examined := by
  rw [number.eq_def]
  split
  · exact trivial
  · dsimp only
    split <;> exact trivial
  · exact trivial
  · split <;> exact trivial
  · exact trivial

theorem examined_optional {read : Json → Checked α} (h : ∀ v, (read v).Examined) (v : Json) :
    (optional read v).Examined := by
  cases v <;> first | exact trivial | exact (h _).map some

theorem examined_fieldOr {ms : Members} {names : List String} {read : Json → Checked α}
    {absent : Checked α} (h : ∀ name ∈ names, ∀ v, Members.get? name ms = some v → (read v).Examined)
    (habsent : absent.Examined) : (fieldOr ms names read absent).Examined := by
  rcases fieldOr_cases ms names read absent with ⟨name, hname, v, hv, heq⟩ | heq
  · rw [heq]
    exact (h name hname v hv).under name
  · rw [heq]
    exact habsent

theorem examined_fieldD {ms : Members} {names : List String} {read : Json → Checked α} {default : α}
    (h : ∀ name ∈ names, ∀ v, Members.get? name ms = some v → (read v).Examined) :
    (fieldD ms names read default).Examined :=
  examined_fieldOr h trivial

theorem examined_field {ms : Members} {name : String} {read : Json → Checked α}
    (h : ∀ v, (read v).Examined) : (field ms name read).Examined :=
  examined_fieldOr (fun _ _ v _ => h v) trivial

theorem examined_list {read : Json → Checked α} {v : Json}
    (h : ∀ items, v = .arr items → ∀ x ∈ items, (read x).Examined) : (list read v).Examined := by
  cases v with
  | arr items =>
      have hitems := h items rfl
      have hfrom : ∀ start, (itemsFrom read start items).Examined := by
        clear h
        induction items with
        | nil => exact fun _ => trivial
        | cons x items ih =>
            intro start
            exact (((hitems x List.mem_cons_self).under _).map List.cons).seq
              (ih (fun y hy => hitems y (List.mem_cons_of_mem x hy)) (start + 1))
      exact hfrom 0
  | _ => exact trivial

end Checked

open Checked

theorem NodeData.examined_read (v : Json) : (NodeData.read v).Examined := by
  cases v with
  | obj ms =>
      refine (((Examined.map ?_ _).seq ?_).seq ?_).seq trivial
      · exact examined_fieldD fun _ _ v _ => examined_optional examined_string v
      · exact examined_fieldD fun _ _ v _ => examined_optional examined_string v
      · exact examined_fieldD fun _ _ v _ => examined_dictionary v
  | _ => exact trivial

theorem Position.examined_read (v : Json) : (Position.read v).Examined := by
  cases v with
  | obj ms =>
      refine (Examined.map ?_ _).seq ?_
      · exact examined_fieldD fun _ _ v _ => examined_number v
      · exact examined_fieldD fun _ _ v _ => examined_number v
  | _ => exact trivial

theorem Edge.examined_read (v : Json) : (Edge.read v).Examined := by
  cases v with
  | obj ms =>
      refine ((((Examined.map ?_ _).seq ?_).seq ?_).seq ?_).seq trivial
      · exact examined_fieldD fun _ _ v _ => examined_optional examined_string v
      · exact examined_field examined_string
      · exact examined_field examined_string
      · exact examined_fieldD fun _ _ v _ => examined_optional examined_string v
  | _ => exact trivial

theorem Document.isObject_of_check {follow : Schema.Follow} {rules : List Rule} {v : Json}
    (h : (Document.typed ["object"] rules).check follow v = []) : ∃ ms, v = .obj ms := by
  have htype := Schema.hasType_of_check h List.mem_cons_self
  cases v <;> simp [Json.hasType] at htype ⊢

/-- The members of a node that the structure of documents speaks of, with their schemas. -/
theorem Document.check_member {follow : Schema.Follow} {ms : Members}
    (h : nodeSchema.check follow (.obj ms) = []) {name : String} {s : Schema} {v : Json}
    (hv : Members.get? name ms = some v)
    (hs : (name, s) ∈ [("config", objectSchema), ("data", dataSchema)]) : s.check follow v = [] := by
  refine Schema.check_property h (List.mem_cons_of_mem _ List.mem_cons_self) ?_ hv
  simp only [List.mem_cons, List.not_mem_nil, or_false] at hs
  rcases hs with hs | hs
  · exact List.mem_of_getElem? (i := 3) (congrArg some hs.symm)
  · exact List.mem_of_getElem? (i := 4) (congrArg some hs.symm)

theorem Folded.objectOrEmpty?_obj (ms : Members) : objectOrEmpty? (.obj ms) = some ms := by
  cases ms <;> rfl

/-- The configuration and the data of a node in a document without problems can be folded. -/
theorem Node.fold_of_check {follow : Schema.Follow} {ms : Members}
    (h : Document.nodeSchema.check follow (.obj ms) = []) :
    ∃ folded badKeys, fold ms = .members folded badKeys := by
  rw [fold]
  cases hconfig : Members.get? "config" ms with
  | none => exact ⟨ms, [], rfl⟩
  | some top =>
      obtain ⟨outer, rfl⟩ := Document.isObject_of_check
        (Document.check_member h hconfig List.mem_cons_self)
      -- The data is an object or missing, and so is the configuration inside it.
      obtain ⟨data, hdata, hinner⟩ : ∃ data,
          Folded.ofData ((Members.get? "data" ms).getD .null) = .members data [] ∧
          ∃ inner, Folded.objectOrEmpty? ((Members.get? "config" data).getD .null) = some inner := by
        cases hdata : Members.get? "data" ms with
        | none => exact ⟨[], rfl, [], rfl⟩
        | some v =>
            have hcheck := Document.check_member h hdata (List.mem_cons_of_mem _ List.mem_cons_self)
            obtain ⟨data, rfl⟩ := Document.isObject_of_check hcheck
            refine ⟨data, by cases data <;> rfl, ?_⟩
            cases hconfig : Members.get? "config" data with
            | none => exact ⟨[], rfl⟩
            | some v =>
                obtain ⟨inner, rfl⟩ := Document.isObject_of_check
                  (Schema.check_property hcheck (List.mem_cons_of_mem _ List.mem_cons_self)
                    (List.mem_of_getElem? (i := 2) rfl) hconfig)
                exact ⟨inner, Folded.objectOrEmpty?_obj inner⟩
      obtain ⟨inner, hinner⟩ := hinner
      simp only [hdata, hinner, Folded.objectOrEmpty?_obj]
      exact ⟨_, _, rfl⟩

theorem Node.examined_read {follow : Schema.Follow} {v : Json}
    (h : Document.nodeSchema.check follow v = []) : (Node.read v).Examined := by
  obtain ⟨ms, rfl⟩ := Document.isObject_of_check h
  obtain ⟨folded, badKeys, hfold⟩ := Node.fold_of_check h
  rw [Node.read, hfold]
  refine ((((Examined.map ?_ _).seq ?_).seq ?_).seq ?_).seq ?_
  · exact examined_field examined_string
  · exact examined_fieldD fun _ _ v _ => examined_string v
  · exact examined_fieldD fun _ _ v _ => examined_optional Position.examined_read v
  · exact examined_fieldD fun _ _ v _ => NodeData.examined_read v
  · split <;> exact trivial

theorem Document.check_of_problems {v : Json} (h : Document.problems v = []) :
    Document.schema.check Schema.noReferences v = [] :=
  Schema.inOrder_eq_nil_iff.mp (List.map_eq_nil_iff.mp h)

theorem Graph.examined_read {ms : Members} (h : Document.problems (.obj ms) = []) :
    (Graph.read (.obj ms)).Examined := by
  have hcheck := Document.check_of_problems h
  refine ((((Examined.map ?_ _).seq ?_).seq ?_).seq ?_).seq trivial
  · exact examined_fieldD fun _ _ v _ => examined_string v
  · exact examined_fieldD fun _ _ v _ => examined_string v
  · refine examined_fieldD fun name hname v hv => examined_list ?_
    rintro items rfl x hx
    rw [List.mem_singleton.mp hname] at hv
    have hnodes := Schema.check_property hcheck (List.mem_cons_of_mem _ List.mem_cons_self)
      (List.mem_of_getElem? (i := 2) rfl) hv
    exact Node.examined_read (Schema.check_item hnodes (List.mem_of_getElem? (i := 2) rfl) hx)
  · exact examined_fieldD fun _ _ v _ => examined_list fun _ _ x _ => Edge.examined_read x

/-! ### The built-in schemas -/

theorem Catalog.mem_of_get? {c : Catalog} {type : String} {d : Definition}
    (h : c.get? type = some d) : d ∈ c.definitions ∧ d.type = type :=
  ⟨List.mem_of_find?_eq_some h, by simpa using List.find?_some h⟩

/-- Every configuration can be checked against the schemas of all types. -/
def Catalog.SchemasReadBy (c : Catalog) (validator : Schema.Validator) : Prop :=
  ∀ d ∈ c.definitions, ∀ config : Members,
    ∃ found, validator (.obj d.configSchema) (.obj config) = .ok found

/-- The schemas of all types can be read, and no check against them is stopped. -/
def Catalog.SchemasRead (c : Catalog) : Prop := c.SchemasReadBy Schema.validate

theorem Builtin.schemasRead : Catalog.builtin.SchemasRead := by
  intro d hd config
  obtain ⟨s, -, hfound⟩ := validate_schema hd (.obj config)
  exact ⟨_, hfound⟩

theorem Builtin.schema_ne_nil {d : Definition} (hd : d ∈ Catalog.builtin.definitions) :
    d.configSchema ≠ [] := by
  have hall : ∀ d ∈ Catalog.builtin.definitions, d.configSchema.isEmpty = false := by decide
  intro hempty
  have hone := hall d hd
  rw [hempty] at hone
  contradiction

/-- Nothing is found in the configuration of a node under the schema of a type, unless it is empty. -/
def Node.ConfiguredBy (n : Node) (validator : Schema.Validator) (d : Definition) : Prop :=
  d.configSchema ≠ [] → validator (.obj d.configSchema) (.obj n.config) = .ok []

/-- The configuration of a node passes the schema of a type. -/
def Node.Configured (n : Node) (d : Definition) : Prop := n.ConfiguredBy Schema.validate d

namespace Report

variable {validator : Schema.Validator} {c : Catalog}

/-- A configuration that can be checked has no problems exactly when its schema is empty or finds
nothing in it. -/
theorem configProblemsBy_eq_ok {config schema : Json}
    (h : ∃ found, validator schema config = .ok found) :
    ∃ problems, Document.configProblemsBy validator config schema = .ok problems ∧
      (problems = [] ↔ schema.isGiven = true → validator schema config = .ok []) := by
  obtain ⟨found, hfound⟩ := h
  rw [Document.configProblemsBy, hfound]
  cases schema.isGiven with
  | false => exact ⟨_, rfl, by simp⟩
  | true => exact ⟨_, rfl, by simp [Schema.inOrder_eq_nil_iff]⟩

/-- A node gets its findings, without errors if it has a type whose schema its configuration passes. -/
theorem nodeFindings_of_read (hc : c.SchemasReadBy validator) (n : Node) :
    ∃ found, nodeFindings validator c n = .ok found ∧
      (found.1 = [] ↔ n.type ≠ "" → ∀ d, c.get? n.type = some d → n.ConfiguredBy validator d) := by
  rw [nodeFindings]
  by_cases htype : n.type = ""
  · rw [if_pos htype]
    exact ⟨_, rfl, fun _ h => absurd htype h, fun _ => rfl⟩
  · rw [if_neg htype]
    cases hget : c.get? n.type with
    | none => exact ⟨_, rfl, by simp⟩
    | some d =>
        obtain ⟨problems, hproblems, hnone⟩ :=
          configProblemsBy_eq_ok (hc d (Catalog.mem_of_get? hget).1 n.config)
        simp only [hproblems]
        refine ⟨_, rfl, ?_⟩
        simp [htype, hnone, Node.ConfiguredBy, Json.isGiven]

theorem catalogFindings_of_read (hc : c.SchemasReadBy validator) (ns : List Node) :
    ∃ found, catalogFindings validator c ns = .ok found ∧ (found.1 = [] ↔ ∀ n ∈ ns,
      n.type ≠ "" → ∀ d, c.get? n.type = some d → n.ConfiguredBy validator d) := by
  induction ns with
  | nil => exact ⟨_, rfl, by simp⟩
  | cons n ns ih =>
      obtain ⟨here, hhere, hnone⟩ := nodeFindings_of_read hc n
      obtain ⟨rest, hrest, hnones⟩ := ih
      rw [catalogFindings, hhere, hrest]
      refine ⟨_, rfl, ?_⟩
      rw [List.forall_mem_cons, ← hnone, ← hnones]
      exact List.append_eq_nil_iff

theorem ofGraph_builtin (asked : Option String) (g : Graph) : ∃ r,
    ofGraph (some Catalog.builtin) asked g = .ok r ∧ (r.errors = [] → ∀ n ∈ g.nodes, ∀ d,
      Catalog.builtin.get? n.type = some d → n.Configured d) := by
  obtain ⟨found, hfound, hconfigured⟩ := catalogFindings_of_read Builtin.schemasRead g.nodes
  rw [ofGraph, ofGraphBy, hfound]
  refine ⟨_, rfl, fun hnone n hn d hd => ?_⟩
  simp only [List.append_eq_nil_iff] at hnone
  refine hconfigured.mp hnone.1.2 n hn (fun htype => ?_) d hd
  rw [htype] at hd
  contradiction

theorem ofDocument_builtin (asked : Option String) (ms : Members) :
    ∃ r, ofDocument (some Catalog.builtin) asked (.obj ms) = .ok r := by
  rw [ofDocument]
  split
  · rename_i hproblems
    split
    · rename_i g _
      obtain ⟨r, hr, -⟩ := ofGraph_builtin asked g
      exact ⟨r, hr⟩
    · exact ⟨_, rfl⟩
    · rename_i hstopped
      have hexamined := Graph.examined_read hproblems
      rw [hstopped] at hexamined
      exact hexamined.elim
  · exact ⟨_, rfl⟩

end Report

end DurableFlow
