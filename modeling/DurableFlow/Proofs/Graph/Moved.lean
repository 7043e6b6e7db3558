import DurableFlow.Proofs.Graph.Structure
import DurableFlow.Proofs.Json.Spelling
import DurableFlow.Proofs.Record.Related
import DurableFlow.Proofs.Schema.Memberwise

/-!
The two places of a configuration. The entries of a configuration may stand in the data of a node, beside
the data, or partly here and partly there. Where they stand matters neither for the structure of a
document nor for the graph that is read from it: the nodes of that graph cannot be told apart, and they
are all that was changed.
-/

namespace DurableFlow

/-! ### Members in another order -/

namespace Members

/-- The members agree under every key that is not among these. -/
def AgreeExcept (keys : List String) (ms ms' : Members) : Prop :=
  ∀ key, key ∉ keys → get? key ms' = get? key ms

/-- The object under a key; a key that is missing stands for an empty one. -/
def objectAt? (key : String) (ms : Members) : Option Members :=
  match get? key ms with
  | none => some []
  | some v => v.members?

theorem alike_of_perm {ms ms' : Members} (h : ms'.Perm ms) (hms : (ms.map Prod.fst).Nodup) :
    ms.Alike ms' := by
  intro key
  induction h with
  | nil => rfl
  | cons m _ ih =>
      rw [List.map_cons, List.nodup_cons] at hms
      rw [get?, get?, ih hms.2]
  | swap m m' ms =>
      have hne : m'.1 ≠ m.1 := by
        simp only [List.map_cons, List.nodup_cons, List.mem_cons, not_or] at hms
        exact fun heq => hms.1.1 heq.symm
      simp only [get?]
      by_cases hm : m.1 = key
      · rw [if_pos hm, if_neg (hm ▸ hne), if_pos hm]
      · rw [if_neg hm, if_neg hm]
  | trans _ hlast ih ih' => rw [ih ((hlast.map Prod.fst).nodup_iff.mpr hms), ih' hms]

theorem objectAt?_of_get? {key : String} {ms part : Members} (h : get? key ms = some (.obj part)) :
    objectAt? key ms = some part := by
  rw [objectAt?, h]
  rfl

theorem objectAt?_cases {key : String} {ms part : Members} (h : objectAt? key ms = some part) :
    get? key ms = some (.obj part) ∨ (get? key ms = none ∧ part = []) := by
  rw [objectAt?] at h
  cases hget : get? key ms with
  | none =>
      rw [hget] at h
      exact .inr ⟨rfl, (Option.some.inj h).symm⟩
  | some v =>
      rw [hget] at h
      cases v <;> simp_all [Json.members?]

end Members

open Members

/-! ### Moving entries -/

namespace Node

/-- A node with its data and with the two parts of its configuration, of which any may be missing. -/
structure Parts (ms data outer inner : Members) : Prop where
  holds : objectAt? "data" ms = some data
  beside : objectAt? "config" ms = some outer
  inside : objectAt? "config" data = some inner

/-- A node before and after entries of its configuration were moved from one place to the other. No key
stands in both places, and nothing else is changed. -/
inductive Moved : Json → Json → Prop where
  | kept (v : Json) : Moved v v
  | moved {ms data outer inner ms' data' outer' inner' : Members}
      (parts : Parts ms data outer inner) (parts' : Parts ms' data' outer' inner')
      (others : ms.AgreeExcept ["config", "data"] ms') (inData : data.AgreeExcept ["config"] data')
      (distinct : ((outer ++ inner).map Prod.fst).Nodup)
      (entries : (outer' ++ inner').Perm (outer ++ inner)) : Moved (.obj ms) (.obj ms')

def lifted (chosen : String → Bool) (ms data outer inner : Members) : Members :=
  let config := outer ++ inner.filter (fun m => chosen m.1)
  let rest := inner.filter fun m => !chosen m.1
  set "config" (.obj config) (set "data" (.obj (set "config" (.obj rest) data)) ms)

theorem moved_lifted (chosen : String → Bool) {ms data outer inner : Members}
    (h : Parts ms data outer inner) (hdistinct : ((outer ++ inner).map Prod.fst).Nodup) :
    Moved (.obj ms) (.obj (lifted chosen ms data outer inner)) := by
  have hparts : Parts (lifted chosen ms data outer inner) _ _ _ :=
    ⟨objectAt?_of_get? (by rw [lifted, get?_set_of_ne (by decide), get?_set_self]),
      objectAt?_of_get? (get?_set_self _ _ _), objectAt?_of_get? (get?_set_self _ _ _)⟩
  refine .moved h hparts ?_ ?_ hdistinct ?_
  · intro key hkey
    simp only [List.mem_cons, List.not_mem_nil, or_false, not_or] at hkey
    rw [lifted, get?_set_of_ne hkey.1, get?_set_of_ne hkey.2]
  · exact fun key hkey => get?_set_of_ne (List.ne_of_not_mem_cons hkey) _ _
  · rw [List.append_assoc]
    exact (List.filter_append_perm (fun m => chosen m.1) inner).append_left outer

end Node

/-- A document before and after entries of configurations were moved. -/
structure Document.Moved (ms ms' : Members) : Prop where
  others : ms.AgreeExcept ["nodes"] ms'
  nodes : get? "nodes" ms' = get? "nodes" ms ∨ ∃ items items',
    get? "nodes" ms = some (.arr items) ∧ get? "nodes" ms' = some (.arr items') ∧
      List.Forall₂ Node.Moved items items'

/-! ### The structure of a document -/

namespace Schema

variable {follow : Follow}

theorem checkMember_objectAt? {s : Schema} {key : String} {ms part : Members}
    (h : objectAt? key ms = some part) (hempty : s.check follow (.obj []) = []) :
    checkMember follow s key ms = s.check follow (.obj part) := by
  rcases objectAt?_cases h with hget | ⟨hget, rfl⟩
  · rw [checkMember, hget]
    rfl
  · rw [checkMember, hget, hempty]
    rfl

theorem check_typed_object (rules : List Rule) (ms : Members) :
    (Document.typed ["object"] rules).check follow (.obj ms) = checkRules follow rules (.obj ms) := by
  rw [Document.typed, check, checkRules, checkRule, if_pos (by rfl), List.nil_append]

end Schema

namespace Document

open Schema

variable {follow : Follow}

theorem check_objectSchema (ms : Members) : objectSchema.check follow (.obj ms) = [] := by
  rw [objectSchema, check_typed_object, checkRules]

theorem check_dataSchema {data data' inner inner' : Members} (h : data.AgreeExcept ["config"] data')
    (hinner : objectAt? "config" data = some inner)
    (hinner' : objectAt? "config" data' = some inner') :
    dataSchema.check follow (.obj data') = dataSchema.check follow (.obj data) := by
  rw [dataSchema, check_typed_object, check_typed_object]
  simp only [checkRules, checkRule_properties, List.append_nil]
  refine checkProperties_congr (List.forall_mem_cons.mpr ⟨checkMember_congr (h _ (by decide)),
    List.forall_mem_cons.mpr ⟨checkMember_congr (h _ (by decide)), List.forall_mem_singleton.mpr ?_⟩⟩)
  have hempty : objectSchema.check follow (.obj []) = [] := check_objectSchema []
  rw [checkMember_objectAt? hinner hempty, checkMember_objectAt? hinner' hempty,
    check_objectSchema, check_objectSchema]

theorem check_nodeSchema {v v' : Json} (h : Node.Moved v v') :
    nodeSchema.check follow v' = nodeSchema.check follow v := by
  cases h with
  | kept => rfl
  | @moved ms data outer inner ms' data' outer' inner' parts parts' others inData _ _ =>
      rw [nodeSchema, check_typed_object, check_typed_object]
      simp only [checkRules, List.append_nil]
      have hrequired : checkRule follow (.required ["id"]) (.obj ms') = checkRule follow (.required ["id"]) (.obj ms) :=
        checkRequired_congr (List.forall_mem_singleton.mpr (has_congr (others _ (by decide))))
      have hconfig : checkMember follow objectSchema "config" ms' = checkMember follow objectSchema "config" ms := by
        have hempty : objectSchema.check follow (.obj []) = [] := check_objectSchema []
        rw [checkMember_objectAt? parts.beside hempty, checkMember_objectAt? parts'.beside hempty,
          check_objectSchema, check_objectSchema]
      have hdata : checkMember follow dataSchema "data" ms' = checkMember follow dataSchema "data" ms := by
        have hempty : dataSchema.check follow (.obj []) = [] := by
          rw [dataSchema, check_typed_object]
          rfl
        rw [checkMember_objectAt? parts.holds hempty, checkMember_objectAt? parts'.holds hempty]
        exact check_dataSchema inData parts.inside parts'.inside
      rw [hrequired, checkRule_properties, checkRule_properties]
      refine congrArg (· ++ _) (checkProperties_congr ?_)
      simp only [List.forall_mem_cons, hconfig, hdata, true_and]
      exact ⟨checkMember_congr (others _ (by decide)), checkMember_congr (others _ (by decide)),
        checkMember_congr (others _ (by decide)), List.forall_mem_nil _⟩

theorem check_nodes {items items' : List Json} (h : List.Forall₂ Node.Moved items items') :
    (typed ["array"] [.size .items .least 1, .each nodeSchema]).check follow (.arr items') =
      (typed ["array"] [.size .items .least 1, .each nodeSchema]).check follow (.arr items) := by
  have hcheck : items'.map (nodeSchema.check follow) = items.map (nodeSchema.check follow) :=
    map_eq_of_forall₂ h fun _ _ => check_nodeSchema
  have heach (items : List Json) : checkRule follow (.each nodeSchema) (.arr items) =
      (items.map (nodeSchema.check follow)).zipIdx.flatMap fun p => descend (.index p.2) nodeSchema p.1 := by
    rw [checkRule, List.zipIdx_map, List.flatMap_map]
    rfl
  -- Only an empty array is shown in a message, and then both are empty.
  have hmin : checkRule follow (.size .items .least 1) (.arr items') = checkRule follow (.size .items .least 1) (.arr items) := by
    cases h with
    | nil => rfl
    | cons _ _ => simp [checkRule, checkSize, sizeOf?]
  rw [typed, check, check]
  simp only [checkRules, hmin, heach, hcheck]
  rfl

/-- A document has the same problems wherever the entries of its configurations stand. -/
theorem problems_moved {ms ms' : Members} (h : Document.Moved ms ms') :
    problems (.obj ms') = problems (.obj ms) := by
  have hnodes : checkMember noReferences (typed ["array"] [.size .items .least 1, .each nodeSchema]) "nodes" ms' =
      checkMember noReferences (typed ["array"] [.size .items .least 1, .each nodeSchema]) "nodes" ms := by
    rcases h.nodes with hget | ⟨items, items', hget, hget', hitems⟩
    · exact checkMember_congr hget
    · rw [checkMember, checkMember, hget, hget']
      exact check_nodes hitems
  have hrequired : checkRule noReferences (.required ["nodes"]) (.obj ms') =
      checkRule noReferences (.required ["nodes"]) (.obj ms) := by
    refine checkRequired_congr (List.forall_mem_singleton.mpr ?_)
    rcases h.nodes with hget | ⟨items, items', hget, hget', -⟩
    · exact has_congr hget
    · rw [has, has, hget, hget']
      rfl
  have hcheck : schema.check noReferences (.obj ms') = schema.check noReferences (.obj ms) := by
    rw [schema, check_typed_object, check_typed_object]
    simp only [checkRules, List.append_nil, hrequired]
    rw [checkRule_properties, checkRule_properties]
    refine congrArg (· ++ _) (checkProperties_congr ?_)
    simp only [List.forall_mem_cons, hnodes, true_and]
    exact ⟨checkMember_congr (h.others _ (by decide)), checkMember_congr (h.others _ (by decide)),
      checkMember_congr (h.others _ (by decide)), List.forall_mem_nil _⟩
  rw [problems, violations, hcheck, problems, violations]

end Document

/-! ### The graph of a document -/

open Checked

theorem Members.fieldD_objectAt? {key : String} {ms part : Members}
    (h : objectAt? key ms = some part) : fieldD ms [key] dictionary [] = .ok part := by
  rcases objectAt?_cases h with hget | ⟨hget, rfl⟩
  · exact fieldD_eq_ok_iff.mpr (by rw [hget]; rfl)
  · exact fieldD_eq_ok_iff.mpr (by rw [hget])

theorem NodeData.read_related {data data' config config' : Members}
    (h : data.AgreeExcept ["config"] data') (hconfig : objectAt? "config" data = some config)
    (hconfig' : objectAt? "config" data' = some config') (halike : config.Alike config') :
    Related NodeData.Alike (read (.obj data)) (read (.obj data')) := by
  have hfield {names : List String} (hnames : "config" ∉ names) :
      Related Eq (fieldD data names (optional string) none)
        (fieldD data' names (optional string) none) :=
    .of_eq (fun _ => rfl) (fieldOr_congr fun name hname => h name fun hmem =>
      hnames (List.mem_singleton.mp hmem ▸ hname)).symm
  have hinner : Related Members.Alike (fieldD data ["config"] dictionary [])
      (fieldD data' ["config"] dictionary []) := by
    rw [fieldD_objectAt? hconfig, fieldD_objectAt? hconfig']
    exact .ok halike
  have hextras : Related (fun _ _ => True) (pure (extras data fields)) (pure (extras data' fields)) :=
    .ok trivial
  refine ((((hfield (by decide)).map ?_).seq (hfield (by decide))).seq hinner).seq hextras
  rintro label _ rfl stepName _ rfl config config' hconfig _ _ -
  exact ⟨rfl, rfl, hconfig⟩

namespace Node

/-- Folding puts both parts of the configuration into the data and changes nothing else. -/
theorem exists_fold {ms data outer inner : Members} (h : Parts ms data outer inner)
    (hdistinct : ((outer ++ inner).map Prod.fst).Nodup) : ∃ ms' data',
      fold ms = .members ms' [] ∧ ms.AgreeExcept ["config", "data"] ms' ∧
        data.AgreeExcept ["config"] data' ∧ objectAt? "data" ms' = some data' ∧
        objectAt? "config" data' = some (outer ++ inner) := by
  rcases objectAt?_cases h.beside with hconfig | ⟨hconfig, rfl⟩
  · have hdata : Folded.ofData ((get? "data" ms).getD .null) = .members data [] := by
      rcases objectAt?_cases h.holds with hget | ⟨hget, rfl⟩
      · rw [hget]
        cases data <;> rfl
      · rw [hget]
        rfl
    have hinner : Folded.objectOrEmpty? ((get? "config" data).getD .null) = some inner := by
      rcases objectAt?_cases h.inside with hget | ⟨hget, rfl⟩
      · rw [hget]
        exact Folded.objectOrEmpty?_obj inner
      · rw [hget]
        rfl
    refine ⟨folded outer inner data ms, set "config" (.obj (outer ++ inner)) data, ?_, ?_, ?_, ?_, ?_⟩
    · rw [fold, hconfig]
      simp only [hdata, hinner, Folded.objectOrEmpty?_obj]
      rfl
    · intro key hkey
      simp only [List.mem_cons, List.not_mem_nil, or_false, not_or] at hkey
      exact get?_folded outer inner data ms hkey.2 hkey.1
    · exact fun key hkey => get?_set_of_ne (List.ne_of_not_mem_cons hkey) _ _
    · refine objectAt?_of_get? ?_
      rw [folded, get?_set_self, Json.merge_of_nodup hdistinct]
    · exact objectAt?_of_get? (get?_set_self _ _ _)
  · exact ⟨ms, data, by rw [fold, hconfig], fun _ _ => rfl, fun _ _ => rfl, h.holds, h.inside⟩

theorem fieldD_data {ms data : Members} (h : objectAt? "data" ms = some data) :
    fieldD ms ["data"] NodeData.read {} = under "data" (NodeData.read (.obj data)) := by
  rcases objectAt?_cases h with hget | ⟨hget, rfl⟩
  · exact fieldD_of_get? hget _ _
  · exact fieldOr_of_absent (List.forall_mem_singleton.mpr hget) _

theorem readFields_related {ms ms' : Members} (h : ms.AgreeExcept ["config", "data"] ms')
    (hdata : Related NodeData.Alike (fieldD ms ["data"] NodeData.read {})
      (fieldD ms' ["data"] NodeData.read {})) :
    Related Node.Alike (readFields [] ms) (readFields [] ms') := by
  have hfield {α : Type} {name : String} (hname : name ∉ ["config", "data"]) (read : Json → Checked α)
      (absent : Checked α) : Related Eq (fieldOr ms [name] read absent) (fieldOr ms' [name] read absent) :=
    .of_eq (fun _ => rfl) (fieldOr_congr (List.forall_mem_singleton.mpr (h name hname))).symm
  refine (((((hfield (by decide) _ _).map ?_).seq (hfield (by decide) _ _)).seq
    (hfield (by decide) _ _)).seq hdata).seq (.of_eq (fun _ => rfl) rfl : Related Eq (pure ()) _)
  rintro id _ rfl type _ rfl position _ rfl data data' hdata _ _ -
  exact ⟨rfl, rfl, hdata⟩

/-- Wherever the entries of its configuration stand, a node is read as the same node, up to what cannot
be told of it. -/
theorem read_related {v v' : Json} (h : Moved v v') : Related Node.Alike (read v) (read v') := by
  cases h with
  | kept => exact .of_eq Node.Alike.refl rfl
  | moved parts parts' others inData distinct entries =>
      obtain ⟨folded, data, hfold, hfolded, hdata, hat, hconfig⟩ := exists_fold parts distinct
      obtain ⟨folded', data', hfold', hfolded', hdata', hat', hconfig'⟩ :=
        exists_fold parts' ((entries.map Prod.fst).nodup_iff.mpr distinct)
      rw [read, read, hfold, hfold']
      refine readFields_related (fun key hkey => ?_) ?_
      · rw [hfolded' key hkey, others key hkey, hfolded key hkey]
      · rw [fieldD_data hat, fieldD_data hat']
        refine (NodeData.read_related (fun key hkey => ?_) hconfig hconfig' ?_).under "data"
        · rw [hdata' key hkey, inData key hkey, hdata key hkey]
        · exact alike_of_perm entries distinct

end Node

/-- The graph of a document is the same wherever the entries of its configurations stand, up to what
cannot be told of it. -/
theorem Graph.read_related {ms ms' : Members} (h : Document.Moved ms ms') :
    Related Graph.Alike (read (.obj ms)) (read (.obj ms')) := by
  have hfield {α : Type} {name : String} (hname : name ∉ ["nodes"]) (read : Json → Checked α)
      (default : α) : Related Eq (fieldD ms [name] read default) (fieldD ms' [name] read default) :=
    .of_eq (fun _ => rfl) (fieldOr_congr (List.forall_mem_singleton.mpr (h.others name hname))).symm
  have hnodes : Related (List.Forall₂ Node.Alike) (fieldD ms ["nodes"] (list Node.read) [])
      (fieldD ms' ["nodes"] (list Node.read) []) := by
    rcases h.nodes with hget | ⟨items, items', hget, hget', hitems⟩
    · exact .of_eq (fun ns => List.forall₂_same.mpr fun n _ => .refl n)
        (fieldOr_congr (List.forall_mem_singleton.mpr hget)).symm
    · rw [fieldD_of_get? hget, fieldD_of_get? hget']
      exact (Related.list (hitems.imp fun _ _ => Node.read_related)).under "nodes"
  have hextras : Related (fun _ _ => True) (pure (extras ms fields)) (pure (extras ms' fields)) :=
    .ok trivial
  refine (((((hfield (by decide) _ _).map ?_).seq (hfield (by decide) _ _)).seq hnodes).seq
    (hfield (by decide) _ _)).seq hextras
  rintro id _ rfl name _ rfl nodes nodes' hnodes edges _ rfl _ _ -
  exact ⟨rfl, rfl, hnodes, rfl⟩

end DurableFlow
