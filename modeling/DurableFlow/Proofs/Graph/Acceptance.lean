import DurableFlow.Proofs.Compile.Success
import DurableFlow.Proofs.Graph.Validity
import Mathlib.Data.List.Count
import Mathlib.Data.List.Nodup

/-!
Which graphs are accepted. A report has no errors exactly when the graph has everything that is asked
of it: ids without repetitions, types that are not blank, edges from node to node under ids of their
own, configurations that pass the schemas of their types, and an entry. Nothing is reported twice: a
repeated id of nodes has one error, and each edge behind the first of its id has one.
-/

namespace DurableFlow

/-- There is a node to start from: the one that is asked for, or else one of an entry type. To ask for
the empty id is to ask for none. -/
inductive Graph.HasEntry (g : Graph) (asked : Option String) : Prop where
  | asked {id : String} (hasked : asked = some id) (hid : id ≠ "") (h : id ∈ g.ids)
  | found {n : Node} (hnone : asked = none ∨ asked = some "") (hn : n ∈ g.nodes)
      (h : n.type ∈ entryTypes)

/-- All that is asked of a graph before code is made for it. -/
structure Graph.Acceptable (g : Graph) (validator : Schema.Validator) (c : Catalog)
    (asked : Option String) : Prop where
  ids : g.ids.Nodup
  types : ∀ n ∈ g.nodes, ∃ ch ∈ n.type.toList, Text.isBlank ch = false
  edgeIds : (g.edges.map Report.edgeId).Nodup
  ends : ∀ e ∈ g.edges, e.source ∈ g.ids ∧ e.target ∈ g.ids
  configured : ∀ n ∈ g.nodes, ∀ d, c.get? n.type = some d → n.ConfiguredBy validator d
  entry : g.HasEntry asked

namespace Report

theorem between_injective (front back : String) :
    Function.Injective fun s => front ++ s ++ back := by
  intro s t h
  have hchars := congrArg String.toList h
  simp only [String.toList_append, List.append_assoc] at hchars
  rw [← String.toList_inj]
  exact List.append_cancel_right (List.append_cancel_left hchars)

/-- Each of the texts starts with one of some words. -/
def StartWith (fronts texts : List String) : Prop :=
  ∀ text ∈ texts, ∃ front ∈ fronts, front.toList <+: text.toList

theorem StartWith.nil (fronts : List String) : StartWith fronts [] :=
  fun _ htext => absurd htext List.not_mem_nil

theorem StartWith.single {fronts : List String} {front text : String} (hfront : front ∈ fronts)
    (h : front.toList <+: text.toList) : StartWith fronts [text] :=
  fun _ htext => ⟨front, hfront, List.mem_singleton.mp htext ▸ h⟩

theorem StartWith.append {fronts texts more : List String} (h : StartWith fronts texts)
    (hmore : StartWith fronts more) : StartWith fronts (texts ++ more) := by
  intro text htext
  rcases List.mem_append.mp htext with htext | htext
  · exact h text htext
  · exact hmore text htext

theorem StartWith.count_eq_zero {fronts texts : List String} (h : StartWith fronts texts)
    {words : String} (hapart : ∀ front ∈ fronts,
      ¬front.toList <+: words.toList ∧ ¬words.toList <+: front.toList) (id back : String) :
    texts.count (words ++ id ++ back) = 0 := by
  rw [List.count_eq_zero]
  intro hmem
  obtain ⟨front, hfront, hprefix⟩ := h _ hmem
  have hwords : words.toList <+: (words ++ id ++ back).toList := by
    rw [String.append_assoc, String.toList_append]
    exact List.prefix_append _ _
  obtain ⟨hnot, hnot'⟩ := hapart front hfront
  exact (List.prefix_or_prefix_of_prefix hprefix hwords).elim hnot hnot'

/-! ### Ids of nodes -/

/-- A text that was met before is found at its next place, and one that was found is not found again;
any other one is found at its second place. -/
theorem count_repeated (x : String) (seen reported xs : List String) :
    (repeated seen reported xs).count x =
      if x ∈ reported then 0
      else if 2 ≤ (if x ∈ seen then 1 else 0) + xs.count x then 1 else 0 := by
  induction xs generalizing seen reported with
  | nil =>
      have hseen : (if x ∈ seen then 1 else 0) < 2 := by split <;> omega
      simp [repeated, Nat.not_le.mpr hseen]
  | cons y xs ih =>
      rw [repeated]
      -- The text of this place is found here exactly when it was met and not yet found.
      by_cases hy : y ∈ seen ∧ y ∉ reported
      · rw [if_pos (by simpa using hy), List.count_cons, List.count_cons, ih]
        by_cases hxy : y = x
        · subst hxy
          have hagain : 2 ≤ 1 + (xs.count y + 1) := by omega
          simp [hy.1, hy.2, hagain]
        · simp [hxy, Ne.symm hxy]
      · rw [if_neg (by simpa using hy), List.count_cons, ih]
        by_cases hxy : y = x
        · subst hxy
          by_cases hreported : y ∈ reported
          · simp [hreported]
          · have hseen : y ∉ seen := fun h => hy ⟨h, hreported⟩
            simp [hreported, hseen, Nat.add_comm]
        · simp [hxy, Ne.symm hxy]

theorem count_idErrors (g : Graph) (id : String) :
    (idErrors g).count ("Duplicate node id '" ++ id ++ "'") =
      if 2 ≤ g.ids.count id then 1 else 0 := by
  have hcount := List.count_map_of_injective (repeated [] [] g.ids) _
    (between_injective "Duplicate node id '" "'") id
  rw [idErrors, hcount, count_repeated]
  simp

theorem idErrors_eq_nil_iff (g : Graph) : idErrors g = [] ↔ g.ids.Nodup := by
  refine ⟨nodup_of_idErrors, fun h => ?_⟩
  rw [idErrors, List.map_eq_nil_iff, List.eq_nil_iff_forall_not_mem]
  intro id
  have hcount := count_repeated id [] [] g.ids
  rw [← List.count_eq_zero, hcount]
  have honce := List.nodup_iff_count_le_one.mp h id
  simp [Nat.not_le.mpr (Nat.lt_succ_of_le honce)]

theorem startWith_idErrors (g : Graph) : StartWith ["Duplicate node id '"] (idErrors g) := by
  intro text htext
  obtain ⟨id, -, rfl⟩ := List.mem_map.mp htext
  exact ⟨_, List.mem_singleton_self _, by simp⟩

/-! ### Types -/

theorem isBlankText_eq_false_iff (s : String) :
    isBlankText s = false ↔ ∃ ch ∈ s.toList, Text.isBlank ch = false := by
  rw [isBlankText, List.all_eq_false]
  simp only [Bool.not_eq_true]

theorem typeErrors_eq_nil_iff (g : Graph) :
    typeErrors g = [] ↔ ∀ n ∈ g.nodes, ∃ ch ∈ n.type.toList, Text.isBlank ch = false := by
  rw [typeErrors, List.map_eq_nil_iff, List.filter_eq_nil_iff]
  simp only [Bool.not_eq_true, isBlankText_eq_false_iff]

theorem startWith_typeErrors (g : Graph) : StartWith ["Node '"] (typeErrors g) := by
  intro text htext
  obtain ⟨n, -, rfl⟩ := List.mem_map.mp htext
  exact ⟨_, List.mem_singleton_self _, by simp⟩

/-! ### Edges -/

theorem edgeErrors_eq_nil_iff (g : Graph) (seen : List String) (e : Edge) :
    edgeErrors g seen e = [] ↔ edgeId e ∉ seen ∧ e.source ∈ g.ids ∧ e.target ∈ g.ids := by
  rw [edgeErrors]
  simp only [List.append_eq_nil_iff]
  by_cases hid : edgeId e ∈ seen <;> by_cases hsource : e.source ∈ g.ids <;>
    by_cases htarget : e.target ∈ g.ids <;> simp [hid, hsource, htarget]

theorem edgeErrorsFrom_eq_nil_iff (g : Graph) (seen : List String) (es : List Edge) :
    edgeErrorsFrom g seen es = [] ↔ (es.map edgeId).Nodup ∧ (∀ e ∈ es, edgeId e ∉ seen) ∧
      ∀ e ∈ es, e.source ∈ g.ids ∧ e.target ∈ g.ids := by
  induction es generalizing seen with
  | nil => simp [edgeErrorsFrom]
  | cons e es ih =>
      rw [edgeErrorsFrom, List.append_eq_nil_iff, edgeErrors_eq_nil_iff, ih, List.map_cons,
        List.nodup_cons]
      simp only [List.forall_mem_cons, List.mem_map, not_exists, not_and]
      constructor
      · rintro ⟨⟨hid, hends⟩, hnodup, hseen, hrest⟩
        refine ⟨⟨fun e' he' heq => hseen e' he' ?_, hnodup⟩, ⟨hid, fun e' he' h => hseen e' he' ?_⟩,
          hends, hrest⟩
        · exact heq ▸ List.mem_cons_self
        · exact List.mem_cons_of_mem _ h
      · rintro ⟨⟨hne, hnodup⟩, ⟨hid, hseen⟩, hends, hrest⟩
        refine ⟨⟨hid, hends⟩, hnodup, fun e' he' h => ?_, hrest⟩
        rcases List.mem_cons.mp h with heq | h
        · exact hne e' he' heq
        · exact hseen e' he' h

/-- An edge is told once that its id was met before, whatever else is wrong with it. -/
theorem count_edgeErrors (g : Graph) (seen : List String) (e : Edge) (id : String) :
    (edgeErrors g seen e).count ("Duplicate edge id '" ++ id ++ "'") =
      if edgeId e = id ∧ id ∈ seen then 1 else 0 := by
  have hsource : ∀ other source, "Edge '" ++ other ++ "' references non-existent source node '" ++
      source ++ "'" ≠ "Duplicate edge id '" ++ id ++ "'" := by simp [String.ext_iff]
  have htarget : ∀ other target, "Edge '" ++ other ++ "' references non-existent target node '" ++
      target ++ "'" ≠ "Duplicate edge id '" ++ id ++ "'" := by simp [String.ext_iff]
  have hends : ∀ {p : Prop} [Decidable p] {text : String}, text ≠ "Duplicate edge id '" ++ id ++ "'" →
      (if p then [] else [text]).count ("Duplicate edge id '" ++ id ++ "'") = 0 := by
    intro p _ text htext
    split <;> simp [htext]
  rw [edgeErrors, List.count_append, List.count_append, hends (hsource _ _), hends (htarget _ _)]
  by_cases hid : edgeId e = id
  · by_cases hseen : id ∈ seen <;> simp [hid, hseen]
  · have hother : "Duplicate edge id '" ++ edgeId e ++ "'" ≠ "Duplicate edge id '" ++ id ++ "'" :=
      fun h => hid (between_injective _ _ h)
    by_cases hseen : edgeId e ∈ seen <;> simp [hid, hseen, hother]

theorem count_edgeErrorsFrom (g : Graph) (seen : List String) (es : List Edge) (id : String) :
    (edgeErrorsFrom g seen es).count ("Duplicate edge id '" ++ id ++ "'") =
      (es.map edgeId).count id - (if id ∈ seen then 0 else 1) := by
  induction es generalizing seen with
  | nil => simp [edgeErrorsFrom]
  | cons e es ih =>
      rw [edgeErrorsFrom, List.count_append, count_edgeErrors, ih, List.map_cons, List.count_cons]
      by_cases hid : edgeId e = id
      · by_cases hseen : id ∈ seen <;> simp [hid, hseen, Nat.add_comm]
      · by_cases hseen : id ∈ seen <;> simp [hid, hseen, Ne.symm hid]

theorem startWith_edgeErrors (g : Graph) (seen : List String) (e : Edge) :
    StartWith ["Duplicate edge id '", "Edge '"] (edgeErrors g seen e) := by
  refine (StartWith.append ?_ ?_).append ?_
  · refine iteInduction (fun _ => .single List.mem_cons_self ?_) fun _ => .nil _
    simp
  · refine iteInduction (fun _ => .nil _) fun _ => .single (List.mem_cons_of_mem _ List.mem_cons_self) ?_
    simp
  · refine iteInduction (fun _ => .nil _) fun _ => .single (List.mem_cons_of_mem _ List.mem_cons_self) ?_
    simp

theorem startWith_edgeErrorsFrom (g : Graph) (seen : List String) (es : List Edge) :
    StartWith ["Duplicate edge id '", "Edge '"] (edgeErrorsFrom g seen es) := by
  induction es generalizing seen with
  | nil => exact .nil _
  | cons e es ih => exact (startWith_edgeErrors g seen e).append (ih _)

/-! ### Configurations -/

/-- What a catalog has to say against a node is about its configuration. -/
theorem startWith_nodeFindings {validator : Schema.Validator} {c : Catalog} {n : Node}
    {found : List String × List String} (h : nodeFindings validator c n = .ok found) :
    StartWith ["Node '"] found.1 := by
  rw [nodeFindings] at h
  split at h
  · obtain rfl := Except.ok.inj h
    exact .nil _
  · split at h
    · obtain rfl := Except.ok.inj h
      exact .nil _
    · obtain ⟨problems, -, h⟩ := bind_eq_ok h
      obtain rfl := Except.ok.inj h
      intro text htext
      obtain ⟨p, -, rfl⟩ := List.mem_map.mp htext
      exact ⟨_, List.mem_singleton_self _, by simp⟩

theorem startWith_catalogFindings {validator : Schema.Validator} {c : Catalog} {ns : List Node}
    {found : List String × List String} (h : catalogFindings validator c ns = .ok found) :
    StartWith ["Node '"] found.1 := by
  induction ns generalizing found with
  | nil =>
      obtain rfl := Except.ok.inj h
      exact .nil _
  | cons n ns ih =>
      rw [catalogFindings] at h
      obtain ⟨here, hhere, h⟩ := bind_eq_ok h
      obtain ⟨rest, hrest, h⟩ := bind_eq_ok h
      obtain rfl := Except.ok.inj h
      exact (startWith_nodeFindings hhere).append (ih hrest)

/-! ### The entry -/

theorem node?_isSome_iff (g : Graph) (id : String) : (g.node? id).isSome = true ↔ id ∈ g.ids := by
  rw [Graph.node?, List.find?_isSome, Graph.ids, List.mem_map]
  simp only [beq_iff_eq]

theorem entries_eq_nil_iff (g : Graph) :
    (g.nodes.filter Node.isEntry).map (·.id) = [] ↔ ¬∃ n ∈ g.nodes, n.type ∈ entryTypes := by
  rw [List.map_eq_nil_iff, List.filter_eq_nil_iff]
  simp [Node.isEntry]

theorem findEntry_of_none {g : Graph} {asked : Option String} (h : asked.getD "" = "") :
    (findEntry g asked).errors = [] ↔ ∃ n ∈ g.nodes, n.type ∈ entryTypes := by
  rw [findEntry, h]
  cases hentries : (g.nodes.filter Node.isEntry).map (·.id) with
  | nil => simpa using (entries_eq_nil_iff g).mp hentries
  | cons id ids =>
      simp only [true_iff]
      by_contra hnone
      rw [(entries_eq_nil_iff g).mpr hnone] at hentries
      contradiction

theorem findEntry_of_asked {g : Graph} {id : String} (h : id ≠ "") :
    (findEntry g (some id)).errors = [] ↔ id ∈ g.ids := by
  rw [← node?_isSome_iff, findEntry]
  split
  · rename_i hempty
    exact absurd hempty h
  · split
    · simp_all
    · simp_all

theorem findEntry_errors_eq_nil_iff (g : Graph) (asked : Option String) :
    (findEntry g asked).errors = [] ↔ g.HasEntry asked := by
  by_cases hnone : asked = none ∨ asked = some ""
  · have hempty : asked.getD "" = "" := by rcases hnone with rfl | rfl <;> rfl
    rw [findEntry_of_none hempty]
    constructor
    · rintro ⟨n, hn, htype⟩
      exact .found hnone hn htype
    · intro h
      cases h with
      | asked hasked hid _ => simp [hasked, hid] at hnone
      | found _ hn htype => exact ⟨_, hn, htype⟩
  · obtain ⟨id, rfl⟩ := Option.ne_none_iff_exists'.mp fun h => hnone (.inl h)
    have hid : id ≠ "" := fun h => hnone (.inr (congrArg some h))
    rw [findEntry_of_asked hid]
    constructor
    · exact .asked rfl hid
    · intro h
      cases h with
      | asked hasked _ h => exact Option.some.inj hasked ▸ h
      | found hnone' => exact absurd hnone' hnone

theorem startWith_findEntry (g : Graph) (asked : Option String) :
    StartWith ["Workflow must", "Entry node '"] (findEntry g asked).errors := by
  rw [findEntry]
  split
  · split
    · exact .single List.mem_cons_self (by decide)
    · exact .nil _
  · split
    · exact .nil _
    · refine .single (List.mem_cons_of_mem _ List.mem_cons_self) ?_
      simp

end Report

open Report in
/-- Whatever checks configurations against schemas, every graph gets a report from a catalog under whose
schemas they can be checked. The report has no errors exactly when the graph is acceptable; it names each
id of several nodes once, and an id of several edges once for each of them behind the first. -/
theorem report_accepts_iff {validator : Schema.Validator} {c : Catalog}
    (hc : c.SchemasReadBy validator) (asked : Option String) (g : Graph) :
    ∃ r, Report.ofGraphBy validator (some c) asked g = .ok r ∧
      (r.errors = [] ↔ g.Acceptable validator c asked) ∧
      (∀ id, r.errors.count ("Duplicate node id '" ++ id ++ "'") =
        if 2 ≤ g.ids.count id then 1 else 0) ∧
      ∀ id, r.errors.count ("Duplicate edge id '" ++ id ++ "'") =
        (g.edges.map edgeId).count id - 1 := by
  obtain ⟨found, hfound, hconfigured⟩ := catalogFindings_of_read hc g.nodes
  have hstart := startWith_catalogFindings hfound
  rw [ofGraphBy, hfound]
  refine ⟨_, rfl, ?_, fun id => ?_, fun id => ?_⟩
  · simp only [List.append_eq_nil_iff, idErrors_eq_nil_iff, typeErrors_eq_nil_iff,
      edgeErrorsFrom_eq_nil_iff, hconfigured, findEntry_errors_eq_nil_iff]
    constructor
    · rintro ⟨⟨⟨⟨hids, htypes⟩, hedges, -, hends⟩, hconfigs⟩, hentry⟩
      refine ⟨hids, htypes, hedges, hends, fun n hn => hconfigs n hn fun hempty => ?_, hentry⟩
      obtain ⟨ch, hch, -⟩ := htypes n hn
      simp [hempty] at hch
    · rintro ⟨hids, htypes, hedges, hends, hconfigs, hentry⟩
      exact ⟨⟨⟨⟨hids, htypes⟩, hedges, by simp, hends⟩, fun n hn _ => hconfigs n hn⟩, hentry⟩
  · simp only [List.count_append]
    rw [count_idErrors, (startWith_typeErrors g).count_eq_zero (by decide),
      (startWith_edgeErrorsFrom g [] g.edges).count_eq_zero (by decide),
      hstart.count_eq_zero (by decide), (startWith_findEntry g asked).count_eq_zero (by decide)]
    simp
  · simp only [List.count_append]
    rw [count_edgeErrorsFrom, (startWith_idErrors g).count_eq_zero (by decide),
      (startWith_typeErrors g).count_eq_zero (by decide), hstart.count_eq_zero (by decide),
      (startWith_findEntry g asked).count_eq_zero (by decide)]
    simp

/-- One id for three nodes and one for three edges, of which the last leads nowhere. -/
def sharedIds : Graph :=
  { nodes :=
      [{ id := "a", type := "entry" }, { id := "a", type := "return" }, { id := "a", type := "return" }],
    edges :=
      [{ id := some "e", source := "a", target := "a" },
       { id := some "e", source := "a", target := "a" },
       { id := some "e", source := "a", target := "b" }] }

/-- A catalog of one type, whose nodes take no settings. -/
def strictCatalog : Catalog where
  definitions :=
    [{ type := "strict", name := "Strict", configSchema := [("additionalProperties", .bool false)] }]

/-- A node of that type, with a setting. -/
def strictlySet : Graph :=
  { nodes := [{ id := "a", type := "entry" },
      { id := "b", type := "strict", data := { config := [("x", .int 1)] } }] }

theorem strictCatalog_schemasRead : strictCatalog.SchemasRead := by
  intro d hd config
  obtain rfl := List.mem_singleton.mp hd
  exact ⟨_, Schema.validate_eq_ok rfl rfl (.obj config)⟩

/-- The three nodes have one error and the three edges have two, each with the same words. A setting that
the schema of a type does not allow is an error, too. -/
theorem report_accepts_iff_sharedIds :
    (∃ r, Report.ofGraph (some Catalog.builtin) none sharedIds = .ok r ∧ r.errors ≠ [] ∧
      r.errors.count "Duplicate node id 'a'" = 1 ∧ r.errors.count "Duplicate edge id 'e'" = 2) ∧
    ∃ r, Report.ofGraph (some strictCatalog) none strictlySet = .ok r ∧ r.errors ≠ [] := by
  obtain ⟨r, hr, haccepts, hids, hedges⟩ :=
    report_accepts_iff Builtin.schemasRead none sharedIds
  obtain ⟨r', hr', haccepts', -⟩ := report_accepts_iff strictCatalog_schemasRead none strictlySet
  refine ⟨⟨r, hr, fun hnone => ?_, hids "a", hedges "e"⟩, r', hr', fun hnone => ?_⟩
  · have hnodup := (haccepts.mp hnone).ids
    exact absurd hnodup (by decide)
  · obtain ⟨n, hn, d, hd, hne, hfound⟩ : ∃ n ∈ strictlySet.nodes, ∃ d,
        strictCatalog.get? n.type = some d ∧ d.configSchema ≠ [] ∧
          (Schema.validate (.obj d.configSchema) (.obj n.config)).toOption.map (·.length) = some 1 :=
      ⟨_, List.mem_of_getElem? (i := 1) rfl, _, rfl, by decide, by decide⟩
    rw [(haccepts'.mp hnone).configured n hn d hd hne] at hfound
    simp [Except.toOption] at hfound

def startThenReturn : Graph :=
  { nodes := [{ id := "a", type := "entry" }, { id := "b", type := "return" }],
    edges := [{ id := some "e", source := "a", target := "b" }] }

/-- To ask for the empty id is no error, though it is to ask for an id, and for one that no node has. -/
theorem accepted_askedForEmptyId :
    ∃ r, Report.ofGraph (some Catalog.builtin) (some "") startThenReturn = .ok r ∧ r.errors = [] ∧
      ¬((∃ id, some "" = some id ∧ id ≠ "" ∧ id ∈ startThenReturn.ids) ∨
        (some "" = none ∧ ∃ n ∈ startThenReturn.nodes, n.type ∈ entryTypes)) := by
  have hvalid : (Report.ofGraph (some Catalog.builtin) (some "") startThenReturn).toOption.map
      (·.errors) = some [] := by with_unfolding_all decide
  obtain ⟨r, hr, hnone⟩ := map_toOption_eq_some hvalid
  refine ⟨r, hr, hnone, ?_⟩
  rintro (⟨id, hid, hne, -⟩ | ⟨habsent, -⟩)
  · exact hne (Option.some.inj hid).symm
  · contradiction

end DurableFlow
