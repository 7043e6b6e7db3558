import DurableFlow.Proofs.Step.Naming

/-!
Step names that are given back to their nodes. A node that asks for the name it already has is given it
again, in whatever order the nodes are named, as long as the name is still the same identifier when it
is read as free text. This fails for one kind of names: those with a capital and no small letter are
read as acronyms and lose their capitals. A graph names its nodes as before exactly when it has none of
them.
-/

namespace DurableFlow.Step

/-! ### Reading an identifier as free text -/

/-- The text has a capital and no small letter. -/
def IsCapitals (s : String) : Prop := isAcronym s.toList = true

instance (s : String) : Decidable (IsCapitals s) := inferInstanceAs (Decidable (_ = true))

def LacksCapitals (s : String) : Prop := ∀ c ∈ s.toList, ¬Text.isAsciiUpper c = true

theorem IsCapitals.not_lacksCapitals {s : String} (h : IsCapitals s) : ¬LacksCapitals s := by
  rw [IsCapitals, isAcronym, Bool.and_eq_true, List.any_eq_true] at h
  obtain ⟨⟨c, hc, hupper⟩, -⟩ := h
  exact fun hlacks => hlacks c hc hupper

theorem LacksCapitals.numbered {s : String} (h : LacksCapitals s) (k : Nat) :
    LacksCapitals (numbered s k) := by
  intro c hc
  rw [Step.numbered, String.toList_append, List.mem_append] at hc
  rcases hc with hc | hc
  · exact h c hc
  · have hdigit := (Text.isAsciiDigit_iff c).mp (isAsciiDigit_of_mem_toString hc)
    rw [Text.isAsciiUpper_iff]
    omega

def StartsSmall (s : String) : Prop := ∃ c ∈ s.toList.head?, ¬Text.isAsciiUpper c = true

theorem runs_of_forall {p : Char → Bool} {cs : List Char} (hne : cs ≠ [])
    (h : ∀ c ∈ cs, p c = true) : Text.runs p cs = [cs] := by
  induction cs with
  | nil => exact absurd rfl hne
  | cons c cs ih =>
      cases cs with
      | nil => simp [Text.runs, h c List.mem_cons_self]
      | cons d cs =>
          have hrest := ih (List.cons_ne_nil d cs) fun x hx => h x (List.mem_cons_of_mem c hx)
          have hd : p d = true := h d (List.mem_cons_of_mem c List.mem_cons_self)
          rw [Text.runs, if_pos (h c List.mem_cons_self), hrest]
          simp only [hd, if_true]

theorem IsIdentifier.exists_cons {cs : List Char} (h : IsIdentifier cs) :
    ∃ c rest, cs = c :: rest ∧ ¬Text.isAsciiDigit c = true := by
  obtain ⟨-, c, hc, hdigit⟩ := h
  obtain ⟨rest, rfl⟩ := List.head?_eq_some_iff.mp hc
  exact ⟨c, rest, rfl, hdigit⟩

theorem identifier_of_isIdentifier {s : String} (h : IsIdentifier s.toList) :
    identifier s = avoidReserved (String.ofList (startWithLetter (camelWord true s.toList))) := by
  obtain ⟨c, rest, hcs, -⟩ := h.exists_cons
  have hne : s.toList ≠ [] := by simp [hcs]
  rw [identifier, runs_of_forall hne h.1]
  simp [camelWords]

theorem toLower_of_not_upper {c : Char} (h : ¬Text.isAsciiUpper c = true) : toLower c = c := if_neg h

theorem not_isAsciiUpper_toLower (c : Char) : ¬Text.isAsciiUpper (toLower c) = true := by
  rw [toLower]
  split
  · rename_i hupper
    rw [Text.isAsciiUpper_iff] at hupper
    rw [Text.isAsciiUpper_iff, Text.toNat_ofNat (by omega)]
    omega
  · assumption

theorem startWithLetter_of_not_digit {c : Char} (rest : List Char)
    (h : ¬Text.isAsciiDigit c = true) : startWithLetter (c :: rest) = c :: rest := if_neg h

theorem identifier_of_not_isCapitals {s : String} (h : IsIdentifier s.toList) (hsmall : StartsSmall s)
    (hfree : s ∉ reservedWords) (hcapitals : ¬IsCapitals s) : identifier s = s := by
  obtain ⟨c, rest, hcs, hdigit⟩ := h.exists_cons
  obtain ⟨c', hhead, hupper⟩ := hsmall
  rw [hcs, List.head?_cons, Option.mem_some_iff] at hhead
  subst hhead
  have hword : camelWord true s.toList = s.toList := by
    have hacronym : ¬isAcronym s.toList = true := hcapitals
    rw [camelWord, if_neg hacronym, hcs]
    exact congrArg (· :: rest) (toLower_of_not_upper hupper)
  rw [identifier_of_isIdentifier h, hword, hcs, startWithLetter_of_not_digit rest hdigit, ← hcs,
    String.ofList_toList, avoidReserved, if_neg hfree]

theorem reservedWords_head : ∀ word ∈ reservedWords, word.toList.head? ≠ some '_' := by
  decide

/-- An identifier in capitals that does not start with one starts with an underscore. -/
theorem IsCapitals.head_eq {s : String} (hcapitals : IsCapitals s) (h : IsIdentifier s.toList)
    (hsmall : StartsSmall s) : s.toList.head? = some '_' := by
  obtain ⟨c, rest, hcs, hdigit⟩ := h.exists_cons
  obtain ⟨c', hhead, hupper⟩ := hsmall
  rw [hcs, List.head?_cons, Option.mem_some_iff] at hhead
  subst hhead
  have hmem : c ∈ s.toList := by simp [hcs]
  have hlower : ¬Text.isAsciiLower c = true := by
    intro hlower
    rw [IsCapitals, isAcronym, Bool.and_eq_true, Bool.not_eq_true', List.any_eq_false] at hcapitals
    exact hcapitals.2 c hmem hlower
  have hword := (Text.isAsciiWord_iff c).mp (h.1 c hmem)
  rw [Text.isAsciiDigit_iff] at hdigit
  rw [Text.isAsciiUpper_iff] at hupper
  rw [Text.isAsciiLower_iff] at hlower
  have hcode : c.toNat = 95 := by omega
  rw [hcs, List.head?_cons, Option.some_inj]
  exact (Char.toNat_inj (d := '_')).mp hcode

theorem identifier_of_isCapitals {s : String} (h : IsIdentifier s.toList) (hsmall : StartsSmall s)
    (hcapitals : IsCapitals s) : LacksCapitals (identifier s) := by
  have hhead := hcapitals.head_eq h hsmall
  obtain ⟨rest, hcs⟩ := List.head?_eq_some_iff.mp hhead
  have hword : camelWord true s.toList = '_' :: rest.map toLower := by
    have hacronym : isAcronym s.toList = true := hcapitals
    rw [camelWord, if_pos hacronym, hcs]
    rfl
  have hkept : startWithLetter ('_' :: rest.map toLower) = '_' :: rest.map toLower :=
    startWithLetter_of_not_digit _ (by decide)
  have hfree : String.ofList ('_' :: rest.map toLower) ∉ reservedWords := by
    intro hmem
    refine reservedWords_head _ hmem ?_
    rw [String.toList_ofList, List.head?_cons]
  rw [identifier_of_isIdentifier h, hword, hkept, avoidReserved, if_neg hfree, LacksCapitals,
    String.toList_ofList]
  intro c hc
  rcases List.mem_cons.mp hc with rfl | hc
  · decide
  · obtain ⟨d, -, rfl⟩ := List.mem_map.mp hc
    exact not_isAsciiUpper_toLower d

/-! ### What all names of a graph have in common -/

/-- A property that bases have, and that names do not lose with a number behind them, is one of all
names that are given. -/
theorem forall_mem_namesFrom {P : String → String → Prop} {ns : List Node}
    (hbase : ∀ n ∈ ns, P n.id (base n))
    (hnumbered : ∀ id name k, P id name → P id (numbered name k))
    {named : List (String × String)} (hnamed : ∀ p ∈ named, P p.1 p.2) :
    ∀ p ∈ namesFrom named ns, P p.1 p.2 := by
  induction ns generalizing named with
  | nil => exact hnamed
  | cons n ns ih =>
      have hrest : ∀ m ∈ ns, P m.id (base m) := fun m hm => hbase m (List.mem_cons_of_mem n hm)
      rw [namesFrom]
      split
      · exact ih hrest hnamed
      · have hhere := hbase n List.mem_cons_self
        have hgiven : P n.id (fresh (named.map (·.2)) (base n)) := by
          rcases firstFree_fresh (named.map (·.2)) (base n) with ⟨-, heq⟩ | ⟨-, k, -, heq, -⟩
          · rw [heq]
            exact hhere
          · rw [heq]
            exact hnumbered n.id (base n) k hhere
        exact ih hrest (List.forall_mem_append.mpr
          ⟨hnamed, List.forall_mem_singleton.mpr hgiven⟩)

theorem StartsSmall.append {s : String} (h : StartsSmall s) (t : String) : StartsSmall (s ++ t) := by
  obtain ⟨c, hc, hupper⟩ := h
  refine ⟨c, ?_, hupper⟩
  rw [String.toList_append, List.head?_append, hc]
  rfl

theorem startsSmall_camelWords {words : List (List Char)} (hne : words ≠ [])
    (h : ∀ w ∈ words, w ≠ []) :
    ∃ c rest, camelWords words = c :: rest ∧ ¬Text.isAsciiUpper c = true := by
  obtain ⟨word, more, rfl⟩ := List.exists_cons_of_ne_nil hne
  have hlowered : ∀ cs : List Char, cs ≠ [] → ∃ c rest, mapHead toLower cs = c :: rest ∧
      ¬Text.isAsciiUpper c = true := by
    intro cs hcs
    obtain ⟨c, rest, rfl⟩ := List.exists_cons_of_ne_nil hcs
    exact ⟨_, rest, rfl, not_isAsciiUpper_toLower c⟩
  have hword : word ≠ [] := h word List.mem_cons_self
  have hplain : (if isAcronym word then word.map toLower else word) ≠ [] := by
    split
    · exact fun hnil => hword (List.map_eq_nil_iff.mp hnil)
    · exact hword
  obtain ⟨c, rest, hcamel, hupper⟩ := hlowered _ hplain
  refine ⟨c, rest ++ more.flatMap (camelWord false), ?_, hupper⟩
  rw [camelWords, ← List.cons_append]
  exact congrArg (· ++ _) hcamel

theorem startsSmall_identifier (s : String) : StartsSmall (identifier s) := by
  rw [identifier]
  split
  · exact ⟨'s', by decide, by decide⟩
  · rename_i words hwords
    obtain ⟨c, rest, hcamel, hupper⟩ := startsSmall_camelWords (fun hnil => hwords hnil)
      fun w hw => (Text.of_mem_runs hw).2.1
    have hletters : StartsSmall (String.ofList (startWithLetter (camelWords
        (Text.runs Text.isAsciiWord s.toList)))) := by
      rw [hcamel, startWithLetter]
      split
      · exact ⟨'s', by simp, by decide⟩
      · exact ⟨c, by simp, hupper⟩
    rw [avoidReserved]
    split
    · exact hletters.append "Step"
    · exact hletters

theorem startsSmall_of_mem_names {g : Graph} {p : String × String} (h : p ∈ names g) :
    StartsSmall p.2 :=
  forall_mem_namesFrom (P := fun _ name => StartsSmall name)
    (fun _ _ => startsSmall_identifier _) (fun _ _ _ hname => hname.append _) (by simp) p h

/-! ### Giving names back -/

theorem Naming.lookup_iff {ids : List String} {named : List (String × String)} (h : Naming ids named)
    {id name : String} : named.lookup id = some name ↔ (id, name) ∈ named := by
  have hkeys : (named.map (·.1)).Nodup := by
    rw [h.keys]
    exact Graph.nodup_distinct ids
  clear h
  induction named with
  | nil => simp
  | cons p named ih =>
      obtain ⟨id', name'⟩ := p
      rw [List.map_cons, List.nodup_cons] at hkeys
      rw [List.lookup_cons, List.mem_cons]
      by_cases hid : id = id'
      · subst hid
        have hother : (id, name) ∉ named := fun hmem =>
          hkeys.1 (List.mem_map.mpr ⟨_, hmem, rfl⟩)
        simp [hother, eq_comm]
      · rw [beq_eq_false_iff_ne.mpr hid]
        simp [hid, ih hkeys.2]

/-- The nodes of a graph, each of which asks for the step name that it has there. -/
def fedBack (g : Graph) : List Node :=
  g.nodes.map fun n => { n with data := { n.data with stepName := (names g).lookup n.id } }

/-- What a node asks for is its own name, read as free text. -/
theorem base_of_mem_fedBack {g : Graph} {n : Node} (h : n ∈ fedBack g) :
    ∃ name, (n.id, name) ∈ names g ∧ base n = identifier name := by
  obtain ⟨m, hm, rfl⟩ := List.mem_map.mp h
  obtain ⟨name, hlookup, hname⟩ := lookup_names hm
  refine ⟨name, (naming_names g).lookup_iff.mp hlookup, ?_⟩
  obtain ⟨c, rest, hcs, -⟩ := hname.exists_cons
  have hne : name ≠ "" := by
    rintro rfl
    contradiction
  rw [base, hlookup]
  exact congrArg identifier (if_neg hne)

theorem ids_fedBack (g : Graph) : (fedBack g).map (·.id) = g.ids := by
  rw [fedBack, List.map_map]
  rfl

/-- Nodes that ask for different names are given them, whatever the order. -/
theorem namesFrom_subset {assigned named : List (String × String)}
    (hnodup : (assigned.map (·.2)).Nodup) {ns : List Node}
    (hns : ∀ n ∈ ns, (n.id, base n) ∈ assigned) (hnamed : named ⊆ assigned) :
    namesFrom named ns ⊆ assigned := by
  induction ns generalizing named with
  | nil => exact hnamed
  | cons n ns ih =>
      have hrest : ∀ m ∈ ns, (m.id, base m) ∈ assigned := fun m hm =>
        hns m (List.mem_cons_of_mem n hm)
      have hhere := hns n List.mem_cons_self
      rw [namesFrom]
      split
      · exact ih hrest hnamed
      · rename_i hnew
        -- The name is still free: who had it would be the node itself.
        have hfree : base n ∉ named.map (·.2) := by
          intro hmem
          obtain ⟨p, hp, heq⟩ := List.mem_map.mp hmem
          have hsame : p = (n.id, base n) :=
            List.inj_on_of_nodup_map hnodup (hnamed hp) hhere heq
          refine hnew (List.any_eq_true.mpr ⟨p, hp, ?_⟩)
          rw [hsame, beq_self_eq_true]
        have hfresh : fresh (named.map (·.2)) (base n) = base n := if_neg hfree
        rw [hfresh]
        refine ih hrest (List.append_subset.mpr ⟨hnamed, ?_⟩)
        exact List.cons_subset.mpr ⟨hhere, List.nil_subset _⟩

variable {g g' : Graph}

/-- Without names in capitals, every id is named as before. -/
theorem lookup_names_of_fedBack (h : g'.nodes.Perm (fedBack g))
    (hcapitals : ∀ p ∈ names g, ¬IsCapitals p.2) (id : String) :
    (names g').lookup id = (names g).lookup id := by
  have hg := naming_names g
  have hasked : ∀ n ∈ g'.nodes, (n.id, base n) ∈ names g := by
    intro n hn
    obtain ⟨name, hname, hbase⟩ := base_of_mem_fedBack (h.mem_iff.mp hn)
    rw [hbase, identifier_of_not_isCapitals (hg.identifiers _ hname) (startsSmall_of_mem_names hname)
      (hg.notReserved _ hname) (hcapitals _ hname)]
    exact hname
  have hsub : names g' ⊆ names g := namesFrom_subset hg.nodup hasked (List.nil_subset _)
  have hkeys : ∀ id, id ∈ (names g').map (·.1) ↔ id ∈ (names g).map (·.1) := by
    intro id
    rw [(naming_names g').keys, hg.keys, Graph.mem_distinct, Graph.mem_distinct, ← ids_fedBack g]
    exact (h.map (·.id)).mem_iff
  cases hlookup : (names g').lookup id with
  | some name =>
      have hmem := hsub ((naming_names g').lookup_iff.mp hlookup)
      exact (hg.lookup_iff.mpr hmem).symm
  | none =>
      cases hother : (names g).lookup id with
      | none => rfl
      | some name =>
          have hmem := (hkeys id).mpr (List.mem_map_of_mem (hg.lookup_iff.mp hother))
          obtain ⟨p, hp, rfl⟩ := List.mem_map.mp hmem
          rw [(naming_names g').lookup_iff.mpr hp] at hlookup
          contradiction

theorem lookup_ne_of_isCapitals (h : g'.nodes.Perm (fedBack g)) {id name : String}
    (hname : (id, name) ∈ names g) (hcapitals : IsCapitals name) :
    (names g').lookup id ≠ some name := by
  have hg := naming_names g
  -- Whatever a node with such a name is given has no capitals any more.
  have hlacks : ∀ p ∈ names g', ∀ name, (p.1, name) ∈ names g → IsCapitals name →
      LacksCapitals p.2 := by
    refine forall_mem_namesFrom (P := fun id given => ∀ name, (id, name) ∈ names g →
      IsCapitals name → LacksCapitals given) ?_ ?_ (by simp)
    · intro n hn name hname hcapitals
      obtain ⟨asked, hasked, hbase⟩ := base_of_mem_fedBack (h.mem_iff.mp hn)
      have hsame : asked = name := Option.some.inj
        ((hg.lookup_iff.mpr hasked).symm.trans (hg.lookup_iff.mpr hname))
      subst hsame
      rw [hbase]
      exact identifier_of_isCapitals (hg.identifiers _ hname) (startsSmall_of_mem_names hname)
        hcapitals
    · intro id given k hgiven name hname hcapitals
      exact (hgiven name hname hcapitals).numbered k
  intro hlookup
  have hgiven := (naming_names g').lookup_iff.mp hlookup
  exact hcapitals.not_lacksCapitals (hlacks _ hgiven name hname hcapitals)

/-- A graph whose nodes ask for the names they have in another one, in any order, names every id as
that one does, exactly when none of the names has a capital but no small letter. -/
theorem names_fedBack_iff (h : g'.nodes.Perm (fedBack g)) :
    (∀ id, (names g').lookup id = (names g).lookup id) ↔ ∀ p ∈ names g, ¬IsCapitals p.2 := by
  constructor
  · intro hsame p hp hcapitals
    refine lookup_ne_of_isCapitals h hp hcapitals ?_
    rw [hsame p.1]
    exact (naming_names g).lookup_iff.mpr hp
  · exact lookup_names_of_fedBack h

/-- Labels that collide, a reserved word, a digit in front and a name that is one already. -/
def assortedLabels : Graph :=
  { nodes :=
      [{ id := "a", data := { label := some "call api" } },
       { id := "b", data := { label := some "call api 2" } },
       { id := "c", data := { label := some "Call API" } },
       { id := "d", type := "return" },
       { id := "e", data := { label := some "2nd call" } },
       { id := "f", data := { label := some "_private" } }] }

/-- All names come back, also when the nodes are named from the last to the first. -/
theorem names_fedBack_iff_assortedLabels :
    names assortedLabels = [("a", "callApi"), ("b", "callApi2"), ("c", "callApi3"),
        ("d", "returnStep"), ("e", "step2ndCall"), ("f", "_private")] ∧
      ∀ id, (names { assortedLabels with nodes := (fedBack assortedLabels).reverse }).lookup id =
        (names assortedLabels).lookup id := by
  have hnames : names assortedLabels = [("a", "callApi"), ("b", "callApi2"), ("c", "callApi3"),
      ("d", "returnStep"), ("e", "step2ndCall"), ("f", "_private")] := by decide
  refine ⟨hnames, (names_fedBack_iff (List.reverse_perm _)).mpr ?_⟩
  rw [hnames]
  decide

/-- A node whose label has an underscore and a letter as words of their own. -/
def underscoreLabel : Graph :=
  { nodes := [{ id := "a", type := "entry", data := { label := some "_ a" } }] }

/-- The name of the node is not the one it is given when it asks for it. -/
theorem names_underscoreLabel :
    names underscoreLabel = [("a", "_A")] ∧
      names { underscoreLabel with nodes := fedBack underscoreLabel } = [("a", "_a")] := by
  decide

end DurableFlow.Step
