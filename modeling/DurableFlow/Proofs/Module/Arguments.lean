import DurableFlow.Proofs.Compile.Escape
import DurableFlow.Proofs.Module.ObjectLiteral
import DurableFlow.Proofs.Step.Naming

/-!
The arguments of a tool. The parameter list of a configured tool is read three times: for the
properties of the manifest, for the check that the server makes of a call, and for the fields of the
payload that the node hands on. All three have the same names. The manifest asks for a name as often
as the list asks for it, while only the last entry of a name counts in the check, so the two agree on
what has to be given unless a name is repeated.
-/

namespace DurableFlow.Tool

open ObjectLiteral

/-! ### Entries of the check -/

/-- What is written behind the check of an argument that may be left out. -/
def optionalMark : String := ".optional()"

/-- The check lets the argument be left out. -/
def MayLack (check : String) : Prop := optionalMark.toList <:+ check.toList

instance (check : String) : Decidable (MayLack check) :=
  inferInstanceAs (Decidable (optionalMark.toList <:+ check.toList))

def needed (checks : List (String × String)) : List String :=
  (checks.filter fun f => ¬MayLack f.2).map Prod.fst

/-- The field is the entry of the parameter in the check. -/
structure Checks (p : Parameter) (f : String × String) : Prop where
  name : p.name = .str f.1
  text : shapeEntry p = .ok (fieldText f)
  value : IsValue f.2
  mayLack_iff : MayLack f.2 ↔ p.isRequired = false

/-- The check of a type, before what is known of the parameter is added. -/
def baseOf (type : String) : String := (shapes.lookup type).getD "z.any()"

theorem baseOf_spec (type : String) : IsValue (baseOf type) ∧ ¬MayLack (baseOf type) := by
  have hall : ∀ base ∈ "z.any()" :: shapes.map (·.2), walk (.code 0) base.toList = some (.code 0) ∧
      base.toList.getLast? = some ')' ∧ ¬MayLack base := by
    decide
  have hmem : baseOf type ∈ "z.any()" :: shapes.map (·.2) := by
    rw [baseOf]
    cases hlookup : shapes.lookup type with
    | none => exact List.mem_cons_self
    | some base =>
        obtain ⟨front, back, hshapes, -⟩ := List.lookup_eq_some_iff.mp hlookup
        rw [hshapes]
        simp
  obtain ⟨hpassed, hlast, hneeded⟩ := hall _ hmem
  exact ⟨⟨hpassed, ')', hlast, by decide⟩, hneeded⟩

theorem describe_spec (s : String) {base : String} (h : IsValue base) :
    IsValue (base ++ (".describe(" ++ Json.quote s ++ ")")) ∧
      ¬MayLack (base ++ (".describe(" ++ Json.quote s ++ ")")) := by
  have hchars : (".describe(" ++ Json.quote s ++ ")").toList =
      ".describe(".toList ++ (Json.quoteChars s.toList ++ [')']) := by
    simp
  have hopens : walk (.code 0) ".describe(".toList = some (.code 1) := by decide
  refine ⟨h.append ⟨?_, ')', ?_, by decide⟩, fun hlack => ?_⟩
  · rw [hchars, walk_append, hopens, Option.bind_some, walk_append, walk_quoteChars]
    rfl
  · rw [hchars]
    exact Text.mem_getLast?_append _ (Text.mem_getLast?_append _ rfl)
  · -- The text ends in a quote and a bracket, and the mark in two brackets.
    have hend : ['"', ')'] <:+ (base ++ (".describe(" ++ Json.quote s ++ ")")).toList := by
      refine ⟨base.toList ++ (".describe(".toList ++ '"' :: s.toList.flatMap Json.escapeChar), ?_⟩
      rw [String.toList_append, hchars, Json.quoteChars]
      simp
    exact absurd (List.suffix_of_suffix_length_le hend hlack (by decide)) (by decide)

theorem shapeEntry_eq {p : Parameter} {name type : String} (hname : p.name = .str name)
    (htype : p.type = .str type) : shapeEntry p = .ok (fieldText (name, baseOf type ++
      (if (p.get "description").isGiven then ".describe(" ++ (p.get "description").compact ++ ")"
        else "") ++
      (if p.isRequired then "" else optionalMark))) := by
  rw [shapeEntry, htype, hname]
  simp only [fieldText, String.append_assoc]
  rfl

theorem exists_checks {p : Parameter} (h : p.IsDeclared) : ∃ f, Checks p f := by
  obtain ⟨name, hname⟩ := h.name
  obtain ⟨type, htype⟩ := h.type
  have htext := shapeEntry_eq hname htype
  -- What stands in front of the mark does not end as the mark does.
  obtain ⟨described, hdescribed, hvalue, hneeded⟩ : ∃ described, baseOf type ++
      (if (p.get "description").isGiven then ".describe(" ++ (p.get "description").compact ++ ")"
        else "") = described ∧ IsValue described ∧ ¬MayLack described := by
    refine ⟨_, rfl, ?_⟩
    split
    · rename_i hgiven
      rcases h.description with hnull | ⟨s, hs⟩
      · rw [hnull] at hgiven
        contradiction
      · rw [hs]
        exact describe_spec s (baseOf_spec type).1
    · rw [String.append_empty]
      exact baseOf_spec type
  rw [hdescribed] at htext
  cases hrequired : p.isRequired with
  | true =>
      rw [hrequired, if_pos rfl, String.append_empty] at htext
      exact ⟨(name, described), hname, htext, hvalue, by simp [hneeded, hrequired]⟩
  | false =>
      rw [hrequired, if_neg (by simp)] at htext
      have hmark : IsValue optionalMark := ⟨by decide, ')', by decide, by decide⟩
      exact ⟨(name, described ++ optionalMark), hname, htext, hvalue.append hmark,
        by simp [MayLack, hrequired]⟩

/-! ### The list read three times -/

theorem exists_forall₂_checks {ps : List Parameter} (h : ∀ p ∈ ps, p.IsDeclared) :
    ∃ checks, List.Forall₂ Checks ps checks := by
  induction ps with
  | nil => exact ⟨[], .nil⟩
  | cons p ps ih =>
      rw [List.forall_mem_cons] at h
      obtain ⟨f, hf⟩ := exists_checks h.1
      obtain ⟨checks, hchecks⟩ := ih h.2
      exact ⟨f :: checks, .cons hf hchecks⟩

section Forall₂

variable {ps : List Parameter} {checks : List (String × String)}

theorem mapM_shapeEntry (h : List.Forall₂ Checks ps checks) :
    ps.mapM shapeEntry = .ok (checks.map fieldText) := by
  induction h with
  | nil => rfl
  | cons hf _ ih =>
      rw [List.mapM_cons, hf.text, ih]
      rfl

theorem forall_isValue (h : List.Forall₂ Checks ps checks) : ∀ f ∈ checks, IsValue f.2 := by
  induction h with
  | nil => simp
  | cons hf _ ih => exact List.forall_mem_cons.mpr ⟨hf.value, ih⟩

theorem map_name (h : List.Forall₂ Checks ps checks) :
    ps.map (·.name) = (checks.map (·.1)).map .str := by
  induction h with
  | nil => rfl
  | cons hf _ ih => rw [List.map_cons, List.map_cons, List.map_cons, hf.name, ih]

theorem map_required (h : List.Forall₂ Checks ps checks) :
    (ps.filter Parameter.isRequired).map (·.name) = (needed checks).map .str := by
  induction h with
  | nil => rfl
  | @cons p f ps checks hf _ ih =>
      rw [needed] at ih
      rw [List.filter_cons, needed, List.filter_cons]
      cases hrequired : p.isRequired with
      | true =>
          have hneeded : ¬MayLack f.2 := by simp [hf.mayLack_iff, hrequired]
          rw [if_pos rfl, if_pos (by simpa using hneeded), List.map_cons, List.map_cons,
            List.map_cons, hf.name, ih]
      | false =>
          have hlack := hf.mayLack_iff.mpr hrequired
          rw [if_neg (by simp), if_neg (by simpa using hlack), ih]

theorem setKey_str {acc : List (Json × Json)} {names : List String}
    (hacc : acc.map (·.1) = names.map .str) (name : String) (v : Json) :
    (Json.setKey (.str name) v acc).map (·.1) =
      (names ++ (if name ∈ names then [] else [name])).map .str := by
  induction acc generalizing names with
  | nil =>
      obtain rfl : names = [] := by simpa using hacc.symm
      rfl
  | cons p acc ih =>
      obtain ⟨k, w⟩ := p
      cases names with
      | nil => simp at hacc
      | cons first names =>
          rw [List.map_cons, List.map_cons, List.cons.injEq] at hacc
          obtain ⟨rfl, hrest⟩ := hacc
          have hsame : Json.sameKey (.str first) (.str name) = (first == name) := rfl
          rw [Json.setKey, hsame]
          by_cases heq : first = name
          · simp [heq, hrest]
          · have hmem : name ∈ first :: names ↔ name ∈ names := by
              simp [Ne.symm heq]
            rw [if_neg (by simpa using heq), List.map_cons, ih hrest]
            simp only [hmem, List.cons_append, List.map_cons]

/-- Each name is a property once, where it stands first. -/
theorem properties_eq_ok (h : List.Forall₂ Checks ps checks) {front : List String}
    {acc : List (Json × Json)} (hacc : acc.map (·.1) = (Graph.distinct front).map .str) :
    ∃ found, properties acc ps = .ok found ∧
      found.map (·.1) = (Graph.distinct (front ++ checks.map (·.1))).map .str := by
  induction h generalizing front acc with
  | nil => exact ⟨acc, rfl, by rw [hacc, List.map_nil, List.append_nil]⟩
  | @cons p f ps checks hf _ ih =>
      have hset := setKey_str hacc f.1 (parameterSchema p)
      simp only [Graph.mem_distinct] at hset
      rw [← Step.distinct_concat] at hset
      obtain ⟨found, hfound, hkeys⟩ := ih hset
      refine ⟨found, ?_, ?_⟩
      · rw [properties, hf.name]
        exact hfound
      · rw [hkeys, List.map_cons, List.append_assoc, List.singleton_append]

/-! ### Names that are repeated -/

/-- The entry of a name that counts: a later field of a literal stands for an earlier one. -/
def effective (checks : List (String × String)) (name : String) : Option String :=
  checks.reverse.lookup name

theorem mem_of_effective {name check : String} (h : effective checks name = some check) :
    (name, check) ∈ checks := by
  obtain ⟨front, back, hchecks, -⟩ := List.lookup_eq_some_iff.mp h
  rw [← List.mem_reverse, hchecks]
  simp

theorem exists_effective {name other : String} (h : (name, other) ∈ checks) :
    ∃ check, effective checks name = some check := by
  rw [effective, ← Option.isSome_iff_exists, List.lookup_isSome_iff]
  exact ⟨_, List.mem_reverse.mpr h, by simp⟩

theorem mem_needed {name : String} :
    name ∈ needed checks ↔ ∃ check, (name, check) ∈ checks ∧ ¬MayLack check := by
  simp [needed]

theorem nodup_needed_iff : (needed checks).Nodup ↔
    ∀ name, checks.countP (fun f => f.1 = name ∧ ¬MayLack f.2) ≤ 1 := by
  rw [List.nodup_iff_count_le_one]
  refine forall_congr' fun name => ?_
  rw [needed, List.count_eq_countP, List.countP_map, List.countP_filter]
  simp only [Function.comp_def, Bool.decide_and, beq_eq_decide]

/-- A name is asked for exactly if the entry that counts may not lack, unless that entry may lack and
another one may not. -/
theorem mem_needed_iff_effective {name : String} :
    (name ∈ needed checks ↔ ∃ check, effective checks name = some check ∧ ¬MayLack check) ↔
      ∀ check, effective checks name = some check → MayLack check →
        ∀ other, (name, other) ∈ checks → MayLack other := by
  rw [mem_needed]
  constructor
  · intro h check hcheck hlack other hother
    by_contra hneeded
    obtain ⟨check', hcheck', hneeded'⟩ := h.mp ⟨other, hother, hneeded⟩
    obtain rfl := Option.some.inj (hcheck'.symm.trans hcheck)
    exact hneeded' hlack
  · intro h
    constructor
    · rintro ⟨other, hother, hneeded⟩
      obtain ⟨check, hcheck⟩ := exists_effective hother
      exact ⟨check, hcheck, fun hlack => hneeded (h check hcheck hlack other hother)⟩
    · rintro ⟨check, hcheck, hneeded⟩
      exact ⟨check, mem_of_effective hcheck, hneeded⟩

end Forall₂

/-! ### What a tool takes, asks for and hands on -/

def copiedField (name : String) : String × String := (name, "payload[" ++ Json.quote name ++ "]")

/-- The body hands on these fields of the payload, or all of it if there are none. -/
def Copies (b : Body) (names : List String) : Prop :=
  if names = [] then b = .direct [] "event.payload" "event.payload"
  else ∃ output, b = .direct (Code.texts ["const payload = event.payload || " ++ emptyObject ++ ";"])
      "event.payload" output ∧ fields? output = some (names.map copiedField)

theorem isValue_copiedField (name : String) : IsValue (copiedField name).2 := by
  have hchars : (copiedField name).2.toList =
      "payload[".toList ++ (Json.quoteChars name.toList ++ [']']) := by
    simp [copiedField]
  have hopens : walk (.code 0) "payload[".toList = some (.code 1) := by decide
  refine ⟨?_, ']', ?_, by decide⟩
  · rw [hchars, walk_append, hopens, Option.bind_some, walk_append, walk_quoteChars]
    rfl
  · rw [hchars]
    exact Text.mem_getLast?_append _ (Text.mem_getLast?_append _ rfl)

theorem fieldText_copiedField (name : String) : fieldText (copiedField name) =
    Json.quote name ++ ": payload[" ++ Json.quote name ++ "]" := by
  simp only [fieldText, copiedField, String.append_assoc]
  rfl

theorem copies_payload (names : List String) : Copies (Fragment.payload names) names := by
  by_cases hnone : names = []
  · rw [Copies, if_pos hnone, hnone]
    rfl
  · rw [Copies, if_neg hnone, Fragment.payload, if_neg (by simpa using hnone)]
    have hvalues : ∀ f ∈ names.map copiedField, IsValue f.2 := by
      intro f hf
      obtain ⟨name, -, rfl⟩ := List.mem_map.mp hf
      exact isValue_copiedField name
    have hfields := fields?_braced (by simpa using hnone) hvalues
    have htext : fieldText ∘ copiedField = fun name =>
        Json.quote name ++ ": payload[" ++ Json.quote name ++ "]" := funext fieldText_copiedField
    rw [List.map_map, htext] at hfields
    exact ⟨_, rfl, hfields⟩

theorem shape_eq_ok {n : Node} {ps : List Parameter} {checks : List (String × String)}
    (hps : parameters n = .ok ps) (h : List.Forall₂ Checks ps checks) :
    ∃ text, shape n = .ok text ∧ fields? text = some checks := by
  have hmade : shape n = .ok (if (checks.map fieldText).isEmpty then emptyObject
      else braced (", ".intercalate (checks.map fieldText))) := by
    rw [shape, hps]
    show (ps.mapM shapeEntry >>= _) = _
    rw [mapM_shapeEntry h]
    rfl
  refine ⟨_, hmade, ?_⟩
  cases h with
  | nil => exact fields?_emptyObject
  | cons hf hrest =>
      exact fields?_braced (List.cons_ne_nil _ _) (forall_isValue (.cons hf hrest))

theorem parameterNames_builtin {n : Node} (h : n.IsConfigured) (htype : n.type = toolInputType)
    {ps : List Parameter} (hps : parameters n = .ok ps) :
    ∃ names, Fragment.parameterNames (n.setting "parameters") = .ok names ∧
      ps.map (·.name) = names.map .str := by
  rw [parameters] at hps
  obtain ⟨given, hgiven, hps⟩ := bind_eq_ok hps
  obtain rfl := Except.ok.inj hps
  refine ⟨_, by rw [Fragment.parameterNames, hgiven]; rfl, ?_⟩
  rw [List.map_filterMap, List.map_filterMap]
  refine List.filterMap_congr fun v hv => ?_
  -- Every parameter is an object, and its name is a text if it has one.
  rcases h.setting "parameters" (by rw [htype]; rfl) with hnull | ⟨_, haccepts⟩
  · rw [hnull] at hgiven
    obtain rfl := Except.ok.inj hgiven
    contradiction
  · obtain ⟨items, harray⟩ := Json.isArray_of_hasType (haccepts.hasType_of_stated rfl)
    rw [harray] at haccepts hgiven
    obtain rfl := Except.ok.inj ((Json.elementsIfGiven_arr items).symm.trans hgiven)
    have hitem := haccepts.item_of_field rfl rfl hv
    obtain ⟨ms, rfl⟩ := Json.isObject_of_hasType (hitem.hasType_of_stated rfl)
    dsimp only
    cases hget : Members.get? "name" ms with
    | none => rfl
    | some w =>
        obtain ⟨s, rfl⟩ := Json.isString_of_hasType (hitem.member_hasType rfl hget rfl)
        by_cases hs : s = ""
        · subst hs
          rfl
        · simp [Json.isGiven, hs]

/-- What is read from the parameter list of a tool: its manifest, the entries of the check of its
calls, and the fields of the payload that its node hands on. -/
structure Readings (n : Node) (ctx : Context) (workflow : String) (m : Manifest)
    (checks : List (String × String)) (copied : List String) : Prop where
  manifest : Tool.manifest n workflow = .ok m
  shape : ∃ text, Tool.shape n = .ok text ∧ fields? text = some checks
  body : ∃ b, (Fragment.body n ctx).result = .ok b ∧ Copies b copied

/-- The three readings of the parameter list of a configured tool have the same names, and the
manifest asks for those of the entries that may not lack, as often as there are any. It asks for no
name twice exactly if no name has two such entries, and it agrees with the check on what may lack
exactly for the names whose last entry may not lack or all of whose entries may. -/
theorem readings_agree_iff {n : Node} (h : n.IsConfigured) (htype : n.type = toolInputType)
    (ctx : Context) (workflow : String) :
    ∃ m checks copied, Readings n ctx workflow m checks copied ∧
      m.properties.map (·.1) = (Graph.distinct (checks.map (·.1))).map .str ∧
      copied = checks.map (·.1) ∧ m.required = (needed checks).map .str ∧
      (m.required.Nodup ↔ ∀ name, checks.countP (fun f => f.1 = name ∧ ¬MayLack f.2) ≤ 1) ∧
      ∀ name, (.str name ∈ m.required ↔
          ∃ check, effective checks name = some check ∧ ¬MayLack check) ↔
        ∀ check, effective checks name = some check → MayLack check →
          ∀ other, (name, other) ∈ checks → MayLack other := by
  have hinjective : Function.Injective Json.str := fun a b => Json.str.inj
  obtain ⟨ps, hps⟩ := (parameters_builtin h htype).exists_ok
  obtain ⟨checks, hchecks⟩ := exists_forall₂_checks ((parameters_builtin h htype).of_ok hps)
  obtain ⟨names, hnames, hsame⟩ := parameterNames_builtin h htype hps
  have hnothing : ([] : List (Json × Json)).map (·.1) = (Graph.distinct []).map .str := rfl
  obtain ⟨found, hfound, hkeys⟩ := properties_eq_ok hchecks hnothing
  obtain rfl : names = checks.map (·.1) := by
    rw [map_name hchecks] at hsame
    exact (hinjective.list_map hsame).symm
  have hmanifest : Tool.manifest n workflow = .ok ⟨name n workflow, description n workflow, found,
      (needed checks).map .str⟩ := by
    rw [manifest, hps]
    show (properties [] ps >>= _) = _
    rw [hfound, ← map_required hchecks]
    rfl
  have hbody : (Fragment.body n ctx).result = .ok (Fragment.payload (checks.map (·.1))) := by
    rw [Fragment.body, htype]
    show (Fragment.toolInput n ctx).result = _
    rw [Fragment.toolInput, hnames]
    rfl
  refine ⟨_, checks, _, ⟨hmanifest, shape_eq_ok hps hchecks, _, hbody, copies_payload _⟩, hkeys, rfl,
    rfl, ?_, fun name => ?_⟩
  · rw [List.nodup_map_iff hinjective, nodup_needed_iff]
  · rw [List.mem_map_of_injective hinjective]
    exact mem_needed_iff_effective

/-- A tool with a described argument that is asked for and one that may lack. -/
def weatherTool : Node where
  id := "t"
  type := "mcp-tool-input"
  data :=
    { config := [("parameters", .arr
        [.obj [("name", .str "city, or town"), ("required", .bool true),
           ("description", .str "a \"city\", e.g. \x7bParis\x7d")],
         .obj [("name", .str "days"), ("type", .str "number")]])] }

theorem readings_agree_iff_weatherTool :
    weatherTool.IsConfigured ∧ ∃ m checks copied,
      Readings weatherTool (.ofGraph { nodes := [weatherTool] } Catalog.builtin {}) "weather" m checks
        copied ∧
      copied = checks.map (·.1) ∧ m.required = (needed checks).map .str := by
  have hconfigured : weatherTool.IsConfigured := Node.isConfigured_of_check (by decide)
  obtain ⟨m, checks, copied, hreadings, -, hcopied, hrequired, -⟩ :=
    readings_agree_iff hconfigured rfl (.ofGraph { nodes := [weatherTool] } Catalog.builtin {}) "weather"
  exact ⟨hconfigured, m, checks, copied, hreadings, hcopied, hrequired⟩

/-- A tool with three parameters of one name, of which the last may lack. -/
def repeatedTool : Node where
  id := "t"
  type := "mcp-tool-input"
  data :=
    { config := [("parameters", .arr
        [.obj [("name", .str "a"), ("required", .bool true)],
         .obj [("name", .str "a"), ("required", .bool true)],
         .obj [("name", .str "a")]])] }

/-- The manifest asks twice for an argument that the server does not ask for. -/
theorem not_agree_repeatedTool : repeatedTool.IsConfigured ∧ ∃ m text checks check,
    manifest repeatedTool "w" = .ok m ∧ shape repeatedTool = .ok text ∧ fields? text = some checks ∧
      m.required = [.str "a", .str "a"] ∧ effective checks "a" = some check ∧ MayLack check := by
  refine ⟨Node.isConfigured_of_check (by decide), _,
    "\x7b \"a\": z.string(), \"a\": z.string(), \"a\": z.string().optional() \x7d",
    [("a", "z.string()"), ("a", "z.string()"), ("a", "z.string().optional()")],
    "z.string().optional()", rfl, ?_, by decide +kernel, rfl, rfl, by decide⟩
  decide

end DurableFlow.Tool
