import DurableFlow.Graph.Document
import DurableFlow.Proofs.Graph.Alike
import DurableFlow.Proofs.Schema.Unstopped

/-!
Rules that go by the members of an object. What most rules say of an object depends only on what stands
under each key; the others show the whole object in their messages, or compare it with a value. The
schemas of the built-in catalog have no rules of the second sort for a configuration itself.
-/

namespace DurableFlow

/-- A rule that finds the same in two objects with the same members in a different order. -/
def Rule.memberwise : Rule → Bool
  | .types names _ => names.contains "object"
  | .properties _ => true
  | .required _ => true
  | _ => false

namespace Schema

/-- A schema all of whose rules go by the members of an object. -/
def memberwise : Schema → Bool
  | .always => true
  | .never => false
  | .rules rs => rs.all Rule.memberwise

variable {follow : Follow} {s : Schema} {ms ms' : Members}

/-- The violations of a schema by the member of that name, if there is one. -/
def checkMember (follow : Follow) (s : Schema) (name : String) (ms : Members) : List Violation :=
  ((Members.get? name ms).map (s.check follow)).getD []

theorem checkRule_properties (ps : List (String × Schema)) (ms : Members) :
    checkRule follow (.properties ps) (.obj ms) = checkProperties follow ps ms := by
  rw [checkRule, onMembers_obj]

theorem checkProperties_cons (name : String) (s : Schema) (ps : List (String × Schema))
    (ms : Members) : checkProperties follow ((name, s) :: ps) ms =
      descend (.key name) s (checkMember follow s name ms) ++ checkProperties follow ps ms := by
  rw [checkProperties, checkMember]
  cases Members.get? name ms with
  | none => cases s <;> rfl
  | some v => rfl

theorem checkProperties_congr {ps : List (String × Schema)}
    (h : ∀ p ∈ ps, checkMember follow p.2 p.1 ms' = checkMember follow p.2 p.1 ms) :
    checkProperties follow ps ms' = checkProperties follow ps ms := by
  induction ps with
  | nil => simp only [checkProperties]
  | cons p ps ih =>
      obtain ⟨name, s⟩ := p
      obtain ⟨hhere, hrest⟩ := List.forall_mem_cons.mp h
      rw [checkProperties_cons, checkProperties_cons, hhere, ih hrest]

theorem checkMember_congr {name : String} (h : Members.get? name ms' = Members.get? name ms) :
    checkMember follow s name ms' = checkMember follow s name ms := by
  rw [checkMember, h, checkMember]

theorem checkRequired_congr {names : List String}
    (h : ∀ name ∈ names, Members.has name ms' = Members.has name ms) :
    checkRule follow (.required names) (.obj ms') = checkRule follow (.required names) (.obj ms) := by
  have hfilter : (names.filter fun name => !Members.has name ms') =
      names.filter fun name => !Members.has name ms :=
    List.filter_congr fun name hname => by rw [h name hname]
  rw [checkRule, checkRule, onMembers_obj, onMembers_obj, missing, missing, hfilter]

theorem checkRule_of_memberwise {r : Rule} (hr : r.memberwise = true) (h : ms.Alike ms') :
    checkRule follow r (.obj ms') = checkRule follow r (.obj ms) := by
  cases r with
  | types names shown =>
      have hobject : names.contains "object" = true := hr
      have htype (ms : Members) : names.any (Json.obj ms).hasType = true :=
        List.any_eq_true.mpr ⟨"object", List.contains_iff_mem.mp hobject, rfl⟩
      rw [checkRule, checkRule, if_pos (htype ms'), if_pos (htype ms)]
  | properties ps =>
      rw [checkRule_properties, checkRule_properties]
      exact checkProperties_congr fun p _ => checkMember_congr (h p.1)
  | required names => exact checkRequired_congr fun name _ => Members.has_congr (h name)
  | _ => contradiction

theorem check_of_memberwise (hs : s.memberwise = true) (h : ms.Alike ms') :
    s.check follow (.obj ms') = s.check follow (.obj ms) := by
  cases s with
  | always => simp only [check]
  | never => contradiction
  | rules rs =>
      rw [check, check]
      induction rs with
      | nil => simp only [checkRules]
      | cons r rs ih =>
          rw [memberwise, List.all_cons, Bool.and_eq_true] at hs
          rw [checkRules, checkRules, checkRule_of_memberwise hs.1 h, ih hs.2]

end Schema

/-- The schemas of the built-in catalog go by the members of a configuration. -/
theorem Builtin.memberwise_schema {d : Definition} (hd : d ∈ Catalog.builtin.definitions)
    {s : Schema} (hs : Schema.read (.obj d.configSchema) = .ok s) : s.memberwise = true := by
  have hall : ∀ d ∈ Catalog.builtin.definitions,
      ((Schema.read (.obj d.configSchema)).toOption.all Schema.memberwise) = true := by
    decide +kernel
  have hone := hall d hd
  rw [hs] at hone
  exact hone

theorem Document.configProblems_alike {d : Definition} (hd : d ∈ Catalog.builtin.definitions)
    {config config' : Members} (h : config.Alike config') :
    configProblems (.obj config') (.obj d.configSchema) =
      configProblems (.obj config) (.obj d.configSchema) := by
  rw [configProblems, configProblemsBy, configProblemsBy]
  split
  · rfl
  · obtain ⟨s, hs, hfound⟩ := Builtin.validate_schema hd (.obj config)
    obtain ⟨s', hs', hfound'⟩ := Builtin.validate_schema hd (.obj config')
    obtain rfl := Except.ok.inj (hs.symm.trans hs')
    rw [hfound, hfound', Schema.check_of_memberwise (Builtin.memberwise_schema hd hs) h]

end DurableFlow
