import DurableFlow.Catalog.Builtin
import DurableFlow.Proofs.Outcome
import DurableFlow.Schema.Check

/-!
Checks that come to their end. A check can be stopped by a reference, by a division that has no result,
by patterns that do not read as one pattern, and by items whose number cannot be told. No other rule
stops a check, and the schemas of the built-in catalog have no rules of those sorts.
-/

namespace DurableFlow

mutual

/-- No rule of the schema can stop a check. -/
def Schema.neverStops : Schema → Bool
  | .always => true
  | .never => true
  | .rules rs => Rule.allNeverStop rs

def Rule.neverStops : Rule → Bool
  | .reference _ => false
  | .multipleOf _ => false
  | .additional s _ patterns => patterns.isNone && s.neverStops
  | .beyond s count => count.isSome && s.neverStops
  | .dependent _ s => s.neverStops
  | .matching _ s => s.neverStops
  | .eachName s => s.neverStops
  | .each s => s.neverStops
  | .contains s => s.neverStops
  | .not s _ => s.neverStops
  | .branch test yes no => test.neverStops && yes.neverStops && no.neverStops
  | .properties ps => Schema.namedNeverStop ps
  | .positions ss => Schema.allNeverStop ss
  | .allOf ss => Schema.allNeverStop ss
  | .anyOf ss => Schema.allNeverStop ss
  | .oneOf options => Schema.optionsNeverStop options
  | _ => true

def Rule.allNeverStop : List Rule → Bool
  | [] => true
  | r :: rs => r.neverStops && Rule.allNeverStop rs

def Schema.allNeverStop : List Schema → Bool
  | [] => true
  | s :: ss => s.neverStops && Schema.allNeverStop ss

def Schema.namedNeverStop : List (String × Schema) → Bool
  | [] => true
  | (_, s) :: ps => s.neverStops && Schema.namedNeverStop ps

def Schema.optionsNeverStop : List (Json × Schema) → Bool
  | [] => true
  | (_, s) :: options => s.neverStops && Schema.optionsNeverStop options

end

namespace Schema

/-- No fault is among the violations. -/
def Unstopped (found : List Violation) : Prop := ∀ e ∈ found, e.fault? = none

namespace Unstopped

variable {found rest : List Violation}

theorem nil : Unstopped [] := fun _ he => absurd he List.not_mem_nil

theorem append (h : Unstopped found) (hrest : Unstopped rest) : Unstopped (found ++ rest) := by
  intro e he
  rcases List.mem_append.mp he with he | he
  · exact h e he
  · exact hrest e he

theorem flatMap {α : Type} {xs : List α} {f : α → List Violation} (h : ∀ x ∈ xs, Unstopped (f x)) :
    Unstopped (xs.flatMap f) := by
  intro e he
  obtain ⟨x, hx, he⟩ := List.mem_flatMap.mp he
  exact h x hx e he

theorem broken (message : String) {b : BrokenRule} (h : ∀ f, b ≠ .stopped f) :
    Unstopped (broken message b) := by
  intro e he
  obtain rfl := List.mem_singleton.mp he
  cases b with
  | stopped f => exact absurd rfl (h f)
  | _ => rfl

theorem other (message : String) : Unstopped (Schema.broken message) :=
  broken message fun _ => nofun

theorem descend (h : Unstopped found) (step : PathStep) (s : Schema) :
    Unstopped (descend step s found) := by
  have hunder : Unstopped (found.map (Violation.under step)) := by
    intro e he
    obtain ⟨e', he', rfl⟩ := List.mem_map.mp he
    exact h e' he'
  cases s with
  | never => exact h
  | always => exact hunder
  | rules rs => exact hunder

theorem onMembers {v : Json} {f : Members → List Violation} (h : ∀ ms, Unstopped (f ms)) :
    Unstopped (onMembers v f) := by
  cases v with
  | obj ms => exact h ms
  | _ => exact nil

theorem onItems {v : Json} {f : List Json → List Violation} (h : ∀ items, Unstopped (f items)) :
    Unstopped (onItems v f) := by
  cases v with
  | arr items => exact h items
  | _ => exact nil

theorem whenClear {test : Except Fault Bool} {b : Bool} (htest : test = .ok b)
    (h : Unstopped found) (hrest : Unstopped rest) : Unstopped (whenClear test found rest) := by
  rw [htest]
  cases b with
  | true => exact h
  | false => exact hrest

theorem missing {names : List String} {ms : Members} {said : String → List Violation}
    (h : ∀ name, Unstopped (said name)) : Unstopped (missing names ms said) :=
  flatMap fun name _ => h name

theorem whereAllowed (h : Unstopped found) (step : PathStep) (s : Schema) :
    Unstopped (whereAllowed step s found) := by
  rw [Schema.whereAllowed]
  split
  · exact nil
  · exact h.descend step s

theorem firstFault?_eq_none (h : Unstopped found) : firstFault? found = none :=
  List.findSome?_eq_none_iff.mpr h

theorem isClear_eq (h : Unstopped found) : isClear found = .ok found.isEmpty := by
  rw [isClear, h.firstFault?_eq_none]

theorem startsClear_eq (h : Unstopped found) :
    startsClear found = .ok (found.take 1).isEmpty :=
  isClear_eq fun e he => h e (List.mem_of_mem_take he)

end Unstopped

theorem anyClear_eq_ok {clear : List Violation → Except Fault Bool} {checks : List (List Violation)}
    (h : ∀ found ∈ checks, ∃ b, clear found = .ok b) : ∃ b, anyClear clear checks = .ok b := by
  induction checks with
  | nil => exact ⟨_, rfl⟩
  | cons found checks ih =>
      obtain ⟨⟨b, hb⟩, hrest⟩ := List.forall_mem_cons.mp h
      rw [anyClear, hb]
      cases b with
      | true => exact ⟨_, rfl⟩
      | false => exact ih hrest

theorem clearOptions_eq_ok (clear : List Violation → Except Fault Bool)
    {checks : List (Json × List Violation)} (h : ∀ p ∈ checks, Unstopped p.2)
    (hclear : ∀ {found}, Unstopped found → ∃ b, clear found = .ok b) :
    ∃ shown, clearOptions clear checks = .ok shown := by
  induction checks generalizing clear with
  | nil => exact ⟨_, rfl⟩
  | cons p checks ih =>
      obtain ⟨hp, hrest⟩ := List.forall_mem_cons.mp h
      obtain ⟨b, hb⟩ := hclear hp
      rw [clearOptions, hb]
      cases b with
      | true =>
          obtain ⟨shown, hshown⟩ := ih startsClear hrest fun hfound => ⟨_, hfound.startsClear_eq⟩
          dsimp only
          rw [hshown]
          exact ⟨_, rfl⟩
      | false => exact ih clear hrest hclear

/-! ### Rules about one value -/

theorem unstopped_checkSize (what : Sized) (limit : Limit) (n : Nat) (v : Json) :
    Unstopped (checkSize what limit n v) := by
  rw [checkSize]
  split
  · exact .nil
  · cases limit with
    | least =>
        dsimp only
        split
        · exact .broken _ fun f => by cases what <;> nofun
        · exact .nil
    | most =>
        dsimp only
        split
        · exact .other _
        · exact .nil

theorem unstopped_checkBound (limit : Limit) (strict : Bool) (b v : Json) :
    Unstopped (checkBound limit strict b v) := by
  rw [checkBound]
  split
  · split
    · exact .other _
    · exact .nil
  · exact .nil

theorem unstopped_checkPattern (text : String) (p : Pattern) (v : Json) :
    Unstopped (checkPattern text p v) := by
  cases v with
  | str s =>
      rw [checkPattern]
      split
      · exact .nil
      · exact .other _
  | _ => exact .nil

theorem unstopped_noAdditional (s : Schema) (patterns : Option (List String))
    (others : List String) : Unstopped (noAdditional s patterns others) := by
  rw [noAdditional]
  split
  · exact .nil
  · cases patterns <;> exact .other _

theorem unstopped_noItems (s : Schema) (items : List Json) : Unstopped (noItems s items) := by
  rw [noItems]
  split
  · exact .nil
  · exact .other _

theorem unstopped_onlyOption (v : Json) {shown : List Json} :
    Unstopped (onlyOption v (.ok shown)) := by
  match shown with
  | [] => exact .other _
  | [_] => exact .nil
  | _ :: _ :: _ => exact .other _

/-! ### Schemas -/

variable {follow : Follow}

mutual

theorem unstopped_check : ∀ {s : Schema}, s.neverStops = true → ∀ v, Unstopped (check follow s v)
  | .always, _, _ => by rw [check]; exact .nil
  | .never, _, _ => by rw [check]; exact .other _
  | .rules rs, h, v => by rw [check]; exact unstopped_checkRules h v
termination_by s => sizeOf s

theorem unstopped_checkRules : ∀ {rs : List Rule}, Rule.allNeverStop rs = true → ∀ v,
    Unstopped (checkRules follow rs v)
  | [], _, _ => by rw [checkRules]; exact .nil
  | r :: rs, h, v => by
      rw [Rule.allNeverStop, Bool.and_eq_true] at h
      rw [checkRules]
      exact (unstopped_checkRule h.1 v).append (unstopped_checkRules h.2 v)
termination_by rs => sizeOf rs

theorem unstopped_checkRule : ∀ {r : Rule}, r.neverStops = true → ∀ v,
    Unstopped (checkRule follow r v)
  | .reference _, h, _ => nomatch h
  | .multipleOf _, h, _ => nomatch h
  | .types names shown, h, v => by
      rw [checkRule]
      split
      · exact .nil
      · exact .broken _ fun _ => nofun
  | .enum values, h, v => by
      rw [checkRule]
      split
      · exact .nil
      · exact .other _
  | .const value, h, v => by
      rw [checkRule]
      split
      · exact .nil
      · exact .other _
  | .size what limit n, h, v => by
      rw [checkRule]
      exact unstopped_checkSize what limit n v
  | .bound limit strict b, h, v => by
      rw [checkRule]
      exact unstopped_checkBound limit strict b v
  | .pattern text p, h, v => by
      rw [checkRule]
      exact unstopped_checkPattern text p v
  | .required names, h, v => by
      rw [checkRule]
      exact .onMembers fun ms => .missing fun name => .broken _ fun _ => nofun
  | .needs name others, h, v => by
      rw [checkRule]
      refine .onMembers fun ms => ?_
      split
      · exact .missing fun _ => .other _
      · exact .nil
  | .dependent name s, h, v => by
      rw [checkRule]
      refine .onMembers fun ms => ?_
      split
      · exact unstopped_check h v
      · exact .nil
  | .properties ps, h, v => by
      rw [checkRule]
      exact .onMembers fun ms => unstopped_checkProperties h ms
  | .matching p s, h, v => by
      rw [checkRule]
      exact .onMembers fun ms => .flatMap fun m _ => (unstopped_check h m.2).descend _ s
  | .additional s known patterns, h, v => by
      rw [Rule.neverStops, Bool.and_eq_true, Option.isNone_iff_eq_none] at h
      obtain ⟨rfl, hs⟩ := h
      have hunknown : ∀ ms, unknownNames known [] ms =
          .ok ((ms.map (·.1)).filter fun name => !known.contains name) := by
        intro ms
        rw [unknownNames]
        exact if_pos (by simp)
      rw [checkRule]
      refine .onMembers fun ms => ?_
      rw [Option.getD_none, hunknown]
      exact (unstopped_noAdditional s _ _).append
        (.flatMap fun m _ => (unstopped_check hs m.2).whereAllowed _ s)
  | .eachName s, h, v => by
      rw [checkRule]
      exact .onMembers fun ms => .flatMap fun m _ => unstopped_check h _
  | .each s, h, v => by
      rw [checkRule]
      exact .onItems fun items => .flatMap fun p _ => (unstopped_check h p.1).descend _ s
  | .positions ss, h, v => by
      rw [checkRule]
      exact .onItems fun items => unstopped_checkPositions h 0 items
  | .beyond s (some n), h, v => by
      rw [Rule.neverStops, Bool.and_eq_true] at h
      rw [checkRule]
      exact .onItems fun items => (unstopped_noItems s _).append
        (.flatMap fun p _ => (unstopped_check h.2 p.1).whereAllowed _ s)
  | .beyond _ none, h, _ => nomatch h
  | .contains s, h, v => by
      rw [checkRule]
      refine .onItems fun items => ?_
      have hitems : ∀ found ∈ items.map (fun item => check follow s item),
          ∃ b, startsClear found = .ok b := by
        intro found hfound
        obtain ⟨item, -, rfl⟩ := List.mem_map.mp hfound
        exact ⟨_, (unstopped_check h item).startsClear_eq⟩
      obtain ⟨b, hb⟩ := anyClear_eq_ok hitems
      exact .whenClear hb .nil (.other _)
  | .distinct, h, v => by
      rw [checkRule]
      refine .onItems fun items => ?_
      split
      · exact .nil
      · exact .other _
  | .allOf ss, h, v => by
      rw [checkRule]
      exact unstopped_checkAll h v
  | .anyOf ss, h, v => by
      rw [checkRule]
      have hoptions : ∀ found ∈ checkEach follow ss v, ∃ b, isClear found = .ok b :=
        fun found hfound => ⟨_, (unstopped_checkEach h v found hfound).isClear_eq⟩
      obtain ⟨b, hb⟩ := anyClear_eq_ok hoptions
      exact .whenClear hb .nil (.other _)
  | .oneOf options, h, v => by
      rw [checkRule]
      obtain ⟨shown, hshown⟩ := clearOptions_eq_ok isClear (unstopped_checkOptions h v)
        fun hfound => ⟨_, hfound.isClear_eq⟩
      rw [hshown]
      exact unstopped_onlyOption v
  | .not s shown, h, v => by
      rw [checkRule]
      exact .whenClear (unstopped_check h v).startsClear_eq (.other _) .nil
  | .branch test yes no, h, v => by
      rw [Rule.neverStops, Bool.and_eq_true, Bool.and_eq_true] at h
      rw [checkRule]
      exact .whenClear (unstopped_check h.1.1 v).startsClear_eq (unstopped_check h.1.2 v)
        (unstopped_check h.2 v)
termination_by r => sizeOf r

theorem unstopped_checkProperties : ∀ {ps : List (String × Schema)}, namedNeverStop ps = true →
    ∀ ms, Unstopped (checkProperties follow ps ms)
  | [], _, _ => by rw [checkProperties]; exact .nil
  | (name, s) :: ps, h, ms => by
      rw [namedNeverStop, Bool.and_eq_true] at h
      rw [checkProperties]
      refine .append ?_ (unstopped_checkProperties h.2 ms)
      split
      · exact (unstopped_check h.1 _).descend _ s
      · exact .nil
termination_by ps => sizeOf ps

theorem unstopped_checkPositions : ∀ {ss : List Schema}, allNeverStop ss = true →
    ∀ i items, Unstopped (checkPositions follow ss i items)
  | [], _, _, _ => by rw [checkPositions]; exact .nil
  | _ :: _, _, _, [] => by
      rw [checkPositions]
      · exact .nil
      · nofun
  | s :: ss, h, i, v :: vs => by
      rw [allNeverStop, Bool.and_eq_true] at h
      rw [checkPositions]
      exact ((unstopped_check h.1 v).descend _ s).append (unstopped_checkPositions h.2 (i + 1) vs)
termination_by ss => sizeOf ss

theorem unstopped_checkAll : ∀ {ss : List Schema}, allNeverStop ss = true → ∀ v,
    Unstopped (checkAll follow ss v)
  | [], _, _ => by rw [checkAll]; exact .nil
  | s :: ss, h, v => by
      rw [allNeverStop, Bool.and_eq_true] at h
      rw [checkAll]
      exact (unstopped_check h.1 v).append (unstopped_checkAll h.2 v)
termination_by ss => sizeOf ss

theorem unstopped_checkEach : ∀ {ss : List Schema}, allNeverStop ss = true → ∀ v,
    ∀ found ∈ checkEach follow ss v, Unstopped found
  | [], _, _ => by rw [checkEach]; exact fun _ hfound => absurd hfound List.not_mem_nil
  | s :: ss, h, v => by
      rw [allNeverStop, Bool.and_eq_true] at h
      rw [checkEach]
      exact List.forall_mem_cons.mpr ⟨unstopped_check h.1 v, unstopped_checkEach h.2 v⟩
termination_by ss => sizeOf ss

theorem unstopped_checkOptions : ∀ {options : List (Json × Schema)},
    optionsNeverStop options = true → ∀ v, ∀ p ∈ checkOptions follow options v, Unstopped p.2
  | [], _, _ => by rw [checkOptions]; exact fun _ hp => absurd hp List.not_mem_nil
  | (shown, s) :: options, h, v => by
      rw [optionsNeverStop, Bool.and_eq_true] at h
      rw [checkOptions]
      exact List.forall_mem_cons.mpr ⟨unstopped_check h.1 v, unstopped_checkOptions h.2 v⟩
termination_by options => sizeOf options

end

theorem validate_eq_ok {schema : Json} {s : Schema} (hs : read schema = .ok s)
    (h : s.neverStops = true) (v : Json) :
    validate schema v = .ok (check (references schema) s v) := by
  rw [validate, hs]
  dsimp only [bind, Except.bind]
  rw [(unstopped_check h v).firstFault?_eq_none]
  rfl

end Schema

theorem Builtin.validate_schema {d : Definition} (hd : d ∈ Catalog.builtin.definitions) (v : Json) :
    ∃ s, Schema.read (.obj d.configSchema) = .ok s ∧
      Schema.validate (.obj d.configSchema) v =
        .ok (s.check (Schema.references (.obj d.configSchema)) v) := by
  have hall : ∀ d ∈ Catalog.builtin.definitions,
      (Schema.read (.obj d.configSchema)).toOption.any Schema.neverStops = true := by
    decide +kernel
  have hone := hall d hd
  cases hs : Schema.read (.obj d.configSchema) with
  | error f =>
      rw [hs] at hone
      exact absurd hone Bool.false_ne_true
  | ok s =>
      rw [hs] at hone
      exact ⟨s, rfl, Schema.validate_eq_ok hs hone v⟩

end DurableFlow
