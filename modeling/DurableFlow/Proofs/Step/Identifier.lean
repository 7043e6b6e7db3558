import DurableFlow.Expression.Path
import DurableFlow.Proofs.Text.Class
import DurableFlow.Proofs.Text.Mark
import DurableFlow.Step.Name

/-!
Step names are identifiers: each is made of ASCII letters, digits and underscores and does not start
with a digit, whatever the text that it comes from and however many names are taken. Every node of a
graph has one.
-/

namespace DurableFlow

namespace Step

/-- A name made of ASCII letters, digits and underscores that does not start with a digit. -/
def IsIdentifier (cs : List Char) : Prop :=
  (∀ c ∈ cs, Text.isAsciiWord c = true) ∧ ∃ c ∈ cs.head?, ¬Text.isAsciiDigit c = true

theorem isAsciiWord_toLower {c : Char} (h : Text.isAsciiWord c = true) :
    Text.isAsciiWord (toLower c) = true := by
  rw [toLower]
  split
  · rename_i hupper
    rw [Text.isAsciiUpper_iff] at hupper
    rw [Text.isAsciiWord_iff, Text.toNat_ofNat (by omega)]
    omega
  · exact h

theorem isAsciiWord_toUpper {c : Char} (h : Text.isAsciiWord c = true) :
    Text.isAsciiWord (toUpper c) = true := by
  rw [toUpper]
  split
  · rename_i hlower
    rw [Text.isAsciiLower_iff] at hlower
    rw [Text.isAsciiWord_iff, Text.toNat_ofNat (by omega)]
    omega
  · exact h

theorem forall_mem_mapHead {P : Char → Prop} {f : Char → Char} {cs : List Char}
    (hf : ∀ c, P c → P (f c)) (h : ∀ c ∈ cs, P c) : ∀ c ∈ mapHead f cs, P c := by
  cases cs with
  | nil => exact h
  | cons d cs =>
      intro c hc
      rcases List.mem_cons.mp hc with rfl | hc
      · exact hf d (h d List.mem_cons_self)
      · exact h c (List.mem_cons_of_mem d hc)

theorem isAsciiWord_camelWord (first : Bool) {word : List Char}
    (h : ∀ c ∈ word, Text.isAsciiWord c = true) :
    ∀ c ∈ camelWord first word, Text.isAsciiWord c = true := by
  rw [camelWord]
  apply forall_mem_mapHead (P := (Text.isAsciiWord · = true))
  · intro c hc
    cases first
    · exact isAsciiWord_toUpper hc
    · exact isAsciiWord_toLower hc
  · split
    · intro c hc
      obtain ⟨d, hd, rfl⟩ := List.mem_map.mp hc
      exact isAsciiWord_toLower (h d hd)
    · exact h

theorem camelWord_ne_nil (first : Bool) {word : List Char} (h : word ≠ []) :
    camelWord first word ≠ [] := by
  obtain ⟨c, cs, rfl⟩ := List.exists_cons_of_ne_nil h
  rw [camelWord]
  by_cases hacronym : isAcronym (c :: cs) = true
  · simp [hacronym, mapHead]
  · simp [hacronym, mapHead]

theorem camelWords_spec {words : List (List Char)} (hne : words ≠ [])
    (h : ∀ w ∈ words, w ≠ [] ∧ ∀ c ∈ w, Text.isAsciiWord c = true) :
    camelWords words ≠ [] ∧ ∀ c ∈ camelWords words, Text.isAsciiWord c = true := by
  obtain ⟨word, rest, rfl⟩ := List.exists_cons_of_ne_nil hne
  obtain ⟨hword, hchars⟩ := h word List.mem_cons_self
  refine ⟨List.append_ne_nil_of_left_ne_nil (camelWord_ne_nil true hword) _, fun c hc => ?_⟩
  rcases List.mem_append.mp hc with hc | hc
  · exact isAsciiWord_camelWord true hchars c hc
  · obtain ⟨w, hw, hc⟩ := List.mem_flatMap.mp hc
    exact isAsciiWord_camelWord false (h w (List.mem_cons_of_mem word hw)).2 c hc

theorem isIdentifier_startWithLetter {cs : List Char} (hne : cs ≠ [])
    (h : ∀ c ∈ cs, Text.isAsciiWord c = true) : IsIdentifier (startWithLetter cs) := by
  obtain ⟨c, rest, rfl⟩ := List.exists_cons_of_ne_nil hne
  rw [startWithLetter]
  split
  · refine ⟨fun x hx => ?_, 's', rfl, by decide⟩
    rcases List.mem_append.mp hx with hx | hx
    · exact List.all_eq_true.mp (by decide : "step".toList.all Text.isAsciiWord = true) x hx
    · exact forall_mem_mapHead (P := (Text.isAsciiWord · = true)) (fun _ => isAsciiWord_toUpper) h x hx
  · rename_i hdigit
    exact ⟨h, c, rfl, hdigit⟩

theorem IsIdentifier.append {cs more : List Char} (h : IsIdentifier cs)
    (hmore : ∀ c ∈ more, Text.isAsciiWord c = true) : IsIdentifier (cs ++ more) := by
  obtain ⟨hall, c, hc, hdigit⟩ := h
  refine ⟨fun x hx => ?_, c, ?_, hdigit⟩
  · rcases List.mem_append.mp hx with hx | hx
    · exact hall x hx
    · exact hmore x hx
  · rw [List.head?_append, hc]
    rfl

theorem isIdentifier_identifier (s : String) : IsIdentifier (identifier s).toList := by
  rw [identifier]
  split
  · exact ⟨List.all_eq_true.mp (by decide), 's', by decide, by decide⟩
  · rename_i words hwords
    have hspec := camelWords_spec (fun hnil => hwords hnil) fun w hw => (Text.of_mem_runs hw).2
    have hletters := isIdentifier_startWithLetter hspec.1 hspec.2
    rw [avoidReserved]
    split
    · rw [String.toList_append, String.toList_ofList]
      exact hletters.append (List.all_eq_true.mp (by decide))
    · rw [String.toList_ofList]
      exact hletters

theorem isAsciiDigit_of_mem_toString {n : Nat} {c : Char} (hc : c ∈ (toString n).toList) :
    Text.isAsciiDigit c = true := by
  rw [Nat.toString_eq_repr, Nat.toList_repr] at hc
  exact Nat.isDigit_of_mem_toDigits (by decide) (by decide) hc

theorem isAsciiWord_of_mem_toString {n : Nat} {c : Char} (hc : c ∈ (toString n).toList) :
    Text.isAsciiWord c = true := by
  rw [Text.isAsciiWord_iff]
  exact .inr (.inr (.inl ((Text.isAsciiDigit_iff c).mp (isAsciiDigit_of_mem_toString hc))))

theorem isIdentifier_freshFrom {used : List String} {base : String} {fuel counter : Nat}
    (h : IsIdentifier base.toList) : IsIdentifier (freshFrom used base fuel counter).toList := by
  have hnumbered : ∀ n : Nat, IsIdentifier (base ++ toString n).toList := by
    intro n
    rw [String.toList_append]
    exact h.append fun c hc => isAsciiWord_of_mem_toString hc
  induction fuel generalizing counter with
  | zero => exact hnumbered counter
  | succ fuel ih =>
      rw [freshFrom]
      split
      · exact ih
      · exact hnumbered counter

theorem isIdentifier_fresh {used : List String} {base : String} (h : IsIdentifier base.toList) :
    IsIdentifier (fresh used base).toList := by
  rw [fresh]
  split
  · exact isIdentifier_freshFrom h
  · exact h

/-! ### The names of a graph -/

theorem isIdentifier_of_mem_namesFrom {named : List (String × String)} {ns : List Node}
    (h : ∀ p ∈ named, IsIdentifier p.2.toList) :
    ∀ p ∈ namesFrom named ns, IsIdentifier p.2.toList := by
  induction ns generalizing named with
  | nil => exact h
  | cons n ns ih =>
      rw [namesFrom]
      split
      · exact ih h
      · refine ih fun p hp => ?_
        rcases List.mem_append.mp hp with hp | hp
        · exact h p hp
        · rw [List.mem_singleton] at hp
          subst hp
          exact isIdentifier_fresh (isIdentifier_identifier _)

theorem mem_namesFrom {named : List (String × String)} {ns : List Node} {id : String}
    (h : id ∈ named.map (·.1) ∨ id ∈ ns.map (·.id)) : id ∈ (namesFrom named ns).map (·.1) := by
  induction ns generalizing named with
  | nil => simpa [namesFrom] using h
  | cons n ns ih =>
      rw [namesFrom]
      split
      · rename_i htaken
        apply ih
        rcases h with h | h
        · exact .inl h
        · rcases List.mem_cons.mp h with rfl | h
          · obtain ⟨p, hp, heq⟩ := List.any_eq_true.mp htaken
            exact .inl (List.mem_map.mpr ⟨p, hp, beq_iff_eq.mp heq⟩)
          · exact .inr h
      · apply ih
        rw [List.map_append, List.mem_append]
        rcases h with h | h
        · exact .inl (.inl h)
        · rcases List.mem_cons.mp h with rfl | h
          · exact .inl (.inr List.mem_cons_self)
          · exact .inr h

theorem lookup_names {g : Graph} {n : Node} (h : n ∈ g.nodes) :
    ∃ name, (names g).lookup n.id = some name ∧ IsIdentifier name.toList := by
  have hmem : n.id ∈ (names g).map (·.1) := mem_namesFrom (.inr (List.mem_map_of_mem h))
  cases hlookup : (names g).lookup n.id with
  | none =>
      rw [List.lookup_eq_none_iff] at hlookup
      obtain ⟨p, hp, heq⟩ := List.mem_map.mp hmem
      simpa [heq] using hlookup p hp
  | some name =>
      refine ⟨name, rfl, ?_⟩
      obtain ⟨before, behind, hsplit, -⟩ := List.lookup_eq_some_iff.mp hlookup
      have hmem : (n.id, name) ∈ namesFrom [] g.nodes := by
        rw [← names, hsplit]
        exact List.mem_append_right _ List.mem_cons_self
      exact isIdentifier_of_mem_namesFrom (by simp) (n.id, name) hmem

end Step

end DurableFlow
