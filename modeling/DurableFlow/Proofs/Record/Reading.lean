import DurableFlow.Record.Checked

/-!
Reading records, one step at a time. A record is read when its fields are, a field is read from the
member under the first of its names that is present, and a list is read when its items are.
-/

namespace DurableFlow.Checked

variable {α β : Type}

theorem map_eq_ok_iff {f : α → β} {x : Checked α} {b : β} :
    f <$> x = .ok b ↔ ∃ a, x = .ok a ∧ f a = b := by
  show Checked.map f x = .ok b ↔ _
  cases x <;> simp [Checked.map]

theorem seq_eq_ok_iff {f : Checked (α → β)} {x : Checked α} {b : β} :
    f <*> x = .ok b ↔ ∃ g, f = .ok g ∧ ∃ a, x = .ok a ∧ g a = b := by
  show Checked.seq f x = .ok b ↔ _
  cases f <;> cases x <;> simp [Checked.seq]

theorem andThen_eq_ok_iff {x : Checked α} {f : α → Checked β} {b : β} :
    x.andThen f = .ok b ↔ ∃ a, x = .ok a ∧ f a = .ok b := by
  cases x <;> simp [andThen]

theorem under_eq_ok_iff {name : String} {x : Checked α} {a : α} :
    under name x = .ok a ↔ x = .ok a := by
  cases x <;> simp [under]

theorem string_eq_ok_iff {v : Json} {s : String} : string v = .ok s ↔ v = .str s := by
  cases v <;> simp [string, issue]

theorem record_eq_ok_iff {name : String} {read : Members → Checked α} {v : Json} {a : α} :
    record name read v = .ok a ↔ ∃ ms, v = .obj ms ∧ read ms = .ok a := by
  cases v <;> simp [record, issue]

theorem above_eq_ok_iff {bound n m : Int} : above bound n = .ok m ↔ n = m ∧ bound < m := by
  rw [above]
  split <;> simp [issue] <;> omega

theorem notBelow_eq_ok_iff {bound n m : Int} : notBelow bound n = .ok m ↔ n = m ∧ bound ≤ m := by
  rw [notBelow]
  split <;> simp [issue] <;> omega

/-! ### Fields -/

section Fields

variable {read : Json → Checked α} {ms : Members} {a : α}

theorem fieldOr_of_get? {name : String} {v : Json} (h : Members.get? name ms = some v)
    (others : List String) (absent : Checked α) :
    fieldOr ms (name :: others) read absent = .ok a ↔ read v = .ok a := by
  simp [fieldOr, Members.has, h, under_eq_ok_iff]

theorem fieldOr_of_absent {names : List String} (h : ∀ name ∈ names, Members.get? name ms = none)
    (absent : Checked α) : fieldOr ms names read absent = absent := by
  have hfind : names.find? (fun name => Members.has name ms) = none :=
    List.find?_eq_none.mpr fun name hname => by simp [Members.has, h name hname]
  rw [fieldOr, hfind]

/-- A field is read from a member under one of its names, or it is absent. -/
theorem fieldOr_cases (ms : Members) (names : List String) (read : Json → Checked α)
    (absent : Checked α) :
    (∃ name ∈ names, ∃ v, Members.get? name ms = some v ∧
      fieldOr ms names read absent = under name (read v)) ∨
    fieldOr ms names read absent = absent := by
  rw [fieldOr]
  split
  · next name hname =>
      have hhas : Members.has name ms = true := by simpa using List.find?_some hname
      obtain ⟨v, hv⟩ := Option.isSome_iff_exists.mp hhas
      rw [hv]
      exact .inl ⟨name, List.mem_of_find?_eq_some hname, v, hv, rfl⟩
  · exact .inr rfl

theorem fieldOr_eq_ok {names : List String} {absent : Checked α}
    (h : fieldOr ms names read absent = .ok a) :
    (∃ name v, Members.get? name ms = some v ∧ read v = .ok a) ∨ absent = .ok a := by
  rcases fieldOr_cases ms names read absent with ⟨name, -, v, hv, heq⟩ | heq
  · exact .inl ⟨name, v, hv, under_eq_ok_iff.mp (heq ▸ h)⟩
  · exact .inr (heq ▸ h)

theorem fieldD_eq_ok {names : List String} {default : α}
    (h : fieldD ms names read default = .ok a) :
    (∃ name v, Members.get? name ms = some v ∧ read v = .ok a) ∨ default = a :=
  (fieldOr_eq_ok h).imp_right Checked.ok.inj

theorem field_eq_ok {name : String} (h : field ms name read = .ok a) : ∃ v, read v = .ok a := by
  rcases fieldOr_eq_ok h with ⟨_, v, _, hread⟩ | h
  · exact ⟨v, hread⟩
  · contradiction

theorem fieldD_eq_ok_iff {ms : Members} {name : String} {read : Json → Checked α} {default a : α} :
    fieldD ms [name] read default = .ok a ↔
      match Members.get? name ms with
      | some v => read v = .ok a
      | none => default = a := by
  cases hget : Members.get? name ms with
  | some v => exact fieldOr_of_get? hget [] _
  | none =>
      have habsent : ∀ other ∈ [name], Members.get? other ms = none := by simpa using hget
      simp [fieldD, fieldOr_of_absent habsent]

theorem fieldD_set_self {ms : Members} {name : String} {v : Json} {read : Json → Checked α}
    {default a : α} :
    fieldD (Members.set name v ms) [name] read default = .ok a ↔ read v = .ok a := by
  rw [fieldD_eq_ok_iff, Members.get?_set_self]

theorem fieldD_set_of_ne {ms : Members} {key name : String} (h : name ≠ key) {v : Json}
    {read : Json → Checked α} {default a : α} :
    fieldD (Members.set key v ms) [name] read default = .ok a ↔
      fieldD ms [name] read default = .ok a := by
  rw [fieldD_eq_ok_iff, fieldD_eq_ok_iff, Members.get?_set_of_ne h]

end Fields

/-! ### Dictionaries, options and lists -/

section Parts

variable {read : Json → Checked α} {a : α}

theorem dictionary_eq_ok_iff {ms : Members} {v : Json} : dictionary v = .ok ms ↔ v = .obj ms := by
  cases v <;> simp [dictionary, issue]

theorem optional_eq_some {v : Json} (h : optional read v = .ok (some a)) : read v = .ok a := by
  rw [optional.eq_def] at h
  split at h
  · cases h
  · obtain ⟨b, hread, hsome⟩ := map_eq_ok_iff.mp h
    rw [hread, Option.some.inj hsome]

theorem list_map {write : α → Json} {as : List α} (h : ∀ a ∈ as, read (write a) = .ok a) :
    list read (.arr (as.map write)) = .ok as := by
  have hgo : ∀ start, itemsFrom read start (as.map write) = .ok as := by
    induction as with
    | nil => exact fun _ => rfl
    | cons a as ih =>
        intro start
        rw [List.forall_mem_cons] at h
        rw [List.map_cons, itemsFrom, h.1, ih h.2]
        rfl
  exact hgo 0

theorem exists_of_mem_itemsFrom {items : List Json} {as : List α} {start : Nat}
    (h : itemsFrom read start items = .ok as) : ∀ a ∈ as, ∃ v ∈ items, read v = .ok a := by
  induction items generalizing start as with
  | nil =>
      cases h
      exact fun a ha => absurd ha List.not_mem_nil
  | cons v items ih =>
      obtain ⟨_, hcons, as, hitems, rfl⟩ := seq_eq_ok_iff.mp h
      obtain ⟨a, hv, rfl⟩ := map_eq_ok_iff.mp hcons
      rw [List.forall_mem_cons]
      refine ⟨⟨v, List.mem_cons_self, under_eq_ok_iff.mp hv⟩, fun b hb => ?_⟩
      obtain ⟨w, hw, hread⟩ := ih hitems b hb
      exact ⟨w, List.mem_cons_of_mem v hw, hread⟩

theorem list_eq_ok {v : Json} {as : List α} (h : list read v = .ok as) :
    ∃ items, v = .arr items ∧ ∀ a ∈ as, ∃ item ∈ items, read item = .ok a := by
  cases v with
  | arr items => exact ⟨items, rfl, exists_of_mem_itemsFrom h⟩
  | _ => contradiction

end Parts

end DurableFlow.Checked
