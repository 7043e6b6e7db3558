import DurableFlow.Record.Checked
import Mathlib.Data.List.Forall2

/-!
Two readings of much the same value. They are related when both give a record and the records are
related, when both find the same issues, or when neither gets through. Readings that are made of related
ones are related.
-/

namespace DurableFlow.Checked

variable {α β γ δ : Type}

/-- The readings give related records or the same issues, or neither gets through. -/
inductive Related (R : α → β → Prop) : Checked α → Checked β → Prop where
  | ok {a : α} {b : β} (h : R a b) : Related R (.ok a) (.ok b)
  | issues (found : List Issue) : Related R (.issues found) (.issues found)
  | stopped : Related R .stopped .stopped

namespace Related

variable {R : α → β → Prop} {S : γ → δ → Prop} {x : Checked α} {y : Checked β}

theorem of_eq {R : α → α → Prop} (hR : ∀ a, R a a) {x y : Checked α} (h : x = y) : Related R x y := by
  subst h
  cases x with
  | ok a => exact .ok (hR a)
  | issues found => exact .issues found
  | stopped => exact .stopped

theorem map {f : α → γ} {g : β → δ} (hx : Related R x y) (hf : ∀ a b, R a b → S (f a) (g b)) :
    Related S (f <$> x) (g <$> y) := by
  cases hx with
  | ok h => exact .ok (hf _ _ h)
  | issues found => exact .issues found
  | stopped => exact .stopped

theorem seq {f : Checked (α → γ)} {g : Checked (β → δ)}
    (hf : Related (fun f g => ∀ a b, R a b → S (f a) (g b)) f g) (hx : Related R x y) :
    Related S (f <*> x) (g <*> y) := by
  cases hf with
  | ok h =>
      cases hx with
      | ok hab => exact .ok (h _ _ hab)
      | issues found => exact .issues found
      | stopped => exact .stopped
  | issues found =>
      cases hx with
      | ok _ => exact .issues found
      | issues more => exact .issues (found ++ more)
      | stopped => exact .stopped
  | stopped => cases hx <;> exact .stopped

theorem under (hx : Related R x y) (name : String) :
    Related R (under name x) (under name y) := by
  cases hx with
  | ok h => exact .ok h
  | issues found => exact .issues _
  | stopped => exact .stopped

theorem list {read : Json → Checked α} {read' : Json → Checked β} {items items' : List Json}
    (h : List.Forall₂ (fun v w => Related R (read v) (read' w)) items items') :
    Related (List.Forall₂ R) (list read (.arr items)) (list read' (.arr items')) := by
  have hfrom : ∀ start, Related (List.Forall₂ R) (itemsFrom read start items)
      (itemsFrom read' start items') := by
    induction h with
    | nil => exact fun _ => .ok .nil
    | cons hitem _ ih =>
        intro start
        refine seq (map (hitem.under _) fun a b hab => ?_) (ih (start + 1))
        exact fun as bs habs => .cons hab habs
  exact hfrom 0

end Related

/-! ### Fields -/

variable {ms ms' : Members}

theorem fieldOr_congr {names : List String} {read : Json → Checked α} {absent : Checked α}
    (h : ∀ name ∈ names, Members.get? name ms' = Members.get? name ms) :
    fieldOr ms' names read absent = fieldOr ms names read absent := by
  have hfind : names.find? (fun name => Members.has name ms') =
      names.find? (fun name => Members.has name ms) := by
    rw [← List.head?_filter, ← List.head?_filter]
    exact congrArg List.head? (List.filter_congr fun name hname => by
      rw [Members.has, h name hname, Members.has])
  rw [fieldOr, fieldOr, hfind]
  cases hname : names.find? (fun name => Members.has name ms) with
  | none => rfl
  | some name => simp only [h name (List.mem_of_find?_eq_some hname)]

theorem fieldD_of_get? {name : String} {v : Json} (h : Members.get? name ms = some v)
    (read : Json → Checked α) (default : α) :
    fieldD ms [name] read default = under name (read v) := by
  simp [fieldD, fieldOr, Members.has, h]

end DurableFlow.Checked
