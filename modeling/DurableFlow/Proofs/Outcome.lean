import DurableFlow.Outcome

/-!
Taking computations apart, one step at a time: a sequence succeeds when all of its steps do, and
fails with the failure of the first step that fails. What a computation gives and how it can fail
are said together.
-/

namespace DurableFlow

theorem bind_eq_ok {ε α β : Type} {x : Except ε α} {f : α → Except ε β} {b : β}
    (h : x >>= f = .ok b) : ∃ a, x = .ok a ∧ f a = .ok b := by
  cases x with
  | error e => contradiction
  | ok a => exact ⟨a, rfl, h⟩

theorem mapError_eq_ok {ε ε' α : Type} {f : ε → ε'} {x : Except ε α} {a : α}
    (h : x.mapError f = .ok a) : x = .ok a := by
  cases x with
  | error e => contradiction
  | ok b => exact congrArg Except.ok (Except.ok.inj h)

theorem map_eq_ok {ε α β : Type} {f : α → β} {x : Except ε α} {b : β} (h : x.map f = .ok b) :
    ∃ a, x = .ok a ∧ f a = b := by
  cases x with
  | error e => contradiction
  | ok a => exact ⟨a, rfl, Except.ok.inj h⟩

theorem bind_eq_error {ε α β : Type} {x : Except ε α} {f : α → Except ε β} {e : ε}
    (h : x >>= f = .error e) : x = .error e ∨ ∃ a, x = .ok a ∧ f a = .error e := by
  cases x with
  | error e' => exact .inl (congrArg Except.error (Except.error.inj h))
  | ok a => exact .inr ⟨a, rfl, h⟩

theorem mapError_eq_error {ε ε' α : Type} {f : ε → ε'} {x : Except ε α} {e : ε'}
    (h : x.mapError f = .error e) : ∃ e', x = .error e' ∧ f e' = e := by
  cases x with
  | error e' => exact ⟨e', rfl, Except.error.inj h⟩
  | ok a => contradiction

theorem map_eq_error {ε α β : Type} {f : α → β} {x : Except ε α} {e : ε}
    (h : x.map f = .error e) : x = .error e := by
  cases x with
  | error e' => exact congrArg Except.error (Except.error.inj h)
  | ok a => contradiction

theorem map_toOption_eq_some {ε α β : Type} {f : α → β} {x : Except ε α} {b : β}
    (h : x.toOption.map f = some b) : ∃ a, x = .ok a ∧ f a = b := by
  cases x with
  | error e => contradiction
  | ok a => exact ⟨a, rfl, Option.some.inj h⟩

/-- The computation gives a result with one property, or a failure with the other. -/
def Meets {ε α : Type} (x : Except ε α) (P : α → Prop) (E : ε → Prop) : Prop :=
  match x with
  | .ok a => P a
  | .error e => E e

namespace Meets

variable {ε α β : Type} {x : Except ε α} {P Q : α → Prop} {E E' : ε → Prop}

theorem of_ok (h : Meets x P E) {a : α} (hx : x = .ok a) : P a := by
  subst hx
  exact h

theorem of_error (h : Meets x P E) {e : ε} (hx : x = .error e) : E e := by
  subst hx
  exact h

theorem imp (h : Meets x P E) (hP : ∀ a, P a → Q a) (hE : ∀ e, E e → E' e) : Meets x Q E' := by
  cases x with
  | error e => exact hE e h
  | ok a => exact hP a h

theorem of_errors (h : ∀ e, x = .error e → E e) : Meets x (fun a => x = .ok a) E := by
  cases x with
  | error e => exact h e rfl
  | ok a => exact rfl

theorem exists_ok (h : Meets x P fun _ => False) : ∃ a, x = .ok a := by
  cases x with
  | error e => exact h.elim
  | ok a => exact ⟨a, rfl⟩

theorem bind {f : α → Except ε β} {R : β → Prop} (h : Meets x P E)
    (hf : ∀ a, P a → Meets (f a) R E) : Meets (x >>= f) R E := by
  cases x with
  | error e => exact h
  | ok a => exact hf a h

theorem mapM {f : α → Except ε β} {R : β → Prop} {xs : List α} (h : ∀ a ∈ xs, Meets (f a) R E) :
    Meets (xs.mapM f) (fun bs => ∀ b ∈ bs, R b) E := by
  induction xs with
  | nil => exact fun _ hb => absurd hb List.not_mem_nil
  | cons a xs ih =>
      rw [List.mapM_cons]
      refine (h a List.mem_cons_self).bind fun b hb => ?_
      refine (ih fun a' ha' => h a' (List.mem_cons_of_mem a ha')).bind fun bs hbs => ?_
      exact List.forall_mem_cons.mpr ⟨hb, hbs⟩

end Meets

/-- Two computations that give related results, or fail in the same way. -/
def Agree {ε α β : Type} (R : α → β → Prop) (x : Except ε α) (y : Except ε β) : Prop :=
  match x, y with
  | .ok a, .ok b => R a b
  | .error e, .error e' => e' = e
  | _, _ => False

namespace Agree

variable {ε α β γ δ : Type} {R : α → β → Prop} {S : γ → δ → Prop} {x : Except ε α} {y : Except ε β}

theorem refl (x : Except ε α) : Agree Eq x x := by
  cases x with
  | error e => exact rfl
  | ok a => exact rfl

theorem eq {x y : Except ε α} (h : Agree (fun a b => b = a) x y) : y = x := by
  cases x <;> cases y <;> first | exact congrArg _ h | exact h.elim

theorem exists_ok {a : α} (h : Agree R x y) (hx : x = .ok a) : ∃ b, y = .ok b ∧ R a b := by
  subst hx
  cases y with
  | error e => exact h.elim
  | ok b => exact ⟨b, rfl, h⟩

theorem bind {f : α → Except ε γ} {g : β → Except ε δ} (h : Agree R x y)
    (hf : ∀ a b, R a b → Agree S (f a) (g b)) : Agree S (x >>= f) (y >>= g) := by
  cases x <;> cases y <;> first | exact hf _ _ h | exact h | exact h.elim

end Agree

namespace Outcome

variable {ε α β : Type}

theorem pure_bind (a : α) (f : α → Outcome ε β) : (pure a >>= f) = f a := rfl

theorem meets_bind {x : Outcome ε α} {f : α → Outcome ε β} {P : α → Prop} {R : β → Prop}
    {E : ε → Prop} (h : Meets x.result P E) (hf : ∀ a, P a → Meets (f a).result R E) :
    Meets (x >>= f).result R E := by
  rw [result_bind]
  exact h.bind hf

theorem result_bind_eq_ok {x : Outcome ε α} {f : α → Outcome ε β} {b : β}
    (h : (x >>= f).result = .ok b) : ∃ a, x.result = .ok a ∧ (f a).result = .ok b := by
  rw [result_bind] at h
  exact bind_eq_ok h

theorem result_bind_eq_error {x : Outcome ε α} {f : α → Outcome ε β} {e : ε}
    (h : (x >>= f).result = .error e) :
    x.result = .error e ∨ ∃ a, x.result = .ok a ∧ (f a).result = .error e := by
  rw [result_bind] at h
  exact bind_eq_error h

@[simp] theorem result_lift (x : Except ε α) : (liftM x : Outcome ε α).result = x := rfl

@[simp] theorem result_inform (text : String) :
    (inform text : Outcome ε Unit).result = .ok () := rfl

end Outcome

end DurableFlow
