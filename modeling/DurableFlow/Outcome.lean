/-!
Computations that may fail and that leave notices behind. The notices are kept whether or not the
computation fails, in the order in which they were left.
-/

namespace DurableFlow

/-- Why a value cannot be used where it stands. -/
inductive Fault where
  /-- The value has a type for which the operation has no meaning. -/
  | wrongType
  /-- A member was asked for of a value that is no object. -/
  | notAnObject
  /-- The number is too large to be converted. -/
  | tooLarge
  /-- A schema is not a well-formed schema. -/
  | badSchema
  /-- The value is nested too deeply to be read, with the words for where that was noticed. -/
  | tooDeep (place : String)
  /-- The value has the right type but cannot be used, for the reason given. -/
  | badValue (reason : String)
  deriving DecidableEq, Repr

def Fault.reason? : Fault → Option String
  | .badValue reason => some reason
  | .tooDeep place => some place
  | _ => none

inductive Level where
  | info
  | warning
  deriving DecidableEq, Repr

structure Notice where
  level : Level
  text : String
  deriving DecidableEq, Repr

/-- A result or a failure, with the notices left on the way. -/
structure Outcome (ε α : Type) where
  result : Except ε α
  notices : List Notice

namespace Outcome

variable {ε α β : Type}

protected def pure (a : α) : Outcome ε α := ⟨.ok a, []⟩

protected def bind (x : Outcome ε α) (f : α → Outcome ε β) : Outcome ε β :=
  match x.result with
  | .error e => ⟨.error e, x.notices⟩
  | .ok a => ⟨(f a).result, x.notices ++ (f a).notices⟩

instance : Monad (Outcome ε) where
  pure := Outcome.pure
  bind := Outcome.bind

/-- Stops with a failure. -/
def fail (e : ε) : Outcome ε α := ⟨.error e, []⟩

/-- A computation that leaves no notice. -/
def ofExcept (x : Except ε α) : Outcome ε α := ⟨x, []⟩

instance : MonadLift (Except ε) (Outcome ε) where
  monadLift := ofExcept

def warn (text : String) : Outcome ε Unit := ⟨.ok (), [⟨.warning, text⟩]⟩

def inform (text : String) : Outcome ε Unit := ⟨.ok (), [⟨.info, text⟩]⟩

/-- Replaces the failure and keeps the rest. -/
def mapError {ε' : Type} (f : ε → ε') (x : Outcome ε α) : Outcome ε' α :=
  ⟨x.result.mapError f, x.notices⟩

@[simp] theorem result_pure (a : α) : (pure a : Outcome ε α).result = .ok a := rfl

@[simp] theorem notices_pure (a : α) : (pure a : Outcome ε α).notices = [] := rfl

theorem result_bind (x : Outcome ε α) (f : α → Outcome ε β) :
    (x >>= f).result = x.result.bind fun a => (f a).result := by
  show (Outcome.bind x f).result = _
  unfold Outcome.bind
  cases x.result <;> rfl

end Outcome

end DurableFlow
