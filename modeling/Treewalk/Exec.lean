import Treewalk.Fault

/-!
# Computations

A computation acts on a state and is done with a value, fails with a fault, or runs out of the fuel
it was given. A failed computation keeps its effects on the state: only the value is missing.
Running out of fuel is no result at all and is never caught. It shows the state in which the
computation was cut off, so that what happened until then can be observed of endless ones too.
-/

namespace Treewalk

/-- What a computation comes to. -/
inductive Outcome (State Result : Type) where
  | done (result : Result) (state : State)
  | failed (fault : Fault) (state : State)
  | exhausted (state : State)

namespace Outcome

variable {State Result : Type}

/-- The state that was reached, whichever way the computation ended. -/
def state : Outcome State Result → State
  | .done _ state => state
  | .failed _ state => state
  | .exhausted state => state

/-- The state a finished computation leaves behind. -/
def final? : Outcome State Result → Option State
  | .done _ state => some state
  | .failed _ state => some state
  | .exhausted _ => none

/-- The value or the fault of a finished computation. -/
def result? : Outcome State Result → Option (Except Fault Result)
  | .done result _ => some (.ok result)
  | .failed fault _ => some (.error fault)
  | .exhausted _ => none

end Outcome

/-- A computation on a state. -/
def Exec (State Result : Type) : Type :=
  State → Outcome State Result

namespace Exec

variable {State Inner Result Next : Type}

/-- Be done with a value at once. -/
@[inline] protected def pure (result : Result) : Exec State Result :=
  fun state => .done result state

/-- Go on with the value of a computation; a fault ends both. -/
@[inline] protected def bind (first : Exec State Result) (next : Result → Exec State Next) :
    Exec State Next :=
  fun state =>
    match first state with
    | .done result after => next result after
    | .failed fault after => .failed fault after
    | .exhausted after => .exhausted after

@[always_inline]
instance : Monad (Exec State) where
  pure := Exec.pure
  bind := Exec.bind

/-- The current state. -/
@[inline] def state : Exec State State :=
  fun current => .done current current

/-- Change the state. -/
@[inline] def update (change : State → State) : Exec State Unit :=
  fun current => .done () (change current)

/-- Fail with a fault. -/
@[inline] def fail (fault : Fault) : Exec State Result :=
  fun current => .failed fault current

/-- Fail for a cause that nobody has handled yet. -/
@[inline] def failFor (cause : Cause) : Exec State Result :=
  fail (.ofCause cause)

/-- Give a settled result. -/
@[inline] def ofExcept : Except Fault Result → Exec State Result
  | .ok result => Exec.pure result
  | .error fault => fail fault

/-- Give a value, or fail for a cause when there is none. -/
@[inline] def ofOption (cause : Cause) : Option Result → Exec State Result
  | some result => Exec.pure result
  | none => failFor cause

/-- Out of fuel. -/
@[inline] def exhausted : Exec State Result :=
  fun current => .exhausted current

/-- Turn failing into a value. -/
@[inline] def attempt (body : Exec State Result) : Exec State (Except Fault Result) :=
  fun current =>
    match body current with
    | .done result after => .done (.ok result) after
    | .failed fault after => .done (.error fault) after
    | .exhausted after => .exhausted after

/-- Change the state after a computation, whichever way it ended. -/
@[inline] def ensuring (body : Exec State Result) (cleanup : State → State) :
    Exec State Result :=
  fun current =>
    match body current with
    | .done result after => .done result (cleanup after)
    | .failed fault after => .failed fault (cleanup after)
    | .exhausted after => .exhausted after

/-- Run a computation on a part of the state. -/
@[inline] def zoom (part : State → Inner) (put : Inner → State → State)
    (body : Exec Inner Result) : Exec State Result :=
  fun current =>
    match body (part current) with
    | .done result after => .done result (put after current)
    | .failed fault after => .failed fault (put after current)
    | .exhausted after => .exhausted (put after current)

@[simp] theorem pure_apply (result : Result) (current : State) :
    (pure result : Exec State Result) current = .done result current :=
  rfl

/-- Sequencing runs the second computation exactly on what the first is done with. -/
theorem bind_apply (first : Exec State Result) (next : Result → Exec State Next)
    (current : State) :
    (first >>= next) current =
      match first current with
      | .done result after => next result after
      | .failed fault after => .failed fault after
      | .exhausted after => .exhausted after :=
  rfl

end Exec

end Treewalk
