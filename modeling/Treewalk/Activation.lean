import Treewalk.Machine

/-!
# Activations

Entering a scope opens a binding for each of its variables, logs a frame and puts the call site, if
there is one, on the call stack. Leaving undoes the three in reverse order, whichever way the body
ended. A frame that is refused leaves no trace in the bindings.

A scope whose bindings are already live, such as that of an initialized library, is entered without
opening bindings and left without closing any.
-/

namespace Treewalk

/-- An invocation of a scope. -/
structure Activation where
  layout : Layout
  callSite : Option NodeId := none
  /-- The invocation opens bindings of its own. -/
  ownsBindings : Bool := true

namespace Activation

variable {World : Type}

/-- Open the bindings of the invocation. -/
def bind (activation : Activation) (machine : Machine World) : Machine World :=
  if activation.ownsBindings then
    { machine with store := machine.store.bind activation.layout }
  else machine

/-- Close the bindings of the invocation. -/
def unbind (activation : Activation) (machine : Machine World) : Machine World :=
  if activation.ownsBindings then
    { machine with store := machine.store.unbind activation.layout }
  else machine

/-- Enter the scope; when the frame is refused, no binding, frame or stacked node is left of it. -/
def enter (activation : Activation) : Exec (Machine World) Unit := do
  Exec.update activation.bind
  let layout := activation.layout
  match ← Exec.attempt (Machine.enterFrame layout.owner layout.debugInfo) with
  | .ok _ =>
    match activation.callSite with
    | some site => Exec.update (Machine.enter site)
    | none => pure ()
  | .error fault =>
    Exec.update activation.unbind
    Exec.fail fault

/-- The machine with the bindings of the invocation open and its frame logged. -/
def framed (activation : Activation) (machine : Machine World) : Machine World :=
  { activation.bind machine with
    monitor := machine.monitor.logFrame activation.layout.owner activation.layout.debugInfo }

/-- The machine inside the scope. -/
def opened (activation : Activation) (machine : Machine World) : Machine World :=
  match activation.callSite with
  | some site => (activation.framed machine).enter site
  | none => activation.framed machine

/-- The machine after the frame was refused. -/
def refused (activation : Activation) (limit : Nat) (machine : Machine World) : Machine World :=
  activation.unbind ((activation.bind machine).note (.refused activation.layout.owner limit))

/-- Opening and closing bindings is no business of the monitor. -/
@[simp] theorem monitor_bind (activation : Activation) (machine : Machine World) :
    (activation.bind machine).monitor = machine.monitor := by
  unfold Activation.bind
  split <;> rfl

/-- Entering a scope either is refused or leads inside. -/
theorem enter_apply (activation : Activation) (machine : Machine World) :
    activation.enter machine =
      match machine.monitor.refuses activation.layout.owner with
      | some limit =>
        .failed (.ofCause (.callDepthExceeded limit)) (activation.refused limit machine)
      | none => .done () (activation.opened machine) := by
  simp only [Activation.enter, Exec.bind_apply, Exec.update, Exec.attempt, Machine.enterFrame,
    monitor_bind]
  cases machine.monitor.refuses activation.layout.owner with
  | some limit => rfl
  | none =>
    simp only [opened, framed]
    cases activation.callSite <;> rfl

/-- Leave the scope. -/
def exit (activation : Activation) (machine : Machine World) : Machine World :=
  let stepped :=
    match activation.callSite with
    | some site => machine.leave site
    | none => machine
  activation.unbind stepped.exitFrame

/-- Run a body inside the scope. -/
def within {Result : Type} (activation : Activation) (body : Exec (Machine World) Result) :
    Exec (Machine World) Result := do
  activation.enter
  Exec.ensuring body activation.exit

/-- A body is run inside the scope unless that is refused, and whichever way it ends the scope is
left. -/
theorem within_apply {Result : Type} (activation : Activation)
    (body : Exec (Machine World) Result) (machine : Machine World) :
    activation.within body machine =
      match machine.monitor.refuses activation.layout.owner with
      | some limit =>
        .failed (.ofCause (.callDepthExceeded limit)) (activation.refused limit machine)
      | none => Exec.ensuring body activation.exit (activation.opened machine) := by
  rw [within, Exec.bind_apply, enter_apply]
  cases machine.monitor.refuses activation.layout.owner <;> rfl

/-- Run a body with a frame logged for each layout, none of them bound again. -/
def withinFrames {Result : Type} (layouts : List Layout) (body : Exec (Machine World) Result) :
    Exec (Machine World) Result :=
  match layouts with
  | [] => body
  | layout :: rest =>
    within { layout, ownsBindings := false } (withinFrames rest body)

end Activation

end Treewalk
