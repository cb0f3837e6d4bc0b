import Treewalk.Construct
import Treewalk.Value.Display

/-!
# The session's constructs

A session offers scripts a small kit of constructs. Their world is a counter that `tick` advances
and a log that `log` extends; `halt` and `unhalt` move the shared stop signal.
-/

namespace Treewalk.Session

/-- The world of a session's constructs. -/
structure Bench where
  ticks : Nat := 0
  /-- Logged argument lists, newest first. -/
  log : List (List Value) := []

namespace Kit

/-- What a construct of the kit does. -/
inductive Behavior where
  | tick
  | halt
  | unhalt
  | fail (message : String)
  | raise
  | echo
  | arguments
  | display
  | kind
  | field
  | log
  | double
  | null

/-- The behaviour with a name; a name outside the kit means `null`. -/
def Behavior.named (name message : String) : Behavior :=
  match name with
  | "tick" => .tick
  | "halt" => .halt
  | "unhalt" => .unhalt
  | "fail" => .fail message
  | "raise" => .raise
  | "echo" => .echo
  | "args" => .arguments
  | "display" => .display
  | "type" => .kind
  | "field" => .field
  | "log" => .log
  | "double" => .double
  | _ => .null

/-- Run a behaviour on evaluated arguments. -/
def Behavior.run (behavior : Behavior) (arguments : List Value) (host : Host Bench) :
    Except String Value × Host Bench :=
  let first := arguments.headD .null
  match behavior with
  | .tick =>
    (.ok (.int (Int64.ofNat host.world.ticks)),
      { host with world := { host.world with ticks := host.world.ticks + 1 } })
  | .halt => (.ok first, { host with halted := true })
  | .unhalt => (.ok first, { host with halted := false })
  | .fail message => (.error message, host)
  | .raise => (.error ((arguments.head?.map Value.display).getD ""), host)
  | .echo => (.ok first, host)
  | .arguments => (.ok (.list arguments), host)
  | .display => (.ok (.str first.display), host)
  | .kind => (.ok (.str ((arguments.head?.map (·.kind.name)).getD "none")), host)
  | .field =>
    let key := arguments[1]?.bind Value.text?
    (.ok ((key.bind first.field?).getD .null), host)
  | .log =>
    (.ok first, { host with world := { host.world with log := arguments :: host.world.log } })
  | .double =>
    match first with
    | .int number => (.ok (.int (number + number)), host)
    | _ => (.error "expected an int", host)
  | .null => (.ok .null, host)

/-- The construct of the kit with a behaviour. -/
def construct (name : String) (arity : Nat) (behavior : Behavior) : Construct Bench :=
  { name, arity, invoke := behavior.run }

end Kit

end Treewalk.Session
