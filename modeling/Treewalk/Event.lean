import Treewalk.NodeId
import Treewalk.Table

/-!
# Lifecycle events

Every run of a script is announced twice on the script's host, when it starts and when it ends, and
the two events share the identity of the run. A listener may enlist others, on any host, each time
it hears an event; newcomers hear later events only.
-/

namespace Treewalk

/-- The two events of a run. -/
inductive EventKind where
  | started
  | finished
deriving DecidableEq, Repr

/-- What listeners hear. -/
structure Event where
  kind : EventKind
  script : ScriptName
  /-- The identity of the run. -/
  run : Nat
deriving DecidableEq, Repr

/-- An event as a listener heard it. -/
structure Delivery where
  listener : String
  event : Event
deriving DecidableEq, Repr

/-- Somebody who listens on a host. -/
structure Listener where
  name : String
  /-- Whom it enlists on which hosts each time it hears an event, given all that has been heard by
  then, newest first. -/
  enlists : List Delivery → List (Nat × Listener) := fun _ => []

/-- The hosts of events, by number, and what was heard on them. -/
structure EventBoard where
  /-- Listeners in the order they subscribed. -/
  hosts : Table Nat (List Listener) := { }
  /-- What was heard, newest first. -/
  deliveries : List Delivery := []
  /-- How many run identities have been given out. -/
  runs : Nat := 0

namespace EventBoard

/-- The listeners on a host. -/
def listeners (board : EventBoard) (host : Nat) : List Listener :=
  board.hosts.get host

/-- Subscribe a listener. -/
def subscribe (board : EventBoard) (host : Nat) (listener : Listener) : EventBoard :=
  { board with hosts := board.hosts.modify host (· ++ [listener]) }

/-- Let one listener hear an event. -/
def deliver (event : Event) (board : EventBoard) (listener : Listener) : EventBoard :=
  let heard := { board with deliveries := ⟨listener.name, event⟩ :: board.deliveries }
  (listener.enlists heard.deliveries).foldl
    (fun current enlisted => current.subscribe enlisted.1 enlisted.2) heard

/-- Let every listener that is on a host now hear an event, in order. -/
def emit (board : EventBoard) (host : Nat) (event : Event) : EventBoard :=
  (board.listeners host).foldl (deliver event) board

/-- Give out the identity of a new run. -/
def freshRun (board : EventBoard) : Nat × EventBoard :=
  (board.runs, { board with runs := board.runs + 1 })

/-- How diagnostics show a host. -/
def describe (board : EventBoard) (host : Nat) : String :=
  "EventHost \x7b listeners: " ++ toString (board.listeners host).length ++ " \x7d"

end EventBoard

end Treewalk
