import Treewalk.Proofs.ActivationSymmetry
import Treewalk.Proofs.ApartChanges
import Treewalk.Proofs.Records

/-!
# What an error scope adds up to

An error scope passes on what it is asked, except for faults: the first is kept as the primary one,
and all that follow are suppressed in it. So what a scope has recorded is a fold over the faults
that were handed to it, each with the node that was on top of the call stack at that moment, and
everything else is as if the scope were not there.

`Machine.Request` is what can be asked of the innermost scope. `Machine.recordings` follows the
call stack through a sequence of requests and picks out the faults that count. How many scopes are
open makes no difference to a request that hands over no fault: opening others is a change apart
from it, so it commutes with `Machine.withScopes`.
-/

namespace Treewalk

variable {World : Type}

namespace ErrorScope

/-- Record faults in order, each with the node that was on top of the call stack. -/
def recordAll (scope : ErrorScope) (handed : List (Fault × Option NodeId)) : ErrorScope :=
  handed.foldl (fun current fault => current.record fault.1 fault.2) scope

@[simp] theorem recordAll_nil (scope : ErrorScope) : scope.recordAll [] = scope :=
  rfl

@[simp] theorem recordAll_cons (scope : ErrorScope) (fault : Fault × Option NodeId)
    (later : List (Fault × Option NodeId)) :
    scope.recordAll (fault :: later) = (scope.record fault.1 fault.2).recordAll later :=
  rfl

/-- Recording in two goes is recording in one. -/
theorem recordAll_append (scope : ErrorScope) (earlier later : List (Fault × Option NodeId)) :
    scope.recordAll (earlier ++ later) = (scope.recordAll earlier).recordAll later :=
  List.foldl_append

/-- What follows a first fault is suppressed in it, in order. -/
theorem recordAll_of_error {scope : ErrorScope} {primary : Fault}
    (recorded : scope.error = some primary) (later : List (Fault × Option NodeId)) :
    scope.recordAll later =
      { scope with
        error := some { primary with
          suppressed :=
            primary.suppressed ++ later.map fun fault => fault.1.attributedTo fault.2 } } := by
  induction later generalizing scope primary with
  | nil =>
    obtain ⟨error, node⟩ := scope
    obtain rfl : error = some primary := recorded
    obtain ⟨cause, attributed, suppressed⟩ := primary
    simp only [recordAll_nil, List.map_nil, List.append_nil]
  | cons fault later inductionHypothesis =>
    have extended : (scope.record fault.1 fault.2).error =
        some (primary.suppressing (fault.1.attributedTo fault.2)) := by
      simp [record, recorded]
    rw [recordAll_cons, inductionHypothesis extended]
    simp [record, recorded, Fault.suppressing]

/-- The first fault that comes to a new scope is the primary one. -/
theorem recordAll_first (first : Fault) (top : Option NodeId)
    (later : List (Fault × Option NodeId)) :
    ({ } : ErrorScope).recordAll ((first, top) :: later) =
      { error := some
          { cause := first.cause
            node := first.node.or top
            suppressed :=
              first.suppressed ++ later.map fun fault => fault.1.attributedTo fault.2 }
        node := top } := by
  have recorded : (({ } : ErrorScope).record first top).error = some (first.attributedTo top) := rfl
  rw [recordAll_cons, recordAll_of_error recorded]
  rfl

/-- The primary error and those suppressed in it are the faults that came to a new scope, in order,
if these had nothing suppressed in them. -/
theorem errors_recordAll {handed : List (Fault × Option NodeId)}
    (plain : ∀ fault ∈ handed, fault.1.suppressed = []) {primary : Fault}
    (recorded : (({ } : ErrorScope).recordAll handed).error = some primary) :
    { primary with suppressed := [] } :: primary.suppressed =
      handed.map fun fault => fault.1.attributedTo fault.2 := by
  cases handed with
  | nil => cases recorded
  | cons first later =>
    have unsuppressed := plain first List.mem_cons_self
    rw [recordAll_first first.1 first.2 later, unsuppressed] at recorded
    cases recorded
    simp only [Fault.attributedTo, List.nil_append, List.map_cons, unsuppressed]

end ErrorScope

namespace Machine

/-- What can be asked of the innermost error scope. -/
inductive Request where
  | hand (fault : Fault)
  | enter (node : NodeId)
  | leave (node : NodeId)
  | enterFrame (scope : Scope) (entries : List Variable)
  | exitFrame

namespace Request

/-- The request hands over a fault. -/
def isHand : Request → Bool
  | .hand _ => true
  | _ => false

def perform : Request → Exec (Machine World) Unit
  | .hand fault => Machine.hand fault
  | .enter node => Exec.update (Machine.enter node)
  | .leave node => Exec.update (Machine.leave node)
  | .enterFrame scope entries => Machine.enterFrame scope entries
  | .exitFrame => Exec.update Machine.exitFrame

/-- The call stack after the request. -/
def onStack (stack : CallStack) : Request → CallStack
  | .enter node => stack.push node
  | .leave _ => stack.pop
  | _ => stack

/-- The fault that the request hands over, with the top of the call stack, if it counts: neither a
misuse nor a stop request is recorded. -/
def recording? (stack : CallStack) : Request → Option (Fault × Option NodeId)
  | .hand fault =>
    if fault.isMisuse || fault.isCancellation then none else some (fault, stack.top?)
  | _ => none

end Request

/-- The machine after requests, whatever the answer to each of them. -/
def performAll (requests : List Request) (machine : Machine World) : Machine World :=
  requests.foldl (fun current request => (request.perform current).state) machine

/-- The faults that count among requests, in order, each with the top of the call stack. -/
def recordings : CallStack → List Request → List (Fault × Option NodeId)
  | _, [] => []
  | stack, request :: rest =>
    (request.recording? stack).toList ++ recordings (request.onStack stack) rest

/-- The machine with other error scopes open. -/
def withScopes (scopes : List ErrorScope) (machine : Machine World) : Machine World :=
  { machine with scopes }

/-- Error scopes are apart from everything that a request can ask of a monitor without a fault. -/
theorem apart_withScopes (scopes : List ErrorScope) :
    Apart (withScopes scopes : Machine World → Machine World) where
  aside _ _ _ _ := rfl
  note _ _ _ := rfl
  countLook _ := rfl
  moves _ := rfl

namespace Request

/-- Which scopes are open makes no difference to a request that hands over no fault. -/
theorem perform_withScopes {request : Request} (other : request.isHand = false)
    (scopes : List ErrorScope) (machine : Machine World) :
    (request.perform (machine.withScopes scopes)).state =
      (request.perform machine).state.withScopes scopes := by
  have apart : Apart (withScopes scopes : Machine World → Machine World) := apart_withScopes scopes
  cases request with
  | hand fault => cases other
  | enter node => exact apart.enter machine node
  | leave node => exact apart.leave machine node
  | enterFrame scope entries =>
    exact (congrArg Outcome.state (apart.enterFrame machine scope entries)).trans
      (Outcome.state_mapState _ _)
  | exitFrame => exact apart.exitFrame machine

/-- A fault that is handed to a scope changes the scope, if it counts, and nothing else. -/
theorem perform_hand (fault : Fault) (scope : ErrorScope) (outer : List ErrorScope)
    (machine : Machine World) :
    ((Request.hand fault).perform (machine.withScopes (scope :: outer))).state =
      machine.withScopes
        (scope.recordAll ((Request.hand fault).recording? machine.monitor.stack).toList ::
          outer) := by
  simp only [perform, Machine.hand, withScopes, recording?]
  split <;> rfl

/-- What a request does to the call stack does not depend on anything but the call stack. -/
theorem stack_perform (request : Request) (machine : Machine World) :
    (request.perform machine).state.monitor.stack = request.onStack machine.monitor.stack := by
  cases request with
  | hand fault => exact ((quietly_hand fault machine).reached.restored).stack
  | enter node => exact (Restored.enter node machine).stack
  | leave node => rfl
  | enterFrame scope entries =>
    simp only [perform, Machine.enterFrame]
    split <;> rfl
  | exitFrame =>
    simp only [perform, Exec.update, Outcome.state, Machine.exitFrame, Monitor.dropFrame]
    split <;> rfl

end Request

@[simp] theorem performAll_nil (machine : Machine World) : performAll [] machine = machine :=
  rfl

@[simp] theorem performAll_cons (request : Request) (rest : List Request)
    (machine : Machine World) :
    performAll (request :: rest) machine = performAll rest (request.perform machine).state :=
  rfl

/-- Requests to a scope have it record the faults that count, and the rest of the machine is what
the other requests make of it. -/
theorem performAll_withScopes (requests : List Request) (machine : Machine World)
    (scope : ErrorScope) (outer : List ErrorScope) :
    performAll requests (machine.withScopes (scope :: outer)) =
      (performAll (requests.filter (!·.isHand)) machine).withScopes
        (scope.recordAll (recordings machine.monitor.stack requests) :: outer) := by
  induction requests generalizing machine scope with
  | nil => rfl
  | cons request rest inductionHypothesis =>
    rw [performAll_cons, recordings, ErrorScope.recordAll_append]
    cases handed : request.isHand with
    | true =>
      cases request with
      | hand fault =>
        rw [Request.perform_hand, inductionHypothesis, List.filter_cons_of_neg (by simp [handed])]
        rfl
      | _ => cases handed
    | false =>
      have unrecorded : request.recording? machine.monitor.stack = none := by
        cases request with
        | hand fault => cases handed
        | _ => rfl
      rw [Request.perform_withScopes handed, inductionHypothesis, Request.stack_perform,
        List.filter_cons_of_pos (by simp [handed]), performAll_cons, unrecorded]
      rfl

/-- A request that hands over no fault has none recorded. -/
theorem Request.sameRecords {request : Request} (other : request.isHand = false)
    (machine : Machine World) : SameRecords machine (request.perform machine).state := by
  cases request with
  | hand fault => cases other
  | enter node => exact .enter node machine
  | leave node => exact .leave node machine
  | enterFrame scope entries =>
    simp only [perform, Machine.enterFrame]
    split <;> exact { SameRecords.refl machine with }
  | exitFrame => exact .exitFrame machine

/-- Without a fault among them, requests record nothing. -/
theorem performAll_sameRecords {requests : List Request}
    (others : ∀ request ∈ requests, request.isHand = false) (machine : Machine World) :
    SameRecords machine (performAll requests machine) := by
  induction requests generalizing machine with
  | nil => exact .refl machine
  | cons request rest inductionHypothesis =>
    obtain ⟨first, later⟩ := List.forall_mem_cons.mp others
    exact (Request.sameRecords first machine).trans (inductionHypothesis later _)

/-- Two machines give the same answers to whoever asks for the call stack, the frames or the value
of a variable, and refuse the same calls. -/
structure SameView (left right : Machine World) : Prop where
  stack : right.monitor.stack = left.monitor.stack
  frames : right.monitor.frames = left.monitor.frames
  callDepth : right.monitor.callDepth = left.monitor.callDepth
  maxCallDepth : right.monitor.maxCallDepth = left.monitor.maxCallDepth
  store : right.store = left.store

namespace SameView

variable {first second third left right : Machine World}

theorem refl (machine : Machine World) : SameView machine machine :=
  ⟨rfl, rfl, rfl, rfl, rfl⟩

/-- Looking alike goes both ways. -/
theorem symm (same : SameView left right) : SameView right left :=
  ⟨same.stack.symm, same.frames.symm, same.callDepth.symm, same.maxCallDepth.symm,
    same.store.symm⟩

/-- Looking alike is transitive. -/
theorem trans (earlier : SameView first second) (later : SameView second third) :
    SameView first third where
  stack := later.stack.trans earlier.stack
  frames := later.frames.trans earlier.frames
  callDepth := later.callDepth.trans earlier.callDepth
  maxCallDepth := later.maxCallDepth.trans earlier.maxCallDepth
  store := later.store.trans earlier.store

/-- Variables are looked up in the frames and in the store, and both look alike. -/
theorem lookup? (same : SameView left right) (declaration : NodeId) (depth : Nat) :
    Frame.lookup? right.monitor.frames right.store declaration depth =
      Frame.lookup? left.monitor.frames left.store declaration depth := by
  rw [same.frames, same.store]

/-- Who moved the stop signal, and where to, does not show in the view. -/
theorem moved (mover : SignalMover) (raised earlier : Bool) (machine : Machine World) :
    SameView machine ((machine.signal raised).noteMove mover earlier) := by
  have signalled : SameView machine (machine.signal raised) := by
    simp only [Machine.signal]
    split <;> exact ⟨rfl, rfl, rfl, rfl, rfl⟩
  refine signalled.trans ?_
  simp only [noteMove]
  split <;> exact ⟨rfl, rfl, rfl, rfl, rfl⟩

/-- A raised signal is not seen. -/
theorem raise (mover : SignalMover) (machine : Machine World) :
    SameView machine (machine.raise mover) :=
  moved mover true machine.stopped machine

/-- A look at the signal is not seen. -/
theorem look (machine : Machine World) : SameView machine machine.look := by
  have counted : SameView machine machine.countLook := ⟨rfl, rfl, rfl, rfl, rfl⟩
  rw [look_eq]
  split
  · exact counted
  · exact counted.trans (moved .outside _ _ _)

/-- A breakpoint on the way in does not show in the view. -/
theorem enter (node : NodeId) (machine : Machine World) :
    SameView (machine.push node) (machine.enter node) := by
  have paused : SameView (machine.push node) ((machine.push node).pause node) := by
    simp only [Machine.pause]
    split
    · exact refl _
    · next hook _ =>
      generalize hook _ = action
      have noted : SameView (machine.push node) ((machine.push node).notePause node action) :=
        ⟨rfl, rfl, rfl, rfl, rfl⟩
      cases action with
      | stop => exact noted.trans (raise .pauseHook _)
      | resume => exact noted
  dsimp only [Machine.enter]
  split
  · exact paused
  · exact refl _

/-- Routing a fault does not show in the view, whoever records it. -/
theorem hand (fault : Fault) (machine : Machine World) :
    SameView machine (Machine.hand fault machine).state := by
  have recorded (attributed : Fault) :
      SameView machine { machine with monitor := machine.monitor.record attributed } :=
    ⟨rfl, rfl, rfl, rfl, rfl⟩
  simp only [Machine.hand, handUncaught]
  split
  · split
    · exact refl machine
    · split
      · exact refl machine
      · split
        · exact refl machine
        · exact recorded _
        · exact (recorded _).trans (raise .policy _)
  · split
    · exact refl machine
    · exact ⟨rfl, rfl, rfl, rfl, rfl⟩

/-- What looks the same does so after any request. -/
theorem perform (same : SameView left right) (request : Request) :
    SameView (request.perform left).state (request.perform right).state := by
  cases request with
  | hand fault => exact ((hand fault left).symm.trans same).trans (hand fault right)
  | enter node =>
    have pushed : SameView (left.push node) (right.push node) :=
      { same with stack := congrArg (·.push node) same.stack }
    exact ((enter node left).symm.trans pushed).trans (enter node right)
  | leave node => exact { same with stack := congrArg (·.pop) same.stack }
  | enterFrame scope entries =>
    have refuses : right.monitor.refuses scope = left.monitor.refuses scope := by
      simp only [Monitor.refuses, same.callDepth, same.maxCallDepth]
    simp only [Request.perform, enterFrame, refuses]
    split
    · exact { same with }
    · refine ⟨same.stack, ?_, ?_, same.maxCallDepth, same.store⟩
      · simp only [Monitor.logFrame, Outcome.state, same.stack, same.frames]
      · simp only [Monitor.logFrame, Outcome.state, same.callDepth]
  | exitFrame =>
    simp only [Request.perform, Exec.update, Outcome.state, Machine.exitFrame, Monitor.dropFrame,
      same.frames]
    split
    · exact same
    · exact ⟨same.stack, rfl, by simp only [same.callDepth], same.maxCallDepth, same.store⟩

/-- The same requests keep machines looking alike. -/
theorem performAll (same : SameView left right) (requests : List Request) :
    SameView (performAll requests left) (performAll requests right) := by
  induction requests generalizing left right with
  | nil => exact same
  | cons request rest inductionHypothesis => exact inductionHypothesis (same.perform request)

end SameView

end Machine

/-- What the innermost of any number of error scopes adds up to over any requests. It has recorded
an error if and only if one that counts was handed to it. The first of these is the primary error,
attributed to the top of the call stack at that time unless it was attributed before, and the
others are suppressed in it, each attributed likewise. A misuse or a stop request is given back as
it is and changes nothing; any other fault is absorbed. The outer scopes and the monitor have
recorded what they had. Apart from what is recorded the machine is that of a monitor without scopes
to which no fault was handed, and a monitor that all faults were handed to shows the same call
stack, frames and values. -/
theorem error_aggregation (machine : Machine World) (requests : List Machine.Request) :
    let recorded := Machine.recordings machine.monitor.stack requests
    let after := Machine.performAll requests machine.openScope
    let spared := Machine.performAll (requests.filter (!·.isHand)) (machine.withScopes [])
    let bare := Machine.performAll requests (machine.withScopes [])
    ∃ scope : ErrorScope,
      after = spared.withScopes (scope :: machine.scopes) ∧
      (scope.error.isSome = true ↔ recorded ≠ []) ∧
      (recorded = [] → scope.node = none) ∧
      (∀ first top later, recorded = (first, top) :: later →
        scope.node = top ∧
        scope.primary = .ok
          { cause := first.cause
            node := first.node.or top
            suppressed :=
              first.suppressed ++ later.map fun fault => fault.1.attributedTo fault.2 }) ∧
      (∀ fault, Machine.hand fault after =
        if fault.isMisuse || fault.isCancellation then .failed fault after
        else .done () (after.withScopes
          (scope.record fault after.monitor.top? :: machine.scopes))) ∧
      after.monitor.errors = machine.monitor.errors ∧
      (after.shouldStop = true ↔
        recorded ≠ [] ∨ (∃ outer ∈ machine.scopes, outer.error.isSome = true) ∨
          spared.stopped = true) ∧
      after.monitor.stack = bare.monitor.stack ∧
      after.monitor.frames = bare.monitor.frames ∧
      ∀ declaration depth,
        Frame.lookup? after.monitor.frames after.store declaration depth =
          Frame.lookup? bare.monitor.frames bare.store declaration depth := by
  intro recorded after spared bare
  have others : ∀ request ∈ requests.filter (!·.isHand), request.isHand = false := by
    intro request member
    simpa using (List.mem_filter.mp member).2
  have folded : after =
      spared.withScopes (({ } : ErrorScope).recordAll recorded :: machine.scopes) :=
    Machine.performAll_withScopes requests (machine.withScopes []) { } machine.scopes
  have opened : Machine.SameView (machine.withScopes []) machine.openScope :=
    ⟨rfl, rfl, rfl, rfl, rfl⟩
  have view : Machine.SameView bare after := opened.performAll requests
  have isSome_iff : ((({ } : ErrorScope).recordAll recorded).error.isSome = true ↔
      recorded ≠ []) := by
    cases listed : recorded with
    | nil => simp
    | cons first later => simp [ErrorScope.recordAll_first first.1 first.2 later]
  refine ⟨_, folded, isSome_iff, ?_, ?_, ?_, ?_, ?_, view.stack, view.frames, view.lookup?⟩
  · intro none
    rw [none]
    rfl
  · intro first top later listed
    rw [listed, ErrorScope.recordAll_first]
    exact ⟨rfl, rfl⟩
  · intro fault
    rw [folded]
    rfl
  · rw [folded]
    exact (Machine.performAll_sameRecords others _).errors
  · rw [folded]
    simp only [Machine.shouldStop, Machine.withScopes, List.any_cons, Bool.or_eq_true,
      List.any_eq_true, isSome_iff, or_assoc]
    rfl

end Treewalk
