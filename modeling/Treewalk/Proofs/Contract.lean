import Treewalk.Proofs.Congruence

/-!
# Contracts

A contract holds a computation to what it may do to its state: one relation between the state it
starts in and a state it finishes in, and a wider one for the states in which it may run out of
fuel. Contracts compose along sequencing, so a contract that the operations of the machine uphold is
kept by the whole evaluator. This is `Contract.Upheld.process`, the one-sided use of congruences.
-/

namespace Treewalk

/-- What computations on a state are held to. -/
structure Contract (State : Type) where
  /-- The faults that may be raised. -/
  Raised : Fault → Prop
  /-- Where a computation may finish, given where it started. -/
  Finished : State → State → Prop
  /-- Where a computation may be when its fuel runs out, given where it started. -/
  Reached : State → State → Prop
  refl (state : State) : Finished state state
  trans {first second third : State} (earlier : Finished first second)
    (later : Finished second third) : Finished first third
  reached_of_finished {before after : State} (finished : Finished before after) :
    Reached before after
  reached_trans {first second third : State} (earlier : Finished first second)
    (later : Reached second third) : Reached first third

namespace Contract

variable {State Result Next : Type} (contract : Contract State)

/-- An outcome that stays within the contract. -/
def Fulfilled (before : State) : Outcome State Result → Prop
  | .done _ after => contract.Finished before after
  | .failed fault after => contract.Raised fault ∧ contract.Finished before after
  | .exhausted after => contract.Reached before after

/-- A computation that stays within the contract wherever it starts. -/
def Kept (body : Exec State Result) : Prop :=
  ∀ before, contract.Fulfilled before (body before)

variable {contract}

/-- Whatever a kept computation comes to, the state it shows was within reach. -/
theorem Fulfilled.reached {before : State} {outcome : Outcome State Result}
    (fulfilled : contract.Fulfilled before outcome) : contract.Reached before outcome.state := by
  cases outcome with
  | done result after => exact contract.reached_of_finished fulfilled
  | failed fault after => exact contract.reached_of_finished fulfilled.2
  | exhausted after => exact fulfilled

/-- What has finished keeps its promise, with a result or with a fault. -/
theorem Fulfilled.finished {before after : State} {outcome : Outcome State Result}
    (fulfilled : contract.Fulfilled before outcome) (ended : outcome.final? = some after) :
    contract.Finished before after := by
  cases outcome with
  | done result final =>
    cases ended
    exact fulfilled
  | failed fault final =>
    cases ended
    exact fulfilled.2
  | exhausted final => cases ended

/-- What comes after a finished computation continues its contract. -/
theorem Fulfilled.after {first second : State} {outcome : Outcome State Result}
    (earlier : contract.Finished first second) (later : contract.Fulfilled second outcome) :
    contract.Fulfilled first outcome := by
  cases outcome with
  | done result final => exact contract.trans earlier later
  | failed fault final => exact ⟨later.1, contract.trans earlier later.2⟩
  | exhausted final => exact contract.reached_trans earlier later

/-- What finishes within the contract however it ends keeps a contract that asks nothing of
faults. -/
theorem kept_of_finished {body : Exec State Result} (raised : ∀ fault, contract.Raised fault)
    (finished : ∀ before, contract.Finished before (body before).state) : contract.Kept body := by
  intro before
  have reached := finished before
  cases ended : body before with
  | done result after =>
    rw [ended] at reached
    exact reached
  | failed fault after =>
    rw [ended] at reached
    exact ⟨raised fault, reached⟩
  | exhausted after =>
    rw [ended] at reached
    exact contract.reached_of_finished reached

theorem kept_pure (result : Result) : contract.Kept (pure result : Exec State Result) :=
  fun before => contract.refl before

/-- Failing for an allowed fault breaks no contract. -/
theorem kept_fail {fault : Fault} (raised : contract.Raised fault) :
    contract.Kept (Exec.fail fault : Exec State Result) :=
  fun before => ⟨raised, contract.refl before⟩

/-- Being cut off breaks no contract. -/
theorem kept_exhausted : contract.Kept (Exec.exhausted : Exec State Result) :=
  fun before => contract.reached_of_finished (contract.refl before)

/-- A change of the state is held to what is asked of finished computations. -/
theorem kept_update {change : State → State}
    (changed : ∀ before, contract.Finished before (change before)) :
    contract.Kept (Exec.update change) :=
  changed

/-- Sequencing from a given state: the second computation only has to answer for what the first is
done with. -/
theorem fulfilled_bind {first : Exec State Result} {next : Result → Exec State Next}
    {before : State} (fulfilled : contract.Fulfilled before (first before))
    (nextFulfilled : ∀ result after, first before = .done result after →
      contract.Finished before after → contract.Fulfilled after (next result after)) :
    contract.Fulfilled before ((first >>= next) before) := by
  rw [Exec.bind_apply]
  cases ended : first before with
  | done result after =>
    rw [ended] at fulfilled
    exact Fulfilled.after fulfilled (nextFulfilled result after ended fulfilled)
  | failed fault after =>
    rw [ended] at fulfilled
    exact fulfilled
  | exhausted after =>
    rw [ended] at fulfilled
    exact fulfilled

/-- Contracts compose along sequences. -/
theorem kept_bind {first : Exec State Result} {next : Result → Exec State Next}
    (firstKept : contract.Kept first) (nextKept : ∀ result, contract.Kept (next result)) :
    contract.Kept (first >>= next) :=
  fun before => fulfilled_bind (firstKept before) fun result after _ _ => nextKept result after

theorem kept_state {next : State → Exec State Result}
    (nextKept : ∀ current, contract.Kept (next current)) :
    contract.Kept (Exec.state >>= next) :=
  fun before => nextKept before before

/-- A fault that is caught may be counted on to be an allowed one. -/
theorem kept_attempt {body : Exec State Result} {next : Except Fault Result → Exec State Next}
    (bodyKept : contract.Kept body) (done : ∀ result, contract.Kept (next (.ok result)))
    (failed : ∀ fault, contract.Raised fault → contract.Kept (next (.error fault))) :
    contract.Kept (Exec.attempt body >>= next) := by
  intro before
  have fulfilled := bodyKept before
  rw [Exec.bind_apply]
  simp only [Exec.attempt]
  cases ended : body before with
  | done result after =>
    rw [ended] at fulfilled
    exact Fulfilled.after fulfilled (done result after)
  | failed fault after =>
    rw [ended] at fulfilled
    exact Fulfilled.after fulfilled.2 (failed fault fulfilled.1 after)
  | exhausted after =>
    rw [ended] at fulfilled
    exact fulfilled

/-- A loop over items keeps what its body keeps. -/
theorem kept_forM {Item : Type} {items : List Item} {body : Item → Exec State PUnit}
    (bodyKept : ∀ item ∈ items, contract.Kept (body item)) : contract.Kept (items.forM body) := by
  induction items with
  | nil => exact kept_pure PUnit.unit
  | cons item rest inductionHypothesis =>
    apply kept_bind (bodyKept item List.mem_cons_self)
    intro _
    exact inductionHypothesis fun other member => bodyKept other (List.mem_cons_of_mem item member)

/-- A body between opening and closing: what was opened has to be closed again, and until then the
body is within reach. -/
theorem fulfilled_ensuring {body : Exec State Result} {cleanup : State → State}
    {before opened : State} (fulfilled : contract.Fulfilled opened (body opened))
    (closes : ∀ after, contract.Finished opened after → contract.Finished before (cleanup after))
    (covers : ∀ after, contract.Reached opened after → contract.Reached before after) :
    contract.Fulfilled before (Exec.ensuring body cleanup opened) := by
  simp only [Exec.ensuring]
  cases ended : body opened with
  | done result after =>
    rw [ended] at fulfilled
    exact closes after fulfilled
  | failed fault after =>
    rw [ended] at fulfilled
    exact ⟨fulfilled.1, closes after fulfilled.2⟩
  | exhausted after =>
    rw [ended] at fulfilled
    exact covers after fulfilled

/-- A computation that keeps a contract keeps every wider one. -/
theorem Kept.mono {wider : Contract State} {body : Exec State Result} (kept : contract.Kept body)
    (raised : ∀ fault, contract.Raised fault → wider.Raised fault)
    (finished : ∀ before after, contract.Finished before after → wider.Finished before after)
    (reached : ∀ before after, contract.Reached before after → wider.Reached before after) :
    wider.Kept body := by
  intro before
  have fulfilled := kept before
  cases ended : body before with
  | done result after =>
    rw [ended] at fulfilled
    exact finished before after fulfilled
  | failed fault after =>
    rw [ended] at fulfilled
    exact ⟨raised fault fulfilled.1, finished before after fulfilled.2⟩
  | exhausted after =>
    rw [ended] at fulfilled
    exact reached before after fulfilled

section Brackets

variable {World : Type} {contract : Contract (Machine World)} {body : Exec (Machine World) Result}

/-- Looking whether a stop is due, and going one of two ways. -/
theorem kept_checkpoint (looks : contract.Kept Machine.poll)
    {stop go : Exec (Machine World) Result} (stopKept : contract.Kept stop)
    (goKept : contract.Kept go) :
    contract.Kept
      (do
        let stops ← Machine.poll
        if stops then stop else go) := by
  apply kept_bind looks
  rintro (_ | _)
  · exact goKept
  · exact stopKept

/-- A look at the stop signal is a move of the signal, if it is anything. -/
theorem kept_poll
    (counts : ∀ before : Machine World, contract.Finished before before.countLook)
    (moves : ∀ before raised, contract.Finished before (before.moveOutside raised)) :
    contract.Kept Machine.poll := by
  intro before
  rw [Machine.poll_apply, Fulfilled, Machine.look_eq]
  split
  · exact counts before
  · next raised _ => exact contract.trans (counts before) (moves _ raised)

/-- A node is entered, and left whichever way the body ends. -/
theorem kept_tracked (node : NodeId) (bodyKept : contract.Kept body)
    (closes : ∀ before after, contract.Finished (before.enter node) after →
      contract.Finished before (after.leave node))
    (covers : ∀ before after, contract.Reached (before.enter node) after →
      contract.Reached before after) :
    contract.Kept
      (do
        Exec.update (Machine.enter node)
        Exec.ensuring body (Machine.leave node)) :=
  fun before => fulfilled_ensuring (bodyKept _) (closes before) (covers before)

/-- An error scope is opened, and closed whichever way the body ends. -/
theorem kept_protect (bodyKept : contract.Kept body)
    (closes : ∀ before after, contract.Finished before.openScope after →
      contract.Finished before after.closeScope)
    (covers : ∀ before after, contract.Reached before.openScope after →
      contract.Reached before after) :
    contract.Kept (Machine.protect body) := by
  intro before
  have fulfilled := bodyKept before.openScope
  rw [Machine.protect_apply]
  cases ended : body before.openScope with
  | done result after =>
    rw [ended] at fulfilled
    exact closes before after fulfilled
  | failed fault after =>
    rw [ended] at fulfilled
    exact ⟨fulfilled.1, closes before after fulfilled.2⟩
  | exhausted after =>
    rw [ended] at fulfilled
    exact covers before after fulfilled

/-- A scope is entered or refused; once entered it is left whichever way the body ends. -/
theorem fulfilled_within (activation : Activation) {before : Machine World}
    (fulfilled : contract.Fulfilled (activation.opened before) (body (activation.opened before)))
    (raised : ∀ limit, contract.Raised (.ofCause (.callDepthExceeded limit)))
    (refuses : ∀ limit, contract.Finished before (activation.refused limit before))
    (closes : ∀ after, contract.Finished (activation.opened before) after →
      contract.Finished before (activation.exit after))
    (covers : ∀ after, contract.Reached (activation.opened before) after →
      contract.Reached before after) :
    contract.Fulfilled before (activation.within body before) := by
  rw [Activation.within_apply]
  split
  · next limit _ => exact ⟨raised limit, refuses limit⟩
  · exact fulfilled_ensuring fulfilled closes covers

end Brackets

end Contract

/-- A contract that the operations of the machine uphold. -/
structure Contract.Upheld {World : Type} (contract : Contract (Machine World))
    (program : Program World) : Prop where
  raises_ofCause {cause : Cause} (blameless : cause.isMisuse = false) :
    contract.Raised (.ofCause cause)
  poll : contract.Kept Machine.poll
  write (site : WriteSite) (name : String) (cell : Cell) (value : Value) :
    contract.Kept (Machine.write site name cell value)
  invoke (construct : Construct World) (arguments : List Value) :
    contract.Kept (Machine.invoke construct arguments)
  hand {fault : Fault} (raised : contract.Raised fault) : contract.Kept (Machine.hand fault)
  handFrom (statement : NodeId) {fault : Fault} (raised : contract.Raised fault)
    (failure : fault.isCancellation = false) : contract.Kept (Machine.handFrom statement fault)
  tracked (node : NodeId) {Result : Type} {body : Exec (Machine World) Result}
    (kept : contract.Kept body) :
    contract.Kept
      (do
        Exec.update (Machine.enter node)
        Exec.ensuring body (Machine.leave node))
  protect {Result : Type} {body : Exec (Machine World) Result} (kept : contract.Kept body) :
    contract.Kept (Machine.protect body)
  call (site callee : NodeId) {function : FunctionDeclaration}
    (declared : program.tree.functionAt? callee = some function) {Result : Type}
    {body : Exec (Machine World) Result} (kept : contract.Kept body) :
    contract.Kept (Activation.within
      { layout := program.tree.functionLayout callee, callSite := some site } body)

namespace Contract.Upheld

variable {World : Type} {contract : Contract (Machine World)} {program : Program World}

/-- Kept computations; the other side is left open. -/
def congruence (upheld : contract.Upheld program) : Program.Congruence program where
  Related left _ := contract.Kept left
  Raises := contract.Raised
  raises_ofCause := upheld.raises_ofCause
  pure := kept_pure
  fail := kept_fail
  exhausted := kept_exhausted
  bind := kept_bind
  attempt body done failed _ := kept_attempt body done failed
  checkpoint := kept_checkpoint upheld.poll
  read _ := kept_state fun _ => kept_pure _
  write := upheld.write
  invoke := upheld.invoke
  hand := upheld.hand
  handFrom := upheld.handFrom
  tracked node _ _ _ _ := upheld.tracked node
  protect := upheld.protect
  call site callee _ _ declared _ _ _ := upheld.call site callee declared

/-- One more layer of the tree. -/
theorem step (upheld : contract.Upheld program) {walk : Program.Walk World}
    (kept : ∀ node, contract.Kept (walk node)) (node : NodeId) :
    contract.Kept (program.step walk node) := by
  have walks : ∀ node, upheld.congruence.Related (walk node) (walk node) := kept
  exact upheld.congruence.step walks node

/-- The walk of every node keeps an upheld contract. -/
theorem process (upheld : contract.Upheld program) (fuel : Nat) (node : NodeId) :
    contract.Kept (program.process fuel node) :=
  upheld.congruence.process fuel node

/-- Evaluating is walking. -/
theorem eval (upheld : contract.Upheld program) (fuel : Nat) (node : NodeId) :
    contract.Kept (program.eval fuel node) :=
  upheld.congruence.eval fuel node

/-- Statements are walked as those of a block are. -/
theorem processStatements (upheld : contract.Upheld program) (fuel : Nat)
    (statements : List NodeId) : contract.Kept (program.processStatements fuel statements) :=
  upheld.congruence.processStatements fuel statements

/-- Declarations of a library are walked with nothing around them that a contract would notice. -/
theorem runDeclarations (upheld : contract.Upheld program) (fuel : Nat)
    (statements : List NodeId) :
    contract.Kept (program.runDeclarations (program.process fuel) statements) :=
  upheld.congruence.runDeclarations (fun _ => trivial) (upheld.congruence.process fuel) statements

end Contract.Upheld

end Treewalk
