import Treewalk.Proofs.Guards

/-!
# Function declarations on the call stack

A function declaration does nothing when it is processed, and a block does not put it on the call
stack. So no walk arrives at one, whatever is called in it: call sites and the other statements of
blocks are all it enters. This is the guard `Machine.visiting`, with the nodes that declare no
function.

The loop over the declarations of a library knows no such exception. It enters every declaration it
comes to, and `Program.ComesTo` says, along the loop, to which it comes.
-/

namespace Treewalk

variable {World Result : Type}

/-- The node that was put on the call stack, or the one with the breakpoint that was hit. -/
def Occurrence.arrival? : Occurrence → Option NodeId
  | .entered node _ => some node
  | .paused snapshot _ => some snapshot.node
  | _ => none

namespace Machine

variable {first second third before after last : Machine World} {node : NodeId}
  {Sites : NodeId → Prop}

/-- Arriving at no other nodes than these. -/
def visiting (Sites : NodeId → Prop) : Guard World where
  Holds _ := True
  Allowed occurrence := ∀ node ∈ occurrence.arrival?, Sites node
  Sites := Sites
  stable _ _ _ := trivial
  allows _ occurrence noted := by
    cases occurrence with
    | entered node frames =>
      rintro _ ⟨⟩
      exact noted.1
    | paused snapshot action =>
      rintro _ ⟨⟩
      exact noted.1
    | _ => rintro _ ⟨⟩

/-- A node was arrived at after the first machine and by the second one. -/
def Arrives (node : NodeId) (before after : Machine World) : Prop :=
  ∃ occurrence older, occurrence.arrival? = some node ∧
    (occurrence :: older) <:+ after.trace ∧ before.trace <:+ older

namespace Arrives

/-- Arriving takes a note. -/
theorem irrefl (node : NodeId) (machine : Machine World) : ¬ machine.Arrives node machine := by
  rintro ⟨occurrence, older, -, later, earlier⟩
  have shorter := later.length_le
  have longer := earlier.length_le
  rw [List.length_cons] at shorter
  omega

/-- What was arrived at in a part of a run was so in the whole. -/
theorem widen (arrives : before.Arrives node after) (earlier : first.trace <:+ before.trace)
    (later : after.trace <:+ last.trace) : first.Arrives node last := by
  obtain ⟨occurrence, older, arrival, noted, fresh⟩ := arrives
  exact ⟨occurrence, older, arrival, noted.trans later, earlier.trans fresh⟩

/-- Only what the traces tell matters. -/
theorem congr (same : last.trace = after.trace) :
    before.Arrives node last ↔ before.Arrives node after := by
  simp only [Arrives, same]

/-- What was arrived at was so before or after a machine in between. -/
theorem split (arrives : first.Arrives node third) (later : second.trace <:+ third.trace) :
    first.Arrives node second ∨ second.Arrives node third := by
  obtain ⟨occurrence, older, arrival, noted, fresh⟩ := arrives
  rcases List.suffix_or_suffix_of_suffix noted later with before | after
  · exact .inl ⟨occurrence, older, arrival, before, fresh⟩
  · rcases List.suffix_cons_iff.mp after with same | fresher
    · exact .inl ⟨occurrence, older, arrival, same ▸ List.suffix_refl _, fresh⟩
    · exact .inr ⟨occurrence, older, arrival, noted, fresher⟩

/-- Under a guard only the nodes that it lists were arrived at. -/
theorem site (arrives : before.Arrives node after)
    (later : before.Later (visiting Sites : Guard World).Allowed after) : Sites node := by
  obtain ⟨occurrence, older, arrival, ⟨newer, noted⟩, ⟨between, rfl⟩⟩ := arrives
  obtain ⟨added, trace, allowed⟩ := later.trace
  rw [trace, ← List.cons_append, ← List.append_assoc] at noted
  have member : occurrence ∈ added := by
    rw [← List.append_cancel_right noted]
    simp
  exact allowed occurrence member node arrival

/-- What is noted without an arrival is none. -/
theorem not_of_noted {occurrence : Occurrence} (away : occurrence.arrival? = none)
    (noted : after.trace = occurrence :: before.trace) : ¬ before.Arrives node after := by
  rintro ⟨other, older, arrival, later, earlier⟩
  rw [noted] at later
  rcases List.suffix_cons_iff.mp later with same | inside
  · obtain ⟨rfl, -⟩ := List.cons.inj same
    rw [away] at arrival
    cases arrival
  · have shorter := inside.length_le
    have longer := earlier.length_le
    rw [List.length_cons] at shorter
    omega

end Arrives

/-- A look at the stop signal arrives nowhere. -/
theorem not_arrives_look (node : NodeId) (machine : Machine World) :
    ¬ machine.Arrives node machine.look := by
  have later : machine.Later (visiting fun _ => False : Guard World).Allowed machine.look :=
    .look (fun _ => by rintro _ ⟨⟩) machine
  exact fun arrives => arrives.site later

/-- A look at the stop signal takes nothing back from the trace. -/
theorem suffix_look (machine : Machine World) : machine.trace <:+ machine.look.trace :=
  (Later.look (fun _ => trivial) machine : machine.Later (fun _ => True) machine.look).suffix

/-- What was arrived at in the end was so after a look as well. -/
theorem Arrives.of_look (arrives : before.Arrives node after)
    (later : before.look.trace <:+ after.trace) : before.look.Arrives node after :=
  (arrives.split later).resolve_left (not_arrives_look node before)

/-- From the start on, everything that the trace tells of was arrived at. -/
theorem arrives_iff_of_fresh (fresh : before.trace = []) :
    before.Arrives node after ↔ some node ∈ after.trace.map Occurrence.arrival? := by
  constructor
  · rintro ⟨occurrence, older, arrival, noted, -⟩
    exact List.mem_map.mpr ⟨occurrence, noted.subset List.mem_cons_self, arrival⟩
  · intro member
    obtain ⟨occurrence, noted, arrival⟩ := List.mem_map.mp member
    obtain ⟨newer, older, trace⟩ := List.append_of_mem noted
    exact ⟨occurrence, older, arrival, ⟨newer, trace.symm⟩, fresh ▸ List.nil_suffix⟩

/-- Entering a node is arriving at it. -/
theorem arrives_enter (node : NodeId) (machine : Machine World) :
    machine.Arrives node (machine.enter node) := by
  refine ⟨.entered node machine.monitor.frames, machine.trace, rfl, ?_, List.suffix_refl _⟩
  have paused : (machine.push node).Later (fun _ => True) ((machine.push node).pause node) :=
    .pause (machine.push node) Occurrence.freely trivial
  dsimp only [Machine.enter]
  split
  · exact paused.suffix
  · exact List.suffix_refl _

end Machine

namespace Program

open Machine

variable {program : Program World} {walk : Walk World} {Sites : NodeId → Prop} {node : NodeId}
  {machine : Machine World}

/-- The nodes that declare no function. -/
def Active (program : Program World) (node : NodeId) : Prop :=
  program.tree.functionAt? node = none

/-- Whatever a block puts on the call stack declares no function. -/
theorem active_of_isTracked {instruction : Instruction World}
    (found : program.tree.instruction node = .ok instruction)
    (tracked : instruction.isTracked = true) : program.Active node := by
  rw [Active, Tree.functionAt?_of_instruction found]
  exact Option.isNone_iff_eq_none.mp tracked

/-- Where all nodes that declare no function may be arrived at, the evaluator arrives nowhere else;
the other side is left open. -/
def visits (program : Program World) (Sites : NodeId → Prop)
    (covers : ∀ node, program.Active node → Sites node) : Congruence program where
  Related left _ := (visiting Sites).contract.Kept left
  Raises _ := True
  Tracks := Sites
  raises_ofCause _ := trivial
  tracks_of_isTracked found tracked := covers _ (active_of_isTracked found tracked)
  pure := Contract.kept_pure
  fail _ := Contract.kept_fail trivial
  exhausted := Contract.kept_exhausted
  bind := Contract.kept_bind
  attempt body done failed _ := Contract.kept_attempt body done fun fault _ => failed fault trivial
  checkpoint := Contract.kept_checkpoint Guard.kept_poll
  read _ := Contract.kept_state fun _ => Contract.kept_pure _
  write _ name _ value := Guard.kept_write (fun _ _ _ => by rintro _ ⟨⟩) name value
  invoke := Guard.kept_invoke
  hand _ := Guard.kept_hand _
  handFrom statement _ _ _ := Guard.kept_handFrom statement _
  tracked _ site _ _ _ := Guard.kept_tracked site
  protect := Guard.kept_protect
  call _ _ site _ _ _ _ _ kept := by
    refine Guard.kept_within _ kept (fun _ _ => trivial) ?_ fun _ allowed => allowed
    rintro _ ⟨⟩
    exact site

/-- To which statements the loop over the declarations of a library comes: before each it looks
whether a stop is due, it goes past what declares nothing, and it goes on after a declaration that
neither failed nor was stopped. -/
inductive ComesTo (program : Program World) (walk : Walk World) (node : NodeId) :
    List NodeId → Machine World → Prop where
  | here {rest : List NodeId} {machine : Machine World} (goes : machine.look.shouldStop = false) :
      ComesTo program walk node (node :: rest) machine
  | past {statement : NodeId} {rest : List NodeId} {machine : Machine World}
      {instruction : Instruction World} (goes : machine.look.shouldStop = false)
      (found : program.tree.instruction statement = .ok instruction)
      (other : instruction.isDeclaration = false)
      (later : ComesTo program walk node rest machine.look) :
      ComesTo program walk node (statement :: rest) machine
  | after {statement : NodeId} {rest : List NodeId} {machine ran : Machine World}
      {instruction : Instruction World} (goes : machine.look.shouldStop = false)
      (found : program.tree.instruction statement = .ok instruction)
      (declares : instruction.isDeclaration = true)
      (done : runDeclaration walk statement machine.look = .done false ran)
      (later : ComesTo program walk node rest ran) :
      ComesTo program walk node (statement :: rest) machine

section Loop

variable {statement : NodeId} {rest : List NodeId} {instruction : Instruction World}

/-- When a stop is due, the loop ends before the next statement. -/
theorem runDeclarations_stopped (stops : machine.look.shouldStop = true) :
    program.runDeclarations walk (statement :: rest) machine = .done () machine.look := by
  simp [runDeclarations, Exec.bind_apply, poll_apply, stops]

/-- The loop passes over what declares nothing. -/
theorem runDeclarations_past (goes : machine.look.shouldStop = false)
    (found : program.tree.instruction statement = .ok instruction)
    (other : instruction.isDeclaration = false) :
    program.runDeclarations walk (statement :: rest) machine =
      program.runDeclarations walk rest machine.look := by
  simp [runDeclarations, Exec.bind_apply, poll_apply, Exec.ofExcept, Exec.pure, goes, found, other]

/-- The loop runs a declaration, and goes on unless that failed or was stopped. -/
theorem runDeclarations_declaration (goes : machine.look.shouldStop = false)
    (found : program.tree.instruction statement = .ok instruction)
    (declares : instruction.isDeclaration = true) :
    program.runDeclarations walk (statement :: rest) machine =
      (do
        let failed ← runDeclaration walk statement
        if failed then return () else program.runDeclarations walk rest) machine.look := by
  simp [runDeclarations, Exec.bind_apply, poll_apply, Exec.ofExcept, Exec.pure, goes, found,
    declares]

/-- The loop fails at a node that is unknown. -/
theorem runDeclarations_unknown {fault : Fault} (goes : machine.look.shouldStop = false)
    (missing : program.tree.instruction statement = .error fault) :
    program.runDeclarations walk (statement :: rest) machine = .failed fault machine.look := by
  simp [runDeclarations, Exec.bind_apply, poll_apply, Exec.ofExcept, Exec.fail, goes, missing]

/-- The evaluator and the loop over the declarations of a library may arrive anywhere. -/
theorem suffix_runDeclaration (program : Program World) (fuel : Nat) (statement : NodeId)
    (machine : Machine World) : machine.trace <:+
      (runDeclaration (program.process fuel) statement machine).state.trace := by
  let free := program.visits (fun _ => True) fun _ _ => trivial
  have kept := free.runDeclaration trivial (free.process fuel statement) machine
  exact (kept.reached trivial).suffix

/-- A walk takes nothing back from the trace. -/
theorem suffix_process (program : Program World) (fuel : Nat) (node : NodeId)
    (machine : Machine World) :
    machine.trace <:+ (program.process fuel node machine).state.trace := by
  let free := program.visits (fun _ => True) fun _ _ => trivial
  exact ((free.process fuel node machine).reached trivial).suffix

/-- The loop over the declarations of a library takes nothing back from the trace. -/
theorem suffix_runDeclarations (program : Program World) (fuel : Nat) (statements : List NodeId)
    (machine : Machine World) : machine.trace <:+
      (program.runDeclarations (program.process fuel) statements machine).state.trace := by
  let free := program.visits (fun _ => True) fun _ _ => trivial
  have kept := free.runDeclarations (fun _ => trivial) (free.process fuel) statements machine
  exact (kept.reached trivial).suffix

end Loop

section Functions

variable {function : FunctionDeclaration}

/-- Whatever is processed, no function declaration is put on the call stack. -/
theorem not_arrives_of_kept {body : Exec (Machine World) Result}
    (kept : (visiting program.Active).contract.Kept body)
    (declared : program.tree.functionAt? node = some function) (machine : Machine World) :
    ¬ machine.Arrives node (body machine).state := by
  intro arrives
  have active : program.Active node := arrives.site ((kept machine).reached trivial)
  rw [Active, declared] at active
  cases active

/-- Processing a function declaration does nothing. -/
theorem process_function (fuel : Nat) (declared : program.tree.functionAt? node = some function)
    (machine : Machine World) :
    program.process (fuel + 1) node machine = .done (.resume none) machine := by
  rw [process, step_statement (Tree.instruction_of_functionAt? declared)]
  rfl

/-- Run as a declaration of a library, a function declaration is entered and left. -/
theorem runDeclaration_function (fuel : Nat)
    (declared : program.tree.functionAt? node = some function) (machine : Machine World) :
    runDeclaration (program.process (fuel + 1)) node machine =
      .done false ((machine.enter node).leave node) := by
  simp only [runDeclaration, Exec.bind_apply, Exec.update, Exec.ensuring, Exec.attempt,
    process_function fuel declared, Exec.pure_apply]

/-- The loop over the declarations of a library enters and leaves a function declaration. -/
theorem runDeclarations_function (fuel : Nat)
    (declared : program.tree.functionAt? node = some function)
    (goes : machine.look.shouldStop = false) (rest : List NodeId) :
    program.runDeclarations (program.process (fuel + 1)) (node :: rest) machine =
      program.runDeclarations (program.process (fuel + 1)) rest
        ((machine.look.enter node).leave node) := by
  rw [runDeclarations_declaration goes (Tree.instruction_of_functionAt? declared) rfl,
    Exec.bind_apply, runDeclaration_function fuel declared]
  rfl

/-- A declaration that is run arrives at no function declaration but itself. -/
theorem eq_of_arrives_runDeclaration {fuel : Nat} {statement : NodeId}
    (declared : program.tree.functionAt? node = some function)
    (arrives : machine.Arrives node
      (runDeclaration (program.process fuel) statement machine).state) : node = statement := by
  let own := program.visits (fun site => program.Active site ∨ site = statement) fun _ => .inl
  have kept := own.runDeclaration (.inr rfl) (own.process fuel statement) machine
  rcases arrives.site (kept.reached trivial) with active | same
  · rw [Active, declared] at active
    cases active
  · exact same

/-- The loop over the declarations of a library comes to all function declarations at which it
arrives. The induction is along the loop: what a declaration arrives at besides itself declares no
function. -/
theorem comesTo_of_arrives (declared : program.tree.functionAt? node = some function) {fuel : Nat}
    {statements : List NodeId} (arrives : machine.Arrives node
      (program.runDeclarations (program.process fuel) statements machine).state) :
    program.ComesTo (program.process fuel) node statements machine := by
  induction statements generalizing machine with
  | nil => exact absurd arrives (Arrives.irrefl node machine)
  | cons statement rest inductionHypothesis =>
    cases goes : machine.look.shouldStop with
    | true =>
      rw [runDeclarations_stopped goes] at arrives
      exact absurd arrives (not_arrives_look node machine)
    | false =>
      cases found : program.tree.instruction statement with
      | error fault =>
        rw [runDeclarations_unknown goes found] at arrives
        exact absurd arrives (not_arrives_look node machine)
      | ok instruction =>
        cases declares : instruction.isDeclaration with
        | false =>
          rw [runDeclarations_past goes found declares] at arrives
          exact .past goes found declares
            (inductionHypothesis (arrives.of_look (program.suffix_runDeclarations fuel rest _)))
        | true =>
          have own (there : machine.look.Arrives node
              (runDeclaration (program.process fuel) statement machine.look).state) :
              program.ComesTo (program.process fuel) node (statement :: rest) machine := by
            obtain rfl := eq_of_arrives_runDeclaration declared there
            exact .here goes
          have entered := program.suffix_runDeclaration fuel statement machine.look
          rw [runDeclarations_declaration goes found declares, Exec.bind_apply] at arrives
          cases ran : runDeclaration (program.process fuel) statement machine.look with
          | failed fault after =>
            rw [ran] at arrives own entered
            exact own (arrives.of_look entered)
          | exhausted after =>
            rw [ran] at arrives own entered
            exact own (arrives.of_look entered)
          | done failed after =>
            rw [ran] at arrives own entered
            cases failed with
            | true => exact own (arrives.of_look entered)
            | false =>
              have ended := program.suffix_runDeclarations fuel rest after
              rcases (arrives.of_look (entered.trans ended)).split ended with before | later
              · exact own before
              · exact .after goes found declares ran (inductionHypothesis later)

/-- The loop over the declarations of a library arrives at every function declaration to which it
comes. -/
theorem arrives_of_comesTo (declared : program.tree.functionAt? node = some function) {fuel : Nat}
    {statements : List NodeId}
    (comes : program.ComesTo (program.process fuel) node statements machine) :
    machine.Arrives node
      (program.runDeclarations (program.process fuel) statements machine).state := by
  induction comes with
  | @here rest machine goes =>
    have entered := (arrives_enter node machine.look).widen (suffix_look machine)
      (List.suffix_refl _)
    cases fuel with
    | zero =>
      rw [runDeclarations_declaration goes (Tree.instruction_of_functionAt? declared) rfl]
      exact entered
    | succ fuel =>
      rw [runDeclarations_function fuel declared goes]
      have left : (machine.look.enter node).trace <:+
          ((machine.look.enter node).leave node).trace := List.suffix_cons _ _
      exact entered.widen (List.suffix_refl _)
        (left.trans (program.suffix_runDeclarations _ rest _))
  | @past statement rest machine instruction goes found other _ inductionHypothesis =>
    rw [runDeclarations_past goes found other]
    exact inductionHypothesis.widen (suffix_look machine) (List.suffix_refl _)
  | @after statement rest machine ran instruction goes found declares done _ inductionHypothesis =>
    have earlier := program.suffix_runDeclaration fuel statement machine.look
    rw [runDeclarations_declaration goes found declares, Exec.bind_apply, done]
    rw [done] at earlier
    exact inductionHypothesis.widen ((suffix_look machine).trans earlier) (List.suffix_refl _)

end Functions

end Program

end Treewalk
