import Mathlib.Logic.Relation
import Treewalk.Proofs.StopHeeding

/-!
# Lexical flow

A flow that does not resume was written down where it can be seen from the node that answers with
it. Blocks pass on the flow of their statements, conditions that of their branches and error blocks
that of their body (`Tree.Forwards`), and loops pass on the returns of their body
(`Tree.ForwardsReturns`). Nothing else passes on a flow: an expression resumes with its value, a
loop takes the breaks and continues of its body, a handler drops its flow, and neither a stop nor a
caught error makes anything but a return without a value or a resumption. `Tree.Explains` says for
each flow what has to stand below the node, and `Program.yields_process` that it does.
-/

namespace Treewalk

variable {World Result Next : Type}

/-- The parts of a statement whose flow it passes on, whatever the flow is. -/
def Statement.forwarded : Statement → List NodeId
  | .block statements => statements
  | .branch _ consequent alternative => consequent :: alternative.toList
  | .errorBlock parts => [parts.body]
  | _ => []

/-- The part of a statement that it runs once a round. -/
def Statement.repeated : Statement → List NodeId
  | .loop _ body => [body]
  | .foreach _ _ body => [body]
  | _ => []

namespace Tree

/-- A block and one of its statements, a condition and one of its branches, or an error block and
its body. -/
def Forwards (tree : Tree World) (parent child : NodeId) : Prop :=
  ∃ content, tree.instruction parent = .ok (.statement content) ∧ child ∈ content.forwarded

/-- As before, or a loop and its body. -/
def ForwardsReturns (tree : Tree World) (parent child : NodeId) : Prop :=
  ∃ content, tree.instruction parent = .ok (.statement content) ∧
    (child ∈ content.forwarded ∨ child ∈ content.repeated)

/-- Where a flow that a node answers with was written down. Resumptions and returns without a value
come from anywhere. -/
def Explains (tree : Tree World) (node : NodeId) : Flow → Prop
  | .breaking => ∃ source, Relation.ReflTransGen tree.Forwards node source ∧
      tree.instruction source = .ok (.statement .breakLoop)
  | .continuing => ∃ source, Relation.ReflTransGen tree.Forwards node source ∧
      tree.instruction source = .ok (.statement .continueLoop)
  | .returning (some _) => ∃ source result, Relation.ReflTransGen tree.ForwardsReturns node source ∧
      tree.instruction source = .ok (.statement (.leave (some result)))
  | .returning none => True
  | .resume _ => True

variable {tree : Tree World} {node child : NodeId} {flow : Flow}

/-- What forwards every flow forwards returns. -/
theorem Forwards.forwardsReturns (forwards : tree.Forwards node child) :
    tree.ForwardsReturns node child := by
  obtain ⟨content, found, member⟩ := forwards
  exact ⟨content, found, .inl member⟩

/-- What explains the flow of a part explains it for the node that passes it on. -/
theorem Explains.of_forwards (forwards : tree.Forwards node child)
    (explained : tree.Explains child flow) : tree.Explains node flow := by
  cases flow with
  | resume value => trivial
  | breaking =>
    obtain ⟨source, path, found⟩ := explained
    exact ⟨source, .head forwards path, found⟩
  | continuing =>
    obtain ⟨source, path, found⟩ := explained
    exact ⟨source, .head forwards path, found⟩
  | returning value =>
    cases value with
    | none => trivial
    | some value =>
      obtain ⟨source, result, path, found⟩ := explained
      exact ⟨source, result, .head forwards.forwardsReturns path, found⟩

/-- A return that is explained below is explained by whatever forwards returns. -/
theorem Explains.of_forwardsReturns (forwards : tree.ForwardsReturns node child)
    (explained : tree.Explains child flow) (returns : flow.returns = true) :
    tree.Explains node flow := by
  cases flow with
  | returning value =>
    cases value with
    | none => trivial
    | some value =>
      obtain ⟨source, result, path, found⟩ := explained
      exact ⟨source, result, .head forwards path, found⟩
  | resume value => cases returns
  | breaking => cases returns
  | continuing => cases returns

/-- A node that passes on no flow and is no break or continue answers with neither. -/
theorem Explains.ne_of_inner (explained : tree.Explains node flow)
    {instruction : Instruction World} (found : tree.instruction node = .ok instruction)
    (inner : ∀ content, instruction = .statement content →
      content.forwarded = [] ∧ content ≠ .breakLoop ∧ content ≠ .continueLoop) :
    flow ≠ .breaking ∧ flow ≠ .continuing := by
  have only {source : NodeId} {content : Statement}
      (path : Relation.ReflTransGen tree.Forwards node source)
      (stands : tree.instruction source = .ok (.statement content)) :
      content ≠ .breakLoop ∧ content ≠ .continueLoop := by
    cases path.cases_head with
    | inl same =>
      subst same
      rw [found] at stands
      cases stands
      exact (inner content rfl).2
    | inr ahead =>
      obtain ⟨child, ⟨parent, atNode, member⟩, -⟩ := ahead
      rw [found] at atNode
      cases atNode
      rw [(inner parent rfl).1] at member
      cases member
  constructor
  · rintro rfl
    obtain ⟨source, path, stands⟩ := explained
    exact (only path stands).1 rfl
  · rintro rfl
    obtain ⟨source, path, stands⟩ := explained
    exact (only path stands).2 rfl

end Tree

namespace Exec

variable {State : Type}

/-- Whatever the computation is done with is as wanted. -/
def Yields (Wanted : Result → Prop) (body : Exec State Result) : Prop :=
  ∀ before result after, body before = .done result after → Wanted result

variable {Wanted : Result → Prop} {WantedNext : Next → Prop}

/-- A value that is wanted is yielded at once. -/
theorem yields_pure {result : Result} (wanted : Wanted result) :
    Yields Wanted (pure result : Exec State Result) := by
  intro before answer after done
  cases done
  exact wanted

/-- A failure yields nothing that could be unwanted. -/
theorem yields_fail (fault : Fault) : Yields Wanted (fail fault : Exec State Result) := by
  intro before answer after done
  cases done

/-- What the first part yields may be counted on in the rest. -/
theorem yields_bind_of {first : Exec State Result} {next : Result → Exec State Next}
    (firstYields : Yields Wanted first)
    (nextYields : ∀ result, Wanted result → Yields WantedNext (next result)) :
    Yields WantedNext (first >>= next) := by
  intro before answer after done
  obtain ⟨middle, between, first, second⟩ := exists_of_bind_done done
  exact nextYields middle (firstYields before middle between first) between answer after second

/-- Only what a sequence does last decides what it is done with. -/
theorem yields_bind {first : Exec State Result} {next : Result → Exec State Next}
    (nextYields : ∀ result, Yields WantedNext (next result)) :
    Yields WantedNext (first >>= next) := by
  have anything : Yields (fun _ => True) first := fun _ _ _ _ => trivial
  exact yields_bind_of anything fun result _ => nextYields result

/-- Only what a body is done with is passed on as its value. -/
theorem yields_attempt {body : Exec State Result} (bodyYields : Yields Wanted body) :
    Yields (fun ended => ∀ result, ended = .ok result → Wanted result) (attempt body) := by
  rintro before ended after done result rfl
  simp only [attempt] at done
  cases reached : body before with
  | done answer inside =>
    rw [reached] at done
    cases done
    exact bodyYields before result after reached
  | failed fault inside =>
    rw [reached] at done
    cases done
  | exhausted inside =>
    rw [reached] at done
    cases done

/-- Cleaning up does not change what a body is done with. -/
theorem yields_ensuring {body : Exec State Result} {cleanup : State → State}
    (bodyYields : Yields Wanted body) : Yields Wanted (ensuring body cleanup) := by
  intro before result after done
  obtain ⟨inside, ended, -⟩ := exists_of_ensuring_done done
  exact bodyYields before result inside ended

end Exec

namespace Program

open Exec

variable {program : Program World} {walk : Walk World} {node : NodeId}

section Rules

variable {Wanted : Flow → Prop}

/-- A statement of a block answers as it was walked, or as a stop or an absorbed failure has it. -/
theorem yields_runStatement {statement : NodeId} (resumption : Wanted (.resume none))
    (stop : Wanted (.returning none)) (walked : Yields Wanted (walk statement)) :
    Yields Wanted (runStatement walk statement) := by
  refine yields_bind_of (yields_attempt walked) fun ended explained => ?_
  cases ended with
  | ok flow => exact yields_pure (explained flow rfl)
  | error fault =>
    simp only [settle]
    split
    · exact yields_pure stop
    · exact yields_bind fun _ => yields_pure resumption

/-- A statement that is stopped on entry returns without a value. -/
theorem yields_processStatement {statement : NodeId} (resumption : Wanted (.resume none))
    (stop : Wanted (.returning none)) (walked : Yields Wanted (walk statement)) :
    Yields Wanted (program.processStatement walk statement) := by
  have run := yields_runStatement resumption stop walked
  refine yields_bind fun instruction => ?_
  split
  · refine yields_bind fun _ => yields_ensuring (yields_bind fun machine => ?_)
    split
    · exact yields_pure stop
    · exact run
  · exact run

/-- A block answers as one of its statements, or as a stop or its end has it. -/
theorem yields_processBlock (resumption : Wanted (.resume none)) (stop : Wanted (.returning none)) :
    ∀ statements : List NodeId, (∀ statement ∈ statements, Yields Wanted (walk statement)) →
      Yields Wanted (program.processBlock walk statements)
  | [], _ => yields_pure resumption
  | statement :: rest, walked => by
    have first : Yields Wanted (program.processStatement walk statement) :=
      yields_processStatement resumption stop (walked statement List.mem_cons_self)
    have others := yields_processBlock resumption stop rest fun later member =>
      walked later (List.mem_cons_of_mem _ member)
    refine yields_bind fun machine => ?_
    split
    · exact yields_pure stop
    · refine yields_bind_of first fun flow wanted => ?_
      split
      · exact others
      · exact yields_pure wanted

/-- A loop resumes or passes on a return of its body; if it goes on, it answers as the loop. -/
theorem yields_processLoop {condition body : NodeId} (resumption : Wanted (.resume none))
    (walked : Yields (fun flow => flow.returns = true → Wanted flow) (walk body))
    (again : Yields Wanted (walk node)) :
    Yields Wanted (processLoop walk node condition body) := by
  refine yields_bind fun machine => ?_
  split
  · exact yields_pure resumption
  refine yields_bind fun test => ?_
  split
  · refine yields_bind_of walked fun flow wanted => ?_
    split
    · next returns => exact yields_pure (wanted returns)
    split
    · exact yields_pure resumption
    · exact again
  · exact yields_pure resumption

/-- The induction is on the items that are left. -/
theorem yields_processItems {target body : NodeId} {declaration : VariableDeclaration}
    (resumption : Wanted (.resume none))
    (walked : Yields (fun flow => flow.returns = true → Wanted flow) (walk body)) :
    ∀ items : List Value, Yields Wanted (program.processItems walk target declaration body items)
  | [] => yields_pure resumption
  | item :: rest => by
    have others : Yields Wanted (program.processItems walk target declaration body rest) :=
      yields_processItems resumption walked rest
    refine yields_bind fun machine => ?_
    split
    · exact yields_pure resumption
    refine yields_bind fun _ => yields_bind_of walked fun flow wanted => ?_
    split
    · next returns => exact yields_pure (wanted returns)
    split
    · exact yields_pure resumption
    · exact others

/-- An error block answers as its body does, and resumes once an error was caught. -/
theorem yields_processErrorBlock {parts : ErrorBlock} (resumption : Wanted (.resume none))
    (walked : Yields Wanted (walk parts.body)) :
    Yields Wanted (program.processErrorBlock walk parts) := by
  have guarded : Yields Wanted (runProtected walk parts.body) := by
    refine yields_bind_of (yields_attempt walked) fun ended explained => ?_
    cases ended with
    | ok flow => exact yields_pure (explained flow rfl)
    | error fault => exact yields_bind fun _ => yields_pure resumption
  have shielded : Yields (fun ended : Flow × Option Fault => Wanted ended.1)
      (processProtected walk parts.body) :=
    yields_ensuring (yields_bind fun _ => yields_bind_of guarded fun flow wanted =>
      yields_bind fun _ => yields_pure wanted)
  refine yields_bind_of shielded fun ended wanted => ?_
  obtain ⟨flow, caught⟩ := ended
  cases caught with
  | some fault =>
    exact yields_bind fun _ => yields_bind fun _ => yields_bind fun _ => yields_pure resumption
  | none => exact yields_bind fun _ => yields_bind fun _ => yields_pure wanted

end Rules

/-- Each kind of statement answers with a flow that is explained there, if the walk of the nodes
below answers so. -/
theorem yields_performStatement {content : Statement}
    (walked : ∀ below, Yields (program.tree.Explains below) (walk below))
    (found : program.tree.instruction node = .ok (.statement content)) :
    Yields (program.tree.Explains node) (program.performStatement walk node content) := by
  have forwarded {child : NodeId} (member : child ∈ content.forwarded) :
      Yields (program.tree.Explains node) (walk child) :=
    fun before flow after done =>
      .of_forwards ⟨content, found, member⟩ (walked child before flow after done)
  have repeated {child : NodeId} (member : child ∈ content.repeated) :
      Yields (fun flow => flow.returns = true → program.tree.Explains node flow) (walk child) :=
    fun before flow after done =>
      .of_forwardsReturns ⟨content, found, .inr member⟩ (walked child before flow after done)
  cases content with
  | block statements =>
    exact yields_processBlock trivial trivial statements fun _ member => forwarded member
  | declareVariable declaration =>
    exact yields_bind fun _ => yields_bind fun _ => yields_pure trivial
  | declareFunction declaration => exact yields_pure trivial
  | branch condition consequent alternative =>
    refine yields_bind fun test => ?_
    split
    · exact forwarded List.mem_cons_self
    · cases alternative with
      | none => exact yields_pure trivial
      | some otherwise => exact forwarded (by simp [Statement.forwarded])
  | loop condition body =>
    exact yields_processLoop trivial (repeated List.mem_cons_self) (walked node)
  | foreach target iterable body =>
    exact yields_bind fun _ => yields_bind fun _ => yields_bind fun items =>
      yields_processItems trivial (repeated List.mem_cons_self) items
  | breakLoop => exact yields_pure ⟨node, .refl, found⟩
  | continueLoop => exact yields_pure ⟨node, .refl, found⟩
  | leave value =>
    cases value with
    | none => exact yields_pure trivial
    | some result => exact yields_bind fun _ => yields_pure ⟨node, result, .refl, found⟩
  | errorBlock parts => exact yields_processErrorBlock trivial (forwarded List.mem_cons_self)

/-- An expression resumes with its value, whatever was walked for it. -/
theorem yields_step_expression {content : Expression World}
    (found : program.tree.instruction node = .ok (.expression content)) :
    Yields (fun flow => ∃ value, flow = .resume (some value)) (program.step walk node) := by
  rw [step_expression found]
  exact yields_bind fun value => yields_pure ⟨value, rfl⟩

/-- A node answers with a flow that its instruction explains. -/
theorem yields_step (walked : ∀ below, Yields (program.tree.Explains below) (walk below)) :
    Yields (program.tree.Explains node) (program.step walk node) := by
  cases found : program.tree.instruction node with
  | error fault =>
    have never : Yields (fun _ => False)
        (Exec.ofExcept (.error fault) : Exec (Machine World) (Instruction World)) :=
      yields_fail fault
    simp only [step, found]
    exact yields_bind_of never fun _ impossible => impossible.elim
  | ok instruction =>
    cases instruction with
    | statement content =>
      rw [step_statement found]
      exact yields_performStatement walked found
    | expression content =>
      intro before flow after done
      obtain ⟨value, rfl⟩ := yields_step_expression found before flow after done
      trivial

/-- Every flow that a node answers with is explained there. -/
theorem yields_process (program : Program World) :
    ∀ (fuel : Nat) (node : NodeId),
      Yields (program.tree.Explains node) (program.process fuel node)
  | 0, _ => fun _ _ _ done => nomatch done
  | fuel + 1, _ => yields_step (yields_process program fuel)

/-- Breaks, continues and returns with a value are lexical. A break or continue that a node answers
with is a statement that is reached from there through blocks, branches and the bodies of error
blocks alone, and a return with a value through these and the bodies of loops. So no loop answers
with a break or continue, and neither does a call or another expression, which resumes with its
value. -/
theorem lexical_flow (program : Program World) (fuel : Nat) (node : NodeId)
    {before after : Machine World} {flow : Flow}
    (ended : program.process fuel node before = .done flow after) :
    (flow = .breaking → ∃ source, Relation.ReflTransGen program.tree.Forwards node source ∧
      program.tree.instruction source = .ok (.statement .breakLoop)) ∧
    (flow = .continuing → ∃ source, Relation.ReflTransGen program.tree.Forwards node source ∧
      program.tree.instruction source = .ok (.statement .continueLoop)) ∧
    (∀ value, flow = .returning (some value) → ∃ source result,
      Relation.ReflTransGen program.tree.ForwardsReturns node source ∧
        program.tree.instruction source = .ok (.statement (.leave (some result)))) ∧
    (∀ condition body, program.tree.instruction node = .ok (.statement (.loop condition body)) →
      flow ≠ .breaking ∧ flow ≠ .continuing) ∧
    (∀ target iterable body,
      program.tree.instruction node = .ok (.statement (.foreach target iterable body)) →
      flow ≠ .breaking ∧ flow ≠ .continuing) ∧
    ∀ content, program.tree.instruction node = .ok (.expression content) →
      ∃ value, flow = .resume (some value) := by
  have explained : program.tree.Explains node flow :=
    yields_process program fuel node before flow after ended
  refine ⟨?_, ?_, ?_, ?_, ?_, ?_⟩
  · rintro rfl
    exact explained
  · rintro rfl
    exact explained
  · rintro value rfl
    exact explained
  · intro condition body found
    refine explained.ne_of_inner found fun content same => ?_
    cases same
    exact ⟨rfl, nofun, nofun⟩
  · intro target iterable body found
    refine explained.ne_of_inner found fun content same => ?_
    cases same
    exact ⟨rfl, nofun, nofun⟩
  · intro content found
    cases fuel with
    | zero => cases ended
    | succ fuel => exact yields_step_expression found before flow after ended

/-- A break in the body of an error block in one branch, and a call of a function whose body
breaks. -/
def breaksInside : Program Unit where
  tree :=
    { key := 0
      nodes := #[
        ⟨.statement .breakLoop, none⟩,
        ⟨.statement (.block [⟨0⟩]), none⟩,
        ⟨.statement (.errorBlock ⟨⟨1⟩, none, none, none, none⟩), none⟩,
        ⟨.expression (.literal (.bool true)), none⟩,
        ⟨.statement (.branch ⟨3⟩ ⟨2⟩ none), none⟩,
        ⟨.statement (.declareFunction ⟨"f", [], ⟨4⟩⟩), none⟩,
        ⟨.expression (.call ⟨5⟩ []), none⟩]
      layouts := [⟨.function ⟨5⟩, [], []⟩] }

/-- The break is passed on by the branch, but the call of the function around it resumes. -/
theorem lexical_flow_of_branch_and_call :
    let program := breaksInside
    let machine : Machine Unit := { host := { world := () } }
    (∃ after, program.process 5 ⟨4⟩ machine = .done .breaking after) ∧
    (∃ source, Relation.ReflTransGen program.tree.Forwards ⟨4⟩ source ∧
      program.tree.instruction source = .ok (.statement .breakLoop)) ∧
    ∃ value after, program.process 7 ⟨6⟩ machine = .done (.resume (some value)) after := by
  intro program machine
  have branch : ∃ after, program.process 5 ⟨4⟩ machine = .done .breaking after := ⟨_, rfl⟩
  have call : ∃ flow after, program.process 7 ⟨6⟩ machine = .done flow after := ⟨_, _, rfl⟩
  refine ⟨branch, ?_, ?_⟩
  · obtain ⟨after, ended⟩ := branch
    exact (lexical_flow program 5 ⟨4⟩ ended).1 rfl
  · obtain ⟨flow, after, ended⟩ := call
    obtain ⟨-, -, -, -, -, expression⟩ := lexical_flow program 7 ⟨6⟩ ended
    obtain ⟨value, rfl⟩ := expression _ rfl
    exact ⟨value, after, ended⟩

end Program

end Treewalk
