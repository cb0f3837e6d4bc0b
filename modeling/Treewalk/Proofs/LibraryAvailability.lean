import Treewalk.Proofs.Teardown

/-!
# Which libraries are bound when a script runs

A run of a script initializes every library below it that is not initialized yet, and being
initialized is taken for being bound. A script that is run for itself is initialized too, but it is
not bound: its variables are gone when it is done. So a library is bound when a script that includes
it runs, unless it has been run for itself before anything that includes it.

`ScriptGraph.Brought` says what preparing scripts does to the flags, `ScriptGraph.Served` says what
the flags are after a sequence of runs, and `ScriptGraph.Supplied` what this means for the bindings
of libraries where a root block is opened.
-/

namespace Treewalk

variable {World : Type}

/-- The root that was opened, and the store at that point, if the root block of a script was about
to run. -/
def Occurrence.opensScript? : Occurrence → Option (NodeId × Store)
  | .scriptOpened root _ store => some (root, store)
  | _ => none

/-- The roots of the scripts that have been opened with the stores at these points, newest first. -/
def Machine.scriptOpenings (machine : Machine World) : List (NodeId × Store) :=
  machine.trace.filterMap Occurrence.opensScript?

/-- Only openings count. -/
theorem Machine.scriptOpenings_eq (machine : Machine World) :
    machine.scriptOpenings = machine.openings.filterMap Occurrence.opensScript? := by
  rw [openings, sightings, List.filterMap_filter]
  apply List.filterMap_congr
  intro occurrence _
  cases occurrence <;> rfl

namespace Exec

variable {State Result Next : Type}

/-- What finishes in sequence either failed at once or went on. -/
theorem cases_of_bind_final? {first : Exec State Result} {next : Result → Exec State Next}
    {before after : State} (ended : ((first >>= next) before).final? = some after) :
    (∃ fault, first before = .failed fault after) ∨
      ∃ middle between, first before = .done middle between ∧
        (next middle between).final? = some after := by
  rw [bind_apply] at ended
  cases reached : first before with
  | done middle between =>
    rw [reached] at ended
    exact .inr ⟨middle, between, rfl, ended⟩
  | failed fault between =>
    rw [reached] at ended
    cases ended
    exact .inl ⟨fault, rfl⟩
  | exhausted between =>
    rw [reached] at ended
    cases ended

end Exec

/-- Opening no script. -/
def Workspace.unopening : Contract (Workspace World) where
  Raised _ := True
  Finished before after := after.machine.scriptOpenings = before.machine.scriptOpenings
  Reached _ _ := True
  refl _ := rfl
  trans earlier later := later.trans earlier
  reached_of_finished _ := trivial
  reached_trans _ _ := trivial

namespace ScriptGraph

open Workspace

variable {graph : ScriptGraph World} {before between after workspace : Workspace World}
  {number : Nat}

/-- Preparing a script opens libraries but no script. -/
theorem unopening_prepare (fuel number : Nat) (skipSelf : Bool) :
    unopening.Kept (graph.prepare fuel number skipSelf) := by
  apply kept_prepare (fun _ _ => rfl)
  intro number
  apply kept_declare (fun _ => trivial) (fun _ _ => trivial)
  intro number layout before after declared
  obtain ⟨frames, opened⟩ := declared.opened
  change after.machine.scriptOpenings = before.machine.scriptOpenings
  rw [Machine.scriptOpenings_eq, Machine.scriptOpenings_eq, opened]
  rfl

/-- A root block adds one opening, with the store that it starts from. -/
theorem RanRoot.scriptOpenings {layout : Layout} (ran : graph.RanRoot number layout before after) :
    after.machine.scriptOpenings =
      ((graph.script number).root, rootStore before number layout) ::
        before.machine.scriptOpenings := by
  obtain ⟨frames, opened⟩ := ran.opened
  rw [Machine.scriptOpenings_eq, Machine.scriptOpenings_eq, opened]
  rfl

/-- Without a registered root nothing is run. -/
theorem runRoot_cases {fuel : Nat}
    (ended : (graph.runRoot fuel number before).final? = some after) :
    after = before ∨ ∃ layout, graph.RanRoot number layout before after := by
  cases registered : (graph.script number).tree.rootLayout? (graph.script number).root with
  | none =>
    rw [runRoot_unregistered registered] at ended
    cases ended
    exact .inl rfl
  | some layout => exact .inr ⟨layout, ranRoot_of_runRoot registered ended⟩

/-- The libraries of a script have been initialized in full for its run. -/
inductive Readied (graph : ScriptGraph World) (number : Nat) (before : Workspace World) :
    Workspace World → Prop where
  | already (initialized : (before.status number).initialized = true) :
      Readied graph number before before
  | prepared {fuel : Nat} {after : Workspace World}
      (uninitialized : (before.status number).initialized = false)
      (done : graph.prepare fuel number true before = .done () after) :
      Readied graph number before after

/-- A run opens its root block after its libraries are ready, or it opens nothing. -/
theorem run_cases {fuel : Nat} (ended : (graph.run fuel number before).final? = some after) :
    after.machine.scriptOpenings = before.machine.scriptOpenings ∨
      ∃ ready prepared layout, before.Akin ready ∧
        ready.machine.scriptOpenings = before.machine.scriptOpenings ∧
        graph.Readied number ready prepared ∧ graph.RanRoot number layout prepared after := by
  obtain ⟨_, ⟨⟩⟩ | ⟨_, ready, ⟨⟩, ended⟩ := Exec.cases_of_bind_final? ended
  obtain ⟨_, ⟨⟩⟩ | ⟨_, _, ⟨⟩, ended⟩ := Exec.cases_of_bind_final? ended
  have akin := akin_hasRun number before
  split at ended
  · next initialized =>
    rcases runRoot_cases ended with rfl | ⟨layout, ran⟩
    · exact .inl rfl
    · exact .inr ⟨_, _, layout, akin, rfl, .already initialized, ran⟩
  · next uninitialized =>
    have unopened (reached : Workspace World)
        (prepared : (graph.prepare fuel number true
          (before.amend number fun status => { status with hasRun := true })).final? =
            some reached) :
        unopening.Finished
          (before.amend number fun status => { status with hasRun := true }) reached :=
      (unopening_prepare fuel number true _).finished prepared
    rcases Exec.cases_of_bind_final? ended with ⟨fault, failed⟩ | ⟨_, prepared, done, ended⟩
    · exact .inl (unopened after (congrArg Outcome.final? failed))
    · rcases runRoot_cases ended with rfl | ⟨layout, ran⟩
      · exact .inl (unopened after (congrArg Outcome.final? done))
      · exact .inr ⟨_, _, layout, akin, rfl, .prepared (by simpa using uninitialized) done, ran⟩

/-- A run of a script opens nothing, or its libraries have been initialized in full and its root
block is opened. -/
theorem process_cases {fuel : Nat}
    (ended : (graph.process fuel number before).final? = some after) :
    after.machine.scriptOpenings = before.machine.scriptOpenings ∨
      ∃ ready prepared layout, before.Akin ready ∧
        ready.machine.scriptOpenings = before.machine.scriptOpenings ∧
        graph.Readied number ready prepared ∧ graph.RanRoot number layout prepared after := by
  obtain ⟨_, ⟨⟩⟩ | ⟨_, _, ⟨⟩, ended⟩ := Exec.cases_of_bind_final? ended
  split at ended
  · cases ended
    exact .inl rfl
  · obtain ⟨_, ⟨⟩⟩ | ⟨_, started, ⟨⟩, ended⟩ := Exec.cases_of_bind_final? ended
    obtain ⟨inside, reached, rfl⟩ := Exec.exists_of_ensuring_final? ended
    have announced (script : Script World) (event : Event) (workspace : Workspace World) :
        (workspace.announce script event).machine.scriptOpenings =
          workspace.machine.scriptOpenings := by
      rw [machine_announce]
    rcases run_cases reached with same | ⟨ready, prepared, layout, akin, unopened, readied, ran⟩
    · refine .inl ?_
      rw [announced, same, announced]
    · refine .inr ⟨ready, prepared, layout, ?_, ?_, readied, ?_⟩
      · refine Akin.trans ?_ akin
        exact akin_of_same (machine_announce _ _ _) (statuses_announce _ _ _)
      · rw [unopened, announced]
      · exact ⟨ran.registered, (statuses_announce _ _ _).trans ran.statuses,
          fun cell => by rw [machine_announce]; exact ran.depth cell,
          by rw [machine_announce]; exact ran.opened⟩

/-- Below a number, the libraries of what is initialized are initialized. -/
def ClosedBelow (graph : ScriptGraph World) (limit : Nat) (workspace : Workspace World) : Prop :=
  ∀ number < limit, (workspace.status number).initialized = true →
    ∀ library, graph.Includes number library → (workspace.status library).initialized = true

/-- Below a limit, whatever an initialized script reaches is initialized. -/
theorem ClosedBelow.reaches {limit library : Nat} (closed : graph.ClosedBelow limit workspace)
    (reaches : graph.Reaches number library) (below : number < limit)
    (initialized : (workspace.status number).initialized = true) :
    (workspace.status library).initialized = true := by
  induction reaches with
  | refl => exact initialized
  | @tail between library earlier includes inductionHypothesis =>
    exact closed between (Nat.lt_of_le_of_lt (Reaches.le earlier) below) inductionHypothesis
      library includes

/-- All scripts of a kind are initialized, and those that were not before are bound. -/
structure Brought (Kind : Nat → Prop) (before after : Workspace World) : Prop where
  initialized : ∀ number, (after.status number).initialized = true ↔
    (before.status number).initialized = true ∨ Kind number
  libraryBound : ∀ number, (after.status number).libraryBound = true ↔
    (before.status number).libraryBound = true ∨
      (before.status number).initialized = false ∧ Kind number

namespace Brought

variable {Kind Earlier Later : Nat → Prop}

/-- There is nothing to do for what is initialized. -/
theorem refl (initialized : ∀ number, Kind number → (workspace.status number).initialized = true) :
    Brought Kind workspace workspace where
  initialized number := by
    constructor
    · exact .inl
    · rintro (already | kind)
      · exact already
      · exact initialized number kind
  libraryBound number := by
    constructor
    · exact .inl
    · rintro (bound | ⟨uninitialized, kind⟩)
      · exact bound
      · rw [initialized number kind] at uninitialized
        cases uninitialized

/-- What two stretches have brought is what both have. -/
theorem trans (earlier : Brought Earlier before between) (later : Brought Later between after) :
    Brought (fun number => Earlier number ∨ Later number) before after where
  initialized number := by
    rw [later.initialized, earlier.initialized, or_assoc]
  libraryBound number := by
    have uninitialized : (between.status number).initialized = false ↔
        (before.status number).initialized = false ∧ ¬ Earlier number := by
      rw [← Bool.not_eq_true, earlier.initialized, not_or, Bool.not_eq_true]
    rw [later.libraryBound, earlier.libraryBound, uninitialized]
    tauto

/-- Together with everything below it, more can be initialized. -/
theorem closedBelow (brought : Brought Kind before after)
    (kind : ∀ number library, Kind number → graph.Includes number library → Kind library)
    {limit : Nat} (closed : graph.ClosedBelow limit before) : graph.ClosedBelow limit after := by
  intro number below initialized library includes
  rw [brought.initialized] at initialized ⊢
  rcases initialized with already | member
  · exact .inl (closed number below already library includes)
  · exact .inr (kind number library member includes)

end Brought

/-- What a script reaches are the script itself and what its libraries reach. -/
theorem reaches_iff {library : Nat} :
    graph.Reaches number library ↔
      library = number ∨ ∃ first ∈ graph.libraries number, graph.Reaches first.1 library := by
  constructor
  · intro reaches
    rcases Relation.ReflTransGen.cases_head reaches with same | ⟨first, ⟨smaller, member⟩, rest⟩
    · exact .inl same.symm
    · exact .inr ⟨⟨first, smaller⟩, member, rest⟩
  · rintro (rfl | ⟨first, member, rest⟩)
    · exact .refl
    · exact .head (includes_of_mem member) rest

/-- The libraries in a list are brought one after the other, each with everything below it. -/
theorem brought_libraries {fuel : Nat} {libraries : List { library // library < number }}
    (bring : ∀ library < number, ∀ before after : Workspace World,
      graph.ClosedBelow library before → (before.status library).initialized = false →
      graph.prepare fuel library false before = .done () after →
      Brought (graph.Reaches library) before after)
    (closed : graph.ClosedBelow number before)
    (done : (libraries.forM fun library =>
      unlessInitialized library.1 (graph.prepare fuel library.1 false)) before = .done () after) :
    Brought (fun other => ∃ library ∈ libraries, graph.Reaches library.1 other) before after := by
  induction libraries generalizing before with
  | nil =>
    cases done
    exact .refl fun _ ⟨_, member, _⟩ => nomatch member
  | cons first rest inductionHypothesis =>
    obtain ⟨_, between, ended, continued⟩ := Exec.exists_of_bind_done done
    have earlier : Brought (graph.Reaches first.1) before between := by
      change (if (before.status first.1).initialized then pure ()
        else graph.prepare fuel first.1 false) before = _ at ended
      split at ended
      · next already =>
        cases ended
        exact .refl fun other reaches => closed.reaches reaches first.2 already
      · next uninitialized =>
        refine bring first.1 first.2 before between ?_ (by simpa using uninitialized) ended
        exact fun other below => closed other (Nat.lt_trans below first.2)
    have later := inductionHypothesis
      (earlier.closedBelow (fun _ _ reaches includes => reaches.tail includes) closed) continued
    simpa only [List.mem_cons, exists_eq_or_imp] using earlier.trans later

/-- Flagging a script initializes it and no other. -/
theorem initialized_flag_iff {other : Nat} :
    ((flag number workspace).status other).initialized = true ↔
      (workspace.status other).initialized = true ∨ other = number := by
  rw [status_amend]
  split
  · next same => simp [same]
  · next different => simp [different]

/-- The script that is flagged has the limit for its number, so nothing is claimed of it. -/
theorem ClosedBelow.flag (closed : graph.ClosedBelow number workspace) :
    graph.ClosedBelow number (flag number workspace) := by
  intro other below initialized library includes
  rw [initialized_flag_iff] at initialized ⊢
  rcases initialized with already | same
  · exact .inl (closed other below already library includes)
  · exact absurd same (Nat.ne_of_lt below)

/-- A script that was initialized in full is brought together with everything below it. -/
theorem brought_prepare {fuel : Nat} (closed : graph.ClosedBelow number before)
    (uninitialized : (before.status number).initialized = false)
    (done : graph.prepare fuel number false before = .done () after) :
    Brought (graph.Reaches number) before after := by
  induction number using Nat.strongRecOn generalizing before after with
  | ind number inductionHypothesis =>
    rw [prepare_apply] at done
    obtain ⟨_, between, ended, declaredDone⟩ := Exec.exists_of_bind_done done
    have libraries := brought_libraries
      (fun library below before after closed uninitialized done =>
        inductionHypothesis library below closed uninitialized done) closed.flag ended
    obtain ⟨layout, registered⟩ : ∃ layout,
        (graph.script number).tree.rootLayout? (graph.script number).root = some layout := by
      cases registered :
          (graph.script number).tree.rootLayout? (graph.script number).root with
      | some layout => exact ⟨layout, rfl⟩
      | none =>
        change graph.declare fuel number between = _ at declaredDone
        rw [declare_unregistered registered] at declaredDone
        cases declaredDone
    have declared := declared_of_declare registered (congrArg Outcome.final? declaredDone)
    have below (other : Nat) (reached : ∃ library ∈ graph.libraries number,
        graph.Reaches library.1 other) : other ≠ number := by
      obtain ⟨library, -, reaches⟩ := reached
      exact Nat.ne_of_lt (Nat.lt_of_le_of_lt (Reaches.le reaches) library.2)
    constructor
    · intro other
      have same : (after.status other).initialized = (between.status other).initialized := by
        rw [declared.status]
        split
        · next same => rw [same]
        · rfl
      rw [same, libraries.initialized, initialized_flag_iff, reaches_iff, or_assoc]
    · intro other
      rw [reaches_iff]
      by_cases same : other = number
      · subst same
        rw [declared.status, if_pos rfl]
        simp [uninitialized]
      · have unflagged : ((flag number before).status other).initialized =
            (before.status other).initialized := by
          rw [status_amend, if_neg same]
        rw [declared.status, if_neg same, libraries.libraryBound, libraryBound_flag, unflagged]
        simp [same]

/-- A script has been run for itself before any run that reaches it. -/
def RunFirst (graph : ScriptGraph World) (numbers : List Nat) (library : Nat) : Prop :=
  ∃ earlier later, numbers = earlier ++ library :: later ∧
    ¬ graph.ReachedFrom earlier library

/-- A script that is run last is the first to reach a library that no earlier one reaches. -/
theorem runFirst_append {numbers : List Nat} {library : Nat} :
    graph.RunFirst (numbers ++ [number]) library ↔
      graph.RunFirst numbers library ∨
        library = number ∧ ¬ graph.ReachedFrom numbers library := by
  constructor
  · rintro ⟨earlier, later, split, unreached⟩
    rcases List.eq_nil_or_concat later with rfl | ⟨rest, last, rfl⟩
    · obtain ⟨rfl, same⟩ := List.append_inj' split rfl
      exact .inr ⟨(List.singleton_inj.mp same).symm, unreached⟩
    · rw [List.concat_eq_append, ← List.cons_append, ← List.append_assoc] at split
      exact .inl ⟨earlier, rest, (List.append_inj' split rfl).1, unreached⟩
  · rintro (⟨earlier, later, rfl, unreached⟩ | ⟨rfl, unreached⟩)
    · exact ⟨earlier, later ++ [number], by simp, unreached⟩
    · exact ⟨numbers, [], rfl, unreached⟩

/-- Only a script that was run can have been run first. -/
theorem RunFirst.mem {numbers : List Nat} {library : Nat}
    (runFirst : graph.RunFirst numbers library) : library ∈ numbers := by
  obtain ⟨earlier, later, rfl, -⟩ := runFirst
  simp

/-- The flags after runs of scripts: what they reach is initialized, and of this everything is bound
that was not run for itself first. -/
structure Served (graph : ScriptGraph World) (numbers : List Nat) (workspace : Workspace World) :
    Prop where
  initialized : ∀ library, (workspace.status library).initialized = true ↔
    graph.ReachedFrom numbers library
  libraryBound : ∀ library, (workspace.status library).libraryBound = true ↔
    graph.ReachedFrom numbers library ∧ ¬ graph.RunFirst numbers library

namespace Served

variable {numbers : List Nat}

/-- Before anything is run, nothing has been supplied. -/
theorem of_untouched (untouched : workspace.Untouched) : graph.Served [] workspace where
  initialized library := by simp [untouched.initialized, ReachedFrom]
  libraryBound library := by simp [untouched.libraryBound, ReachedFrom]

/-- What scripts have been supplied with depends on two flags only. -/
theorem of_same (served : graph.Served numbers before)
    (initialized : ∀ number,
      (after.status number).initialized = (before.status number).initialized)
    (libraryBound : ∀ number,
      (after.status number).libraryBound = (before.status number).libraryBound) :
    graph.Served numbers after where
  initialized library := by rw [initialized, served.initialized]
  libraryBound library := by rw [libraryBound, served.libraryBound]

/-- Whatever a script that ran reaches was initialized when it ran. -/
theorem closedBelow (served : graph.Served numbers workspace) (limit : Nat) :
    graph.ClosedBelow limit workspace := by
  intro number _ initialized library includes
  obtain ⟨first, member, reaches⟩ := (served.initialized number).mp initialized
  exact (served.initialized library).mpr ⟨first, member, reaches.tail includes⟩

/-- Readying one more script serves it as well. -/
theorem readied (served : graph.Served numbers before)
    (readied : graph.Readied number before after) : graph.Served (numbers ++ [number]) after := by
  have reached (library : Nat) : graph.ReachedFrom (numbers ++ [number]) library ↔
      graph.ReachedFrom numbers library ∨ graph.Reaches number library := by
    simp [ReachedFrom, or_and_right, exists_or]
  cases readied with
  | already initialized =>
    have covered (library : Nat) (reaches : graph.Reaches number library) :
        graph.ReachedFrom numbers library := by
      obtain ⟨first, member, earlier⟩ := (served.initialized number).mp initialized
      exact ⟨first, member, earlier.trans reaches⟩
    constructor
    · intro library
      rw [reached, served.initialized, or_iff_left_of_imp (covered library)]
    · intro library
      have self : library = number → graph.ReachedFrom numbers library := by
        rintro rfl
        exact covered library .refl
      rw [reached, runFirst_append, served.libraryBound, or_iff_left_of_imp (covered library)]
      tauto
  | prepared uninitialized done =>
    rw [prepare_apply] at done
    obtain ⟨_, _, ended, ⟨⟩⟩ := Exec.exists_of_bind_done done
    have libraries := brought_libraries
      (fun library below before after closed uninitialized done =>
        brought_prepare closed uninitialized done) (served.closedBelow number).flag ended
    constructor
    · intro library
      rw [libraries.initialized, initialized_flag_iff, served.initialized, reached, reaches_iff,
        or_assoc]
    · intro library
      have unflagged : ((flag number before).status library).initialized = false ↔
          ¬ graph.ReachedFrom numbers library ∧ library ≠ number := by
        rw [← Bool.not_eq_true, initialized_flag_iff, served.initialized, not_or]
      have first : graph.RunFirst numbers library → graph.ReachedFrom numbers library :=
        fun runFirst => ⟨library, runFirst.mem, .refl⟩
      have self : library = number → ¬ graph.ReachedFrom numbers library := by
        rintro rfl
        rw [← served.initialized, uninitialized]
        exact Bool.false_ne_true
      rw [libraries.libraryBound, libraryBound_flag, unflagged, served.libraryBound, reached,
        runFirst_append, reaches_iff]
      tauto

end Served

/-- What there is of the libraries below a script where its root block is opened: those that have
not been run for themselves first are bound, and of the others nothing is, unless they share
variables. -/
def Supplied (graph : ScriptGraph World) (start : Workspace World) (earlier : List Nat)
    (number : Nat) (store : Store) : Prop :=
  ∀ library ≠ number, graph.Reaches number library → ∀ declared ∈ graph.rootVariables library,
    (¬ graph.RunFirst earlier library → 0 < store.depth declared.cell) ∧
    (graph.RunFirst earlier library →
      (∀ other ≠ library, ∀ entry ∈ graph.rootVariables other, entry.cell ≠ declared.cell) →
      store.depth declared.cell = start.machine.store.depth declared.cell)

/-- The root block of a script starts with a binding more for each of its variables, unless the
script is bound as a library. -/
theorem depth_rootStore (workspace : Workspace World) (number : Nat) (layout : Layout)
    (cell : Cell) :
    (rootStore workspace number layout).depth cell =
      (if (workspace.status number).libraryBound then 0 else layout.multiplicity cell) +
        workspace.machine.store.depth cell := by
  simp only [rootStore]
  split
  · rw [Nat.zero_add]
  · exact Store.depth_bind _ layout cell

/-- A variable that is listed for no other script is bound on no other account. -/
theorem libraryDepth_of_unshared {library : Nat} {declared : Variable}
    (unshared : ∀ other ≠ library, ∀ entry ∈ graph.rootVariables other,
      entry.cell ≠ declared.cell)
    (unbound : (workspace.status library).libraryBound = false) :
    graph.libraryDepth workspace declared.cell = 0 := by
  apply Finset.sum_eq_zero
  intro other _
  by_cases same : other = library
  · rw [same, share_of_unbound unbound]
  · have unlisted : (graph.rootVariables other).countP (·.cell == declared.cell) = 0 := by
      rw [List.countP_eq_zero]
      intro entry listed
      simpa using unshared other same entry listed
    simp [share, unlisted]

/-- When a root block starts, the libraries below it are supplied as they should be. -/
theorem Served.supplied {start prepared : Workspace World} {numbers : List Nat} {layout : Layout}
    (served : graph.Served (numbers ++ [number]) prepared)
    (accounted : graph.Accounted start.machine.store.depth prepared)
    (registered :
      (graph.script number).tree.rootLayout? (graph.script number).root = some layout) :
    graph.Supplied start numbers number (rootStore prepared number layout) := by
  intro library different reaches declared listed
  have reached : graph.ReachedFrom (numbers ++ [number]) library :=
    ⟨number, by simp, reaches⟩
  have bound : (prepared.status library).libraryBound = true ↔
      ¬ graph.RunFirst numbers library := by
    rw [served.libraryBound, runFirst_append]
    simp [reached, different]
  rw [depth_rootStore, accounted]
  constructor
  · intro notFirst
    have held : 0 < graph.share prepared declared.cell library := by
      simp only [share, bound.mpr notFirst, if_true, List.countP_pos_iff]
      exact ⟨declared, listed, by simp⟩
    have counted : graph.share prepared declared.cell library ≤
        graph.libraryDepth prepared declared.cell := share_le_libraryDepth library _
    omega
  · intro first unshared
    have unbound : (prepared.status library).libraryBound = false := by
      rw [← Bool.not_eq_true, bound]
      exact not_not_intro first
    have own : layout.multiplicity declared.cell = 0 := by
      apply Layout.multiplicity_eq_zero
      rintro ⟨entry, entryListed, same⟩
      rw [← rootVariables_eq registered] at entryListed
      exact unshared number (Ne.symm different) entry entryListed same
    rw [libraryDepth_of_unshared unshared unbound, own, ite_self, Nat.zero_add, Nat.add_zero]

/-- The calls of a history and what they were made for end alike. -/
theorem exists_of_calls_append {entries : List (Entry World)} {entry : Entry World}
    {numbers : List Nat}
    (calls : (entries ++ [entry]).map Entry.call = numbers.map .process) :
    ∃ earlier number, numbers = earlier ++ [number] ∧
      entries.map Entry.call = earlier.map .process ∧ entry.call = .process number := by
  rw [List.map_append, eq_comm, List.map_eq_append_iff] at calls
  obtain ⟨earlier, last, rfl, same, single⟩ := calls
  obtain ⟨number, rfl, lastSame⟩ := List.map_eq_singleton_iff.mp single
  exact ⟨earlier, number, rfl, same.symm, lastSame.symm⟩

/-- Preparing libraries opens no root block. -/
theorem Readied.scriptOpenings (readied : graph.Readied number before after) :
    after.machine.scriptOpenings = before.machine.scriptOpenings := by
  cases readied with
  | already => rfl
  | prepared _ done =>
    exact (unopening_prepare _ number true _).finished (congrArg Outcome.final? done)

/-- Every opening of a script is that of a run, with the libraries supplied that there are then. -/
def Recorded (graph : ScriptGraph World) (start : Workspace World) (numbers : List Nat)
    (openings : List (NodeId × Store)) : Prop :=
  ∀ root store, (root, store) ∈ openings →
    ∃ earlier number later, numbers = earlier ++ number :: later ∧
      root = (graph.script number).root ∧ graph.Supplied start earlier number store

/-- What was recorded of earlier runs is not touched by a later one. -/
theorem Recorded.mono {start : Workspace World} {numbers : List Nat}
    {openings : List (NodeId × Store)} (recorded : graph.Recorded start numbers openings)
    (number : Nat) : graph.Recorded start (numbers ++ [number]) openings := by
  intro root store member
  obtain ⟨earlier, opened, later, rfl, same, supplied⟩ := recorded root store member
  exact ⟨earlier, opened, later ++ [number], by simp, same, supplied⟩

/-- Each call opens the root block of its own script and no other, since it did come to open it and
no other script has the same root. -/
theorem History.served {tree : Tree World} (inhabits : graph.Inhabits tree)
    {start final : Workspace World} (untouched : start.Untouched)
    (unopened : start.machine.scriptOpenings = []) {entries : List (Entry World)}
    {numbers : List Nat} (history : graph.History start entries final)
    (calls : entries.map Entry.call = numbers.map .process) (distinct : numbers.Nodup)
    (known : ∀ number ∈ numbers, number < graph.scripts.size)
    (opened : ∀ number ∈ numbers, ∃ store,
      ((graph.script number).root, store) ∈ final.machine.scriptOpenings) :
    graph.Served numbers final ∧ graph.Recorded start numbers final.machine.scriptOpenings := by
  induction history generalizing numbers with
  | start =>
    obtain rfl : numbers = [] := by simpa using calls.symm
    refine ⟨.of_untouched untouched, ?_⟩
    rw [unopened]
    exact fun _ _ member => nomatch member
  | @call entries current ready after call history handed performed inductionHypothesis =>
    have accounted := ((history.call handed performed).open_of_runs calls untouched).accounted
    obtain ⟨numbers, number, rfl, earlierCalls, rfl⟩ := exists_of_calls_append calls
    obtain ⟨distinctEarlier, -, separate⟩ := List.nodup_append.mp distinct
    have numberKnown : number < graph.scripts.size := known number (by simp)
    have earlierKnown (other : Nat) (member : other ∈ numbers) : other < graph.scripts.size :=
      known other (List.mem_append_left _ member)
    have rootsDiffer (other : Nat) (member : other ∈ numbers) :
        (graph.script other).root ≠ (graph.script number).root := by
      intro same
      exact separate other member number (List.mem_singleton_self _)
        (inhabits.distinct other (earlierKnown other member) number numberKnown same)
    have handedOpenings : ready.machine.scriptOpenings = current.machine.scriptOpenings := by
      rw [Machine.scriptOpenings, handed.trace]
      rfl
    have earlier (openedBefore : ∀ other ∈ numbers, ∃ store,
        ((graph.script other).root, store) ∈ current.machine.scriptOpenings) :=
      inductionHypothesis earlierCalls distinctEarlier earlierKnown openedBefore
    cases performed with
    | process ended =>
      rcases process_cases ended with
        same | ⟨started, prepared, layout, akin, startedOpenings, readied, ran⟩
      · -- Then the root of this script would have been opened by a run of another one.
        rw [same, handedOpenings] at opened
        obtain ⟨-, recorded⟩ := earlier fun other member =>
          opened other (List.mem_append_left _ member)
        obtain ⟨store, member⟩ := opened number (by simp)
        obtain ⟨before, other, later, rfl, sameRoot, -⟩ := recorded _ store member
        exact absurd sameRoot.symm (rootsDiffer other (by simp))
      · have openings : after.machine.scriptOpenings =
            ((graph.script number).root, rootStore prepared number layout) ::
              current.machine.scriptOpenings := by
          rw [ran.scriptOpenings, readied.scriptOpenings, startedOpenings, handedOpenings]
        obtain ⟨served, recorded⟩ := earlier fun other member => by
          obtain ⟨store, listed⟩ := opened other (List.mem_append_left _ member)
          rw [openings, List.mem_cons, Prod.mk.injEq] at listed
          exact ⟨store, listed.resolve_left fun same => rootsDiffer other member same.1⟩
        have ready_akin := handed.akin.trans akin
        have servedPrepared :=
          (served.of_same ready_akin.initialized ready_akin.libraryBound).readied readied
        have status (other : Nat) : after.status other = prepared.status other := by
          rw [Workspace.status, ran.statuses]
          rfl
        refine ⟨servedPrepared.of_same (fun other => by rw [status]) (fun other => by rw [status]),
          ?_⟩
        have accountedPrepared : graph.Accounted start.machine.store.depth prepared := by
          intro cell
          have same : graph.libraryDepth after cell = graph.libraryDepth prepared cell :=
            libraryDepth_congr (fun other => by rw [status]) cell
          rw [← ran.depth, accounted cell, same]
        intro root store member
        rw [openings, List.mem_cons, Prod.mk.injEq] at member
        rcases member with ⟨rfl, rfl⟩ | older
        · exact ⟨numbers, number, [], rfl, rfl,
            servedPrepared.supplied accountedPrepared ran.registered⟩
        · exact recorded.mono number root store older

end ScriptGraph

open ScriptGraph

/-- Scripts over one tree are run one after the other, each of them once, and each comes to run its
root block. Wherever a root block is opened, it is that of one of these scripts, and every library
below it has a binding of each of its variables, unless the library has been run for itself before
any script that includes it: then its variables have no bindings but those of the start. -/
theorem library_availability {graph : ScriptGraph World} {tree : Tree World}
    (inhabits : graph.Inhabits tree) {start final : Workspace World} (untouched : start.Untouched)
    (unopened : start.machine.scriptOpenings = []) {entries : List (Entry World)}
    {numbers : List Nat} (history : graph.History start entries final)
    (calls : entries.map Entry.call = numbers.map .process) (distinct : numbers.Nodup)
    (known : ∀ number ∈ numbers, number < graph.scripts.size)
    (opened : ∀ number ∈ numbers, ∃ store,
      ((graph.script number).root, store) ∈ final.machine.scriptOpenings) :
    ∀ root store, (root, store) ∈ final.machine.scriptOpenings →
      ∃ earlier number later, numbers = earlier ++ number :: later ∧
        root = (graph.script number).root ∧ graph.Supplied start earlier number store :=
  (history.served inhabits untouched unopened calls distinct known opened).2

/-- A library with one variable and a script that returns the value of the variable. -/
def lendingTree : Tree Unit :=
  ((Builder.applyAll { }
    [.node (.expression (.literal (.int 7))),
      .node (.statement (.declareVariable ⟨"lent", .plain, some ⟨0⟩⟩)),
      .root [⟨1⟩],
      .node (.expression (.read ⟨1⟩)),
      .node (.statement (.leave (some ⟨3⟩))),
      .root [⟨4⟩]]).getD { }).finish 0

def lendingGraph : ScriptGraph Unit :=
  ⟨#[{ name := ⟨"library"⟩, tree := lendingTree, root := ⟨2⟩ },
    { name := ⟨"main"⟩, tree := lendingTree, root := ⟨5⟩, libraries := [0] }]⟩

theorem lendingGraph_inhabits : lendingGraph.Inhabits lendingTree where
  shared number known :=
    match number, known with
    | 0, _ => rfl
    | 1, _ => rfl
  distinct := by decide

/-- The script is run before its library is, and finds the library bound. -/
theorem library_availability_lent :
    let start : Workspace Unit := { machine := { host := { world := () } } }
    let first := (lendingGraph.process 9 1 start).state
    let final := (lendingGraph.process 9 0 first).state
    final.machine.scriptOpenings.map Prod.fst = [⟨2⟩, ⟨5⟩] ∧
    ∀ store, (⟨5⟩, store) ∈ final.machine.scriptOpenings → 0 < store.depth ⟨0, ⟨1⟩⟩ := by
  intro start first final
  have history : lendingGraph.History start _ final :=
    (History.start.call (.refl start) (Performs.processed (by decide +kernel))).call
      (.refl first) (Performs.processed (by decide +kernel))
  have roots : final.machine.scriptOpenings.map Prod.fst = [⟨2⟩, ⟨5⟩] := by decide +kernel
  have opened (number : Nat) (member : number ∈ [1, 0]) :
      ∃ store, ((lendingGraph.script number).root, store) ∈ final.machine.scriptOpenings := by
    have listed :
        (lendingGraph.script number).root ∈ final.machine.scriptOpenings.map Prod.fst := by
      rw [roots]
      revert number
      decide
    simpa using listed
  refine ⟨roots, ?_⟩
  intro store member
  obtain ⟨earlier, number, later, split, root, supplied⟩ :=
    library_availability lendingGraph_inhabits (.of_statuses rfl) rfl history
      (show _ = [1, 0].map Call.process from rfl) (by decide) (by decide) opened ⟨5⟩ store member
  have lent : (⟨⟨0, ⟨1⟩⟩, "lent", .script ⟨2⟩⟩ : Variable) ∈ lendingGraph.rootVariables 0 := by
    decide
  rcases earlier with _ | ⟨first, rest⟩
  · cases split
    have bound := supplied 0 (by decide) (.single ⟨by decide, by decide⟩) _ lent
    apply bound.1
    rintro ⟨earlier, later, split, -⟩
    simp at split
  · -- The other script has another root.
    have other : number ∈ [0] := by
      rw [(List.cons_eq_cons.mp split).2]
      simp
    rw [List.mem_singleton.mp other] at root
    cases root

/-- The library is run before the script is. Then its variable has no binding where the root block
of the script is opened, so the script returns null, and not the value it returns in the other
order. -/
theorem library_unavailable_after_own_run :
    let start : Workspace Unit := { machine := { host := { world := () } } }
    let first := (lendingGraph.process 9 0 start).state
    let second := lendingGraph.process 9 1 first
    second.state.machine.scriptOpenings.map (fun opened => (opened.1, opened.2.depth ⟨0, ⟨1⟩⟩)) =
      [(⟨5⟩, 0), (⟨2⟩, 1)] ∧
    second.result?.map (fun answer => answer.toOption.map (·.value.isNull)) = some (some true) ∧
    (lendingGraph.process 9 1 start).result?.map
      (fun answer => answer.toOption.map (·.value.int?)) = some (some (some 7)) := by
  decide +kernel

end Treewalk
