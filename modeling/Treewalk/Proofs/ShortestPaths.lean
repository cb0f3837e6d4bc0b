import Treewalk.Script.Path
import Mathlib.Data.Finset.Card
import Mathlib.Data.List.Chain
import Mathlib.Logic.Relation

/-!
# Shortest paths

What a path may do at a step is a relation between places, `ScriptGraph.StepsTo`, that knows nothing
of the search. A search keeps two things right: the scripts it knows are the ones their names stand
for, and the trails on its fringe are shortest paths in ascending order, while every other place it
has visited is settled, that is, not the goal and with all places one step on visited.

From these two it follows that whatever has a shorter path than the first trail is settled, so the
trails that a round adds are shortest paths again. A search that has emptied its fringe has settled
all that it could reach. The rounds suffice because each takes a trail off the fringe and a place
comes there only once.
-/

namespace Treewalk

namespace ScriptGraph

variable {World : Type}

/-- A script is another one or is included by it, directly or not. -/
def Meets (graph : ScriptGraph World) : Nat → Nat → Prop :=
  Relation.ReflTransGen fun script library => library ∈ (graph.script script).libraries

/-- The scripts that a script meets can be told apart by their names. -/
def DistinctNames (graph : ScriptGraph World) (number : Nat) : Prop :=
  ∀ first second, graph.Meets number first → graph.Meets number second →
    (graph.script first).name = (graph.script second).name → first = second

/-- The steps of the paths from a script, all of them through its own tree. -/
inductive StepsTo (graph : ScriptGraph World) (number : Nat) :
    PathElement → PathElement → Prop where
  | statement {script : Nat} (met : graph.Meets number script) {statement : NodeId}
      (member : statement ∈ (graph.script number).tree.statements (graph.script script).root) :
      StepsTo graph number (.script (graph.script script).name) (.node statement)
  | library {script library : Nat} (met : graph.Meets number script)
      (member : library ∈ (graph.script script).libraries) :
      StepsTo graph number (.script (graph.script script).name)
        (.script (graph.script library).name)
  | child {node child : NodeId} (member : child ∈ (graph.script number).tree.children node) :
      StepsTo graph number (.node node) (.node child)

/-- The paths from a script to a place. -/
structure IsPath (graph : ScriptGraph World) (number : Nat) (goal : PathElement)
    (path : List PathElement) : Prop where
  starts : path.head? = some (.script (graph.script number).name)
  ends : path.getLast? = some goal
  steps : path.IsChain (graph.StepsTo number)

variable {graph : ScriptGraph World} {number : Nat}

namespace IsPath

variable {place next : PathElement} {path : List PathElement}

/-- The path to the script itself has one place. -/
theorem single : graph.IsPath number (.script (graph.script number).name)
    [.script (graph.script number).name] :=
  ⟨rfl, rfl, .singleton _⟩

/-- A path is continued by a step. -/
theorem snoc (isPath : graph.IsPath number place path) (step : graph.StepsTo number place next) :
    graph.IsPath number next (path ++ [next]) where
  starts := by simp [List.head?_append, isPath.starts]
  ends := by simp
  steps := by
    refine List.isChain_append.mpr ⟨isPath.steps, .singleton next, ?_⟩
    simpa [isPath.ends] using step

/-- A path stays where it starts or takes a last step. -/
theorem eq_start_or_snoc (isPath : graph.IsPath number place path) :
    place = .script (graph.script number).name ∨
      ∃ front previous, path = front ++ [place] ∧ graph.IsPath number previous front ∧
        graph.StepsTo number previous place := by
  obtain ⟨front, rfl⟩ := List.getLast?_eq_some_iff.mp isPath.ends
  rcases front.eq_nil_or_concat with rfl | ⟨earlier, previous, rfl⟩
  · left
    simpa using isPath.starts
  · right
    obtain ⟨frontSteps, -, step⟩ := List.isChain_append.mp isPath.steps
    have starts := isPath.starts
    rw [List.concat_eq_append] at frontSteps step starts ⊢
    refine ⟨_, previous, rfl, ⟨?_, by simp, frontSteps⟩, step previous (by simp) place (by simp)⟩
    simpa [List.head?_append] using starts

/-- A path leads somewhere that can be reached. -/
theorem reaches (isPath : graph.IsPath number place path) :
    Relation.ReflTransGen (graph.StepsTo number) (.script (graph.script number).name) place := by
  induction path using List.reverseRecOn generalizing place with
  | nil => cases isPath.starts
  | append_singleton front last inductionHypothesis =>
    rcases isPath.eq_start_or_snoc with rfl | ⟨_, previous, split, earlier, step⟩
    · exact .refl
    · obtain ⟨rfl, -⟩ := List.append_inj' split rfl
      exact (inductionHypothesis earlier).tail step

end IsPath

/-! ### Known scripts -/

namespace KnownScripts

/-- A name that is known stays with the script it was first given to. -/
theorem lookup_insert (known : KnownScripts) (name other : ScriptName) (script : Nat) :
    (known.insert name script).lookup other =
      (known.lookup other).or (List.lookup other [(name, script)]) := by
  simp only [KnownScripts.insert]
  split
  · next present =>
    by_cases same : other = name
    · subst same
      obtain ⟨found, lookup⟩ := Option.isSome_iff_exists.mp present
      simp [lookup]
    · have differs : (other == name) = false := beq_false_of_ne same
      simp [List.lookup_cons, differs]
  · rw [List.lookup_append]

/-- Of several scripts with one name, the first stands for all. -/
theorem lookup_foldl_insert (known : KnownScripts) (libraries : List (ScriptName × Nat))
    (name : ScriptName) :
    (libraries.foldl (fun names library => names.insert library.1 library.2) known).lookup name =
      (known.lookup name).or (libraries.lookup name) := by
  induction libraries generalizing known with
  | nil => simp
  | cons library rest inductionHypothesis =>
    rw [List.foldl_cons, inductionHypothesis, lookup_insert, Option.or_assoc,
      ← List.lookup_append, List.singleton_append]

end KnownScripts

/-- The known scripts are met, and their names stand for them. -/
def Knows (graph : ScriptGraph World) (number : Nat) (known : KnownScripts) : Prop :=
  ∀ name script, known.lookup name = some script →
    graph.Meets number script ∧ (graph.script script).name = name

section

variable {known : KnownScripts} (knows : graph.Knows number known)
  {tree : Tree World} {place : PathElement}

include knows

/-- Listing a place whose script is known lists exactly what is one step on. -/
theorem mem_expand_iff (distinct : graph.DistinctNames number)
    (named : ∀ name, place = .script name → (known.lookup name).isSome) (next : PathElement) :
    next ∈ (graph.expand (graph.script number).tree known place).1 ↔
      graph.StepsTo number place next := by
  cases place with
  | node node =>
    simp only [expand, List.mem_map]
    constructor
    · rintro ⟨child, member, rfl⟩
      exact .child member
    · rintro (_ | _ | member)
      exact ⟨_, member, rfl⟩
  | script name =>
    obtain ⟨script, lookup⟩ := Option.isSome_iff_exists.mp (named name rfl)
    obtain ⟨met, rfl⟩ := knows name script lookup
    simp only [expand, lookup, List.map_map, List.mem_append, List.mem_map]
    constructor
    · rintro (⟨statement, member, rfl⟩ | ⟨library, member, rfl⟩)
      · exact .statement met member
      · exact .library met member
    · intro step
      generalize origin : PathElement.script (graph.script script).name = place at step
      cases step with
      | @statement other otherMet statement member =>
        left
        injection origin with sameName
        obtain rfl := distinct script other met otherMet sameName
        exact ⟨statement, member, rfl⟩
      | @library other library otherMet member =>
        right
        injection origin with sameName
        obtain rfl := distinct script other met otherMet sameName
        exact ⟨library, member, rfl⟩
      | child => cases origin

/-- What a place leads to becomes known when the place is expanded. -/
theorem knows_expand : graph.Knows number (graph.expand tree known place).2 := by
  cases place with
  | node node => exact knows
  | script name =>
    simp only [expand]
    split
    · exact knows
    · next script lookup =>
      obtain ⟨met, -⟩ := knows name script lookup
      intro other found extended
      rw [KnownScripts.lookup_foldl_insert, Option.or_eq_some_iff] at extended
      obtain earlier | ⟨-, added⟩ := extended
      · exact knows other found earlier
      · obtain ⟨before, after, libraries, -⟩ := List.lookup_eq_some_iff.mp added
        have listed : (other, found) ∈ (graph.script script).libraries.map fun library =>
            ((graph.script library).name, library) := by
          rw [libraries]
          simp
        obtain ⟨library, member, same⟩ := List.mem_map.mp listed
        cases same
        exact ⟨met.tail member, rfl⟩

omit knows in
/-- Scripts stay known, and those that are listed become so. -/
theorem isSome_lookup_expand {name : ScriptName}
    (present : (known.lookup name).isSome ∨ .script name ∈ (graph.expand tree known place).1) :
    ((graph.expand tree known place).2.lookup name).isSome := by
  cases place with
  | node node => simpa [expand] using present
  | script origin =>
    simp only [expand] at present ⊢
    split at present
    · simpa using present
    · next script lookup =>
      simp only [KnownScripts.lookup_foldl_insert, Option.isSome_or, Bool.or_eq_true]
      refine present.imp_right fun listed => ?_
      simp only [List.mem_append, List.mem_map, reduceCtorEq, and_false, exists_false,
        PathElement.script.injEq, false_or] at listed
      obtain ⟨_, ⟨library, member, rfl⟩, rfl⟩ := listed
      exact List.lookup_isSome_iff.mpr ⟨_, List.mem_map_of_mem member, by simp⟩

end

/-! ### One round -/

/-- A place is not the goal, and all places one step on have been visited. -/
def Settled (graph : ScriptGraph World) (number : Nat) (goal : PathElement) (search : Search)
    (place : PathElement) : Prop :=
  place ≠ goal ∧ ∀ next, graph.StepsTo number place next → next ∈ search.visited

/-- A trail is a shortest path through visited places, none of them twice. -/
structure Shortest (graph : ScriptGraph World) (number : Nat) (search : Search) (trail : Trail) :
    Prop where
  isPath : graph.IsPath number trail.last trail.places
  nodup : trail.places.Nodup
  visited : ∀ place ∈ trail.places, place ∈ search.visited
  shortest : ∀ path, graph.IsPath number trail.last path → trail.places.length ≤ path.length

/-- What every round of a search keeps right. -/
structure Sound (graph : ScriptGraph World) (number : Nat) (goal : PathElement)
    (search : Search) : Prop where
  knows : graph.Knows number search.known
  named : ∀ name, .script name ∈ search.visited → (search.known.lookup name).isSome
  started : .script (graph.script number).name ∈ search.visited
  shortest : ∀ trail ∈ search.fringe, graph.Shortest number search trail
  ascending : search.fringe.Pairwise fun earlier later =>
    earlier.places.length ≤ later.places.length
  /-- The fringe never spans more than two lengths. -/
  narrow : ∀ earlier ∈ search.fringe, ∀ later ∈ search.fringe,
    later.places.length ≤ earlier.places.length + 1
  settled : ∀ place ∈ search.visited,
    (∃ trail ∈ search.fringe, trail.last = place) ∨ graph.Settled number goal search place

/-- The search starts with the path of one place. -/
theorem sound_searchFrom (goal : PathElement) :
    graph.Sound number goal (graph.searchFrom number) where
  knows := by
    intro name script lookup
    simp only [searchFrom, List.lookup_cons, List.lookup_nil] at lookup
    split at lookup
    · next same =>
      cases lookup
      exact ⟨.refl, (eq_of_beq same).symm⟩
    · cases lookup
  named := by
    intro name visited
    obtain rfl : name = (graph.script number).name := by simpa [searchFrom] using visited
    simp [searchFrom]
  started := List.mem_singleton_self _
  shortest := by
    intro trail member
    obtain rfl := List.mem_singleton.mp member
    refine ⟨.single, List.nodup_singleton _, by simp [Trail.places, searchFrom], ?_⟩
    intro path isPath
    have nonempty : path ≠ [] := by
      rintro rfl
      cases isPath.starts
    exact List.length_pos_of_ne_nil nonempty
  ascending := List.pairwise_singleton _ _
  narrow := by simp [searchFrom]
  settled := by
    intro place visited
    obtain rfl := List.mem_singleton.mp visited
    exact .inl ⟨_, List.mem_singleton_self _, rfl⟩

/-- Extended trails are one place longer. -/
theorem length_places_of_mem_extend {trail later : Trail} {places : List PathElement}
    (member : later ∈ places.map trail.extend) :
    later.places.length = trail.places.length + 1 := by
  obtain ⟨place, -, rfl⟩ := List.mem_map.mp member
  simp

namespace Sound

variable {goal : PathElement} {search : Search} {trail : Trail} {rest : List Trail}

/-- When the fringe is empty everything that can be reached was visited and is not the goal. -/
theorem not_reaches_of_drained (sound : graph.Sound number goal search)
    (drained : search.fringe = []) :
    ¬ Relation.ReflTransGen (graph.StepsTo number) (.script (graph.script number).name) goal := by
  have settled (place : PathElement) (visited : place ∈ search.visited) :
      graph.Settled number goal search place := by
    simpa [drained] using sound.settled place visited
  have visited {place : PathElement}
      (reaches : Relation.ReflTransGen (graph.StepsTo number)
        (.script (graph.script number).name) place) : place ∈ search.visited := by
    induction reaches with
    | refl => exact sound.started
    | tail _ step inductionHypothesis => exact (settled _ inductionHypothesis).2 _ step
  intro reaches
  exact (settled goal (visited reaches)).1 rfl

section

variable (sound : graph.Sound number goal search) (fringe : search.fringe = trail :: rest)

include sound fringe

/-- The trail that is followed next has been visited. -/
theorem visited_first : trail.last ∈ search.visited :=
  (sound.shortest trail (by simp [fringe])).visited _ (by simp [Trail.places])

/-- The trail that is followed next is as short as any on the fringe. -/
theorem first_le {later : Trail} (member : later ∈ search.fringe) :
    trail.places.length ≤ later.places.length := by
  have ascending := sound.ascending
  rw [fringe] at ascending member
  obtain rfl | behind := List.mem_cons.mp member
  · exact Nat.le_refl _
  · exact List.rel_of_pairwise_cons ascending behind

/-- What has a path shorter than the first trail is settled. The induction is along the path: all
places before are settled, hence the last one was visited, and what still waits on the fringe has no
path that short. -/
theorem settled_of_shorter {place : PathElement} {path : List PathElement}
    (isPath : graph.IsPath number place path) (shorter : path.length < trail.places.length) :
    graph.Settled number goal search place := by
  induction path using List.reverseRecOn generalizing place with
  | nil => cases isPath.starts
  | append_singleton front last inductionHypothesis =>
    have visited : place ∈ search.visited := by
      rcases isPath.eq_start_or_snoc with rfl | ⟨_, previous, split, earlier, step⟩
      · exact sound.started
      · obtain ⟨rfl, -⟩ := List.append_inj' split rfl
        rw [List.length_append] at shorter
        exact (inductionHypothesis earlier (Nat.lt_of_succ_lt shorter)).2 place step
    obtain ⟨waiting, member, rfl⟩ | settled := sound.settled place visited
    · have short := (sound.shortest waiting member).shortest _ isPath
      have long := sound.first_le fringe member
      omega
    · exact settled

omit fringe in
/-- The fresh places are the unvisited ones one step on. -/
theorem mem_fresh_iff (distinct : graph.DistinctNames number) {place : PathElement}
    (visited : place ∈ search.visited) (next : PathElement) :
    next ∈ graph.fresh (graph.script number).tree search place ↔
      graph.StepsTo number place next ∧ next ∉ search.visited := by
  have named (name : ScriptName) (same : place = .script name) :
      (search.known.lookup name).isSome :=
    sound.named name (same ▸ visited)
  simp only [ScriptGraph.fresh, List.mem_eraseDups, List.mem_filter,
    mem_expand_iff sound.knows distinct named, List.contains_eq_mem, Bool.not_eq_true',
    decide_eq_false_iff_not]

/-- A fresh place has no shorter path than through the first trail. -/
theorem shortest_extend (distinct : graph.DistinctNames number) {place : PathElement}
    (fresh : place ∈ graph.fresh (graph.script number).tree search trail.last) :
    graph.Shortest number
      (graph.follow (graph.script number).tree trail { search with fringe := rest })
      (trail.extend place) := by
  have first := sound.shortest trail (by simp [fringe])
  obtain ⟨step, unvisited⟩ :=
    (sound.mem_fresh_iff distinct (sound.visited_first fringe) place).mp fresh
  refine ⟨?_, ?_, ?_, ?_⟩
  · rw [Trail.places_extend]
    exact first.isPath.snoc step
  · rw [Trail.places_extend]
    have unseen : place ∉ trail.places := fun member => unvisited (first.visited place member)
    exact List.concat_eq_append ▸ first.nodup.concat unseen
  · intro seen member
    rw [Trail.places_extend, List.mem_append, List.mem_singleton] at member
    refine List.mem_append.mpr (member.imp (first.visited seen) ?_)
    rintro rfl
    exact fresh
  · intro path isPath
    rw [Trail.places_extend, List.length_append, List.length_singleton]
    rcases isPath.eq_start_or_snoc with rfl | ⟨front, previous, rfl, earlier, lastStep⟩
    · exact absurd sound.started unvisited
    · rw [List.length_append, List.length_singleton]
      by_contra shorter
      have settled : graph.Settled number goal search previous :=
        sound.settled_of_shorter fringe earlier (by omega)
      exact unvisited (settled.2 place lastStep)

/-- Shorter trails stay before longer ones. -/
theorem ascending_follow :
    (graph.follow (graph.script number).tree trail { search with fringe := rest }).fringe.Pairwise
      fun earlier later => earlier.places.length ≤ later.places.length := by
  refine List.pairwise_append.mpr ⟨?_, ?_, ?_⟩
  · exact (fringe ▸ sound.ascending).tail
  · exact List.pairwise_of_forall_mem_list fun earlier earlierAdded later laterAdded => by
      rw [length_places_of_mem_extend earlierAdded, length_places_of_mem_extend laterAdded]
  · intro earlier waits later added
    rw [length_places_of_mem_extend added]
    exact sound.narrow trail (by simp [fringe]) earlier (by simp [fringe, waits])

/-- Trails on the fringe differ in length by one at most. -/
theorem narrow_follow :
    let after := graph.follow (graph.script number).tree trail { search with fringe := rest }
    ∀ earlier ∈ after.fringe, ∀ later ∈ after.fringe,
      later.places.length ≤ earlier.places.length + 1 := by
  intro after earlier earlierMember later laterMember
  have waiting {other : Trail} (member : other ∈ rest) : other ∈ search.fringe := by
    simp [fringe, member]
  obtain earlierWaits | earlierAdded := List.mem_append.mp earlierMember
  · have ahead := sound.first_le fringe (waiting earlierWaits)
    obtain laterWaits | laterAdded := List.mem_append.mp laterMember
    · exact sound.narrow earlier (waiting earlierWaits) later (waiting laterWaits)
    · rw [length_places_of_mem_extend laterAdded]
      exact Nat.succ_le_succ ahead
  · rw [length_places_of_mem_extend earlierAdded]
    obtain laterWaits | laterAdded := List.mem_append.mp laterMember
    · exact Nat.le_succ_of_le (sound.narrow trail (by simp [fringe]) later (waiting laterWaits))
    · rw [length_places_of_mem_extend laterAdded]
      exact Nat.le_succ _

/-- A round settles the last place of the trail it follows, and the fresh places are left to be
settled. -/
theorem settled_follow (distinct : graph.DistinctNames number)
    (visited : trail.last ∈ search.visited) (onward : trail.last ≠ goal) :
    let after := graph.follow (graph.script number).tree trail { search with fringe := rest }
    ∀ place ∈ after.visited, (∃ later ∈ after.fringe, later.last = place) ∨
      graph.Settled number goal after place := by
  intro after place member
  obtain before | fresh := List.mem_append.mp member
  · obtain ⟨later, waits, rfl⟩ | settled := sound.settled place before
    · rw [fringe] at waits
      obtain rfl | behind := List.mem_cons.mp waits
      · refine .inr ⟨onward, fun next step => ?_⟩
        by_cases seen : next ∈ search.visited
        · exact List.mem_append_left _ seen
        · exact List.mem_append_right _
            ((sound.mem_fresh_iff distinct visited next).mpr ⟨step, seen⟩)
      · exact .inl ⟨later, List.mem_append_left _ behind, rfl⟩
    · exact .inr ⟨settled.1, fun next step => List.mem_append_left _ (settled.2 next step)⟩
  · exact .inl ⟨_, List.mem_append_right _ (List.mem_map_of_mem fresh), rfl⟩

/-- A round keeps a search sound. -/
theorem follow (distinct : graph.DistinctNames number) (onward : trail.last ≠ goal) :
    graph.Sound number goal
      (graph.follow (graph.script number).tree trail { search with fringe := rest }) where
  knows := knows_expand sound.knows
  named := by
    intro name visited
    apply isSome_lookup_expand
    refine (List.mem_append.mp visited).imp (sound.named name) fun fresh => ?_
    simp only [ScriptGraph.fresh, List.mem_eraseDups, List.mem_filter] at fresh
    exact fresh.1
  started := List.mem_append_left _ sound.started
  shortest := by
    intro later member
    obtain waits | added := List.mem_append.mp member
    · have known := sound.shortest later (by simp [fringe, waits])
      exact ⟨known.isPath, known.nodup,
        fun place member => List.mem_append_left _ (known.visited place member), known.shortest⟩
    · obtain ⟨place, fresh, rfl⟩ := List.mem_map.mp added
      exact sound.shortest_extend fringe distinct fresh
  ascending := sound.ascending_follow fringe
  narrow := sound.narrow_follow fringe
  settled := sound.settled_follow fringe distinct (sound.visited_first fringe) onward

end

end Sound

/-! ### Rounds -/

/-- Children of nodes are among the places that can be listed. -/
theorem children_listed {tree : Tree World} {node child : NodeId}
    (member : child ∈ tree.children node) : .node child ∈ graph.listedPlaces tree := by
  simp only [Tree.children, Tree.get?] at member
  cases found : tree.nodes[node.index]? with
  | none => simp [found] at member
  | some present =>
    refine List.mem_append_left _ (List.mem_flatMap.mpr ⟨present, ?_, ?_⟩)
    · exact Array.mem_toList_iff.mpr (Array.mem_of_getElem? found)
    · simpa [found] using member

/-- Libraries of scripts are among the places that can be listed. -/
theorem libraries_listed {tree : Tree World} {script library : Nat}
    (member : library ∈ (graph.script script).libraries) :
    .script (graph.script library).name ∈ graph.listedPlaces tree := by
  refine List.mem_append_right _ (List.mem_flatMap.mpr ⟨graph.script script, ?_, ?_⟩)
  · simp only [ScriptGraph.script, Array.getD_eq_getD_getElem?] at member ⊢
    cases found : graph.scripts[script]? with
    | none => simp [found, Script.blank] at member
    | some present => exact Array.mem_toList_iff.mpr (Array.mem_of_getElem? found)
  · exact List.mem_append_right _ (List.mem_map_of_mem member)

/-- Whatever a path steps to is listed. -/
theorem listed_of_step {place next : PathElement} (step : graph.StepsTo number place next) :
    next ∈ graph.listedPlaces (graph.script number).tree := by
  cases step with
  | statement _ member => exact children_listed (Tree.statements_subset_children member)
  | library _ member => exact libraries_listed member
  | child member => exact children_listed member

/-- Each place is listed once. -/
theorem eraseDups_nodup (places : List PathElement) : places.eraseDups.Nodup := by
  cases places with
  | nil => exact List.nodup_nil
  | cons place rest =>
    rw [List.eraseDups_cons]
    refine List.nodup_cons.mpr ⟨?_, eraseDups_nodup _⟩
    simp [List.mem_eraseDups]
termination_by places.length
decreasing_by exact Nat.lt_succ_of_le (List.length_filter_le _ _)

/-- The listed places that a search has not visited. -/
def unvisited (graph : ScriptGraph World) (number : Nat) (search : Search) :
    Finset PathElement :=
  (graph.listedPlaces (graph.script number).tree).toFinset \ search.visited.toFinset

namespace Sound

variable {goal : PathElement} {search : Search} {trail : Trail} {rest : List Trail}

/-- What a round adds to the fringe it takes from the unvisited places. -/
theorem card_unvisited_follow (sound : graph.Sound number goal search)
    (distinct : graph.DistinctNames number) (visited : trail.last ∈ search.visited)
    (rest : List Trail) :
    let after := graph.follow (graph.script number).tree trail { search with fringe := rest }
    (graph.unvisited number after).card + after.fringe.length =
      (graph.unvisited number search).card + rest.length := by
  let fresh := graph.fresh (graph.script number).tree search trail.last
  have added : fresh.toFinset ⊆ graph.unvisited number search := by
    intro place member
    obtain ⟨step, unseen⟩ :=
      (sound.mem_fresh_iff distinct visited place).mp (List.mem_toFinset.mp member)
    simp [unvisited, listed_of_step step, unseen]
  have remaining :
      graph.unvisited number
        (graph.follow (graph.script number).tree trail { search with fringe := rest }) =
        graph.unvisited number search \ fresh.toFinset := by
    simp only [unvisited, ScriptGraph.follow, List.toFinset_append, sdiff_sdiff_left]
    rfl
  have once : fresh.toFinset.card = fresh.length :=
    List.toFinset_card_of_nodup (eraseDups_nodup _)
  have split := Finset.card_sdiff_add_card_eq_card added
  have lengthened :
      (graph.follow (graph.script number).tree trail { search with fringe := rest }).fringe.length =
        rest.length + fresh.length := by
    rw [ScriptGraph.follow, List.length_append, List.length_map]
    rfl
  intro after
  rw [remaining, lengthened]
  omega

end Sound

/-- What a search has to answer: a shortest path to the goal, or nothing where no path leads. -/
structure IsAnswer (graph : ScriptGraph World) (number : Nat) (goal : PathElement)
    (answer : List PathElement) : Prop where
  empty_iff : answer = [] ↔
    ¬ Relation.ReflTransGen (graph.StepsTo number) (.script (graph.script number).name) goal
  isPath : answer ≠ [] → graph.IsPath number goal answer
  nodup : answer.Nodup
  shortest : ∀ path, graph.IsPath number goal path → answer.length ≤ path.length

/-- A sound search that may take more rounds than there are places on the fringe and unvisited ends
with the right answer. -/
theorem Sound.searchPath {goal : PathElement} (distinct : graph.DistinctNames number)
    {rounds : Nat} {search : Search} (sound : graph.Sound number goal search)
    (enough : (graph.unvisited number search).card + search.fringe.length < rounds) :
    ∃ answer, graph.searchPath (graph.script number).tree goal rounds search = some answer ∧
      graph.IsAnswer number goal answer := by
  induction rounds generalizing search with
  | zero => omega
  | succ rounds inductionHypothesis =>
    rw [ScriptGraph.searchPath]
    cases fringe : search.fringe with
    | nil =>
      have unreached := sound.not_reaches_of_drained fringe
      exact ⟨[], rfl, iff_of_true rfl unreached, fun some => absurd rfl some, List.nodup_nil,
        fun _ _ => Nat.zero_le _⟩
    | cons trail rest =>
      have first := sound.shortest trail (by simp [fringe])
      dsimp only
      split
      · next found =>
        subst found
        have nonempty : trail.places ≠ [] := by simp [Trail.places]
        exact ⟨trail.places, rfl, iff_of_false nonempty (not_not.mpr first.isPath.reaches),
          fun _ => first.isPath, first.nodup, first.shortest⟩
      · next onward =>
        apply inductionHypothesis (sound.follow fringe distinct onward)
        have spent :=
          sound.card_unvisited_follow distinct (sound.visited_first fringe) rest
        simp only [fringe, List.length_cons] at enough
        dsimp only at spent
        omega

/-- More rounds do not change an answer. -/
theorem searchPath_of_le {tree : Tree World} {goal : PathElement} {rounds more : Nat}
    (le : rounds ≤ more) {search : Search} {answer : List PathElement}
    (answered : graph.searchPath tree goal rounds search = some answer) :
    graph.searchPath tree goal more search = some answer := by
  induction rounds generalizing more search with
  | zero => cases answered
  | succ rounds inductionHypothesis =>
    obtain ⟨more, rfl⟩ : ∃ fewer, more = fewer + 1 := ⟨more - 1, by omega⟩
    simp only [ScriptGraph.searchPath] at answered ⊢
    cases fringe : search.fringe with
    | nil => simpa [fringe] using answered
    | cons trail rest =>
      simp only [fringe] at answered ⊢
      split at answered
      · next found => rw [if_pos found, answered]
      · next onward =>
        rw [if_neg onward]
        exact inductionHypothesis (Nat.le_of_succ_le_succ le) answered

/-- A search for a node ends within its rounds, and what it answers is a shortest path, or the
empty one exactly where no path leads to the node. -/
theorem pathTo_isShortest (distinct : graph.DistinctNames number) (node : NodeId) :
    (∀ rounds, graph.searchRounds number ≤ rounds →
      graph.searchPath (graph.script number).tree (.node node) rounds (graph.searchFrom number) =
        some (graph.pathTo number node)) ∧
      graph.IsAnswer number (.node node) (graph.pathTo number node) := by
  have enough : (graph.unvisited number (graph.searchFrom number)).card +
      (graph.searchFrom number).fringe.length < graph.searchRounds number := by
    have listed : (graph.unvisited number (graph.searchFrom number)).card ≤
        (graph.listedPlaces (graph.script number).tree).length :=
      (Finset.card_le_card Finset.sdiff_subset).trans (List.toFinset_card_le _)
    simp only [searchFrom, searchRounds, List.length_singleton] at listed ⊢
    omega
  obtain ⟨answer, answered, right⟩ := (sound_searchFrom _).searchPath distinct enough
  have path : graph.pathTo number node = answer := by
    rw [ScriptGraph.pathTo, answered, Option.getD_some]
  rw [path]
  exact ⟨fun rounds le => searchPath_of_le le answered, right⟩

/-- Two scripts in a tree whose nodes own each other and one that does not exist. -/
def entangledGraph : ScriptGraph Unit :=
  let nodes : Array (Node Unit) :=
    #[⟨.statement (.block [⟨1⟩]), none⟩, ⟨.expression (.list [⟨0⟩, ⟨9⟩]), none⟩,
      ⟨.statement (.block [⟨3⟩, ⟨1⟩]), none⟩, ⟨.expression (.list [⟨3⟩, ⟨1⟩]), none⟩]
  let tree : Tree Unit := { key := 0, nodes, layouts := [] }
  { scripts :=
      #[{ name := ⟨"library"⟩, tree, root := ⟨2⟩ },
        { name := ⟨"main"⟩, tree, root := ⟨0⟩, libraries := [0] }] }

/-- The node that does not exist is found through the shared one, not through the library. -/
theorem pathTo_dangling :
    entangledGraph.DistinctNames 1 ∧
      entangledGraph.pathTo 1 ⟨9⟩ = [.script ⟨"main"⟩, .node ⟨1⟩, .node ⟨9⟩] ∧
      entangledGraph.IsAnswer 1 (.node ⟨9⟩) (entangledGraph.pathTo 1 ⟨9⟩) := by
  have met : ∀ script, entangledGraph.Meets 1 script → script = 1 ∨ script = 0 := by
    intro script meets
    induction meets with
    | refl => exact .inl rfl
    | tail _ member inductionHypothesis =>
      obtain rfl | rfl := inductionHypothesis
      · exact .inr (List.mem_singleton.mp member)
      · cases member
  have distinct : entangledGraph.DistinctNames 1 := by
    intro first second firstMet secondMet
    obtain rfl | rfl := met first firstMet <;> obtain rfl | rfl := met second secondMet <;> decide
  exact ⟨distinct, by decide, (pathTo_isShortest distinct ⟨9⟩).2⟩

end ScriptGraph

end Treewalk
