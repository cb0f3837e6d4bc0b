import Mathlib.Data.List.Induction
import Mathlib.Data.List.Nodup
import Treewalk.Proofs.FrameLog

/-!
# Visible variables

The listing of the variables in scope is made of offers. Every visible frame, from the newest on,
offers those of its variables that have a value, in ascending order, and of the offers with one name
the first is kept. What is kept of a list of offers is said once for any of them (`FirstOfEach`).
To say which frame an entry of the listing comes from, the offers are numbered by the places of
their frames in the log, where smaller numbers are newer frames.
-/

namespace Treewalk

section FirstOfEach

variable {Offer Seen : Type} {key : Offer → String}

/-- Keep an offer unless its key is taken. -/
def keepFirst (key : Offer → String) (kept : List Offer) (offer : Offer) : List Offer :=
  if kept.any (key · == key offer) then kept else kept ++ [offer]

/-- Of the offers with one key the first was kept. -/
structure FirstOfEach (key : Offer → String) (offers kept : List Offer) : Prop where
  sublist : kept.Sublist offers
  distinct : (kept.map key).Nodup
  /-- Nothing was kept in place of an offer but an earlier one. -/
  covers {Before : Offer → Offer → Prop} (ordered : offers.Pairwise Before) {offer : Offer}
    (offered : offer ∈ offers) :
    ∃ first ∈ kept, key first = key offer ∧ (first = offer ∨ Before first offer)

/-- Of no offers none is first. -/
theorem firstOfEach_nil : FirstOfEach key [] [] where
  sublist := .slnil
  distinct := .nil
  covers := by
    intro Before ordered offer offered
    cases offered

/-- A further offer is kept if it is the first of its key. -/
theorem FirstOfEach.keepFirst {offers kept : List Offer} (first : FirstOfEach key offers kept)
    (offer : Offer) :
    FirstOfEach key (offers ++ [offer]) (Treewalk.keepFirst key kept offer) := by
  by_cases taken : kept.any (key · == key offer) = true
  · have same : Treewalk.keepFirst key kept offer = kept := if_pos taken
    rw [same]
    refine ⟨first.sublist.trans (List.sublist_append_left offers [offer]), first.distinct, ?_⟩
    intro Before ordered wanted offered
    rw [List.pairwise_append] at ordered
    obtain ⟨earlier, -, across⟩ := ordered
    cases List.mem_append.mp offered with
    | inl old => exact first.covers earlier old
    | inr new =>
      rw [List.mem_singleton] at new
      subst new
      obtain ⟨holder, held, sameKey⟩ := List.any_eq_true.mp taken
      exact ⟨holder, held, eq_of_beq sameKey,
        .inr (across holder (first.sublist.subset held) wanted List.mem_cons_self)⟩
  · have added : Treewalk.keepFirst key kept offer = kept ++ [offer] := if_neg taken
    rw [added]
    refine ⟨first.sublist.append (List.Sublist.refl [offer]), ?_, ?_⟩
    · rw [List.map_append, List.nodup_append]
      refine ⟨first.distinct, List.nodup_singleton _, ?_⟩
      intro held member new single same
      rw [List.map_singleton, List.mem_singleton] at single
      obtain ⟨holder, holds, rfl⟩ := List.mem_map.mp member
      exact taken (List.any_eq_true.mpr ⟨holder, holds, beq_of_eq (same.trans single)⟩)
    · intro Before ordered wanted offered
      rw [List.pairwise_append] at ordered
      cases List.mem_append.mp offered with
      | inl old =>
        obtain ⟨holder, held, sameKey, before⟩ := first.covers ordered.1 old
        exact ⟨holder, List.mem_append_left _ held, sameKey, before⟩
      | inr new =>
        exact ⟨wanted, List.mem_append_right _ new, rfl, .inl rfl⟩

/-- Keeping offers in order keeps the first of each key. -/
theorem firstOfEach_foldl (offers : List Offer) :
    FirstOfEach key offers (offers.foldl (keepFirst key) []) := by
  induction offers using List.reverseRecOn with
  | nil => exact firstOfEach_nil
  | append_singleton earlier offer inductionHypothesis =>
    rw [List.foldl_append]
    exact inductionHypothesis.keepFirst offer

/-- What is kept does not depend on anything about an offer but its key. -/
theorem map_foldl_keepFirst {key : Seen → String} (seen : Offer → Seen) (offers : List Offer) :
    ∀ kept : List Offer, (offers.foldl (keepFirst (key ∘ seen)) kept).map seen =
      (offers.map seen).foldl (keepFirst key) (kept.map seen) := by
  induction offers with
  | nil => exact fun kept => rfl
  | cons offer rest inductionHypothesis =>
    intro kept
    rw [List.foldl_cons, List.map_cons, List.foldl_cons, inductionHypothesis]
    congr 1
    simp only [keepFirst, List.any_map, Function.comp_apply]
    split <;> simp_all [Function.comp_def]

end FirstOfEach

namespace Frame

variable {log : List Frame} {store : Store} {depth : Nat}

/-- The variables of a scope that have a value. -/
def offers (value? : NodeId → Option Value) (entries : List Variable) : List VisibleVariable :=
  entries.filterMap fun entry =>
    (value? entry.declaration).map fun value => ⟨entry.declaration, entry.name, value⟩

/-- The variables that are found are extended by the offers that are kept. -/
theorem extendVisible_eq (value? : NodeId → Option Value) (entries : List Variable) :
    ∀ found, extendVisible value? found entries =
      (offers value? entries).foldl (keepFirst (·.name)) found := by
  induction entries with
  | nil => exact fun found => rfl
  | cons entry rest inductionHypothesis =>
    intro found
    simp only [extendVisible, offers, List.filterMap_cons]
    cases value? entry.declaration with
    | none =>
      simp only [Option.map_none, ite_self]
      exact inductionHypothesis found
    | some value =>
      simp only [Option.map_some, List.foldl_cons, keepFirst]
      split
      · exact inductionHypothesis found
      · exact inductionHypothesis _

/-- The offers of all visible frames with the places of the frames in the log. -/
def offersAt (log : List Frame) (store : Store) (depth : Nat) : List (Nat × VisibleVariable) :=
  ((visible log depth).zipIdx (later log depth).length).flatMap fun (frame, place) =>
    (offers (fun declaration => lookup? log store declaration depth)
      (Variable.ascending frame.entries)).map (place, ·)

/-- The listing, each entry with the place of the frame it comes from. -/
def sources (log : List Frame) (store : Store) (depth : Nat) : List (Nat × VisibleVariable) :=
  (offersAt log store depth).foldl (keepFirst (VisibleVariable.name ∘ Prod.snd)) []

/-- The sources are the first offers of each name. -/
theorem firstOfEach_sources :
    FirstOfEach (VisibleVariable.name ∘ Prod.snd) (offersAt log store depth)
      (sources log store depth) :=
  firstOfEach_foldl _

/-- Without their places the sources are the visible variables. -/
theorem map_snd_sources :
    (sources log store depth).map Prod.snd = visibleVariables log store depth := by
  let offered (frame : Frame) : List VisibleVariable :=
    offers (fun declaration => lookup? log store declaration depth)
      (Variable.ascending frame.entries)
  have unnumbered : (offersAt log store depth).map Prod.snd =
      (visible log depth).flatMap offered := by
    calc (offersAt log store depth).map Prod.snd
        = ((visible log depth).zipIdx (later log depth).length).flatMap (offered ∘ Prod.fst) := by
          simp only [offersAt, List.map_flatMap, List.map_map]
          congr 1
          funext placed
          exact List.map_id _
      _ = (((visible log depth).zipIdx (later log depth).length).map Prod.fst).flatMap offered :=
          (List.flatMap_map Prod.fst offered _).symm
      _ = (visible log depth).flatMap offered := by rw [List.zipIdx_map_fst]
  calc (sources log store depth).map Prod.snd
      = ((offersAt log store depth).map Prod.snd).foldl (keepFirst (·.name)) [] :=
        map_foldl_keepFirst Prod.snd _ []
    _ = (visible log depth).foldl
          (fun found frame => (offered frame).foldl (keepFirst (·.name)) found) [] := by
        rw [unnumbered, List.foldl_flatMap]
    _ = visibleVariables log store depth := by
        simp only [visibleVariables, extendVisible_eq, offered]

/-- A frame entered at or before a depth stands at a place of the log and records a declaration
under a name. -/
def RecordedAt (log : List Frame) (depth place : Nat) (declaration : NodeId) (name : String) :
    Prop :=
  ∃ frame, log[place]? = some frame ∧ frame.enteredAt ≤ depth ∧
    ∃ entry ∈ frame.entries, entry.declaration = declaration ∧ entry.name = name

/-- In a log in order, the visible frames are numbered by their places. -/
theorem mem_zipIdx_visible (inOrder : InOrder log) {frame : Frame} {place : Nat} :
    (frame, place) ∈ (visible log depth).zipIdx (later log depth).length ↔
      log[place]? = some frame ∧ frame.enteredAt ≤ depth := by
  rw [List.mk_mem_zipIdx_iff_le_and_getElem?_sub]
  constructor
  · rintro ⟨beyond, found⟩
    refine ⟨?_, enteredAt_of_mem_visible inOrder (List.mem_of_getElem? found)⟩
    rw [← later_append_visible log depth, List.getElem?_append_right beyond]
    exact found
  · rintro ⟨found, entered⟩
    rw [← later_append_visible log depth] at found
    have beyond : (later log depth).length ≤ place := by
      by_contra within
      rw [List.getElem?_append_left (by omega)] at found
      have hidden := enteredAt_of_mem_later inOrder (List.mem_of_getElem? found)
      omega
    rw [List.getElem?_append_right beyond] at found
    exact ⟨beyond, found⟩

/-- What is offered at a place is recorded there and has the value that is looked up. -/
theorem mem_offersAt (inOrder : InOrder log) {place : Nat} {seen : VisibleVariable} :
    (place, seen) ∈ offersAt log store depth ↔
      RecordedAt log depth place seen.declaration seen.name ∧
        lookup? log store seen.declaration depth = some seen.value := by
  simp only [offersAt, List.mem_flatMap, List.mem_map, Prod.exists, offers, List.mem_filterMap,
    Option.map_eq_some_iff, Variable.ascending, List.mem_mergeSort]
  constructor
  · rintro ⟨frame, number, placed, offer, ⟨entry, recorded, value, found, rfl⟩, same⟩
    cases same
    obtain ⟨atPlace, entered⟩ := (mem_zipIdx_visible inOrder).mp placed
    exact ⟨⟨frame, atPlace, entered, entry, recorded, rfl, rfl⟩, found⟩
  · rintro ⟨⟨frame, atPlace, entered, entry, recorded, declared, named⟩, found⟩
    refine ⟨frame, place, (mem_zipIdx_visible inOrder).mpr ⟨atPlace, entered⟩, seen,
      ⟨entry, recorded, seen.value, ?_, ?_⟩, rfl⟩
    · rw [declared]
      exact found
    · rw [declared, named]

/-- Offers come in the order of their frames, and those of one frame in the order of its
listing. -/
theorem pairwise_offersAt (Ascends : NodeId → NodeId → Prop)
    (ascending : ∀ frame ∈ log, (Variable.ascending frame.entries).Pairwise fun earlier later =>
      Ascends earlier.declaration later.declaration) :
    (offersAt log store depth).Pairwise fun earlier later =>
      earlier.1 < later.1 ∨
        earlier.1 = later.1 ∧ Ascends earlier.2.declaration later.2.declaration := by
  rw [offersAt, List.pairwise_flatMap]
  constructor
  · rintro ⟨frame, place⟩ placed
    have logged : frame ∈ log := by
      rw [← later_append_visible log depth]
      exact List.mem_append_right _ (List.fst_mem_of_mem_zipIdx placed)
    rw [List.pairwise_map]
    refine (ascending frame logged).filterMap _ ?_
    intro earlier later ascends first isFirst second isSecond
    obtain ⟨_, -, rfl⟩ := Option.map_eq_some_iff.mp isFirst
    obtain ⟨_, -, rfl⟩ := Option.map_eq_some_iff.mp isSecond
    exact .inr ⟨rfl, ascends⟩
  · have numbered : ((visible log depth).zipIdx (later log depth).length).Pairwise
        fun earlier later => earlier.2 < later.2 := by
      rw [← List.pairwise_map (f := Prod.snd) (R := (· < ·)), List.zipIdx_map_snd]
      exact List.pairwise_lt_range'
    refine numbered.imp fun less first isFirst second isSecond => ?_
    obtain ⟨_, -, rfl⟩ := List.mem_map.mp isFirst
    obtain ⟨_, -, rfl⟩ := List.mem_map.mp isSecond
    exact .inl less

/-- Entries are listed in the order of their declarations. -/
theorem pairwise_le_ascending (entries : List Variable) :
    (Variable.ascending entries).Pairwise fun earlier later =>
      earlier.declaration.index ≤ later.declaration.index := by
  have sorted : (Variable.ascending entries).Pairwise fun earlier later =>
      earlier.declaration.le later.declaration = true := List.pairwise_mergeSort
    (fun first second third => by simp only [NodeId.le, decide_eq_true_eq]; omega)
    (fun left right => by simp only [NodeId.le, Bool.or_eq_true, decide_eq_true_eq]; omega) entries
  exact sorted.imp fun ordered => of_decide_eq_true ordered

/-- A frame that records each declaration once lists them in strictly ascending order. -/
theorem pairwise_lt_ascending {entries : List Variable}
    (distinct : (entries.map Variable.declaration).Nodup) :
    (Variable.ascending entries).Pairwise fun earlier later =>
      earlier.declaration.index < later.declaration.index := by
  have permuted : (Variable.ascending entries).Perm entries := List.mergeSort_perm _ _
  have apart : (Variable.ascending entries).Pairwise fun earlier later =>
      earlier.declaration ≠ later.declaration := by
    rw [← List.pairwise_map (f := Variable.declaration) (R := (· ≠ ·))]
    exact (permuted.map _).nodup_iff.mpr distinct
  refine (pairwise_le_ascending entries).imp₂ ?_ apart
  intro earlier later ordered different
  refine Nat.lt_of_le_of_ne ordered fun same => different ?_
  exact congrArg NodeId.mk same

/-- The variables in scope at a position of the call stack, for a log in order. Their names are
distinct. Each comes from a frame that was entered at or before the position, records it under its
name, and its value is the one that is looked up. Wherever such a frame records a declaration that
has a value, some entry has its name and comes from a frame that is at least as new. Entries from
newer frames come first, and those from one frame ascend: strictly, where each frame records a
declaration once. -/
theorem visible_variables (store : Store) (depth : Nat) (inOrder : InOrder log) :
    ((visibleVariables log store depth).map (·.name)).Nodup ∧
    ∃ sourced : List (Nat × VisibleVariable),
      sourced.map Prod.snd = visibleVariables log store depth ∧
      (∀ place seen, (place, seen) ∈ sourced →
        RecordedAt log depth place seen.declaration seen.name ∧
          lookup? log store seen.declaration depth = some seen.value) ∧
      (∀ place declaration name value, RecordedAt log depth place declaration name →
        lookup? log store declaration depth = some value →
        ∃ newer seen, (newer, seen) ∈ sourced ∧ seen.name = name ∧ newer ≤ place) ∧
      (sourced.Pairwise fun earlier later => earlier.1 < later.1 ∨
        earlier.1 = later.1 ∧ earlier.2.declaration.index ≤ later.2.declaration.index) ∧
      ((∀ frame ∈ log, (frame.entries.map Variable.declaration).Nodup) →
        sourced.Pairwise fun earlier later => earlier.1 < later.1 ∨
          earlier.1 = later.1 ∧ earlier.2.declaration.index < later.2.declaration.index) := by
  have first : FirstOfEach (VisibleVariable.name ∘ Prod.snd) (offersAt log store depth)
      (sources log store depth) := firstOfEach_sources
  have ordered : (offersAt log store depth).Pairwise fun earlier later => earlier.1 < later.1 ∨
      earlier.1 = later.1 ∧ earlier.2.declaration.index ≤ later.2.declaration.index :=
    pairwise_offersAt (fun earlier later => earlier.index ≤ later.index)
      fun frame _ => pairwise_le_ascending frame.entries
  refine ⟨?_, sources log store depth, map_snd_sources, ?_, ?_, ordered.sublist first.sublist, ?_⟩
  · rw [← map_snd_sources, List.map_map]
    exact first.distinct
  · intro place seen listed
    exact (mem_offersAt inOrder).mp (first.sublist.subset listed)
  · intro place declaration name value recorded found
    have offered : (place, (⟨declaration, name, value⟩ : VisibleVariable)) ∈
        offersAt log store depth := (mem_offersAt inOrder).mpr ⟨recorded, found⟩
    obtain ⟨⟨newer, seen⟩, listed, named, before⟩ := first.covers ordered offered
    refine ⟨newer, seen, listed, named, ?_⟩
    rcases before with same | earlier | ⟨same, -⟩
    · cases same
      exact Nat.le_refl place
    · exact Nat.le_of_lt earlier
    · exact Nat.le_of_eq same
  · intro distinct
    exact (pairwise_offersAt (fun earlier later => earlier.index < later.index)
      fun frame logged => pairwise_lt_ascending (distinct frame logged)).sublist first.sublist

/-- A function that was entered twice on top of a script. Both scopes name a variable x. -/
def recursiveLog : List Frame :=
  let inFunction : List Variable :=
    [⟨⟨0, ⟨5⟩⟩, "x", .function ⟨3⟩⟩, ⟨⟨0, ⟨4⟩⟩, "n", .function ⟨3⟩⟩]
  [⟨.function ⟨3⟩, 3, inFunction⟩, ⟨.function ⟨3⟩, 1, inFunction⟩,
    ⟨.script ⟨0⟩, 0, [⟨⟨0, ⟨1⟩⟩, "x", .script ⟨0⟩⟩, ⟨⟨0, ⟨2⟩⟩, "g", .script ⟨0⟩⟩]⟩]

def recursiveStore : Store :=
  ((({ } : Store).set ⟨0, ⟨1⟩⟩ [.null]).set ⟨0, ⟨2⟩⟩ [.bool true]).set ⟨0, ⟨4⟩⟩
    [.bool true, .bool false] |>.set ⟨0, ⟨5⟩⟩ [.null, .bool true]

/-- From inside the first invocation, its own n is seen although a second invocation has bound it
anew, and the x of the script is shadowed: the only x that is listed comes from a newer frame. -/
theorem visible_variables_shadowed :
    let listed := visibleVariables recursiveLog recursiveStore 2
    InOrder recursiveLog ∧
    (lookup? recursiveLog recursiveStore ⟨4⟩ 2).map Value.isTruthy = some false ∧
    (listed.map (·.name)).Nodup ∧
    ∃ sourced : List (Nat × VisibleVariable), sourced.map Prod.snd = listed ∧
      (∃ newer seen, (newer, seen) ∈ sourced ∧ seen.name = "x" ∧ newer ≤ 1) ∧
      sourced.Pairwise fun earlier later => earlier.1 < later.1 ∨
        earlier.1 = later.1 ∧ earlier.2.declaration.index < later.2.declaration.index := by
  have inOrder : InOrder recursiveLog := by
    simp [InOrder, recursiveLog]
  have keyed : ∀ frame ∈ recursiveLog, (frame.entries.map Variable.declaration).Nodup := by
    decide
  have bound : (lookup? recursiveLog recursiveStore ⟨5⟩ 2).isSome = true := by
    decide +kernel
  have recorded : RecordedAt recursiveLog 2 1 ⟨5⟩ "x" :=
    ⟨_, rfl, by decide, _, .head _, rfl, rfl⟩
  obtain ⟨value, found⟩ := Option.isSome_iff_exists.mp bound
  obtain ⟨distinct, sourced, same, -, covered, -, strict⟩ :=
    visible_variables recursiveStore 2 inOrder
  exact ⟨inOrder, by decide +kernel, distinct, sourced, same,
    covered 1 ⟨5⟩ "x" value recorded found, strict keyed⟩

end Frame

end Treewalk
