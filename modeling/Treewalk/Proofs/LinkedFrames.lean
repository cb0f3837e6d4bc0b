import Treewalk.Monitor
import Treewalk.Proofs.FrameLog
import Treewalk.Proofs.ScopeLayouts

/-!
# Frames and bindings that belong together

The value of a variable at a position of the call stack is put together from three structures that
are kept apart: the bindings of each declaration, the frame log and the call stack. `Linked` states
how they hang together in a settled tree: the log is in order and within the stack, every frame
records the layout of its scope, a function has as many bindings of each of its variables as it has
frames, and a script in the log has one.

`Linked.resolves` derives from this what a lookup answers. The rest shows what keeps the three
linked: entering a node, a function or a bound script, and binding a script.
-/

namespace Treewalk

variable {World : Type}

/-- A frame that was logged for the scope of a layout. -/
structure Frame.Records (frame : Frame) (layout : Layout) : Prop where
  scope : frame.scope = layout.owner
  entries : frame.entries = layout.debugInfo

/-- Call stack, frame log and bindings belong together. -/
structure Linked (tree : Tree World) (stack : CallStack) (frames : List Frame) (store : Store) :
    Prop where
  inOrder : Frame.InOrder frames
  bounded : ∀ frame ∈ frames, frame.enteredAt ≤ stack.depth
  recorded : ∀ frame ∈ frames,
    (∃ layout ∈ tree.layouts, frame.Records layout) ∨ frame.Records .empty
  invocations : ∀ layout ∈ tree.layouts, layout.owner.isFunction = true →
    ∀ entry ∈ layout.entries, store.depth entry.cell = frames.countP (·.scope == layout.owner)
  scripts : ∀ frame ∈ frames, frame.scope.isFunction = false →
    ∀ entry ∈ frame.entries, store.depth entry.cell = 1

/-- How variables of a tree are looked up from the call stack in a snapshot. -/
structure Snapshot.Resolves (tree : Tree World) (snapshot : Snapshot) : Prop where
  /-- The log, from the oldest frame on, is sorted by the depth of entry. -/
  sorted : snapshot.frames.reverse.Pairwise fun older newer => older.enteredAt ≤ newer.enteredAt
  bounded : ∀ frame ∈ snapshot.frames, frame.enteredAt ≤ snapshot.stack.nodes.length
  /-- A variable of a function has one binding for each live frame of the function. -/
  invocations : ∀ declaration function, tree.owner declaration = .function function →
    snapshot.store.depth (tree.cell declaration) =
      snapshot.frames.countP (·.scope == .function function)
  /-- Before the function was entered, its variables have no value. -/
  hidden : ∀ declaration function depth, tree.owner declaration = .function function →
    (∀ frame ∈ snapshot.frames, frame.scope = .function function → depth < frame.enteredAt) →
    Frame.lookup? snapshot.frames snapshot.store declaration depth = none
  /-- From a position at or after which `count` frames of the function had been entered, the
  `count`-th oldest binding is seen. -/
  shown : ∀ declaration function depth count, tree.owner declaration = .function function →
    snapshot.frames.countP
      (fun frame => frame.scope == .function function && frame.enteredAt ≤ depth) = count + 1 →
    ∃ value, (snapshot.store.bindings (tree.cell declaration)).reverse[count]? = some value ∧
      Frame.lookup? snapshot.frames snapshot.store declaration depth = some value
  /-- A script in the log has one binding of each of its variables, seen from everywhere inside. -/
  script : ∀ declaration root frame, tree.owner declaration = .script root →
    frame ∈ snapshot.frames → frame.scope = .script root →
    ∃ value, snapshot.store.bindings (tree.cell declaration) = [value] ∧
      ∀ depth, frame.enteredAt ≤ depth →
        Frame.lookup? snapshot.frames snapshot.store declaration depth = some value

namespace Linked

variable {tree : Tree World} {stack : CallStack} {frames : List Frame} {store : Store}

/-- A frame knows a variable of a scope exactly when it is a frame of that scope, and then as the
layout of the scope lists it. -/
theorem declaredAt?_of_mem (settled : tree.Settled) (single : tree.SingleScoped)
    (linked : Linked tree stack frames store) {layout : Layout} (member : layout ∈ tree.layouts)
    {declaration : NodeId} (listed : layout.contains declaration = true) {frame : Frame}
    (logged : frame ∈ frames) :
    Variable.declaredAt? frame.entries declaration =
      if frame.scope = layout.owner then Variable.declaredAt? layout.debugInfo declaration
      else none := by
  rcases linked.recorded frame logged with ⟨own, known, records⟩ | blank
  · rw [records.scope, records.entries]
    split
    · next same => rw [settled.layout_eq known member same]
    · next different =>
      rw [← Option.not_isSome_iff_eq_none]
      intro found
      exact different (single own known layout member declaration found listed)
  · have different : frame.scope ≠ layout.owner := by
      rw [blank.scope]
      exact (settled.attached layout member).symm
    rw [if_neg different, blank.entries]
    rfl

/-- What the frames of a part of the log know of a variable. -/
theorem findVariable?_eq (settled : tree.Settled) (single : tree.SingleScoped)
    (linked : Linked tree stack frames store) {layout : Layout} (member : layout ∈ tree.layouts)
    {declaration : NodeId} (listed : layout.contains declaration = true) {part : List Frame}
    (within : ∀ frame ∈ part, frame ∈ frames) :
    Frame.findVariable? part declaration =
      if ∃ frame ∈ part, frame.scope = layout.owner then
        Variable.declaredAt? layout.debugInfo declaration
      else none := by
  have known := fun frame (logged : frame ∈ part) =>
    linked.declaredAt?_of_mem settled single member listed (within frame logged)
  induction part with
  | nil => simp [Frame.findVariable?]
  | cons frame rest inductionHypothesis =>
    have ofRest := inductionHypothesis
      (fun other logged => within other (List.mem_cons_of_mem frame logged))
      (fun other logged => known other (List.mem_cons_of_mem frame logged))
    simp only [Frame.findVariable?] at ofRest ⊢
    rw [List.findSome?_cons, known frame List.mem_cons_self]
    by_cases same : frame.scope = layout.owner
    · obtain ⟨entry, found⟩ := Option.isSome_iff_exists.mp listed
      simp [same, found]
    · simp only [same, if_false, List.exists_mem_cons_iff, false_or]
      exact ofRest

/-- The entry under which frames of its scope record a variable. -/
theorem exists_entry (settled : tree.Settled) {declaration : NodeId} {scope : Scope}
    (owned : tree.owner declaration = scope) (attached : scope ≠ .detached) :
    ∃ layout ∈ tree.layouts, layout.owner = scope ∧ layout.contains declaration = true ∧
      ∃ entry ∈ layout.entries,
        Variable.declaredAt? layout.debugInfo declaration = some entry ∧
        entry.cell = tree.cell declaration ∧ entry.owner = scope := by
  obtain ⟨layout, member, owner, listed⟩ := Tree.exists_layout_of_owner owned attached
  obtain ⟨entry, found⟩ := Option.isSome_iff_exists.mp listed
  have inLayout := (settled.mem_debugInfo_iff member).mp (List.mem_of_find?_eq_some found)
  have site : entry.declaration = declaration := by
    have matched := List.find?_some found
    simpa using matched
  refine ⟨layout, member, owner, listed, entry, inLayout, found, ?_, ?_⟩
  · rw [settled.cells layout member entry inLayout, site]
  · rw [settled.entryOwner layout member entry inLayout, site, owned]

/-- From a position, a variable is found as soon as a frame of its scope is visible. -/
theorem findVariable?_visible (settled : tree.Settled) (single : tree.SingleScoped)
    (linked : Linked tree stack frames store) {declaration : NodeId} {scope : Scope}
    (owned : tree.owner declaration = scope) (attached : scope ≠ .detached) (depth : Nat) :
    ∃ entry, entry.cell = tree.cell declaration ∧ entry.owner = scope ∧
      Frame.findVariable? (Frame.visible frames depth) declaration =
        if ∃ frame ∈ Frame.visible frames depth, frame.scope = scope then some entry else none := by
  obtain ⟨layout, member, owner, listed, entry, -, found, cell, entryOwner⟩ :=
    exists_entry settled owned attached
  have known := linked.findVariable?_eq settled single member listed
    (fun frame logged => List.mem_of_mem_drop logged : ∀ frame ∈ Frame.visible frames depth, _)
  rw [owner, found] at known
  exact ⟨entry, cell, entryOwner, known⟩

/-- A lookup of a function's variable skips the bindings of the frames entered later. -/
theorem lookup?_function (settled : tree.Settled) (single : tree.SingleScoped)
    (linked : Linked tree stack frames store) {declaration function : NodeId}
    (owned : tree.owner declaration = .function function) (depth : Nat) :
    Frame.lookup? frames store declaration depth =
      if ∃ frame ∈ Frame.visible frames depth, frame.scope = .function function then
        store.peek? (tree.cell declaration)
          ((Frame.later frames depth).countP (·.scope == .function function))
      else none := by
  obtain ⟨entry, cell, entryOwner, known⟩ :=
    linked.findVariable?_visible settled single owned (by simp) depth
  rw [Frame.lookup?, known]
  by_cases seen : ∃ frame ∈ Frame.visible frames depth, frame.scope = .function function
  · simp only [if_pos seen, entryOwner, cell]
  · simp only [if_neg seen]

/-- A lookup of a script's variable reads its oldest binding. -/
theorem lookup?_script (settled : tree.Settled) (single : tree.SingleScoped)
    (linked : Linked tree stack frames store) {declaration root : NodeId}
    (owned : tree.owner declaration = .script root) (depth : Nat) :
    Frame.lookup? frames store declaration depth =
      if ∃ frame ∈ Frame.visible frames depth, frame.scope = .script root then
        store.oldest? (tree.cell declaration)
      else none := by
  obtain ⟨entry, cell, entryOwner, known⟩ :=
    linked.findVariable?_visible settled single owned (by simp) depth
  rw [Frame.lookup?, known]
  by_cases seen : ∃ frame ∈ Frame.visible frames depth, frame.scope = .script root
  · simp only [if_pos seen, entryOwner, cell]
  · simp only [if_neg seen]

/-- A variable of a function has as many bindings as calls of the function are open. -/
theorem depth_function (settled : tree.Settled) (linked : Linked tree stack frames store)
    {declaration function : NodeId} (owned : tree.owner declaration = .function function) :
    store.depth (tree.cell declaration) = frames.countP (·.scope == .function function) := by
  obtain ⟨layout, member, owner, -, entry, inLayout, -, cell, -⟩ :=
    exists_entry settled owned (by simp)
  have counted := linked.invocations layout member (by rw [owner]; rfl) entry inLayout
  rw [cell, owner] at counted
  exact counted

/-- A variable of a script has one binding while the frame of the script is logged. -/
theorem depth_script (settled : tree.Settled) (linked : Linked tree stack frames store)
    {declaration root : NodeId} (owned : tree.owner declaration = .script root) {frame : Frame}
    (logged : frame ∈ frames) (scope : frame.scope = .script root) :
    store.depth (tree.cell declaration) = 1 := by
  obtain ⟨layout, member, owner, -, entry, inLayout, -, cell, -⟩ :=
    exists_entry settled owned (by simp)
  have entries : frame.entries = layout.entries := by
    rcases linked.recorded frame logged with ⟨own, known, records⟩ | blank
    · have same : own.owner = layout.owner := by rw [← records.scope, scope, owner]
      rw [records.entries, settled.layout_eq known member same, settled.recorded layout member]
    · have noScope := blank.scope
      rw [scope] at noScope
      cases noScope
  have counted := linked.scripts frame logged (by rw [scope]; rfl) entry (entries ▸ inLayout)
  rw [cell] at counted
  exact counted

/-- What lookups answer where frames and bindings belong together. -/
theorem resolves (settled : tree.Settled) (single : tree.SingleScoped) {snapshot : Snapshot}
    (linked : Linked tree snapshot.stack snapshot.frames snapshot.store) :
    snapshot.Resolves tree := by
  have visible (depth : Nat) := Frame.visible_eq_filter linked.inOrder depth
  refine ⟨List.pairwise_reverse.mpr linked.inOrder, ?_, ?_, ?_, ?_, ?_⟩
  · intro frame logged
    rw [← snapshot.stack.depth_eq]
    exact linked.bounded frame logged
  · intro declaration function owned
    exact linked.depth_function settled owned
  · intro declaration function depth owned unseen
    rw [linked.lookup?_function settled single owned, if_neg]
    rintro ⟨frame, seen, scope⟩
    rw [visible, List.mem_filter] at seen
    have after := unseen frame seen.1 scope
    have before : frame.enteredAt ≤ depth := by simpa using seen.2
    omega
  · intro declaration function depth count owned counted
    have total := linked.depth_function settled owned
    have parts := congrArg (List.countP (·.scope == .function function))
      (Frame.later_append_visible snapshot.frames depth)
    rw [List.countP_append, visible, List.countP_filter] at parts
    have bound : (Frame.later snapshot.frames depth).countP (·.scope == .function function) +
        (count + 1) = (snapshot.store.bindings (tree.cell declaration)).length := by
      rw [← counted, parts, ← total]
      rfl
    have seen : ∃ frame ∈ Frame.visible snapshot.frames depth,
        frame.scope = .function function := by
      have positive : 0 < snapshot.frames.countP
          (fun frame => frame.scope == .function function && frame.enteredAt ≤ depth) := by omega
      obtain ⟨frame, logged, matched⟩ := List.countP_pos_iff.mp positive
      simp only [Bool.and_eq_true, beq_iff_eq, decide_eq_true_eq] at matched
      refine ⟨frame, ?_, matched.1⟩
      rw [visible, List.mem_filter]
      exact ⟨logged, by simpa using matched.2⟩
    refine ⟨_, List.getElem?_eq_getElem (by rw [List.length_reverse]; omega), ?_⟩
    rw [linked.lookup?_function settled single owned, if_pos seen, Store.peek?,
      List.getElem?_eq_getElem (by omega), List.getElem_reverse]
    congr 2
    omega
  · intro declaration root frame owned logged scope
    have one := linked.depth_script settled owned logged scope
    obtain ⟨value, bindings⟩ := List.length_eq_one_iff.mp one
    refine ⟨value, bindings, fun depth inside => ?_⟩
    rw [linked.lookup?_script settled single owned, if_pos, Store.oldest?, bindings]
    · rfl
    · refine ⟨frame, ?_, scope⟩
      rw [visible, List.mem_filter]
      exact ⟨logged, by simpa using inside⟩

/-- Without frames there is nothing to link but that no function has bindings. -/
theorem of_no_frames (idle : ∀ layout ∈ tree.layouts, layout.owner.isFunction = true →
    ∀ entry ∈ layout.entries, store.depth entry.cell = 0) : Linked tree stack [] store where
  inOrder := List.Pairwise.nil
  bounded _ logged := nomatch logged
  recorded _ logged := nomatch logged
  invocations := idle
  scripts _ logged := nomatch logged

/-- A longer stack holds the frames that a shorter one holds. -/
theorem push (linked : Linked tree stack frames store) (node : NodeId) :
    Linked tree (stack.push node) frames store :=
  { linked with
    bounded := fun frame logged => Nat.le_succ_of_le (linked.bounded frame logged) }

/-- Overwriting bindings keeps everything linked: only how many there are counts. -/
theorem of_depths {changed : Store} (linked : Linked tree stack frames store)
    (same : ∀ cell, changed.depth cell = store.depth cell) : Linked tree stack frames changed where
  inOrder := linked.inOrder
  bounded := linked.bounded
  recorded := linked.recorded
  invocations layout member function entry listed := by
    rw [same]
    exact linked.invocations layout member function entry listed
  scripts frame logged script entry listed := by
    rw [same]
    exact linked.scripts frame logged script entry listed

/-- A frame of a known scope, entered where the stack ends, keeps the log in order and within the
stack. What remains to be seen is that the bindings fit. -/
theorem cons {changed : Store} (linked : Linked tree stack frames store) {layout : Layout}
    (known : layout ∈ tree.layouts ∨ layout = .empty)
    (invocations : ∀ other ∈ tree.layouts, other.owner.isFunction = true →
      ∀ entry ∈ other.entries, changed.depth entry.cell =
        store.depth entry.cell + if layout.owner = other.owner then 1 else 0)
    (older : ∀ frame ∈ frames, frame.scope.isFunction = false →
      ∀ entry ∈ frame.entries, changed.depth entry.cell = store.depth entry.cell)
    (newest : layout.owner.isFunction = false →
      ∀ entry ∈ layout.debugInfo, changed.depth entry.cell = 1) :
    Linked tree stack (⟨layout.owner, stack.depth, layout.debugInfo⟩ :: frames) changed where
  inOrder := List.pairwise_cons.mpr ⟨linked.bounded, linked.inOrder⟩
  bounded frame logged := by
    rcases List.mem_cons.mp logged with rfl | earlier
    · exact Nat.le_refl _
    · exact linked.bounded frame earlier
  recorded frame logged := by
    rcases List.mem_cons.mp logged with rfl | earlier
    · rcases known with member | rfl
      · exact Or.inl ⟨layout, member, rfl, rfl⟩
      · exact Or.inr ⟨rfl, rfl⟩
    · exact linked.recorded frame earlier
  invocations other member function entry listed := by
    rw [invocations other member function entry listed,
      linked.invocations other member function entry listed, List.countP_cons]
    simp only [beq_iff_eq]
  scripts frame logged script entry listed := by
    rcases List.mem_cons.mp logged with rfl | earlier
    · exact newest script entry listed
    · rw [older frame earlier script entry listed]
      exact linked.scripts frame earlier script entry listed

/-- Entering a function opens a binding for each of its variables along with its frame. -/
theorem enterFunction (settled : tree.Settled) (single : tree.SingleScoped)
    (linked : Linked tree stack frames store) (callee : NodeId) :
    Linked tree stack
      (⟨(tree.functionLayout callee).owner, stack.depth, (tree.functionLayout callee).debugInfo⟩ ::
        frames)
      (store.bind (tree.functionLayout callee)) := by
  rcases tree.functionLayout_cases callee with ⟨member, owner⟩ | blank
  · apply linked.cons (Or.inl member)
    · intro other otherMember function entry listed
      rw [Store.depth_bind, settled.multiplicity single member otherMember listed, Nat.add_comm]
    · intro frame logged script entry listed
      rcases linked.recorded frame logged with ⟨own, known, records⟩ | missing
      · rw [records.entries, settled.mem_debugInfo_iff known] at listed
        have multiplicity := settled.multiplicity single member known listed
        rw [if_neg] at multiplicity
        · rw [Store.depth_bind, multiplicity, Nat.zero_add]
        · intro same
          rw [records.scope, ← same, owner] at script
          cases script
      · rw [missing.entries] at listed
        cases listed
    · intro script
      rw [owner] at script
      cases script
  · rw [blank]
    apply linked.cons (Or.inr rfl)
    · intro other otherMember function entry listed
      have different : Layout.empty.owner ≠ other.owner := (settled.attached other otherMember).symm
      rw [if_neg different]
      rfl
    · intro _ _ _ _ _
      rfl
    · intro _ entry listed
      cases listed

/-- A script whose variables are bound once can be entered without opening bindings. -/
theorem enterScript (settled : tree.Settled) (linked : Linked tree stack frames store)
    {layout : Layout} (member : layout ∈ tree.layouts) (script : layout.owner.isFunction = false)
    (bound : ∀ entry ∈ layout.entries, store.depth entry.cell = 1) :
    Linked tree stack (⟨layout.owner, stack.depth, layout.debugInfo⟩ :: frames) store := by
  apply linked.cons (Or.inl member)
  · intro other otherMember function entry listed
    rw [if_neg]
    · rfl
    · intro same
      rw [same, function] at script
      cases script
  · intro _ _ _ _ _
    rfl
  · intro _ entry listed
    exact bound entry ((settled.mem_debugInfo_iff member).mp listed)

/-- A script whose variables have no bindings can be bound: it has no frame in the log that could
notice. -/
theorem bindScript (settled : tree.Settled) (single : tree.SingleScoped)
    (linked : Linked tree stack frames store) {layout : Layout} (member : layout ∈ tree.layouts)
    (script : layout.owner.isFunction = false)
    (unbound : ∀ entry ∈ layout.entries, store.depth entry.cell = 0) :
    Linked tree stack frames (store.bind layout) where
  inOrder := linked.inOrder
  bounded := linked.bounded
  recorded := linked.recorded
  invocations other otherMember function entry listed := by
    rw [Store.depth_bind, settled.multiplicity single member otherMember listed, if_neg,
      Nat.zero_add]
    · exact linked.invocations other otherMember function entry listed
    · intro same
      rw [same, function] at script
      cases script
  scripts frame logged isScript entry listed := by
    have one := linked.scripts frame logged isScript entry listed
    rcases linked.recorded frame logged with ⟨own, known, records⟩ | missing
    · rw [records.entries, settled.mem_debugInfo_iff known] at listed
      rw [Store.depth_bind, settled.multiplicity single member known listed, if_neg, Nat.zero_add]
      · exact one
      · intro same
        obtain rfl := settled.layout_eq member known same
        rw [unbound entry listed] at one
        cases one
    · rw [missing.entries] at listed
      cases listed

end Linked

end Treewalk
