/-!
# Tables

A table gives an entry to every key and differs from the default entry at finitely many keys. Only
`Table.get` tells tables apart: how often and in which order keys were set does not show.
-/

namespace Treewalk

/-- A map from all keys, given by its finitely many settings. -/
structure Table (Key Entry : Type) where
  settings : List (Key × Entry) := []

namespace Table

variable {Key Entry : Type} [DecidableEq Key]

/-- The entry that a list of settings gives to a key: that of the first setting of the key. -/
def find [Inhabited Entry] (key : Key) : List (Key × Entry) → Entry
  | [] => default
  | setting :: rest => if setting.1 = key then setting.2 else find key rest

/-- Change the first setting of a key, or add one. -/
def place (key : Key) (entry : Entry) : List (Key × Entry) → List (Key × Entry)
  | [] => [(key, entry)]
  | setting :: rest =>
    if setting.1 = key then (key, entry) :: rest else setting :: place key entry rest

/-- The entry of a key. -/
def get [Inhabited Entry] (table : Table Key Entry) (key : Key) : Entry :=
  find key table.settings

/-- Give a key another entry. -/
def set (table : Table Key Entry) (key : Key) (entry : Entry) : Table Key Entry :=
  ⟨place key entry table.settings⟩

/-- Change the entry of a key. -/
def modify [Inhabited Entry] (table : Table Key Entry) (key : Key) (change : Entry → Entry) :
    Table Key Entry :=
  table.set key (change (table.get key))

/-- A key that is placed is found, and whatever else was found still is. -/
theorem find_place [Inhabited Entry] (key other : Key) (entry : Entry)
    (settings : List (Key × Entry)) :
    find other (place key entry settings) =
      if other = key then entry else find other settings := by
  induction settings with
  | nil => grind [find, place]
  | cons setting rest inductionHypothesis => grind [find, place]

/-- Setting a key changes its entry and no other. -/
@[simp] theorem get_set [Inhabited Entry] (table : Table Key Entry) (key other : Key)
    (entry : Entry) :
    (table.set key entry).get other = if other = key then entry else table.get other :=
  find_place key other entry table.settings

/-- Changing the entry of a key reads as changing what was got for it, and no other key notices. -/
@[simp] theorem get_modify [Inhabited Entry] (table : Table Key Entry) (key other : Key)
    (change : Entry → Entry) :
    (table.modify key change).get other =
      if other = key then change (table.get key) else table.get other :=
  get_set table key other _

/-- Without settings every key has the default entry. -/
@[simp] theorem get_empty [Inhabited Entry] (key : Key) :
    ({ } : Table Key Entry).get key = default :=
  rfl

end Table

end Treewalk
