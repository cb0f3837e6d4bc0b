import Treewalk.Value

/-!
# Flow

Every processed node says how execution goes on. Returning, breaking and continuing are not
failures: they travel up the tree until the enclosing function or loop takes them.
-/

namespace Treewalk

/-- How execution goes on after a node. -/
inductive Flow where
  /-- With the next node, perhaps carrying a value. -/
  | resume (value : Option Value)
  /-- By leaving the enclosing function or script. -/
  | returning (value : Option Value)
  /-- By leaving the enclosing loop. -/
  | breaking
  /-- With the next round of the enclosing loop. -/
  | continuing

namespace Flow

instance : Inhabited Flow := ⟨.resume none⟩

/-- The next node is due. -/
def resumes : Flow → Bool
  | .resume _ => true
  | _ => false

/-- The enclosing function or script is left. -/
def returns : Flow → Bool
  | .returning _ => true
  | _ => false

/-- The enclosing loop is left, by a break or by a return. -/
def breaks : Flow → Bool
  | .breaking => true
  | .returning _ => true
  | _ => false

/-- The value carried along, if any. -/
def value? : Flow → Option Value
  | .resume value => value
  | .returning value => value
  | .breaking => none
  | .continuing => none

/-- The flow seen from a place that needs a value. -/
def value (flow : Flow) : Value :=
  flow.value?.getD .null

end Flow

end Treewalk
