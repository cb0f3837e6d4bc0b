/-!
# Partition points

Where a test that holds on an initial part of a range and nowhere else stops holding is found by
bisection. On other tests the answer is still some place where the test changes, or an end of the
range.
-/

namespace Treewalk

/-- Bisect `size` indices from `base` for the last one where `holds`, given that it holds on an
initial part of them and, if anywhere, at `base`. -/
def bisect (holds : Nat → Bool) (base size : Nat) : Nat :=
  if 1 < size then
    let middle := base + size / 2
    bisect holds (if holds middle then middle else base) (size - size / 2)
  else base
termination_by size

/-- How many indices below `size` satisfy a test that holds on an initial part of them. -/
def partitionPoint (size : Nat) (holds : Nat → Bool) : Nat :=
  if size = 0 then 0
  else
    let last := bisect holds 0 size
    if holds last then last + 1 else last

end Treewalk
