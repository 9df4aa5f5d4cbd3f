/-!
# Counting depths

How the search numbers the levels at which goals are nested. A number with a fixed width starts
over at zero after the greatest one; below that it counts like a natural number
(`next_cyclic_of_lt`).
-/
namespace Synthesis

/-- How depths are counted. -/
inductive DepthCount where
  /-- Every depth has a number of its own. -/
  | unbounded
  /-- The numbers are those below a size, over and over again. -/
  | cyclic (size : Nat)
deriving DecidableEq

namespace DepthCount

def word : DepthCount := .cyclic UInt64.size

def next : DepthCount → Nat → Nat
  | .unbounded, depth => depth + 1
  | .cyclic size, depth => (depth + 1) % size

@[simp] theorem next_unbounded (depth : Nat) : unbounded.next depth = depth + 1 := rfl

theorem next_cyclic_of_lt {size depth : Nat} (h : depth + 1 < size) :
    (cyclic size).next depth = depth + 1 := Nat.mod_eq_of_lt h

end DepthCount
end Synthesis
