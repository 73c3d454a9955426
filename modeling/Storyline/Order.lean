/-!
# Repetitions and order

A list of values seen as the set of its distinct members, and sorted.
-/

namespace Storyline

variable {α : Type}

/-- For each member the position of the first one equal to it. -/
def firstPositions [DecidableEq α] (xs : List α) : List Nat := xs.map fun x => xs.idxOf x

def distinctCount [DecidableEq α] (xs : List α) : Nat := xs.eraseDups.length

def ascending [Ord α] (xs : List α) : List α := xs.mergeSort fun x y => (compare x y).isLE

end Storyline
