/-!
# Repeated names

`markRepeats` tells for each element of a list whether an element before it has the same name.
-/

namespace AudioGraph

universe u

variable {α : Type u}

/-- Each element, with whether its name is among the seen ones or is the name of an element before it. -/
def markRepeatsFrom (name : α → String) : List String → List α → List (α × Bool)
  | _, [] => []
  | seen, x :: rest => (x, seen.contains (name x)) :: markRepeatsFrom name (name x :: seen) rest

/-- Each element, with whether an element before it has the same name. -/
def markRepeats (name : α → String) (xs : List α) : List (α × Bool) := markRepeatsFrom name [] xs

/-- Marking keeps the elements and their order. -/
theorem map_fst_markRepeatsFrom (name : α → String) (seen : List String) (xs : List α) :
    (markRepeatsFrom name seen xs).map (·.1) = xs := by
  induction xs generalizing seen with
  | nil => rfl
  | cons x rest ih => exact congrArg (x :: ·) (ih _)

end AudioGraph
