/-!
# Sets of code points

A set of code points is given by the points at which membership begins and ends, in turn and in
ascending order. A point belongs to the set when an odd number of them lie at or below it.
-/
namespace Handoff.Text

abbrev CodePoints := List Nat

namespace CodePoints

def has (set : CodePoints) (c : Char) : Bool := (set.takeWhile (· ≤ c.toNat)).length % 2 = 1

end CodePoints
end Handoff.Text
