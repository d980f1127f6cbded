/-!
# Sets of code points as sorted ranges

A Unicode property is held as a list of disjoint ranges in increasing order, so that membership
stops at the first range that ends at or after the code point looked for.
-/

namespace ZigAdvisor

abbrev Ranges := List (Nat × Nat)

namespace Ranges

/-- Whether a range of the list holds `n`, looking no further than the first range that ends at or
after `n`. -/
def contains : Ranges → Nat → Bool
  | [], _ => false
  | (first, last) :: rest, n => if n ≤ last then first ≤ n else contains rest n

end Ranges

end ZigAdvisor
