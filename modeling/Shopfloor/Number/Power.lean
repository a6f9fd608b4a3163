/-!
# Powers

The powers by which numbers are scaled, of two for binary numbers and of ten
for decimal ones.

## Main definitions

* `twoTo`, `tenTo`: The powers.
-/

namespace Shopfloor

/-- A power of two. -/
def twoTo (n : Nat) : Nat := Nat.pow 2 n

/-- A power of ten. -/
def tenTo (n : Nat) : Nat := Nat.pow 10 n

end Shopfloor
