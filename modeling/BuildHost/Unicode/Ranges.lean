/-!
# Sets of characters as ranges

A property of characters is a list of ranges of code points, both ends included.
-/

namespace BuildHost
namespace Unicode

abbrev Ranges := List (Nat × Nat)

def Ranges.contains (ranges : Ranges) (c : Char) : Bool :=
  ranges.any fun range => range.1 ≤ c.toNat && c.toNat ≤ range.2

end Unicode
end BuildHost
