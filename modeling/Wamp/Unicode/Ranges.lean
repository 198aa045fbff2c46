/-!
# Classes of characters as ranges

A class is a list of ranges of code points, each given by its first and last member.
-/

namespace Wamp.Unicode

def within (ranges : List (Nat × Nat)) (c : Char) : Bool :=
  ranges.any fun (first, last) => first ≤ c.toNat && c.toNat ≤ last

end Wamp.Unicode
