namespace LogSieve

-- Closed ranges of code points, in increasing order.
abbrev Ranges := List (Nat × Nat)

namespace Ranges

def contains (ranges : Ranges) (code : Nat) : Bool :=
  ranges.any fun range => range.1 ≤ code && code ≤ range.2

end Ranges

end LogSieve
