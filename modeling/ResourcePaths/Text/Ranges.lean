/-!
# Ranges of code points

A character property is a list of inclusive ranges of code points.
-/

namespace ResourcePaths
namespace Text

/-- Inclusive ranges of code points, in rising order. -/
abbrev Ranges := List (Nat × Nat)

/-- Whether a code point lies in one of the ranges. -/
def Ranges.has (ranges : Ranges) (code : Nat) : Bool :=
  ranges.any fun range => range.1 ≤ code && code ≤ range.2

end Text
end ResourcePaths
