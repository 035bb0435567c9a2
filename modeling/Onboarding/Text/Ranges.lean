/-
This file holds membership in a table of code point ranges, which is how the
properties of the Unicode standard are given in the modules beside it.
-/

namespace Onboarding.Text

/-- Whether the code point of the character lies in one of the closed ranges. -/
def inRanges (ranges : List (Nat × Nat)) (c : Char) : Bool :=
  ranges.any fun (low, high) => low ≤ c.toNat && c.toNat ≤ high

end Onboarding.Text
