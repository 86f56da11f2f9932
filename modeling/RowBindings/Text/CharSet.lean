/-!
# Sets of code points

Two compact forms for the tables of character properties. A `CharSet` lists in ascending order the
bounds at which membership changes, so a code point is a member if it lies at or past an odd number
of them. A `CodeRun` is an arithmetic progression, which suits the alphabets where upper and lower
case alternate.
-/

namespace RowBindings.Text

/-- A set of code points, given by the ascending bounds at which membership changes. -/
structure CharSet where
  bounds : List Nat

/-- Walk past the bounds up to `n`; membership changes at each of them. -/
def CharSet.scan (n : Nat) : List Nat → Bool → Bool
  | [], inside => inside
  | b :: rest, inside => if n < b then inside else scan n rest (!inside)

def CharSet.contains (s : CharSet) (n : Nat) : Bool :=
  CharSet.scan n s.bounds false

/-- The code points `first`, `first + step`, and so on up to `last`. -/
structure CodeRun where
  first : Nat
  last : Nat
  step : Nat

def CodeRun.contains (r : CodeRun) (n : Nat) : Bool :=
  r.first ≤ n && n ≤ r.last && (n - r.first) % r.step == 0

end RowBindings.Text
