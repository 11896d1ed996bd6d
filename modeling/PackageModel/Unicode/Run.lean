/-!
# PackageModel.Unicode.Run

Sets of code points as tables of runs.  A run is an arithmetic progression, because capital and
small letters alternate over long stretches of the code space; a table lists its runs in
increasing order, so a look-up stops at the first run that starts beyond the code point.
-/

namespace PackageModel.Unicode

/-- The code points `first`, `first + step`, … up to `last`. -/
structure Run where
  first : Nat
  last : Nat
  step : Nat
deriving Repr, DecidableEq

namespace Run

/-- Whether the code point `n` belongs to the run. -/
def contains (r : Run) (n : Nat) : Bool :=
  r.first ≤ n && n ≤ r.last && (n - r.first) % r.step == 0

end Run

/-- Whether the code point `n` belongs to a run of the table; the runs are in increasing order
and do not overlap. -/
def inTable (n : Nat) : List Run → Bool
  | [] => false
  | r :: rs => if n < r.first then false else if n ≤ r.last then r.contains n else inTable n rs

end PackageModel.Unicode
