import PackageModel.Toml.Text
import PackageModel.Toml.Value

/-!
# PackageModel.Toml.Number

Numbers, dates and times.  Integers have 64 bits.  A float may round to anything but positive
infinity, which has a spelling of its own; dates and times have to exist.
-/

namespace PackageModel.Toml

/-! ## Digits -/

/-- Reads digits behind a first one; between two digits there may be an underscore. -/
def moreDigits (isDigit : Char → Bool) : Reader (List Char)
  | '_' :: c :: r => if isDigit c then andThen c (moreDigits isDigit r) else none
  | ['_'] => none
  | c :: r => if isDigit c then andThen c (moreDigits isDigit r) else some ([], c :: r)
  | [] => some ([], [])

/-- Reads at least one digit. -/
def someDigits (isDigit : Char → Bool) : Reader (List Char)
  | c :: r => if isDigit c then andThen c (moreDigits isDigit r) else none
  | [] => none

/-- Reads decimal digits without a leading zero. -/
def wholeDigits : Reader (List Char)
  | '0' :: r => some (['0'], r)
  | s => someDigits Char.isDigit s

/-- The number that digits stand for. -/
def ofDigits (base : Nat) (digits : List Char) : Nat :=
  digits.foldl (fun n c => base * n + (hexDigit? c).getD 0) 0

/-- Reads a sign; the second part is true for a minus. -/
def sign : List Char → Bool × List Char
  | '-' :: r => (true, r)
  | '+' :: r => (false, r)
  | s => (false, s)

/-! ## Integers and floats -/

/-- The integer, if it fits into 64 bits. -/
def integer? (n : Int) : Option Value :=
  if -9223372036854775808 ≤ n ∧ n ≤ 9223372036854775807 then some (.integer n) else none

/-- Whether a decimal number rounds to infinity as a double: from the middle between the largest
finite double and the next power of two on.  Numbers with more than 309 places before the point
do, numbers with fewer do not. -/
def overflows (digits : List Char) (exponent : Int) : Bool :=
  let significant := digits.dropWhile (· = '0')
  let places : Int := significant.length + exponent
  let n := ofDigits 10 significant
  let bound := Nat.pow 2 1024 - Nat.pow 2 970
  if significant.isEmpty || places < 309 then false
  else if 309 < places then true
  else if 0 ≤ exponent then bound ≤ n * Nat.pow 10 exponent.toNat
  else bound * Nat.pow 10 (-exponent).toNat ≤ n

/-- Reads the exponent of a float, if there is one. -/
def exponent (s : List Char) : Option (Int × List Char) :=
  let digits (s : List Char) := do
    let (negative, s) := sign s
    let (digits, r) ← someDigits Char.isDigit s
    let n : Int := ofDigits 10 digits
    return (if negative then -n else n, r)
  match s with
  | 'e' :: r => digits r
  | 'E' :: r => digits r
  | s => some (0, s)

/-- The float, unless it is positive and rounds to infinity. -/
def float? (negative : Bool) (digits : List Char) (exponent : Int) : Option Value :=
  if !negative && overflows digits exponent then none else some .float

/-- Reads an integer in another base, behind the letter of the base. -/
def basedInteger (base : Nat) (s : List Char) : Option (Value × List Char) := do
  let (digits, r) ← someDigits (fun c => (hexDigit? c).any (· < base)) s
  return (← integer? (ofDigits base digits), r)

/-- Reads a number in decimal digits, behind its sign. -/
def decimal (negative : Bool) (s : List Char) : Option (Value × List Char) := do
  let (whole, s) ← wholeDigits s
  match s with
  | '.' :: r =>
    let (fraction, r) ← someDigits Char.isDigit r
    let (e, r) ← exponent r
    return (← float? negative (whole ++ fraction) (e - fraction.length), r)
  | s =>
    if s.head?.any fun c => c = 'e' || c = 'E' then
      let (e, r) ← exponent s
      return (← float? negative whole e, r)
    else
      let n : Int := ofDigits 10 whole
      return (← integer? (if negative then -n else n), s)

/-- Reads a number. -/
def number : Reader Value
  | '0' :: 'x' :: r => basedInteger 16 r
  | '0' :: 'o' :: r => basedInteger 8 r
  | '0' :: 'b' :: r => basedInteger 2 r
  | s =>
    let (negative, s) := sign s
    match s with
    | 'i' :: 'n' :: 'f' :: r => some (.float, r)
    | 'n' :: 'a' :: 'n' :: r => some (.float, r)
    | s => decimal negative s

/-! ## Dates and times -/

/-- Reads exactly this many digits. -/
def fixedDigits (count : Nat) (s : List Char) : Option (Nat × List Char) :=
  let digits := s.take count
  if digits.length = count ∧ digits.all Char.isDigit then
    some (ofDigits 10 digits, s.drop count)
  else none

/-- Reads two digits that stand for a number in the range. -/
def twoDigits (low high : Nat) (s : List Char) : Option (Nat × List Char) := do
  let (n, r) ← fixedDigits 2 s
  if low ≤ n ∧ n ≤ high then return (n, r) else none

/-- Reads the character. -/
def mark (c : Char) : List Char → Option (List Char)
  | d :: r => if d = c then some r else none
  | [] => none

/-- The rule of the Gregorian calendar. -/
def isLeapYear (year : Nat) : Bool := year % 4 = 0 && (year % 100 ≠ 0 || year % 400 = 0)

/-- The days of a month, with one more in February of a leap year. -/
def daysInMonth (year month : Nat) : Nat :=
  if month = 2 then if isLeapYear year then 29 else 28
  else if month = 4 ∨ month = 6 ∨ month = 9 ∨ month = 11 then 30
  else 31

/-- Reads the rest of a date behind its year. -/
def date (year : Nat) (s : List Char) : Option (List Char) := do
  let s ← mark '-' s
  let (month, s) ← twoDigits 1 12 s
  let s ← mark '-' s
  let (_, s) ← twoDigits 1 (daysInMonth year month) s
  return s

/-- Reads a time of day; a minute may have a leap second. -/
def time (s : List Char) : Option (List Char) := do
  let (_, s) ← twoDigits 0 23 s
  let s ← mark ':' s
  let (_, s) ← twoDigits 0 59 s
  let s ← mark ':' s
  let (_, s) ← twoDigits 0 60 s
  match s with
  | '.' :: c :: r => if c.isDigit then return r.dropWhile Char.isDigit else return s
  | s => return s

/-- Reads the offset of a time from universal time, if there is one. -/
def offset (s : List Char) : Option (List Char) :=
  let hours (s : List Char) := do
    let (_, s) ← twoDigits 0 23 s
    let s ← mark ':' s
    let (_, s) ← twoDigits 0 59 s
    return s
  match s with
  | 'Z' :: r => some r
  | 'z' :: r => some r
  | '+' :: r => hours r
  | '-' :: r => hours r
  | s => some s

/-- Reads a date, a time, or a date with a time behind `T` or a space. -/
def moment (s : List Char) : Option (Value × List Char) := do
  match fixedDigits 4 s with
  | some (year, r) =>
    let r ← date year r
    match r with
    | c :: t =>
      if c = 'T' ∨ c = 't' ∨ (c = ' ' ∧ (t.head?.any Char.isDigit)) then
        return (.moment, ← offset (← time t))
      else return (.moment, r)
    | [] => return (.moment, [])
  | none => return (.moment, ← time s)

/-- Whether a date or a time stands here, and not a number: four digits and a dash, or two digits
and a colon. -/
def startsMoment (s : List Char) : Bool :=
  (s.take 4).all Char.isDigit && s[4]? = some '-' ||
    (s.take 2).all Char.isDigit && s[2]? = some ':'

end PackageModel.Toml
