import PositionMap.Number.Exact

/-!
# Numbers as text

A double `significand · 2 ^ exponent` is read back from every decimal in its rounding interval:
the numbers nearer to it than to its neighbours, and the two ends when the significand is even.
`shortest` looks for the coarsest decimal grid with a point in that interval and takes the point
nearest to the double. A point of a grid is also a point of every finer grid, so no decimal with
fewer digits reads back.

A double is written in three ways: `plain` with the fewest digits that read back, `fixed` with a given
number of places, and `scientific` with a given number of places and an exponent. A `Layout` fixes
what `plain` leaves open.
-/

namespace PositionMap.Number

/-! ## Decimals -/

/-- The decimal number `digits · 10 ^ exponent`. -/
structure Decimal where
  digits : Nat
  exponent : Int
  deriving DecidableEq, Repr

namespace Decimal

/-- Half of the gap below a double, in quarters of its unit: the gap is narrower at a power of two,
except at the foot of the range. -/
def slackBelow (significand : Nat) (exponent : Int) : Nat :=
  if significand = 1 <<< 52 ∧ -1074 < exponent then 1 else 2

/-- The point of the grid `10 ^ t` that reads back as the double, if there is one. -/
def onGrid? (tie : Tie) (significand : Nat) (exponent t : Int) : Option Decimal :=
  let (num, den) := scaled 1 (exponent - 2) (-t)
  let low := (4 * significand - slackBelow significand exponent) * num
  let high := (4 * significand + 2) * num
  let inside (point : Nat) : Bool :=
    if significand % 2 = 0 then low ≤ point * den ∧ point * den ≤ high
    else low < point * den ∧ point * den < high
  let value := 4 * significand * num
  [roundDiv tie value den, value / den, value / den + 1].find? inside |>.map (⟨·, t⟩)

def exactly (significand : Nat) (exponent : Int) : Decimal :=
  ⟨significand <<< exponent.toNat * Nat.pow 5 (-exponent).toNat, min exponent 0⟩

/-- An exponent `t` with `significand · 2 ^ exponent < 10 ^ t`, at most two above the least one. -/
def ceiling (significand : Nat) (exponent : Int) : Int :=
  (significand.log2 + 1 + exponent) * 30103 / 100000 + 1

/-- The decimal with the fewest digits that reads back as the double, nearest to it among those.
Seventeen digits always suffice, so the search ends with a grid; the exact decimal stands behind
it. -/
def shortest (tie : Tie) (significand : Nat) (exponent : Int) : Decimal :=
  let top := ceiling significand exponent
  ((List.range 24).findSome? fun (i : Nat) => onGrid? tie significand exponent (top - i)).getD
    (exactly significand exponent)

/-- The decimal with `places + 1` digits nearest to a positive double. -/
def withPlaces (tie : Tie) (places : Nat) (significand : Nat) (exponent : Int) : Decimal :=
  let top := ceiling significand exponent - places
  let least := Nat.pow 10 places
  let round (t : Int) : Option Decimal :=
    let (num, den) := scaled significand exponent (-t)
    if num < least * den then none
    else
      let digits := roundDiv tie num den
      some (if digits = 10 * least then ⟨least, t + 1⟩ else ⟨digits, t⟩)
  ((List.range 4).findSome? fun (i : Nat) => round (top - i)).getD (exactly significand exponent)

end Decimal

/-! ## Layouts -/

structure Layout where
  tie : Tie
  /-- Whether a number whose leading digit stands at `10 ^ place` is written without an exponent. -/
  positional : Int → Bool
  /-- What follows a whole number written without an exponent. -/
  wholeEnd : String

def signText (negative : Bool) : String :=
  if negative then "-" else ""

def padded (width n : Nat) : String :=
  let digits := toString n
  String.ofList (List.replicate (width - digits.length) '0') ++ digits

def pointed (places n : Nat) : String :=
  if places = 0 then toString n
  else
    let unit := Nat.pow 10 places
    toString (n / unit) ++ "." ++ padded places (n % unit)

namespace Decimal

/-- The exponent of the power of ten at which the first digit stands. -/
def place (d : Decimal) : Int :=
  d.exponent + (toString d.digits).length - 1

def positionalText (wholeEnd : String) (d : Decimal) : String :=
  if 0 ≤ d.exponent then toString (d.digits * Nat.pow 10 d.exponent.toNat) ++ wholeEnd
  else pointed (-d.exponent).toNat d.digits

def scientificText (plus : String) (d : Decimal) : String :=
  let places := (toString d.digits).length - 1
  let place := d.place
  pointed places d.digits ++ "e" ++ (if place < 0 then "-" else plus) ++ toString place.natAbs

end Decimal

namespace Layout

/-- Text shown to people: never an exponent, and whole numbers without a point. -/
def shown : Layout := ⟨.up, fun _ => true, ""⟩

/-- Numbers quoted in the complaints about a document: an exponent outside `1e-5 … 1e16`, and a
point in every number without one. -/
def quoted : Layout := ⟨.even, fun place => -5 ≤ place && place < 16, ".0"⟩

def text (layout : Layout) (d : Decimal) : String :=
  if layout.positional d.place then d.positionalText layout.wholeEnd else d.scientificText "+"

end Layout

def plain (layout : Layout) (x : Float) : String :=
  match exact x with
  | .notANumber => "NaN"
  | .infinite negative => signText negative ++ "inf"
  | .finite negative significand exponent =>
    signText negative ++
      if significand = 0 then "0" ++ layout.wholeEnd
      else layout.text (.shortest layout.tie significand exponent)

/-- The exact value rounded to `places` decimals, a half going to the even neighbour. -/
def fixed (places : Nat) (x : Float) : String :=
  match exact x with
  | .notANumber => "NaN"
  | .infinite negative => signText negative ++ "inf"
  | .finite negative significand exponent =>
    let (num, den) := scaled significand exponent places
    signText negative ++ pointed places (roundDiv .even num den)

def scientific (places : Nat) (x : Float) : String :=
  match exact x with
  | .notANumber => "NaN"
  | .infinite negative => signText negative ++ "inf"
  | .finite negative significand exponent =>
    signText negative ++
      if significand = 0 then pointed places 0 ++ "e0"
      else (Decimal.withPlaces .even places significand exponent).scientificText ""

def shown (x : Float) : String :=
  plain .shown x

end PositionMap.Number
