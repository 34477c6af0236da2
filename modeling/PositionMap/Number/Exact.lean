/-!
# Exact values and their rounding

Doubles are computed with as `Float`. Wherever one is written, rounded or measured, it is first
taken apart here: a finite double is exactly `± significand · 2 ^ exponent`. What is made of it is an
exact fraction, and `roundDiv` is the one place where that loses digits.
-/

namespace PositionMap.Number

/-! ## Rounding -/

/-- Where a quotient exactly halfway between two integers goes. -/
inductive Tie
  | even
  | up
  deriving DecidableEq, Repr

def roundDiv (tie : Tie) (num den : Nat) : Nat :=
  let floor := num / den
  let rest := num % den
  if 2 * rest < den then floor
  else if den < 2 * rest then floor + 1
  else
    match tie with
    | .even => floor + floor % 2
    | .up => floor + 1

/-- The fraction `m · 2 ^ q · 10 ^ j` as a numerator over a positive denominator. -/
def scaled (m : Nat) (q j : Int) : Nat × Nat :=
  (m <<< q.toNat * Nat.pow 10 j.toNat, 1 <<< (-q).toNat * Nat.pow 10 (-j).toNat)

/-! ## Doubles -/

/-- What a double stands for. A zero has the significand 0. -/
inductive Exact
  | notANumber
  | infinite (negative : Bool)
  | finite (negative : Bool) (significand : Nat) (exponent : Int)
  deriving DecidableEq, Repr

def exact (x : Float) : Exact :=
  match x.toModel.unpack with
  | .notANumber => .notANumber
  | .infinity sign => .infinite (sign == .negative)
  | .zero sign => .finite (sign == .negative) 0 0
  | .finite sign significand exponent _ => .finite (sign == .negative) significand exponent

/-- The lesser of two numbers; a missing number (NaN) leaves the other one. -/
def lesser (x y : Float) : Float :=
  if x.isNaN then y else if y < x then y else x

def greater (x y : Float) : Float :=
  if x.isNaN then y else if x < y then y else x

/-- The nearest 32-bit count, a half going up: negative numbers and NaN give 0, large ones the
largest count. -/
def nearestCount (x : Float) : UInt32 :=
  match exact x with
  | .notANumber => 0
  | .infinite negative => if negative then 0 else .ofNatClamp UInt32.size
  | .finite negative significand exponent =>
    if negative then 0
    else
      let (num, den) := scaled significand exponent 0
      .ofNatClamp (roundDiv .up num den)

/-! ## The length of a vector -/

/-- The correctly rounded square root of `square · 4 ^ exponent`. -/
def rootOf (square : Nat) (exponent : Int) : Float :=
  if positive : 0 < square then
    .ofModel <| .pack <|
      .sqrt .binary64 (.finite .positive square (2 * exponent) positive)
  else 0

/-- The distance of `(x, y)` from the origin. An infinite side makes it infinite, whatever the other
side is; otherwise a missing number is missing. -/
def hypotenuse (x y : Float) : Float :=
  match exact x, exact y with
  | .infinite _, _ | _, .infinite _ => .ofModel (.pack (.infinity .positive))
  | .notANumber, _ | _, .notANumber => .ofModel (.pack .notANumber)
  | .finite _ m p, .finite _ n q =>
    let unit := min p q
    let side (significand : Nat) (exponent : Int) : Nat :=
      significand <<< (exponent - unit).toNat
    rootOf (side m p * side m p + side n q * side n q) unit

end PositionMap.Number
