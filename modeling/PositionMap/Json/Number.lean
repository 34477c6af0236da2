import PositionMap.Json.Reader

/-!
# Numbers in a document

A number is read into a significand of at most 64 bits and a decimal exponent. A whole number that
fits is an integer; every other number is a double, made from significand and exponent by one
division or multiplication, and so not always the nearest double.
-/

namespace PositionMap.Json

inductive Numeral
  | integer (value : Int)
  | float (value : Float)

namespace Numeral

def found : Numeral → Found
  | integer value => .integer value
  | float value => .float value

end Numeral

/-- A number under construction: `significand · 10 ^ exponent`. It is full when the next digit did
not fit into the significand. -/
structure Scan where
  significand : Nat
  exponent : Int
  full : Bool

namespace Scan

def digit (c : Char) : Nat :=
  c.toNat - '0'.toNat

def fits (significand : Nat) : Bool :=
  significand < UInt64.size

/-- One digit in front of the point. Without room for it the number grows by its exponent. -/
def addWhole (scan : Scan) (c : Char) : Scan :=
  let next := 10 * scan.significand + digit c
  if scan.full || !fits next then ⟨scan.significand, scan.exponent + 1, true⟩
  else ⟨next, scan.exponent, false⟩

/-- One digit behind the point. Without room for it, it and all that follow are dropped. -/
def addPlace (scan : Scan) (c : Char) : Scan :=
  let next := 10 * scan.significand + digit c
  if scan.full || !fits next then ⟨scan.significand, scan.exponent, true⟩
  else ⟨next, scan.exponent - 1, false⟩

def ofWhole (digits : List Char) : Scan :=
  digits.foldl addWhole ⟨0, 0, false⟩

def withPlaces (scan : Scan) (digits : List Char) : Scan :=
  digits.foldl addPlace ⟨scan.significand, scan.exponent, false⟩

end Scan

def powerOfTen (exponent : Nat) : Float :=
  .ofScientific 1 false exponent

/-- The double made of a significand and an exponent, unless it is out of range. An exponent below
the range of doubles is worked off in steps. -/
def assemble (x : Float) (exponent : Int) : Option Float :=
  if 308 < exponent then
    if x == 0 then some x else none
  else if 0 ≤ exponent then
    let product := x * powerOfTen exponent.toNat
    if product.isInf then none else some product
  else if -308 ≤ exponent then some (x / powerOfTen (-exponent).toNat)
  else if x == 0 then some x
  else assemble (x / powerOfTen 308) (exponent + 308)
termination_by (-exponent).toNat

def signed (negative : Bool) (x : Float) : Float :=
  if negative then -x else x

def finishFloat (negative : Bool) (scan : Scan) (exponent : Int) (rest : List Char) :
    Outcome Numeral :=
  match assemble (.ofNat scan.significand) (scan.exponent + exponent) with
  | some x => .ok (.float (signed negative x), rest)
  | none => faultAt .numberOutOfRange rest

/-- The digits of an exponent; none once they leave the range of 31 bits, in front of the digits
not looked at. -/
def readExponentDigits (value : Nat) : List Char → Option Nat × List Char
  | [] => (some value, [])
  | c :: rest =>
    if c.isDigit then
      let next := 10 * value + Scan.digit c
      if 2 * next < UInt32.size then readExponentDigits next rest else (none, rest)
    else (some value, c :: rest)

def readExponent (negative : Bool) (scan : Scan) (text : List Char) : Outcome Numeral :=
  let (below, text) :=
    match text with
    | '+' :: rest => (false, rest)
    | '-' :: rest => (true, rest)
    | _ => (false, text)
  match text with
  | [] => faultAt .endInValue []
  | c :: _ =>
    if !c.isDigit then faultIn .invalidNumber text
    else
      match readExponentDigits 0 text with
      | (some value, rest) => finishFloat negative scan (if below then -value else value) rest
      | (none, rest) =>
        if scan.significand ≠ 0 ∧ !below then faultAt .numberOutOfRange rest
        else .ok (.float (signed negative 0), rest.dropWhile Char.isDigit)

def readTail (negative : Bool) (scan : Scan) (text : List Char) : Outcome Numeral :=
  match text with
  | 'e' :: rest | 'E' :: rest => readExponent negative scan rest
  | _ => finishFloat negative scan 0 text

def readPlaces (negative : Bool) (scan : Scan) (text : List Char) : Outcome Numeral :=
  match text with
  | [] => faultIn .endInValue []
  | c :: _ =>
    if c.isDigit then
      readTail negative (scan.withPlaces (text.takeWhile Char.isDigit))
        (text.dropWhile Char.isDigit)
    else faultIn .invalidNumber text

/-- A whole number without places and exponent: an integer if it fits into 64 bits, signed or
unsigned. Negative zero is a double. -/
def wholeNumeral (negative : Bool) (significand : Nat) : Numeral :=
  if !negative then .integer significand
  else if 0 < significand ∧ 2 * significand ≤ UInt64.size then .integer (-significand)
  else .float (-.ofNat significand)

def readFraction (negative : Bool) (scan : Scan) (text : List Char) : Outcome Numeral :=
  match text with
  | '.' :: rest => readPlaces negative scan rest
  | 'e' :: rest | 'E' :: rest => readExponent negative scan rest
  | _ =>
    if scan.full then finishFloat negative scan 0 text
    else .ok (wholeNumeral negative scan.significand, text)

def readUnsigned (negative : Bool) (text : List Char) : Outcome Numeral :=
  match text with
  | [] => faultAt .endInValue []
  | '0' :: rest =>
    match rest with
    | [] => readFraction negative ⟨0, 0, false⟩ rest
    | c :: _ =>
      if c.isDigit then faultIn .invalidNumber rest
      else readFraction negative ⟨0, 0, false⟩ rest
  | c :: _ =>
    if c.isDigit then
      readFraction negative (.ofWhole (text.takeWhile Char.isDigit)) (text.dropWhile Char.isDigit)
    else faultIn .invalidNumber text

def readNumeral (text : List Char) : Outcome Numeral :=
  match text with
  | '-' :: rest => readUnsigned true rest
  | _ => readUnsigned false text

/-! ## No reader returns more than it was given -/

theorem finishFloat_rest {negative : Bool} {scan : Scan} {exponent : Int} {text rest : List Char}
    {value : Numeral} (h : finishFloat negative scan exponent text = .ok (value, rest)) :
    rest = text := by
  unfold finishFloat at h
  split at h <;> cases h
  rfl

theorem readExponentDigits_shortens (value : Nat) (text : List Char) :
    (readExponentDigits value text).2.length ≤ text.length := by
  fun_induction readExponentDigits value text with
  | case1 => exact Nat.le_refl _
  | case2 value c rest digit next fits ih => exact Nat.le_succ_of_le ih
  | case3 => exact Nat.le_succ _
  | case4 => exact Nat.le_refl _

theorem readExponent_shortens (negative : Bool) (scan : Scan) :
    Shortens (readExponent negative scan) := by
  intro text value rest h
  unfold readExponent at h
  split at h
  rename_i below unsigned sign
  have shorter : unsigned.length ≤ text.length := by
    split at sign <;> cases sign <;> simp
  split at h
  · cases h
  rename_i c tail
  have digits := readExponentDigits_shortens 0 (c :: tail)
  split at h
  · cases h
  split at h
  · rename_i result
    rw [result] at digits
    rw [finishFloat_rest h]
    exact Nat.le_trans digits shorter
  · rename_i left result
    rw [result] at digits
    split at h
    · cases h
    · cases h
      exact Nat.le_trans (length_dropWhile_le _ left) (Nat.le_trans digits shorter)

theorem readTail_shortens (negative : Bool) (scan : Scan) : Shortens (readTail negative scan) := by
  intro text value rest h
  unfold readTail at h
  split at h
  · exact Nat.le_succ_of_le (readExponent_shortens _ _ _ _ _ h)
  · exact Nat.le_succ_of_le (readExponent_shortens _ _ _ _ _ h)
  · exact Nat.le_of_eq (congrArg List.length (finishFloat_rest h))

theorem readPlaces_shortens (negative : Bool) (scan : Scan) :
    Shortens (readPlaces negative scan) := by
  intro text value rest h
  unfold readPlaces at h
  split at h
  · cases h
  · split at h
    · exact Nat.le_trans (readTail_shortens _ _ _ _ _ h) (length_dropWhile_le _ _)
    · cases h

theorem readFraction_shortens (negative : Bool) (scan : Scan) :
    Shortens (readFraction negative scan) := by
  intro text value rest h
  unfold readFraction at h
  split at h
  · exact Nat.le_succ_of_le (readPlaces_shortens _ _ _ _ _ h)
  · exact Nat.le_succ_of_le (readExponent_shortens _ _ _ _ _ h)
  · exact Nat.le_succ_of_le (readExponent_shortens _ _ _ _ _ h)
  · split at h
    · exact Nat.le_of_eq (congrArg List.length (finishFloat_rest h))
    · cases h
      exact Nat.le_refl _

theorem readUnsigned_shortens (negative : Bool) : Shortens (readUnsigned negative) := by
  intro text value rest h
  unfold readUnsigned at h
  split at h
  · cases h
  · split at h
    · exact Nat.le_succ_of_le (readFraction_shortens _ _ _ _ _ h)
    · split at h
      · cases h
      · exact Nat.le_succ_of_le (readFraction_shortens _ _ _ _ _ h)
  · split at h
    · exact Nat.le_trans (readFraction_shortens _ _ _ _ _ h) (length_dropWhile_le _ _)
    · cases h

theorem readNumeral_shortens : Shortens readNumeral := by
  intro text value rest h
  unfold readNumeral at h
  split at h
  · exact Nat.le_succ_of_le (readUnsigned_shortens _ _ _ _ h)
  · exact readUnsigned_shortens _ _ _ _ h

end PositionMap.Json
