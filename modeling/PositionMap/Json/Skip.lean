import PositionMap.Json.Scalar

/-!
# Values that nobody asked for

A value under an unknown name is checked and skipped. The check is looser than reading: numbers may
have any size and surrogates need no partner. The open lists and objects are kept in a list of
brackets, innermost first, so no nesting is too deep.
-/

namespace PositionMap.Json

inductive Bracket
  | list
  | object
  deriving DecidableEq, Repr

namespace Bracket

def closing : Bracket → Char
  | list => ']'
  | object => '}'

def endCause : Bracket → Cause
  | list => .endInList
  | object => .endInObject

/-- Neither a comma nor the closing bracket follows a value. -/
def separatorCause : Bracket → Cause
  | list => .expectedListEnd
  | object => .expectedObjectEnd

end Bracket

/-! ## Numbers and texts -/

def skipDigits : Reader Unit
  | [] => faultAt .invalidNumber []
  | c :: rest =>
    if c.isDigit then .ok ((), rest.dropWhile Char.isDigit) else faultIn .invalidNumber (c :: rest)

def skipExponent : Reader Unit
  | '+' :: rest => skipDigits rest
  | '-' :: rest => skipDigits rest
  | text => skipDigits text

def skipTail : Reader Unit
  | 'e' :: rest => skipExponent rest
  | 'E' :: rest => skipExponent rest
  | text => .ok ((), text)

def skipFraction : Reader Unit
  | '.' :: rest =>
    match skipDigits rest with
    | .error fault => .error fault
    | .ok (_, rest) => skipTail rest
  | text => skipTail text

def skipUnsigned : Reader Unit
  | '0' :: c :: rest =>
    if c.isDigit then faultIn .invalidNumber (c :: rest) else skipFraction (c :: rest)
  | text =>
    match skipDigits text with
    | .error fault => .error fault
    | .ok (_, rest) => skipFraction rest

def skipEscape : Reader Unit
  | [] => faultAt .endInText []
  | 'u' :: rest => (readHex rest).mapValue fun _ => ()
  | c :: rest => if (escaped? c).isSome then .ok ((), rest) else faultIn .invalidEscape (c :: rest)

theorem skipDigits_consumes : Consumes skipDigits := by
  intro text value rest h
  unfold skipDigits at h
  split at h
  · cases h
  · split at h
    · cases h
      exact Nat.lt_succ_of_le (length_dropWhile_le _ _)
    · cases h

theorem skipDigits_shortens : Shortens skipDigits :=
  skipDigits_consumes.shortens

theorem skipExponent_shortens : Shortens skipExponent := by
  intro text value rest h
  unfold skipExponent at h
  split at h
  · exact Nat.le_succ_of_le (skipDigits_shortens _ _ _ h)
  · exact Nat.le_succ_of_le (skipDigits_shortens _ _ _ h)
  · exact skipDigits_shortens _ _ _ h

theorem skipTail_shortens : Shortens skipTail := by
  intro text value rest h
  unfold skipTail at h
  split at h
  · exact Nat.le_succ_of_le (skipExponent_shortens _ _ _ h)
  · exact Nat.le_succ_of_le (skipExponent_shortens _ _ _ h)
  · cases h
    exact Nat.le_refl _

theorem skipFraction_shortens : Shortens skipFraction := by
  intro text value rest h
  unfold skipFraction at h
  split at h
  · split at h
    · cases h
    · exact Nat.le_succ_of_le
        (Nat.le_trans (skipTail_shortens _ _ _ h) (skipDigits_shortens _ _ _ ‹_›))
  · exact skipTail_shortens _ _ _ h

theorem skipUnsigned_consumes : Consumes skipUnsigned := by
  intro text value rest h
  unfold skipUnsigned at h
  split at h
  · split at h
    · cases h
    · exact Nat.lt_succ_of_le (skipFraction_shortens _ _ _ h)
  · split at h
    · cases h
    · exact Nat.lt_of_le_of_lt (skipFraction_shortens _ _ _ h) (skipDigits_consumes _ _ _ ‹_›)

theorem skipEscape_shortens : Shortens skipEscape := by
  intro text value rest h
  unfold skipEscape at h
  split at h
  · cases h
  · exact Nat.le_succ_of_le (shortens_of_mapValue readHex_shortens h)
  · split at h
    · cases h
      simp
    · cases h

def skipText (text : List Char) : Outcome Unit :=
  match text with
  | [] => faultAt .endInText []
  | '"' :: rest => .ok ((), rest)
  | '\\' :: rest =>
    match skip : skipEscape rest with
    | .error fault => .error fault
    | .ok (_, after) =>
      have : after.length ≤ rest.length := skipEscape_shortens _ _ _ skip
      skipText after
  | c :: rest => if c.toNat < 0x20 then faultAt .controlCharacter (c :: rest) else skipText rest
termination_by text.length

theorem skipText_shortens : Shortens skipText := by
  intro text
  fun_induction skipText text <;> intro value rest h
  · cases h
  · cases h
    simp
  · cases h
  · rename_i shorter ih
    exact Nat.le_succ_of_le (Nat.le_trans (ih _ _ h) shorter)
  · cases h
  · rename_i ih
    exact Nat.le_succ_of_le (ih _ _ h)

def skipScalar : Reader Unit
  | [] => faultAt .endInValue []
  | 'n' :: rest => readWord "ull".toList rest
  | 't' :: rest => readWord "rue".toList rest
  | 'f' :: rest => readWord "alse".toList rest
  | '"' :: rest => skipText rest
  | '-' :: rest => skipUnsigned rest
  | c :: rest =>
    if c.isDigit then skipUnsigned (c :: rest) else faultIn .expectedValue (c :: rest)

theorem skipScalar_consumes : Consumes skipScalar := by
  intro text value rest h
  unfold skipScalar at h
  split at h
  · cases h
  · exact Nat.lt_succ_of_le (readWord_shortens _ _ _ _ h)
  · exact Nat.lt_succ_of_le (readWord_shortens _ _ _ _ h)
  · exact Nat.lt_succ_of_le (readWord_shortens _ _ _ _ h)
  · exact Nat.lt_succ_of_le (skipText_shortens _ _ _ h)
  · exact Nat.lt_succ_of_lt (skipUnsigned_consumes _ _ _ h)
  · split at h
    · exact skipUnsigned_consumes _ _ _ h
    · cases h

/-! ## Lists and objects -/

def readColon : Reader Unit := fun text =>
  match skipSpace text with
  | ':' :: rest => .ok ((), rest)
  | [] => faultAt .endInObject []
  | c :: rest => faultIn .expectedColon (c :: rest)

/-- What stands between a bracket or a comma and the next value: nothing in a list, a name and a
colon in an object. -/
def skipName (bracket : Bracket) : Reader Unit := fun text =>
  match bracket with
  | .list => .ok ((), text)
  | .object =>
    match skipSpace text with
    | '"' :: rest =>
      match skipText rest with
      | .error fault => .error fault
      | .ok (_, rest) => readColon rest
    | [] => faultAt .endInObject []
    | c :: rest => faultIn .keyNotText (c :: rest)

theorem readColon_consumes : Consumes readColon := by
  intro text value rest h
  unfold readColon at h
  split at h
  · cases h
    exact length_of_skipSpace_eq_cons ‹_›
  · cases h
  · cases h

theorem skipName_shortens (bracket : Bracket) : Shortens (skipName bracket) := by
  intro text value rest h
  unfold skipName at h
  split at h
  · cases h
    exact Nat.le_refl _
  · split at h
    · split at h
      · cases h
      · exact Nat.le_trans (readColon_consumes.shortens _ _ _ h)
          (Nat.le_trans (skipText_shortens _ _ _ ‹_›)
            (Nat.le_of_lt (length_of_skipSpace_eq_cons ‹_›)))
    · cases h
    · cases h

mutual

/-- A value inside the given brackets, and everything up to the end of the outermost one. -/
def skipValueIn (brackets : List Bracket) (text : List Char) : Outcome Unit :=
  match front : skipSpace text with
  | [] => faultIn .endInValue []
  | '[' :: rest =>
    have := length_of_skipSpace_eq_cons front
    skipOn .list false brackets rest
  | '{' :: rest =>
    have := length_of_skipSpace_eq_cons front
    skipOn .object false brackets rest
  | c :: rest =>
    match scalar : skipScalar (c :: rest) with
    | .error fault => .error fault
    | .ok (_, after) =>
      have : after.length < text.length :=
        Nat.lt_of_lt_of_le (skipScalar_consumes _ _ _ scalar) (length_of_skipSpace_eq_cons front)
      match brackets with
      | [] => .ok ((), after)
      | bracket :: outer => skipOn bracket true outer after
termination_by 2 * text.length
decreasing_by all_goals omega

/-- What follows the opening bracket or a value inside it, and everything up to the end of the
outermost bracket. A comma may only follow a value. -/
def skipOn (bracket : Bracket) (afterValue : Bool) (outer : List Bracket) (text : List Char) :
    Outcome Unit :=
  match front : skipSpace text with
  | [] => faultIn bracket.endCause []
  | c :: rest =>
    have := length_of_skipSpace_eq_cons front
    if afterValue ∧ c = ',' then
      match name : skipName bracket rest with
      | .error fault => .error fault
      | .ok (_, after) =>
        have := skipName_shortens _ _ _ _ name
        skipValueIn (bracket :: outer) after
    else if c = bracket.closing then
      match outer with
      | [] => .ok ((), rest)
      | bracket :: outer => skipOn bracket true outer rest
    else if afterValue then faultIn bracket.separatorCause (c :: rest)
    else
      match name : skipName bracket (c :: rest) with
      | .error fault => .error fault
      | .ok (_, after) =>
        have : after.length ≤ text.length :=
          Nat.le_trans (skipName_shortens _ _ _ _ name) (length_of_skipSpace_eq_cons front)
        skipValueIn (bracket :: outer) after
termination_by 2 * text.length + 1
decreasing_by all_goals omega

end

mutual

theorem skipValueIn_shortens (brackets : List Bracket) (text : List Char) (value : Unit)
    (rest : List Char) (h : skipValueIn brackets text = .ok (value, rest)) :
    rest.length ≤ text.length := by
  unfold skipValueIn at h
  split at h
  · cases h
  · have := length_of_skipSpace_eq_cons ‹_›
    have := skipOn_shortens _ _ _ _ _ _ h
    omega
  · have := length_of_skipSpace_eq_cons ‹_›
    have := skipOn_shortens _ _ _ _ _ _ h
    omega
  · have shorter := length_of_skipSpace_eq_cons ‹_›
    split at h
    · cases h
    · have := Nat.lt_of_lt_of_le (skipScalar_consumes _ _ _ ‹_›) (Nat.succ_le_of_lt shorter)
      split at h
      · cases h
        omega
      · have := skipOn_shortens _ _ _ _ _ _ h
        omega
termination_by 2 * text.length

theorem skipOn_shortens (bracket : Bracket) (afterValue : Bool) (outer : List Bracket)
    (text : List Char) (value : Unit) (rest : List Char)
    (h : skipOn bracket afterValue outer text = .ok (value, rest)) :
    rest.length ≤ text.length := by
  unfold skipOn at h
  split at h
  · cases h
  · have shorter := length_of_skipSpace_eq_cons ‹_›
    split at h
    · split at h
      · cases h
      · have := skipName_shortens _ _ _ _ ‹_›
        have := skipValueIn_shortens _ _ _ _ h
        omega
    · split at h
      · split at h
        · cases h
          omega
        · have := skipOn_shortens _ _ _ _ _ _ h
          omega
      · split at h
        · cases h
        · split at h
          · cases h
          · have := Nat.le_trans (skipName_shortens _ _ _ _ ‹_›) (Nat.succ_le_of_lt shorter)
            have := skipValueIn_shortens _ _ _ _ h
            omega
termination_by 2 * text.length + 1

end

def skipValue (text : List Char) : Outcome Unit :=
  skipValueIn [] text

theorem skipValue_shortens : Shortens skipValue :=
  skipValueIn_shortens []

end PositionMap.Json
