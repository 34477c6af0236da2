import PositionMap.Json.Number
import PositionMap.Json.Text

/-!
# Single values of a wanted kind

Each reader here skips the space in front of a value and wants one kind of value. A value of
another kind is read to its end before it is reported, so that its own faults come first.
-/

namespace PositionMap.Json

def startsNumber (c : Char) : Bool :=
  c = '-' || c.isDigit

/-- The value at the front, by its kind. Lists and objects are not read. -/
def readFound (text : List Char) : Outcome Found :=
  match text with
  | [] => faultIn .endInValue []
  | '[' :: _ => .ok (.list, text)
  | '{' :: _ => .ok (.object, text)
  | 'n' :: rest => (readWord "ull".toList rest).mapValue fun _ => .null
  | 't' :: rest => (readWord "rue".toList rest).mapValue fun _ => .boolean true
  | 'f' :: rest => (readWord "alse".toList rest).mapValue fun _ => .boolean false
  | '"' :: rest => (readText rest).mapValue .text
  | c :: _ =>
    if startsNumber c then (readNumeral text).mapValue Numeral.found
    else faultIn .expectedValue text

def mismatch {α : Type} (expected : String) (text : List Char) : Outcome α :=
  match readFound text with
  | .error fault => .error fault
  | .ok (found, rest) => faultAt (.wrongType found expected) rest

def Numeral.toFloat : Numeral → Float
  | .integer value => .ofInt value
  | .float value => value

def readFloat : Reader Float := fun text =>
  match skipSpace text with
  | c :: rest =>
    if startsNumber c then (readNumeral (c :: rest)).mapValue Numeral.toFloat
    else mismatch "f64" (c :: rest)
  | [] => mismatch "f64" []

def countOf (value : Numeral) (rest : List Char) : Outcome UInt32 :=
  match value with
  | .float x => faultAt (.wrongType (.float x) "u32") rest
  | .integer n =>
    if 0 ≤ n ∧ n < UInt32.size then .ok (.ofNat n.toNat, rest)
    else faultAt (.wrongValue (.integer n) "u32") rest

def readCount : Reader UInt32 := fun text =>
  match skipSpace text with
  | c :: rest =>
    if startsNumber c then
      match readNumeral (c :: rest) with
      | .error fault => .error fault
      | .ok (value, rest) => countOf value rest
    else mismatch "u32" (c :: rest)
  | [] => mismatch "u32" []

def readFlag : Reader Bool := fun text =>
  match skipSpace text with
  | 't' :: rest => (readWord "rue".toList rest).mapValue fun _ => true
  | 'f' :: rest => (readWord "alse".toList rest).mapValue fun _ => false
  | text => mismatch "a boolean" text

def readString : Reader String := fun text =>
  match skipSpace text with
  | '"' :: rest => readText rest
  | text => mismatch "a string" text

def readOptional {α : Type} (read : Reader α) : Reader (Option α) := fun text =>
  match skipSpace text with
  | 'n' :: rest => (readWord "ull".toList rest).mapValue fun _ => none
  | _ => (read text).mapValue some

/-! ## No reader returns more than it was given -/

theorem mismatch_ne_ok {α : Type} {expected : String} {text rest : List Char} {value : α} :
    mismatch expected text ≠ .ok (value, rest) := by
  unfold mismatch
  split <;> exact nofun

theorem readFloat_shortens : Shortens readFloat := by
  intro text value rest h
  unfold readFloat at h
  split at h
  · rename_i c tail front
    split at h
    · exact Nat.le_trans (shortens_of_mapValue readNumeral_shortens h)
        (front ▸ length_skipSpace_le text)
    · exact absurd h mismatch_ne_ok
  · exact absurd h mismatch_ne_ok

theorem readCount_shortens : Shortens readCount := by
  intro text value rest h
  unfold readCount at h
  split at h
  · rename_i c tail front
    split at h
    · split at h
      · cases h
      · rename_i number after read
        unfold countOf at h
        split at h
        · cases h
        · split at h
          · cases h
            exact Nat.le_trans (readNumeral_shortens _ _ _ read) (front ▸ length_skipSpace_le text)
          · cases h
    · exact absurd h mismatch_ne_ok
  · exact absurd h mismatch_ne_ok

theorem readFlag_shortens : Shortens readFlag := by
  intro text value rest h
  unfold readFlag at h
  split at h
  · exact Nat.le_trans (shortens_of_mapValue (readWord_shortens _) h)
      (Nat.le_of_lt (length_of_skipSpace_eq_cons ‹_›))
  · exact Nat.le_trans (shortens_of_mapValue (readWord_shortens _) h)
      (Nat.le_of_lt (length_of_skipSpace_eq_cons ‹_›))
  · exact absurd h mismatch_ne_ok

theorem readString_shortens : Shortens readString := by
  intro text value rest h
  unfold readString at h
  split at h
  · exact Nat.le_trans (readText_shortens _ _ _ h) (Nat.le_of_lt (length_of_skipSpace_eq_cons ‹_›))
  · exact absurd h mismatch_ne_ok

theorem readOptional_shortens {α : Type} {read : Reader α} (shortens : Shortens read) :
    Shortens (readOptional read) := by
  intro text value rest h
  unfold readOptional at h
  split at h
  · exact Nat.le_trans (shortens_of_mapValue (readWord_shortens _) h)
      (Nat.le_of_lt (length_of_skipSpace_eq_cons ‹_›))
  · exact shortens_of_mapValue shortens h

end PositionMap.Json
