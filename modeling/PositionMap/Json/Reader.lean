import PositionMap.Json.Fault

/-!
# Reading from the front of a text

A reader takes the characters still to be read and returns a value and the rest, or a fault. Every
reader comes with the lemma that it never returns more text than it was given.
-/

namespace PositionMap.Json

abbrev Outcome (α : Type) := Except Fault (α × List Char)

abbrev Reader (α : Type) := List Char → Outcome α

def Outcome.mapValue {α β : Type} (f : α → β) : Outcome α → Outcome β
  | .ok (value, rest) => .ok (f value, rest)
  | .error fault => .error fault

def Shortens {α : Type} (read : Reader α) : Prop :=
  ∀ text value rest, read text = .ok (value, rest) → rest.length ≤ text.length

def Consumes {α : Type} (read : Reader α) : Prop :=
  ∀ text value rest, read text = .ok (value, rest) → rest.length < text.length

theorem Consumes.shortens {α : Type} {read : Reader α} (h : Consumes read) : Shortens read :=
  fun text value rest outcome => Nat.le_of_lt (h text value rest outcome)

def faultAt {α : Type} (cause : Cause) (rest : List Char) : Outcome α :=
  .error ⟨cause, rest, 0, true⟩

/-- A fault in the first byte of `rest`, which counts as read. -/
def faultIn {α : Type} (cause : Cause) (rest : List Char) : Outcome α :=
  .error ⟨cause, rest, 1, true⟩

def faultOfRecord {α : Type} (cause : Cause) (rest : List Char) : Outcome α :=
  .error ⟨cause, rest, 0, false⟩

def isSpace (c : Char) : Bool :=
  c = ' ' || c = '\t' || c = '\n' || c = '\r'

def skipSpace (text : List Char) : List Char :=
  text.dropWhile isSpace

theorem length_dropWhile_le (p : Char → Bool) (text : List Char) :
    (text.dropWhile p).length ≤ text.length :=
  (List.dropWhile_sublist p).length_le

theorem length_skipSpace_le (text : List Char) : (skipSpace text).length ≤ text.length :=
  length_dropWhile_le isSpace text

theorem length_of_skipSpace_eq_cons {text rest : List Char} {c : Char}
    (h : skipSpace text = c :: rest) : rest.length < text.length := by
  have := length_skipSpace_le text
  rw [h, List.length_cons] at this
  omega

/-- The given letters, each of which counts as read once it has been looked at. -/
def readWord : List Char → Reader Unit
  | [], text => .ok ((), text)
  | _ :: _, [] => faultAt .endInValue []
  | letter :: letters, c :: rest =>
    if c = letter then readWord letters rest else faultIn .expectedWord (c :: rest)

theorem shortens_of_mapValue {α β : Type} {read : Reader α} (shortens : Shortens read) {f : α → β}
    {text rest : List Char} {value : β} (h : (read text).mapValue f = .ok (value, rest)) :
    rest.length ≤ text.length := by
  unfold Outcome.mapValue at h
  split at h
  · cases h
    exact shortens _ _ _ ‹_›
  · cases h

theorem readWord_shortens (letters : List Char) : Shortens (readWord letters) := by
  induction letters with
  | nil =>
    intro text value rest h
    cases h
    exact Nat.le_refl _
  | cons letter letters ih =>
    intro text value rest h
    cases text with
    | nil => cases h
    | cons c text =>
      unfold readWord at h
      split at h
      · exact Nat.le_succ_of_le (ih text value rest h)
      · cases h

end PositionMap.Json
