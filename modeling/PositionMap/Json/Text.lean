import PositionMap.Json.Reader

/-!
# Texts in a document

`readText` reads a text from behind its opening quotation mark and decodes its escapes. Characters
beyond 16 bits are escaped as a pair of surrogates; half a pair is refused.
-/

namespace PositionMap.Json

def hexDigit? (c : Char) : Option Nat :=
  if c.isDigit then some (c.toNat - '0'.toNat)
  else if 'a' ≤ c ∧ c ≤ 'f' then some (c.toNat - 'a'.toNat + 10)
  else if 'A' ≤ c ∧ c ≤ 'F' then some (c.toNat - 'A'.toNat + 10)
  else none

def hexNumber? (a b c d : Char) : Option Nat := do
  let a ← hexDigit? a
  let b ← hexDigit? b
  let c ← hexDigit? c
  let d ← hexDigit? d
  pure (((a * 16 + b) * 16 + c) * 16 + d)

def hexFault {α : Type} (text : List Char) : Outcome α :=
  if byteCount (text.take 4) < 4 then faultAt .endInText []
  else .error ⟨.invalidEscape, text, 4, true⟩

def readHex (text : List Char) : Outcome Nat :=
  match text with
  | a :: b :: c :: d :: rest =>
    match hexNumber? a b c d with
    | some n => .ok (n, rest)
    | none => hexFault text
  | _ => hexFault text

def isLeading (n : Nat) : Bool :=
  0xD800 ≤ n && n ≤ 0xDBFF

def isTrailing (n : Nat) : Bool :=
  0xDC00 ≤ n && n ≤ 0xDFFF

/-- The character that a pair of surrogates stands for. -/
def paired (leading trailing : Nat) : Char :=
  .ofNat (0x10000 + (leading - 0xD800) * 0x400 + (trailing - 0xDC00))

def readTrailing (leading : Nat) (text : List Char) : Outcome Char :=
  match text with
  | [] => faultAt .endInText []
  | '\\' :: [] => faultAt .endInText []
  | '\\' :: 'u' :: rest =>
    match readHex rest with
    | .error fault => .error fault
    | .ok (n, rest) =>
      if isTrailing n then .ok (paired leading n, rest) else faultAt .loneSurrogate rest
  | '\\' :: rest => faultIn .unfinishedSurrogate rest
  | _ => faultIn .unfinishedSurrogate text

/-- A character by its number, from behind `\u`. -/
def readCode (text : List Char) : Outcome Char :=
  match readHex text with
  | .error fault => .error fault
  | .ok (n, rest) =>
    if isTrailing n then faultAt .loneSurrogate rest
    else if isLeading n then readTrailing n rest
    else .ok (.ofNat n, rest)

def escaped? : Char → Option Char
  | '"' => some '"'
  | '\\' => some '\\'
  | '/' => some '/'
  | 'b' => some '\x08'
  | 'f' => some '\x0c'
  | 'n' => some '\n'
  | 'r' => some '\r'
  | 't' => some '\t'
  | _ => none

def readEscape (text : List Char) : Outcome Char :=
  match text with
  | [] => faultAt .endInText []
  | 'u' :: rest => readCode rest
  | c :: rest =>
    match escaped? c with
    | some c => .ok (c, rest)
    | none => faultIn .invalidEscape text

theorem readHex_shortens : Shortens readHex := by
  intro text value rest h
  unfold readHex hexFault at h
  split at h
  · split at h
    · cases h
      simp
      omega
    · split at h <;> cases h
  · split at h <;> cases h

theorem readTrailing_shortens (leading : Nat) : Shortens (readTrailing leading) := by
  intro text value rest h
  unfold readTrailing at h
  split at h
  · cases h
  · cases h
  · split at h
    · cases h
    · have := readHex_shortens _ _ _ ‹_›
      split at h
      · simp only [Except.ok.injEq, Prod.mk.injEq] at h
        rw [← h.2]
        exact Nat.le_succ_of_le (Nat.le_succ_of_le this)
      · cases h
  · cases h
  · cases h

theorem readCode_shortens : Shortens readCode := by
  intro text value rest h
  unfold readCode at h
  split at h
  · cases h
  · rename_i n after read
    have shorter := readHex_shortens _ _ _ read
    split at h
    · cases h
    · split at h
      · exact Nat.le_trans (readTrailing_shortens _ _ _ _ h) shorter
      · cases h
        exact shorter

theorem readEscape_shortens : Shortens readEscape := by
  intro text value rest h
  unfold readEscape at h
  split at h
  · cases h
  · exact Nat.le_succ_of_le (readCode_shortens _ _ _ h)
  · split at h <;> cases h
    simp

def readCharacters (text : List Char) : Outcome (List Char) :=
  match text with
  | [] => faultAt .endInText []
  | '"' :: rest => .ok ([], rest)
  | '\\' :: rest =>
    match read : readEscape rest with
    | .error fault => .error fault
    | .ok (c, rest') =>
      have : rest'.length ≤ rest.length := readEscape_shortens _ _ _ read
      match readCharacters rest' with
      | .error fault => .error fault
      | .ok (characters, rest) => .ok (c :: characters, rest)
  | c :: rest =>
    if c.toNat < 0x20 then faultIn .controlCharacter text
    else
      match readCharacters rest with
      | .error fault => .error fault
      | .ok (characters, rest) => .ok (c :: characters, rest)
termination_by text.length

def readText (text : List Char) : Outcome String :=
  match readCharacters text with
  | .error fault => .error fault
  | .ok (characters, rest) => .ok (.ofList characters, rest)

theorem readCharacters_shortens : Shortens readCharacters := by
  intro text
  fun_induction readCharacters text <;> intro value rest h <;> cases h <;> simp_all
  all_goals grind

theorem readText_shortens : Shortens readText := by
  intro text value rest h
  unfold readText at h
  split at h <;> cases h
  exact readCharacters_shortens _ _ _ ‹_›

end PositionMap.Json
