import PositionMap.Json.Skip

/-!
# Records and documents

A `Shape` names the members of a record and says how each of them is read. A record is written as
an object, its members in any order, or as a list of its members in the order of the shape. A
member that is not written keeps the value of the blank record, unless it is required.

A document is one value with nothing but space around it. What is wrong with it is reported by line
and column.
-/

namespace PositionMap.Json

/-- A member of a record: its value is read as an update of the record. -/
structure Member (σ : Type) where
  name : String
  required : Bool
  read : Reader (σ → σ)
  shortens : Shortens read

/-- A record type: its name in messages, whether names other than its members' are refused, its
members in order, and the record that has none of them written. -/
structure Shape (σ : Type) where
  name : String
  closed : Bool
  members : List (Member σ)
  blank : σ

namespace Member

def of {α σ : Type} (name : String) (read : Reader α) (shortens : Shortens read)
    (put : α → σ → σ) : Member σ :=
  ⟨name, false, fun text => (read text).mapValue put,
    fun _ _ _ h => shortens_of_mapValue shortens h⟩

def requiredOf {α σ : Type} (name : String) (read : Reader α) (shortens : Shortens read)
    (put : α → σ → σ) : Member σ :=
  { Member.of name read shortens put with required := true }

end Member

/-! ## Objects -/

def readName (text : List Char) : Outcome (Option String) :=
  match text with
  | '"' :: rest => (readText rest).mapValue some
  | _ => faultIn .keyNotText text

/-- The next name of an object, or none in front of the closing brace. -/
def readNextName (first : Bool) (text : List Char) : Outcome (Option String) :=
  match skipSpace text with
  | [] => faultIn .endInObject []
  | c :: rest =>
    if c = '\x7d' then .ok (none, c :: rest)
    else if first then readName (c :: rest)
    else if c = ',' then
      match skipSpace rest with
      | [] => faultIn .endInValue []
      | c :: rest => if c = '\x7d' then faultIn .trailingComma (c :: rest) else readName (c :: rest)
    else faultIn .expectedObjectEnd (c :: rest)

theorem readName_consumes : Consumes readName := by
  intro text value rest h
  unfold readName at h
  split at h
  · exact Nat.lt_succ_of_le (shortens_of_mapValue readText_shortens h)
  · cases h

/-- In front of the closing brace only space is read, and otherwise a name. -/
theorem readNextName_eq {first : Bool} {text rest : List Char} {name : Option String}
    (h : readNextName first text = .ok (name, rest)) :
    (name = none ∧ rest.length ≤ text.length) ∨ rest.length < text.length := by
  unfold readNextName at h
  split at h
  · cases h
  · have shorter := length_of_skipSpace_eq_cons ‹_›
    split at h
    · cases h
      exact .inl ⟨rfl, Nat.succ_le_of_lt shorter⟩
    · split at h
      · exact .inr (Nat.lt_of_lt_of_le (readName_consumes _ _ _ h) (Nat.succ_le_of_lt shorter))
      · split at h
        · split at h
          · cases h
          · have := length_of_skipSpace_eq_cons ‹_›
            split at h
            · cases h
            · exact .inr (Nat.lt_of_lt_of_le (readName_consumes _ _ _ h)
                (Nat.le_trans (Nat.succ_le_of_lt this) (Nat.le_of_lt shorter)))
        · cases h

theorem length_of_readNextName {first : Bool} {text rest : List Char} {name : String}
    (h : readNextName first text = .ok (some name, rest)) : rest.length < text.length := by
  obtain ⟨none, _⟩ | shorter := readNextName_eq h
  · cases none
  · exact shorter

theorem readNextName_shortens (first : Bool) : Shortens (readNextName first) := by
  intro text value rest h
  obtain ⟨_, shorter⟩ | shorter := readNextName_eq h
  · exact shorter
  · exact Nat.le_of_lt shorter

/-- What is left behind the end of an object, if it ends here. -/
def afterObject (text : List Char) : List Char :=
  match skipSpace text with
  | '}' :: rest => rest
  | rest => rest

namespace Shape

variable {σ : Type}

def member? (shape : Shape σ) (name : String) : Option (Member σ) :=
  shape.members.find? (·.name == name)

def missing? (shape : Shape σ) (seen : List String) : Option (Member σ) :=
  shape.members.find? fun member => member.required && !seen.contains member.name

/-- The members of an object from behind its opening brace or a member, and the closing brace. -/
def readMembers (shape : Shape σ) (first : Bool) (seen : List String) (record : σ)
    (text : List Char) : Outcome σ :=
  match next : readNextName first text with
  | .error fault => .error fault
  | .ok (none, rest) =>
    match shape.missing? seen with
    | some member => faultOfRecord (.missingMember member.name) rest
    | none => .ok (record, rest.drop 1)
  | .ok (some name, rest) =>
    have := length_of_readNextName next
    match shape.member? name with
    | some member =>
      if seen.contains name then faultOfRecord (.repeatedMember name) rest
      else
        match colon : readColon rest with
        | .error fault => .error fault
        | .ok (_, rest) =>
          have := readColon_consumes _ _ _ colon
          match value : member.read rest with
          | .error fault => .error fault
          | .ok (update, rest) =>
            have := member.shortens _ _ _ value
            readMembers shape false (name :: seen) (update record) rest
    | none =>
      if shape.closed then
        faultOfRecord (.unknownMember name (shape.members.map Member.name)) rest
      else
        match colon : readColon rest with
        | .error fault => .error fault
        | .ok (_, rest) =>
          have := readColon_consumes _ _ _ colon
          match value : skipValue rest with
          | .error fault => .error fault
          | .ok (_, rest) =>
            have := skipValue_shortens _ _ _ value
            readMembers shape false seen record rest
termination_by text.length

def readObject (shape : Shape σ) : Reader σ := fun text =>
  match shape.readMembers true [] shape.blank text with
  | .error fault => .error (fault.settle (afterObject fault.rest))
  | .ok result => .ok result

end Shape

/-! ## Lists -/

def readNextItem (first : Bool) (text : List Char) : Outcome Bool :=
  match skipSpace text with
  | [] => faultIn .endInList []
  | c :: rest =>
    if c = ']' then .ok (false, c :: rest)
    else if first then .ok (true, c :: rest)
    else if c = ',' then
      match skipSpace rest with
      | [] => faultIn .endInValue []
      | c :: rest =>
        if c = ']' then faultIn .trailingComma (c :: rest) else .ok (true, c :: rest)
    else faultIn .expectedListEnd (c :: rest)

theorem readNextItem_shortens (first : Bool) : Shortens (readNextItem first) := by
  intro text value rest h
  unfold readNextItem at h
  split at h
  · cases h
  · have shorter := length_of_skipSpace_eq_cons ‹_›
    split at h
    · cases h
      exact Nat.succ_le_of_lt shorter
    · split at h
      · cases h
        exact Nat.succ_le_of_lt shorter
      · split at h
        · split at h
          · cases h
          · have := length_of_skipSpace_eq_cons ‹_›
            split at h
            · cases h
            · cases h
              exact Nat.le_trans (Nat.succ_le_of_lt this) (Nat.le_of_lt shorter)
        · cases h

def readListEnd : Reader Unit := fun text =>
  match skipSpace text with
  | [] => faultIn .endInList []
  | ']' :: rest => .ok ((), rest)
  | ',' :: rest =>
    match skipSpace rest with
    | ']' :: rest => faultIn .trailingComma (']' :: rest)
    | rest => faultIn .trailingCharacters rest
  | rest => faultIn .trailingCharacters rest

theorem readListEnd_shortens : Shortens readListEnd := by
  intro text value rest h
  unfold readListEnd at h
  split at h
  · cases h
  · cases h
    exact Nat.le_of_lt (length_of_skipSpace_eq_cons ‹_›)
  · split at h <;> cases h
  · cases h

/-- What is left behind the end of a list, or behind a comma, if one of them is here. -/
def afterList (text : List Char) : List Char :=
  match skipSpace text with
  | ']' :: rest => rest
  | ',' :: rest => skipSpace rest
  | rest => rest

namespace Shape

variable {σ : Type}

/-- The items of a list, one for each of the members left, up to the closing bracket. -/
def readItems (shape : Shape σ) (count : Nat) (record : σ) :
    List (Member σ) → List Char → Outcome σ
  | [], text => .ok (record, text)
  | member :: members, text =>
    match readNextItem (count == 0) text with
    | .error fault => .error fault
    | .ok (false, rest) =>
      if member.required then
        faultOfRecord (.wrongLength count shape.name shape.members.length) rest
      else readItems shape count record members rest
    | .ok (true, rest) =>
      match member.read rest with
      | .error fault => .error fault
      | .ok (update, rest) => readItems shape (count + 1) (update record) members rest

def readList (shape : Shape σ) : Reader σ := fun text =>
  match shape.readItems 0 shape.blank shape.members text with
  | .error fault => .error (fault.settle (afterList fault.rest))
  | .ok (record, rest) => (readListEnd rest).mapValue fun _ => record

/-- A record, written as an object or as a list. -/
def read (shape : Shape σ) : Reader σ := fun text =>
  match skipSpace text with
  | '{' :: rest => shape.readObject rest
  | '[' :: rest => shape.readList rest
  | rest => mismatch shape.name rest

/-! ## No reader returns more than it was given -/

theorem readMembers_shortens (shape : Shape σ) (first : Bool) (seen : List String) (record : σ) :
    Shortens (shape.readMembers first seen record) := by
  intro text
  fun_induction readMembers shape first seen record text with
  | case1 => exact nofun
  | case2 => exact nofun
  | case3 first seen record text rest next =>
    intro value after h
    cases h
    have := readNextName_shortens _ _ _ _ next
    simp only [List.length_drop]
    omega
  | case4 => exact nofun
  | case5 => exact nofun
  | case6 => exact nofun
  | case7 =>
    rename_i ih
    intro value rest h
    have := ih _ _ h
    omega
  | case8 => exact nofun
  | case9 => exact nofun
  | case10 => exact nofun
  | case11 =>
    rename_i ih
    intro value rest h
    have := ih _ _ h
    omega

theorem readItems_shortens (shape : Shape σ) (members : List (Member σ)) (count : Nat)
    (record : σ) : Shortens (shape.readItems count record members) := by
  induction members generalizing count record with
  | nil =>
    intro text value rest h
    cases h
    exact Nat.le_refl _
  | cons member members ih =>
    intro text value rest h
    unfold readItems at h
    split at h
    · cases h
    · split at h
      · cases h
      · exact Nat.le_trans (ih _ _ _ _ _ h) (readNextItem_shortens _ _ _ _ ‹_›)
    · split at h
      · cases h
      · exact Nat.le_trans (ih _ _ _ _ _ h)
          (Nat.le_trans (member.shortens _ _ _ ‹_›) (readNextItem_shortens _ _ _ _ ‹_›))

theorem read_shortens (shape : Shape σ) : Shortens shape.read := by
  intro text value rest h
  unfold read at h
  split at h
  · unfold readObject at h
    split at h
    · cases h
    · cases h
      exact Nat.le_trans (readMembers_shortens _ _ _ _ _ _ _ ‹_›)
        (Nat.le_of_lt (length_of_skipSpace_eq_cons ‹_›))
  · unfold readList at h
    split at h
    · cases h
    · exact Nat.le_trans (shortens_of_mapValue readListEnd_shortens h)
        (Nat.le_trans (readItems_shortens _ _ _ _ _ _ _ ‹_›)
          (Nat.le_of_lt (length_of_skipSpace_eq_cons ‹_›)))
  · exact absurd h mismatch_ne_ok

end Shape

/-! ## Whole documents -/

def readWhole {α : Type} (read : Reader α) (text : List Char) : Except Fault α :=
  match read text with
  | .error fault => .error fault
  | .ok (value, rest) =>
    match skipSpace rest with
    | [] => .ok value
    | c :: rest => .error ⟨.trailingCharacters, c :: rest, 1, true⟩

def readDocument {α : Type} (read : Reader α) (document : String) : Except Complaint α :=
  match readWhole read document.toList with
  | .ok value => .ok value
  | .error fault => .error (fault.complaint document.toList)

end PositionMap.Json
