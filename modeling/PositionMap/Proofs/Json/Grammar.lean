import PositionMap.Json.Record

/-! # JSON texts

What a JSON text is, said without a reader: the forms of numbers and texts, and the values that are
written with them. `Writes v w` says that the characters `w` are a way to write the value `v`; blanks
and escapes leave a choice. `Gives` compares an outcome of reading with the value that is to be read.
-/

namespace PositionMap.Json

/-! ## Numbers -/

def Digits (w : List Char) : Prop :=
  w ≠ [] ∧ ∀ c ∈ w, c.isDigit = true

/-- The digits in front of the point, without a zero in front of others. -/
inductive WholePart : List Char → Prop
  | zero : WholePart ['0']
  | digits {c : Char} {w : List Char} : c ≠ '0' → Digits (c :: w) → WholePart (c :: w)

inductive Places : List Char → Prop
  | none : Places []
  | some {w : List Char} : Digits w → Places ('.' :: w)

/-- The sign of an exponent, which is positive without one. -/
inductive ExponentSign : List Char → Bool → Prop
  | none : ExponentSign [] false
  | plus : ExponentSign ['+'] false
  | minus : ExponentSign ['-'] true

inductive Exponent : List Char → Prop
  | none : Exponent []
  | some {letter : Char} {sign w : List Char} {below : Bool} : letter = 'e' ∨ letter = 'E' →
      ExponentSign sign below → Digits w → Exponent (letter :: (sign ++ w))

inductive Unsigned : List Char → Prop
  | mk {whole places exponent : List Char} : WholePart whole → Places places → Exponent exponent →
      Unsigned (whole ++ (places ++ exponent))

inductive IsNumber : List Char → Prop
  | unsigned {w : List Char} : Unsigned w → IsNumber w
  | negative {w : List Char} : Unsigned w → IsNumber ('-' :: w)

def natural (digits : List Char) : Nat :=
  digits.foldl (fun n c => 10 * n + Scan.digit c) 0

/-! ## Texts -/

def escapes : List (Char × Char) :=
  [('"', '"'), ('\\', '\\'), ('/', '/'), ('b', '\x08'), ('f', '\x0c'), ('n', '\n'), ('r', '\r'),
    ('t', '\t')]

def isPlain (c : Char) : Bool :=
  0x20 ≤ c.toNat && c ≠ '"' && c ≠ '\\'

/-- What may stand between quotation marks. -/
inductive IsText : List Char → Prop
  | nil : IsText []
  | plain {c : Char} {w : List Char} : isPlain c = true → IsText w → IsText (c :: w)
  | escape {letter c : Char} {w : List Char} : (letter, c) ∈ escapes → IsText w →
      IsText ('\\' :: letter :: w)
  | code {a b c d : Char} {n : Nat} {w : List Char} : hexNumber? a b c d = some n → IsText w →
      IsText ('\\' :: 'u' :: a :: b :: c :: d :: w)

/-- The characters that are meant. A surrogate only has a meaning together with its other half. -/
inductive Spells : List Char → List Char → Prop
  | nil : Spells [] []
  | plain {c : Char} {w t : List Char} : isPlain c = true → Spells w t → Spells (c :: w) (c :: t)
  | escape {letter c : Char} {w t : List Char} : (letter, c) ∈ escapes → Spells w t →
      Spells ('\\' :: letter :: w) (c :: t)
  | code {a b c d : Char} {n : Nat} {w t : List Char} : hexNumber? a b c d = some n →
      isLeading n = false → isTrailing n = false → Spells w t →
      Spells ('\\' :: 'u' :: a :: b :: c :: d :: w) (.ofNat n :: t)
  | pair {a b c d e f g h : Char} {m n : Nat} {w t : List Char} : hexNumber? a b c d = some m →
      isLeading m = true → hexNumber? e f g h = some n → isTrailing n = true → Spells w t →
      Spells ('\\' :: 'u' :: a :: b :: c :: d :: '\\' :: 'u' :: e :: f :: g :: h :: w)
        (paired m n :: t)

/-- What is written between quotation marks: a text, or none when half a pair of surrogates stands
alone in it. -/
inductive Quoted : Option String → List Char → Prop
  | text {w t : List Char} : Spells w t → Quoted (some (.ofList t)) w
  | broken {w : List Char} : IsText w → (∀ t, ¬ Spells w t) → Quoted none w

/-! ## Values -/

/-- A value as it is told by a text. A number keeps its spelling. -/
inductive Value
  | null
  | boolean (value : Bool)
  | number (spelled : List Char)
  | text (value? : Option String)
  | list (items : List Value)
  | object (members : List (Option String × Value))

abbrev Members := List (Option String × Value)

def Space (w : List Char) : Prop :=
  ∀ c ∈ w, isSpace c = true

inductive Heading : Option String → List Char → Prop
  | mk {name? : Option String} {before w after : List Char} : Space before → Quoted name? w →
      Space after → Heading name? (before ++ '"' :: (w ++ '"' :: (after ++ [':'])))

mutual

inductive Writes : Value → List Char → Prop
  | null : Writes .null ['n', 'u', 'l', 'l']
  | yes : Writes (.boolean true) ['t', 'r', 'u', 'e']
  | no : Writes (.boolean false) ['f', 'a', 'l', 's', 'e']
  | number {w : List Char} : IsNumber w → Writes (.number w) w
  | text {value? : Option String} {w : List Char} : Quoted value? w →
      Writes (.text value?) ('"' :: (w ++ ['"']))
  | noItems {w : List Char} : Space w → Writes (.list []) ('[' :: (w ++ [']']))
  | list {vs : List Value} {w : List Char} : WritesItems vs w →
      Writes (.list vs) ('[' :: (w ++ [']']))
  | noMembers {w : List Char} : Space w → Writes (.object []) ('{' :: (w ++ ['}']))
  | object {ms : Members} {w : List Char} : WritesMembers ms w →
      Writes (.object ms) ('{' :: (w ++ ['}']))

inductive WritesPadded : Value → List Char → Prop
  | mk {v : Value} {before w after : List Char} : Space before → Writes v w → Space after →
      WritesPadded v (before ++ (w ++ after))

inductive WritesItems : List Value → List Char → Prop
  | one {v : Value} {w : List Char} : WritesPadded v w → WritesItems [v] w
  | more {v : Value} {vs : List Value} {w ws : List Char} : WritesPadded v w → WritesItems vs ws →
      WritesItems (v :: vs) (w ++ ',' :: ws)

inductive WritesMembers : Members → List Char → Prop
  | one {name? : Option String} {v : Value} {heading w : List Char} : Heading name? heading →
      WritesPadded v w → WritesMembers [(name?, v)] (heading ++ w)
  | more {name? : Option String} {v : Value} {ms : Members} {heading w ws : List Char} :
      Heading name? heading → WritesPadded v w → WritesMembers ms ws →
      WritesMembers ((name?, v) :: ms) (heading ++ (w ++ ',' :: ws))

end

/-- The text is one value and nothing else. -/
def Tells (document : String) (v : Value) : Prop :=
  WritesPadded v document.toList

def valuesOf (name : String) (ms : Members) : List Value :=
  ms.filterMap fun member => if member.1 = some name then some member.2 else none

/-! ## Characters and blanks -/

variable {before w rest : List Char} {c : Char}

theorem ne_of_holds {p : Char → Bool} (holds : p c = true) {other : Char}
    (fails : p other = false) : c ≠ other := by
  rintro rfl
  rw [holds] at fails
  contradiction

theorem space_nil : Space [] :=
  nofun

theorem skipSpace_append (space : Space before) (rest : List Char) :
    skipSpace (before ++ rest) = skipSpace rest :=
  List.dropWhile_append_of_pos space

theorem skipSpace_cons (visible : isSpace c = false) (rest : List Char) :
    skipSpace (c :: rest) = c :: rest :=
  List.dropWhile_cons_of_neg (by simp [visible])

/-- Behind blanks, a character that is none. -/
theorem skipSpace_eq_cons (space : Space before) (visible : isSpace c = false) (rest : List Char) :
    skipSpace (before ++ c :: rest) = c :: rest := by
  rw [skipSpace_append space, skipSpace_cons visible]

/-- Digits alone are a number. -/
theorem isNumber_of_digits (notZero : c ≠ '0') (digits : ∀ d ∈ c :: w, d.isDigit = true) :
    IsNumber (c :: w) := by
  have whole := WholePart.digits notZero ⟨List.cons_ne_nil c w, digits⟩
  have unsigned := Unsigned.mk whole .none .none
  rw [List.append_nil, List.append_nil] at unsigned
  exact .unsigned unsigned

theorem Writes.padded {v : Value} (writes : Writes v w) : WritesPadded v w := by
  have padded := WritesPadded.mk space_nil writes space_nil
  rwa [List.append_nil] at padded

theorem tells_of_writes {document : String} {v : Value} (writes : Writes v w)
    (spelled : document.toList = w) : Tells document v := by
  rw [Tells, spelled]
  exact writes.padded

theorem enclosed_append (opening closing : Char) (w rest : List Char) :
    (opening :: (w ++ [closing])) ++ rest = opening :: (w ++ closing :: rest) := by
  simp

/-! ## What may follow -/

def extendsNumber (c : Char) : Bool :=
  c.isDigit || c = '.' || c = 'e' || c = 'E'

def Ends (rest : List Char) : Prop :=
  ∀ c tail, rest = c :: tail → extendsNumber c = false

theorem ends_nil : Ends [] := by
  intro c tail cons
  cases cons

theorem ends_cons (other : extendsNumber c = false) (rest : List Char) : Ends (c :: rest) := by
  intro first tail cons
  cases cons
  exact other

theorem extendsNumber_of_isSpace (space : isSpace c = true) : extendsNumber c = false := by
  simp only [isSpace, Bool.or_eq_true, decide_eq_true_eq] at space
  rcases space with ((rfl | rfl) | rfl) | rfl <;> decide

theorem Ends.after (space : Space before) (ends : Ends rest) : Ends (before ++ rest) := by
  cases before with
  | nil => exact ends
  | cons c before => exact ends_cons (extendsNumber_of_isSpace (space c List.mem_cons_self)) _

/-! ## Outcomes -/

/-- The outcome is the value with the rest left, or any fault if there is no value. -/
def Gives {α : Type} (outcome : Outcome α) (value? : Option α) (rest : List Char) : Prop :=
  match value? with
  | some value => outcome = .ok (value, rest)
  | none => ∃ fault, outcome = .error fault

variable {α β : Type} {outcome : Outcome α} {value? : Option α}

theorem Gives.cases (gives : Gives outcome value? rest) :
    (∃ fault, outcome = .error fault ∧ value? = none) ∨
      ∃ value, outcome = .ok (value, rest) ∧ value? = some value := by
  cases value? with
  | none =>
    obtain ⟨fault, refused⟩ := gives
    exact .inl ⟨fault, refused, rfl⟩
  | some value => exact .inr ⟨value, gives, rfl⟩

theorem Gives.map (gives : Gives outcome value? rest) (f : α → β) :
    Gives (outcome.mapValue f) (value?.map f) rest := by
  rcases gives.cases with ⟨fault, rfl, rfl⟩ | ⟨value, rfl, rfl⟩
  · exact ⟨fault, rfl⟩
  · rfl

end PositionMap.Json
