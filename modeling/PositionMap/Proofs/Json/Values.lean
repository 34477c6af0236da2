import PositionMap.Proofs.Json.Skipping

/-! # Written values are read

What a value means where a number, a count, a flag or a text is wanted, and that each reader reads it so,
wherever the value stands. What a number means depends on its spelling alone.
-/

namespace PositionMap.Json

variable {α β : Type} {read : Reader α} {meaning : Value → Option α}
variable {c : Char} {text w rest : List Char}

/-! ## Meanings -/

namespace Value

def float? : Value → Option Float
  | .number spelled => (numeral? spelled).map Numeral.toFloat
  | _ => none

/-- A number that is written with digits alone and has at most 32 bits. -/
def count? : Value → Option UInt32
  | .number spelled =>
    if spelled.all Char.isDigit ∧ natural spelled < UInt32.size then
      some (.ofNat (natural spelled))
    else none
  | _ => none

def flag? : Value → Option Bool
  | .boolean value => some value
  | _ => none

def string? : Value → Option String
  | .text value? => value?
  | _ => none

def optional? (meaning : Value → Option α) : Value → Option (Option α)
  | .null => some none
  | v => (meaning v).map some

end Value

/-- Wherever a value is written, the reader reads what it means, and refuses it if it means nothing. -/
def Reads (read : Reader α) (meaning : Value → Option α) : Prop :=
  ∀ (v : Value) (before w rest : List Char), Space before → Writes v w → Ends rest →
    Gives (read (before ++ (w ++ rest))) (meaning v) rest

theorem Reads.map (reads : Reads read meaning) (f : α → β) :
    Reads (fun text => (read text).mapValue f) (fun v => (meaning v).map f) :=
  fun v before w rest space writes ends => (reads v before w rest space writes ends).map f

/-! ## Readers of single values -/

theorem mismatch_refuses (expected : String) (text : List Char) :
    ∃ fault, (mismatch expected text : Outcome α) = .error fault := by
  cases outcome : (mismatch expected text : Outcome α) with
  | error fault => exact ⟨fault, rfl⟩
  | ok result => exact absurd outcome mismatch_ne_ok

theorem readFloat_refuses (front : skipSpace text = c :: rest) (other : startsNumber c = false) :
    ∃ fault, readFloat text = .error fault := by
  simp only [readFloat, front, other]
  exact mismatch_refuses "f64" (c :: rest)

theorem reads_float : Reads readFloat Value.float? := by
  intro v before w rest space writes ends
  have front := writes.skipSpace_eq space rest
  cases writes with
  | number number =>
    have gives := (gives_numeral number ends).map Numeral.toFloat
    obtain ⟨c, tail, rfl, starts⟩ := number.exists_cons
    simp only [List.cons_append] at front gives
    simp only [List.cons_append, readFloat, front, starts, if_true]
    exact gives
  | _ => exact readFloat_refuses front (by decide)

theorem readCount_refuses (front : skipSpace text = c :: rest) (other : startsNumber c = false) :
    ∃ fault, readCount text = .error fault := by
  simp only [readCount, front, other]
  exact mismatch_refuses "u32" (c :: rest)

def countFrom : Outcome Numeral → Outcome UInt32
  | .error fault => .error fault
  | .ok (numeral, rest) => countOf numeral rest

theorem readCount_eq (front : skipSpace text = c :: rest) (starts : startsNumber c = true) :
    readCount text = countFrom (readNumeral (c :: rest)) := by
  unfold readCount
  rw [front]
  exact if_pos starts

theorem numeral?_of_count (number : IsNumber w)
    (count : w.all Char.isDigit ∧ natural w < UInt32.size) :
    numeral? w = some (.integer (natural w)) := by
  have digits : ∀ c ∈ w, c.isDigit = true := List.all_eq_true.mp count.1
  have small : natural w < UInt64.size := Nat.lt_trans count.2 (by decide)
  exact numeral?_of_digits (number.wholePart digits) small

/-- Only the spelling of a number decides whether it is a count. -/
theorem gives_countOf (number : IsNumber w) {numeral : Numeral} (told : numeral? w = some numeral)
    (rest : List Char) : Gives (countOf numeral rest) (Value.count? (.number w)) rest := by
  have spelled : Value.count? (.number w) =
      if w.all Char.isDigit ∧ natural w < UInt32.size then some (.ofNat (natural w)) else none := rfl
  rw [spelled]
  by_cases count : w.all Char.isDigit ∧ natural w < UInt32.size
  · rw [if_pos count]
    cases told.symm.trans (numeral?_of_count number count)
    have range : (0 : Int) ≤ natural w ∧ (natural w : Int) < UInt32.size := by omega
    simp only [countOf, if_pos range, Int.toNat_natCast]
    rfl
  · rw [if_neg count]
    cases numeral with
    | float x => exact ⟨_, rfl⟩
    | integer n =>
      have outside : ¬ (0 ≤ n ∧ n < UInt32.size) := by
        rintro ⟨positive, small⟩
        rcases of_numeral?_integer number told with negative | ⟨digits, rfl⟩
        · omega
        · exact count ⟨List.all_eq_true.mpr digits.2, by omega⟩
      exact ⟨_, if_neg outside⟩

theorem reads_count : Reads readCount Value.count? := by
  intro v before w rest space writes ends
  have front := writes.skipSpace_eq space rest
  cases writes with
  | number number =>
    have counted : readCount (before ++ (w ++ rest)) = countFrom (readNumeral (w ++ rest)) := by
      obtain ⟨c, tail, rfl, starts⟩ := number.exists_cons
      exact readCount_eq front starts
    rcases (gives_numeral number ends).cases with ⟨fault, refused, told⟩ | ⟨numeral, read, told⟩
    · have none : Value.count? (.number w) = none :=
        if_neg fun count => by cases told.symm.trans (numeral?_of_count number count)
      rw [counted, refused, none]
      exact ⟨fault, rfl⟩
    · rw [counted, read]
      exact gives_countOf number told rest
  | _ => exact readCount_refuses front (by decide)

theorem readFlag_refuses (front : skipSpace text = c :: rest) (notTrue : c ≠ 't')
    (notFalse : c ≠ 'f') : ∃ fault, readFlag text = .error fault := by
  unfold readFlag
  rw [front]
  split
  · rename_i cons
    exact absurd (List.cons.inj cons).1 notTrue
  · rename_i cons
    exact absurd (List.cons.inj cons).1 notFalse
  · exact mismatch_refuses _ _

theorem reads_flag : Reads readFlag Value.flag? := by
  intro v before w rest space writes ends
  have front := writes.skipSpace_eq space rest
  cases writes with
  | yes =>
    unfold readFlag
    rw [front]
    rfl
  | no =>
    unfold readFlag
    rw [front]
    rfl
  | number number =>
    obtain ⟨c, tail, rfl, starts⟩ := number.exists_cons
    exact readFlag_refuses front (ne_of_holds starts (by decide)) (ne_of_holds starts (by decide))
  | _ => exact readFlag_refuses front (by decide) (by decide)

theorem readString_refuses (front : skipSpace text = c :: rest) (notText : c ≠ '"') :
    ∃ fault, readString text = .error fault := by
  unfold readString
  rw [front]
  split
  · rename_i cons
    exact absurd (List.cons.inj cons).1 notText
  · exact mismatch_refuses _ _

theorem reads_string : Reads readString Value.string? := by
  intro v before w rest space writes ends
  have front := writes.skipSpace_eq space rest
  cases writes with
  | text quoted =>
    rw [enclosed_append] at front ⊢
    unfold readString
    rw [front]
    exact gives_text quoted rest
  | number number =>
    obtain ⟨c, tail, rfl, starts⟩ := number.exists_cons
    exact readString_refuses front (ne_of_holds starts (by decide))
  | _ => exact readString_refuses front (by decide)

theorem readOptional_other (front : skipSpace text = c :: rest) (notNull : c ≠ 'n') :
    readOptional read text = (read text).mapValue some := by
  unfold readOptional
  rw [front]
  split
  · rename_i cons
    exact absurd (List.cons.inj cons).1 notNull
  · rfl

theorem reads_optional (reads : Reads read meaning) :
    Reads (readOptional read) (Value.optional? meaning) := by
  intro v before w rest space writes ends
  have front := writes.skipSpace_eq space rest
  have gives := (reads v before w rest space writes ends).map some
  cases writes with
  | null =>
    unfold readOptional
    rw [front]
    rfl
  | number number =>
    obtain ⟨c, tail, rfl, starts⟩ := number.exists_cons
    rw [readOptional_other front (ne_of_holds starts (by decide))]
    exact gives
  | _ =>
    rw [readOptional_other front (by decide)]
    exact gives

/-! ## Documents -/

/-- A document is read as what it tells, or refused if that means nothing. -/
theorem Reads.document (reads : Reads read meaning) {document : String} {v : Value}
    (tells : Tells document v) :
    (∃ complaint, readDocument read document = .error complaint ∧ meaning v = none) ∨
      ∃ value, readDocument read document = .ok value ∧ meaning v = some value := by
  unfold Tells at tells
  unfold readDocument
  generalize document.toList = text at tells
  cases tells with
  | @mk v before w after space writes gap =>
    have ends : Ends after := by simpa using ends_nil.after gap
    have blank : skipSpace after = [] := by
      rw [← List.append_nil after]
      exact skipSpace_append gap []
    rcases (reads v before w after space writes ends).cases with
        ⟨fault, refused, told⟩ | ⟨value, read, told⟩
    · exact .inl ⟨_, by simp only [readWhole, refused]; rfl, told⟩
    · exact .inr ⟨value, by simp only [readWhole, read, blank], told⟩

end PositionMap.Json
