import PositionMap.Proofs.Json.Grammar

/-! # Written numbers

A written number is read and skipped to its end and no further, and what it is read as depends on
nothing that follows it. Only the digits of a whole number are read as an integer that is not negative.
-/

namespace PositionMap.Json

variable {negative : Bool} {scan : Scan} {w rest : List Char}

/-! ## Digits -/

def Stops (rest : List Char) : Prop :=
  ∀ c tail, rest = c :: tail → c.isDigit = false

theorem stops_cons {c : Char} (other : c.isDigit = false) (rest : List Char) : Stops (c :: rest) := by
  intro first tail cons
  cases cons
  exact other

theorem Ends.stops (ends : Ends rest) : Stops rest := by
  intro c tail cons
  have other := ends c tail cons
  simp only [extendsNumber, Bool.or_eq_false_iff] at other
  exact other.1.1.1

theorem takeWhile_digits (digits : ∀ c ∈ w, c.isDigit = true) (stops : Stops rest) :
    (w ++ rest).takeWhile Char.isDigit = w := by
  rw [List.takeWhile_append_of_pos digits]
  cases rest with
  | nil => simp
  | cons c rest => simp [stops c rest rfl]

theorem dropWhile_digits (digits : ∀ c ∈ w, c.isDigit = true) (stops : Stops rest) :
    (w ++ rest).dropWhile Char.isDigit = rest := by
  rw [List.dropWhile_append_of_pos digits]
  cases rest with
  | nil => rfl
  | cons c rest => simp [stops c rest rfl]

theorem Digits.exists_cons (digits : Digits w) :
    ∃ c tail, w = c :: tail ∧ c.isDigit = true := by
  obtain ⟨nonempty, digit⟩ := digits
  cases w with
  | nil => exact absurd rfl nonempty
  | cons c tail => exact ⟨c, tail, rfl, digit c List.mem_cons_self⟩

theorem Exponent.stops (exponent : Exponent w) (stops : Stops rest) : Stops (w ++ rest) := by
  cases exponent with
  | none => exact stops
  | some letter _ _ => exact stops_cons (by rcases letter with rfl | rfl <;> decide) _

theorem Places.stops (places : Places w) (stops : Stops rest) : Stops (w ++ rest) := by
  cases places with
  | none => exact stops
  | some _ => exact stops_cons (by decide) _

theorem WholePart.digits_all (whole : WholePart w) : Digits w := by
  cases whole with
  | zero => exact ⟨nofun, by simp⟩
  | digits _ digits => exact digits

/-! ## Reading -/

/-- The outcome is the number with the rest left, or that it is out of range. -/
def Scans (outcome : Outcome Numeral) (value? : Option Numeral) (rest : List Char) : Prop :=
  match value? with
  | some value => outcome = .ok (value, rest)
  | none => ∃ left, outcome = faultAt .numberOutOfRange left

/-- In front of whatever does not go on with a number, the characters are read to their end, and
always as the same number. -/
def StandsAlone (read : Reader Numeral) (w : List Char) : Prop :=
  ∃ value?, ∀ rest, Ends rest → Scans (read (w ++ rest)) value? rest

theorem StandsAlone.congr {read other : Reader Numeral} {w' : List Char}
    (alone : StandsAlone other w')
    (same : ∀ rest, Ends rest → read (w ++ rest) = other (w' ++ rest)) : StandsAlone read w := by
  obtain ⟨value?, gives⟩ := alone
  exact ⟨value?, fun rest ends => same rest ends ▸ gives rest ends⟩

theorem finishFloat_standsAlone (negative : Bool) (scan : Scan) (exponent : Int) :
    StandsAlone (finishFloat negative scan exponent) [] := by
  refine ⟨(assemble (.ofNat scan.significand) (scan.exponent + exponent)).map
    fun x => .float (signed negative x), fun rest _ => ?_⟩
  rw [List.nil_append]
  unfold finishFloat
  cases assemble (.ofNat scan.significand) (scan.exponent + exponent) with
  | none => exact ⟨_, rfl⟩
  | some x => rfl

/-- The digits of an exponent are read to the end unless they leave the range. -/
theorem readExponentDigits_append (digits : ∀ c ∈ w, c.isDigit = true) (value : Nat) :
    (∃ n, ∀ rest, Stops rest → readExponentDigits value (w ++ rest) = (some n, rest)) ∨
    (∃ left, (∀ c ∈ left, c.isDigit = true) ∧
      ∀ rest, readExponentDigits value (w ++ rest) = (none, left ++ rest)) := by
  induction w generalizing value with
  | nil =>
    refine .inl ⟨value, fun rest stops => ?_⟩
    cases rest with
    | nil => rfl
    | cons c rest => simp [readExponentDigits, stops c rest rfl]
  | cons c w ih =>
    obtain ⟨digit, digits⟩ := List.forall_mem_cons.mp digits
    by_cases fits : 2 * (10 * value + Scan.digit c) < UInt32.size
    · simpa [readExponentDigits, digit, fits] using ih digits (10 * value + Scan.digit c)
    · exact .inr ⟨w, digits, fun rest => by simp [readExponentDigits, digit, fits]⟩

theorem readExponent_eq {sign : List Char} {below : Bool} (signs : ExponentSign sign below)
    {c : Char} (digit : c.isDigit = true) {text left : List Char} {value? : Option Nat}
    (reads : readExponentDigits 0 (c :: text) = (value?, left)) :
    readExponent negative scan (sign ++ c :: text) =
      match value? with
      | some value => finishFloat negative scan (if below then -value else value) left
      | none =>
        if scan.significand ≠ 0 ∧ !below then faultAt .numberOutOfRange left
        else .ok (.float (signed negative 0), left.dropWhile Char.isDigit) := by
  cases signs with
  | none =>
    have notPlus : c ≠ '+' := ne_of_holds digit (by decide)
    have notMinus : c ≠ '-' := ne_of_holds digit (by decide)
    cases value? <;> simp [readExponent, digit, notPlus, notMinus, reads]
  | plus => cases value? <;> simp [readExponent, digit, reads]
  | minus => cases value? <;> simp [readExponent, digit, reads]

theorem readExponent_standsAlone (negative : Bool) (scan : Scan) {sign : List Char} {below : Bool}
    (signs : ExponentSign sign below) (digits : Digits w) :
    StandsAlone (readExponent negative scan) (sign ++ w) := by
  obtain ⟨c, tail, rfl, digit⟩ := digits.exists_cons
  rcases readExponentDigits_append digits.2 0 with ⟨n, reads⟩ | ⟨left, more, reads⟩
  · refine (finishFloat_standsAlone negative scan (if below then -n else n)).congr
      fun rest ends => ?_
    rw [List.append_assoc]
    exact readExponent_eq signs digit (reads rest ends.stops)
  · -- with an exponent out of range the number is too large, or it is zero
    refine ⟨if scan.significand ≠ 0 ∧ !below then none else some (.float (signed negative 0)),
      fun rest ends => ?_⟩
    have read : readExponent negative scan (sign ++ (c :: tail ++ rest)) = _ :=
      readExponent_eq signs digit (reads rest)
    rw [List.append_assoc, read, dropWhile_digits more ends.stops]
    by_cases beyond : scan.significand ≠ 0 ∧ !below
    · rw [if_pos beyond]
      simp only [if_pos beyond]
      exact ⟨_, rfl⟩
    · rw [if_neg beyond]
      simp only [if_neg beyond]
      rfl

theorem readTail_standsAlone (negative : Bool) (scan : Scan) (exponent : Exponent w) :
    StandsAlone (readTail negative scan) w := by
  cases exponent with
  | none =>
    refine (finishFloat_standsAlone negative scan 0).congr fun rest ends => ?_
    unfold readTail
    split
    · exact absurd (ends _ _ ‹_›) (by decide)
    · exact absurd (ends _ _ ‹_›) (by decide)
    · rfl
  | some letter signs digits =>
    refine (readExponent_standsAlone negative scan signs digits).congr fun rest _ => ?_
    rcases letter with rfl | rfl <;> rfl

theorem readPlaces_standsAlone (negative : Bool) (scan : Scan) {exponent : List Char}
    (digits : Digits w) (tail : Exponent exponent) :
    StandsAlone (readPlaces negative scan) (w ++ exponent) := by
  refine (readTail_standsAlone negative (scan.withPlaces w) tail).congr fun rest ends => ?_
  rw [List.append_assoc]
  have stops := tail.stops ends.stops
  have taken := takeWhile_digits digits.2 stops
  have dropped := dropWhile_digits digits.2 stops
  obtain ⟨c, others, rfl, digit⟩ := digits.exists_cons
  rw [List.cons_append] at taken dropped ⊢
  unfold readPlaces
  simp only [digit, if_true, taken, dropped]

theorem readFraction_standsAlone (negative : Bool) (scan : Scan) {places exponent : List Char}
    (point : Places places) (tail : Exponent exponent) :
    StandsAlone (readFraction negative scan) (places ++ exponent) := by
  cases point with
  | some digits => exact readPlaces_standsAlone negative scan digits tail
  | none =>
    cases tail with
    | some letter signs digits =>
      refine (readExponent_standsAlone negative scan signs digits).congr fun rest _ => ?_
      rcases letter with rfl | rfl <;> rfl
    | none =>
      have plain : ∀ rest, Ends rest → readFraction negative scan rest =
          if scan.full then finishFloat negative scan 0 rest
          else .ok (wholeNumeral negative scan.significand, rest) := by
        intro rest ends
        unfold readFraction
        split
        · exact absurd (ends _ _ rfl) (by decide)
        · exact absurd (ends _ _ rfl) (by decide)
        · exact absurd (ends _ _ rfl) (by decide)
        · rfl
      by_cases full : scan.full
      · refine (finishFloat_standsAlone negative scan 0).congr fun rest ends => ?_
        rw [List.append_nil, List.nil_append, plain rest ends, if_pos full]
      · refine ⟨some (wholeNumeral negative scan.significand), fun rest ends => ?_⟩
        rw [List.append_nil, List.nil_append, plain rest ends, if_neg full]
        rfl

/-- The number in front of a point, read digit by digit. -/
theorem readUnsigned_eq {whole : List Char} (part : WholePart whole) (stops : Stops rest) :
    readUnsigned negative (whole ++ rest) = readFraction negative (.ofWhole whole) rest := by
  cases part with
  | zero =>
    cases rest with
    | nil => rfl
    | cons c rest => simp [readUnsigned, stops c rest rfl, Scan.ofWhole, Scan.addWhole, Scan.fits,
        Scan.digit, UInt64.size]
  | @digits c w other digits =>
    have digit := digits.2 c List.mem_cons_self
    have taken := takeWhile_digits digits.2 stops
    have dropped := dropWhile_digits digits.2 stops
    rw [List.cons_append] at taken dropped ⊢
    unfold readUnsigned
    split
    · contradiction
    · rename_i cons
      cases cons
      exact absurd rfl other
    · rename_i cons
      cases cons
      rw [if_pos digit, taken, dropped]

theorem readUnsigned_standsAlone (negative : Bool) (unsigned : Unsigned w) :
    StandsAlone (readUnsigned negative) w := by
  cases unsigned with
  | @mk whole places exponent part point tail =>
    refine (readFraction_standsAlone negative (.ofWhole whole) point tail).congr fun rest ends => ?_
    rw [List.append_assoc, List.append_assoc]
    exact readUnsigned_eq part (point.stops (tail.stops ends.stops))

theorem readNumeral_unsigned {c : Char} (digit : c.isDigit = true) (rest : List Char) :
    readNumeral (c :: rest) = readUnsigned false (c :: rest) := by
  unfold readNumeral
  split
  · rename_i cons
    cases cons
    exact absurd digit (by decide)
  · rfl

theorem Unsigned.exists_cons (unsigned : Unsigned w) :
    ∃ c tail, w = c :: tail ∧ c.isDigit = true := by
  obtain ⟨whole, _, _⟩ := unsigned
  obtain ⟨c, tail, rfl, digit⟩ := whole.digits_all.exists_cons
  exact ⟨c, _, rfl, digit⟩

theorem readNumeral_standsAlone (number : IsNumber w) : StandsAlone readNumeral w := by
  cases number with
  | negative unsigned => exact readUnsigned_standsAlone _ unsigned
  | unsigned unsigned =>
    obtain ⟨c, tail, rfl, digit⟩ := unsigned.exists_cons
    exact (readUnsigned_standsAlone _ unsigned).congr fun rest _ => readNumeral_unsigned digit _

def numeral? (spelled : List Char) : Option Numeral :=
  match readNumeral spelled with
  | .ok (numeral, _) => some numeral
  | .error _ => none

/-- A number is read as what it is read as alone, and the only thing that can be wrong with it is that
it is out of range. -/
theorem scans_numeral (number : IsNumber w) (ends : Ends rest) :
    Scans (readNumeral (w ++ rest)) (numeral? w) rest := by
  obtain ⟨value?, scans⟩ := readNumeral_standsAlone number
  have alone := scans [] ends_nil
  rw [List.append_nil] at alone
  have told : numeral? w = value? := by
    cases value? with
    | none =>
      obtain ⟨left, refused⟩ := alone
      rw [numeral?, refused]
      rfl
    | some value => rw [numeral?, alone]
  rw [told]
  exact scans rest ends

theorem gives_numeral (number : IsNumber w) (ends : Ends rest) :
    Gives (readNumeral (w ++ rest)) (numeral? w) rest := by
  have scans := scans_numeral number ends
  cases told : numeral? w with
  | none =>
    rw [told] at scans
    obtain ⟨left, refused⟩ := scans
    exact ⟨_, refused⟩
  | some value =>
    rw [told] at scans
    exact scans

/-! ## Whole numbers -/

theorem Scan.full_foldl_addWhole (digits : List Char) (scan : Scan) (full : scan.full = true) :
    (digits.foldl addWhole scan).full = true := by
  induction digits generalizing scan with
  | nil => exact full
  | cons c digits ih => exact ih _ (by simp [addWhole, full])

theorem le_natural_from (digits : List Char) (n : Nat) :
    n ≤ digits.foldl (fun n c => 10 * n + Scan.digit c) n := by
  induction digits generalizing n with
  | nil => exact Nat.le_refl _
  | cons c digits ih =>
    have grown := ih (10 * n + Scan.digit c)
    rw [List.foldl_cons]
    omega

theorem Scan.foldl_addWhole (digits : List Char) (n : Nat) :
    digits.foldl addWhole ⟨n, 0, false⟩ =
        ⟨digits.foldl (fun n c => 10 * n + Scan.digit c) n, 0, false⟩ ∨
      UInt64.size ≤ digits.foldl (fun n c => 10 * n + Scan.digit c) n ∧
        (digits.foldl addWhole ⟨n, 0, false⟩).full = true := by
  induction digits generalizing n with
  | nil => exact .inl rfl
  | cons c digits ih =>
    rw [List.foldl_cons, List.foldl_cons]
    by_cases room : 10 * n + digit c < UInt64.size
    · have next : addWhole ⟨n, 0, false⟩ c = ⟨10 * n + digit c, 0, false⟩ := by
        simp [addWhole, fits, room]
      rw [next]
      exact ih _
    · refine .inr ⟨Nat.le_trans (Nat.le_of_not_lt room) (le_natural_from digits _), ?_⟩
      exact full_foldl_addWhole digits _ (by simp [addWhole, fits, room])

theorem Scan.ofWhole_eq (digits : List Char) : ofWhole digits = ⟨natural digits, 0, false⟩ ∨
    UInt64.size ≤ natural digits ∧ (ofWhole digits).full = true :=
  foldl_addWhole digits 0

def NeverWhole (read : Reader Numeral) : Prop :=
  ∀ text n rest, read text ≠ .ok (.integer n, rest)

theorem finishFloat_neverWhole (negative : Bool) (scan : Scan) (exponent : Int) :
    NeverWhole (finishFloat negative scan exponent) := by
  intro text n rest h
  unfold finishFloat at h
  split at h <;> cases h

theorem readExponent_neverWhole (negative : Bool) (scan : Scan) :
    NeverWhole (readExponent negative scan) := by
  intro text n rest h
  unfold readExponent at h
  split at h
  split at h
  · cases h
  · split at h
    · cases h
    · split at h
      · exact finishFloat_neverWhole _ _ _ _ _ _ h
      · split at h <;> cases h

theorem readTail_neverWhole (negative : Bool) (scan : Scan) :
    NeverWhole (readTail negative scan) := by
  intro text n rest h
  unfold readTail at h
  split at h
  · exact readExponent_neverWhole _ _ _ _ _ h
  · exact readExponent_neverWhole _ _ _ _ _ h
  · exact finishFloat_neverWhole _ _ _ _ _ _ h

theorem readPlaces_neverWhole (negative : Bool) (scan : Scan) :
    NeverWhole (readPlaces negative scan) := by
  intro text n rest h
  unfold readPlaces at h
  split at h
  · cases h
  · split at h
    · exact readTail_neverWhole _ _ _ _ _ h
    · cases h

/-- An integer is read where the text ends behind the digits. -/
theorem eq_nil_of_readFraction {n : Int} {places exponent : List Char} (point : Places places)
    (tail : Exponent exponent)
    (read : readFraction negative scan (places ++ exponent) = .ok (.integer n, rest)) :
    places = [] ∧ exponent = [] := by
  cases point with
  | some digits => exact absurd read (readPlaces_neverWhole _ _ _ _ _)
  | none =>
    cases tail with
    | none => exact ⟨rfl, rfl⟩
    | some letter signs digits =>
      rcases letter with rfl | rfl <;> exact absurd read (readExponent_neverWhole _ _ _ _ _)

theorem stops_nil : Stops [] :=
  ends_nil.stops

/-- Digits alone are an integer unless they have more than 64 bits. -/
theorem readUnsigned_digits (negative : Bool) (part : WholePart w) :
    readUnsigned negative w = .ok (wholeNumeral negative (natural w), []) ∨
      UInt64.size ≤ natural w ∧ readUnsigned negative w = finishFloat negative (.ofWhole w) 0 [] := by
  have read : readUnsigned negative (w ++ []) =
      if (Scan.ofWhole w).full then finishFloat negative (.ofWhole w) 0 []
      else .ok (wholeNumeral negative (Scan.ofWhole w).significand, []) :=
    readUnsigned_eq part stops_nil
  rw [List.append_nil] at read
  rcases Scan.ofWhole_eq w with scanned | ⟨large, full⟩
  · rw [scanned] at read
    exact .inl read
  · rw [if_pos full] at read
    exact .inr ⟨large, read⟩

theorem Unsigned.of_integer {n : Int} (unsigned : Unsigned w)
    (read : readUnsigned negative w = .ok (.integer n, rest)) :
    Digits w ∧ wholeNumeral negative (natural w) = .integer n := by
  cases unsigned with
  | @mk whole places exponent part point tail =>
    have stops := point.stops (tail.stops stops_nil)
    rw [List.append_nil] at stops
    have inside := read
    rw [readUnsigned_eq part stops] at inside
    obtain ⟨rfl, rfl⟩ := eq_nil_of_readFraction point tail inside
    rw [List.append_nil, List.append_nil] at read ⊢
    rcases readUnsigned_digits negative part with whole | ⟨_, float⟩
    · rw [whole, Except.ok.injEq, Prod.mk.injEq] at read
      exact ⟨part.digits_all, read.1⟩
    · rw [float] at read
      exact absurd read (finishFloat_neverWhole _ _ _ _ _ _)

theorem numeral?_of_digits (part : WholePart w) (small : natural w < UInt64.size) :
    numeral? w = some (.integer (natural w)) := by
  obtain ⟨c, tail, rfl, digit⟩ := part.digits_all.exists_cons
  rcases readUnsigned_digits false part with read | ⟨large, _⟩
  · rw [numeral?, readNumeral_unsigned digit, read]
    rfl
  · omega

theorem of_numeral?_integer {n : Int} (number : IsNumber w)
    (read : numeral? w = some (.integer n)) :
    n < 0 ∨ Digits w ∧ natural w = n := by
  unfold numeral? at read
  split at read
  · rename_i numeral rest outcome
    cases read
    cases number with
    | negative unsigned =>
      obtain ⟨_, told⟩ := unsigned.of_integer outcome
      unfold wholeNumeral at told
      split at told
      · contradiction
      · split at told
        · cases told
          omega
        · cases told
    | unsigned unsigned =>
      obtain ⟨c, tail, rfl, digit⟩ := unsigned.exists_cons
      rw [readNumeral_unsigned digit] at outcome
      obtain ⟨digits, told⟩ := unsigned.of_integer outcome
      cases told
      exact .inr ⟨digits, rfl⟩
  · cases read

theorem IsNumber.wholePart (number : IsNumber w) (digits : ∀ c ∈ w, c.isDigit = true) :
    WholePart w := by
  cases number with
  | negative _ => exact absurd (digits '-' List.mem_cons_self) (by decide)
  | unsigned unsigned =>
    cases unsigned with
    | @mk whole places exponent part point tail =>
      cases point with
      | some _ => exact absurd (digits '.' (by simp)) (by decide)
      | none =>
        cases tail with
        | none => simpa using part
        | @some letter _ _ _ letters _ _ =>
          have digit := digits letter (by simp)
          rcases letters with rfl | rfl <;> exact absurd digit (by decide)

/-! ## Skipping -/

theorem skipDigits_append (digits : Digits w) (stops : Stops rest) :
    skipDigits (w ++ rest) = .ok ((), rest) := by
  have dropped := dropWhile_digits digits.2 stops
  obtain ⟨c, tail, rfl, digit⟩ := digits.exists_cons
  simp only [List.cons_append, List.dropWhile_cons, digit, if_true] at dropped
  simp [skipDigits, digit, dropped]

theorem skipTail_append (exponent : Exponent w) (ends : Ends rest) :
    skipTail (w ++ rest) = .ok ((), rest) := by
  cases exponent with
  | none =>
    unfold skipTail
    split
    · exact absurd (ends _ _ ‹_›) (by decide)
    · exact absurd (ends _ _ ‹_›) (by decide)
    · rfl
  | @some letter sign digits below letters signs all =>
    have skipped : skipExponent (sign ++ (digits ++ rest)) = .ok ((), rest) := by
      rw [← skipDigits_append all ends.stops]
      obtain ⟨c, tail, rfl, digit⟩ := all.exists_cons
      cases signs with
      | none =>
        unfold skipExponent
        split
        · rename_i cons
          cases cons
          exact absurd digit (by decide)
        · rename_i cons
          cases cons
          exact absurd digit (by decide)
        · rfl
      | plus => rfl
      | minus => rfl
    rw [List.cons_append, List.append_assoc, ← skipped]
    rcases letters with rfl | rfl <;> rfl

theorem skipFraction_append {places exponent : List Char} (point : Places places)
    (tail : Exponent exponent) (ends : Ends rest) :
    skipFraction (places ++ (exponent ++ rest)) = .ok ((), rest) := by
  rw [← skipTail_append tail ends]
  cases point with
  | some digits =>
    simp only [List.cons_append, skipFraction, skipDigits_append digits (tail.stops ends.stops)]
  | none =>
    unfold skipFraction
    split
    · rename_i other
      cases tail with
      | none => exact absurd (ends _ _ other) (by decide)
      | some letters _ _ =>
        cases other
        rcases letters with impossible | impossible <;> cases impossible
    · rfl

theorem skipUnsigned_append (unsigned : Unsigned w) (ends : Ends rest) :
    skipUnsigned (w ++ rest) = .ok ((), rest) := by
  cases unsigned with
  | @mk whole places exponent part point tail =>
    have stops := point.stops (tail.stops ends.stops)
    rw [List.append_assoc, List.append_assoc]
    rw [← skipFraction_append point tail ends]
    cases part with
    | zero =>
      generalize places ++ (exponent ++ rest) = after at stops
      cases after with
      | nil => rfl
      | cons c after => simp [skipUnsigned, stops c after rfl]
    | digits other digits =>
      unfold skipUnsigned
      split
      · rename_i cons
        exact absurd (List.cons.inj cons).1 other
      · rw [skipDigits_append digits stops]

end PositionMap.Json
