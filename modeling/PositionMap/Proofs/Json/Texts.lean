import PositionMap.Proofs.Json.Grammar
import PositionMap.Json.Skip

/-! # Written texts

A written text is read to its closing quotation mark as the text that is meant, and refused if half a
pair of surrogates stands alone in it. When it is skipped nobody asks what it means.
-/

namespace PositionMap.Json

variable {c : Char} {text w t rest : List Char}

/-! ## One character -/

theorem isPlain_iff : isPlain c = true ↔ 0x20 ≤ c.toNat ∧ c ≠ '"' ∧ c ≠ '\\' := by
  simp [isPlain, and_assoc]

theorem readCharacters_quote (rest : List Char) : readCharacters ('"' :: rest) = .ok ([], rest) := by
  unfold readCharacters
  rfl

theorem readCharacters_plain (plain : isPlain c = true) (text : List Char) :
    readCharacters (c :: text) = (readCharacters text).mapValue (c :: ·) := by
  obtain ⟨printed, notQuote, notSlash⟩ := isPlain_iff.mp plain
  rw [readCharacters.eq_def]
  split
  · contradiction
  · rename_i cons
    exact absurd (List.cons.inj cons).1 notQuote
  · rename_i cons
    exact absurd (List.cons.inj cons).1 notSlash
  · rename_i cons
    obtain ⟨rfl, rfl⟩ := List.cons.inj cons
    rw [if_neg (Nat.not_lt.mpr printed)]
    cases readCharacters text <;> rfl

theorem readCharacters_escape (read : readEscape text = .ok (c, rest)) :
    readCharacters ('\\' :: text) = (readCharacters rest).mapValue (c :: ·) := by
  rw [readCharacters.eq_def]
  simp only
  split
  · rename_i refused
    cases refused.symm.trans read
  · rename_i also
    cases also.symm.trans read
    cases readCharacters rest <;> rfl

theorem readCharacters_refused {fault : Fault} (refused : readEscape text = .error fault) :
    readCharacters ('\\' :: text) = .error fault := by
  rw [readCharacters.eq_def]
  simp only
  split
  · rename_i also
    cases also.symm.trans refused
    rfl
  · rename_i read
    cases read.symm.trans refused

theorem skipText_quote (rest : List Char) : skipText ('"' :: rest) = .ok ((), rest) := by
  unfold skipText
  rfl

theorem skipText_plain (plain : isPlain c = true) (text : List Char) :
    skipText (c :: text) = skipText text := by
  obtain ⟨printed, notQuote, notSlash⟩ := isPlain_iff.mp plain
  rw [skipText.eq_def]
  split
  · contradiction
  · rename_i cons
    exact absurd (List.cons.inj cons).1 notQuote
  · rename_i cons
    exact absurd (List.cons.inj cons).1 notSlash
  · rename_i cons
    obtain ⟨rfl, rfl⟩ := List.cons.inj cons
    rw [if_neg (Nat.not_lt.mpr printed)]

theorem skipText_escape (skip : skipEscape text = .ok ((), rest)) :
    skipText ('\\' :: text) = skipText rest := by
  rw [skipText.eq_def]
  simp only
  split
  · rename_i refused
    cases refused.symm.trans skip
  · rename_i also
    cases also.symm.trans skip
    rfl

/-! ## Escapes -/

variable {letter a b c' d : Char} {n : Nat}

theorem escaped?_of_mem (escape : (letter, c) ∈ escapes) :
    escaped? letter = some c ∧ letter ≠ 'u' := by
  have table : ∀ pair ∈ escapes, escaped? pair.1 = some pair.2 ∧ pair.1 ≠ 'u' := by decide
  exact table _ escape

theorem readEscape_letter (escape : (letter, c) ∈ escapes) (rest : List Char) :
    readEscape (letter :: rest) = .ok (c, rest) := by
  obtain ⟨means, notCode⟩ := escaped?_of_mem escape
  simp [readEscape, means]

theorem skipEscape_letter (escape : (letter, c) ∈ escapes) (rest : List Char) :
    skipEscape (letter :: rest) = .ok ((), rest) := by
  obtain ⟨means, notCode⟩ := escaped?_of_mem escape
  simp [skipEscape, means]

theorem readHex_digits (digits : hexNumber? a b c d = some n) (rest : List Char) :
    readHex (a :: b :: c :: d :: rest) = .ok (n, rest) := by
  simp only [readHex, digits]

theorem readEscape_code (digits : hexNumber? a b c d = some n) (leading : isLeading n = false)
    (trailing : isTrailing n = false) (rest : List Char) :
    readEscape ('u' :: a :: b :: c :: d :: rest) = .ok (.ofNat n, rest) := by
  simp [readEscape, readCode, readHex_digits digits, leading, trailing]

theorem skipEscape_code (digits : hexNumber? a b c d = some n) (rest : List Char) :
    skipEscape ('u' :: a :: b :: c :: d :: rest) = .ok ((), rest) := by
  simp only [skipEscape, readHex_digits digits, Outcome.mapValue]

/-- The first half of a pair is read together with what follows. -/
theorem readEscape_leading (digits : hexNumber? a b c d = some n) (leading : isLeading n = true)
    (rest : List Char) :
    readEscape ('u' :: a :: b :: c :: d :: rest) = readTrailing n rest := by
  have notTrailing : isTrailing n = false := by
    simp only [isLeading, isTrailing, Bool.and_eq_true, decide_eq_true_eq] at leading ⊢
    simp only [Bool.and_eq_false_iff, decide_eq_false_iff_not]
    omega
  simp [readEscape, readCode, readHex_digits digits, leading, notTrailing]

theorem readEscape_trailing (digits : hexNumber? a b c d = some n) (trailing : isTrailing n = true)
    (rest : List Char) :
    readEscape ('u' :: a :: b :: c :: d :: rest) = faultAt .loneSurrogate rest := by
  simp [readEscape, readCode, readHex_digits digits, trailing]

theorem readTrailing_code (m : Nat) (digits : hexNumber? a b c d = some n) (rest : List Char) :
    readTrailing m ('\\' :: 'u' :: a :: b :: c :: d :: rest) =
      if isTrailing n then .ok (paired m n, rest) else faultAt .loneSurrogate rest := by
  simp only [readTrailing, readHex_digits digits]

theorem readTrailing_plain {m : Nat} (plain : isPlain c = true) (rest : List Char) :
    ∃ fault, readTrailing m (c :: rest) = .error fault := by
  obtain ⟨-, -, notSlash⟩ := isPlain_iff.mp plain
  unfold readTrailing
  split
  · contradiction
  · exact ⟨_, rfl⟩
  · rename_i cons
    exact absurd (List.cons.inj cons).1 notSlash
  · exact ⟨_, rfl⟩
  · exact ⟨_, rfl⟩

theorem readTrailing_letter {m : Nat} (escape : (letter, c) ∈ escapes) (rest : List Char) :
    ∃ fault, readTrailing m ('\\' :: letter :: rest) = .error fault := by
  refine ⟨⟨.unfinishedSurrogate, letter :: rest, 1, true⟩, ?_⟩
  simp [readTrailing, (escaped?_of_mem escape).2, faultIn]

/-! ## Whole texts -/

theorem Spells.isText (spells : Spells w t) : IsText w := by
  induction spells with
  | nil => exact .nil
  | plain plain _ ih => exact .plain plain ih
  | escape escape _ ih => exact .escape escape ih
  | code digits _ _ _ ih => exact .code digits ih
  | pair first _ second _ _ ih => exact .code first (.code second ih)

theorem Quoted.isText {value? : Option String} (quoted : Quoted value? w) : IsText w := by
  cases quoted with
  | text spells => exact spells.isText
  | broken text _ => exact text

/-- What an escape stands for does not depend on what follows. -/
def Means (escape : List Char) (c : Char) : Prop :=
  ∀ rest, readEscape (escape ++ rest) = .ok (c, rest)

theorem means_pair {e f g h : Char} {m : Nat} (first : hexNumber? a b c d = some m)
    (leading : isLeading m = true) (second : hexNumber? e f g h = some n)
    (trailing : isTrailing n = true) :
    Means ['u', a, b, c, d, '\\', 'u', e, f, g, h] (paired m n) := by
  intro rest
  have half := readEscape_leading first leading ('\\' :: 'u' :: e :: f :: g :: h :: rest)
  rw [readTrailing_code m second, if_pos trailing] at half
  exact half

theorem spells_self (plain : ∀ c ∈ w, isPlain c = true) : Spells w w := by
  induction w with
  | nil => exact .nil
  | cons c w ih =>
    obtain ⟨first, others⟩ := List.forall_mem_cons.mp plain
    exact .plain first (ih others)

theorem heading_self (name : String) (plain : ∀ c ∈ name.toList, isPlain c = true) :
    Heading (some name) ('"' :: (name.toList ++ ['"', ':'])) := by
  have heading := Heading.mk space_nil (.text (spells_self plain)) space_nil
  rw [String.ofList_toList] at heading
  exact heading

theorem readCharacters_means (escape : List Char) (means : Means escape c) (w : List Char) :
    readCharacters ('\\' :: (escape ++ w)) = (readCharacters w).mapValue (c :: ·) :=
  readCharacters_escape (means w)

theorem readCharacters_append (spells : Spells w t) (rest : List Char) :
    readCharacters (w ++ '"' :: rest) = .ok (t, rest) := by
  induction spells with
  | nil => exact readCharacters_quote rest
  | plain plain _ ih =>
    rw [List.cons_append, readCharacters_plain plain, ih]
    rfl
  | @escape letter c w t escape _ ih =>
    have read := readCharacters_means [letter] (readEscape_letter escape) (w ++ '"' :: rest)
    rw [ih] at read
    exact read
  | @code a b c d n w t digits leading trailing _ ih =>
    have read := readCharacters_means ['u', a, b, c, d] (readEscape_code digits leading trailing)
      (w ++ '"' :: rest)
    rw [ih] at read
    exact read
  | @pair a b c d e f g h m n w t first leading second trailing _ ih =>
    have read := readCharacters_means _ (means_pair first leading second trailing)
      (w ++ '"' :: rest)
    rw [ih] at read
    exact read

def Unreadable (w : List Char) : Prop :=
  ∀ rest, ∃ fault, readCharacters (w ++ '"' :: rest) = .error fault

theorem Unreadable.plain (broken : Unreadable w) (plain : isPlain c = true) :
    Unreadable (c :: w) := by
  intro rest
  obtain ⟨fault, refused⟩ := broken rest
  refine ⟨fault, ?_⟩
  rw [List.cons_append, readCharacters_plain plain, refused]
  rfl

theorem Unreadable.escape (broken : Unreadable w) (escape : List Char) (means : Means escape c) :
    Unreadable ('\\' :: (escape ++ w)) := by
  intro rest
  obtain ⟨fault, refused⟩ := broken rest
  refine ⟨fault, ?_⟩
  rw [List.cons_append, List.append_assoc, readCharacters_means escape means, refused]
  rfl

theorem unreadable_of_refused
    (refused : ∀ rest, ∃ fault, readEscape (w ++ rest) = .error fault) :
    Unreadable ('\\' :: w) := by
  intro rest
  obtain ⟨fault, refused⟩ := refused ('"' :: rest)
  exact ⟨fault, readCharacters_refused refused⟩

/-- The first half of a pair is refused where no second half follows. -/
theorem unreadable_of_leading {m : Nat} (first : hexNumber? a b c d = some m)
    (leading : isLeading m = true)
    (refused : ∀ rest, ∃ fault, readTrailing m (w ++ '"' :: rest) = .error fault) :
    Unreadable ('\\' :: 'u' :: a :: b :: c :: d :: w) := by
  intro rest
  obtain ⟨fault, refused⟩ := refused rest
  exact ⟨fault, readCharacters_refused ((readEscape_leading first leading _).trans refused)⟩

/-- Every text has a meaning or is refused. -/
theorem IsText.spells_or_unreadable {w : List Char} (text : IsText w) :
    (∃ t, Spells w t) ∨ Unreadable w := by
  cases text with
  | nil => exact .inl ⟨[], .nil⟩
  | plain plain text =>
    rcases text.spells_or_unreadable with ⟨t, spells⟩ | broken
    · exact .inl ⟨_, .plain plain spells⟩
    · exact .inr (broken.plain plain)
  | @escape letter c w escape text =>
    rcases text.spells_or_unreadable with ⟨t, spells⟩ | broken
    · exact .inl ⟨_, .escape escape spells⟩
    · exact .inr (broken.escape [letter] (readEscape_letter escape))
  | @code a b c d n w digits text =>
    by_cases trailing : isTrailing n = true
    · exact .inr (unreadable_of_refused fun rest => ⟨_, readEscape_trailing digits trailing _⟩)
    by_cases leading : isLeading n = true
    · -- whether a first half means anything is decided by what stands behind it
      cases text with
      | nil => exact .inr (unreadable_of_leading digits leading fun _ => ⟨_, rfl⟩)
      | plain plain _ =>
        exact .inr (unreadable_of_leading digits leading fun _ => readTrailing_plain plain _)
      | escape escape _ =>
        exact .inr (unreadable_of_leading digits leading fun _ => readTrailing_letter escape _)
      | @code e f g h m w second text =>
        by_cases pair : isTrailing m = true
        · rcases text.spells_or_unreadable with ⟨t, spells⟩ | broken
          · exact .inl ⟨_, .pair digits leading second pair spells⟩
          · exact .inr (broken.escape _ (means_pair digits leading second pair))
        · exact .inr (unreadable_of_leading digits leading fun rest =>
            ⟨_, (readTrailing_code n second (w ++ '"' :: rest)).trans (if_neg pair)⟩)
    rw [Bool.not_eq_true] at trailing leading
    rcases text.spells_or_unreadable with ⟨t, spells⟩ | broken
    · exact .inl ⟨_, .code digits leading trailing spells⟩
    · exact .inr (broken.escape ['u', a, b, c, d] (readEscape_code digits leading trailing))

/-- A text is read as what is meant, or refused, and the closing quotation mark with it. -/
theorem gives_text {value? : Option String} (quoted : Quoted value? w) (rest : List Char) :
    Gives (readText (w ++ '"' :: rest)) value? rest := by
  cases quoted with
  | text spells =>
    unfold readText
    rw [readCharacters_append spells]
    rfl
  | broken text meaningless =>
    rcases text.spells_or_unreadable with ⟨t, spells⟩ | broken
    · exact absurd spells (meaningless t)
    · obtain ⟨fault, refused⟩ := broken rest
      refine ⟨fault, ?_⟩
      unfold readText
      rw [refused]

theorem skipText_append (text : IsText w) (rest : List Char) :
    skipText (w ++ '"' :: rest) = .ok ((), rest) := by
  induction text with
  | nil => exact skipText_quote rest
  | plain plain _ ih => rw [List.cons_append, skipText_plain plain, ih]
  | escape escape _ ih =>
    rw [List.cons_append, List.cons_append, skipText_escape (skipEscape_letter escape _), ih]
  | code digits _ ih => exact (skipText_escape (skipEscape_code digits _)).trans ih

end PositionMap.Json
