import PositionMap.Proofs.Json.Numerals
import PositionMap.Proofs.Json.Texts

/-! # Written values are skipped

A written value of any kind and any depth is skipped to its end. The induction follows how a value is
written, inside brackets that are open already.
-/

namespace PositionMap.Json

variable {c : Char} {before text rest after : List Char} {bracket : Bracket} {outer : List Bracket}

/-! ## First characters -/

def startsValue (c : Char) : Bool :=
  c = 'n' || c = 't' || c = 'f' || c = '"' || c = '[' || c = '\x7b' || startsNumber c

theorem startsNumber_of_isDigit (digit : c.isDigit = true) : startsNumber c = true := by
  simp [startsNumber, digit]

theorem startsValue_of_startsNumber (number : startsNumber c = true) : startsValue c = true := by
  simp [startsValue, number]

theorem not_isSpace_of_startsValue (starts : startsValue c = true) : isSpace c = false := by
  have notBlank : c ≠ ' ' := ne_of_holds starts (by decide)
  have notTab : c ≠ '\t' := ne_of_holds starts (by decide)
  have notLine : c ≠ '\n' := ne_of_holds starts (by decide)
  have notReturn : c ≠ '\r' := ne_of_holds starts (by decide)
  simp [isSpace, notBlank, notTab, notLine, notReturn]

theorem IsNumber.exists_cons {w : List Char} (number : IsNumber w) :
    ∃ c tail, w = c :: tail ∧ startsNumber c = true := by
  cases number with
  | @negative w unsigned => exact ⟨'-', w, rfl, by decide⟩
  | unsigned unsigned =>
    obtain ⟨c, tail, rfl, digit⟩ := unsigned.exists_cons
    exact ⟨c, tail, rfl, startsNumber_of_isDigit digit⟩

theorem Writes.exists_cons {v : Value} {w : List Char} (writes : Writes v w) :
    ∃ c tail, w = c :: tail ∧ startsValue c = true := by
  cases writes with
  | number number =>
    obtain ⟨c, tail, rfl, starts⟩ := number.exists_cons
    exact ⟨c, tail, rfl, startsValue_of_startsNumber starts⟩
  | _ => exact ⟨_, _, rfl, by decide⟩

theorem Writes.skipSpace_eq {v : Value} {w : List Char} (writes : Writes v w) (space : Space before)
    (rest : List Char) : skipSpace (before ++ (w ++ rest)) = w ++ rest := by
  obtain ⟨c, tail, rfl, starts⟩ := writes.exists_cons
  exact skipSpace_eq_cons space (not_isSpace_of_startsValue starts) _

/-! ## Single steps -/

/-- What is left to skip behind a value inside the given brackets. -/
def skipOut : List Bracket → List Char → Outcome Unit
  | [], rest => .ok ((), rest)
  | bracket :: outer, rest => skipOn bracket true outer rest

def skipFront (brackets : List Bracket) (text : List Char) : Outcome Unit :=
  match text with
  | [] => faultIn .endInValue []
  | '[' :: rest => skipOn .list false brackets rest
  | '{' :: rest => skipOn .object false brackets rest
  | c :: rest =>
    match skipScalar (c :: rest) with
    | .error fault => .error fault
    | .ok (_, after) => skipOut brackets after

/-- Space in front of a value makes no difference. -/
theorem skipValueIn_eq (brackets : List Bracket) (text : List Char) :
    skipValueIn brackets text = skipFront brackets (skipSpace text) := by
  rw [skipValueIn.eq_def]
  split
  · exact (congrArg (skipFront brackets) ‹_›).symm
  · exact (congrArg (skipFront brackets) ‹_›).symm
  · exact (congrArg (skipFront brackets) ‹_›).symm
  · rename_i c rest notList notObject front
    refine Eq.trans ?_ (congrArg (skipFront brackets) front).symm
    rw [skipFront]
    · split
      · simp only [*]
      · simp only [*]
        cases brackets <;> rfl
    · simpa using notList
    · simpa using notObject

theorem skipValueIn_scalar (front : skipSpace text = c :: rest) (notList : c ≠ '[')
    (notObject : c ≠ '\x7b') (scalar : skipScalar (c :: rest) = .ok ((), after))
    (brackets : List Bracket) : skipValueIn brackets text = skipOut brackets after := by
  rw [skipValueIn_eq, front, skipFront]
  · simp only [scalar]
  · exact notList
  · exact notObject

theorem skipValueIn_list (front : skipSpace text = '[' :: rest) (brackets : List Bracket) :
    skipValueIn brackets text = skipOn .list false brackets rest := by
  rw [skipValueIn_eq, front]
  rfl

theorem skipValueIn_object (front : skipSpace text = '\x7b' :: rest) (brackets : List Bracket) :
    skipValueIn brackets text = skipOn .object false brackets rest := by
  rw [skipValueIn_eq, front]
  rfl

theorem skipValueIn_front (front : skipSpace text = c :: rest) (visible : isSpace c = false)
    (brackets : List Bracket) : skipValueIn brackets (c :: rest) = skipValueIn brackets text := by
  rw [skipValueIn_eq, skipValueIn_eq brackets text, front, skipSpace_cons visible]

theorem skipName_front (front : skipSpace text = '"' :: rest) :
    skipName .object ('"' :: rest) = skipName .object text := by
  unfold skipName
  rw [front, skipSpace_cons (by decide)]

theorem skipOn_closing (front : skipSpace text = bracket.closing :: rest) (afterValue : Bool) :
    skipOn bracket afterValue outer text = skipOut outer rest := by
  have notComma : bracket.closing ≠ ',' := by cases bracket <;> decide
  rw [skipOn.eq_def]
  split
  · rename_i none
    cases none.symm.trans front
  · rename_i other
    cases other.symm.trans front
    rw [if_neg (fun comma => notComma comma.2), if_pos rfl]
    cases outer <;> rfl

theorem skipOn_comma (bracket : Bracket) (front : skipSpace text = ',' :: rest)
    (name : skipName bracket rest = .ok ((), after)) :
    skipOn bracket true outer text = skipValueIn (bracket :: outer) after := by
  rw [skipOn.eq_def]
  split
  · rename_i none
    cases none.symm.trans front
  · rename_i other
    cases other.symm.trans front
    rw [if_pos ⟨rfl, rfl⟩]
    split
    · rename_i refused
      cases refused.symm.trans name
    · rename_i also
      cases also.symm.trans name
      rfl

theorem skipOn_first (front : skipSpace text = c :: rest) (inside : c ≠ bracket.closing)
    (name : skipName bracket (c :: rest) = .ok ((), after)) :
    skipOn bracket false outer text = skipValueIn (bracket :: outer) after := by
  rw [skipOn.eq_def]
  split
  · rename_i none
    cases none.symm.trans front
  · rename_i other
    cases other.symm.trans front
    rw [if_neg (by simp), if_neg inside, if_neg (by simp)]
    split
    · rename_i refused
      cases refused.symm.trans name
    · rename_i also
      cases also.symm.trans name
      rfl

/-! ## Written values -/

theorem skipScalar_number {w : List Char} (number : IsNumber w) (ends : Ends rest) :
    skipScalar (w ++ rest) = .ok ((), rest) := by
  cases number with
  | negative unsigned => exact skipUnsigned_append unsigned ends
  | unsigned unsigned =>
    rw [← skipUnsigned_append unsigned ends]
    obtain ⟨c, tail, rfl, digit⟩ := unsigned.exists_cons
    have notNull : c ≠ 'n' := ne_of_holds digit (by decide)
    have notTrue : c ≠ 't' := ne_of_holds digit (by decide)
    have notFalse : c ≠ 'f' := ne_of_holds digit (by decide)
    have notText : c ≠ '"' := ne_of_holds digit (by decide)
    have notSigned : c ≠ '-' := ne_of_holds digit (by decide)
    simp [skipScalar, digit]

theorem Heading.front {name? : Option String} {heading : List Char} (written : Heading name? heading)
    (rest : List Char) : ∃ w after, Quoted name? w ∧ Space after ∧
      skipSpace (heading ++ rest) = '"' :: (w ++ '"' :: (after ++ ':' :: rest)) := by
  cases written with
  | @mk before w after space quoted gap =>
    refine ⟨w, after, quoted, gap, ?_⟩
    rw [List.append_assoc, List.cons_append, List.append_assoc, List.cons_append, List.append_assoc]
    exact skipSpace_eq_cons space (by decide) _

theorem readColon_gap {gap : List Char} (space : Space gap) (rest : List Char) :
    readColon (gap ++ ':' :: rest) = .ok ((), rest) := by
  simp only [readColon, skipSpace_eq_cons space (show isSpace ':' = false by decide)]

theorem Heading.skipped {name? : Option String} {heading : List Char}
    (written : Heading name? heading) (rest : List Char) :
    skipName .object (heading ++ rest) = .ok ((), rest) := by
  obtain ⟨w, after, quoted, gap, front⟩ := written.front rest
  simp only [skipName, front, skipText_append quoted.isText, readColon_gap gap]

theorem WritesItems.exists_cons {vs : List Value} {w : List Char} (items : WritesItems vs w)
    (rest : List Char) :
    ∃ c tail, skipSpace (w ++ rest) = c :: tail ∧ startsValue c = true := by
  have padded : ∀ {v : Value} {w : List Char} (rest : List Char), WritesPadded v w →
      ∃ c tail, skipSpace (w ++ rest) = c :: tail ∧ startsValue c = true := by
    intro v w rest padded
    cases padded with
    | @mk v before w after space writes _ =>
      have front := writes.skipSpace_eq space (after ++ rest)
      obtain ⟨c, tail, rfl, starts⟩ := writes.exists_cons
      exact ⟨c, _, by simpa using front, starts⟩
  cases items with
  | one first => exact padded rest first
  | @more _ _ w ws first _ => simpa using padded (',' :: (ws ++ rest)) first

theorem WritesMembers.exists_quote {ms : Members} {w : List Char} (members : WritesMembers ms w)
    (rest : List Char) : ∃ tail, skipSpace (w ++ rest) = '"' :: tail := by
  cases members with
  | @one _ _ _ w heading _ =>
    obtain ⟨_, _, _, _, front⟩ := heading.front (w ++ rest)
    exact ⟨_, by simpa using front⟩
  | @more _ _ _ _ w ws heading _ _ =>
    obtain ⟨_, _, _, _, front⟩ := heading.front (w ++ ',' :: (ws ++ rest))
    exact ⟨_, by simpa using front⟩

mutual

theorem Writes.skipped {v : Value} {w : List Char} (writes : Writes v w) (brackets : List Bracket)
    {before rest : List Char} (space : Space before) (ends : Ends rest) :
    skipValueIn brackets (before ++ (w ++ rest)) = skipOut brackets rest := by
  have front := writes.skipSpace_eq space rest
  cases writes with
  | null => exact skipValueIn_scalar front (by decide) (by decide) rfl brackets
  | yes => exact skipValueIn_scalar front (by decide) (by decide) rfl brackets
  | no => exact skipValueIn_scalar front (by decide) (by decide) rfl brackets
  | number number =>
    have scalar := skipScalar_number number ends
    obtain ⟨c, tail, rfl, starts⟩ := number.exists_cons
    exact skipValueIn_scalar front (ne_of_holds starts (by decide)) (ne_of_holds starts (by decide))
      scalar brackets
  | @text _ w quoted =>
    rw [enclosed_append] at front ⊢
    have scalar : skipScalar ('"' :: (w ++ '"' :: rest)) = .ok ((), rest) :=
      skipText_append quoted.isText rest
    exact skipValueIn_scalar front (by decide) (by decide) scalar brackets
  | @noItems w gap =>
    rw [enclosed_append] at front ⊢
    rw [skipValueIn_list front]
    exact skipOn_closing (skipSpace_eq_cons gap (by decide) rest) false
  | @list vs w items =>
    rw [enclosed_append] at front ⊢
    rw [skipValueIn_list front]
    obtain ⟨c, tail, first, starts⟩ := items.exists_cons (']' :: rest)
    have inside : c ≠ Bracket.list.closing := ne_of_holds starts (by decide)
    exact (skipOn_first first inside rfl).trans
      ((skipValueIn_front first (not_isSpace_of_startsValue starts) _).trans
        (items.skipped brackets rest))
  | @noMembers w gap =>
    rw [enclosed_append] at front ⊢
    rw [skipValueIn_object front]
    exact skipOn_closing (skipSpace_eq_cons gap (by decide) rest) false
  | @object ms w members =>
    rw [enclosed_append] at front ⊢
    rw [skipValueIn_object front]
    obtain ⟨tail, first⟩ := members.exists_quote ('\x7d' :: rest)
    obtain ⟨after, name, skipped⟩ := members.skipped brackets rest
    rw [← skipName_front first] at name
    exact (skipOn_first first (by decide) name).trans skipped
-- blanks may be missing and an item the only one, so a part can be as long as the whole
termination_by 3 * w.length
decreasing_by all_goals grind

theorem WritesPadded.skipped {v : Value} {w : List Char} (padded : WritesPadded v w)
    (bracket : Bracket) (outer : List Bracket) {c : Char} (other : extendsNumber c = false)
    (rest : List Char) :
    ∃ after, Space after ∧
      skipValueIn (bracket :: outer) (w ++ c :: rest) =
        skipOn bracket true outer (after ++ c :: rest) := by
  cases padded with
  | @mk v before w after space writes gap =>
    rw [List.append_assoc, List.append_assoc]
    exact ⟨after, gap, writes.skipped (bracket :: outer) space ((ends_cons other rest).after gap)⟩
termination_by 3 * w.length + 1
decreasing_by all_goals grind

theorem WritesItems.skipped {vs : List Value} {w : List Char} (items : WritesItems vs w)
    (outer : List Bracket) (rest : List Char) :
    skipValueIn (.list :: outer) (w ++ ']' :: rest) = skipOut outer rest := by
  cases items with
  | one padded =>
    obtain ⟨after, gap, skipped⟩ := padded.skipped .list outer (c := ']') (by decide) rest
    rw [skipped]
    exact skipOn_closing (skipSpace_eq_cons gap rfl rest) true
  | @more _ _ w ws padded items =>
    obtain ⟨after, gap, skipped⟩ :=
      padded.skipped .list outer (c := ',') (by decide) (ws ++ ']' :: rest)
    rw [List.append_assoc, List.cons_append, skipped,
      skipOn_comma .list (skipSpace_eq_cons gap rfl _) rfl]
    exact items.skipped outer rest
termination_by 3 * w.length + 2
decreasing_by all_goals grind

theorem WritesMembers.skipped {ms : Members} {w : List Char} (members : WritesMembers ms w)
    (outer : List Bracket) (rest : List Char) :
    ∃ after, skipName .object (w ++ '\x7d' :: rest) = .ok ((), after) ∧
      skipValueIn (.object :: outer) after = skipOut outer rest := by
  cases members with
  | one heading padded =>
    rw [List.append_assoc, heading.skipped]
    obtain ⟨after, gap, skipped⟩ := padded.skipped .object outer (c := '\x7d') (by decide) rest
    exact ⟨_, rfl, skipped.trans (skipOn_closing (skipSpace_eq_cons gap rfl rest) true)⟩
  | @more _ _ _ _ w ws heading padded members =>
    obtain ⟨after, gap, skipped⟩ :=
      padded.skipped .object outer (c := ',') (by decide) (ws ++ '\x7d' :: rest)
    obtain ⟨next, name, skippedNext⟩ := members.skipped outer rest
    rw [List.append_assoc, heading.skipped, List.append_assoc, List.cons_append]
    refine ⟨_, rfl, ?_⟩
    rw [skipped, skipOn_comma .object (skipSpace_eq_cons gap rfl _) name, skippedNext]
termination_by 3 * w.length + 2
decreasing_by all_goals grind

end

theorem Writes.skipValue_append {v : Value} {w : List Char} (writes : Writes v w)
    (space : Space before) (ends : Ends rest) :
    skipValue (before ++ (w ++ rest)) = .ok ((), rest) :=
  writes.skipped [] space ends

end PositionMap.Json
