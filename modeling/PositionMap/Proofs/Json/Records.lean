import PositionMap.Proofs.Json.Values

/-! # Written records are read

A record is read member by member from the object it is written as, or item by item from a list. What
comes of it depends on the members alone and not on their order.
-/

namespace PositionMap.Json

variable {σ : Type} {shape : Shape σ} {c : Char} {text w rest lead left : List Char} {first : Bool}

/-! ## What is left of an object or a list -/

/-- What stands in front of a member or an item: a comma, unless it is the first one. -/
inductive Lead : Bool → List Char → Prop
  | first : Lead true []
  | next {gap : List Char} : Space gap → Lead false (gap ++ [','])

inductive MembersLeft : Bool → Members → List Char → Prop
  | none {first : Bool} {gap : List Char} : Space gap → MembersLeft first [] gap
  | member {first : Bool} {lead heading before w left : List Char} {name? : Option String} {v : Value}
      {ms : Members} : Lead first lead → Heading name? heading → Space before → Writes v w →
      MembersLeft false ms left →
      MembersLeft first ((name?, v) :: ms) (lead ++ (heading ++ (before ++ (w ++ left))))

inductive ItemsLeft : Bool → List Value → List Char → Prop
  | none {first : Bool} {gap : List Char} : Space gap → ItemsLeft first [] gap
  | item {first : Bool} {lead before w left : List Char} {v : Value} {vs : List Value} :
      Lead first lead → Space before → Writes v w → ItemsLeft false vs left →
      ItemsLeft first (v :: vs) (lead ++ (before ++ (w ++ left)))

theorem WritesMembers.membersLeft {ms : Members} (members : WritesMembers ms w)
    (leads : Lead first lead) : MembersLeft first ms (lead ++ w) := by
  induction ms generalizing first lead w with
  | nil => cases members
  | cons member ms ih =>
    cases members with
    | one heading padded =>
      cases padded with
      | mk space writes gap => exact .member leads heading space writes (.none gap)
    | more heading padded members =>
      cases padded with
      | mk space writes gap =>
        have next := MembersLeft.member leads heading space writes (ih members (.next gap))
        simpa using next

theorem WritesItems.itemsLeft {vs : List Value} (items : WritesItems vs w)
    (leads : Lead first lead) : ItemsLeft first vs (lead ++ w) := by
  induction vs generalizing first lead w with
  | nil => cases items
  | cons v vs ih =>
    cases items with
    | one padded =>
      cases padded with
      | mk space writes gap => exact .item leads space writes (.none gap)
    | more padded items =>
      cases padded with
      | mk space writes gap =>
        have next := ItemsLeft.item leads space writes (ih items (.next gap))
        simpa using next

theorem Lead.ends (leads : Lead false lead) (rest : List Char) : Ends (lead ++ rest) := by
  cases leads with
  | next gap =>
    rw [List.append_assoc]
    exact (ends_cons (by decide) rest).after gap

theorem MembersLeft.ends {ms : Members} (members : MembersLeft false ms left) (rest : List Char) :
    Ends (left ++ '\x7d' :: rest) := by
  cases members with
  | none gap => exact (ends_cons (by decide) rest).after gap
  | member leads _ _ _ _ =>
    rw [List.append_assoc]
    exact leads.ends _

theorem ItemsLeft.ends {vs : List Value} (items : ItemsLeft false vs left) (rest : List Char) :
    Ends (left ++ ']' :: rest) := by
  cases items with
  | none gap => exact (ends_cons (by decide) rest).after gap
  | item leads _ _ _ =>
    rw [List.append_assoc]
    exact leads.ends _

/-! ## Names -/

theorem readNextName_lead (leads : Lead first lead) (front : skipSpace text = '"' :: rest) :
    readNextName first (lead ++ text) = (readText rest).mapValue some := by
  cases leads with
  | first =>
    simp only [readNextName, List.nil_append, front]
    rfl
  | next gap =>
    have comma := skipSpace_eq_cons gap (show isSpace ',' = false by decide) text
    simp only [readNextName, List.append_assoc, List.singleton_append, comma, front]
    rfl

theorem gives_nextName (leads : Lead first lead) {name? : Option String} {heading : List Char}
    (written : Heading name? heading) (rest : List Char) : ∃ after, Space after ∧
      Gives (readNextName first (lead ++ (heading ++ rest))) (name?.map some)
        (after ++ ':' :: rest) := by
  obtain ⟨w, after, quoted, gap, front⟩ := written.front rest
  refine ⟨after, gap, ?_⟩
  rw [readNextName_lead leads front]
  exact (gives_text quoted (after ++ ':' :: rest)).map some

theorem readNextName_end {gap : List Char} (space : Space gap) (first : Bool) (rest : List Char) :
    readNextName first (gap ++ '\x7d' :: rest) = .ok (none, '\x7d' :: rest) := by
  simp only [readNextName, skipSpace_eq_cons space (show isSpace '\x7d' = false by decide)]
  rfl

/-! ## Items -/

theorem Writes.startsValue_front {v : Value} {before : List Char} (writes : Writes v w)
    (space : Space before) (rest : List Char) :
    ∃ c tail, skipSpace (before ++ (w ++ rest)) = c :: tail ∧ w ++ rest = c :: tail ∧
      startsValue c = true := by
  have front := writes.skipSpace_eq space rest
  obtain ⟨c, tail, rfl, starts⟩ := writes.exists_cons
  exact ⟨c, _, front, rfl, starts⟩

/-- The next item is found behind the comma and the space in front of it. -/
theorem readNextItem_item (leads : Lead first lead) (front : skipSpace text = c :: rest)
    (inside : c ≠ ']') : readNextItem first (lead ++ text) = .ok (true, c :: rest) := by
  cases leads with
  | first => simp [readNextItem, front, inside]
  | next gap =>
    have comma := skipSpace_eq_cons gap (show isSpace ',' = false by decide) text
    simp [readNextItem, comma, front, inside]

theorem readNextItem_end {gap : List Char} (space : Space gap) (first : Bool) (rest : List Char) :
    readNextItem first (gap ++ ']' :: rest) = .ok (false, ']' :: rest) := by
  simp only [readNextItem, skipSpace_eq_cons space (show isSpace ']' = false by decide)]
  rfl

theorem readListEnd_item (leads : Lead first lead) (front : skipSpace text = c :: rest)
    (starts : startsValue c = true) : ∃ fault, readListEnd (lead ++ text) = .error fault := by
  have inside : c ≠ ']' := ne_of_holds starts (by decide)
  have notComma : c ≠ ',' := ne_of_holds starts (by decide)
  cases leads with
  | first =>
    rw [List.nil_append]
    unfold readListEnd
    rw [front]
    split
    · contradiction
    · rename_i cons
      exact absurd (List.cons.inj cons).1 inside
    · rename_i cons
      exact absurd (List.cons.inj cons).1 notComma
    · exact ⟨_, rfl⟩
  | next gap =>
    have comma := skipSpace_eq_cons gap (show isSpace ',' = false by decide) text
    rw [List.append_assoc, List.singleton_append]
    unfold readListEnd
    rw [comma]
    simp only
    split <;> exact ⟨_, rfl⟩

theorem readListEnd_end {gap : List Char} (space : Space gap) (rest : List Char) :
    readListEnd (gap ++ ']' :: rest) = .ok ((), rest) := by
  simp only [readListEnd, skipSpace_eq_cons space (show isSpace ']' = false by decide)]

namespace Shape

def afterItems : Outcome σ → Outcome σ
  | .error fault => .error (fault.settle (afterList fault.rest))
  | .ok (record, rest) => (readListEnd rest).mapValue fun _ => record

def afterName (shape : Shape σ) (seen : List String) (record : σ) :
    Outcome (Option String) → Outcome σ
  | .error fault => .error fault
  | .ok (none, rest) =>
    match shape.missing? seen with
    | some member => faultOfRecord (.missingMember member.name) rest
    | none => .ok (record, rest.drop 1)
  | .ok (some name, rest) =>
    match shape.member? name with
    | some member =>
      if seen.contains name then faultOfRecord (.repeatedMember name) rest
      else
        match readColon rest with
        | .error fault => .error fault
        | .ok (_, rest) =>
          match member.read rest with
          | .error fault => .error fault
          | .ok (update, rest) => shape.readMembers false (name :: seen) (update record) rest
    | none =>
      if shape.closed then
        faultOfRecord (.unknownMember name (shape.members.map Member.name)) rest
      else
        match readColon rest with
        | .error fault => .error fault
        | .ok (_, rest) =>
          match skipValue rest with
          | .error fault => .error fault
          | .ok (_, rest) => shape.readMembers false seen record rest

theorem readMembers_eq (shape : Shape σ) (first : Bool) (seen : List String) (record : σ)
    (text : List Char) :
    shape.readMembers first seen record text =
      shape.afterName seen record (readNextName first text) := by
  rw [readMembers.eq_def]
  split
  · exact (congrArg (shape.afterName seen record) ‹_›).symm
  · exact (congrArg (shape.afterName seen record) ‹_›).symm
  · rename_i name rest next
    refine Eq.trans ?_ (congrArg (shape.afterName seen record) next).symm
    simp only [afterName]
    cases shape.member? name with
    | some member =>
      cases seen.contains name with
      | true => rfl
      | false =>
        dsimp only
        rw [if_neg (by simp), if_neg (by simp)]
        split <;> simp only [*]
        split <;> simp only [*]
    | none =>
      cases shape.closed with
      | true => rfl
      | false =>
        dsimp only
        rw [if_neg (by simp), if_neg (by simp)]
        split <;> simp only [*]
        split <;> simp only [*]

end Shape

structure Reading (shape : Shape σ) where
  update? : String → Value → Option (σ → σ)
  reads : ∀ member ∈ shape.members, Reads member.read (update? member.name)

namespace Reading

/-! ## Members one after the other -/

variable (reading : Reading shape)

/-- The record after the members of an object that are left, in their order. -/
def fromMembers? (seen : List String) (record : σ) : Members → Option σ
  | [] => if (shape.missing? seen).isSome then none else some record
  | (none, _) :: _ => none
  | (some name, v) :: ms =>
    if (shape.member? name).isSome then
      if seen.contains name then none
      else (reading.update? name v).bind fun update =>
        fromMembers? (name :: seen) (update record) ms
    else if shape.closed then none
    else fromMembers? seen record ms

def fromItems? : List (Member σ) → σ → List Value → Option σ
  | [], record, [] => some record
  | [], _, _ :: _ => none
  | member :: members, record, [] =>
    if member.required then none else fromItems? members record []
  | member :: members, record, v :: vs =>
    (reading.update? member.name v).bind fun update => fromItems? members (update record) vs

def value? : Value → Option σ
  | .object ms => reading.fromMembers? [] shape.blank ms
  | .list vs => reading.fromItems? shape.members shape.blank vs
  | _ => none

theorem readMembers_gives {ms : Members} (members : MembersLeft first ms left)
    (seen : List String) (record : σ) (rest : List Char) :
    Gives (shape.readMembers first seen record (left ++ '\x7d' :: rest))
      (reading.fromMembers? seen record ms) rest := by
  induction members generalizing seen record with
  | @none first gap space =>
    rw [Shape.readMembers_eq, readNextName_end space]
    unfold fromMembers? Shape.afterName
    cases shape.missing? seen with
    | none => rfl
    | some member => exact ⟨_, rfl⟩
  | @member first lead heading before w left name? v ms leads heads space writes members ih =>
    rw [Shape.readMembers_eq, show lead ++ (heading ++ (before ++ (w ++ left))) ++ '\x7d' :: rest =
      lead ++ (heading ++ (before ++ (w ++ (left ++ '\x7d' :: rest)))) by simp]
    obtain ⟨after, gap, next⟩ :=
      gives_nextName leads heads (before ++ (w ++ (left ++ '\x7d' :: rest)))
    cases name? with
    | none =>
      obtain ⟨fault, refused⟩ := next
      rw [refused]
      exact ⟨fault, rfl⟩
    | some name =>
      have named : readNextName first _ = .ok (some name, _) := next
      rw [named]
      have colon := readColon_gap gap (before ++ (w ++ (left ++ '\x7d' :: rest)))
      cases found : shape.member? name with
      | none =>
        by_cases closed : shape.closed
        · simp only [Shape.afterName, fromMembers?, found, closed, if_true]
          exact ⟨_, rfl⟩
        · have skipped := writes.skipValue_append space (members.ends rest)
          simp only [Shape.afterName, fromMembers?, found, if_neg closed, colon, skipped]
          exact ih seen record
      | some member =>
        by_cases again : seen.contains name
        · simp only [Shape.afterName, fromMembers?, found, again, if_true]
          exact ⟨_, rfl⟩
        · have known : member ∈ shape.members := List.mem_of_find?_eq_some found
          have same : member.name = name := by simpa using List.find?_some found
          have value := reading.reads member known v before w _ space writes (members.ends rest)
          rw [same] at value
          simp only [Shape.afterName, fromMembers?, found, if_neg again, colon, Option.isSome_some,
            if_true]
          rcases value.cases with ⟨fault, refused, told⟩ | ⟨update, read, told⟩
          · rw [refused, told]
            exact ⟨fault, rfl⟩
          · rw [read, told]
            exact ih (name :: seen) (update record)

theorem readItems_gives (members : List (Member σ))
    (known : ∀ member ∈ members, member ∈ shape.members) {vs : List Value} (count : Nat)
    (items : ItemsLeft (count == 0) vs left) (record : σ) (rest : List Char) :
    Gives (Shape.afterItems (shape.readItems count record members (left ++ ']' :: rest)))
      (reading.fromItems? members record vs) rest := by
  induction members generalizing vs left count record with
  | nil =>
    cases items with
    | none space =>
      simp only [Shape.readItems, Shape.afterItems, readListEnd_end space]
      rfl
    | @item _ lead before w left v vs leads space writes items =>
      rw [List.append_assoc, List.append_assoc, List.append_assoc]
      obtain ⟨c, tail, front, _, starts⟩ := writes.startsValue_front space (left ++ ']' :: rest)
      obtain ⟨fault, refused⟩ := readListEnd_item leads front starts
      simp only [Shape.readItems, Shape.afterItems, refused]
      exact ⟨fault, rfl⟩
  | cons member members ih =>
    have others : ∀ member ∈ members, member ∈ shape.members :=
      fun other among => known other (List.mem_cons_of_mem _ among)
    cases items with
    | none space =>
      simp only [Shape.readItems, readNextItem_end space]
      by_cases required : member.required
      · simp only [required, if_true, fromItems?]
        exact ⟨_, rfl⟩
      · simp only [if_neg required, fromItems?]
        have none : ItemsLeft (count == 0) [] [] := .none space_nil
        exact ih others count none record
    | @item _ lead before w left v vs leads space writes items =>
      rw [List.append_assoc, List.append_assoc, List.append_assoc]
      obtain ⟨c, tail, front, whole, starts⟩ := writes.startsValue_front space (left ++ ']' :: rest)
      simp only [Shape.readItems, fromItems?,
        readNextItem_item leads front (ne_of_holds starts (by decide)), ← whole]
      have value := reading.reads member (known member List.mem_cons_self) v [] w
        (left ++ ']' :: rest) space_nil writes (items.ends rest)
      rw [List.nil_append] at value
      rcases value.cases with ⟨fault, refused, told⟩ | ⟨update, read, told⟩
      · rw [refused, told]
        exact ⟨_, rfl⟩
      · rw [read, told]
        exact ih others (count + 1) items (update record)

theorem readObject_gives {ms : Members} (members : MembersLeft true ms left) (rest : List Char) :
    Gives (shape.readObject (left ++ '\x7d' :: rest)) (reading.fromMembers? [] shape.blank ms)
      rest := by
  unfold Shape.readObject
  rcases (reading.readMembers_gives members [] shape.blank rest).cases with
      ⟨fault, refused, told⟩ | ⟨record, read, told⟩
  · rw [refused, told]
    exact ⟨_, rfl⟩
  · rw [read, told]
    rfl

theorem reads_value : Reads shape.read reading.value? := by
  intro v before w rest space writes ends
  have front := writes.skipSpace_eq space rest
  unfold Shape.read
  rw [front]
  cases writes with
  | noMembers gap =>
    rw [enclosed_append]
    exact reading.readObject_gives (.none gap) rest
  | object members =>
    rw [enclosed_append]
    exact reading.readObject_gives (members.membersLeft .first) rest
  | noItems gap =>
    rw [enclosed_append]
    exact reading.readItems_gives shape.members (fun _ among => among) 0 (.none gap) shape.blank rest
  | list items =>
    rw [enclosed_append]
    exact reading.readItems_gives shape.members (fun _ among => among) 0 (items.itemsLeft .first)
      shape.blank rest
  | number number =>
    obtain ⟨c, tail, rfl, starts⟩ := number.exists_cons
    rw [List.cons_append]
    split
    · rename_i cons
      exact absurd (List.cons.inj cons).1 (ne_of_holds starts (by decide))
    · rename_i cons
      exact absurd (List.cons.inj cons).1 (ne_of_holds starts (by decide))
    · exact mismatch_refuses _ _
  | null => exact mismatch_refuses _ _
  | yes => exact mismatch_refuses _ _
  | no => exact mismatch_refuses _ _
  | text _ => exact mismatch_refuses _ _

end Reading

end PositionMap.Json
