import PositionMap.Proofs.Json.Records

/-! # The order of members makes no difference

The members of an object are read in the order in which they are written. Here each member of the record
looks for its value instead, and the same record comes of it: a value is found if it is the only one
under its name.
-/

namespace PositionMap.Json

variable {σ : Type} {shape : Shape σ} {name : String} {v : Value} {ms : Members}

/-! ## Values under a name -/

theorem valuesOf_cons_self (name : String) (v : Value) (ms : Members) :
    valuesOf name ((some name, v) :: ms) = v :: valuesOf name ms := by
  simp [valuesOf]

theorem valuesOf_cons_of_ne {name? : Option String} (other : name? ≠ some name) (v : Value)
    (ms : Members) : valuesOf name ((name?, v) :: ms) = valuesOf name ms := by
  simp [valuesOf, other]

theorem valuesOf_perm {ms' : Members} (perm : ms.Perm ms') (name : String) :
    (valuesOf name ms).Perm (valuesOf name ms') :=
  perm.filterMap _

/-! ## Gathering -/

namespace Reading

variable (reading : Reading shape)

/-- The record after one of its members has looked for its value. It must not find one if it has been
seen before. -/
def given? (seen : List String) (ms : Members) (member : Member σ) (record : σ) : Option σ :=
  match valuesOf member.name ms with
  | [] => if member.required && !seen.contains member.name then none else some record
  | [v] =>
    if seen.contains member.name then none
    else (reading.update? member.name v).map fun update => update record
  | _ => none

def gatherFrom? (seen : List String) (ms : Members) : List (Member σ) → σ → Option σ
  | [], record => some record
  | member :: members, record =>
    (reading.given? seen ms member record).bind (gatherFrom? seen ms members)

/-- All names are texts, and none is unknown to a closed record. -/
def named (shape : Shape σ) (ms : Members) : Bool :=
  ms.all fun member =>
    match member.1 with
    | none => false
    | some name => (shape.member? name).isSome || !shape.closed

/-- What the updates of different members do does not depend on which is first. -/
structure Orderly : Prop where
  distinct : (shape.members.map Member.name).Nodup
  commute : ∀ {name other : String} {v w : Value} {update after : σ → σ}, name ≠ other →
    reading.update? name v = some update → reading.update? other w = some after →
    ∀ record, after (update record) = update (after record)

variable {reading} {seen seen' : List String} {ms' : Members} {member : Member σ}
variable {members : List (Member σ)} {record : σ}

theorem gatherFrom?_congr
    (same : ∀ member ∈ members, reading.given? seen ms member = reading.given? seen' ms' member)
    (record : σ) : reading.gatherFrom? seen ms members record =
      reading.gatherFrom? seen' ms' members record := by
  induction members generalizing record with
  | nil => rfl
  | cons member members ih =>
    obtain ⟨here, later⟩ := List.forall_mem_cons.mp same
    have tails : reading.gatherFrom? seen ms members = reading.gatherFrom? seen' ms' members :=
      funext fun record => ih later record
    rw [gatherFrom?, gatherFrom?, here, tails]

theorem gatherFrom?_eq_none (among : member ∈ members)
    (refused : ∀ record, reading.given? seen ms member record = none) (record : σ) :
    reading.gatherFrom? seen ms members record = none := by
  induction members generalizing record with
  | nil => cases among
  | cons first members ih =>
    rw [gatherFrom?]
    rcases List.mem_cons.mp among with rfl | among
    · rw [refused]
      rfl
    · cases reading.given? seen ms first record with
      | none => rfl
      | some record => exact ih among record

theorem gatherFrom?_nil (record : σ) :
    reading.gatherFrom? seen [] members record =
      if (members.find? fun member => member.required && !seen.contains member.name).isSome then none
      else some record := by
  induction members with
  | nil => rfl
  | cons member members ih =>
    have given : reading.given? seen [] member record =
        if member.required && !seen.contains member.name then none else some record := rfl
    rw [gatherFrom?, given, List.find?_cons]
    cases member.required && !seen.contains member.name with
    | true => rfl
    | false => exact ih

/-- A value under another name is not looked at. -/
theorem given?_cons_of_ne {name? : Option String} (other : name? ≠ some member.name) (v : Value) :
    reading.given? seen ((name?, v) :: ms) member = reading.given? seen ms member := by
  funext record
  rw [given?, given?, valuesOf_cons_of_ne other]

/-- Whether another name has been seen makes no difference. -/
theorem given?_seen_of_ne (other : member.name ≠ name) :
    reading.given? (name :: seen) ms member = reading.given? seen ms member := by
  funext record
  have same : (name :: seen).contains member.name = seen.contains member.name := by
    simp [other]
  rw [given?, given?, same]

theorem given?_cons_of_seen (again : seen.contains member.name = true) (v : Value) (record : σ) :
    reading.given? seen ((some member.name, v) :: ms) member record = none := by
  rw [given?, valuesOf_cons_self]
  cases valuesOf member.name ms with
  | nil => exact if_pos again
  | cons _ _ => rfl

/-- An update made before is made after all. -/
theorem given?_update (orderly : reading.Orderly) (other : member.name ≠ name)
    {update : σ → σ} (told : reading.update? name v = some update) (record : σ) :
    reading.given? seen ms member (update record) =
      (reading.given? seen ms member record).map update := by
  unfold given?
  split
  · split <;> rfl
  · split
    · rfl
    · cases also : reading.update? member.name _ with
      | none => rfl
      | some after =>
        exact congrArg some (orderly.commute (Ne.symm other) told also record)
  · rfl

theorem given?_cons_self (unseen : seen.contains member.name = false) (v : Value) (record : σ)
    (next : σ → Option σ) :
    (reading.given? seen ((some member.name, v) :: ms) member record).bind next =
      (reading.update? member.name v).bind fun update =>
        (reading.given? (member.name :: seen) ms member (update record)).bind next := by
  rw [given?, valuesOf_cons_self]
  cases values : valuesOf member.name ms with
  | nil =>
    have settled : ∀ record,
        reading.given? (member.name :: seen) ms member record = some record := by
      intro record
      rw [given?, values]
      simp
    simp only [if_neg (Bool.eq_false_iff.mp unseen), settled]
    cases reading.update? member.name v <;> rfl
  | cons another more =>
    have refused : ∀ record,
        reading.given? (member.name :: seen) ms member record = none := by
      intro record
      rw [given?, values]
      cases more with
      | nil => simp
      | cons _ _ => rfl
    simp only [refused]
    cases reading.update? member.name v <;> rfl

theorem gatherFrom?_cons (orderly : reading.Orderly) (unseen : seen.contains name = false)
    (distinct : (members.map Member.name).Nodup) (known : name ∈ members.map Member.name)
    (record : σ) :
    reading.gatherFrom? seen ((some name, v) :: ms) members record =
      (reading.update? name v).bind fun update =>
        reading.gatherFrom? (name :: seen) ms members (update record) := by
  induction members generalizing record with
  | nil => cases known
  | cons member members ih =>
    rw [List.map_cons, List.nodup_cons] at distinct
    rw [gatherFrom?]
    by_cases same : member.name = name
    · subst same
      have tails : reading.gatherFrom? seen ((some member.name, v) :: ms) members =
          reading.gatherFrom? (member.name :: seen) ms members := by
        refine funext (gatherFrom?_congr fun other among => ?_)
        have differs : other.name ≠ member.name := by
          intro equal
          exact distinct.1 (equal ▸ List.mem_map_of_mem among)
        rw [given?_cons_of_ne (fun equal => differs (Option.some.inj equal).symm),
          given?_seen_of_ne differs]
      rw [tails]
      exact given?_cons_self unseen v record _
    · have later : name ∈ members.map Member.name := by simpa [Ne.symm same] using known
      have tails : reading.gatherFrom? seen ((some name, v) :: ms) members = fun record =>
          (reading.update? name v).bind fun update =>
            reading.gatherFrom? (name :: seen) ms members (update record) :=
        funext fun record => ih distinct.2 later record
      rw [given?_cons_of_ne (fun equal => same (Option.some.inj equal).symm), tails]
      cases told : reading.update? name v with
      | none => cases reading.given? seen ms member record <;> rfl
      | some update =>
        rw [Option.bind_some, gatherFrom?, given?_seen_of_ne same, given?_update orderly same told]
        cases reading.given? seen ms member record <;> rfl

/-- The members of an object in their order and each member of the record for itself. -/
theorem fromMembers?_eq_gatherFrom? (orderly : reading.Orderly) (seen : List String) (record : σ)
    (ms : Members) : reading.fromMembers? seen record ms =
      if named shape ms then reading.gatherFrom? seen ms shape.members record else none := by
  induction ms generalizing seen record with
  | nil => exact (gatherFrom?_nil record).symm
  | cons member ms ih =>
    obtain ⟨name?, v⟩ := member
    cases name? with
    | none => rfl
    | some name =>
      have named_cons : named shape ((some name, v) :: ms) =
          (((shape.member? name).isSome || !shape.closed) && named shape ms) := rfl
      rw [fromMembers?, named_cons]
      cases found : shape.member? name with
      | none =>
        have unknown : ∀ member ∈ shape.members, some name ≠ some member.name := by
          intro member among equal
          have differs := List.find?_eq_none.mp found member among
          simp [Option.some.inj equal] at differs
        rw [gatherFrom?_congr fun member among => given?_cons_of_ne (unknown member among) v, ih]
        cases shape.closed <;> rfl
      | some member =>
        have among : member ∈ shape.members := List.mem_of_find?_eq_some found
        have same : member.name = name := by simpa using List.find?_some found
        subst same
        by_cases again : seen.contains member.name
        · rw [gatherFrom?_eq_none among fun record => given?_cons_of_seen again v record]
          simp only [Option.isSome_some, if_true, again, ite_self]
        · have unseen : seen.contains member.name = false := by simpa using again
          rw [gatherFrom?_cons orderly unseen orderly.distinct (List.mem_map_of_mem among)]
          simp only [Option.isSome_some, if_true, unseen, Bool.true_or, Bool.true_and, ih]
          cases named shape ms with
          | true => rfl
          | false => cases reading.update? member.name v <;> rfl

/-! ## What is refused -/

theorem given?_of_missing (missing : valuesOf member.name ms = [])
    (required : member.required = true) (record : σ) : reading.given? [] ms member record = none := by
  rw [given?, missing]
  simp [required]

theorem given?_of_twice (twice : 2 ≤ (valuesOf member.name ms).length) (record : σ) :
    reading.given? seen ms member record = none := by
  rw [given?]
  cases values : valuesOf member.name ms with
  | nil => simp [values] at twice
  | cons v more =>
    cases more with
    | nil => simp [values] at twice
    | cons _ _ => rfl

theorem given?_of_refused (among : v ∈ valuesOf member.name ms)
    (refused : reading.update? member.name v = none) (record : σ) :
    reading.given? seen ms member record = none := by
  rw [given?]
  cases values : valuesOf member.name ms with
  | nil => simp [values] at among
  | cons w more =>
    cases more with
    | nil =>
      rw [values, List.mem_singleton] at among
      subst among
      simp [refused]
    | cons _ _ => rfl

theorem fromMembers?_eq_none (orderly : reading.Orderly) (among : member ∈ shape.members)
    (refused : ∀ record, reading.given? [] ms member record = none) :
    reading.fromMembers? [] record ms = none := by
  rw [fromMembers?_eq_gatherFrom? orderly, gatherFrom?_eq_none among refused, ite_self]

/-- A member of a record that is written twice, or has a value that is not accepted. -/
def Misfit (names : List String) (accepts : String → Value → Bool) (ms : Members) : Prop :=
  (∃ name ∈ names, 2 ≤ (valuesOf name ms).length) ∨
    ∃ name ∈ names, ∃ v ∈ valuesOf name ms, accepts name v = false

theorem fromMembers?_of_misfit (orderly : reading.Orderly) {accepts : String → Value → Bool}
    (refuses : ∀ name v, accepts name v = false → reading.update? name v = none)
    (misfit : Misfit (shape.members.map Member.name) accepts ms) :
    reading.fromMembers? [] record ms = none := by
  rcases misfit with ⟨name, known, twice⟩ | ⟨name, known, v, given, refused⟩
  · obtain ⟨member, among, rfl⟩ := List.mem_map.mp known
    exact fromMembers?_eq_none orderly among (given?_of_twice twice)
  · obtain ⟨member, among, rfl⟩ := List.mem_map.mp known
    exact fromMembers?_eq_none orderly among (given?_of_refused given (refuses _ v refused))

theorem fromMembers?_of_unnamed (orderly : reading.Orderly) (unnamed : named shape ms = false) :
    reading.fromMembers? [] record ms = none := by
  rw [fromMembers?_eq_gatherFrom? orderly, unnamed]
  rfl

/-! ## What makes no difference -/

theorem eq_or_twice_of_perm {l l' : List Value} (perm : l.Perm l') :
    l = l' ∨ 2 ≤ l.length ∧ 2 ≤ l'.length := by
  have lengths := perm.length_eq
  match l, l' with
  | [], l' => exact .inl perm.nil_eq
  | [v], l' => exact .inl (List.perm_singleton.mp perm.symm).symm
  | _ :: _ :: _, l' => exact .inr ⟨by simp, by rw [← lengths]; simp⟩

theorem given?_perm (perm : ms.Perm ms') :
    reading.given? seen ms member = reading.given? seen ms' member := by
  funext record
  rcases eq_or_twice_of_perm (valuesOf_perm perm member.name) with same | ⟨twice, again⟩
  · rw [given?, given?, same]
  · rw [given?_of_twice twice, given?_of_twice again]

theorem fromMembers?_perm (orderly : reading.Orderly) (perm : ms.Perm ms') :
    reading.fromMembers? [] record ms = reading.fromMembers? [] record ms' := by
  have names : named shape ms = named shape ms' := perm.all_eq
  rw [fromMembers?_eq_gatherFrom? orderly, fromMembers?_eq_gatherFrom? orderly, names,
    gatherFrom?_congr fun member _ => given?_perm perm]

theorem member?_eq_none (unknown : name ∉ shape.members.map Member.name) :
    shape.member? name = none := by
  refine List.find?_eq_none.mpr fun member among same => unknown ?_
  rw [beq_iff_eq] at same
  exact same ▸ List.mem_map_of_mem among

theorem fromMembers?_insert (orderly : reading.Orderly) (isOpen : shape.closed = false)
    (unknown : shape.member? name = none) (v : Value) (before after : Members) :
    reading.fromMembers? [] record (before ++ (some name, v) :: after) =
      reading.fromMembers? [] record (before ++ after) := by
  rw [fromMembers?_perm orderly List.perm_middle, fromMembers?]
  simp [unknown, isOpen]

theorem fromMembers?_replace (orderly : reading.Orderly) {w : Value}
    (same : reading.update? name v = reading.update? name w) (before after : Members) :
    reading.fromMembers? [] record (before ++ (some name, v) :: after) =
      reading.fromMembers? [] record (before ++ (some name, w) :: after) := by
  rw [fromMembers?_perm orderly List.perm_middle, fromMembers?_perm orderly List.perm_middle,
    fromMembers?, fromMembers?, same]

/-- The members in any order, with other members put in anywhere or left out. -/
inductive Shuffled (known : List String) : Members → Members → Prop
  | perm {ms ms' : Members} : ms.Perm ms' → Shuffled known ms ms'
  | insert {name : String} {v : Value} {before after : Members} : name ∉ known →
      Shuffled known (before ++ after) (before ++ (some name, v) :: after)
  | remove {name : String} {v : Value} {before after : Members} : name ∉ known →
      Shuffled known (before ++ (some name, v) :: after) (before ++ after)
  | trans {ms ms' ms'' : Members} : Shuffled known ms ms' → Shuffled known ms' ms'' →
      Shuffled known ms ms''

theorem Shuffled.fromMembers?_eq (orderly : reading.Orderly) (isOpen : shape.closed = false)
    (shuffled : Shuffled (shape.members.map Member.name) ms ms') :
    reading.fromMembers? [] record ms = reading.fromMembers? [] record ms' := by
  induction shuffled with
  | perm perm => exact fromMembers?_perm orderly perm
  | insert unknown =>
    exact (fromMembers?_insert orderly isOpen (member?_eq_none unknown) _ _ _).symm
  | remove unknown => exact fromMembers?_insert orderly isOpen (member?_eq_none unknown) _ _ _
  | trans _ _ first second => exact first.trans second

end Reading

/-! ## One value under a name -/

variable {α : Type} {meaning : Value → Option α} {default : α}

/-- What the only value under a name means, and the default without one. -/
def atMostOne (name : String) (meaning : Value → Option α) (default : α) (ms : Members) : Option α :=
  match valuesOf name ms with
  | [] => some default
  | [v] => meaning v
  | _ => none

theorem eq_of_atMostOne {value : α} (made : atMostOne name meaning default ms = some value)
    (absent : valuesOf name ms = []) : value = default := by
  rw [atMostOne, absent] at made
  exact (Option.some.inj made).symm

def exactlyOne (name : String) (meaning : Value → Option α) (ms : Members) : Option α :=
  match valuesOf name ms with
  | [v] => meaning v
  | _ => none

def namedAll (ms : Members) : Bool :=
  ms.all fun member => member.1.isSome

def namedWithin (known : List String) (ms : Members) : Bool :=
  ms.all fun member => member.1.any known.contains

namespace Reading

variable {reading : Reading shape} {member : Member σ} {members : List (Member σ)} {record : σ}

theorem gatherFrom?_optional {put : α → σ → σ} (optional : member.required = false)
    (told : ∀ v, reading.update? member.name v = (meaning v).map put)
    (blank : put default record = record) :
    reading.gatherFrom? [] ms (member :: members) record =
      (atMostOne member.name meaning default ms).bind fun value =>
        reading.gatherFrom? [] ms members (put value record) := by
  rw [gatherFrom?, given?, atMostOne]
  cases valuesOf member.name ms with
  | nil => simp [optional, blank]
  | cons v more =>
    cases more with
    | nil =>
      simp only [told]
      cases meaning v <;> rfl
    | cons _ _ => rfl

theorem gatherFrom?_required {put : α → σ → σ} (required : member.required = true)
    (told : ∀ v, reading.update? member.name v = (meaning v).map put) :
    reading.gatherFrom? [] ms (member :: members) record =
      (exactlyOne member.name meaning ms).bind fun value =>
        reading.gatherFrom? [] ms members (put value record) := by
  rw [gatherFrom?, given?, exactlyOne]
  cases valuesOf member.name ms with
  | nil => simp [required]
  | cons v more =>
    cases more with
    | nil =>
      simp only [told]
      cases meaning v <;> rfl
    | cons _ _ => rfl

/-- An update that is told by one of several names. -/
theorem of_ite_update {c : Prop} [Decidable c] {value? : Option α} {put : α → σ → σ}
    {others : Option (σ → σ)} {update : σ → σ}
    (told : (if c then value?.map put else others) = some update) :
    (c ∧ ∃ value, update = put value) ∨ others = some update := by
  by_cases chosen : c
  · rw [if_pos chosen] at told
    obtain ⟨value, -, rfl⟩ := Option.map_eq_some_iff.mp told
    exact .inl ⟨chosen, value, rfl⟩
  · rw [if_neg chosen] at told
    exact .inr told

theorem named_of_open (isOpen : shape.closed = false) (ms : Members) :
    named shape ms = namedAll ms := by
  unfold named namedAll
  congr
  funext member
  cases member.1 <;> simp [isOpen]

theorem named_of_closed (closed : shape.closed = true) (ms : Members) :
    named shape ms = namedWithin (shape.members.map Member.name) ms := by
  unfold named namedWithin
  congr
  funext member
  cases member.1 with
  | none => rfl
  | some name =>
    rw [Bool.eq_iff_iff]
    simp [closed, Shape.member?, List.find?_isSome]

end Reading

end PositionMap.Json
