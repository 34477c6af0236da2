import Mathlib.Tactic.SplitIfs
import PositionMap.Feed
import PositionMap.Proofs.Json.Gathering

/-! # The report that a payload gives

A report is decoded from the members of its payload that it knows, each for itself. Their order and all
other members make no difference, in the payload and in the object of the fix. Members that are left out
are nothing, but there is no report without a fix.
-/

namespace PositionMap

open Json (Members Tells Value valuesOf atMostOne exactlyOne)
open Json.Reading (Misfit Shuffled)

namespace Fix

def memberNames : List String := ["latitude", "longitude", "fix_status", "visible_satellites"]

def update? (name : String) (v : Value) : Option (Fix → Fix) :=
  if name = "latitude" then v.float?.map fun value fix => { fix with latitude := value }
  else if name = "longitude" then v.float?.map fun value fix => { fix with longitude := value }
  else if name = "fix_status" then v.string?.map fun value fix => { fix with status := value }
  else if name = "visible_satellites" then
    v.count?.map fun value fix => { fix with satellites := value }
  else none

def reading : Json.Reading shape where
  update? := update?
  reads := by
    intro member among
    simp only [shape, List.mem_cons, List.not_mem_nil, or_false] at among
    rcases among with rfl | rfl | rfl | rfl
    · exact Json.reads_float.map _
    · exact Json.reads_float.map _
    · exact Json.reads_string.map _
    · exact Json.reads_count.map _

theorem update?_cases {name : String} {v : Value} {update : Fix → Fix}
    (told : update? name v = some update) :
    (name = "latitude" ∧ ∃ x, update = fun fix => { fix with latitude := x }) ∨
      (name = "longitude" ∧ ∃ x, update = fun fix => { fix with longitude := x }) ∨
      (name = "fix_status" ∧ ∃ status, update = fun fix => { fix with status := status }) ∨
      name = "visible_satellites" ∧ ∃ n, update = fun fix => { fix with satellites := n } := by
  unfold update? at told
  rcases Json.Reading.of_ite_update told with latitude | told
  · exact .inl latitude
  rcases Json.Reading.of_ite_update told with longitude | told
  · exact .inr (.inl longitude)
  rcases Json.Reading.of_ite_update told with status | told
  · exact .inr (.inr (.inl status))
  rcases Json.Reading.of_ite_update told with satellites | told
  · exact .inr (.inr (.inr satellites))
  · cases told

theorem orderly : reading.Orderly where
  distinct := by decide
  commute := by
    intro name other v w update after different told also record
    rcases update?_cases told with
        ⟨rfl, _, rfl⟩ | ⟨rfl, _, rfl⟩ | ⟨rfl, _, rfl⟩ | ⟨rfl, _, rfl⟩ <;>
      rcases update?_cases also with
          ⟨rfl, _, rfl⟩ | ⟨rfl, _, rfl⟩ | ⟨rfl, _, rfl⟩ | ⟨rfl, _, rfl⟩ <;>
        first | rfl | exact absurd rfl different

/-- The fix of the members of an object: a number in range for a coordinate, a text for the status, and
digits that make a number of at most 32 bits for the satellites. -/
def ofMembers? (ms : Members) : Option Fix :=
  if Json.namedAll ms then do
    let latitude ← atMostOne "latitude" Value.float? 0 ms
    let longitude ← atMostOne "longitude" Value.float? 0 ms
    let status ← atMostOne "fix_status" Value.string? "" ms
    let satellites ← atMostOne "visible_satellites" Value.count? 0 ms
    some ⟨latitude, longitude, status, satellites⟩
  else none

theorem fromMembers?_eq (ms : Members) : reading.fromMembers? [] blank ms = ofMembers? ms := by
  rw [Json.Reading.fromMembers?_eq_gatherFrom? orderly, Json.Reading.named_of_open rfl, ofMembers?]
  congr
  refine (Json.Reading.gatherFrom?_optional rfl (fun _ => rfl) rfl).trans
    (congrArg _ (funext fun latitude => ?_))
  refine (Json.Reading.gatherFrom?_optional rfl (fun _ => rfl) rfl).trans
    (congrArg _ (funext fun longitude => ?_))
  refine (Json.Reading.gatherFrom?_optional rfl (fun _ => rfl) rfl).trans
    (congrArg _ (funext fun status => ?_))
  exact (Json.Reading.gatherFrom?_optional rfl (fun _ => rfl) rfl).trans
    (congrArg _ (funext fun satellites => rfl))

def value? : Value → Option Fix
  | .object ms => ofMembers? ms
  | .list items => reading.fromItems? shape.members blank items
  | _ => none

theorem reads_value : Json.Reads shape.read value? := by
  have same : reading.value? = value? := by
    funext v
    cases v with
    | object ms => exact fromMembers?_eq ms
    | _ => rfl
  exact same ▸ reading.reads_value

def accepts (name : String) (v : Value) : Bool :=
  if name = "latitude" then v.float?.isSome
  else if name = "longitude" then v.float?.isSome
  else if name = "fix_status" then v.string?.isSome
  else if name = "visible_satellites" then v.count?.isSome
  else true

theorem update?_of_not_accepts (name : String) (v : Value) (refused : accepts name v = false) :
    update? name v = none := by
  unfold accepts at refused
  unfold update?
  split_ifs at refused ⊢
  · simpa using refused
  · simpa using refused
  · simpa using refused
  · simpa using refused

/-- Members that are left out are nothing. -/
structure Completes (ms : Members) (fix : Fix) : Prop where
  latitude : valuesOf "latitude" ms = [] → fix.latitude = 0
  longitude : valuesOf "longitude" ms = [] → fix.longitude = 0
  status : valuesOf "fix_status" ms = [] → fix.status = ""
  satellites : valuesOf "visible_satellites" ms = [] → fix.satellites = 0

theorem completes_of_ofMembers? {ms : Members} {fix : Fix} (made : ofMembers? ms = some fix) :
    Completes ms fix := by
  unfold ofMembers? at made
  split at made
  · simp only [Option.bind_eq_bind, Option.bind_eq_some_iff, Option.some.injEq] at made
    obtain ⟨latitude, latitudes, longitude, longitudes, status, statuses, satellites, counts, rfl⟩ :=
      made
    exact ⟨Json.eq_of_atMostOne latitudes, Json.eq_of_atMostOne longitudes,
      Json.eq_of_atMostOne statuses, Json.eq_of_atMostOne counts⟩
  · cases made

theorem ofMembers?_of_misfit {ms : Members} (misfit : Misfit memberNames accepts ms) :
    ofMembers? ms = none := by
  rw [← fromMembers?_eq]
  exact Json.Reading.fromMembers?_of_misfit orderly update?_of_not_accepts misfit

theorem ofMembers?_of_shuffled {ms ms' : Members} (shuffled : Shuffled memberNames ms ms') :
    ofMembers? ms = ofMembers? ms' := by
  rw [← fromMembers?_eq, ← fromMembers?_eq]
  exact shuffled.fromMembers?_eq orderly rfl

end Fix

namespace Report

def memberNames : List String := ["pvt", "offset_x", "offset_y", "has_reference"]

def update? (name : String) (v : Value) : Option (Report → Report) :=
  if name = "pvt" then (Fix.value? v).map fun value report => { report with fix := value }
  else if name = "offset_x" then v.float?.map fun value report => { report with offset.x := value }
  else if name = "offset_y" then v.float?.map fun value report => { report with offset.y := value }
  else if name = "has_reference" then
    v.flag?.map fun value report => { report with hasReference := value }
  else none

def reading : Json.Reading shape where
  update? := update?
  reads := by
    intro member among
    simp only [shape, List.mem_cons, List.not_mem_nil, or_false] at among
    rcases among with rfl | rfl | rfl | rfl
    · exact Fix.reads_value.map _
    · exact Json.reads_float.map _
    · exact Json.reads_float.map _
    · exact Json.reads_flag.map _

theorem update?_cases {name : String} {v : Value} {update : Report → Report}
    (told : update? name v = some update) :
    (name = "pvt" ∧ ∃ fix, update = fun report => { report with fix := fix }) ∨
      (name = "offset_x" ∧ ∃ x, update = fun report => { report with offset.x := x }) ∨
      (name = "offset_y" ∧ ∃ y, update = fun report => { report with offset.y := y }) ∨
      name = "has_reference" ∧
        ∃ flag, update = fun report => { report with hasReference := flag } := by
  unfold update? at told
  rcases Json.Reading.of_ite_update told with fix | told
  · exact .inl fix
  rcases Json.Reading.of_ite_update told with x | told
  · exact .inr (.inl x)
  rcases Json.Reading.of_ite_update told with y | told
  · exact .inr (.inr (.inl y))
  rcases Json.Reading.of_ite_update told with flag | told
  · exact .inr (.inr (.inr flag))
  · cases told

theorem orderly : reading.Orderly where
  distinct := by decide
  commute := by
    intro name other v w update after different told also record
    rcases update?_cases told with
        ⟨rfl, _, rfl⟩ | ⟨rfl, _, rfl⟩ | ⟨rfl, _, rfl⟩ | ⟨rfl, _, rfl⟩ <;>
      rcases update?_cases also with
          ⟨rfl, _, rfl⟩ | ⟨rfl, _, rfl⟩ | ⟨rfl, _, rfl⟩ | ⟨rfl, _, rfl⟩ <;>
        first | rfl | exact absurd rfl different

def ofMembers? (ms : Members) : Option Report :=
  if Json.namedAll ms then do
    let fix ← exactlyOne "pvt" Fix.value? ms
    let x ← atMostOne "offset_x" Value.float? 0 ms
    let y ← atMostOne "offset_y" Value.float? 0 ms
    let hasReference ← atMostOne "has_reference" Value.flag? false ms
    some ⟨fix, ⟨x, y⟩, hasReference⟩
  else none

theorem fromMembers?_eq (ms : Members) :
    reading.fromMembers? [] shape.blank ms = ofMembers? ms := by
  rw [Json.Reading.fromMembers?_eq_gatherFrom? orderly, Json.Reading.named_of_open rfl, ofMembers?]
  congr
  refine (Json.Reading.gatherFrom?_required rfl (fun _ => rfl)).trans
    (congrArg _ (funext fun fix => ?_))
  refine (Json.Reading.gatherFrom?_optional rfl (fun _ => rfl) rfl).trans
    (congrArg _ (funext fun x => ?_))
  refine (Json.Reading.gatherFrom?_optional rfl (fun _ => rfl) rfl).trans
    (congrArg _ (funext fun y => ?_))
  exact (Json.Reading.gatherFrom?_optional rfl (fun _ => rfl) rfl).trans
    (congrArg _ (funext fun hasReference => rfl))

/-- Whether a value is of the type of a member. For the fix it may be an object or a list. -/
def accepts (name : String) (v : Value) : Bool :=
  if name = "pvt" then
    match v with
    | .object _ => true
    | .list _ => true
    | _ => false
  else if name = "offset_x" then v.float?.isSome
  else if name = "offset_y" then v.float?.isSome
  else if name = "has_reference" then v.flag?.isSome
  else true

theorem update?_of_not_accepts (name : String) (v : Value) (refused : accepts name v = false) :
    update? name v = none := by
  unfold accepts at refused
  unfold update?
  split_ifs at refused ⊢
  · cases v with
    | object _ => cases refused
    | list _ => cases refused
    | _ => rfl
  · simpa using refused
  · simpa using refused
  · simpa using refused

/-- Members that are left out are nothing, in the object of the fix as well. -/
structure Completes (ms : Members) (report : Report) : Prop where
  x : valuesOf "offset_x" ms = [] → report.offset.x = 0
  y : valuesOf "offset_y" ms = [] → report.offset.y = 0
  hasReference : valuesOf "has_reference" ms = [] → report.hasReference = false
  fix : ∀ inner, valuesOf "pvt" ms = [.object inner] → Fix.Completes inner report.fix

theorem completes_of_ofMembers? {ms : Members} {report : Report}
    (made : ofMembers? ms = some report) : Completes ms report := by
  unfold ofMembers? at made
  split at made
  · simp only [Option.bind_eq_bind, Option.bind_eq_some_iff, Option.some.injEq] at made
    obtain ⟨fix, fixes, x, xs, y, ys, hasReference, flags, rfl⟩ := made
    refine ⟨Json.eq_of_atMostOne xs, Json.eq_of_atMostOne ys, Json.eq_of_atMostOne flags,
      fun inner only => Fix.completes_of_ofMembers? ?_⟩
    rw [exactlyOne, only] at fixes
    exact fixes
  · cases made

/-- What refuses a payload in every order of its members: no fix, a member that is written twice, or one
whose value is not of its type, in the object of the fix as well. -/
def Refused (ms : Members) : Prop :=
  valuesOf "pvt" ms = [] ∨ Misfit memberNames accepts ms ∨
    ∃ inner, .object inner ∈ valuesOf "pvt" ms ∧ Misfit Fix.memberNames Fix.accepts inner

theorem ofMembers?_of_refused {ms : Members} (refused : Refused ms) : ofMembers? ms = none := by
  rw [← fromMembers?_eq]
  rcases refused with missing | misfit | ⟨inner, given, misfit⟩
  · exact Json.Reading.fromMembers?_eq_none orderly List.mem_cons_self
      (Json.Reading.given?_of_missing missing rfl)
  · exact Json.Reading.fromMembers?_of_misfit orderly update?_of_not_accepts misfit
  · have nothing : reading.update? "pvt" (.object inner) = none :=
      congrArg (Option.map _) (Fix.ofMembers?_of_misfit misfit)
    exact Json.Reading.fromMembers?_eq_none orderly List.mem_cons_self
      (Json.Reading.given?_of_refused given nothing)

/-- The members of a payload in any order, with other members put in anywhere or left out, and the
members of the object of the fix likewise. -/
inductive Rearranged : Members → Members → Prop
  | outside {ms ms' : Members} : Shuffled memberNames ms ms' → Rearranged ms ms'
  | inside {inner inner' before after : Members} : Shuffled Fix.memberNames inner inner' →
      Rearranged (before ++ (some "pvt", .object inner) :: after)
        (before ++ (some "pvt", .object inner') :: after)
  | trans {ms ms' ms'' : Members} : Rearranged ms ms' → Rearranged ms' ms'' → Rearranged ms ms''

theorem Rearranged.ofMembers?_eq {ms ms' : Members} (rearranged : Rearranged ms ms') :
    ofMembers? ms = ofMembers? ms' := by
  rw [← fromMembers?_eq, ← fromMembers?_eq]
  induction rearranged with
  | outside shuffled => exact shuffled.fromMembers?_eq orderly rfl
  | @inside inner inner' before after shuffled =>
    have same : reading.update? "pvt" (.object inner) = reading.update? "pvt" (.object inner') :=
      congrArg (Option.map _) (Fix.ofMembers?_of_shuffled shuffled)
    exact Json.Reading.fromMembers?_replace orderly same _ _
  | trans _ _ first second => exact first.trans second

end Report

namespace Event

theorem decode_of_tells {payload : String} {ms : Members} (tells : Tells payload (.object ms)) :
    match Report.ofMembers? ms with
    | some r => decode reportName payload = .ok (.report r)
    | none => ∃ complaint, decode reportName payload = .error (.malformed complaint) := by
  have value : Report.reading.value? (.object ms) = Report.ofMembers? ms :=
    Report.fromMembers?_eq ms
  have decoded : decode reportName payload = (payloadOf Report.shape payload).map .report :=
    if_pos rfl
  rw [decoded, payloadOf, ← value]
  rcases Report.reading.reads_value.document tells with ⟨complaint, refused, told⟩ | ⟨r, read, told⟩
  · rw [told]
    exact ⟨complaint, by rw [refused]; rfl⟩
  · rw [told, read]
    rfl

/-- The report of a payload is that of its members, each of which looks for its value. So the order of
the members makes no difference, nor do other members, in the payload and in the object of the fix.
Members that are left out are nothing. A payload without a fix, with a member written twice or with a
value that is not of the type of its member is malformed. -/
theorem decode_of_members (payload : String) (ms : Members) (tells : Tells payload (.object ms)) :
    (match Report.ofMembers? ms with
      | some r => decode reportName payload = .ok (.report r)
      | none => ∃ complaint, decode reportName payload = .error (.malformed complaint)) ∧
    (∀ payload' ms', Tells payload' (.object ms') → Report.Rearranged ms ms' →
      (decode reportName payload').toOption = (decode reportName payload).toOption) ∧
    (∀ r, decode reportName payload = .ok (.report r) → Report.Completes ms r) ∧
    (Report.Refused ms →
      ∃ complaint, decode reportName payload = .error (.malformed complaint)) := by
  have told := decode_of_tells tells
  refine ⟨told, fun payload' ms' tells' rearranged => ?_, fun r decoded => ?_, fun refused => ?_⟩
  · have also := decode_of_tells tells'
    rw [← rearranged.ofMembers?_eq] at also
    cases made : Report.ofMembers? ms with
    | none =>
      rw [made] at told also
      obtain ⟨_, refused⟩ := told
      obtain ⟨_, refused'⟩ := also
      rw [refused, refused']
      rfl
    | some r =>
      rw [made] at told also
      exact congrArg Except.toOption (also.trans told.symm)
  · cases made : Report.ofMembers? ms with
    | none =>
      rw [made] at told
      obtain ⟨_, refused⟩ := told
      cases refused.symm.trans decoded
    | some report =>
      rw [made] at told
      cases told.symm.trans decoded
      exact Report.completes_of_ofMembers? made
  · rw [Report.ofMembers?_of_refused refused] at told
    exact told

/-- A payload, the same with other members in another order, and one with two fixes. -/
theorem decode_of_three_payloads :
    let payload := "\x7b\"offset_x\":3,\"pvt\":\x7b\"latitude\":5\x7d\x7d"
    let other := "\x7b\"pvt\":\x7b\"latitude\":5,\"age\":null\x7d,\"speeds\":[null],\"offset_x\":3\x7d"
    let twice := "\x7b\"pvt\":\x7b\x7d,\"pvt\":\x7b\x7d\x7d"
    let x : Option String × Value := (some "offset_x", .number ['3'])
    let latitude : Option String × Value := (some "latitude", .number ['5'])
    let age : Option String × Value := (some "age", .null)
    let speeds : Option String × Value := (some "speeds", .list [.null])
    let ms : Members := [x, (some "pvt", .object [latitude])]
    let ms' : Members := [(some "pvt", .object [latitude, age]), speeds, x]
    let fixes : Members := [(some "pvt", .object []), (some "pvt", .object [])]
    Tells payload (.object ms) ∧ Tells other (.object ms') ∧ Tells twice (.object fixes) ∧
      Report.Rearranged ms ms' ∧
      decode reportName payload = .ok (.report ⟨⟨5, 0, "", 0⟩, ⟨3, 0⟩, false⟩) ∧
      (decode reportName other).toOption = (decode reportName payload).toOption ∧
      Report.Completes ms ⟨⟨5, 0, "", 0⟩, ⟨3, 0⟩, false⟩ ∧
      Report.Refused fixes ∧ ∃ complaint, decode reportName twice = .error (.malformed complaint) := by
  intro payload other twice x latitude age speeds ms ms' fixes
  have null : Json.WritesPadded .null ['n', 'u', 'l', 'l'] := Json.Writes.null.padded
  have three : Json.WritesPadded (.number ['3']) ['3'] :=
    (Json.Writes.number (Json.isNumber_of_digits (by decide) (by simp))).padded
  have five : Json.WritesPadded (.number ['5']) ['5'] :=
    (Json.Writes.number (Json.isNumber_of_digits (by decide) (by simp))).padded
  have fixName := Json.heading_self "pvt" (by simp [Json.isPlain])
  have xName := Json.heading_self "offset_x" (by simp [Json.isPlain])
  have latitudeName := Json.heading_self "latitude" (by simp [Json.isPlain])
  have ageName := Json.heading_self "age" (by simp [Json.isPlain])
  have speedsName := Json.heading_self "speeds" (by simp [Json.isPlain])
  have fix := (Json.Writes.object (.one latitudeName five)).padded
  have longFix := (Json.Writes.object (.more latitudeName five (.one ageName null))).padded
  have noFix := (Json.Writes.noMembers Json.space_nil).padded
  have nulls := (Json.Writes.list (.one null)).padded
  have tells : Tells payload (.object ms) :=
    Json.tells_of_writes (.object (.more xName three (.one fixName fix))) (by decide +kernel)
  have tellsOther : Tells other (.object ms') :=
    Json.tells_of_writes
      (.object (.more fixName longFix (.more speedsName nulls (.one xName three))))
      (by decide +kernel)
  have tellsTwice : Tells twice (.object fixes) :=
    Json.tells_of_writes (.object (.more fixName noFix (.one fixName noFix))) (by decide +kernel)
  have swapped : Report.Rearranged ms [(some "pvt", .object [latitude]), x] :=
    .outside (.perm (.swap _ _ _))
  have older : Shuffled Fix.memberNames ([latitude] ++ []) ([latitude] ++ age :: []) :=
    .insert (by decide)
  have longer : Report.Rearranged ([] ++ (some "pvt", .object [latitude]) :: [x])
      ([] ++ (some "pvt", .object [latitude, age]) :: [x]) := .inside older
  have faster : Shuffled Report.memberNames ([(some "pvt", .object [latitude, age])] ++ [x])
      ([(some "pvt", .object [latitude, age])] ++ speeds :: [x]) := .insert (by decide)
  have further : Report.Rearranged [(some "pvt", .object [latitude, age]), x] ms' := .outside faster
  have rearranged : Report.Rearranged ms ms' := .trans swapped (.trans longer further)
  obtain ⟨told, same, completes, -⟩ := decode_of_members payload ms tells
  have made : Report.ofMembers? ms = some ⟨⟨5, 0, "", 0⟩, ⟨3, 0⟩, false⟩ := rfl
  rw [made] at told
  have refused : Report.Refused fixes := .inr (.inl (.inl ⟨"pvt", by decide, by decide⟩))
  exact ⟨tells, tellsOther, tellsTwice, rearranged, told, same other ms' tellsOther rearranged,
    completes _ told, refused, (decode_of_members twice fixes tellsTwice).2.2.2 refused⟩

end Event

end PositionMap
