import Mathlib.Data.List.Forall2
import PositionMap.Proofs.Json.Gathering
import PositionMap.Proofs.Spacing
import PositionMap.Scene

/-! # The settings that a document gives

A document is read first and its values are checked afterwards. So an object whose members do not fit is
refused as such, whatever their values, and of one whose members fit the values are put over the default
ones and checked in a fixed order, in whatever order they are written.
-/

namespace PositionMap

open Json (Members Tells Value valuesOf)

namespace Settings

inductive Choice
  | scale (value : Float)
  | fill (value : Float)
  | rate (rate? : Option UInt32)

namespace Choice

def put : Choice → Settings → Settings
  | scale value, s => { s with initialScale := value }
  | fill value, s => { s with viewFill := value }
  | rate rate?, s => { s with maxRate := rate? }

/-- The members that ask for it: a number in the range of doubles, for the rate `null`, or digits that
make a number of at most 32 bits. -/
inductive WrittenAs : Choice → Option String × Value → Prop
  | scale {w : List Char} {x : Float} : Value.float? (.number w) = some x →
      WrittenAs (.scale x) (some "initial_scale", .number w)
  | fill {w : List Char} {x : Float} : Value.float? (.number w) = some x →
      WrittenAs (.fill x) (some "view_fill", .number w)
  | unlimited : WrittenAs (.rate none) (some "max_fps", .null)
  | rate {w : List Char} : (∀ c ∈ w, c.isDigit = true) → Json.natural w < UInt32.size →
      WrittenAs (.rate (some (.ofNat (Json.natural w)))) (some "max_fps", .number w)

end Choice

def memberNames : List String := ["initial_scale", "view_fill", "max_fps"]

structure InRange (s : Settings) : Prop where
  scale : s.initialScale.isFinite = true ∧ 0 < s.initialScale
  fill : 0 < s.viewFill ∧ s.viewFill ≤ 1
  rate : s.maxRate ≠ some 0

/-- The settings, unless one of them is out of range; the first one that is gets reported. -/
def checked (s : Settings) : Except Refusal Settings :=
  if ¬ (s.initialScale.isFinite = true ∧ 0 < s.initialScale) then .error (.scale s.initialScale)
  else if ¬ (0 < s.viewFill ∧ s.viewFill ≤ 1) then .error (.fill s.viewFill)
  else if s.maxRate = some 0 then .error .rate
  else .ok s

theorem checked_eq (s : Settings) :
    (match s.refusal? with
      | some refusal => .error refusal
      | none => .ok s) = s.checked := by
  have scale : (!(s.initialScale.isFinite && decide (0 < s.initialScale))) = true ↔
      ¬ (s.initialScale.isFinite = true ∧ 0 < s.initialScale) := by
    rw [Bool.not_eq_true', ← Bool.not_eq_true, Bool.and_eq_true, decide_eq_true_iff]
  have fill : (!(decide (0 < s.viewFill) && decide (s.viewFill ≤ 1))) = true ↔
      ¬ (0 < s.viewFill ∧ s.viewFill ≤ 1) := by
    rw [Bool.not_eq_true', ← Bool.not_eq_true, Bool.and_eq_true, decide_eq_true_iff,
      decide_eq_true_iff]
  unfold refusal? checked
  simp only [scale, fill, beq_iff_eq]
  split_ifs <;> rfl

theorem InRange.checked {s : Settings} (range : s.InRange) : s.checked = .ok s := by
  unfold Settings.checked
  rw [if_neg (not_not.mpr range.scale), if_neg (not_not.mpr range.fill), if_neg range.rate]

theorem inRange_of_checked {s settings : Settings} (passed : s.checked = .ok settings) :
    s = settings ∧ settings.InRange := by
  unfold checked at passed
  split at passed
  · cases passed
  · split at passed
    · cases passed
    · split at passed
      · cases passed
      · rename_i scale fill rate
        cases passed
        exact ⟨rfl, not_not.mp scale, not_not.mp fill, rate⟩

/-! ## Members -/

def update? (name : String) (v : Value) : Option (Settings → Settings) :=
  if name = "initial_scale" then v.float?.map fun value s => { s with initialScale := value }
  else if name = "view_fill" then v.float?.map fun value s => { s with viewFill := value }
  else if name = "max_fps" then
    (Value.optional? Value.count? v).map fun value s => { s with maxRate := value }
  else none

def reading : Json.Reading shape where
  update? := update?
  reads := by
    intro member among
    simp only [shape, List.mem_cons, List.not_mem_nil, or_false] at among
    rcases among with rfl | rfl | rfl
    · exact Json.reads_float.map _
    · exact Json.reads_float.map _
    · exact (Json.reads_optional Json.reads_count).map _

theorem update?_cases {name : String} {v : Value} {update : Settings → Settings}
    (told : update? name v = some update) :
    name = "initial_scale" ∧ (∃ x, update = fun s => { s with initialScale := x }) ∨
      name = "view_fill" ∧ (∃ x, update = fun s => { s with viewFill := x }) ∨
      name = "max_fps" ∧ ∃ rate?, update = fun s => { s with maxRate := rate? } := by
  rcases Json.Reading.of_ite_update told with scale | told
  · exact .inl scale
  rcases Json.Reading.of_ite_update told with fill | told
  · exact .inr (.inl fill)
  rcases Json.Reading.of_ite_update told with rate | told
  · exact .inr (.inr rate)
  · cases told

theorem orderly : reading.Orderly where
  distinct := by decide
  commute := by
    intro name other v w update after different told also record
    rcases update?_cases told with ⟨rfl, _, rfl⟩ | ⟨rfl, _, rfl⟩ | ⟨rfl, _, rfl⟩ <;>
      rcases update?_cases also with ⟨rfl, _, rfl⟩ | ⟨rfl, _, rfl⟩ | ⟨rfl, _, rfl⟩ <;>
        first | rfl | exact absurd rfl different

theorem known_of_writtenAs {choice : Choice} {member : Option String × Value}
    (written : choice.WrittenAs member) : ∃ name, member.1 = some name ∧
      (shape.member? name).isSome = true ∧ update? name member.2 = some choice.put := by
  cases written with
  | scale told => exact ⟨_, rfl, by decide, by simp only [update?, if_true, told]; rfl⟩
  | fill told =>
    refine ⟨_, rfl, by decide, ?_⟩
    simp only [update?, String.reduceEq, if_false, if_true, told]
    rfl
  | unlimited => exact ⟨_, rfl, by decide, rfl⟩
  | @rate w digits small =>
    refine ⟨_, rfl, by decide, ?_⟩
    have told : Value.count? (.number w) = some (.ofNat (Json.natural w)) :=
      if_pos ⟨List.all_eq_true.mpr digits, small⟩
    simp only [update?, String.reduceEq, if_false, if_true, Value.optional?, told]
    rfl

theorem fromMembers?_of_written {choices : List Choice} {ms : Members}
    (written : List.Forall₂ Choice.WrittenAs choices ms) (once : (ms.map Prod.fst).Nodup)
    (seen : List String) (unseen : ∀ name ∈ seen, some name ∉ ms.map Prod.fst) (record : Settings) :
    reading.fromMembers? seen record ms =
      some (choices.foldl (fun s choice => choice.put s) record) := by
  induction written generalizing seen record with
  | nil => rfl
  | @cons choice member choices ms first _ ih =>
    obtain ⟨name?, v⟩ := member
    obtain ⟨name, rfl, known, told⟩ := known_of_writtenAs first
    rw [List.map_cons, List.nodup_cons] at once
    have fresh : seen.contains name = false := by
      rw [← Bool.not_eq_true, List.contains_iff_mem]
      intro again
      exact unseen name again List.mem_cons_self
    have later : ∀ other ∈ name :: seen, some other ∉ ms.map Prod.fst := by
      intro other among
      rcases List.mem_cons.mp among with rfl | among
      · exact once.1
      · exact fun among' => unseen other among (List.mem_cons_of_mem _ among')
    have update : reading.update? name v = some choice.put := told
    rw [Json.Reading.fromMembers?, if_pos known, fresh, update]
    exact ih once.2 (name :: seen) later (choice.put record)

/-! ## Documents -/

theorem not_isBlank_of_tells {text : String} {ms : Members} (tells : Tells text (.object ms)) :
    Text.isBlank text = false := by
  have brace : '\x7b' ∈ text.toList := by
    unfold Tells at tells
    generalize text.toList = characters at tells
    cases tells with
    | mk _ writes _ => cases writes <;> simp
  rw [← Bool.not_eq_true]
  intro blank
  exact absurd (Text.isBlank_iff.mp blank _ brace) (by decide)

/-- The members of an object make the settings, which are checked afterwards. -/
theorem parse_of_tells {text : String} {ms : Members} (tells : Tells text (.object ms)) :
    match reading.fromMembers? [] default ms with
    | some s => parse text = s.checked
    | none => ∃ complaint, parse text = .error (.malformed complaint) := by
  have value : reading.value? (.object ms) = reading.fromMembers? [] default ms := rfl
  unfold parse
  rw [not_isBlank_of_tells tells, ← value]
  rcases reading.reads_value.document tells with ⟨complaint, refused, told⟩ | ⟨s, read, told⟩
  · rw [told]
    exact ⟨complaint, by simp [refused]⟩
  · rw [told]
    simp only [read]
    exact checked_eq s

theorem fromMembers?_of_other {ms : Members}
    (other : ∃ member ∈ ms, ∀ name ∈ memberNames, member.1 ≠ some name) :
    reading.fromMembers? [] default ms = none := by
  refine Json.Reading.fromMembers?_of_unnamed orderly ?_
  obtain ⟨⟨name?, v⟩, among, unknown⟩ := other
  rw [Json.Reading.named_of_closed rfl, Json.namedWithin, List.all_eq_false]
  refine ⟨(name?, v), among, ?_⟩
  cases name? with
  | none => simp
  | some name =>
    rw [Option.any_some, List.contains_iff_mem]
    exact fun known => unknown name known rfl

theorem fromMembers?_of_twice {ms : Members}
    (twice : ∃ name ∈ memberNames, 2 ≤ (valuesOf name ms).length) :
    reading.fromMembers? [] default ms = none := by
  obtain ⟨name, known, twice⟩ := twice
  have listed : name ∈ shape.members.map Json.Member.name := known
  obtain ⟨member, among, rfl⟩ := List.mem_map.mp listed
  exact Json.Reading.fromMembers?_eq_none orderly among (Json.Reading.given?_of_twice twice)

theorem inRange_default : default.InRange :=
  ⟨by decide +kernel, by decide +kernel, nofun⟩

theorem inRange_of_parse {text : String} {s : Settings} (parsed : parse text = .ok s) : s.InRange := by
  unfold parse at parsed
  split at parsed
  · cases parsed
    exact inRange_default
  · split at parsed
    · cases parsed
    · exact (inRange_of_checked ((checked_eq _).symm.trans parsed)).2

/-- A blank text gives the default settings. Settings that a text gives are in range, and so are the
scale of a scene and the interval of a pacer that are made from them. An object whose members fit and
are written once gives the default settings with its members put over them, or the first complaint about
them, whatever their order. An object with any other member, or with a member written twice, is
malformed, whatever its values. -/
theorem parse_of_text (text : String) :
    ((∀ c ∈ text.toList, Text.isBlankChar c = true) → parse text = .ok default) ∧
    (∀ s, parse text = .ok s → s.InRange ∧
      ((Scene.ofSettings s).view.scale.isFinite = true ∧ 0 < (Scene.ofSettings s).view.scale) ∧
      (Pacer.ofRate s.maxRate).interval.isFinite = true ∧ 0 ≤ (Pacer.ofRate s.maxRate).interval ∧
      (((Pacer.ofRate s.maxRate).interval == 0) = true ↔ s.maxRate = none)) ∧
    ∀ ms : Members, Tells text (.object ms) →
      (∀ choices, List.Forall₂ Choice.WrittenAs choices ms → (ms.map Prod.fst).Nodup →
        parse text = (choices.foldl (fun s choice => choice.put s) default).checked ∧
        ∀ text' ms', ms.Perm ms' → Tells text' (.object ms') → parse text' = parse text) ∧
      ((∃ member ∈ ms, ∀ name ∈ memberNames, member.1 ≠ some name) ∨
          (∃ name ∈ memberNames, 2 ≤ (valuesOf name ms).length) →
        ∃ complaint, parse text = .error (.malformed complaint)) := by
  refine ⟨fun blank => if_pos (Text.isBlank_iff.mpr blank), fun s parsed => ?_, fun ms tells => ?_⟩
  · have range := inRange_of_parse parsed
    obtain ⟨finite, least, zero⟩ := Pacer.interval_ofRate s.maxRate
    refine ⟨range, range.scale, finite, least, ?_⟩
    rw [zero, Option.isNone_iff_eq_none]
  have told := parse_of_tells tells
  refine ⟨fun choices written once => ?_, fun misfit => ?_⟩
  · have made := fromMembers?_of_written written once [] nofun default
    rw [made] at told
    refine ⟨told, fun text' ms' perm tells' => ?_⟩
    have also := parse_of_tells tells'
    rw [← Json.Reading.fromMembers?_perm orderly perm, made] at also
    exact also.trans told.symm
  · have refused : reading.fromMembers? [] default ms = none :=
      misfit.elim fromMembers?_of_other fromMembers?_of_twice
    rw [refused] at told
    exact told

/-- Two members that fit, in both orders. -/
theorem parse_of_two_members :
    let text := "\x7b\"max_fps\":30,\"initial_scale\":40\x7d"
    let other := "\x7b\"initial_scale\":40,\"max_fps\":30\x7d"
    let ms : Members :=
      [(some "max_fps", .number ['3', '0']), (some "initial_scale", .number ['4', '0'])]
    Tells text (.object ms) ∧ Tells other (.object ms.reverse) ∧
      List.Forall₂ Choice.WrittenAs [.rate (some 30), .scale 40] ms ∧ (ms.map Prod.fst).Nodup ∧
      parse text = .ok ⟨40, View.defaultFill, some 30⟩ ∧ parse other = parse text ∧
      InRange ⟨40, View.defaultFill, some 30⟩ := by
  intro text other ms
  have rate : Json.WritesPadded (.number ['3', '0']) ['3', '0'] :=
    (Json.Writes.number (Json.isNumber_of_digits (by decide) (by simp))).padded
  have scale : Json.WritesPadded (.number ['4', '0']) ['4', '0'] :=
    (Json.Writes.number (Json.isNumber_of_digits (by decide) (by simp))).padded
  have rateName := Json.heading_self "max_fps" (by simp [Json.isPlain])
  have scaleName := Json.heading_self "initial_scale" (by simp [Json.isPlain])
  have tells : Tells text (.object ms) :=
    Json.tells_of_writes (.object (.more rateName rate (.one scaleName scale))) (by decide +kernel)
  have tellsOther : Tells other (.object ms.reverse) :=
    Json.tells_of_writes (.object (.more scaleName scale (.one rateName rate))) (by decide +kernel)
  have written : List.Forall₂ Choice.WrittenAs [.rate (some 30), .scale 40] ms :=
    .cons (.rate (w := ['3', '0']) (by simp) (by decide)) (.cons (.scale (by rfl)) .nil)
  have once : (ms.map Prod.fst).Nodup := by decide +kernel
  obtain ⟨-, accepted, given⟩ := parse_of_text text
  obtain ⟨parsed, anyOrder⟩ := (given ms tells).1 _ written once
  have range : InRange ⟨40, View.defaultFill, some 30⟩ :=
    ⟨by decide +kernel, by decide +kernel, by decide +kernel⟩
  have told : parse text = .ok ⟨40, View.defaultFill, some 30⟩ := parsed.trans range.checked
  exact ⟨tells, tellsOther, written, once, told,
    anyOrder other ms.reverse ms.reverse_perm.symm tellsOther, (accepted _ told).1⟩

end Settings

end PositionMap
