import PositionMap.Pacer
import PositionMap.Proofs.Number.Arithmetic

/-! # The frames that a pacer draws

A pacer draws a frame as soon as the interval has passed since the last one that it drew. No two frames
that it draws are closer than that, and no other choice among the offered times that keeps to the
interval has more frames: at any time, the last frame of the pacer is not later than the last one of
such a choice. All that this uses of the arithmetic is that less remains when more is taken away. The
interval itself is the rounded quotient of a second and is positive for every rate.
-/

namespace PositionMap.Pacer

open Number

/-! ## The interval -/

theorem one_le_max (rate : UInt32) : 1 ≤ max rate 1 := by
  change 1 ≤ if rate ≤ 1 then 1 else rate
  split
  · exact UInt32.le_refl 1
  · exact UInt32.le_of_lt (UInt32.not_le.mp ‹_›)

/-- The interval of a limited rate is the rounded quotient of a second, and more than nothing. -/
theorem interval_of_rate (rate : UInt32) : (ofRate (some rate)).interval.isFinite = true ∧
    0 < value (ofRate (some rate)).interval := by
  have least : (1 : ℚ) ≤ (max rate 1).toNat := by
    exact_mod_cast UInt32.le_iff_toNat_le.mp (one_le_max rate)
  have most : ((max rate 1).toNat : ℚ) ≤ 2 ^ 32 := by
    exact_mod_cast (max rate 1).toNat_lt.le
  obtain ⟨finite, count⟩ := value_toFloat32 (max rate 1)
  obtain ⟨second, thousand⟩ := value_ofNat (n := 1000) (by decide)
  have quotient := rounds_div second finite (by rw [count]; linarith)
  rw [thousand, count] at quotient
  have tiny : IsDouble (2 ^ (-32 : ℤ)) := ⟨1, -32, by decide, by decide, by decide, by simp⟩
  have large : IsDouble 1000 := by simpa using IsDouble.intCast (n := 1000) (by decide)
  have above : (2 : ℚ) ^ (-32 : ℤ) ≤ 1000 / (max rate 1).toNat := by
    rw [le_div_iff₀ (by linarith)]
    norm_num
    linarith
  have below : 1000 / ((max rate 1).toNat : ℚ) ≤ 1000 := by
    rw [div_le_iff₀ (by linarith)]
    linarith
  obtain ⟨whole, positive, -⟩ := quotient.between tiny large above below
  exact ⟨whole, lt_of_lt_of_le (by positivity) positive⟩

/-- The interval is never negative, and only without a limit it is nothing. -/
theorem interval_ofRate (rate? : Option UInt32) : (ofRate rate?).interval.isFinite = true ∧
    0 ≤ (ofRate rate?).interval ∧ ((ofRate rate?).interval == 0) = rate?.isNone := by
  cases rate? with
  | none => exact ⟨rfl, le_self rfl, by decide +kernel⟩
  | some rate =>
      obtain ⟨finite, positive⟩ := interval_of_rate rate
      have more : 0 < (ofRate (some rate)).interval :=
        (lt_iff_of_isFinite rfl finite).mpr positive
      refine ⟨finite, le_of_lt more, ?_⟩
      rw [Option.isNone_some, Bool.eq_false_iff]
      intro equal
      exact absurd (beq_iff.mp equal).2.2 positive.ne'

/-! ## The frames -/

/-- The times of the frames that are drawn, of those that are offered one after the other. -/
def drawn (pacer : Pacer) : List Float → List Float
  | [] => []
  | now :: times =>
    if pacer.admits now then now :: (pacer.offer now).drawn times else (pacer.offer now).drawn times

def Apart (interval first second : Float) : Prop :=
  ¬ second - first < interval

instance (interval first second : Float) : Decidable (Apart interval first second) :=
  inferInstanceAs (Decidable (¬ _))

variable {pacer : Pacer} {now last latest : Float} {times chosen : List Float}

theorem drawn_of_admits (admitted : pacer.admits now = true) (times : List Float) :
    pacer.drawn (now :: times) = now :: { pacer with last? := some now }.drawn times := by
  rw [drawn, if_pos admitted, offer, if_pos admitted]

theorem drawn_of_not_admits (skipped : pacer.admits now ≠ true) (times : List Float) :
    pacer.drawn (now :: times) = pacer.drawn times := by
  rw [drawn, if_neg skipped, offer, if_neg skipped]

theorem admits_of_none (fresh : pacer.last? = none) (now : Float) : pacer.admits now = true := by
  rw [admits, fresh]

theorem admits_iff (held : pacer.last? = some last) :
    pacer.admits now = true ↔ ¬ (0 < pacer.interval ∧ now - last < pacer.interval) := by
  rw [admits, held]
  simp only [Bool.not_eq_true', Bool.and_eq_false_iff, decide_eq_false_iff_not, not_and_or]

theorem drawn_sublist (pacer : Pacer) (times : List Float) : (pacer.drawn times).Sublist times := by
  induction times generalizing pacer with
  | nil => exact .slnil
  | cons now times ih =>
      by_cases admitted : pacer.admits now = true
      · rw [drawn_of_admits admitted]
        exact (ih _).cons_cons now
      · rw [drawn_of_not_admits admitted]
        exact (ih pacer).cons now

/-- A frame that is admitted is far enough from the last one, also when there is no limit. -/
theorem apart_of_admits (held : pacer.last? = some last) (admitted : pacer.admits now = true)
    (finite : last.isFinite = true) (whole : now.isFinite = true) (ordered : last ≤ now) :
    Apart pacer.interval last now := by
  intro close
  have limited : 0 < pacer.interval := lt_of_le_lt (sub_nonneg_of_le finite whole ordered) close
  exact (admits_iff held).mp admitted ⟨limited, close⟩

theorem chain_drawn (held : pacer.last? = some last) (finite : last.isFinite = true)
    (whole : ∀ time ∈ times, time.isFinite = true) (ordered : (last :: times).Pairwise (· ≤ ·)) :
    (last :: pacer.drawn times).IsChain (Apart pacer.interval) := by
  induction times generalizing pacer last with
  | nil => exact .singleton last
  | cons now times ih =>
      have first : now.isFinite = true := whole now List.mem_cons_self
      have rest : ∀ time ∈ times, time.isFinite = true :=
        fun time member => whole time (List.mem_cons_of_mem now member)
      obtain ⟨earliest, later⟩ := List.pairwise_cons.mp ordered
      by_cases admitted : pacer.admits now = true
      · rw [drawn_of_admits admitted]
        have apart := apart_of_admits held admitted finite first (earliest now List.mem_cons_self)
        have next : { pacer with last? := some now }.last? = some now := rfl
        exact .cons_cons apart (ih next first rest later)
      · rw [drawn_of_not_admits admitted]
        exact ih held finite rest (ordered.sublist ((List.sublist_cons_self now times).cons_cons last))

/-- Any choice begins no earlier than the offered times do. -/
theorem le_of_offered {time : Float} (whole : ∀ time ∈ now :: times, time.isFinite = true)
    (earliest : ∀ time ∈ times, now ≤ time) (offered : (time :: chosen).Sublist (now :: times)) :
    time.isFinite = true ∧ now ≤ time ∧ chosen.Sublist times := by
  have member : time ∈ now :: times := offered.subset List.mem_cons_self
  refine ⟨whole time member, ?_, offered.tail⟩
  obtain rfl | later := List.mem_cons.mp member
  · exact le_self (whole time member)
  · exact earliest time later

/-- A pacer is not behind a choice of frames whose last one is not earlier than its own. -/
theorem length_le_drawn (held : pacer.last? = some last) (finite : last.isFinite = true)
    (known : latest.isFinite = true) (behind : last ≤ latest)
    (whole : ∀ time ∈ times, time.isFinite = true) (ordered : times.Pairwise (· ≤ ·))
    (offered : chosen.Sublist times) (apart : (latest :: chosen).IsChain (Apart pacer.interval)) :
    chosen.length ≤ (pacer.drawn times).length := by
  induction times generalizing pacer last latest chosen with
  | nil => rw [List.sublist_nil.mp offered, drawn]
  | cons now times ih =>
      have first : now.isFinite = true := whole now List.mem_cons_self
      have rest : ∀ time ∈ times, time.isFinite = true :=
        fun time member => whole time (List.mem_cons_of_mem now member)
      obtain ⟨earliest, later⟩ := List.pairwise_cons.mp ordered
      by_cases admitted : pacer.admits now = true
      · rw [drawn_of_admits admitted]
        cases chosen with
        | nil => exact Nat.zero_le _
        | cons time others =>
            -- whichever frame the choice has next, it is no earlier than this one
            obtain ⟨known, behind, offered⟩ := le_of_offered whole earliest offered
            exact Nat.succ_le_succ (ih rfl first known behind rest later offered apart.tail)
      · rw [drawn_of_not_admits admitted]
        obtain ⟨limited, close⟩ := not_not.mp (mt (admits_iff held).mpr admitted)
        cases offered with
        | cons _ offered => exact ih held finite known behind rest later offered apart
        | cons_cons _ offered =>
            -- the choice cannot have this frame, which is even closer to its own last one
            have closer := sub_le_sub_of_le finite known first behind
            exact absurd (lt_of_le_lt closer close) (List.isChain_cons_cons.mp apart).1

/-- A pacer that has drawn nothing yet, or has been reset, with any interval, and finite times of which
none is earlier than the one before. Of the frames that it draws, no two that follow on each other are
closer than the interval, and whatever choice of the times keeps to that, it has no more frames. -/
theorem drawn_apart_and_most (fresh : pacer.last? = none)
    (whole : ∀ time ∈ times, time.isFinite = true) (ordered : times.Pairwise (· ≤ ·)) :
    (pacer.drawn times).Sublist times ∧
      (pacer.drawn times).IsChain (Apart pacer.interval) ∧
      ∀ chosen : List Float, chosen.Sublist times → chosen.IsChain (Apart pacer.interval) →
        chosen.length ≤ (pacer.drawn times).length := by
  refine ⟨pacer.drawn_sublist times, ?_⟩
  cases times with
  | nil => exact ⟨.nil, fun chosen offered _ => by rw [List.sublist_nil.mp offered, drawn]⟩
  | cons now times =>
      have first : now.isFinite = true := whole now List.mem_cons_self
      have rest : ∀ time ∈ times, time.isFinite = true :=
        fun time member => whole time (List.mem_cons_of_mem now member)
      obtain ⟨earliest, later⟩ := List.pairwise_cons.mp ordered
      rw [drawn_of_admits (admits_of_none fresh now)]
      have next : { pacer with last? := some now }.last? = some now := rfl
      refine ⟨chain_drawn next first rest ordered, fun chosen offered apart => ?_⟩
      cases chosen with
      | nil => exact Nat.zero_le _
      | cons time others =>
          obtain ⟨known, behind, offered⟩ := le_of_offered whole earliest offered
          exact Nat.succ_le_succ (length_le_drawn next first known behind rest later offered apart)

/-- Ten frames in a second: of five frames the pacer draws three, and no choice that has the second and
the fourth has more. -/
theorem drawn_of_ten :
    let pacer := ofRate (some 10)
    let times := [0, 60, 100, 190, 230]
    pacer.last? = none ∧ (∀ time ∈ times, time.isFinite = true) ∧ times.Pairwise (· ≤ ·) ∧
      pacer.drawn times = [0, 100, 230] ∧ [60, 190].IsChain (Apart pacer.interval) ∧
      [60, 190].length ≤ (pacer.drawn times).length := by
  intro pacer times
  have fresh : pacer.last? = none := rfl
  have whole : ∀ time ∈ times, time.isFinite = true := by decide +kernel
  have ordered : times.Pairwise (· ≤ ·) := by decide +kernel
  have told : pacer.drawn times = [0, 100, 230] := by decide +kernel
  have offered : [60, 190].Sublist times := by decide +kernel
  have apart : [60, 190].IsChain (Apart pacer.interval) := by decide +kernel
  obtain ⟨-, -, most⟩ := drawn_apart_and_most fresh whole ordered
  exact ⟨fresh, whole, ordered, told, apart, most _ offered apart⟩

end PositionMap.Pacer
