import PositionMap.Canvas

/-! # Commands up to a refused one

A canvas that is going to refuse a call has the commands up to that call, and no more. It refuses the
call that is due by its number among the calls of its name; fewer of them are all carried out.
-/

namespace PositionMap.Canvas

def refusable : List String :=
  ["setTransform", "fillText", "arc"]

def calls (call : String) (commands : List Command) : Nat :=
  commands.countP fun command => command.name == call

theorem fallible_of_refusable {command : Command} (listed : command.name ∈ refusable) :
    command.fallible = true := by
  cases command <;> first | rfl | simp [Command.name, refusable] at listed

theorem concerns_of_refusable {b : Breakage} (listed : b.call ∈ refusable) :
    b.concerns = fun command => command.name == b.call := by
  funext command
  unfold Breakage.concerns
  by_cases named : command.name = b.call
  · rw [fallible_of_refusable (named ▸ listed), Bool.true_and]
  · simp [named]

theorem countP_concerns {b : Breakage} (listed : b.call ∈ refusable) (commands : List Command) :
    commands.countP b.concerns = calls b.call commands := by
  rw [concerns_of_refusable listed, calls]

variable {b : Breakage} {breakage? : Option Breakage} {command : Command}
  {commands : List Command}

@[simp] theorem play_nil (breakage? : Option Breakage) : play breakage? [] = ⟨[], none, breakage?⟩ := by
  cases breakage? <;> rfl

@[simp] theorem play_none (commands : List Command) : play none commands = ⟨commands, none, none⟩ := by
  cases commands <;> rfl

/-- A breakage once a command was carried out. -/
def Breakage.past (b : Breakage) (command : Command) : Breakage :=
  { b with countdown := b.countdown - if b.concerns command then 1 else 0 }

@[simp] theorem Breakage.concerns_past (b : Breakage) (command : Command) :
    (b.past command).concerns = b.concerns := rfl

def Breakage.Due (b : Breakage) (command : Command) : Prop :=
  b.concerns command = true ∧ b.countdown = 1

instance (b : Breakage) (command : Command) : Decidable (b.Due command) :=
  inferInstanceAs (Decidable (_ ∧ _))

theorem play_refused (due : b.Due command) (commands : List Command) :
    play (some b) (command :: commands) = ⟨[command], some b.message, none⟩ := by
  simp [play, due.1, due.2]

theorem play_carried (spared : ¬ b.Due command) (commands : List Command) :
    play (some b) (command :: commands) =
      let rest := play (some (b.past command)) commands
      { rest with performed := command :: rest.performed } := by
  by_cases concerned : b.concerns command
  · have later : b.countdown ≠ 1 := fun due => spared ⟨concerned, due⟩
    simp [play, Breakage.past, concerned, later]
  · simp [play, Breakage.past, concerned]

theorem play_append (breakage? : Option Breakage) (first second : List Command) :
    play breakage? (first ++ second) =
      let begun := play breakage? first
      match begun.error? with
      | some _ => begun
      | none =>
        let rest := play begun.pending? second
        { rest with performed := begun.performed ++ rest.performed } := by
  induction first generalizing breakage? with
  | nil => simp
  | cons command first ih =>
      cases breakage? with
      | none => simp
      | some b =>
          by_cases due : b.Due command
          · simp [play_refused due]
          · rw [List.cons_append, play_carried due, play_carried due, ih]
            dsimp only
            split <;> simp_all

/-- A breakage that is too far off, and one that is never due, lets all commands be carried out. -/
def Breakage.Spares (b : Breakage) (commands : List Command) : Prop :=
  b.countdown = 0 ∨ commands.countP b.concerns < b.countdown

def Breakage.Refuses (b : Breakage) (front : List Command) (last : Command) : Prop :=
  b.concerns last = true ∧ front.countP b.concerns + 1 = b.countdown

theorem Breakage.Spares.past (spared : ¬ b.Due command) (few : (b.past command).Spares commands) :
    b.Spares (command :: commands) := by
  unfold Spares Breakage.past at *
  rw [List.countP_cons]
  by_cases concerned : b.concerns command
  · have later : b.countdown ≠ 1 := fun due => spared ⟨concerned, due⟩
    simp only [concerned, if_true] at few ⊢
    change _ ∨ commands.countP b.concerns < _ at few
    omega
  · simpa [concerned] using few

theorem Breakage.Refuses.past {front : List Command} {last : Command}
    (refuses : (b.past command).Refuses front last) : b.Refuses (command :: front) last := by
  obtain ⟨concerned, counted⟩ := refuses
  rw [concerns_past] at concerned counted
  refine ⟨concerned, ?_⟩
  rw [List.countP_cons]
  unfold Breakage.past at counted
  dsimp only at counted
  omega

/-- Either all commands are carried out, or one is refused and is the last that the canvas has. -/
theorem play_cases (b : Breakage) (commands : List Command) :
    (b.Spares commands ∧ play (some b) commands =
      ⟨commands, none, some { b with countdown := b.countdown - commands.countP b.concerns }⟩) ∨
    ∃ front last rest, commands = front ++ last :: rest ∧ b.Refuses front last ∧
      play (some b) commands = ⟨front ++ [last], some b.message, none⟩ := by
  induction commands generalizing b with
  | nil =>
      refine .inl ⟨?_, by simp⟩
      rw [Breakage.Spares, List.countP_nil]
      omega
  | cons command commands ih =>
      by_cases due : b.Due command
      · exact .inr ⟨[], command, commands, rfl, ⟨due.1, due.2.symm⟩, play_refused due commands⟩
      · rw [play_carried due]
        rcases ih (b.past command) with ⟨few, played⟩ | ⟨front, last, rest, split, refuses, played⟩
        · refine .inl ⟨few.past due, ?_⟩
          rw [played, Breakage.concerns_past, List.countP_cons,
            Nat.add_comm (commands.countP b.concerns), ← Nat.sub_sub]
          rfl
        · rw [played]
          exact .inr ⟨command :: front, last, rest, by simp [split], refuses.past, rfl⟩

/-- A breakage whose number is reached does not let all commands be carried out. -/
theorem Breakage.Refuses.not_spares {front rest : List Command} {last : Command}
    (refuses : b.Refuses front last) : ¬ b.Spares (front ++ last :: rest) := by
  obtain ⟨concerned, counted⟩ := refuses
  rw [Spares, List.countP_append, List.countP_cons_of_pos concerned]
  omega

theorem play_of_spares (spares : b.Spares commands) :
    play (some b) commands =
      ⟨commands, none, some { b with countdown := b.countdown - commands.countP b.concerns }⟩ := by
  rcases play_cases b commands with ⟨_, played⟩ | ⟨front, last, rest, rfl, refuses, _⟩
  · exact played
  · exact absurd spares refuses.not_spares

theorem play_of_not_spares (reached : ¬ b.Spares commands) :
    ∃ front last rest, commands = front ++ last :: rest ∧ b.Refuses front last ∧
      play (some b) commands = ⟨front ++ [last], some b.message, none⟩ := by
  rcases play_cases b commands with ⟨few, _⟩ | refused
  · exact absurd few reached
  · exact refused

theorem play_of_refuses {front : List Command} {last : Command} (refuses : b.Refuses front last)
    (rest : List Command) :
    play (some b) (front ++ last :: rest) = ⟨front ++ [last], some b.message, none⟩ := by
  obtain ⟨concerned, counted⟩ := refuses
  have due : Breakage.Due { b with countdown := b.countdown - front.countP b.concerns } last :=
    ⟨concerned, by dsimp only; omega⟩
  rw [play_append, play_of_spares (.inr (by omega))]
  dsimp only
  rw [play_refused due]

/-- Without an error, all commands were carried out. -/
theorem performed_of_error? (drawn : (play breakage? commands).error? = none) :
    (play breakage? commands).performed = commands := by
  cases breakage? with
  | none => rw [play_none]
  | some b =>
      rcases play_cases b commands with ⟨_, played⟩ | ⟨_, _, _, _, _, played⟩
      · rw [played]
      · simp [played] at drawn

/-- What the canvas has is the beginning of the commands. -/
theorem performed_prefix (breakage? : Option Breakage) (commands : List Command) :
    (play breakage? commands).performed <+: commands := by
  induction commands generalizing breakage? with
  | nil => simp
  | cons command commands ih =>
      cases breakage? with
      | none => simp
      | some b =>
          by_cases due : b.Due command
          · simp [play_refused due]
          · rw [play_carried due]
            exact List.cons_prefix_cons.mpr ⟨rfl, ih _⟩

end PositionMap.Canvas
