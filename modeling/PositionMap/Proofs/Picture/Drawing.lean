import PositionMap.Picture
import PositionMap.Proofs.Picture.Refusal

/-! # Drawing a scene call by call

The picture of a scene is a list of commands. Here the scene is drawn without that list: the canvas
is told one command after the other, in loops over the grid and the trail, and each call that it may
refuse can break the drawing off. `Draws` says that such a drawing comes to carrying out a list of
commands, and it holds of whatever is put together from parts of which it holds. So a scene that is
drawn call by call has the canvas told its picture, up to the call that is refused.
-/

namespace PositionMap

open Canvas

/-- The canvas while it is drawn on: what it was told so far, and the call that it is going to
refuse. -/
structure Easel where
  told : List Command
  breakage? : Option Breakage

/-- A piece of a drawing. It is broken off with the message of the call that is refused. -/
abbrev Drawing := EStateM String Easel

namespace Drawing

def tell (command : Command) : Drawing Unit := fun easel =>
  .ok () { easel with told := easel.told ++ [command] }

/-- Makes a call that the canvas may refuse. The canvas was told of it all the same. -/
def ask (command : Command) : Drawing Unit := fun easel =>
  let told := easel.told ++ [command]
  match easel.breakage? with
  | none => .ok () ⟨told, none⟩
  | some b =>
    if b.Due command then .error b.message ⟨told, none⟩
    else .ok () ⟨told, some (b.past command)⟩

def verticalLine (v : View) (x : Float) : Drawing Unit := do
  tell .beginPath
  tell (.moveTo ⟨x, 0⟩)
  tell (.lineTo ⟨x, v.height⟩)
  tell .stroke

def horizontalLine (v : View) (y : Float) : Drawing Unit := do
  tell .beginPath
  tell (.moveTo ⟨0, y⟩)
  tell (.lineTo ⟨v.width, y⟩)
  tell .stroke

def disc (center : Point) (radius : Float) : Drawing Unit := do
  tell .beginPath
  ask (.arc center radius 0 Picture.fullTurn)
  tell .fill

def grid (v : View) : Drawing Unit := do
  tell (.strokeStyle Style.gridStroke)
  tell (.lineWidth Style.gridLineWidth)
  v.gridOffsets.forM fun meters => do
    let offset := v.pixels meters
    verticalLine v (v.center.x + offset)
    horizontalLine v (v.center.y - offset)
    -- both sides share the lines through the origin
    if 0 < meters then
      verticalLine v (v.center.x - offset)
      horizontalLine v (v.center.y + offset)

def axes (v : View) : Drawing Unit := do
  tell (.strokeStyle Style.axisStroke)
  tell (.lineWidth Style.axisLineWidth)
  horizontalLine v v.center.y
  verticalLine v v.center.x
  tell (.fillStyle Style.axisStroke)
  tell (.font Style.axisLabelFont)
  tell (.textAlign "center")
  ask (.fillText "N" ⟨v.center.x - 10, 20⟩)
  ask (.fillText "S" ⟨v.center.x - 10, v.height - 10⟩)
  tell (.textAlign "left")
  ask (.fillText "E" ⟨v.width - 20, v.center.y - 8⟩)
  tell (.textAlign "right")
  ask (.fillText "W" ⟨20, v.center.y - 8⟩)
  disc v.center Style.originDotRadius

def trail (v : View) (points : List Point) : Drawing Unit :=
  match points with
  | [] => pure ()
  | first :: rest => do
    tell .save
    tell .beginPath
    tell (.rect ⟨0, 0⟩ v.width v.height)
    tell .clip
    tell (.strokeStyle Style.trailStroke)
    tell (.lineWidth Style.trailLineWidth)
    tell (.lineCap "round")
    tell (.lineJoin "round")
    tell .beginPath
    tell (.moveTo (v.project first))
    rest.forM fun p => tell (.lineTo (v.project p))
    tell .stroke
    tell .restore
    tell (.fillStyle Style.trailDotFill)
    (Trail.dotCandidates (first :: rest)).forM fun p =>
      if v.contains (v.project p) then disc (v.project p) Style.trailDotRadius else pure ()

def marker (center : Point) : Drawing Unit := do
  tell .save
  tell (.shadowColor Style.markerShadow)
  tell (.shadowBlur Style.markerShadowBlur)
  tell (.shadowOffsetX 0)
  tell (.shadowOffsetY Style.markerShadowOffsetY)
  tell (.fillStyle Style.markerFill)
  disc center Style.markerRadius
  tell (.strokeStyle Style.markerOutline)
  tell (.lineWidth Style.axisLineWidth)
  tell .stroke
  tell .restore
  tell (.fillStyle Style.markerOutline)
  disc center Style.markerCenterRadius

def scene (s : Scene) : Drawing Unit := do
  ask (.setTransform s.ratio 0 0 s.ratio 0 0)
  tell (.fillStyle Style.background)
  tell (.fillRect ⟨0, 0⟩ s.view.width s.view.height)
  grid s.view
  axes s.view
  trail s.view s.trail.points.toList
  match s.marker? with
  | some center => marker center
  | none => pure ()

def performance (drawing : Drawing Unit) (breakage? : Option Breakage) : Performance :=
  match drawing.run ⟨[], breakage?⟩ with
  | .ok _ easel => ⟨easel.told, none, easel.breakage?⟩
  | .error message easel => ⟨easel.told, some message, easel.breakage?⟩

/-- The drawing has the canvas carry out the commands, wherever it is begun. -/
def Draws (drawing : Drawing Unit) (commands : List Command) : Prop :=
  ∀ told breakage?, drawing.run ⟨told, breakage?⟩ =
    let played := play breakage? commands
    let easel : Easel := ⟨told ++ played.performed, played.pending?⟩
    match played.error? with
    | some message => .error message easel
    | none => .ok () easel

variable {drawing next : Drawing Unit} {commands more : List Command} {command : Command}

theorem Draws.performance_eq (draws : Draws drawing commands) (breakage? : Option Breakage) :
    drawing.performance breakage? = play breakage? commands := by
  rw [performance, draws [] breakage?]
  cases play breakage? commands with
  | mk performed error? pending? => cases error? <;> rfl

theorem draws_nothing : Draws (pure ()) [] := by
  intro told breakage?
  simp [EStateM.run, pure, EStateM.pure]

theorem Draws.seq (first : Draws drawing commands) (second : Draws next more) :
    Draws (do drawing; next) (commands ++ more) := by
  intro told breakage?
  have begun := first told breakage?
  have continued := second (told ++ (play breakage? commands).performed)
    (play breakage? commands).pending?
  simp only [EStateM.run, bind, EStateM.bind] at begun continued ⊢
  rw [begun, play_append]
  dsimp only
  cases error : (play breakage? commands).error? with
  | some message => simp [error]
  | none => simpa using continued

theorem draws_ask (command : Command) : Draws (ask command) [command] := by
  intro told breakage?
  cases breakage? with
  | none => rfl
  | some b =>
      by_cases due : b.Due command
      · rw [play_refused due]
        simp [EStateM.run, ask, due]
      · rw [play_carried due]
        simp [EStateM.run, ask, due]

theorem draws_tell (sure : command.fallible = false) : Draws (tell command) [command] := by
  intro told breakage?
  cases breakage? with
  | none => rfl
  | some b =>
      have spared : b.concerns command = false := by rw [Breakage.concerns, sure, Bool.false_and]
      rw [play_carried (by simp [Breakage.Due, spared])]
      simp [EStateM.run, tell, Breakage.past, spared]

theorem Draws.tell (rest : Draws next more) (sure : command.fallible = false := by rfl) :
    Draws (do Drawing.tell command; next) (command :: more) :=
  (draws_tell sure).seq rest

theorem Draws.ask (rest : Draws next more) (command : Command) :
    Draws (do Drawing.ask command; next) (command :: more) :=
  (draws_ask command).seq rest

theorem draws_each {α : Type} {part : α → Drawing Unit} {commands : α → List Command}
    (xs : List α) (each : ∀ x, Draws (part x) (commands x)) :
    Draws (xs.forM part) (xs.flatMap commands) := by
  induction xs with
  | nil => exact draws_nothing
  | cons x xs ih => exact (each x).seq ih

theorem Draws.guarded (wanted : Prop) [Decidable wanted] (drawn : Draws drawing commands) :
    Draws (if wanted then drawing else pure ()) (if wanted then commands else []) := by
  split
  · exact drawn
  · exact draws_nothing

/-! ## The layers -/

theorem draws_verticalLine (v : View) (x : Float) :
    Draws (verticalLine v x) (Picture.verticalLine v x) :=
  .tell (.tell (.tell (draws_tell rfl)))

theorem draws_horizontalLine (v : View) (y : Float) :
    Draws (horizontalLine v y) (Picture.horizontalLine v y) :=
  .tell (.tell (.tell (draws_tell rfl)))

theorem draws_disc (center : Point) (radius : Float) :
    Draws (disc center radius) (Picture.disc center radius) :=
  .tell (.ask (draws_tell rfl) _)

theorem draws_grid (v : View) : Draws (grid v) (Picture.grid v) := by
  refine .tell (.tell (draws_each v.gridOffsets fun meters => ?_))
  unfold Picture.gridLines
  rw [List.append_assoc]
  refine (draws_verticalLine v _).seq ((draws_horizontalLine v _).seq ?_)
  exact Draws.guarded (0 < meters) ((draws_verticalLine v _).seq (draws_horizontalLine v _))

theorem draws_axes (v : View) : Draws (axes v) (Picture.axes v) :=
  .tell (.tell ((draws_horizontalLine v _).seq ((draws_verticalLine v _).seq
    (.tell (.tell (.tell (.ask (.ask (.tell (.ask (.tell (.ask
      (draws_disc v.center Style.originDotRadius) _)) _)) _) _)))))))

/-- The dots are drawn in a loop over the candidates, which leaves out those off the canvas. -/
theorem draws_dots (v : View) (points : List Point) :
    Draws ((Trail.dotCandidates points).forM fun p =>
      if v.contains (v.project p) then disc (v.project p) Style.trailDotRadius else pure ())
      (Picture.dots v points) := by
  have each := draws_each (Trail.dotCandidates points) fun p =>
    Draws.guarded (v.contains (v.project p)) (draws_disc (v.project p) Style.trailDotRadius)
  suffices same : Picture.dots v points = (Trail.dotCandidates points).flatMap fun p =>
      if v.contains (v.project p) then Picture.disc (v.project p) Style.trailDotRadius else [] by
    rw [same]
    exact each
  unfold Picture.dots
  induction Trail.dotCandidates points with
  | nil => rfl
  | cons p rest ih =>
      rw [List.map_cons, List.filter_cons, List.flatMap_cons, ← ih]
      split <;> rfl

theorem draws_trail (v : View) (points : List Point) :
    Draws (trail v points) (Picture.trail v points) := by
  cases points with
  | nil => exact draws_nothing
  | cons first rest =>
      have lines : Draws (rest.forM fun p => tell (.lineTo (v.project p)))
          (rest.map fun p => .lineTo (v.project p)) := by
        rw [List.map_eq_flatMap]
        exact draws_each rest fun _ => draws_tell rfl
      unfold Picture.trail Picture.polyline
      simp only [List.append_assoc]
      exact .tell (.tell (.tell (.tell (.tell (.tell (.tell (.tell (.tell (.tell (lines.seq
        (.tell (.tell (.tell (draws_dots v (first :: rest)))))))))))))))

theorem draws_marker (center : Point) : Draws (marker center) (Picture.marker center) :=
  .tell (.tell (.tell (.tell (.tell (.tell ((draws_disc center Style.markerRadius).seq
    (.tell (.tell (.tell (.tell (.tell (draws_disc center Style.markerCenterRadius))))))))))))

theorem draws_scene (s : Scene) : Draws (scene s) s.picture := by
  unfold Scene.picture Picture.background
  simp only [List.append_assoc]
  refine .ask (.tell (.tell ((draws_grid s.view).seq ((draws_axes s.view).seq
    ((draws_trail s.view s.trail.points.toList).seq ?_))))) _
  cases s.marker? with
  | none => exact draws_nothing
  | some center => exact draws_marker center

end Drawing

def Scene.drawn (s : Scene) (breakage? : Option Breakage) : Performance :=
  (Drawing.scene s).performance breakage?

/-- A scene that is drawn call by call comes to its picture being carried out. -/
theorem Scene.drawn_eq_play (s : Scene) (breakage? : Option Breakage) :
    s.drawn breakage? = play breakage? s.picture :=
  (Drawing.draws_scene s).performance_eq breakage?

/-- A scene of which no call is refused is drawn to its end. When the `n`-th call of a name is going to
be refused and there are fewer, the scene is drawn to its end just the same. Otherwise drawing ends
with the message of that call, and the canvas was told what it would have been told without a refusal,
up to that call. -/
theorem Scene.drawn_until_refused (s : Scene) {call : String} (listed : call ∈ refusable) {n : Nat}
    (counted : 1 ≤ n) (message : String) :
    let whole := (s.drawn none).performed
    let drawn := s.drawn (some ⟨call, n, message⟩)
    (s.drawn none).error? = none ∧
      (calls call whole < n → drawn.error? = none ∧ drawn.performed = whole) ∧
      (n ≤ calls call whole → drawn.error? = some message ∧
        ∃ front last rest, whole = front ++ last :: rest ∧ last.name = call ∧
          calls call front = n - 1 ∧ drawn.performed = front ++ [last]) := by
  intro whole drawn
  have complete : s.drawn none = ⟨s.picture, none, none⟩ := by rw [drawn_eq_play, play_none]
  have picture : whole = s.picture := congrArg Performance.performed complete
  have played : drawn = play (some ⟨call, n, message⟩) whole := by rw [picture, ← drawn_eq_play]
  refine ⟨congrArg Performance.error? complete, ?_, ?_⟩
  · intro few
    rw [← countP_concerns (b := ⟨call, n, message⟩) listed] at few
    rw [played, play_of_spares (.inr few)]
    exact ⟨rfl, rfl⟩
  · intro many
    have reached : ¬ Breakage.Spares ⟨call, n, message⟩ whole := by
      rw [Breakage.Spares, countP_concerns listed]
      dsimp only
      omega
    obtain ⟨front, last, rest, split, ⟨concerned, before⟩, refused⟩ := play_of_not_spares reached
    rw [concerns_of_refusable listed] at concerned
    rw [countP_concerns listed] at before
    rw [played, refused]
    exact ⟨rfl, front, last, rest, split, by simpa using concerned, by dsimp only at before; omega, rfl⟩

/-- The label in the south is refused. -/
theorem Scene.drawn_until_second_label :
    let s := { Scene.ofSettings .default with view := ⟨10, 10, 20, 0.9⟩ }
    "fillText" ∈ refusable ∧ 2 ≤ calls "fillText" (s.drawn none).performed ∧
      (s.drawn (some ⟨"fillText", 2, "gone"⟩)).error? = some "gone" := by
  intro s
  have listed : "fillText" ∈ refusable := by decide
  have many : 2 ≤ calls "fillText" (s.drawn none).performed := by decide +kernel
  exact ⟨listed, many, ((s.drawn_until_refused listed (by decide) "gone").2.2 many).1⟩

end PositionMap
