import PositionMap.Proofs.Session.Upkeep

/-! # Two sessions side by side

A relation between sessions holds throughout two runs of the same call when it survives the single
changes that the call makes, made on both sides. `Paired` lists them for logging and for fitting the
canvas; then both canvases come to the same size. `PairedFrames` adds what drawing needs: that the
same canvas call is going to fail.
-/

namespace PositionMap.Session

/-- Sessions that are related log and measure the same, and remain related when the same is recorded
and both pages react. -/
structure Paired (R : Session → Session → Prop) (react other : Reaction) : Prop where
  record : ∀ s t effect, R s t → R (s.record effect) (t.record effect)
  answer : ∀ signal s t, R s t → R (react signal s) (other signal t)
  logging : ∀ s t, R s t → s.logging = t.logging
  measured : ∀ s t canvas, R s t →
    (s.page.container? canvas).map s.page.measurement =
      (t.page.container? canvas).map t.page.measurement

/-- Besides, the same canvas call is going to fail. -/
structure PairedFrames (R : Session → Session → Prop) (react other : Reaction) : Prop
    extends Paired R react other where
  breakage : ∀ s t, R s t → s.breakage? = t.breakage?
  breaking : ∀ s t breakage?, R s t → R { s with breakage? } { t with breakage? }

variable {R : Session → Session → Prop} {react other : Reaction} {s t : Session}

theorem Paired.emit (paired : Paired R react other) (effect : Effect) (h : R s t) :
    R (s.emit react effect) (t.emit other effect) :=
  paired.answer _ _ _ (paired.record _ _ effect h)

theorem Paired.emitAll (paired : Paired R react other) (effects : List Effect) (h : R s t) :
    R (s.emitAll react effects) (t.emitAll other effects) := by
  induction effects generalizing s t with
  | nil => exact h
  | cons effect effects ih => exact ih (paired.emit effect h)

theorem Paired.log (paired : Paired R react other) (entry : Entry) (h : R s t) :
    R (s.log react entry) (t.log other entry) := by
  unfold Session.log
  rw [paired.logging s t h]
  split
  · exact paired.emit _ h
  · exact h

theorem Paired.logAll (paired : Paired R react other) (entries : List Entry) (h : R s t) :
    R (s.logAll react entries) (t.logAll other entries) := by
  induction entries generalizing s t with
  | nil => exact h
  | cons entry entries ih => exact ih (paired.log entry h)

theorem Paired.warnUnless (paired : Paired R react other) (fine : Bool) (text : String)
    (h : R s t) :
    R (if fine then s else s.warn react text) (if fine then t else t.warn other text) := by
  cases fine with
  | true => exact h
  | false => exact paired.log _ h

theorem Paired.measure (paired : Paired R react other) (canvas : String) (h : R s t) :
    (s.measure react canvas).1 = (t.measure other canvas).1 ∧
      R (s.measure react canvas).2 (t.measure other canvas).2 := by
  have same := paired.measured s t canvas h
  unfold Session.measure
  cases left : s.page.container? canvas <;> cases right : t.page.container? canvas <;>
    simp only [left, right, Option.map_none, Option.map_some, reduceCtorEq] at same
  · exact ⟨rfl, h⟩
  · exact ⟨same, paired.answer _ _ _ h⟩

/-- Two canvases with the same scene come to the same size. -/
theorem Paired.fitCanvas (paired : Paired R react other) (r : Renderer) (draws : Bool)
    (h : R s t) :
    ∃ fitted scene a b, s.fitCanvas react r = (fitted, { r with scene }, a) ∧
      t.fitCanvas other { r with draws } = (fitted, { r with draws, scene }, b) ∧ R a b := by
  obtain ⟨same, after⟩ := paired.measure r.canvas h
  unfold Session.fitCanvas
  cases left : s.measure react r.canvas with
  | mk m? a =>
      cases right : t.measure other r.canvas with
      | mk n? b =>
          rw [left, right] at same after
          cases same
          cases m? with
          | none => exact ⟨false, r.scene, a, b, rfl, rfl, after⟩
          | some m =>
              have logged := paired.logAll (r.scene.fit m).2 after
              refine ⟨true, (r.scene.fit m).1, _, _, rfl, rfl, ?_⟩
              dsimp only
              split
              · exact paired.emit _ (paired.emit _ logged)
              · exact logged

/-! ## Frames -/

theorem PairedFrames.paint (paired : PairedFrames R react other) (scene : Scene) (h : R s t) :
    R (s.paint react scene) (t.paint other scene) := by
  unfold Session.paint
  rw [paired.breakage s t h]
  have broken := paired.breaking s t (Canvas.play t.breakage? scene.picture).pending? h
  have drawn := paired.emitAll ((Canvas.play t.breakage? scene.picture).performed.map .draw) broken
  dsimp only
  split
  · exact paired.log _ drawn
  · exact drawn

theorem PairedFrames.frame (paired : PairedFrames R react other) (r : Renderer) (h : R s t) :
    (frame react r s).1 = (frame other r t).1 ∧ R (frame react r s).2 (frame other r t).2 := by
  obtain ⟨fitted, scene, a, b, left, right, after⟩ := paired.fitCanvas r r.draws h
  unfold Session.frame
  rw [left, right]
  cases fitted with
  | true =>
      refine ⟨rfl, ?_⟩
      dsimp only
      split
      · exact paired.paint _ after
      · exact after
  | false => exact ⟨rfl, paired.log _ after⟩

/-- Two runs that work with the same renderer bring the same one back. -/
theorem lend_paired {r : Renderer} (free : s.renderer? = some r)
    {refuse decline : Session → Session} {use work : Renderer → Session → Renderer × Session}
    (worked : ∀ a b, R a b → (use r a).1 = (work r b).1 ∧ R (use r a).2 (work r b).2)
    (h : R (s.onWidget fun w => { w with renderer? := none })
      (s.onWidget fun w => { w with renderer? := none })) :
    ∃ r' a b, s.lend refuse use = a.onWidget (fun w => { w with renderer? := some r' }) ∧
      s.lend decline work = b.onWidget (fun w => { w with renderer? := some r' }) ∧ R a b := by
  obtain ⟨same, after⟩ := worked _ _ h
  unfold Session.lend
  rw [free]
  exact ⟨_, _, _, rfl, by rw [same], after⟩

end PositionMap.Session
