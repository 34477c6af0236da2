import PositionMap.Proofs.Session.Comparison
import PositionMap.Proofs.Session.Readings

/-! # Sessions with scenes that look the same

Two sessions in which the same happens and whose maps have scenes that look the same: they draw the
same, take the same sizes and log the same, and look the same again after the same input. Then the
sessions request, cancel, log and draw the same, whatever is called, and answer the same unless they
are asked for what the scenes differ in. Of the effects only those that count have to be the same.
-/

namespace PositionMap

/-- Scenes that are alike draw the same, and remain alike with the same log entries. -/
structure Likeness (like : Scene → Scene → Prop) : Prop where
  refl : ∀ a, like a a
  apply : ∀ a b input, like a b →
    (a.apply input).2 = (b.apply input).2 ∧ like (a.apply input).1 (b.apply input).1
  differs : ∀ a b m, like a b → a.differs m = b.differs m
  picture : ∀ a b, like a b → a.picture = b.picture

def Call.Shared (like : Scene → Scene → Prop) (c : Call) : Prop :=
  ∀ reading, c.reading? = some reading → ∀ a b, like a b → reading a = reading b

def Renderer.showing (r : Renderer) (scene : Scene) : Renderer :=
  { r with scene }

@[simp] theorem Renderer.draws_showing (r : Renderer) (scene : Scene) :
    (r.showing scene).draws = r.draws := rfl

@[simp] theorem Renderer.scene_showing (r : Renderer) (scene : Scene) :
    (r.showing scene).scene = scene := rfl

def Widget.holding (w : Widget) (renderer? : Option Renderer) : Widget :=
  { w with renderer? }

namespace Session

inductive SameMaps (like : Scene → Scene → Prop) : Option Widget → Option Widget → Prop
  | none : SameMaps like none none
  | busy {w : Widget} (lent : w.renderer? = Option.none) : SameMaps like (some w) (some w)
  | free {w : Widget} {r : Renderer} {scene : Scene} (held : w.renderer? = some r)
      (alike : like r.scene scene) :
      SameMaps like (some w) (some (w.holding (some (r.showing scene))))

/-- The sessions are the same between steps, but for scenes that are alike. -/
structure Matched (like : Scene → Scene → Prop) (s t : Session) : Prop where
  page : s.page = t.page
  logging : s.logging = t.logging
  nextOwner : s.nextOwner = t.nextOwner
  maps : SameMaps like s.widget? t.widget?

/-- Besides, the same call is going to fail, the same hook is set, and the effects that count are the
same. -/
structure Twins (like : Scene → Scene → Prop) (counts : Effect → Bool) (s t : Session) : Prop
    extends Matched like s t where
  breakage : s.breakage? = t.breakage?
  hook : s.hook? = t.hook?
  journal : s.journal.toList.filter counts = t.journal.toList.filter counts

def Answers (like : Scene → Scene → Prop) (counts : Effect → Bool) (react other : Reaction) : Prop :=
  ∀ signal s t, Twins like counts s t → Twins like counts (react signal s) (other signal t)

variable {like : Scene → Scene → Prop} {counts : Effect → Bool} {react other : Reaction}
  {s t : Session}

theorem Twins.record (twins : Twins like counts s t) (effect : Effect) :
    Twins like counts (s.record effect) (t.record effect) :=
  ⟨⟨twins.page, twins.logging, twins.nextOwner, twins.maps⟩, twins.breakage, twins.hook, by
    simp [Session.record, List.filter_append, twins.journal]⟩

theorem twins_paired (answers : Answers like counts react other) :
    PairedFrames (Twins like counts) react other where
  record _ _ effect h := h.record effect
  answer := answers
  logging _ _ h := h.logging
  measured _ _ canvas h := by rw [h.page]
  breakage _ _ h := h.breakage
  breaking _ _ _ h := ⟨⟨h.page, h.logging, h.nextOwner, h.maps⟩, rfl, h.hook, h.journal⟩

/-! ## Maps -/

theorem SameMaps.map {w? v? : Option Widget} (same : SameMaps like w? v?) {f : Widget → Widget}
    (commutes : ∀ w renderer?, f (w.holding renderer?) = (f w).holding renderer?) :
    SameMaps like (w?.map f) (v?.map f) := by
  have keeps (w : Widget) : (f w).renderer? = w.renderer? := by
    have same := congrArg Widget.renderer? (commutes w w.renderer?)
    exact same
  cases same with
  | none => exact .none
  | busy lent => exact .busy ((keeps _).trans lent)
  | free held alike =>
      rw [Option.map_some, Option.map_some, commutes]
      exact .free ((keeps _).trans held) alike

theorem Twins.setWidget (twins : Twins like counts s t) {w? v? : Option Widget}
    (same : SameMaps like w? v?) :
    Twins like counts { s with widget? := w? } { t with widget? := v? } :=
  ⟨⟨twins.page, twins.logging, twins.nextOwner, same⟩, twins.breakage, twins.hook, twins.journal⟩

theorem Twins.setPage (twins : Twins like counts s t) (f : Page → Page) :
    Twins like counts { s with page := f s.page } { t with page := f t.page } :=
  ⟨⟨congrArg f twins.page, twins.logging, twins.nextOwner, twins.maps⟩, twins.breakage, twins.hook,
    twins.journal⟩

theorem Twins.onWidget (twins : Twins like counts s t) {f : Widget → Widget}
    (commutes : ∀ w renderer?, f (w.holding renderer?) = (f w).holding renderer?) :
    Twins like counts (s.onWidget f) (t.onWidget f) :=
  twins.setWidget (twins.maps.map commutes)

theorem Matched.widgets (matched : Matched like s t) :
    (s.widget? = none ∧ t.widget? = none) ∨
      ∃ w renderer?, s.widget? = some w ∧ t.widget? = some (w.holding renderer?) := by
  have maps := matched.maps
  cases found : s.widget? <;> cases there : t.widget? <;> rw [found, there] at maps <;>
    cases maps
  · exact .inl ⟨rfl, rfl⟩
  · exact .inr ⟨_, _, rfl, rfl⟩
  · exact .inr ⟨_, _, rfl, rfl⟩

theorem Matched.renderers (matched : Matched like s t) :
    (s.renderer? = none ∧ t.renderer? = none) ∨
      ∃ r scene, s.renderer? = some r ∧ t.renderer? = some (r.showing scene) ∧
        like r.scene scene := by
  have maps := matched.maps
  cases found : s.widget? <;> cases there : t.widget? <;> rw [found, there] at maps <;>
    cases maps
  case none.none => exact .inl (by simp [renderer?, found, there])
  case some.some.busy lent => exact .inl (by simp [renderer?, found, there, lent])
  case some.some.free r scene alike held =>
      exact .inr ⟨r, scene, by simp [renderer?, found, held],
        by simp [renderer?, there, Widget.holding], alike⟩

/-- Nothing of the scenes is left while they are lent out. -/
theorem Matched.lent (matched : Matched like s t) :
    Matched like (s.onWidget fun w => { w with renderer? := none })
      (t.onWidget fun w => { w with renderer? := none }) := by
  refine ⟨matched.page, matched.logging, matched.nextOwner, ?_⟩
  rcases matched.widgets with ⟨found, there⟩ | ⟨w, renderer?, found, there⟩ <;>
    rw [widget?_onWidget, widget?_onWidget, found, there]
  · exact .none
  · exact .busy rfl

theorem Matched.giveBack (matched : Matched like s t) (r : Renderer) {scene : Scene}
    (alike : like r.scene scene) :
    Matched like (s.onWidget fun w => { w with renderer? := some r })
      (t.onWidget fun w => { w with renderer? := some (r.showing scene) }) := by
  refine ⟨matched.page, matched.logging, matched.nextOwner, ?_⟩
  rcases matched.widgets with ⟨found, there⟩ | ⟨w, renderer?, found, there⟩ <;>
    rw [widget?_onWidget, widget?_onWidget, found, there]
  · exact .none
  · exact .free (w := { w with renderer? := some r }) rfl alike

theorem Twins.lend (twins : Twins like counts s t) {refuse decline : Session → Session}
    {use work : Renderer → Session → Renderer × Session}
    (refused : Twins like counts (refuse s) (decline t))
    (used : ∀ r scene a b, like r.scene scene → Twins like counts a b →
      ∃ first second a' b', like first second ∧ use r a = (r.showing first, a') ∧
        work (r.showing scene) b = (r.showing second, b') ∧ Twins like counts a' b') :
    Twins like counts (s.lend refuse use) (t.lend decline work) := by
  unfold Session.lend
  rcases twins.renderers with ⟨held, has⟩ | ⟨r, scene, held, has, alike⟩
  · rw [held, has]
    exact refused
  · have lent : Twins like counts (s.onWidget fun w => { w with renderer? := none })
        (t.onWidget fun w => { w with renderer? := none }) :=
      ⟨twins.toMatched.lent, twins.breakage, twins.hook, twins.journal⟩
    obtain ⟨first, second, a, b, alike, left, right, after⟩ := used r scene _ _ alike lent
    rw [held, has]
    dsimp only
    rw [left, right]
    exact ⟨after.toMatched.giveBack (r.showing first) alike, after.breakage, after.hook,
      after.journal⟩

/-! ## Working with the renderer -/

section

variable (likeness : Likeness like) (answers : Answers like counts react other)

include likeness answers

theorem Twins.sized {a b : Scene} (alike : like a b) (m : Measurement)
    (twins : Twins like counts s t) : Twins like counts (s.sized react a m) (t.sized other b m) := by
  have paired := twins_paired answers
  have entries : (a.fit m).2 = (b.fit m).2 := (likeness.apply a b (.size m) alike).1
  have logged := paired.logAll (b.fit m).2 twins
  unfold Session.sized
  rw [likeness.differs a b m alike, entries]
  dsimp only
  split
  · exact paired.emit _ (paired.emit _ logged)
  · exact logged

theorem Twins.fitCanvas (r : Renderer) {scene : Scene} (alike : like r.scene scene)
    (twins : Twins like counts s t) :
    ∃ fitted first second a b, like first second ∧
      s.fitCanvas react r = (fitted, r.showing first, a) ∧
      t.fitCanvas other (r.showing scene) = (fitted, r.showing second, b) ∧
      Twins like counts a b := by
  obtain ⟨same, after⟩ := (twins_paired answers).measure r.canvas twins
  cases left : s.measure react r.canvas with
  | mk m? a =>
      cases right : t.measure other r.canvas with
      | mk n? b =>
          rw [left, right] at same after
          cases same
          cases m? with
          | none =>
              exact ⟨false, r.scene, scene, a, b, alike, fitCanvas_of_unmeasured left,
                fitCanvas_of_unmeasured right, after⟩
          | some m =>
              exact ⟨true, _, _, _, _, (likeness.apply _ _ (.size m) alike).2,
                fitCanvas_of_measured left, fitCanvas_of_measured right,
                after.sized likeness answers alike m⟩

theorem Twins.frame (r : Renderer) {scene : Scene} (alike : like r.scene scene)
    (twins : Twins like counts s t) :
    ∃ first second a b, like first second ∧ Session.frame react r s = (r.showing first, a) ∧
      Session.frame other (r.showing scene) t = (r.showing second, b) ∧ Twins like counts a b := by
  have paired := twins_paired answers
  obtain ⟨fitted, first, second, a, b, alike, left, right, after⟩ :=
    twins.fitCanvas likeness answers r alike
  unfold Session.frame
  rw [left, right]
  cases fitted with
  | true =>
      have painted : b.paint other second = b.paint other first := by
        unfold Session.paint
        rw [likeness.picture first second alike]
      have drawn := paired.paint first after
      rw [← painted] at drawn
      refine ⟨first, second, _, _, alike, rfl, rfl, ?_⟩
      cases draws : r.draws with
      | true => simpa [draws] using drawn
      | false => simpa [draws] using after
  | false => exact ⟨first, second, _, _, alike, rfl, rfl, paired.log _ after⟩

theorem Twins.input (twins : Twins like counts s t) (i : Scene.Input) :
    Twins like counts (s.input react i) (t.input other i) := by
  have paired := twins_paired answers
  refine twins.lend (paired.log _ twins) fun r scene a b alike h => ?_
  obtain ⟨entries, applied⟩ := likeness.apply _ _ i alike
  have logged := paired.logAll (r.scene.apply i).2 h
  rw [show b.logAll other (r.scene.apply i).2 = b.logAll other (scene.apply i).2 by rw [entries]]
    at logged
  exact ⟨_, _, _, _, applied, rfl, rfl, logged⟩

theorem Twins.lend_frame (twins : Twins like counts s t) (text : String) :
    Twins like counts (s.lend (warn react text) (Session.frame react))
      (t.lend (warn other text) (Session.frame other)) :=
  twins.lend ((twins_paired answers).log _ twins) fun r _ _ _ alike h =>
    h.frame likeness answers r alike

theorem Twins.resize (twins : Twins like counts s t) :
    Twins like counts (s.resize react) (t.resize other) := by
  have paired := twins_paired answers
  refine twins.lend (paired.log _ twins) fun r scene a b alike h => ?_
  obtain ⟨fitted, first, second, _, _, alike, left, right, after⟩ :=
    h.fitCanvas likeness answers r alike
  unfold refit
  rw [left, right]
  cases fitted with
  | true => exact ⟨first, second, _, _, alike, rfl, rfl, after⟩
  | false => exact ⟨first, second, _, _, alike, rfl, rfl, paired.log _ after⟩

end

theorem Matched.reading {α : Type} (matched : Matched like s t) (reply : α → Reply) {default : α}
    {f : Scene → α} (shared : ∀ a b, like a b → reply (f a) = reply (f b)) :
    reply (s.read default f) = reply (t.read default f) := by
  rcases matched.renderers with ⟨held, has⟩ | ⟨r, scene, held, has, alike⟩
  · simp [Session.read, held, has]
  · simpa only [Session.read, held, has, Renderer.scene_showing] using shared _ _ alike

/-! ## The frame loop -/

theorem Twins.schedule (answers : Answers like counts react other)
    (twins : Twins like counts s t) :
    Twins like counts (s.schedule react) (t.schedule other) := by
  have paired := twins_paired answers
  rcases twins.widgets with ⟨found, there⟩ | ⟨w, renderer?, found, there⟩
  · simpa [Session.schedule, found, there] using twins
  · by_cases granting : t.grants
    · have granted : s.grants := by
        rw [grants, twins.page]
        exact granting
      have asked := twins.setPage fun page => page.request w.owner
      rw [schedule_granted react found granted, schedule_granted other there granting, twins.page]
      rw [twins.page] at asked
      exact Twins.onWidget (paired.emit _ asked) fun _ _ => rfl
    · simp only [Session.schedule, found, there, twins.page]
      split
      · exact paired.log _ twins
      · split
        · exact paired.log _ twins
        · simp_all [grants]

theorem Twins.start (answers : Answers like counts react other) (twins : Twins like counts s t) :
    Twins like counts (s.start react) (t.start other) := by
  rcases twins.widgets with ⟨found, there⟩ | ⟨w, renderer?, found, there⟩
  · simpa [Session.start, found, there] using twins
  · have running : (w.holding renderer?).running = w.running := rfl
    simp only [Session.start, found, there, running]
    split
    · exact twins
    · have told := (twins_paired answers).log ⟨.info, "animation started"⟩ twins
      exact (Twins.onWidget told fun _ _ => rfl).schedule answers

theorem Twins.cancelRequest (answers : Answers like counts react other)
    (twins : Twins like counts s t) (id : Nat) :
    Twins like counts (s.cancelRequest react id) (t.cancelRequest other id) := by
  have told := (twins_paired answers).emit (.cancelled id) twins
  unfold Session.cancelRequest
  dsimp only
  rw [told.page]
  split
  · exact (twins_paired answers).log _ told
  · have taken := told.setPage fun page => page.cancel id
    rwa [told.page] at taken

theorem Twins.stop (answers : Answers like counts react other) (twins : Twins like counts s t) :
    Twins like counts (s.stop react) (t.stop other) := by
  have handle : s.widget?.bind Widget.handle? = t.widget?.bind Widget.handle? := by
    rcases twins.widgets with ⟨found, there⟩ | ⟨w, renderer?, found, there⟩ <;>
      rw [found, there]
    rfl
  unfold Session.stop
  rw [handle]
  split
  · exact twins
  · rename_i id _
    have released : Twins like counts (s.onWidget fun w => { w with handle? := none })
        (t.onWidget fun w => { w with handle? := none }) := twins.onWidget fun _ _ => rfl
    refine (twins_paired answers).log _ ?_
    cases window : t.page.window with
    | true => simpa [twins.page, window] using released.cancelRequest answers id
    | false => simpa [twins.page, window] using released

theorem Twins.grant (likeness : Likeness like) (answers : Answers like counts react other)
    (twins : Twins like counts s t) (time : Float) (request : Request) :
    Twins like counts (s.grant react time request) (t.grant other time request) := by
  rcases twins.widgets with ⟨found, there⟩ | ⟨w, renderer?, found, there⟩
  · simpa [Session.grant, grantBy, found, there] using twins
  · have owner : (w.holding renderer?).owner = w.owner := rfl
    have pacer : (w.holding renderer?).pacer = w.pacer := rfl
    have offered : Twins like counts
        (s.onWidget fun w => { w with handle? := none, pacer := w.pacer.offer time })
        (t.onWidget fun w => { w with handle? := none, pacer := w.pacer.offer time }) :=
      twins.onWidget fun _ _ => rfl
    simp only [Session.grant, grantBy, found, there, owner, pacer]
    split
    · apply Twins.schedule answers
      split
      · exact offered.lend_frame likeness answers _
      · exact offered
    · exact twins

theorem Twins.tick (likeness : Likeness like) (answers : Answers like counts react other)
    (twins : Twins like counts s t) (time : Float) :
    (s.tick react time).1 = (t.tick other time).1 ∧
      Twins like counts (s.tick react time).2 (t.tick other time).2 := by
  have granted (requests : List Request) {s t : Session} (twins : Twins like counts s t) :
      Twins like counts (requests.foldl (Session.grant react time) s)
        (requests.foldl (Session.grant other time) t) := by
    induction requests generalizing s t with
    | nil => exact twins
    | cons request requests ih => exact ih (twins.grant likeness answers time request)
  unfold Session.tick tickBy
  rw [twins.page]
  refine ⟨rfl, granted _ ?_⟩
  have taken := twins.setPage fun page => { page with queue := [] }
  rwa [twins.page] at taken

/-! ## Calls -/

theorem Twins.event (likeness : Likeness like) (answers : Answers like counts react other)
    (twins : Twins like counts s t) (name payload : String) :
    (s.event react name payload).1 = (t.event other name payload).1 ∧
      Twins like counts (s.event react name payload).2 (t.event other name payload).2 := by
  unfold Session.event
  split
  · exact ⟨rfl, (twins_paired answers).log _ twins⟩
  · exact ⟨rfl, twins.input likeness answers (.event _)⟩

theorem Matched.isRunning (matched : Matched like s t) : s.isRunning = t.isRunning := by
  rcases matched.widgets with ⟨found, there⟩ | ⟨w, renderer?, found, there⟩ <;>
    simp [Session.isRunning, found, there, Widget.running, Widget.holding]

theorem Matched.hasMap (matched : Matched like s t) : s.hasMap = t.hasMap := by
  rcases matched.widgets with ⟨found, there⟩ | ⟨w, renderer?, found, there⟩ <;>
    simp [Session.hasMap, found, there, Widget.holding]

theorem Twins.callMap (likeness : Likeness like) (answers : Answers like counts react other)
    (twins : Twins like counts s t) (c : Call) :
    (c.Shared like → (s.callMap react c).1 = (t.callMap other c).1) ∧
      Twins like counts (s.callMap react c).2 (t.callMap other c).2 := by
  cases c with
  | tick time =>
      obtain ⟨granted, after⟩ := twins.tick likeness answers time
      exact ⟨fun _ => congrArg Reply.count granted, after⟩
  | position p => exact ⟨fun _ => rfl, twins.input likeness answers (.position p)⟩
  | originReset => exact ⟨fun _ => rfl, twins.input likeness answers .originReset⟩
  | scale value => exact ⟨fun _ => rfl, twins.input likeness answers (.scale value)⟩
  | connection connected =>
      exact ⟨fun _ => rfl, twins.input likeness answers (.connection connected)⟩
  | event name payload =>
      obtain ⟨replies, after⟩ := twins.event likeness answers name payload
      exact ⟨fun _ => replies, after⟩
  | start => exact ⟨fun _ => rfl, twins.start answers⟩
  | stop => exact ⟨fun _ => rfl, twins.stop answers⟩
  | isRunning => exact ⟨fun _ => congrArg Reply.flag twins.isRunning, twins⟩
  | resize => exact ⟨fun _ => rfl, twins.resize likeness answers⟩
  | renderOnce => exact ⟨fun _ => rfl, twins.lend_frame likeness answers _⟩
  | scaleLabel => exact ⟨fun shared => twins.reading Reply.text (shared _ rfl), twins⟩
  | positionLabels => exact ⟨fun shared => twins.reading Reply.texts (shared _ rfl), twins⟩
  | trailLength | satellites =>
      exact ⟨fun shared => twins.reading Reply.count (shared _ rfl), twins⟩
  | isConnected => exact ⟨fun shared => twins.reading Reply.flag (shared _ rfl), twins⟩
  | fixStatus => exact ⟨fun shared => twins.reading Reply.maybeText (shared _ rfl), twins⟩

theorem Twins.call (likeness : Likeness like) (answers : Answers like counts react other)
    (twins : Twins like counts s t) (c : Call) :
    (c.Shared like → (s.call react c).1 = (t.call other c).1) ∧
      Twins like counts (s.call react c).2 (t.call other c).2 := by
  unfold Session.call
  rw [twins.hasMap]
  split
  · exact twins.callMap likeness answers _
  · split
    · exact twins.callMap likeness answers c
    · exact ⟨fun _ => rfl, twins⟩

theorem Twins.callEach (likeness : Likeness like) (answers : Answers like counts react other)
    (twins : Twins like counts s t) (calls : List Call) :
    Twins like counts (s.callEach react calls) (t.callEach other calls) := by
  induction calls generalizing s t with
  | nil => exact twins
  | cons c calls ih =>
      obtain ⟨_, after⟩ := twins.call likeness answers c
      exact ih ⟨⟨after.page, after.logging, after.nextOwner, after.maps⟩, after.breakage,
        after.hook, after.journal⟩

/-- A page that takes its hook off and makes its calls. -/
theorem Twins.unhook (twins : Twins like counts s t) :
    Twins like counts { s with hook? := none } { t with hook? := none } :=
  ⟨⟨twins.page, twins.logging, twins.nextOwner, twins.maps⟩, twins.breakage, rfl, twins.journal⟩

theorem answers_quiet (like : Scene → Scene → Prop) (counts : Effect → Bool) :
    Answers like counts quiet quiet :=
  fun _ _ _ twins => twins

theorem answers_hooked (likeness : Likeness like) (counts : Effect → Bool) :
    Answers like counts hooked hooked := by
  intro signal s t twins
  unfold hooked
  rw [twins.hook]
  split
  · exact twins
  · rename_i hook _
    split
    · rw [callBack, callBack]
      exact twins.unhook.callEach likeness (answers_quiet like counts) hook.calls
    · exact twins

/-! ## Steps -/

section

variable (likeness : Likeness like) (answers : Answers like counts react other)

include likeness answers

omit likeness in
theorem Twins.load (twins : Twins like counts s t) :
    Twins like counts (s.load react) (t.load other) := by
  have shown : Twins like counts { s with logging := true } { t with logging := true } :=
    ⟨⟨twins.page, rfl, twins.nextOwner, twins.maps⟩, twins.breakage, twins.hook, twins.journal⟩
  unfold Session.load
  rw [twins.logging]
  split
  · exact twins
  · exact (twins_paired answers).log _ shown

omit likeness in
theorem Twins.release (twins : Twins like counts s t) :
    Twins like counts (s.release react) (t.release other) := by
  have leaving : Twins like counts (s.onWidget fun w => { w with leaving := true })
      (t.onWidget fun w => { w with leaving := true }) := twins.onWidget fun _ _ => rfl
  exact (leaving.stop answers).setWidget .none

theorem Twins.mount (twins : Twins like counts s t) (canvas : String) (settings : Settings) :
    Twins like counts (s.mount react canvas settings) (t.mount other canvas settings) := by
  have paired := twins_paired answers
  have drawable := paired.warnUnless (t.page.draws canvas)
    "canvas has no 2d context; frames will be skipped" twins
  let plain : Renderer := ⟨canvas, t.page.draws canvas, .ofSettings settings⟩
  obtain ⟨fitted, first, second, a, b, alike, left, right, after⟩ :=
    drawable.fitCanvas likeness answers plain (likeness.refl plain.scene)
  have bound := paired.log
    ⟨.info, "renderer bound to #" ++ canvas ++ " (scale " ++
      Number.shown settings.initialScale ++ " m)"⟩
    (paired.warnUnless fitted
      ("#" ++ canvas ++ " has no container; frames skipped until it is attached") after)
  unfold Session.mount
  rw [twins.page]
  change Session.fitCanvas other plain _ = _ at right
  dsimp only
  rw [left, right]
  exact ⟨⟨bound.page, bound.logging, congrArg (· + 1) bound.nextOwner, by
    have owner := bound.nextOwner
    simp only [info, owner]
    exact .free (r := plain.showing first) rfl alike⟩, bound.breakage, bound.hook, bound.journal⟩

theorem Twins.create (twins : Twins like counts s t) (canvas settings : String) :
    (s.create react canvas settings).1 = (t.create other canvas settings).1 ∧
      Twins like counts (s.create react canvas settings).2 (t.create other canvas settings).2 := by
  unfold Session.create
  rw [twins.page]
  split
  · exact ⟨rfl, twins⟩
  · split
    · exact ⟨rfl, twins⟩
    · exact ⟨rfl, twins.mount likeness answers canvas _⟩

theorem Twins.act (twins : Twins like counts s t) (action : Action) :
    ((∀ c, action = .call c → c.Shared like) →
      (s.act react action).1 = (t.act other action).1) ∧
      Twins like counts (s.act react action).2 (t.act other action).2 := by
  cases action with
  | change c => exact ⟨fun _ => rfl, twins.setPage fun page => page.change c⟩
  | load => exact ⟨fun _ => rfl, twins.load answers⟩
  | create canvas settings =>
      obtain ⟨replies, after⟩ :=
        (twins.release answers).create likeness answers canvas settings
      exact ⟨fun _ => replies, after⟩
  | release => exact ⟨fun _ => rfl, twins.release answers⟩
  | call c =>
      obtain ⟨replies, after⟩ := twins.call likeness answers c
      exact ⟨fun shared => replies (shared c rfl), after⟩

end

/-- A step has no trace of the steps before it, so nothing but the sessions has to match. -/
theorem Matched.armed (matched : Matched like s t) (counts : Effect → Bool) (st : Step) :
    Twins like counts (s.armed st) (t.armed st) :=
  ⟨⟨matched.page, matched.logging, matched.nextOwner, matched.maps⟩, rfl, rfl, rfl⟩

theorem Matched.step (likeness : Likeness like) (matched : Matched like s t)
    (counts : Effect → Bool) (st : Step) :
    ((∀ c, st.action = .call c → c.Shared like) → (s.step st).1 = (t.step st).1) ∧
      Twins like counts (s.step st).2 (t.step st).2 :=
  (matched.armed counts st).act likeness (answers_hooked likeness counts) st.action

end Session

end PositionMap
