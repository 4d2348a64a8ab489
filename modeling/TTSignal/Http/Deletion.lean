import TTSignal.Http.Handover

/-!
# Parking, leaving and deleting

The rest of the steps that concern the owners of channels: a connection parks its channel or
leaves it, a pooled channel is taken or hears that its channel has closed, and the posted tasks
delete what nobody uses any more.
-/

namespace Http

namespace HttpConnector

variable {s s' : HttpConnector}

/-- A connection parks its channel. -/
theorem Channels.park (h : s.Channels) (hpool : s.Pool) {c : ConnectionId} {ch : ChannelId}
    (hactivity : s.activity c = .park ch) {stage : PooledStage}
    (hstage : stage = .pooled ∨ stage = .loose) (key : String) :
    (((s.park ch key stage).setConnection c { s.connection c with channel := none }).setActivity c
      (.detach ch)).Channels := by
  have hon : (s.activity c).on = some ch := by rw [hactivity]; rfl
  have hcourse : (s.activity c).course = some .parking := by rw [hactivity]; rfl
  obtain ⟨hdelivered, howner, hstate, hch⟩ := (h.serving c ch).parking hon hcourse
  have hserving := (h.standing c).active (by simp [hactivity])
  have hinside := (h.serving c ch).inside.mpr hon
  have hheld := (h.holding c ch).channel hch
  have hadopts : (s.channel ch).adopts = [] := by
    by_contra hne
    obtain ⟨d, hd⟩ := List.exists_mem_of_ne_nil _ hne
    obtain ⟨-, -, -, q, hq, -⟩ := (h.serving d ch).adopting hd
    rw [howner] at hq
    cases hq
  have hunborn := (hpool.lodged s.nextPooled).unborn le_rfl
  have hnone : ∀ ch', s.owner ch' = .pooled s.nextPooled → ch' < s.nextChannel →
      s.deleted ch' = true := by
    intro ch' ho hlt
    by_contra hdeleted
    have := ((h.watching s.nextPooled).pooled ch' ho hlt (by simpa using hdeleted)).2
    simp [hunborn] at this
  refine ⟨fun ch' => ?_, fun d ch' => ?_, fun q => ?_, fun d ch' => ?_, fun d => ?_⟩
  · obtain ⟨h1, h2, h3, h4, h5⟩ := h.shaped ch'
    constructor
    all_goals simp only [HttpConnector.park, setConnection, HttpConnector.setActivity, hstate,
      if_true, Function.update_apply]
    all_goals grind
  · obtain ⟨h1, h2⟩ := h.holding d ch'
    have hunused := fun q hq => hpool.unused (s.connection d).request q hq
    have hwatched := fun q => (h.watching q).watched
    have hclosed := fun q => (h.watching q).closed
    constructor
    all_goals simp only [HttpConnector.park, setConnection, HttpConnector.setActivity, hstate,
      if_true, Function.update_apply, Borrows]
    all_goals grind [Borrows]
  · obtain ⟨h1, h2, h3⟩ := h.watching q
    have hsame := hnone
    constructor
    all_goals simp only [HttpConnector.park, setConnection, HttpConnector.setActivity, hstate,
      if_true, Function.update_apply]
    all_goals grind
  · obtain ⟨h1, h2, h3, h4, h5, h6⟩ := h.serving d ch'
    constructor
    all_goals simp only [HttpConnector.park, setConnection, HttpConnector.setActivity, hstate,
      if_true, Function.update_apply, Waits, Channel.Open]
    all_goals grind [Waits, Channel.Open, Activity.on, Activity.course]
  · obtain ⟨h1, h2, h3, h4, h5, h6⟩ := h.standing d
    have hunused := fun q hq =>
      hpool.unused (s.connection d).request q (RequestPhase.unused_of_reuses hq)
    constructor
    all_goals simp only [HttpConnector.park, setConnection, HttpConnector.setActivity, hstate,
      if_true, Function.update_apply]
    all_goals grind [ConnectionStage.Fresh, ConnectionStage.Over]

/-- `_DetachAndScheduleDestroy`. -/
theorem Channels.detachAndScheduleDestroy (h : s.Channels) {c : ConnectionId} {ch : ChannelId}
    (hactivity : s.activity c = .detach ch) : (s.detachAndScheduleDestroy c ch).Channels := by
  have hon : (s.activity c).on = some ch := by rw [hactivity]; rfl
  have hcourse : (s.activity c).course = some .leaving := by rw [hactivity]; rfl
  obtain ⟨hdelivered, hleft⟩ := (h.serving c ch).leaving hon hcourse
  have hserving := (h.standing c).active (by simp [hactivity])
  have hinside := (h.serving c ch).inside.mpr hon
  have hadopting : ∀ ch', c ∉ (s.channel ch').adopts := by
    intro ch' hc
    have hidle := ((h.serving c ch').adopting hc).2.2.1.2.1
    rw [hactivity] at hidle
    cases hidle
  refine ⟨fun ch' => ?_, fun d ch' => ?_, fun q => ?_, fun d ch' => ?_, fun d => ?_⟩
  · obtain ⟨h1, h2, h3, h4, h5⟩ := h.shaped ch'
    constructor
    all_goals simp only [HttpConnector.detachAndScheduleDestroy, setStage,
      HttpConnector.setActivity, setInside, setChannel, post, Function.update_apply]
    all_goals grind
  · obtain ⟨h1, h2⟩ := h.holding d ch'
    have hnot := hadopting ch'
    constructor
    all_goals simp only [HttpConnector.detachAndScheduleDestroy, setStage,
      HttpConnector.setActivity, setInside, setChannel, post, Function.update_apply, Borrows]
    all_goals grind [Borrows, ConnectionStage.Holds]
  · obtain ⟨h1, h2, h3⟩ := h.watching q
    constructor
    all_goals simp only [HttpConnector.detachAndScheduleDestroy, setStage,
      HttpConnector.setActivity, setInside, setChannel, post, Function.update_apply]
    all_goals grind
  · obtain ⟨h1, h2, h3, h4, h5, h6⟩ := h.serving d ch'
    have hnot := hadopting ch'
    constructor
    all_goals simp only [HttpConnector.detachAndScheduleDestroy, setStage,
      HttpConnector.setActivity, setInside, setChannel, post, Function.update_apply, Waits,
      Channel.Open]
    all_goals grind [Waits, Channel.Open, Activity.on]
  · obtain ⟨h1, h2, h3, h4, h5, h6⟩ := h.standing d
    constructor
    all_goals simp only [HttpConnector.detachAndScheduleDestroy, setStage,
      HttpConnector.setActivity, setInside, setChannel, post, Function.update_apply]
    all_goals grind [ConnectionStage.Fresh, ConnectionStage.Over]

/-- `_TakeFromPool`. -/
theorem Channels.take (h : s.Channels) {p : PooledId} (hp : s.pooledStage p = .pooled)
    (r : RequestId) : (s.take r p).Channels := by
  refine ⟨fun ch' => ?_, fun d ch' => ?_, fun q => ?_, fun d ch' => ?_, fun d => ?_⟩
  · obtain ⟨h1, h2, h3, h4, h5⟩ := h.shaped ch'
    exact ⟨h1, h2, h3, h4, h5⟩
  · obtain ⟨h1, h2⟩ := h.holding d ch'
    constructor
    all_goals simp only [HttpConnector.take, setPooledStage, setPooled, Function.update_apply,
      Borrows]
    all_goals grind [Borrows]
  · obtain ⟨h1, h2, h3⟩ := h.watching q
    constructor
    all_goals simp only [HttpConnector.take, setPooledStage, setPooled, Function.update_apply]
    all_goals grind
  · obtain ⟨h1, h2, h3, h4, h5, h6⟩ := h.serving d ch'
    constructor
    all_goals simp only [HttpConnector.take, setPooledStage, setPooled, Function.update_apply,
      Waits]
    all_goals grind [Waits]
  · obtain ⟨h1, h2, h3, h4, h5, h6⟩ := h.standing d
    constructor
    all_goals simp only [HttpConnector.take, setPooledStage, setPooled, Function.update_apply]
    all_goals grind

/-- The channel of a pooled channel has closed. -/
theorem Channels.pooledClosed (h : s.Channels) {p : PooledId} {ch : ChannelId}
    (howner : s.owner ch = .pooled p) (hstate : (s.channel ch).state = .closing)
    (hadopts : (s.channel ch).adopts = []) (hinside : (s.channel ch).inside = none)
    (hdeleted : s.deleted ch = false) :
    ((s.setChannel ch { s.channel ch with state := .closed }).onPooledClosed p).Channels := by
  have hlt : ch < s.nextChannel := by
    by_contra hle
    have := ((h.shaped ch).unborn (not_lt.mp hle)).1
    rw [hstate] at this
    cases this
  obtain ⟨hpch, hstages⟩ := (h.watching p).pooled ch howner hlt hdeleted
  obtain ⟨x, idle, n, works, hx, heq⟩ :=
    (s.setChannel ch { s.channel ch with state := .closed }).onPooledClosed_eq p
  replace hx : x.channel = (s.pooled p).channel := hx
  have hadopting : ∀ d ch', d ∈ (s.channel ch').adopts → s.owner ch' ≠ .pooled p := by
    intro d ch' hd ho
    have hwaits := ((h.serving d ch').adopting hd).2.2.1
    have hheld := (h.holding d ch').channel hwaits.2.2.2
    have hsame := ((h.watching p).pooled ch' ho hheld.1 hheld.2.1).1
    rw [hpch] at hsame
    subst hsame
    rw [hadopts] at hd
    cases hd
  rw [heq]
  refine ⟨fun ch' => ?_, fun d ch' => ?_, fun q => ?_, fun d ch' => ?_, fun d => ?_⟩
  · obtain ⟨h1, h2, h3, h4, h5⟩ := h.shaped ch'
    constructor
    all_goals simp only [setChannel, Function.update_apply]
    all_goals grind
  · obtain ⟨h1, h2⟩ := h.holding d ch'
    constructor
    all_goals simp only [setChannel, Function.update_apply, Borrows]
    all_goals grind [Borrows]
  · obtain ⟨h1, h2, h3⟩ := h.watching q
    constructor
    all_goals simp only [setChannel, Function.update_apply]
    all_goals grind
  · obtain ⟨h1, h2, h3, h4, h5, h6⟩ := h.serving d ch'
    have hnot := hadopting d ch'
    constructor
    all_goals simp only [setChannel, Function.update_apply, Waits, Channel.Open]
    all_goals grind [Waits, Channel.Open]
  · obtain ⟨h1, h2, h3, h4, h5, h6⟩ := h.standing d
    constructor
    all_goals simp only [setChannel, Function.update_apply]
    all_goals grind

end HttpConnector

end Http
