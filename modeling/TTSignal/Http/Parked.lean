import TTSignal.Http.Changes
import TTSignal.Http.Owned
import TTSignal.Traces

/-!
# Taking a parked channel over

At any time a channel belongs to at most one connection, and at most one connection waits to
take it over. A channel whose data arrives while it is parked stays poisoned and parked, so no
connection takes it over or is given any of its data afterwards.
-/

namespace Http

open Tcp (BCResult)

namespace HttpConnector

variable {s s' : HttpConnector}

/-- A channel has received data while it was parked. -/
def Tainted (s : HttpConnector) (ch : ChannelId) : Prop :=
  ch < s.nextChannel ∧ (s.channel ch).parked = true ∧ (s.channel ch).poisoned = true

/-- A channel that is tainted stays so. -/
def Stays (s s' : HttpConnector) : Prop := ∀ ch, s.Tainted ch → s'.Tainted ch

/-- What stays twice stays. -/
theorem Stays.trans {s'' : HttpConnector} (h : s.Stays s') (h' : s'.Stays s'') : s.Stays s'' :=
  fun ch hch => h' ch (h ch hch)

/-- The channels do not change. -/
theorem stays_of_eq (hchannel : s'.channel = s.channel) (hnext : s'.nextChannel = s.nextChannel) :
    s.Stays s' := by
  intro ch hch
  rwa [Tainted, hchannel, hnext]

/-- Where everything is the same the parked channels stay. -/
theorem stays_of_same (h : s.Same s') : s.Stays s' := by
  obtain ⟨-, -, -, -, -, -, hnext⟩ := h.tables
  intro ch hch
  rwa [Tainted, h.parked, h.poisoned, hnext]

/-- A channel changes and stays parked and poisoned. -/
theorem stays_setChannel {ch : ChannelId} {x : Channel}
    (h : (s.channel ch).parked = true → (s.channel ch).poisoned = true →
      x.parked = true ∧ x.poisoned = true) : s.Stays (s.setChannel ch x) := by
  rintro ch' ⟨hlt, hparked, hpoisoned⟩
  refine ⟨hlt, ?_⟩
  simp only [HttpConnector.setChannel, Function.update_apply]
  split
  · subst ch'
    exact h hparked hpoisoned
  · exact ⟨hparked, hpoisoned⟩

/-- A new channel is none of the old ones. -/
theorem stays_newChannel (s : HttpConnector) (c : ConnectionId) : s.Stays (s.newChannel c) := by
  rintro ch ⟨hlt, hparked, hpoisoned⟩
  refine ⟨Nat.lt_succ_of_lt hlt, ?_⟩
  simpa only [newChannel, Function.update_of_ne (Nat.ne_of_lt hlt)] using ⟨hparked, hpoisoned⟩

/-- A channel that is parked stays poisoned. -/
theorem stays_park (s : HttpConnector) (ch : ChannelId) (key : String) (stage : PooledStage) :
    s.Stays (s.park ch key stage) := by
  have hset : s.Stays (s.setChannel ch (if (s.channel ch).state = .ready then
      { s.channel ch with handler := some (.pooled s.nextPooled), parked := true }
      else s.channel ch)) := by
    refine stays_setChannel fun hparked hpoisoned => ?_
    split
    · exact ⟨rfl, hpoisoned⟩
    · exact ⟨hparked, hpoisoned⟩
  exact hset.trans (stays_of_eq rfl rfl)

/-- A tainted channel stays tainted whatever changes. -/
theorem Changes.stays (h : Changes True True s s') : s.Stays s' := by
  refine h.within (fun ch hch => hch) Stays.trans fun hchange => ?_
  cases hchange with
  | beside s' heq =>
    simp only [surface, Prod.mk.injEq] at heq
    exact stays_of_eq heq.1 heq.2.1
  | channel ch x _ htainted => exact stays_setChannel htainted
  | newChannel owner => exact stays_newChannel _ owner
  | pooled | newConnection | forget | leave | notified | idle | abandon => exact stays_of_eq rfl rfl
  | park _ ch key stage => exact stays_park _ ch key stage
  | closeAll => exact stays_of_same (same_closeAll _)

/-- It does so whatever a thread does. -/
theorem stays_handle (s : HttpConnector) (t : Thread) (e : Event) : s.Stays (s.handle t e) :=
  (changes_handle t (fun _ _ _ _ _ => trivial) (fun _ _ _ _ _ _ _ => trivial)
    (fun _ _ _ _ _ => trivial) fun _ => trivial).stays

/-! ### What arrives while a channel is parked -/

/-- Data of a parked channel. -/
def OfParked (ch : ChannelId) (a : Action) : Prop := a = .parkedData ch

/-- A connection takes a channel over or is given its data. -/
def OfUse (ch : ChannelId) (a : Action) : Prop := ∃ c, a = .adopted ch c ∨ a = .received ch c

/-- The channels whose data has arrived while they were parked are tainted, and have not been used
since. -/
structure Unread (s : HttpConnector) : Prop where
  /-- They are tainted. -/
  tainted : ∀ ch, .parkedData ch ∈ s.trace → s.Tainted ch
  /-- They have not been used since. -/
  unused : ∀ ch, Traces.NoneAfter (OfParked ch) (OfUse ch) s.trace

/-- Actions of other kinds do not matter. -/
theorem Unread.of_adds (h : s.Unread) (hstays : s.Stays s')
    (hadds : Adds (fun a => a.kind ≠ .data) s s') : s'.Unread := by
  obtain ⟨new, htrace, hnew⟩ := hadds
  constructor
  · intro ch hmem
    rw [htrace] at hmem
    rcases List.mem_append.mp hmem with hmem | hmem
    · exact hstays ch (h.tainted ch hmem)
    · exact absurd rfl (hnew _ hmem)
  · intro ch
    rw [htrace]
    apply List.pairwise_append.mpr
    have hother : ∀ a ∈ new, ¬ OfUse ch a := by
      rintro a ha ⟨c, rfl | rfl⟩
      all_goals exact hnew _ ha rfl
    refine ⟨h.unused ch, ?_, fun a _ b hb _ => hother b hb⟩
    exact List.pairwise_of_forall_mem_list fun a _ b hb _ => hother b hb

/-- Data of a channel. -/
theorem Unread.onRecvData (h : s.Unread) (hsound : s.Channels) (ch : ChannelId) (t : Thread)
    (parsed : Parsed) : (s.onRecvData ch t parsed).Unread := by
  have hstays := (updates_onRecvData (s := s) trivial ch t parsed).changes.stays
  obtain ⟨new, htrace, hnew⟩ := adds_onRecvData (s := s) ch t parsed
  by_cases hparked : (s.channel ch).parked = true
  · unfold HttpConnector.onRecvData
    split
    case isFalse => exact h
    rename_i hstates
    have hopen : (s.channel ch).Open := .inr hstates.2
    have hlt := hsound.lt_of_open hopen
    have hpoisoned : s.Stays (s.setChannel ch { s.channel ch with poisoned := true }) :=
      stays_setChannel fun hparked _ => ⟨hparked, rfl⟩
    constructor
    · intro ch' hmem
      rcases List.mem_append.mp hmem with hmem | hmem
      · exact hpoisoned ch' (h.tainted ch' hmem)
      · simp only [List.mem_singleton, Action.parkedData.injEq] at hmem
        subst ch'
        exact ⟨hlt, by simpa [note, HttpConnector.setChannel] using hparked⟩
    · intro ch'
      apply Traces.NoneAfter.concat_other (h.unused ch')
      rintro ⟨c, hc | hc⟩ <;> cases hc
  · constructor
    · intro ch' hmem
      rw [htrace] at hmem
      rcases List.mem_append.mp hmem with hmem | hmem
      · exact hstays ch' (h.tainted ch' hmem)
      · rcases hnew _ hmem with ⟨-, hpark⟩ | ⟨c, hc, -⟩
        · exact absurd hpark hparked
        · cases hc
    · intro ch'
      rw [htrace]
      apply List.pairwise_append.mpr
      have hnone : ∀ a ∈ new, ∃ c, a = .received ch c := by
        intro a ha
        rcases hnew a ha with ⟨-, hpark⟩ | ⟨c, hc, -⟩
        · exact absurd hpark hparked
        · exact ⟨c, hc⟩
      refine ⟨h.unused ch', ?_, ?_⟩
      · refine List.pairwise_of_forall_mem_list fun a ha b _ hpa => ?_
        obtain ⟨c, hc⟩ := hnone a ha
        rw [hc] at hpa
        cases hpa
      · intro a ha b hb hpa
        obtain ⟨c, rfl⟩ := hnone b hb
        rintro ⟨d, hd | hd⟩
        · cases hd
        · rw [Action.received.injEq] at hd
          obtain ⟨rfl, -⟩ := hd
          -- a tainted channel is parked
          have hmem : .parkedData ch ∈ s.trace := by
            rw [OfParked] at hpa
            rwa [← hpa]
          exact hparked (h.tainted ch hmem).2.1

/-- A channel that is taken over is not poisoned. -/
theorem Unread.onAdopt (h : s.Unread) (ch : ChannelId) (failure : Option BCResult) :
    (s.onAdopt ch failure).Unread := by
  have hstays := (changes_onAdopt (s := s) ch failure).stays
  obtain ⟨new, htrace, hnew⟩ := adds_onAdopt (s := s) ch failure
  constructor
  · intro ch' hmem
    rw [htrace] at hmem
    rcases List.mem_append.mp hmem with hmem | hmem
    · exact hstays ch' (h.tainted ch' hmem)
    · obtain ⟨c, hc, -⟩ := hnew _ hmem
      cases hc
  · intro ch'
    rw [htrace]
    apply List.pairwise_append.mpr
    refine ⟨h.unused ch', ?_, ?_⟩
    · refine List.pairwise_of_forall_mem_list fun a ha b _ hpa => ?_
      obtain ⟨c, hc, -⟩ := hnew a ha
      rw [hc] at hpa
      cases hpa
    · intro a ha b hb hpa
      obtain ⟨c, rfl, hparked⟩ := hnew b hb
      rintro ⟨d, hd | hd⟩
      · rw [Action.adopted.injEq] at hd
        obtain ⟨rfl, -⟩ := hd
        have hmem : .parkedData ch ∈ s.trace := by
          rw [OfParked] at hpa
          rwa [← hpa]
        have hpoisoned := (h.tainted ch hmem).2.2
        rw [hparked.2.1] at hpoisoned
        cases hpoisoned
      · cases hd

/-- Every step leaves the data of parked channels unread. -/
theorem Unread.step (h : s.Unread) (hsound : s.Sound) (e : Thread × Event) :
    (s.step e).Unread := by
  unfold HttpConnector.step
  split
  · exact h
  obtain ⟨t, e⟩ := e
  have hother (hrecords : ¬ e.Records .data) : (s.handle t e).Unread := by
    refine h.of_adds (stays_handle s t e) ((adds_handle t e).mono ?_)
    intro a ha hkind
    rw [hkind] at ha
    exact hrecords ha
  cases e with
  | data ch parsed => exact h.onRecvData hsound.channels ch t parsed
  | adopt ch failure => exact h.onAdopt ch failure
  | _ => exact hother (by simp [Event.Records])

/-- A connection and the connections that wait to take its channel over. -/
theorem Sound.eq_of_channel (h : s.Sound) {c d : ConnectionId} {ch : ChannelId}
    (hc : (s.connection c).channel = some ch) (hd : (s.connection d).channel = some ch) :
    c = d := by
  have howned {c d : ConnectionId} (hc : s.owner ch = .connection c)
      (hd : s.owner ch = .connection d ∨ s.Borrows d ch) : c = d := by
    rcases hd with hd | ⟨-, p, hp, hpch⟩ | hadopts
    · rw [hc, ChannelHandler.connection.injEq] at hd
      exact hd
    · exfalso
      have hwatched := (h.channels.watching p).watched
      have hclosed := (h.channels.watching p).closed
      have hunused := h.pool.unused _ p hp
      grind
    · obtain ⟨-, -, -, p, hp, -⟩ := (h.channels.serving d ch).adopting hadopts
      rw [hc] at hp
      cases hp
  have hwaiting {c d : ConnectionId} (hc : s.stage c = .starting ∧ ∃ p,
      (s.request (s.connection c).request).phase.unused = some p ∧ (s.pooled p).channel = ch)
      (hd : d ∈ (s.channel ch).adopts) : False := by
    obtain ⟨-, p, hp, hpch⟩ := hc
    obtain ⟨-, -, ⟨hserving, -⟩, q, hq, hloose, hborrower⟩ :=
      (h.channels.serving d ch).adopting hd
    have hwatched := (h.channels.watching p).watched
    have hclosed := (h.channels.watching p).closed
    have hunused := h.pool.unused _ p hp
    have hpq : p = q := by grind
    subst hpq
    exact h.calls.unused_ne h.pool hserving hborrower _ hp
  obtain ⟨-, -, -, hcowns | hcborrows⟩ := (h.channels.holding c ch).channel hc
  · obtain ⟨-, -, -, hdowns⟩ := (h.channels.holding d ch).channel hd
    exact howned hcowns hdowns
  obtain ⟨-, -, -, hdowns | hdborrows⟩ := (h.channels.holding d ch).channel hd
  · exact (howned hdowns (.inr hcborrows)).symm
  rcases hcborrows with hcstarting | hcadopts
  · rcases hdborrows with hdstarting | hdadopts
    · -- both calls hold the pooled channel that watches it
      obtain ⟨hcstage, p, hp, hpch⟩ := hcstarting
      obtain ⟨hdstage, q, hq, hqch⟩ := hdstarting
      have hpwatched := (h.channels.watching p).watched
      have hpclosed := (h.channels.watching p).closed
      have hqwatched := (h.channels.watching q).watched
      have hqclosed := (h.channels.watching q).closed
      have hpunused := h.pool.unused _ p hp
      have hqunused := h.pool.unused _ q hq
      have hpq : p = q := by grind
      subst hpq
      have hpborrower := (h.pool.borrowed _ p (RequestPhase.borrowed_of_unused hp)).2
      have hqborrower := (h.pool.borrowed _ p (RequestPhase.borrowed_of_unused hq)).2
      have hcstarted := h.calls.started c hcstage
      have hdstarted := h.calls.started d hdstage
      rw [← hpborrower, hqborrower, hdstarted, Option.some.injEq] at hcstarted
      exact hcstarted.symm
    · exact (hwaiting hcstarting hdadopts).elim
  · rcases hdborrows with hdstarting | hdadopts
    · exact (hwaiting hdstarting hcadopts).elim
    · have hone := ((h.channels.serving c ch).adopting hcadopts).1
      rw [hone, List.mem_singleton] at hdadopts
      exact hdadopts.symm

/-- A channel belongs to one connection at a time, and data that has arrived while it was parked
reaches none. -/
structure Exclusive (s : HttpConnector) : Prop where
  /-- Two connections have different channels. -/
  channel : ∀ c d ch, (s.connection c).channel = some ch → (s.connection d).channel = some ch →
    c = d
  /-- At most one connection waits to take a channel over. -/
  adopts : ∀ ch, (s.channel ch).adopts.length ≤ 1
  /-- After data has arrived while it was parked, nobody takes a channel over or is given its
  data. -/
  unused : ∀ ch, Traces.NoneAfter (OfParked ch) (OfUse ch) s.trace

/-- Whatever the threads of a connector do, a channel belongs to at most one connection, and is
not used after its data has arrived while it was parked. -/
theorem exclusive_run (maxIdlePerKey : ℕ) (handler logSink : Bool)
    (events : List (Thread × Event)) :
    (Runs.run step (create maxIdlePerKey handler logSink) events).Exclusive := by
  have hrun : (Runs.run step (create maxIdlePerKey handler logSink) events).Sound ∧
      (Runs.run step (create maxIdlePerKey handler logSink) events).Unread := by
    refine Runs.invariant (I := fun s : HttpConnector => s.Sound ∧ s.Unread)
      (fun s e h => ⟨h.1.step e, h.2.step h.1 e⟩) ⟨sound_create _ _ _, ?_⟩ events
    exact ⟨fun ch hmem => by simp [create] at hmem, fun ch => Traces.noneAfter_nil⟩
  obtain ⟨hsound, hunread⟩ := hrun
  refine ⟨fun c d ch hc hd => hsound.eq_of_channel hc hd, fun ch => ?_, hunread.unused⟩
  cases hadopts : (Runs.run step (create maxIdlePerKey handler logSink) events).channel ch
      |>.adopts with
  | nil => simp
  | cons c rest =>
    obtain ⟨rfl, -⟩ := hsound.channels.adopting hadopts
    simp

end HttpConnector

end Http
