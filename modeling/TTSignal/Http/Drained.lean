import TTSignal.Http.Tasks

/-!
# Where the channels of a connector are

A channel that has been made and not been deleted belongs to a connection or to a pooled
channel. The sets of the connector cover it unless its pooled channel is outside the pool, or
a call of `Request` is about to delete its connection. So a connector that is drained may
still have channels, and exactly these.
-/

namespace Http

namespace HttpConnector

variable {s : HttpConnector}

/-- A channel that is in none of the sets of a drained connector. -/
def Stray (s : HttpConnector) (ch : ChannelId) : Prop :=
  (∃ p, s.owner ch = .pooled p ∧ s.pooledStage p = .loose) ∨
    ∃ c, s.owner ch = .connection c ∧ s.stage c = .dropped

/-- A drained connector has no connection that is started, served or being deleted. -/
theorem Connections.stage_of_drained (h : s.Connections) (hdrained : s.AllDrained)
    (c : ConnectionId) :
    s.stage c ≠ .starting ∧ s.stage c ≠ .serving ∧ s.stage c ≠ .condemned ∧
      s.stage c ≠ .deleted := by
  obtain ⟨hconns, hdestroying, -, -⟩ := hdrained
  have hin := (h c).mem_conns
  have hleaving := (h c).mem_destroying
  rw [hconns] at hin
  rw [hdestroying] at hleaving
  simp only [Finset.notMem_empty, false_iff, not_or] at hin hleaving
  exact ⟨hin.1, hin.2, hleaving.1, hleaving.2⟩

/-- A drained connector has nothing in its pool and counts no closed channel. -/
theorem Pool.stage_of_drained (h : s.Pool) (hdrained : s.AllDrained) (p : PooledId) :
    s.pooledStage p ≠ .pooled ∧ s.pooledStage p ≠ .closed ∧ s.pooledStage p ≠ .deleted := by
  obtain ⟨-, -, hidle, hcount⟩ := hdrained
  have hin := ((h.lodged p).mem_idle (s.pooled p).key).mpr
  have hempty : s.leaving = ∅ := Finset.card_eq_zero.mp (h.card_leaving.symm.trans hcount)
  have hnot : ¬ (s.pooledStage p).Leaving := by
    rw [← mem_leaving fun q => (h.lodged q).unborn, hempty]
    exact Finset.notMem_empty p
  rw [hidle] at hin
  refine ⟨fun hp => ?_, fun hp => hnot (.inl hp), fun hp => hnot (.inr hp)⟩
  exact absurd (hin ⟨hp, rfl⟩) (List.not_mem_nil)

/-- The channels that a drained connector still has are stray. -/
theorem Sound.stray_of_drained (h : s.Sound) (hdrained : s.AllDrained) {ch : ChannelId}
    (hlt : ch < s.nextChannel) (hdeleted : s.deleted ch = false) : s.Stray ch := by
  cases howner : s.owner ch with
  | connection c =>
    have hch := (h.channels.holding c ch).connection howner hlt hdeleted
    have hholds := ((h.channels.holding c ch).channel hch).2.2.1
    obtain ⟨hstarting, hserving, hcondemned, -⟩ := h.connections.stage_of_drained hdrained c
    rcases hholds with hstage | hstage | hstage | hstage
    · exact absurd hstage hstarting
    · exact absurd hstage hserving
    · exact absurd hstage hcondemned
    · exact .inr ⟨c, howner, hstage⟩
  | pooled p =>
    have hstages := ((h.channels.watching p).pooled ch howner hlt hdeleted).2
    obtain ⟨hpooled, hclosed, -⟩ := h.pool.stage_of_drained hdrained p
    rcases hstages with hstage | hstage | hstage
    · exact absurd hstage hpooled
    · exact .inl ⟨p, howner, hstage⟩
    · exact absurd hstage hclosed

/-- A pooled channel outside the pool has a channel. -/
theorem Channels.exists_of_loose (h : s.Channels) {p : PooledId} (hp : s.pooledStage p = .loose) :
    (s.pooled p).channel < s.nextChannel ∧ s.deleted (s.pooled p).channel = false :=
  ⟨((h.watching p).watched (.inr hp)).2.1, ((h.watching p).watched (.inr hp)).2.2.1⟩

/-- A drained connector has deleted all its channels exactly if none is stray. -/
theorem Sound.deleted_iff (h : s.Sound) (hdrained : s.AllDrained) :
    (∀ ch < s.nextChannel, s.deleted ch = true) ↔
      (∀ p, s.pooledStage p ≠ .loose) ∧
        ∀ c, s.stage c = .dropped → (s.connection c).channel = none := by
  constructor
  · intro hall
    refine ⟨fun p hp => ?_, fun c hc => ?_⟩
    · obtain ⟨hlt, hkept⟩ := h.channels.exists_of_loose hp
      have := hall _ hlt
      rw [hkept] at this
      cases this
    · by_contra hne
      obtain ⟨ch, hch⟩ := Option.ne_none_iff_exists'.mp hne
      obtain ⟨hlt, hkept, -⟩ := (h.channels.holding c ch).channel hch
      have := hall ch hlt
      rw [hkept] at this
      cases this
  · rintro ⟨hloose, hdropped⟩ ch hlt
    by_contra hdeleted
    rw [Bool.not_eq_true] at hdeleted
    rcases h.stray_of_drained hdrained hlt hdeleted with ⟨p, -, hp⟩ | ⟨c, howner, hc⟩
    · exact hloose p hp
    · have hch := (h.channels.holding c ch).connection howner hlt hdeleted
      rw [hdropped c hc] at hch
      cases hch

/-- Whatever a connector has done, once it is drained all its channels have been deleted
exactly if no pooled channel is outside the pool and no connection with a channel is about to be
deleted by its call of `Request`. -/
theorem deleted_iff_of_drained (maxIdlePerKey : ℕ) (handler logSink : Bool)
    (events : List (Thread × Event))
    (hdrained : (Runs.run step (create maxIdlePerKey handler logSink) events).AllDrained) :
    (∀ ch < (Runs.run step (create maxIdlePerKey handler logSink) events).nextChannel,
        (Runs.run step (create maxIdlePerKey handler logSink) events).deleted ch = true) ↔
      (∀ p, (Runs.run step (create maxIdlePerKey handler logSink) events).pooledStage p ≠ .loose) ∧
        ∀ c, (Runs.run step (create maxIdlePerKey handler logSink) events).stage c = .dropped →
          ((Runs.run step (create maxIdlePerKey handler logSink) events).connection c).channel =
            none :=
  (sound_run maxIdlePerKey handler logSink events).deleted_iff hdrained

/-- A call of `Request` on a connector with a pool. -/
def sampleArgs : RequestArgs := ⟨true, true, false, true, true, "host:443"⟩

/-- A request is answered and its channel goes to the pool. -/
def pooledEvents : List (Thread × Event) :=
  [(1, .call sampleArgs), (1, .proceed 0 .success), (1, .proceed 0 .success),
    (1, .proceed 0 .success), (1, .proceed 0 .success), (2, .ready 0 none),
    (2, .data 0 (.complete true)), (2, .resume 0 .success), (2, .resume 0 .success),
    (2, .resume 0 .success), (2, .resume 0 .success), (3, .work (.deleteConnection 0)),
    (3, .work (.finishDestroy 0))]

/-- A second call takes the channel out of the pool, and `Close` is called. -/
def takenEvents : List (Thread × Event) :=
  pooledEvents ++ [(1, .call sampleArgs), (1, .proceed 1 .success), (4, .close)]

/-- The connector is drained then, and the channel is there. -/
theorem deleted_iff_of_drained_taken :
    ¬ ∀ ch < (Runs.run step (create 1 true false) takenEvents).nextChannel,
      (Runs.run step (create 1 true false) takenEvents).deleted ch = true := by
  have hdrained : (Runs.run step (create 1 true false) takenEvents).AllDrained := by
    decide +kernel
  have hloose : (Runs.run step (create 1 true false) takenEvents).pooledStage 0 = .loose := by
    decide +kernel
  intro hall
  exact ((deleted_iff_of_drained 1 true false takenEvents hdrained).mp hall).1 0 hloose

end HttpConnector

end Http
