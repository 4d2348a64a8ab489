import TTSignal.Ws.Accounting
import TTSignal.Ws.Protocol

/-!
# Callbacks behind the end of the connector

The connector promises that no callback of its connections starts once its `OnClosed` has
been delivered or its destructor has returned. It keeps the promise for the connections that
are registered. A connection whose channel has not been opened is removed by `Close` and
keeps its handler; if its `Connect` opens the channel after that, the handler is called when
nobody waits for it any more. In every run that opens the channels of registered connections
only, the promise is kept.
-/

namespace WS

namespace WSConnection

open Session

variable {L P : Type} {E : Parsers L P} {c : WSConnection L P}

/-- The channel has been opened and not been released. -/
def Alive (c : WSConnection L P) : Prop := c.live = true ∧ c.session.channel = true

/-- The calls and the events of a connection come in order: the channel is opened once, there
is nothing to do before it is opened, and the release is the last thing that is done. -/
structure Sequenced (c : WSConnection L P) : Prop where
  /-- The callbacks fit. -/
  orderly : c.Orderly
  /-- `Connect` has opened the channel and is not called again. -/
  opened : c.live = true → c.channelOpened = true ∧ c.connectCalled = true ∧
    c.connecting ≠ .preparing ∧ c.connecting ≠ .opening
  /-- A call of `Connect` in progress has set its flags. -/
  progress : (c.connecting ≠ .idle → c.connectCalled = true) ∧
    (c.connecting = .opening → c.channelOpened = true)
  /-- There is nothing to do before the channel is opened and after it is released. -/
  still : ¬ c.Alive → c.pending = [] ∧ c.dispatch = .idle
  /-- Nothing is to be done behind the release. -/
  last : ∀ before after, c.pending = before ++ .release :: after → after = []

/-- A connection that is created is in sequence. -/
theorem sequenced_create (config : Config) (http : L) (parser : P) (handler : Bool) :
    (create config http parser handler).Sequenced := by
  refine ⟨orderly_create config http parser handler, ?_, by simp [create],
    fun _ => ⟨rfl, rfl⟩, ?_⟩
  · intro hlive
    cases hlive
  · intro before after hsplit
    simp [create] at hsplit

/-- A call of another thread that keeps the channel keeps the sequence. -/
theorem Sequenced.meanwhile (h : c.Sequenced) {f : Session L P → Session L P}
    (hquiet : Quiet c.session (f c.session)) : (c.meanwhile f).Sequenced := by
  refine ⟨h.orderly.meanwhile hquiet, h.opened, h.progress, ?_, h.last⟩
  intro halive
  refine h.still fun hc => halive ⟨hc.1, ?_⟩
  change (f c.session).channel = true
  rw [hquiet.2.1]
  exact hc.2

/-- An event leaves what is to be done in sequence. -/
theorem Sequenced.handle (h : c.Sequenced) (hlive : c.live = true)
    (hchannel : c.session.channel = true) (hpending : c.pending = []) (now : ℕ)
    (e : ChannelEvent) : (c.handle E now e).Sequenced := by
  obtain ⟨-, hkept, new, last, hnew, hrelease, hlast, -⟩ :=
    follows_onEvent (E := E) c.session now e h.orderly.coherent
  refine ⟨h.orderly.handle hpending now e, h.opened, h.progress, ?_, ?_⟩
  · intro halive
    exact absurd ⟨hlive, hkept.trans hchannel⟩ halive
  · intro before after hsplit
    change (c.session.onEvent E now e).effects = _ at hsplit
    rw [hnew, h.orderly.settled, List.nil_append] at hsplit
    rcases hlast with rfl | rfl
    · rw [List.append_nil] at hsplit
      exact absurd (by rw [hsplit]; simp) hrelease
    · rcases List.eq_nil_or_concat after with rfl | ⟨after, e', rfl⟩
      · rfl
      · have hsplit' : new ++ [.release] = (before ++ .release :: after) ++ [e'] := by
          rw [hsplit, List.concat_eq_append, List.append_assoc, List.cons_append]
        obtain ⟨rfl, -⟩ := List.append_inj' hsplit' rfl
        exact absurd (by simp) hrelease

/-- An effect is carried out in sequence. -/
theorem Sequenced.perform (h : c.Sequenced) {e : Effect} {rest : List Effect}
    (hpending : c.pending = e :: rest) (hdispatch : c.dispatch = .idle) :
    ({ c with pending := rest }.perform e).Sequenced := by
  have halive : c.Alive := by
    by_contra halive
    rw [(h.still halive).1] at hpending
    cases hpending
  have hrest : ∀ before after, rest = before ++ .release :: after → after = [] := by
    intro before after hsplit
    exact h.last (e :: before) after (by rw [hpending, hsplit]; rfl)
  have horderly := h.orderly.perform hpending hdispatch
  have hother (d : WSConnection L P) (hd : ({ c with pending := rest }.perform e) = d)
      (hlive : d.live = c.live) (hchannel : d.session.channel = c.session.channel)
      (hopened : d.channelOpened = c.channelOpened ∧ d.connectCalled = c.connectCalled ∧
        d.connecting = c.connecting) (hpending' : d.pending = rest) : d.Sequenced := by
    refine ⟨hd ▸ horderly, ?_, ?_, ?_, ?_⟩
    · rw [hlive, hopened.1, hopened.2.1, hopened.2.2]
      exact h.opened
    · rw [hopened.1, hopened.2.1, hopened.2.2]
      exact h.progress
    · intro hd
      exact absurd ⟨hlive.trans halive.1, hchannel.trans halive.2⟩ hd
    · rw [hpending']
      exact hrest
  cases e with
  | deliver callback =>
    cases hhandler : c.handler with
    | true => exact hother _ (by simp [WSConnection.perform, hhandler]) rfl rfl ⟨rfl, rfl, rfl⟩ rfl
    | false => exact hother _ (by simp [WSConnection.perform, hhandler]) rfl rfl ⟨rfl, rfl, rfl⟩ rfl
  | release =>
    refine ⟨horderly, h.opened, h.progress, ?_, hrest⟩
    intro _
    exact ⟨h.last [] rest hpending, hdispatch⟩
  | sendRequest request => exact hother _ rfl rfl rfl ⟨rfl, rfl, rfl⟩ rfl
  | sendFrame opcode payload => exact hother _ rfl rfl rfl ⟨rfl, rfl, rfl⟩ rfl
  | closeChannel => exact hother _ rfl rfl rfl ⟨rfl, rfl, rfl⟩ rfl

/-- What keeps the channel and what is to be done keeps the sequence. -/
theorem Sequenced.of_same (h : c.Sequenced) {d : WSConnection L P} (horderly : d.Orderly)
    (hopened : d.live = true → d.channelOpened = true ∧ d.connectCalled = true ∧
      d.connecting ≠ .preparing ∧ d.connecting ≠ .opening)
    (hprogress : (d.connecting ≠ .idle → d.connectCalled = true) ∧
      (d.connecting = .opening → d.channelOpened = true))
    (halive : c.Alive → d.Alive) (hpending : d.pending = c.pending)
    (hdispatch : c.dispatch = .idle → d.dispatch = .idle) : d.Sequenced := by
  refine ⟨horderly, hopened, hprogress, ?_, by rw [hpending]; exact h.last⟩
  intro hd
  obtain ⟨hnone, hidle⟩ := h.still fun hc => hd (halive hc)
  exact ⟨hpending.trans hnone, hdispatch hidle⟩

/-- Before the channel is opened there is no call of `Connect` that could follow. -/
theorem Sequenced.not_live (h : c.Sequenced)
    (hcalled : c.connectCalled = false ∨ c.connecting = .preparing ∨ c.connecting = .opening) :
    c.live = false := by
  by_contra hlive
  obtain ⟨-, hconnect, hpreparing, hopening⟩ := h.opened (by simpa using hlive)
  rcases hcalled with hcalled | hcalled | hcalled
  · rw [hcalled] at hconnect
    cases hconnect
  · exact hpreparing hcalled
  · exact hopening hcalled

/-- It stays so when its handler is cleared. -/
theorem Sequenced.clearHandlerLocked (h : c.Sequenced) : c.clearHandlerLocked.Sequenced :=
  h.of_same h.orderly.clearHandlerLocked h.opened h.progress id rfl id

/-- Whatever happens keeps the sequence. -/
theorem Sequenced.step (h : c.Sequenced) (i : Input) : (c.step E i).Sequenced := by
  have horderly := h.orderly.step (E := E) i
  cases i with
  | connect =>
    simp only [WSConnection.step, WSConnection.connect] at horderly ⊢
    split at horderly
    · rename_i hcalled
      rw [if_pos hcalled]
      exact h
    · rename_i hcalled
      rw [if_neg hcalled]
      have hlive := h.not_live (Or.inl (by simpa using hcalled))
      refine h.of_same horderly ?_ ⟨fun _ => rfl, ?_⟩ id rfl id
      · intro hd
        exact absurd hd (by simp [hlive])
      · intro hopening
        cases hopening
  | prepare now prepared =>
    simp only [WSConnection.step] at horderly ⊢
    split at horderly
    · rename_i hpreparing
      rw [if_pos hpreparing]
      have hlive := h.not_live (Or.inr (Or.inl hpreparing))
      have hcalled := h.progress.1 (by rw [hpreparing]; decide)
      cases prepared with
      | refused =>
        refine h.of_same horderly ?_ (by simp [WSConnection.prepare]) id rfl id
        intro hd
        exact absurd hd (by simp [WSConnection.prepare, hlive])
      | request secKey reqText timeOut =>
        refine h.of_same horderly ?_ ⟨fun _ => hcalled, fun _ => rfl⟩ id rfl id
        intro hd
        exact absurd hd (by simp [WSConnection.prepare, hlive])
    · rename_i hpreparing
      rw [if_neg hpreparing]
      exact h
  | openReturned result =>
    simp only [WSConnection.step] at horderly ⊢
    split at horderly
    · rename_i hopening
      rw [if_pos hopening]
      have hlive := h.not_live (Or.inr (Or.inr hopening))
      have hcalled := h.progress.1 (by rw [hopening]; decide)
      have hchannel := h.progress.2 hopening
      unfold WSConnection.openReturned at horderly ⊢
      split at horderly
      · rename_i hresult
        rw [if_pos hresult]
        refine h.of_same horderly ?_ (by simp) id rfl id
        intro hd
        exact absurd hd (by simp [hlive])
      · rename_i hresult
        rw [if_neg hresult]
        refine h.of_same horderly ?_ ⟨fun _ => hcalled, by simp⟩ ?_ rfl id
        · intro _
          exact ⟨hchannel, hcalled, by simp, by simp⟩
        · intro hc
          exact ⟨rfl, hc.2⟩
    · rename_i hopening
      rw [if_neg hopening]
      exact h
  | checkClosing closing =>
    simp only [WSConnection.step, WSConnection.checkClosing]
    split
    · rename_i hchecking
      have hcalled := h.progress.1 (by rw [hchecking]; decide)
      have hd : ({ c with connecting := .idle } : WSConnection L P).Sequenced := by
        refine h.of_same (h.orderly.of_same rfl h.orderly.settled rfl rfl id) ?_ (by simp) id rfl id
        intro hlive
        exact ⟨(h.opened hlive).1, hcalled, by simp, by simp⟩
      split
      · exact hd.meanwhile (asks_closeChannel _)
      · exact hd
    · exact h
  | event now e =>
    simp only [WSConnection.step]
    split
    · rename_i hfree
      exact h.handle hfree.1 hfree.2.1 hfree.2.2.1 now e
    · exact h
  | perform =>
    simp only [WSConnection.step]
    split
    · rename_i e rest hdispatch hpending
      exact h.perform hpending hdispatch
    · exact h
  | start =>
    simp only [WSConnection.step] at horderly ⊢
    split at horderly
    · rename_i callback hdispatch
      refine h.of_same horderly h.opened h.progress id rfl ?_
      intro hidle
      rw [hidle] at hdispatch
      cases hdispatch
    · exact h
  | callbackReturned =>
    simp only [WSConnection.step] at horderly ⊢
    split at horderly
    · rename_i hdispatch
      rw [if_pos hdispatch]
      exact h.of_same horderly h.opened h.progress id rfl fun _ => rfl
    · rename_i hdispatch
      rw [if_neg hdispatch]
      exact h
  | close result => exact h.meanwhile (f := fun s => s.close result) (asks_close _ result)
  | send opcode payload =>
    exact h.meanwhile (f := fun s => s.sendFrame opcode payload) (asks_sendFrame _ opcode payload)
  | clearHandler => exact h.clearHandlerLocked

/-- What a step does that carries out no effect: the handler and the channel are kept, and
the channel is opened by a call of `Open` that succeeds. -/
theorem step_other (h : c.Sequenced) {i : Input} (hclear : i ≠ .clearHandler)
    (hperform : i ≠ .perform) :
    (c.step E i).handler = c.handler ∧ (c.step E i).session.channel = c.session.channel ∧
      ((c.step E i).live = c.live ∨ (i = .openReturned bcrSuccess ∧ c.connecting = .opening)) := by
  have hsame : c.handler = c.handler ∧ c.session.channel = c.session.channel ∧
      (c.live = c.live ∨ (i = .openReturned bcrSuccess ∧ c.connecting = .opening)) :=
    ⟨rfl, rfl, Or.inl rfl⟩
  cases i with
  | clearHandler => exact absurd rfl hclear
  | perform => exact absurd rfl hperform
  | connect =>
    simp only [step, connect]
    split <;> exact hsame
  | prepare now prepared =>
    simp only [step]
    split
    · cases prepared <;> exact hsame
    · exact hsame
  | openReturned result =>
    simp only [step, openReturned]
    split
    · rename_i hopening
      split
      · exact hsame
      · rename_i hresult
        rw [ne_eq, not_not] at hresult
        exact ⟨rfl, rfl, Or.inr ⟨by rw [hresult], hopening⟩⟩
    · exact hsame
  | checkClosing closing =>
    simp only [step, checkClosing]
    split
    · split
      · exact ⟨rfl, (asks_closeChannel (K := fun _ => False) _).2.1, Or.inl rfl⟩
      · exact hsame
    · exact hsame
  | event now e =>
    simp only [step]
    split
    · exact ⟨rfl, (follows_onEvent (E := E) c.session now e h.orderly.coherent).2.1, Or.inl rfl⟩
    · exact hsame
  | start =>
    simp only [step]
    split <;> exact hsame
  | callbackReturned =>
    simp only [step]
    split <;> exact hsame
  | close result =>
    exact ⟨rfl, (asks_close (K := fun _ => False) c.session result).2.1, Or.inl rfl⟩
  | send opcode payload =>
    exact ⟨rfl, (asks_sendFrame (K := fun _ => False) c.session opcode payload).2.1, Or.inl rfl⟩

/-- What carrying out an effect does: a callback is armed while there is a handler, and no
channel is opened. -/
theorem step_perform (c : WSConnection L P) :
    (c.step E .perform).handler = c.handler ∧
      ((c.step E .perform).session.channel = true → c.session.channel = true) ∧
      (c.step E .perform).live = c.live ∧
      ((c.step E .perform).dispatch = c.dispatch ∨ (c.dispatch = .idle ∧ c.handler = true ∧
        ∃ callback, (c.step E .perform).dispatch = .armed callback)) := by
  simp only [step]
  split
  · rename_i e rest hdispatch hpending
    cases e with
    | deliver callback =>
      simp only [perform]
      split
      · rename_i hhandler
        exact ⟨rfl, id, rfl, Or.inr ⟨hdispatch, hhandler, callback, rfl⟩⟩
      · exact ⟨rfl, id, rfl, Or.inl rfl⟩
    | release =>
      refine ⟨rfl, ?_, rfl, Or.inl rfl⟩
      intro h
      cases h
    | sendRequest request => exact ⟨rfl, id, rfl, Or.inl rfl⟩
    | sendFrame opcode payload => exact ⟨rfl, id, rfl, Or.inl rfl⟩
    | closeChannel => exact ⟨rfl, id, rfl, Or.inl rfl⟩
  · exact ⟨rfl, id, rfl, Or.inl rfl⟩

/-- A connection gets a channel by a call of `Open` that succeeds. -/
theorem step_alive (h : c.Sequenced) {i : Input} (hclear : i ≠ .clearHandler)
    (halive : (c.step E i).Alive) :
    c.Alive ∨ (i = .openReturned bcrSuccess ∧ c.connecting = .opening) := by
  obtain ⟨hlive, hchannel⟩ := halive
  by_cases hperform : i = .perform
  · subst hperform
    obtain ⟨-, hkept, hlive', -⟩ := step_perform (E := E) c
    exact Or.inl ⟨hlive'.symm.trans hlive, hkept hchannel⟩
  · obtain ⟨-, hkept, hlive' | hopened⟩ := step_other (E := E) h hclear hperform
    · exact Or.inl ⟨hlive'.symm.trans hlive, hkept.symm.trans hchannel⟩
    · exact Or.inr hopened

/-- Callbacks are armed, started and returned by steps of their own. -/
theorem step_dispatch {i : Input} (hperform : i ≠ .perform) (hstart : i ≠ .start)
    (hreturned : i ≠ .callbackReturned) : (c.step E i).dispatch = c.dispatch := by
  cases i with
  | perform => exact absurd rfl hperform
  | start => exact absurd rfl hstart
  | callbackReturned => exact absurd rfl hreturned
  | connect =>
    simp only [step, connect]
    split <;> rfl
  | prepare now prepared =>
    simp only [step]
    split
    · cases prepared <;> rfl
    · rfl
  | openReturned result =>
    simp only [step, openReturned]
    split
    · split <;> rfl
    · rfl
  | checkClosing closing =>
    simp only [step, checkClosing]
    split
    · split <;> rfl
    · rfl
  | event now e =>
    simp only [step]
    split <;> rfl
  | close result => rfl
  | send opcode payload => rfl
  | clearHandler => rfl

end WSConnection

namespace WSConnector

open WSConnection

variable {L P : Type} {E : Parsers L P} {s t : WSConnector L P} {id : ℕ} {c d : WSConnection L P}

/-- `OnClosed` has been delivered, or the destructor has returned. -/
def IsEnd : Happening → Prop
  | .closed | .destroyed => True
  | _ => False

/-- A callback of a connection starts. -/
def IsCallback : Happening → Prop
  | .callback _ _ => True
  | _ => False

/-- No callback of a connection starts behind the end of the connector. -/
def SilentAfterEnd (s : WSConnector L P) : Prop := Traces.NoneAfter IsEnd IsCallback s.trace

/-- The channel of a connection is opened only while the connection is registered, or when it
has no handler. -/
def OpensRegistered (s : WSConnector L P) : Move L P → Prop
  | .connection id (.openReturned result) =>
    ∀ c, s.objects id = some c → c.connecting = .opening → result = bcrSuccess →
      id ∈ s.conns ∨ c.handler = false
  | _ => True

/-- What is known of a connection of the connector. -/
structure Tracked (s : WSConnector L P) (id : ℕ) (c : WSConnection L P) : Prop where
  /-- What happens to it comes in order. -/
  sequenced : c.Sequenced
  /-- Its id has been issued. -/
  issued : id ≤ s.nextConnId
  /-- It is registered as long as it may call back. -/
  registered : c.Alive → id ∈ s.conns ∨ c.handler = false
  /-- It is registered and counted when it is about to call back. -/
  armed : ∀ callback, c.dispatch = .armed callback →
    id ∈ s.conns ∧ .connection id ∈ s.inFlight
  /-- It is counted while its callback runs. -/
  running : c.dispatch = .running → .connection id ∈ s.inFlight
  /-- Its channel has been released before it is torn down. -/
  task : id ∈ s.tasks → c.session.channel = false
  /-- Its handler has been taken away by a destructor that has given up. -/
  abandoned : s.abandoned = true → id ∈ s.conns → c.handler = false
  /-- It is not about to call back when the destructor has returned. -/
  gone : s.destroying = .gone → ∀ callback, c.dispatch ≠ .armed callback
  /-- It is calling back if the destructor is called from its callback. -/
  frame : .connection id ∈ s.frames → c.dispatch = .running

/-- What holds of a connector as long as only channels of registered connections are
opened. -/
structure Guarded (s : WSConnector L P) : Prop where
  /-- The accounts are balanced. -/
  accounted : s.Accounted
  /-- Every connection is tracked. -/
  tracked : ∀ id c, s.objects id = some c → s.Tracked id c
  /-- Only issued ids are to be torn down. -/
  tasksIssued : ∀ id ∈ s.tasks, id ≤ s.nextConnId
  /-- `OnClosed` is counted while it is called. -/
  connector : s.onClosed ≠ .idle → .connector ∈ s.inFlight
  /-- The callbacks that the destructor is called from are counted. -/
  frames : s.frames.Nodup ∧ ∀ p ∈ s.frames, p ∈ s.inFlight
  /-- Only the destructor has such callbacks. -/
  noFrames : s.destroying = .no → s.frames = []
  /-- The destructor closes the connector. -/
  closing : s.destroying ≠ .no → s.closing = true
  /-- Only the destructor gives up. -/
  givenUp : s.abandoned = true → s.destroying ≠ .no
  /-- It says so while it waits for the callbacks in flight. -/
  abandoning : s.destroying = .abandoning → s.abandoned = true
  /-- It returns when nothing is registered, or after giving up. -/
  gone : s.destroying = .gone → s.conns = [] ∨ s.abandoned = true
  /-- Its return is recorded. -/
  destroyed : .destroyed ∈ s.trace → s.destroying = .gone
  /-- Nothing is called behind the end. -/
  silent : s.SilentAfterEnd

/-- In the beginning everything is guarded. -/
theorem guarded_initial : (initial : WSConnector L P).Guarded := by
  refine ⟨accounted_initial, ?_, ?_, ?_, ?_, fun _ => rfl, ?_, ?_, ?_, ?_, ?_,
    Traces.noneAfter_nil⟩
  · intro id c hc
    cases hc
  · simp [initial]
  · simp [initial]
  · simp [initial]
  · simp [initial]
  · simp [initial]
  · simp [initial]
  · simp [initial]
  · simp [initial]

/-- A connection is tracked in a state that has the same data about it. -/
theorem Tracked.of_state (h : s.Tracked id c) (hnext : s.nextConnId ≤ t.nextConnId)
    (hconns : id ∈ t.conns ↔ id ∈ s.conns)
    (hflight : .connection id ∈ s.inFlight → .connection id ∈ t.inFlight)
    (htasks : id ∈ t.tasks → id ∈ s.tasks) (habandoned : t.abandoned = s.abandoned)
    (hgone : t.destroying = .gone → s.destroying = .gone)
    (hframes : .connection id ∈ t.frames → .connection id ∈ s.frames) : t.Tracked id c := by
  refine ⟨h.sequenced, h.issued.trans hnext, ?_, ?_, fun hrun => hflight (h.running hrun),
    fun htask => h.task (htasks htask), ?_, fun hg => h.gone (hgone hg),
    fun hf => h.frame (hframes hf)⟩
  · rw [hconns]
    exact h.registered
  · intro callback harmed
    obtain ⟨hmem, hin⟩ := h.armed callback harmed
    exact ⟨hconns.mpr hmem, hflight hin⟩
  · rw [habandoned, hconns]
    exact h.abandoned

/-- Happenings that start no callback and are no return of the destructor. -/
def Harmless (new : List Happening) : Prop := ∀ h ∈ new, ¬ IsCallback h ∧ h ≠ .destroyed

/-- Harmless happenings keep the silence. -/
theorem SilentAfterEnd.append (h : s.SilentAfterEnd) (new : List Happening)
    (hnew : Harmless new) (htrace : t.trace = s.trace ++ new) : t.SilentAfterEnd := by
  unfold SilentAfterEnd
  rw [htrace]
  refine List.pairwise_append.mpr ⟨h, ?_, fun _ _ b hb _ => (hnew b hb).1⟩
  exact List.pairwise_of_forall_mem_list fun _ _ b hb _ => (hnew b hb).1

/-- A state with the same connections is guarded. -/
theorem Guarded.of_state (h : s.Guarded) (haccounted : t.Accounted)
    (hobjects : t.objects = s.objects) (hnext : t.nextConnId = s.nextConnId)
    (hconns : t.conns = s.conns)
    (hflight : ∀ id, .connection id ∈ s.inFlight → .connection id ∈ t.inFlight)
    (htasks : ∀ id ∈ t.tasks, id ∈ s.tasks) (habandoned : t.abandoned = s.abandoned)
    (hdestroying : t.destroying = s.destroying ∨
      (s.destroying = .closed ∧ t.destroying = .waiting)) (hframes : t.frames = s.frames)
    (hconnector : t.onClosed ≠ .idle → .connector ∈ t.inFlight)
    (hcounted : ∀ p ∈ s.frames, p ∈ t.inFlight) (hclosing : s.closing = true → t.closing = true)
    (htrace : ∃ new, t.trace = s.trace ++ new ∧ Harmless new) : t.Guarded := by
  obtain ⟨new, htrace, hnew⟩ := htrace
  have hstage (d : Destroying) (hclosed : d ≠ .closed) (hwaiting : d ≠ .waiting) :
      t.destroying = d ↔ s.destroying = d := by
    rcases hdestroying with hsame | ⟨hs, ht⟩
    · rw [hsame]
    · rw [hs, ht]
      exact ⟨fun h => absurd h.symm hwaiting, fun h => absurd h.symm hclosed⟩
  have hno := hstage .no (by decide) (by decide)
  have hgone := hstage .gone (by decide) (by decide)
  refine ⟨haccounted, ?_, ?_, hconnector, ?_, ?_, ?_, ?_, ?_, ?_, ?_,
    h.silent.append _ hnew htrace⟩
  · intro id c hc
    rw [hobjects] at hc
    exact (h.tracked id c hc).of_state (Nat.le_of_eq hnext.symm) (by rw [hconns]) (hflight id)
      (htasks id) habandoned hgone.mp (by rw [hframes]; exact fun hf => hf)
  · intro id hid
    rw [hnext]
    exact h.tasksIssued id (htasks id hid)
  · rw [hframes]
    exact ⟨h.frames.1, hcounted⟩
  · rw [hno, hframes]
    exact h.noFrames
  · intro hd
    exact hclosing (h.closing fun hs => hd (hno.mpr hs))
  · rw [habandoned, ne_eq, hno]
    exact h.givenUp
  · rw [habandoned, hstage .abandoning (by decide) (by decide)]
    exact h.abandoning
  · rw [hgone, hconns, habandoned]
    exact h.gone
  · intro hmem
    rw [htrace, List.mem_append] at hmem
    rcases hmem with hmem | hmem
    · exact hgone.mpr (h.destroyed hmem)
    · exact absurd rfl (hnew _ hmem).2

/-- Nothing new has happened. -/
theorem harmless_nil : ∃ new, s.trace = s.trace ++ new ∧ Harmless new :=
  ⟨[], by simp, by simp [Harmless]⟩

/-- A call of `OnClosed` is counted before it starts. -/
theorem Guarded.armClosed (h : s.Guarded) (haccounted : s.armClosed.Accounted) :
    s.armClosed.Guarded := by
  refine h.of_state haccounted rfl rfl rfl ?_ (fun _ hid => hid) rfl (Or.inl rfl) rfl ?_ ?_ id
    harmless_nil
  · intro id hid
    exact List.mem_append_left _ hid
  · intro _
    exact List.mem_append_right _ List.mem_cons_self
  · intro p hp
    exact List.mem_append_left _ (h.frames.2 p hp)

/-- It is behind the notice that everything is closed. -/
theorem Guarded.notifyClosedIfDrained (h : s.Guarded) : s.notifyClosedIfDrained.Guarded := by
  have haccounted := h.accounted.notifyClosedIfDrained
  unfold WSConnector.notifyClosedIfDrained at haccounted ⊢
  split
  · exact h
  split
  · exact h
  rename_i hwait hconns
  rw [if_neg hwait, if_neg hconns] at haccounted
  split
  · rename_i hhandler
    rw [if_pos hhandler] at haccounted
    exact h.of_state haccounted rfl rfl rfl (fun _ hid => hid) (fun _ hid => hid) rfl
      (Or.inl rfl) rfl h.connector h.frames.2 id harmless_nil
  · rename_i hhandler
    rw [if_neg hhandler] at haccounted
    exact h.armClosed haccounted

/-- It is behind a notice that may be due. -/
theorem Guarded.maybeNotify (h : s.Guarded) : s.maybeNotify.Guarded := by
  have haccounted := h.accounted.maybeNotify
  unfold WSConnector.maybeNotify at haccounted ⊢
  split
  · rename_i hready
    rw [if_pos hready] at haccounted
    exact h.armClosed haccounted
  · exact h

/-- A connection that has released its channel is removed. -/
theorem Guarded.removeConn (h : s.Guarded) (id : ℕ)
    (hreleased : ∀ c, s.objects id = some c → c.session.channel = false) :
    (s.removeConn id).Guarded := by
  have haccounted := h.accounted.removeConn id
  unfold WSConnector.removeConn at haccounted ⊢
  split
  · rename_i hmem
    rw [if_pos hmem] at haccounted
    refine ⟨haccounted, ?_, h.tasksIssued, h.connector, h.frames, h.noFrames, h.closing,
      h.givenUp, h.abandoning, ?_, ?_, ?_⟩
    · intro id' c hc
      have htracked := h.tracked id' c hc
      by_cases hid : id' = id
      · subst hid
        have hdead : ¬ c.Alive := by
          rintro ⟨-, hchannel⟩
          rw [hreleased c hc] at hchannel
          cases hchannel
        have hidle := (htracked.sequenced.still hdead).2
        refine ⟨htracked.sequenced, htracked.issued, fun halive => absurd halive hdead, ?_,
          htracked.running, htracked.task, ?_, htracked.gone, htracked.frame⟩
        · intro callback harmed
          rw [hidle] at harmed
          cases harmed
        · intro habandoned _
          exact htracked.abandoned habandoned hmem
      · exact htracked.of_state (Nat.le_refl _) (List.mem_erase_of_ne hid) (fun hf => hf)
          (fun ht => ht) rfl (fun hg => hg) fun hf => hf
    · intro hgone
      rcases h.gone hgone with hnone | habandoned
      · rw [hnone] at hmem
        cases hmem
      · exact Or.inr habandoned
    · intro hd
      exact h.destroyed (by simpa using hd)
    · exact h.silent.append [.removed id] (by simp [Harmless, IsCallback]) rfl
  · exact h

/-- `Close` removes connections that have no channel yet and cannot call back. -/
theorem Guarded.closeLocked (h : s.Guarded) : s.closeLocked.Guarded := by
  refine ⟨h.accounted.closeLocked, ?_, h.tasksIssued, h.connector, h.frames, h.noFrames,
    fun _ => rfl, h.givenUp, h.abandoning, ?_, ?_, ?_⟩
  · intro id c hc
    have hkept (c' : WSConnection L P) (hc' : s.objects id = some c')
        (hcancels : s.cancels id = false) : id ∈ s.closeLocked.conns ↔ id ∈ s.conns := by
      simp [WSConnector.closeLocked, hcancels]
    simp only [WSConnector.closeLocked] at hc
    split at hc
    · rename_i hmem
      obtain ⟨c', hc', rfl⟩ := Option.map_eq_some_iff.mp hc
      have htracked := h.tracked id c' hc'
      by_cases hopened : c'.channelOpened = true
      · have hcancels : s.cancels id = false := by
          simp [cancels, hc', cancelLocked, hopened]
        have hcancel : c'.cancelLocked.2 = c'.meanwhile Session.closeChannel := by
          simp [cancelLocked, hopened]
        have hquiet := Session.asks_closeChannel (K := fun _ => False) c'.session
        rw [hcancel]
        have hsame : s.closeLocked.Tracked id c' :=
          htracked.of_state (Nat.le_refl _) (hkept c' hc' hcancels) (fun hf => hf) (fun ht => ht)
            rfl (fun hg => hg) fun hf => hf
        refine ⟨htracked.sequenced.meanwhile hquiet, hsame.issued, ?_, hsame.armed, hsame.running,
          ?_, hsame.abandoned, hsame.gone, hsame.frame⟩
        · rintro ⟨hlive, hchannel⟩
          exact hsame.registered ⟨hlive, hquiet.2.1.symm.trans hchannel⟩
        · intro htask
          exact hquiet.2.1.trans (hsame.task htask)
      · have hcancel : c'.cancelLocked.2 = c' := by simp [cancelLocked, hopened]
        have hdead : ¬ c'.Alive := by
          rintro ⟨hlive, -⟩
          exact hopened (htracked.sequenced.opened hlive).1
        rw [hcancel]
        refine ⟨htracked.sequenced, htracked.issued, fun halive => absurd halive hdead, ?_,
          htracked.running, htracked.task, fun habandoned _ => htracked.abandoned habandoned hmem,
          htracked.gone, htracked.frame⟩
        intro callback harmed
        rw [(htracked.sequenced.still hdead).2] at harmed
        cases harmed
    · rename_i hmem
      have htracked := h.tracked id c hc
      refine htracked.of_state (Nat.le_refl _) ?_ (fun hf => hf) (fun ht => ht) rfl
        (fun hg => hg) fun hf => hf
      constructor
      · intro hin
        exact List.mem_of_mem_filter hin
      · intro hin
        exact absurd hin hmem
  · intro hgone
    rcases h.gone hgone with hnone | habandoned
    · exact Or.inl (by simp [WSConnector.closeLocked, hnone])
    · exact Or.inr habandoned
  · intro hd
    exact h.destroyed (by simpa [WSConnector.closeLocked] using hd)
  · refine h.silent.append ((s.conns.filter s.cancels).map .removed) ?_ rfl
    intro g hg
    obtain ⟨id, -, rfl⟩ := List.mem_map.mp hg
    exact ⟨fun hf => hf.elim, by simp⟩

/-- A new connection is registered. -/
theorem Guarded.register (h : s.Guarded) (hno : s.destroying = .no)
    (haccounted : (s.register c).Accounted) (hsequenced : c.Sequenced)
    (hlive : c.live = false) : (s.register c).Guarded := by
  have hdead : ¬ c.Alive := by
    rintro ⟨halive, -⟩
    rw [hlive] at halive
    cases halive
  have hidle := (hsequenced.still hdead).2
  refine ⟨haccounted, ?_, ?_, h.connector, h.frames, h.noFrames, h.closing, h.givenUp,
    h.abandoning, ?_, ?_, ?_⟩
  · intro id c' hc'
    by_cases hid : id = s.nextConnId + 1
    · subst hid
      have hc : c' = c := by
        simp only [WSConnector.register, Function.update_self, Option.some.injEq] at hc'
        exact hc'.symm
      subst hc
      refine ⟨hsequenced, Nat.le_refl _, fun halive => absurd halive hdead, ?_, ?_, ?_, ?_, ?_, ?_⟩
      · intro callback harmed
        rw [hidle] at harmed
        cases harmed
      · intro hrun
        rw [hidle] at hrun
        cases hrun
      · intro htask
        have hle := h.tasksIssued _ htask
        omega
      · intro habandoned _
        exact absurd hno (h.givenUp habandoned)
      · intro hgone
        exact absurd (hno.symm.trans hgone) (by decide)
      · intro hframe
        rw [show (s.register c').frames = s.frames from rfl, h.noFrames hno] at hframe
        cases hframe
    · have hold : s.objects id = some c' := by
        simpa [WSConnector.register, Function.update_of_ne hid] using hc'
      have htracked := h.tracked id c' hold
      refine htracked.of_state (Nat.le_succ _) ?_ (fun hf => hf) (fun ht => ht) rfl
        (fun hg => hg) fun hf => hf
      simp [WSConnector.register, hid]
  · intro id hid
    exact Nat.le_succ_of_le (h.tasksIssued id hid)
  · intro hgone
    exact absurd (hno.symm.trans hgone) (by decide)
  · intro hd
    exact h.destroyed (by simpa [WSConnector.register] using hd)
  · exact h.silent.append [.created (s.nextConnId + 1)] (by simp [Harmless, IsCallback])
      rfl

/-- Giving up takes every registered handler away. -/
theorem Guarded.abandon (h : s.Guarded) (hwaiting : s.destroying = .waiting) :
    s.abandon.Guarded := by
  have hclosing := h.closing (by rw [hwaiting]; decide)
  have haccounted : s.abandon.Accounted :=
    h.accounted.of_same ⟨rfl, rfl, rfl, rfl, rfl, rfl, id, [], by simp [WSConnector.abandon],
      by simp⟩
  refine ⟨haccounted, ?_, h.tasksIssued, h.connector, h.frames, ?_, fun _ => hclosing,
    fun _ => by simp [WSConnector.abandon], fun _ => rfl, fun _ => Or.inr rfl, ?_, h.silent⟩
  · intro id c hc
    simp only [WSConnector.abandon] at hc
    split at hc
    · obtain ⟨c', hc', rfl⟩ := Option.map_eq_some_iff.mp hc
      have htracked := h.tracked id c' hc'
      refine ⟨htracked.sequenced.clearHandlerLocked, htracked.issued, fun _ => Or.inr rfl,
        htracked.armed, htracked.running, htracked.task, fun _ _ => rfl, ?_, htracked.frame⟩
      intro hgone
      cases hgone
    · rename_i hmem
      have htracked := h.tracked id c hc
      refine ⟨htracked.sequenced, htracked.issued, htracked.registered, htracked.armed,
        htracked.running, htracked.task, fun _ hin => absurd hin hmem, ?_, htracked.frame⟩
      intro hgone
      cases hgone
  · intro hno
    cases hno
  · intro hd
    exact absurd (h.destroyed hd) (by rw [hwaiting]; decide)

/-- When no other callback is in flight, the ones that the destructor is called from are all
that is in flight, and none is about to start. -/
theorem Guarded.none_armed (h : s.Guarded) (hflight : s.inFlight.length ≤ s.frames.length)
    (hc : s.objects id = some c) (callback : Callback) : c.dispatch ≠ .armed callback := by
  intro harmed
  have htracked := h.tracked id c hc
  have hsub : s.frames.Subperm s.inFlight := h.frames.1.subperm h.frames.2
  have hin : Party.connection id ∈ s.frames :=
    (hsub.perm_of_length_le hflight).mem_iff.mpr (htracked.armed callback harmed).2
  rw [htracked.frame hin] at harmed
  cases harmed

/-- The destructor returns when no other callback is in flight. -/
theorem Guarded.leaves (h : s.Guarded) (hflight : s.inFlight.length ≤ s.frames.length)
    (hdestroying : s.destroying ≠ .no) (hdone : s.conns = [] ∨ s.abandoned = true) :
    s.gone.Guarded := by
  have haccounted : s.gone.Accounted :=
    h.accounted.of_same ⟨rfl, rfl, rfl, rfl, rfl, rfl, id, [.destroyed], rfl, by simp [IsOther]⟩
  refine ⟨haccounted, ?_, h.tasksIssued, h.connector, ?_, fun _ => rfl,
    fun _ => h.closing hdestroying, fun _ => by simp [WSConnector.gone], ?_, fun _ => hdone,
    fun _ => rfl, ?_⟩
  · intro id c hc
    have htracked := h.tracked id c hc
    refine ⟨htracked.sequenced, htracked.issued, htracked.registered, htracked.armed,
      htracked.running, htracked.task, htracked.abandoned,
      fun _ callback => h.none_armed hflight hc callback, ?_⟩
    intro hframe
    cases hframe
  · simp [WSConnector.gone]
  · intro habandoning
    cases habandoning
  · exact Traces.NoneAfter.concat_other h.silent id

/-- Everything that is not about single connections is the same. -/
structure SameState (s t : WSConnector L P) : Prop where
  /-- The next number of a connection. -/
  nextConnId : t.nextConnId = s.nextConnId
  /-- The connections. -/
  conns : t.conns = s.conns
  /-- The abandoned ones. -/
  abandoned : t.abandoned = s.abandoned
  /-- Those that are being destroyed. -/
  destroying : t.destroying = s.destroying
  /-- The calls on the stacks. -/
  frames : t.frames = s.frames
  /-- The notice of the end. -/
  onClosed : t.onClosed = s.onClosed
  /-- Whether the connector closes. -/
  closing : t.closing = s.closing

/-- A connection is replaced by one that is tracked as well. -/
theorem Guarded.replace (h : s.Guarded) (hc : s.objects id = some c) (haccounted : t.Accounted)
    (hobjects : t.objects = Function.update s.objects id (some d)) (hsame : SameState s t)
    (hflight : ∀ p, p ≠ .connection id → p ∈ s.inFlight → p ∈ t.inFlight)
    (hcounted : .connection id ∈ s.frames → .connection id ∈ t.inFlight)
    (htasks : ∀ id' ∈ t.tasks, id' ∈ s.tasks ∨ id' = id) (htracked : t.Tracked id d)
    (hdestroyed : .destroyed ∈ t.trace → .destroyed ∈ s.trace) (hsilent : t.SilentAfterEnd) :
    t.Guarded := by
  obtain ⟨hnext, hconns, habandoned, hdestroying, hframes, honClosed, hclosing⟩ := hsame
  refine ⟨haccounted, ?_, ?_, ?_, ?_, ?_, ?_, ?_, ?_, ?_, ?_, hsilent⟩
  · intro id' c' hc'
    by_cases hid : id' = id
    · subst hid
      rw [hobjects, Function.update_self, Option.some.injEq] at hc'
      rw [← hc']
      exact htracked
    · rw [hobjects, Function.update_of_ne hid] at hc'
      refine (h.tracked id' c' hc').of_state (Nat.le_of_eq hnext.symm) (by rw [hconns])
        (hflight _ (by simpa using hid)) ?_ habandoned (by rw [hdestroying]; exact fun hg => hg)
        (by rw [hframes]; exact fun hf => hf)
      intro htask
      exact (htasks id' htask).resolve_right hid
  · intro id' hid'
    rw [hnext]
    rcases htasks id' hid' with hid' | rfl
    · exact h.tasksIssued id' hid'
    · exact (h.tracked id' c hc).issued
  · rw [honClosed]
    exact fun hclosed => hflight _ (by simp) (h.connector hclosed)
  · rw [hframes]
    refine ⟨h.frames.1, ?_⟩
    intro p hp
    by_cases hid : p = .connection id
    · rw [hid] at hp ⊢
      exact hcounted hp
    · exact hflight p hid (h.frames.2 p hp)
  · rw [hdestroying, hframes]
    exact h.noFrames
  · rw [hdestroying, hclosing]
    exact h.closing
  · rw [habandoned, hdestroying]
    exact h.givenUp
  · rw [habandoned, hdestroying]
    exact h.abandoning
  · rw [hdestroying, hconns, habandoned]
    exact h.gone
  · rw [hdestroying]
    exact fun hd => h.destroyed (hdestroyed hd)

/-- Something that carries out no effect and starts or returns no callback happens to a
connection. -/
theorem Guarded.set (h : s.Guarded) (hc : s.objects id = some c) {i : Input}
    (hclear : i ≠ .clearHandler) (hperform : i ≠ .perform) (hstart : i ≠ .start)
    (hreturned : i ≠ .callbackReturned)
    (hopens : c.connecting = .opening → i = .openReturned bcrSuccess →
      id ∈ s.conns ∨ c.handler = false) : (s.set id (c.step E i)).Guarded := by
  have htracked := h.tracked id c hc
  obtain ⟨hhandler, hchannel, -⟩ := step_other (E := E) htracked.sequenced hclear hperform
  have hdispatch := step_dispatch (E := E) (c := c) hperform hstart hreturned
  have haccounted : (s.set id (c.step E i)).Accounted :=
    h.accounted.of_same ⟨rfl, rfl, rfl, rfl, rfl, rfl, fun ha => ha, [],
      by simp [WSConnector.set], by simp⟩
  refine h.replace hc haccounted rfl ⟨rfl, rfl, rfl, rfl, rfl, rfl, rfl⟩ (fun _ _ hp => hp)
    (fun hf => h.frames.2 _ hf) (fun _ hid => Or.inl hid) ?_ (fun hd => hd) h.silent
  refine ⟨htracked.sequenced.step i, htracked.issued, ?_, ?_, ?_, ?_, ?_, ?_, ?_⟩
  · intro halive
    rw [hhandler]
    rcases step_alive htracked.sequenced hclear halive with halive | ⟨hi, hopening⟩
    · exact htracked.registered halive
    · exact hopens hopening hi
  · rw [hdispatch]
    exact htracked.armed
  · rw [hdispatch]
    exact htracked.running
  · rw [hchannel]
    exact htracked.task
  · rw [hhandler]
    exact htracked.abandoned
  · rw [hdispatch]
    exact htracked.gone
  · rw [hdispatch]
    exact htracked.frame

/-- A connection that carries out an effect is registered if it arms a callback. -/
theorem Guarded.performed (h : s.Guarded) (hc : s.objects id = some c) :
    (s.performed id c (c.step E .perform)).Guarded := by
  have htracked := h.tracked id c hc
  obtain ⟨hhandler, hchannel, -, hdispatch⟩ := step_perform (E := E) c
  have haccounted : (s.performed id c (c.step E .perform)).Accounted :=
    h.accounted.of_same (sameAccounts_connectionStep s id c .perform)
  have hflight (p : Party) (hp : p ∈ s.inFlight) :
      p ∈ (s.performed id c (c.step E .perform)).inFlight := by
    simp only [WSConnector.performed]
    split
    · exact List.mem_append_left _ hp
    · exact hp
  have hregistered (hidle : c.dispatch = .idle) (hhas : c.handler = true) {callback : Callback}
      (harmed : (c.step E .perform).dispatch = .armed callback) : id ∈ s.conns := by
    have halive : c.Alive := by
      by_contra hdead
      have hnone := (htracked.sequenced.still hdead).1
      simp [WSConnection.step, hidle, hnone] at harmed
    refine (htracked.registered halive).resolve_right ?_
    rw [hhas]
    decide
  refine h.replace hc haccounted rfl ⟨rfl, rfl, rfl, rfl, rfl, rfl, rfl⟩
    (fun p _ hp => hflight p hp)
    (fun hf => hflight _ (h.frames.2 _ hf)) ?_ ?_ (fun hd => hd) h.silent
  · intro id' hid'
    simp only [WSConnector.performed] at hid'
    split at hid'
    · rcases List.mem_append.mp hid' with hid' | hid'
      · exact Or.inl hid'
      · exact Or.inr (List.mem_singleton.mp hid')
    · exact Or.inl hid'
  refine ⟨htracked.sequenced.step .perform, htracked.issued, ?_, ?_, ?_, ?_, ?_, ?_, ?_⟩
  · intro halive
    rw [hhandler]
    rcases step_alive htracked.sequenced (by simp) halive with halive | ⟨hi, -⟩
    · exact htracked.registered halive
    · cases hi
  · intro callback harmed
    rcases hdispatch with hsame | ⟨hidle, hhas, -⟩
    · rw [hsame] at harmed
      obtain ⟨hmem, hin⟩ := htracked.armed callback harmed
      exact ⟨hmem, hflight _ hin⟩
    · refine ⟨hregistered hidle hhas harmed, ?_⟩
      simp only [WSConnector.performed]
      rw [if_pos ⟨hidle, by rw [harmed]; simp⟩]
      exact List.mem_append_right _ List.mem_cons_self
  · intro hrun
    rcases hdispatch with hsame | ⟨-, -, callback, harmed⟩
    · rw [hsame] at hrun
      exact hflight _ (htracked.running hrun)
    · rw [harmed] at hrun
      cases hrun
  · intro htask
    simp only [WSConnector.performed] at htask
    split at htask
    · rename_i hreleased
      simpa using hreleased.2
    · by_contra hopen
      rw [Bool.not_eq_false] at hopen
      have hclosed := htracked.task htask
      rw [hchannel hopen] at hclosed
      cases hclosed
  · rw [hhandler]
    exact htracked.abandoned
  · intro hgone callback harmed
    rcases hdispatch with hsame | ⟨hidle, hhas, -⟩
    · rw [hsame] at harmed
      exact htracked.gone hgone callback harmed
    · have hmem := hregistered hidle hhas harmed
      rcases h.gone hgone with hnone | habandoned
      · rw [hnone] at hmem
        cases hmem
      · rw [htracked.abandoned habandoned hmem] at hhas
        cases hhas
  · intro hframe
    have hrun := htracked.frame hframe
    rcases hdispatch with hsame | ⟨hidle, -⟩
    · exact hsame.trans hrun
    · rw [hidle] at hrun
      cases hrun

/-- A callback starts in silence only: its connection is registered, so neither the end has
been announced nor the destructor has returned. -/
theorem Guarded.started (h : s.Guarded) (hc : s.objects id = some c) {callback : Callback}
    (harmed : c.dispatch = .armed callback) :
    ({ s.set id (c.step E .start) with
      trace := s.trace ++ [.callback id callback] } : WSConnector L P).Guarded := by
  have htracked := h.tracked id c hc
  have hrunning : (c.step E .start).dispatch = .running := by simp [WSConnection.step, harmed]
  obtain ⟨hhandler, hchannel, -⟩ :=
    step_other (E := E) htracked.sequenced (i := .start) (by simp) (by simp)
  obtain ⟨hmem, hin⟩ := htracked.armed callback harmed
  have haccounted : ({ s.set id (c.step E .start) with
      trace := s.trace ++ [.callback id callback] } : WSConnector L P).Accounted :=
    h.accounted.of_same ⟨rfl, rfl, rfl, rfl, rfl, rfl, fun ha => ha, _, rfl, by simp [IsOther]⟩
  refine h.replace hc haccounted rfl ⟨rfl, rfl, rfl, rfl, rfl, rfl, rfl⟩ (fun _ _ hp => hp)
    (fun hf => h.frames.2 _ hf) (fun _ hid => Or.inl hid) ?_ (fun hd => by simpa using hd) ?_
  · refine ⟨htracked.sequenced.step .start, htracked.issued, ?_, ?_, fun _ => hin, ?_, ?_, ?_,
      fun _ => hrunning⟩
    · intro _
      exact Or.inl hmem
    · intro callback' harmed'
      rw [hrunning] at harmed'
      cases harmed'
    · rw [hchannel]
      exact htracked.task
    · rw [hhandler]
      exact htracked.abandoned
    · intro _ callback' harmed'
      rw [hrunning] at harmed'
      cases harmed'
  · refine h.silent.concat ?_
    intro _ g hg hend
    cases g with
    | closed =>
      have hpos := List.count_pos_iff.mpr hg
      have hannounced := h.accounted.announced
      have hnotified : s.closedNotified = true := by
        by_contra hnotified
        rw [if_neg hnotified] at hannounced
        omega
      rw [(h.accounted.noted hnotified).2] at hmem
      cases hmem
    | destroyed => exact htracked.gone (h.destroyed hg) callback harmed
    | created id' => exact hend
    | removed id' => exact hend
    | callback id' callback' => exact hend

/-- A callback that returns is not counted any more. -/
theorem Guarded.returned (h : s.Guarded) (hc : s.objects id = some c)
    (hframe : .connection id ∉ s.frames) (hrunning : c.dispatch = .running) :
    ({ s.set id (c.step E .callbackReturned) with
      inFlight := s.inFlight.erase (.connection id) } : WSConnector L P).Guarded := by
  have htracked := h.tracked id c hc
  have hidle : (c.step E .callbackReturned).dispatch = .idle := by
    simp [WSConnection.step, hrunning]
  obtain ⟨hhandler, hchannel, -⟩ :=
    step_other (E := E) htracked.sequenced (i := .callbackReturned) (by simp) (by simp)
  have haccounted : ({ s.set id (c.step E .callbackReturned) with
      inFlight := s.inFlight.erase (.connection id) } : WSConnector L P).Accounted :=
    h.accounted.of_same ⟨rfl, rfl, rfl, rfl, rfl, rfl, fun ha => ha, [],
      by simp [WSConnector.set], by simp⟩
  refine h.replace hc haccounted rfl ⟨rfl, rfl, rfl, rfl, rfl, rfl, rfl⟩
    (fun p hp hmem => (List.mem_erase_of_ne hp).mpr hmem) (fun hf => absurd hf hframe)
    (fun _ hid => Or.inl hid) ?_ (fun hd => hd) h.silent
  refine ⟨htracked.sequenced.step .callbackReturned, htracked.issued, ?_, ?_, ?_, ?_, ?_, ?_,
    fun hf => absurd hf hframe⟩
  · intro halive
    rw [hhandler]
    rcases step_alive htracked.sequenced (by simp) halive with halive | ⟨hi, -⟩
    · exact htracked.registered halive
    · cases hi
  · intro callback harmed
    rw [hidle] at harmed
    cases harmed
  · intro hrun
    rw [hidle] at hrun
    cases hrun
  · rw [hchannel]
    exact htracked.task
  · rw [hhandler]
    exact htracked.abandoned
  · intro _ callback harmed
    rw [hidle] at harmed
    cases harmed

/-- Whatever happens to a connection keeps the guard, if channels of registered connections
only are opened. -/
theorem Guarded.connectionStep (h : s.Guarded) (hc : s.objects id = some c) (i : Input)
    (hopens : s.OpensRegistered (.connection id i)) : (s.connectionStep E id c i).Guarded := by
  cases i with
  | clearHandler => exact h
  | checkClosing closing =>
    exact h.set hc (by simp) (by simp) (by simp) (by simp) (by simp)
  | perform => exact h.performed hc
  | start =>
    simp only [WSConnector.connectionStep]
    split
    · rename_i callback harmed
      exact h.started hc harmed
    · exact h
  | callbackReturned =>
    simp only [WSConnector.connectionStep]
    split
    · exact h
    · rename_i hreturns
      simp only [not_or, ne_eq, not_not] at hreturns
      exact h.returned hc hreturns.1 hreturns.2
  | connect => exact h.set hc (by simp) (by simp) (by simp) (by simp) (by simp)
  | prepare now prepared => exact h.set hc (by simp) (by simp) (by simp) (by simp) (by simp)
  | openReturned result =>
    refine h.set hc (by simp) (by simp) (by simp) (by simp) ?_
    intro hopening hresult
    exact hopens c hc hopening (Input.openReturned.inj hresult)
  | event now e => exact h.set hc (by simp) (by simp) (by simp) (by simp) (by simp)
  | close result => exact h.set hc (by simp) (by simp) (by simp) (by simp) (by simp)
  | send opcode payload => exact h.set hc (by simp) (by simp) (by simp) (by simp) (by simp)

/-- A callback that runs is counted. -/
theorem Guarded.counted (h : s.Guarded) {p : Party} (hp : s.isRunning p = true) :
    p ∈ s.inFlight := by
  cases p with
  | connector =>
    refine h.connector ?_
    simp only [isRunning, decide_eq_true_eq] at hp
    rw [hp]
    decide
  | connection id =>
    simp only [isRunning] at hp
    split at hp
    · rename_i c hc
      exact (h.tracked id c hc).running (by simpa using hp)
    · cases hp

/-- Every step keeps the guard, if it opens channels of registered connections only. -/
theorem Guarded.step (h : s.Guarded) (m : Move L P) (hopens : s.OpensRegistered m) :
    (s.step E m).Guarded := by
  have haccounted := h.accounted.step (E := E) m
  cases m with
  | create handler =>
    simp only [WSConnector.step] at haccounted ⊢
    split at haccounted
    · rename_i hcreated
      rw [if_pos hcreated]
      exact h
    · rename_i hcreated
      rw [if_neg hcreated]
      exact h.of_state haccounted rfl rfl rfl (fun _ hid => hid) (fun _ hid => hid) rfl
        (Or.inl rfl) rfl h.connector h.frames.2 id harmless_nil
  | createConnection config http parser handler =>
    simp only [WSConnector.step, WSConnector.createConnection] at haccounted ⊢
    split
    · exact h
    rename_i hno
    rw [ne_eq, not_not] at hno
    split
    · exact h
    · rename_i hready
      rw [if_neg (by simpa using hno), if_neg hready] at haccounted
      exact h.register hno haccounted (sequenced_create config http parser handler) rfl
  | connection id i =>
    simp only [WSConnector.step]
    split
    · rename_i c hc
      exact h.connectionStep hc i hopens
    · exact h
  | close =>
    simp only [WSConnector.step] at haccounted ⊢
    split
    · exact h
    · rename_i hno
      rw [if_neg hno] at haccounted
      have hclose := h.closeLocked
      exact hclose.of_state haccounted rfl rfl rfl (fun _ hid => hid) (fun _ hid => hid) rfl
        (Or.inl rfl) rfl hclose.connector hclose.frames.2 id harmless_nil
  | notify =>
    simp only [WSConnector.step] at haccounted ⊢
    split
    · exact h
    · rename_i hnone
      rw [if_neg hnone] at haccounted
      have hnotify := h.notifyClosedIfDrained
      exact hnotify.of_state haccounted rfl rfl rfl (fun _ hid => hid) (fun _ hid => hid) rfl
        (Or.inl rfl) rfl hnotify.connector hnotify.frames.2 id harmless_nil
  | teardown id =>
    simp only [WSConnector.step]
    split
    · rename_i htask
      have hrest : ({ s with tasks := s.tasks.erase id } : WSConnector L P).Guarded :=
        h.of_state (h.accounted.of_same ⟨rfl, rfl, rfl, rfl, rfl, rfl, fun ha => ha, [], by simp,
          by simp⟩) rfl rfl rfl (fun _ hid => hid) (fun _ hid => List.mem_of_mem_erase hid) rfl
          (Or.inl rfl) rfl h.connector h.frames.2 (fun hc => hc) harmless_nil
      have hremove := hrest.removeConn id fun c hc => (h.tracked id c hc).task htask
      exact hremove.maybeNotify
    · exact h
  | closedStart =>
    simp only [WSConnector.step] at haccounted ⊢
    split
    · rename_i harmed
      rw [if_pos harmed] at haccounted
      refine h.of_state haccounted rfl rfl rfl (fun _ hid => hid) (fun _ hid => hid) rfl
        (Or.inl rfl) rfl ?_ h.frames.2 id ⟨_, rfl, by simp [Harmless, IsCallback]⟩
      intro _
      exact h.connector (by rw [harmed]; decide)
    · exact h
  | closedReturned =>
    simp only [WSConnector.step] at haccounted ⊢
    split
    · rename_i hreturns
      rw [if_pos hreturns] at haccounted
      refine h.of_state haccounted rfl rfl rfl ?_ (fun _ hid => hid) rfl (Or.inl rfl) rfl ?_ ?_
        id harmless_nil
      · intro id hid
        exact (List.mem_erase_of_ne (by simp)).mpr hid
      · intro hidle
        exact absurd rfl hidle
      · intro p hp
        refine (List.mem_erase_of_ne ?_).mpr (h.frames.2 p hp)
        rintro rfl
        exact hreturns.2 hp
    · exact h
  | destroy frames =>
    simp only [WSConnector.step] at haccounted ⊢
    split
    · rename_i hcalled
      rw [if_pos hcalled] at haccounted
      obtain ⟨hno, hnodup, hrunning⟩ := hcalled
      have hclose := h.closeLocked
      refine ⟨haccounted, ?_, hclose.tasksIssued, hclose.connector, ⟨hnodup, ?_⟩, ?_,
        fun _ => rfl, ?_, ?_, ?_, ?_, hclose.silent⟩
      · intro id c hc
        have htracked := hclose.tracked id c hc
        refine ⟨htracked.sequenced, htracked.issued, htracked.registered, htracked.armed,
          htracked.running, htracked.task, htracked.abandoned, ?_, ?_⟩
        · intro hgone
          cases hgone
        · intro hframe
          have hrun := hrunning _ hframe
          simp only [isRunning] at hrun
          simp only [WSConnector.closeLocked] at hc
          split at hrun
          · rename_i c' hc'
            have hrun' : c'.dispatch = .running := by simpa using hrun
            split at hc
            · rw [hc', Option.map_some, Option.some.injEq] at hc
              rw [← hc, cancelLocked]
              split <;> exact hrun'
            · rw [hc', Option.some.injEq] at hc
              rw [← hc]
              exact hrun'
          · cases hrun
      · intro p hp
        exact h.counted (hrunning p hp)
      · intro hd
        cases hd
      · intro habandoned
        exact absurd hno (h.givenUp habandoned)
      · intro habandoning
        cases habandoning
      · intro hgone
        cases hgone
      · intro hd
        exact absurd ((hclose.destroyed hd).symm.trans hno) (by decide)
    · exact h
  | destroyNotify =>
    simp only [WSConnector.step] at haccounted ⊢
    split
    · rename_i hclosed
      rw [if_pos hclosed] at haccounted
      have hnotify := h.notifyClosedIfDrained
      have hkept : s.notifyClosedIfDrained.destroying = .closed := by
        rw [← hclosed]
        unfold WSConnector.notifyClosedIfDrained
        split
        · rfl
        split
        · rfl
        split <;> rfl
      exact hnotify.of_state haccounted rfl rfl rfl (fun _ hid => hid) (fun _ hid => hid) rfl
        (Or.inr ⟨hkept, rfl⟩) rfl hnotify.connector hnotify.frames.2 id harmless_nil
    · exact h
  | drained =>
    simp only [WSConnector.step]
    split
    · rename_i hdone
      obtain ⟨hwaiting, hdrained⟩ := hdone
      simp only [isDrained, Bool.and_eq_true, decide_eq_true_eq] at hdrained
      exact h.leaves hdrained.2 (by rw [hwaiting]; decide) (Or.inl hdrained.1)
    · exact h
  | timeout =>
    simp only [WSConnector.step]
    split
    · rename_i hwaits
      exact h.abandon hwaits.1
    · exact h
  | leave =>
    simp only [WSConnector.step]
    split
    · rename_i hleaves
      exact h.leaves hleaves.2 (by rw [hleaves.1]; decide) (Or.inr (h.abandoning hleaves.1))
    · exact h

/-- In every run that opens channels of registered connections only, no callback starts behind
the end of the connector. -/
theorem silent_of_meets (E : Parsers L P) {moves : List (Move L P)}
    (hopens : Runs.Meets (step E) OpensRegistered initial moves) :
    (Runs.run (step E) initial moves).SilentAfterEnd :=
  (Runs.invariant_of_meets (fun _ m h hm => h.step m hm) guarded_initial hopens).silent

/-- Parsers that read nothing. -/
def idleParsers : Parsers Unit Unit where
  execute := fun l _ => .done .ok none l
  resumeAfterUpgrade := fun l => l
  parseWSFrame := fun p _ => ([], none, p)
  wsAcceptKey := fun key => key
  bcResult2String := fun _ => ""

/-- Up to the creation of the first connection. -/
def firstMoves : List (Move Unit Unit) := [.create true, .createConnection ⟨0, 0, 0⟩ () () true]

/-- `Connect` on the first connection, whose channel is closed at once. -/
def connectMoves : List (Move Unit Unit) :=
  [.connection 1 .connect, .connection 1 (.prepare 0 (.request [] [] 0)),
    .connection 1 (.openReturned bcrSuccess), .connection 1 (.checkClosing true),
    .connection 1 (.event 0 (.closed bcrSuccess "")), .connection 1 .perform,
    .connection 1 .start, .connection 1 .callbackReturned, .connection 1 .perform]

/-- The connector is closed, and its end is announced. -/
def closeMoves : List (Move Unit Unit) := [.close, .notify, .teardown 1, .closedStart]

/-- A connection that is opened before the connector is closed calls back in time. -/
theorem silent_of_meets_connect_close :
    (Runs.run (step idleParsers) initial
      (firstMoves ++ (connectMoves ++ closeMoves))).SilentAfterEnd := by
  refine silent_of_meets idleParsers ?_
  refine ⟨trivial, trivial, trivial, trivial, ?_, trivial, trivial, trivial, trivial, trivial,
    trivial, trivial, trivial, trivial, trivial, trivial⟩
  intro c _ _ _
  exact Or.inl (by decide)

/-- A connection that is opened after the connector has been closed calls back behind the end:
`Close` has removed it and has left it its handler. -/
theorem connect_close_not_silent :
    ¬ (Runs.run (step idleParsers) initial
      (firstMoves ++ (closeMoves ++ connectMoves))).SilentAfterEnd := by
  have htrace : (Runs.run (step idleParsers) initial
      (firstMoves ++ (closeMoves ++ connectMoves))).trace =
      [.created 1, .removed 1, .closed, .callback 1 (.onConnectResult bcrUnexpectedEnd [])] := by
    decide
  intro hsilent
  unfold SilentAfterEnd at hsilent
  rw [htrace] at hsilent
  obtain ⟨-, -, hclosed, -⟩ := by simpa only [Traces.NoneAfter, List.pairwise_cons] using hsilent
  exact hclosed _ List.mem_cons_self trivial trivial

end WSConnector

end WS
