import TTSignal.Http.Drained

/-!
# What the steps of a connector record

Each event of a connector records actions of its own kind. What is deleted has not been deleted
before, and no longer has a user; what arrives while a channel is parked keeps it from being
taken over.
-/

namespace Http

open Tcp (BCResult)

/-- Kinds of actions. -/
inductive ActionKind where
  /-- A request is accepted. -/
  | acceptance
  /-- A call of `Request` returns. -/
  | returning
  /-- A request's handler is told its outcome. -/
  | callback
  /-- `Close`. -/
  | close
  /-- `OnClosed`. -/
  | notice
  /-- `OnLog`. -/
  | log
  /-- Something is deleted. -/
  | deletion
  /-- Of the data of a channel. -/
  | data
  /-- The end of the destructor. -/
  | destroyed
  deriving DecidableEq

/-- The kind of an action. -/
def Action.kind : Action → ActionKind
  | .accepted _ _ => .acceptance
  | .returned _ _ => .returning
  | .callback _ _ _ | .callbackReturned _ => .callback
  | .closeCalled => .close
  | .onClosed => .notice
  | .onLog => .log
  | .deletedConnection _ | .deletedPooled _ | .deletedChannel _ _ => .deletion
  | .parkedData _ | .received _ _ | .adopted _ _ => .data
  | .destroyed => .destroyed

/-- The kinds of actions that an event may record. -/
def Event.Records (kind : ActionKind) : Event → Prop
  | .call _ => kind = .returning
  | .proceed _ _ => kind = .acceptance ∨ kind = .returning
  | .data _ _ | .adopt _ _ => kind = .data
  | .resume _ _ => kind = .callback
  | .work w => (kind = .notice ∧ ∃ t k, w = .onClosed t k) ∨ kind = .deletion ∨ kind = .returning
  | .close | .destroy => kind = .close
  | .endWait | .clearSink => kind = .destroyed
  | .logChannel _ | .logWorker | .logConnection _ | .logRequest _ => kind = .log
  | _ => False

namespace HttpConnector

variable {s s' : HttpConnector} {P Q : Action → Prop}

/-- Between two connectors only actions with a property have been recorded. -/
def Adds (P : Action → Prop) (s s' : HttpConnector) : Prop :=
  ∃ new, s'.trace = s.trace ++ new ∧ ∀ a ∈ new, P a

/-- Nothing is added to an equal trace. -/
theorem adds_of_eq (h : s'.trace = s.trace) : Adds P s s' :=
  ⟨[], by simpa using h, by simp⟩

/-- A note is added. -/
theorem adds_note {a : Action} (ha : P a) : Adds P s (s.note a) :=
  ⟨[a], rfl, by simpa using ha⟩

/-- What is added in two parts is added together. -/
theorem Adds.trans {s'' : HttpConnector} (h : Adds P s s') (h' : Adds P s' s'') :
    Adds P s s'' := by
  obtain ⟨new, htrace, hnew⟩ := h
  obtain ⟨new', htrace', hnew'⟩ := h'
  refine ⟨new ++ new', by rw [htrace', htrace, List.append_assoc], ?_⟩
  intro a ha
  rcases List.mem_append.mp ha with ha | ha
  · exact hnew a ha
  · exact hnew' a ha

/-- What is added may be described more coarsely. -/
theorem Adds.mono (h : Adds P s s') (hPQ : ∀ a, P a → Q a) : Adds Q s s' := by
  obtain ⟨new, htrace, hnew⟩ := h
  exact ⟨new, htrace, fun a ha => hPQ a (hnew a ha)⟩

/-- An equal trace has the same added. -/
theorem Adds.of_eq {s'' : HttpConnector} (h : Adds P s s') (heq : s''.trace = s'.trace) :
    Adds P s s'' :=
  h.trans (adds_of_eq heq)

/-! ### The trace after each operation -/

/-- Cancelling a connection notes nothing. -/
theorem trace_cancel (s : HttpConnector) (c : ConnectionId) : (s.cancel c).trace = s.trace := by
  obtain ⟨channel, -, heq⟩ := s.cancel_eq c
  rw [heq]

/-- Nor does a channel that is ready, or has failed. -/
theorem trace_onChannelReady (s : HttpConnector) (c : ConnectionId) (failure : Option BCResult) :
    (s.onChannelReady c failure).trace = s.trace := by
  cases failure with
  | none => rfl
  | some result => exact trace_cancel _ c

/-- Nor does the release of a pooled channel. -/
theorem trace_release (s : HttpConnector) (p : PooledId) : (s.release p).trace = s.trace := by
  obtain ⟨x, works, -, heq⟩ := s.release_eq p
  rw [heq]

/-- Nor does delivering once. -/
theorem trace_deliverOnce (s : HttpConnector) (c : ConnectionId) (ch : ChannelId) (t : Thread)
    (closeResult : BCResult) (finishes : Bool) (next : Next) :
    (s.deliverOnce c ch t closeResult finishes next).trace = s.trace := by
  obtain ⟨x, a, n, guards, -, -, -, -, heq⟩ := s.deliverOnce_eq c ch t closeResult finishes next
  rw [heq]

/-- Nor does the end of a pooled channel. -/
theorem trace_onPooledClosed (s : HttpConnector) (p : PooledId) :
    (s.onPooledClosed p).trace = s.trace := by
  obtain ⟨x, idle, n, works, -, heq⟩ := s.onPooledClosed_eq p
  rw [heq]

/-- Nor does its detachment. -/
theorem trace_onPooledDetached (s : HttpConnector) (p : PooledId) :
    (s.onPooledDetached p).trace = s.trace := by
  obtain ⟨x, works, -, heq⟩ := s.onPooledDetached_eq p
  rw [heq]

/-- The return of a request notes that it returns. -/
theorem adds_returns (r : RequestId) (result : BCResult) :
    Adds (fun a => a.kind = .returning) s (s.returns r result) :=
  adds_note rfl

/-- `Request` records what its calls do. -/
theorem adds_call (args : RequestArgs) : Adds (fun a => a.kind = .returning) s (s.call args) := by
  unfold HttpConnector.call
  split
  · exact adds_note rfl
  · exact adds_of_eq rfl

/-- Going on with a request notes acceptances and returns at most. -/
theorem adds_proceed (r : RequestId) (t : Thread) (result : BCResult) :
    Adds (fun a => a.kind = .acceptance ∨ a.kind = .returning) s (s.proceed r t result) := by
  have hsame : Adds (fun a => a.kind = .acceptance ∨ a.kind = .returning) s s := adds_of_eq rfl
  have hreturns (x : HttpConnector) (result : BCResult) (hx : x.trace = s.trace) :
      Adds (fun a => a.kind = .acceptance ∨ a.kind = .returning) s (x.returns r result) :=
    (adds_of_eq hx).trans ((adds_returns r result).mono fun a ha => .inr ha)
  unfold HttpConnector.proceed
  split
  · exact hsame
  · exact hsame
  · exact hsame
  · unfold proceedTake
    split
    · exact adds_of_eq rfl
    split <;> exact adds_of_eq rfl
  · rename_i b hphase
    cases b with
    | none =>
      simp only [proceedInsert]
      split
      · exact hreturns s shuttingDown rfl
      · exact adds_of_eq rfl
    | some p =>
      simp only [proceedInsert]
      split
      · exact hreturns _ shuttingDown (trace_release _ p)
      · exact adds_of_eq rfl
  · unfold startFresh
    split
    · exact hsame
    split
    · exact adds_note (.inl rfl)
    · exact adds_of_eq rfl
  · unfold startReused
    split
    · exact hsame
    split <;> exact adds_of_eq rfl
  · unfold proceedAcquire
    split
    · exact hsame
    split
    · exact adds_of_eq rfl
    · exact adds_note (.inl rfl)
  · exact adds_of_eq (trace_release s _)
  · unfold proceedDetach armClosed
    split <;> exact adds_of_eq rfl
  · exact adds_of_eq (trace_release _ _)
  · split
    · exact hreturns s shuttingDown rfl
    · exact adds_of_eq rfl
  · split
    · exact hreturns _ .success (trace_cancel s _)
    · exact hreturns s .success rfl

/-- A complete message notes nothing by itself. -/
theorem trace_onMessageDone (s : HttpConnector) (c : ConnectionId) (ch : ChannelId) (t : Thread) :
    (s.onMessageDone c ch t).trace = s.trace := by
  unfold onMessageDone
  split
  · exact trace_deliverOnce _ c ch t .success false .park
  · exact trace_cancel s c

/-- Nor do the data of a channel. -/
theorem trace_onChannelData (s : HttpConnector) (c : ConnectionId) (ch : ChannelId) (t : Thread)
    (parsed : Parsed) : (s.onChannelData c ch t parsed).trace = s.trace := by
  unfold onChannelData
  split
  · rfl
  split
  · exact trace_onMessageDone s c ch t
  cases parsed with
  | more => rfl
  | complete keepAlive => exact trace_onMessageDone _ c ch t
  | failed result => exact trace_cancel _ c

/-- The data of a parked channel poisons it; other data is given to a connection. -/
theorem adds_onRecvData (ch : ChannelId) (t : Thread) (parsed : Parsed) :
    Adds (fun a =>
        (a = .parkedData ch ∧ (s.channel ch).parked = true) ∨
          ∃ c, a = .received ch c ∧ (s.channel ch).parked = false)
      s (s.onRecvData ch t parsed) := by
  unfold onRecvData
  split
  case isFalse => exact adds_of_eq rfl
  split
  · rename_i hparked
    exact adds_note (.inl ⟨rfl, hparked⟩)
  rename_i hparked
  split
  · rename_i c hhandler
    split
    · exact adds_of_eq rfl
    · have hnoted := adds_note (s := s)
        (P := fun a => (a = .parkedData ch ∧ (s.channel ch).parked = true) ∨
          ∃ c, a = .received ch c ∧ (s.channel ch).parked = false)
        (a := .received ch c) (.inr ⟨c, rfl, by simpa using hparked⟩)
      exact hnoted.of_eq (trace_onChannelData _ c ch t parsed)
  · exact adds_of_eq rfl

/-- A channel is taken over when it is parked and usable. -/
theorem adds_onAdopt (ch : ChannelId) (failure : Option BCResult) :
    Adds (fun a => ∃ c, a = .adopted ch c ∧ (s.channel ch).ParkedAndUsable)
      s (s.onAdopt ch failure) := by
  unfold onAdopt
  split
  · exact adds_of_eq rfl
  rename_i c rest hadopts
  split
  · exact adds_of_eq rfl
  split
  · rename_i hparked
    have hnoted : Adds (fun a => ∃ c, a = .adopted ch c ∧ (s.channel ch).ParkedAndUsable) s
        (s.adopted ch c rest) := adds_note ⟨c, rfl, hparked⟩
    unfold takeOver
    split
    · exact (hnoted.of_eq (trace_onPooledDetached _ _)).of_eq (trace_onChannelReady _ c failure)
    · exact hnoted.of_eq (trace_onChannelReady _ c failure)
  · exact adds_of_eq rfl

/-- Nor does a channel that is opened. -/
theorem trace_onReady (s : HttpConnector) (ch : ChannelId) (failure : Option BCResult) :
    (s.onReady ch failure).trace = s.trace := by
  unfold onReady
  split
  · split
    · exact trace_onChannelReady _ _ failure
    · rfl
  · rfl

/-- Nor does its timer. -/
theorem trace_onTimer (s : HttpConnector) (ch : ChannelId) : (s.onTimer ch).trace = s.trace := by
  unfold onTimer
  split
  · split
    · exact trace_cancel _ _
    · rfl
  · rfl

/-- Nor does its failure. -/
theorem trace_onFail (s : HttpConnector) (ch : ChannelId) : (s.onFail ch).trace = s.trace := by
  unfold onFail
  split <;> rfl

/-- Nor does its end. -/
theorem trace_onClosed (s : HttpConnector) (ch : ChannelId) (t : Thread) (result : BCResult)
    (finishes : Bool) : (s.onClosed ch t result finishes).trace = s.trace := by
  unfold HttpConnector.onClosed
  split
  · split
    · exact trace_deliverOnce _ _ ch t result finishes .detach
    · exact trace_onPooledClosed _ _
    · rfl
  · rfl

/-- Nor does opening a fresh channel. -/
theorem trace_openFresh (s : HttpConnector) (c : ConnectionId) (ch : ChannelId) (closing : Bool)
    (t : Thread) (result : BCResult) : (s.openFresh c ch closing t result).trace = s.trace := by
  unfold openFresh
  split
  · exact trace_deliverOnce _ c ch t shuttingDown false .detach
  split
  · exact trace_deliverOnce _ c ch t result false .detach
  split <;> rfl

/-- A channel's thread in a connection records the calls of the handler. -/
theorem adds_resume (c : ConnectionId) (t : Thread) (result : BCResult) :
    Adds (fun a => a.kind = .callback) s (s.resume c t result) := by
  unfold HttpConnector.resume
  split
  · exact adds_of_eq rfl
  · split
    · exact adds_note rfl
    · exact adds_of_eq rfl
  · split
    · exact adds_note rfl
    · exact adds_of_eq rfl
  · unfold returnToPool
    split <;> exact adds_of_eq rfl
  · exact adds_of_eq rfl
  · exact adds_of_eq (trace_openFresh s c _ _ t result)

/-- What is left of a call notes returns at most. -/
theorem adds_goOn (k : Cont) : Adds (fun a => a.kind = .returning) s (s.goOn k) := by
  cases k with
  | done => exact adds_of_eq rfl
  | request r a =>
    cases a with
    | retry p => exact adds_of_eq rfl
    | giveUp result => exact adds_returns r result
  | destructor =>
    simp only [goOn]
    split <;> exact adds_of_eq rfl

/-- A notice, or what goes on instead, notes returns at most. -/
theorem adds_notifyOr (t : Thread) (k : Cont) :
    Adds (fun a => a.kind = .returning) s (s.notifyOr t k) := by
  unfold notifyOr
  split
  · exact adds_of_eq rfl
  · exact adds_goOn k

/-- So does the notice that everything is closed. -/
theorem adds_notifyClosedIfDrained (t : Thread) (k : Cont) :
    Adds (fun a => a.kind = .returning) s (s.notifyClosedIfDrained t k) := by
  unfold notifyClosedIfDrained
  split
  · exact adds_goOn k
  split
  · exact adds_goOn k
  split
  · exact (adds_of_eq rfl).trans (adds_goOn k)
  · exact adds_of_eq rfl

/-- Deleting a connection notes deletions at most. -/
theorem adds_deleteConnection (c : ConnectionId) :
    Adds (fun a => a.kind = .deletion) s (s.deleteConnection c) := by
  unfold HttpConnector.deleteConnection
  split
  · exact adds_note rfl
  · rename_i ch hch
    have hchannel : Adds (fun a => a.kind = .deletion) s (s.deleteChannel ch (.connection c)) :=
      adds_note rfl
    exact (hchannel.of_eq rfl).trans (adds_note rfl)

/-- What is done may delete something and let a call of `Request` return. -/
theorem adds_doWork (t : Thread) {w : Work} (hw : ∀ t' k, w ≠ .onClosed t' k) :
    Adds (fun a => a.kind = .deletion ∨ a.kind = .returning) s (s.doWork t w) := by
  have hreturning {s s' : HttpConnector} (h : Adds (fun a => a.kind = .returning) s s') :
      Adds (fun a => a.kind = .deletion ∨ a.kind = .returning) s s' :=
    h.mono fun a ha => .inr ha
  have hdeletion {s s' : HttpConnector} (h : Adds (fun a => a.kind = .deletion) s s') :
      Adds (fun a => a.kind = .deletion ∨ a.kind = .returning) s s' :=
    h.mono fun a ha => .inl ha
  cases w with
  | deleteConnection c => exact (hdeletion (adds_deleteConnection c)).of_eq rfl
  | finishDestroy c => exact (adds_of_eq rfl).trans (hreturning (adds_notifyOr t .done))
  | deleteClosed p => exact hdeletion (Adds.trans (adds_note rfl) (adds_note rfl))
  | deleteDetached p => exact hdeletion (adds_note rfl)
  | finishIdle p => exact (adds_of_eq rfl).trans (hreturning (adds_notifyOr t .done))
  | recheck c =>
    simp only [doWork]
    split
    · exact adds_of_eq (trace_cancel s c)
    · exact adds_of_eq rfl
  | notifyClosed k => exact hreturning (adds_notifyClosedIfDrained t k)
  | drop c armed k =>
    have hdeleted : Adds (fun a => a.kind = .deletion) s
        ((s.deleteConnection c).setStage c .discarded) := (adds_deleteConnection c).of_eq rfl
    cases armed with
    | none => exact (hdeletion hdeleted).trans (hreturning (adds_goOn k))
    | some t' => exact (hdeletion hdeleted).of_eq rfl
  | onClosed t' k => exact absurd rfl (hw t' k)
  | inOnClosed t' k => exact (adds_of_eq rfl).trans (hreturning (adds_goOn k))

/-- A line of the log notes lines at most. -/
theorem adds_log (t : Thread) : Adds (fun a => a.kind = .log) s (s.log t) := by
  unfold log
  split
  · exact adds_note rfl
  · exact adds_of_eq rfl

/-- Every event records actions of its own kind. -/
theorem adds_handle (t : Thread) (e : Event) :
    Adds (fun a => e.Records a.kind) s (s.handle t e) := by
  cases e with
  | call args =>
    simp only [handle]
    split
    · exact adds_call args
    · exact adds_of_eq rfl
  | proceed r result => exact adds_proceed r t result
  | ready ch failure => exact adds_of_eq (trace_onReady s ch failure)
  | data ch parsed =>
    refine (adds_onRecvData ch t parsed).mono ?_
    rintro a (⟨rfl, -⟩ | ⟨c, rfl, -⟩) <;> rfl
  | timer ch => exact adds_of_eq (trace_onTimer s ch)
  | fails ch => exact adds_of_eq (trace_onFail s ch)
  | adopt ch failure =>
    refine (adds_onAdopt ch failure).mono ?_
    rintro a ⟨c, rfl, -⟩
    rfl
  | closed ch result finishes => exact adds_of_eq (trace_onClosed s ch t result finishes)
  | resume c result => exact adds_resume c t result
  | work w =>
    simp only [handle]
    split
    · by_cases hw : ∃ t' k, w = .onClosed t' k
      · obtain ⟨t', k, rfl⟩ := hw
        have hnoted : Adds (fun a => (Event.work (.onClosed t' k)).Records a.kind) s
            (s.note .onClosed) := adds_note (.inl ⟨rfl, t', k, rfl⟩)
        exact hnoted.of_eq rfl
      · rw [not_exists] at hw
        have hdone := adds_doWork (s := { s with works := s.works.erase w }) t
          fun t' k heq => hw t' ⟨k, heq⟩
        exact (adds_of_eq rfl).trans (hdone.mono fun a ha => .inr ha)
    · exact adds_of_eq rfl
  | close =>
    simp only [handle]
    split
    · exact adds_note rfl
    · exact adds_of_eq rfl
  | destroy =>
    simp only [handle, destroy]
    split
    · exact adds_note rfl
    · exact adds_of_eq rfl
  | endWait =>
    simp only [handle, endWait]
    split
    · split
      · exact adds_note rfl
      · exact adds_of_eq rfl
    · exact adds_of_eq rfl
  | endAbandon =>
    simp only [handle, endAbandon]
    split <;> exact adds_of_eq rfl
  | clearSink =>
    simp only [handle, clearSink]
    split
    · exact adds_note rfl
    · exact adds_of_eq rfl
  | resolve ch =>
    simp only [handle]
    split <;> exact adds_of_eq rfl
  | resolved => exact adds_of_eq rfl
  | logChannel ch | logWorker | logConnection c =>
    simp only [handle]
    split
    · exact adds_log t
    · exact adds_of_eq rfl
  | logRequest r =>
    simp only [handle]
    split
    · exact adds_of_eq rfl
    · exact adds_of_eq rfl
    · exact adds_log t
  | logged =>
    simp only [handle]
    split <;> exact adds_of_eq rfl

end HttpConnector

end Http
