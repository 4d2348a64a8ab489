import TTSignal.Http.Updates

/-!
# What every step changes

What a step does to the channels, to the pool and to the sets of connections is a sequence of a
few changes, each with the circumstances in which it is made; everything else is beside. How a
step relates these parts of two connectors is then a matter of the changes alone.
-/

namespace Http

open Tcp (BCResult)

namespace HttpConnector

variable {p q : Prop} {s s' s'' : HttpConnector}

/-- The channels, the pool, the sets of connections and the flags for the end. -/
def surface (s : HttpConnector) :=
  (s.channel, s.nextChannel, s.idle, s.maxIdlePerKey, s.nextPooled, s.pooled, s.closing,
    s.abandoned, s.conns, s.destroying, s.closedNotified)

/-- The connection `c` is destroyed later. -/
def leave (s : HttpConnector) (c : ConnectionId) : HttpConnector :=
  { s with
    conns := s.conns.erase c
    destroying := if c ∈ s.conns then insert c s.destroying else s.destroying }

/-- One change; the pool changes only under `p`, and the connector ends only under `q`. -/
inductive Change (p q : Prop) (s : HttpConnector) : HttpConnector → Prop where
  /-- Anything beside. -/
  | beside (s' : HttpConnector) (h : s'.surface = s.surface) : Change p q s s'
  /-- A channel changes and gets no pooled channel for its handler; data that arrived while it
  was parked is not forgotten. -/
  | channel (ch : ChannelId) (x : Channel)
      (hhandler : ∀ i, x.handler = some (.pooled i) → (s.channel ch).handler = some (.pooled i))
      (htainted : (s.channel ch).parked = true → (s.channel ch).poisoned = true →
        x.parked = true ∧ x.poisoned = true) : Change p q s (s.setChannel ch x)
  /-- A pooled channel changes and keeps its key. -/
  | pooled (i : PooledId) (x : PooledChannel) (hkey : x.key = (s.pooled i).key) :
      Change p q s (s.setPooled i x)
  /-- A channel is made. -/
  | newChannel (owner : ConnectionId) : Change p q s (s.newChannel owner)
  /-- A connection is made before the connector is closing. -/
  | newConnection (hclosing : s.closing = false) (r : RequestId) (ch : ChannelId) :
      Change p q s (s.newConnection r ch)
  /-- A connection is forgotten. -/
  | forget (c : ConnectionId) : Change p q s (s.forget c)
  /-- A connection leaves. -/
  | leave (c : ConnectionId) : Change p q s (s.leave c)
  /-- The end of a drained connector is told. -/
  | notified (hclosing : s.closing = true) (hkept : s.abandoned = false)
      (hdrained : s.AllDrained) : Change p q s { s with closedNotified := true }
  /-- A channel is parked. -/
  | park (hp : p) (ch : ChannelId) (key : String) (stage : PooledStage) :
      Change p q s (s.park ch key stage)
  /-- The map of idle channels changes. -/
  | idle (hp : p) (idle : List (String × PooledId)) (n : ℕ) :
      Change p q s { s with idle := idle, idleDestroying := n }
  /-- `Close`. -/
  | closeAll (hq : q) : Change p q s s.closeAll
  /-- The destructor gives up waiting. -/
  | abandon (hq : q) (t : Thread) : Change p q s (s.abandon t)

/-- Any number of changes. -/
def Changes (p q : Prop) : HttpConnector → HttpConnector → Prop :=
  Relation.ReflTransGen (Change p q)

/-- Nothing happens. -/
theorem Changes.refl (s : HttpConnector) : Changes p q s s := Relation.ReflTransGen.refl

/-- One change is a sequence of them. -/
theorem Change.changes (h : Change p q s s') : Changes p q s s' := Relation.ReflTransGen.single h

/-- Two sequences are one. -/
theorem Changes.trans (h : Changes p q s s') (h' : Changes p q s' s'') : Changes p q s s'' :=
  Relation.ReflTransGen.trans h h'

/-- A relation that holds across each change holds across any number of them. -/
theorem Changes.within {R : HttpConnector → HttpConnector → Prop} (h : Changes p q s s')
    (hrefl : R s s) (htrans : ∀ {x y}, R s x → R x y → R s y)
    (hone : ∀ {x y}, Change p q x y → R x y) : R s s' := by
  induction h with
  | refl => exact hrefl
  | tail _ hchange ih => exact htrans ih (hone hchange)

/-- Only something beside happens. -/
theorem changes_of_eq (h : s'.surface = s.surface) : Changes p q s s' :=
  Change.changes (.beside s' h)

/-- Something beside happens afterwards. -/
theorem Changes.then {x : HttpConnector} (h : Changes p q s x) (heq : s'.surface = x.surface) :
    Changes p q s s' :=
  h.trans (changes_of_eq heq)

/-- Something beside has happened before. -/
theorem Changes.after {x : HttpConnector} (h : Changes p q x s') (heq : x.surface = s.surface) :
    Changes p q s s' :=
  (changes_of_eq heq).trans h

/-- `_DeliverOnce` is beside. -/
theorem changes_deliverOnce (c : ConnectionId) (ch : ChannelId) (t : Thread)
    (closeResult : BCResult) (finishes : Bool) (next : Next) :
    Changes p q s (s.deliverOnce c ch t closeResult finishes next) := by
  obtain ⟨x, a, n, guards, -, -, -, -, heq⟩ := s.deliverOnce_eq c ch t closeResult finishes next
  rw [heq]
  exact changes_of_eq rfl

/-- Updates in place are changes. -/
theorem Updates.changes {d : Prop} (h : Updates d s s') : Changes p q s s' := by
  refine h.within (.refl s) Changes.trans fun hupdate => ?_
  cases hupdate with
  | channel ch x hhandler hparked hpoisoned =>
    exact Change.changes (.channel ch x (fun _ hi => hhandler.symm.trans hi) fun hold htainted =>
      ⟨hparked.trans hold, hpoisoned htainted⟩)
  | connection | note | logging | dnsWorkers => exact changes_of_eq rfl
  | deliverOnce _ c ch t closeResult finishes next =>
    exact changes_deliverOnce c ch t closeResult finishes next

/-! ### Channels -/

/-- A channel changes and keeps its handler, and keeps being parked. -/
theorem changes_setChannel (ch : ChannelId) {x : Channel}
    (hhandler : x.handler = (s.channel ch).handler) (hparked : x.parked = (s.channel ch).parked)
    (hpoisoned : x.poisoned = (s.channel ch).poisoned) : Changes p q s (s.setChannel ch x) :=
  Change.changes (.channel ch x (fun _ hi => hhandler.symm.trans hi) fun hold htainted =>
    ⟨hparked.trans hold, hpoisoned.trans htainted⟩)

/-- A channel is opened for a connection. -/
theorem changes_opened (ch : ChannelId) (c : ConnectionId) : Changes p q s (s.opened ch c) :=
  Change.changes (.channel ch _ (fun _ hi => by cases hi) fun hold htainted => ⟨hold, htainted⟩)

/-- `PooledChannel::Release`. -/
theorem changes_release (i : PooledId) : Changes p q s (s.release i) := by
  have hset : Changes p q s (s.setPooled i { s.pooled i with held := false }) :=
    Change.changes (.pooled i _ rfl)
  unfold HttpConnector.release
  cases (s.pooled i).pending <;> exact hset.then rfl

/-- `PooledChannel::OnChannelDetached`. -/
theorem changes_onPooledDetached (i : PooledId) : Changes p q s (s.onPooledDetached i) := by
  have hset : Changes p q s (s.setPooled i { s.pooled i with pending := .detached }) :=
    Change.changes (.pooled i _ rfl)
  unfold HttpConnector.onPooledDetached
  split
  · exact hset.then rfl
  · exact changes_of_eq rfl

/-- `PooledChannel::OnChannelClosed`. -/
theorem changes_onPooledClosed (hp : p) (i : PooledId) : Changes p q s (s.onPooledClosed i) := by
  have hidle : Changes p q s
      { s with
        idle := s.idle.erase ((s.pooled i).key, i)
        idleDestroying := s.idleDestroying + 1 } := Change.changes (.idle hp _ _)
  have hset (x : HttpConnector) (hx : x.pooled = s.pooled) :
      Changes p q x (x.setPooled i { s.pooled i with pending := .closed }) :=
    Change.changes (.pooled i _ (by rw [hx]))
  unfold HttpConnector.onPooledClosed
  split
  · exact (hidle.trans (hset _ rfl)).then rfl
  · exact hidle.then rfl

/-- The task of `TcpChannel::Adopt`. -/
theorem changes_onAdopt (ch : ChannelId) (failure : Option BCResult) :
    Changes p q s (s.onAdopt ch failure) := by
  unfold HttpConnector.onAdopt
  split
  · exact .refl s
  rename_i c rest hadopts
  split
  · exact .refl s
  split
  · rename_i husable
    have hset : Changes p q s (s.setChannel ch
        { s.channel ch with
          adopts := rest
          parked := false
          handler := some (.connection c) }) :=
      Change.changes (.channel ch _ (fun _ hi => by cases hi) fun _ htainted => by
        rw [husable.2.1] at htainted
        cases htainted)
    have hadopted : Changes p q s (s.adopted ch c rest) := hset.then rfl
    unfold HttpConnector.takeOver
    split
    · exact (hadopted.trans (changes_onPooledDetached _)).trans
        (updates_onChannelReady c failure).changes
    · exact hadopted.trans (updates_onChannelReady c failure).changes
  · have hposted : Changes p q s
        (s.setChannel ch { s.channel ch with adopts := rest, closes := true }) :=
      changes_setChannel ch rfl rfl rfl
    have hmade := hposted.trans (Change.changes (.newChannel c))
    have hgiven : Changes p q s ((((s.setChannel ch
        { s.channel ch with adopts := rest, closes := true }).newChannel c).setConnection c
          { s.connection c with channel := some s.nextChannel }).setActivity c
            (.openFresh ch s.closing)) := hmade.then rfl
    exact hgiven.trans (updates_setInside ch (some c)).changes

/-- A channel has closed; the pool is told if it is pooled. -/
theorem changes_onClosed (ch : ChannelId) (t : Thread) (result : BCResult) (finishes : Bool)
    (hp : (s.channel ch).inside = none ∧ (s.channel ch).state = .closing ∧
      (s.channel ch).adopts = [] → ∀ i, (s.channel ch).handler = some (.pooled i) → p) :
    Changes p q s (s.onClosed ch t result finishes) := by
  have hclosed : Changes p q s (s.setChannel ch { s.channel ch with state := .closed }) :=
    changes_setChannel ch rfl rfl rfl
  unfold HttpConnector.onClosed
  split
  · rename_i hnow
    split
    · rename_i c _
      exact (hclosed.trans (updates_setInside ch (some c)).changes).trans
        (changes_deliverOnce c ch t result finishes .detach)
    · rename_i i hi
      exact hclosed.trans (changes_onPooledClosed (hp hnow i hi) i)
    · exact hclosed
  · exact .refl s

/-! ### Connections -/

/-- `OnChannelAdoptFailed` goes on with its new channel. -/
theorem changes_openFresh (c : ConnectionId) (ch : ChannelId) (closing : Bool) (t : Thread)
    (result : BCResult) : Changes p q s (s.openFresh c ch closing t result) := by
  unfold HttpConnector.openFresh
  split
  · exact (changes_deliverOnce c ch t shuttingDown false .detach).after rfl
  split
  · exact (changes_deliverOnce c ch t result false .detach).after rfl
  split
  · exact .refl s
  · rename_i fresh _
    have hleft : Changes p q s ((s.opened fresh c).setActivity c .idle) :=
      (changes_opened fresh c).then rfl
    exact (hleft.trans (updates_setInside ch none).changes).then rfl

/-- `_FinishAndReturnChannelToPool`. -/
theorem changes_returnToPool (hp : p) (c : ConnectionId) (ch : ChannelId) :
    Changes p q s (s.returnToPool c ch) := by
  have hpark (stage : PooledStage) : Changes p q s (s.park ch (s.connection c).poolKey stage) :=
    Change.changes (.park hp ch _ stage)
  unfold HttpConnector.returnToPool
  split
  · have hfiled := (hpark .pooled).trans (Change.changes
      (.idle hp (s.idle ++ [((s.connection c).poolKey, s.nextPooled)]) s.idleDestroying))
    exact hfiled.then rfl
  · exact ((hpark .loose).trans (updates_closeChannel ch).changes).then rfl

/-- `_DetachAndScheduleDestroy`. -/
theorem changes_detachAndScheduleDestroy (c : ConnectionId) (ch : ChannelId) :
    Changes p q s (s.detachAndScheduleDestroy c ch) := by
  have hleft : Changes p q s (((s.leave c).setStage c .condemned).setActivity c .idle) :=
    (Change.changes (.leave c)).then rfl
  exact (hleft.trans (updates_setInside ch none).changes).then rfl

/-- A channel's thread goes on in a connection; it may park the channel. -/
theorem changes_resume (c : ConnectionId) (t : Thread) (result : BCResult)
    (hp : ∀ ch, s.activity c = .park ch → p) : Changes p q s (s.resume c t result) := by
  unfold HttpConnector.resume
  split
  · exact .refl s
  · split <;> exact changes_of_eq rfl
  · split <;> exact changes_of_eq rfl
  · rename_i ch hactivity
    exact changes_returnToPool (hp ch hactivity) c ch
  · exact changes_detachAndScheduleDestroy c _
  · exact changes_openFresh c _ _ t result

/-! ### The end of the connector -/

/-- What follows a possible call of `OnClosed` is beside. -/
theorem changes_goOn (k : Cont) : Changes p q s (s.goOn k) := by
  cases k with
  | done => exact .refl s
  | request r k => cases k <;> exact changes_of_eq rfl
  | destructor =>
    simp only [HttpConnector.goOn]
    split <;> exact changes_of_eq rfl

/-- The connector tells its end only when it must. -/
theorem changes_mustNotify (hmust : s.MustNotify) :
    Changes p q s { s with closedNotified := true } := by
  obtain ⟨hkept, hclosing, -, hdrained, -⟩ := hmust
  exact Change.changes (.notified hclosing hkept hdrained)

/-- A notice, or what goes on instead. -/
theorem changes_notifyOr (t : Thread) (k : Cont) : Changes p q s (s.notifyOr t k) := by
  unfold HttpConnector.notifyOr
  split
  · rename_i hmust
    exact (changes_mustNotify hmust).then rfl
  · exact changes_goOn k

/-- `_NotifyClosedIfDrained`. -/
theorem changes_notifyClosedIfDrained (t : Thread) (k : Cont) :
    Changes p q s (s.notifyClosedIfDrained t k) := by
  unfold HttpConnector.notifyClosedIfDrained
  split
  · exact changes_goOn k
  rename_i hfirst
  rw [not_or, not_or] at hfirst
  split
  · exact changes_goOn k
  rename_i hdrained
  have hnotified : Changes p q s { s with closedNotified := true } :=
    Change.changes (.notified (by simpa using hfirst.2.1) (by simpa using hfirst.1)
      (not_not.mp hdrained))
  split
  · exact hnotified.trans (changes_goOn k)
  · exact hnotified.then rfl

/-! ### `Request` -/

/-- A connection is made with a channel of its own. -/
theorem changes_newFreshConnection (hclosing : s.closing = false) (r : RequestId) :
    Changes p q s (s.newFreshConnection r) :=
  (Change.changes (.newChannel s.nextConnection)).trans
    (Change.newConnection (s := s.newChannel s.nextConnection) hclosing r s.nextChannel).changes

/-- `_DetachAndArmClosed` in `Request`. -/
theorem changes_proceedDetach (r : RequestId) (c : ConnectionId) (k : After) (t : Thread) :
    Changes p q s (s.proceedDetach r c k t) := by
  have hforgotten : Changes p q s (s.forget c) := Change.changes (.forget c)
  unfold HttpConnector.proceedDetach HttpConnector.armClosed
  split
  · rename_i hmust
    exact (hforgotten.trans (changes_mustNotify hmust)).then rfl
  · exact hforgotten.then rfl

/-- The section that makes the connection. -/
theorem changes_proceedInsert (r : RequestId) (borrowed : Option PooledId) :
    Changes p q s (s.proceedInsert r borrowed) := by
  cases borrowed with
  | none =>
    rw [HttpConnector.proceedInsert]
    split
    · exact changes_of_eq rfl
    · rename_i hclosing
      exact (changes_newFreshConnection (by simpa using hclosing) r).then rfl
  | some i =>
    rw [HttpConnector.proceedInsert]
    split
    · exact ((updates_closeChannel _).changes.trans (changes_release i)).then rfl
    · rename_i hclosing
      have hmade : Changes p q s (s.newConnection r (s.pooled i).channel) :=
        Change.changes (.newConnection (by simpa using hclosing) r _)
      exact hmade.then rfl

/-- `Start`, with the result of `Open`. -/
theorem changes_startFresh (r : RequestId) (c : ConnectionId) (result : BCResult) :
    Changes p q s (s.startFresh r c result) := by
  unfold HttpConnector.startFresh
  split
  · exact .refl s
  · split
    · exact (changes_opened _ c).then rfl
    · exact changes_of_eq rfl

/-- `_AcquirePendingTask` and `PostTask` in `Adopt`. -/
theorem changes_proceedAcquire (r : RequestId) (c : ConnectionId) (i : PooledId) :
    Changes p q s (s.proceedAcquire r c i) := by
  unfold HttpConnector.proceedAcquire
  split
  · exact .refl s
  rename_i ch _
  split
  · exact changes_of_eq rfl
  · have hposted : Changes p q s
        (s.setChannel ch { s.channel ch with adopts := (s.channel ch).adopts ++ [c] }) :=
      changes_setChannel ch rfl rfl rfl
    exact hposted.then rfl

/-- `_TakeFromPool`. -/
theorem changes_proceedTake (hp : s.maxIdlePerKey ≠ 0 → p) (r : RequestId) :
    Changes p q s (s.proceedTake r) := by
  unfold HttpConnector.proceedTake
  split
  · exact changes_of_eq rfl
  rename_i hmax
  split
  · exact changes_of_eq rfl
  · rename_i i _
    have hidle : Changes p q s
        { s with
          idle := s.idle.erase ((s.pooled i).key, i)
          idleDestroying := s.idleDestroying } := Change.changes (.idle (hp hmax) _ _)
    have hset (x : HttpConnector) (hx : x.pooled = s.pooled) :
        Changes p q x (x.setPooled i { s.pooled i with held := true }) :=
      Change.changes (.pooled i _ (by rw [hx]))
    exact (hidle.trans (hset _ rfl)).then rfl

/-- A call of `Request` goes on; it may take a channel out of the pool. -/
theorem changes_proceed (r : RequestId) (t : Thread) (result : BCResult)
    (hp : (s.request r).phase = .take → s.maxIdlePerKey ≠ 0 → p) :
    Changes p q s (s.proceed r t result) := by
  unfold HttpConnector.proceed
  split
  · exact .refl s
  · exact .refl s
  · exact .refl s
  · rename_i hphase
    exact changes_proceedTake (hp hphase) r
  · exact changes_proceedInsert r _
  · exact changes_startFresh r _ result
  · unfold HttpConnector.startReused
    split
    · exact .refl s
    split <;> exact changes_of_eq rfl
  · exact changes_proceedAcquire r _ _
  · exact (changes_release _).then rfl
  · exact changes_proceedDetach r _ _ t
  · exact ((updates_closeChannel _).changes.trans (changes_release _)).then rfl
  · exact changes_proceedInsert r none
  · split
    · exact (updates_cancel _).changes.then rfl
    · exact changes_of_eq rfl

/-! ### Posted tasks and all events -/

/-- `~HttpConnection` is beside. -/
theorem changes_deleteConnection (c : ConnectionId) : Changes p q s (s.deleteConnection c) := by
  unfold HttpConnector.deleteConnection
  split <;> exact changes_of_eq rfl

/-- Something posted or begun is done. -/
theorem changes_doWork (t : Thread) (w : Work) : Changes p q s (s.doWork t w) := by
  cases w with
  | deleteConnection c => exact (changes_deleteConnection c).then rfl
  | finishDestroy c =>
    have hgone : Changes p q s ((s.forget c).setStage c .gone) :=
      (Change.changes (.forget c)).then rfl
    exact hgone.trans (changes_notifyOr t .done)
  | deleteClosed i | deleteDetached i => exact changes_of_eq rfl
  | finishIdle i => exact (changes_notifyOr t .done).after rfl
  | recheck c =>
    rw [HttpConnector.doWork]
    split
    · exact (updates_cancel c).changes
    · exact .refl s
  | notifyClosed k => exact changes_notifyClosedIfDrained t k
  | drop c armed k =>
    have hdeleted : Changes p q s ((s.deleteConnection c).setStage c .discarded) :=
      (changes_deleteConnection c).then rfl
    cases armed with
    | none => exact hdeleted.trans (changes_goOn k)
    | some t' => exact hdeleted.then rfl
  | onClosed t' k => exact changes_of_eq rfl
  | inOnClosed t' k => exact (changes_goOn k).after rfl

/-- Every event is a sequence of changes. -/
theorem changes_handle (t : Thread) {e : Event}
    (htake : ∀ r result, e = .proceed r result → (s.request r).phase = .take →
      s.maxIdlePerKey ≠ 0 → p)
    (hclosed : ∀ ch result finishes, e = .closed ch result finishes →
      (s.channel ch).inside = none ∧ (s.channel ch).state = .closing ∧
        (s.channel ch).adopts = [] → ∀ i, (s.channel ch).handler = some (.pooled i) → p)
    (hpark : ∀ c result, e = .resume c result → ∀ ch, s.activity c = .park ch → p)
    (hend : e = .close ∨ e = .destroy ∨ e = .endWait → q) : Changes p q s (s.handle t e) := by
  cases e with
  | call args =>
    simp only [HttpConnector.handle, HttpConnector.call]
    split
    · split <;> exact changes_of_eq rfl
    · exact .refl s
  | proceed r result => exact changes_proceed r t result (htake r result rfl)
  | adopt ch failure => exact changes_onAdopt ch failure
  | closed ch result finishes =>
    exact changes_onClosed ch t result finishes (hclosed ch result finishes rfl)
  | resume c result => exact changes_resume c t result (hpark c result rfl)
  | work w =>
    simp only [HttpConnector.handle]
    split
    · exact (changes_doWork t w).after rfl
    · exact .refl s
  | close =>
    simp only [HttpConnector.handle]
    split
    · exact (Change.changes (.closeAll (hend (.inl rfl)))).then rfl
    · exact .refl s
  | destroy =>
    simp only [HttpConnector.handle, HttpConnector.destroy]
    split
    · have hset : Changes p q s { s with destructor := .closing t } := changes_of_eq rfl
      have hclosing := hset.trans (Change.changes (.closeAll (hend (.inr (.inl rfl)))))
      exact hclosing.then rfl
    · exact .refl s
  | endWait =>
    simp only [HttpConnector.handle, HttpConnector.endWait]
    split
    · split
      · exact changes_of_eq rfl
      · exact Change.changes (.abandon (hend (.inr (.inr rfl))) t)
    · exact .refl s
  | endAbandon =>
    simp only [HttpConnector.handle, HttpConnector.endAbandon]
    split <;> exact changes_of_eq rfl
  | clearSink =>
    simp only [HttpConnector.handle, HttpConnector.clearSink]
    split <;> exact changes_of_eq rfl
  | _ => exact Updates.changes (updates_handle t trivial)

end HttpConnector

end Http
