import TTSignal.Http.Channels
import Mathlib.Logic.Relation

/-!
# What the events of a channel change

As long as a channel is neither adopted nor closed, its events change connections and channels
in place, each by a few kinds of updates. What every update keeps, or how it relates one
connector to the next, is then kept by all of these events.
-/

namespace Http

open Tcp (BCResult)

/-- The data of a channel, or a line of the log, is recorded. -/
def Action.Heard : Action → Prop
  | .parkedData _ | .received _ _ | .onLog => True
  | _ => False

/-- Events that change connections and channels in place. -/
def Event.InPlace : Event → Prop
  | .ready _ _ | .data _ _ | .timer _ | .fails _ | .resolve _ | .resolved | .logChannel _
  | .logWorker | .logConnection _ | .logRequest _ | .logged => True
  | _ => False

/-- The data of a channel may complete a response. -/
def Event.Delivers : Event → Prop
  | .data _ _ => True
  | _ => False

namespace HttpConnector

variable {d : Prop} {s s' s'' : HttpConnector}

/-- One update; a connection delivers only if that is allowed. -/
inductive Update (d : Prop) (s : HttpConnector) : HttpConnector → Prop where
  /-- A channel changes; it keeps its handler, and keeps being parked and open. -/
  | channel (ch : ChannelId) (x : Channel) (hhandler : x.handler = (s.channel ch).handler)
      (hparked : x.parked = (s.channel ch).parked)
      (hpoisoned : (s.channel ch).poisoned = true → x.poisoned = true)
      (hopen : (s.channel ch).Open → x.Open) : Update d s (s.setChannel ch x)
  /-- A connection changes in what it has read, or fails. -/
  | connection (c : ConnectionId) (x : HttpConnection)
      (hrequest : x.request = (s.connection c).request)
      (hdelivered : x.delivered = (s.connection c).delivered)
      (hhandler : x.handler = (s.connection c).handler)
      (hchannel : x.channel = (s.connection c).channel) : Update d s (s.setConnection c x)
  /-- A connection delivers. -/
  | deliverOnce (hd : d) (c : ConnectionId) (ch : ChannelId) (t : Thread) (closeResult : BCResult)
      (finishes : Bool) (next : Next) :
      Update d s (s.deliverOnce c ch t closeResult finishes next)
  /-- Data, or a line of the log, is recorded. -/
  | note (a : Action) (ha : a.Heard) : Update d s (s.note a)
  /-- The lock of the log sink is taken or given back. -/
  | logging (u : Option Thread) : Update d s { s with logging := u }
  /-- The workers that resolve names change. -/
  | dnsWorkers (n : ℕ) : Update d s { s with dnsWorkers := n }

/-- Any number of updates. -/
def Updates (d : Prop) : HttpConnector → HttpConnector → Prop := Relation.ReflTransGen (Update d)

/-- Nothing happens. -/
theorem Updates.refl (s : HttpConnector) : Updates d s s := Relation.ReflTransGen.refl

/-- One update is a sequence of them. -/
theorem Update.updates (h : Update d s s') : Updates d s s' := Relation.ReflTransGen.single h

/-- Two sequences are one. -/
theorem Updates.trans (h : Updates d s s') (h' : Updates d s' s'') : Updates d s s'' :=
  Relation.ReflTransGen.trans h h'

/-- A relation that holds across each update holds across any number of them. -/
theorem Updates.within {R : HttpConnector → HttpConnector → Prop} (h : Updates d s s')
    (hrefl : R s s) (htrans : ∀ {x y}, R s x → R x y → R s y)
    (hone : ∀ {x y}, Update d x y → R x y) : R s s' := by
  induction h with
  | refl => exact hrefl
  | tail _ hupdate ih => exact htrans ih (hone hupdate)

/-- What every update keeps is kept by any number of them. -/
theorem Updates.keeps {P : HttpConnector → Prop} (h : Updates d s s')
    (hone : ∀ {x y}, Update d x y → P x → P y) (hs : P s) : P s' :=
  h.within (R := fun x y => P x → P y) id (fun hx hy hs => hy (hx hs)) hone hs

/-- What happens without a delivery may happen where one is allowed. -/
theorem Updates.mono (h : Updates False s s') : Updates d s s' := by
  refine h.within (.refl s) Updates.trans fun hupdate => Update.updates ?_
  cases hupdate with
  | channel ch x hhandler hparked hpoisoned hopen =>
    exact .channel ch x hhandler hparked hpoisoned hopen
  | connection c x hrequest hdelivered hhandler hchannel =>
    exact .connection c x hrequest hdelivered hhandler hchannel
  | deliverOnce hd => exact hd.elim
  | note a ha => exact .note a ha
  | logging u => exact .logging u
  | dnsWorkers n => exact .dnsWorkers n

/-! ### Connections -/

/-- A channel is asked to close. -/
theorem updates_closeChannel (ch : ChannelId) : Updates False s (s.closeChannel ch) := by
  obtain ⟨hhandler, hstate, hparked, hpoisoned, -⟩ := close_eq (s.channel ch)
  have hopen : (s.channel ch).Open → (s.channel ch).close.Open := by
    unfold Channel.Open
    rw [hstate]
    exact id
  exact Update.updates (.channel ch _ hhandler hparked (fun h => hpoisoned.trans h) hopen)

/-- `Cancel`. -/
theorem updates_cancel (c : ConnectionId) : Updates False s (s.cancel c) := by
  unfold HttpConnector.cancel
  split
  · exact .refl s
  · exact updates_closeChannel _

/-- `HttpConnection::_Fail`. -/
theorem updates_failConnection (c : ConnectionId) (result : BCResult) :
    Updates False s (s.failConnection c result) := by
  have hset : Updates False s (s.setFailResult c result) :=
    Update.updates (.connection c _ rfl rfl rfl rfl)
  exact hset.trans (updates_cancel c)

/-- `HttpConnection::OnChannelReady`. -/
theorem updates_onChannelReady (c : ConnectionId) (failure : Option BCResult) :
    Updates False s (s.onChannelReady c failure) := by
  cases failure with
  | none => exact .refl s
  | some result => exact updates_failConnection c result

/-- A channel's thread is in the code of a connection, or has left it. -/
theorem updates_setInside (ch : ChannelId) (c : Option ConnectionId) :
    Updates False s (s.setInside ch c) :=
  Update.updates (.channel ch _ rfl rfl id id)

/-- `OnChannelData` when the response is complete. -/
theorem updates_onMessageDone (hd : d) (c : ConnectionId) (ch : ChannelId) (t : Thread) :
    Updates d s (s.onMessageDone c ch t) := by
  unfold HttpConnector.onMessageDone
  split
  · exact (updates_setInside ch (some c)).mono.trans
      (Update.updates (.deliverOnce hd c ch t .success false .park))
  · exact (updates_cancel c).mono

/-- `HttpConnection::OnChannelData`. -/
theorem updates_onChannelData (hd : d) (c : ConnectionId) (ch : ChannelId) (t : Thread)
    (parsed : Parsed) : Updates d s (s.onChannelData c ch t parsed) := by
  unfold HttpConnector.onChannelData
  split
  · exact .refl s
  split
  · exact updates_onMessageDone hd c ch t
  cases parsed with
  | more => exact .refl s
  | complete keepAlive =>
    have hread : Updates d s (s.setConnection c
        { s.connection c with messageDone := true, keepAlive := keepAlive }) :=
      Update.updates (.connection c _ rfl rfl rfl rfl)
    exact hread.trans (updates_onMessageDone hd c ch t)
  | failed result => exact (updates_failConnection c result).mono

/-! ### Channels -/

/-- A channel becomes ready. -/
theorem updates_onReady (ch : ChannelId) (failure : Option BCResult) :
    Updates False s (s.onReady ch failure) := by
  have hready : Updates False s (s.setChannel ch { s.channel ch with state := .ready }) :=
    Update.updates (.channel ch _ rfl rfl id fun _ => .inr (.inl rfl))
  unfold HttpConnector.onReady
  split
  · split
    · exact hready.trans (updates_onChannelReady _ failure)
    · exact hready
  · exact .refl s

/-- `TcpChannel::OnRecvDataFromSSL`. -/
theorem updates_onRecvData (hd : d) (ch : ChannelId) (t : Thread) (parsed : Parsed) :
    Updates d s (s.onRecvData ch t parsed) := by
  unfold HttpConnector.onRecvData
  split
  case isFalse => exact .refl s
  split
  · have hpoisoned : Updates d s (s.setChannel ch { s.channel ch with poisoned := true }) :=
      Update.updates (.channel ch _ rfl rfl (fun _ => rfl) id)
    exact hpoisoned.trans (Update.updates (.note (.parkedData ch) trivial))
  split
  · rename_i c hhandler
    split
    · exact .refl s
    · have hnoted : Updates d s (s.note (.received ch c)) :=
        Update.updates (.note (.received ch c) trivial)
      exact hnoted.trans (updates_onChannelData hd c ch t parsed)
  · exact .refl s

/-- The response timer. -/
theorem updates_onTimer (ch : ChannelId) : Updates False s (s.onTimer ch) := by
  unfold HttpConnector.onTimer
  split
  · split
    · exact updates_failConnection _ timedOut
    · exact .refl s
  · exact .refl s

/-- `TcpChannel::_Fail`. -/
theorem updates_onFail (ch : ChannelId) : Updates False s (s.onFail ch) := by
  unfold HttpConnector.onFail
  split
  · exact Update.updates (.channel ch _ rfl rfl id fun _ => .inr (.inr rfl))
  · exact .refl s

/-- `OnLog` is called. -/
theorem updates_log (t : Thread) : Updates False s (s.log t) := by
  unfold HttpConnector.log
  split
  · have htaken : Updates False s { s with logging := some t } := Update.updates (.logging (some t))
    exact htaken.trans (Update.updates (.note .onLog trivial))
  · exact .refl s

/-- Every event of this kind is a sequence of updates. -/
theorem updates_handle (t : Thread) {e : Event} (he : e.InPlace) :
    Updates e.Delivers s (s.handle t e) := by
  cases e with
  | ready ch failure => exact updates_onReady ch failure
  | data ch parsed => exact updates_onRecvData trivial ch t parsed
  | timer ch => exact updates_onTimer ch
  | fails ch => exact updates_onFail ch
  | call _ | proceed _ _ | adopt _ _ | closed _ _ _ | resume _ _ | work _ | close | destroy
  | endWait | endAbandon | clearSink => exact absurd he id
  | resolve ch =>
    simp only [HttpConnector.handle]
    split
    · exact Update.updates (.dnsWorkers _)
    · exact .refl s
  | resolved => exact Update.updates (.dnsWorkers _)
  | logChannel ch | logWorker | logConnection c =>
    simp only [HttpConnector.handle]
    split
    · exact updates_log t
    · exact .refl s
  | logRequest r =>
    simp only [HttpConnector.handle]
    split
    · exact .refl s
    · exact .refl s
    · exact updates_log t
  | logged =>
    simp only [HttpConnector.handle]
    split
    · exact Update.updates (.logging none)
    · exact .refl s

end HttpConnector

end Http
