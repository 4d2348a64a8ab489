import Mathlib.Logic.Function.Basic
import TTSignal.Runs
import TTSignal.Traces
import TTSignal.Ws.Connection

/-!
# The end of a WebSocket conversation

The thread of the channel handles the frames of one read after the other, while other threads
send, close and take the handler away. Here every thread takes one atomic step at a time: it
loads or exchanges an atomic field, or does what stands under the lock of the connector. What
a thread has still to do is a list of tasks; thread 0 is the thread of the channel. Calls that
the application makes in a callback can be made by another thread in the meantime.

At most one close frame is handed to the channel. A close frame of the peer makes the thread
of the channel ask for the end of the channel before it delivers anything else. Until the
channel has ended, frames may still be delivered and sent.
-/

namespace WS

open Runs Traces

/-- What a thread has still to do. -/
inductive Task where
  /-- `OnRecvWSFrame` with the next frame of a read. -/
  | frame (f : Frame)
  /-- The handlers of `_FeedFrames`. -/
  | thrown (e : Thrown)
  /-- The handler is taken under the lock. -/
  | deliver (c : Callback)
  /-- The handler is called. -/
  | start (c : Callback)
  /-- The response is accepted. -/
  | accept (headers : HttpHeaderMap)
  /-- `_SendFrame`. -/
  | sendFrame (opcode : UInt8) (payload : List UInt8)
  /-- `_SendRawFrame`. -/
  | sendRawFrame (opcode : UInt8) (payload : List UInt8)
  /-- The exchange of `close_frame_sent_`. -/
  | sendCloseFrame (code : UInt16)
  /-- The rest of `_SendCloseFrame`. -/
  | sendCloseRest (code : UInt16)
  /-- The test of `upgraded_` in `Close`. -/
  | close
  /-- `channel_->Close()`, if there is a channel. -/
  | closeChannel
  /-- The channel is released by `OnChannelClosed`. -/
  | release

/-- What can be observed. -/
inductive Mark where
  /-- A close frame of the peer is handled. -/
  | peerClosed
  /-- A callback starts. -/
  | started (c : Callback)
  /-- A frame is handed to the channel. -/
  | handed (opcode : UInt8)
  /-- `channel_->Close()` is called. -/
  | closing
  /-- The channel is released. -/
  | released
  deriving DecidableEq

/-- The frames of a read, up to what `ParseWSFrame` throws. -/
structure Read where
  /-- The frames. -/
  frames : List Frame
  /-- What is thrown behind them. -/
  thrown : Option Thrown

/-- What the channel calls back with. -/
inductive Arrival where
  /-- A response is accepted, and the rest of the read has frames. -/
  | response (headers : HttpHeaderMap) (r : Read)
  /-- A response is refused, or a timer of the handshake fires. -/
  | failure
  /-- `_FeedFrames`. -/
  | data (r : Read)
  /-- `_OnActiveCheck` finds the connection idle. -/
  | idle
  /-- `_OnActiveCheck` sends a ping. -/
  | ping (now : ℕ)
  /-- `OnChannelClosed`. -/
  | closed (result : BCRESULT) (headers : HttpHeaderMap) (text : String)

/-- The calls of other threads. -/
inductive Call where
  | sendText (text : List UInt8)
  | sendData (data : List UInt8)
  | sendPacket (data : List UInt8)
  | sendPing (now : ℕ)
  | close
  /-- `_CancelLocked` on a channel that has been opened. -/
  | cancel

/-- What a call has to do. -/
def Call.task : Call → Task
  | .sendText text => .sendFrame wsOpText text
  | .sendData data => .sendFrame wsOpBinary data
  | .sendPacket data => .sendFrame wsOpBinary data
  | .sendPing now => .sendFrame wsOpPing (Bytes.beBytes 8 now)
  | .close => .close
  | .cancel => .closeChannel

/-- What a read has to do. -/
def Read.tasks (r : Read) : List Task :=
  r.frames.map .frame ++
    match r.thrown with
    | none => []
    | some e => [.thrown e]

/-- A connection in the hands of its threads. -/
structure Conversation where
  /-- `channel_` is not null. -/
  channel : Bool := true
  /-- `handler_` is not null. -/
  handler : Bool
  /-- `upgraded_`. -/
  upgraded : Bool := false
  /-- `delivered_`. -/
  delivered : Bool := false
  /-- `close_frame_sent_`. -/
  closeFrameSent : Bool := false
  /-- `peer_closed_frame_`. -/
  peerClosedFrame : Bool := false
  /-- What each thread has still to do. -/
  tasks : ℕ → List Task := fun _ => []
  /-- What has happened, in order. -/
  trace : List Mark := []

/-- What happens next. -/
inductive Turn where
  /-- The channel calls back. -/
  | arrive (a : Arrival)
  /-- Another thread makes a call. -/
  | call (i : ℕ) (c : Call)
  /-- A thread takes a step. -/
  | perform (i : ℕ)
  /-- `ClearHandlerLocked`. -/
  | clearHandler

namespace Conversation

variable (s : Conversation)

/-- What a thread has to do is replaced. -/
def put (i : ℕ) (ts : List Task) : Conversation :=
  { s with tasks := Function.update s.tasks i ts }

/-- Something can be observed. -/
def mark (m : Mark) : Conversation := { s with trace := s.trace ++ [m] }

/-- The tasks of `OnRecvWSFrame`. -/
def frameTasks (f : Frame) : List Task :=
  if f.1.opcode = wsOpText then [.deliver (.onRecvText (cString f.2))]
  else if f.1.opcode = wsOpBinary then [.deliver (.onRecvData f.2)]
  else if f.1.opcode = wsOpPing then [.sendFrame wsOpPong f.2]
  else if f.1.opcode = wsOpClose then [.sendCloseFrame (Session.codeOf f.2), .closeChannel]
  else []

/-- The tasks of the handlers of `_FeedFrames`. -/
def thrownTasks : Thrown → List Task
  | .bcException e => [.deliver (.onException e), .sendCloseFrame kWSCloseProtocol, .closeChannel]
  | .other => [.closeChannel]

/-- A close frame of the peer sets a field. -/
def onFrame (f : Frame) : Conversation :=
  if f.1.opcode = wsOpClose then { s with peerClosedFrame := true }.mark .peerClosed else s

/-- A thread does the first thing it has to do. -/
def task (i : ℕ) (rest : List Task) : Task → Conversation
  | .frame f => (s.onFrame f).put i (frameTasks f ++ rest)
  | .thrown e => s.put i (thrownTasks e ++ rest)
  | .deliver c => s.put i (if s.handler then .start c :: rest else rest)
  | .start c => (s.mark (.started c)).put i rest
  | .accept headers =>
    { s with upgraded := true }.put i (.deliver (.onConnectResult bcrSuccess headers) :: rest)
  | .sendFrame opcode payload =>
    s.put i
      (if ¬ s.upgraded ∨ isControl opcode ∧ payload.length > wsMaxControlPayload then rest
      else .sendRawFrame opcode payload :: rest)
  | .sendRawFrame opcode _ => (if s.channel then s.mark (.handed opcode) else s).put i rest
  | .sendCloseFrame code =>
    if s.closeFrameSent then s.put i rest
    else { s with closeFrameSent := true }.put i (.sendCloseRest code :: rest)
  | .sendCloseRest code =>
    s.put i
      (if s.upgraded then
        .sendFrame wsOpClose [(code >>> 8).toUInt8, code.toUInt8] :: rest
      else rest)
  | .close =>
    s.put i
      (if s.upgraded then .sendCloseFrame kWSCloseNormal :: .closeChannel :: rest
      else .closeChannel :: rest)
  | .closeChannel => (if s.channel then s.mark .closing else s).put i rest
  | .release => ({ s with channel := false }.mark .released).put i rest

/-- A thread takes a step. -/
def perform (i : ℕ) : Conversation :=
  match s.tasks i with
  | [] => s
  | t :: rest => s.task i rest t

/-- The tasks of what the channel calls back with. -/
def arrivalTasks : Arrival → List Task
  | .response headers r =>
    if s.delivered ∨ s.upgraded then [] else .accept headers :: r.tasks
  | .failure => [.closeChannel]
  | .data r => if s.delivered ∨ ¬ s.upgraded then [] else r.tasks
  | .idle => if s.upgraded then [.close] else []
  | .ping now => if s.upgraded then [.sendFrame wsOpPing (Bytes.beBytes 8 now)] else []
  | .closed result headers text =>
    if s.delivered then [.release]
    else
      [.deliver (if s.upgraded then .onClosed text else .onConnectResult result headers), .release]

/-- `_DeliverOnce` sets a field. -/
def onArrival : Arrival → Conversation
  | .closed _ _ _ => { s with delivered := true }
  | _ => s

/-- What happens next, if it can happen now. -/
def step : Turn → Conversation
  | .arrive a =>
    if s.channel ∧ s.tasks 0 = [] then (s.onArrival a).put 0 (s.arrivalTasks a) else s
  | .call i c => if s.tasks (i + 1) = [] then s.put (i + 1) [c.task] else s
  | .perform i => s.perform i
  | .clearHandler => { s with handler := false }

/-- A connection whose channel has been opened. -/
def initial (handler : Bool) : Conversation := { handler := handler }

end Conversation

namespace Mark

/-- A message is delivered. -/
def IsMessage : Mark → Prop
  | .started (.onRecvText _) | .started (.onRecvData _) => True
  | _ => False

/-- A close frame is handed to the channel. -/
def IsCloseFrame (m : Mark) : Prop := m = .handed wsOpClose

/-- Another frame is handed to the channel. -/
def IsOtherFrame : Mark → Prop
  | .handed opcode => opcode ≠ wsOpClose
  | _ => False

instance : DecidablePred IsMessage
  | .peerClosed | .handed _ | .closing | .released => isFalse id
  | .started (.onRecvText _) | .started (.onRecvData _) => isTrue trivial
  | .started (.onConnectResult _ _) | .started (.onException _) | .started (.onClosed _) =>
    isFalse id

instance : DecidablePred IsCloseFrame := fun m =>
  inferInstanceAs (Decidable (m = .handed wsOpClose))

instance : DecidablePred IsOtherFrame
  | .peerClosed | .started _ | .closing | .released => isFalse id
  | .handed opcode => inferInstanceAs (Decidable (opcode ≠ wsOpClose))

end Mark

/-- The end of a conversation as a peer may want it: behind a close frame of its own no message
is delivered, one close frame at most is sent, and nothing is sent behind it. -/
structure EndsAtOnce (trace : List Mark) : Prop where
  /-- No message comes behind a close frame of the peer. -/
  noMessage : NoneAfter (· = .peerClosed) Mark.IsMessage trace
  /-- At most one close frame is handed over. -/
  oneClose : NoneAfter Mark.IsCloseFrame Mark.IsCloseFrame trace
  /-- No other frame is handed over behind it. -/
  closeIsLast : NoneAfter Mark.IsCloseFrame Mark.IsOtherFrame trace

/-- A close frame of the peer has been handled, and the channel has not been asked to end
since. -/
def Unanswered (trace : List Mark) : Prop :=
  ∃ before after, trace = before ++ .peerClosed :: after ∧ .closing ∉ after

/-- The end of a conversation as it is: one close frame at most is sent, no message is
delivered behind a close frame of the peer before the channel has been asked to end, and
nothing happens any more once the channel has been released. -/
structure EndsWithChannel (trace : List Mark) : Prop where
  /-- At most one close frame is handed over. -/
  oneClose : NoneAfter Mark.IsCloseFrame Mark.IsCloseFrame trace
  /-- A message waits for the answer to a close frame of the peer. -/
  answered : Justified (fun before m => m.IsMessage → ¬ Unanswered before) trace
  /-- Nothing happens behind the release of the channel. -/
  releasedIsLast : NoneAfter (· = .released) (fun _ => True) trace

namespace Task

/-- A task of a call, which every thread may have. -/
def Outside : Task → Prop
  | .sendFrame _ _ | .sendRawFrame _ _ | .sendCloseFrame _ | .sendCloseRest _ | .close
  | .closeChannel => True
  | _ => False

/-- A task that carries the close frame on its way to the channel. -/
def Carries : Task → Prop
  | .sendCloseRest _ => True
  | .sendFrame opcode _ | .sendRawFrame opcode _ => opcode = wsOpClose
  | _ => False

end Task

/-- What is observed when a task is done. -/
inductive Notes (s : Conversation) : Task → List Task → List Mark → Prop where
  | nothing {t : Task} {new : List Task} (hclose : t = .closeChannel → s.channel = false)
      (hlast : t ≠ .release) : Notes s t new []
  | peerClosed (f : Frame) (code : UInt16) :
      Notes s (.frame f) [.sendCloseFrame code, .closeChannel] [.peerClosed]
  | started (c : Callback) : Notes s (.start c) [] [.started c]
  | handed (opcode : UInt8) (payload : List UInt8) (h : s.channel = true) :
      Notes s (.sendRawFrame opcode payload) [] [.handed opcode]
  | closing (h : s.channel = true) : Notes s .closeChannel [] [.closing]
  | released : Notes s .release [] [.released]

/-- What a step of a thread can do: the task is replaced by others, and one thing at most can
be observed. -/
structure Does (s s' : Conversation) (i : ℕ) (t : Task) (rest new : List Task)
    (marks : List Mark) : Prop where
  /-- The other threads have to do what they had to do. -/
  tasks_eq : s'.tasks = Function.update s.tasks i (new ++ rest)
  /-- The record grows. -/
  trace_eq : s'.trace = s.trace ++ marks
  /-- What is observed fits the task. -/
  notes : Notes s t new marks
  /-- Only the last task of the channel releases it. -/
  channel_eq : s'.channel = true ↔ s.channel = true ∧ t ≠ .release
  /-- The channel is released by `OnChannelClosed` only. -/
  not_release : .release ∉ new
  /-- A call is followed by parts of it. -/
  outside : t.Outside → ∀ x ∈ new, x.Outside
  /-- The close frame is sent once. -/
  sent_mono : s.closeFrameSent = true → s'.closeFrameSent = true
  /-- It is passed on alone, from a task that carried it or by the exchange. -/
  carries : ∀ x ∈ new, x.Carries → new = [x] ∧ s'.closeFrameSent = true ∧
    (t.Carries ∨ s.closeFrameSent = false)

section Steps

/-- The tasks of a frame. -/
theorem frameTasks_spec (f : Frame) : .release ∉ Conversation.frameTasks f ∧
    (∀ x ∈ Conversation.frameTasks f, ¬ x.Carries) ∧
      (f.1.opcode = wsOpClose → Conversation.frameTasks f =
        [.sendCloseFrame (Session.codeOf f.2), .closeChannel]) := by
  have hpong : wsOpPong ≠ wsOpClose := by decide
  unfold Conversation.frameTasks
  split_ifs with htext hbinary hping hclose
  · refine ⟨by simp, by simp [Task.Carries], fun h => ?_⟩
    rw [h] at htext
    cases htext
  · refine ⟨by simp, by simp [Task.Carries], fun h => ?_⟩
    rw [h] at hbinary
    cases hbinary
  · refine ⟨by simp, by simp [Task.Carries, hpong], fun h => ?_⟩
    rw [h] at hping
    cases hping
  · exact ⟨by simp, by simp [Task.Carries], fun _ => rfl⟩
  · exact ⟨by simp, by simp, fun h => absurd h hclose⟩

/-- A task is replaced by others that have nothing to do with the close frame. -/
theorem Does.quiet (s : Conversation) (i : ℕ) (rest : List Task) {t : Task} (new : List Task)
    (hclose : t ≠ .closeChannel) (hlast : t ≠ .release) (hnew : .release ∉ new)
    (hout : t.Outside → ∀ x ∈ new, x.Outside) (hcarries : ∀ x ∈ new, ¬ x.Carries) :
    Does s (s.put i (new ++ rest)) i t rest new [] where
  tasks_eq := rfl
  trace_eq := (List.append_nil _).symm
  notes := .nothing (fun h => absurd h hclose) hlast
  channel_eq := by simp [Conversation.put, hlast]
  not_release := hnew
  outside := hout
  sent_mono := id
  carries x hx hc := absurd hc (hcarries x hx)

/-- A task observes something and is done. -/
theorem Does.marked (s : Conversation) (i : ℕ) (rest : List Task) {t : Task} {m : Mark}
    (hlast : t ≠ .release) (hnotes : Notes s t [] [m]) :
    Does s ((s.mark m).put i rest) i t rest [] [m] where
  tasks_eq := rfl
  trace_eq := rfl
  notes := hnotes
  channel_eq := by simp [Conversation.put, Conversation.mark, hlast]
  not_release := by simp
  outside := by simp
  sent_mono := id
  carries := by simp

/-- A task is replaced by one that carries the close frame. -/
theorem Does.carry (s : Conversation) (i : ℕ) (rest : List Task) {t x : Task}
    (hclose : t ≠ .closeChannel) (hlast : t ≠ .release) (hx : x ≠ .release) (hout : x.Outside)
    (hfrom : t.Carries ∨ s.closeFrameSent = false) :
    Does s ({ s with closeFrameSent := true }.put i (x :: rest)) i t rest [x] [] where
  tasks_eq := rfl
  trace_eq := (List.append_nil _).symm
  notes := .nothing (fun h => absurd h hclose) hlast
  channel_eq := by simp [Conversation.put, hlast]
  not_release := by simpa using hx.symm
  outside := by simpa using fun _ => hout
  sent_mono _ := rfl
  carries y hy _ := by
    rw [List.mem_singleton] at hy
    rw [hy]
    exact ⟨rfl, rfl, hfrom⟩

/-- Every task is done in one of these ways. A task that carries the close frame exists only
where the exchange has succeeded. -/
theorem does_task (s : Conversation) (i : ℕ) (rest : List Task) (t : Task)
    (hsent : t.Carries → s.closeFrameSent = true) :
    ∃ new marks, Does s (s.task i rest t) i t rest new marks := by
  have hcarry {x : Task} (hcarries : t.Carries) (hclose : t ≠ .closeChannel) (hlast : t ≠ .release)
      (hx : x ≠ .release) (hout : x.Outside) :
      Does s (s.put i (x :: rest)) i t rest [x] [] := by
    have hsame : { s with closeFrameSent := true } = s := by
      rw [← hsent hcarries]
    have h := Does.carry s i rest hclose hlast hx hout (Or.inl hcarries)
    rwa [hsame] at h
  cases t with
  | frame f =>
    obtain ⟨hnew, hcarries, hclose⟩ := frameTasks_spec f
    by_cases hopcode : f.1.opcode = wsOpClose
    · refine ⟨Conversation.frameTasks f, [.peerClosed], ?_⟩
      rw [Conversation.task, Conversation.onFrame, if_pos hopcode]
      refine ⟨rfl, rfl, ?_, by simp [Conversation.put, Conversation.mark], hnew, False.elim, id,
        fun x hx hc => absurd hc (hcarries x hx)⟩
      rw [hclose hopcode]
      exact .peerClosed f _
    · rw [Conversation.task, Conversation.onFrame, if_neg hopcode]
      exact ⟨_, _, .quiet s i rest _ (by simp) (by simp) hnew False.elim hcarries⟩
  | thrown e =>
    refine ⟨_, _, .quiet s i rest (Conversation.thrownTasks e) (by simp) (by simp) ?_ False.elim ?_⟩
    · cases e <;> simp [Conversation.thrownTasks]
    · cases e <;> simp [Conversation.thrownTasks, Task.Carries]
  | deliver c =>
    rw [Conversation.task]
    split
    · exact ⟨_, _, .quiet s i rest [.start c] (by simp) (by simp) (by simp) False.elim
        (by simp [Task.Carries])⟩
    · exact ⟨_, _, .quiet s i rest [] (by simp) (by simp) (by simp) False.elim (by simp)⟩
  | start c => exact ⟨_, _, .marked s i rest (by simp) (.started c)⟩
  | accept headers =>
    refine ⟨[.deliver (.onConnectResult bcrSuccess headers)], [], ?_⟩
    exact ⟨rfl, (List.append_nil _).symm, .nothing (by simp) (by simp),
      by simp [Conversation.task, Conversation.put], by simp, False.elim, id,
      by simp [Task.Carries]⟩
  | sendFrame opcode payload =>
    rw [Conversation.task]
    split
    · exact ⟨_, _, .quiet s i rest [] (by simp) (by simp) (by simp) (by simp) (by simp)⟩
    · by_cases hopcode : opcode = wsOpClose
      · exact ⟨_, _, hcarry hopcode (by simp) (by simp) (by simp) trivial⟩
      · exact ⟨_, _, .quiet s i rest [.sendRawFrame opcode payload] (by simp) (by simp) (by simp)
          (by simp [Task.Outside]) (by simpa [Task.Carries] using hopcode)⟩
  | sendRawFrame opcode payload =>
    rw [Conversation.task]
    split
    · rename_i hchannel
      exact ⟨_, _, .marked s i rest (by simp) (.handed opcode payload hchannel)⟩
    · exact ⟨_, _, .quiet s i rest [] (by simp) (by simp) (by simp) (by simp) (by simp)⟩
  | sendCloseFrame code =>
    rw [Conversation.task]
    split
    · exact ⟨_, _, .quiet s i rest [] (by simp) (by simp) (by simp) (by simp) (by simp)⟩
    · rename_i hunsent
      exact ⟨_, _, .carry s i rest (by simp) (by simp) (by simp) trivial
        (Or.inr (by simpa using hunsent))⟩
  | sendCloseRest code =>
    rw [Conversation.task]
    split
    · exact ⟨_, _, hcarry trivial (by simp) (by simp) (by simp) trivial⟩
    · exact ⟨_, _, .quiet s i rest [] (by simp) (by simp) (by simp) (by simp) (by simp)⟩
  | close =>
    rw [Conversation.task]
    split
    · exact ⟨_, _, .quiet s i rest [.sendCloseFrame kWSCloseNormal, .closeChannel] (by simp)
        (by simp) (by simp) (by simp [Task.Outside]) (by simp [Task.Carries])⟩
    · exact ⟨_, _, .quiet s i rest [.closeChannel] (by simp) (by simp) (by simp)
        (by simp [Task.Outside]) (by simp [Task.Carries])⟩
  | closeChannel =>
    rw [Conversation.task]
    split
    · rename_i hchannel
      exact ⟨_, _, .marked s i rest (by simp) (.closing hchannel)⟩
    · rename_i hchannel
      refine ⟨[], [], ?_⟩
      exact ⟨rfl, (List.append_nil _).symm, .nothing (fun _ => by simpa using hchannel) (by simp),
        by simp [Conversation.put], by simp, by simp, id, by simp⟩
  | release =>
    refine ⟨[], [.released], ?_⟩
    exact ⟨rfl, rfl, .released, by simp [Conversation.task, Conversation.put, Conversation.mark],
      by simp, by simp, id, by simp⟩

end Steps

/-- No task of a thread carries the close frame. -/
def Free (ts : List Task) : Prop := ∀ t ∈ ts, ¬ t.Carries

/-- One close frame at most is on its way or has been handed over. -/
structure OneClose (s : Conversation) : Prop where
  /-- Before the exchange there is none. -/
  unsent : s.closeFrameSent = false → (∀ i, Free (s.tasks i)) ∧ ∀ m ∈ s.trace, ¬ m.IsCloseFrame
  /-- A thread carries it in the first task only. -/
  tail_free : ∀ i, Free (s.tasks i).tail
  /-- One thread at most carries it. -/
  unique : ∀ i j, ¬ Free (s.tasks i) → ¬ Free (s.tasks j) → i = j
  /-- Once it has been handed over no thread carries it. -/
  arrived : (∃ m ∈ s.trace, m.IsCloseFrame) → ∀ i, Free (s.tasks i)

section OneClose

variable {s s' : Conversation} {i : ℕ} {t : Task} {rest new : List Task} {marks : List Mark}

/-- Two lists of free tasks are free together. -/
theorem Free.append {first second : List Task} (h : Free first) (h' : Free second) :
    Free (first ++ second) := by
  intro t ht
  rcases List.mem_append.mp ht with ht | ht
  · exact h t ht
  · exact h' t ht

/-- What is left of free tasks is free. -/
theorem Free.tail {ts : List Task} (h : Free ts) : Free ts.tail :=
  fun t ht => h t (List.mem_of_mem_tail ht)

/-- The close frame is handed over by a task that carries it. -/
theorem Notes.carries (h : Notes s t new marks) (hclose : ∃ m ∈ marks, m.IsCloseFrame) :
    t.Carries ∧ new = [] := by
  obtain ⟨m, hm, hclose⟩ := hclose
  cases h with
  | nothing hother hlast => cases hm
  | peerClosed f code =>
    rw [List.mem_singleton.mp hm] at hclose
    cases hclose
  | started c =>
    rw [List.mem_singleton.mp hm] at hclose
    cases hclose
  | handed opcode payload hchannel =>
    rw [List.mem_singleton.mp hm] at hclose
    cases hclose
    exact ⟨rfl, rfl⟩
  | closing hchannel =>
    rw [List.mem_singleton.mp hm] at hclose
    cases hclose
  | released =>
    rw [List.mem_singleton.mp hm] at hclose
    cases hclose

/-- New tasks of a thread that do not carry the close frame. -/
theorem OneClose.update (h : OneClose s) (htasks : s'.tasks = Function.update s.tasks i new)
    (htrace : ∀ m ∈ s'.trace, m.IsCloseFrame → m ∈ s.trace)
    (hsent : s.closeFrameSent = true → s'.closeFrameSent = true)
    (hnew : Free new) : OneClose s' := by
  have hfree {j : ℕ} (hj : Free (s.tasks j)) : Free (s'.tasks j) := by
    rw [htasks, Function.update_apply]
    split
    · exact hnew
    · exact hj
  have hold {j : ℕ} (hj : ¬ Free (s'.tasks j)) : ¬ Free (s.tasks j) :=
    fun hfree' => hj (hfree hfree')
  refine ⟨?_, ?_, ?_, ?_⟩
  · intro hunsent
    have hunsent' : s.closeFrameSent = false := by
      by_contra hne
      rw [hsent (by simpa using hne)] at hunsent
      cases hunsent
    obtain ⟨hall, hnone⟩ := h.unsent hunsent'
    exact ⟨fun j => hfree (hall j), fun m hm hclose => hnone m (htrace m hm hclose) hclose⟩
  · intro j
    rw [htasks, Function.update_apply]
    split
    · exact hnew.tail
    · exact h.tail_free j
  · intro j k hj hk
    exact h.unique j k (hold hj) (hold hk)
  · rintro ⟨m, hm, hclose⟩ j
    exact hfree (h.arrived ⟨m, htrace m hm hclose, hclose⟩ j)

/-- A thread has less to do behind its first task. -/
theorem OneClose.rest_free (h : OneClose s) (htasks : s.tasks i = t :: rest) : Free rest := by
  have htail := h.tail_free i
  rwa [htasks] at htail

/-- A step of a thread. -/
theorem OneClose.does (h : OneClose s) (htasks : s.tasks i = t :: rest)
    (hdoes : Does s s' i t rest new marks) : OneClose s' := by
  have hrest := h.rest_free htasks
  have hthread (hcarries : t.Carries) : ¬ Free (s.tasks i) := by
    intro hfree
    rw [htasks] at hfree
    exact hfree t List.mem_cons_self hcarries
  by_cases hclose : ∃ m ∈ marks, m.IsCloseFrame
  · -- The close frame is handed over by the one thread that carries it.
    obtain ⟨hcarries, hnil⟩ := hdoes.notes.carries hclose
    have hbusy := hthread hcarries
    have hall (j : ℕ) : Free (s'.tasks j) := by
      rw [hdoes.tasks_eq, Function.update_apply, hnil]
      split
      · exact hrest
      · rename_i hne
        by_contra hj
        exact hne (h.unique j i hj hbusy)
    have hsent : s'.closeFrameSent = true := by
      apply hdoes.sent_mono
      by_contra hunsent
      exact hbusy ((h.unsent (by simpa using hunsent)).1 i)
    refine ⟨?_, fun j => (hall j).tail, fun j k hj => absurd (hall j) hj, fun _ => hall⟩
    intro hunsent
    rw [hsent] at hunsent
    cases hunsent
  · have htrace : ∀ m ∈ s'.trace, m.IsCloseFrame → m ∈ s.trace := by
      intro m hm hm'
      rw [hdoes.trace_eq] at hm
      rcases List.mem_append.mp hm with hm | hm
      · exact hm
      · exact absurd ⟨m, hm, hm'⟩ hclose
    by_cases hnew : Free new
    · exact h.update hdoes.tasks_eq htrace hdoes.sent_mono (hnew.append hrest)
    · -- The close frame is passed on, and no other thread carries it.
      obtain ⟨x, hx, hcarries⟩ : ∃ x ∈ new, x.Carries := by
        by_contra hnone
        exact hnew fun x hx hcarries => hnone ⟨x, hx, hcarries⟩
      obtain ⟨hone, hsent, hfrom⟩ := hdoes.carries x hx hcarries
      have hothers (j : ℕ) (hne : j ≠ i) : Free (s.tasks j) := by
        rcases hfrom with hfrom | hfrom
        · by_contra hj
          exact hne (h.unique j i hj (hthread hfrom))
        · exact (h.unsent hfrom).1 j
      have hnone : ¬ ∃ m ∈ s.trace, m.IsCloseFrame := by
        rintro ⟨m, hm, hm'⟩
        rcases hfrom with hfrom | hfrom
        · exact hthread hfrom (h.arrived ⟨m, hm, hm'⟩ i)
        · exact (h.unsent hfrom).2 m hm hm'
      have hbusy {j : ℕ} (hj : ¬ Free (s'.tasks j)) : j = i := by
        by_contra hne
        rw [hdoes.tasks_eq, Function.update_of_ne hne] at hj
        exact hj (hothers j hne)
      refine ⟨?_, ?_, ?_, ?_⟩
      · intro hunsent
        rw [hsent] at hunsent
        cases hunsent
      · intro j
        rw [hdoes.tasks_eq, Function.update_apply]
        split
        · rw [hone]
          exact hrest
        · exact h.tail_free j
      · intro j k hj hk
        rw [hbusy hj, hbusy hk]
      · rintro ⟨m, hm, hm'⟩
        exact absurd ⟨m, htrace m hm hm', hm'⟩ hnone

end OneClose

/-- A thread asks for the end of the channel before it does anything that only the thread of
the channel does. -/
inductive Owes : List Task → Prop where
  | now (rest : List Task) : Owes (.closeChannel :: rest)
  | later {t : Task} {rest : List Task} (h : t.Outside) (hrest : Owes rest) : Owes (t :: rest)

/-- What the threads have to do, beside the close frame. -/
structure Shape (s : Conversation) : Prop where
  /-- Other threads make calls only. -/
  outside : ∀ i, ∀ t ∈ s.tasks (i + 1), t.Outside
  /-- The release of the channel comes last. -/
  release_last : .release ∉ (s.tasks 0).dropLast
  /-- Without a channel its thread has nothing to do. -/
  idle : s.channel = false → s.tasks 0 = []
  /-- With a channel it has not been released. -/
  live : s.channel = true → ∀ m ∈ s.trace, m ≠ .released
  /-- A close frame of the peer is being answered. -/
  owes : Unanswered s.trace → Owes (s.tasks 0)

section Shape

variable {s s' : Conversation} {i : ℕ} {t : Task} {rest new : List Task} {marks : List Mark}

/-- Tasks of a call in front change nothing. -/
theorem Owes.append (h : Owes rest) (hnew : ∀ x ∈ new, x.Outside) : Owes (new ++ rest) := by
  induction new with
  | nil => exact h
  | cons x new ih =>
    exact .later (hnew x List.mem_cons_self) (ih fun y hy => hnew y (List.mem_cons_of_mem x hy))

/-- Only the end of the channel makes up for it. -/
theorem Owes.of_cons (h : Owes (t :: rest)) (ht : t ≠ .closeChannel) : t.Outside ∧ Owes rest := by
  cases h with
  | now => exact absurd rfl ht
  | later hout hrest => exact ⟨hout, hrest⟩

/-- What is appended decides what is left to be answered. -/
theorem unanswered_concat {trace : List Mark} {m : Mark} (h : Unanswered (trace ++ [m])) :
    m = .peerClosed ∨ m ≠ .closing ∧ Unanswered trace := by
  obtain ⟨before, after, hsplit, hnone⟩ := h
  rcases List.eq_nil_or_concat after with rfl | ⟨after, last, rfl⟩
  · obtain ⟨-, hm⟩ := List.append_inj' hsplit rfl
    cases hm
    exact Or.inl rfl
  · have hlast : trace ++ [m] = (before ++ .peerClosed :: after) ++ [last] := by
      rw [hsplit, List.concat_eq_append, List.append_assoc, List.cons_append]
    obtain ⟨rfl, hm⟩ := List.append_inj' hlast rfl
    cases hm
    rw [List.concat_eq_append, List.mem_append, not_or] at hnone
    refine Or.inr ⟨?_, before, after, rfl, hnone.1⟩
    rintro rfl
    exact hnone.2 List.mem_cons_self

/-- The release is observed by the task that does it, which leaves nothing behind. -/
theorem Notes.released_iff (h : Notes s t new marks) : .released ∈ marks ↔ t = .release := by
  cases h <;> simp_all

/-- A call of another thread leaves the open answers alone. -/
theorem Notes.unanswered_of_outside (h : Notes s t new marks) (ht : t.Outside)
    (hopen : Unanswered (s.trace ++ marks)) : Unanswered s.trace := by
  cases h with
  | nothing hclose hlast => rwa [List.append_nil] at hopen
  | peerClosed f code => exact ht.elim
  | started c => exact ht.elim
  | handed opcode payload hchannel =>
    rcases unanswered_concat hopen with hm | hm
    · cases hm
    · exact hm.2
  | closing hchannel =>
    rcases unanswered_concat hopen with hm | hm
    · cases hm
    · exact hm.2
  | released => exact ht.elim

/-- What the thread of the channel owes behind one of its steps. -/
theorem Notes.owes (h : Notes s t new marks) (hchannel : s.channel = true)
    (howes : Unanswered s.trace → Owes (t :: rest)) (hout : t.Outside → ∀ x ∈ new, x.Outside)
    (hopen : Unanswered (s.trace ++ marks)) : Owes (new ++ rest) := by
  cases h with
  | nothing hclose hlast =>
    rw [List.append_nil] at hopen
    have hne : t ≠ .closeChannel := by
      intro ht
      rw [hclose ht] at hchannel
      cases hchannel
    obtain ⟨ht, hrest⟩ := (howes hopen).of_cons hne
    exact hrest.append (hout ht)
  | peerClosed f code => exact .later trivial (.now rest)
  | started c =>
    rcases unanswered_concat hopen with hm | ⟨-, hm⟩
    · cases hm
    · exact ((howes hm).of_cons (by simp)).1.elim
  | handed opcode payload _ =>
    rcases unanswered_concat hopen with hm | ⟨-, hm⟩
    · cases hm
    · exact ((howes hm).of_cons (by simp)).2
  | closing _ =>
    rcases unanswered_concat hopen with hm | ⟨hm, -⟩
    · cases hm
    · exact absurd rfl hm
  | released =>
    rcases unanswered_concat hopen with hm | ⟨-, hm⟩
    · cases hm
    · exact ((howes hm).of_cons (by simp)).1.elim

/-- A step of another thread. -/
theorem Shape.does_outside (h : Shape s) {j : ℕ} (htasks : s.tasks (j + 1) = t :: rest)
    (hdoes : Does s s' (j + 1) t rest new marks) : Shape s' := by
  have hall : ∀ x ∈ t :: rest, x.Outside := by
    rw [← htasks]
    exact h.outside j
  have ht : t.Outside := hall t List.mem_cons_self
  have hlast : t ≠ .release := by
    rintro rfl
    exact ht
  have hzero : s'.tasks 0 = s.tasks 0 := by
    rw [hdoes.tasks_eq, Function.update_of_ne (Nat.succ_ne_zero j).symm]
  have hchannel : s'.channel = s.channel := by
    rw [Bool.eq_iff_iff, hdoes.channel_eq]
    simp [hlast]
  refine ⟨?_, by rw [hzero]; exact h.release_last, by rw [hzero, hchannel]; exact h.idle, ?_, ?_⟩
  · intro k x hx
    rw [hdoes.tasks_eq, Function.update_apply] at hx
    split at hx
    · rcases List.mem_append.mp hx with hx | hx
      · exact hdoes.outside ht x hx
      · exact hall x (List.mem_cons_of_mem t hx)
    · exact h.outside k x hx
  · intro hlive m hm
    rw [hchannel] at hlive
    rw [hdoes.trace_eq] at hm
    rcases List.mem_append.mp hm with hm | hm
    · exact h.live hlive m hm
    · rintro rfl
      exact hlast (hdoes.notes.released_iff.mp hm)
  · intro hopen
    rw [hdoes.trace_eq] at hopen
    rw [hzero]
    exact h.owes (hdoes.notes.unanswered_of_outside ht hopen)

/-- A step of the thread of the channel. -/
theorem Shape.does_channel (h : Shape s) (htasks : s.tasks 0 = t :: rest)
    (hdoes : Does s s' 0 t rest new marks) : Shape s' := by
  have hchannel : s.channel = true := by
    by_contra hne
    rw [h.idle (by simpa using hne)] at htasks
    cases htasks
  have hzero : s'.tasks 0 = new ++ rest := by
    rw [hdoes.tasks_eq, Function.update_self]
  have hrest : .release ∉ rest.dropLast ∧ (t = .release → rest = []) := by
    have hlast := h.release_last
    rw [htasks] at hlast
    cases rest with
    | nil => simp
    | cons x rest =>
      rw [List.dropLast_cons_of_ne_nil (by simp), List.mem_cons, not_or] at hlast
      exact ⟨hlast.2, fun ht => absurd ht.symm hlast.1⟩
  refine ⟨?_, ?_, ?_, ?_, ?_⟩
  · intro k x hx
    rw [hdoes.tasks_eq, Function.update_of_ne (Nat.succ_ne_zero k)] at hx
    exact h.outside k x hx
  · rw [hzero]
    intro hmem
    cases rest with
    | nil =>
      rw [List.append_nil] at hmem
      exact hdoes.not_release (List.mem_of_mem_dropLast hmem)
    | cons x rest =>
      rw [List.dropLast_append_of_ne_nil (by simp)] at hmem
      rcases List.mem_append.mp hmem with hmem | hmem
      · exact hdoes.not_release hmem
      · exact hrest.1 hmem
  · intro hdead
    have ht : t = .release := by
      by_contra hne
      rw [hdoes.channel_eq.mpr ⟨hchannel, hne⟩] at hdead
      cases hdead
    subst ht
    rw [hzero, hrest.2 rfl, List.append_nil]
    cases hdoes.notes with
    | nothing hclose hlast => exact absurd rfl hlast
    | released => rfl
  · intro hlive m hm
    have hne := (hdoes.channel_eq.mp hlive).2
    rw [hdoes.trace_eq] at hm
    rcases List.mem_append.mp hm with hm | hm
    · exact h.live hchannel m hm
    · rintro rfl
      exact hne (hdoes.notes.released_iff.mp hm)
  · intro hopen
    rw [hdoes.trace_eq] at hopen
    rw [hzero]
    refine hdoes.notes.owes hchannel ?_ hdoes.outside hopen
    rw [← htasks]
    exact h.owes

/-- A step of a thread keeps the shape. -/
theorem Shape.does (h : Shape s) (htasks : s.tasks i = t :: rest)
    (hdoes : Does s s' i t rest new marks) : Shape s' := by
  cases i with
  | zero => exact h.does_channel htasks hdoes
  | succ j => exact h.does_outside htasks hdoes

/-- What holds of a connection in the hands of its threads. -/
structure Conversation.Sound (s : Conversation) : Prop where
  /-- At most one close frame is sent. -/
  oneClose : OneClose s
  /-- The tasks, the session and the stack belong together. -/
  shape : Shape s
  /-- The conversation ends with the channel. -/
  ends : EndsWithChannel s.trace

section Sound

variable {s s' : Conversation} {i : ℕ} {t : Task} {rest new : List Task} {marks : List Mark}

/-- What is observed is observed before the channel has been released. -/
theorem Shape.channel_of_notes (h : Shape s) (htasks : s.tasks i = t :: rest)
    (hnotes : Notes s t new marks) : marks = [] ∨ s.channel = true := by
  cases i with
  | zero =>
    right
    by_contra hne
    rw [h.idle (by simpa using hne)] at htasks
    cases htasks
  | succ j =>
    have ht : t.Outside := h.outside j t (by rw [htasks]; exact List.mem_cons_self)
    cases hnotes with
    | nothing hclose hlast => exact Or.inl rfl
    | peerClosed f code => exact ht.elim
    | started c => exact ht.elim
    | handed opcode payload hchannel => exact Or.inr hchannel
    | closing hchannel => exact Or.inr hchannel
    | released => exact ht.elim

/-- A message is delivered only when every close frame of the peer has been answered. -/
theorem Shape.answered (h : Shape s) {c : Callback} (htasks : s.tasks i = .start c :: rest) :
    ¬ Unanswered s.trace := by
  intro hopen
  cases i with
  | zero =>
    have howes := h.owes hopen
    rw [htasks] at howes
    exact (howes.of_cons (by simp)).1
  | succ j => exact h.outside j (.start c) (by rw [htasks]; exact List.mem_cons_self)

/-- One more thing is observed. -/
theorem EndsWithChannel.concat {trace : List Mark} {m : Mark} (h : EndsWithChannel trace)
    (hclose : m.IsCloseFrame → ∀ b ∈ trace, ¬ b.IsCloseFrame)
    (hmessage : m.IsMessage → ¬ Unanswered trace) (hlive : ∀ b ∈ trace, b ≠ .released) :
    EndsWithChannel (trace ++ [m]) where
  oneClose := h.oneClose.concat hclose
  answered := h.answered.concat hmessage
  releasedIsLast := h.releasedIsLast.concat fun _ => hlive

/-- A step of a thread keeps the end with the channel. -/
theorem EndsWithChannel.does (h : EndsWithChannel s.trace) (hone : OneClose s) (hshape : Shape s)
    (htasks : s.tasks i = t :: rest) (hdoes : Does s s' i t rest new marks) :
    EndsWithChannel s'.trace := by
  rw [hdoes.trace_eq]
  rcases hshape.channel_of_notes htasks hdoes.notes with rfl | hchannel
  · rwa [List.append_nil]
  have hlive := hshape.live hchannel
  have hclose (hm : ∃ m ∈ marks, m.IsCloseFrame) : ∀ b ∈ s.trace, ¬ b.IsCloseFrame := by
    intro b hb hb'
    have hfree := hone.arrived ⟨b, hb, hb'⟩ i
    rw [htasks] at hfree
    exact hfree t List.mem_cons_self (hdoes.notes.carries hm).1
  cases hdoes.notes with
  | nothing hclose hlast => rwa [List.append_nil]
  | peerClosed f code =>
    exact h.concat (fun hm => hclose ⟨_, List.mem_cons_self, hm⟩) False.elim hlive
  | started c =>
    exact h.concat (fun hm => hclose ⟨_, List.mem_cons_self, hm⟩)
      (fun _ => hshape.answered htasks) hlive
  | handed opcode payload _ =>
    exact h.concat (fun hm => hclose ⟨_, List.mem_cons_self, hm⟩) False.elim hlive
  | closing _ =>
    exact h.concat (fun hm => hclose ⟨_, List.mem_cons_self, hm⟩) False.elim hlive
  | released =>
    exact h.concat (fun hm => hclose ⟨_, List.mem_cons_self, hm⟩) False.elim hlive

namespace Conversation

/-- A task that carries the close frame exists only behind the exchange. -/
theorem Sound.sent_of_carries (h : s.Sound) (htasks : s.tasks i = t :: rest) (ht : t.Carries) :
    s.closeFrameSent = true := by
  by_contra hunsent
  have hfree := (h.oneClose.unsent (by simpa using hunsent)).1 i
  rw [htasks] at hfree
  exact hfree t List.mem_cons_self ht

/-- A step of a thread keeps it sound. -/
theorem Sound.perform (h : s.Sound) (i : ℕ) : (s.perform i).Sound := by
  unfold Conversation.perform
  split
  · exact h
  · rename_i t rest htasks
    obtain ⟨new, marks, hdoes⟩ := does_task s i rest t (h.sent_of_carries htasks)
    exact ⟨h.oneClose.does htasks hdoes, h.shape.does htasks hdoes,
      h.ends.does h.oneClose h.shape htasks hdoes⟩

/-- A read has to do with frames only. -/
theorem tasks_read (r : Read) : .release ∉ r.tasks ∧ Free r.tasks := by
  have hread : ∀ t ∈ r.tasks, t ≠ .release ∧ ¬ t.Carries := by
    intro t ht
    unfold Read.tasks at ht
    rcases List.mem_append.mp ht with ht | ht
    · obtain ⟨f, -, rfl⟩ := List.mem_map.mp ht
      exact ⟨by simp, id⟩
    · split at ht
      · cases ht
      · rw [List.mem_singleton] at ht
        rw [ht]
        exact ⟨by simp, id⟩
  exact ⟨fun ht => (hread _ ht).1 rfl, fun t ht => (hread t ht).2⟩

/-- What the thread of the channel has to do for an event. -/
theorem arrivalTasks_spec (s : Conversation) (a : Arrival) :
    .release ∉ (s.arrivalTasks a).dropLast ∧ Free (s.arrivalTasks a) := by
  have hping : wsOpPing ≠ wsOpClose := by decide
  cases a with
  | response headers r =>
    obtain ⟨hrelease, hfree⟩ := tasks_read r
    rw [arrivalTasks]
    split
    · exact ⟨by simp, by simp [Free]⟩
    · refine ⟨?_, ?_⟩
      · intro hmem
        have hmem' := List.mem_of_mem_dropLast hmem
        simp [hrelease] at hmem'
      · intro t ht
        rcases List.mem_cons.mp ht with rfl | ht
        · exact id
        · exact hfree t ht
  | failure => exact ⟨by simp [arrivalTasks], by simp [arrivalTasks, Free, Task.Carries]⟩
  | data r =>
    obtain ⟨hrelease, hfree⟩ := tasks_read r
    rw [arrivalTasks]
    split
    · exact ⟨by simp, by simp [Free]⟩
    · exact ⟨fun hmem => hrelease (List.mem_of_mem_dropLast hmem), hfree⟩
  | idle =>
    rw [arrivalTasks]
    split
    · exact ⟨by simp, by simp [Free, Task.Carries]⟩
    · exact ⟨by simp, by simp [Free]⟩
  | ping now =>
    rw [arrivalTasks]
    split
    · exact ⟨by simp, by simp [Free, Task.Carries, hping]⟩
    · exact ⟨by simp, by simp [Free]⟩
  | closed result headers text =>
    rw [arrivalTasks]
    split
    · exact ⟨by simp, by simp [Free, Task.Carries]⟩
    · exact ⟨by simp, by simp [Free, Task.Carries]⟩

/-- What the channel calls back keeps the conversation sound. -/
theorem Sound.arrive (h : s.Sound) (hidle : s.tasks 0 = []) (hchannel : s.channel = true)
    (a : Arrival) : ((s.onArrival a).put 0 (s.arrivalTasks a)).Sound := by
  obtain ⟨hrelease, hfree⟩ := arrivalTasks_spec s a
  have hsame : (s.onArrival a).channel = s.channel ∧ (s.onArrival a).tasks = s.tasks ∧
      (s.onArrival a).trace = s.trace ∧ (s.onArrival a).closeFrameSent = s.closeFrameSent := by
    cases a <;> exact ⟨rfl, rfl, rfl, rfl⟩
  obtain ⟨hchannel', htasks, htrace, hsent⟩ := hsame
  have htasks' : ((s.onArrival a).put 0 (s.arrivalTasks a)).tasks =
      Function.update s.tasks 0 (s.arrivalTasks a) := by
    rw [put, htasks]
  have htrace' : ((s.onArrival a).put 0 (s.arrivalTasks a)).trace = s.trace := htrace
  refine ⟨?_, ⟨?_, ?_, ?_, ?_, ?_⟩, ?_⟩
  · refine h.oneClose.update htasks' ?_ ?_ hfree
    · intro m hm _
      rwa [htrace'] at hm
    · intro hs
      rw [← hsent] at hs
      exact hs
  · intro j t ht
    rw [htasks', Function.update_of_ne (Nat.succ_ne_zero j)] at ht
    exact h.shape.outside j t ht
  · rw [htasks', Function.update_self]
    exact hrelease
  · intro hdead
    have hdead' : s.channel = false := hchannel'.symm.trans hdead
    rw [hchannel] at hdead'
    cases hdead'
  · intro _
    rw [htrace']
    exact h.shape.live hchannel
  · intro hopen
    rw [htrace'] at hopen
    have howes := h.shape.owes hopen
    rw [hidle] at howes
    cases howes
  · rw [htrace']
    exact h.ends

/-- A call of another thread keeps it sound. -/
theorem Sound.call (h : s.Sound) (i : ℕ) (c : Call) : (s.put (i + 1) [c.task]).Sound := by
  have hfree : Free [c.task] := by
    intro t ht
    rw [List.mem_singleton.mp ht]
    have htext : wsOpText ≠ wsOpClose := by decide
    have hbinary : wsOpBinary ≠ wsOpClose := by decide
    have hping : wsOpPing ≠ wsOpClose := by decide
    cases c <;> simp [Call.task, Task.Carries, htext, hbinary, hping]
  have hzero : (s.put (i + 1) [c.task]).tasks 0 = s.tasks 0 :=
    Function.update_of_ne (Nat.succ_ne_zero i).symm [c.task] s.tasks
  refine ⟨h.oneClose.update rfl (fun _ hm _ => hm) id hfree, ⟨?_, ?_, ?_, h.shape.live, ?_⟩, h.ends⟩
  · intro j t ht
    simp only [put, Function.update_apply] at ht
    split at ht
    · rw [List.mem_singleton.mp ht]
      cases c <;> exact trivial
    · exact h.shape.outside j t ht
  · rw [hzero]
    exact h.shape.release_last
  · rw [hzero]
    exact h.shape.idle
  · rw [hzero]
    exact h.shape.owes

/-- Whatever happens next. -/
theorem Sound.step (h : s.Sound) (x : Turn) : (s.step x).Sound := by
  cases x with
  | arrive a =>
    rw [Conversation.step]
    split
    · rename_i hready
      exact h.arrive hready.2 hready.1 a
    · exact h
  | call i c =>
    rw [Conversation.step]
    split
    · exact h.call i c
    · exact h
  | perform i => exact h.perform i
  | clearHandler =>
    exact ⟨⟨h.oneClose.unsent, h.oneClose.tail_free, h.oneClose.unique, h.oneClose.arrived⟩,
      ⟨h.shape.outside, h.shape.release_last, h.shape.idle, h.shape.live, h.shape.owes⟩, h.ends⟩

/-- In the beginning it is sound. -/
theorem sound_initial (handler : Bool) : (initial handler).Sound := by
  have hopen : ¬ Unanswered (initial handler).trace := by
    rintro ⟨before, after, hsplit, -⟩
    simp [initial] at hsplit
  have hfree (i : ℕ) : Free ((initial handler).tasks i) := by
    intro t ht
    cases ht
  have hnone (p : Mark → Prop) : ∀ m ∈ (initial handler).trace, ¬ p m := by
    intro m hm
    cases hm
  refine ⟨⟨fun _ => ⟨hfree, hnone _⟩, fun i => (hfree i).tail, fun i j hi => absurd (hfree i) hi,
    fun _ => hfree⟩, ⟨?_, ?_, fun _ => rfl, fun _ => hnone _, fun h => absurd h hopen⟩,
    ⟨noneAfter_nil, justified_nil, noneAfter_nil⟩⟩
  · intro i t ht
    cases ht
  · simp [initial]

/-- In every interleaving of the frames that come, in any reads, with the calls of other
threads: at most one close frame is handed to the channel, no message is delivered behind a
close frame of the peer before the channel has been asked to end, and nothing is delivered
or handed over once the channel has been released. -/
theorem endsWithChannel (handler : Bool) (turns : List Turn) :
    EndsWithChannel (run step (initial handler) turns).trace := by
  have hsound : (run step (initial handler) turns).Sound :=
    invariant (I := Sound) (fun s x h => h.step x) (sound_initial handler) turns
  exact hsound.ends

/-- A close frame of the peer and a text behind it come in one read, and another thread sends
once the close frame has been answered. -/
def closeThenText : List Turn :=
  [.arrive (.response [] ⟨[], none⟩), .perform 0, .perform 0, .perform 0,
    .arrive (.data ⟨[(⟨true, wsOpClose, false, [0, 0, 0, 0], 0⟩, []),
      (⟨true, wsOpText, false, [0, 0, 0, 0], 1⟩, [0x41])], none⟩),
    .perform 0, .perform 0, .perform 0, .perform 0, .perform 0,
    .call 0 (.sendData [0x42]), .perform 1, .perform 1,
    .perform 0, .perform 0, .perform 0, .perform 0]

/-- The text is delivered behind the close frame of the peer, and the data are handed over
behind the answer to it. -/
theorem not_endsAtOnce_closeThenText :
    ¬ EndsAtOnce (run step (initial true) closeThenText).trace := by
  have htrace : (run step (initial true) closeThenText).trace =
      [.started (.onConnectResult bcrSuccess []), .peerClosed, .handed wsOpClose,
        .handed wsOpBinary, .closing, .started (.onRecvText [0x41])] := by
    decide
  intro h
  have hmessage := h.noMessage
  rw [htrace] at hmessage
  revert hmessage
  unfold NoneAfter
  decide

end Conversation

end Sound

end Shape

end WS
