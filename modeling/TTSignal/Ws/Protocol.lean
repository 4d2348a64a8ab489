import TTSignal.Runs
import TTSignal.Traces
import TTSignal.Ws.Connection

/-!
# The order of the callbacks of a connection

A handler waits for the result of `Connect`. If it is a success, data and exceptions
follow until the connection is closed; if it is not, nothing follows. The flags of a
connection say in which of these phases its handler is, and every event asks for callbacks
that fit. A handler that is taken away sees a first part of them.
-/

namespace WS

/-- Where a handler stands. -/
inductive Phase where
  /-- The result of `Connect` has not come. -/
  | waiting
  | connected
  /-- Nothing may come any more. -/
  | over
  deriving DecidableEq

/-- A callback that carries what the peer has sent. -/
def Callback.IsData : Callback → Prop
  | .onRecvText _ | .onRecvData _ | .onException _ => True
  | _ => False

/-- A callback with the result of `Connect`. -/
def Callback.IsConnectResult : Callback → Prop
  | .onConnectResult _ _ => True
  | _ => False

/-- The connection has been made. -/
def Callback.IsSuccess : Callback → Prop
  | .onConnectResult result _ => result = bcrSuccess
  | _ => False

/-- The connection has not been made. -/
def Callback.IsFailure : Callback → Prop
  | .onConnectResult result _ => result ≠ bcrSuccess
  | _ => False

/-- The connection has been closed. -/
def Callback.IsClosed : Callback → Prop
  | .onClosed _ => True
  | _ => False

namespace Phase

/-- The phase after a callback, if it fits. -/
def next : Phase → Callback → Option Phase
  | .waiting, .onConnectResult result _ =>
    some (if result = bcrSuccess then .connected else .over)
  | .connected, .onRecvText _ => some .connected
  | .connected, .onRecvData _ => some .connected
  | .connected, .onException _ => some .connected
  | .connected, .onClosed _ => some .over
  | _, _ => none

/-- The phase after some callbacks, if they fit. -/
def run : Phase → List Callback → Option Phase
  | p, [] => some p
  | p, c :: cs => (p.next c).bind fun q => q.run cs

/-- Without callbacks the phase stays. -/
@[simp] theorem run_nil (p : Phase) : p.run [] = some p := rfl

/-- Callbacks behind each other. -/
theorem run_append (p : Phase) (first second : List Callback) :
    p.run (first ++ second) = (p.run first).bind fun q => q.run second := by
  induction first generalizing p with
  | nil => rfl
  | cons c cs ih =>
    rw [List.cons_append, run, run, Option.bind_assoc]
    exact congrArg _ (funext fun q => ih q)

/-- What fits has first parts that fit. -/
theorem isSome_of_append {p : Phase} {first second : List Callback}
    (h : (p.run (first ++ second)).isSome) : (p.run first).isSome := by
  rw [run_append] at h
  cases hfirst : p.run first with
  | none => simp [hfirst] at h
  | some q => rfl

/-- Data fit as long as the connection lasts. -/
theorem run_data {cs : List Callback} (h : ∀ c ∈ cs, c.IsData) :
    Phase.connected.run cs = some .connected := by
  induction cs with
  | nil => rfl
  | cons c cs ih =>
    have hcs := ih fun d hd => h d (List.mem_cons_of_mem _ hd)
    have hc := h c List.mem_cons_self
    cases c with
    | onConnectResult result headers => exact hc.elim
    | onClosed text => exact hc.elim
    | onRecvText text => exact hcs
    | onRecvData data => exact hcs
    | onException e => exact hcs

/-- When nothing fits, nothing comes. -/
theorem eq_nil_of_over {cs : List Callback} (h : (Phase.over.run cs).isSome) : cs = [] := by
  cases cs with
  | nil => rfl
  | cons c cs => simp [run, next] at h

/-- On a connection come data and then, at most once, its end. -/
theorem shape_of_connected {cs : List Callback} (h : (Phase.connected.run cs).isSome) :
    ∃ data last, cs = data ++ last ∧ (∀ c ∈ data, c.IsData) ∧
      (last = [] ∨ ∃ text, last = [.onClosed text]) := by
  induction cs with
  | nil => exact ⟨[], [], rfl, by simp, Or.inl rfl⟩
  | cons c cs ih =>
    have hdata (hc : c.IsData) (hcs : (Phase.connected.run cs).isSome) :
        ∃ data last, c :: cs = data ++ last ∧ (∀ c ∈ data, c.IsData) ∧
          (last = [] ∨ ∃ text, last = [.onClosed text]) := by
      obtain ⟨data, last, rfl, hall, hlast⟩ := ih hcs
      exact ⟨c :: data, last, rfl, List.forall_mem_cons.mpr ⟨hc, hall⟩, hlast⟩
    cases c with
    | onConnectResult result headers => simp [run, next] at h
    | onClosed text =>
      have hcs : cs = [] := eq_nil_of_over h
      exact ⟨[], [.onClosed text], by rw [hcs]; rfl, by simp, Or.inr ⟨text, rfl⟩⟩
    | onRecvText text => exact hdata trivial h
    | onRecvData data => exact hdata trivial h
    | onException e => exact hdata trivial h

/-- What a handler sees from the start: nothing, a failure, or a success with what comes
on a connection. -/
theorem shape_of_waiting {cs : List Callback} (h : (Phase.waiting.run cs).isSome) :
    cs = [] ∨ (∃ result headers, result ≠ bcrSuccess ∧ cs = [.onConnectResult result headers]) ∨
      ∃ headers data last, cs = .onConnectResult bcrSuccess headers :: (data ++ last) ∧
        (∀ c ∈ data, c.IsData) ∧ (last = [] ∨ ∃ text, last = [.onClosed text]) := by
  cases cs with
  | nil => exact Or.inl rfl
  | cons c cs =>
    cases c with
    | onConnectResult result headers =>
      by_cases hresult : result = bcrSuccess
      · subst hresult
        obtain ⟨data, last, rfl, hall, hlast⟩ := shape_of_connected h
        exact Or.inr (Or.inr ⟨headers, data, last, rfl, hall, hlast⟩)
      · simp only [run, next, hresult, if_false, Option.bind_some] at h
        rw [eq_nil_of_over h]
        exact Or.inr (Or.inl ⟨result, headers, hresult, rfl⟩)
    | onClosed text => simp [run, next] at h
    | onRecvText text => simp [run, next] at h
    | onRecvData data => simp [run, next] at h
    | onException e => simp [run, next] at h

end Phase

/-- What a handler may rely on. -/
structure KeepsProtocol (cs : List Callback) : Prop where
  /-- At most one result of `Connect` comes. -/
  oneResult : Traces.NoneAfter Callback.IsConnectResult Callback.IsConnectResult cs
  /-- Data and the end come behind a success. -/
  behindSuccess : Traces.Preceded (fun c => c.IsData ∨ c.IsClosed) Callback.IsSuccess cs
  /-- At most one end comes. -/
  oneEnd : Traces.NoneAfter Callback.IsClosed Callback.IsClosed cs
  /-- Nothing comes behind the end. -/
  endIsLast : Traces.NoneAfter Callback.IsClosed (fun _ => True) cs
  /-- Neither data nor an end come behind a failure. -/
  failureIsLast : Traces.NoneAfter Callback.IsFailure (fun c => c.IsData ∨ c.IsClosed) cs

/-- A callback with data is no end. -/
theorem Callback.IsData.not_isClosed {c : Callback} (h : c.IsData) : ¬ c.IsClosed := by
  cases c <;> simp_all [IsData, IsClosed]

/-- It is no result of the connect either. -/
theorem Callback.IsData.not_isConnectResult {c : Callback} (h : c.IsData) :
    ¬ c.IsConnectResult := by
  cases c <;> simp_all [IsData, IsConnectResult]

/-- A failure alone is a result and not an end. -/
theorem keepsProtocol_singleton {c : Callback} (hdata : ¬ c.IsData) (hclosed : ¬ c.IsClosed) :
    KeepsProtocol [c] := by
  refine ⟨List.pairwise_singleton _ _, ?_, List.pairwise_singleton _ _,
    List.pairwise_singleton _ _, List.pairwise_singleton _ _⟩
  refine Traces.preceded_nil.concat ?_
  rintro (h | h)
  · exact absurd h hdata
  · exact absurd h hclosed

/-- A success, data and at most one end keep the protocol. -/
theorem keepsProtocol_success (headers : HttpHeaderMap) {data last : List Callback}
    (hdata : ∀ c ∈ data, c.IsData) (hlast : last = [] ∨ ∃ text, last = [.onClosed text]) :
    KeepsProtocol (.onConnectResult bcrSuccess headers :: (data ++ last)) := by
  have hrest : ∀ c ∈ data ++ last, ¬ c.IsConnectResult := by
    intro c hc
    rcases List.mem_append.mp hc with hc | hc
    · exact (hdata c hc).not_isConnectResult
    · rcases hlast with rfl | ⟨text, rfl⟩
      · simp at hc
      · rw [List.mem_singleton.mp hc]
        exact id
  have hends : (data ++ last).Pairwise fun a _ => ¬ a.IsClosed := by
    refine List.pairwise_append.mpr ⟨?_, ?_, fun a ha _ _ => (hdata a ha).not_isClosed⟩
    · exact List.pairwise_of_forall_mem_list fun a ha _ _ => (hdata a ha).not_isClosed
    · rcases hlast with rfl | ⟨text, rfl⟩
      · exact List.Pairwise.nil
      · exact List.pairwise_singleton _ _
  constructor
  · refine List.pairwise_cons.mpr ⟨fun c hc _ => hrest c hc, ?_⟩
    exact List.pairwise_of_forall_mem_list fun a ha b _ ha' => absurd ha' (hrest a ha)
  · intro before c after hsplit hc
    cases before with
    | nil =>
      obtain ⟨rfl, -⟩ := List.cons.inj hsplit
      rcases hc with hc | hc <;> exact hc.elim
    | cons first before =>
      obtain ⟨rfl, -⟩ := List.cons.inj hsplit
      exact ⟨_, List.mem_cons_self, rfl⟩
  · exact List.pairwise_cons.mpr ⟨fun _ _ h => h.elim, hends.imp fun h h' => absurd h' h⟩
  · exact List.pairwise_cons.mpr ⟨fun _ _ h => h.elim, hends.imp fun h h' => absurd h' h⟩
  · refine List.pairwise_cons.mpr ⟨fun _ _ h => absurd rfl h, ?_⟩
    refine List.pairwise_of_forall_mem_list fun a ha b _ hfailed => ?_
    have hresult : a.IsConnectResult := by
      cases a <;> simp_all [Callback.IsFailure, Callback.IsConnectResult]
    exact absurd hresult (hrest a ha)

/-- Callbacks that fit from the start keep the protocol. -/
theorem keepsProtocol_of_fits {cs : List Callback} (h : (Phase.waiting.run cs).isSome) :
    KeepsProtocol cs := by
  rcases Phase.shape_of_waiting h with rfl | ⟨result, headers, hresult, rfl⟩ |
    ⟨headers, data, last, rfl, hdata, hlast⟩
  · exact ⟨Traces.noneAfter_nil, Traces.preceded_nil, Traces.noneAfter_nil,
      Traces.noneAfter_nil, Traces.noneAfter_nil⟩
  · exact keepsProtocol_singleton id id
  · exact keepsProtocol_success headers hdata hlast

namespace Session

variable {L P : Type} {E : Parsers L P} {s t u : Session L P}

/-- The flags that say where the handler stands. -/
def flags (s : Session L P) : Bool × Bool × Bool × Bool :=
  (s.connectNotified, s.connectedOk, s.delivered, s.upgraded)

/-- The phase of the handler. -/
def phase (s : Session L P) : Phase :=
  if ¬ s.connectNotified then .waiting
  else if s.connectedOk ∧ ¬ s.delivered then .connected
  else .over

/-- The flags fit together. -/
structure Coherent (s : Session L P) : Prop where
  /-- A result has been announced by a success or at the end. -/
  notified : s.connectNotified = true ↔ s.connectedOk = true ∨ s.delivered = true
  /-- The change of protocols has been announced. -/
  upgraded : s.upgraded = true → s.connectNotified = true

/-- The flags and the channel are kept, and callbacks of the given kind and no release are
asked for. -/
def Asks (K : Callback → Prop) (s t : Session L P) : Prop :=
  t.flags = s.flags ∧ t.channel = s.channel ∧
    ∃ new, t.effects = s.effects ++ new ∧
      ∀ e ∈ new, e ≠ .release ∧ ∀ c ∈ e.callback?, K c

/-- The flags are kept, and no callback is asked for. -/
abbrev Quiet : Session L P → Session L P → Prop := Asks fun _ => False

/-- The callbacks that are asked for fit the phase, the flags stay coherent, and no release is
asked for. -/
def Follows (s t : Session L P) : Prop :=
  s.Coherent → t.Coherent ∧ t.channel = s.channel ∧
    ∃ new, t.effects = s.effects ++ new ∧ .release ∉ new ∧
      s.phase.run (new.filterMap Effect.callback?) = some t.phase

variable {K : Callback → Prop}

/-- A session asks for nothing by itself. -/
theorem Asks.refl (s : Session L P) : Asks K s s := ⟨rfl, rfl, [], by simp, by simp⟩

/-- What is asked for in two parts is asked for together. -/
theorem Asks.trans (h : Asks K s t) (h' : Asks K t u) : Asks K s u := by
  obtain ⟨hflags, hchannel, new, hnew, hkind⟩ := h
  obtain ⟨hflags', hchannel', new', hnew', hkind'⟩ := h'
  refine ⟨hflags'.trans hflags, hchannel'.trans hchannel, new ++ new',
    by rw [hnew', hnew, List.append_assoc], ?_⟩
  intro e he
  exact (List.mem_append.mp he).elim (hkind e) (hkind' e)

/-- Other fields do not matter. -/
theorem Asks.of_same (hflags : t.flags = s.flags) (hchannel : t.channel = s.channel)
    (heffects : t.effects = s.effects) : Asks K s t :=
  ⟨hflags, hchannel, [], by simp [heffects], by simp⟩

/-- An effect that is no release and no callback of another kind is asked for. -/
theorem asks_ask (s : Session L P) {e : Effect} (hrelease : e ≠ .release)
    (he : ∀ c ∈ e.callback?, K c) : Asks K s (s.ask e) := by
  refine ⟨rfl, rfl, [e], rfl, ?_⟩
  intro e' he'
  rw [List.mem_singleton.mp he']
  exact ⟨hrelease, he⟩

/-- Closing the channel asks for nothing. -/
theorem asks_closeChannel (s : Session L P) : Asks K s s.closeChannel := by
  unfold closeChannel
  split
  · exact asks_ask s (by simp) (by simp [Effect.callback?])
  · exact Asks.refl s

/-- A failure asks for nothing but the close of the channel. -/
theorem asks_fail (s : Session L P) (result : BCRESULT) (message : String) :
    Asks K s (s.fail result message) := by
  unfold fail
  refine Asks.trans ?_ (asks_closeChannel _)
  split
  · exact Asks.of_same rfl rfl rfl
  · exact Asks.refl s

/-- Sending a frame asks for nothing else. -/
theorem asks_sendFrame (s : Session L P) (opcode : UInt8) (payload : List UInt8) :
    Asks K s (s.sendFrame opcode payload) := by
  unfold sendFrame
  split
  · exact Asks.refl s
  split
  · exact Asks.refl s
  split
  · exact Asks.refl s
  · exact asks_ask s (by simp) (by simp [Effect.callback?])

/-- Nor does sending a close frame. -/
theorem asks_sendCloseFrame (s : Session L P) (code : UInt16) :
    Asks K s (s.sendCloseFrame code) := by
  unfold sendCloseFrame
  split
  · exact Asks.refl s
  · exact (Asks.of_same rfl rfl rfl).trans (asks_sendFrame _ _ _)

/-- Nor does `Close`. -/
theorem asks_close (s : Session L P) (result : BCRESULT) : Asks K s (s.close result) := by
  have hmark : Asks K s (s.markClosed result) := Asks.of_same rfl rfl rfl
  unfold close
  refine Asks.trans ?_ (asks_closeChannel _)
  split
  · exact hmark.trans (asks_sendCloseFrame _ _)
  · exact hmark

/-- A frame asks for a callback with data or for none. -/
theorem asks_onRecvWSFrame (s : Session L P) (frame : Frame) :
    Asks Callback.IsData s (s.onRecvWSFrame frame) := by
  unfold onRecvWSFrame
  split
  · exact asks_ask s (by simp) (by simp [Effect.callback?, Callback.IsData])
  split
  · exact asks_ask s (by simp) (by simp [Effect.callback?, Callback.IsData])
  split
  · exact asks_sendFrame _ _ _
  split
  · refine Asks.trans ?_ (asks_closeChannel _)
    exact (Asks.of_same rfl rfl rfl).trans (asks_sendCloseFrame _ _)
  · exact Asks.refl s

/-- Frames ask for callbacks with data. -/
theorem asks_frames (s : Session L P) (frames : List Frame) :
    Asks Callback.IsData s (frames.foldl onRecvWSFrame s) := by
  induction frames generalizing s with
  | nil => exact Asks.refl s
  | cons frame frames ih => exact (asks_onRecvWSFrame s frame).trans (ih _)

/-- An exception of the parser asks for callbacks with data at most. -/
theorem asks_onThrown (s : Session L P) (e : Thrown) :
    Asks Callback.IsData s (s.onThrown e) := by
  cases e with
  | bcException e =>
    have hask := asks_ask (K := Callback.IsData) s (e := .deliver (.onException e))
      (by simp) (by simp [Effect.callback?, Callback.IsData])
    exact (hask.trans (asks_sendCloseFrame _ _)).trans (asks_fail _ _ _)
  | other => exact asks_fail _ _ _

/-- What the parser hands over asks for callbacks with data. -/
theorem asks_onParsed (s : Session L P) (r : List Frame × Option Thrown × P) :
    Asks Callback.IsData s (s.onParsed r) := by
  obtain ⟨frames, thrown, parser⟩ := r
  have hframes : Asks Callback.IsData s (frames.foldl onRecvWSFrame { s with parser := parser }) :=
    (Asks.of_same rfl rfl rfl).trans (asks_frames _ frames)
  cases thrown with
  | none => exact hframes
  | some e => exact hframes.trans (asks_onThrown _ e)

/-- Equal flags are coherent together. -/
theorem Coherent.of_flags (h : s.Coherent) (hflags : t.flags = s.flags) : t.Coherent := by
  simp only [flags, Prod.mk.injEq] at hflags
  obtain ⟨hnotified, hok, hdelivered, hupgraded⟩ := hflags
  constructor
  · rw [hnotified, hok, hdelivered]
    exact h.notified
  · rw [hupgraded, hnotified]
    exact h.upgraded

/-- They stand for the same phase. -/
theorem phase_of_flags (hflags : t.flags = s.flags) : t.phase = s.phase := by
  simp only [flags, Prod.mk.injEq] at hflags
  obtain ⟨hnotified, hok, hdelivered, -⟩ := hflags
  unfold phase
  rw [hnotified, hok, hdelivered]

/-- A session follows itself. -/
theorem Follows.refl (s : Session L P) : Follows s s :=
  fun h => ⟨h, rfl, [], by simp, by simp, rfl⟩

/-- What follows in two parts follows together. -/
theorem Follows.trans (h : Follows s t) (h' : Follows t u) : Follows s u := by
  intro hs
  obtain ⟨ht, hchannel, new, hnew, hrelease, hrun⟩ := h hs
  obtain ⟨hu, hchannel', new', hnew', hrelease', hrun'⟩ := h' ht
  refine ⟨hu, hchannel'.trans hchannel, new ++ new', by rw [hnew', hnew, List.append_assoc],
    ?_, ?_⟩
  · rw [List.mem_append]
    exact fun h => h.elim hrelease hrelease'
  rw [List.filterMap_append, Phase.run_append, hrun, Option.bind_some, hrun']

/-- The callbacks asked for are of the given kind. -/
theorem kind_of_mem {new : List Effect} (h : ∀ e ∈ new, e ≠ .release ∧ ∀ c ∈ e.callback?, K c) :
    ∀ c ∈ new.filterMap Effect.callback?, K c := by
  intro c hc
  obtain ⟨e, he, hce⟩ := List.mem_filterMap.mp hc
  exact (h e he).2 c hce

/-- Whatever asks for no callback fits. -/
theorem Quiet.follows (h : Quiet s t) : Follows s t := by
  obtain ⟨hflags, hchannel, new, hnew, hnone⟩ := h
  intro hs
  refine ⟨hs.of_flags hflags, hchannel, new, hnew, fun h => (hnone _ h).1 rfl, ?_⟩
  rw [List.eq_nil_iff_forall_not_mem.mpr (kind_of_mem hnone), phase_of_flags hflags]
  rfl

/-- Data fit on a connection. -/
theorem Asks.follows (h : Asks Callback.IsData s t) (hupgraded : s.upgraded = true)
    (hdelivered : s.delivered = false) : Follows s t := by
  obtain ⟨hflags, hchannel, new, hnew, hdata⟩ := h
  intro hs
  refine ⟨hs.of_flags hflags, hchannel, new, hnew, fun h => (hdata _ h).1 rfl, ?_⟩
  have hphase : s.phase = .connected := by
    have hnotified := hs.upgraded hupgraded
    have hok : s.connectedOk = true := by simpa [hdelivered] using hs.notified.mp hnotified
    simp [phase, hnotified, hok, hdelivered]
  rw [phase_of_flags hflags, hphase]
  exact Phase.run_data (kind_of_mem hdata)

/-- Scheduling a check asks for nothing. -/
theorem asks_scheduleCheck (s : Session L P) (now : ℕ) : Asks K s (s.scheduleCheck now) := by
  unfold scheduleCheck
  split
  · exact Asks.of_same rfl rfl rfl
  · exact Asks.refl s

/-- The first result is asked for. -/
theorem deliverConnectResult_of_not_notified {result : BCRESULT} (h : s.connectNotified = false) :
    s.deliverConnectResult result =
      (s.notify result).ask (.deliver (.onConnectResult result s.response.hsHeaders)) := by
  unfold deliverConnectResult
  rw [if_neg (by rw [h]; decide)]

/-- The first acceptance of a response is announced as a success. -/
theorem follows_accept (s : Session L P) (now : ℕ) : Follows s (s.accept now) := by
  refine Follows.trans ?_ (Quiet.follows (asks_scheduleCheck _ now))
  intro hs
  cases hnotified : s.connectNotified with
  | true =>
    have hsame : s.upgrade.deliverConnectResult bcrSuccess = s.upgrade := if_pos hnotified
    rw [hsame]
    exact ⟨⟨hs.notified, fun _ => hnotified⟩, rfl, [], (List.append_nil _).symm, by simp, rfl⟩
  | false =>
    obtain ⟨hok, hdelivered⟩ : s.connectedOk = false ∧ s.delivered = false := by
      have h := hs.notified
      rw [hnotified] at h
      simpa using h
    have hphase : s.phase = .waiting := by simp [phase, hnotified]
    have hnext : (s.upgrade.notify bcrSuccess).phase = .connected := by
      simp [phase, notify, upgrade, hdelivered]
    rw [deliverConnectResult_of_not_notified (s := s.upgrade) hnotified]
    refine ⟨⟨by simp [ask, notify], fun _ => rfl⟩, rfl, _, rfl, by simp, ?_⟩
    rw [hphase]
    exact congrArg some hnext.symm

/-- A failure is announced before the end if there was no success. -/
theorem follows_failure {result : BCRESULT} (hdelivered : s.delivered = false)
    (hok : s.connectedOk = false) (hresult : result ≠ bcrSuccess) :
    Follows s (s.ended.deliverConnectResult result) := by
  intro hs
  have hnotified : s.connectNotified = false := by
    have h := hs.notified
    rw [hdelivered, hok] at h
    simpa using h
  have hphase : s.phase = .waiting := by simp [phase, hnotified]
  have hnext : (s.ended.notify result).phase = .over := by simp [phase, notify, ended]
  rw [deliverConnectResult_of_not_notified (s := s.ended) hnotified]
  refine ⟨⟨by simp [ask, notify, ended], fun _ => rfl⟩, rfl, _, rfl, by simp, ?_⟩
  rw [hphase]
  change (some (if result = bcrSuccess then Phase.connected else .over)).bind _ = _
  rw [if_neg hresult]
  exact congrArg some hnext.symm

/-- The end of a connection is announced. -/
theorem follows_end (hdelivered : s.delivered = false) (hok : s.connectedOk = true)
    (text : String) : Follows s (s.ended.ask (.deliver (.onClosed text))) := by
  intro hs
  have hnotified : s.connectNotified = true := hs.notified.mpr (Or.inl hok)
  have hphase : s.phase = .connected := by simp [phase, hnotified, hok, hdelivered]
  have hnext : s.ended.phase = .over := by simp [phase, ended, hnotified]
  refine ⟨⟨by simp [ask, ended, hnotified], fun _ => hnotified⟩, rfl, _, rfl, by simp, ?_⟩
  rw [hphase]
  exact congrArg some hnext.symm

/-- The end is announced once: as a failure before there was a success, else as it is. -/
theorem follows_deliverOnce (s : Session L P) (closeResult : BCRESULT) (closeReason : String) :
    Follows s (s.deliverOnce E closeResult closeReason) := by
  unfold deliverOnce
  split
  · exact Follows.refl s
  rename_i hdelivered
  rw [Bool.not_eq_true] at hdelivered
  unfold deliverEnd
  cases hok : s.connectedOk with
  | true =>
    rw [if_neg (by simpa [ended] using hok)]
    exact follows_end hdelivered hok _
  | false =>
    rw [if_pos (by simpa [ended] using hok)]
    refine follows_failure hdelivered hok ?_
    split
    · decide
    · assumption

/-- The outcome of the check follows. -/
theorem follows_checked (s : Session L P) (c : Checked) : Follows s (s.checked c).2 := by
  unfold checked
  split
  · exact Quiet.follows (Asks.of_same rfl rfl rfl)
  · exact Quiet.follows ((Asks.of_same rfl rfl rfl).trans (asks_fail _ _ _))

/-- The check of the response follows. -/
theorem follows_checkResponse (s : Session L P) (now : ℕ) :
    Follows s (s.checkResponse E now).2 := by
  unfold checkResponse
  split
  · exact Quiet.follows (asks_fail _ _ _)
  · exact follows_accept s now

/-- The end of the headers follows. -/
theorem follows_onHeadersComplete (s : Session L P) (now : ℕ) (statusCode : ℤ) :
    Follows s (s.onHeadersComplete E now statusCode).2 := by
  unfold onHeadersComplete
  split
  · exact Quiet.follows ((Asks.of_same rfl rfl rfl).trans (asks_fail _ _ _))
  · rename_i r _
    have hsame : Quiet s (s.withResponse { r with hsStatus := statusCode }) :=
      Asks.of_same rfl rfl rfl
    exact hsame.follows.trans (follows_checkResponse _ now)

/-- Every callback of `llhttp` asks for what fits. -/
theorem follows_onHttp (s : Session L P) (now : ℕ) (callback : HttpCallback) :
    Follows s (s.onHttp E now callback).2 := by
  cases callback with
  | onUrl data => exact Follows.refl s
  | onStatus data => exact follows_checked s _
  | onHeaderField data => exact follows_checked s _
  | onHeaderValue data => exact follows_checked s _
  | onHeadersComplete statusCode => exact follows_onHeadersComplete s now statusCode
  | onBody data => exact Follows.refl s
  | onMessageComplete => exact Follows.refl s

/-- Whatever `llhttp` does with the data fits, by induction on its callbacks. -/
theorem follows_runHttp (now : ℕ) (x : Execution L) (s : Session L P) :
    Follows s (s.runHttp E now x).1 := by
  induction x generalizing s with
  | done err pos parser => exact Quiet.follows (Asks.of_same rfl rfl rfl)
  | call callback next ih => exact (follows_onHttp s now callback).trans (ih _ _)

/-- The flag of the end is out of reach of `llhttp`. -/
theorem deliverConnectResult_delivered (s : Session L P) (result : BCRESULT) :
    (s.deliverConnectResult result).delivered = s.delivered := by
  unfold deliverConnectResult
  split <;> rfl

/-- What is asked for has not been delivered yet. -/
theorem Asks.delivered (h : Asks K s t) : t.delivered = s.delivered := by
  have hflags := h.1
  simp only [flags, Prod.mk.injEq] at hflags
  exact hflags.2.2.1

/-- The outcome of the check delivers nothing of the body. -/
theorem checked_delivered (s : Session L P) (c : Checked) :
    (s.checked c).2.delivered = s.delivered := by
  unfold checked
  split
  · rfl
  · exact (asks_fail (K := fun _ => False) _ _ _).delivered

/-- Nor does the check of the response. -/
theorem checkResponse_delivered (s : Session L P) (now : ℕ) :
    (s.checkResponse E now).2.delivered = s.delivered := by
  unfold checkResponse
  split
  · exact (asks_fail (K := fun _ => False) _ _ _).delivered
  · unfold accept
    rw [(asks_scheduleCheck (K := fun _ => False) _ _).delivered,
      deliverConnectResult_delivered]
    rfl

/-- Nor does the end of the headers. -/
theorem onHeadersComplete_delivered (s : Session L P) (now : ℕ) (statusCode : ℤ) :
    (s.onHeadersComplete E now statusCode).2.delivered = s.delivered := by
  unfold onHeadersComplete
  split
  · exact (asks_fail (K := fun _ => False) _ _ _).delivered
  · rw [checkResponse_delivered]
    rfl

/-- Nor does a callback of the HTTP parser. -/
theorem onHttp_delivered (s : Session L P) (now : ℕ) (callback : HttpCallback) :
    (s.onHttp E now callback).2.delivered = s.delivered := by
  cases callback with
  | onStatus data => exact checked_delivered s _
  | onHeaderField data => exact checked_delivered s _
  | onHeaderValue data => exact checked_delivered s _
  | onHeadersComplete statusCode => exact onHeadersComplete_delivered s now statusCode
  | onUrl data => rfl
  | onBody data => rfl
  | onMessageComplete => rfl

/-- Nor do its callbacks together. -/
theorem runHttp_delivered (now : ℕ) (x : Execution L) (s : Session L P) :
    (s.runHttp E now x).1.delivered = s.delivered := by
  induction x generalizing s with
  | done err pos parser => rfl
  | call callback next ih => exact (ih _ _).trans (onHttp_delivered s now callback)

/-- The rest of the first read follows. -/
theorem follows_feedRest (s : Session L P) (hdelivered : s.delivered = false)
    (data : List UInt8) (consumed : ℕ) : Follows s (s.feedRest E data consumed) := by
  unfold feedRest
  split
  · rename_i h
    exact (asks_onParsed s _).follows h.1 hdelivered
  · exact Follows.refl s

/-- What comes behind the HTTP parser follows. -/
theorem follows_afterHttp (s : Session L P) (hdelivered : s.delivered = false)
    (data : List UInt8) (err : HttpErrno) (pos : Option ℕ) :
    Follows s (s.afterHttp E data err pos) := by
  have hfail (result : BCRESULT) (message : String) : Follows s (s.fail result message) :=
    Quiet.follows (asks_fail s result message)
  cases err with
  | ok => exact follows_feedRest s hdelivered data _
  | pausedUpgrade =>
    simp only [afterHttp]
    split
    · split <;> exact hfail _ _
    · have hsame : Quiet s (s.resume E) := Asks.of_same rfl rfl rfl
      exact hsame.follows.trans (follows_feedRest (s.resume E) hdelivered data _)
  | other name reason =>
    simp only [afterHttp]
    split <;> exact hfail _ _

/-- Data that come ask for what fits. -/
theorem follows_onChannelData (s : Session L P) (now : ℕ) (data : List UInt8) :
    Follows s (s.onChannelData E now data) := by
  have htouch : Quiet s (s.touch now) := Asks.of_same rfl rfl rfl
  unfold onChannelData
  split
  · exact htouch.follows
  rename_i hdelivered
  rw [Bool.not_eq_true] at hdelivered
  split
  · rename_i hupgraded
    exact htouch.follows.trans ((asks_onParsed (s.touch now) _).follows hupgraded hdelivered)
  · have hrun := follows_runHttp (E := E) now (E.execute (s.touch now).http data) (s.touch now)
    have hrest := follows_afterHttp (E := E)
      ((s.touch now).runHttp E now (E.execute (s.touch now).http data)).1
      ((runHttp_delivered now _ _).trans hdelivered) data
      ((s.touch now).runHttp E now (E.execute (s.touch now).http data)).2.1
      ((s.touch now).runHttp E now (E.execute (s.touch now).http data)).2.2
    exact htouch.follows.trans (hrun.trans hrest)

/-- A channel that is ready follows. -/
theorem follows_onChannelReady (s : Session L P) (now : ℕ) (sent scheduled : BCRESULT) :
    Follows s (s.onChannelReady now sent scheduled) := by
  have htouch : Quiet s (s.touch now) := Asks.of_same rfl rfl rfl
  have hask : Quiet s ((s.touch now).ask (.sendRequest s.reqText)) :=
    htouch.trans (asks_ask _ (by simp) (by simp [Effect.callback?]))
  unfold onChannelReady
  split
  · exact Quiet.follows (htouch.trans (asks_fail _ _ _))
  split
  · exact Quiet.follows (hask.trans (asks_fail _ _ _))
  · exact Quiet.follows (hask.trans (Asks.of_same rfl rfl rfl))

/-- The check of the activity follows. -/
theorem follows_onActiveCheck (s : Session L P) (now : ℕ) :
    Follows s (s.onActiveCheck now) := by
  unfold onActiveCheck
  split
  · exact Quiet.follows (asks_close s _)
  split
  · exact Quiet.follows ((Asks.of_same rfl rfl rfl).trans (asks_sendFrame _ _ _))
  · exact Follows.refl s

/-- Every event asks for callbacks that fit where the handler stands, and may end with a
release. -/
theorem follows_onEvent (s : Session L P) (now : ℕ) (e : ChannelEvent) (hs : s.Coherent) :
    (s.onEvent E now e).Coherent ∧ (s.onEvent E now e).channel = s.channel ∧
      ∃ new last, (s.onEvent E now e).effects = s.effects ++ (new ++ last) ∧
        .release ∉ new ∧ (last = [] ∨ last = [.release]) ∧
        s.phase.run (new.filterMap Effect.callback?) = some (s.onEvent E now e).phase := by
  have hplain {t : Session L P} (h : Follows s t) :
      t.Coherent ∧ t.channel = s.channel ∧ ∃ new last, t.effects = s.effects ++ (new ++ last) ∧
        .release ∉ new ∧ (last = [] ∨ last = [.release]) ∧
        s.phase.run (new.filterMap Effect.callback?) = some t.phase := by
    obtain ⟨ht, hchannel, new, hnew, hrelease, hrun⟩ := h hs
    exact ⟨ht, hchannel, new, [], by rw [List.append_nil, hnew], hrelease, Or.inl rfl, hrun⟩
  cases e with
  | ready sent scheduled => exact hplain (follows_onChannelReady s now sent scheduled)
  | data data => exact hplain (follows_onChannelData s now data)
  | closed result reason =>
    obtain ⟨ht, hchannel, new, hnew, hrelease, hrun⟩ :=
      follows_deliverOnce (E := E) s result reason hs
    refine ⟨ht.of_flags rfl, hchannel, new, [.release], ?_, hrelease, Or.inr rfl, hrun⟩
    rw [← List.append_assoc, ← hnew]
    rfl
  | handshakeTimeout =>
    apply hplain
    simp only [onEvent]
    split
    · exact Quiet.follows (asks_fail s _ _)
    · exact Follows.refl s
  | activeCheck =>
    apply hplain
    simp only [onEvent]
    split
    · exact follows_onActiveCheck s now
    · exact Follows.refl s

end Session

namespace WSConnection

open Session

variable {L P : Type} {E : Parsers L P} {c : WSConnection L P}

/-- The callback that is about to start. -/
def armed (c : WSConnection L P) : List Callback :=
  match c.dispatch with
  | .armed callback => [callback]
  | _ => []

/-- What the handler has seen and is about to see fits; while there is a handler, it fits
together with what is left to be done, up to the phase of the session. -/
structure Orderly (c : WSConnection L P) : Prop where
  /-- The flags fit together. -/
  coherent : c.session.Coherent
  /-- Nothing is asked for between the events. -/
  settled : c.session.effects = []
  /-- What has started and what is about to start fits. -/
  fits : (Phase.waiting.run (c.callbacks ++ c.armed)).isSome
  /-- The phase of the session is the one behind everything that is left to be done. -/
  current : c.handler = true →
    Phase.waiting.run (c.callbacks ++ c.armed ++ c.pending.filterMap Effect.callback?) =
      some c.session.phase

/-- A connection that has been created is waiting. -/
theorem orderly_create (config : Config) (http : L) (parser : P) (handler : Bool) :
    (create config http parser handler).Orderly := by
  refine ⟨⟨by simp [create], by simp [create]⟩, rfl, rfl, fun _ => rfl⟩

/-- What keeps the flags and the callbacks keeps the order. -/
theorem Orderly.of_same {d : WSConnection L P} (h : c.Orderly)
    (hflags : d.session.flags = c.session.flags) (heffects : d.session.effects = [])
    (hcallbacks : d.callbacks ++ d.armed = c.callbacks ++ c.armed)
    (hpending : d.pending.filterMap Effect.callback? = c.pending.filterMap Effect.callback?)
    (hhandler : d.handler = true → c.handler = true) : d.Orderly := by
  refine ⟨h.coherent.of_flags hflags, heffects, ?_, ?_⟩
  · rw [hcallbacks]
    exact h.fits
  · intro hd
    rw [hcallbacks, hpending, phase_of_flags hflags]
    exact h.current (hhandler hd)

/-- A call of another thread asks for no callback. -/
theorem Orderly.meanwhile (h : c.Orderly) {f : Session L P → Session L P}
    (hquiet : Quiet c.session (f c.session)) : (c.meanwhile f).Orderly := by
  obtain ⟨hflags, -, new, hnew, hnone⟩ := hquiet
  refine h.of_same hflags rfl ?_ rfl id
  have htrace : (c.meanwhile f).callbacks = c.callbacks := by
    rw [h.settled, List.nil_append] at hnew
    unfold callbacks WSConnection.meanwhile
    rw [List.filterMap_append, hnew, List.eq_nil_iff_forall_not_mem.mpr (kind_of_mem hnone),
      List.append_nil]
  rw [htrace]
  rfl

/-- An event asks for what fits behind everything that came before. -/
theorem Orderly.handle (h : c.Orderly) (hpending : c.pending = []) (now : ℕ)
    (e : ChannelEvent) : (c.handle E now e).Orderly := by
  obtain ⟨hcoherent, -, new, last, hnew, -, hlast, hrun⟩ :=
    follows_onEvent (E := E) c.session now e h.coherent
  rw [h.settled, List.nil_append] at hnew
  have hnone : last.filterMap Effect.callback? = [] := by
    rcases hlast with rfl | rfl <;> rfl
  refine ⟨hcoherent.of_flags rfl, rfl, h.fits, ?_⟩
  intro hhandler
  have hcurrent := h.current hhandler
  rw [hpending, List.filterMap_nil, List.append_nil] at hcurrent
  change Phase.waiting.run (c.callbacks ++ c.armed ++
    (c.session.onEvent E now e).effects.filterMap Effect.callback?) = _
  rw [Phase.run_append, hcurrent, hnew, List.filterMap_append, hnone, List.append_nil]
  exact hrun

/-- Carrying out an effect keeps the order: a callback is started in its turn, or dropped
with all that follow. -/
theorem Orderly.perform (h : c.Orderly) {e : Effect} {rest : List Effect}
    (hpending : c.pending = e :: rest) (hdispatch : c.dispatch = .idle) :
    ({ c with pending := rest }.perform e).Orderly := by
  have harmed : c.armed = [] := by simp [armed, hdispatch]
  have hother (he : e.callback? = none) (d : WSConnection L P)
      (hsession : d.session.flags = c.session.flags) (heffects : d.session.effects = [])
      (htrace : d.trace = c.trace ++ [e]) (hd : d.dispatch = c.dispatch)
      (hrest : d.pending = rest) (hhandler : d.handler = c.handler) : d.Orderly := by
    refine h.of_same hsession heffects ?_ ?_ (by rw [hhandler]; exact id)
    · simp [callbacks, armed, htrace, hd, he]
    · simp [hrest, hpending, he]
  cases e with
  | deliver callback =>
    by_cases hhandler : c.handler = true
    · have hcurrent := h.current hhandler
      rw [harmed, hpending, List.append_nil] at hcurrent
      have hsplit : c.callbacks ++ [callback] ++ rest.filterMap Effect.callback? =
          c.callbacks ++ (Effect.deliver callback :: rest).filterMap Effect.callback? := by
        simp [Effect.callback?]
      simp only [WSConnection.perform, hhandler, if_true]
      refine ⟨h.coherent, h.settled, ?_, ?_⟩
      · have hall : (Phase.waiting.run
            (c.callbacks ++ [callback] ++ rest.filterMap Effect.callback?)).isSome := by
          rw [hsplit, hcurrent]
          rfl
        exact Phase.isSome_of_append hall
      · intro _
        change Phase.waiting.run
          (c.callbacks ++ [callback] ++ rest.filterMap Effect.callback?) = _
        rw [hsplit]
        exact hcurrent
    · have hdropped : ({ c with pending := rest } : WSConnection L P).perform (.deliver callback) =
          { c with pending := rest } := by
        simp [WSConnection.perform, hhandler]
      rw [hdropped]
      refine ⟨h.coherent, h.settled, h.fits, ?_⟩
      intro hd
      exact absurd hd hhandler
  | release => exact hother rfl _ rfl h.settled rfl rfl rfl rfl
  | sendRequest request => exact hother rfl _ rfl h.settled rfl rfl rfl rfl
  | sendFrame opcode payload => exact hother rfl _ rfl h.settled rfl rfl rfl rfl
  | closeChannel => exact hother rfl _ rfl h.settled rfl rfl rfl rfl

/-- A handler that is taken away has seen a first part. -/
theorem Orderly.clearHandlerLocked (h : c.Orderly) : c.clearHandlerLocked.Orderly :=
  h.of_same rfl h.settled rfl rfl fun hd => by cases hd

/-- Whatever happens keeps the order. -/
theorem Orderly.step (h : c.Orderly) (i : Input) : (c.step E i).Orderly := by
  cases i with
  | connect =>
    simp only [WSConnection.step, WSConnection.connect]
    split
    · exact h
    · exact h.of_same rfl h.settled rfl rfl id
  | prepare now prepared =>
    simp only [WSConnection.step]
    split
    · cases prepared with
      | refused => exact h.of_same rfl h.settled rfl rfl id
      | request secKey reqText timeOut => exact h.of_same rfl h.settled rfl rfl id
    · exact h
  | openReturned result =>
    simp only [WSConnection.step, WSConnection.openReturned]
    split
    · split <;> exact h.of_same rfl h.settled rfl rfl id
    · exact h
  | checkClosing closing =>
    simp only [WSConnection.step, WSConnection.checkClosing]
    split
    · have hd : ({ c with connecting := .idle } : WSConnection L P).Orderly :=
        h.of_same rfl h.settled rfl rfl id
      split
      · exact hd.meanwhile (asks_closeChannel _)
      · exact hd
    · exact h
  | event now e =>
    simp only [WSConnection.step]
    split
    · rename_i hfree
      exact h.handle hfree.2.2.1 now e
    · exact h
  | perform =>
    simp only [WSConnection.step]
    split
    · rename_i e rest hdispatch hpending
      exact h.perform hpending hdispatch
    · exact h
  | start =>
    simp only [WSConnection.step]
    split
    · rename_i callback hdispatch
      refine h.of_same rfl h.settled ?_ rfl id
      simp [callbacks, armed, hdispatch, Effect.callback?]
    · exact h
  | callbackReturned =>
    simp only [WSConnection.step]
    split
    · rename_i hdispatch
      refine h.of_same rfl h.settled ?_ rfl id
      simp [callbacks, armed, hdispatch]
    · exact h
  | close result => exact h.meanwhile (f := fun s => s.close result) (asks_close _ result)
  | send opcode payload =>
    exact h.meanwhile (f := fun s => s.sendFrame opcode payload) (asks_sendFrame _ opcode payload)
  | clearHandler => exact h.clearHandlerLocked

/-- Every run keeps the order. -/
theorem orderly_run (config : Config) (http : L) (parser : P) (handler : Bool)
    (inputs : List Input) :
    (Runs.run (step E) (create config http parser handler) inputs).Orderly :=
  Runs.invariant (fun _ i h => h.step i) (orderly_create config http parser handler) inputs

/-- Whatever the channel, the parsers, the application and the connector do, and in whatever
order, the callbacks that start keep the protocol. -/
theorem callbacks_keep_protocol (E : Parsers L P) (config : Config) (http : L) (parser : P)
    (handler : Bool) (inputs : List Input) :
    KeepsProtocol (Runs.run (step E) (create config http parser handler) inputs).callbacks :=
  keepsProtocol_of_fits
    (Phase.isSome_of_append (orderly_run config http parser handler inputs).fits)

end WSConnection

end WS
