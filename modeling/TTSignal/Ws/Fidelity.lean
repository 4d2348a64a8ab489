import TTSignal.Ws.BuildFrame
import TTSignal.Ws.Protocol

/-!
# Messages from the wire to the handler

Behind the response head the bytes of the stream are frames. Wherever the stream is cut, the
connection hands the bytes of the head to `llhttp` and all bytes behind them to the frame
parser, and every frame becomes one callback. So the handler sees the messages that the peer
has framed, one after the other; of a text it sees what a C string shows.
-/

namespace WS

open BC Runs SMP

/-- What of a piece is behind the first bytes. -/
def behindOne {α : Type} (n : ℕ) (chunk : List α) : List (List α) :=
  if 0 < n ∧ chunk.length ≤ n then [] else [chunk.drop n]

/-- The pieces of a stream behind its first bytes. -/
def behind {α : Type} : ℕ → List (List α) → List (List α)
  | _, [] => []
  | n, chunk :: chunks => behindOne n chunk ++ behind (n - chunk.length) chunks

/-- Pieces behind the first bytes are pieces of what is behind the first bytes. -/
theorem flatten_behind {α : Type} (n : ℕ) (chunks : List (List α)) :
    (behind n chunks).flatten = chunks.flatten.drop n := by
  induction chunks generalizing n with
  | nil => simp [behind]
  | cons chunk chunks ih =>
    rw [behind, List.flatten_append, ih, List.flatten_cons, List.drop_append, behindOne]
    split
    · rename_i hinside
      rw [List.drop_eq_nil_of_le hinside.2, List.flatten_nil]
    · rw [List.flatten_singleton]

namespace Execution

/-- `llhttp` makes these callbacks, as long as all of them return 0, and returns so. -/
inductive Plays {L : Type} :
    Execution L → List HttpCallback → HttpErrno → Option ℕ → L → Prop where
  | done (err : HttpErrno) (pos : Option ℕ) (l : L) : Plays (.done err pos l) [] err pos l
  | call (callback : HttpCallback) {next : ℤ → Execution L} {callbacks : List HttpCallback}
      {err : HttpErrno} {pos : Option ℕ} {l : L} (h : Plays (next 0) callbacks err pos l) :
      Plays (.call callback next) (callback :: callbacks) err pos l

end Execution

/-- What callbacks in front of the end of the head make of the response, if all return 0. -/
def Response.reads : Response → List HttpCallback → Option Response
  | r, [] => some r
  | r, .onStatus data :: cs =>
    if (r.onStatus data).2 = none then (r.onStatus data).1.reads cs else none
  | r, .onHeaderField data :: cs =>
    if (r.onHeaderField data).2 = none then (r.onHeaderField data).1.reads cs else none
  | r, .onHeaderValue data :: cs =>
    if (r.onHeaderValue data).2 = none then (r.onHeaderValue data).1.reads cs else none
  | _, _ => none

section Head

variable {L P : Type}

/-- The head of a 101 response that is accepted with these headers, as `llhttp` reads it in
pieces: `reading l r left` says that `llhttp` is in the state `l` and the response has been
read as far as `r` when these bytes of the head are left. -/
structure ReadsHead (E : Parsers L P) (secKey : List UInt8) (headers : HttpHeaderMap)
    (reading : L → Response → List UInt8 → Prop) : Prop where
  /-- Before the end something is left. -/
  left_ne_nil : ∀ l r left, reading l r left → left ≠ []
  /-- A piece in front of the end is read, and the callbacks for it are accepted. -/
  piece : ∀ l r chunk left, reading l r (chunk ++ left) → left ≠ [] →
    ∃ cs pos l' r', (E.execute l chunk).Plays cs .ok pos l' ∧ r.reads cs = some r' ∧
      reading l' r' left
  /-- At the end the head is complete, the response is accepted, and `llhttp` stops at the
  first byte behind it. -/
  last : ∀ l r left rest, reading l r left →
    ∃ cs after l' r' r'', (E.execute l (left ++ rest)).Plays
        (cs ++ .onHeadersComplete 101 :: after) .pausedUpgrade (some left.length) l' ∧
      (∀ c ∈ after, c = .onMessageComplete) ∧ r.reads cs = some r' ∧
        r'.commitHeader = (r'', none) ∧ r''.hsHeaders = headers
  /-- The response is accepted. -/
  accepted : checkHandshakeResponse E.wsAcceptKey 101 headers secKey = .ok ()

variable {E : Parsers L P} {s : Session L P} {now : ℕ}

variable (now) in
/-- Callbacks that are accepted only change the response. -/
theorem runHttp_reads {x : Execution L} {cs rest : List HttpCallback} {r : Response}
    {err : HttpErrno} {pos : Option ℕ} {l : L} (hplays : x.Plays (cs ++ rest) err pos l)
    (hreads : s.response.reads cs = some r) :
    ∃ y, y.Plays rest err pos l ∧ s.runHttp E now x = (s.withResponse r).runHttp E now y := by
  induction cs generalizing x s with
  | nil =>
    cases hreads
    exact ⟨x, hplays, rfl⟩
  | cons callback cs ih =>
    cases hplays with
    | @call _ next _ _ _ _ hnext =>
      have haccepted (c : Checked) (hc : c.2 = none)
          (hrun : s.onHttp E now callback = s.checked c) (hrest : c.1.reads cs = some r) :
          ∃ y, y.Plays rest err pos l ∧
            s.runHttp E now (.call callback next) = (s.withResponse r).runHttp E now y := by
        have hzero : s.onHttp E now callback = (0, s.withResponse c.1) := by
          rw [hrun, Session.checked, hc]
        obtain ⟨y, hy, heq⟩ := ih (s := s.withResponse c.1) hnext hrest
        exact ⟨y, hy, by rw [Session.runHttp, hzero, heq]; rfl⟩
      cases callback with
      | onStatus data =>
        rw [Response.reads] at hreads
        split at hreads
        · exact haccepted (s.response.onStatus data) (by assumption) rfl hreads
        · cases hreads
      | onHeaderField data =>
        rw [Response.reads] at hreads
        split at hreads
        · exact haccepted (s.response.onHeaderField data) (by assumption) rfl hreads
        · cases hreads
      | onHeaderValue data =>
        rw [Response.reads] at hreads
        split at hreads
        · exact haccepted (s.response.onHeaderValue data) (by assumption) rfl hreads
        · cases hreads
      | onUrl data => cases hreads
      | onHeadersComplete statusCode => cases hreads
      | onBody data => cases hreads
      | onMessageComplete => cases hreads

/-- What comes behind the headers does nothing. -/
theorem runHttp_after {x : Execution L} {cs : List HttpCallback} {err : HttpErrno}
    {pos : Option ℕ} {l : L} (hplays : x.Plays cs err pos l)
    (hcs : ∀ c ∈ cs, c = .onMessageComplete) :
    s.runHttp E now x = ({ s with http := l }, err, pos) := by
  induction hplays with
  | done err pos l => rfl
  | call callback hnext ih =>
    have hcallback := hcs callback List.mem_cons_self
    subst hcallback
    exact ih fun c hc => hcs c (List.mem_cons_of_mem _ hc)

variable (now) in
/-- What an accepted response makes of a session that has been waiting for it. -/
theorem onHeadersComplete_accepted {r : Response} {headers : HttpHeaderMap}
    (hnotified : s.connectNotified = false) (hcommit : s.response.commitHeader = (r, none))
    (hheaders : r.hsHeaders = headers)
    (haccepted : checkHandshakeResponse E.wsAcceptKey 101 headers s.secKey = .ok ()) :
    ∃ t, s.onHeadersComplete E now 101 = (0, t) ∧ t.channel = s.channel ∧ t.upgraded = true ∧
      t.delivered = s.delivered ∧ t.parser = s.parser ∧
      t.effects = s.effects ++ [.deliver (.onConnectResult bcrSuccess headers)] := by
  have hcheck : (s.withResponse { r with hsStatus := 101 }).checkResponse E now =
      (0, (s.withResponse { r with hsStatus := 101 }).accept now) := by
    refine Session.checkResponse_of_ok E _ ?_
    rw [← hheaders] at haccepted
    exact haccepted
  have hdeliver : (s.withResponse { r with hsStatus := 101 }).upgrade.deliverConnectResult
      bcrSuccess = ((s.withResponse { r with hsStatus := 101 }).upgrade.notify bcrSuccess).ask
        (.deliver (.onConnectResult bcrSuccess r.hsHeaders)) := by
    unfold Session.deliverConnectResult
    rw [if_neg (by rw [show (s.withResponse { r with hsStatus := 101 }).upgrade.connectNotified =
      s.connectNotified from rfl, hnotified]; decide)]
    rfl
  refine ⟨(s.withResponse { r with hsStatus := 101 }).accept now, ?_, ?_⟩
  · unfold Session.onHeadersComplete
    rw [hcommit]
    exact hcheck
  · unfold Session.accept Session.scheduleCheck
    rw [hdeliver, ← hheaders]
    split <;> exact ⟨rfl, rfl, rfl, rfl, rfl⟩

end Head

/-- The callback of a frame, if it has one. -/
def shown (frame : Frame) : Option Callback :=
  if frame.1.opcode = wsOpText then some (.onRecvText (cString frame.2))
  else if frame.1.opcode = wsOpBinary then some (.onRecvData frame.2)
  else none

/-- What a connection sees of a call of `ParseWSFrame`. -/
def handed (left : WSParser) :
    List Frame × Except BCException WSParser → List Frame × Option Thrown × WSParser
  | (frames, .error e) => (frames, some (.bcException e), left)
  | (frames, .ok q) => (frames, none, q)

/-- `ParseWSFrame` as a connection sees it; in which state an exception leaves the parser is
left open. -/
def handOver (left : WSParser → List UInt8 → WSParser) (p : WSParser) (data : List UInt8) :
    List Frame × Option Thrown × WSParser :=
  handed (left p data) (p.parseWSFrame data)

/-- Behind an exception nothing changes. -/
theorem run_feed_error (frames : List Frame) (e : BCException) (chunks : List (List UInt8)) :
    run feed (frames, .error e) chunks = (frames, .error e) := by
  induction chunks with
  | nil => rfl
  | cons chunk chunks ih => exact ih

/-- If nothing is thrown in the end, nothing has been thrown before. -/
theorem not_thrown_of_append {r : List Frame × Except BCException WSParser}
    {first second : List (List UInt8)} (h : thrown (run feed r (first ++ second)) = none) :
    thrown (run feed r first) = none := by
  rw [run_append] at h
  generalize run feed r first = r' at h ⊢
  obtain ⟨frames, p | e⟩ := r'
  · rw [run_feed_error] at h
    cases h
  · rfl

/-- A call that throws nothing has handed over frames and a parser. -/
theorem parse_of_not_thrown {acc : List Frame} {p : WSParser} {chunk : List UInt8}
    (h : thrown (feed (acc, .ok p) chunk) = none) :
    ∃ frames q, p.parseWSFrame chunk = (frames, .ok q) := by
  rw [feed_ok] at h
  generalize p.parseWSFrame chunk = r at h ⊢
  obtain ⟨frames, e | q⟩ := r
  · cases h
  · exact ⟨frames, q, rfl⟩

namespace Session

section Frames

variable {L P : Type}

/-- The frame parser is not touched by what is done about a frame. -/
theorem onRecvWSFrame_keepsParser (s : Session L P) (frame : Frame) :
    (s.onRecvWSFrame frame).parser = s.parser := by
  have hclose (s : Session L P) : s.closeChannel.parser = s.parser := by
    unfold closeChannel
    split <;> rfl
  have hsend (s : Session L P) (opcode : UInt8) (payload : List UInt8) :
      (s.sendFrame opcode payload).parser = s.parser := by
    unfold sendFrame
    split
    · rfl
    split
    · rfl
    split <;> rfl
  have hsendClose (s : Session L P) (code : UInt16) :
      (s.sendCloseFrame code).parser = s.parser := by
    unfold sendCloseFrame
    split
    · rfl
    · rw [hsend]
  unfold onRecvWSFrame
  split
  · rfl
  split
  · rfl
  split
  · exact hsend _ _ _
  split
  · rw [hclose, hsendClose]
  · rfl

/-- A quiet step asks for no callback. -/
theorem Quiet.callbacks {s t : Session L P} (h : Quiet s t) :
    t.effects.filterMap Effect.callback? = s.effects.filterMap Effect.callback? := by
  obtain ⟨-, -, new, hnew, hnone⟩ := h
  rw [hnew, List.filterMap_append, List.eq_nil_iff_forall_not_mem.mpr (kind_of_mem hnone),
    List.append_nil]

/-- A frame asks for its callback. -/
theorem onRecvWSFrame_callbacks (s : Session L P) (frame : Frame) :
    (s.onRecvWSFrame frame).effects.filterMap Effect.callback? =
      s.effects.filterMap Effect.callback? ++ (shown frame).toList := by
  unfold onRecvWSFrame shown
  by_cases htext : frame.1.opcode = wsOpText
  · simp [htext, ask, Effect.callback?]
  rw [if_neg htext, if_neg htext]
  by_cases hbinary : frame.1.opcode = wsOpBinary
  · simp [hbinary, ask, Effect.callback?]
  rw [if_neg hbinary, if_neg hbinary, Option.toList_none, List.append_nil]
  split
  · exact Quiet.callbacks (asks_sendFrame s _ _)
  split
  · rw [Quiet.callbacks (asks_closeChannel _), Quiet.callbacks (asks_sendCloseFrame _ _)]
  · rfl

/-- Frames ask for their callbacks, one after the other. -/
theorem frames_callbacks (s : Session L P) (frames : List Frame) :
    (frames.foldl onRecvWSFrame s).effects.filterMap Effect.callback? =
      s.effects.filterMap Effect.callback? ++ frames.filterMap shown := by
  induction frames generalizing s with
  | nil => simp
  | cons frame frames ih =>
    rw [List.foldl_cons, ih, onRecvWSFrame_callbacks, List.append_assoc]
    cases h : shown frame <;> simp [h]

/-- Frames do not touch the frame parser. -/
theorem frames_keepParser (s : Session L P) (frames : List Frame) :
    (frames.foldl onRecvWSFrame s).parser = s.parser := by
  induction frames generalizing s with
  | nil => rfl
  | cons frame frames ih => rw [List.foldl_cons, ih, onRecvWSFrame_keepsParser]

end Frames

section Data

variable {L : Type} {E : Parsers L WSParser} {s : Session L WSParser} {p : WSParser} {now : ℕ}

/-- The protocols have been changed, and the frame parser is in this state. -/
structure Open (s : Session L WSParser) (p : WSParser) : Prop where
  /-- There is a channel. -/
  channel_eq : s.channel = true
  /-- The response has been accepted. -/
  upgraded_eq : s.upgraded = true
  /-- The end has not been delivered. -/
  delivered_eq : s.delivered = false
  /-- This is the parser. -/
  parser_eq : s.parser = p

/-- The response is being read, and these bytes of its head are left. -/
structure Reading (secKey : List UInt8) (reading : L → Response → List UInt8 → Prop)
    (s : Session L WSParser) (left : List UInt8) (p : WSParser) : Prop where
  /-- The channel is there. -/
  channel_eq : s.channel = true
  /-- No response has been accepted. -/
  upgraded_eq : s.upgraded = false
  /-- The end is still to come. -/
  delivered_eq : s.delivered = false
  /-- The connect has not been answered. -/
  notified_eq : s.connectNotified = false
  /-- This is the key. -/
  secKey_eq : s.secKey = secKey
  /-- The parser is this one. -/
  parser_eq : s.parser = p
  /-- So far the response has been read. -/
  reads : reading s.http s.response left

/-- Frames are handled, and the parser goes on behind them. -/
theorem Open.feedFrames {left : WSParser → List UInt8 → WSParser}
    (hE : E.parseWSFrame = handOver left) (h : s.Open p) {data : List UInt8}
    {frames : List Frame} {q : WSParser} (hparse : p.parseWSFrame data = (frames, .ok q)) :
    (s.feedFrames E data).Open q ∧ ∃ new, (s.feedFrames E data).effects = s.effects ++ new ∧
      .release ∉ new ∧ new.filterMap Effect.callback? = frames.filterMap shown := by
  have hfeed : s.feedFrames E data = frames.foldl onRecvWSFrame { s with parser := q } := by
    rw [Session.feedFrames, hE, handOver, h.parser_eq, hparse]
    rfl
  obtain ⟨hflags, hchannel, new, hnew, hall⟩ := asks_frames { s with parser := q } frames
  have hcallbacks := frames_callbacks { s with parser := q } frames
  simp only [flags, Prod.mk.injEq] at hflags
  obtain ⟨-, -, hdelivered, hupgraded⟩ := hflags
  rw [hfeed]
  refine ⟨⟨hchannel.trans h.channel_eq, hupgraded.trans h.upgraded_eq,
    hdelivered.trans h.delivered_eq, frames_keepParser _ _⟩, new, hnew, ?_, ?_⟩
  · intro hrelease
    exact (hall _ hrelease).1 rfl
  · rw [hnew, List.filterMap_append] at hcallbacks
    exact List.append_cancel_left hcallbacks

variable {secKey : List UInt8} {headers : HttpHeaderMap}
  {reading : L → Response → List UInt8 → Prop}

variable (now) in
/-- A piece in front of the end of the head is read, and nothing comes of it. -/
theorem Reading.piece (hhead : ReadsHead E secKey headers reading) {chunk left : List UInt8}
    (h : s.Reading secKey reading (chunk ++ left) p) (hleft : left ≠ []) :
    (s.onChannelData E now chunk).Reading secKey reading left p ∧
      (s.onChannelData E now chunk).effects = s.effects := by
  obtain ⟨cs, pos, l, r, hplays, hreads, hrest⟩ := hhead.piece _ _ _ _ h.reads hleft
  rw [← List.append_nil cs] at hplays
  obtain ⟨x, hx, hrun⟩ := runHttp_reads now (s := s.touch now) hplays hreads
  cases hx
  have hend : s.onChannelData E now chunk =
      { (s.touch now).withResponse r with http := l } := by
    unfold onChannelData readResponse
    rw [if_neg (by simp [h.delivered_eq]), if_neg (by simp [h.upgraded_eq])]
    change (match (s.touch now).runHttp E now (E.execute s.http chunk) with
      | (t, err, pos) => t.afterHttp E chunk err pos) = _
    rw [hrun]
    change Session.feedRest E _ chunk chunk.length = _
    rw [feedRest, if_neg (by simp)]
  rw [hend]
  exact ⟨⟨h.channel_eq, h.upgraded_eq, h.delivered_eq, h.notified_eq, h.secKey_eq, h.parser_eq,
    hrest⟩, rfl⟩

variable (now) in
/-- With the end of the head the protocols are changed, and what is behind it goes to the
frame parser. -/
theorem Reading.last (hhead : ReadsHead E secKey headers reading) {left : List UInt8}
    (h : s.Reading secKey reading left p) (rest : List UInt8) :
    ∃ t, t.Open p ∧
      t.effects = s.effects ++ [.deliver (.onConnectResult bcrSuccess headers)] ∧
        s.onChannelData E now (left ++ rest) = if rest = [] then t else t.feedFrames E rest := by
  obtain ⟨cs, after, l, r, r', hplays, hafter, hreads, hcommit, hheaders⟩ :=
    hhead.last _ _ _ rest h.reads
  obtain ⟨x, hx, hrun⟩ := runHttp_reads now (s := s.touch now) hplays hreads
  cases hx with
  | @call _ next _ _ _ _ hnext =>
    obtain ⟨t, ht, hchannel, hupgraded, hdelivered, hparser, heffects⟩ :=
      onHeadersComplete_accepted now (s := (s.touch now).withResponse r) (E := E)
        h.notified_eq hcommit hheaders
        (by rw [show ((s.touch now).withResponse r).secKey = secKey from h.secKey_eq]
            exact hhead.accepted)
    have hdone : ((s.touch now).withResponse r).runHttp E now
        (.call (.onHeadersComplete 101) next) =
          ({ t with http := l }, .pausedUpgrade, some left.length) := by
      have hcall : ((s.touch now).withResponse r).onHttp E now (.onHeadersComplete 101) =
        (0, t) := ht
      rw [runHttp, hcall]
      exact runHttp_after hnext hafter
    have hopen : (({ t with http := l } : Session L WSParser).resume E).Open p :=
      ⟨hchannel.trans h.channel_eq, hupgraded, hdelivered.trans h.delivered_eq,
        hparser.trans h.parser_eq⟩
    refine ⟨_, hopen, heffects, ?_⟩
    unfold onChannelData readResponse
    rw [if_neg (by simp [h.delivered_eq]), if_neg (by simp [h.upgraded_eq])]
    change (match (s.touch now).runHttp E now (E.execute s.http (left ++ rest)) with
      | (t, err, pos) => t.afterHttp E (left ++ rest) err pos) = _
    rw [hrun, hdone]
    change (if ¬ t.upgraded = true then _ else Session.feedRest E _ (left ++ rest) left.length) = _
    rw [if_neg (by simp [hupgraded]), feedRest, List.drop_left, List.length_append]
    by_cases hrest : rest = []
    · rw [if_pos hrest, if_neg (by simp [hrest])]
    · have hpos := List.length_pos_iff.mpr hrest
      rw [if_neg hrest, if_pos ⟨hopen.upgraded_eq, by omega⟩]

end Data

end Session

/-- The piece of the stream that comes with an input. -/
def Input.chunk? : Input → Option (List UInt8)
  | .event _ (.data data) => some data
  | _ => none

namespace WSConnection

open Session

variable {L : Type} {E : Parsers L WSParser} {c : WSConnection L WSParser}

/-- Only data come from the channel, each piece when the one before has been handled. -/
def Delivers {P : Type} (c : WSConnection L P) : Input → Prop
  | .event _ (.data _) => c.pending = [] ∧ c.dispatch = .idle
  | .perform => True
  | .start => True
  | .callbackReturned => True
  | _ => False

/-- The callbacks that have started, are about to start, or are left to be done. -/
def observed {P : Type} (c : WSConnection L P) : List Callback :=
  c.callbacks ++ c.armed ++ c.pending.filterMap Effect.callback?

/-- The connection has a handler and its channel. -/
structure Serving {P : Type} (c : WSConnection L P) : Prop where
  /-- There is a handler. -/
  handler_eq : c.handler = true
  /-- The connection lives. -/
  live_eq : c.live = true
  /-- Nothing is asked for between the events. -/
  settled : c.session.effects = []
  /-- The channel is not about to be released. -/
  kept : .release ∉ c.pending

/-- How far a connection has come in a stream: bytes of the head are left, or frames have been
handed over. -/
inductive Stage (secKey : List UInt8) (headers : HttpHeaderMap)
    (reading : L → Response → List UInt8 → Prop) (c : WSConnection L WSParser) :
    List UInt8 → List Frame × Except BCException WSParser → Prop where
  | reading {left : List UInt8} {p : WSParser} (h : c.session.Reading secKey reading left p)
      (hobserved : c.observed = []) : Stage secKey headers reading c left ([], .ok p)
  | opened {frames : List Frame} {p : WSParser} (h : c.session.Open p)
      (hobserved : c.observed = .onConnectResult bcrSuccess headers :: frames.filterMap shown) :
      Stage secKey headers reading c [] (frames, .ok p)

/-- Carrying out what is left to be done shows nothing else. -/
theorem Serving.progress {P : Type} {E : Parsers L P} {c : WSConnection L P} (h : c.Serving)
    {i : Input} (hi : i = .perform ∨ i = .start ∨ i = .callbackReturned) :
    (c.step E i).Serving ∧ (c.step E i).session = c.session ∧
      (c.step E i).observed = c.observed := by
  rcases hi with rfl | rfl | rfl
  · simp only [WSConnection.step]
    split
    · rename_i e rest hdispatch hpending
      have hkept := h.kept
      rw [hpending, List.mem_cons, not_or] at hkept
      have hother (he : e.callback? = none) (d : WSConnection L P)
          (hd : { c with pending := rest, trace := c.trace ++ [e] } = d) :
          d.Serving ∧ d.session = c.session ∧ d.observed = c.observed := by
        subst hd
        refine ⟨⟨h.handler_eq, h.live_eq, h.settled, hkept.2⟩, rfl, ?_⟩
        simp [observed, callbacks, armed, hdispatch, hpending, he]
      cases e with
      | deliver callback =>
        rw [WSConnection.perform, if_pos h.handler_eq]
        refine ⟨⟨h.handler_eq, h.live_eq, h.settled, hkept.2⟩, rfl, ?_⟩
        simp [observed, callbacks, armed, hdispatch, hpending, Effect.callback?]
      | release => exact absurd rfl hkept.1
      | sendRequest request => exact hother rfl _ rfl
      | sendFrame opcode payload => exact hother rfl _ rfl
      | closeChannel => exact hother rfl _ rfl
    · exact ⟨h, rfl, rfl⟩
  · simp only [WSConnection.step]
    split
    · rename_i callback hdispatch
      refine ⟨⟨h.handler_eq, h.live_eq, h.settled, h.kept⟩, rfl, ?_⟩
      simp [observed, callbacks, armed, hdispatch, Effect.callback?]
    · exact ⟨h, rfl, rfl⟩
  · simp only [WSConnection.step]
    split
    · rename_i hdispatch
      refine ⟨⟨h.handler_eq, h.live_eq, h.settled, h.kept⟩, rfl, ?_⟩
      simp [observed, callbacks, armed, hdispatch]
    · exact ⟨h, rfl, rfl⟩

/-- A stage depends on the session and on what is observed. -/
theorem Stage.of_same {secKey : List UInt8} {headers : HttpHeaderMap}
    {reading : L → Response → List UInt8 → Prop} {left : List UInt8}
    {r : List Frame × Except BCException WSParser} {d : WSConnection L WSParser}
    (h : c.Stage secKey headers reading left r) (hsession : d.session = c.session)
    (hobserved : d.observed = c.observed) : d.Stage secKey headers reading left r := by
  cases h with
  | reading h hc => exact .reading (by rw [hsession]; exact h) (hobserved.trans hc)
  | opened h hc => exact .opened (by rw [hsession]; exact h) (hobserved.trans hc)

/-- What a piece of the stream that is handled leaves behind. -/
theorem Serving.data (h : c.Serving) {now : ℕ} {chunk : List UInt8}
    (hchannel : c.session.channel = true) (hfree : c.pending = [] ∧ c.dispatch = .idle)
    {t : Session L WSParser}
    (ht : c.session.onChannelData E now chunk = t) (hkept : .release ∉ t.effects) :
    ∃ d, c.step E (.event now (.data chunk)) = d ∧ d.Serving ∧
      d.session = { t with effects := [] } ∧
        d.observed = c.observed ++ t.effects.filterMap Effect.callback? := by
  have hstep : c.step E (.event now (.data chunk)) = c.handle E now (.data chunk) :=
    if_pos ⟨h.live_eq, hchannel, hfree⟩
  subst ht
  refine ⟨_, hstep, ⟨h.handler_eq, h.live_eq, rfl, hkept⟩, rfl, ?_⟩
  simp only [observed, hfree.1, List.filterMap_nil, List.append_nil]
  rfl

section Stream

variable {secKey : List UInt8} {headers : HttpHeaderMap}
  {reading : L → Response → List UInt8 → Prop}

/-- A piece of the stream takes a connection on. -/
theorem Stage.data {left : WSParser → List UInt8 → WSParser}
    (hE : E.parseWSFrame = handOver left) (hhead : ReadsHead E secKey headers reading)
    (h : c.Serving) {bytes : List UInt8} {r : List Frame × Except BCException WSParser}
    (hstage : c.Stage secKey headers reading bytes r) (now : ℕ) {chunk : List UInt8}
    (hfree : c.pending = [] ∧ c.dispatch = .idle) (hchunk : chunk <+: bytes ∨ bytes <+: chunk)
    (hok : thrown (run feed r (behindOne bytes.length chunk)) = none) :
    (c.step E (.event now (.data chunk))).Serving ∧
      (c.step E (.event now (.data chunk))).Stage secKey headers reading
        (bytes.drop chunk.length) (run feed r (behindOne bytes.length chunk)) := by
  cases hstage with
  | @reading _ p hread hobserved =>
    have hpos := List.length_pos_iff.mpr (hhead.left_ne_nil _ _ _ hread.reads)
    by_cases hlt : chunk.length < bytes.length
    · -- the piece ends in the head
      obtain ⟨left', rfl⟩ := hchunk.resolve_right fun h => absurd h.length_le (by omega)
      have hleft : left' ≠ [] := by
        rintro rfl
        simp at hlt
      obtain ⟨hnext, heffects⟩ := hread.piece now hhead hleft
      rw [h.settled] at heffects
      obtain ⟨d, hd, hserving, hsession, hobs⟩ :=
        h.data (E := E) hread.channel_eq hfree rfl (by rw [heffects]; exact List.not_mem_nil)
      rw [heffects, List.filterMap_nil, List.append_nil] at hobs
      rw [hd, List.drop_left, behindOne, if_pos ⟨hpos, by omega⟩, run_nil]
      refine ⟨hserving, .reading ?_ (hobs.trans hobserved)⟩
      rw [hsession]
      exact ⟨hnext.channel_eq, hnext.upgraded_eq, hnext.delivered_eq, hnext.notified_eq,
        hnext.secKey_eq, hnext.parser_eq, hnext.reads⟩
    · -- the head ends in the piece
      have hbegins : bytes <+: chunk := by
        refine hchunk.elim (fun h => ?_) id
        rw [h.eq_of_length_le (by omega)]
      obtain ⟨rest, rfl⟩ := hbegins
      obtain ⟨t, hopen, heffects, hend⟩ := hread.last now hhead rest
      rw [h.settled, List.nil_append] at heffects
      have hdrop : bytes.drop (bytes ++ rest).length = [] :=
        List.drop_eq_nil_of_le (by rw [List.length_append]; omega)
      rw [hdrop]
      by_cases hrest : rest = []
      · rw [if_pos hrest] at hend
        obtain ⟨d, hd, hserving, hsession, hobs⟩ :=
          h.data (E := E) hread.channel_eq hfree hend (by rw [heffects]; simp)
        rw [hd, behindOne, if_pos ⟨hpos, by simp [hrest]⟩, run_nil]
        refine ⟨hserving, .opened ?_ ?_⟩
        · rw [hsession]
          exact ⟨hopen.channel_eq, hopen.upgraded_eq, hopen.delivered_eq, hopen.parser_eq⟩
        · rw [hobs, hobserved, heffects]
          rfl
      · have hlong := List.length_pos_iff.mpr hrest
        rw [if_neg hrest] at hend
        rw [behindOne, if_neg (by rw [List.length_append]; omega), List.drop_left, run_cons,
          run_nil] at hok ⊢
        obtain ⟨frames, q, hparse⟩ := parse_of_not_thrown hok
        obtain ⟨hopen', new, hnew, hkept, hcallbacks⟩ := hopen.feedFrames hE hparse
        rw [heffects] at hnew
        obtain ⟨d, hd, hserving, hsession, hobs⟩ :=
          h.data (E := E) hread.channel_eq hfree hend (by rw [hnew]; simp [hkept])
        rw [hd, feed_ok, hparse]
        refine ⟨hserving, .opened ?_ ?_⟩
        · rw [hsession]
          exact ⟨hopen'.channel_eq, hopen'.upgraded_eq, hopen'.delivered_eq, hopen'.parser_eq⟩
        · rw [hobs, hobserved, hnew, List.filterMap_append, hcallbacks]
          rfl
  | @opened frames p hopen hobserved =>
    rw [List.length_nil, behindOne, if_neg (by simp), List.drop_zero, run_cons, run_nil] at hok ⊢
    obtain ⟨frames', q, hparse⟩ := parse_of_not_thrown hok
    have htouched : (c.session.touch now).Open p :=
      ⟨hopen.channel_eq, hopen.upgraded_eq, hopen.delivered_eq, hopen.parser_eq⟩
    obtain ⟨hopen', new, hnew, hkept, hcallbacks⟩ := htouched.feedFrames hE hparse
    have hend : c.session.onChannelData E now chunk = (c.session.touch now).feedFrames E chunk := by
      unfold onChannelData
      rw [if_neg (by simp [hopen.delivered_eq]), if_pos hopen.upgraded_eq]
    have hsettled : (c.session.touch now).effects = [] := h.settled
    rw [hsettled, List.nil_append] at hnew
    obtain ⟨d, hd, hserving, hsession, hobs⟩ :=
      h.data (E := E) hopen.channel_eq hfree hend (by rw [hnew]; exact hkept)
    rw [hd, feed_ok, hparse, List.drop_nil]
    refine ⟨hserving, .opened ?_ ?_⟩
    · rw [hsession]
      exact ⟨hopen'.channel_eq, hopen'.upgraded_eq, hopen'.delivered_eq, hopen'.parser_eq⟩
    · rw [hobs, hobserved, hnew, hcallbacks, List.filterMap_append]
      rfl

/-- A stream takes a connection on, piece after piece, whatever the thread has carried out
between them. -/
theorem Stage.run {left : WSParser → List UInt8 → WSParser} (hE : E.parseWSFrame = handOver left)
    (hhead : ReadsHead E secKey headers reading) (h : c.Serving) {bytes rest : List UInt8}
    {r : List Frame × Except BCException WSParser}
    (hstage : c.Stage secKey headers reading bytes r) {inputs : List Input}
    (hmeets : Meets (step E) Delivers c inputs)
    (hstream : (inputs.filterMap Input.chunk?).flatten = bytes ++ rest)
    (hok : thrown (Runs.run feed r (behind bytes.length (inputs.filterMap Input.chunk?))) =
      none) :
    (Runs.run (step E) c inputs).Serving ∧
      (Runs.run (step E) c inputs).Stage secKey headers reading []
        (Runs.run feed r (behind bytes.length (inputs.filterMap Input.chunk?))) := by
  induction inputs generalizing c bytes rest r with
  | nil =>
    obtain ⟨rfl, -⟩ := List.append_eq_nil_iff.mp hstream.symm
    exact ⟨h, hstage⟩
  | cons i inputs ih =>
    obtain ⟨hi, hmeets⟩ := hmeets
    have hprogress (hi : i = .perform ∨ i = .start ∨ i = .callbackReturned)
        (hchunk : i.chunk? = none) :
        (Runs.run (step E) c (i :: inputs)).Serving ∧
          (Runs.run (step E) c (i :: inputs)).Stage secKey headers reading []
            (Runs.run feed r (behind bytes.length ((i :: inputs).filterMap Input.chunk?))) := by
      rw [List.filterMap_cons_none hchunk] at hstream hok ⊢
      obtain ⟨hserving, hsession, hobserved⟩ := h.progress (E := E) hi
      exact ih hserving (hstage.of_same hsession hobserved) hmeets hstream hok
    cases i with
    | event now e =>
      cases e with
      | data chunk =>
        have hchunks : (Input.event now (.data chunk) :: inputs).filterMap Input.chunk? =
            chunk :: inputs.filterMap Input.chunk? := rfl
        rw [hchunks, List.flatten_cons] at hstream
        rw [hchunks, behind] at hok ⊢
        have hbytes := List.prefix_append bytes rest
        rw [← hstream] at hbytes
        have hchunk : chunk <+: bytes ∨ bytes <+: chunk :=
          List.prefix_or_prefix_of_prefix (List.prefix_append _ _) hbytes
        obtain ⟨hserving, hnext⟩ :=
          hstage.data hE hhead h now hi hchunk (not_thrown_of_append hok)
        have hrest := congrArg (List.drop chunk.length) hstream
        rw [List.drop_left, List.drop_append] at hrest
        rw [run_append, ← List.length_drop] at hok ⊢
        exact ih hserving hnext hmeets hrest hok
      | ready sent scheduled => exact hi.elim
      | closed result reason => exact hi.elim
      | handshakeTimeout => exact hi.elim
      | activeCheck => exact hi.elim
    | perform => exact hprogress (Or.inl rfl) rfl
    | start => exact hprogress (Or.inr (Or.inl rfl)) rfl
    | callbackReturned => exact hprogress (Or.inr (Or.inr rfl)) rfl
    | connect => exact hi.elim
    | prepare now prepared => exact hi.elim
    | openReturned result => exact hi.elim
    | checkClosing closing => exact hi.elim
    | close result => exact hi.elim
    | send opcode payload => exact hi.elim
    | clearHandler => exact hi.elim

end Stream

/-- What the thread does to carry out one effect. -/
def turn : List Input := [.perform, .start, .callbackReturned]

/-- A turn carries out the next effect, and then nothing is in progress. -/
theorem Serving.turn {P : Type} {E : Parsers L P} {c : WSConnection L P} (h : c.Serving) :
    (run (step E) c turn).Serving ∧ (run (step E) c turn).observed = c.observed ∧
      (run (step E) c turn).dispatch = .idle ∧
        (c.dispatch = .idle → (run (step E) c turn).pending = c.pending.tail) := by
  obtain ⟨h₁, -, hobserved₁⟩ := h.progress (E := E) (Or.inl rfl)
  obtain ⟨h₂, -, hobserved₂⟩ := h₁.progress (E := E) (Or.inr (Or.inl rfl))
  obtain ⟨h₃, -, hobserved₃⟩ := h₂.progress (E := E) (Or.inr (Or.inr rfl))
  have hperform : c.dispatch = .idle → (c.step E .perform).pending = c.pending.tail := by
    intro hidle
    simp only [WSConnection.step, hidle]
    cases hpending : c.pending with
    | nil => exact hpending
    | cons e rest =>
      simp only [WSConnection.perform]
      cases e <;> dsimp only
      · split <;> rfl
      all_goals rfl
  have hstart (d : WSConnection L P) : (∀ callback, (d.step E .start).dispatch ≠ .armed callback) ∧
      (d.step E .start).pending = d.pending := by
    simp only [WSConnection.step]
    split
    · exact ⟨by simp, rfl⟩
    · rename_i harmed
      exact ⟨harmed, rfl⟩
  have hreturned (d : WSConnection L P) (hd : ∀ callback, d.dispatch ≠ .armed callback) :
      (d.step E .callbackReturned).dispatch = .idle ∧
        (d.step E .callbackReturned).pending = d.pending := by
    simp only [WSConnection.step]
    split
    · exact ⟨rfl, rfl⟩
    · rename_i hrunning
      refine ⟨?_, rfl⟩
      cases hdispatch : d.dispatch with
      | idle => rfl
      | armed callback => exact absurd hdispatch (hd callback)
      | running => exact absurd hdispatch hrunning
  obtain ⟨hnone, hpending₂⟩ := hstart (c.step E .perform)
  obtain ⟨hidle, hpending₃⟩ := hreturned _ hnone
  refine ⟨h₃, hobserved₃.trans (hobserved₂.trans hobserved₁), hidle, fun hc => ?_⟩
  exact hpending₃.trans (hpending₂.trans (hperform hc))

/-- When nothing is in progress or left to be done, everything has been observed. -/
theorem callbacks_of_rest {P : Type} {c : WSConnection L P} (hpending : c.pending = [])
    (hdispatch : c.dispatch = .idle) : c.callbacks = c.observed := by
  simp [observed, armed, hpending, hdispatch]

/-- Turn after turn everything that is left to be done is carried out. -/
theorem Serving.settles {P : Type} {E : Parsers L P} {c : WSConnection L P} (h : c.Serving) :
    ∃ n, (run (step E) c (List.replicate n WSConnection.turn).flatten).callbacks = c.observed := by
  have hidle (k : ℕ) : ∀ d : WSConnection L P, d.Serving → d.dispatch = .idle →
      d.pending.length = k → d.observed = c.observed →
        (run (step E) d (List.replicate k WSConnection.turn).flatten).callbacks = c.observed := by
    induction k with
    | zero =>
      intro d _ hdispatch hlength hobserved
      rw [← hobserved]
      exact callbacks_of_rest (List.length_eq_zero_iff.mp hlength) hdispatch
    | succ k ih =>
      intro d hd hdispatch hlength hobserved
      obtain ⟨hnext, hsame, hfree, htail⟩ := hd.turn (E := E)
      rw [List.replicate_succ, List.flatten_cons, run_append]
      refine ih _ hnext hfree ?_ (hsame.trans hobserved)
      rw [htail hdispatch, List.length_tail]
      omega
  obtain ⟨hnext, hsame, hfree, -⟩ := h.turn (E := E)
  refine ⟨(run (step E) c WSConnection.turn).pending.length + 1, ?_⟩
  rw [List.replicate_succ, List.flatten_cons, run_append]
  exact hidle _ _ hnext hfree rfl hsame

end WSConnection

/-- A message that an application sends. -/
inductive Sent where
  | text (text : List UInt8)
  | data (data : List UInt8)

namespace Sent

/-- The opcode of its frame. -/
def opcode : Sent → UInt8
  | text _ => wsOpText
  | data _ => wsOpBinary

/-- Its bytes. -/
def payload : Sent → List UInt8
  | text bytes => bytes
  | data bytes => bytes

/-- What the handler of the other side is called with. -/
def shown : Sent → Callback
  | text bytes => .onRecvText (cString bytes)
  | data bytes => .onRecvData bytes

/-- What the parser of the other side hands over. -/
def delivery (m : Sent) : UInt8 × Bool × ℕ × List UInt8 :=
  (m.opcode, true, m.payload.length, m.payload)

/-- `BuildFrame` makes these bytes of the message, with any mask or none; the frame is short
enough for the counters of a buffer. -/
structure Framed (m : Sent) (bytes : List UInt8) : Prop where
  /-- The frame is built. -/
  built : ∃ random heap header pData x heap' header' rc v, random.length = 4 ∧
    header.mask.length = 4 ∧ header.opcode = m.opcode ∧ Shows heap pData x ∧
      x.nCurrent ≤ x.nUsed ∧ x.remaining = m.payload ∧
        buildFrame random heap header pData = some (heap', header', rc) ∧
          Shows heap' rc v ∧ v.remaining = bytes ∧
            calculateFrameHeaderSize header.hasMask m.payload.length + m.payload.length < 2 ^ 32

/-- What is framed is a final frame with the opcode and the payload of the message. -/
theorem Framed.wireFrame {m : Sent} {bytes : List UInt8} (h : m.Framed bytes) :
    ∃ f : WireFrame, f.isFinal = true ∧ f.opcode = m.opcode ∧ f.payload = m.payload ∧
      f.bytes = bytes := by
  obtain ⟨random, heap, header, pData, x, heap', header', rc, v, hrandom, hmask, hopcode, hshows,
    hcur, hpayload, hbuild, hbuilt, hbytes, hfit⟩ := h.built
  obtain ⟨hhas, hop, hlen⟩ := randomised_spec hrandom hmask
  have hmem : (randomised random header).opcode ∈ builtOpcodes := by
    have hall : wsOpText ∈ builtOpcodes ∧ wsOpBinary ∈ builtOpcodes := by decide
    rw [hop, hopcode]
    cases m with
    | text bytes => exact hall.1
    | data bytes => exact hall.2
  rw [← hpayload] at hfit
  obtain ⟨heap₁, rc₁, w, hbuild₁, hbuilt₁, -, hw⟩ :=
    buildFrame_spec hshows hcur hlen hmem (by rw [hhas]; exact hfit)
  obtain ⟨rfl, -, rfl⟩ : heap₁ = heap' ∧ randomised random header = header' ∧ rc₁ = rc := by
    simpa using hbuild₁.symm.trans hbuild
  refine ⟨frameOf (randomised random header) hlen hmem x.remaining (by omega), rfl,
    hop.trans hopcode, hpayload, ?_⟩
  rw [← hw, ← hbytes]
  exact hbuilt₁.remaining_unique hbuilt

/-- The frame of a message without a mask. -/
def plain (m : Sent) (hlength : m.payload.length < 2 ^ 64) : WireFrame where
  isFinal := true
  opcode := m.opcode
  form := formOf m.payload.length
  key := none
  payload := m.payload
  opcode_mem := by cases m <;> simp [opcode, opcodes]
  fits := fits_formOf hlength

/-- A short message is framed without a mask. -/
theorem framed_of_bytes {m : Sent} {bytes : List UInt8} (hshort : 10 + m.payload.length < 2 ^ 32)
    (hlength : m.payload.length < 2 ^ 64) (hplain : (m.plain hlength).bytes = bytes) :
    m.Framed bytes := by
  have hempty (heap : Heap) : Shows heap SharedBuffer.empty BCBuffer.empty :=
    ⟨rfl, rfl, rfl, rfl, List.nodup_nil, by simp [SharedBuffer.empty]⟩
  have hstart : Apart ⟨fun _ => newBlock, 0⟩ SharedBuffer.empty BCBuffer.empty SharedBuffer.empty
      BCBuffer.empty := ⟨hempty _, hempty _, by simp [SharedBuffer.empty]⟩
  have hshows := (hstart.write m.payload).left
  have hcur : (BCBuffer.empty.write m.payload).nCurrent = 0 := BCBuffer.nCurrent_write _ _
  have hpayload : (BCBuffer.empty.write m.payload).remaining = m.payload := by
    have hzero : BCBuffer.empty.nUsed = 0 := rfl
    rw [BCBuffer.remaining, hcur, List.drop_zero, BCBuffer.content_write (by omega),
      BCBuffer.content_empty, List.nil_append]
  generalize BCBuffer.empty.write m.payload = x at hshows hcur hpayload
  have hfit : calculateFrameHeaderSize false x.remaining.length + x.remaining.length < 2 ^ 32 := by
    have hsize : calculateFrameHeaderSize false x.remaining.length ≤ 10 := by
      unfold calculateFrameHeaderSize
      split
      · decide
      split
      · decide
      split <;> decide
    rw [hpayload] at hsize ⊢
    omega
  have hopcode : m.opcode ∈ builtOpcodes := by cases m <;> simp [opcode, builtOpcodes]
  have hmask : (randomised [0, 0, 0, 0] ⟨true, m.opcode, false, [0, 0, 0, 0], 0⟩).mask.length = 4 :=
    rfl
  obtain ⟨heap', rc, v, hbuild, hbuilt, -, hbytes⟩ :=
    buildFrame_spec hshows (by rw [hcur]; exact Nat.zero_le _) hmask hopcode hfit
  refine ⟨_, _, _, _, x, heap', _, rc, v, rfl, rfl, rfl, hshows, by omega, hpayload, hbuild, hbuilt,
    ?_, by rw [← hpayload]; exact hfit⟩
  rw [hbytes (by rw [hpayload]; exact hlength), ← hplain]
  unfold frameOf plain
  simp only [hpayload]
  rfl

/-- Messages that are framed one after the other are handed over one after the other. -/
theorem dataMessages {limit : ℕ} {messages : List Sent} {frames : List (List UInt8)}
    (hframed : List.Forall₂ Framed messages frames)
    (hwithin : ∀ m ∈ messages, m.payload.length ≤ limit) :
    ∃ msgs : List DataMessage, wire (msgs.flatMap DataMessage.frames) = frames.flatten ∧
      msgs.flatMap DataMessage.deliveries = messages.map delivery ∧
        ∀ msg ∈ msgs, msg.Within limit := by
  induction hframed with
  | nil => exact ⟨[], rfl, rfl, by simp⟩
  | @cons m bytes messages frames hm _ ih =>
    obtain ⟨msgs, hwire, hdeliveries, hall⟩ := ih fun other hother =>
      hwithin other (by simp [hother])
    obtain ⟨f, hfinal, hopcode, hpayload, hbytes⟩ := hm.wireFrame
    have hdata : f.opcode = wsOpText ∨ f.opcode = wsOpBinary := by
      rw [hopcode]
      cases m
      · exact Or.inl rfl
      · exact Or.inr rfl
    have hframe : (⟨f.form, f.key, f.payload, f.fits⟩ : Piece).frame true
        ⟨f.opcode, f.opcode_mem⟩ = f := by
      rw [← hfinal]
      rfl
    refine ⟨⟨⟨⟨f.opcode, f.opcode_mem⟩, [], hdata⟩, ⟨[], ⟨f.form, f.key, f.payload, f.fits⟩⟩⟩ ::
      msgs, ?_, ?_, ?_⟩
    · rw [List.flatten_cons, ← hwire, ← hbytes]
      simp [wire, DataMessage.frames, Unfinished.frames, fragmentFrames, nextOpcode, hframe]
    · rw [List.flatMap_cons, hdeliveries, List.map_cons, delivery, ← hopcode, ← hpayload]
      simp [DataMessage.deliveries, Unfinished.controls, DataMessage.payload, joined]
    · refine List.forall_mem_cons.mpr ⟨⟨?_, by simp [Unfinished.controls]⟩, hall⟩
      have hle := hwithin m List.mem_cons_self
      rw [← hpayload] at hle
      simpa [DataMessage.payload, joined] using hle

/-- The callbacks of frames that have been handed over for these messages. -/
theorem filterMap_shown {handed : List Frame} {messages : List Sent}
    (h : handed.map seen = messages.map delivery) :
    handed.filterMap WS.shown = messages.map shown := by
  induction messages generalizing handed with
  | nil => rw [List.map_eq_nil_iff.mp h]; rfl
  | cons m messages ih =>
    obtain ⟨frame, rest, rfl, hframe, hrest⟩ := List.map_eq_cons_iff.mp h
    simp only [seen, delivery, Prod.mk.injEq] at hframe
    obtain ⟨hopcode, -, -, hpayload⟩ := hframe
    have hshown : WS.shown frame = some m.shown := by
      rw [WS.shown, hopcode, hpayload]
      cases m <;> rfl
    rw [List.filterMap_cons_some hshown, ih hrest, List.map_cons]

end Sent

namespace WSConnection

section Messages

variable {L : Type} {E : Parsers L WSParser}

/-- What is handed to `Connect` and the times of its events. -/
structure Request where
  /-- The configuration. -/
  config : Config
  /-- The key of the request. -/
  secKey : List UInt8
  /-- Its text. -/
  reqText : List UInt8
  /-- The timeout of the call. -/
  timeOut : ℕ
  /-- When `Connect` is called. -/
  called : ℕ
  /-- When the channel is ready. -/
  ready : ℕ

/-- A connection whose request has been sent. -/
def requested (E : Parsers L WSParser) (q : Request) (http : L) (nBytes : ℕ) :
    WSConnection L WSParser :=
  run (step E) (create q.config http (WSParser.create.setMaxFrameBytes nBytes) true)
    [.connect, .prepare q.called (.request q.secKey q.reqText q.timeOut), .openReturned bcrSuccess,
      .checkClosing false, .event q.ready (.ready bcrSuccess bcrSuccess), .perform]

/-- What the handler is to observe of messages. -/
def expected (headers : HttpHeaderMap) (messages : List Sent) : List Callback :=
  .onConnectResult bcrSuccess headers :: messages.map Sent.shown

variable {q : Request} {http : L} {nBytes : ℕ} {headers : HttpHeaderMap}
  {reading : L → Response → List UInt8 → Prop} {head : List UInt8}

variable (nBytes headers) in
/-- A connection whose request has been sent reads the response. -/
theorem requested_reading (hstart : reading http {} head) :
    (requested E q http nBytes).Serving ∧
      (requested E q http nBytes).Stage q.secKey headers reading head (fresh nBytes) := by
  refine ⟨⟨rfl, rfl, rfl, List.not_mem_nil⟩, .reading ?_ rfl⟩
  exact ⟨rfl, rfl, rfl, rfl, rfl, rfl, hstart⟩

/-- Of messages framed behind the head everything is observed that is expected. -/
theorem observed_of_stream {left : WSParser → List UInt8 → WSParser}
    (hE : E.parseWSFrame = handOver left) (hhead : ReadsHead E q.secKey headers reading)
    (hstart : reading http {} head) {messages : List Sent} {frames : List (List UInt8)}
    (hframed : List.Forall₂ Sent.Framed messages frames)
    (hwithin : ∀ m ∈ messages,
      m.payload.length ≤ (WSParser.create.setMaxFrameBytes nBytes).maxFrameBytes)
    {inputs : List Input} (hmeets : Meets (step E) Delivers (requested E q http nBytes) inputs)
    (hstream : (inputs.filterMap Input.chunk?).flatten = head ++ frames.flatten)
    (hfits : Meets feed Fits (fresh nBytes)
      (behind head.length (inputs.filterMap Input.chunk?))) :
    (run (step E) (requested E q http nBytes) inputs).Serving ∧
      (run (step E) (requested E q http nBytes) inputs).observed = expected headers messages := by
  obtain ⟨hserving, hstage⟩ := requested_reading nBytes headers (E := E) (q := q) hstart
  obtain ⟨msgs, hwire, hdeliveries, hall⟩ := Sent.dataMessages hframed hwithin
  have hbytes : (behind head.length (inputs.filterMap Input.chunk?)).flatten =
      wire (msgs.flatMap DataMessage.frames ++ [].map ControlFrame.frame) := by
    rw [flatten_behind, hstream, List.drop_left, List.map_nil, List.append_nil, hwire]
  obtain ⟨hseen, hok⟩ := reassembles_legal msgs [] hfits hall (by simp) hbytes
  rw [List.map_nil, List.append_nil, hdeliveries] at hseen
  obtain ⟨hserving', hstage'⟩ := hstage.run hE hhead hserving hmeets hstream hok
  refine ⟨hserving', ?_⟩
  generalize run feed (fresh nBytes) _ = r at hseen hstage'
  cases hstage' with
  | reading h _ => exact absurd rfl (hhead.left_ne_nil _ _ _ h.reads)
  | opened h hobserved => rw [hobserved, Sent.filterMap_shown hseen, expected]

/-- The turns of the thread bring no pieces. -/
theorem delivers_turns (c : WSConnection L WSParser) (n : ℕ) :
    Meets (step E) Delivers c (List.replicate n turn).flatten ∧
      (List.replicate n turn).flatten.filterMap Input.chunk? = [] := by
  induction n generalizing c with
  | zero => exact ⟨trivial, rfl⟩
  | succ n ih =>
    rw [List.replicate_succ, List.flatten_cons, List.filterMap_append]
    refine ⟨meets_append.mpr ⟨⟨trivial, trivial, trivial, trivial⟩, (ih _).1⟩, ?_⟩
    rw [(ih c).2]
    rfl

end Messages

section Sample

/-- A response that switches the protocols. -/
@[irreducible] def sampleHead : List UInt8 :=
  literal "HTTP/1.1 101 Switching Protocols\r\nUpgrade: websocket\r\nConnection: Upgrade\r\n" ++
    literal "Sec-WebSocket-Accept: s3pPLMBiTxaQ9kYGzzhZRbK+xOo=\r\n\r\n"

/-- Its headers. -/
def sampleHeaders : HttpHeaderMap :=
  [(literal "upgrade", literal "websocket"), (literal "connection", literal "Upgrade"),
    (literal "sec-websocket-accept", literal "s3pPLMBiTxaQ9kYGzzhZRbK+xOo=")]

/-- The callbacks for it in front of the end of the headers. -/
def sampleCallbacks : List HttpCallback :=
  [.onStatus (literal "Switching Protocols"), .onHeaderField (literal "Upgrade"),
    .onHeaderValue (literal "websocket"), .onHeaderField (literal "Connection"),
    .onHeaderValue (literal "Upgrade"), .onHeaderField (literal "Sec-WebSocket-Accept"),
    .onHeaderValue (literal "s3pPLMBiTxaQ9kYGzzhZRbK+xOo=")]

/-- Callbacks that must all return 0, and what comes then. -/
def playing {L : Type} (l : L) (x : Execution L) : List HttpCallback → Execution L
  | [] => x
  | c :: cs =>
    .call c fun result => if result = 0 then playing l x cs else .done (.other "HPE_USER" "") none l

/-- A parser of responses that calls back when the whole head has come. -/
def sampleExecute (l data : List UInt8) : Execution (List UInt8) :=
  if (l ++ data).length < sampleHead.length then .done .ok none (l ++ data)
  else
    playing l (.done .pausedUpgrade (some (sampleHead.length - l.length)) l)
      (sampleCallbacks ++ [.onHeadersComplete 101, .onMessageComplete])

/-- What a connection is built on here. -/
def sampleParsers : Parsers (List UInt8) WSParser where
  execute := sampleExecute
  resumeAfterUpgrade l := l
  parseWSFrame := handOver fun p _ => p
  wsAcceptKey _ := literal "s3pPLMBiTxaQ9kYGzzhZRbK+xOo="
  bcResult2String _ := ""

/-- A request. -/
def sampleRequest : Request := ⟨⟨0, 0, 0⟩, literal "dGhlIHNhbXBsZSBub25jZQ==", [], 5000, 0, 1⟩

/-- What has come of the head is kept. -/
def sampleReading (l : List UInt8) (r : Response) (left : List UInt8) : Prop :=
  l ++ left = sampleHead ∧ left ≠ [] ∧ r = {}

/-- The callbacks that are played. -/
theorem plays_playing {L : Type} (l : L) (err : HttpErrno) (pos : Option ℕ)
    (cs : List HttpCallback) : (playing l (.done err pos l) cs).Plays cs err pos l := by
  induction cs with
  | nil => exact .done err pos l
  | cons c cs ih => exact .call c ih

/-- The head is read. -/
theorem readsHead_sample :
    ReadsHead sampleParsers sampleRequest.secKey sampleHeaders sampleReading := by
  have haccepted : checkHandshakeResponse sampleParsers.wsAcceptKey 101 sampleHeaders
      sampleRequest.secKey = .ok () := by
    decide +kernel
  have hexecute : sampleParsers.execute = sampleExecute := by rw [sampleParsers]
  refine ⟨fun l r left h => h.2.1, ?_, ?_, haccepted⟩
  · rintro l r chunk left ⟨hhead, -, rfl⟩ hleft
    have hpos := List.length_pos_iff.mpr hleft
    have hlt : (l ++ chunk).length < sampleHead.length := by
      rw [← hhead]
      simp only [List.length_append]
      omega
    refine ⟨[], none, l ++ chunk, {}, ?_, rfl, by rw [List.append_assoc]; exact hhead, hleft, rfl⟩
    rw [hexecute, sampleExecute, if_pos hlt]
    exact .done _ _ _
  · rintro l r left rest ⟨hhead, -, rfl⟩
    have hlength : ¬ (l ++ (left ++ rest)).length < sampleHead.length := by
      rw [← hhead]
      simp only [List.length_append]
      omega
    have hpos : sampleHead.length - l.length = left.length := by
      rw [← hhead, List.length_append]
      omega
    have hreads : (Response.reads {} sampleCallbacks).map
        (fun r => (r.commitHeader.2, r.commitHeader.1.hsHeaders)) = some (none, sampleHeaders) := by
      decide +kernel
    obtain ⟨r, hr, hcommit⟩ := Option.map_eq_some_iff.mp hreads
    rw [Prod.mk.injEq] at hcommit
    refine ⟨sampleCallbacks, [.onMessageComplete], l, r, r.commitHeader.1, ?_, by simp, hr,
      Prod.ext rfl hcommit.1, hcommit.2⟩
    rw [hexecute, sampleExecute, if_neg hlength, hpos]
    exact plays_playing _ _ _ _

/-- A connection is ready to read the head. -/
theorem sampleReading_start : sampleReading [] {} sampleHead := by
  refine ⟨List.nil_append sampleHead, ?_, rfl⟩
  decide +kernel

/-- Few bytes in one piece with the head fit. -/
theorem fits_sample {bytes : List UInt8} (hbytes : bytes.length < 2 ^ 32) :
    Meets feed Fits (fresh 0) (behind sampleHead.length [sampleHead ++ bytes]) := by
  refine meets_of_length_lt 0 ?_
  rw [flatten_behind, List.flatten_singleton, List.drop_left]
  exact hbytes

/-- One piece comes, and the thread takes some turns. -/
def samplePiece (bytes : List UInt8) (n : ℕ) : List Input :=
  .event 2 (.data (sampleHead ++ bytes)) :: (List.replicate n turn).flatten

/-- The piece is all that comes. -/
theorem samplePiece_delivers (bytes : List UInt8) (n : ℕ) :
    Meets (step sampleParsers) Delivers (requested sampleParsers sampleRequest [] 0)
        (samplePiece bytes n) ∧
      (samplePiece bytes n).filterMap Input.chunk? = [sampleHead ++ bytes] := by
  obtain ⟨hturns, hnone⟩ := delivers_turns (E := sampleParsers)
    (run (step sampleParsers) (requested sampleParsers sampleRequest [] 0)
      [.event 2 (.data (sampleHead ++ bytes))]) n
  refine ⟨⟨⟨rfl, rfl⟩, hturns⟩, ?_⟩
  have hchunk : (Input.event 2 (.data (sampleHead ++ bytes))).chunk? = some (sampleHead ++ bytes) :=
    rfl
  rw [samplePiece, List.filterMap_cons_some hchunk, hnone]

end Sample

section Observed

variable {L : Type} {E : Parsers L WSParser} {q : Request} {http : L} {nBytes : ℕ}
  {headers : HttpHeaderMap} {reading : L → Response → List UInt8 → Prop} {head : List UInt8}

/-- However the stream of the head and the framed messages is cut, and whatever the thread has
carried out between the pieces: the handler sees nothing but the success and the messages in
order, it has seen all of them when the thread has nothing left to do, and the thread comes
to that. -/
theorem handler_observes_messages {left : WSParser → List UInt8 → WSParser}
    (hE : E.parseWSFrame = handOver left) (hhead : ReadsHead E q.secKey headers reading)
    (hstart : reading http {} head) {messages : List Sent} {frames : List (List UInt8)}
    (hframed : List.Forall₂ Sent.Framed messages frames)
    (hwithin : ∀ m ∈ messages,
      m.payload.length ≤ (WSParser.create.setMaxFrameBytes nBytes).maxFrameBytes)
    {inputs : List Input} (hmeets : Meets (step E) Delivers (requested E q http nBytes) inputs)
    (hstream : (inputs.filterMap Input.chunk?).flatten = head ++ frames.flatten)
    (hfits : Meets feed Fits (fresh nBytes)
      (behind head.length (inputs.filterMap Input.chunk?))) :
    (run (step E) (requested E q http nBytes) inputs).callbacks <+: expected headers messages ∧
      ((run (step E) (requested E q http nBytes) inputs).pending = [] →
        (run (step E) (requested E q http nBytes) inputs).dispatch = .idle →
          (run (step E) (requested E q http nBytes) inputs).callbacks =
            expected headers messages) ∧
        ∃ n, (run (step E) (requested E q http nBytes)
          (inputs ++ (List.replicate n turn).flatten)).callbacks = expected headers messages := by
  obtain ⟨hserving, hobserved⟩ :=
    observed_of_stream hE hhead hstart hframed hwithin hmeets hstream hfits
  refine ⟨?_, fun hpending hdispatch => ?_, ?_⟩
  · rw [← hobserved, observed, List.append_assoc]
    exact List.prefix_append _ _
  · rw [← hobserved]
    exact callbacks_of_rest hpending hdispatch
  · obtain ⟨n, hn⟩ := hserving.settles (E := E)
    exact ⟨n, by rw [run_append, hn, hobserved]⟩

/-- A text and two bytes of data, in one piece with the head. -/
theorem handler_observes_hi :
    ∃ n, (run (step sampleParsers) (requested sampleParsers sampleRequest [] 0)
      (samplePiece [0x81, 0x02, 0x48, 0x69, 0x82, 0x02, 0x00, 0xFF] 0 ++
        (List.replicate n turn).flatten)).callbacks =
          expected sampleHeaders [.text [0x48, 0x69], .data [0x00, 0xFF]] := by
  have htext : (Sent.text [0x48, 0x69]).Framed [0x81, 0x02, 0x48, 0x69] :=
    Sent.framed_of_bytes (by decide) (by decide) (by decide)
  have hdata : (Sent.data [0x00, 0xFF]).Framed [0x82, 0x02, 0x00, 0xFF] :=
    Sent.framed_of_bytes (by decide) (by decide) (by decide)
  obtain ⟨hmeets, hchunks⟩ :=
    samplePiece_delivers [0x81, 0x02, 0x48, 0x69, 0x82, 0x02, 0x00, 0xFF] 0
  have hframed : List.Forall₂ Sent.Framed [.text [0x48, 0x69], .data [0x00, 0xFF]]
      [[0x81, 0x02, 0x48, 0x69], [0x82, 0x02, 0x00, 0xFF]] :=
    .cons htext (.cons hdata .nil)
  have hbytes : [[0x81, 0x02, 0x48, 0x69], [0x82, 0x02, 0x00, 0xFF]].flatten =
      ([0x81, 0x02, 0x48, 0x69, 0x82, 0x02, 0x00, 0xFF] : List UInt8) := rfl
  have hall := handler_observes_messages (q := sampleRequest) rfl readsHead_sample
    sampleReading_start hframed (by decide +kernel) hmeets
    (by rw [hchunks, List.flatten_singleton, hbytes])
    (by rw [hchunks]; exact fits_sample (by decide))
  exact hall.2.2

/-- Of a text with a zero byte the handler sees the bytes in front of it. -/
theorem handler_observes_cut_text :
    (Sent.text [0x61, 0x00, 0x62]).Framed [0x81, 0x03, 0x61, 0x00, 0x62] ∧
      ∀ n, (run (step sampleParsers) (requested sampleParsers sampleRequest [] 0)
        (samplePiece [0x81, 0x03, 0x61, 0x00, 0x62] n)).callbacks ≠
          [.onConnectResult bcrSuccess sampleHeaders, .onRecvText [0x61, 0x00, 0x62]] := by
  have htext : (Sent.text [0x61, 0x00, 0x62]).Framed [0x81, 0x03, 0x61, 0x00, 0x62] :=
    Sent.framed_of_bytes (by decide) (by decide) (by decide)
  refine ⟨htext, fun n hall => ?_⟩
  obtain ⟨hmeets, hchunks⟩ := samplePiece_delivers [0x81, 0x03, 0x61, 0x00, 0x62] n
  have hframed : List.Forall₂ Sent.Framed [.text [0x61, 0x00, 0x62]]
      [[0x81, 0x03, 0x61, 0x00, 0x62]] := .cons htext .nil
  obtain ⟨-, hobserved⟩ := observed_of_stream (q := sampleRequest) rfl readsHead_sample
    sampleReading_start hframed (by decide +kernel) hmeets
    (by rw [hchunks, List.flatten_singleton, List.flatten_singleton])
    (by rw [hchunks]; exact fits_sample (by decide))
  have hcut : expected sampleHeaders [.text [0x61, 0x00, 0x62]] =
      [.onConnectResult bcrSuccess sampleHeaders, .onRecvText [0x61]] := rfl
  rw [observed, hall, hcut] at hobserved
  simp at hobserved

end Observed

end WSConnection

end WS
