import TTSignal.Smp.SendQueue

/-!
# The client's send queue keeps the order

The invariant behind the send queue: the packets still queued are a tail of the
submissions, the buffer at the front has had exactly the accepted part of its frame
passed, and the others are untouched. Each accepted block and each report moves this
invariant one output further, so it also describes every moment between two events.
-/

namespace SMP

open BC Runs

variable {streamId : UInt32} {subs queue : List Queued} {outputs : List StreamOutput}

/-- Accepted bytes accumulate. -/
@[simp] theorem acceptedBytes_append (a b : List StreamOutput) :
    acceptedBytes (a ++ b) = acceptedBytes a ++ acceptedBytes b :=
  List.flatMap_append

/-- Reports accumulate. -/
@[simp] theorem sentNotices_append (a b : List StreamOutput) :
    sentNotices (a ++ b) = sentNotices a ++ sentNotices b :=
  List.filterMap_append

/-- How the queue stands to the packets not yet reported when `part` of the frame at the
front has been accepted. -/
inductive Waiting : List UInt8 → List Queued → List Queued → Prop where
  /-- Nothing waits. -/
  | idle : Waiting [] [] []
  /-- The front has been offered in part, the others not at all. -/
  | front {part : List UInt8} {q : Queued} {buff : BCBuffer} {rest : List Queued}
      (hcur : buff.nCurrent ≤ buff.nUsed) (hframe : q.frame = part ++ buff.remaining) :
      Waiting part ({ q with buff := buff } :: rest) (q :: rest)

/-- The state of a stream's sending at some moment. -/
structure Sending (streamId : UInt32) (subs queue : List Queued)
    (outputs : List StreamOutput) : Prop where
  /-- Submitted buffers are read from their start. -/
  fresh : ∀ q ∈ subs, q.buff.nCurrent = 0
  /-- Every earlier moment was in order. -/
  orderly : ∀ pre, pre <+: outputs → Orderly streamId subs pre
  /-- The reported and the waiting packets make up the submissions. -/
  current : ∃ done pend part, subs = done ++ pend ∧
    sentNotices outputs = done.map (Queued.notice streamId) ∧
    acceptedBytes outputs = done.flatMap Queued.frame ++ part ∧ Waiting part queue pend

/-- The accepted part belongs to the frames that wait. -/
theorem Waiting.prefix_frames {part : List UInt8} {pend : List Queued}
    (h : Waiting part queue pend) : part <+: pend.flatMap Queued.frame := by
  cases h with
  | idle => exact List.nil_prefix
  | front hcur hframe =>
    rw [List.flatMap_cons, hframe, List.append_assoc]
    exact List.prefix_append _ _

/-- A decomposition into reported and waiting packets is in order. -/
theorem orderly_of_parts {done pend : List Queued} {part : List UInt8}
    (hsubs : subs = done ++ pend)
    (hnotices : sentNotices outputs = done.map (Queued.notice streamId))
    (haccepted : acceptedBytes outputs = done.flatMap Queued.frame ++ part)
    (hpart : part <+: pend.flatMap Queued.frame) : Orderly streamId subs outputs := by
  refine ⟨?_, done, ?_, hnotices, ?_⟩
  · rw [haccepted, hsubs, List.flatMap_append]
    exact List.prefix_append_right_inj _ |>.mpr hpart
  · rw [hsubs]
    exact List.prefix_append _ _
  · rw [haccepted]
    exact List.prefix_append _ _

/-- One more output, after which the parts still fit, keeps the invariant. -/
theorem Sending.concat {output : StreamOutput} {next : List Queued}
    (h : Sending streamId subs queue outputs)
    (hcurrent : ∃ done pend part, subs = done ++ pend ∧
      sentNotices (outputs ++ [output]) = done.map (Queued.notice streamId) ∧
      acceptedBytes (outputs ++ [output]) = done.flatMap Queued.frame ++ part ∧
      Waiting part next pend) :
    Sending streamId subs next (outputs ++ [output]) := by
  refine ⟨h.fresh, fun pre hpre => ?_, hcurrent⟩
  rcases List.prefix_concat_iff.mp hpre with rfl | hpre
  · obtain ⟨done, pend, part, hsubs, hnotices, haccepted, hwait⟩ := hcurrent
    exact orderly_of_parts hsubs hnotices haccepted hwait.prefix_frames
  · exact h.orderly pre hpre

/-- Accepting bytes of the front buffer and passing them keeps the invariant. -/
theorem Sending.accept {q : Queued} {rest : List Queued} {n : ℕ}
    (h : Sending streamId subs (q :: rest) outputs) (hle : q.buff.nCurrent + n ≤ q.buff.nUsed) :
    Sending streamId subs ({ q with buff := q.buff.advance n } :: rest)
      (outputs ++ [.accepted (q.buff.remaining.take n)]) := by
  refine h.concat ?_
  obtain ⟨done, pend, part, hsubs, hnotices, haccepted, hwait⟩ := h.current
  cases hwait with
  | @front _ q₀ buff _ hcur hframe =>
    simp only at hle ⊢
    have hused := buff.used_lt
    refine ⟨done, q₀ :: rest, part ++ buff.remaining.take n, hsubs, ?_, ?_, ?_⟩
    · rw [sentNotices_append, hnotices]
      simp [sentNotices]
    · rw [acceptedBytes_append, haccepted, List.append_assoc]
      simp [acceptedBytes]
    · refine .front ?_ ?_
      · have hmod : (buff.advance n).nCurrent = buff.nCurrent + n := Nat.mod_eq_of_lt (by omega)
        rw [hmod]
        exact hle
      · rw [BCBuffer.remaining_advance hle, List.append_assoc, List.take_append_drop, hframe]

/-- A buffer read from its start still holds its whole frame. -/
theorem waiting_of_fresh (hfresh : ∀ q ∈ queue, q.buff.nCurrent = 0) :
    Waiting [] queue queue := by
  cases queue with
  | nil => exact .idle
  | cons q rest =>
    have hzero := hfresh q (by simp)
    have hcur : q.buff.nCurrent ≤ q.buff.nUsed := by
      rw [hzero]
      exact Nat.zero_le _
    have hframe : q.frame = [] ++ q.buff.remaining := by
      rw [BCBuffer.remaining, hzero, List.drop_zero, List.nil_append]
      rfl
    exact .front hcur hframe

/-- Reporting a packet whose buffer was passed to its end keeps the invariant. -/
theorem Sending.report {q : Queued} {rest : List Queued}
    (h : Sending streamId subs (q :: rest) outputs) (hdone : q.buff.remaining = []) :
    Sending streamId subs rest (outputs ++
      [.streamDataSent streamId q.pkt.transId q.pkt.origionData.nUsed]) := by
  refine h.concat ?_
  obtain ⟨done, pend, part, hsubs, hnotices, haccepted, hwait⟩ := h.current
  cases hwait with
  | @front _ q₀ buff _ hcur hframe =>
    have hframe' : q₀.frame = part := by rw [hframe, hdone, List.append_nil]
    refine ⟨done ++ [q₀], rest, [], ?_, ?_, ?_, waiting_of_fresh fun p hp => h.fresh p ?_⟩
    · rw [hsubs, List.append_assoc]
      rfl
    · rw [sentNotices_append, hnotices, List.map_append]
      rfl
    · rw [acceptedBytes_append, haccepted, List.flatMap_append]
      simp [acceptedBytes, hframe']
    · rw [hsubs]
      simp [hp]

/-- Submitting a packet keeps the invariant. -/
theorem Sending.submit {q : Queued} (h : Sending streamId subs queue outputs)
    (hq : q.buff.nCurrent = 0) :
    Sending streamId (subs ++ [q]) (queue ++ [q]) outputs := by
  refine ⟨?_, ?_, ?_⟩
  · intro p hp
    rcases List.mem_append.mp hp with hp | hp
    · exact h.fresh p hp
    · rw [List.mem_singleton.mp hp, hq]
  · intro pre hpre
    obtain ⟨hfront, done, hdone, hnotices, hframes⟩ := h.orderly pre hpre
    refine ⟨?_, done, hdone.trans (List.prefix_append _ _), hnotices, hframes⟩
    rw [List.flatMap_append]
    exact hfront.trans (List.prefix_append _ _)
  · obtain ⟨done, pend, part, hsubs, hnotices, haccepted, hwait⟩ := h.current
    refine ⟨done, pend ++ [q], part, by rw [hsubs, List.append_assoc], hnotices, haccepted, ?_⟩
    cases hwait with
    | idle =>
      exact waiting_of_fresh (by simpa using hq)
    | front hcur hframe => exact .front hcur hframe

/-- The cursor of the buffer at the front lies within its used bytes. -/
theorem Sending.cursor_le {q : Queued} {rest : List Queued}
    (h : Sending streamId subs (q :: rest) outputs) : q.buff.nCurrent ≤ q.buff.nUsed := by
  obtain ⟨done, pend, part, -, -, -, hwait⟩ := h.current
  cases hwait with
  | front hcur hframe => exact hcur

/-- Every waiting buffer is read within its used bytes. -/
theorem Sending.cursors_le (h : Sending streamId subs queue outputs) :
    ∀ q ∈ queue, q.buff.nCurrent ≤ q.buff.nUsed := by
  obtain ⟨done, pend, part, hsubs, -, -, hwait⟩ := h.current
  cases hwait with
  | idle => exact fun q hq => absurd hq List.not_mem_nil
  | @front _ q₀ buff rest hcur hframe =>
    intro q hq
    rcases List.mem_cons.mp hq with rfl | hrest
    · exact hcur
    · rw [h.fresh q (by simp [hsubs, hrest])]
      exact Nat.zero_le _

/-- When nothing waits, everything was taken and reported. -/
theorem Sending.all_sent (h : Sending streamId subs [] outputs) :
    acceptedBytes outputs = subs.flatMap Queued.frame ∧
      sentNotices outputs = subs.map (Queued.notice streamId) := by
  obtain ⟨done, pend, part, hsubs, hnotices, haccepted, hwait⟩ := h.current
  cases hwait
  rw [hsubs, List.append_nil]
  exact ⟨haccepted.trans (List.append_nil _), hnotices⟩

namespace SMPStream

variable {t : Transport} {s : SMPStream}

/-- Sending changes neither the identity of the stream nor its queue. -/
@[simp] theorem streamId_send (data : List UInt8) : (s.send t data).2.streamId = s.streamId := by
  unfold send
  split <;> rfl

/-- A positive result means that a prefix of the offered bytes was taken. -/
theorem outputs_send_of_pos {data : List UInt8} (hpos : 0 < (s.send t data).1) :
    (s.send t data).2.outputs =
      s.outputs ++ [.accepted (data.take (s.send t data).1.toNat)] := by
  unfold send at hpos ⊢
  split
  · rename_i hopen
    rw [if_pos hopen] at hpos
    simp only [if_pos hpos, Transport.taken]
  · rename_i hclosed
    rw [if_neg hclosed] at hpos
    omega

/-- A result that is not positive means that nothing was taken. -/
theorem outputs_send_of_le {data : List UInt8} (hle : (s.send t data).1 ≤ 0) :
    (s.send t data).2.outputs = s.outputs := by
  unfold send at hle ⊢
  split
  · rename_i hopen
    rw [if_pos hopen] at hle
    simp only [if_neg (not_lt.mpr hle)]
  · rfl

/-- No more is taken than was offered. -/
theorem send_le (data : List UInt8) : (s.send t data).1 ≤ data.length := by
  unfold send
  split
  · exact t.result_le _ _
  · exact le_trans (by norm_num) (Int.natCast_nonneg _)

/-- A block can be offered exactly while something of the buffer remains. -/
theorem peekBlock_eq_nil {buff : BCBuffer} (hcur : buff.nCurrent ≤ buff.nUsed) :
    buff.peekBlock (2 ^ 32 - 1) = [] ↔ buff.remaining = [] := by
  have hmod := Nat.mod_lt buff.nCurrent (show 0 < 8192 by norm_num)
  rw [BCBuffer.peekBlock_eq hcur, List.take_eq_nil_iff]
  exact or_iff_right (by omega)

/-- The inner loop offers the front buffer and leaves it either finished or blocked. -/
theorem sendBlocks_spec {fuel : ℕ} {q : Queued} {rest : List Queued} {buff : BCBuffer}
    (h : Sending s.streamId subs ({ q with buff := buff } :: rest) s.outputs)
    (hfuel : buff.nUsed - buff.nCurrent < fuel) :
    (s.sendBlocks t fuel buff).2.1.streamId = s.streamId ∧
      Sending s.streamId subs ({ q with buff := (s.sendBlocks t fuel buff).2.2 } :: rest)
        (s.sendBlocks t fuel buff).2.1.outputs ∧
      ((s.sendBlocks t fuel buff).1 = true ↔ (s.sendBlocks t fuel buff).2.2.remaining = []) := by
  induction fuel generalizing s buff with
  | zero => omega
  | succ fuel ih =>
    have hcur : buff.nCurrent ≤ buff.nUsed := h.cursor_le
    have hused := buff.used_lt
    have hmod := Nat.mod_lt buff.nCurrent (show 0 < 8192 by norm_num)
    have hpeek : buff.peekBlock (2 ^ 32 - 1) =
        buff.remaining.take (min (2 ^ 32 - 1) (8192 - buff.nCurrent % 8192)) :=
      BCBuffer.peekBlock_eq hcur
    have hrem := BCBuffer.length_remaining hcur
    rw [BCBuffer.remainingLength_eq hcur] at hrem
    have hnil := peekBlock_eq_nil hcur
    rw [sendBlocks]
    simp only
    by_cases hdone : buff.peekBlock (2 ^ 32 - 1) = []
    · rw [if_pos hdone]
      exact ⟨rfl, h, by simpa using hnil.mp hdone⟩
    · rw [if_neg hdone]
      set data := buff.peekBlock (2 ^ 32 - 1) with hdata
      have hle : (s.send t data).1 ≤ data.length := send_le data
      by_cases hblocked : (s.send t data).1 ≤ 0
      · rw [if_pos (by omega)]
        refine ⟨streamId_send data, ?_, ?_⟩
        · rw [outputs_send_of_le hblocked]
          exact h
        · simpa using fun hempty => hdone (hnil.mpr hempty)
      · rw [if_neg (by omega)]
        have hpos : 0 < (s.send t data).1 := by omega
        set n := (s.send t data).1.toNat with hn
        have hlen : data.length = min (min (2 ^ 32 - 1) (8192 - buff.nCurrent % 8192))
            (buff.nUsed - buff.nCurrent) := by
          rw [hpeek, List.length_take, hrem]
        have hfit : buff.nCurrent + n ≤ buff.nUsed := by omega
        have htake : data.take n = buff.remaining.take n := by
          rw [hpeek, List.take_take, Nat.min_eq_left (by omega)]
        have hforward : buff.forward n = buff.advance n := by
          rw [BCBuffer.forward, BCBuffer.remainingLength_eq hcur, Nat.min_eq_left (by omega)]
        have hnext : Sending (s.send t data).2.streamId subs
            ({ q with buff := buff.forward n } :: rest) (s.send t data).2.outputs := by
          rw [streamId_send, outputs_send_of_pos hpos, ← hn, htake, hforward]
          exact h.accept hfit
        have hcur' : (buff.forward n).nCurrent = buff.nCurrent + n := by
          rw [hforward]
          exact Nat.mod_eq_of_lt (by omega)
        have hused' : (buff.forward n).nUsed = buff.nUsed := rfl
        obtain ⟨hid, hsending, hfinished⟩ := ih hnext (by omega)
        rw [streamId_send] at hid hsending
        exact ⟨hid, hsending, hfinished⟩

/-- A turn of the outer loop. -/
theorem sendBuffListLoop_cons (q : Queued) (queue : List Queued) :
    s.sendBuffListLoop t (q :: queue) =
      if (s.sendBlocks t (q.buff.nUsed + 1) q.buff).1 then
        ((s.sendBlocks t (q.buff.nUsed + 1) q.buff).2.1.dataSent q).sendBuffListLoop t
          queue
      else
        { (s.sendBlocks t (q.buff.nUsed + 1) q.buff).2.1 with
          sendBuffList :=
            { q with buff := (s.sendBlocks t (q.buff.nUsed + 1) q.buff).2.2 } ::
              queue } := by
  rw [sendBuffListLoop]

/-- The outer loop sends front packets until one is blocked. -/
theorem sendBuffListLoop_spec {queue : List Queued}
    (h : Sending s.streamId subs queue s.outputs) :
    (s.sendBuffListLoop t queue).streamId = s.streamId ∧
      Sending s.streamId subs (s.sendBuffListLoop t queue).sendBuffList
        (s.sendBuffListLoop t queue).outputs ∧
      ∀ q ∈ (s.sendBuffListLoop t queue).sendBuffList.head?, q.buff.remaining ≠ [] := by
  induction queue generalizing s with
  | nil => exact ⟨rfl, h, by simp [sendBuffListLoop]⟩
  | cons q queue ih =>
    have hfuel : q.buff.nUsed - q.buff.nCurrent < q.buff.nUsed + 1 := by omega
    obtain ⟨hid, hsending, hfinished⟩ := sendBlocks_spec (t := t) h hfuel
    rw [sendBuffListLoop_cons]
    generalize s.sendBlocks t (q.buff.nUsed + 1) q.buff = r at hid hsending hfinished ⊢
    by_cases hdone : r.1 = true
    · rw [if_pos hdone]
      have hid' : (r.2.1.dataSent q).streamId = s.streamId := hid
      have hreport : Sending (r.2.1.dataSent q).streamId subs queue
          (r.2.1.dataSent q).outputs := by
        have hempty := hfinished.mp hdone
        simp only [dataSent, hid]
        exact hsending.report hempty
      obtain ⟨hloop, hrest, hblocked⟩ := ih hreport
      rw [hid'] at hloop hrest
      exact ⟨hloop, hrest, hblocked⟩
    · rw [if_neg hdone]
      refine ⟨hid, hsending, ?_⟩
      intro q' hq'
      simp only [List.head?_cons, Option.mem_some_iff] at hq'
      subst hq'
      exact fun hempty => hdone (hfinished.mpr hempty)

/-- What holds of a stream between two events: the sending invariant, and the front
packet, if any, is not finished. -/
structure Settled (streamId : UInt32) (subs : List Queued) (s : SMPStream) : Prop where
  /-- The stream keeps its identity. -/
  id_eq : s.streamId = streamId
  /-- The sending invariant. -/
  sending : Sending streamId subs s.sendBuffList s.outputs
  /-- A finished packet does not stay at the front. -/
  blocked : ∀ q ∈ s.sendBuffList.head?, q.buff.remaining ≠ []

/-- A packet for the stream is queued and the queue is run. -/
theorem step_sendPacket {pkt : SMPacket} (hid : pkt.streamId = s.streamId) :
    s.step t (.sendPacket pkt) =
      { s with sendBuffList := s.sendBuffList ++ [pkt.queued] }.runSendBuffList t := by
  rw [step, sendPacketInternal, if_pos hid]
  rfl

/-- One event keeps the invariant, with its packet added to the submissions. -/
theorem Settled.step (h : Settled streamId subs s) (e : StreamEvent) :
    Settled streamId (subs ++ submitted streamId [e]) (s.step t e) := by
  obtain ⟨rfl, hsending, hblocked⟩ := h
  cases e with
  | sendPacket pkt =>
    by_cases hid : pkt.streamId = s.streamId
    · have hsubs : submitted s.streamId [.sendPacket pkt] = [pkt.queued] := by
        simp [submitted, hid]
      have hsubmit : Sending s.streamId (subs ++ [pkt.queued]) (s.sendBuffList ++ [pkt.queued])
          s.outputs :=
        hsending.submit pkt.nCurrent_packPacket
      rw [hsubs, step_sendPacket hid]
      obtain ⟨hid', hs, hb⟩ := sendBuffListLoop_spec (t := t)
        (s := { s with sendBuffList := s.sendBuffList ++ [pkt.queued] }) hsubmit
      exact ⟨hid', hs, hb⟩
    · have hsubs : submitted s.streamId [.sendPacket pkt] = [] := by simp [submitted, hid]
      rw [hsubs, List.append_nil, SMPStream.step, sendPacketInternal, if_neg hid]
      exact ⟨rfl, hsending, hblocked⟩
  | writeNotify =>
    obtain ⟨hid', hs, hb⟩ := sendBuffListLoop_spec (t := t) hsending
    have hsubs : submitted s.streamId [.writeNotify] = [] := rfl
    rw [hsubs, List.append_nil]
    exact ⟨hid', hs, hb⟩
  | close =>
    have hsubs : submitted s.streamId [.close] = [] := rfl
    rw [hsubs, List.append_nil]
    exact ⟨rfl, hsending, hblocked⟩

/-- A new stream has nothing to send. -/
theorem settled_create (streamId : UInt32) : Settled streamId [] (create streamId) := by
  refine ⟨rfl, ⟨by simp, ?_, [], [], [], rfl, rfl, rfl, .idle⟩, by simp [create]⟩
  intro pre hpre
  obtain rfl := List.prefix_nil.mp hpre
  exact ⟨ List.nil_prefix, [], List.nil_prefix, rfl, List.nil_prefix⟩

/-- Submissions accumulate. -/
theorem submitted_append (streamId : UInt32) (events more : List StreamEvent) :
    submitted streamId (events ++ more) =
      submitted streamId events ++ submitted streamId more :=
  List.filterMap_append

/-- The invariant holds after every run of the stream. -/
theorem settled_run (t : Transport) (streamId : UInt32) (events : List StreamEvent) :
    Settled streamId (submitted streamId events)
      (run (SMPStream.step t) (create streamId) events) := by
  induction events using List.reverseRecOn with
  | nil => exact settled_create streamId
  | append_singleton events e ih =>
    rw [run_concat, submitted_append]
    exact ih.step e

/-- A packet whose frame has been accepted to its end has been reported. -/
theorem Settled.reported (h : Settled streamId subs s) :
    ∃ done pend, subs = done ++ pend ∧
      sentNotices s.outputs = done.map (Queued.notice streamId) ∧
      ∀ q ∈ pend.head?, (acceptedBytes s.outputs).length <
        (done.flatMap Queued.frame).length + q.frame.length := by
  obtain ⟨-, hsending, hblocked⟩ := h
  obtain ⟨done, pend, part, hsubs, hnotices, haccepted, hwait⟩ := hsending.current
  refine ⟨done, pend, hsubs, hnotices, ?_⟩
  rw [haccepted, List.length_append]
  generalize s.sendBuffList = queue at hwait hblocked
  cases hwait with
  | idle => simp
  | @front _ q buff rest hcur hframe =>
    intro q' hq'
    simp only [List.head?_cons, Option.mem_some_iff] at hq'
    subst hq'
    have hpos := List.length_pos_iff.mpr (hblocked _ rfl)
    rw [hframe, List.length_append]
    simp only at hpos
    omega

/-! ## Nothing waits that could be sent -/

/-- What has been sent and noted stays, calls are counted up, and the stream stays open. -/
structure Further (s s' : SMPStream) : Prop where
  /-- What happened stays. -/
  outputs : s.outputs <+: s'.outputs
  /-- Calls are counted. -/
  sends : s.sends ≤ s'.sends
  /-- The stream stays open or closed. -/
  isOpen : s'.isOpen = s.isOpen

/-- A stream is as far as itself. -/
theorem Further.refl (s : SMPStream) : Further s s := ⟨List.prefix_rfl, le_rfl, rfl⟩

/-- What goes on further twice goes on further. -/
theorem Further.trans {s₁ s₂ s₃ : SMPStream} (h : Further s₁ s₂) (h' : Further s₂ s₃) :
    Further s₁ s₃ :=
  ⟨h.outputs.trans h'.outputs, h.sends.trans h'.sends, h'.isOpen.trans h.isOpen⟩

/-- The bytes of earlier outputs come first. -/
theorem acceptedBytes_prefix {a b : List StreamOutput} (h : a <+: b) :
    acceptedBytes a <+: acceptedBytes b := by
  obtain ⟨rest, rfl⟩ := h
  rw [acceptedBytes_append]
  exact List.prefix_append _ _

/-- A `send` goes on further. -/
theorem further_send (data : List UInt8) : Further s (s.send t data).2 := by
  unfold send
  split
  · refine ⟨?_, Nat.le_succ _, rfl⟩
    dsimp only
    split
    · exact List.prefix_append _ _
    · exact List.prefix_rfl
  · exact Further.refl s

/-- So does the loop over the blocks. -/
theorem further_sendBlocks (fuel : ℕ) (buff : BCBuffer) :
    Further s (s.sendBlocks t fuel buff).2.1 := by
  induction fuel generalizing s buff with
  | zero => exact Further.refl s
  | succ fuel ih =>
    rw [sendBlocks]
    dsimp only
    split
    · exact Further.refl s
    split
    · exact further_send _
    · exact (further_send _).trans (ih _)

/-- So does the loop over the queue. -/
theorem further_sendBuffListLoop (queue : List Queued) :
    Further s (s.sendBuffListLoop t queue) := by
  induction queue generalizing s with
  | nil => exact ⟨List.prefix_rfl, le_rfl, rfl⟩
  | cons q queue ih =>
    have hblocks : Further s (s.sendBlocks t (q.buff.nUsed + 1) q.buff).2.1 :=
      further_sendBlocks _ _
    rw [sendBuffListLoop_cons]
    split
    · refine hblocks.trans (Further.trans ?_ ih)
      exact ⟨List.prefix_append _ _, le_rfl, rfl⟩
    · exact ⟨hblocks.outputs, hblocks.sends, hblocks.isOpen⟩

/-- A call on an open stream is counted, and what it takes is recorded. -/
theorem send_of_open (hopen : s.isOpen = true) (data : List UInt8) :
    (s.send t data).2.sends = s.sends + 1 ∧
      acceptedBytes (s.send t data).2.outputs =
        acceptedBytes s.outputs ++ t.taken s.sends data := by
  rw [send, if_pos hopen]
  refine ⟨rfl, ?_⟩
  dsimp only
  split
  · simp [acceptedBytes]
  · rename_i hle
    rw [Transport.taken, Int.toNat_of_nonpos (not_lt.mp hle), List.take_zero, List.append_nil]

/-- The block at the front is offered first. -/
theorem sendBuffListLoop_offers (hopen : s.isOpen = true) {q : Queued} (queue : List Queued)
    (hdata : q.buff.peekBlock (2 ^ 32 - 1) ≠ []) :
    s.sends < (s.sendBuffListLoop t (q :: queue)).sends ∧
      acceptedBytes s.outputs ++ t.taken s.sends (q.buff.peekBlock (2 ^ 32 - 1)) <+:
        acceptedBytes (s.sendBuffListLoop t (q :: queue)).outputs := by
  have hblocks : Further (s.send t (q.buff.peekBlock (2 ^ 32 - 1))).2
      (s.sendBlocks t (q.buff.nUsed + 1) q.buff).2.1 := by
    rw [sendBlocks]
    dsimp only
    rw [if_neg hdata]
    split
    · exact Further.refl _
    · exact further_sendBlocks _ _
  have hloop : Further (s.sendBlocks t (q.buff.nUsed + 1) q.buff).2.1
      (s.sendBuffListLoop t (q :: queue)) := by
    rw [sendBuffListLoop_cons]
    split
    · refine Further.trans ?_ (further_sendBuffListLoop queue)
      exact ⟨List.prefix_append _ _, le_rfl, rfl⟩
    · exact ⟨List.prefix_rfl, le_rfl, rfl⟩
  obtain ⟨hsends, hbytes⟩ := send_of_open (t := t) hopen (q.buff.peekBlock (2 ^ 32 - 1))
  have hall := hblocks.trans hloop
  rw [← hbytes]
  exact ⟨by have := hall.sends; omega, acceptedBytes_prefix hall.outputs⟩

/-- A transport that takes all takes the whole buffer. -/
theorem sendBlocks_of_takesAll {fuel : ℕ} {buff : BCBuffer} (hopen : s.isOpen = true)
    (hall : t.TakesAll s.sends) (hcur : buff.nCurrent ≤ buff.nUsed)
    (hfuel : buff.nUsed - buff.nCurrent < fuel) : (s.sendBlocks t fuel buff).1 = true := by
  induction fuel generalizing s buff with
  | zero => omega
  | succ fuel ih =>
    rw [sendBlocks]
    dsimp only
    set data := buff.peekBlock (2 ^ 32 - 1) with hdata
    by_cases hdone : data = []
    · rw [if_pos hdone]
    · have hresult : (s.send t data).1 = data.length := by
        rw [send, if_pos hopen]
        exact hall s.sends data le_rfl
      have hpos := List.length_pos_iff.mpr hdone
      have hused := buff.used_lt
      have hlen : data.length ≤ buff.nUsed - buff.nCurrent := by
        rw [hdata, BCBuffer.peekBlock_eq hcur, List.length_take]
        refine (Nat.min_le_right _ _).trans_eq ?_
        rw [BCBuffer.length_remaining hcur, BCBuffer.remainingLength_eq hcur]
      have hforward : buff.forward data.length = buff.advance data.length := by
        rw [BCBuffer.forward, BCBuffer.remainingLength_eq hcur, Nat.min_eq_left hlen]
      have hnext : (buff.forward data.length).nCurrent = buff.nCurrent + data.length := by
        rw [hforward]
        exact Nat.mod_eq_of_lt (by omega)
      have hsame : (buff.forward data.length).nUsed = buff.nUsed := rfl
      have hfurther : Further s (s.send t data).2 := further_send data
      rw [if_neg hdone, hresult, if_neg (by omega), Int.toNat_natCast]
      refine ih (hfurther.isOpen.trans hopen) ?_ (by omega) (by omega)
      exact fun call data hle => hall call data (hfurther.sends.trans hle)

/-- A transport that takes all leaves nothing in the queue. -/
theorem sendBuffListLoop_of_takesAll {queue : List Queued} (hopen : s.isOpen = true)
    (hall : t.TakesAll s.sends) (hcur : ∀ q ∈ queue, q.buff.nCurrent ≤ q.buff.nUsed) :
    (s.sendBuffListLoop t queue).sendBuffList = [] := by
  induction queue generalizing s with
  | nil => rfl
  | cons q queue ih =>
    have hfurther : Further s (s.sendBlocks t (q.buff.nUsed + 1) q.buff).2.1 :=
      further_sendBlocks _ _
    rw [sendBuffListLoop_cons, if_pos
      (sendBlocks_of_takesAll hopen hall (hcur q List.mem_cons_self) (by omega))]
    refine ih (hfurther.isOpen.trans hopen) ?_ fun q hq => hcur q (List.mem_cons_of_mem _ hq)
    exact fun call data hle => hall call data (hfurther.sends.trans hle)

/-- Some bytes that come next are offered to the transport, and what it takes of them is
recorded. -/
def Offers (t : Transport) (subs : List Queued) (s s' : SMPStream) : Prop :=
  ∃ offered, offered ≠ [] ∧
    acceptedBytes s.outputs ++ offered <+: subs.flatMap Queued.frame ∧
    s.sends < s'.sends ∧
    acceptedBytes s.outputs ++ t.taken s.sends offered <+: acceptedBytes s'.outputs

/-- While bytes are missing, running the queue offers the next ones. -/
theorem offers_of_sending (h : Sending s.streamId subs s.sendBuffList s.outputs)
    (hopen : s.isOpen = true)
    (hfront : ∀ q rest, s.sendBuffList = q :: rest → rest ≠ [] → q.buff.remaining ≠ [])
    (hmissing : acceptedBytes s.outputs ≠ subs.flatMap Queued.frame) :
    Offers t subs s (s.runSendBuffList t) := by
  obtain ⟨done, pend, part, hsubs, -, haccepted, hwait⟩ := h.current
  unfold runSendBuffList
  generalize s.sendBuffList = queue at hwait hfront
  cases hwait with
  | idle =>
    rw [hsubs, List.append_nil] at hmissing
    exact absurd (haccepted.trans (List.append_nil _)) hmissing
  | @front _ q₀ buff rest hcur hframe =>
    have hremaining : buff.remaining ≠ [] := by
      intro hempty
      by_cases hrest : rest = []
      · refine hmissing ?_
        rw [haccepted, hsubs, hrest, List.flatMap_append]
        simp [hframe, hempty]
      · exact hfront _ _ rfl hrest hempty
    have hdata : buff.peekBlock (2 ^ 32 - 1) ≠ [] := mt (peekBlock_eq_nil hcur).mp hremaining
    refine ⟨buff.peekBlock (2 ^ 32 - 1), hdata, ?_, ?_⟩
    · rw [haccepted, hsubs, List.flatMap_append, List.append_assoc, List.flatMap_cons, hframe,
        List.append_assoc]
      refine List.prefix_append_right_inj _ |>.mpr (List.prefix_append_right_inj _ |>.mpr ?_)
      rw [BCBuffer.peekBlock_eq hcur]
      exact (List.take_prefix _ _).trans (List.prefix_append _ _)
    · exact sendBuffListLoop_offers hopen rest hdata

/-- A transport that takes all is given everything when the queue is run. -/
theorem flushes_of_sending (h : Sending s.streamId subs s.sendBuffList s.outputs)
    (hopen : s.isOpen = true) (hall : t.TakesAll s.sends) :
    acceptedBytes (s.runSendBuffList t).outputs = subs.flatMap Queued.frame ∧
      sentNotices (s.runSendBuffList t).outputs = subs.map (Queued.notice s.streamId) := by
  obtain ⟨-, hsending, -⟩ := sendBuffListLoop_spec (t := t) h
  rw [sendBuffListLoop_of_takesAll hopen hall h.cursors_le] at hsending
  exact hsending.all_sent

/-- An event that runs the queue does so with its packet added to the submissions. -/
theorem Settled.runsQueue (h : Settled streamId subs s) {e : StreamEvent}
    (he : e.RunsQueue streamId) :
    ∃ s₁ : SMPStream, s.step t e = s₁.runSendBuffList t ∧ s₁.streamId = streamId ∧
      s₁.isOpen = s.isOpen ∧ s₁.sends = s.sends ∧ s₁.outputs = s.outputs ∧
      Sending s₁.streamId (subs ++ submitted streamId [e]) s₁.sendBuffList s₁.outputs ∧
      ∀ q rest, s₁.sendBuffList = q :: rest → rest ≠ [] → q.buff.remaining ≠ [] := by
  obtain ⟨rfl, hsending, hblocked⟩ := h
  cases e with
  | sendPacket pkt =>
    have hid : pkt.streamId = s.streamId := he
    have hsubs : submitted s.streamId [.sendPacket pkt] = [pkt.queued] := by
      simp [submitted, hid]
    rw [hsubs]
    refine ⟨_, step_sendPacket hid, rfl, rfl, rfl, rfl,
      hsending.submit pkt.nCurrent_packPacket, ?_⟩
    intro q rest hqueue hrest
    cases hold : s.sendBuffList with
    | nil =>
      simp only [hold, List.nil_append, List.cons.injEq] at hqueue
      exact absurd hqueue.2.symm hrest
    | cons q' rest' =>
      simp only [hold, List.cons_append, List.cons.injEq] at hqueue
      refine hblocked q ?_
      rw [hold, hqueue.1]
      rfl
  | writeNotify =>
    refine ⟨s, rfl, rfl, rfl, rfl, rfl, ?_, ?_⟩
    · exact (List.append_nil subs).symm ▸ hsending
    · intro q rest hqueue _
      exact hblocked q (by rw [hqueue]; rfl)
  | close => exact absurd he id

/-- A stream that was not closed is open. -/
theorem isOpen_run (t : Transport) (streamId : UInt32) {events : List StreamEvent}
    (hopen : .close ∉ events) :
    (run (SMPStream.step t) (create streamId) events).isOpen = true := by
  induction events using List.reverseRecOn with
  | nil => rfl
  | append_singleton events e ih =>
    rw [List.mem_append, not_or, List.mem_singleton] at hopen
    rw [run_concat]
    have hstep {s : SMPStream} : (s.step t e).isOpen = s.isOpen := by
      cases e with
      | sendPacket pkt =>
        by_cases hid : pkt.streamId = s.streamId
        · rw [step_sendPacket hid]
          exact (further_sendBuffListLoop (t := t) _).isOpen
        · rw [SMPStream.step, sendPacketInternal, if_neg hid]
      | writeNotify => exact (further_sendBuffListLoop (t := t) _).isOpen
      | close => exact absurd rfl hopen.2
    exact hstep.trans (ih hopen.1)

/-- At every moment of every run, whatever the transport takes of what it is offered, the
accepted bytes are a prefix of the packed frames in submission order, and the packets
reported by `OnStreamDataSent` are an initial part of the submissions, each reported
once, whose frames have all been accepted; and after every event each packet whose frame
has been accepted to its end has been reported. While bytes are missing, every submission and
write notification of an open stream offers the next ones, and once the transport takes all,
it sends and reports every packet. -/
theorem send_queue_in_order (t : Transport) (streamId : UInt32) (events : List StreamEvent) :
    let s := run (SMPStream.step t) (create streamId) events
    let subs := submitted streamId events
    (∀ pre, pre <+: s.outputs →
      acceptedBytes pre <+: subs.flatMap Queued.frame ∧
        ∃ done, done <+: subs ∧ sentNotices pre = done.map (Queued.notice streamId) ∧
          done.flatMap Queued.frame <+: acceptedBytes pre) ∧
      (∃ done pend, subs = done ++ pend ∧
        sentNotices s.outputs = done.map (Queued.notice streamId) ∧
        ∀ q ∈ pend.head?, (acceptedBytes s.outputs).length <
          (done.flatMap Queued.frame).length + q.frame.length) ∧
      ∀ e : StreamEvent, .close ∉ events → e.RunsQueue streamId →
        let s' := run (SMPStream.step t) (create streamId) (events ++ [e])
        let subs' := submitted streamId (events ++ [e])
        (acceptedBytes s.outputs ≠ subs'.flatMap Queued.frame → Offers t subs' s s') ∧
          (t.TakesAll s.sends →
            acceptedBytes s'.outputs = subs'.flatMap Queued.frame ∧
              sentNotices s'.outputs = subs'.map (Queued.notice streamId)) := by
  intro s subs
  have hsettled := settled_run t streamId events
  refine ⟨hsettled.sending.orderly, hsettled.reported, ?_⟩
  intro e hclose he
  dsimp only
  have hopen := isOpen_run t streamId hclose
  rw [run_concat, submitted_append]
  obtain ⟨s₁, hstep, hid, hopen₁, hsends, houtputs, hsending, hfront⟩ :=
    hsettled.runsQueue (t := t) he
  rw [hstep]
  constructor
  · intro hmissing
    have hoffers := offers_of_sending (t := t) hsending (hopen₁.trans hopen) hfront
      (by rw [houtputs]; exact hmissing)
    simpa only [Offers, hsends, houtputs] using hoffers
  · intro hall
    have hflushed := flushes_of_sending hsending (hopen₁.trans hopen) (by rwa [hsends])
    rwa [hid] at hflushed

/-- A transport that takes five bytes, refuses twice and then takes everything. -/
def haltingTransport : Transport where
  result call data :=
    if call = 0 then min 5 data.length else if call ≤ 2 then -11 else data.length
  result_le := by
    intro call data
    split_ifs <;> omega

/-- A packet of stream 4. -/
def samplePacket (transId : UInt32) : SMPacket where
  type := 1
  timestamp := 1000
  transId := transId
  streamId := 4
  origionData := BCBuffer.empty.write [1, 2, 3]
  packedJmpData := none

/-- Two packets wait until the write notification, which sends and reports both. -/
theorem send_queue_in_order_halting :
    let s := run (SMPStream.step haltingTransport) (create 4)
      [.sendPacket (samplePacket 1), .sendPacket (samplePacket 2), .writeNotify]
    acceptedBytes s.outputs =
        (samplePacket 1).packPacket.content ++ (samplePacket 2).packPacket.content ∧
      sentNotices s.outputs = [(4, 1, 3), (4, 2, 3)] := by
  have hsends : (run (SMPStream.step haltingTransport) (create 4)
      [.sendPacket (samplePacket 1), .sendPacket (samplePacket 2)]).sends = 3 := by
    decide +kernel
  have hall : haltingTransport.TakesAll 3 := by
    intro call data hle
    have hzero : ¬ call = 0 := by omega
    have htwo : ¬ call ≤ 2 := by omega
    simp only [haltingTransport, if_neg hzero, if_neg htwo]
  obtain ⟨hbytes, hnotices⟩ := ((send_queue_in_order haltingTransport 4
    [.sendPacket (samplePacket 1), .sendPacket (samplePacket 2)]).2.2 .writeNotify
      (by simp) trivial).2 (by rw [hsends]; exact hall)
  exact ⟨hbytes.trans (by decide +kernel), hnotices.trans (by decide +kernel)⟩

end SMPStream

end SMP
