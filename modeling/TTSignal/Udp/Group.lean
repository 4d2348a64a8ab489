import TTSignal.Udp.Serving

/-!
# A group of senders

`UDPSenderGroup` sends every datagram on all its senders until one of them has received
something; from then on that one is the winner and the only one that sends. It tells its handler
that it is closed when its last sender has closed. A winner that closes stays the winner, so
that the group sends on a closed sender while others are open.

`Restart`, `StartRecv` and `Close` post an event to each sender, which the queue of that sender
hands over later; here this is a step of the sender.
-/

namespace Udp

/-- `UDPSenderGroup`. -/
structure Group where
  /-- `senders_`. -/
  senders : List Sender
  /-- `converged_`. -/
  converged : Bool
  /-- `winner_`, by its position. -/
  winner : Option ℕ
  /-- `closed_count_`. -/
  closedCount : ℕ
  /-- The calls of `handler_`. -/
  reports : List Callback
  deriving DecidableEq

namespace Group

variable (g : Group)

/-- `handler_` is called. -/
def report (c : Callback) : Group := { g with reports := g.reports ++ [c] }

/-- `handler_` is called for any sender until one has won, then for that one. -/
def reportFrom (i : ℕ) (c : Callback) : Group :=
  if ¬ g.converged ∨ g.winner = some i then g.report c else g

/-- `OnSenderSendData`. -/
def onSenderSendData (i : ℕ) : Group := g.reportFrom i .onSendData

/-- `OnSenderRecvData`. -/
def onSenderRecvData (i : ℕ) : Group :=
  (if g.converged then g else { g with converged := true, winner := some i }).report .onRecvData

/-- `OnSenderCheckAvailable`. -/
def onSenderCheckAvailable (i : ℕ) : Group := g.reportFrom i .onCheckAvailable

/-- `OnSenderRestart`. -/
def onSenderRestart (i : ℕ) (result : BCRESULT) : Group := g.reportFrom i (.onRestart result)

/-- `OnSenderUdpClosed`. -/
def onSenderUdpClosed : Group :=
  if g.closedCount + 1 ≥ g.senders.length then
    { g with closedCount := g.closedCount + 1 }.report .onUdpClosed
  else { g with closedCount := g.closedCount + 1 }

/-- `SenderHandler`: a sender calls its handler. -/
def handle (i : ℕ) : Callback → Group
  | .onSendData => g.onSenderSendData i
  | .onRecvData => g.onSenderRecvData i
  | .onCheckAvailable => g.onSenderCheckAvailable i
  | .onRestart result => g.onSenderRestart i result
  | .onUdpClosed => g.onSenderUdpClosed

/-- The calls of a sender's handler on the way from one state to another. -/
def callbacksSince (s t : Sender) : List Callback :=
  (t.trace.drop s.trace.length).filterMap Note.callback?

/-- Something happens to a sender, which calls its handler for it. -/
def stepSender (sys : ℕ → System) (i : ℕ) (e : Step) : Group :=
  match g.senders[i]? with
  | none => g
  | some s =>
    (callbacksSince s (s.step (sys i) e)).foldl (fun g c => g.handle i c)
      { g with senders := g.senders.set i (s.step (sys i) e) }

/-- The senders that `Send` sends on. -/
def targets : List ℕ :=
  if g.converged then
    match g.winner with
    | some w => [w]
    | none => List.range g.senders.length
  else List.range g.senders.length

/-- `Send`, with the results of `SendTo`. -/
def send (sys : ℕ → System) (results : ℕ → BCRESULT) : Group :=
  g.targets.foldl (fun g i => g.stepSender sys i (.send (results i))) g

/-- `Connect`. -/
def connect (sys : ℕ → System) : Group :=
  (List.range g.senders.length).foldl (fun g i => g.stepSender sys i .connect) g

/-- What happens to a group. -/
inductive Action where
  /-- `Send`, with the results of `SendTo`. -/
  | send (results : ℕ → BCRESULT)
  /-- `Connect`. -/
  | connect
  /-- Something happens to one sender. -/
  | sender (i : ℕ) (e : Step)

/-- What happens to a group, if it can happen now. -/
def step (sys : ℕ → System) (g : Group) : Action → Group
  | .send results => g.send sys results
  | .connect => g.connect sys
  | .sender i e => g.stepSender sys i e

/-- `Create`, with what the system answers to `_InitSocket` of each sender. -/
def create (setups : List Setup) : Option Group :=
  if setups.filterMap Sender.create = [] then none
  else some ⟨setups.filterMap Sender.create, false, none, 0, []⟩

/-- The senders that have closed. -/
def flags : List Bool := g.senders.map Sender.closed

/-- While the group has not told that it is closed, `Send` finds a sender that is not closed;
and it tells so once, when all its senders have closed. -/
def Carries : Prop :=
  (.onUdpClosed ∉ g.reports → ∃ i ∈ g.targets, ∃ s, g.senders[i]? = some s ∧ s.closed = false) ∧
    g.reports.count .onUdpClosed = if ∀ s ∈ g.senders, s.closed = true then 1 else 0

end Group

/-- The shutdown event of its queue closes a sender. -/
def Sender.Closes (s : Sender) : Prop := s.outside = false ∧ s.detached = true ∧ s.closed = false

instance (s : Sender) : Decidable s.Closes := inferInstanceAs (Decidable (_ ∧ _))

/-- The winner closes only when every other sender has closed. -/
def Group.SparesWinner (g : Group) (a : Group.Action) : Prop :=
  ∀ w s, g.converged = true → g.winner = some w → a = .sender w .shutdown →
    g.senders[w]? = some s → s.Closes → ∀ j t, j ≠ w → g.senders[j]? = some t → t.closed = true

namespace Group

variable {sys : ℕ → System} {g : Group} {s t : Sender} {i j : ℕ} {e : Step}

/-- A call of the handler but `OnUdpClosed` closes nothing; the first datagram makes a winner. -/
theorem handle_quiet (g : Group) (i : ℕ) {c : Callback} (hc : c ≠ .onUdpClosed) :
    (g.handle i c).senders = g.senders ∧ (g.handle i c).closedCount = g.closedCount ∧
      (g.handle i c).reports.count .onUdpClosed = g.reports.count .onUdpClosed ∧
      ((g.handle i c).converged = g.converged ∧ (g.handle i c).winner = g.winner ∨
        c = .onRecvData ∧ (g.handle i c).winner = some i) := by
  have hcount (d : Callback) (hd : d ≠ .onUdpClosed) :
      (g.reports ++ [d]).count .onUdpClosed = g.reports.count .onUdpClosed := by
    rw [List.count_append, List.count_singleton, if_neg (by simpa using hd), Nat.add_zero]
  have hfrom (d : Callback) (hd : d ≠ .onUdpClosed) :
      (g.reportFrom i d).senders = g.senders ∧ (g.reportFrom i d).closedCount = g.closedCount ∧
        (g.reportFrom i d).reports.count .onUdpClosed = g.reports.count .onUdpClosed ∧
        (g.reportFrom i d).converged = g.converged ∧ (g.reportFrom i d).winner = g.winner := by
    unfold reportFrom
    split
    · exact ⟨rfl, rfl, hcount d hd, rfl, rfl⟩
    · exact ⟨rfl, rfl, rfl, rfl, rfl⟩
  cases c with
  | onUdpClosed => exact absurd rfl hc
  | onRecvData =>
    by_cases hwon : g.converged = true
    · have heq : g.handle i .onRecvData = g.report .onRecvData :=
        congrArg (fun x : Group => x.report .onRecvData) (if_pos hwon)
      rw [heq]
      exact ⟨rfl, rfl, hcount _ hc, .inl ⟨rfl, rfl⟩⟩
    · have heq : g.handle i .onRecvData =
          { g with converged := true, winner := some i }.report .onRecvData :=
        congrArg (fun x : Group => x.report .onRecvData) (if_neg hwon)
      rw [heq]
      exact ⟨rfl, rfl, hcount _ hc, .inr ⟨rfl, rfl⟩⟩
  | onSendData =>
    obtain ⟨h₁, h₂, h₃, h₄, h₅⟩ := hfrom .onSendData hc
    exact ⟨h₁, h₂, h₃, .inl ⟨h₄, h₅⟩⟩
  | onCheckAvailable =>
    obtain ⟨h₁, h₂, h₃, h₄, h₅⟩ := hfrom .onCheckAvailable hc
    exact ⟨h₁, h₂, h₃, .inl ⟨h₄, h₅⟩⟩
  | onRestart result =>
    obtain ⟨h₁, h₂, h₃, h₄, h₅⟩ := hfrom (.onRestart result) hc
    exact ⟨h₁, h₂, h₃, .inl ⟨h₄, h₅⟩⟩

/-- Calls of the handler but `OnUdpClosed` close nothing; the first datagram makes a winner. -/
theorem foldl_handle_quiet (g : Group) (i : ℕ) {cs : List Callback} (hcs : .onUdpClosed ∉ cs) :
    let g' := cs.foldl (fun g c => g.handle i c) g
    g'.senders = g.senders ∧ g'.closedCount = g.closedCount ∧
      g'.reports.count .onUdpClosed = g.reports.count .onUdpClosed ∧
      (g'.converged = g.converged ∧ g'.winner = g.winner ∨
        .onRecvData ∈ cs ∧ g'.winner = some i) := by
  induction cs generalizing g with
  | nil => exact ⟨rfl, rfl, rfl, .inl ⟨rfl, rfl⟩⟩
  | cons c cs ih =>
    obtain ⟨hc, hrest⟩ := not_or.mp (mt List.mem_cons.mpr hcs)
    obtain ⟨hsenders, hclosed, hreports, hwinner⟩ := g.handle_quiet i (Ne.symm hc)
    obtain ⟨hsenders', hclosed', hreports', hwinner'⟩ := ih (g.handle i c) hrest
    refine ⟨hsenders'.trans hsenders, hclosed'.trans hclosed, hreports'.trans hreports, ?_⟩
    rcases hwinner' with ⟨hconverged', hkept'⟩ | ⟨hmem, hwon⟩
    · rcases hwinner with ⟨hconverged, hkept⟩ | ⟨rfl, hwon⟩
      · exact .inl ⟨hconverged'.trans hconverged, hkept'.trans hkept⟩
      · exact .inr ⟨List.mem_cons_self, hkept'.trans hwon⟩
    · exact .inr ⟨List.mem_cons_of_mem _ hmem, hwon⟩

/-- The calls on the way are those that have been noted. -/
theorem mem_callbacksSince {P : Callback → Prop} (h : Sender.Grows P s t) {c : Callback}
    (hc : c ∈ callbacksSince s t) : P c := by
  obtain ⟨notes, htrace, hP⟩ := h.trace
  unfold callbacksSince at hc
  rw [htrace, List.drop_left] at hc
  obtain ⟨m, hm, hcall⟩ := List.mem_filterMap.mp hc
  cases m with
  | passes user socket => cases hcall
  | calls d =>
    cases hcall
    exact hP c hm

/-- Only the shutdown event makes a sender call `OnUdpClosed`. -/
theorem not_onUdpClosed (sys : System) (s : Sender) (he : e ≠ .shutdown) :
    .onUdpClosed ∉ callbacksSince s (s.step sys e) := by
  intro hmem
  have hcalls := mem_callbacksSince (Sender.grows_step sys s he) hmem
  cases e with
  | recvDone result size => rcases hcalls with (h | ⟨_, h⟩) | h <;> cases h
  | sendDone result => rcases hcalls with (h | ⟨_, h⟩) | h <;> cases h
  | _ => rcases hcalls with h | ⟨_, h⟩ <;> cases h

/-- A sender that hands over data is not closed. -/
theorem not_closed_of_onRecvData {sys : System} (hs : s.Steady False) (he : e ≠ .shutdown)
    (hmem : .onRecvData ∈ callbacksSince s (s.step sys e)) : s.closed = false := by
  have hcalls := mem_callbacksSince (Sender.grows_step sys s he) hmem
  cases e with
  | recvDone result size =>
    by_contra hclosed
    have hrecv := (hs.bare (hs.down (hs.closed (by simpa using hclosed))).1).2
    have hsame : s.step sys (.recvDone result size) = s := if_pos (.inr hrecv)
    rw [hsame, callbacksSince, List.drop_length] at hmem
    cases hmem
  | sendDone result => rcases hcalls with (h | ⟨_, h⟩) | h <;> cases h
  | _ => rcases hcalls with h | ⟨_, h⟩ <;> cases h

/-- What holds of the group whatever happens to it: it counts its closed senders, and tells that
it is closed when they all are. -/
structure Coherent (g : Group) : Prop where
  /-- Its senders. -/
  steady : ∀ s ∈ g.senders, s.Steady False
  /-- There is one. -/
  ne_nil : g.senders ≠ []
  /-- Their count. -/
  count : g.closedCount = g.flags.count true
  /-- What it tells. -/
  reports : g.reports.count .onUdpClosed = if g.closedCount = g.senders.length then 1 else 0
  /-- A winner is one of them. -/
  winner : g.converged = true → ∃ w s, g.winner = some w ∧ g.senders[w]? = some s

/-- The winner is not closed, or all senders are. -/
def Open (g : Group) : Prop :=
  g.converged = true → ∀ w s, g.winner = some w → g.senders[w]? = some s → s.closed = true →
    ∀ t ∈ g.senders, t.closed = true

/-- All senders have closed when the count says so. -/
theorem Coherent.closed_iff (h : g.Coherent) :
    g.closedCount = g.senders.length ↔ ∀ s ∈ g.senders, s.closed = true := by
  have hlength : g.senders.length = g.flags.length := (List.length_map _).symm
  rw [h.count, hlength, List.count_eq_length]
  unfold flags
  rw [List.forall_mem_map]
  exact forall₂_congr fun s _ => eq_comm

/-- A sender that steps and is as closed as before leaves the flags. -/
theorem flags_set (hs : g.senders[i]? = some s) (ht : t.closed = s.closed) :
    (g.senders.set i t).map Sender.closed = g.flags := by
  unfold flags
  rw [List.map_set, ht]
  apply List.ext_getElem?
  intro j
  rw [List.getElem?_set]
  split
  · rename_i heq
    rw [← heq, List.getElem?_map, hs, Option.map_some]
    split
    · rfl
    · rename_i hout
      rw [List.length_map] at hout
      exact absurd (List.getElem?_eq_some_iff.mp hs).1 hout
  · rfl

/-- What a step but the shutdown event does. -/
structure Quiet (g g' : Group) (i : ℕ) (s t : Sender) : Prop where
  /-- One sender has stepped. -/
  senders : g'.senders = g.senders.set i t
  /-- It is as closed as before. -/
  closed : t.closed = s.closed
  /-- The count is as it was. -/
  count : g'.closedCount = g.closedCount
  /-- The group does not tell that it is closed. -/
  reports : g'.reports.count .onUdpClosed = g.reports.count .onUdpClosed
  /-- The winner is as it was, or it is that sender, which is not closed. -/
  winner : g'.converged = g.converged ∧ g'.winner = g.winner ∨
    s.closed = false ∧ g'.winner = some i

/-- A step that does not close the sender. -/
theorem quiet_stepSender (h : g.Coherent) (hs : g.senders[i]? = some s)
    (he : e = .shutdown → ¬ s.Closes) :
    Quiet g (g.stepSender sys i e) i s (s.step (sys i) e) := by
  have hsteady := h.steady s (List.mem_of_getElem? hs)
  have heq : g.stepSender sys i e =
      (callbacksSince s (s.step (sys i) e)).foldl (fun g c => g.handle i c)
        { g with senders := g.senders.set i (s.step (sys i) e) } := by
    unfold stepSender
    rw [hs]
  by_cases hdown : e = .shutdown
  · have hstays : s.step (sys i) e = s := by
      have hcloses := he hdown
      rw [hdown]
      refine if_pos ?_
      unfold Sender.Closes at hcloses
      grind
    have hnone : callbacksSince s s = [] := by
      rw [callbacksSince, List.drop_length]
      rfl
    rw [heq, hstays, hnone]
    exact ⟨rfl, rfl, rfl, rfl, .inl ⟨rfl, rfl⟩⟩
  · obtain ⟨hsenders, hcount, hreports, hwinner⟩ :=
      foldl_handle_quiet { g with senders := g.senders.set i (s.step (sys i) e) } i
        (not_onUdpClosed (sys i) s hdown)
    rw [heq]
    refine ⟨hsenders, (Sender.grows_step (sys i) s hdown).closed, hcount, hreports, ?_⟩
    rcases hwinner with hkept | ⟨hmem, hwon⟩
    · exact .inl hkept
    · exact .inr ⟨not_closed_of_onRecvData hsteady hdown hmem, hwon⟩

/-- The senders behind such a step are those before or the one that has stepped. -/
theorem Quiet.closed_iff {g' : Group} (hq : Quiet g g' i s t) (hs : g.senders[i]? = some s) :
    (∀ u ∈ g'.senders, u.closed = true) ↔ ∀ u ∈ g.senders, u.closed = true := by
  have hflags := flags_set hs hq.closed
  rw [← hq.senders] at hflags
  have hall (l : List Sender) :
      (∀ u ∈ l, u.closed = true) ↔ ∀ b ∈ l.map Sender.closed, b = true := by
    rw [List.forall_mem_map]
  rw [hall, hall, hflags, flags]

/-- Such a step leaves the group coherent. -/
theorem Coherent.quiet {g' : Group} (h : g.Coherent) (hs : g.senders[i]? = some s)
    (ht : t.Steady False) (hq : Quiet g g' i s t) : g'.Coherent where
  steady u hu := by
    rw [hq.senders] at hu
    rcases List.mem_or_eq_of_mem_set hu with hu | rfl
    · exact h.steady u hu
    · exact ht
  ne_nil := by
    have hpos := List.length_pos_iff.mpr h.ne_nil
    rw [hq.senders, ← List.length_pos_iff, List.length_set]
    exact hpos
  count := by
    have hflags := flags_set hs hq.closed
    rw [hq.count, h.count, flags, flags, hq.senders, hflags]
    rfl
  reports := by
    rw [hq.reports, hq.count, hq.senders, List.length_set]
    exact h.reports
  winner hwon := by
    have hstep (w : ℕ) (u : Sender) (hu : g.senders[w]? = some u) :
        ∃ v, g'.senders[w]? = some v := by
      rw [hq.senders]
      have hlt := (List.getElem?_eq_some_iff.mp hu).1
      exact ⟨_, List.getElem?_eq_getElem (by rw [List.length_set]; exact hlt)⟩
    rcases hq.winner with ⟨hconverged, hkept⟩ | ⟨-, hnew⟩
    · rw [hconverged] at hwon
      obtain ⟨w, u, hw, hu⟩ := h.winner hwon
      obtain ⟨v, hv⟩ := hstep w u hu
      exact ⟨w, v, hkept.trans hw, hv⟩
    · obtain ⟨v, hv⟩ := hstep i s hs
      exact ⟨i, v, hnew, hv⟩

/-- Such a step leaves the winner open. -/
theorem Open.quiet {g' : Group} (h : g.Open) (hs : g.senders[i]? = some s)
    (hq : Quiet g g' i s t) : g'.Open := by
  intro hwon w v hw hv hclosed
  rw [hq.closed_iff hs]
  rw [hq.senders, List.getElem?_set] at hv
  have hlt := (List.getElem?_eq_some_iff.mp hs).1
  rcases hq.winner with ⟨hconverged, hkept⟩ | ⟨hopen, hnew⟩
  · rw [hconverged] at hwon
    rw [hkept] at hw
    split at hv
    · rename_i heq
      cases hv
      exact h hwon w s hw (heq ▸ hs) (hq.closed ▸ hclosed)
    · exact h hwon w v hw hv hclosed
  · rw [hnew] at hw
    cases hw
    rw [if_pos rfl, if_pos hlt] at hv
    cases hv
    rw [hq.closed, hopen] at hclosed
    cases hclosed

/-- The shutdown event closes a sender, and the group counts it. -/
theorem stepSender_shutdown (hs : g.senders[i]? = some s) (hcloses : s.Closes) :
    g.stepSender sys i .shutdown =
      { g with senders := g.senders.set i s.onEventProcShutdown }.onSenderUdpClosed := by
  obtain ⟨houtside, hdetached, hclosed⟩ := hcloses
  have hstep : s.step (sys i) .shutdown = s.onEventProcShutdown :=
    if_neg (by simp [houtside, hdetached, hclosed])
  have hcalls : callbacksSince s s.onEventProcShutdown = [.onUdpClosed] := by
    unfold callbacksSince Sender.onEventProcShutdown Sender.note
    rw [List.drop_left]
    rfl
  unfold stepSender
  rw [hs]
  simp only [hstep, hcalls]
  rfl

/-- What the close of a sender leaves of the group. -/
theorem onSenderUdpClosed_eq (g : Group) :
    ∃ cs, g.onSenderUdpClosed = { g with closedCount := g.closedCount + 1, reports := cs } ∧
      cs.count .onUdpClosed = g.reports.count .onUdpClosed +
        if g.closedCount + 1 ≥ g.senders.length then 1 else 0 := by
  unfold onSenderUdpClosed
  split
  · exact ⟨g.reports ++ [.onUdpClosed], rfl, by simp⟩
  · exact ⟨g.reports, rfl, rfl⟩

/-- The close of a sender leaves the group coherent. -/
theorem Coherent.closes (h : g.Coherent) (hs : g.senders[i]? = some s) (hcloses : s.Closes)
    (ht : s.onEventProcShutdown.Steady False) : (g.stepSender sys i .shutdown).Coherent := by
  obtain ⟨hlt, hget⟩ := List.getElem?_eq_some_iff.mp hs
  have hflag : g.flags[i]? = some false := by
    unfold flags
    rw [List.getElem?_map, hs, Option.map_some, hcloses.2.2]
  -- one flag more is set
  have hmore : (g.flags.set i true).count true = g.closedCount + 1 := by
    obtain ⟨hin, hfalse⟩ := List.getElem?_eq_some_iff.mp hflag
    rw [List.count_set hin, hfalse, ← h.count]
    simp
  have hbelow : g.closedCount < g.senders.length := by
    have hle : (g.flags.set i true).count true ≤ (g.flags.set i true).length :=
      List.count_le_length
    rw [hmore, List.length_set] at hle
    unfold flags at hle
    rw [List.length_map] at hle
    omega
  obtain ⟨cs, heq, hcount⟩ :=
    onSenderUdpClosed_eq { g with senders := g.senders.set i s.onEventProcShutdown }
  rw [stepSender_shutdown hs hcloses, heq]
  constructor
  · intro u hu
    rcases List.mem_or_eq_of_mem_set hu with hu | rfl
    · exact h.steady u hu
    · exact ht
  · have hpos := List.length_pos_iff.mpr h.ne_nil
    rw [← List.length_pos_iff, List.length_set]
    exact hpos
  · change g.closedCount + 1 =
      ((g.senders.set i s.onEventProcShutdown).map Sender.closed).count true
    rw [List.map_set, ← hmore]
    rfl
  · change cs.count .onUdpClosed =
      if g.closedCount + 1 = (g.senders.set i s.onEventProcShutdown).length then 1 else 0
    have hnone : g.reports.count .onUdpClosed = 0 := by
      rw [h.reports, if_neg (by omega)]
    change cs.count .onUdpClosed = g.reports.count .onUdpClosed +
      if g.closedCount + 1 ≥ (g.senders.set i s.onEventProcShutdown).length then 1 else 0 at hcount
    rw [List.length_set] at hcount ⊢
    rw [hcount, hnone, Nat.zero_add]
    split <;> split <;> omega
  · intro hwon
    obtain ⟨w, u, hw, hu⟩ := h.winner hwon
    have hin := (List.getElem?_eq_some_iff.mp hu).1
    exact ⟨w, _, hw, List.getElem?_eq_getElem (by rw [List.length_set]; exact hin)⟩

/-- The close of a sender leaves the winner open when it spares it. -/
theorem Open.closes (h : g.Open) (hs : g.senders[i]? = some s) (hcloses : s.Closes)
    (hspares : g.SparesWinner (.sender i .shutdown)) : (g.stepSender sys i .shutdown).Open := by
  obtain ⟨cs, heq, -⟩ :=
    onSenderUdpClosed_eq { g with senders := g.senders.set i s.onEventProcShutdown }
  rw [stepSender_shutdown hs hcloses, heq]
  intro hwon w v hw hv hclosed t ht
  change (g.senders.set i s.onEventProcShutdown)[w]? = some v at hv
  rw [List.getElem?_set] at hv
  split at hv
  · rename_i hiw
    obtain ⟨j, hj⟩ := List.mem_iff_getElem?.mp ht
    change (g.senders.set i s.onEventProcShutdown)[j]? = some t at hj
    rw [List.getElem?_set] at hj
    split at hj
    · split at hj
      · cases hj
        rfl
      · cases hj
    · rename_i hij
      exact hspares w s hwon hw (by rw [hiw]) (hiw ▸ hs) hcloses j t (by omega) hj
  · have hall := h hwon w v hw hv hclosed
    rcases List.mem_or_eq_of_mem_set ht with ht | rfl
    · exact hall t ht
    · rfl

/-- A step of a sender leaves the group coherent. -/
theorem Coherent.stepSender (h : g.Coherent) (sys : ℕ → System) (i : ℕ) (e : Step) :
    (g.stepSender sys i e).Coherent := by
  cases hs : g.senders[i]? with
  | none =>
    have hsame : g.stepSender sys i e = g := by
      unfold Group.stepSender
      rw [hs]
    rw [hsame]
    exact h
  | some s =>
    have ht : (s.step (sys i) e).Steady False :=
      (h.steady s (List.mem_of_getElem? hs)).step False.elim
    by_cases hcloses : e = .shutdown ∧ s.Closes
    · obtain ⟨rfl, hcloses⟩ := hcloses
      obtain ⟨houtside, hdetached, hclosed⟩ := hcloses
      have hstep : s.step (sys i) .shutdown = s.onEventProcShutdown :=
        if_neg (by simp [houtside, hdetached, hclosed])
      exact h.closes hs ⟨houtside, hdetached, hclosed⟩ (hstep ▸ ht)
    · exact h.quiet hs ht (quiet_stepSender h hs fun he hc => hcloses ⟨he, hc⟩)

/-- A step of a sender that spares the winner leaves it open. -/
theorem Open.stepSender (h : g.Open) (hg : g.Coherent) (sys : ℕ → System)
    (hspares : g.SparesWinner (.sender i e)) : (g.stepSender sys i e).Open := by
  cases hs : g.senders[i]? with
  | none =>
    have hsame : g.stepSender sys i e = g := by
      unfold Group.stepSender
      rw [hs]
    rw [hsame]
    exact h
  | some s =>
    by_cases hcloses : e = .shutdown ∧ s.Closes
    · obtain ⟨rfl, hcloses⟩ := hcloses
      exact h.closes hs hcloses hspares
    · exact h.quiet hs (quiet_stepSender hg hs fun he hc => hcloses ⟨he, hc⟩)

/-- Steps of several senders, none of which is the shutdown event. -/
theorem foldl_stepSender (sys : ℕ → System) (e : ℕ → Step) (he : ∀ i, e i ≠ .shutdown)
    (is : List ℕ) (hg : g.Coherent) (h : g.Open) :
    (is.foldl (fun g i => g.stepSender sys i (e i)) g).Coherent ∧
      (is.foldl (fun g i => g.stepSender sys i (e i)) g).Open := by
  induction is generalizing g with
  | nil => exact ⟨hg, h⟩
  | cons i is ih =>
    have hspares : g.SparesWinner (.sender i (e i)) := by
      intro w s _ _ ha
      exact absurd (Action.sender.inj ha).2 (he i)
    exact ih (hg.stepSender sys i (e i)) (h.stepSender hg sys hspares)

/-- What happens to the group leaves it coherent and, if it spares the winner, that one open. -/
theorem coherent_step (hg : g.Coherent) (h : g.Open) {a : Action} (ha : g.SparesWinner a) :
    (g.step sys a).Coherent ∧ (g.step sys a).Open := by
  cases a with
  | send results =>
    exact foldl_stepSender sys (fun i => .send (results i)) (fun _ => nofun) g.targets hg h
  | connect => exact foldl_stepSender sys (fun _ => .connect) (fun _ => nofun) _ hg h
  | sender i e => exact ⟨hg.stepSender sys i e, h.stepSender hg sys ha⟩

/-- A coherent group tells that it is closed once, when all its senders have closed. -/
theorem Coherent.count_onUdpClosed (h : g.Coherent) :
    g.reports.count .onUdpClosed = if ∀ s ∈ g.senders, s.closed = true then 1 else 0 := by
  rw [h.reports]
  simp only [h.closed_iff]

/-- With its winner open a coherent group carries datagrams until it is closed. -/
theorem Coherent.carries (h : g.Coherent) (hopen : g.Open) : g.Carries := by
  refine ⟨fun hnot => ?_, h.count_onUdpClosed⟩
  have hsome : ¬ ∀ s ∈ g.senders, s.closed = true := by
    intro hall
    have hcount := h.count_onUdpClosed
    rw [if_pos hall, List.count_eq_zero.mpr hnot] at hcount
    cases hcount
  by_cases hwon : g.converged = true
  · obtain ⟨w, s, hw, hs⟩ := h.winner hwon
    have htargets : g.targets = [w] := by
      unfold targets
      rw [if_pos hwon, hw]
    refine ⟨w, by rw [htargets]; exact List.mem_singleton_self w, s, hs, ?_⟩
    by_contra hclosed
    exact hsome (hopen hwon w s hw hs (by simpa using hclosed))
  · push Not at hsome
    obtain ⟨s, hs, hclosed⟩ := hsome
    obtain ⟨i, hi⟩ := List.mem_iff_getElem?.mp hs
    have htargets : g.targets = List.range g.senders.length := if_neg hwon
    refine ⟨i, ?_, s, hi, by simpa using hclosed⟩
    rw [htargets]
    exact List.mem_range.mpr (List.getElem?_eq_some_iff.mp hi).1

/-- A group whose winner closes before another sender carries nothing. -/
theorem not_carries_of_winner_closes {a : Action} (ha : ¬ g.SparesWinner a) :
    ¬ (g.step sys a).Carries := by
  unfold SparesWinner at ha
  push Not at ha
  obtain ⟨w, s, hwon, hw, rfl, hs, hcloses, j, t, hjw, hj, ht⟩ := ha
  rintro ⟨hcarries, hcount⟩
  obtain ⟨cs, heq, -⟩ :=
    onSenderUdpClosed_eq { g with senders := g.senders.set w s.onEventProcShutdown }
  have hstep : g.step sys (.sender w .shutdown) = { g with
      senders := g.senders.set w s.onEventProcShutdown
      closedCount := g.closedCount + 1
      reports := cs } := (stepSender_shutdown hs hcloses).trans heq
  rw [hstep] at hcarries hcount
  -- the other sender is still open, so the group has not told that it is closed
  have hother : (g.senders.set w s.onEventProcShutdown)[j]? = some t := by
    rw [List.getElem?_set, if_neg (Ne.symm hjw)]
    exact hj
  rw [if_neg fun hall => ht (hall t (List.mem_of_getElem? hother))] at hcount
  obtain ⟨i, hi, u, hu, hopen⟩ := hcarries (List.count_eq_zero.mp hcount)
  have htargets : i ∈ [w] := by
    unfold targets at hi
    rw [if_pos hwon, hw] at hi
    exact hi
  change (g.senders.set w s.onEventProcShutdown)[i]? = some u at hu
  rw [List.mem_singleton.mp htargets, List.getElem?_set, if_pos rfl,
    if_pos (List.getElem?_eq_some_iff.mp hs).1] at hu
  cases hu
  cases hopen

/-- A new group is coherent, and has no winner. -/
theorem coherent_create {setups : List Setup} (hg : create setups = some g) :
    g.Coherent ∧ g.Open := by
  unfold create at hg
  split at hg
  · cases hg
  · rename_i hne
    cases hg
    have hcreated (s : Sender) (hs : s ∈ setups.filterMap Sender.create) :
        s.Steady False ∧ s.closed = false := by
      obtain ⟨a, -, ha⟩ := List.mem_filterMap.mp hs
      refine ⟨Sender.steady_create ha, ?_⟩
      unfold Sender.create at ha
      split at ha
      · obtain ⟨socket, hsocket⟩ := Sender.initSocket_eq Sender.blank a
        rw [hsocket] at ha
        cases ha
        rfl
      · cases ha
    have hnone : ((setups.filterMap Sender.create).map Sender.closed).count true = 0 := by
      rw [List.count_eq_zero]
      intro hmem
      obtain ⟨s, hs, hclosed⟩ := List.mem_map.mp hmem
      rw [(hcreated s hs).2] at hclosed
      cases hclosed
    refine ⟨⟨fun s hs => (hcreated s hs).1, hne, hnone.symm, ?_, nofun⟩, nofun⟩
    have hpos := List.length_pos_iff.mpr hne
    exact (if_neg (Nat.ne_of_lt hpos)).symm

/-- The senders of a group are not changed by what their handler does. -/
theorem senders_foldl_handle (g : Group) (i : ℕ) (cs : List Callback) :
    (cs.foldl (fun g c => g.handle i c) g).senders = g.senders := by
  induction cs generalizing g with
  | nil => rfl
  | cons c cs ih =>
    rw [List.foldl_cons, ih]
    cases c with
    | onUdpClosed =>
      obtain ⟨cs, heq, -⟩ := onSenderUdpClosed_eq g
      change g.onSenderUdpClosed.senders = g.senders
      rw [heq]
    | _ => exact (g.handle_quiet i (by simp)).1

/-- One sender steps. -/
theorem senders_stepSender (g : Group) (sys : ℕ → System) (i : ℕ) (e : Step) (j : ℕ) :
    (g.stepSender sys i e).senders[j]? =
      if j = i then g.senders[j]?.map (·.step (sys i) e) else g.senders[j]? := by
  unfold stepSender
  cases hs : g.senders[i]? with
  | none =>
    dsimp only
    split
    · rename_i hji
      rw [hji, hs, Option.map_none]
    · rfl
  | some s =>
    dsimp only
    rw [senders_foldl_handle, List.getElem?_set]
    split
    · rename_i hij
      rw [if_pos hij.symm, ← hij, hs, if_pos (List.getElem?_eq_some_iff.mp hs).1,
        Option.map_some]
    · rename_i hij
      rw [if_neg (Ne.symm hij)]

/-- Different senders step. -/
theorem senders_foldl_stepSender (sys : ℕ → System) (e : ℕ → Step) (is : List ℕ)
    (his : is.Nodup) (g : Group) (j : ℕ) :
    (is.foldl (fun g i => g.stepSender sys i (e i)) g).senders[j]? =
      if j ∈ is then g.senders[j]?.map (·.step (sys j) (e j)) else g.senders[j]? := by
  induction is generalizing g with
  | nil => rfl
  | cons i is ih =>
    obtain ⟨hi, hrest⟩ := List.nodup_cons.mp his
    rw [List.foldl_cons, ih hrest, senders_stepSender]
    by_cases hji : j = i
    · rw [hji, if_neg hi, if_pos rfl, if_pos List.mem_cons_self]
    · simp [hji]

/-- `Send` hands the datagram to each of its targets. -/
theorem senders_send (g : Group) (sys : ℕ → System) (results : ℕ → BCRESULT) (j : ℕ) :
    (g.send sys results).senders[j]? =
      if j ∈ g.targets then g.senders[j]?.map (·.send (sys j) (results j))
      else g.senders[j]? := by
  have hnodup : g.targets.Nodup := by
    unfold targets
    split
    · split
      · exact List.pairwise_singleton _ _
      · exact List.nodup_range
    · exact List.nodup_range
  exact senders_foldl_stepSender sys (fun i => .send (results i)) g.targets hnodup g j

/-- A group carries datagrams until it tells that it is closed, which it does once, when all its
senders have closed, in every state of a run exactly when its winner never closes before another
sender. -/
theorem group_carries {setups : List Setup} (hg : create setups = some g) (sys : ℕ → System)
    (actions : List Action) :
    (∀ first, first <+: actions → (Runs.run (step sys) g first).Carries) ↔
      Runs.Meets (step sys) SparesWinner g actions := by
  refine Runs.always_iff_meets (I := fun g => g.Coherent ∧ g.Open) (fun g h => h.1.carries h.2)
    (fun g a h ha => coherent_step h.1 h.2 ha)
    (fun _ _ _ ha => not_carries_of_winner_closes ha) (coherent_create hg) actions

/-- Systems that give every socket. -/
def generous : ℕ → System := fun _ => ⟨fun _ => Sender.generous, fun _ => bcrSuccess⟩

/-- Two senders. -/
def pair : Group := (create [Sender.generous, Sender.generous]).getD ⟨[], false, none, 0, []⟩

/-- The first sender receives and wins. -/
def winning : List Action :=
  [.sender 0 (.event .startRecv), .sender 0 (.recvDone bcrSuccess 12), .sender 0 (.returned false)]

/-- The first sender wins and the second one is closed. -/
theorem group_carries_pair : (Runs.run (step generous) pair (winning ++
    [.sender 1 (.event .stopWork), .sender 1 .shutdown, .send fun _ => bcrSuccess])).Carries := by
  refine (@group_carries pair [Sender.generous, Sender.generous] (by decide) generous _).mpr ?_ _
    (List.prefix_refl _)
  refine ⟨nofun, nofun, nofun, nofun, ?_, nofun, trivial⟩
  intro w s _ hw ha
  cases ha
  exact absurd hw (by decide)

/-- The first sender wins, and a receive that fails closes it. -/
def failing : List Action :=
  winning ++ [.sender 0 (.recvDone bcrUnexpected 0), .sender 0 .shutdown]

/-- The group does not tell that it is closed, since its second sender is open, and sends on the
closed one alone. -/
theorem not_carries_pair : ¬ ∀ setups g, create setups = some g → ∀ sys actions,
    (Runs.run (step sys) g actions).Carries := by
  intro hall
  have hcarries := (hall [Sender.generous, Sender.generous] pair (by decide) generous failing).1
    (by decide)
  have htargets : (Runs.run (step generous) pair failing).targets = [0] := by decide
  have hclosed : (Runs.run (step generous) pair failing).senders[0]?.map Sender.closed =
      some true := by decide
  obtain ⟨i, hi, s, hs, hopen⟩ := hcarries
  rw [htargets] at hi
  rw [← List.mem_singleton.mp hi, hs, Option.map_some, hopen] at hclosed
  cases hclosed

end Group

end Udp
