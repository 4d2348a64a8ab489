import TTSignal.Http.Pending

/-!
# The end of a connector

The destructor waits until nothing is left, or gives up and clears all handlers. Either way
nobody is called any more once it has finished waiting: no guard can be armed, none is waiting
for its call, and the calls under way are those from which the destructor itself was called.
-/

namespace Http

open Tcp (BCResult)

/-- A handler of a request or the connector's own handler is called. -/
def Action.Calls (a : Action) : Prop := (∃ r c o, a = .callback r c o) ∨ a = .onClosed

/-- The destructor is in `Close`. -/
def Destructor.isClosing : Destructor → Bool
  | .closing _ => true
  | _ => false

/-- The destructor waits for the requests. -/
def Destructor.isWaiting : Destructor → Bool
  | .waiting _ => true
  | _ => false

/-- The destructor waits for nothing but the callbacks of other threads. -/
def Destructor.Given : Destructor → Prop
  | .abandoning _ | .clearing _ => True
  | _ => False

namespace HttpConnector

variable {s s' : HttpConnector} {a a' : Dispatches.State Dispatch Thread} {t : Thread}

/-- A thread is about to make a call. -/
def Armed (s : HttpConnector) (t : Thread) : Dispatch → Prop
  | .request c => (s.activity c).armedOn = some t
  | .closed => ∃ w ∈ s.works, w.armedOn = some t

/-- A thread is making a call. -/
def Calling (s : HttpConnector) (t : Thread) : Dispatch → Prop
  | .request c => (s.activity c).callingOn = some t
  | .closed => ∃ w ∈ s.works, w.callingOn = some t

/-- What is armed is counted at its stage. -/
theorem Counted.armed_iff (h : s.Counted a) {d : Dispatch} :
    s.Armed t d ↔ a.stage d = .armed t := by
  cases d with
  | request c => exact ((h.telling c).armed t).symm
  | closed =>
    constructor
    · rintro ⟨w, hmem, hw⟩
      exact h.noticing.stage_armed hmem hw
    · intro hstage
      have hcount := h.noticing.armed t
      rw [if_pos hstage] at hcount
      obtain ⟨w, hmem, hw⟩ := List.countP_pos_iff.mp (hcount ▸ Nat.one_pos)
      exact ⟨w, hmem, of_decide_eq_true hw⟩

/-- So is what is calling. -/
theorem Counted.calling_iff (h : s.Counted a) {d : Dispatch} :
    s.Calling t d ↔ a.stage d = .calling t := by
  cases d with
  | request c => exact ((h.telling c).calling t).symm
  | closed =>
    constructor
    · rintro ⟨w, hmem, hw⟩
      exact h.noticing.stage_calling hmem hw
    · intro hstage
      have hcount := h.noticing.calling t
      rw [if_pos hstage] at hcount
      obtain ⟨w, hmem, hw⟩ := List.countP_pos_iff.mp (hcount ▸ Nat.one_pos)
      exact ⟨w, hmem, of_decide_eq_true hw⟩

/-- No guard is armed. -/
structure Stills (s s' : HttpConnector) : Prop where
  /-- Who is about to make a call was so before. -/
  armed : ∀ t d, s'.Armed t d → s.Armed t d
  /-- Who is making a call was so before, or was about to make it. -/
  calling : ∀ t d, s'.Calling t d → s.Calling t d ∨ s.Armed t d

/-- What stays still twice stays still. -/
theorem Stills.trans {s'' : HttpConnector} (h : s.Stills s') (h' : s'.Stills s'') :
    s.Stills s'' where
  armed t d hd := h.armed t d (h'.armed t d hd)
  calling t d hd := by
    rcases h'.calling t d hd with hd | hd
    · exact h.calling t d hd
    · exact .inr (h.armed t d hd)

/-- Calm is still. -/
theorem Calm.stills (h : s.Calm s') : s.Stills s' := by
  constructor
  · intro t d hd
    cases d with
    | request c => exact (h.armedOn c).symm.trans hd
    | closed =>
      obtain ⟨w, hmem, hw⟩ := hd
      have hpos : 0 < s'.works.countP fun w => w.armedOn = some t :=
        List.countP_pos_iff.mpr ⟨w, hmem, decide_eq_true hw⟩
      rw [h.armedClosed] at hpos
      obtain ⟨v, hv, hvt⟩ := List.countP_pos_iff.mp hpos
      exact ⟨v, hv, of_decide_eq_true hvt⟩
  · intro t d hd
    cases d with
    | request c => exact .inl ((h.callingOn c).symm.trans hd)
    | closed =>
      obtain ⟨w, hmem, hw⟩ := hd
      have hpos : 0 < s'.works.countP fun w => w.callingOn = some t :=
        List.countP_pos_iff.mpr ⟨w, hmem, decide_eq_true hw⟩
      rw [h.callingClosed] at hpos
      obtain ⟨v, hv, hvt⟩ := List.countP_pos_iff.mp hpos
      exact .inl ⟨v, hv, of_decide_eq_true hvt⟩

/-! ### A connector whose handlers have been cleared -/

/-- Nobody will be called for whom no guard is armed. -/
structure Silent (s : HttpConnector) : Prop where
  /-- It is closing. -/
  closing : s.closing = true
  /-- `OnClosed` is out of the question. -/
  quits : s.Quits
  /-- The handlers of the connections that are left have been cleared. -/
  handler : ∀ c ∈ s.conns, (s.connection c).handler = false

/-- Where all is quit nobody must be notified. -/
theorem not_mustNotify_of_quits (h : s.Quits) : ¬ s.MustNotify := by
  rintro ⟨hkept, -, hnotified, -, hhandler⟩
  rcases h with hs | hs | hs
  · rw [hkept] at hs
    cases hs
  · rw [hhandler] at hs
    cases hs
  · rw [hnotified] at hs
    cases hs

/-- A silent connector stays silent in moves that bring no connections. -/
theorem Silent.moves (h : s.Silent) (hmoves : s.Moves t s') (hconns : s'.conns ⊆ s.conns) :
    s'.Silent :=
  ⟨hmoves.closing h.closing, hmoves.quits h.quits,
    fun c hc => hmoves.handler h.closing c (h.handler c (hconns hc))⟩

/-- The thread of a channel goes on in its connection without a call. -/
theorem stills_setActivity {c : ConnectionId} {x : Activity}
    (harmed : x.armedOn = none) (hcalling : x.callingOn = none) :
    s.Stills (s.setActivity c x) := by
  constructor
  · intro t d hd
    cases d with
    | request e =>
      simp only [Armed, setActivity, Function.update_apply] at hd
      split at hd
      · rw [harmed] at hd
        cases hd
      · exact hd
    | closed => exact hd
  · intro t d hd
    cases d with
    | request e =>
      simp only [Calling, setActivity, Function.update_apply] at hd
      split at hd
      · rw [hcalling] at hd
        cases hd
      · exact .inl hd
    | closed => exact .inl hd

/-- What nobody is called by is not changed. -/
theorem stills_of_eq (h : (s'.activity, s'.works) = (s.activity, s.works)) : s.Stills s' := by
  simp only [Prod.mk.injEq] at h
  obtain ⟨hactivity, hworks⟩ := h
  constructor
  · intro t d hd
    cases d
    all_goals
      simp only [Armed, hactivity, hworks] at hd ⊢
      exact hd
  · intro t d hd
    cases d
    all_goals
      simp only [Calling, hactivity, hworks] at hd
      exact .inl hd

/-- What comes behind with the same work is still. -/
theorem Stills.then {x : HttpConnector} (h : s.Stills x)
    (heq : (s'.activity, s'.works) = (x.activity, x.works)) : s.Stills s' :=
  h.trans (stills_of_eq heq)

/-- What comes before with the same work is still. -/
theorem Stills.after {x : HttpConnector} (h : x.Stills s')
    (heq : (x.activity, x.works) = (s.activity, s.works)) : s.Stills s' :=
  (stills_of_eq heq).trans h

/-- Delivering to a connection without a handler is still. -/
theorem stills_deliverOnce {c : ConnectionId} (hhandler : (s.connection c).handler = false)
    (ch : ChannelId) (u : Thread) (closeResult : BCResult) (finishes : Bool) (next : Next) :
    s.Stills (s.deliverOnce c ch u closeResult finishes next) := by
  have hnext (x : HttpConnector) : x.Stills (x.setActivity c (next.activity ch)) :=
    stills_setActivity (next.armedOn_activity ch) (next.callingOn_activity ch)
  unfold HttpConnector.deliverOnce
  split
  · exact hnext s
  · exact (hnext _).after rfl

/-- So is a complete message of such a connection. -/
theorem stills_onMessageDone {c : ConnectionId} (hhandler : (s.connection c).handler = false)
    (ch : ChannelId) (u : Thread) : s.Stills (s.onMessageDone c ch u) := by
  unfold HttpConnector.onMessageDone
  split
  · have hinside : s.Stills (s.setInside ch (some c)) := stills_of_eq rfl
    refine hinside.trans (stills_deliverOnce ?_ ch u .success false .park)
    exact hhandler
  · exact ((updates_cancel c).calm id).stills

/-- The connection of an open channel is left. -/
theorem Sound.mem_of_handler (h : s.Sound) {c : ConnectionId} {ch : ChannelId}
    (hopen : (s.channel ch).Open) (hinside : (s.channel ch).inside = none)
    (hhandler : (s.channel ch).handler = some (.connection c)) : c ∈ s.conns := by
  have hidle : (s.channel ch).state ≠ .idle := by
    rcases hopen with hstate | hstate | hstate <;> simp [hstate]
  have howner : s.owner ch = .connection c := by
    have := (h.channels.shaped ch).handler hidle
    rw [hhandler] at this
    exact (Option.some.inj this).symm
  exact (h.connections c).mem_conns.mpr
    (.inr ((h.channels.serving c ch).waits howner hopen hinside).1)

/-- Received data are still in a silent connector. -/
theorem Silent.stills_onRecvData (h : s.Silent) (hsound : s.Sound) (ch : ChannelId) (u : Thread)
    (parsed : Parsed) : s.Stills (s.onRecvData ch u parsed) := by
  have hsame : s.Stills s := stills_of_eq rfl
  unfold HttpConnector.onRecvData
  split
  case isFalse => exact hsame
  rename_i hready
  split
  · exact stills_of_eq rfl
  split
  · rename_i c hhandler
    split
    · exact hsame
    have hopen : (s.channel ch).Open := by
      rcases hready.2 with hstate | hstate
      · exact .inr (.inl hstate)
      · exact .inr (.inr hstate)
    have hcleared : ((s.note (.received ch c)).connection c).handler = false :=
      h.handler c (hsound.mem_of_handler hopen hready.1 hhandler)
    have hnoted : s.Stills (s.note (.received ch c)) := stills_of_eq rfl
    refine hnoted.trans ?_
    revert hcleared
    generalize s.note (.received ch c) = x
    intro hcleared
    unfold HttpConnector.onChannelData
    split
    · exact stills_of_eq rfl
    split
    · exact stills_onMessageDone hcleared ch u
    cases parsed with
    | more => exact stills_of_eq rfl
    | complete keepAlive =>
      have hset : x.Stills (x.setConnection c
          { x.connection c with messageDone := true, keepAlive := keepAlive }) := stills_of_eq rfl
      refine hset.trans (stills_onMessageDone ?_ ch u)
      simpa [setConnection] using hcleared
    | failed result => exact ((updates_failConnection c result).calm id).stills
  · exact hsame

/-- So is the end of a channel. -/
theorem Silent.stills_onClosed (h : s.Silent) (hsound : s.Sound) (ch : ChannelId) (u : Thread)
    (result : BCResult) (finishes : Bool) : s.Stills (s.onClosed ch u result finishes) := by
  unfold HttpConnector.onClosed
  split
  case isFalse => exact stills_of_eq rfl
  rename_i hclosing
  obtain ⟨hinside, hstate, -⟩ := hclosing
  have hclosed : s.Stills (s.setChannel ch { s.channel ch with state := .closed }) :=
    stills_of_eq rfl
  split
  · rename_i c hhandler
    have hcleared := h.handler c (hsound.mem_of_handler (.inr (.inr hstate)) hinside hhandler)
    have hset : s.Stills ((s.setChannel ch { s.channel ch with state := .closed }).setInside ch
        (some c)) := stills_of_eq rfl
    refine hset.trans (stills_deliverOnce ?_ ch u result finishes .detach)
    exact hcleared
  · exact hclosed.trans (calm_onPooledClosed _).stills
  · exact hclosed

/-- So is the rest of a connection's call. -/
theorem Silent.stills_resume (h : s.Silent) (hsound : s.Sound) (c : ConnectionId) (u : Thread)
    (result : BCResult) : s.Stills (s.resume c u result) := by
  have hsame : s.Stills s := stills_of_eq rfl
  unfold HttpConnector.resume
  split
  · exact hsame
  · rename_i ch t' o next hactivity
    split
    · refine Stills.then (x := s.setActivity c (.calling ch t' o next)) ?_ rfl
      constructor
      · intro t d hd
        cases d with
        | request e =>
          simp only [Armed, setActivity, Function.update_apply] at hd
          split at hd
          · cases hd
          · exact hd
        | closed => exact hd
      · intro t d hd
        cases d with
        | request e =>
          simp only [Calling, setActivity, Function.update_apply] at hd
          split at hd
          · subst e
            refine .inr ?_
            simpa [Armed, hactivity, Activity.armedOn, Activity.callingOn] using hd
          · exact .inl hd
        | closed => exact .inl hd
    · exact hsame
  · split
    · have hleft (x : Next) (ch : ChannelId) : s.Stills (s.setActivity c (x.activity ch)) :=
        stills_setActivity (x.armedOn_activity ch) (x.callingOn_activity ch)
      exact (hleft _ _).then rfl
    · exact hsame
  · rename_i ch hactivity
    exact (calm_returnToPool hactivity).stills
  · rename_i ch hactivity
    have hleft : s.Stills (s.setActivity c .idle) := stills_setActivity rfl rfl
    have hinside := hleft.trans (calm_post (w := .deleteConnection c) rfl).stills
    exact hinside.then rfl
  · rename_i ch closing hactivity
    have hserving := (hsound.channels.standing c).active (by simp [hactivity])
    have hcleared := h.handler c ((hsound.connections c).mem_conns.mpr (.inr hserving))
    have hfail (reason : BCResult) :
        s.Stills ((s.setFailResult c reason).deliverOnce c ch u reason false .detach) := by
      have hset : s.Stills (s.setFailResult c reason) := stills_of_eq rfl
      refine hset.trans (stills_deliverOnce ?_ ch u reason false .detach)
      simpa [setFailResult, setConnection] using hcleared
    unfold HttpConnector.openFresh
    split
    · exact hfail shuttingDown
    split
    · exact hfail result
    split
    · exact hsame
    · rename_i fresh hfresh
      have hleft : s.Stills (s.setActivity c .idle) := stills_setActivity rfl rfl
      exact (hleft.trans (calm_post (w := .recheck c) rfl).stills).then rfl

/-- A notice, or what goes on instead, is still where all is quit. -/
theorem stills_notifyOr (h : s.Quits) (u : Thread) (k : Cont) : s.Stills (s.notifyOr u k) := by
  unfold HttpConnector.notifyOr
  rw [if_neg (not_mustNotify_of_quits h)]
  exact (calm_goOn k).stills

/-- So is the notice that everything is closed. -/
theorem stills_notifyClosedIfDrained (h : s.Quits) (u : Thread) (k : Cont) :
    s.Stills (s.notifyClosedIfDrained u k) := by
  have hgone (x : HttpConnector) : x.Stills (x.goOn k) := (calm_goOn k).stills
  unfold HttpConnector.notifyClosedIfDrained
  split
  · exact hgone s
  rename_i hfirst
  rw [not_or, not_or] at hfirst
  split
  · exact hgone s
  split
  · exact (hgone { s with closedNotified := true }).after rfl
  · rename_i hhandler
    rcases h with hs | hs | hs
    · exact absurd hs hfirst.1
    · exact absurd hs hhandler
    · exact absurd hs hfirst.2.2

/-- Going on with a request is still in a silent connector. -/
theorem Silent.stills_proceed (h : s.Silent) (hsound : s.Sound) (r : RequestId) (u : Thread)
    (result : BCResult) : s.Stills (s.proceed r u result) := by
  by_cases hphase : ∃ c k, (s.request r).phase = .detach c k
  · obtain ⟨c, k, hphase⟩ := hphase
    have hnot : ¬ (s.forget c).MustNotify :=
      not_mustNotify_of_quits ((moves_forget (t := u) c).quits h.quits)
    have hposted : s.Stills (s.post (.drop c none (.request r k))) := (calm_post rfl).stills
    simp only [HttpConnector.proceed, hphase, HttpConnector.proceedDetach, armed,
      HttpConnector.armClosed, if_neg hnot]
    exact hposted.then rfl
  · exact (hsound.calm_proceed (fun c k hd => hphase ⟨c, k, hd⟩) u result).stills

/-- Something has been done. -/
theorem stills_erase (w : Work) : s.Stills { s with works := s.works.erase w } := by
  constructor
  · intro t d hd
    cases d with
    | request c => exact hd
    | closed =>
      obtain ⟨v, hv, hvt⟩ := hd
      exact ⟨v, List.mem_of_mem_erase hv, hvt⟩
  · intro t d hd
    cases d with
    | request c => exact .inl hd
    | closed =>
      obtain ⟨v, hv, hvt⟩ := hd
      exact .inl ⟨v, List.mem_of_mem_erase hv, hvt⟩

/-- A work with a thread goes on. -/
theorem stills_handover {w v : Work} {u : Thread} (hmem : w ∈ s.works) (hw : w.armedOn = some u)
    (hv : v.armedOn = some u ∧ v.callingOn = none ∨ v.armedOn = none ∧ v.callingOn = some u) :
    s.Stills (s.post v) := by
  constructor
  · intro t d hd
    cases d with
    | request c => exact hd
    | closed =>
      obtain ⟨x, hx, hxt⟩ := hd
      rcases List.mem_cons.mp hx with rfl | hx
      · refine ⟨w, hmem, ?_⟩
        grind
      · exact ⟨x, hx, hxt⟩
  · intro t d hd
    cases d with
    | request c => exact .inl hd
    | closed =>
      obtain ⟨x, hx, hxt⟩ := hd
      rcases List.mem_cons.mp hx with rfl | hx
      · refine .inr ⟨w, hmem, ?_⟩
        grind
      · exact .inl ⟨x, hx, hxt⟩

/-- So is a work that a thread may do. -/
theorem Silent.stills_doWork (h : s.Silent) {w : Work} {u : Thread} (hmay : s.MayDo u w) :
    s.Stills (HttpConnector.doWork { s with works := s.works.erase w } u w) := by
  have herase := stills_erase (s := s) w
  obtain ⟨hmem, hthread, -⟩ := hmay
  have hquits : Quits { s with works := s.works.erase w } := h.quits
  cases w with
  | deleteConnection c =>
    have hdeleted := herase.trans (calm_deleteConnection c).stills
    exact (hdeleted.trans (calm_post (w := .finishDestroy c) rfl).stills).then rfl
  | finishDestroy c =>
    exact herase.trans ((stills_notifyOr (s := setStage
      (HttpConnector.forget { s with works := s.works.erase (.finishDestroy c) } c) c .gone) hquits
      u .done).after rfl)
  | deleteClosed p =>
    exact (herase.trans (calm_post (w := .finishIdle p) rfl).stills).then rfl
  | deleteDetached p => exact herase.then rfl
  | finishIdle p =>
    exact herase.trans ((stills_notifyOr (s := setPooledStage
      { s with
        works := s.works.erase (.finishIdle p)
        idleDestroying := s.idleDestroying - 1 } p .gone) hquits u .done).after rfl)
  | recheck c =>
    simp only [HttpConnector.doWork]
    split
    · exact herase.trans ((updates_cancel c).calm id).stills
    · exact herase
  | notifyClosed k => exact herase.trans (stills_notifyClosedIfDrained hquits u k)
  | drop c armed k =>
    cases armed with
    | none =>
      have hdeleted := herase.trans (calm_deleteConnection c).stills
      have hset : s.Stills ((HttpConnector.deleteConnection
          { s with works := s.works.erase (.drop c none k) } c).setStage c .discarded) :=
        hdeleted.then rfl
      exact hset.trans (calm_goOn k).stills
    | some t' =>
      have hposted : s.Stills (s.post (.onClosed t' k)) :=
        stills_handover hmem rfl (.inl ⟨rfl, rfl⟩)
      have hleft := hposted.trans (stills_erase (.drop c (some t') k))
      simp only [HttpConnector.doWork, HttpConnector.deleteConnection]
      split
      · exact hleft.then (by simp [post, setStage, note])
      · exact hleft.then (by simp [post, setStage, note, setConnection, deleteChannel])
  | onClosed t' k =>
    have hposted : s.Stills (s.post (.inOnClosed t' k)) :=
      stills_handover hmem rfl (.inr ⟨rfl, rfl⟩)
    have hleft := hposted.trans (stills_erase (.onClosed t' k))
    exact hleft.then (by simp [HttpConnector.doWork, post, note])
  | inOnClosed t' k =>
    have hset : s.Stills (HttpConnector.disarm
        { s with works := s.works.erase (.inOnClosed t' k) } t' .closed) := herase.then rfl
    exact hset.trans (calm_goOn k).stills

/-- In a connector whose handlers have been cleared no guard is armed any more. -/
theorem Silent.stills_handle (h : s.Silent) (hsound : s.Sound) (u : Thread) (e : Event) :
    s.Stills (s.handle u e) := by
  cases e with
  | proceed r result => exact h.stills_proceed hsound r u result
  | data ch parsed => exact h.stills_onRecvData hsound ch u parsed
  | closed ch result finishes => exact h.stills_onClosed hsound ch u result finishes
  | resume c result => exact h.stills_resume hsound c u result
  | work w =>
    simp only [HttpConnector.handle]
    split
    · rename_i hmay
      exact h.stills_doWork hmay
    · exact stills_of_eq rfl
  | _ => exact (hsound.calm_handle u id).stills

/-! ### What is recorded -/

/-- Without an armed guard nobody is called. -/
theorem adds_of_unarmed (h : ∀ u d, ¬ s.Armed u d) (u : Thread) (e : Event) :
    Adds (fun a => ¬ a.Calls) s (s.handle u e) := by
  have hother (hrecords : ¬ e.Records .callback)
      (hnotice : ∀ t k, e = .work (.onClosed t k) → False) :
      Adds (fun a => ¬ a.Calls) s (s.handle u e) := by
    refine (adds_handle u e).mono ?_
    rintro a ha (⟨r, c, o, rfl⟩ | rfl)
    · exact hrecords ha
    · cases e with
      | work w =>
        simp only [Event.Records, Action.kind] at ha
        rcases ha with ⟨-, t, k, rfl⟩ | ha | ha
        · exact hnotice t k rfl
        · cases ha
        · cases ha
      | _ => simp [Event.Records, Action.kind] at ha
  cases e with
  | resume c result =>
    simp only [HttpConnector.handle, HttpConnector.resume]
    split
    · exact adds_of_eq rfl
    · rename_i ch t' o next hactivity
      refine absurd ?_ (h t' (.request c))
      rw [Armed, hactivity]
      rfl
    · split
      · exact (adds_of_eq rfl).trans (adds_note (a := .callbackReturned c) (by simp [Action.Calls]))
      · exact adds_of_eq rfl
    · unfold HttpConnector.returnToPool
      split <;> exact adds_of_eq rfl
    · exact adds_of_eq rfl
    · exact adds_of_eq (trace_openFresh s c _ _ u result)
  | work w =>
    cases w with
    | onClosed t' k =>
      simp only [HttpConnector.handle]
      split
      · rename_i hmay
        exact absurd ⟨_, hmay.1, rfl⟩ (h t' .closed)
      · exact adds_of_eq rfl
    | _ => exact hother (by simp [Event.Records]) (by simp)
  | _ => exact hother (by simp [Event.Records]) (by simp)

/-- Nobody is told of the log once the handler has been taken out of its sink. -/
theorem adds_of_sink (h : s.logSink = false) (u : Thread) (e : Event) :
    Adds (fun a => a ≠ .onLog) s (s.handle u e) := by
  have hlog : s.log u = s := by
    unfold HttpConnector.log
    rw [if_neg]
    simp [h]
  have hother (hrecords : ¬ e.Records .log) : Adds (fun a => a ≠ .onLog) s (s.handle u e) := by
    refine (adds_handle u e).mono ?_
    rintro a ha rfl
    exact hrecords ha
  cases e with
  | logChannel ch | logWorker | logConnection c =>
    simp only [HttpConnector.handle, hlog]
    split <;> exact adds_of_eq rfl
  | logRequest r =>
    simp only [HttpConnector.handle, hlog]
    split <;> exact adds_of_eq rfl
  | _ => exact hother (by simp [Event.Records])

/-! ### The destructor -/

/-- Nobody is about to make a call, and no thread but one is making one. -/
structure Hushed (s : HttpConnector) (t : Thread) : Prop where
  /-- Nobody is about to make a call. -/
  armed : ∀ u d, ¬ s.Armed u d
  /-- The one thread may be in calls. -/
  calling : ∀ u d, s.Calling u d → u = t

/-- What is hushed stays hushed in still parts. -/
theorem Hushed.stills (h : s.Hushed t) (hstills : s.Stills s') : s'.Hushed t := by
  refine ⟨fun u d hd => h.armed u d (hstills.armed u d hd), fun u d hd => ?_⟩
  rcases hstills.calling u d hd with hd | hd
  · exact h.calling u d hd
  · exact absurd hd (h.armed u d)

/-- The destructor gives nobody up to be called later. -/
structure Ending (s : HttpConnector) : Prop where
  /-- The destructor begins with `Close`. -/
  begun : s.destructor ≠ .none → s.closing = true
  /-- It goes on after one work. -/
  works : (s.works.countP fun w => w.cont = .destructor) = s.destructor.isClosing.toNat
  /-- That is no deletion. -/
  dropped : ∀ c armed, .drop c armed .destructor ∉ s.works
  /-- While it waits something is left, or the end has been told. -/
  waiting : ∀ t, s.destructor = .waiting t → s.Pends
  /-- Its thread is not about to call the handler of a request. -/
  busy : ∀ t, s.destructor.thread = some t → ∀ c, ¬ s.Armed t (.request c)
  /-- Its thread is about to call `OnClosed` only in `Close`. -/
  own : ∀ t, s.destructor.thread = some t → ∀ w ∈ s.works, w.armedOn = some t →
    w.cont = .destructor
  /-- It has given up. -/
  given : s.abandoned = true → s.destructor.Given ∨ ∃ t, s.destructor = .done t
  /-- Afterwards no guard is armed. -/
  silent : s.destructor.Given ∨ (∃ t, s.destructor = .done t) → s.Silent
  /-- When it no longer waits for callbacks there are none but its own. -/
  hushed : ∀ t, s.destructor = .clearing t ∨ s.destructor = .done t → s.Hushed t
  /-- Its end is recorded. -/
  destroyed : .destroyed ∈ s.trace → ∃ t, s.destructor = .done t
  /-- The log sink is cleared after it has given up. -/
  sink : ∀ t, s.destructor = .done t → s.abandoned = true → s.logSink = false
  /-- Nobody is called after its end. -/
  callbacks : Traces.NoneAfter (fun a => a = .destroyed) Action.Calls s.trace
  /-- Nobody is told of the log after it has given up. -/
  logs : s.abandoned = true →
    Traces.NoneAfter (fun a => a = .destroyed) (fun a => a = .onLog) s.trace

/-- A step that does not concern the destructor. -/
structure Ordinary (t : Thread) (s s' : HttpConnector) : Prop where
  /-- `closing`. -/
  closing : s.closing = true → s'.closing = true
  /-- `abandoned`. -/
  abandoned : s'.abandoned = s.abandoned
  /-- The destructor. -/
  destructor : s'.destructor = s.destructor
  /-- The works. -/
  works : ∀ w ∈ s'.works, w ∈ s.works ∨ w.LeftBy t
  /-- The work after which the destructor goes on. -/
  count : (s'.works.countP fun w => w.cont = .destructor) =
    s.works.countP fun w => w.cont = .destructor
  /-- What is left. -/
  waiting : ∀ u, s.destructor = .waiting u → s.closing = true → s.Pends → s'.Pends
  /-- The other threads. -/
  armed : ∀ u ≠ t, ∀ c, s'.Armed u (.request c) → s.Armed u (.request c)
  /-- After the destructor has given up. -/
  silent : s.Silent → s'.Silent ∧ s.Stills s'
  /-- The log sink. -/
  sink : s.logSink = false → s'.logSink = false ∧ Adds (fun a => a ≠ .onLog) s s'
  /-- The record. -/
  adds : Adds (fun a => a ≠ .destroyed) s s'
  /-- The calls in the record. -/
  calls : (∀ u d, ¬ s.Armed u d) → Adds (fun a => ¬ a.Calls) s s'

/-- An ending goes on in an ordinary step of another thread. -/
theorem Ending.ordinary (h : s.Ending) (hstep : s.Ordinary t s')
    (ht : s.destructor.thread ≠ some t) : s'.Ending := by
  have hdestructor := hstep.destructor
  constructor
  case begun =>
    rw [hdestructor]
    exact fun hne => hstep.closing (h.begun hne)
  case works => rw [hstep.count, h.works, hdestructor]
  case dropped =>
    intro c armed hmem
    rcases hstep.works _ hmem with hmem | ⟨-, hcont⟩
    · exact h.dropped c armed hmem
    · exact hcont rfl
  case waiting =>
    intro u hu
    rw [hdestructor] at hu
    exact hstep.waiting u hu (h.begun (by simp [hu])) (h.waiting u hu)
  case busy =>
    intro u hu c hc
    rw [hdestructor] at hu
    have hne : u ≠ t := by
      rintro rfl
      exact ht hu
    exact h.busy u hu c (hstep.armed u hne c hc)
  case own =>
    intro u hu w hw hwu
    rw [hdestructor] at hu
    rcases hstep.works w hw with hw | ⟨hnone | hsome, -⟩
    · exact h.own u hu w hw hwu
    · rw [hwu] at hnone
      cases hnone
    · rw [hwu] at hsome
      exact absurd (hu.trans hsome) ht
  case given =>
    rw [hdestructor, hstep.abandoned]
    exact h.given
  case silent =>
    rw [hdestructor]
    exact fun hs => (hstep.silent (h.silent hs)).1
  case hushed =>
    intro u hu
    rw [hdestructor] at hu
    have hsilent : s.Silent := by
      refine h.silent ?_
      rcases hu with hu | hu
      · exact .inl (by rw [hu]; trivial)
      · exact .inr ⟨u, hu⟩
    exact (h.hushed u hu).stills (hstep.silent hsilent).2
  case destroyed =>
    obtain ⟨new, htrace, hnew⟩ := hstep.adds
    rw [hdestructor, htrace]
    intro hmem
    rcases List.mem_append.mp hmem with hmem | hmem
    · exact h.destroyed hmem
    · exact absurd rfl (hnew _ hmem)
  case sink =>
    intro u hu habandoned
    rw [hdestructor] at hu
    rw [hstep.abandoned] at habandoned
    exact (hstep.sink (h.sink u hu habandoned)).1
  case callbacks =>
    obtain ⟨new, htrace, hnew⟩ := hstep.adds
    rw [htrace]
    refine h.callbacks.append hnew fun a ha hdestroyed => ?_
    subst hdestroyed
    obtain ⟨u, hu⟩ := h.destroyed ha
    obtain ⟨new', htrace', hnew'⟩ := hstep.calls (h.hushed u (.inr hu)).armed
    rw [htrace] at htrace'
    rw [List.append_cancel_left htrace']
    exact hnew'
  case logs =>
    rw [hstep.abandoned]
    intro habandoned
    obtain ⟨new, htrace, hnew⟩ := hstep.adds
    rw [htrace]
    refine (h.logs habandoned).append hnew fun a ha hdestroyed => ?_
    subst hdestroyed
    obtain ⟨u, hu⟩ := h.destroyed ha
    obtain ⟨new', htrace', hnew'⟩ := (hstep.sink (h.sink u hu habandoned)).2
    rw [htrace] at htrace'
    rw [List.append_cancel_left htrace']
    exact hnew'

/-! ### Steps -/

/-- A call of `Request` comes to `_TakeFromPool`. -/
def takes (s : HttpConnector) : Event → Bool
  | .proceed r _ => (s.request r).phase = .take
  | _ => false

/-- No call of `Request` comes to `_TakeFromPool` while the destructor waits. -/
def LeavesPool (s : HttpConnector) (e : Thread × Event) : Prop :=
  s.destructor.isWaiting = true → s.takes e.2 = false

instance (s : HttpConnector) (e : Thread × Event) : Decidable (s.LeavesPool e) :=
  inferInstanceAs (Decidable (_ → _))

/-- The threads that are about to call the handler of a request do not change by what another
thread does. -/
theorem Counted.armed_of_advances (h : s.Counted a) (hadvances : s.Advances t s') {u : Thread}
    (hu : u ≠ t) {d : Dispatch} (hd : s'.Armed u d) : s.Armed u d := by
  obtain ⟨a', hreach, hnext⟩ := hadvances a h
  rw [hnext.armed_iff] at hd
  rw [h.armed_iff]
  exact (Dispatches.stage_eq_iff_of_reachable hreach hu rfl).mp hd

/-- A move keeps the number of works that the destructor waits for. -/
theorem Moves.count (h : s.Moves t s') :
    (s'.works.countP fun w => w.cont = .destructor) =
      s.works.countP fun w => w.cont = .destructor := by
  obtain ⟨new, hworks, hnew⟩ := h.works
  have hzero : (new.countP fun w => w.cont = .destructor) = 0 := by
    apply List.countP_eq_zero.mpr
    intro w hw
    simpa using (hnew w hw).2
  rw [hworks, List.countP_append, hzero, Nat.zero_add]

/-- What a thread does apart from the destructor. -/
theorem Sound.ordinary (h : s.Sound) (hcounted : s.Counted a) {e : Event}
    (hmoves : s.Moves t (s.handle t e)) (habandoned : (s.handle t e).abandoned = s.abandoned)
    (hconns : s.closing = true → (s.handle t e).conns ⊆ s.conns)
    (hwaiting : ∀ u, s.destructor = .waiting u → s.closing = true → s.Pends →
      (s.handle t e).Pends)
    (he : ¬ e.Records .destroyed) : s.Ordinary t (s.handle t e) where
  closing := hmoves.closing
  abandoned := habandoned
  destructor := hmoves.destructor
  works w hw := by
    obtain ⟨new, hworks, hnew⟩ := hmoves.works
    rw [hworks] at hw
    rcases List.mem_append.mp hw with hw | hw
    · exact .inr (hnew w hw)
    · exact .inl hw
  count := hmoves.count
  waiting := hwaiting
  armed u hu c hc := hcounted.armed_of_advances (h.advances_handle t e) hu hc
  silent hs := ⟨hs.moves hmoves (hconns hs.closing), hs.stills_handle h t e⟩
  sink hs := ⟨hmoves.sink.trans hs, adds_of_sink hs t e⟩
  adds := by
    refine (adds_handle t e).mono ?_
    rintro b hb rfl
    exact he hb
  calls hs := adds_of_unarmed hs t e

/-- A work that is done is an ordinary step. -/
theorem Sound.ordinary_work (h : s.Sound) (hcounted : s.Counted a) {w : Work}
    (hmay : s.MayDo t w) (hcont : w.cont ≠ .destructor) :
    s.Ordinary t (s.handle t (.work w)) := by
  have hadvances := h.advances_handle t (.work w)
  have hstills (hs : s.Silent) := hs.stills_handle h t (.work w)
  have hsink (hs : s.logSink = false) := adds_of_sink hs t (.work w)
  have hcalls (hs : ∀ u d, ¬ s.Armed u d) := adds_of_unarmed hs t (.work w)
  have hadds : Adds (fun a => a ≠ .destroyed) s (s.handle t (.work w)) := by
    refine (adds_handle t (.work w)).mono ?_
    rintro b hb rfl
    simp [Event.Records, Action.kind] at hb
  have hthins := thins_handle (s := s) t (e := .work w) id
  have hdone : s.handle t (.work w) =
      HttpConnector.doWork { s with works := s.works.erase w } t w := by
    simp only [HttpConnector.handle]
    exact if_pos hmay
  have hcarries := h.carries_doWork hmay hcont
  rw [← hdone] at hcarries
  have hcount : ((s.works.erase w).countP fun w => w.cont = .destructor) =
      s.works.countP fun w => w.cont = .destructor := by
    rw [List.countP_erase]
    simp [hcont]
  exact
    { closing := hcarries.closing
      abandoned := hthins.flags.2
      destructor := hcarries.destructor
      works := by
        intro v hv
        obtain ⟨new, hworks, hnew⟩ := hcarries.works
        rw [hworks] at hv
        rcases List.mem_append.mp hv with hv | hv
        · exact .inr (hnew v hv)
        · exact .inl (List.mem_of_mem_erase hv)
      count := hcarries.toMoves.count.trans hcount
      waiting := fun _ _ hclosing hpends => hcarries.pends hclosing hpends
      armed := fun u hu c hc => hcounted.armed_of_advances hadvances hu hc
      silent := fun hs => by
        have herased : Silent { s with works := s.works.erase w } :=
          ⟨hs.closing, hs.quits, hs.handler⟩
        exact ⟨herased.moves hcarries.toMoves (hthins.conns hs.closing), hstills hs⟩
      sink := fun hs => ⟨hcarries.sink.trans hs, hsink hs⟩
      adds := hadds
      calls := hcalls }

/-- A channel is taken out of the pool. -/
theorem moves_proceedTake (r : RequestId) : s.Moves t (s.proceedTake r) := by
  have hset : s.Carries t (s.setPhase r (.insert none)) := carries_of_eq rfl
  unfold HttpConnector.proceedTake
  split
  · exact hset.toMoves
  split
  · exact hset.toMoves
  · exact ⟨fun hs => hs, fun hs => hs, ⟨[], rfl, by simp⟩, rfl, rfl, fun _ _ hc => hc⟩

/-- The destructor has neither given up nor ended as long as it has not begun, is in `Close` or
waits. -/
theorem Ending.kept_of_early (h : s.Ending)
    (ht : s.destructor = .none ∨ (∃ t, s.destructor = .closing t) ∨
      ∃ t, s.destructor = .waiting t) :
    s.abandoned = false ∧ .destroyed ∉ s.trace := by
  have hnot (hlate : s.destructor.Given ∨ ∃ t, s.destructor = .done t) : False := by
    rcases hlate with hgiven | ⟨u, hu⟩
    · rcases ht with ht | ⟨t, ht⟩ | ⟨t, ht⟩
      all_goals
        rw [ht] at hgiven
        exact hgiven
    · rcases ht with ht | ⟨t, ht⟩ | ⟨t, ht⟩
      all_goals
        rw [ht] at hu
        cases hu
  constructor
  · rw [← Bool.not_eq_true]
    exact fun habandoned => hnot (h.given habandoned)
  · exact fun hmem => hnot (.inr (h.destroyed hmem))

/-- The destructor is in `Close` or waits. -/
theorem ending_of_early (hdestructor : s.destructor = .closing t ∨ s.destructor = .waiting t)
    (hclosing : s.closing = true) (hkept : s.abandoned = false) (hfresh : .destroyed ∉ s.trace)
    (hworks : (s.works.countP fun w => w.cont = .destructor) = s.destructor.isClosing.toNat)
    (hdropped : ∀ c armed, .drop c armed .destructor ∉ s.works)
    (hpends : s.destructor = .waiting t → s.Pends) (hbusy : ∀ c, ¬ s.Armed t (.request c))
    (hown : ∀ w ∈ s.works, w.armedOn = some t → w.cont = .destructor) : s.Ending := by
  have hthread : s.destructor.thread = some t := by
    rcases hdestructor with ht | ht
    all_goals
      rw [ht]
      rfl
  have hnot : ¬ (s.destructor.Given ∨ ∃ t, s.destructor = .done t) := by
    rcases hdestructor with ht | ht <;> simp [ht, Destructor.Given]
  constructor
  case begun => exact fun _ => hclosing
  case works => exact hworks
  case dropped => exact hdropped
  case waiting =>
    intro u hu
    refine hpends ?_
    rcases hdestructor with ht | ht
    · rw [ht] at hu
      cases hu
    · exact ht
  case busy =>
    intro u hu
    obtain rfl : t = u := Option.some.inj (hthread.symm.trans hu)
    exact hbusy
  case own =>
    intro u hu
    obtain rfl : t = u := Option.some.inj (hthread.symm.trans hu)
    exact hown
  case given =>
    intro habandoned
    rw [hkept] at habandoned
    cases habandoned
  case silent => exact fun hlate => absurd hlate hnot
  case hushed =>
    rintro u (hu | hu)
    · exact absurd (.inl (by rw [hu]; trivial)) hnot
    · exact absurd (.inr ⟨u, hu⟩) hnot
  case destroyed => exact fun hmem => absurd hmem hfresh
  case sink => exact fun u hu => absurd (.inr ⟨u, hu⟩) hnot
  case callbacks =>
    refine List.pairwise_of_forall_mem_list fun b hb c _ hdestroyed => ?_
    subst hdestroyed
    exact absurd hb hfresh
  case logs =>
    intro habandoned
    rw [hkept] at habandoned
    cases habandoned

/-- The destructor is called, by a thread that is not about to make a call. -/
theorem Ending.destroy (h : s.Ending) (hcounted : s.Counted a) (t : Thread) :
    (s.destroy t).Ending := by
  unfold HttpConnector.destroy
  split
  case isFalse => exact h
  rename_i hfirst
  obtain ⟨hnone, hguards⟩ := hfirst
  have hunarmed (d : Dispatch) : ¬ s.Armed t d := by
    intro hd
    have hstage := hcounted.armed_iff.mp hd
    have hcount := hcounted.count_guards t d
    rw [if_pos (by rw [hstage]; rfl)] at hcount
    have hmem : (⟨t, d⟩ : Guard) ∈ s.guards := List.count_pos_iff.mp (hcount ▸ Nat.one_pos)
    have hnot := hguards _ hmem rfl
    cases d with
    | request c =>
      rw [aboutToCall, decide_eq_false_iff_not] at hnot
      exact hnot hd
    | closed =>
      obtain ⟨w, hw, hwt⟩ := hd
      rw [aboutToCall, List.any_eq_false] at hnot
      exact hnot w hw (decide_eq_true hwt)
  obtain ⟨hkept, hfresh⟩ := h.kept_of_early (.inl hnone)
  refine ending_of_early (t := t) (.inl rfl) rfl hkept ?_ ?_ ?_ (by simp [close, closeAll, note,
    post]) ?_ ?_
  · intro hmem
    rcases List.mem_append.mp hmem with hmem | hmem
    · exact hfresh hmem
    · simp at hmem
  · have hcount := h.works
    rw [hnone] at hcount
    simp only [close, closeAll, note, post, List.countP_cons]
    rw [hcount]
    rfl
  · intro c armed hmem
    rcases List.mem_cons.mp hmem with hmem | hmem
    · cases hmem
    · exact h.dropped c armed hmem
  · exact fun c hc => hunarmed (.request c) hc
  · intro w hw hwt
    rcases List.mem_cons.mp hw with rfl | hw
    · rfl
    · exact absurd ⟨w, hw, hwt⟩ (hunarmed .closed)

/-- No other thread is behind a guard, and the destructor's is in calls at most. -/
theorem Ending.hush (h : s.Ending) (hcounted : s.Counted a)
    (ht : s.destructor.thread = some t) (hclosing : s.destructor.isClosing = false)
    (hcount : s.callbacksInFlight ≤ s.dispatchDepthOn t) : s.Hushed t := by
  have hguard : a.inFlight ≤ a.guards.countP fun g => g.1 = t := by
    rw [hcounted.inFlight, hcounted.guards, List.countP_map]
    exact hcount
  have hzero := h.works
  rw [hclosing] at hzero
  refine ⟨fun u d hd => ?_, fun u d hd => ?_⟩
  · have hstage := hcounted.armed_iff.mp hd
    obtain rfl : u = t := hcounted.coherent.guard_eq hguard (by rw [hstage]; rfl)
    cases d with
    | request c => exact h.busy u ht c hd
    | closed =>
      obtain ⟨w, hw, hwu⟩ := hd
      have hcont := h.own u ht w hw hwu
      exact List.countP_eq_zero.mp hzero w hw (decide_eq_true hcont)
  · have hstage := hcounted.calling_iff.mp hd
    exact hcounted.coherent.guard_eq hguard (by rw [hstage]; rfl)

/-- The destructor comes further. -/
theorem Ending.further (h : s.Ending) {destructor : Destructor}
    (hnot : s.destructor.isClosing = false) (hbegun : s.destructor ≠ .none)
    (hclosing : destructor.isClosing = false) (hwaiting : ∀ u, destructor ≠ .waiting u)
    (hthread : ∀ u, destructor.thread = some u → s.destructor.thread = some u)
    (hgiven : destructor.Given ∨ ∃ u, destructor = .done u) (hsilent : s.Silent)
    (hhushed : ∀ u, destructor = .clearing u ∨ destructor = .done u → s.Hushed u)
    (hfresh : ∀ u, s.destructor ≠ .done u)
    (hsink : ∀ u, destructor = .done u → s.abandoned = true → s.logSink = false) :
    Ending { s with destructor := destructor } := by
  obtain ⟨h1, h2, h3, h4, h5, h6, h7, h8, h9, h10, h11, h12, h13⟩ := h
  constructor
  case begun => exact fun _ => h1 hbegun
  case works => exact (h2.trans (by rw [hnot])).trans (by rw [hclosing])
  case dropped => exact h3
  case waiting => exact fun u hu => absurd hu (hwaiting u)
  case busy => exact fun u hu => h5 u (hthread u hu)
  case own => exact fun u hu => h6 u (hthread u hu)
  case given => exact fun _ => hgiven
  case silent => exact fun _ => ⟨hsilent.closing, hsilent.quits, hsilent.handler⟩
  case hushed =>
    intro u hu
    have hold := hhushed u hu
    exact ⟨hold.armed, hold.calling⟩
  case destroyed =>
    intro hmem
    obtain ⟨u, hu⟩ := h10 hmem
    exact absurd hu (hfresh u)
  case sink => exact hsink
  case callbacks => exact h12
  case logs => exact h13

/-- The end of the destructor is recorded. -/
theorem Ending.note_destroyed (h : s.Ending) (hdone : s.destructor = .done t) :
    (s.note .destroyed).Ending := by
  obtain ⟨h1, h2, h3, h4, h5, h6, h7, h8, h9, h10, h11, h12, h13⟩ := h
  constructor
  case silent => exact fun hs => ⟨(h8 hs).closing, (h8 hs).quits, (h8 hs).handler⟩
  case hushed => exact fun u hu => ⟨(h9 u hu).armed, (h9 u hu).calling⟩
  case destroyed => exact fun _ => ⟨t, hdone⟩
  case callbacks => exact h12.concat_other (by simp [Action.Calls])
  case logs => exact fun habandoned => (h13 habandoned).concat_other (by simp)
  all_goals assumption

/-- The thread of the destructor may give up. -/
theorem Ending.abandon (h : s.Ending) (ht : s.destructor = .waiting t) :
    (s.abandon t).Ending := by
  obtain ⟨-, hfresh⟩ := h.kept_of_early (.inr (.inr ⟨t, ht⟩))
  have hthread : s.destructor.thread = some t := by rw [ht]; rfl
  constructor
  case begun => exact fun _ => h.begun (by simp [ht])
  case works =>
    have hcount := h.works
    rw [ht] at hcount
    exact hcount
  case dropped => exact h.dropped
  case waiting => exact fun u hu => by cases hu
  case busy =>
    intro u hu
    obtain rfl : t = u := Option.some.inj hu
    exact h.busy t hthread
  case own =>
    intro u hu
    obtain rfl : t = u := Option.some.inj hu
    exact h.own t hthread
  case given => exact fun _ => .inl trivial
  case silent =>
    refine fun _ => ⟨h.begun (by simp [ht]), .inl rfl, fun c hc => ?_⟩
    exact congrArg HttpConnection.handler (if_pos hc)
  case hushed =>
    rintro u (hu | hu)
    · cases hu
    · cases hu
  case destroyed => exact fun hmem => absurd hmem hfresh
  case sink => exact fun u hu => by cases hu
  case callbacks => exact h.callbacks
  case logs =>
    refine fun _ => List.pairwise_of_forall_mem_list fun b hb c _ hdestroyed => ?_
    subst hdestroyed
    exact absurd hb hfresh

/-- The wait of the destructor is over. -/
theorem Ending.endWait (h : s.Ending) (hcounted : s.Counted a) (t : Thread) :
    (s.endWait t).Ending := by
  unfold HttpConnector.endWait
  split
  case isFalse => exact h
  rename_i ht
  split
  case isFalse => exact h.abandon ht
  rename_i hdone
  obtain ⟨hdrained, hcount⟩ := hdone
  obtain ⟨hkept, -⟩ := h.kept_of_early (.inr (.inr ⟨t, ht⟩))
  have hclosing : s.destructor.isClosing = false := by rw [ht]; rfl
  have hthread : s.destructor.thread = some t := by rw [ht]; rfl
  have hquits : s.Quits := (h.waiting t ht).resolve_right (not_not.mpr hdrained)
  have hsilent : s.Silent := by
    refine ⟨h.begun (by simp [ht]), hquits, fun c hc => ?_⟩
    rw [hdrained.1] at hc
    exact absurd hc (Finset.notMem_empty c)
  have hfurther : Ending { s with destructor := .done t } := by
    refine h.further hclosing (by simp [ht]) rfl (by simp) (by simp [Destructor.thread])
      (.inr ⟨t, rfl⟩) hsilent ?_ (by simp [ht]) ?_
    · rintro u (hu | hu)
      · cases hu
      · cases hu
        exact h.hush hcounted hthread hclosing hcount
    · intro u _ habandoned
      rw [habandoned] at hkept
      cases hkept
  exact hfurther.note_destroyed rfl

/-- The second wait of the destructor is over. -/
theorem Ending.endAbandon (h : s.Ending) (hcounted : s.Counted a) (t : Thread) :
    (s.endAbandon t).Ending := by
  unfold HttpConnector.endAbandon
  split
  case isFalse => exact h
  rename_i hfirst
  obtain ⟨ht, hcount⟩ := hfirst
  have hclosing : s.destructor.isClosing = false := by rw [ht]; rfl
  have hthread : s.destructor.thread = some t := by rw [ht]; rfl
  have hsilent : s.Silent := h.silent (.inl (by rw [ht]; trivial))
  refine h.further hclosing (by simp [ht]) rfl (by simp) ?_ (.inl trivial) hsilent ?_
    (by simp [ht]) (by simp)
  · intro u hu
    rwa [← Option.some.inj hu]
  · rintro u (hu | hu)
    · cases hu
      exact h.hush hcounted hthread hclosing hcount
    · cases hu

/-- The log sink is cleared. -/
theorem Ending.clearSink (h : s.Ending) (t : Thread) : (s.clearSink t).Ending := by
  unfold HttpConnector.clearSink
  split
  case isFalse => exact h
  rename_i hfirst
  have ht := hfirst.1
  have hclosing : s.destructor.isClosing = false := by rw [ht]; rfl
  have hsilent : s.Silent := h.silent (.inl (by rw [ht]; trivial))
  have hhushed : s.Hushed t := h.hushed t (.inl ht)
  have hcleared : Ending { s with logSink := false } := by
    obtain ⟨h1, h2, h3, h4, h5, h6, h7, h8, h9, h10, h11, h12, h13⟩ := h
    constructor
    case sink => exact fun _ _ _ => rfl
    case silent => exact fun hs => ⟨(h8 hs).closing, (h8 hs).quits, (h8 hs).handler⟩
    case hushed => exact fun u hu => ⟨(h9 u hu).armed, (h9 u hu).calling⟩
    all_goals assumption
  have hfurther : Ending { s with logSink := false, destructor := .done t } := by
    refine hcleared.further hclosing (by simp [ht]) rfl (by simp) (by simp [Destructor.thread])
      (.inr ⟨t, rfl⟩) ⟨hsilent.closing, hsilent.quits, hsilent.handler⟩ ?_ (by simp [ht])
      fun _ _ _ => rfl
    rintro u (hu | hu)
    · cases hu
    · cases hu
      exact ⟨hhushed.armed, hhushed.calling⟩
  exact hfurther.note_destroyed rfl

/-- The destructor's own call of `Close` goes on. -/
theorem Ending.ownWork (h : s.Ending) (hcounted : s.Counted a) {w : Work} (hmay : s.MayDo t w)
    (hcont : w.cont = .destructor) :
    (HttpConnector.doWork { s with works := s.works.erase w } t w).Ending := by
  obtain ⟨hmem, hthread, hdestructor⟩ := hmay
  have hcount := h.works
  have hpos : 0 < s.works.countP fun w => w.cont = .destructor :=
    List.countP_pos_iff.mpr ⟨w, hmem, decide_eq_true hcont⟩
  have ht : s.destructor = .closing t := by
    have hown := hdestructor hcont
    rw [hcount] at hpos
    cases hd : s.destructor <;> simp_all [Destructor.thread, Destructor.isClosing]
  have hone : (s.works.countP fun w => w.cont = .destructor) = 1 := by
    rw [hcount, ht]
    rfl
  have hzero : ((s.works.erase w).countP fun w => w.cont = .destructor) = 0 := by
    rw [List.countP_erase, hone]
    simp [hmem, hcont]
  have hnone : ∀ v ∈ s.works.erase w, v.armedOn ≠ some t := by
    intro v hv hvt
    have hvcont := h.own t (hdestructor hcont) v (List.mem_of_mem_erase hv) hvt
    exact List.countP_eq_zero.mp hzero v hv (decide_eq_true hvcont)
  have hdropped : ∀ c armed, .drop c armed .destructor ∉ s.works.erase w :=
    fun c armed hv => h.dropped c armed (List.mem_of_mem_erase hv)
  have hclosing : s.closing = true := h.begun (by simp [ht])
  have hbusy := h.busy t (hdestructor hcont)
  obtain ⟨hkept, hfresh⟩ := h.kept_of_early (.inr (.inl ⟨t, ht⟩))
  -- the destructor waits after its call of `Close`
  have hwaits (x : HttpConnector) (hx : x.closing = true ∧ x.abandoned = false ∧ x.Pends)
      (hworks : x.works = s.works.erase w) (hactivity : x.activity = s.activity)
      (hdest : x.destructor = s.destructor) (htrace : x.trace = s.trace) :
      (x.goOn .destructor).Ending := by
    obtain ⟨hxclosing, hxkept, hxpends⟩ := hx
    rw [ht] at hdest
    simp only [goOn, hdest]
    refine ending_of_early (t := t) (.inr rfl) hxclosing hxkept ?_ ?_ ?_ (fun _ => hxpends) ?_ ?_
    · simpa [htrace] using hfresh
    · have hnothing : (x.works.countP fun w => w.cont = .destructor) = 0 := by rw [hworks, hzero]
      exact hnothing
    · simpa [hworks] using hdropped
    · intro c hc
      exact hbusy c (by simpa [Armed, hactivity] using hc)
    · intro v hv hvt
      exact absurd hvt (hnone v (hworks ▸ hv))
  -- it stays in its call of `Close`
  have hstays (x : HttpConnector) (v : Work) (hx : x.closing = true ∧ x.abandoned = false)
      (hv : v.cont = .destructor ∧ ∀ c armed k, v ≠ .drop c armed k)
      (hworks : x.works = v :: s.works.erase w) (hactivity : x.activity = s.activity)
      (hdest : x.destructor = s.destructor) (htrace : .destroyed ∉ x.trace) : x.Ending := by
    have hclosing : x.destructor = .closing t := hdest.trans ht
    refine ending_of_early (t := t) (.inl hclosing) hx.1 hx.2 htrace ?_ ?_ ?_ ?_ ?_
    · rw [hworks, List.countP_cons, hzero, hclosing]
      simp [hv.1, Destructor.isClosing]
    · intro c armed hmem
      rw [hworks] at hmem
      rcases List.mem_cons.mp hmem with hmem | hmem
      · exact hv.2 c armed .destructor hmem.symm
      · exact hdropped c armed hmem
    · intro hwaiting
      rw [hclosing] at hwaiting
      cases hwaiting
    · intro c hc
      exact hbusy c (by simpa [Armed, hactivity] using hc)
    · intro u hu hut
      rw [hworks] at hu
      rcases List.mem_cons.mp hu with rfl | hu
      · exact hv.1
      · exact absurd hut (hnone u hu)
  cases w with
  | notifyClosed k =>
    obtain rfl : k = .destructor := hcont
    simp only [HttpConnector.doWork, notifyClosedIfDrained]
    split
    · rename_i hfirst
      refine hwaits _ ⟨hclosing, hkept, ?_⟩ rfl rfl rfl rfl
      rcases hfirst with habandoned | hnot | hnotified
      · exact .inl (.inl habandoned)
      · rw [hclosing] at hnot
        cases hnot
      · exact .inl (.inr (.inr hnotified))
    split
    · rename_i hdrained
      exact hwaits _ ⟨hclosing, hkept, .inr hdrained⟩ rfl rfl rfl rfl
    split
    · exact hwaits _ ⟨hclosing, hkept, .inl (.inr (.inr rfl))⟩ rfl rfl rfl rfl
    · exact hstays _ (.onClosed t .destructor) ⟨hclosing, hkept⟩ ⟨rfl, by simp⟩ rfl rfl rfl hfresh
  | drop c armed k =>
    obtain rfl : k = .destructor := hcont
    exact absurd hmem (h.dropped c armed)
  | onClosed t' k =>
    obtain rfl : k = .destructor := hcont
    refine hstays _ (.inOnClosed t' .destructor) ⟨hclosing, hkept⟩ ⟨rfl, by simp⟩ rfl rfl rfl ?_
    simpa [HttpConnector.doWork, note, post] using hfresh
  | inOnClosed t' k =>
    obtain rfl : k = .destructor := hcont
    have hstage := hcounted.noticing.stage_calling hmem rfl
    have hnotified : s.closedNotified = true := by
      rw [← Bool.not_eq_false, ← hcounted.noticing.waiting, hstage]
      simp
    exact hwaits _ ⟨hclosing, hkept, .inl (.inr (.inr hnotified))⟩ rfl rfl rfl rfl
  | _ => cases hcont

/-- Every step of the connector leaves nobody to be called after its end, if no call of `Request`
takes a channel out of the pool while the destructor waits. -/
theorem Ending.step (h : s.Ending) (hsound : s.Sound) (hcounted : s.Counted a)
    (e : Thread × Event) (hleaves : s.LeavesPool e) : (s.step e).Ending := by
  obtain ⟨t, e⟩ := e
  unfold HttpConnector.step
  split
  case isTrue => exact h
  rename_i hfirst
  have hbusy (he : ofDestructor e = false) : s.destructor.thread ≠ some t :=
    fun ht => hfirst ⟨ht, he⟩
  by_cases hremoves : s.Removes e
  · cases e with
    | destroy => exact h.destroy hcounted t
    | endWait => exact h.endWait hcounted t
    | endAbandon => exact h.endAbandon hcounted t
    | clearSink => exact h.clearSink t
    | work w =>
      by_cases hmay : s.MayDo t w
      · by_cases hcont : w.cont = .destructor
        · simp only [HttpConnector.handle, if_pos hmay]
          exact h.ownWork hcounted hmay hcont
        · exact h.ordinary (hsound.ordinary_work hcounted hmay hcont)
            (hbusy (decide_eq_false hcont))
      · simp only [HttpConnector.handle, if_neg hmay]
        exact h
    | proceed r result =>
      have hphase : (s.request r).phase = .take := hremoves
      have hdone : s.handle t (.proceed r result) = s.proceedTake r := by
        simp only [HttpConnector.handle, HttpConnector.proceed, hphase]
      refine h.ordinary (hsound.ordinary hcounted ?_ ?_ ?_ ?_ (by simp [Event.Records]))
        (hbusy rfl)
      · rw [hdone]
        exact moves_proceedTake r
      · exact (thins_handle (s := s) t (e := .proceed r result) id).flags.2
      · exact (thins_handle (s := s) t (e := .proceed r result) id).conns
      · intro u hu
        have hnot := hleaves (by rw [hu]; rfl)
        rw [takes, decide_eq_false_iff_not] at hnot
        exact absurd hphase hnot
    | _ => exact hremoves.elim
  · have hcarries : s.Carries t (s.handle t e) := hsound.carries_handle hremoves
    have hthread : s.destructor.thread ≠ some t := by
      refine hbusy ?_
      cases e <;> first | rfl | exact absurd trivial hremoves
    have hrecords : ¬ e.Records .destroyed := by
      cases e <;> first | exact absurd trivial hremoves | simp [Event.Records]
    by_cases hends : e.Ends
    · cases e with
      | close =>
        have hkept : (s.handle t .close).abandoned = s.abandoned ∧
            (s.handle t .close).conns = s.conns := by
          simp only [HttpConnector.handle]
          split
          · exact ⟨rfl, rfl⟩
          · exact ⟨rfl, rfl⟩
        refine h.ordinary (hsound.ordinary hcounted hcarries.toMoves hkept.1 ?_
          (fun _ _ => hcarries.pends) hrecords) hthread
        rw [hkept.2]
        exact fun _ => Finset.Subset.refl _
      | destroy | endWait => exact absurd trivial hremoves
      | _ => exact hends.elim
    · have hthins := thins_handle (s := s) t hends
      exact h.ordinary (hsound.ordinary hcounted hcarries.toMoves hthins.flags.2 hthins.conns
        (fun _ _ => hcarries.pends) hrecords) hthread

/-- In the beginning nothing is ending. -/
theorem ending_create (maxIdlePerKey : ℕ) (handler logSink : Bool) :
    (create maxIdlePerKey handler logSink).Ending := by
  constructor
  case callbacks => exact Traces.noneAfter_nil
  case logs => exact fun _ => Traces.noneAfter_nil
  all_goals simp [create, Destructor.isClosing, Destructor.Given, Destructor.thread]

/-- After the destructor has finished waiting nobody is called. -/
structure Mutes (s : HttpConnector) : Prop where
  /-- No handler is called. -/
  callbacks : Traces.NoneAfter (fun a => a = .destroyed) Action.Calls s.trace
  /-- Nor is `OnLog`, if it has given up. -/
  logs : s.abandoned = true →
    Traces.NoneAfter (fun a => a = .destroyed) (fun a => a = .onLog) s.trace
  /-- The calls that are still under way are those from which the destructor has been called. -/
  guards : ∀ t, s.destructor = .done t → ∀ g ∈ s.guards, g.thread = t

/-- Whatever the threads of a connector do, as long as no call of `Request` takes a channel out
of the pool while the destructor waits: when the destructor has finished waiting, no handler is
called any more, and none is being called but by the thread of the destructor itself. -/
theorem mutes_run (maxIdlePerKey : ℕ) (handler logSink : Bool) {events : List (Thread × Event)}
    (hmeets : Runs.Meets step LeavesPool (create maxIdlePerKey handler logSink) events) :
    (Runs.run step (create maxIdlePerKey handler logSink) events).Mutes := by
  have hrun : (Runs.run step (create maxIdlePerKey handler logSink) events).Sound ∧
      (∃ a, (Runs.run step (create maxIdlePerKey handler logSink) events).Counted a) ∧
        (Runs.run step (create maxIdlePerKey handler logSink) events).Ending := by
    refine Runs.invariant_of_meets
      (I := fun s : HttpConnector => s.Sound ∧ (∃ a, s.Counted a) ∧ s.Ending) ?_ ?_ hmeets
    · rintro s e ⟨hsound, ⟨a, hcounted⟩, hending⟩ hleaves
      obtain ⟨a', -, hnext⟩ := hsound.advances_step e a hcounted
      exact ⟨hsound.step e, ⟨a', hnext⟩, hending.step hsound hcounted e hleaves⟩
    · exact ⟨sound_create _ _ _, ⟨_, counted_create _ _ _⟩, ending_create _ _ _⟩
  obtain ⟨-, ⟨a, hcounted⟩, hending⟩ := hrun
  refine ⟨hending.callbacks, hending.logs, fun t ht g hg => ?_⟩
  have hhushed := hending.hushed t (.inr ht)
  have hpos := List.count_pos_iff.mpr hg
  rw [hcounted.count_guards] at hpos
  have hguard : (a.stage g.dispatch).guard = some g.thread := by
    by_contra hne
    rw [if_neg hne] at hpos
    exact absurd hpos (Nat.lt_irrefl 0)
  cases hstage : a.stage g.dispatch with
  | armed u => exact absurd (hcounted.armed_iff.mpr hstage) (hhushed.armed u g.dispatch)
  | calling u =>
    rw [hstage] at hguard
    rw [← Option.some.inj hguard]
    exact hhushed.calling u g.dispatch (hcounted.calling_iff.mpr hstage)
  | _ =>
    rw [hstage] at hguard
    cases hguard

/-- The destructor is called while a handler runs on another thread; it gives up, and the
handler returns before its end. -/
def givenUpEvents : List (Thread × Event) :=
  [(1, .call sampleArgs), (1, .proceed 0 .success), (1, .proceed 0 .success),
    (1, .proceed 0 .success), (1, .proceed 0 .success), (2, .ready 0 none),
    (2, .data 0 (.complete true)), (2, .resume 0 .success), (4, .destroy),
    (4, .work (.notifyClosed .destructor)), (4, .endWait), (4, .endAbandon),
    (2, .resume 0 .success), (4, .endAbandon), (4, .clearSink), (2, .resume 0 .success),
    (2, .resume 0 .success)]

/-- A run that gives up inside mutes the rest. -/
theorem mutes_run_givenUp :
    .destroyed ∈ (Runs.run step (create 1 true true) givenUpEvents).trace ∧
      (Runs.run step (create 1 true true) givenUpEvents).Mutes :=
  ⟨by decide +kernel, mutes_run 1 true true (by decide +kernel)⟩

/-- A call of `Request` takes the last channel out of the pool while the destructor waits. -/
def takenLateEvents : List (Thread × Event) :=
  pooledEvents ++
    [(1, .call sampleArgs), (4, .destroy), (4, .work (.notifyClosed .destructor)),
      (1, .proceed 1 .success), (4, .endWait), (1, .proceed 1 .success), (2, .fails 0),
      (2, .closed 0 .success false), (2, .work (.deleteClosed 0)), (2, .work (.finishIdle 0)),
      (2, .work (.onClosed 2 .done))]

/-- `OnClosed` is called after the destructor then. -/
theorem taken_not_mutes :
    ¬ (Runs.run step (create 1 true false) takenLateEvents).Mutes := by
  have htrace : (Runs.run step (create 1 true false) takenLateEvents).trace.drop 6 =
      [.closeCalled, .destroyed, .returned 1 shuttingDown, .deletedChannel 0 (.pooled 0),
        .deletedPooled 0, .onClosed] := by
    decide +kernel
  intro hmutes
  have hlast := List.Pairwise.sublist (List.drop_sublist 6 _) hmutes.callbacks
  rw [htrace] at hlast
  simp [Action.Calls] at hlast

end HttpConnector

end Http
