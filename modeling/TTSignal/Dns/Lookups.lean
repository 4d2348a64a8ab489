import TTSignal.Dns.Resolver

/-!
# What one lookup does

A lookup through the resolver's own queries asks the system resolver nothing, sends under the
forcing policy only through sockets that were pinned, and returns addresses that came in an
accepted response. What a lookup returns is in the order that the configuration asks for.
-/

namespace Dns

open Tcp (SockAddr BCResult TTVpnPolicy TTPinResult)

/-- The addresses are in the order of the preference. -/
def InOrder (preferIpv6 : Bool) (addrs : List SockAddr) : Prop :=
  addrs.Pairwise fun a b => addrBefore preferIpv6 b a = false

/-- The descriptors on which `tt_socket_pin` has returned `TT_PIN_OK` since they were opened. -/
def pinnedAfter (pinned : ℤ → Bool) : Action → ℤ → Bool
  | .socket fd => Function.update pinned fd false
  | .pin fd _ _ _ result => Function.update pinned fd (result = .ok)
  | _ => pinned

/-- Queries are only sent on pinned sockets. -/
def SendsPinned : (ℤ → Bool) → List Action → Prop
  | _, [] => True
  | pinned, action :: actions =>
    (∀ fd query, action = .send fd query → pinned fd = true) ∧
      SendsPinned (pinnedAfter pinned action) actions

/-- The system resolver is not asked. -/
def AsksNoSystem (actions : List Action) : Prop := ∀ host, Action.getaddrinfo host ∉ actions

/-- An address came in an accepted response. -/
def Answered (actions : List Action) (addr : SockAddr) : Prop :=
  ∃ fd addrs, Action.answered fd addrs ∈ actions ∧ addr ∈ addrs

section Order

/-- Sorting puts the addresses in order. -/
theorem inOrder_sortAddrs (addrs : List SockAddr) (preferIpv6 : Bool) :
    InOrder preferIpv6 (sortAddrs addrs preferIpv6) := by
  have h : (sortAddrs addrs preferIpv6).Pairwise fun a b => !addrBefore preferIpv6 b a := by
    refine List.pairwise_mergeSort ?_ ?_ addrs
    · intro a b c
      cases preferIpv6 <;> cases ha : a.ipv6 <;> cases hb : b.ipv6 <;> cases hc : c.ipv6 <;>
        simp [addrBefore, ha, hb, hc]
    · intro a b
      cases preferIpv6 <;> cases ha : a.ipv6 <;> cases hb : b.ipv6 <;>
        simp [addrBefore, ha, hb]
  exact h.imp fun h => by simpa using h

/-- Sorting neither adds nor drops addresses. -/
theorem mem_sortAddrs {addrs : List SockAddr} {preferIpv6 : Bool} {addr : SockAddr} :
    addr ∈ sortAddrs addrs preferIpv6 ↔ addr ∈ addrs :=
  List.mem_mergeSort

/-- Sorting leaves something if there was something. -/
theorem sortAddrs_ne_nil {addrs : List SockAddr} (preferIpv6 : Bool) (h : addrs ≠ []) :
    sortAddrs addrs preferIpv6 ≠ [] := by
  obtain ⟨a, ha⟩ := List.exists_mem_of_ne_nil addrs h
  exact List.ne_nil_of_mem (mem_sortAddrs.mpr ha)

end Order

section Actions

variable {pinned : ℤ → Bool} {first second : List Action}

/-- Actions one after the other. -/
theorem sendsPinned_append :
    SendsPinned pinned (first ++ second) ↔
      SendsPinned pinned first ∧ SendsPinned (first.foldl pinnedAfter pinned) second := by
  induction first generalizing pinned with
  | nil => simp [SendsPinned]
  | cons action first ih => simp [SendsPinned, ih, and_assoc]

/-- Accepting responses sends nothing. -/
theorem sendsPinned_of_answered (h : ∀ a ∈ first, ∃ fd addrs, a = .answered fd addrs) :
    SendsPinned pinned first := by
  induction first generalizing pinned with
  | nil => trivial
  | cons action first ih =>
    obtain ⟨fd, addrs, rfl⟩ := h action (by simp)
    exact ⟨by simp, ih fun a ha => h a (by simp [ha])⟩

end Actions

section Receive

variable {host : Text} {cfg : DnsConfig} {r : Receiving} {fd : ℤ}

/-- So far responses were accepted, and everything gathered came in one of them. -/
structure Receives (fd : ℤ) (r : Receiving) : Prop where
  /-- Only responses on this socket are recorded. -/
  answered : ∀ a ∈ r.actions, ∃ addrs, a = .answered fd addrs
  /-- What is gathered came in a response. -/
  gathered : ∀ addr ∈ r.gathered, Answered r.actions addr

/-- Fields that are not about addresses do not matter. -/
theorem Receives.congr {t : Receiving} (h : Receives fd r) (hgathered : t.gathered = r.gathered)
    (hactions : t.actions = r.actions) : Receives fd t :=
  ⟨hactions ▸ h.answered, hgathered ▸ hactions ▸ h.gathered⟩

/-- A parsed response is used. -/
theorem Receives.use (h : Receives fd r) (parsed : Option ParseResult) :
    Receives fd (r.use fd parsed) := by
  unfold Receiving.use
  split
  · rename_i addrs ttl
    constructor
    · intro a ha
      rcases List.mem_append.mp ha with ha | ha
      · exact h.answered a ha
      · exact ⟨addrs, List.mem_singleton.mp ha⟩
    · intro addr haddr
      rcases List.mem_append.mp haddr with haddr | haddr
      · obtain ⟨fd', addrs', hmem, hin⟩ := h.gathered addr haddr
        exact ⟨fd', addrs', List.mem_append_left _ hmem, hin⟩
      · exact ⟨fd, addrs, by simp, haddr⟩
  · exact h.congr rfl rfl
  · exact h

/-- A datagram is received. -/
theorem Receives.onDatagram (h : Receives fd r) (txidA txidAAAA : ℕ) (bytes : List UInt8) :
    Receives fd (r.onDatagram host fd txidA txidAAAA bytes) := by
  unfold Receiving.onDatagram
  split
  · exact (h.congr (t := { r with gotA := true }) rfl rfl).use _
  · split
    · exact (h.congr (t := { r with gotAAAA := true }) rfl rfl).use _
    · exact h

/-- The grace begins. -/
theorem Receives.arm (h : Receives fd r) (now : ℕ) : Receives fd (r.arm cfg now) := by
  unfold Receiving.arm
  split
  · exact h.congr rfl rfl
  · exact h

/-- The time is over. -/
theorem Receives.timedOut (h : Receives fd r) : Receives fd r.timedOut := by
  unfold Receiving.timedOut
  split
  · exact h.congr rfl rfl
  · exact h

variable (host cfg) in
/-- The receive loop. -/
theorem Receives.receiveLoop (h : Receives fd r) (txidA txidAAAA deadline : ℕ)
    (turns : List Turn) :
    Receives fd (receiveLoop host cfg fd txidA txidAAAA deadline turns r) := by
  induction turns generalizing r with
  | nil =>
    rw [Dns.receiveLoop]
    split
    · exact h
    · exact h.timedOut
  | cons turn turns ih =>
    have harm : Receives fd (r.arm cfg turn.now) := h.arm turn.now
    rw [Dns.receiveLoop]
    split
    · exact h
    · split
      · exact harm.timedOut
      · split
        · exact harm.timedOut
        · exact harm.congr rfl rfl
        · exact ih harm
        · exact ih harm
        · exact ih (harm.onDatagram _ _ _)

end Receive

section Servers

variable {host : Text} {cfg : DnsConfig} {p : Platform}

/-- The actions of a lookup through the own queries. -/
structure OwnActions (cfg : DnsConfig) (actions : List Action) : Prop where
  /-- The system resolver is not asked. -/
  asksNoSystem : AsksNoSystem actions
  /-- Under the forcing policy queries are only sent on pinned sockets. -/
  sendsPinned : cfg.policy = .forcePhysical → ∀ pinned, SendsPinned pinned actions

/-- Nothing is done. -/
theorem OwnActions.nil : OwnActions cfg [] := ⟨fun _ => by simp, fun _ _ => trivial⟩

/-- Own actions one after the other are own actions. -/
theorem OwnActions.append {first second : List Action} (h : OwnActions cfg first)
    (h' : OwnActions cfg second) : OwnActions cfg (first ++ second) := by
  constructor
  · intro host hmem
    rcases List.mem_append.mp hmem with hmem | hmem
    · exact h.asksNoSystem host hmem
    · exact h'.asksNoSystem host hmem
  · intro hforce pinned
    exact sendsPinned_append.mpr ⟨h.sendsPinned hforce _, h'.sendsPinned hforce _⟩

/-- Addresses as a lookup returns them. -/
structure Returned (cfg : DnsConfig) (actions : List Action) (addrs : List SockAddr) : Prop where
  /-- There are some. -/
  ne_nil : addrs ≠ []
  /-- They are in order. -/
  inOrder : InOrder cfg.preferIpv6 addrs
  /-- They came in accepted responses. -/
  answered : ∀ addr ∈ addrs, Answered actions addr

/-- More actions. -/
theorem Returned.mono {actions more : List Action} {addrs : List SockAddr}
    (h : Returned cfg actions addrs) (hsub : actions ⊆ more) : Returned cfg more addrs := by
  refine ⟨h.ne_nil, h.inOrder, fun addr haddr => ?_⟩
  obtain ⟨fd, addrs', hmem, hin⟩ := h.answered addr haddr
  exact ⟨fd, addrs', hsub hmem, hin⟩

variable (host cfg) in
/-- The queries to a server, on a socket that is pinned under the forcing policy. -/
theorem queryServer_spec (a : ServerAnswers) :
    AsksNoSystem (queryServer host cfg a).1 ∧
      (∀ pinned : ℤ → Bool, pinned a.fd = true → SendsPinned pinned (queryServer host cfg a).1) ∧
        ∀ addrs ttl, (queryServer host cfg a).2 = .found addrs ttl →
          Returned cfg (queryServer host cfg a).1 addrs := by
  have hreceives : Receives a.fd ⟨!a.sentA, !a.sentAAAA, [], 0, false, none, none, []⟩ :=
    ⟨by simp, by simp⟩
  have h := hreceives.receiveLoop host cfg a.txidA
    (if a.txidAAAA = a.txidA then a.txidAAAA ^^^ 1 else a.txidAAAA) (a.started + cfg.timeoutMs)
    a.turns
  simp only [queryServer]
  generalize receiveLoop host cfg a.fd a.txidA
    (if a.txidAAAA = a.txidA then a.txidAAAA ^^^ 1 else a.txidAAAA) (a.started + cfg.timeoutMs)
    a.turns ⟨!a.sentA, !a.sentAAAA, [], 0, false, none, none, []⟩ = r at h ⊢
  refine ⟨fun host hmem => ?_, fun pinned hpinned => ?_, fun addrs ttl hfound => ?_⟩
  · rcases List.mem_append.mp hmem with hmem | hmem
    · simp at hmem
    · obtain ⟨addrs, hanswered⟩ := h.answered _ hmem
      exact absurd hanswered (by simp)
  · refine sendsPinned_append.mpr ⟨?_, sendsPinned_of_answered fun action haction => ?_⟩
    · refine ⟨?_, ?_, trivial⟩
      · rintro fd query hsend
        obtain ⟨rfl, -⟩ := Action.send.inj hsend
        exact hpinned
      · rintro fd query hsend
        obtain ⟨rfl, -⟩ := Action.send.inj hsend
        exact hpinned
    · exact ⟨a.fd, h.answered action haction⟩
  · split at hfound
    · rename_i hne
      obtain ⟨rfl, -⟩ := ServerOutcome.found.inj hfound
      refine ⟨sortAddrs_ne_nil _ hne, inOrder_sortAddrs _ _, fun addr haddr => ?_⟩
      obtain ⟨fd, addrs', hmem, hin⟩ := h.gathered addr (mem_sortAddrs.mp haddr)
      exact ⟨fd, addrs', List.mem_append_right _ hmem, hin⟩
    · exact absurd hfound (by simp)

variable (host cfg p) in
/-- The turn of one server. -/
theorem askServer_spec (server : Text) (a : ServerAnswers) :
    OwnActions cfg (askServer host cfg p server a).1 ∧
      ∀ addrs ttl, (askServer host cfg p server a).2 = .found addrs ttl →
        Returned cfg (askServer host cfg p server a).1 addrs := by
  have hopened : OwnActions cfg
      [.socket a.fd, .pin a.fd cfg.policy cfg.ifIndex cfg.androidNetHandle a.pinResult] := by
    refine ⟨fun host => by simp, fun _ pinned => ?_⟩
    simp [SendsPinned]
  rw [askServer]
  split
  · exact ⟨.nil, by simp⟩
  · split
    · exact ⟨.nil, by simp⟩
    · dsimp only
      split
      · exact ⟨hopened, by simp⟩
      · rename_i hpin
        split
        · exact ⟨hopened, by simp⟩
        · obtain ⟨hsystem, hpinned, hfound⟩ := queryServer_spec host cfg a
          refine ⟨⟨fun host hmem => ?_, fun hforce pinned => ?_⟩, fun addrs ttl h => ?_⟩
          · rcases List.mem_append.mp hmem with hmem | hmem
            · exact hopened.asksNoSystem host hmem
            · exact hsystem host hmem
          · refine sendsPinned_append.mpr ⟨hopened.sendsPinned hforce pinned, hpinned _ ?_⟩
            have hok : a.pinResult = .ok := by simpa [pinOk, hforce] using hpin
            simp [pinnedAfter, hok]
          · exact (hfound addrs ttl h).mono (List.subset_append_right _ _)

/-- The loop over the servers. -/
theorem serverLoop_spec (answers : ℕ → ServerAnswers) (s : ℕ) (servers : List Text)
    (errors : List (Text × ServerError)) {actions : List Action} (h : OwnActions cfg actions) :
    OwnActions cfg (serverLoop host cfg p answers s servers errors actions).actions ∧
      ((serverLoop host cfg p answers s servers errors actions).result.result = .success →
        Returned cfg (serverLoop host cfg p answers s servers errors actions).actions
          (serverLoop host cfg p answers s servers errors actions).result.addrs) ∧
        ((serverLoop host cfg p answers s servers errors actions).result.result ≠ .success →
          (serverLoop host cfg p answers s servers errors actions).result.addrs = []) := by
  induction servers generalizing s errors actions with
  | nil =>
    rw [serverLoop]
    exact ⟨h, by simp, by simp⟩
  | cons server servers ih =>
    have hask := askServer_spec host cfg p server (answers s)
    rw [serverLoop]
    split
    · rename_i acts e hserver
      rw [hserver] at hask
      exact ih (s + 1) _ (h.append hask.1)
    · rename_i acts e hserver
      rw [hserver] at hask
      exact ⟨h.append hask.1, by simp, by simp⟩
    · rename_i acts addrs ttl hserver
      rw [hserver] at hask
      refine ⟨h.append hask.1, fun _ => ?_, by simp⟩
      exact (hask.2 addrs ttl rfl).mono (List.subset_append_right _ _)

/-- `_ResolveViaUdp`. -/
theorem resolveViaUdp_spec (host : Text) (cfg : DnsConfig) (p : Platform)
    (answers : ℕ → ServerAnswers) :
    OwnActions cfg (resolveViaUdp host cfg p answers).actions ∧
      ((resolveViaUdp host cfg p answers).result.result = .success →
        Returned cfg (resolveViaUdp host cfg p answers).actions
          (resolveViaUdp host cfg p answers).result.addrs) ∧
        ((resolveViaUdp host cfg p answers).result.result ≠ .success →
          (resolveViaUdp host cfg p answers).result.addrs = []) := by
  rw [resolveViaUdp]
  split
  · exact ⟨.nil, by simp, by simp⟩
  · exact serverLoop_spec answers 0 _ [] .nil

/-- `_ResolveViaSystem` returns addresses in order. -/
theorem inOrder_resolveViaSystem (host : Text) (cfg : DnsConfig) (answer : SystemAnswer) :
    InOrder cfg.preferIpv6 (resolveViaSystem host cfg answer).result.addrs := by
  cases answer with
  | error code => exact List.Pairwise.nil
  | ok entries =>
    simp only [resolveViaSystem]
    split
    · exact List.Pairwise.nil
    · exact inOrder_sortAddrs _ _

end Servers

end Dns
