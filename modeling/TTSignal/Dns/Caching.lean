import TTSignal.Dns.Encoding
import TTSignal.Dns.Lookups
import TTSignal.Runs
import Mathlib.Data.Nat.Digits.Lemmas

/-!
# The cache over all calls

The key of the cache holds the host, the policy and the interface of a call. Entries are
therefore never shared between policies, and an answer of the forcing policy has come through
a pinned socket, in this call or in the one that stored it. The key does not hold the network
handle, the servers and the preferred address family: an answer is the one that the call's own
configuration would have given as long as the call that stored it agrees with it in these.
-/

namespace Dns

open Tcp (SockAddr BCResult TTVpnPolicy TTPinResult)
open Runs

section Key

/-- No digit is the separator. -/
theorem separator_notMem_decimal (n : ℕ) : (0x7C : UInt8) ∉ decimal n := by
  unfold decimal
  split
  · decide
  · intro h
    obtain ⟨d, hd, hsep⟩ := List.mem_map.mp h
    have hlt := Nat.digits_lt_base (by norm_num) (List.mem_reverse.mp hd)
    interval_cases d <;> exact absurd hsep (by decide)

/-- The number can be read back from its text. -/
theorem ofDigits_decimal (n : ℕ) :
    Nat.ofDigits 10 ((decimal n).map fun c => c.toNat - 0x30).reverse = n := by
  unfold decimal
  split
  · rename_i hzero
    rw [hzero]
    rfl
  · have hdigits : ((Nat.digits 10 n).map fun d => (UInt8.ofNat (0x30 + d)).toNat - 0x30) =
        Nat.digits 10 n := by
      conv_rhs => rw [← List.map_id (Nat.digits 10 n)]
      apply List.map_congr_left
      intro d hd
      have hlt := Nat.digits_lt_base (by norm_num) hd
      rw [UInt8.toNat_ofNat', id]
      omega
    rw [List.map_map, List.map_reverse, List.reverse_reverse]
    exact (congrArg (Nat.ofDigits 10) hdigits).trans (Nat.ofDigits_digits 10 n)

/-- A number is determined by its text. -/
theorem decimal_injective : Function.Injective decimal := by
  intro m n h
  rw [← ofDigits_decimal m, h, ofDigits_decimal n]

/-- A list is cut at the last separator in one way. -/
theorem append_cons_inj {α : Type*} {sep : α} {a a' b b' : List α} (hb : sep ∉ b)
    (hb' : sep ∉ b') (h : a ++ sep :: b = a' ++ sep :: b') : a = a' ∧ b = b' := by
  rcases List.append_eq_append_iff.mp h with ⟨more, rfl, hmore⟩ | ⟨more, rfl, hmore⟩
  · cases more with
    | nil => exact ⟨(List.append_nil a).symm, (List.cons.inj hmore).2⟩
    | cons x more =>
      rw [(List.cons.inj hmore).2] at hb
      exact absurd (by simp) hb
  · cases more with
    | nil => exact ⟨List.append_nil a', (List.cons.inj hmore).2.symm⟩
    | cons x more =>
      rw [(List.cons.inj hmore).2] at hb'
      exact absurd (by simp) hb'

/-- The key determines the host, the policy and the interface. -/
theorem cacheKey_inj {host host' : Text} {policy policy' : TTVpnPolicy} {ifIndex ifIndex' : ℕ}
    (h : cacheKey host policy ifIndex = cacheKey host' policy' ifIndex') :
    host = host' ∧ policy = policy' ∧ ifIndex = ifIndex' := by
  have hpolicy (policy : TTVpnPolicy) : (0x7C : UInt8) ∉ policyText policy := by
    cases policy <;> decide
  have hform (host : Text) (policy : TTVpnPolicy) (ifIndex : ℕ) :
      cacheKey host policy ifIndex =
        (host ++ 0x7C :: policyText policy) ++ 0x7C :: decimal ifIndex := by
    simp [cacheKey]
  rw [hform, hform] at h
  obtain ⟨hleft, hindex⟩ :=
    append_cons_inj (separator_notMem_decimal _) (separator_notMem_decimal _) h
  obtain ⟨hhost, htext⟩ := append_cons_inj (hpolicy _) (hpolicy _) hleft
  refine ⟨hhost, ?_, decimal_injective hindex⟩
  revert htext
  cases policy <;> cases policy' <;> decide

end Key

section Records

/-- The entry keeps the answer of this call. -/
structure Keeps (r : CallRecord) (entry : CacheEntry) : Prop where
  /-- The answer is neither one of the fallback nor from the cache. -/
  source : r.source = .udp ∨ r.source = .system
  /-- The same addresses. -/
  addrs_eq : entry.addrs = r.result.addrs
  /-- It holds for the clamped TTL. -/
  expireAt_eq : entry.expireAt = r.storedAt + 1000 * clampTtl r.ttl
  /-- The addresses are in the order that the call asked for. -/
  inOrder : InOrder r.cfg.preferIpv6 entry.addrs
  /-- There are some. -/
  ne_nil : entry.addrs ≠ []
  /-- Under the forcing policy they came in responses to the call's own queries. -/
  answered : r.cfg.policy = .forcePhysical → ∀ addr ∈ entry.addrs, Answered r.actions addr

/-- The host is an address. -/
def IsLiteral (p : Platform) (host : Text) : Prop :=
  p.inetPton4 host ≠ none ∨ p.inetPton6 host ≠ none

/-- The address came in a response to a query under the forcing policy, of the call itself or
of the call that stored the entry it was answered with. -/
def PinnedAnswer (calls : List CallRecord) (r : CallRecord) (addr : SockAddr) : Prop :=
  Answered r.actions addr ∨ ∃ entry r', r.source = .cache entry ∧
    calls[entry.storedBy]? = some r' ∧ r'.host = r.host ∧ r'.cfg.policy = .forcePhysical ∧
      Answered r'.actions addr

/-- What a call under the forcing policy does and returns. -/
structure KeepsToInterface (p : Platform) (calls : List CallRecord) (r : CallRecord) : Prop where
  /-- The system resolver is not asked. -/
  asksNoSystem : AsksNoSystem r.actions
  /-- Queries are only sent on pinned sockets. -/
  sendsPinned : SendsPinned (fun _ => false) r.actions
  /-- The addresses came in responses to such queries, unless the host is an address. -/
  answered : ¬ IsLiteral p r.host → ∀ addr ∈ r.result.addrs, PinnedAnswer calls r addr
  /-- Without such a response there is an error, unless the host is an address. -/
  error : ¬ IsLiteral p r.host → (∀ addr, ¬ PinnedAnswer calls r addr) →
    r.result.result ≠ .success

variable {p : Platform} {s : Resolver} {calls more : List CallRecord} {r : CallRecord}

/-- Earlier calls keep their numbers. -/
theorem PinnedAnswer.mono {addr : SockAddr} (h : PinnedAnswer calls r addr) :
    PinnedAnswer (calls ++ more) r addr := by
  rcases h with h | ⟨entry, r', hsource, hr', hrest⟩
  · exact Or.inl h
  · refine Or.inr ⟨entry, r', hsource, ?_, hrest⟩
    rw [List.getElem?_append_left (List.getElem?_eq_some_iff.mp hr').1, hr']

/-- Later calls change nothing. -/
theorem KeepsToInterface.mono (h : KeepsToInterface p calls r) :
    KeepsToInterface p (calls ++ more) r :=
  ⟨h.asksNoSystem, h.sendsPinned, fun hhost addr haddr => (h.answered hhost addr haddr).mono,
    fun hhost hnone => h.error hhost fun addr haddr => hnone addr haddr.mono⟩

/-- A call that returns addresses from pinned answers if it succeeds. -/
theorem KeepsToInterface.of_answered (hsystem : AsksNoSystem r.actions)
    (hpinned : SendsPinned (fun _ => false) r.actions)
    (hanswered : ∀ addr ∈ r.result.addrs, PinnedAnswer calls r addr)
    (hne : r.result.result = .success → r.result.addrs ≠ []) : KeepsToInterface p calls r := by
  refine ⟨hsystem, hpinned, fun _ => hanswered, fun _ hnone hsuccess => ?_⟩
  obtain ⟨addr, haddr⟩ := List.exists_mem_of_ne_nil _ (hne hsuccess)
  exact hnone addr (hanswered addr haddr)

end Records

section Lookup

variable {p : Platform} {c : Call}

/-- A lookup is recorded with the host and the configuration of its call. -/
theorem lookup_fields (p : Platform) (c : Call) :
    (c.lookup p).host = c.host ∧ (c.lookup p).cfg = c.effective p ∧
      ∀ entry, (c.lookup p).source ≠ .cache entry := by
  simp only [Call.lookup]
  split
  · exact ⟨rfl, rfl, by simp [Call.recorded]⟩
  · split
    · exact ⟨rfl, rfl, by simp [Call.recorded]⟩
    · split
      · exact ⟨rfl, rfl, by simp [Call.recorded]⟩
      · exact ⟨rfl, rfl, by simp [Call.recorded]⟩

/-- A lookup that is stored. -/
theorem lookup_keeps (hsource : (c.lookup p).source ≠ .fallback)
    (hsuccess : (c.lookup p).result.result = .success) (hne : (c.lookup p).result.addrs ≠ [])
    (n : ℕ) :
    Keeps (c.lookup p) ⟨(c.lookup p).result.addrs,
      (c.lookup p).storedAt + 1000 * clampTtl (c.lookup p).ttl, n⟩ := by
  obtain ⟨-, hreturned, -⟩ := resolveViaUdp_spec c.host (c.effective p) p c.servers
  simp only [Call.lookup] at hsource hsuccess hne ⊢
  by_cases hos : (c.effective p).policy = .os
  · rw [if_pos hos] at hne ⊢
    refine ⟨Or.inr rfl, rfl, rfl, inOrder_resolveViaSystem _ _ _, hne, fun hforce => ?_⟩
    exact absurd (hos.symm.trans hforce) (by simp)
  · rw [if_neg hos] at hsource hsuccess hne ⊢
    by_cases hudp : (resolveViaUdp c.host (c.effective p) p c.servers).result.result = .success
    · rw [if_pos hudp]
      have h := hreturned hudp
      exact ⟨Or.inl rfl, rfl, rfl, h.inOrder, h.ne_nil, fun _ => h.answered⟩
    · rw [if_neg hudp] at hsource hsuccess
      split at hsource
      · rename_i hforce
        rw [if_pos hforce] at hsuccess
        exact absurd hsuccess (by simp [Call.recorded])
      · exact absurd rfl hsource

/-- A lookup under the forcing policy. -/
theorem lookup_forced (hforce : (c.effective p).policy = .forcePhysical)
    (calls : List CallRecord) : KeepsToInterface p calls (c.lookup p) := by
  obtain ⟨hown, hreturned, hfailed⟩ := resolveViaUdp_spec c.host (c.effective p) p c.servers
  have hos : (c.effective p).policy ≠ .os := by simp [hforce]
  simp only [Call.lookup, if_neg hos, if_pos hforce]
  split
  · rename_i hudp
    have h := hreturned hudp
    exact .of_answered hown.asksNoSystem (hown.sendsPinned hforce _)
      (fun addr haddr => Or.inl (h.answered addr haddr)) fun _ => h.ne_nil
  · rename_i hudp
    refine .of_answered hown.asksNoSystem (hown.sendsPinned hforce _) (fun addr haddr => ?_) ?_
    · simp only [Call.recorded, hfailed hudp] at haddr
      exact absurd haddr (by simp)
    · simp [Call.recorded]

end Lookup

section Invariant

variable {p : Platform} {s : Resolver} {r : CallRecord}

/-- The cache keeps answers of earlier calls under their keys, and the calls under the forcing
policy have kept to it. -/
structure Sound (p : Platform) (s : Resolver) : Prop where
  /-- Every entry was stored by a call with its key. -/
  cache : ∀ key entry, s.cache key = some entry → ∃ r, s.calls[entry.storedBy]? = some r ∧
    Keeps r entry ∧ key = cacheKey r.host r.cfg.policy r.cfg.ifIndex
  /-- The calls under the forcing policy. -/
  calls : ∀ r ∈ s.calls, r.cfg.policy = .forcePhysical → KeepsToInterface p s.calls r

/-- Another call is recorded. -/
theorem Sound.note (h : Sound p s)
    (hr : r.cfg.policy = .forcePhysical → KeepsToInterface p (s.calls ++ [r]) r) :
    Sound p (s.note r) := by
  constructor
  · intro key entry hentry
    obtain ⟨r', hr', hkeeps, hkey⟩ := h.cache key entry hentry
    refine ⟨r', ?_, hkeeps, hkey⟩
    simp only [Resolver.note]
    rw [List.getElem?_append_left (List.getElem?_eq_some_iff.mp hr').1, hr']
  · intro r' hr' hforce
    rcases List.mem_append.mp hr' with hr' | hr'
    · exact (h.calls r' hr' hforce).mono
    · obtain rfl := List.mem_singleton.mp hr'
      exact hr hforce

/-- Entries are dropped. -/
theorem Sound.drop (h : Sound p s) {cache : Text → Option CacheEntry}
    (hcache : ∀ key entry, cache key = some entry → s.cache key = some entry) :
    Sound p { s with cache := cache } :=
  ⟨fun key entry hentry => h.cache key entry (hcache key entry hentry), h.calls⟩

/-- The end of a call that did not find an entry. -/
theorem Sound.keep (h : Sound p s) (c : Call) :
    Sound p (s.keep (c.key p) (c.lookup p)) := by
  obtain ⟨hhost, hcfg, -⟩ := lookup_fields p c
  have hforced : (c.lookup p).cfg.policy = .forcePhysical →
      KeepsToInterface p (s.calls ++ [c.lookup p]) (c.lookup p) :=
    fun hforce => lookup_forced (hcfg ▸ hforce) _
  unfold Resolver.keep
  split
  · rename_i hstore
    obtain ⟨hsource, hsuccess, hne⟩ := hstore
    have hnoted := h.note hforced
    refine ⟨fun key entry hentry => ?_, hnoted.calls⟩
    simp only [Resolver.note, Resolver.cacheStore, Function.update_apply] at hentry ⊢
    split at hentry
    · rename_i hkey
      obtain rfl := Option.some.inj hentry
      refine ⟨c.lookup p, by simp, lookup_keeps hsource hsuccess hne _, ?_⟩
      rw [hkey, Call.key, hhost, hcfg]
    · exact hnoted.cache key entry hentry
  · exact h.note hforced

/-- An entry that is found has been stored and has not expired. -/
theorem cacheLookup_eq_some {key : Text} {now : ℕ} {entry : CacheEntry}
    (h : s.cacheLookup key now = some entry) : s.cache key = some entry ∧ now < entry.expireAt := by
  unfold Resolver.cacheLookup at h
  split at h
  · exact absurd h (by simp)
  · rename_i entry' hentry
    split at h
    · exact absurd h (by simp)
    · obtain rfl := Option.some.inj h
      exact ⟨hentry, by omega⟩

/-- What stored an entry that a call finds. -/
theorem Sound.found (h : Sound p s) {c : Call} {entry : CacheEntry}
    (hfound : s.cacheLookup (c.key p) c.lookupAt = some entry) :
    ∃ r, s.calls[entry.storedBy]? = some r ∧ Keeps r entry ∧ c.lookupAt < entry.expireAt ∧
      r.host = c.host ∧ r.cfg.policy = (c.effective p).policy ∧
        r.cfg.ifIndex = (c.effective p).ifIndex := by
  obtain ⟨hentry, hlive⟩ := cacheLookup_eq_some hfound
  obtain ⟨r, hr, hkeeps, hkey⟩ := h.cache _ _ hentry
  obtain ⟨hhost, hpolicy, hindex⟩ := cacheKey_inj hkey
  exact ⟨r, hr, hkeeps, hlive, hhost.symm, hpolicy.symm, hindex.symm⟩

/-- A call whose host is an address. -/
theorem isLiteral_of_literal {c : Call} {addr : SockAddr} (h : c.literal p = some addr) :
    IsLiteral p c.host := by
  unfold Call.literal at h
  split at h
  · rename_i ip hip
    exact Or.inl (by simp [hip])
  · refine Or.inr fun hnone => ?_
    rw [hnone] at h
    exact absurd h (by simp)

/-- A call that is answered from the cache. -/
theorem Sound.cached (h : Sound p s) {c : Call} {entry : CacheEntry}
    (hfound : s.cacheLookup (c.key p) c.lookupAt = some entry) :
    Sound p (s.note (c.recorded (c.effective p) (.cache entry)
      ⟨⟨.success, entry.addrs, none⟩, 0, []⟩)) := by
  obtain ⟨r, hr, hkeeps, -, hhost, hpolicy, -⟩ := h.found hfound
  refine h.note fun hforce => ?_
  refine .of_answered (fun _ => by simp [Call.recorded]) trivial (fun addr haddr => ?_) fun _ =>
    hkeeps.ne_nil
  have hpolicy' : r.cfg.policy = .forcePhysical := hpolicy.trans hforce
  refine Or.inr ⟨entry, r, rfl, ?_, hhost, hpolicy', hkeeps.answered hpolicy' addr haddr⟩
  rw [List.getElem?_append_left (List.getElem?_eq_some_iff.mp hr).1, hr]

/-- `Resolve` keeps the cache and the calls sound. -/
theorem Sound.resolve (h : Sound p s) (c : Call) : Sound p (s.resolve p c) := by
  unfold Resolver.resolve
  split
  · rename_i addr haddr
    refine h.note fun _ => ⟨fun _ => by simp [Call.recorded], trivial, fun hhost => ?_,
      fun hhost => ?_⟩
    · exact absurd (isLiteral_of_literal haddr) hhost
    · exact absurd (isLiteral_of_literal haddr) hhost
  · split
    · refine h.note fun _ => .of_answered (fun _ => by simp [Call.recorded]) trivial ?_ ?_
      · simp [Call.recorded]
      · simp [Call.recorded]
    · unfold Resolver.resolveCached
      split
      · rename_i entry hfound
        exact h.cached hfound
      · refine (h.drop fun key entry hentry => ?_).keep c
        rw [Function.update_apply] at hentry
        split at hentry
        · exact absurd hentry (by simp)
        · exact hentry

/-- Every event keeps the cache and the calls sound. -/
theorem Sound.step (h : Sound p s) (e : Event) : Sound p (s.step p e) := by
  cases e with
  | resolve c => exact h.resolve c
  | clearCache => exact h.drop fun key entry hentry => absurd hentry (by simp)

/-- At the beginning there is nothing. -/
theorem sound_initial (p : Platform) : Sound p .initial :=
  ⟨fun key entry h => absurd h (by simp [Resolver.initial]), by simp [Resolver.initial]⟩

end Invariant

/-- In every sequence of calls with any configurations, clocks and answers of the operating
system, a call whose effective policy forces a physical interface asks the system resolver
nothing, sends queries only on sockets that `tt_socket_pin` has pinned, and, unless its host is
an address, returns only addresses that came in responses to such queries, of its own or of
the call that filled the cache for it, and an error without such a response. -/
theorem forced_calls_keep_to_interface (p : Platform) (events : List Event) (r : CallRecord)
    (hr : r ∈ (run (Resolver.step p) .initial events).calls)
    (hforce : r.cfg.policy = .forcePhysical) :
    KeepsToInterface p (run (Resolver.step p) .initial events).calls r :=
  (invariant (I := Sound p) (fun _ e h => h.step e) (sound_initial p) events).calls r hr hforce

/-- A platform whose only address text is `1`. -/
def plainPlatform : Platform where
  inetPton4 host := if host = [0x31] then some [0, 0, 0, 1] else none
  inetPton6 _ := none
  policyDefault := .os
  hasPathMonitor := false
  osAndroid := false

/-- A configuration that forces an interface. -/
def forcedConfig : DnsConfig := ⟨.forcePhysical, 3, 0, [[0x31]], 53, 1000, 50, false⟩

/-- Answers of a system in which no socket can be pinned. -/
def unpinned : ServerAnswers := ⟨4, 0, .failed, 1, none, 7, 8, true, true, 0, []⟩

/-- A call in that system. -/
def forcedCall (host : Text) : Call := ⟨host, forcedConfig, 0, 0, 0, fun _ => unpinned, .error 0⟩

/-- Answers of a system in which a pinned socket receives the response to the first query. -/
def pinned : ServerAnswers :=
  ⟨4, 0, .ok, 0, none, 7, 8, true, false, 0, [⟨0, .datagram pointingResponse.bytes⟩]⟩

/-- A call for `a.b` in that system. -/
def pinnedCall (now : ℕ) : Call :=
  ⟨[0x61, 0x2E, 0x62], forcedConfig, 0, now, now, fun _ => pinned, .error 0⟩

/-- The address in the response. -/
def pinnedAddr : SockAddr := ⟨false, [192, 0, 2, 1], 0⟩

/-- It is looked up on the pinned socket. -/
theorem lookup_pinnedCall (now : ℕ) :
    (pinnedCall now).lookup plainPlatform = (pinnedCall now).recorded forcedConfig .udp
      ⟨⟨.success, [pinnedAddr], none⟩, 300, [.socket 4, .pin 4 .forcePhysical 3 0 .ok,
        .send 4 (buildQuery [0x61, 0x2E, 0x62] 1 7), .send 4 (buildQuery [0x61, 0x2E, 0x62] 28 8),
        .answered 4 [pinnedAddr]]⟩ := by
  have hparse : parseResponse pointingResponse.bytes 7 [] 0 [0x61, 0x2E, 0x62] =
      some (.parsed [pinnedAddr] 300) :=
    parseResponse_of_answers isDomainName_pointing pointingResponse_answers 0 (.inr rfl)
  have hquery : buildQuery [0x61, 0x2E, 0x62] 1 0 ≠ [] :=
    (buildQuery_ne_nil_iff _ 1 0).mpr isDomainName_pointing
  have htxid : Receiving.headerTxid pointingResponse.bytes = 7 := by rfl
  have hsort : sortAddrs [pinnedAddr] false = [pinnedAddr] := List.mergeSort_singleton _
  have hloop : receiveLoop [0x61, 0x2E, 0x62] forcedConfig 4 7 8 1000
      [⟨0, .datagram pointingResponse.bytes⟩] ⟨false, true, [], 0, false, none, none, []⟩ =
        ⟨true, true, [pinnedAddr], 300, true, none, none, [.answered 4 [pinnedAddr]]⟩ := by
    simp [receiveLoop, Receiving.arm, Receiving.effective, Receiving.onDatagram, htxid,
      Receiving.use, hparse]
  have hserver : queryServer [0x61, 0x2E, 0x62] forcedConfig pinned =
      ([.send 4 (buildQuery [0x61, 0x2E, 0x62] 1 7), .send 4 (buildQuery [0x61, 0x2E, 0x62] 28 8),
        .answered 4 [pinnedAddr]], .found [pinnedAddr] (some 300)) := by
    have hown : receiveLoop [0x61, 0x2E, 0x62] forcedConfig pinned.fd pinned.txidA
        (if pinned.txidAAAA = pinned.txidA then pinned.txidAAAA ^^^ 1 else pinned.txidAAAA)
        (pinned.started + forcedConfig.timeoutMs) pinned.turns
        ⟨!pinned.sentA, !pinned.sentAAAA, [], 0, false, none, none, []⟩ = _ := hloop
    have hprefer : forcedConfig.preferIpv6 = false := rfl
    rw [queryServer, hown, hprefer, hsort]
    rfl
  have hask : askServer [0x61, 0x2E, 0x62] forcedConfig plainPlatform [0x31] pinned =
      ([.socket 4, .pin 4 .forcePhysical 3 0 .ok, .send 4 (buildQuery [0x61, 0x2E, 0x62] 1 7),
        .send 4 (buildQuery [0x61, 0x2E, 0x62] 28 8), .answered 4 [pinnedAddr]],
        .found [pinnedAddr] (some 300)) := by
    have hnamed : ¬ (plainPlatform.inetPton4 [0x31] = none ∧
        plainPlatform.inetPton6 [0x31] = none) := by decide
    have hpinned : ¬ pinOk forcedConfig.policy pinned.pinResult = false := by decide
    rw [askServer, if_neg hnamed, if_neg (by decide)]
    dsimp only
    rw [if_neg hpinned, hserver]
    rfl
  have hudp : resolveViaUdp [0x61, 0x2E, 0x62] forcedConfig plainPlatform (fun _ => pinned) =
      ⟨⟨.success, [pinnedAddr], none⟩, 300, [.socket 4, .pin 4 .forcePhysical 3 0 .ok,
        .send 4 (buildQuery [0x61, 0x2E, 0x62] 1 7), .send 4 (buildQuery [0x61, 0x2E, 0x62] 28 8),
        .answered 4 [pinnedAddr]]⟩ := by
    have hservers : (if forcedConfig.servers = [] then kDefaultServers else forcedConfig.servers) =
        [[0x31]] := rfl
    rw [resolveViaUdp, if_neg hquery, hservers, serverLoop, hask]
    rfl
  have heffective : (pinnedCall now).effective plainPlatform = forcedConfig := rfl
  have hcall : resolveViaUdp (pinnedCall now).host forcedConfig plainPlatform
      (pinnedCall now).servers = _ := hudp
  rw [Call.lookup, heffective, if_neg (by decide)]
  dsimp only
  rw [hcall, if_pos rfl]

/-- A call for `a.b` that leaves everything to the system. -/
def otherCall : Call where
  host := [0x61, 0x2E, 0x62]
  cfg := ⟨.os, 0, 0, [], 53, 1000, 50, false⟩
  detected := 0
  lookupAt := 0
  storedAt := 0
  servers _ := unpinned
  system := .ok [some ⟨false, [1, 2, 3, 4], 0⟩]

/-- A call that finds nothing in the cache is looked up and kept. -/
theorem step_resolve_of_miss {p : Platform} {s : Resolver} {c : Call} (hhost : c.literal p = none)
    (hinterface : ¬ c.LacksInterface p) (hmiss : s.cacheLookup (c.key p) c.lookupAt = none) :
    s.step p (.resolve c) =
      Resolver.keep { s with cache := Function.update s.cache (c.key p) none } (c.key p)
        (c.lookup p) := by
  rw [Resolver.step, Resolver.resolve, hhost]
  dsimp only
  rw [if_neg hinterface, Resolver.resolveCached, hmiss]

/-- The end of a call leaves the entries under other keys. -/
theorem cache_keep (s : Resolver) {key other : Text} (hne : other ≠ key) (r : CallRecord) :
    (s.keep key r).cache other = s.cache other := by
  unfold Resolver.keep
  split
  · exact Function.update_of_ne hne _ _
  · rfl

/-- The end of a call records it. -/
theorem calls_keep (s : Resolver) (key : Text) (r : CallRecord) :
    (s.keep key r).calls = s.calls ++ [r] := by
  unfold Resolver.keep
  split <;> rfl

/-- A call under another policy, one that is answered on a pinned socket, and one that is
answered from the cache. -/
def forcedEvents : List Event :=
  [.resolve otherCall, .resolve (pinnedCall 1), .resolve (pinnedCall 2)]

/-- The three calls. -/
theorem calls_forcedEvents :
    (run (Resolver.step plainPlatform) .initial forcedEvents).calls =
      [otherCall.lookup plainPlatform, (pinnedCall 1).lookup plainPlatform,
        (pinnedCall 2).recorded forcedConfig (.cache ⟨[pinnedAddr], 300001, 1⟩)
          ⟨⟨.success, [pinnedAddr], none⟩, 0, []⟩] := by
  obtain ⟨s, hs⟩ : ∃ s, s = Resolver.initial.step plainPlatform (.resolve otherCall) := ⟨_, rfl⟩
  have hmiss : Resolver.initial.cacheLookup (otherCall.key plainPlatform) otherCall.lookupAt =
      none := rfl
  have hfirst := hs.trans (step_resolve_of_miss rfl (by decide) hmiss)
  have hcalls : s.calls = [otherCall.lookup plainPlatform] := by
    rw [hfirst, calls_keep]
    rfl
  have hkey : (pinnedCall 1).key plainPlatform ≠ otherCall.key plainPlatform := by decide
  have hcache : s.cache ((pinnedCall 1).key plainPlatform) = none := by
    rw [hfirst, cache_keep _ hkey]
    exact (Function.update_of_ne hkey none Resolver.initial.cache).trans rfl
  have hsecond : s.step plainPlatform (.resolve (pinnedCall 1)) =
      ⟨Function.update (Function.update s.cache ((pinnedCall 1).key plainPlatform) none)
        ((pinnedCall 1).key plainPlatform) (some ⟨[pinnedAddr], 300001, 1⟩),
        s.calls ++ [(pinnedCall 1).lookup plainPlatform]⟩ := by
    have hmiss : s.cacheLookup ((pinnedCall 1).key plainPlatform) (pinnedCall 1).lookupAt =
        none := by
      rw [Resolver.cacheLookup, hcache]
    have hkept : ((pinnedCall 1).lookup plainPlatform).source ≠ .fallback ∧
        ((pinnedCall 1).lookup plainPlatform).result.result = .success ∧
          ((pinnedCall 1).lookup plainPlatform).result.addrs ≠ [] := by
      rw [lookup_pinnedCall]
      exact ⟨by simp [Call.recorded], rfl, by simp [Call.recorded]⟩
    rw [step_resolve_of_miss rfl (by decide) hmiss, Resolver.keep, if_pos hkept,
      Resolver.note, Resolver.cacheStore, hcalls, lookup_pinnedCall]
    rfl
  have hthird : (s.step plainPlatform (.resolve (pinnedCall 1))).cacheLookup
      ((pinnedCall 2).key plainPlatform) 2 = some ⟨[pinnedAddr], 300001, 1⟩ := by
    have hsame : (pinnedCall 2).key plainPlatform = (pinnedCall 1).key plainPlatform := rfl
    rw [hsecond, hsame, Resolver.cacheLookup]
    dsimp only
    rw [Function.update_self]
    rfl
  have hrun : run (Resolver.step plainPlatform) .initial forcedEvents =
      (s.step plainPlatform (.resolve (pinnedCall 1))).resolveCached plainPlatform
        (pinnedCall 2) := by
    rw [hs]
    rfl
  have hat : (pinnedCall 2).lookupAt = 2 := rfl
  rw [hrun, Resolver.resolveCached, hat, hthird, hsecond]
  dsimp only [Resolver.note]
  rw [hcalls]
  rfl

/-- Behind the call of another policy, the call that is answered from the cache returns the
address that came on the pinned socket of the second one. -/
theorem forced_calls_keep_to_interface_pinned :
    let calls := (run (Resolver.step plainPlatform) .initial forcedEvents).calls
    let r := (pinnedCall 2).recorded forcedConfig (.cache ⟨[pinnedAddr], 300001, 1⟩)
      ⟨⟨.success, [pinnedAddr], none⟩, 0, []⟩
    r ∈ calls ∧ r.cfg.policy = .forcePhysical ∧ KeepsToInterface plainPlatform calls r := by
  have hr : (pinnedCall 2).recorded forcedConfig (.cache ⟨[pinnedAddr], 300001, 1⟩)
      ⟨⟨.success, [pinnedAddr], none⟩, 0, []⟩ ∈
        (run (Resolver.step plainPlatform) .initial forcedEvents).calls := by
    rw [calls_forcedEvents]
    exact .tail _ (.tail _ (.head _))
  exact ⟨hr, rfl, forced_calls_keep_to_interface plainPlatform _ _ hr rfl⟩

/-- The call for an address succeeds without a query. -/
theorem forced_literal_without_query :
    ∃ r, (run (Resolver.step plainPlatform) .initial [.resolve (forcedCall [0x31])]).calls = [r] ∧
      r.cfg.policy = .forcePhysical ∧ r.actions = [] ∧ r.result.result = .success := by
  exact ⟨_, rfl, rfl, rfl, rfl⟩

section Transparency

/-- The call looked the same host up with the same configuration, as far as the answer depends
on it. -/
structure SameLookup (r r' : CallRecord) : Prop where
  /-- The host. -/
  host : r'.host = r.host
  /-- The policy. -/
  policy : r'.cfg.policy = r.cfg.policy
  /-- The interface. -/
  ifIndex : r'.cfg.ifIndex = r.cfg.ifIndex
  /-- The network handle. -/
  androidNetHandle : r'.cfg.androidNetHandle = r.cfg.androidNetHandle
  /-- The servers. -/
  servers : r'.cfg.servers = r.cfg.servers
  /-- The preferred address family. -/
  preferIpv6 : r'.cfg.preferIpv6 = r.cfg.preferIpv6

/-- The answer from the cache is the one of an earlier lookup of this kind, at most the clamped
TTL ago. -/
structure Refreshes (r r' : CallRecord) : Prop where
  /-- The same lookup. -/
  same : SameLookup r r'
  /-- It was neither answered by the fallback nor from the cache. -/
  source : r'.source = .udp ∨ r'.source = .system
  /-- The same addresses. -/
  addrs : r.result.addrs = r'.result.addrs
  /-- Its TTL is not over. -/
  fresh : r.lookupAt ≤ r'.storedAt + 1000 * clampTtl r'.ttl
  /-- The addresses are in the order that the call asks for. -/
  inOrder : InOrder r.cfg.preferIpv6 r.result.addrs

/-- Every answer from the cache so far is one that an uncached lookup gave. -/
def CacheTransparent (s : Resolver) : Prop :=
  ∀ i r entry, s.calls[i]? = some r → r.source = .cache entry →
    ∃ r', entry.storedBy < i ∧ s.calls[entry.storedBy]? = some r' ∧ Refreshes r r'

/-- If the call finds an entry, the call that stored it agrees with it in the network handle, the
servers and the preferred address family. -/
def FindsOwnKind (p : Platform) (s : Resolver) : Event → Prop
  | .resolve c => c.literal p = none → ¬ c.LacksInterface p → ∀ entry,
    s.cacheLookup (c.key p) c.lookupAt = some entry → ∃ r, s.calls[entry.storedBy]? = some r ∧
      r.cfg.androidNetHandle = (c.effective p).androidNetHandle ∧
        r.cfg.servers = (c.effective p).servers ∧ r.cfg.preferIpv6 = (c.effective p).preferIpv6
  | .clearCache => True

variable {p : Platform} {s : Resolver} {r : CallRecord}

/-- A call that is not answered from the cache. -/
theorem CacheTransparent.note (h : CacheTransparent s)
    (hr : ∀ entry, r.source = .cache entry → ∃ r', s.calls[entry.storedBy]? = some r' ∧
      Refreshes r r') : CacheTransparent (s.note r) := by
  intro i r₀ entry hi hsource
  simp only [Resolver.note] at hi ⊢
  rcases Nat.lt_or_ge i s.calls.length with hlt | hge
  · rw [List.getElem?_append_left hlt] at hi
    obtain ⟨r', hearlier, hr', hrefreshes⟩ := h i r₀ entry hi hsource
    refine ⟨r', hearlier, ?_, hrefreshes⟩
    rw [List.getElem?_append_left (List.getElem?_eq_some_iff.mp hr').1, hr']
  · rw [List.getElem?_append_right hge, List.getElem?_singleton] at hi
    split at hi
    · obtain rfl := Option.some.inj hi
      obtain ⟨r', hr', hrefreshes⟩ := hr entry hsource
      have hlength := (List.getElem?_eq_some_iff.mp hr').1
      refine ⟨r', by omega, ?_, hrefreshes⟩
      rw [List.getElem?_append_left hlength, hr']
    · exact absurd hi (by simp)

/-- A call that found no entry of its own leaves the cache transparent. -/
theorem CacheTransparent.keep (h : CacheTransparent s) (c : Call) (key : Text) :
    CacheTransparent (s.keep key (c.lookup p)) := by
  obtain ⟨-, -, hsource⟩ := lookup_fields p c
  have hnoted : CacheTransparent (s.note (c.lookup p)) :=
    h.note fun entry hentry => absurd hentry (hsource entry)
  unfold Resolver.keep
  split
  · exact hnoted
  · exact hnoted

/-- A call that finds an entry of its own kind, or none. -/
theorem CacheTransparent.step (h : CacheTransparent s) (hsound : Sound p s) (e : Event)
    (hfinds : FindsOwnKind p s e) : CacheTransparent (s.step p e) := by
  cases e with
  | clearCache => exact h
  | resolve c =>
    simp only [Resolver.step, Resolver.resolve]
    split
    · exact h.note (by simp [Call.recorded])
    · rename_i hliteral
      split
      · exact h.note (by simp [Call.recorded])
      · rename_i hinterface
        unfold Resolver.resolveCached
        split
        · rename_i entry hfound
          refine h.note fun entry' hentry' => ?_
          obtain rfl := Source.cache.inj hentry'
          obtain ⟨r, hr, hkeeps, hlive, hhost, hpolicy, hindex⟩ := hsound.found hfound
          obtain ⟨r', hr', hhandle, hservers, hprefer⟩ := hfinds hliteral hinterface entry hfound
          obtain rfl := Option.some.inj (hr.symm.trans hr')
          have hexpire := hkeeps.expireAt_eq
          refine ⟨r, hr, ⟨hhost, hpolicy, hindex, hhandle, hservers, hprefer⟩, hkeeps.source,
            hkeeps.addrs_eq, ?_, ?_⟩
          · simp only [Call.recorded]
            omega
          · simp only [Call.recorded]
            exact hprefer ▸ hkeeps.inOrder
        · have hdropped : CacheTransparent
              { s with cache := Function.update s.cache (c.key p) none } := h
          exact hdropped.keep c _

/-- A call that finds an entry of another kind returns what it should not. -/
theorem not_cacheTransparent_step (e : Event) (hfinds : ¬ FindsOwnKind p s e) :
    ¬ CacheTransparent (s.step p e) := by
  cases e with
  | clearCache => exact absurd trivial hfinds
  | resolve c =>
    intro h
    refine hfinds fun hliteral hinterface entry hfound => ?_
    have hstep : s.step p (.resolve c) = s.note (c.recorded (c.effective p) (.cache entry)
        ⟨⟨.success, entry.addrs, none⟩, 0, []⟩) := by
      simp only [Resolver.step, Resolver.resolve, hliteral, if_neg hinterface,
        Resolver.resolveCached, hfound]
    rw [hstep] at h
    obtain ⟨r', hearlier, hr', hrefreshes⟩ :=
      h s.calls.length _ entry List.getElem?_concat_length rfl
    simp only [Resolver.note] at hr'
    rw [List.getElem?_append_left hearlier] at hr'
    exact ⟨r', hr', hrefreshes.same.androidNetHandle, hrefreshes.same.servers,
      hrefreshes.same.preferIpv6⟩

end Transparency

/-- In every sequence of calls: every answer from the cache is, after every call, the answer of
an uncached lookup of the same host with the same configuration at most the clamped TTL ago, in
the order that is asked for, exactly when no call finds an entry that was stored by a call with
another network handle, other servers or another preferred address family. -/
theorem cache_transparent_iff (p : Platform) (events : List Event) :
    (∀ first, first <+: events → CacheTransparent (run (Resolver.step p) .initial first)) ↔
      Meets (Resolver.step p) (FindsOwnKind p) .initial events :=
  always_iff_meets (I := fun s => Sound p s ∧ CacheTransparent s) (fun _ h => h.2)
    (fun _ e h hfinds => ⟨h.1.step e, h.2.step h.1 e hfinds⟩)
    (fun _ e _ hfinds => not_cacheTransparent_step e hfinds)
    ⟨sound_initial p, fun i r entry h => absurd h (by simp [Resolver.initial])⟩ events

/-- A call for the host `a` that leaves everything to the system, which knows an address of each
family. -/
def systemCall (preferIpv6 : Bool) : Call where
  host := [0x61]
  cfg := ⟨.os, 0, 0, [], 53, 1000, 50, preferIpv6⟩
  detected := 0
  lookupAt := 0
  storedAt := 0
  servers _ := unpinned
  system := .ok [some ⟨false, [1, 2, 3, 4], 0⟩, some ⟨true, [5, 6, 7, 8], 0⟩]

/-- A call that prefers IPv6 is answered with what a call stored that prefers IPv4. -/
theorem cache_not_transparent :
    ¬ CacheTransparent (run (Resolver.step plainPlatform) .initial
      [.resolve (systemCall false), .resolve (systemCall true)]) := by
  have hne : sortAddrs [⟨false, [1, 2, 3, 4], 0⟩, ⟨true, [5, 6, 7, 8], 0⟩] false ≠ [] :=
    sortAddrs_ne_nil false (by simp)
  rw [run_cons, run_cons, run_nil]
  refine not_cacheTransparent_step _ fun h => ?_
  have hstep : Resolver.initial.step plainPlatform (.resolve (systemCall false)) =
      Resolver.note
        (Resolver.cacheStore ⟨Function.update (fun _ => none)
          ((systemCall false).key plainPlatform) none, []⟩ ((systemCall false).key plainPlatform)
          ((systemCall false).lookup plainPlatform))
        ((systemCall false).lookup plainPlatform) :=
    if_pos ⟨by decide, rfl, hne⟩
  have hkey : (systemCall true).key plainPlatform = (systemCall false).key plainPlatform := rfl
  obtain ⟨r, hr, -, -, hprefer⟩ := h rfl (by decide)
    ⟨sortAddrs [⟨false, [1, 2, 3, 4], 0⟩, ⟨true, [5, 6, 7, 8], 0⟩] false, 60000, 0⟩ (by
      rw [hstep, hkey, Resolver.cacheLookup]
      simp only [Resolver.note, Resolver.cacheStore, Function.update_self]
      rfl)
  rw [hstep] at hr
  obtain rfl := Option.some.inj hr
  exact absurd hprefer (by decide)

end Dns
