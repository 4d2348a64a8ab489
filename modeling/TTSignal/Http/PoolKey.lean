import TTSignal.Runs
import TTSignal.Http.RequestText
import TTSignal.Tcp.Channel
import Mathlib.Logic.Function.Basic

/-!
# The keys of the pool

`_PoolKey` writes the host, five numbers and the resolved address one after the other.
The numbers are read back whatever stands around them, but neither the host nor the
address is free of colons, so the fields of one request can be spread over both strings of
another one. Two requests have the same key and differ exactly when they are related so.
-/

namespace Http

open Text Tcp

/-- The fields of `TcpChannelConfig` that `HttpConnector::Request` and the connector's
configuration give a channel. -/
structure TcpChannelConfig where
  /-- `host`. -/
  host : List UInt8
  /-- `port`. -/
  port : UInt16
  /-- `tls`. -/
  tls : Bool
  /-- `policy`. -/
  policy : TTVpnPolicy
  /-- `ifIndex`. -/
  ifIndex : UInt32
  /-- `androidNetHandle`. -/
  androidNetHandle : UInt64
  /-- `resolvedIp`. -/
  resolvedIp : List UInt8
  deriving DecidableEq

/-- The number of a policy, as text. -/
def policyText : TTVpnPolicy → List UInt8
  | .unset => ofString "-1"
  | .os => ofString "0"
  | .preferPhysical => ofString "1"
  | .forcePhysical => ofString "2"

/-- The part of a key between the host and the address. -/
def keyFields (cfg : TcpChannelConfig) : List UInt8 :=
  ofString ":" ++ decimal cfg.port.toNat ++
    (if cfg.tls then ofString ":tls" else ofString ":tcp") ++
    (ofString ":p" ++ policyText cfg.policy) ++
    (ofString ":i" ++ decimal cfg.ifIndex.toNat) ++
    (ofString ":n" ++ decimal cfg.androidNetHandle.toNat) ++ ofString ":r"

/-- `_PoolKey`. -/
def poolKey (cfg : TcpChannelConfig) : List UInt8 := cfg.host ++ keyFields cfg ++ cfg.resolvedIp

/-- The configuration that `HttpConnector::Request` makes for a request of a connector with
the given policy and network handle; the interface index keeps its default. -/
def requestConfig (req : HttpRequest) (parts : HttpUrlParts) (policy : TTVpnPolicy)
    (androidNetHandle : UInt64) : TcpChannelConfig where
  host := parts.host
  port := parts.port
  tls := parts.tls
  policy := policy
  ifIndex := 0
  androidNetHandle := androidNetHandle
  resolvedIp := req.resolvedIp

section Fields

variable {c d : UInt8} {s t u v x y : List UInt8} {a b : TcpChannelConfig}

/-- What stands before the first colon is determined. -/
theorem append_cons_inj (hs : c ∉ s) (ht : c ∉ t) (h : s ++ c :: x = t ++ c :: y) :
    s = t ∧ x = y := by
  have hcut : cut [c] (s ++ c :: x) = some (s, x) := cut_singleton hs
  rw [h, cut_singleton ht, Option.some.injEq, Prod.mk.injEq] at hcut
  exact ⟨hcut.1.symm, hcut.2.symm⟩

/-- A decimal number has no colon. -/
theorem colon_not_mem_decimal (n : ℕ) : ':'.toUInt8 ∉ decimal n := fun hmem =>
  absurd (isDigit_of_mem_decimal hmem) (by decide)

/-- The text of a policy has no colon. -/
theorem colon_not_mem_policyText (policy : TTVpnPolicy) : ':'.toUInt8 ∉ policyText policy := by
  cases policy <;> decide

/-- Policies have different texts. -/
theorem policyText_injective : Function.Injective policyText := by
  intro p q h
  cases p <;> cases q <;> first | rfl | exact absurd h (by decide)

/-- The transport behind the port. -/
def transport (tls : Bool) : List UInt8 := if tls then ofString "tls" else ofString "tcp"

/-- The name of a transport has no colon. -/
theorem colon_not_mem_transport (tls : Bool) : ':'.toUInt8 ∉ transport tls := by
  cases tls <;> decide

/-- The transports have different names. -/
theorem transport_injective : Function.Injective transport := by
  intro p q h
  cases p <;> cases q <;> first | rfl | exact absurd h (by decide)

/-- The fields of a key as pieces that each begin with a colon. -/
theorem keyFields_eq (cfg : TcpChannelConfig) (x : List UInt8) :
    keyFields cfg ++ x = ':'.toUInt8 :: (decimal cfg.port.toNat ++
      ':'.toUInt8 :: (transport cfg.tls ++
      ':'.toUInt8 :: ('p'.toUInt8 :: policyText cfg.policy ++
      ':'.toUInt8 :: ('i'.toUInt8 :: decimal cfg.ifIndex.toNat ++
      ':'.toUInt8 :: ('n'.toUInt8 :: decimal cfg.androidNetHandle.toNat ++
      ':'.toUInt8 :: ('r'.toUInt8 :: x)))))) := by
  have htls : (if cfg.tls then ofString ":tls" else ofString ":tcp") =
      ':'.toUInt8 :: transport cfg.tls := by
    unfold transport
    split <;> rfl
  have hcolon : ofString ":" = [':'.toUInt8] := by decide
  have hp : ofString ":p" = [':'.toUInt8, 'p'.toUInt8] := by decide
  have hi : ofString ":i" = [':'.toUInt8, 'i'.toUInt8] := by decide
  have hn : ofString ":n" = [':'.toUInt8, 'n'.toUInt8] := by decide
  have hr : ofString ":r" = [':'.toUInt8, 'r'.toUInt8] := by decide
  simp only [keyFields, htls, hcolon, hp, hi, hn, hr, List.append_assoc, List.cons_append,
    List.nil_append]

/-- The fields and what follows them are read back. -/
theorem keyFields_injective (h : keyFields a ++ x = keyFields b ++ y) :
    (a.port = b.port ∧ a.tls = b.tls ∧ a.policy = b.policy ∧ a.ifIndex = b.ifIndex ∧
      a.androidNetHandle = b.androidNetHandle) ∧ x = y := by
  have hletter {c : UInt8} {s : List UInt8} (hc : ':'.toUInt8 ≠ c) (hs : ':'.toUInt8 ∉ s) :
      ':'.toUInt8 ∉ c :: s := by
    rw [List.mem_cons, not_or]
    exact ⟨hc, hs⟩
  rw [keyFields_eq, keyFields_eq, List.cons.injEq] at h
  obtain ⟨hport, h⟩ := append_cons_inj (colon_not_mem_decimal _) (colon_not_mem_decimal _) h.2
  obtain ⟨htls, h⟩ := append_cons_inj (colon_not_mem_transport _) (colon_not_mem_transport _) h
  obtain ⟨hpolicy, h⟩ := append_cons_inj (hletter (by decide) (colon_not_mem_policyText _))
    (hletter (by decide) (colon_not_mem_policyText _)) h
  obtain ⟨hindex, h⟩ := append_cons_inj (hletter (by decide) (colon_not_mem_decimal _))
    (hletter (by decide) (colon_not_mem_decimal _)) h
  obtain ⟨hhandle, h⟩ := append_cons_inj (hletter (by decide) (colon_not_mem_decimal _))
    (hletter (by decide) (colon_not_mem_decimal _)) h
  rw [List.cons.injEq] at hpolicy hindex hhandle h
  exact ⟨⟨UInt16.toNat.inj (decimal_injective hport), transport_injective htls,
    policyText_injective hpolicy.2, UInt32.toNat.inj (decimal_injective hindex.2),
    UInt64.toNat.inj (decimal_injective hhandle.2)⟩, h.2⟩

/-- A colon that stands behind a piece without colons is the one that ends it, or stands
further behind. -/
theorem behind_piece (hs : c ∉ s) (h : s ++ c :: x = u ++ c :: y) :
    (u = s ∧ x = y) ∨ ∃ w, u = s ++ c :: w ∧ x = w ++ c :: y := by
  by_cases hu : c ∈ u
  · obtain ⟨first, w, rfl, hfirst⟩ := List.eq_append_cons_of_mem hu
    rw [List.append_assoc, List.cons_append] at h
    obtain ⟨rfl, hx⟩ := append_cons_inj hs hfirst h
    exact Or.inr ⟨w, rfl, hx⟩
  · obtain ⟨rfl, hx⟩ := append_cons_inj hs hu h
    exact Or.inl ⟨rfl, hx⟩

/-- A colon with a digit behind it is the first byte of the fields of a key, or stands
behind them: every other piece begins with a letter. -/
theorem behind_keyFields (hd : IsDigit d)
    (h : keyFields a ++ x = u ++ ':'.toUInt8 :: d :: y) :
    u = [] ∨ ∃ w, u = keyFields a ++ w ∧ x = w ++ ':'.toUInt8 :: d :: y := by
  have hpiece {l : UInt8} {s x u : List UInt8} (hl : ':'.toUInt8 ≠ l) (hs : ':'.toUInt8 ∉ s)
      (h : l :: s ++ ':'.toUInt8 :: x = u ++ ':'.toUInt8 :: d :: y) (hx : ¬ ∃ z, x = d :: z) :
      ∃ w, u = l :: s ++ ':'.toUInt8 :: w ∧ x = w ++ ':'.toUInt8 :: d :: y := by
    have hls : ':'.toUInt8 ∉ l :: s := by
      rw [List.mem_cons, not_or]
      exact ⟨hl, hs⟩
    rcases behind_piece hls h with ⟨-, hbad⟩ | hw
    · exact absurd ⟨y, hbad⟩ hx
    · exact hw
  have hletter (l : UInt8) (hl : ¬ IsDigit l) (t : List UInt8) : ¬ ∃ z, l :: t = d :: z := by
    rintro ⟨z, hz⟩
    rw [List.cons.injEq] at hz
    rw [hz.1] at hl
    exact hl hd
  cases u with
  | nil => exact Or.inl rfl
  | cons l u =>
    right
    rw [keyFields_eq] at h
    rw [List.cons_append] at h
    obtain ⟨hl, hrest⟩ := List.cons.inj h
    obtain ⟨m, digits, hdigits⟩ := List.exists_cons_of_ne_nil (decimal_ne_nil a.port.toNat)
    have hcolon := colon_not_mem_decimal a.port.toNat
    rw [hdigits, List.mem_cons, not_or] at hcolon
    obtain ⟨name, htransport, hname⟩ : ∃ name, transport a.tls = 't'.toUInt8 :: name ∧
        ':'.toUInt8 ∉ name := by
      cases a.tls
      · exact ⟨ofString "cp", by decide, by decide⟩
      · exact ⟨ofString "ls", by decide, by decide⟩
    rw [hdigits, htransport] at hrest
    obtain ⟨u1, hu1, h1⟩ := hpiece hcolon.1 hcolon.2 hrest (hletter _ (by decide) _)
    obtain ⟨u2, hu2, h2⟩ := hpiece (by decide) hname h1 (hletter _ (by decide) _)
    obtain ⟨u3, hu3, h3⟩ := hpiece (by decide) (colon_not_mem_policyText _) h2
      (hletter _ (by decide) _)
    obtain ⟨u4, hu4, h4⟩ := hpiece (by decide) (colon_not_mem_decimal _) h3
      (hletter _ (by decide) _)
    obtain ⟨u5, hu5, h5⟩ := hpiece (by decide) (colon_not_mem_decimal _) h4
      (hletter _ (by decide) _)
    cases u5 with
    | nil =>
      rw [List.nil_append, List.cons.injEq] at h5
      exact absurd h5.1 (by decide)
    | cons r w =>
      rw [List.cons_append, List.cons.injEq] at h5
      refine ⟨w, ?_, h5.2⟩
      rw [keyFields_eq, hdigits, htransport, ← hl, hu1, hu2, hu3, hu4, hu5, ← h5.1]

end Fields

/-- The host of one request goes on with the fields of the other's key, and the address of
the other ends with its own. -/
def Continues (a b : TcpChannelConfig) : Prop :=
  ∃ w, b.host = a.host ++ keyFields a ++ w ∧ a.resolvedIp = w ++ keyFields b ++ b.resolvedIp

section Keys

variable {a b : TcpChannelConfig}

/-- Related requests have the same key. -/
theorem Continues.poolKey_eq (h : Continues a b) : poolKey a = poolKey b := by
  obtain ⟨w, hhost, haddress⟩ := h
  rw [poolKey, poolKey, hhost, haddress]
  simp only [List.append_assoc]

/-- Related requests differ. -/
theorem Continues.ne (h : Continues a b) : a ≠ b := by
  rintro rfl
  obtain ⟨w, hhost, -⟩ := h
  have hlen := congrArg List.length hhost
  have hpos : 0 < (keyFields a).length := by
    have h := congrArg List.length (keyFields_eq a [])
    rw [List.append_nil, List.length_cons] at h
    omega
  rw [List.length_append, List.length_append] at hlen
  omega

/-- Requests with the same key, the host of one of which begins with the other's, are equal
or related. -/
theorem eq_or_continues {u : List UInt8} (hhost : b.host = a.host ++ u)
    (hkey : poolKey a = poolKey b) : a = b ∨ Continues a b := by
  have hrest : keyFields a ++ a.resolvedIp = u ++ (keyFields b ++ b.resolvedIp) := by
    rw [poolKey, poolKey, hhost, List.append_assoc, List.append_assoc, List.append_assoc] at hkey
    exact List.append_cancel_left hkey
  obtain ⟨d, digits, hdigits⟩ := List.exists_cons_of_ne_nil (decimal_ne_nil b.port.toNat)
  have hd : IsDigit d := by
    refine isDigit_of_mem_decimal (n := b.port.toNat) ?_
    rw [hdigits]
    exact List.mem_cons_self
  obtain ⟨y, hy⟩ : ∃ y, keyFields b ++ b.resolvedIp = ':'.toUInt8 :: d :: y := by
    rw [keyFields_eq, hdigits]
    exact ⟨_, rfl⟩
  rw [hy] at hrest
  rcases behind_keyFields hd hrest with rfl | ⟨w, rfl, haddress⟩
  · rw [List.nil_append, ← hy] at hrest
    obtain ⟨⟨hport, htls, hpolicy, hindex, hhandle⟩, haddress⟩ := keyFields_injective hrest
    rw [List.append_nil] at hhost
    left
    cases a
    cases b
    simp_all
  · refine Or.inr ⟨w, by rw [hhost, List.append_assoc], ?_⟩
    rw [haddress, ← hy, List.append_assoc]

/-- Requests have the same key exactly when they are equal or related. -/
theorem poolKey_eq_iff : poolKey a = poolKey b ↔ a = b ∨ Continues a b ∨ Continues b a := by
  constructor
  · intro hkey
    have hsplit := hkey
    rw [poolKey, poolKey, List.append_assoc, List.append_assoc] at hsplit
    rcases List.append_eq_append_iff.mp hsplit with ⟨u, hhost, -⟩ | ⟨u, hhost, -⟩
    · rcases eq_or_continues hhost hkey with h | h
      · exact Or.inl h
      · exact Or.inr (Or.inl h)
    · rcases eq_or_continues hhost hkey.symm with h | h
      · exact Or.inl h.symm
      · exact Or.inr (Or.inr h)
  · rintro (rfl | h | h)
    · rfl
    · exact h.poolKey_eq
    · exact h.poolKey_eq.symm

end Keys

/-- `inet_pton` for the two address families: whether a text is an address of the family. -/
structure InetPton where
  /-- `AF_INET`. -/
  v4 : List UInt8 → Bool
  /-- `AF_INET6`. -/
  v6 : List UInt8 → Bool

/-- What `c_str` shows of a string: its bytes up to the first one that is 0. -/
def cStr (text : List UInt8) : List UInt8 := text.takeWhile (· ≠ 0)

/-- `ParseIpLiteral`, as far as its result goes. -/
def parseIpLiteral (inetPton : InetPton) (ip : List UInt8) : Bool :=
  if ip = [] then false else inetPton.v4 (cStr ip) || inetPton.v6 (cStr ip)

/-- The checks that `TcpChannel::Open` makes on a configuration. -/
def openAccepts (inetPton : InetPton) (cfg : TcpChannelConfig) : Bool :=
  if cfg.host = [] ∨ cfg.port = 0 then false
  else cfg.resolvedIp = [] || parseIpLiteral inetPton cfg.resolvedIp

/-- An `HttpConnection` that has its channel. -/
structure PoolConnection where
  /-- `cfg_`, of which `pool_key_` is the key. -/
  cfg : TcpChannelConfig
  /-- The configuration of the request that opened its channel. -/
  opener : TcpChannelConfig

/-- The connections of a connector and the channels it keeps. A channel in the pool is
known by the configuration of the request that opened it. -/
structure ChannelPool where
  /-- `idle`: the channels of a key, the one that was returned last at the end. -/
  idle : List UInt8 → List TcpChannelConfig
  /-- The connections. -/
  conns : List PoolConnection
  /-- `max_idle_per_key`. -/
  maxIdlePerKey : ℕ

namespace ChannelPool

/-- A connector whose pool is empty. -/
def create (maxIdlePerKey : ℕ) : ChannelPool where
  idle := fun _ => []
  conns := []
  maxIdlePerKey := maxIdlePerKey

/-- The channel `_TakeFromPool` finds. -/
def takeFromPool (s : ChannelPool) (key : List UInt8) : Option TcpChannelConfig :=
  (s.idle key).getLast?

/-- What can happen to the channels of a connector. Where a channel is opened, it is given
whether the rest of `Open` succeeds: an interface is found and the event queue created. -/
inductive Event where
  /-- `HttpConnector::Request`. -/
  | request (cfg : TcpChannelConfig) (opened : Bool)
  /-- The channel a connection has taken over cannot be used, and it opens one itself. -/
  | adoptFailed (i : ℕ) (opened : Bool)
  /-- `_FinishAndReturnChannelToPool`. -/
  | finish (i : ℕ)
  /-- A connection ends with its channel. -/
  | drop (i : ℕ)
  /-- A channel in the pool is closed. -/
  | expire (key : List UInt8) (i : ℕ)

variable (inetPton : InetPton)

/-- `Request` takes a channel of its key, or opens one. -/
def request (s : ChannelPool) (cfg : TcpChannelConfig) (opened : Bool) : ChannelPool :=
  match s.takeFromPool (poolKey cfg) with
  | some opener =>
    { s with
      idle := Function.update s.idle (poolKey cfg) (s.idle (poolKey cfg)).dropLast
      conns := s.conns ++ [⟨cfg, opener⟩] }
  | none =>
    if openAccepts inetPton cfg && opened then { s with conns := s.conns ++ [⟨cfg, cfg⟩] } else s

/-- `OnChannelAdoptFailed`: the connection goes on with a channel of its own, or ends. -/
def adoptFailed (s : ChannelPool) (conn : PoolConnection) (i : ℕ) (opened : Bool) : ChannelPool :=
  if openAccepts inetPton conn.cfg && opened then
    { s with conns := s.conns.set i ⟨conn.cfg, conn.cfg⟩ }
  else { s with conns := s.conns.eraseIdx i }

/-- A connection returns its channel, unless there are enough of its key. -/
def finish (s : ChannelPool) (conn : PoolConnection) (i : ℕ) : ChannelPool :=
  { s with
    idle :=
      if (s.idle (poolKey conn.cfg)).length < s.maxIdlePerKey then
        Function.update s.idle (poolKey conn.cfg) (s.idle (poolKey conn.cfg) ++ [conn.opener])
      else s.idle
    conns := s.conns.eraseIdx i }

/-- One event. -/
def step (s : ChannelPool) : Event → ChannelPool
  | .request cfg opened => s.request inetPton cfg opened
  | .adoptFailed i opened =>
    match s.conns[i]? with
    | some conn => s.adoptFailed inetPton conn i opened
    | none => s
  | .finish i =>
    match s.conns[i]? with
    | some conn => s.finish conn i
    | none => s
  | .drop i => { s with conns := s.conns.eraseIdx i }
  | .expire key i =>
    { s with idle := Function.update s.idle key ((s.idle key).eraseIdx i) }

/-- The channel was opened with this key. -/
def OpenedFor (key : List UInt8) (opener : TcpChannelConfig) : Prop :=
  poolKey opener = key ∧ openAccepts inetPton opener = true

/-- Every channel was opened by a request with the key it is kept and used under. -/
structure Keyed (s : ChannelPool) : Prop where
  /-- The channels in the pool. -/
  idle : ∀ key, ∀ opener ∈ s.idle key, OpenedFor inetPton key opener
  /-- The channels of connections. -/
  conns : ∀ conn ∈ s.conns, OpenedFor inetPton (poolKey conn.cfg) conn.opener

variable {s : ChannelPool} {inetPton}

/-- A channel under a key was there before, or is among the new ones of that key. -/
theorem mem_update {idle : List UInt8 → List TcpChannelConfig} {key other : List UInt8}
    {new : List TcpChannelConfig} {opener : TcpChannelConfig}
    (h : opener ∈ Function.update idle key new other) :
    (other = key ∧ opener ∈ new) ∨ opener ∈ idle other := by
  by_cases hkey : other = key
  · subst hkey
    rw [Function.update_self] at h
    exact Or.inl ⟨rfl, h⟩
  · rw [Function.update_of_ne hkey] at h
    exact Or.inr h

/-- A connection whose channel was opened with its key joins. -/
theorem Keyed.join (h : s.Keyed inetPton) {conn : PoolConnection}
    (hconn : OpenedFor inetPton (poolKey conn.cfg) conn.opener) :
    ∀ c ∈ s.conns ++ [conn], OpenedFor inetPton (poolKey c.cfg) c.opener := by
  intro c hc
  rcases List.mem_append.mp hc with hold | hnew
  · exact h.conns c hold
  · rw [List.mem_singleton.mp hnew]
    exact hconn

/-- A connection leaves. -/
theorem Keyed.leave (h : s.Keyed inetPton) (i : ℕ) :
    ∀ c ∈ s.conns.eraseIdx i, OpenedFor inetPton (poolKey c.cfg) c.opener :=
  fun c hc => h.conns c (List.mem_of_mem_eraseIdx hc)

/-- Every event keeps channels under the keys of their openers. -/
theorem Keyed.step (h : s.Keyed inetPton) (e : Event) : (s.step inetPton e).Keyed inetPton := by
  cases e with
  | request cfg opened =>
    change (s.request inetPton cfg opened).Keyed inetPton
    unfold request
    split
    · rename_i opener htake
      refine ⟨fun key other hother => ?_, h.join (h.idle _ opener (List.mem_of_getLast? htake))⟩
      rcases mem_update hother with ⟨rfl, hrest⟩ | hold
      · exact h.idle _ other (List.mem_of_mem_dropLast hrest)
      · exact h.idle key other hold
    · split
      · rename_i haccepts
        rw [Bool.and_eq_true] at haccepts
        exact ⟨h.idle, h.join ⟨rfl, haccepts.1⟩⟩
      · exact h
  | adoptFailed i opened =>
    change Keyed inetPton (match s.conns[i]? with
      | some conn => s.adoptFailed inetPton conn i opened
      | none => s)
    split
    · rename_i conn _
      unfold adoptFailed
      split
      · rename_i haccepts
        rw [Bool.and_eq_true] at haccepts
        refine ⟨h.idle, fun c hc => ?_⟩
        rcases List.mem_or_eq_of_mem_set hc with hold | rfl
        · exact h.conns c hold
        · exact ⟨rfl, haccepts.1⟩
      · exact ⟨h.idle, h.leave i⟩
    · exact h
  | finish i =>
    change Keyed inetPton (match s.conns[i]? with
      | some conn => s.finish conn i
      | none => s)
    split
    · rename_i conn hconn
      refine ⟨fun key other hother => ?_, h.leave i⟩
      simp only [finish] at hother
      split at hother
      · rcases mem_update hother with ⟨rfl, hmem⟩ | hold
        · rcases List.mem_append.mp hmem with hold | hnew
          · exact h.idle _ other hold
          · rw [List.mem_singleton.mp hnew]
            exact h.conns conn (List.mem_of_getElem? hconn)
        · exact h.idle key other hold
      · exact h.idle key other hother
    · exact h
  | drop i => exact ⟨h.idle, h.leave i⟩
  | expire key i =>
    refine ⟨fun other opener hopener => ?_, h.conns⟩
    rcases mem_update hopener with ⟨rfl, hmem⟩ | hold
    · exact h.idle _ opener (List.mem_of_mem_eraseIdx hmem)
    · exact h.idle other opener hold

/-- In every run a channel is kept under the key of the request that opened it. -/
theorem keyed_run (maxIdlePerKey : ℕ) (events : List Event) :
    (Runs.run (ChannelPool.step inetPton) (create maxIdlePerKey) events).Keyed inetPton :=
  Runs.invariant (I := Keyed inetPton) (fun _ e h => h.step e)
    ⟨by simp [create], by simp [create]⟩ events

end ChannelPool

/-- Whenever the second request is given a channel that the first one opened, in any run of
a connector, host, port, `tls`, policy, interface, network and address are the same. -/
def GetsOwnChannel (inetPton : InetPton) (a b : TcpChannelConfig) : Prop :=
  ∀ maxIdlePerKey events,
    (Runs.run (ChannelPool.step inetPton) (.create maxIdlePerKey) events).takeFromPool
      (poolKey b) = some a → a = b

/-- A request gets only channels to its own host exactly when the request that might have opened
another one is refused by `Open`, or the two are not related. -/
theorem getsOwnChannel_iff (inetPton : InetPton) (a b : TcpChannelConfig) :
    GetsOwnChannel inetPton a b ↔
      ¬ (openAccepts inetPton a = true ∧ (Continues a b ∨ Continues b a)) := by
  constructor
  · rintro hown ⟨haccepts, hrelated⟩
    have hkey : poolKey a = poolKey b := poolKey_eq_iff.mpr (Or.inr hrelated)
    have hne : a ≠ b := by
      rcases hrelated with h | h
      · exact h.ne
      · exact h.ne.symm
    refine hne (hown 1 [.request a true, .finish 0] ?_)
    rw [← hkey]
    simp [ChannelPool.step, ChannelPool.request, ChannelPool.finish, ChannelPool.create,
      ChannelPool.takeFromPool, haccepts]
  · intro hunrelated maxIdlePerKey events htake
    obtain ⟨hkey, haccepts⟩ :=
      (ChannelPool.keyed_run maxIdlePerKey events).idle _ a
        (List.mem_of_getLast? htake)
    rcases poolKey_eq_iff.mp hkey with h | h
    · exact h
    · exact absurd ⟨haccepts, h⟩ hunrelated

/-- A request to a host in brackets that is no address. -/
def openingRequest : HttpRequest where
  method := []
  url := ofString "http://[a:80:tcp:p0:i0:n0:r]:8080/"
  headers := ∅
  body := []
  resolvedIp := ofString "192.0.2.1"

/-- A request to another host with a resolved address that is none. -/
def takingRequest : HttpRequest where
  method := []
  url := ofString "http://a/"
  headers := ∅
  body := []
  resolvedIp := ofString ":8080:tcp:p0:i0:n0:r192.0.2.1"

/-- `inet_pton`, as far as these requests need it. -/
def sampleInetPton : InetPton where
  v4 text := text = ofString "192.0.2.1"
  v6 _ := false

/-- Both requests are accepted, and the second can get the channel of the first. -/
theorem not_getsOwnChannel_takingRequest :
    ∃ p q : HttpUrlParts, parseUrl openingRequest.url = .ok p ∧
      parseUrl takingRequest.url = .ok q ∧ p.host ≠ q.host ∧
        ¬ GetsOwnChannel sampleInetPton (requestConfig openingRequest p .os 0)
          (requestConfig takingRequest q .os 0) := by
  refine ⟨⟨ofString "http", ofString "a:80:tcp:p0:i0:n0:r",
    ofString "[a:80:tcp:p0:i0:n0:r]:8080", 8080, ofString "/", false⟩,
    ⟨ofString "http", ofString "a", ofString "a", 80, ofString "/", false⟩,
    by decide +kernel, by decide +kernel, by decide, fun hown => ?_⟩
  have hsame := hown 1 [.request (requestConfig openingRequest ⟨ofString "http",
    ofString "a:80:tcp:p0:i0:n0:r", ofString "[a:80:tcp:p0:i0:n0:r]:8080", 8080, ofString "/",
    false⟩ .os 0) true, .finish 0] (by decide +kernel)
  exact absurd hsame (by decide)

end Http
