import TTSignal.Dns.Message
import Mathlib.Data.Nat.Digits.Defs
import Mathlib.Data.List.Sort

/-!
# The DNS resolver

`DnsResolver::Resolve` asks the system resolver or sends its own queries through a socket
that is pinned to an interface, and keeps answers in a cache that all calls share. The
operating system answers through arguments; the model keeps the cache and a record of every
call: what it was asked, what it did and what it returned. Times are in milliseconds.
-/

namespace Dns

open Tcp (SockAddr BCResult TTVpnPolicy TTPinResult)

/-- A text. -/
abbrev Text := List UInt8

/-- `DnsConfig`. -/
structure DnsConfig where
  /-- `policy`. -/
  policy : TTVpnPolicy
  /-- `ifIndex`. -/
  ifIndex : ℕ
  /-- `androidNetHandle`. -/
  androidNetHandle : ℕ
  /-- `servers`. -/
  servers : List Text
  /-- `serverPort`. -/
  serverPort : ℕ
  /-- `timeoutMs`. -/
  timeoutMs : ℕ
  /-- `secondAnswerGraceMs`. -/
  secondAnswerGraceMs : ℕ
  /-- `preferIpv6`. -/
  preferIpv6 : Bool
  deriving DecidableEq

/-- What the build and the C library provide. -/
structure Platform where
  /-- `inet_pton(AF_INET, ..)`. -/
  inetPton4 : Text → Option (List UInt8)
  /-- `inet_pton(AF_INET6, ..)`. -/
  inetPton6 : Text → Option (List UInt8)
  /-- `tt_vpn_policy_platform_default`. -/
  policyDefault : TTVpnPolicy
  /-- `TT_HAS_PATH_MONITOR`. -/
  hasPathMonitor : Bool
  /-- `OS_ANDROID`. -/
  osAndroid : Bool

/-- Why a server gave no address. -/
inductive ServerError where
  | notAnAddress
  | socketFailed (errno : ℤ)
  | pinFailed (result : TTPinResult) (errno : ℤ)
  | connectFailed (errno : ℤ)
  | timeout
  | socketError (revents : ℕ)
  | response (e : ParseError)
  | noAnswer
  deriving DecidableEq

/-- The texts in `errMessage`. -/
inductive DnsError where
  | illegalName (host : Text)
  | noServer
  | servers (errors : List (Text × ServerError))
  | getaddrinfo (code : ℤ)
  | noAddress
  | noInterface
  deriving DecidableEq

/-- `DnsResult`. -/
structure DnsResult where
  /-- `result`. -/
  result : BCResult
  /-- `addrs`. -/
  addrs : List SockAddr
  /-- `errMessage`, if it is not empty. -/
  errMessage : Option DnsError
  deriving DecidableEq

/-- What a call does that others can see. -/
inductive Action where
  /-- `socket` returns a descriptor. -/
  | socket (fd : ℤ)
  /-- `tt_socket_pin`. -/
  | pin (fd : ℤ) (policy : TTVpnPolicy) (ifIndex androidNetHandle : ℕ) (result : TTPinResult)
  /-- A query is sent. -/
  | send (fd : ℤ) (query : List UInt8)
  /-- A response to a query is accepted, with its addresses. -/
  | answered (fd : ℤ) (addrs : List SockAddr)
  /-- `getaddrinfo`. -/
  | getaddrinfo (host : Text)
  deriving DecidableEq

/-- The comparison in `_SortAddrs`. -/
def addrBefore (preferIpv6 : Bool) (a b : SockAddr) : Bool :=
  if a.ipv6 = b.ipv6 then false
  else if preferIpv6 then a.ipv6 && !b.ipv6
  else !a.ipv6 && b.ipv6

/-- `_SortAddrs`. -/
def sortAddrs (addrs : List SockAddr) (preferIpv6 : Bool) : List SockAddr :=
  addrs.mergeSort fun a b => !addrBefore preferIpv6 b a

/-- What `poll` and `recv` give in one turn of the receive loop. -/
inductive Poll where
  /-- Nothing, or an error. -/
  | nothing
  /-- The socket is in an error state. -/
  | error (revents : ℕ)
  /-- Nothing can be read. -/
  | notReadable
  /-- `recv` fails. -/
  | unread
  /-- A datagram. -/
  | datagram (bytes : List UInt8)
  deriving DecidableEq

/-- One turn of the receive loop. -/
structure Turn where
  /-- The clock at its beginning. -/
  now : ℕ
  /-- What is received. -/
  poll : Poll
  deriving DecidableEq

/-- What the operating system answers to the queries of one server. -/
structure ServerAnswers where
  /-- `socket`. -/
  fd : ℤ
  /-- The error of `socket`. -/
  socketErrno : ℤ
  /-- `tt_socket_pin`. -/
  pinResult : TTPinResult
  /-- Its error. -/
  pinErrno : ℤ
  /-- The error of `connect`, if it fails. -/
  connectErrno : Option ℤ
  /-- The first random transaction id. -/
  txidA : ℕ
  /-- The second random transaction id. -/
  txidAAAA : ℕ
  /-- The first query is sent. -/
  sentA : Bool
  /-- The second query is sent. -/
  sentAAAA : Bool
  /-- The clock when both have been sent. -/
  started : ℕ
  /-- The turns of the receive loop; when there are no more the time is over. -/
  turns : List Turn

/-- The variables of the receive loop. -/
structure Receiving where
  /-- `gotA`. -/
  gotA : Bool
  /-- `gotAAAA`. -/
  gotAAAA : Bool
  /-- `gathered`. -/
  gathered : List SockAddr
  /-- `minTtl`. -/
  minTtl : ℕ
  /-- `haveTtl`. -/
  haveTtl : Bool
  /-- `serverErr`. -/
  serverErr : Option ServerError
  /-- `graceDeadline`, when it is armed. -/
  graceDeadline : Option ℕ
  /-- The accepted responses. -/
  actions : List Action

section Udp

variable (host : Text) (cfg : DnsConfig)

namespace Receiving

variable (r : Receiving)

/-- A parsed response is used. -/
def use (fd : ℤ) (parsed : Option ParseResult) : Receiving :=
  match parsed with
  | some (.parsed addrs ttl) =>
    { r with
      gathered := r.gathered ++ addrs
      minTtl := if addrs ≠ [] ∧ (r.haveTtl = false ∨ ttl < r.minTtl) then ttl else r.minTtl
      haveTtl := r.haveTtl || !addrs.isEmpty
      actions := r.actions ++ [.answered fd addrs] }
  | some (.failed _ e) => { r with serverErr := some (.response e) }
  | none => r

/-- The transaction id of a datagram. -/
def headerTxid (bytes : List UInt8) : ℕ :=
  match bytes with
  | hi :: lo :: _ => hi.toNat <<< 8 ||| lo.toNat
  | _ => 0

/-- A datagram is received. -/
def onDatagram (fd : ℤ) (txidA txidAAAA : ℕ) (bytes : List UInt8) : Receiving :=
  if r.gotA = false ∧ headerTxid bytes = txidA then
    use { r with gotA := true } fd (parseResponse bytes txidA [] 0 host)
  else if r.gotAAAA = false ∧ headerTxid bytes = txidAAAA then
    use { r with gotAAAA := true } fd (parseResponse bytes txidAAAA [] 0 host)
  else r

/-- The grace for the second answer begins. -/
def arm (now : ℕ) : Receiving :=
  if r.graceDeadline = none ∧ r.gathered ≠ [] then
    { r with graceDeadline := some (now + cfg.secondAnswerGraceMs) }
  else r

/-- `effective`. -/
def effective (deadline : ℕ) : ℕ :=
  match r.graceDeadline with
  | some grace => min grace deadline
  | none => deadline

/-- The time is over. -/
def timedOut : Receiving :=
  if r.graceDeadline = none then { r with serverErr := some .timeout } else r

end Receiving

/-- The receive loop. -/
def receiveLoop (fd : ℤ) (txidA txidAAAA deadline : ℕ) : List Turn → Receiving → Receiving
  | [], r => if r.gotA ∧ r.gotAAAA then r else r.timedOut
  | turn :: turns, r =>
    if r.gotA ∧ r.gotAAAA then r
    else if (r.arm cfg turn.now).effective deadline ≤ turn.now then (r.arm cfg turn.now).timedOut
    else
      match turn.poll with
      | .nothing => (r.arm cfg turn.now).timedOut
      | .error revents => { r.arm cfg turn.now with serverErr := some (.socketError revents) }
      | .notReadable | .unread =>
        receiveLoop fd txidA txidAAAA deadline turns (r.arm cfg turn.now)
      | .datagram bytes =>
        receiveLoop fd txidA txidAAAA deadline turns
          ((r.arm cfg turn.now).onDatagram host fd txidA txidAAAA bytes)

/-- How the turn of one server ends. -/
inductive ServerOutcome where
  /-- The next server is asked. -/
  | next (e : ServerError)
  /-- No other server is asked. -/
  | stop (e : ServerError)
  /-- There are addresses. -/
  | found (addrs : List SockAddr) (ttl : Option ℕ)

/-- `pinOk`. -/
def pinOk (policy : TTVpnPolicy) (result : TTPinResult) : Bool :=
  if policy = .forcePhysical then result = .ok else result = .ok || result = .notNeeded

/-- The queries to a connected server. -/
def queryServer (a : ServerAnswers) : List Action × ServerOutcome :=
  let txidAAAA := if a.txidAAAA = a.txidA then a.txidAAAA ^^^ 1 else a.txidAAAA
  let r := receiveLoop host cfg a.fd a.txidA txidAAAA (a.started + cfg.timeoutMs) a.turns
    ⟨!a.sentA, !a.sentAAAA, [], 0, false, none, none, []⟩
  ([.send a.fd (buildQuery host 1 a.txidA), .send a.fd (buildQuery host 28 txidAAAA)] ++ r.actions,
    if r.gathered ≠ [] then
      .found (sortAddrs r.gathered cfg.preferIpv6) (if r.haveTtl then some r.minTtl else none)
    else .next (r.serverErr.getD .noAnswer))

/-- The turn of one server. -/
def askServer (p : Platform) (server : Text) (a : ServerAnswers) : List Action × ServerOutcome :=
  if p.inetPton4 server = none ∧ p.inetPton6 server = none then ([], .next .notAnAddress)
  else if a.fd < 0 then ([], .next (.socketFailed a.socketErrno))
  else
    let opened :=
      [.socket a.fd, .pin a.fd cfg.policy cfg.ifIndex cfg.androidNetHandle a.pinResult]
    if pinOk cfg.policy a.pinResult = false then
      (opened, .stop (.pinFailed a.pinResult a.pinErrno))
    else
      match a.connectErrno with
      | some errno => (opened, .next (.connectFailed errno))
      | none => (opened ++ (queryServer host cfg a).1, (queryServer host cfg a).2)

/-- What a lookup returns: the result, `outTtl` and what was done. -/
structure Lookup where
  /-- The result. -/
  result : DnsResult
  /-- `outTtl`. -/
  ttl : ℕ
  /-- What was done. -/
  actions : List Action

/-- The loop over the servers. -/
def serverLoop (p : Platform) (answers : ℕ → ServerAnswers) :
    ℕ → List Text → List (Text × ServerError) → List Action → Lookup
  | _, [], errors, actions =>
    ⟨⟨.failure, [], some (if errors = [] then .noServer else .servers errors)⟩, 60, actions⟩
  | s, server :: servers, errors, actions =>
    match askServer host cfg p server (answers s) with
    | (acts, .next e) =>
      serverLoop p answers (s + 1) servers (errors ++ [(server, e)]) (actions ++ acts)
    | (acts, .stop e) =>
      ⟨⟨.failure, [], some (.servers (errors ++ [(server, e)]))⟩, 60, actions ++ acts⟩
    | (acts, .found addrs ttl) => ⟨⟨.success, addrs, none⟩, ttl.getD 60, actions ++ acts⟩

/-- `kDefaultServers`. -/
def kDefaultServers : List Text :=
  [[0x32, 0x32, 0x33, 0x2E, 0x35, 0x2E, 0x35, 0x2E, 0x35],
   [0x38, 0x2E, 0x38, 0x2E, 0x38, 0x2E, 0x38]]

/-- `_ResolveViaUdp`. -/
def resolveViaUdp (p : Platform) (answers : ℕ → ServerAnswers) : Lookup :=
  if buildQuery host 1 0 = [] then ⟨⟨.failure, [], some (.illegalName host)⟩, 60, []⟩
  else
    serverLoop host cfg p answers 0
      (if cfg.servers = [] then kDefaultServers else cfg.servers) [] []

/-- What `getaddrinfo` gives: an error, or the entries, those of other families without an
address. -/
abbrev SystemAnswer := Except ℤ (List (Option SockAddr))

/-- `_ResolveViaSystem`. -/
def resolveViaSystem (answer : SystemAnswer) : Lookup :=
  match answer with
  | .error code => ⟨⟨.dnsFailed, [], some (.getaddrinfo code)⟩, 60, [.getaddrinfo host]⟩
  | .ok entries =>
    if entries.filterMap id = [] then
      ⟨⟨.dnsFailed, [], some .noAddress⟩, 60, [.getaddrinfo host]⟩
    else
      ⟨⟨.success, sortAddrs (entries.filterMap id) cfg.preferIpv6, none⟩, 60, [.getaddrinfo host]⟩

end Udp

/-- An entry of the cache. -/
structure CacheEntry where
  /-- `addrs`. -/
  addrs : List SockAddr
  /-- `expireAt`. -/
  expireAt : ℕ
  /-- The number of the call that stored it. -/
  storedBy : ℕ
  deriving DecidableEq

/-- `std::to_string` of an unsigned number. -/
def decimal (n : ℕ) : Text :=
  if n = 0 then [0x30] else (Nat.digits 10 n).reverse.map fun d => UInt8.ofNat (0x30 + d)

/-- `std::to_string` of a policy. -/
def policyText : TTVpnPolicy → Text
  | .unset => [0x2D, 0x31]
  | .os => [0x30]
  | .preferPhysical => [0x31]
  | .forcePhysical => [0x32]

/-- `_CacheKey`. -/
def cacheKey (host : Text) (policy : TTVpnPolicy) (ifIndex : ℕ) : Text :=
  host ++ [0x7C] ++ policyText policy ++ [0x7C] ++ decimal ifIndex

/-- `_ClampTtl`. -/
def clampTtl (ttl : ℕ) : ℕ := if ttl < 10 then 10 else if 600 < ttl then 600 else ttl

/-- Where the answer of a call comes from. -/
inductive Source where
  /-- The host is an address. -/
  | literal
  /-- There is no interface. -/
  | noInterface
  /-- An entry of the cache. -/
  | cache (entry : CacheEntry)
  /-- The call's own queries. -/
  | udp
  /-- The system resolver, by policy. -/
  | system
  /-- The system resolver, because the own queries have failed. -/
  | fallback
  deriving DecidableEq

/-- A call of `Resolve`. -/
structure CallRecord where
  /-- The host. -/
  host : Text
  /-- The configuration that it used. -/
  cfg : DnsConfig
  /-- Where the answer comes from. -/
  source : Source
  /-- The answer. -/
  result : DnsResult
  /-- `ttlSeconds`. -/
  ttl : ℕ
  /-- The clock in `_CacheLookup`. -/
  lookupAt : ℕ
  /-- The clock in `_CacheStore`. -/
  storedAt : ℕ
  /-- What was done. -/
  actions : List Action

/-- What a call is asked and what the system answers it. -/
structure Call where
  /-- The host. -/
  host : Text
  /-- The configuration that is handed in. -/
  cfg : DnsConfig
  /-- `tt_netmon_query_default_ifindex_ex`. -/
  detected : ℤ
  /-- The clock in `_CacheLookup`. -/
  lookupAt : ℕ
  /-- The clock in `_CacheStore`. -/
  storedAt : ℕ
  /-- What the servers answer. -/
  servers : ℕ → ServerAnswers
  /-- What the system resolver answers. -/
  system : SystemAnswer

/-- The cache and the calls so far. -/
structure Resolver where
  /-- `g_cache`. -/
  cache : Text → Option CacheEntry
  /-- The calls. -/
  calls : List CallRecord

/-- At the beginning. -/
def Resolver.initial : Resolver := ⟨fun _ => none, []⟩

/-- What happens. -/
inductive Event where
  /-- `Resolve`. -/
  | resolve (call : Call)
  /-- `ClearCache`. -/
  | clearCache

namespace Call

variable (p : Platform) (c : Call)

/-- The configuration with its policy. -/
def withPolicy : DnsConfig :=
  if c.cfg.policy = .unset then { c.cfg with policy := p.policyDefault } else c.cfg

/-- The configuration with its interface. -/
def effective : DnsConfig :=
  if p.hasPathMonitor ∧ (c.withPolicy p).policy ≠ .os ∧ (c.withPolicy p).ifIndex = 0 ∧
      0 < c.detected then
    { c.withPolicy p with ifIndex := c.detected.toNat % 2 ^ 32 }
  else c.withPolicy p

/-- `_TryParseLiteral`. -/
def literal : Option SockAddr :=
  match p.inetPton4 c.host with
  | some ip => some ⟨false, ip, 0⟩
  | none => (p.inetPton6 c.host).map fun ip => ⟨true, ip, 0⟩

/-- A physical interface is asked for, and there is none. -/
def LacksInterface : Prop :=
  (c.effective p).policy = .forcePhysical ∧ (c.effective p).ifIndex = 0 ∧
    ¬(p.osAndroid = true ∧ (c.effective p).androidNetHandle ≠ 0)

instance : Decidable (c.LacksInterface p) := inferInstanceAs (Decidable (_ ∧ _))

/-- The key of the call. -/
def key : Text := cacheKey c.host (c.effective p).policy (c.effective p).ifIndex

/-- The record of the call with its configuration. -/
def recorded (cfg : DnsConfig) (source : Source) (l : Lookup) : CallRecord :=
  ⟨c.host, cfg, source, l.result, l.ttl, c.lookupAt, c.storedAt, l.actions⟩

/-- The lookup without the cache. -/
def lookup : CallRecord :=
  let cfg := c.effective p
  if cfg.policy = .os then
    c.recorded cfg .system (resolveViaSystem c.host cfg c.system)
  else
    let l := resolveViaUdp c.host cfg p c.servers
    if l.result.result = .success then c.recorded cfg .udp l
    else if cfg.policy = .forcePhysical then
      c.recorded cfg .udp { l with result := { l.result with result := .dnsFailed } }
    else
      let system := resolveViaSystem c.host cfg c.system
      c.recorded cfg .fallback { system with actions := l.actions ++ system.actions }

end Call

namespace Resolver

variable (p : Platform) (s : Resolver)

/-- `_CacheLookup`. -/
def cacheLookup (key : Text) (now : ℕ) : Option CacheEntry :=
  match s.cache key with
  | none => none
  | some entry => if entry.expireAt ≤ now then none else some entry

/-- The call is over. -/
def note (r : CallRecord) : Resolver := { s with calls := s.calls ++ [r] }

/-- `_CacheStore`. -/
def cacheStore (key : Text) (r : CallRecord) : Resolver :=
  { s with
    cache := Function.update s.cache key
      (some ⟨r.result.addrs, r.storedAt + 1000 * clampTtl r.ttl, s.calls.length⟩) }

/-- The end of `Resolve`. -/
def keep (key : Text) (r : CallRecord) : Resolver :=
  if r.source ≠ .fallback ∧ r.result.result = .success ∧ r.result.addrs ≠ [] then
    (s.cacheStore key r).note r
  else s.note r

/-- The part of `Resolve` behind the test for an interface. -/
def resolveCached (c : Call) : Resolver :=
  match s.cacheLookup (c.key p) c.lookupAt with
  | some entry =>
    s.note (c.recorded (c.effective p) (.cache entry) ⟨⟨.success, entry.addrs, none⟩, 0, []⟩)
  | none =>
    -- An expired entry is erased when it is found.
    keep { s with cache := Function.update s.cache (c.key p) none } (c.key p) (c.lookup p)

/-- `DnsResolver::Resolve`. -/
def resolve (c : Call) : Resolver :=
  match c.literal p with
  | some addr =>
    s.note (c.recorded (c.withPolicy p) .literal ⟨⟨.success, [addr], none⟩, 0, []⟩)
  | none =>
    if c.LacksInterface p then
      s.note
        (c.recorded (c.effective p) .noInterface
          ⟨⟨.noPhysicalInterface, [], some .noInterface⟩, 0, []⟩)
    else s.resolveCached p c

/-- What the events do. -/
def step (s : Resolver) : Event → Resolver
  | .resolve c => s.resolve p c
  | .clearCache => { s with cache := fun _ => none }

end Resolver

end Dns
