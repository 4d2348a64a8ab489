import TTSignal.Conn.Connection
import TTSignal.Masque.Framing

/-!
# Packets through a MASQUE tunnel

The inner connection sends its packets as datagrams of the tunnel's CONNECT-UDP request and
receives the payloads of the datagrams of that request. The size that the tunnel offers to
the inner connection leaves room for the framing; where the tunnel has no datagrams it is 0.
-/

namespace Masque

/-- The fields of an `SMPConnection` that its datagrams depend on. -/
structure Tunnel where
  /-- `keep_working_`. -/
  keepWorking : Bool
  /-- `masque_role_`. -/
  masqueRole : Conn.MasqueRole
  /-- `h3_conn_`, by what `xqc_h3_ext_datagram_get_mss` returns for it. -/
  h3Mss : Option ℕ
  /-- `masque_qsid_`. -/
  masqueQsid : ℕ
  /-- `masque_inner_` is not NULL. -/
  masqueInner : Bool
  deriving DecidableEq

/-- What `MasqueSendDatagram` returns. -/
inductive SendResult where
  /-- `XQC_SOCKET_EAGAIN`. -/
  | again
  /-- `XQC_SOCKET_ERROR`. -/
  | error
  /-- The number of bytes. -/
  | sent (size : ℕ)
  deriving DecidableEq

/-- `kMasqueMssSafetyMargin`. -/
def kMasqueMssSafetyMargin : ℕ := 64

namespace Tunnel

/-- `MasqueDatagramMss`. -/
def masqueDatagramMss (t : Tunnel) : ℕ :=
  match t.h3Mss with
  | none => 0
  | some mss =>
    if t.masqueRole ≠ .tunnel then 0
    else if mss ≤ datagramOverhead t.masqueQsid + kMasqueMssSafetyMargin then 0
    else mss - datagramOverhead t.masqueQsid - kMasqueMssSafetyMargin

/-- `MasqueSendDatagram`: the result, and the datagram of the posted task. -/
def masqueSendDatagram (t : Tunnel) (buf : List UInt8) : SendResult × Option (List UInt8) :=
  if t.keepWorking = false ∨ t.masqueRole ≠ .tunnel then (.again, none)
  else
    match encodeDatagram t.masqueQsid buf with
    | none => (.error, none)
    | some wire => (.sent buf.length, some wire)

/-- `MasqueOnDatagram`: the packet posted to the inner connection. -/
def masqueOnDatagram (t : Tunnel) (data : List UInt8) : Option (List UInt8) :=
  match decodeDatagram data with
  | none => none
  | some (qsid, ctx, payload) =>
    if qsid ≠ t.masqueQsid ∨ ctx ≠ kUdpContextId ∨ payload = [] then none
    else if t.masqueInner = false then none
    else some payload

variable {t : Tunnel} {packet data : List UInt8} {mss : ℕ}

/-- What is forwarded to the inner connection. -/
theorem masqueOnDatagram_eq_some (hinner : t.masqueInner = true) :
    t.masqueOnDatagram data = some packet ↔
      decodeDatagram data = some (t.masqueQsid, kUdpContextId, packet) ∧ packet ≠ [] := by
  rw [masqueOnDatagram]
  cases hdecode : decodeDatagram data with
  | none => simp
  | some r =>
    obtain ⟨qsid, ctx, payload⟩ := r
    simp only [hinner, Bool.true_eq_false, if_false, Option.ite_none_left_eq_some, not_or,
      not_not, Option.some.injEq, Prod.mk.injEq]
    constructor
    · rintro ⟨⟨hqsid, hctx, hne⟩, rfl⟩
      exact ⟨⟨hqsid, hctx, rfl⟩, hne⟩
    · rintro ⟨⟨hqsid, hctx, rfl⟩, hne⟩
      exact ⟨⟨hqsid, hctx, hne⟩, rfl⟩

/-- A packet of the offered size fits into a datagram of the HTTP/3 connection, unless the
packet is empty and the framing alone does not fit. -/
theorem length_encode_le (hmss : t.h3Mss = some mss)
    (hsize : packet.length ≤ t.masqueDatagramMss)
    (hroom : packet ≠ [] ∨ datagramOverhead t.masqueQsid ≤ mss) :
    ∃ wire, encodeDatagram t.masqueQsid packet = some wire ∧ wire.length ≤ mss := by
  obtain ⟨wire, hwire, hlength⟩ := encodeDatagram_isSome t.masqueQsid packet
  refine ⟨wire, hwire, ?_⟩
  rw [← List.length_pos_iff] at hroom
  simp only [masqueDatagramMss, hmss] at hsize
  split at hsize
  · omega
  · split at hsize
    · omega
    · omega

/-- A packet sent into a tunnel comes out at a tunnel of the same request. -/
theorem masqueOnDatagram_masqueSendDatagram {t' : Tunnel} {r : SendResult} {wire : List UInt8}
    (hid : t.masqueQsid < 2 ^ 62) (hsame : t'.masqueQsid = t.masqueQsid)
    (hinner : t'.masqueInner = true) (hpacket : packet ≠ [])
    (hsend : t.masqueSendDatagram packet = (r, some wire)) :
    r = .sent packet.length ∧ t'.masqueOnDatagram wire = some packet := by
  obtain ⟨encoded, hencode, -, hdecode⟩ := decodeDatagram_encodeDatagram hid packet
  rw [masqueSendDatagram] at hsend
  split at hsend
  · exact absurd hsend (by simp)
  · rw [hencode] at hsend
    obtain ⟨rfl, hwire⟩ := Prod.mk.inj hsend
    obtain rfl := Option.some.inj hwire
    exact ⟨rfl, (masqueOnDatagram_eq_some hinner).mpr ⟨hsame ▸ hdecode, hpacket⟩⟩

end Tunnel

/-- For every quarter stream id below `2 ^ 62` and every payload, a datagram is encoded with
the overhead that is counted for it and decoded to the same id, context and payload; a tunnel
with an inner connection forwards exactly the non-empty payloads of the datagrams of its own
request; and every packet of the offered size, except an empty one where the framing alone
does not fit, is encoded within the datagram size of the HTTP/3 connection. -/
theorem datagrams_carry_packets :
    (∀ qsid < 2 ^ 62, ∀ payload, ∃ wire, encodeDatagram qsid payload = some wire ∧
      wire.length = datagramOverhead qsid + payload.length ∧
        decodeDatagram wire = some (qsid, kUdpContextId, payload)) ∧
      (∀ t : Tunnel, t.masqueInner = true → ∀ data packet,
        t.masqueOnDatagram data = some packet ↔
          decodeDatagram data = some (t.masqueQsid, kUdpContextId, packet) ∧ packet ≠ []) ∧
        ∀ t : Tunnel, ∀ mss, t.h3Mss = some mss → ∀ packet : List UInt8,
          packet.length ≤ t.masqueDatagramMss →
            packet ≠ [] ∨ datagramOverhead t.masqueQsid ≤ mss →
              ∃ wire, encodeDatagram t.masqueQsid packet = some wire ∧ wire.length ≤ mss := by
  refine ⟨fun qsid hid payload => ?_, fun t hinner data packet => ?_,
    fun t mss hmss packet hsize hroom => ?_⟩
  · exact decodeDatagram_encodeDatagram hid payload
  · exact Tunnel.masqueOnDatagram_eq_some hinner
  · exact Tunnel.length_encode_le hmss hsize hroom

/-- A tunnel whose request is on stream 4, with datagrams of 1400 bytes. -/
def wideTunnel : Tunnel := ⟨true, .tunnel, some 1400, 1, true⟩

/-- A packet of one byte through this tunnel. -/
theorem datagrams_carry_packets_wide :
    (∃ wire, encodeDatagram 1 [7] = some wire ∧ wire.length = datagramOverhead 1 + 1 ∧
      decodeDatagram wire = some (1, kUdpContextId, [7])) ∧
      (wideTunnel.masqueOnDatagram [1, 0, 7] = some [7] ↔
        decodeDatagram [1, 0, 7] = some (1, kUdpContextId, [7]) ∧ ([7] : List UInt8) ≠ []) ∧
        ∃ wire, encodeDatagram 1 [7] = some wire ∧ wire.length ≤ 1400 := by
  have h := datagrams_carry_packets
  refine ⟨h.1 1 (by decide) [7], h.2.1 wideTunnel rfl [1, 0, 7] [7], ?_⟩
  exact h.2.2 wideTunnel 1400 rfl [7] (by decide) (Or.inl (by decide))

/-- A tunnel whose peer takes no datagrams. -/
def narrowTunnel : Tunnel := ⟨true, .tunnel, some 0, 1, true⟩

/-- The empty packet has the offered size of 0 bytes, and its encoding does not fit. -/
theorem empty_packet_does_not_fit :
    ([] : List UInt8).length ≤ narrowTunnel.masqueDatagramMss ∧
      narrowTunnel.h3Mss = some 0 ∧
        ∀ wire, encodeDatagram narrowTunnel.masqueQsid [] = some wire → ¬ wire.length ≤ 0 := by
  refine ⟨by decide, rfl, fun wire hwire => ?_⟩
  obtain rfl : [1, 0] = wire := Option.some.inj hwire
  decide

end Masque
