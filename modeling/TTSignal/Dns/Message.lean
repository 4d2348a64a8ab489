import TTSignal.Reading
import TTSignal.Tcp.Channel

/-!
# DNS messages

`DnsMessage` builds queries and parses responses. A response comes from the network, so every
read of it is one that may lie outside; the functions below read through `byteAt` and
`bytesAt`, which report that. Texts are byte strings. The pointer to the data is not null, and
what a failed parse leaves in `outMinTtl`, which no caller looks at, is left out.
-/

namespace Dns

open Reading
open Tcp (SockAddr)

/-- The length and the bytes of each label, and the root. -/
def encodeName (labels : List (List UInt8)) : List UInt8 :=
  labels.flatMap (fun label => UInt8.ofNat label.length :: label) ++ [0]

/-- `BuildQuery`: the query, or nothing if the host is no domain name. -/
def buildQuery (host : List UInt8) (qtype txid : ℕ) : List UInt8 :=
  let labels := host.splitOn 0x2E
  if host = [] then []
  else if ∃ label ∈ labels, label.length = 0 ∨ 63 < label.length then []
  else if 255 < (encodeName labels).length then []
  else
    [UInt8.ofNat (txid >>> 8), UInt8.ofNat (txid &&& 0xFF), 0x01, 0x00, 0x00, 0x01, 0x00, 0x00,
      0x00, 0x00, 0x00, 0x00] ++ encodeName labels ++
      [UInt8.ofNat (qtype >>> 8), UInt8.ofNat (qtype &&& 0xFF), 0x00, 0x01]

/-- Why a response is refused. -/
inductive ParseError where
  /-- Shorter than a header. -/
  | tooShort
  /-- The QR bit is 0. -/
  | notResponse
  /-- Another transaction id. -/
  | txidMismatch
  /-- An RCODE other than 0. -/
  | rcode (rcode : UInt8)
  /-- No question to check the name with. -/
  | noQuestion
  /-- The name of the question cannot be decoded. -/
  | questionName
  /-- The question is about another name. -/
  | otherName (qname : List UInt8)
  /-- The name of a question is out of bounds or has a bad pointer. -/
  | questionSkip
  /-- A question is out of bounds. -/
  | questionBounds
  /-- The name of an answer is out of bounds or has a bad pointer. -/
  | answerSkip
  /-- The head of a record is out of bounds. -/
  | recordHead
  /-- The RDATA of a record is out of bounds. -/
  | rdataBounds
  /-- Truncated, and without an address. -/
  | truncated
  deriving DecidableEq

/-- A computation that reads a response. -/
abbrev Parse (α : Type) := Except (Stop ParseError) α

/-- `fail`. -/
def refuse {α : Type} (e : ParseError) : Parse α := .error (.refused e)

/-- `tolower` of a byte. -/
def toLower (c : UInt8) : UInt8 := if 0x41 ≤ c ∧ c ≤ 0x5A then c + 0x20 else c

/-- `_ReadU16`. -/
def readU16 (data : List UInt8) (pos : ℕ) : Parse ℕ := do
  let hi ← byteAt data pos
  let lo ← byteAt data (pos + 1)
  return hi.toNat <<< 8 ||| lo.toNat

/-- `_ReadU32`. -/
def readU32 (data : List UInt8) (pos : ℕ) : Parse ℕ := do
  let b0 ← byteAt data pos
  let b1 ← byteAt data (pos + 1)
  let b2 ← byteAt data (pos + 2)
  let b3 ← byteAt data (pos + 3)
  return b0.toNat <<< 24 ||| b1.toNat <<< 16 ||| b2.toNat <<< 8 ||| b3.toNat

/-- Where a compression pointer points to. -/
def pointerTarget (hi lo : UInt8) : ℕ := (hi &&& 0x3F).toNat <<< 8 ||| lo.toNat

/-- The loop of `_SkipName`: the length of the name, or 0. -/
def skipNameLoop (data : List UInt8) (pos consumed : ℕ) : Parse ℕ :=
  if hpos : pos < data.length then do
    let b ← byteAt data pos
    if b &&& 0xC0 = 0xC0 then
      if data.length ≤ pos + 1 then return 0
      else
        let lo ← byteAt data (pos + 1)
        if data.length ≤ pointerTarget b lo then return 0
        else if pointerTarget b lo = pos then return 0
        else return consumed + 2
    else if b &&& 0xC0 ≠ 0 then return 0
    else if b = 0 then return consumed + 1
    else if data.length < pos + 1 + b.toNat then return 0
    else skipNameLoop data (pos + 1 + b.toNat) (consumed + 1 + b.toNat)
  else return 0
termination_by data.length - pos

/-- `_SkipName`. -/
def skipName (data : List UInt8) (offset : ℕ) : Parse ℕ := skipNameLoop data offset 0

/-- `kMaxJumps`. -/
def kMaxJumps : ℕ := 32

/-- The loop of `_DecodeQuestionName`. -/
def decodeLoop (data : List UInt8) (pos jumps : ℕ) (first : Bool) (outName : List UInt8) :
    Parse (Option (List UInt8)) :=
  if hpos : data.length ≤ pos then return none
  else do
    let b ← byteAt data pos
    if b &&& 0xC0 = 0xC0 then
      if data.length ≤ pos + 1 then return none
      else
        let lo ← byteAt data (pos + 1)
        if data.length ≤ pointerTarget b lo then return none
        else if hjumps : kMaxJumps < jumps + 1 then return none
        else decodeLoop data (pointerTarget b lo) (jumps + 1) first outName
    else if b &&& 0xC0 ≠ 0 then return none
    else if b = 0 then return some outName
    else if data.length < pos + 1 + b.toNat then return none
    else
      let label ← bytesAt data (pos + 1) b.toNat
      decodeLoop data (pos + 1 + b.toNat) jumps false
        ((if first then outName else outName ++ [0x2E]) ++ label.map toLower)
termination_by (kMaxJumps + 1 - jumps, data.length - pos)

/-- `_DecodeQuestionName`: the name, if it can be decoded. -/
def decodeQuestionName (data : List UInt8) (offset : ℕ) : Parse (Option (List UInt8)) :=
  decodeLoop data offset 0 true []

/-- `_LowerNoTrailingDot`. -/
def lowerNoTrailingDot (host : List UInt8) : List UInt8 :=
  ((host.reverse.dropWhile (· = 0x2E)).reverse).map toLower

/-- The check of the first question's name. -/
def checkQuestion (data expectHost : List UInt8) (pos : ℕ) : Parse Unit := do
  match ← decodeQuestionName data pos with
  | none => refuse .questionName
  | some qname =>
    if qname ≠ lowerNoTrailingDot expectHost then refuse (.otherName qname) else return ()

/-- The loop over the questions, with the number of those that are left and whether the next
one is the first one. -/
def questions (data expectHost : List UInt8) : ℕ → Bool → ℕ → Parse ℕ
  | 0, _, pos => return pos
  | n + 1, first, pos => do
    if first ∧ expectHost ≠ [] then checkQuestion data expectHost pos
    let nameLen ← skipName data pos
    if nameLen = 0 then refuse .questionSkip
    else if data.length < pos + nameLen + 4 then refuse .questionBounds
    else questions data expectHost n false (pos + nameLen + 4)

/-- The addresses and the smallest TTL so far. -/
structure Gathered where
  /-- `outAddrs`. -/
  outAddrs : List SockAddr
  /-- `outMinTtl`. -/
  outMinTtl : ℕ
  /-- `haveTtl`. -/
  haveTtl : Bool
  deriving DecidableEq

/-- Another address. -/
def Gathered.push (g : Gathered) (ttl : ℕ) (addr : SockAddr) : Gathered where
  outAddrs := g.outAddrs ++ [addr]
  outMinTtl := if g.haveTtl = false ∨ ttl < g.outMinTtl then ttl else g.outMinTtl
  haveTtl := true

/-- What a record adds, by its type and the length of its RDATA. -/
def takeRecord (data : List UInt8) (g : Gathered) (type ttl rdlen pos : ℕ) : Parse Gathered :=
  if type = 1 ∧ rdlen = 4 then do
    let in4 ← bytesAt data pos 4
    return g.push ttl ⟨false, in4, 0⟩
  else if type = 28 ∧ rdlen = 16 then do
    let in6 ← bytesAt data pos 16
    return g.push ttl ⟨true, in6, 0⟩
  else return g

/-- The loop over the answers, with the number of those that are left. A truncated message
ends where it can be read no further. -/
def answers (data : List UInt8) (truncated : Bool) : ℕ → ℕ → Gathered → Parse Gathered
  | 0, _, g => return g
  | n + 1, start, g => do
    let nameLen ← skipName data start
    if nameLen = 0 then
      if truncated then return g else refuse .answerSkip
    else if data.length < start + nameLen + 10 then
      if truncated then return g else refuse .recordHead
    else
      let pos := start + nameLen
      let type ← readU16 data pos
      let ttl ← readU32 data (pos + 4)
      let rdlen ← readU16 data (pos + 8)
      if data.length < pos + 10 + rdlen then
        if truncated then return g else refuse .rdataBounds
      else
        let g ← takeRecord data g type ttl rdlen (pos + 10)
        answers data truncated n (pos + 10 + rdlen) g

/-- `ParseResponse` up to its results. -/
def parseMessage (data : List UInt8) (expectTxid : ℕ) (given : Gathered)
    (expectHost : List UInt8) : Parse Gathered := do
  if data.length < 12 then refuse .tooShort
  else
    let flags ← byteAt data 2
    if flags &&& 0x80 = 0 then refuse .notResponse
    else
      let gotTxid ← readU16 data 0
      if gotTxid ≠ expectTxid then refuse .txidMismatch
      else
        let flags3 ← byteAt data 3
        if flags3 &&& 0x0F ≠ 0 then refuse (.rcode (flags3 &&& 0x0F))
        else
          let qdcount ← readU16 data 4
          let ancount ← readU16 data 6
          if expectHost ≠ [] ∧ qdcount = 0 then refuse .noQuestion
          else
            let pos ← questions data expectHost qdcount true 12
            let g ← answers data (flags &&& 0x02 ≠ 0) ancount pos given
            if flags &&& 0x02 ≠ 0 ∧ g.outAddrs = [] then refuse .truncated else return g

/-- What `ParseResponse` returns and writes. -/
inductive ParseResult where
  /-- It returns true. -/
  | parsed (outAddrs : List SockAddr) (outMinTtl : ℕ)
  /-- It returns false. -/
  | failed (outAddrs : List SockAddr) (outErr : ParseError)
  deriving DecidableEq

/-- `DnsMessage::ParseResponse` with what its caller hands in; nothing is returned where it
reads outside the data. -/
def parseResponse (data : List UInt8) (expectTxid : ℕ) (outAddrs : List SockAddr)
    (outMinTtl : ℕ) (expectHost : List UInt8) : Option ParseResult :=
  match parseMessage data expectTxid ⟨outAddrs, outMinTtl, false⟩ expectHost with
  | .ok g => some (.parsed g.outAddrs g.outMinTtl)
  | .error (.refused e) => some (.failed [] e)
  | .error .outside => none

end Dns
