import Mathlib.Data.List.Basic
import Mathlib.Tactic.Common

/-!
# Certificate verification of a QUIC connection

The decision whether a server certificate is accepted is spread over three places: the
creation of the connection parses its certificate bundle, `Connect_Internal` asks the TLS
stack for verification, and `on_conn_cert_verify` checks the pin or the chain. Reading PEM
text and the X.509 library are parameters of the model.
-/

namespace Cert

/-- The result codes that appear here. -/
inductive BCResult where
  /-- `BC_R_SUCCESS`. -/
  | success
  /-- `BC_R_NOMEMORY`. -/
  | noMemory
  /-- `BC_R_INVALIDARG`. -/
  | invalidArg
  deriving DecidableEq

/-- What reading certificates from a PEM text until it stops gives. -/
inductive PemRead (X509 : Type*) where
  /-- The memory buffer could not be made. -/
  | noBio
  /-- Reading stopped at the end of the text. -/
  | eof (certs : List X509)
  /-- Reading stopped with an error that is not the end of the text. -/
  | bad (error : String)

/-- The parts of the X.509 library that verification uses. -/
structure X509Ops (X509 : Type*) where
  /-- `d2i_X509`. -/
  d2i : List UInt8 → Option X509
  /-- The base64 text of the SHA-256 hash of the public key, if it can be computed. -/
  spkiBase64 : X509 → Option (List UInt8)
  /-- `X509_STORE_add_cert` succeeds, or the certificate is already there. -/
  addCert : X509 → Bool
  /-- `X509_verify_cert` of a leaf and intermediates against a store of trusted
  certificates, or against the default paths; the error text if it fails. -/
  verifyCert : Option (List X509) → X509 → List X509 → Option String
  /-- `X509_check_host`. -/
  checkHost : X509 → String → Bool

variable {X509 : Type*} (pem : List UInt8 → PemRead X509) (ops : X509Ops X509)

/-- `parsePemCertBundle`: the result and the certificates it leaves in the vector. -/
def parsePemCertBundle (text : List UInt8) : BCResult × List X509 :=
  if text = [] then (.success, [])
  else
    match pem text with
    | .noBio => (.noMemory, [])
    | .bad _ => (.invalidArg, [])
    | .eof certs => if certs = [] then (.invalidArg, []) else (.success, certs)

/-- `TlsContext::ParseCAsFromPem`: the certificates, or the error text. -/
def parseCAsFromPem (text : List UInt8) : Except String (List X509) :=
  if text = [] then .ok []
  else
    match pem text with
    | .noBio => .error "failed to allocate BIO for caCertsPem"
    | .bad error => .error ("failed to parse caCertsPem bundle: " ++ error)
    | .eof certs =>
      if certs = [] then .error "caCertsPem did not contain a valid certificate" else .ok certs

/-- `isspace` in the C locale. -/
def isSpace (b : UInt8) : Bool := b = 32 || (9 ≤ b && b ≤ 13)

/-- The characters that `CanonicalizeSpkiPin` rewrites or drops. -/
def canonicalByte (b : UInt8) : List UInt8 :=
  if b = 45 then [43]
  else if b = 95 then [47]
  else if b = 32 then [43]
  else if b = 61 ∨ b = 13 ∨ b = 10 ∨ b = 9 then []
  else [b]

/-- The characters of `"sha256//"`. -/
def pinPrefix : List UInt8 := [115, 104, 97, 50, 53, 54, 47, 47]

/-- `TlsContext::CanonicalizeSpkiPin`. -/
def canonicalizeSpkiPin (pin : List UInt8) : List UInt8 :=
  let trimmed := ((pin.dropWhile isSpace).reverse.dropWhile isSpace).reverse
  let body := if pinPrefix.isPrefixOf trimmed then trimmed.drop pinPrefix.length else trimmed
  body.flatMap canonicalByte

/-- `TlsContext::ComputeSpkiPinBase64`; empty if the hash cannot be computed. -/
def computeSpkiPinBase64 (leaf : X509) : List UInt8 :=
  match ops.spkiBase64 leaf with
  | none => []
  | some b64 => canonicalizeSpkiPin b64

/-- `TlsConfig`, as far as `VerifyChain` reads it. -/
structure TlsConfig where
  /-- `caCertsPem`. -/
  caCertsPem : List UInt8
  /-- `spkiPin`. -/
  spkiPin : List UInt8

/-- The trusted store of `VerifyChain`: the parsed bundle, or the default paths. -/
def trustedStore (cfg : TlsConfig) : Except String (Option (List X509)) :=
  if cfg.caCertsPem = [] then .ok none
  else
    match parseCAsFromPem pem cfg.caCertsPem with
    | .error error => .error ("cert verify: failed to parse caCertsPem: " ++ error)
    | .ok cas =>
      if cas.all ops.addCert then .ok (some cas)
      else .error "cert verify: failed to add trusted CA to store"

/-- `TlsContext::VerifyChain`. -/
def verifyChain (chain : List X509) (host : String) (cfg : TlsConfig) : Except String Unit :=
  match chain with
  | [] => .error "cert verify: empty certificate chain"
  | leaf :: intermediates =>
    if cfg.spkiPin ≠ [] then
      let computed := computeSpkiPinBase64 ops leaf
      if computed ≠ [] ∧ computed = canonicalizeSpkiPin cfg.spkiPin then .ok ()
      else .error "spki pin mismatch"
    else
      match trustedStore pem ops cfg with
      | .error error => .error error
      | .ok store =>
        match ops.verifyCert store leaf intermediates with
        | some error => .error ("certificate chain validation failed: " ++ error)
        | none =>
          if host ≠ "" ∧ ops.checkHost leaf host then .ok ()
          else
            .error ("certificate hostname mismatch, expected=" ++
              (if host = "" then "(null)" else host))

/-- The configuration of an `SMPConnection`, as far as verification reads it. -/
structure ConnectionConfig where
  /-- `server_host`. -/
  serverHost : String
  /-- `proxy_host`; empty when no proxy is configured. -/
  proxyHost : String
  /-- `ca_cert_pem`. -/
  caCertPem : List UInt8
  /-- `spki_pin`. -/
  spkiPin : List UInt8

/-- The configuration of an `SMPConnector`, as far as verification reads it. -/
structure ConnectorConfig where
  /-- `server_host`. -/
  serverHost : String
  /-- `ca_cert_pem`. -/
  caCertPem : List UInt8

/-- `SMPConnector` with its parsed certificates. -/
structure SMPConnector (X509 : Type*) where
  /-- `config_`. -/
  config : ConnectorConfig
  /-- `root_cas_`. -/
  rootCas : List X509

/-- `SMPConnection` with its parsed certificates. -/
structure SMPConnection (X509 : Type*) where
  /-- `connector_`. -/
  connector : SMPConnector X509
  /-- `config_`. -/
  config : ConnectionConfig
  /-- `host_`, from the arguments of `Connect`. -/
  host : String
  /-- `root_cas_`. -/
  rootCas : List X509

/-- `SMPConnector::Create`: a bundle that cannot be parsed is an error. -/
def SMPConnector.create (config : ConnectorConfig) : Except BCResult (SMPConnector X509) :=
  let parsed := parsePemCertBundle pem config.caCertPem
  if parsed.1 = .success then .ok ⟨config, parsed.2⟩ else .error parsed.1

/-- `SMPConnection::Create`: a bundle that cannot be parsed is only logged. -/
def SMPConnection.create (connector : SMPConnector X509) (config : ConnectionConfig)
    (host : String) : SMPConnection X509 where
  connector := connector
  config := config
  host := host
  rootCas := (parsePemCertBundle pem config.caCertPem).2

namespace SMPConnection

/-- The pin counts: there is one, and no proxy stands between. -/
def PinActive (conn : SMPConnection X509) : Prop :=
  conn.config.spkiPin ≠ [] ∧ conn.config.proxyHost = ""

/-- Whether the pin counts can be tested. -/
instance (conn : SMPConnection X509) : Decidable conn.PinActive :=
  inferInstanceAs (Decidable (_ ∧ _))

/-- `Connect_Internal` sets `cert_verify_flag`. -/
def NeedVerify (conn : SMPConnection X509) : Prop :=
  conn.rootCas ≠ [] ∨ conn.connector.rootCas ≠ [] ∨ conn.PinActive

/-- The host name the certificate is checked for. -/
def verifyHost (conn : SMPConnection X509) : String :=
  if conn.config.serverHost ≠ "" then conn.config.serverHost
  else if conn.host ≠ "" then conn.host
  else conn.connector.config.serverHost

/-- The certificates of the list as `on_conn_cert_verify` reads them: the leaf must be
readable, other certificates that are not are left out. -/
def readChain : List (List UInt8) → Option (List X509)
  | [] => none
  | leaf :: others => (ops.d2i leaf).map fun cert => cert :: others.filterMap ops.d2i

/-- `on_conn_cert_verify`: accepted, or the text left in `cert_verify_error_`. -/
def onConnCertVerify (conn : SMPConnection X509) (certs : List (List UInt8)) :
    Except String Unit :=
  match certs with
  | [] => .error ""
  | leaf :: others =>
    if conn.PinActive then
      match ops.d2i leaf with
      | none => .error "spki pin: failed to parse leaf cert"
      | some cert =>
        let computed := computeSpkiPinBase64 ops cert
        if computed ≠ [] ∧ computed = canonicalizeSpkiPin conn.config.spkiPin then .ok ()
        else .error "spki pin mismatch"
    else if conn.rootCas = [] ∧ conn.connector.rootCas = [] then .ok ()
    else
      match readChain ops (leaf :: others) with
      | none => .error ""
      | some chain =>
        let bundle :=
          if conn.rootCas ≠ [] then conn.config.caCertPem
          else conn.connector.config.caCertPem
        verifyChain pem ops chain conn.verifyHost ⟨bundle, []⟩

/-- The handshake goes on: verification was not asked for, or it accepted. -/
def Accepted (conn : SMPConnection X509) (certs : List (List UInt8)) : Prop :=
  conn.NeedVerify → conn.onConnCertVerify pem ops certs = .ok ()

end SMPConnection

end Cert
