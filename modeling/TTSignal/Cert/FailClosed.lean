import TTSignal.Cert.Verify

/-!
# When certificate verification fails closed

A connection with a pin that counts is accepted only on the pin, and one whose own bundle
was parsed only on that bundle. The gap is the bundle that cannot be parsed: creation only
logs the error, so the connection falls back to the connector's certificates, or to no
verification at all.
-/

namespace Cert.SMPConnection

variable {X509 : Type*} {pem : List UInt8 → PemRead X509} {ops : X509Ops X509}
  {conn : SMPConnection X509} {certs : List (List UInt8)}

/-- The public key hash of the leaf is the configured pin. -/
def PinMatches (ops : X509Ops X509) (conn : SMPConnection X509)
    (certs : List (List UInt8)) : Prop :=
  ∃ leaf ∈ certs.head?, ∃ cert ∈ ops.d2i leaf, computeSpkiPinBase64 ops cert ≠ [] ∧
    computeSpkiPinBase64 ops cert = canonicalizeSpkiPin conn.config.spkiPin

/-- The chain verified against the certificates of the connection's own bundle. -/
def ChainVerified (pem : List UInt8 → PemRead X509) (ops : X509Ops X509)
    (conn : SMPConnection X509) (certs : List (List UInt8)) : Prop :=
  ∃ bundle leaf intermediates, bundle ≠ [] ∧
    parseCAsFromPem pem conn.config.caCertPem = .ok bundle ∧
    readChain ops certs = some (leaf :: intermediates) ∧
    ops.verifyCert (some bundle) leaf intermediates = none

/-- Acceptance is justified: verification was asked for, and the pin or the connection's
own bundle decided it. -/
def Justified (pem : List UInt8 → PemRead X509) (ops : X509Ops X509)
    (conn : SMPConnection X509) (certs : List (List UInt8)) : Prop :=
  conn.NeedVerify ∧
    (conn.PinActive ∧ PinMatches ops conn certs ∨ ChainVerified pem ops conn certs)

/-- The connection is configured to be verified by itself: with a bundle of its own, or
with a pin and no proxy. -/
def Protected (conn : SMPConnection X509) : Prop :=
  conn.config.caCertPem ≠ [] ∨ conn.PinActive

/-- A parsed bundle is the one `VerifyChain` reads again. -/
theorem parseCAsFromPem_of_parsed {text : List UInt8}
    (h : (parsePemCertBundle pem text).2 ≠ []) :
    parseCAsFromPem pem text = .ok (parsePemCertBundle pem text).2 := by
  unfold parsePemCertBundle at h ⊢
  unfold parseCAsFromPem
  by_cases htext : text = []
  · simp [htext] at h
  · simp only [htext, if_false] at h ⊢
    cases hread : pem text with
    | noBio => simp [hread] at h
    | bad error => simp [hread] at h
    | eof list =>
      by_cases hlist : list = []
      · simp [hread, hlist] at h
      · simp [hlist]

/-- No certificate is left of a bundle that could not be parsed. -/
theorem parsed_eq_nil_iff {text : List UInt8} (htext : text ≠ []) :
    (parsePemCertBundle pem text).2 = [] ↔ (parsePemCertBundle pem text).1 ≠ .success := by
  unfold parsePemCertBundle
  simp only [htext, if_false]
  cases pem text with
  | noBio => simp
  | bad error => simp
  | eof list =>
    by_cases hlist : list = []
    · simp [hlist]
    · simp [hlist]

/-- A chain that `VerifyChain` accepts without a pin verified against the bundle, and the
host name was checked. -/
theorem verifyChain_eq_ok {chain : List X509} {host : String} {text : List UInt8}
    (htext : text ≠ []) (h : verifyChain pem ops chain host ⟨text, []⟩ = .ok ()) :
    ∃ bundle leaf intermediates, chain = leaf :: intermediates ∧
      parseCAsFromPem pem text = .ok bundle ∧
      ops.verifyCert (some bundle) leaf intermediates = none ∧ host ≠ "" := by
  cases chain with
  | nil => exact absurd h (by simp [verifyChain])
  | cons leaf intermediates =>
    simp only [verifyChain, ne_eq, not_true_eq_false, if_false, trustedStore, htext] at h
    cases hparse : parseCAsFromPem pem text with
    | error error => simp [hparse] at h
    | ok bundle =>
      simp only [hparse] at h
      by_cases hadd : bundle.all ops.addCert = true
      · simp only [hadd, if_true] at h
        cases hverify : ops.verifyCert (some bundle) leaf intermediates with
        | some error => simp [hverify] at h
        | none =>
          refine ⟨bundle, leaf, intermediates, rfl, rfl, hverify, ?_⟩
          rintro rfl
          simp [hverify] at h
      · simp [hadd] at h

/-- With a pin that counts, acceptance means that the pin matches. -/
theorem pinMatches_of_ok (hpin : conn.PinActive)
    (h : conn.onConnCertVerify pem ops certs = .ok ()) : PinMatches ops conn certs := by
  cases certs with
  | nil => exact absurd h (by simp [onConnCertVerify])
  | cons leaf others =>
    simp only [onConnCertVerify, hpin, if_true] at h
    cases hread : ops.d2i leaf with
    | none => simp [hread] at h
    | some cert =>
      simp only [hread] at h
      by_cases hmatch : computeSpkiPinBase64 ops cert ≠ [] ∧
          computeSpkiPinBase64 ops cert = canonicalizeSpkiPin conn.config.spkiPin
      · exact ⟨leaf, rfl, cert, hread, hmatch⟩
      · rw [if_neg hmatch] at h
        exact absurd h (by simp)

/-- Without a pin that counts, a connection with certificates of its own is accepted only
on them. -/
theorem chainVerified_of_ok (hpin : ¬ conn.PinActive) (hroot : conn.rootCas ≠ [])
    (hparsed : conn.rootCas = (parsePemCertBundle pem conn.config.caCertPem).2)
    (h : conn.onConnCertVerify pem ops certs = .ok ()) : ChainVerified pem ops conn certs := by
  have htext : conn.config.caCertPem ≠ [] := by
    intro hnil
    rw [hnil] at hparsed
    exact hroot (hparsed.trans (by simp [parsePemCertBundle]))
  cases certs with
  | nil => exact absurd h (by simp [onConnCertVerify])
  | cons leaf others =>
    simp only [onConnCertVerify, hpin, if_false, hroot, ne_eq, not_false_eq_true, false_and,
      if_true] at h
    cases hchain : readChain ops (leaf :: others) with
    | none => simp [hchain] at h
    | some chain =>
      simp only [hchain] at h
      obtain ⟨bundle, first, intermediates, rfl, hparse, hverify, -⟩ := verifyChain_eq_ok htext h
      have hbundle := parseCAsFromPem_of_parsed (hparsed ▸ hroot)
      rw [hparse] at hbundle
      refine ⟨bundle, first, intermediates, ?_, hparse, hchain, hverify⟩
      rw [Except.ok.inj hbundle, ← hparsed]
      exact hroot

/-- Without a host name and without certificates of its own, a connection is not accepted
on the connector's certificates. -/
theorem not_ok_of_no_host (hpin : ¬ conn.PinActive) (hroot : conn.rootCas = [])
    (hconnector : conn.connector.rootCas ≠ [])
    (htext : conn.connector.config.caCertPem ≠ []) (hhost : conn.verifyHost = "") :
    conn.onConnCertVerify pem ops certs ≠ .ok () := by
  intro h
  cases certs with
  | nil => exact absurd h (by simp [onConnCertVerify])
  | cons leaf others =>
    simp only [onConnCertVerify, hpin, if_false, hroot, hconnector, and_false, ne_eq,
      not_true_eq_false] at h
    cases hchain : readChain ops (leaf :: others) with
    | none => simp [hchain] at h
    | some chain =>
      simp only [hchain] at h
      obtain ⟨-, -, -, -, -, -, hne⟩ := verifyChain_eq_ok htext h
      exact hne hhost

/-- A library that trusts one certificate for every leaf, chain and host. -/
def trusting (cert : X509) : X509Ops X509 where
  d2i _ := some cert
  spkiBase64 _ := none
  addCert _ := true
  verifyCert _ _ _ := none
  checkHost _ _ := true

/-- A library that reads no certificate. -/
def refusing : X509Ops X509 where
  d2i _ := none
  spkiBase64 _ := none
  addCert _ := false
  verifyCert _ _ _ := some ""
  checkHost _ _ := false

/-- A connection that fell back to the connector's certificates accepts what they sign. -/
theorem accepted_of_fallback {cert : X509} (hpin : ¬ conn.PinActive) (hroot : conn.rootCas = [])
    (hconnector : conn.connector.rootCas ≠ [])
    (hparsed : conn.connector.rootCas =
      (parsePemCertBundle pem conn.connector.config.caCertPem).2)
    (hhost : conn.verifyHost ≠ "") : conn.Accepted pem (trusting cert) [[]] := by
  intro _
  have htext : conn.connector.config.caCertPem ≠ [] := by
    intro hnil
    rw [hnil] at hparsed
    exact hconnector (hparsed.trans (by simp [parsePemCertBundle]))
  have hparse := parseCAsFromPem_of_parsed (hparsed ▸ hconnector)
  have hall : (parsePemCertBundle pem conn.connector.config.caCertPem).2.all
      (fun _ => true) = true := by simp
  simp only [onConnCertVerify, hpin, if_false, hroot, hconnector, and_false, ne_eq,
    not_true_eq_false, readChain, trusting, Option.map_some, List.filterMap_nil, verifyChain,
    trustedStore, htext, hparse, hall, if_true, hhost, not_false_eq_true, true_and]

/-- A connector that was created holds what its bundle was parsed to. -/
theorem connector_rootCas {config : ConnectorConfig} {connector : SMPConnector X509}
    (h : SMPConnector.create pem config = .ok connector) :
    connector.config = config ∧
      connector.rootCas = (parsePemCertBundle pem config.caCertPem).2 := by
  simp only [SMPConnector.create] at h
  split at h
  · rw [← Except.ok.inj h]
    exact ⟨rfl, rfl⟩
  · exact absurd h (by simp)

/-- A protected connection is accepted only on its pin or its own bundle, whatever the
X.509 library and the certificates, exactly if its pin counts, or its bundle was parsed,
or the connector has certificates but there is no host name to accept. -/
theorem justified_iff (pem : List UInt8 → PemRead X509) (connectorConfig : ConnectorConfig)
    (connector : SMPConnector X509)
    (hconnector : SMPConnector.create pem connectorConfig = .ok connector)
    (config : ConnectionConfig) (host : String)
    (hprotected : (create pem connector config host).Protected) :
    (∀ ops certs, (create pem connector config host).Accepted pem ops certs →
      (create pem connector config host).Justified pem ops certs) ↔
      (create pem connector config host).PinActive ∨
        (parsePemCertBundle pem config.caCertPem).1 = .success ∨
        connector.rootCas ≠ [] ∧ (create pem connector config host).verifyHost = "" := by
  obtain ⟨hconfig, hcas⟩ := connector_rootCas hconnector
  set conn := create pem connector config host with hconn
  have hparsed : conn.rootCas = (parsePemCertBundle pem conn.config.caCertPem).2 := rfl
  have hcas' : conn.connector.rootCas =
      (parsePemCertBundle pem conn.connector.config.caCertPem).2 := by
    rw [hconn]
    simp only [create]
    rw [hcas, hconfig]
  constructor
  · intro hall
    by_contra hcond
    simp only [not_or, not_and] at hcond
    obtain ⟨hpin, hparse, hhost⟩ := hcond
    have htext : config.caCertPem ≠ [] := hprotected.resolve_right hpin
    have hroot : conn.rootCas = [] := (parsed_eq_nil_iff htext).mpr hparse
    have hnot (ops : X509Ops X509) (certs : List (List UInt8)) :
        ¬ ChainVerified pem ops conn certs := by
      rintro ⟨bundle, leaf, intermediates, hbundle, hread, -, -⟩
      have hfail : (parsePemCertBundle pem config.caCertPem).2 = [] := hroot
      unfold parsePemCertBundle at hfail
      change parseCAsFromPem pem config.caCertPem = .ok bundle at hread
      unfold parseCAsFromPem at hread
      simp only [htext, if_false] at hfail hread
      cases hp : pem config.caCertPem with
      | noBio => simp [hp] at hread
      | bad error => simp [hp] at hread
      | eof list =>
        by_cases hlist : list = []
        · simp [hp, hlist] at hread
        · simp [hp, hlist] at hfail
    by_cases hcacerts : connector.rootCas = []
    · have hnone : ¬ conn.NeedVerify := by
        rintro (h | h | h)
        · exact h hroot
        · exact h hcacerts
        · exact hpin h
      exact hnone (hall refusing [] fun hneed => absurd hneed hnone).1
    · obtain ⟨cert, rest, -⟩ := List.exists_cons_of_ne_nil hcacerts
      have haccepted : conn.Accepted pem (trusting cert) [[]] :=
        accepted_of_fallback hpin hroot hcacerts hcas' (hhost hcacerts)
      obtain ⟨-, hjustified⟩ := hall (trusting cert) [[]] haccepted
      rcases hjustified with ⟨hactive, -⟩ | hverified
      · exact hpin hactive
      · exact hnot _ _ hverified
  · intro hcond ops certs haccepted
    by_cases hpin : conn.PinActive
    · have hneed : conn.NeedVerify := Or.inr (Or.inr hpin)
      exact ⟨hneed, Or.inl ⟨hpin, pinMatches_of_ok hpin (haccepted hneed)⟩⟩
    · have htext : config.caCertPem ≠ [] := hprotected.resolve_right hpin
      by_cases hroot : conn.rootCas = []
      · have hfail : (parsePemCertBundle pem config.caCertPem).1 ≠ .success :=
          (parsed_eq_nil_iff htext).mp hroot
        obtain ⟨hcacerts, hhost⟩ := (hcond.resolve_left hpin).resolve_left hfail
        have hneed : conn.NeedVerify := Or.inr (Or.inl hcacerts)
        have hconnText : conn.connector.config.caCertPem ≠ [] := by
          intro hnil
          rw [hnil] at hcas'
          exact hcacerts (hcas'.trans (by simp [parsePemCertBundle]))
        exact absurd (haccepted hneed) (not_ok_of_no_host hpin hroot hcacerts hconnText hhost)
      · have hneed : conn.NeedVerify := Or.inl hroot
        exact ⟨hneed, Or.inr (chainVerified_of_ok hpin hroot hparsed (haccepted hneed))⟩

/-- A PEM reader that reads one certificate from the text of one byte and fails on others. -/
def samplePem : List UInt8 → PemRead ℕ
  | [_] => .eof [7]
  | _ => .bad "bad base64 decode"

/-- A connection whose bundle is parsed is accepted only on it. -/
theorem justified_parsed_bundle :
    (create samplePem ⟨⟨"", []⟩, []⟩ ⟨"example", "", [45], []⟩ "").Protected ∧
      ∀ ops certs,
        (create samplePem ⟨⟨"", []⟩, []⟩ ⟨"example", "", [45], []⟩ "").Accepted samplePem ops
            certs →
          (create samplePem ⟨⟨"", []⟩, []⟩ ⟨"example", "", [45], []⟩ "").Justified samplePem ops
            certs := by
  have hprotected : (create samplePem ⟨⟨"", []⟩, []⟩ ⟨"example", "", [45], []⟩ "").Protected :=
    Or.inl (by simp [create])
  exact ⟨hprotected, (justified_iff samplePem ⟨"", []⟩ ⟨⟨"", []⟩, []⟩ rfl
    ⟨"example", "", [45], []⟩ "" hprotected).mpr (Or.inr (Or.inl rfl))⟩

/-- A connection whose bundle cannot be parsed, on a connector without certificates, is
accepted without any verification. -/
theorem accepted_unparsed_bundle :
    (create samplePem ⟨⟨"", []⟩, []⟩ ⟨"example", "", [45, 45], []⟩ "").Protected ∧
      (create samplePem ⟨⟨"", []⟩, []⟩ ⟨"example", "", [45, 45], []⟩ "").Accepted samplePem
        refusing [[48]] ∧
      ¬ (create samplePem ⟨⟨"", []⟩, []⟩ ⟨"example", "", [45, 45], []⟩ "").Justified samplePem
        refusing [[48]] := by
  have hnone : ¬ (create samplePem ⟨⟨"", []⟩, []⟩ ⟨"example", "", [45, 45], []⟩ "").NeedVerify := by
    rintro (h | h | h)
    · exact h rfl
    · exact h rfl
    · exact h.1 rfl
  exact ⟨Or.inl (by simp [create]), fun hneed => absurd hneed hnone, fun h => hnone h.1⟩

end Cert.SMPConnection
