import OsfmEdm.Agent.Tls
import OsfmEdm.Library.Base64
import OsfmEdm.Library.Utf8Lossy

/-!
The console's TLS set-up (`osfm-edm-console/src/main.rs`, `Api::new` in `api.rs`), and what a
fingerprint pins in the agent and in the console.
-/

namespace OsfmEdm

open JsonText

structure TlsOpts where
  caPem : Option (List UInt8)
  insecure : Bool

/-- The file and the unverified download that `resolve_tls` may read. -/
structure TlsSources where
  read : String → Except String (List UInt8)
  download : String → Except String (List UInt8)

def trimEndMatches (text : String) (char : Char) : String :=
  String.ofList (text.toList.reverse.dropWhile (· = char)).reverse

def isHttps (url : String) : Bool := "https://".toList.isPrefixOf url.toList

namespace TlsCrates

variable (crates : TlsCrates)

def fingerprintDer (pem : List UInt8) : Option String :=
  (crates.firstCert pem).map crates.sha256Hex

def checkDownload (pem : List UInt8) (fingerprint : String) : Except String TlsOpts :=
  match crates.fingerprintDer (Utf8Lossy.lossy pem) with
  | none => .error "CA PEM had no cert"
  | some got =>
      if got = normalizeFingerprint fingerprint then .ok { caPem := some pem, insecure := false }
      else .error ("CA fingerprint mismatch (got " ++ got ++ ")")

def resolveTls (sources : TlsSources) (url : String) (caPath fingerprint : Option String)
    (insecure : Bool) : Except String TlsOpts :=
  if insecure then .ok { caPem := none, insecure := true }
  else
    match caPath with
    | some path => (sources.read path).map fun pem => { caPem := some pem, insecure := false }
    | none =>
        if isHttps url then
          match fingerprint with
          | none =>
              .error "HTTPS requires --ca, --ca-fingerprint (from the server log), or --insecure"
          | some fingerprint =>
              match sources.download (trimEndMatches url '/' ++ "/ca.crt") with
              | .error error => .error error
              | .ok pem => crates.checkDownload pem fingerprint
        else .ok { caPem := none, insecure := false }

end TlsCrates

/-- The HTTP client of an `Api`: the roots it trusts beside the built-in ones. -/
structure ApiClient where
  anyCertificate : Bool
  roots : List Der

def TlsCrates.newApi (crates : TlsCrates) (tls : TlsOpts) : Except String ApiClient :=
  if tls.insecure then .ok { anyCertificate := true, roots := [] }
  else
    match tls.caPem with
    | some pem => (crates.clientRoots pem).map fun roots => { anyCertificate := false, roots }
    | none => .ok { anyCertificate := false, roots := [] }

namespace TlsCrates

variable {crates : TlsCrates} {expected : String}

theorem checkDownload_ok {pem : List UInt8} {tls : TlsOpts}
    (accepted : crates.checkDownload pem expected = .ok tls) :
    tls = { caPem := some pem, insecure := false } ∧
      ∃ der, crates.firstCert (Utf8Lossy.lossy pem) = some der ∧
        crates.sha256Hex der = normalizeFingerprint expected := by
  unfold checkDownload fingerprintDer at accepted
  cases first : crates.firstCert (Utf8Lossy.lossy pem) with
  | none => simp [first] at accepted
  | some der =>
      simp only [first, Option.map_some] at accepted
      split at accepted
      next same =>
        cases accepted
        exact ⟨rfl, der, rfl, same⟩
      next => cases accepted

/-- An accepted download, and the client that is built with it. -/
theorem resolveTls_ok {sources : TlsSources} {url : String} {tls : TlsOpts}
    (https : isHttps url = true)
    (resolved : crates.resolveTls sources url none (some expected) false = .ok tls) :
    ∃ pem, sources.download (trimEndMatches url '/' ++ "/ca.crt") = .ok pem ∧
      crates.checkDownload pem expected = .ok tls := by
  simp only [resolveTls, https, if_true, Bool.false_eq_true, if_false] at resolved
  split at resolved
  · cases resolved
  · exact ⟨_, ‹_›, resolved⟩

theorem download_pinned_iff (collisionFree : Function.Injective crates.sha256Hex)
    (trustsAll : crates.TrustsAll) {pem : List UInt8} {tls : TlsOpts}
    (accepted : crates.checkDownload pem expected = .ok tls) :
    crates.Pinned expected ((crates.newApi tls).map ApiClient.roots) ↔
      (∃ error, crates.clientRoots pem = .error error) ∨
        crates.OneCert (Utf8Lossy.lossy pem) pem := by
  obtain ⟨rfl, first, isFirst, same⟩ := checkDownload_ok accepted
  have client : (crates.newApi { caPem := some pem, insecure := false }).map ApiClient.roots =
      crates.clientRoots pem := by
    simp only [newApi, Bool.false_eq_true, if_false]
    cases crates.clientRoots pem <;> rfl
  rw [client]
  exact pinned_iff collisionFree isFirst same fun ders roots der => trustsAll pem ders roots der

end TlsCrates

/-- The fingerprint pins all roots of a text just when the text is refused as a whole or brings no
certificate but the one that was checked. -/
theorem pinning_sound_iff {crates : TlsCrates}
    (collisionFree : Function.Injective crates.sha256Hex) (trustsAll : crates.TrustsAll) :
    (∀ pem expected, crates.fingerprintsMatch pem expected = true →
      (crates.Pinned expected (crates.rustlsConfigFromCaPem pem) ↔
        crates.Unusable (utf8 pem.toList) ∨
          crates.OneCert (utf8 pem.toList) (utf8 pem.toList)) ∧
      ∀ opts, opts.caFingerprint = some expected →
        (crates.Pinned expected (crates.enrolledRoots opts pem) ↔
          crates.Unusable (utf8 pem.toList) ∨
            crates.OneCert (utf8 pem.toList) (utf8 pem.toList))) ∧
    ∀ sources url expected tls, isHttps url = true →
      crates.resolveTls sources url none (some expected) false = .ok tls →
        ∃ pem, sources.download (trimEndMatches url '/' ++ "/ca.crt") = .ok pem ∧
          tls = { caPem := some pem, insecure := false } ∧
          (crates.Pinned expected ((crates.newApi tls).map ApiClient.roots) ↔
            (∃ error, crates.clientRoots pem = .error error) ∨
              crates.OneCert (Utf8Lossy.lossy pem) pem) := by
  constructor
  · intro pem expected accepted
    have config := TlsCrates.config_pinned_iff collisionFree accepted
    refine ⟨config, fun opts wanted => ?_⟩
    rw [TlsCrates.enrolledRoots_matching wanted accepted]
    exact config
  · intro sources url expected tls https resolved
    obtain ⟨pem, downloaded, accepted⟩ := TlsCrates.resolveTls_ok https resolved
    exact ⟨pem, downloaded, (TlsCrates.checkDownload_ok accepted).1,
      TlsCrates.download_pinned_iff collisionFree trustsAll accepted⟩

/-! ## A certificate that follows the pinned one -/

def pemBlock (lines : List String) : List Char :=
  "-----BEGIN CERTIFICATE-----\n".toList ++ lines.flatMap (·.toList ++ ['\n']) ++
    "-----END CERTIFICATE-----\n".toList

/-- A line holds whole groups of four characters. -/
def derOf (lines : List String) : Der :=
  lines.flatMap fun line => (Base64.decode line.toList).getD []

def pinnedCert : List String :=
  ["MIIBLjCB4aADAgECAhQPCYc4dSz24jB5KYVgEiB6ZomPKzAFBgMrZXAwDDEKMAgG",
   "A1UEAwwBYTAgFw0yNjExMTkwNDIyMDhaGA8yMTI2MTAyNjA0MjIwOFowDDEKMAgG",
   "A1UEAwwBYTAqMAUGAytlcAMhAP6LYsGtwGNSzpGpylUTKjTcabO1nE1PjaWZotVT",
   "2QZ/o1MwUTAdBgNVHQ4EFgQUZfsZxUPuGsRKiEjuWoIa6XiqZbgwHwYDVR0jBBgw",
   "FoAUZfsZxUPuGsRKiEjuWoIa6XiqZbgwDwYDVR0TAQH/BAUwAwEB/zAFBgMrZXAD",
   "QQAMCbAaGFcGoY4mPdOLBR5nO8oIOyWjjwSJWhObupzdo0qCK2gjK0sjZUy9nkIr",
   "JKU0id4K8OVlwaGN0Cp9JrAM"]

def otherCert : List String :=
  ["MIIBLjCB4aADAgECAhQ/YQO9jS+7Tqc2V88bPLjvtLE4xTAFBgMrZXAwDDEKMAgG",
   "A1UEAwwBYjAgFw0yNjExMTkwNDIyMDhaGA8yMTI2MTAyNjA0MjIwOFowDDEKMAgG",
   "A1UEAwwBYjAqMAUGAytlcAMhAH5QJ+16vDcHMxOAOWM466qFhRkk4u7CJK0fIAZl",
   "UDvEo1MwUTAdBgNVHQ4EFgQUXoSM0SyMvko5JkkwHY8Qk7IYfwwwHwYDVR0jBBgw",
   "FoAUXoSM0SyMvko5JkkwHY8Qk7IYfwwwDwYDVR0TAQH/BAUwAwEB/zAFBgMrZXAD",
   "QQC92ChiQoBLJGcn4cTlaGXBeV47qSoLbRV0SVMjUXQj08DVA2Mi4Px8qvXAWl++",
   "HvQa7J1ZBwjvcugcI5HzH7YE"]

def pinnedFingerprint : String :=
  "7a7da6c568959218c546c79091dbd80826df42f47698bba0fee1f6c31db34ffd"

def otherFingerprint : String :=
  "f7129c245469b5cfff5d5be86f85c56a6b2873faa6642890440b4ec0c1ea8d62"

def onePem : String := String.ofList (pemBlock pinnedCert)

def twoPem : String := String.ofList (pemBlock pinnedCert ++ pemBlock otherCert)

theorem ders_differ : derOf pinnedCert ≠ derOf otherCert := by
  intro same
  have start := congrArg (List.take 24) same
  revert start
  decide +kernel

theorem texts_differ : utf8 twoPem.toList ≠ utf8 onePem.toList := by
  intro same
  have long := congrArg List.length same
  simp only [onePem, twoPem, String.toList_ofList, utf8, List.flatMap_append, List.length_append]
    at long
  have feed : '\n' ∈ pemBlock otherCert := List.mem_append_right _ (by decide +kernel)
  have block : 0 < ((pemBlock otherCert).flatMap String.utf8EncodeChar).length :=
    List.length_pos_of_mem (List.mem_flatMap.mpr ⟨'\n', feed, List.mem_singleton.mpr rfl⟩)
  omega

section Sample

variable (one two : List UInt8) (first second : Der)

def sampleCerts (bytes : List UInt8) : List Der :=
  if bytes = one then [first] else if bytes = two then [first, second] else []

/-- The digest of a certificate that is not in the sample shows its bytes. -/
def shownBytes (der : Der) : String :=
  String.ofList ('.' :: der.map fun byte => Char.ofNat byte.toNat)

def sampleDigest (der : Der) : String :=
  if der = first then pinnedFingerprint
  else if der = second then otherFingerprint
  else shownBytes der

/-- The crates on a text with one certificate and on one with two. -/
def sampleTls : TlsCrates where
  certs bytes := (sampleCerts one two first second bytes).map .ok
  addRoot _ := .ok ()
  sha256Hex := sampleDigest first second
  clientRoots bytes := .ok (sampleCerts one two first second bytes)

variable {one two first second}

theorem shownBytes_injective : Function.Injective shownBytes := by
  intro der other same
  have bytes := String.ofList_injective same
  rw [List.cons.injEq] at bytes
  refine List.map_injective_iff.mpr ?_ bytes.2
  have code : ∀ byte : UInt8, (Char.ofNat byte.toNat).toNat = byte.toNat := by
    intro byte
    have small := byte.toNat_lt
    unfold Char.ofNat
    rw [dif_pos (.inl (by omega))]
    rfl
  intro byte byte' equal
  have value := congrArg Char.toNat equal
  exact UInt8.toNat_inj.mp ((code byte).symm.trans (value.trans (code byte')))

theorem shownBytes_ne (der : Der) :
    shownBytes der ≠ pinnedFingerprint ∧ shownBytes der ≠ otherFingerprint := by
  constructor <;> intro same
  · have start := congrArg (fun text => text.toList.head?) same
    simp [shownBytes, pinnedFingerprint] at start
  · have start := congrArg (fun text => text.toList.head?) same
    simp [shownBytes, otherFingerprint] at start

theorem sampleDigest_injective : Function.Injective (sampleDigest first second) := by
  intro der other same
  have differ : pinnedFingerprint ≠ otherFingerprint := by decide
  have shown := shownBytes_ne
  have injective := @shownBytes_injective der other
  grind [sampleDigest]

theorem sample_trustsAll : (sampleTls one two first second).TrustsAll := by
  intro pem roots trusted der
  cases trusted
  simp [sampleTls]

abbrev twoCertCrates : TlsCrates :=
  sampleTls (utf8 onePem.toList) (utf8 twoPem.toList) (derOf pinnedCert) (derOf otherCert)

theorem sample_firstCert {bytes : List UInt8} {rest : List Der}
    (certs : sampleCerts one two first second bytes = first :: rest) :
    (sampleTls one two first second).firstCert bytes = some first := by
  simp only [TlsCrates.firstCert, sampleTls, certs, List.map_cons]
  rfl

theorem sample_matches {pem : String} {rest : List Der}
    (certs : sampleCerts one two first second (utf8 pem.toList) = first :: rest) :
    (sampleTls one two first second).fingerprintsMatch pem pinnedFingerprint = true := by
  refine TlsCrates.fingerprintsMatch_iff.mpr ⟨first, sample_firstCert certs, ?_⟩
  have plain : normalizeFingerprint pinnedFingerprint = pinnedFingerprint := by decide +kernel
  rw [plain]
  exact if_pos rfl

theorem sample_oneCert {bytes : List UInt8}
    (certs : sampleCerts one two first second bytes = [first]) :
    (sampleTls one two first second).OneCert bytes bytes := by
  intro der member
  rw [sample_firstCert certs]
  simp only [sampleTls, certs, List.map_cons, List.map_nil, List.mem_singleton,
    Except.ok.injEq] at member
  rw [member]

theorem sample_config {pem : String} {rest : List Der}
    (certs : sampleCerts one two first second (utf8 pem.toList) = first :: rest) :
    (sampleTls one two first second).rustlsConfigFromCaPem pem = .ok (first :: rest) := by
  refine TlsCrates.rustlsConfig_ok.mpr ⟨by simp only [sampleTls, certs], ?_,
    by simp⟩
  rintro root - error ⟨⟩

theorem sample_otherDigest (differ : first ≠ second) :
    (sampleTls one two first second).sha256Hex second = otherFingerprint := by
  simp [sampleTls, sampleDigest, differ.symm]

end Sample

/-- A pinned certificate alone. -/
theorem pinning_sound_one : twoCertCrates.Pinned pinnedFingerprint
    (twoCertCrates.rustlsConfigFromCaPem onePem) := by
  have certs : sampleCerts (utf8 onePem.toList) (utf8 twoPem.toList) (derOf pinnedCert)
      (derOf otherCert) (utf8 onePem.toList) = [derOf pinnedCert] := by
    rw [sampleCerts]
    exact if_pos rfl
  have condition := ((pinning_sound_iff sampleDigest_injective sample_trustsAll).1 onePem
    pinnedFingerprint (sample_matches certs)).1
  exact condition.mpr (.inr (sample_oneCert certs))

/-- The second certificate of the text is a root as well. -/
theorem second_certificate_trusted : ¬ ∀ crates : TlsCrates,
    Function.Injective crates.sha256Hex → crates.TrustsAll → ∀ pem expected,
      crates.fingerprintsMatch pem expected = true →
        crates.Pinned expected (crates.rustlsConfigFromCaPem pem) := by
  intro sound
  have certs : sampleCerts (utf8 onePem.toList) (utf8 twoPem.toList) (derOf pinnedCert)
      (derOf otherCert) (utf8 twoPem.toList) = [derOf pinnedCert, derOf otherCert] := by
    rw [sampleCerts, if_neg texts_differ]
    exact if_pos rfl
  have pinned := sound twoCertCrates sampleDigest_injective sample_trustsAll twoPem
    pinnedFingerprint (sample_matches certs)
  have digest := pinned _ (sample_config certs) (derOf otherCert) (by simp)
  rw [sample_otherDigest ders_differ] at digest
  have differ : otherFingerprint ≠ normalizeFingerprint pinnedFingerprint := by decide +kernel
  exact differ digest

end OsfmEdm
