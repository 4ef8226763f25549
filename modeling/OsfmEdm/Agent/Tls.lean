import OsfmEdm.Library.JsonText

/-!
The agent's trust anchors (`osfm-edm-agent/src/tls.rs`) and the CA an enrollment leaves on disk
(`enrollment.rs`, `transport/websocket.rs`).
-/

namespace OsfmEdm

open JsonText

abbrev Der := List UInt8

/-- What the TLS code takes from other crates: `rustls_pemfile::certs`, with an error for a block
that cannot be read; `RootCertStore::add`; the hex digest of `Sha256`; and the roots a `reqwest`
client gets from a PEM it is given. -/
structure TlsCrates where
  certs : List UInt8 → List (Except String Der)
  addRoot : Der → Except String Unit
  sha256Hex : Der → String
  clientRoots : List UInt8 → Except String (List Der)

/-- `reqwest` with `rustls` trusts the certificates of the PEM, all of them. -/
def TlsCrates.TrustsAll (crates : TlsCrates) : Prop :=
  ∀ pem roots, crates.clientRoots pem = .ok roots →
    ∀ der, der ∈ roots ↔ .ok der ∈ crates.certs pem

namespace TlsCrates

variable (crates : TlsCrates)

/-- The first certificate that can be read: `filter_map(|c| c.ok())` and `first`. -/
def firstCert (pem : List UInt8) : Option Der :=
  ((crates.certs pem).filterMap Except.toOption).head?

def fingerprintPem (pem : String) : Option String :=
  (crates.firstCert (utf8 pem.toList)).map crates.sha256Hex

end TlsCrates

def isAsciiHexdigit (char : Char) : Bool :=
  char.isDigit || ('a' ≤ char && char ≤ 'f') || ('A' ≤ char && char ≤ 'F')

def normalizeFingerprint (text : String) : String :=
  String.ofList ((text.toList.filter isAsciiHexdigit).map Char.toLower)

namespace TlsCrates

variable (crates : TlsCrates)

def fingerprintsMatch (pem expected : String) : Bool :=
  match crates.fingerprintPem pem with
  | some got => got = normalizeFingerprint expected
  | none => false

/-- `collect` into a `Result`: the first error, or all values. -/
def collect {α : Type} : List (Except String α) → Except String (List α)
  | [] => .ok []
  | .error error :: _ => .error error
  | .ok value :: rest => (collect rest).map (value :: ·)

def addError (cert : Der) : Option String :=
  match crates.addRoot cert with
  | .error error => some error
  | .ok () => none

/-- `rustls_config_from_ca_pem`, by the roots of the configuration. -/
def rustlsConfigFromCaPem (pem : String) : Except String (List Der) :=
  match collect (crates.certs (utf8 pem.toList)) with
  | .error error => .error ("parse CA: " ++ error)
  | .ok certs =>
      match certs.findSome? crates.addError with
      | some error => .error ("add CA: " ++ error)
      | none => if certs.isEmpty then .error "CA PEM contained no certificates" else .ok certs

end TlsCrates

/-! ## Enrollment -/

structure EnrollOpts where
  caPath : Option String
  caFingerprint : Option String
  insecure : Bool

/-- What `enroll` writes to `ca.crt`, after its check of the returned CA. -/
def TlsCrates.savedCa (crates : TlsCrates) (opts : EnrollOpts) (caPem : String) :
    Except String String :=
  match opts.caFingerprint with
  | some fingerprint =>
      if caPem.isEmpty || crates.fingerprintsMatch caPem fingerprint then .ok caPem
      else .error "server returned a CA that does not match --ca-fingerprint"
  | none => .ok caPem

/-- The roots of the agent's WSS connections after an enrollment. -/
def TlsCrates.enrolledRoots (crates : TlsCrates) (opts : EnrollOpts) (caPem : String) :
    Except String (List Der) := do
  crates.rustlsConfigFromCaPem (← crates.savedCa opts caPem)

/-! ## Roots and the fingerprint -/

variable {crates : TlsCrates} {pem expected : String} {roots : List Der}

/-- A block of the text that cannot be read, or a certificate that is no trust anchor. -/
def TlsCrates.Unusable (crates : TlsCrates) (pem : List UInt8) : Prop :=
  ∃ item ∈ crates.certs pem,
    (∃ error, item = .error error) ∨ ∃ der error, item = .ok der ∧ crates.addRoot der = .error error

/-- Every certificate of the text that is used is the first one of the text that is checked. -/
def TlsCrates.OneCert (crates : TlsCrates) (checked used : List UInt8) : Prop :=
  ∀ der, .ok der ∈ crates.certs used → crates.firstCert checked = some der

/-- All roots have the fingerprint that was asked for. -/
def TlsCrates.Pinned (crates : TlsCrates) (expected : String) (roots : Except String (List Der)) :
    Prop :=
  ∀ ders, roots = .ok ders → ∀ der ∈ ders, crates.sha256Hex der = normalizeFingerprint expected

namespace TlsCrates

theorem collect_ok {items : List (Except String Der)} {certs : List Der} :
    collect items = .ok certs ↔ items = certs.map .ok := by
  induction items generalizing certs with
  | nil => cases certs <;> simp [collect]
  | cons item rest ih =>
      cases item with
      | error error => cases certs <;> simp [collect]
      | ok cert =>
          cases certs with
          | nil => cases same : collect rest <;> simp [collect, same, Except.map]
          | cons first others =>
              have own : collect rest = .ok others ↔ rest = others.map .ok := ih
              cases same : collect rest with
              | error error =>
                  rw [same] at own
                  simpa [collect, same, Except.map] using fun _ => own
              | ok found =>
                  rw [same, Except.ok.injEq] at own
                  simp [collect, same, Except.map, own]

theorem collect_error {items : List (Except String Der)} {error : String}
    (failed : collect items = .error error) : .error error ∈ items := by
  induction items with
  | nil => cases failed
  | cons item rest ih =>
      cases item with
      | error first =>
          cases failed
          exact List.mem_cons_self
      | ok cert =>
          cases same : collect rest with
          | error other =>
              simp only [collect, same, Except.map, Except.error.injEq] at failed
              exact .tail _ (ih (failed ▸ same))
          | ok found => simp [collect, same, Except.map] at failed

theorem addError_eq_none {cert : Der} :
    crates.addError cert = none ↔ ∀ error, crates.addRoot cert ≠ .error error := by
  unfold addError
  cases crates.addRoot cert <;> simp

theorem rustlsConfig_ok : crates.rustlsConfigFromCaPem pem = .ok roots ↔
    crates.certs (utf8 pem.toList) = roots.map .ok ∧
      (∀ root ∈ roots, ∀ error, crates.addRoot root ≠ .error error) ∧ roots ≠ [] := by
  unfold rustlsConfigFromCaPem
  rw [← collect_ok]
  cases collect (crates.certs (utf8 pem.toList)) with
  | error error => simp
  | ok certs =>
      dsimp only
      cases added : certs.findSome? crates.addError with
      | some error =>
          obtain ⟨cert, member, refused⟩ := List.exists_of_findSome?_eq_some added
          have bad : ¬ ∀ error, crates.addRoot cert ≠ .error error := by
            rw [← addError_eq_none, refused]
            simp
          constructor
          · intro impossible
            cases impossible
          · rintro ⟨same, good, -⟩
            cases same
            exact absurd (good cert member) bad
      | none =>
          have good : ∀ root ∈ certs, ∀ error, crates.addRoot root ≠ .error error :=
            fun root member => addError_eq_none.mp (List.findSome?_eq_none_iff.mp added root member)
          by_cases empty : certs = []
          · simpa [empty] using fun nothing _ => nothing
          · simp only [List.isEmpty_iff, empty, if_false, Except.ok.injEq]
            constructor
            · rintro rfl
              exact ⟨rfl, good, empty⟩
            · exact And.left

theorem fingerprintsMatch_iff : crates.fingerprintsMatch pem expected = true ↔
    ∃ der, crates.firstCert (utf8 pem.toList) = some der ∧
      crates.sha256Hex der = normalizeFingerprint expected := by
  unfold fingerprintsMatch fingerprintPem
  cases crates.firstCert (utf8 pem.toList) <;> simp

theorem firstCert_mem {bytes : List UInt8} {der : Der}
    (first : crates.firstCert bytes = some der) : .ok der ∈ crates.certs bytes := by
  obtain ⟨item, member, isOk⟩ := List.mem_filterMap.mp (List.mem_of_head? first)
  cases item with
  | error => cases isOk
  | ok cert =>
      cases isOk
      exact member

/-- The check is about one certificate; with a digest without collisions it pins exactly the texts
that bring no other one. -/
theorem pinned_iff (collisionFree : Function.Injective crates.sha256Hex) {checked used : List UInt8}
    {first : Der} {trusted : Except String (List Der)}
    (isFirst : crates.firstCert checked = some first)
    (accepted : crates.sha256Hex first = normalizeFingerprint expected)
    (trustsAll : ∀ ders, trusted = .ok ders → ∀ der, der ∈ ders ↔ .ok der ∈ crates.certs used) :
    crates.Pinned expected trusted ↔
      (∃ error, trusted = .error error) ∨ crates.OneCert checked used := by
  cases trusted with
  | error error => simp [Pinned]
  | ok ders =>
      have all := trustsAll ders rfl
      constructor
      · intro pinned
        refine .inr fun der used => ?_
        have same := pinned ders rfl der ((all der).mpr used)
        rw [isFirst, collisionFree (same.trans accepted.symm)]
      · rintro (⟨error, refused⟩ | single) found same der member
        · cases refused
        · cases same
          have one := single der ((all der).mp member)
          rw [isFirst, Option.some.injEq] at one
          rw [← one, accepted]

theorem rustlsConfig_error (accepted : crates.fingerprintsMatch pem expected = true) :
    (∃ error, crates.rustlsConfigFromCaPem pem = .error error) ↔
      crates.Unusable (utf8 pem.toList) := by
  obtain ⟨first, isFirst, -⟩ := fingerprintsMatch_iff.mp accepted
  have present := firstCert_mem isFirst
  constructor
  · rintro ⟨error, refused⟩
    by_contra usable
    simp only [Unusable, not_exists, not_and, not_or] at usable
    obtain ⟨roots, same⟩ : ∃ roots : List Der, crates.certs (utf8 pem.toList) = roots.map .ok := by
      cases read : collect (crates.certs (utf8 pem.toList)) with
      | error error => exact absurd rfl ((usable _ (collect_error read)).1 error)
      | ok roots => exact ⟨roots, collect_ok.mp read⟩
    have added : crates.rustlsConfigFromCaPem pem = .ok roots := by
      refine rustlsConfig_ok.mpr ⟨same, ?_, ?_⟩
      · intro root member error bad
        exact (usable (.ok root) (by simp [same, member])).2 root error rfl bad
      · rintro rfl
        rw [same] at present
        cases present
    rw [refused] at added
    cases added
  · rintro ⟨item, member, bad⟩
    cases config : crates.rustlsConfigFromCaPem pem with
    | error error => exact ⟨error, rfl⟩
    | ok roots =>
        obtain ⟨same, good, -⟩ := rustlsConfig_ok.mp config
        rw [same] at member
        obtain ⟨root, isRoot, rfl⟩ := List.mem_map.mp member
        rcases bad with ⟨error, unread⟩ | ⟨der, error, isDer, refused⟩
        · cases unread
        · cases isDer
          exact absurd refused (good root isRoot error)

theorem config_pinned_iff (collisionFree : Function.Injective crates.sha256Hex)
    (accepted : crates.fingerprintsMatch pem expected = true) :
    crates.Pinned expected (crates.rustlsConfigFromCaPem pem) ↔
      crates.Unusable (utf8 pem.toList) ∨
        crates.OneCert (utf8 pem.toList) (utf8 pem.toList) := by
  obtain ⟨first, isFirst, same⟩ := fingerprintsMatch_iff.mp accepted
  rw [← rustlsConfig_error accepted]
  refine pinned_iff collisionFree isFirst same ?_
  intro ders config der
  rw [(rustlsConfig_ok.mp config).1]
  simp

/-- A CA that is not empty is saved only when it passed the check. -/
theorem savedCa_checked {opts : EnrollOpts} {fingerprint saved : String}
    (wanted : opts.caFingerprint = some fingerprint) (notEmpty : pem.isEmpty = false)
    (accepted : crates.savedCa opts pem = .ok saved) :
    saved = pem ∧ crates.fingerprintsMatch pem fingerprint = true := by
  simp only [savedCa, wanted, notEmpty, Bool.false_or] at accepted
  split at accepted
  next isMatch =>
    cases accepted
    exact ⟨rfl, isMatch⟩
  next => cases accepted

/-- What a matching enrollment trusts is what the configuration trusts. -/
theorem enrolledRoots_matching {opts : EnrollOpts} {fingerprint : String}
    (wanted : opts.caFingerprint = some fingerprint)
    (accepted : crates.fingerprintsMatch pem fingerprint = true) :
    crates.enrolledRoots opts pem = crates.rustlsConfigFromCaPem pem := by
  simp [enrolledRoots, savedCa, wanted, accepted, bind, Except.bind]

end TlsCrates

end OsfmEdm
