import OsfmEdm.Server.Config

/-!
The CA, the server's certificate and the four files that keep them (`services/pki.rs`,
`load_tls_material` in `main.rs`). A key pair is a number; a certificate names the key pair that
signed it and the one it is for.
-/

namespace OsfmEdm

inductive San where
  | ip (address : IpAddr)
  | dns (name : String)
deriving DecidableEq

structure ServerCert where
  signer : Nat
  key : Nat
  sans : List San
deriving DecidableEq

/-- The data directory; `ca.crt` by the key of its certificate. -/
structure DataDir where
  caCrt : Option Nat
  caKey : Option Nat
  serverCrt : Option ServerCert
  serverKey : Option Nat
deriving DecidableEq

inductive Write where
  | caCrt (key : Nat)
  | caKey (key : Nat)
  | serverCrt (cert : ServerCert)
  | serverKey (key : Nat)
deriving DecidableEq

def DataDir.write (dir : DataDir) : Write → DataDir
  | .caCrt key => { dir with caCrt := some key }
  | .caKey key => { dir with caKey := some key }
  | .serverCrt cert => { dir with serverCrt := some cert }
  | .serverKey key => { dir with serverKey := some key }

def DataDir.empty : DataDir where
  caCrt := none
  caKey := none
  serverCrt := none
  serverKey := none

/-- What `KeyPair::generate` gives in one start. -/
structure GeneratedKeys where
  ca : Nat
  server : Nat

structure CertificateAuthority where
  caCert : Nat
  caKey : Nat
deriving DecidableEq

namespace CertificateAuthority

/-- The authority, and what is written to the directory for it. -/
def loadOrCreate (dir : DataDir) (keys : GeneratedKeys) : CertificateAuthority × List Write :=
  match dir.caCrt, dir.caKey with
  | some caCert, some caKey => ({ caCert, caKey }, [])
  | _, _ => ({ caCert := keys.ca, caKey := keys.ca }, [.caCrt keys.ca, .caKey keys.ca])

/-- An address, or else a name; `Ia5String` takes ASCII only. -/
def sanOf (name : String) : Option San :=
  match parseIpAddr name.toList with
  | some address => some (.ip address)
  | none => if name.toList.all fun char => char.toNat < 128 then some (.dns name) else none

def issueServerCert (ca : CertificateAuthority) (hostnames : List String) (keys : GeneratedKeys) :
    ServerCert × Nat :=
  ({ signer := ca.caKey, key := keys.server, sans := hostnames.filterMap sanOf }, keys.server)

end CertificateAuthority

def loadOrCreateServerMaterial (dir : DataDir) (ca : CertificateAuthority) (hosts : List String)
    (keys : GeneratedKeys) : ServerCert × Nat × List Write :=
  match dir.serverCrt, dir.serverKey with
  | some cert, some key => (cert, key, [])
  | _, _ =>
      let (cert, key) := ca.issueServerCert hosts keys
      (cert, key, [.serverCrt cert, .serverKey key])

/-- What a start has loaded or made, and what it has written, in order. -/
structure ServerStart where
  ca : CertificateAuthority
  cert : ServerCert
  key : Nat
  writes : List Write
deriving DecidableEq

/-- `main` up to the TLS listener. -/
def start (dir : DataDir) (serverUrl : String) (keys : GeneratedKeys) : ServerStart :=
  let (ca, caWrites) := CertificateAuthority.loadOrCreate dir keys
  let (cert, key, writes) :=
    loadOrCreateServerMaterial (caWrites.foldl DataDir.write dir) ca (tlsHostnames serverUrl) keys
  { ca, cert, key, writes := caWrites ++ writes }

/-- The directory after the first writes of a start; after all of them, if there are no more. -/
def DataDir.after (dir : DataDir) (started : ServerStart) (written : Nat) : DataDir :=
  (started.writes.take written).foldl DataDir.write dir

/-- The directories that starts leave, each with its own `SERVER_URL`, complete or crashed. -/
inductive LeftBehind : DataDir → Prop where
  | empty : LeftBehind .empty
  | start {dir : DataDir} (before : LeftBehind dir) (serverUrl : String) (keys : GeneratedKeys)
      (written : Nat) : LeftBehind (dir.after (start dir serverUrl keys) written)

/-- The subject alternative name that stands for a host. -/
def UrlHost.san : UrlHost → San
  | .dns name => .dns (String.ofList name.text)
  | .ipv4 a b c d => .ip (.v4 a b c d)
  | .ipv6 _ segments => .ip (.v6 segments)

/-- The served certificate comes from the published CA, with its own key and for the host. -/
structure TlsConsistent (started : ServerStart) (host : UrlHost) : Prop where
  signed : started.cert.signer = started.ca.caCert
  keyMatches : started.key = started.cert.key
  forHost : host.san ∈ started.cert.sans
  forLocalhost : .dns "localhost" ∈ started.cert.sans

/-- The key pairs of a directory are not generated again. -/
structure GeneratedKeys.Fresh (keys : GeneratedKeys) (dir : DataDir) : Prop where
  notSigner : ∀ cert, dir.serverCrt = some cert → cert.signer ≠ keys.ca

/-- When a start serves what it should: a stored pair that `rustls` takes is of the stored CA and
for the host; a new pair is for no IPv6 address and signed with the key of the stored CA. -/
def StartsWell (dir : DataDir) (host : UrlHost) : Prop :=
  match dir.serverCrt, dir.serverKey with
  | some cert, some key =>
      key = cert.key → dir.caCrt = some cert.signer ∧ dir.caKey.isSome ∧ host.san ∈ cert.sans ∧
        .dns "localhost" ∈ cert.sans
  | _, _ =>
      (∀ text segments, host ≠ .ipv6 text segments) ∧
        ∀ caCert caKey, dir.caCrt = some caCert → dir.caKey = some caKey → caKey = caCert

namespace CertificateAuthority

theorem sanOf_dns (name : DnsName) :
    sanOf (String.ofList name.text) = some (.dns (String.ofList name.text)) := by
  have ascii : (name.text.all fun char => decide (char.toNat < 128)) = true := by
    rw [List.all_eq_true]
    intro char member
    exact decide_eq_true (isNameChar_ascii (name.chars char member))
  simp only [sanOf, String.toList_ofList, name.noAddress, ascii, if_true]

theorem sanOf_ipv4 (a b c d : UInt8) :
    sanOf (String.ofList (ipv4Text a b c d)) = some (.ip (.v4 a b c d)) := by
  rw [sanOf, String.toList_ofList, parseIpAddr_ipv4Text]

theorem parseIpAddr_ne_v6 (text : List Char) (segments : List UInt16) :
    parseIpAddr text ≠ some (.v6 segments) := by
  unfold parseIpAddr
  repeat' split
  all_goals simp [Option.bind_eq_some_iff]

theorem sanOf_ne_v6 (name : String) (segments : List UInt16) :
    sanOf name ≠ some (.ip (.v6 segments)) := by
  unfold sanOf
  split
  · rename_i address parsed
    rintro same
    cases same
    exact parseIpAddr_ne_v6 _ _ parsed
  · split <;> simp

/-- A new certificate is for the configured host, unless that is an IPv6 address. -/
theorem issued_forHost (url : ServerUrl) : url.host.san ∈ (tlsHostnames url.text).filterMap sanOf ↔
    ∀ text segments, url.host ≠ .ipv6 text segments := by
  cases host : url.host with
  | dns name =>
      have text : url.host.text = name.text := by rw [host]; rfl
      have listed := tlsHostnames_host url (by rw [text]; exact name.notEmpty)
        (by rw [text]; exact fun char member => isNameChar_plain (name.chars char member))
      rw [text] at listed
      constructor
      · intro _ text segments impossible
        cases impossible
      · intro _
        exact List.mem_filterMap.mpr ⟨_, listed, sanOf_dns name⟩
  | ipv4 a b c d =>
      have text : url.host.text = ipv4Text a b c d := by rw [host]; rfl
      have listed := tlsHostnames_host url (by rw [text]; simp [ipv4Text])
        (by rw [text]; exact ipv4Text_plain a b c d)
      rw [text] at listed
      constructor
      · intro _ text segments impossible
        cases impossible
      · intro _
        exact List.mem_filterMap.mpr ⟨_, listed, sanOf_ipv4 a b c d⟩
  | ipv6 text segments =>
      constructor
      · intro member
        obtain ⟨name, -, same⟩ := List.mem_filterMap.mp member
        exact absurd same (sanOf_ne_v6 name segments)
      · intro other
        exact absurd rfl (other text segments)

theorem issued_forLocalhost (serverUrl : String) :
    .dns "localhost" ∈ (tlsHostnames serverUrl).filterMap sanOf :=
  List.mem_filterMap.mpr ⟨"localhost", tlsHostnames_localhost serverUrl, by decide⟩

end CertificateAuthority

section

variable {dir : DataDir} {keys : GeneratedKeys}

theorem loadOrCreate_both {caCert caKey : Nat} (cert : dir.caCrt = some caCert)
    (key : dir.caKey = some caKey) :
    CertificateAuthority.loadOrCreate dir keys = ({ caCert, caKey }, []) := by
  simp only [CertificateAuthority.loadOrCreate, cert, key]

theorem loadOrCreate_new (lost : dir.caCrt = none ∨ dir.caKey = none) :
    CertificateAuthority.loadOrCreate dir keys =
      ({ caCert := keys.ca, caKey := keys.ca }, [.caCrt keys.ca, .caKey keys.ca]) := by
  rcases lost with none | none
  · simp only [CertificateAuthority.loadOrCreate, none]
  · cases cert : dir.caCrt <;> simp only [CertificateAuthority.loadOrCreate, none, cert]

theorem loadOrCreate_server : ((CertificateAuthority.loadOrCreate dir keys).2.foldl DataDir.write
    dir).serverCrt = dir.serverCrt ∧
    ((CertificateAuthority.loadOrCreate dir keys).2.foldl DataDir.write dir).serverKey =
      dir.serverKey := by
  unfold CertificateAuthority.loadOrCreate
  split <;> exact ⟨rfl, rfl⟩

theorem start_loaded {cert : ServerCert} {key : Nat} (keys : GeneratedKeys) (serverUrl : String)
    (storedCert : dir.serverCrt = some cert) (storedKey : dir.serverKey = some key) :
    (start dir serverUrl keys).cert = cert ∧ (start dir serverUrl keys).key = key := by
  simp only [start, loadOrCreateServerMaterial, loadOrCreate_server.1, loadOrCreate_server.2,
    storedCert, storedKey, and_self]

theorem start_issued (keys : GeneratedKeys) (serverUrl : String)
    (lost : dir.serverCrt = none ∨ dir.serverKey = none) :
    ((start dir serverUrl keys).cert, (start dir serverUrl keys).key) =
      (CertificateAuthority.loadOrCreate dir keys).1.issueServerCert (tlsHostnames serverUrl)
        keys := by
  rcases lost with none | none
  · simp only [start, loadOrCreateServerMaterial, loadOrCreate_server.1, none]
  · cases stored : dir.serverCrt <;>
      simp only [start, loadOrCreateServerMaterial, loadOrCreate_server.1, loadOrCreate_server.2,
        none, stored]

/-- The key of the authority belongs to its certificate, unless both were stored and do not. -/
theorem loadOrCreate_matches (dir : DataDir) (keys : GeneratedKeys) :
    (CertificateAuthority.loadOrCreate dir keys).1.caKey =
    (CertificateAuthority.loadOrCreate dir keys).1.caCert ↔
      ∀ caCert caKey, dir.caCrt = some caCert → dir.caKey = some caKey → caKey = caCert := by
  by_cases lost : dir.caCrt = none ∨ dir.caKey = none
  · rw [loadOrCreate_new lost]
    simp only [true_iff]
    rintro caCert caKey cert key
    rcases lost with none | none
    · rw [none] at cert
      cases cert
    · rw [none] at key
      cases key
  · simp only [not_or, ← ne_eq, Option.ne_none_iff_exists'] at lost
    obtain ⟨⟨caCert, cert⟩, caKey, key⟩ := lost
    simp [loadOrCreate_both cert key, cert, key]

theorem startsWell_lost {host : UrlHost} (lost : dir.serverCrt = none ∨ dir.serverKey = none) :
    StartsWell dir host ↔ (∀ text segments, host ≠ .ipv6 text segments) ∧
      ∀ caCert caKey, dir.caCrt = some caCert → dir.caKey = some caKey → caKey = caCert := by
  rcases lost with none | none
  · simp only [StartsWell, none]
  · cases stored : dir.serverCrt <;> simp only [StartsWell, none, stored]

/-- A new pair: its own key always fits. -/
theorem issued_consistent_iff (url : ServerUrl)
    (lost : dir.serverCrt = none ∨ dir.serverKey = none) :
    ((start dir url.text keys).key = (start dir url.text keys).cert.key →
      TlsConsistent (start dir url.text keys) url.host) ↔ StartsWell dir url.host := by
  obtain ⟨cert, key⟩ := Prod.mk.inj (start_issued keys url.text lost)
  rw [startsWell_lost lost, ← loadOrCreate_matches dir keys,
    ← CertificateAuthority.issued_forHost url]
  constructor
  · intro served
    have consistent := served (by rw [cert, key])
    have signed := consistent.signed
    have forHost := consistent.forHost
    rw [cert] at signed forHost
    exact ⟨forHost, signed⟩
  · rintro ⟨forHost, signed⟩ fits
    refine ⟨?_, fits, ?_, ?_⟩
    · rw [cert]
      exact signed
    · rw [cert]
      exact forHost
    · rw [cert]
      exact CertificateAuthority.issued_forLocalhost url.text

/-- A stored pair: a new authority has not signed it. -/
theorem loaded_consistent_iff {cert : ServerCert} {key : Nat} (fresh : keys.Fresh dir)
    (url : ServerUrl) (storedCert : dir.serverCrt = some cert)
    (storedKey : dir.serverKey = some key) :
    ((start dir url.text keys).key = (start dir url.text keys).cert.key →
      TlsConsistent (start dir url.text keys) url.host) ↔ StartsWell dir url.host := by
  obtain ⟨sameCert, sameKey⟩ := start_loaded keys url.text storedCert storedKey
  have known : (CertificateAuthority.loadOrCreate dir keys).1.caCert = cert.signer ↔
      dir.caCrt = some cert.signer ∧ dir.caKey.isSome = true := by
    by_cases lost : dir.caCrt = none ∨ dir.caKey = none
    · rw [loadOrCreate_new lost]
      constructor
      · intro same
        exact absurd same.symm (fresh.notSigner cert storedCert)
      · rintro ⟨ca, present⟩
        rcases lost with none | none
        · rw [none] at ca
          cases ca
        · rw [none] at present
          cases present
    · simp only [not_or, ← ne_eq, Option.ne_none_iff_exists'] at lost
      obtain ⟨⟨caCert, ca⟩, caKey, present⟩ := lost
      simp [loadOrCreate_both ca present, ca, present]
  simp only [StartsWell, storedCert, storedKey, sameCert, sameKey]
  constructor
  · intro served fits
    have consistent := served fits
    have signed := consistent.signed
    have forHost := consistent.forHost
    have forLocalhost := consistent.forLocalhost
    rw [sameCert] at signed forHost forLocalhost
    have ca := known.mp signed.symm
    exact ⟨ca.1, ca.2, forHost, forLocalhost⟩
  · intro stored fits
    obtain ⟨ca, present, forHost, forLocalhost⟩ := stored fits
    refine ⟨?_, by rw [sameKey, sameCert, fits], by rw [sameCert]; exact forHost,
      by rw [sameCert]; exact forLocalhost⟩
    rw [sameCert]
    exact (known.mpr ⟨ca, present⟩).symm

end

/-- A start that `rustls` accepts serves what it should just when `StartsWell` says so. -/
theorem tls_consistent_iff {accepts : ServerCert → Nat → Bool}
    (checks : ∀ cert key, accepts cert key = true ↔ key = cert.key) {dir : DataDir}
    {keys : GeneratedKeys} (fresh : keys.Fresh dir) (url : ServerUrl) :
    (accepts (start dir url.text keys).cert (start dir url.text keys).key = true →
      TlsConsistent (start dir url.text keys) url.host) ↔ StartsWell dir url.host := by
  rw [checks]
  by_cases lost : dir.serverCrt = none ∨ dir.serverKey = none
  · exact issued_consistent_iff url lost
  · simp only [not_or, ← ne_eq, Option.ne_none_iff_exists'] at lost
    obtain ⟨⟨cert, storedCert⟩, key, storedKey⟩ := lost
    exact loaded_consistent_iff fresh url storedCert storedKey

/-! ## Directories that starts leave -/

/-- Key files come after their certificates, and a server certificate after its authority. -/
structure Paired (dir : DataDir) : Prop where
  ca : ∀ key, dir.caKey = some key → dir.caCrt = some key
  server : ∀ key, dir.serverKey = some key → ∃ cert, dir.serverCrt = some cert ∧ cert.key = key
  issued : ∀ cert, dir.serverCrt = some cert →
    dir.caKey = some cert.signer ∧ .dns "localhost" ∈ cert.sans

/-- A write that keeps to that order. -/
inductive InTurn (dir : DataDir) : Write → Prop where
  | caCrt {key : Nat} (noKey : dir.caKey = none) (noCert : dir.serverCrt = none) :
      InTurn dir (.caCrt key)
  | caKey {key : Nat} (ca : dir.caCrt = some key) (noCert : dir.serverCrt = none) :
      InTurn dir (.caKey key)
  | serverCrt {cert : ServerCert} (noKey : dir.serverKey = none)
      (ca : dir.caKey = some cert.signer) (localhost : .dns "localhost" ∈ cert.sans) :
      InTurn dir (.serverCrt cert)
  | serverKey {cert : ServerCert} {key : Nat} (stored : dir.serverCrt = some cert)
      (own : cert.key = key) : InTurn dir (.serverKey key)

inductive AllInTurn : DataDir → List Write → Prop where
  | nil {dir : DataDir} : AllInTurn dir []
  | cons {dir : DataDir} {write : Write} {rest : List Write} (first : InTurn dir write)
      (later : AllInTurn (dir.write write) rest) : AllInTurn dir (write :: rest)

theorem Paired.write {dir : DataDir} {write : Write} (paired : Paired dir)
    (inTurn : InTurn dir write) : Paired (dir.write write) := by
  cases inTurn with
  | caCrt noKey noCert =>
      exact ⟨by simp [DataDir.write, noKey], paired.server, by simp [DataDir.write, noCert]⟩
  | caKey ca noCert =>
      exact ⟨by simp [DataDir.write, ca], paired.server, by simp [DataDir.write, noCert]⟩
  | serverCrt noKey ca localhost =>
      exact ⟨paired.ca, by simp [DataDir.write, noKey], by simp [DataDir.write, ca, localhost]⟩
  | serverKey stored own =>
      exact ⟨paired.ca, by simp [DataDir.write, stored, own], paired.issued⟩

theorem Paired.writes {dir : DataDir} {writes : List Write} (paired : Paired dir)
    (inTurn : AllInTurn dir writes) (count : Nat) :
    Paired ((writes.take count).foldl DataDir.write dir) := by
  induction inTurn generalizing count with
  | nil => simpa using paired
  | cons first _ ih =>
      cases count with
      | zero => exact paired
      | succ count => exact ih (paired.write first) count

theorem Paired.start {dir : DataDir} (paired : Paired dir) (serverUrl : String)
    (keys : GeneratedKeys) (written : Nat) :
    Paired (dir.after (OsfmEdm.start dir serverUrl keys) written) := by
  have localhost := CertificateAuthority.issued_forLocalhost serverUrl
  refine paired.writes ?_ written
  cases caKey : dir.caKey with
  | some key =>
      have ca := paired.ca key caKey
      have loaded : CertificateAuthority.loadOrCreate dir keys = _ := loadOrCreate_both ca caKey
      cases serverKey : dir.serverKey with
      | some own =>
          obtain ⟨cert, stored, -⟩ := paired.server own serverKey
          simp [OsfmEdm.start, loaded, loadOrCreateServerMaterial, serverKey, stored, AllInTurn.nil]
      | none =>
          have writes : (OsfmEdm.start dir serverUrl keys).writes =
              [.serverCrt ⟨key, keys.server, (tlsHostnames serverUrl).filterMap
                CertificateAuthority.sanOf⟩, .serverKey keys.server] := by
            cases stored : dir.serverCrt <;>
              simp [OsfmEdm.start, loaded, loadOrCreateServerMaterial, serverKey, stored,
                CertificateAuthority.issueServerCert]
          rw [writes]
          exact .cons (.serverCrt serverKey caKey localhost) (.cons (.serverKey rfl rfl) .nil)
  | none =>
      have noCert : dir.serverCrt = none := by
        cases stored : dir.serverCrt with
        | none => rfl
        | some cert => exact absurd (paired.issued cert stored).1 (by simp [caKey])
      have noKey : dir.serverKey = none := by
        cases stored : dir.serverKey with
        | none => rfl
        | some key =>
            obtain ⟨cert, impossible, -⟩ := paired.server key stored
            rw [noCert] at impossible
            cases impossible
      have writes : (OsfmEdm.start dir serverUrl keys).writes =
          [.caCrt keys.ca, .caKey keys.ca,
            .serverCrt ⟨keys.ca, keys.server, (tlsHostnames serverUrl).filterMap
              CertificateAuthority.sanOf⟩, .serverKey keys.server] := by
        simp [OsfmEdm.start, loadOrCreate_new (.inr caKey), loadOrCreateServerMaterial, noCert,
          CertificateAuthority.issueServerCert, DataDir.write]
      rw [writes]
      exact .cons (.caCrt caKey noCert) (.cons (.caKey rfl noCert)
        (.cons (.serverCrt noKey rfl localhost) (.cons (.serverKey rfl rfl) .nil)))

theorem leftBehind_paired {dir : DataDir} (left : LeftBehind dir) : Paired dir := by
  induction left with
  | empty => exact ⟨by simp [DataDir.empty], by simp [DataDir.empty], by simp [DataDir.empty]⟩
  | start _ serverUrl keys written ih => exact ih.start serverUrl keys written

/-- Where no file was lost, only the host matters. -/
theorem leftBehind_startsWell {dir : DataDir} (left : LeftBehind dir) (host : UrlHost) :
    StartsWell dir host ↔
      (∀ cert, dir.serverCrt = some cert → dir.serverKey.isSome = true → host.san ∈ cert.sans) ∧
        (dir.serverCrt = none ∨ dir.serverKey = none →
          ∀ text segments, host ≠ .ipv6 text segments) := by
  have paired := leftBehind_paired left
  by_cases lost : dir.serverCrt = none ∨ dir.serverKey = none
  · rw [startsWell_lost lost]
    constructor
    · rintro ⟨noAddress, -⟩
      refine ⟨?_, fun _ => noAddress⟩
      intro cert stored present
      rcases lost with none | none
      · simp [stored] at none
      · simp [none] at present
    · rintro ⟨-, noAddress⟩
      refine ⟨noAddress lost, ?_⟩
      intro caCert caKey cert key
      exact Option.some.inj ((paired.ca caKey key).symm.trans cert)
  · simp only [not_or, ← ne_eq, Option.ne_none_iff_exists'] at lost
    obtain ⟨⟨cert, storedCert⟩, key, storedKey⟩ := lost
    obtain ⟨own, stored, fits⟩ := paired.server key storedKey
    obtain rfl : own = cert := Option.some.inj (stored.symm.trans storedCert)
    obtain ⟨caKey, localhost⟩ := paired.issued own storedCert
    simp [StartsWell, storedCert, storedKey, fits, caKey, paired.ca _ caKey, localhost]

/-! ## Another URL -/

def dnsUrl (name : DnsName) : ServerUrl where
  scheme := "https".toList
  schemeValid := by decide
  host := .dns name
  port := some 8080
  path := none

def localhostName : DnsName :=
  ⟨"localhost".toList, by decide, List.all_eq_true.mp (by decide +kernel), by decide +kernel⟩

def publicName : DnsName :=
  ⟨"edm.example.com".toList, by decide, List.all_eq_true.mp (by decide +kernel), by decide +kernel⟩

def takesOwnKey (cert : ServerCert) (key : Nat) : Bool := key = cert.key

/-- What a first start for `https://localhost:8080` leaves. -/
def localhostDir : DataDir :=
  DataDir.empty.after (start .empty (dnsUrl localhostName).text ⟨1, 2⟩) 4

theorem tls_consistent_first :
    TlsConsistent (start .empty (dnsUrl publicName).text ⟨1, 2⟩) (dnsUrl publicName).host := by
  have fresh : GeneratedKeys.Fresh ⟨1, 2⟩ .empty := ⟨by simp [DataDir.empty]⟩
  have checks : ∀ cert key, takesOwnKey cert key = true ↔ key = cert.key := by simp [takesOwnKey]
  refine (tls_consistent_iff checks fresh (dnsUrl publicName)).mpr ?_ (by decide +kernel)
  simp [StartsWell, DataDir.empty, dnsUrl]

/-- The next start is for `https://edm.example.com:8080`. -/
theorem stale_certificate : ¬ ∀ (accepts : ServerCert → Nat → Bool),
    (∀ cert key, accepts cert key = true ↔ key = cert.key) →
      ∀ dir, LeftBehind dir → ∀ keys : GeneratedKeys, keys.Fresh dir → ∀ url : ServerUrl,
        accepts (start dir url.text keys).cert (start dir url.text keys).key = true →
          TlsConsistent (start dir url.text keys) url.host := by
  intro consistent
  have checks : ∀ cert key, takesOwnKey cert key = true ↔ key = cert.key := by simp [takesOwnKey]
  have left : LeftBehind localhostDir := .start .empty _ _ _
  have fresh : GeneratedKeys.Fresh ⟨3, 4⟩ localhostDir := by
    refine ⟨fun cert stored => ?_⟩
    have signer : localhostDir.serverCrt.map ServerCert.signer = some 1 := by decide +kernel
    rw [stored, Option.map_some, Option.some.injEq] at signer
    rw [signer]
    decide
  have served := consistent takesOwnKey checks localhostDir left ⟨3, 4⟩ fresh (dnsUrl publicName)
    (by decide +kernel)
  have absent : (dnsUrl publicName).host.san ∉
      (start localhostDir (dnsUrl publicName).text ⟨3, 4⟩).cert.sans := by decide +kernel
  exact absent served.forHost

end OsfmEdm
