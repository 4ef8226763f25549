import OsfmEdm.Auth.Turn

/-!
The life of a refresh token: a login issues it, `refresh` takes it for seven days while its user
exists, and a logout ends it and no other.
-/

namespace OsfmEdm

open Interleaving

variable (crates : AuthCrates) (used : String → Prop)

/-- The tokens of a run, issued or brought by a request, are among these. -/
def usesTokens : Guard AuthServer AuthTask AuthChoice := fun _ _ task choice =>
  match task, choice with
  | .refresh headers .select, _ | .logout headers .revoke, _ =>
      ∀ token ∈ (logoutCookie headers).toList, used token
  | .login _ (.issue ..), .generatesToken token => used token
  | _, _ => True

instance [DecidablePred used] : ∀ s others task choice,
    Decidable (usesTokens used s others task choice) := by
  intro s others task choice
  unfold usesTokens
  split <;> infer_instance

/-- SHA-256 tells the tokens of the run apart. -/
def DistinctHashes : Prop := ∀ token other, used token → used other →
  crates.sha256Hex token = crates.sha256Hex other → token = other

/-- The rows are of issued tokens, and revoked after a logout with them. -/
structure TokensKept (s : AuthServer) : Prop where
  issued : ∀ hash row, s.refreshTokens.find? hash = some row → ∃ token time, used token ∧
    hash = crates.sha256Hex token ∧ .issued token row.userId time ∈ s.history ∧
      row.expiresAt ≤ time + AuthServer.REFRESH_EXPIRY
  named : ∀ headers token, .loggedOut headers ∈ s.history → logoutCookie headers = some token →
    used token
  revoked : ∀ headers token row, .loggedOut headers ∈ s.history →
    logoutCookie headers = some token →
    s.refreshTokens.find? (crates.sha256Hex token) = some row → row.revoked = true

/-- A server that starts with the tokens of its past. -/
structure TokenStart (config : Config AuthServer AuthTask) : Prop where
  tasks : config.tasks = []
  kept : TokensKept crates used config.shared

/-- What has happened before the request selected its token. -/
def Selected.past (selected : Selected) (s : AuthServer) : List AuthEvent :=
  s.history.take selected.began

/-- A refresh that succeeds: the first refresh cookie is a token that a login issued, at most seven
days before it was checked; the user exists; and no logout with this token, or with these
headers, was done before. -/
structure RefreshJustified (s : AuthServer) (headers : CookieHeaders) (selected : Selected)
    (checkedAt : Nat) (claims : Claims) : Prop where
  began : selected.began ≤ s.history.length
  first : FirstRefreshCookie headers selected.token
  issued : ∃ time, .issued selected.token claims.sub time ∈ selected.past s ∧
    checkedAt ≤ time + AuthServer.REFRESH_EXPIRY
  user : s.users.contains claims.sub = true
  live : ∀ other, .loggedOut other ∈ selected.past s → ¬ FirstRefreshCookie other selected.token
  again : .loggedOut headers ∉ selected.past s

structure RefreshTokensObey (config : Config AuthServer AuthTask) : Prop where
  succeeds : ∀ task ∈ config.tasks, ∀ choice after new,
    (authProgram crates).step config.shared task choice = some (after, new) →
    ∀ headers selected checkedAt claims,
      .refresh headers (.refreshed selected checkedAt claims) ∈ new →
        RefreshJustified config.shared headers selected checkedAt claims
  spares : ∀ headers, .logout headers .revoke ∈ config.tasks → ∀ choice after new,
    (authProgram crates).step config.shared (.logout headers .revoke) choice = some (after, new) →
    ∀ token, used token → (∀ own, FirstRefreshCookie headers own → used own ∧ own ≠ token) →
      after.refreshTokens.find? (crates.sha256Hex token) =
        config.shared.refreshTokens.find? (crates.sha256Hex token)

/-- A token that was found for a request. -/
structure SelectedToken (s : AuthServer) (headers : CookieHeaders) (selected : Selected) : Prop where
  began : selected.began ≤ s.history.length
  cookie : logoutCookie headers = some selected.token
  issued : ∃ time, .issued selected.token selected.row.userId time ∈ selected.past s ∧
    selected.row.expiresAt ≤ time + AuthServer.REFRESH_EXPIRY
  live : selected.row.revoked = false → ∀ other, .loggedOut other ∈ selected.past s →
    logoutCookie other ≠ some selected.token

def AuthTask.Selects (s : AuthServer) : AuthTask → Prop
  | .refresh headers (.check selected) => SelectedToken s headers selected
  | .refresh headers (.lookUp selected checkedAt) => SelectedToken s headers selected ∧
      selected.row.revoked = false ∧ checkedAt ≤ selected.row.expiresAt
  | _ => True

variable {crates used}

/-! ## Statements -/

section

variable {s s' : AuthServer}

theorem past_append {selected : Selected} (began : selected.began ≤ s.history.length)
    {events : List AuthEvent} (grows : s'.history = s.history ++ events) :
    selected.past s' = selected.past s := by
  simp only [Selected.past, grows, List.take_append_of_le_length began]

theorem SelectedToken.later {headers : CookieHeaders} {selected : Selected}
    (found : SelectedToken s headers selected) {events : List AuthEvent}
    (grows : s'.history = s.history ++ events) : SelectedToken s' headers selected := by
  have same := past_append found.began grows
  refine ⟨?_, found.cookie, ?_, ?_⟩
  · rw [grows, List.length_append]
    exact Nat.le_trans found.began (Nat.le_add_right _ _)
  · rw [same]
    exact found.issued
  · rw [same]
    exact found.live

theorem TokensKept.fewer (kept : TokensKept crates used s)
    (rows : ∀ hash row, s'.refreshTokens.find? hash = some row →
      s.refreshTokens.find? hash = some row)
    {events : List AuthEvent} (grows : s'.history = s.history ++ events)
    (others : ∀ headers, .loggedOut headers ∉ events) : TokensKept crates used s' := by
  have logouts (headers : CookieHeaders) (out : .loggedOut headers ∈ s'.history) :
      .loggedOut headers ∈ s.history := by
    rw [grows] at out
    exact (List.mem_append.mp out).resolve_right (others headers)
  constructor
  · intro hash row found
    obtain ⟨token, time, own, same, issued, expires⟩ := kept.issued hash row (rows hash row found)
    exact ⟨token, time, own, same, by rw [grows]; exact List.mem_append_left _ issued, expires⟩
  · exact fun headers token out => kept.named headers token (logouts headers out)
  · exact fun headers token row out cookie found =>
      kept.revoked headers token row (logouts headers out) cookie (rows _ row found)

theorem TokensKept.same (kept : TokensKept crates used s)
    (rows : s'.refreshTokens = s.refreshTokens) {events : List AuthEvent}
    (grows : s'.history = s.history ++ events) (others : ∀ headers, .loggedOut headers ∉ events) :
    TokensKept crates used s' :=
  kept.fewer (fun hash row found => by rwa [rows] at found) grows others

theorem isNewToken_iff {token : String} : s.isNewToken token = true ↔
    ∀ headers, .loggedOut headers ∈ s.history → logoutCookie headers ≠ some token := by
  simp only [AuthServer.isNewToken, List.all_eq_true]
  constructor
  · intro all headers out
    simpa using all _ out
  · intro all event member
    cases event with
    | loggedOut headers => simpa using all headers member
    | _ => rfl

theorem TokensKept.issue (kept : TokensKept crates used s) (distinct : DistinctHashes crates used)
    {user : Uuid} {token : String} {stored : AuthServer} (own : used token)
    (unseen : s.isNewToken token = true)
    (inserted : s.insertRefreshToken user (crates.sha256Hex token) = some stored) :
    TokensKept crates used (stored.record (.issued token user s.now)) := by
  unfold AuthServer.insertRefreshToken at inserted
  split at inserted
  · obtain ⟨refreshTokens, done, rfl⟩ := Option.map_eq_some_iff.mp inserted
    have logouts (headers : CookieHeaders) (out : .loggedOut headers ∈
        s.history ++ [.issued token user s.now]) : .loggedOut headers ∈ s.history := by
      simpa using out
    constructor
    · intro hash row found
      simp only [AuthServer.record, Table.find?_insert done] at found
      split at found
      · rename_i same
        cases found
        exact ⟨token, s.now, own, same, by simp [AuthServer.record], Nat.div_mul_le_self _ _⟩
      · obtain ⟨other, time, known, same, issued, expires⟩ := kept.issued hash row found
        exact ⟨other, time, known, same, List.mem_append_left _ issued, expires⟩
    · exact fun headers other out => kept.named headers other (logouts headers out)
    · intro headers other row out cookie found
      have before := logouts headers out
      simp only [AuthServer.record, Table.find?_insert done] at found
      split at found
      · rename_i same
        have equal := distinct other token (kept.named headers other before cookie) own same
        subst equal
        exact absurd cookie (isNewToken_iff.mp unseen headers before)
      · exact kept.revoked headers other row before cookie found
  · cases inserted

theorem find?_revokeRefreshToken (hash own : String) :
    (s.revokeRefreshToken own).refreshTokens.find? hash =
      if hash = own then
        (s.refreshTokens.find? own).map fun row => { row with revoked := true }
      else s.refreshTokens.find? hash := by
  simp only [AuthServer.revokeRefreshToken, Table.find?_update]
  split
  · rename_i same
    rw [same]
  · rfl

theorem TokensKept.revoke (kept : TokensKept crates used s) {headers : CookieHeaders}
    {token : String} (cookie : logoutCookie headers = some token) (own : used token) :
    TokensKept crates used
      ((s.revokeRefreshToken (crates.sha256Hex token)).record (.loggedOut headers)) := by
  have logouts (other : CookieHeaders) (out : .loggedOut other ∈ s.history ++ [.loggedOut headers]) :
      .loggedOut other ∈ s.history ∨ other = headers := by
    simpa using out
  constructor
  · intro hash row found
    simp only [AuthServer.record, find?_revokeRefreshToken] at found
    split at found
    · rename_i same
      obtain ⟨old, present, rfl⟩ := Option.map_eq_some_iff.mp found
      obtain ⟨other, time, known, held, issued, expires⟩ := kept.issued _ old present
      exact ⟨other, time, known, same.trans held, List.mem_append_left _ issued, expires⟩
    · obtain ⟨other, time, known, same, issued, expires⟩ := kept.issued hash row found
      exact ⟨other, time, known, same, List.mem_append_left _ issued, expires⟩
  · intro other named out found
    rcases logouts other out with before | rfl
    · exact kept.named other named before found
    · rw [cookie] at found
      cases found
      exact own
  · intro other named row out found present
    simp only [AuthServer.record, find?_revokeRefreshToken] at present
    split at present
    · obtain ⟨old, _, rfl⟩ := Option.map_eq_some_iff.mp present
      rfl
    · rename_i differs
      rcases logouts other out with before | rfl
      · exact kept.revoked other named row before found present
      · rw [cookie] at found
        cases found
        exact absurd rfl differs

theorem TokensKept.leave (kept : TokensKept crates used s) {headers : CookieHeaders}
    (none : logoutCookie headers = none) : TokensKept crates used (s.record (.loggedOut headers)) := by
  have logouts (other : CookieHeaders) (out : .loggedOut other ∈ s.history ++ [.loggedOut headers]) :
      .loggedOut other ∈ s.history ∨ other = headers := by
    simpa using out
  constructor
  · intro hash row found
    obtain ⟨token, time, own, same, issued, expires⟩ := kept.issued hash row found
    exact ⟨token, time, own, same, List.mem_append_left _ issued, expires⟩
  · intro other token out cookie
    rcases logouts other out with before | rfl
    · exact kept.named other token before cookie
    · rw [none] at cookie
      cases cookie
  · intro other token row out cookie found
    rcases logouts other out with before | rfl
    · exact kept.revoked other token row before cookie found
    · rw [none] at cookie
      cases cookie

theorem find?_removeUser {user : Uuid} {hash : String} {row : RefreshTokenRow}
    (found : (s.removeUser user).refreshTokens.find? hash = some row) :
    s.refreshTokens.find? hash = some row := by
  simp only [AuthServer.removeUser, Table.find?_keep] at found
  exact (Option.filter_eq_some_iff.mp found).1

end

/-! ## Steps -/

section

variable {s s' : AuthServer} {others new : List AuthTask} {task : AuthTask} {choice : AuthChoice}

theorem AuthTurn.keepsTokens (turn : AuthTurn crates s choice task s' new)
    (distinct : DistinctHashes crates used) (meets : usesTokens used s others task choice)
    (kept : TokensKept crates used s) : TokensKept crates used s' := by
  cases turn with
  | issued chosen unseen inserted =>
      subst chosen
      exact kept.issue distinct meets unseen inserted
  | revoked cookie => exact kept.revoke cookie (meets _ (by simp [cookie]))
  | leftNothing none => exact kept.leave none
  | userRemoved =>
      exact kept.fewer (fun _ _ => find?_removeUser) (List.append_nil _).symm (by simp)
  | admitted => exact kept.same rfl rfl (by simp)
  | cleared => exact kept.same rfl rfl (by simp)
  | proved => exact kept.same rfl rfl (by simp)
  | enabled => exact kept.same rfl rfl (by simp)
  | _ => exact kept.same rfl (List.append_nil _).symm (by simp)

theorem AuthTask.Selects.later {other : AuthTask} (selects : other.Selects s)
    {events : List AuthEvent} (grows : s'.history = s.history ++ events) : other.Selects s' := by
  cases other with
  | refresh headers phase =>
      cases phase with
      | check selected => exact SelectedToken.later selects grows
      | lookUp selected checkedAt => exact ⟨selects.1.later grows, selects.2⟩
      | _ => trivial
  | _ => trivial

theorem selects_refused {next : AuthTask} (ended : next.isRefused = true) : next.Selects s := by
  cases next with
  | refresh headers phase => cases phase <;> trivial
  | _ => trivial

/-- The token found for a request is the one in its cookie: there is one token for a hash. -/
theorem TokensKept.select (kept : TokensKept crates used s)
    (distinct : DistinctHashes crates used) {headers : CookieHeaders} {token : String}
    {row : RefreshTokenRow} (cookie : logoutCookie headers = some token) (own : used token)
    (found : s.refreshTokens.find? (crates.sha256Hex token) = some row) :
    SelectedToken s headers { token, row, began := s.history.length } := by
  have past : Selected.past { token, row, began := s.history.length } s = s.history :=
    List.take_length
  obtain ⟨other, time, known, same, issued, expires⟩ := kept.issued _ row found
  obtain rfl := distinct token other own known same
  refine ⟨Nat.le_refl _, cookie, ⟨time, by rwa [past], expires⟩, ?_⟩
  intro unrevoked logout out cookie'
  rw [past] at out
  have revoked := kept.revoked logout token row out cookie' found
  rw [unrevoked] at revoked
  cases revoked

theorem AuthTurn.selects (turn : AuthTurn crates s choice task s' new)
    (distinct : DistinctHashes crates used) (meets : usesTokens used s others task choice)
    (kept : TokensKept crates used s) (selects : task.Selects s) :
    ∀ next ∈ new, next.Selects s' := by
  cases turn with
  | refused ended =>
      intro next member
      rw [List.mem_singleton.mp member]
      exact selects_refused ended
  | selected cookie found =>
      intro next member
      rw [List.mem_singleton.mp member]
      have own := refreshCookie_eq_ok.mp cookie
      exact kept.select distinct own (meets _ (by simp [own])) found
  | checked unrevoked fresh =>
      intro next member
      rw [List.mem_singleton.mp member]
      exact ⟨selects, unrevoked, fresh⟩
  | userRemoved => simp
  | tick => simp
  | _ =>
      intro next member
      rw [List.mem_singleton.mp member]
      trivial

end

/-! ## Runs -/

theorem refresh_tokens_kept {start config : Config AuthServer AuthTask}
    (distinct : DistinctHashes crates used) (started : TokenStart crates used start)
    (reached : Reach (authProgram crates) (usesTokens used) start config) :
    Annotated (TokensKept crates used) AuthTask.Selects config := by
  have outline : Outline (authProgram crates) (usesTokens used) (TokensKept crates used)
      AuthTask.Selects := by
    constructor
    · intro shared task _ request
      cases task with
      | refresh headers phase => cases phase <;> trivial
      | _ => trivial
    · intro shared others task choice shared' new kept selects _ meets moved
      have turn := auth_cases moved
      exact ⟨turn.keepsTokens distinct meets kept, turn.selects distinct meets kept selects⟩
    · intro shared others task choice shared' new _ _ _ moved other _ selects
      obtain ⟨events, grows⟩ := (auth_cases moved).grows
      exact selects.later grows
  exact outline.holds ⟨started.kept, by simp [started.tasks]⟩ reached

theorem refresh_tokens_obey {start config : Config AuthServer AuthTask}
    (distinct : DistinctHashes crates used) (started : TokenStart crates used start)
    (reached : Reach (authProgram crates) (usesTokens used) start config) :
    RefreshTokensObey crates used config := by
  have holds := refresh_tokens_kept distinct started reached
  constructor
  · intro task member choice after new moved headers selected checkedAt claims answered
    have selects := holds.tasks task member
    have turn := auth_cases moved
    cases turn with
    | refreshed found =>
        cases List.mem_singleton.mp answered
        obtain ⟨token, unrevoked, checked⟩ := selects
        obtain ⟨time, issued, expires⟩ := token.issued
        refine ⟨token.began, logoutCookie_eq_some.mp token.cookie,
          ⟨time, issued, Nat.le_trans checked expires⟩, ?_, ?_, ?_⟩
        · simp [Table.contains, Claims.of, found]
        · intro other out first
          exact token.live unrevoked other out (logoutCookie_eq_some.mpr first)
        · exact fun out => token.live unrevoked headers out token.cookie
    | refused ended =>
        rw [← List.mem_singleton.mp answered] at ended
        cases ended
    | userRemoved => cases answered
    | tick => cases answered
    | _ => cases List.mem_singleton.mp answered
  · intro headers member choice after new moved token known others
    have turn : AuthTurn crates config.shared choice (.logout headers .revoke) after new :=
      auth_cases moved
    cases turn with
    | revoked cookie =>
        obtain ⟨own, differs⟩ := others _ (logoutCookie_eq_some.mp cookie)
        have hashes : crates.sha256Hex token ≠ crates.sha256Hex _ :=
          fun same => differs (distinct _ _ own known same.symm)
        simp only [AuthServer.record, find?_revokeRefreshToken, if_neg hashes]
    | _ => rfl

/-! ## One session -/

/-- The token between another cookie and spaces. -/
def sessionHeaders : CookieHeaders :=
  [("theme=dark;  refresh_token=" ++ sampleToken ++ " ").toList.map fun char => char.toNat.toUInt8]

/-- A login, a refresh, a logout, and a refresh after it. -/
def session : List (Label AuthTask AuthChoice) :=
  [.arrive (.login { username := "admin", password := "U*U", totpCode := none } .attempt),
    .run 0 .proceeds, .run 0 .proceeds, .run 0 .proceeds, .run 0 .proceeds, .run 0 .proceeds,
    .run 0 (.generatesToken sampleToken), .run 0 .proceeds,
    .arrive (.refresh sessionHeaders .select), .run 1 .proceeds, .run 1 .proceeds, .run 1 .proceeds,
    .arrive (.logout sessionHeaders .revoke), .run 2 .proceeds,
    .arrive (.refresh sessionHeaders .select), .run 3 .proceeds, .run 3 .proceeds]

def AuthTask.outcome : AuthTask → Option (Except ApiError Unit)
  | .login _ (.loggedIn ..) | .refresh _ (.refreshed ..) | .logout _ .loggedOut => some (.ok ())
  | .login _ (.refused error) | .refresh _ (.refused error) | .logout _ (.refused error) =>
      some (.error error)
  | _ => none

theorem refresh_tokens_obey_session : ∃ config,
    Reach (authProgram sampleCrates) (usesTokens (· = sampleToken)) (sampleAuth sampleUser) config ∧
      config.tasks.map AuthTask.outcome = [some (.ok ()), some (.ok ()), some (.ok ()),
        some (.error (.unauthorized "Refresh token has been revoked"))] ∧
      RefreshTokensObey sampleCrates (· = sampleToken) config := by
  have distinct : DistinctHashes sampleCrates (· = sampleToken) := by
    intro token other own known _
    rw [own, known]
  have started : TokenStart sampleCrates (· = sampleToken) (sampleAuth sampleUser) := by
    refine ⟨rfl, ?_, ?_, ?_⟩
    · intro hash row found
      cases found
    · intro headers token out
      cases out
    · intro headers token row out
      cases out
  obtain ⟨config, reached, seen⟩ := Reach.of_observed (authProgram sampleCrates)
    (usesTokens (· = sampleToken)) (sampleAuth sampleUser) session
    (fun config => config.tasks.map AuthTask.outcome)
    [some (.ok ()), some (.ok ()), some (.ok ()),
      some (.error (.unauthorized "Refresh token has been revoked"))] (by decide +kernel)
  exact ⟨config, reached, seen, refresh_tokens_obey distinct started reached⟩

end OsfmEdm
