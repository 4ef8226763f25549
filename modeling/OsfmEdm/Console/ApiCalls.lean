import Mathlib.Tactic.MkIffOfInductiveProp
import OsfmEdm.Dashboard.ApiCalls

/-!
`Api::call` of the console (`osfm-edm-console/src/api.rs`) and how it ends beside the dashboard's
`api`, when the server gives both the same answers.
-/

namespace OsfmEdm

open JsonText Exchange

namespace Console

structure ApiErrBody where
  code : String
  message : String

structure Envelope (α : Type) where
  data : Option α
  error : Option ApiErrBody

structure LoginData where
  accessToken : String

/-- `ApiError`; the texts of the HTTP library are left out. -/
inductive ApiError where
  | request
  | message (text : String)
  | http (status : Nat) (text : String)

def ApiErrBody.decode (body : Json) : Option ApiErrBody := do
  let members ← body.fields? ["code", "message"]
  let code ← requiredMember members "code" Codec.text.decode
  let message ← requiredMember members "message" Codec.text.decode
  return { code, message }

def LoginData.decode (body : Json) : Option LoginData := do
  let members ← body.fields? ["access_token"]
  let accessToken ← requiredMember members "access_token" Codec.text.decode
  return { accessToken }

def Envelope.decode {α : Type} (decode : Json → Option α) (body : Json) : Option (Envelope α) := do
  let members ← body.fields? ["data", "error"]
  let data ← optionalMember members "data" decode
  let error ← optionalMember members "error" ApiErrBody.decode
  return { data, error }

def callOnce {α : Type} (decode : Json → Option α) : ApiAnswer → Except ApiError α
  | .fails => .error .request
  | .response res =>
      match res.body.bind (Envelope.decode decode) with
      | none => .error .request
      | some env =>
          match env.data, res.isOk && env.error.isNone with
          | some data, true => .ok data
          | _, _ =>
              .error (.http res.status ((env.error.map (·.message)).getD
                ("request failed (" ++ toString res.status ++ ")")))

/-- Whether a new access token is set. -/
def refresh (answer : ApiAnswer) : Bool :=
  match callOnce LoginData.decode answer with
  | .ok _ => true
  | .error _ => false

inductive ApiCall (α : Type) where
  | first
  | refreshing
  | second
  | returned (outcome : Except ApiError α)

def sessionExpired : ApiError := .message "session expired — sign in again"

def call {α : Type} (decode : Json → Option α) (path : String) :
    Client (ApiCall α) ApiSend ApiAnswer (Except ApiError α) where
  act
    | .first | .second => .inl .request
    | .refreshing => .inl .refresh
    | .returned outcome => .inr outcome
  answered
    | .first, answer =>
        match callOnce decode answer with
        | .error (.http 401 text) =>
            if isAuthPath path then .returned (.error (.http 401 text)) else .refreshing
        | other => .returned other
    | .refreshing, answer => if refresh answer then .second else .returned (.error sessionExpired)
    | .second, answer => .returned (callOnce decode answer)
    | .returned outcome, _ => .returned outcome

end Console

/-! ## What the clients find in a response -/

/-- A member that is not repeated is the property of its name. -/
theorem property_of_once {members : List (String × Json)} {name : String} {found : Option Json}
    (read : once members name = some found) :
    Dashboard.property name (.object members) = found := by
  rw [Dashboard.property, ← List.head?_filter, List.filter_reverse]
  rw [once] at read
  split at read
  next absent =>
      rw [absent]
      exact Option.some.inj read
  next member present =>
      rw [present]
      exact Option.some.inj read
  next => cases read

namespace Dashboard

variable {format : FloatFormat} {answer : ApiAnswer}

def HasData (format : FloatFormat) : ApiAnswer → Prop
  | .fails => False
  | .response res => res.isOk = true ∧ ∃ body, res.body = some body ∧ body ≠ .null ∧
      truthy format (property "error" body) = false ∧ property "data" body ≠ some .null

theorem isNull_eq_false_iff {value : Option Json} : isNull value = false ↔ value ≠ some .null := by
  cases value with
  | none => simp [isNull]
  | some value => cases value <;> simp [isNull]

theorem parseEnvelope_ok_iff {res : HttpResponse} {data : Option Json} :
    parseEnvelope format res = .ok data ↔
      HasData format (.response res) ∧ res.body.bind (property "data") = data := by
  rw [parseEnvelope, HasData]
  split
  next none => simp [none]
  next null => simp [null]
  next body value present =>
      have notNull : body ≠ .null := value
      simp only [present, Option.some.injEq, exists_eq_left', Option.bind_some,
        ← isNull_eq_false_iff]
      cases res.isOk <;> cases truthy format (property "error" body) <;>
        cases isNull (property "data" body) <;> simp [notNull]

theorem readAnswer_ok_iff :
    (∃ data, readAnswer format answer = .ok data) ↔ HasData format answer := by
  cases answer with
  | fails => simp [readAnswer, HasData]
  | response res => simp [readAnswer, parseEnvelope_ok_iff]

end Dashboard

namespace Console

variable {α : Type} {decode : Json → Option α} {answer : ApiAnswer}

/-- The console finds data of the right type in the response. -/
def HasData (decode : Json → Option α) : ApiAnswer → Prop
  | .fails => False
  | .response res => res.isOk = true ∧ ∃ body members data value, res.body = some body ∧
      body.fields? ["data", "error"] = some members ∧
      once members "data" = some (some data) ∧ data ≠ .null ∧ decode data = some value ∧
      (once members "error" = some none ∨ once members "error" = some (some .null))

theorem envelope_decode_iff {body : Json} {env : Envelope α} :
    Envelope.decode decode body = some env ↔ ∃ members,
      body.fields? ["data", "error"] = some members ∧
      optionalMember members "data" decode = some env.data ∧
      optionalMember members "error" ApiErrBody.decode = some env.error := by
  simp only [Envelope.decode, Option.bind_eq_bind, Option.bind_eq_some_iff, Option.pure_def,
    Option.some.injEq]
  constructor
  · rintro ⟨members, fields, data, found, error, failed, rfl⟩
    exact ⟨members, fields, found, failed⟩
  · rintro ⟨members, fields, found, failed⟩
    exact ⟨members, fields, _, found, _, failed, rfl⟩

theorem callOnce_ok_iff {res : HttpResponse} {value : α} :
    callOnce decode (.response res) = .ok value ↔ res.isOk = true ∧
      res.body.bind (Envelope.decode decode) = some ⟨some value, none⟩ := by
  rw [callOnce]
  cases read : res.body.bind (Envelope.decode decode) with
  | none => simp
  | some env =>
      obtain ⟨data, error⟩ := env
      cases data <;> cases error <;> cases res.isOk <;> simp

theorem callOnce_hasData_iff : (∃ value, callOnce decode answer = .ok value) ↔
    HasData decode answer := by
  cases answer with
  | fails => simp [callOnce, HasData]
  | response res =>
      simp only [callOnce_ok_iff, HasData, Option.bind_eq_some_iff, envelope_decode_iff,
        optionalMember_some_iff, optionalMember_none_iff]
      constructor
      · rintro ⟨value, ok, body, present, members, fields, ⟨data, found, notNull, decoded⟩, error⟩
        exact ⟨ok, body, members, data, value, present, fields, found, notNull, decoded, error⟩
      · rintro ⟨ok, body, members, data, value, present, fields, found, notNull, decoded, error⟩
        exact ⟨value, ok, body, present, members, fields, ⟨data, found, notNull, decoded⟩, error⟩

/-! ## The turns of the console's call -/

/-- The response is the server's envelope, whatever its status. -/
def HasEnvelope (decode : Json → Option α) : ApiAnswer → Prop
  | .fails => False
  | .response res => ∃ env, res.body.bind (Envelope.decode decode) = some env

def Unauthorized (decode : Json → Option α) (path : String) (answer : ApiAnswer) : Prop :=
  answer.Expired path ∧ HasEnvelope decode answer

theorem unauthorized_iff {path : String} :
    Unauthorized decode path answer ↔
      isAuthPath path = false ∧ ∃ text, callOnce decode answer = .error (.http 401 text) := by
  rw [Unauthorized]
  cases answer with
  | fails => simp [ApiAnswer.Expired, callOnce]
  | response res =>
      simp only [ApiAnswer.Expired, HasEnvelope, callOnce]
      cases res.body.bind (Envelope.decode decode) with
      | none => simp
      | some env =>
          obtain ⟨data, error⟩ := env
          by_cases status : res.status = 401
          · simp [HttpResponse.isOk, status]
          · cases data <;> cases error <;> cases res.isOk <;> simp [status]

/-- What a call makes of the answer to a request that it does not send again. -/
def readFirst (decode : Json → Option α) (path : String) (answer : ApiAnswer) :
    Except ApiError α :=
  match callOnce decode answer with
  | .error (.http 401 text) =>
      if isAuthPath path then .error (.http 401 text) else .error sessionExpired
  | other => other

theorem readFirst_ok_iff {path : String} {value : α} :
    readFirst decode path answer = .ok value ↔ callOnce decode answer = .ok value := by
  rw [readFirst]
  split
  next text read => split <;> simp [read]
  next other => rfl

variable {path : String} {answers : ApiAnswers} {outcome : Except ApiError α}

theorem first_unauthorized (unauthorized : Unauthorized decode path answer) :
    (call decode path).answered .first answer = .refreshing ∧
      readFirst decode path answer = .error sessionExpired := by
  obtain ⟨outside, text, read⟩ := unauthorized_iff.mp unauthorized
  simp [call, readFirst, read, outside]

theorem first_returned (authorized : ¬ Unauthorized decode path answer) :
    (call decode path).answered .first answer = .returned (readFirst decode path answer) := by
  rw [unauthorized_iff] at authorized
  simp only [call, readFirst]
  split
  next text read =>
      have inside : isAuthPath path = true := by
        by_contra outside
        exact authorized ⟨by simpa using outside, text, read⟩
      simp [inside]
  next other => rfl

def Retries (decode : Json → Option α) (path : String) (answers : ApiAnswers) : Prop :=
  Unauthorized decode path (answers .request 0) ∧ refresh (answers .refresh 0) = true

theorem advance_first (decode : Json → Option α) (path : String) (answers : ApiAnswers) :
    (call decode path).advance answers (.start .first) =
      { state := (call decode path).answered .first (answers .request 0)
        sent := Function.update (fun _ => 0) .request 1 } :=
  rfl

theorem advance_refreshing (decode : Json → Option α) (path : String) (answers : ApiAnswers) :
    (call decode path).advance answers
        { state := .refreshing, sent := Function.update (fun _ => 0) .request 1 } =
      { state := if refresh (answers .refresh 0) then .second
          else .returned (.error sessionExpired)
        sent := fun _ => 1 } := by
  have counted : Function.update (Function.update (fun _ => 0) .request 1) ApiSend.refresh 1 =
      fun _ => 1 := by
    funext kind
    cases kind <;> rfl
  exact congrArg (Progress.mk _) counted

theorem advance_second (decode : Json → Option α) (path : String) (answers : ApiAnswers) :
    (call decode path).advance answers { state := .second, sent := fun _ => 1 } =
      { state := .returned (callOnce decode (answers .request 1))
        sent := Function.update (fun _ => 1) .request 2 } :=
  rfl

theorem call_ends_retried (retries : Retries decode path answers) :
    (call decode path).Ends answers sendsAtMost (.start .first) outcome ↔
      callOnce decode (answers .request 1) = outcome := by
  rw [Client.ends_advance, advance_first, (first_unauthorized retries.1).1]
  rw [Client.ends_advance, advance_refreshing, if_pos retries.2]
  rw [Client.ends_advance, advance_second]
  exact ends_within rfl (by simp) (by simp)

theorem call_ends_single (single : ¬ Retries decode path answers) :
    (call decode path).Ends answers sendsAtMost (.start .first) outcome ↔
      readFirst decode path (answers .request 0) = outcome := by
  rw [Client.ends_advance, advance_first]
  by_cases unauthorized : Unauthorized decode path (answers .request 0)
  · have refused : ¬ refresh (answers .refresh 0) = true := fun refreshed =>
      single ⟨unauthorized, refreshed⟩
    obtain ⟨waits, read⟩ := first_unauthorized unauthorized
    rw [waits, Client.ends_advance, advance_refreshing, if_neg refused, read]
    exact ends_within rfl (by simp) (by simp)
  · rw [first_returned unauthorized]
    exact ends_within rfl (by simp) (by simp)

end Console

/-! ## Both clients -/

section

variable {α : Type} {format : FloatFormat} {decode : Json → Option α} {path : String}
  {answers : ApiAnswers} {answer : ApiAnswer}

/-- Both outcomes are errors, or the console's value is the dashboard's data. -/
def SameOutcome (decode : Json → Option α) :
    Except Dashboard.Thrown (Option Json) → Except Console.ApiError α → Prop
  | .ok (some data), .ok value => decode data = some value
  | .error _, .error _ => True
  | _, _ => False

def EndAlike (format : FloatFormat) (decode : Json → Option α) (path : String)
    (answers : ApiAnswers) : Prop :=
  ∃ thrown outcome,
    (Dashboard.api format path).Ends answers sendsAtMost (.start .requesting) thrown ∧
    (Console.call decode path).Ends answers sendsAtMost (.start .first) outcome ∧
    SameOutcome decode thrown outcome

def ApiAnswer.IsObject : ApiAnswer → Prop
  | .fails => False
  | .response res => ∃ members, res.body = some (.object members)

/-- Both clients find data in the answer, which is an object, or neither does. -/
def ReadAlike (format : FloatFormat) (decode : Json → Option α) (answer : ApiAnswer) : Prop :=
  (Dashboard.HasData format answer ↔ Console.HasData decode answer) ∧
    (Console.HasData decode answer → answer.IsObject)

theorem sameOutcome_object {res : HttpResponse} {value : α} {data : Option Json}
    (object : (ApiAnswer.response res).IsObject)
    (found : Console.callOnce decode (.response res) = .ok value)
    (read : Dashboard.parseEnvelope format res = .ok data) :
    SameOutcome decode (.ok data) (.ok value) := by
  obtain ⟨members, body⟩ := object
  obtain ⟨-, decoded⟩ := Console.callOnce_ok_iff.mp found
  obtain ⟨-, same⟩ := Dashboard.parseEnvelope_ok_iff.mp read
  rw [body, Option.bind_some] at decoded same
  obtain ⟨_, fields, present, -⟩ := Console.envelope_decode_iff.mp decoded
  rw [Json.fields?_object, Option.some.injEq] at fields
  subst fields
  obtain ⟨member, once, -, typed⟩ := optionalMember_some_iff.mp present
  rw [← same, property_of_once once]
  exact typed

theorem not_sameOutcome_array {res : HttpResponse} {value : α} {data : Option Json}
    (array : ¬ (ApiAnswer.response res).IsObject)
    (read : Dashboard.parseEnvelope format res = .ok data) :
    ¬ SameOutcome decode (.ok data) (.ok value) := by
  obtain ⟨-, same⟩ := Dashboard.parseEnvelope_ok_iff.mp read
  have undefined : data = none := by
    rw [← same, Option.bind_eq_none_iff]
    intro body present
    cases body with
    | object members => exact absurd ⟨members, present⟩ array
    | _ => rfl
  rw [undefined]
  exact id

theorem sameOutcome_iff {outcome : Except Console.ApiError α}
    (first : ∀ value, outcome = .ok value ↔ Console.callOnce decode answer = .ok value) :
    SameOutcome decode (Dashboard.readAnswer format answer) outcome ↔
      ReadAlike format decode answer := by
  rw [ReadAlike, ← Dashboard.readAnswer_ok_iff, ← Console.callOnce_hasData_iff]
  simp only [← first]
  cases answer with
  | fails =>
      cases outcome with
      | ok value => cases (first value).mp rfl
      | error error => simp [Dashboard.readAnswer, SameOutcome]
  | response res =>
      change SameOutcome decode (Dashboard.parseEnvelope format res) outcome ↔
        ((∃ data, Dashboard.parseEnvelope format res = .ok data) ↔ _) ∧ _
      cases read : Dashboard.parseEnvelope format res with
      | error thrown => cases outcome <;> simp [SameOutcome]
      | ok data =>
          cases outcome with
          | error error => cases data <;> simp [SameOutcome]
          | ok value =>
              by_cases object : (ApiAnswer.response res).IsObject
              · simpa [object] using sameOutcome_object object ((first value).mp rfl) read
              · simpa [object] using not_sameOutcome_array object read

theorem ApiAnswer.Expired.not_hasData (expired : answer.Expired path) :
    ¬ Dashboard.HasData format answer ∧ ¬ Console.HasData decode answer := by
  cases answer with
  | fails => exact ⟨id, id⟩
  | response res =>
      have failed : res.isOk = false := by simp [HttpResponse.isOk, expired.1]
      simp [Dashboard.HasData, Console.HasData, failed]

theorem sameOutcome_thrown {data : Except Dashboard.Thrown (Option Json)}
    {outcome : Except Console.ApiError α} (failed : ∀ value, outcome ≠ .ok value) :
    SameOutcome decode data outcome ↔ ¬ ∃ value, data = .ok value := by
  cases outcome with
  | ok value => exact absurd rfl (failed value)
  | error error =>
      cases data with
      | error thrown => simp [SameOutcome]
      | ok data => cases data <;> simp [SameOutcome]

theorem sameOutcome_failed {data : Except Dashboard.Thrown (Option Json)}
    {outcome : Except Console.ApiError α} (threw : ∀ value, data ≠ .ok value) :
    SameOutcome decode data outcome ↔ ¬ ∃ value, outcome = .ok value := by
  cases data with
  | ok value => exact absurd rfl (threw value)
  | error thrown => cases outcome <;> simp [SameOutcome]

/-- Where each call has one way to end, the two ends are compared. -/
theorem endAlike_iff {ends : Prop} {data : Except Dashboard.Thrown (Option Json)}
    {outcome : Except Console.ApiError α}
    (dashboard : ∀ other, (Dashboard.api format path).Ends answers sendsAtMost
      (.start .requesting) other ↔ ends ∧ data = other)
    (console : ∀ other, (Console.call decode path).Ends answers sendsAtMost
      (.start .first) other ↔ outcome = other) :
    EndAlike format decode path answers ↔ ends ∧ SameOutcome decode data outcome := by
  simp only [EndAlike, dashboard, console]
  constructor
  · rintro ⟨_, _, ⟨ends, rfl⟩, rfl, same⟩
    exact ⟨ends, same⟩
  · rintro ⟨ends, same⟩
    exact ⟨data, outcome, ⟨ends, rfl⟩, rfl, same⟩

/-- No second 401 after a refresh, and answers that the clients read alike, or as a failure
where one of the two clients alone takes them for the request. -/
@[mk_iff]
structure EndsOnce (format : FloatFormat) (decode : Json → Option α) (path : String)
    (answers : ApiAnswers) : Prop where
  authorized : Dashboard.Retries format path answers → ¬ (answers .request 1).Expired path
  second : Dashboard.Retries format path answers → Console.Retries decode path answers →
    ReadAlike format decode (answers .request 1)
  dashboard : Dashboard.Retries format path answers → ¬ Console.Retries decode path answers →
    ¬ Dashboard.HasData format (answers .request 1)
  console : ¬ Dashboard.Retries format path answers → Console.Retries decode path answers →
    ¬ Console.HasData decode (answers .request 1)
  first : ¬ Dashboard.Retries format path answers → ¬ Console.Retries decode path answers →
    ReadAlike format decode (answers .request 0)

theorem client_calls_iff (format : FloatFormat) {α : Type} (decode : Json → Option α)
    (path : String) (answers : ApiAnswers) :
    EndAlike format decode path answers ↔ EndsOnce format decode path answers := by
  rw [endsOnce_iff]
  by_cases retries : Dashboard.Retries format path answers
  · have expired : ¬ Dashboard.HasData format (answers .request 0) ∧
        ¬ Console.HasData decode (answers .request 0) := retries.1.not_hasData
    by_cases both : Console.Retries decode path answers
    · rw [endAlike_iff (fun other => Dashboard.api_ends_retried retries)
        (fun other => Console.call_ends_retried both), sameOutcome_iff fun value => Iff.rfl]
      simp only [retries, both, true_implies, not_true_eq_false, false_implies, and_true]
    · have failed : ∀ value, Console.readFirst decode path (answers .request 0) ≠ .ok value := by
        intro value read
        rw [Console.readFirst_ok_iff] at read
        exact expired.2 (Console.callOnce_hasData_iff.mp ⟨value, read⟩)
      rw [endAlike_iff (fun other => Dashboard.api_ends_retried retries)
        (fun other => Console.call_ends_single both), sameOutcome_thrown failed,
        Dashboard.readAnswer_ok_iff]
      simp only [retries, both, true_implies, not_true_eq_false, false_implies, and_true,
        not_false_eq_true, true_and]
  · have single : ∀ other, (Dashboard.api format path).Ends answers sendsAtMost
        (.start .requesting) other ↔
          True ∧ Dashboard.readAnswer format (answers .request 0) = other := by
      intro other
      rw [true_and]
      exact Dashboard.api_ends_single retries
    by_cases alone : Console.Retries decode path answers
    · have expired : ¬ Dashboard.HasData format (answers .request 0) ∧
        ¬ Console.HasData decode (answers .request 0) := alone.1.1.not_hasData
      have threw : ∀ value, Dashboard.readAnswer format (answers .request 0) ≠ .ok value :=
        fun value read => expired.1 (Dashboard.readAnswer_ok_iff.mp ⟨value, read⟩)
      rw [endAlike_iff single (fun other => Console.call_ends_retried alone),
        sameOutcome_failed threw, Console.callOnce_hasData_iff]
      simp only [retries, alone, true_implies, not_true_eq_false, false_implies, and_true,
        not_false_eq_true, true_and]
    · rw [endAlike_iff single (fun other => Console.call_ends_single alone),
        sameOutcome_iff fun value => Console.readFirst_ok_iff]
      simp only [retries, alone, true_implies, false_implies, not_false_eq_true, true_and]

/-- The bodies that the server writes (`error.rs` and the handlers). -/
def dataBody (data : Json) : Json := .object [("data", data), ("error", .null)]

def errorBody (code message : String) : Json :=
  .object [("data", .null),
    ("error", .object [("code", .string code), ("message", .string message)])]

/-- What the server writes is read alike, where the console's type has its data. -/
theorem readAlike_server {res : HttpResponse}
    (data : res.isOk = true → ∃ data value, data ≠ .null ∧ decode data = some value ∧
      res.body = some (dataBody data)) :
    ReadAlike format decode (.response res) := by
  cases ok : res.isOk with
  | false => simp [ReadAlike, Dashboard.HasData, Console.HasData, ok]
  | true =>
      obtain ⟨data, value, notNull, typed, body⟩ := data ok
      have dashboard : Dashboard.HasData format (.response res) := by
        refine ⟨ok, _, body, by simp [dataBody], rfl, ?_⟩
        simpa [Dashboard.property, dataBody] using notNull
      have console : Console.HasData decode (.response res) :=
        ⟨ok, _, _, data, value, body, rfl, rfl, notNull, typed, .inr rfl⟩
      exact ⟨iff_of_true dashboard console, fun _ => ⟨_, body⟩⟩

/-- A server that answers every request with 401 and every refresh with a token. -/
def expiring : ApiAnswers
  | .request, _ => .response
      { status := 401, statusText := "Unauthorized"
        body := some (errorBody "UNAUTHORIZED" "Unauthorized: Invalid token") }
  | .refresh, _ => .response
      { status := 200, statusText := "OK"
        body := some (dataBody (.object [("access_token", .string "token")])) }

/-- Doubles of which only the digits before the point are written. -/
def wholeNumbers : FloatFormat where
  print value := .ofNat value.num.natAbs
  parse number := some number.whole

theorem call_never_ends :
    ¬ EndAlike wholeNumbers some "/api/v1/devices" expiring ∧
      (∀ outcome, ¬ (Dashboard.api wholeNumbers "/api/v1/devices").Returns expiring
        (.start .requesting) outcome) ∧
      (((Dashboard.api wholeNumbers "/api/v1/devices").advance expiring)^[5]
        (.start .requesting)).sent .request = 3 := by
  have expired : ∀ turn, (expiring .request turn).Expired "/api/v1/devices" := fun turn =>
    ⟨rfl, by decide⟩
  have token : Dashboard.Refreshed wholeNumbers (expiring .refresh 0) := by decide
  have refreshed : ∀ turn, Dashboard.Refreshed wholeNumbers (expiring .refresh turn) :=
    fun turn => token
  refine ⟨?_, fun outcome returns => ?_, by decide⟩
  · rintro ⟨thrown, outcome, ends, -⟩
    have retries : Dashboard.Retries wholeNumbers "/api/v1/devices" expiring :=
      ⟨expired 0, refreshed 0⟩
    exact ((Dashboard.api_ends_retried retries).mp ends).1 (expired 1)
  · obtain ⟨turn, stops⟩ := Dashboard.api_returns_iff.mp ⟨outcome, returns⟩
    exact stops ⟨expired turn, refreshed turn⟩

end

end OsfmEdm
