import OsfmEdm.Library.Exchange
import OsfmEdm.Library.JsonCodec

/-!
`api` and `refreshAccessToken` of the dashboard (`lib/api.ts`), and how often they send.
-/

namespace OsfmEdm

open JsonText Exchange

/-- What an API client sends in a call: the request, or the one for a new access token. -/
inductive ApiSend where
  | request
  | refresh
deriving DecidableEq

/-- A response; the body is the JSON value its text spells, if it spells one. -/
structure HttpResponse where
  status : Nat
  statusText : String
  body : Option Json

/-- What comes back; `fails` when there is no response. -/
inductive ApiAnswer where
  | fails
  | response (res : HttpResponse)

abbrev ApiAnswers := ApiSend → Nat → ApiAnswer

def HttpResponse.isOk (res : HttpResponse) : Bool := 200 ≤ res.status && res.status < 300

/-- `path.startsWith("/api/v1/auth/")`. -/
def isAuthPath (path : String) : Bool := "/api/v1/auth/".toList.isPrefixOf path.toList

namespace Dashboard

/-- `ApiError`, or the error that the language throws. -/
inductive Thrown where
  | apiError (status : Nat) (code message : Json)
  | typeError

/-- A property of a value that is not `null`, where `none` is `undefined`. -/
def property (name : String) : Json → Option Json
  | .object members => (members.reverse.find? fun member => member.1 == name).map (·.2)
  | _ => none

/-- Whether a condition on the value holds. -/
def truthy (format : FloatFormat) : Option Json → Bool
  | none | some .null => false
  | some (.bool value) => value
  | some (.number number) => format.parse number != some 0
  | some (.string text) => text != ""
  | some (.array _) | some (.object _) => true

/-- `value === null`. -/
def isNull : Option Json → Bool
  | some .null => true
  | _ => false

/-- `value?.name ?? other`. -/
def propertyOr (name : String) (other : Json) : Option Json → Json
  | none | some .null => other
  | some value =>
      match property name value with
      | none | some .null => other
      | some found => found

variable (format : FloatFormat)

/-- The data of a response, where `none` is `undefined`. -/
def parseEnvelope (res : HttpResponse) : Except Thrown (Option Json) :=
  match res.body with
  | none =>
      .error (.apiError res.status (.string "INVALID_JSON")
        (.string (if res.statusText = "" then "Invalid response" else res.statusText)))
  | some .null => .error .typeError
  | some body =>
      let error := property "error" body
      if !res.isOk || truthy format error || isNull (property "data" body) then
        .error (.apiError res.status (propertyOr "code" (.string "HTTP_ERROR") error)
          (propertyOr "message"
            (.string ("Request failed (" ++ toString res.status ++ ")")) error))
      else .ok (property "data" body)

/-- The new access token, where `none` is `null` or `undefined`. -/
def refreshAccessToken : ApiAnswer → Option Json
  | .fails => none
  | .response res =>
      if !res.isOk then none
      else
        match parseEnvelope format res with
        | .ok (some data) => property "access_token" data
        | .ok none | .error _ => none

inductive ApiCall where
  | requesting
  | refreshing (res : HttpResponse)
  | returned (outcome : Except Thrown (Option Json))

variable (path : String)

def api : Client ApiCall ApiSend ApiAnswer (Except Thrown (Option Json)) where
  act
    | .requesting => .inl .request
    | .refreshing _ => .inl .refresh
    | .returned outcome => .inr outcome
  answered
    | .requesting, .fails => .returned (.error .typeError)
    | .requesting, .response res =>
        if res.status = 401 && !isAuthPath path then .refreshing res
        else .returned (parseEnvelope format res)
    -- `return api<T>(path, init)`: the call starts again.
    | .refreshing res, answer =>
        if truthy format (refreshAccessToken format answer) then .requesting
        else .returned (parseEnvelope format res)
    | .returned outcome, _ => .returned outcome

end Dashboard

/-! ## The turns of the dashboard's call -/

/-- A response 401 on a path outside `/api/v1/auth/`. -/
def ApiAnswer.Expired (path : String) : ApiAnswer → Prop
  | .fails => False
  | .response res => res.status = 401 ∧ isAuthPath path = false

instance (path : String) (answer : ApiAnswer) : Decidable (answer.Expired path) :=
  match answer with
  | .fails => .isFalse id
  | .response res => inferInstanceAs (Decidable (res.status = 401 ∧ isAuthPath path = false))

def sendsAtMost : ApiSend → Nat
  | .request => 2
  | .refresh => 1

theorem ends_within {σ ω : Type} {client : Client σ ApiSend ApiAnswer ω} {answers : ApiAnswers}
    {now : Progress σ ApiSend} {outcome other : ω} (returned : client.act now.state = .inr outcome)
    (requests : now.sent .request ≤ 2) (refreshes : now.sent .refresh ≤ 1) :
    client.Ends answers sendsAtMost now other ↔ outcome = other := by
  rw [Client.ends_returned returned]
  refine and_iff_left_of_imp fun _ kind => ?_
  cases kind with
  | request => exact requests
  | refresh => exact refreshes

namespace Dashboard

variable (format : FloatFormat) (path : String) (answers : ApiAnswers)

/-- What a call makes of an answer that is no 401. -/
def readAnswer : ApiAnswer → Except Thrown (Option Json)
  | .fails => .error .typeError
  | .response res => parseEnvelope format res

def Refreshed (answer : ApiAnswer) : Prop := truthy format (refreshAccessToken format answer) = true

instance (answer : ApiAnswer) : Decidable (Refreshed format answer) :=
  inferInstanceAs (Decidable (_ = true))

variable {format path answers} {now : Progress ApiCall ApiSend}

theorem act_requesting (state : now.state = .requesting) :
    (api format path).act now.state = .inl .request := by
  rw [state]
  rfl

theorem act_refreshing {res : HttpResponse} (state : now.state = .refreshing res) :
    (api format path).act now.state = .inl .refresh := by
  rw [state]
  rfl

theorem act_returned {outcome : Except Thrown (Option Json)}
    (state : now.state = .returned outcome) :
    (api format path).act now.state = .inr outcome := by
  rw [state]
  rfl

variable (format path answers) in
theorem advance_requesting (state : now.state = .requesting) :
    ((api format path).advance answers now).sent =
        Function.update now.sent .request (now.sent .request + 1) ∧
      ((answers .request (now.sent .request)).Expired path →
        ∃ res, ((api format path).advance answers now).state = .refreshing res ∧
          answers .request (now.sent .request) = .response res) ∧
      (¬ (answers .request (now.sent .request)).Expired path →
        ((api format path).advance answers now).state =
          .returned (readAnswer format (answers .request (now.sent .request)))) := by
  rw [Client.advance_sends (act_requesting state), state]
  cases answers .request (now.sent .request) with
  | fails => exact ⟨rfl, False.elim, fun _ => rfl⟩
  | response res =>
      refine ⟨rfl, fun expired => ⟨res, ?_, rfl⟩, fun current => ?_⟩
      · exact if_pos (by simpa [ApiAnswer.Expired] using expired)
      · exact if_neg (by simpa [ApiAnswer.Expired] using current)

variable (format path answers) in
theorem advance_refreshing {res : HttpResponse} (state : now.state = .refreshing res) :
    ((api format path).advance answers now).sent =
        Function.update now.sent .refresh (now.sent .refresh + 1) ∧
      (Refreshed format (answers .refresh (now.sent .refresh)) →
        ((api format path).advance answers now).state = .requesting) ∧
      (¬ Refreshed format (answers .refresh (now.sent .refresh)) →
        ((api format path).advance answers now).state =
          .returned (parseEnvelope format res)) := by
  rw [Client.advance_sends (act_refreshing state), state]
  exact ⟨rfl, fun refreshed => if_pos refreshed, fun refused => if_neg refused⟩

/-- The turn that begins with the request: it is sent, and the token refreshed where it expired. -/
theorem advance_turn {turn : Nat} (state : now.state = .requesting)
    (sent : ∀ kind, now.sent kind = turn)
    (expired : (answers .request turn).Expired path)
    (refreshed : Refreshed format (answers .refresh turn)) :
    ((api format path).advance answers ((api format path).advance answers now)).state =
        .requesting ∧
      ∀ kind, ((api format path).advance answers
        ((api format path).advance answers now)).sent kind = turn + 1 := by
  rw [← sent .request] at expired
  obtain ⟨counted, waits, -⟩ := advance_requesting format path answers state
  obtain ⟨res, refreshing, -⟩ := waits expired
  obtain ⟨refreshes, requests, -⟩ := advance_refreshing format path answers refreshing
  have once : ((api format path).advance answers now).sent .refresh = turn := by
    rw [counted]
    exact sent .refresh
  rw [once] at requests refreshes
  refine ⟨requests refreshed, fun kind => ?_⟩
  rw [refreshes, counted]
  cases kind with
  | request => simp [Function.update, sent]
  | refresh => simp [Function.update]

theorem turn_returns {turn : Nat} (state : now.state = .requesting)
    (sent : ∀ kind, now.sent kind = turn)
    (ends : ¬ ((answers .request turn).Expired path ∧ Refreshed format (answers .refresh turn))) :
    ∃ outcome, (api format path).Returns answers now outcome := by
  obtain ⟨counted, waits, returns⟩ := advance_requesting format path answers state
  rw [sent .request] at waits returns
  by_cases expired : (answers .request turn).Expired path
  · obtain ⟨res, refreshing, -⟩ := waits expired
    obtain ⟨-, -, refused⟩ := advance_refreshing format path answers refreshing
    have once : ((api format path).advance answers now).sent .refresh = turn := by
      rw [counted]
      exact sent .refresh
    rw [once] at refused
    exact ⟨_, 2, act_returned (refused fun refreshed => ends ⟨expired, refreshed⟩)⟩
  · exact ⟨_, 1, act_returned (returns expired)⟩

theorem turns_return {turn later : Nat} (state : now.state = .requesting)
    (sent : ∀ kind, now.sent kind = turn)
    (ends : ¬ ((answers .request (turn + later)).Expired path ∧
      Refreshed format (answers .refresh (turn + later)))) :
    ∃ outcome, (api format path).Returns answers now outcome := by
  induction later generalizing turn now with
  | zero => exact turn_returns state sent ends
  | succ later ih =>
      by_cases goesOn : (answers .request turn).Expired path ∧
        Refreshed format (answers .refresh turn)
      · obtain ⟨requesting, counted⟩ := advance_turn state sent goesOn.1 goesOn.2
        rw [Nat.add_comm later, ← Nat.add_assoc] at ends
        obtain ⟨outcome, returns⟩ := ih requesting counted ends
        exact ⟨outcome, Client.returns_advance.mpr (Client.returns_advance.mpr returns)⟩
      · exact turn_returns state sent goesOn

def Waits (now : Progress ApiCall ApiSend) : Prop :=
  now.state = .requesting ∨ ∃ res, now.state = .refreshing res

theorem Waits.advance (waits : Waits now)
    (goesOn : ∀ turn, (answers .request turn).Expired path ∧
      Refreshed format (answers .refresh turn)) :
    (∃ kind, (api format path).act now.state = .inl kind) ∧
      Waits ((api format path).advance answers now) := by
  rcases waits with state | ⟨res, state⟩
  · obtain ⟨-, waits, -⟩ := advance_requesting format path answers state
    obtain ⟨res, refreshing, -⟩ := waits (goesOn _).1
    exact ⟨⟨_, act_requesting state⟩, .inr ⟨res, refreshing⟩⟩
  · obtain ⟨-, requests, -⟩ := advance_refreshing format path answers state
    exact ⟨⟨_, act_refreshing state⟩, .inl (requests (goesOn _).2)⟩

/-- The call goes on for as long as requests are answered with 401 and refreshes with a token. -/
theorem api_returns_iff :
    (∃ outcome, (api format path).Returns answers (.start .requesting) outcome) ↔
      ∃ turn, ¬ ((answers .request turn).Expired path ∧
        Refreshed format (answers .refresh turn)) := by
  constructor
  · rintro ⟨outcome, returns⟩
    by_contra goesOn
    rw [not_exists_not] at goesOn
    have waits : Waits (.start .requesting) := .inl rfl
    exact Client.never_returns waits (fun now waits => waits.advance goesOn) returns
  · rintro ⟨turn, ends⟩
    rw [← Nat.zero_add turn] at ends
    exact turns_return rfl (fun kind => rfl) ends

def Retries (format : FloatFormat) (path : String) (answers : ApiAnswers) : Prop :=
  (answers .request 0).Expired path ∧ Refreshed format (answers .refresh 0)

variable {outcome : Except Thrown (Option Json)}

theorem api_ends_retried (retries : Retries format path answers) :
    (api format path).Ends answers sendsAtMost (.start .requesting) outcome ↔
      ¬ (answers .request 1).Expired path ∧
        readAnswer format (answers .request 1) = outcome := by
  have state : (Progress.start ApiCall.requesting : Progress ApiCall ApiSend).state = .requesting :=
    rfl
  obtain ⟨requesting, sent⟩ := advance_turn state (fun kind => rfl) retries.1
    retries.2
  obtain ⟨counted, waits, returns⟩ := advance_requesting format path answers requesting
  rw [sent] at counted waits returns
  rw [Client.ends_advance, Client.ends_advance, Client.ends_advance]
  by_cases expired : (answers .request 1).Expired path
  · obtain ⟨res, refreshing, -⟩ := waits expired
    obtain ⟨refreshes, -⟩ := advance_refreshing format path answers refreshing
    rw [Client.ends_advance]
    refine iff_of_false (Client.not_ends .refresh ?_) (fun both => both.1 expired)
    simp [refreshes, counted, sent, sendsAtMost]
  · rw [ends_within (act_returned (returns expired)) (by simp [counted])
      (by simp [counted, sent]), and_iff_right expired]

theorem api_ends_single (single : ¬ Retries format path answers) :
    (api format path).Ends answers sendsAtMost (.start .requesting) outcome ↔
      readAnswer format (answers .request 0) = outcome := by
  have state : (Progress.start ApiCall.requesting : Progress ApiCall ApiSend).state = .requesting :=
    rfl
  obtain ⟨counted, waits, returns⟩ := advance_requesting format path answers state
  rw [Client.ends_advance]
  by_cases expired : (answers .request 0).Expired path
  · obtain ⟨res, refreshing, answered⟩ := waits expired
    obtain ⟨refreshes, -, refused⟩ := advance_refreshing format path answers refreshing
    have last := refused fun refreshed => single ⟨expired, refreshed⟩
    have read : readAnswer format (answers .request 0) = parseEnvelope format res :=
      congrArg (readAnswer format) answered
    rw [Client.ends_advance, read]
    exact ends_within (act_returned last) (by simp [refreshes, counted])
      (by simp [refreshes, counted])
  · exact ends_within (act_returned (returns expired)) (by simp [counted]) (by simp [counted])

end Dashboard

end OsfmEdm
