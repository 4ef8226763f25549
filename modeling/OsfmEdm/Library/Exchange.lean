import Mathlib.Logic.Function.Iterate
import Mathlib.Order.Basic

/-!
Clients that send a request, wait for its answer, and go on until they return. What a server
answers is given for the requests of each kind, in the order they are sent.
-/

namespace Exchange

/-- What a client does in a state, and the state that an answer brings it to. -/
structure Client (σ κ α ω : Type) where
  act : σ → κ ⊕ ω
  answered : σ → α → σ

/-- A client's state, and how many requests of each kind it has sent. -/
structure Progress (σ κ : Type) where
  state : σ
  sent : κ → Nat

def Progress.start {σ κ : Type} (state : σ) : Progress σ κ := { state, sent := fun _ => 0 }

@[simp] theorem Progress.start_sent {σ κ : Type} (state : σ) (kind : κ) :
    (Progress.start state).sent kind = 0 :=
  rfl

namespace Client

variable {σ κ α ω : Type} [DecidableEq κ]

def advance (client : Client σ κ α ω) (answers : κ → Nat → α) (now : Progress σ κ) :
    Progress σ κ :=
  match client.act now.state with
  | .inl kind =>
      { state := client.answered now.state (answers kind (now.sent kind))
        sent := Function.update now.sent kind (now.sent kind + 1) }
  | .inr _ => now

def Returns (client : Client σ κ α ω) (answers : κ → Nat → α) (now : Progress σ κ)
    (outcome : ω) : Prop :=
  ∃ n, client.act ((client.advance answers)^[n] now).state = .inr outcome

/-- The client returns, and has sent no more than `limit` of each kind. -/
structure Ends (client : Client σ κ α ω) (answers : κ → Nat → α) (limit : κ → Nat)
    (now : Progress σ κ) (outcome : ω) : Prop where
  returns : client.Returns answers now outcome
  sent : ∀ n kind, ((client.advance answers)^[n] now).sent kind ≤ limit kind

variable {client : Client σ κ α ω} {answers : κ → Nat → α} {limit : κ → Nat}
  {now : Progress σ κ} {outcome other : ω}

theorem advance_sends {kind : κ} (sends : client.act now.state = .inl kind) :
    client.advance answers now =
      { state := client.answered now.state (answers kind (now.sent kind))
        sent := Function.update now.sent kind (now.sent kind + 1) } := by
  simp only [advance, sends]

theorem advance_returned (returned : client.act now.state = .inr outcome) :
    client.advance answers now = now := by
  simp only [advance, returned]

theorem iterate_returned (returned : client.act now.state = .inr outcome) (n : Nat) :
    (client.advance answers)^[n] now = now :=
  Function.iterate_fixed (advance_returned returned) n

theorem sent_le_advance (kind : κ) : now.sent kind ≤ (client.advance answers now).sent kind := by
  cases acts : client.act now.state with
  | inl sends =>
      rw [advance_sends acts]
      by_cases same : kind = sends
      · subst same
        simp
      · simp [Function.update_of_ne same]
  | inr outcome => exact Nat.le_of_eq (by rw [advance_returned acts])

theorem returns_returned (returned : client.act now.state = .inr outcome) :
    client.Returns answers now other ↔ outcome = other := by
  constructor
  · rintro ⟨n, returns⟩
    rw [iterate_returned returned, returned] at returns
    exact Sum.inr.inj returns
  · rintro rfl
    exact ⟨0, returned⟩

theorem returns_advance :
    client.Returns answers now outcome ↔
      client.Returns answers (client.advance answers now) outcome := by
  constructor
  · rintro ⟨n, returns⟩
    cases n with
    | zero =>
        have returned : client.act now.state = .inr outcome := returns
        rw [advance_returned returned]
        exact ⟨0, returned⟩
    | succ n => exact ⟨n, returns⟩
  · rintro ⟨n, returns⟩
    exact ⟨n + 1, returns⟩

theorem ends_returned (returned : client.act now.state = .inr outcome) :
    client.Ends answers limit now other ↔
      outcome = other ∧ ∀ kind, now.sent kind ≤ limit kind := by
  constructor
  · rintro ⟨returns, sent⟩
    exact ⟨(returns_returned returned).mp returns, sent 0⟩
  · rintro ⟨same, sent⟩
    refine ⟨(returns_returned returned).mpr same, fun n kind => ?_⟩
    rw [iterate_returned returned]
    exact sent kind

theorem ends_advance :
    client.Ends answers limit now outcome ↔
      client.Ends answers limit (client.advance answers now) outcome := by
  constructor
  · rintro ⟨returns, sent⟩
    exact ⟨returns_advance.mp returns, fun n => sent (n + 1)⟩
  · rintro ⟨returns, sent⟩
    refine ⟨returns_advance.mpr returns, fun n kind => ?_⟩
    cases n with
    | zero => exact Nat.le_trans (sent_le_advance kind) (sent 0 kind)
    | succ n => exact sent n kind

/-- A client that has sent too much does not get back below the limit. -/
theorem not_ends (kind : κ) (above : limit kind < now.sent kind) :
    ¬ client.Ends answers limit now outcome :=
  fun ends => absurd (ends.sent 0 kind) (Nat.not_le.mpr above)

/-- A client that has not returned and goes on waiting after every answer never returns. -/
theorem never_returns {Waits : Progress σ κ → Prop} (waits : Waits now)
    (again : ∀ now, Waits now →
      (∃ kind, client.act now.state = .inl kind) ∧ Waits (client.advance answers now)) :
    ¬ client.Returns answers now outcome := by
  rintro ⟨n, returns⟩
  induction n generalizing now with
  | zero =>
      obtain ⟨⟨kind, sends⟩, -⟩ := again now waits
      have returned : client.act now.state = .inr outcome := returns
      rw [sends] at returned
      cases returned
  | succ n ih => exact ih (again now waits).2 returns

end Client

end Exchange
