/-!
Sequential code over a shared state, written with `do` and cut into atomic steps: other code may
change the state between two of them. The rules are those of rely and guarantee.
-/

namespace Resumption

/-- Finished, or a step that is possible in some states, with the code after it. -/
inductive Proc (σ ε α : Type) where
  | done (value : α)
  | step (move : σ → ε → Option σ) (next : σ → ε → Proc σ ε α)

variable {σ ε ω α β : Type}

namespace Proc

def bind (code : Proc σ ε α) (rest : α → Proc σ ε β) : Proc σ ε β :=
  match code with
  | .done value => rest value
  | .step move next => .step move fun state choice => (next state choice).bind rest

instance : Monad (Proc σ ε) where
  pure := .done
  bind := .bind

/-- One step, with the code that is left. -/
def advance (code : Proc σ ε α) (state : σ) (choice : ε) : Option (σ × Proc σ ε α) :=
  match code with
  | .done _ => none
  | .step move next => (move state choice).map fun after => (after, next state choice)

/-- While the others take `rely` steps only, every step is a `change`, and what comes out has
`post`. -/
def Meets (rely change : σ → σ → Prop) (post : α → σ → Prop) : Proc σ ε α → σ → Prop
  | .done value, state => post value state
  | .step move next, state => ∀ now choice after, rely state now → move now choice = some after →
      change now after ∧ (next now choice).Meets rely change post after

variable {rely change : σ → σ → Prop} {state : σ}

theorem meets_bind {code : Proc σ ε α} {rest : α → Proc σ ε β} {post : β → σ → Prop}
    (meets : code.Meets rely change (fun value => (rest value).Meets rely change post) state) :
    (code.bind rest).Meets rely change post state := by
  induction code generalizing state with
  | done value => exact meets
  | step move next ih =>
      intro now choice after relied moved
      obtain ⟨changed, later⟩ := meets now choice after relied moved
      exact ⟨changed, ih now choice later⟩

theorem Meets.weaken {code : Proc σ ε α} {post weaker : α → σ → Prop}
    (meets : code.Meets rely change post state)
    (weaken : ∀ value final, post value final → weaker value final) :
    code.Meets rely change weaker state := by
  induction code generalizing state with
  | done value => exact weaken value state meets
  | step move next ih =>
      intro now choice after relied moved
      obtain ⟨changed, later⟩ := meets now choice after relied moved
      exact ⟨changed, ih now choice later⟩

theorem Meets.stable {code : Proc σ ε α} {post : α → σ → Prop} {now : σ}
    (meets : code.Meets rely change post state)
    (trans : ∀ last, rely now last → rely state last)
    (kept : ∀ value, post value state → post value now) : code.Meets rely change post now := by
  cases code with
  | done value => exact kept value meets
  | step move next => exact fun last choice after later => meets last choice after (trans last later)

theorem Meets.advance {code rest : Proc σ ε α} {post : α → σ → Prop} {after : σ} {choice : ε}
    (meets : code.Meets rely change post state) (relied : rely state state)
    (moved : code.advance state choice = some (after, rest)) :
    change state after ∧ rest.Meets rely change post after := by
  cases code with
  | done value => cases moved
  | step move next =>
      obtain ⟨own, stepped, same⟩ := Option.map_eq_some_iff.mp moved
      cases same
      exact meets state choice after relied stepped

end Proc

/-! ## Code that may fail -/

/-- Code that ends early with an error. -/
abbrev Fallible (σ ε ω α : Type) := ExceptT ω (Proc σ ε) α

namespace Fallible

variable (rely change : σ → σ → Prop)

/-- `post` is about the values only: after an error there is nothing to meet. -/
def Meets (post : α → σ → Prop) (code : Fallible σ ε ω α) (state : σ) : Prop :=
  code.run.Meets rely change (fun result final => ∀ value, result = .ok value → post value final)
    state

/-- From every state, and whatever comes out. -/
def Keeps (code : Fallible σ ε ω α) : Prop := ∀ state, code.Meets rely change (fun _ _ => True) state

variable {rely change}

theorem meets_bind {code : Fallible σ ε ω α} {rest : α → Fallible σ ε ω β} {post : β → σ → Prop}
    {state : σ}
    (meets : code.Meets rely change (fun value => (rest value).Meets rely change post) state) :
    (code >>= rest).Meets rely change post state := by
  refine Proc.meets_bind (Proc.Meets.weaken meets ?_)
  intro result final holds
  cases result with
  | ok value => exact holds value rfl
  | error error => exact fun _ same => nomatch same

theorem Keeps.meets {code : Fallible σ ε ω α} {post : α → σ → Prop} (keeps : code.Keeps rely change)
    (holds : ∀ value state, post value state) (state : σ) : code.Meets rely change post state :=
  Proc.Meets.weaken (keeps state) fun _ final _ value _ => holds value final

theorem keeps_pure (value : α) : (pure value : Fallible σ ε ω α).Keeps rely change :=
  fun _ _ _ => trivial

theorem keeps_throw (error : ω) : (throw error : Fallible σ ε ω α).Keeps rely change :=
  fun _ _ _ => trivial

theorem keeps_bind {code : Fallible σ ε ω α} {rest : α → Fallible σ ε ω β}
    (first : code.Keeps rely change) (later : ∀ value, (rest value).Keeps rely change) :
    (code >>= rest).Keeps rely change :=
  fun state => meets_bind (first.meets later state)

theorem keeps_discard {code : Fallible σ ε ω α} (keeps : code.Keeps rely change) :
    Fallible.Keeps rely change (discard code) :=
  keeps_bind keeps fun _ => keeps_pure _

theorem keeps_tryCatch {code : Fallible σ ε ω α} {recover : ω → Fallible σ ε ω α}
    (first : code.Keeps rely change) (later : ∀ error, (recover error).Keeps rely change) :
    (tryCatch code recover).Keeps rely change := by
  intro state
  refine Proc.meets_bind (Proc.Meets.weaken (first state) ?_)
  intro result final _
  cases result with
  | ok value => exact fun _ _ => trivial
  | error error => exact later error final

theorem keeps_forM {items : List β} {body : β → Fallible σ ε ω Unit}
    (each : ∀ item, (body item).Keeps rely change) : (items.forM body).Keeps rely change := by
  induction items with
  | nil => exact keeps_pure ()
  | cons item items ih => exact keeps_bind (each item) fun _ => ih

end Fallible

end Resumption
