import Mathlib.Algebra.GroupWithZero.Nat
import Mathlib.Data.List.Basic

/-!
Tasks that run interleaved over a shared state. A step of a task changes the shared state
and replaces the task by what it becomes: nothing when it ends, the task further on, or
that and the tasks it spawned. New tasks arrive at any time.
-/

namespace Interleaving

structure Program (σ τ ε : Type) where
  request : τ → Bool
  step : σ → τ → ε → Option (σ × List τ)

structure Config (σ τ : Type) where
  shared : σ
  tasks : List τ

inductive Label (τ ε : Type) where
  | arrive (task : τ)
  | run (index : Nat) (choice : ε)

variable {σ τ ε : Type}

/-- The labels of a program, for the same program beside another. -/
def Label.first {υ ζ : Type} : Label τ ε → Label (τ ⊕ υ) (ε ⊕ ζ)
  | .arrive task => .arrive (.inl task)
  | .run index choice => .run index (.inl choice)

/-- A condition on a step: the shared state, the other tasks, the task that moves and how it
moves. -/
abbrev Guard (σ τ ε : Type) := σ → List τ → τ → ε → Prop

def Guard.any : Guard σ τ ε := fun _ _ _ _ => True

instance (shared : σ) (others : List τ) (task : τ) (choice : ε) :
    Decidable (Guard.any shared others task choice) :=
  inferInstanceAs (Decidable True)

section

variable (program : Program σ τ ε) (guard : Guard σ τ ε)
  [∀ shared others task choice, Decidable (guard shared others task choice)]

/-- One step of a schedule; none when it is not possible or does not meet the guard. -/
def Program.next (config : Config σ τ) : Label τ ε → Option (Config σ τ)
  | .arrive task =>
      if program.request task then some ⟨config.shared, config.tasks ++ [task]⟩ else none
  | .run index choice =>
      match config.tasks[index]? with
      | none => none
      | some task =>
          if guard config.shared (config.tasks.take index ++ config.tasks.drop (index + 1)) task
              choice then
            match program.step config.shared task choice with
            | none => none
            | some (shared, new) =>
                some ⟨shared, config.tasks.take index ++ new ++ config.tasks.drop (index + 1)⟩
          else none

def Program.run (config : Config σ τ) : List (Label τ ε) → Option (Config σ τ)
  | [] => some config
  | label :: labels =>
      match Program.next program guard config label with
      | none => none
      | some config => Program.run config labels

end

variable (program : Program σ τ ε)

/-- The configurations of the runs from `start` whose steps all meet `guard`. -/
inductive Reach (guard : Guard σ τ ε) (start : Config σ τ) : Config σ τ → Prop where
  | start : Reach guard start start
  | arrive {shared : σ} {tasks : List τ} {task : τ} (before : Reach guard start ⟨shared, tasks⟩)
      (request : program.request task = true) : Reach guard start ⟨shared, tasks ++ [task]⟩
  | run {shared shared' : σ} {before after new : List τ} {task : τ} {choice : ε}
      (reached : Reach guard start ⟨shared, before ++ task :: after⟩)
      (meets : guard shared (before ++ after) task choice)
      (moved : program.step shared task choice = some (shared', new)) :
      Reach guard start ⟨shared', before ++ new ++ after⟩

variable {program} {guard : Guard σ τ ε} {start : Config σ τ}

theorem Reach.trans {middle last : Config σ τ} (first : Reach program guard start middle)
    (second : Reach program guard middle last) : Reach program guard start last := by
  induction second with
  | start => exact first
  | arrive _ request ih => exact .arrive ih request
  | run _ meets moved ih => exact .run ih meets moved

section

variable [∀ shared others task choice, Decidable (guard shared others task choice)]

theorem Reach.next {config after : Config σ τ} {label : Label τ ε}
    (reached : Reach program guard start config)
    (moved : program.next guard config label = some after) : Reach program guard start after := by
  cases label with
  | arrive task =>
      simp only [Program.next] at moved
      split at moved
      · rename_i request
        cases moved
        exact .arrive reached request
      · cases moved
  | run index choice =>
      simp only [Program.next] at moved
      split at moved
      · cases moved
      rename_i task found
      split at moved
      · rename_i meets
        split at moved
        · cases moved
        rename_i shared new stepped
        cases moved
        obtain ⟨shared, tasks⟩ := config
        obtain ⟨bound, same⟩ := List.getElem?_eq_some_iff.mp found
        have tasksSplit : tasks = tasks.take index ++ task :: tasks.drop (index + 1) := by
          rw [← same, List.getElem_cons_drop, List.take_append_drop]
        rw [tasksSplit] at reached
        exact .run reached meets stepped
      · cases moved

theorem Reach.of_run {labels : List (Label τ ε)} {config after : Config σ τ}
    (reached : Reach program guard start config)
    (ran : program.run guard config labels = some after) : Reach program guard start after := by
  induction labels generalizing config with
  | nil =>
      cases ran
      exact reached
  | cons label labels ih =>
      simp only [Program.run] at ran
      split at ran
      · cases ran
      · rename_i next moved
        exact ih (reached.next moved) ran

variable (program guard)

/-- The configuration a schedule ends in, by something observed of it. -/
theorem Reach.of_observed {α : Type} (config : Config σ τ) (labels : List (Label τ ε))
    (observe : Config σ τ → α) (value : α)
    (ran : (program.run guard config labels).map observe = some value) :
    ∃ after, Reach program guard config after ∧ observe after = value := by
  obtain ⟨after, reached, same⟩ := Option.map_eq_some_iff.mp ran
  exact ⟨after, .of_run .start reached, same⟩

/-- Two configurations of one schedule, the second after the first. -/
theorem Reach.of_observed_twice {α : Type} (config : Config σ τ) (first second : List (Label τ ε))
    (observe : Config σ τ → α) (value last : α)
    (ran : ((program.run guard config first).bind fun middle =>
      (program.run guard middle second).map fun after => (observe middle, observe after)) =
        some (value, last)) :
    ∃ middle after, Reach program guard config middle ∧ Reach program guard middle after ∧
      observe middle = value ∧ observe after = last := by
  obtain ⟨middle, reached, rest⟩ := Option.bind_eq_some_iff.mp ran
  obtain ⟨after, later, same⟩ := Option.map_eq_some_iff.mp rest
  cases same
  exact ⟨middle, after, .of_run .start reached, .of_run .start later, rfl, rfl⟩

end

/-! ## One task on its way -/

/-- One step of a task: the state it finds, how it goes, and the state it leaves. -/
structure Stride (σ ε : Type) where
  before : σ
  choice : ε
  after : σ

/-- The steps of a task up to what it has become. Other tasks may change the state between two of
them. -/
inductive Follows (program : Program σ τ ε) : τ → List (Stride σ ε) → τ → Prop where
  | here {task : τ} : Follows program task [] task
  | step {shared shared' : σ} {task next last : τ} {choice : ε} {strides : List (Stride σ ε)}
      (moved : program.step shared task choice = some (shared', [next]))
      (rest : Follows program next strides last) :
      Follows program task (⟨shared, choice, shared'⟩ :: strides) last

/-- The steps of a task that runs alone. -/
def Program.alone (program : Program σ τ ε) (shared : σ) (task : τ) :
    List ε → Option (List (Stride σ ε) × τ)
  | [] => some ([], task)
  | choice :: choices =>
      match program.step shared task choice with
      | some (shared', [next]) =>
          (program.alone shared' next choices).map fun (strides, last) =>
            (⟨shared, choice, shared'⟩ :: strides, last)
      | _ => none

theorem Follows.of_alone {choices : List ε} {shared : σ} {task last : τ}
    {strides : List (Stride σ ε)}
    (ran : program.alone shared task choices = some (strides, last)) :
    Follows program task strides last := by
  induction choices generalizing shared task strides with
  | nil =>
      cases ran
      exact .here
  | cons choice choices ih =>
      simp only [Program.alone] at ran
      split at ran
      · rename_i shared' next moved
        obtain ⟨⟨later, final⟩, rest, same⟩ := Option.map_eq_some_iff.mp ran
        cases same
        exact .step moved (ih rest)
      · cases ran

/-- A task that runs alone, by something observed of its steps and its end. -/
theorem Follows.of_observed {α : Type} (program : Program σ τ ε) (shared : σ) (task : τ)
    (choices : List ε) (observe : List (Stride σ ε) → τ → α) (value : α)
    (ran : (program.alone shared task choices).map (fun run => observe run.1 run.2) = some value) :
    ∃ strides last, Follows program task strides last ∧ observe strides last = value := by
  obtain ⟨⟨strides, last⟩, moved, same⟩ := Option.map_eq_some_iff.mp ran
  exact ⟨strides, last, .of_alone moved, same⟩

/-! ## The other tasks -/

section

variable {before after new : List τ} {task other : τ}

theorem mem_of_others (task : τ) (member : other ∈ before ++ after) :
    other ∈ before ++ task :: after := by
  simp only [List.mem_append, List.mem_cons] at member ⊢
  tauto

theorem mem_others (member : other ∈ before ++ task :: after) (different : other ≠ task) :
    other ∈ before ++ after := by
  simp only [List.mem_append, List.mem_cons] at member ⊢
  tauto

theorem mem_beside (new : List τ) (member : other ∈ before ++ after) :
    other ∈ before ++ new ++ after := by
  simp only [List.mem_append] at member ⊢
  tauto

theorem mem_other (member : other ∈ before ++ task :: after) (different : other ≠ task) :
    other ∈ before ++ new ++ after :=
  mem_beside new (mem_others member different)

/-- A task after a step is one that the step has made, or one that was there before. -/
theorem mem_stepped (member : other ∈ before ++ new ++ after) :
    other ∈ new ∨ other ∈ before ++ after := by
  simp only [List.mem_append] at member ⊢
  tauto

end

/-! ## Invariants -/

/-- A fact about whole configurations, where each configuration is known to be reached. -/
theorem Reach.carry (fact : Config σ τ → Prop) (first : fact start)
    (arrive : ∀ shared tasks task, Reach program guard start ⟨shared, tasks⟩ →
      fact ⟨shared, tasks⟩ → program.request task = true → fact ⟨shared, tasks ++ [task]⟩)
    (run : ∀ shared shared' before after new task choice,
      Reach program guard start ⟨shared, before ++ task :: after⟩ →
      fact ⟨shared, before ++ task :: after⟩ → guard shared (before ++ after) task choice →
      program.step shared task choice = some (shared', new) → fact ⟨shared', before ++ new ++ after⟩)
    {config : Config σ τ} (reached : Reach program guard start config) : fact config := by
  induction reached with
  | start => exact first
  | arrive before request ih => exact arrive _ _ _ before ih request
  | run before meets moved ih => exact run _ _ _ _ _ _ _ before ih meets moved

theorem Reach.invariant (inv : Config σ τ → Prop) (initial : inv start)
    (arrive : ∀ shared tasks task, inv ⟨shared, tasks⟩ → program.request task = true →
      inv ⟨shared, tasks ++ [task]⟩)
    (run : ∀ shared shared' before after new task choice, inv ⟨shared, before ++ task :: after⟩ →
      guard shared (before ++ after) task choice →
      program.step shared task choice = some (shared', new) →
      inv ⟨shared', before ++ new ++ after⟩)
    {config : Config σ τ} (reached : Reach program guard start config) : inv config :=
  reached.carry inv initial (fun shared tasks task _ => arrive shared tasks task)
    fun shared shared' before after new task choice _ =>
      run shared shared' before after new task choice

/-- A proof outline: an invariant of the shared state and an annotation of each task. A step
keeps the invariant, annotates what the task becomes, and keeps the annotations of the
other tasks. -/
structure Outline (program : Program σ τ ε) (guard : Guard σ τ ε) (inv : σ → Prop)
    (ann : σ → τ → Prop) : Prop where
  arrive : ∀ shared task, inv shared → program.request task = true → ann shared task
  step : ∀ shared others task choice shared' new, inv shared → ann shared task →
    (∀ other ∈ others, ann shared other) → guard shared others task choice →
    program.step shared task choice = some (shared', new) →
    inv shared' ∧ ∀ task ∈ new, ann shared' task
  stable : ∀ shared others task choice shared' new, inv shared → ann shared task →
    guard shared others task choice → program.step shared task choice = some (shared', new) →
    ∀ other ∈ others, ann shared other → ann shared' other

structure Annotated (inv : σ → Prop) (ann : σ → τ → Prop) (config : Config σ τ) : Prop where
  shared : inv config.shared
  tasks : ∀ task ∈ config.tasks, ann config.shared task

theorem Outline.holds {inv : σ → Prop} {ann : σ → τ → Prop}
    (outline : Outline program guard inv ann) (initial : Annotated inv ann start)
    {config : Config σ τ} (reached : Reach program guard start config) :
    Annotated inv ann config := by
  refine reached.invariant (Annotated inv ann) initial ?_ ?_
  · intro shared tasks task holds request
    refine ⟨holds.shared, ?_⟩
    intro other member
    rcases List.mem_append.mp member with old | new
    · exact holds.tasks other old
    · rw [List.mem_singleton.mp new]
      exact outline.arrive shared task holds.shared request
  · intro shared shared' before after new task choice holds meets moved
    have own : ann shared task := holds.tasks task (by simp)
    have others : ∀ other ∈ before ++ after, ann shared other :=
      fun other member => holds.tasks other (mem_of_others task member)
    have stepped := outline.step _ _ _ _ _ _ holds.shared own others meets moved
    refine ⟨stepped.1, ?_⟩
    intro other member
    rcases mem_stepped member with spawned | old
    · exact stepped.2 other spawned
    · exact outline.stable _ _ _ _ _ _ holds.shared own meets moved other old (others other old)

/-- A fact about each task that nothing shared bears on. -/
theorem Reach.each_task (fact : τ → Prop) (initial : ∀ task ∈ start.tasks, fact task)
    (arrive : ∀ task, program.request task = true → fact task)
    (step : ∀ shared others task choice shared' new, fact task → guard shared others task choice →
      program.step shared task choice = some (shared', new) → ∀ next ∈ new, fact next)
    {config : Config σ τ} (reached : Reach program guard start config) :
    ∀ task ∈ config.tasks, fact task := by
  have outline : Outline program guard (fun _ => True) (fun _ => fact) :=
    { arrive := fun _ task _ request => arrive task request
      step := fun shared others task choice shared' new _ own _ meets moved =>
        ⟨trivial, step shared others task choice shared' new own meets moved⟩
      stable := fun _ _ _ _ _ _ _ _ _ _ _ _ holds => holds }
  exact (outline.holds ⟨trivial, initial⟩ reached).tasks

/-- Beside an outline, a fact about whole configurations may use the annotations. -/
theorem Outline.carry {inv : σ → Prop} {ann : σ → τ → Prop}
    (outline : Outline program guard inv ann) (initial : Annotated inv ann start)
    (fact : Config σ τ → Prop) (first : fact start)
    (arrive : ∀ shared tasks task, Annotated inv ann ⟨shared, tasks⟩ → fact ⟨shared, tasks⟩ →
      program.request task = true → fact ⟨shared, tasks ++ [task]⟩)
    (run : ∀ shared shared' before after new task choice,
      Annotated inv ann ⟨shared, before ++ task :: after⟩ →
      fact ⟨shared, before ++ task :: after⟩ → guard shared (before ++ after) task choice →
      program.step shared task choice = some (shared', new) → fact ⟨shared', before ++ new ++ after⟩)
    {config : Config σ τ} (reached : Reach program guard start config) : fact config := by
  have both : Annotated inv ann config ∧ fact config := by
    induction reached with
    | start => exact ⟨initial, first⟩
    | arrive _ request ih =>
        exact ⟨outline.holds ih.1 (.arrive .start request), arrive _ _ _ ih.1 ih.2 request⟩
    | run _ meets moved ih =>
        exact ⟨outline.holds ih.1 (.run .start meets moved), run _ _ _ _ _ _ _ ih.1 ih.2 meets moved⟩
  exact both.2

/-! ## Two programs over one state -/

section

variable {υ ζ : Type}

/-- Tasks of two programs that share their state. -/
def Program.beside (program : Program σ τ ε) (other : Program σ υ ζ) :
    Program σ (τ ⊕ υ) (ε ⊕ ζ) where
  request := Sum.elim program.request other.request
  step shared
    | .inl task, .inl choice =>
        (program.step shared task choice).map fun (shared, new) => (shared, new.map .inl)
    | .inr task, .inr choice =>
        (other.step shared task choice).map fun (shared, new) => (shared, new.map .inr)
    | _, _ => none

/-- The tasks of the first program. -/
def firsts (tasks : List (τ ⊕ υ)) : List τ := tasks.filterMap Sum.getLeft?

@[simp] theorem firsts_nil : firsts ([] : List (τ ⊕ υ)) = [] := rfl

@[simp] theorem firsts_append (tasks more : List (τ ⊕ υ)) :
    firsts (tasks ++ more) = firsts tasks ++ firsts more := by
  simp [firsts]

@[simp] theorem firsts_cons_inl (task : τ) (tasks : List (τ ⊕ υ)) :
    firsts (.inl task :: tasks) = task :: firsts tasks := rfl

@[simp] theorem firsts_cons_inr (task : υ) (tasks : List (τ ⊕ υ)) :
    firsts (.inr task :: tasks) = firsts tasks := rfl

@[simp] theorem firsts_map_inl (tasks : List τ) : firsts (tasks.map (.inl : τ → τ ⊕ υ)) = tasks := by
  induction tasks with
  | nil => rfl
  | cons task tasks ih => simp [ih]

@[simp] theorem firsts_map_inr (tasks : List υ) : firsts (tasks.map (.inr : υ → τ ⊕ υ)) = [] := by
  induction tasks with
  | nil => rfl
  | cons task tasks ih => simp [ih]

theorem mem_firsts {tasks : List (τ ⊕ υ)} {task : τ} : task ∈ firsts tasks ↔ .inl task ∈ tasks := by
  simp [firsts, List.mem_filterMap, Sum.getLeft?_eq_some_iff]

/-- A fact about the first program beside another: carried by its own steps as if it ran alone,
and kept by the steps of the other. -/
theorem Reach.beside {other : Program σ υ ζ} {guard : Guard σ (τ ⊕ υ) (ε ⊕ ζ)}
    {start : Config σ (τ ⊕ υ)} (fact : σ → List τ → Prop)
    (first : fact start.shared (firsts start.tasks))
    (arrive : ∀ shared tasks task, fact shared tasks → program.request task = true →
      fact shared (tasks ++ [task]))
    (run : ∀ shared shared' before after new task choice others,
      fact shared (before ++ task :: after) → guard shared others (.inl task) (.inl choice) →
      program.step shared task choice = some (shared', new) → fact shared' (before ++ new ++ after))
    (beside : ∀ shared shared' tasks new task choice others, fact shared tasks →
      guard shared others (.inr task) (.inr choice) →
      other.step shared task choice = some (shared', new) → fact shared' tasks)
    {config : Config σ (τ ⊕ υ)} (reached : Reach (program.beside other) guard start config) :
    fact config.shared (firsts config.tasks) := by
  refine reached.invariant (fun config => fact config.shared (firsts config.tasks)) first ?_ ?_
  · intro shared tasks task holds request
    cases task with
    | inl task => simpa using arrive _ _ task holds request
    | inr task => simpa using holds
  · intro shared shared' before after new task choice holds meets moved
    cases task with
    | inl task =>
        cases choice with
        | inr choice => cases moved
        | inl choice =>
            simp only [Program.beside, Option.map_eq_some_iff, Prod.mk.injEq] at moved
            obtain ⟨⟨middle, own⟩, stepped, rfl, rfl⟩ := moved
            simpa using run _ _ _ _ _ _ _ _ (by simpa using holds) meets stepped
    | inr task =>
        cases choice with
        | inl choice => cases moved
        | inr choice =>
            simp only [Program.beside, Option.map_eq_some_iff, Prod.mk.injEq] at moved
            obtain ⟨⟨middle, own⟩, stepped, rfl, rfl⟩ := moved
            simpa using beside _ _ _ _ _ _ _ (by simpa using holds) meets stepped

end

/-! ## One step function -/

/-- A system whose parties are all in its state; the choice says who moves. -/
def Program.single (act : σ → ε → Option σ) : Program σ Unit ε where
  request _ := false
  step shared _ choice := (act shared choice).map fun shared => (shared, [()])

def Config.single (shared : σ) : Config σ Unit := ⟨shared, [()]⟩

section

variable {act : σ → ε → Option σ} {own : Guard σ Unit ε} {first : σ} {config : Config σ Unit}

theorem Reach.single_alone (reached : Reach (Program.single act) own (.single first) config) :
    config.tasks = [()] := by
  refine reached.invariant (fun config => config.tasks = [()]) rfl ?_ ?_
  · intro shared tasks task _ request
    cases request
  · intro shared shared' before after new task choice alone _ moved
    obtain ⟨_, _, same⟩ := Option.map_eq_some_iff.mp moved
    cases same
    cases task
    exact (List.append_assoc ..).trans alone

theorem Reach.single_move {shared shared' : σ}
    (reached : Reach (Program.single act) own (.single first) (.single shared)) (choice : ε)
    (meets : own shared [] () choice) (moved : act shared choice = some shared') :
    Reach (Program.single act) own (.single first) (.single shared') := by
  have found : Reach (Program.single act) own (.single first) ⟨shared, [] ++ () :: []⟩ := reached
  have stepped : (Program.single act).step shared () choice = some (shared', [()]) :=
    congrArg (Option.map fun shared => (shared, [()])) moved
  exact found.run meets stepped

theorem Reach.single_invariant (inv : σ → Prop) (initial : inv first)
    (move : ∀ shared shared' choice, inv shared → own shared [] () choice →
      act shared choice = some shared' → inv shared')
    (reached : Reach (Program.single act) own (.single first) config) : inv config.shared := by
  refine reached.carry (fun config => inv config.shared) initial ?_ ?_
  · intro shared tasks task _ _ request
    cases request
  · intro shared shared' before after new task choice here holds meets moved
    obtain ⟨_, acted, same⟩ := Option.map_eq_some_iff.mp moved
    cases same
    have alone := here.single_alone
    obtain ⟨none, rest⟩ | ⟨_, _, rest⟩ := List.append_eq_cons_iff.mp alone
    · obtain ⟨-, last⟩ := List.cons.inj rest
      subst none last
      exact move _ _ _ holds meets acted
    · simp at rest

end

/-! ## Tasks of one kind -/

section

variable {α : Type} (pick : τ → Option α)

/-- What `pick` finds in the tasks, in their order. -/
def selected (tasks : List τ) : List α := tasks.filterMap pick

variable {pick}

@[simp] theorem selected_nil : selected pick [] = [] := rfl

@[simp] theorem selected_append (tasks more : List τ) :
    selected pick (tasks ++ more) = selected pick tasks ++ selected pick more :=
  List.filterMap_append

@[simp] theorem selected_cons (task : τ) (tasks : List τ) :
    selected pick (task :: tasks) = (pick task).toList ++ selected pick tasks := by
  unfold selected
  cases found : pick task <;> simp [found]

theorem mem_selected {tasks : List τ} {value : α} :
    value ∈ selected pick tasks ↔ ∃ task ∈ tasks, pick task = some value :=
  List.mem_filterMap

variable (pick) in
/-- The one task that is found. -/
theorem lone_task {before after : List τ} {task : τ} {own value : α} (picked : pick task = some own)
    (one : selected pick (before ++ task :: after) = [value]) :
    own = value ∧ selected pick before = [] ∧ selected pick after = [] := by
  rw [selected_append, selected_cons, picked] at one
  rcases List.append_eq_cons_iff.mp one with ⟨none, rest⟩ | ⟨tail, -, rest⟩
  · obtain ⟨same, last⟩ := List.cons.inj rest
    exact ⟨same, none, last⟩
  · simp at rest

end

/-! ## Counting over tasks -/

def total {α : Type} (weight : α → Nat) (items : List α) : Nat := (items.map weight).sum

@[simp] theorem total_nil {α : Type} (weight : α → Nat) : total weight [] = 0 := rfl

@[simp] theorem total_cons {α : Type} (weight : α → Nat) (item : α) (items : List α) :
    total weight (item :: items) = weight item + total weight items := by
  simp [total]

@[simp] theorem total_append {α : Type} (weight : α → Nat) (first second : List α) :
    total weight (first ++ second) = total weight first + total weight second := by
  simp [total]

theorem total_pos {α : Type} {weight : α → Nat} {items : List α} {item : α} (member : item ∈ items)
    (positive : 0 < weight item) : 0 < total weight items := by
  induction items with
  | nil => cases member
  | cons first rest ih =>
      simp only [total_cons]
      rcases List.mem_cons.mp member with same | later
      · rw [← same]
        omega
      · have := ih later
        omega

theorem total_eq_zero {α : Type} {weight : α → Nat} {items : List α}
    (none : ∀ item ∈ items, weight item = 0) : total weight items = 0 := by
  induction items with
  | nil => rfl
  | cons first rest ih =>
      simp only [total_cons, none first List.mem_cons_self, Nat.zero_add]
      exact ih fun item member => none item (List.mem_cons_of_mem _ member)

theorem countP_eq_total {α : Type} (test : α → Bool) (items : List α) :
    items.countP test = total (fun item => if test item then 1 else 0) items := by
  induction items with
  | nil => rfl
  | cons item items ih =>
      simp only [List.countP_cons, total_cons, ih]
      omega

theorem total_modify {α : Type} (weight : α → Nat) (change : α → α) {items : List α} {index : Nat}
    {item : α} (found : items[index]? = some item) :
    total weight (items.modify index change) + weight item =
      total weight items + weight (change item) := by
  induction items generalizing index with
  | nil => cases found
  | cons first rest ih =>
      cases index with
      | zero =>
          cases found
          simp only [List.modify_zero_cons, total_cons]
          omega
      | succ index =>
          have later := ih found
          simp only [List.modify_succ_cons, total_cons]
          omega

theorem total_modify_same {α : Type} {weight : α → Nat} {change : α → α}
    (same : ∀ item, weight (change item) = weight item) (items : List α) (index : Nat) :
    total weight (items.modify index change) = total weight items := by
  induction items generalizing index with
  | nil => simp
  | cons first rest ih =>
      cases index with
      | zero => simp [same]
      | succ index => simp [ih]

theorem exists_of_total_pos {α : Type} {weight : α → Nat} {items : List α}
    (positive : 0 < total weight items) : ∃ item ∈ items, 0 < weight item := by
  by_contra absent
  have zero : total weight items = 0 := by
    apply total_eq_zero
    intro item member
    by_contra nonzero
    exact absent ⟨item, member, by omega⟩
  omega

/-- What is in a section that a task enters only while it is empty: one item at most, counting what
the tasks have left behind in the shared state. -/
theorem Reach.at_most_one (left : σ → Nat) (weight : τ → Nat)
    (initial : left start.shared + total weight start.tasks ≤ 1)
    (arrive : ∀ task, program.request task = true → weight task = 0)
    (run : ∀ shared others task choice shared' new, guard shared others task choice →
      program.step shared task choice = some (shared', new) →
      left shared' + total weight new ≤ left shared + weight task ∨
        left shared' + total weight new ≤ 1 ∧ total weight others = 0)
    {config : Config σ τ} (reached : Reach program guard start config) :
    left config.shared + total weight config.tasks ≤ 1 := by
  refine reached.invariant (fun config => left config.shared + total weight config.tasks ≤ 1)
    initial ?_ ?_
  · intro shared tasks task holds request
    simpa [arrive task request] using holds
  · intro shared shared' before after new task choice holds meets moved
    simp only [total_append, total_cons] at holds ⊢
    rcases run _ _ _ _ _ _ meets moved with kept | ⟨entered, empty⟩
    · omega
    · simp only [total_append] at empty
      omega

/-- A debt that grows only with a credit, where a task may hold some of it. -/
theorem Reach.at_most (debt credit : σ → Nat) (weight : τ → Nat)
    (initial : debt start.shared + total weight start.tasks ≤ credit start.shared)
    (arrive : ∀ task, program.request task = true → weight task = 0)
    (run : ∀ shared others task choice shared' new, guard shared others task choice →
      program.step shared task choice = some (shared', new) →
      debt shared' + total weight new + credit shared ≤
        debt shared + weight task + credit shared')
    {config : Config σ τ} (reached : Reach program guard start config) :
    debt config.shared + total weight config.tasks ≤ credit config.shared := by
  refine reached.invariant
    (fun config => debt config.shared + total weight config.tasks ≤ credit config.shared)
    initial ?_ ?_
  · intro shared tasks task holds request
    simpa [arrive task request] using holds
  · intro shared shared' before after new task choice holds meets moved
    have step := run _ _ _ _ _ _ meets moved
    simp only [total_append, total_cons] at holds ⊢
    omega

end Interleaving
