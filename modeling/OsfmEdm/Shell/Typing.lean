import OsfmEdm.Fleet.Effects
import OsfmEdm.Shell.Terminals

/-!
From the handlers to the terminals: what a terminal is given was posted for its session, in order,
and nothing is lost while the connection and the agent stay up.
-/

namespace OsfmEdm

open Interleaving

/-! ## The server -/

def RemoteTask.server? : RemoteTask → Option ShellTask
  | .server task => some task
  | _ => none

namespace RemoteShells

variable {w w' : RemoteShells} {choice : RemoteChoice} {new : List RemoteTask}

/-! What a step of the whole is a step of. -/

theorem turn_server {task : ShellTask} {choice : ShellChoice}
    (moved : w.turn (.server task) (.server choice) = some (w', new)) :
    ∃ effect own, w.server.turn choice task = some (effect, own) ∧
      w.apply effect = some w' ∧ new = own.map .server := by
  obtain ⟨⟨effect, own⟩, ran, done⟩ := Option.bind_eq_some_iff.mp moved
  obtain ⟨after, applied, same⟩ := Option.map_eq_some_iff.mp done
  cases same
  exact ⟨effect, own, ran, applied, rfl⟩

theorem turn_host {owner : Uuid} {task : HostTask}
    (moved : w.turn (.host owner task) choice = some (w', new)) :
    ∃ host own, (w.hosts owner).turn task choice = some (host, own) ∧
      w' = w.updateHost owner host ∧ new = own.map (.host owner) ++ w.registering owner task := by
  have whole : ((w.hosts owner).turn task choice).map (fun ran =>
      (w.updateHost owner ran.1, ran.2.map (.host owner) ++ w.registering owner task)) =
        some (w', new) := moved
  obtain ⟨⟨host, own⟩, ran, same⟩ := Option.map_eq_some_iff.mp whole
  cases same
  exact ⟨host, own, ran, rfl, rfl⟩

theorem apply_server {effect : ShellEffect} (applied : w.apply effect = some w') :
    w'.server = w.server.apply effect := by
  unfold apply at applied
  split at applied
  · split at applied
    · split at applied <;> cases applied
      rfl
    · cases applied
  · cases applied
  · cases applied
    rfl

theorem selected_server (tasks : List ShellTask) :
    selected RemoteTask.server? (tasks.map .server) = tasks := by
  induction tasks with
  | nil => rfl
  | cons task tasks ih => simp [RemoteTask.server?, ih]

theorem selected_host (device : Uuid) (tasks : List HostTask) :
    selected RemoteTask.server? (tasks.map (.host device)) = [] := by
  induction tasks with
  | nil => rfl
  | cons task tasks ih => simp [RemoteTask.server?, ih]

theorem selected_registering (w : RemoteShells) (device : Uuid) (task : HostTask) :
    selected RemoteTask.server? (w.registering device task) = [] := by
  cases task <;> rfl

end RemoteShells

/-- The server among the agents is the server of `shellProgram`. -/
theorem remote_server {db : Database} {guard : Guard RemoteShells RemoteTask RemoteChoice}
    {config : Config RemoteShells RemoteTask}
    (reached : Reach remoteShells guard (RemoteShells.start db) config) :
    Reach shellProgram Guard.any (ShellServer.start db)
      ⟨config.shared.server, selected RemoteTask.server? config.tasks⟩ := by
  refine reached.invariant (fun config => Reach shellProgram Guard.any (ShellServer.start db)
    ⟨config.shared.server, selected RemoteTask.server? config.tasks⟩) .start ?_ ?_
  · intro shared tasks task before request
    rw [selected_append]
    cases task with
    | server task => exact .arrive before request
    | registers | host => simpa [RemoteTask.server?] using before
  · intro w w' first last new task choice before _ moved
    simp only [selected_append, selected_cons] at before ⊢
    cases task with
    | server task =>
        cases choice with
        | server choice =>
            obtain ⟨effect, own, ran, applied, rfl⟩ := RemoteShells.turn_server moved
            rw [RemoteShells.selected_server, RemoteShells.apply_server applied]
            have stepped : shellProgram.step w.server task choice =
                some (w.server.apply effect, own) := congrArg (Option.map _) ran
            exact before.run trivial stepped
        | _ => cases moved
    | registers device link =>
        cases choice with
        | proceeds =>
            cases moved
            have waiting : Reach shellProgram Guard.any (ShellServer.start db) ⟨w.server,
                (selected RemoteTask.server? first ++ selected RemoteTask.server? last) ++
                  .connects device link :: []⟩ :=
              .arrive (by simpa [RemoteTask.server?] using before) rfl
            have stepped : shellProgram.step w.server (.connects device link) .proceeds =
                some (w.server.apply (.register device link), []) := rfl
            simpa using waiting.run trivial stepped
        | _ => cases moved
    | host device task =>
        obtain ⟨host, own, _, rfl, rfl⟩ := RemoteShells.turn_host moved
        simpa [RemoteShells.selected_host, RemoteShells.selected_registering, RemoteTask.server?,
          RemoteShells.updateHost] using before

/-! ## Devices -/

namespace RemoteShells

variable {w w' : RemoteShells} {task : RemoteTask} {choice : RemoteChoice} {new : List RemoteTask}

/-- What a step of the whole does to one device. -/
inductive DeviceTurn (w w' : RemoteShells) (device : Uuid) : RemoteTask → RemoteChoice → Prop where
  | still {task : RemoteTask} {choice : RemoteChoice} (host : w'.hosts device = w.hosts device)
      (sent : w'.server.sentTo device = w.server.sentTo device) : DeviceTurn w w' device task choice
  | sends {task : RemoteTask} {choice : RemoteChoice} {link : Nat} {message : ServerMessage}
      (registered : w.server.app.channelOf device = some link)
      (host : w'.hosts device = (w.hosts device).push link message)
      (sent : w'.server.sentTo device = w.server.sentTo device ++ [message]) :
      DeviceTurn w w' device task choice
  | own {task : HostTask} {choice : RemoteChoice} {new : List HostTask}
      (moved : (w.hosts device).turn task choice = some (w'.hosts device, new))
      (sent : w'.server.sentTo device = w.server.sentTo device) :
      DeviceTurn w w' device (.host device task) choice

theorem apply_device {effect : ShellEffect} (applied : w.apply effect = some w') (device : Uuid) :
    DeviceTurn w w' device task choice := by
  cases effect with
  | enqueue owner message =>
      simp only [apply] at applied
      split at applied
      · rename_i link registered
        split at applied <;> cases applied
        have sent : (w.server.apply (.enqueue owner message)).sentTo device =
            w.server.sentTo device ++ if owner = device then [message] else [] :=
          ShellServer.sentTo_enqueue rfl device
        by_cases same : device = owner
        · subst same
          rw [if_pos rfl] at sent
          exact .sends registered (Function.update_self ..) sent
        · rw [if_neg (Ne.symm same), List.append_nil] at sent
          exact .still (Function.update_of_ne same ..) sent
      · cases applied
  | register => cases applied
  | _ =>
      cases applied
      exact .still rfl rfl

theorem turn_device (moved : w.turn task choice = some (w', new)) (device : Uuid) :
    DeviceTurn w w' device task choice := by
  cases task with
  | server task =>
      cases choice with
      | server choice =>
          obtain ⟨effect, own, _, applied, rfl⟩ := turn_server moved
          exact apply_device applied device
      | _ => cases moved
  | registers owner link =>
      cases choice with
      | proceeds =>
          cases moved
          exact .still rfl rfl
      | _ => cases moved
  | host owner task =>
      obtain ⟨host, own, ran, rfl, rfl⟩ := turn_host moved
      by_cases same : device = owner
      · subst same
        have there : (w.updateHost device host).hosts device = host := Function.update_self ..
        rw [← there] at ran
        exact .own ran rfl
      · exact .still (Function.update_of_ne same ..) rfl

/-- What is true of each device: its terminals, and the order of what reaches its agent. -/
structure DeviceHolds (w : RemoteShells) (device : Uuid) : Prop where
  terminals : (w.hosts device).Terminals
  inOrder : (w.hosts device).flow.Sublist (w.server.sentTo device)

end RemoteShells

theorem ShellHost.push_flow (h : ShellHost) (link : Nat) (message : ServerMessage) :
    (h.push link message).flow =
      if h.socket = some link then h.flow ++ [message] else h.flow := by
  unfold flow push
  rw [onWay_updateLink]
  unfold onWay
  cases h.socket with
  | none => rfl
  | some own =>
      by_cases same : own = link
      · simp [same, updateLink, ShellLink.carried]
      · simp [same, updateLink]

theorem device_holds {db : Database} {guard : Guard RemoteShells RemoteTask RemoteChoice}
    {config : Config RemoteShells RemoteTask}
    (reached : Reach remoteShells guard (RemoteShells.start db) config) (device : Uuid) :
    config.shared.DeviceHolds device := by
  refine reached.invariant (fun config => config.shared.DeviceHolds device)
    ⟨ShellHost.terminals_start _ rfl rfl, List.nil_sublist _⟩ (fun _ _ _ holds _ => holds) ?_
  intro w w' before after new task choice holds _ moved
  cases RemoteShells.turn_device moved device with
  | still host sent =>
      refine ⟨?_, ?_⟩
      · rw [host]
        exact holds.terminals
      · rw [host, sent]
        exact holds.inOrder
  | sends registered host sent =>
      refine ⟨?_, ?_⟩
      · rw [host]
        exact holds.terminals.still rfl rfl rfl rfl rfl
      · rw [host, sent, ShellHost.push_flow]
        split
        · exact holds.inOrder.append (List.Sublist.refl _)
        · exact holds.inOrder.trans (List.sublist_append_left _ _)
  | own moved sent =>
      refine ⟨holds.terminals.turn moved, ?_⟩
      rw [sent]
      exact (ShellHost.turn_flow moved).1.trans holds.inOrder

/-- What a terminal is given was posted for its session, each input at most once and in the order of
the handlers' sends, by the admin who opened the session on this device or by another admin. -/
theorem terminal_input {db : Database} {guard : Guard RemoteShells RemoteTask RemoteChoice}
    {config : Config RemoteShells RemoteTask}
    (reached : Reach remoteShells guard (RemoteShells.start db) config) {device : Uuid}
    {terminal : Terminal} (member : terminal ∈ (config.shared.hosts device).terminals) :
    terminal.written.Sublist
        (inputsTo terminal.session (config.shared.server.sentTo device)) ∧
      ∀ data ∈ terminal.written, ∃ auth owner,
        .server (.sendInput auth terminal.session data .sent) ∈ config.tasks ∧
        .server (.openShell owner device (.opened terminal.session)) ∈ config.tasks ∧
        owner.isAdmin = true ∧ (owner.userId = auth.userId ∨ auth.isAdmin = true) := by
  have holds := device_holds reached device
  obtain ⟨channel, found⟩ := List.getElem?_of_mem member
  obtain ⟨first, inputs, rest, split, same, _⟩ := holds.terminals.reads channel terminal found
  have written : terminal.written.Sublist
      (inputsTo terminal.session (config.shared.server.sentTo device)) := by
    have given : terminal.written.Sublist (inputsTo terminal.session inputs) :=
      same ▸ List.sublist_append_left _ _
    have handled : inputs.Sublist (config.shared.hosts device).handled := by
      rw [split]
      exact ((List.sublist_append_left _ _).cons _).trans (List.sublist_append_right _ _)
    have sent := (List.sublist_append_left _ _).trans holds.inOrder
    exact given.trans ((handled.trans sent).filterMap _)
  refine ⟨written, fun data given => ?_⟩
  have sent := ShellServer.mem_sentTo.mp (mem_inputsTo.mp (written.subset given))
  have order := sent_in_order (remote_server reached)
  obtain ⟨auth, answered, owner, opened, admin, allowed⟩ :=
    order.posted device terminal.session data sent
  have task {own : ShellTask} (there : own ∈ selected RemoteTask.server? config.tasks) :
      .server own ∈ config.tasks := by
    obtain ⟨task, member, picked⟩ := mem_selected.mp there
    cases task with
    | server other =>
        cases picked
        exact member
    | _ => cases picked
  exact ⟨auth, owner, task answered, task opened, admin, allowed⟩

/-! ## Nothing is lost -/

/-- The connection of a device and its agent stay up. -/
def undisturbed (device : Uuid) : Guard RemoteShells RemoteTask RemoteChoice :=
  fun _ _ task choice =>
    match task with
    | .host owner task => owner = device → ShellHost.disturbs task choice = false
    | _ => True

instance (device : Uuid) :
    ∀ w others task choice, Decidable (undisturbed device w others task choice) := by
  intro w others task choice
  unfold undisturbed
  split <;> infer_instance

/-- The one connection of a device carries all that was sent to it. -/
structure Whole (device : Uuid) (config : Config RemoteShells RemoteTask) : Prop where
  flow : (config.shared.hosts device).flow = config.shared.server.sentTo device
  registered : ∀ link, config.shared.server.app.channelOf device = some link →
    (config.shared.hosts device).socket = some link
  registers : ∀ link, .registers device link ∈ config.tasks →
    (config.shared.hosts device).socket = some link

theorem ShellHost.connects_socket {h h' : ShellHost} {choice : RemoteChoice} {new : List HostTask}
    (moved : h.turn .connects choice = some (h', new)) : h'.socket = some h.accepted := by
  cases choice with
  | proceeds =>
      simp only [turn] at moved
      split at moved <;> cases moved
      rfl
  | _ => cases moved

/-- The agent keeps its connection; it makes one only where it has none. -/
theorem ShellHost.turn_socket {h h' : ShellHost} {task : HostTask} {choice : RemoteChoice}
    {new : List HostTask} (moved : h.turn task choice = some (h', new))
    (calm : disturbs task choice = false) :
    h'.socket = h.socket ∨ h.socket = none := by
  unfold ShellHost.turn at moved
  split at moved
  case h_1 =>
    split at moved <;> cases moved
    rename_i alone
    exact .inr alone
  case h_5 =>
    split at moved
    · split at moved
      · split at moved <;> cases moved
        exact .inl rfl
      · cases moved
    · cases moved
  case h_6 => cases calm
  case h_7 =>
    split at moved
    · rename_i message rest inbound
      have same := congrArg Prod.fst (Option.some.inj moved)
      subst same
      left
      cases message <;> rfl
    · cases moved
  case h_8 => cases calm
  case h_9 =>
    split at moved
    · obtain ⟨move, _, same⟩ := Option.map_eq_some_iff.mp moved
      cases same
      exact .inl rfl
    · cases moved
  case h_10 =>
    obtain ⟨manager, _, same⟩ := Option.map_eq_some_iff.mp moved
    cases same
    exact .inl rfl
  case h_12 => cases moved
  all_goals
    first
    | split at moved <;> cases moved <;> exact .inl rfl
    | cases moved; exact .inl rfl

namespace RemoteShells

variable {w w' : RemoteShells} {task : RemoteTask} {choice : RemoteChoice} {new : List RemoteTask}

theorem apply_channelOf {effect : ShellEffect} (applied : w.apply effect = some w')
    {device : Uuid} {link : Nat} (registered : w'.server.app.channelOf device = some link) :
    w.server.app.channelOf device = some link := by
  rw [apply_server applied] at registered
  cases effect with
  | register => cases applied
  | disconnect owner =>
      simp only [ShellServer.apply, AppState.channelOf_disconnectAgent] at registered
      split at registered
      · cases registered
      · exact registered
  | act owner action fails =>
      simp only [ShellServer.apply, AppState.channelOf, Fleet.entries_perform] at registered
      exact registered
  | _ => exact registered

/-- An entry of the registry and the handler that is about to make it. -/
theorem turn_registers (moved : w.turn task choice = some (w', new)) {device : Uuid} {link : Nat} :
    (w'.server.app.channelOf device = some link →
        w.server.app.channelOf device = some link ∨ task = .registers device link) ∧
      (.registers device link ∈ new → (w'.hosts device).socket = some link) := by
  cases task with
  | server task =>
      cases choice with
      | server choice =>
          obtain ⟨effect, own, _, applied, rfl⟩ := turn_server moved
          refine ⟨fun registered => .inl (apply_channelOf applied registered), fun member => ?_⟩
          obtain ⟨_, _, different⟩ := List.mem_map.mp member
          cases different
      | _ => cases moved
  | registers owner other =>
      cases choice with
      | proceeds =>
          cases moved
          refine ⟨fun registered => ?_, fun member => absurd member List.not_mem_nil⟩
          simp only [ShellServer.apply, AppState.channelOf_register] at registered
          split at registered
          · rename_i same
            cases registered
            exact .inr (by rw [same])
          · exact .inl registered
      | _ => cases moved
  | host owner task =>
      obtain ⟨host, own, ran, rfl, rfl⟩ := turn_host moved
      refine ⟨.inl, fun member => ?_⟩
      rcases List.mem_append.mp member with spawned | handler
      · obtain ⟨_, _, different⟩ := List.mem_map.mp spawned
        cases different
      · cases task with
        | connects =>
            cases List.mem_singleton.mp handler
            have there : (w.updateHost device host).hosts device = host :=
              Function.update_self ..
            rw [there]
            exact ShellHost.connects_socket ran
        | _ => cases handler

end RemoteShells

theorem whole_reached {db : Database} {device : Uuid} {config : Config RemoteShells RemoteTask}
    (reached : Reach remoteShells (undisturbed device) (RemoteShells.start db) config) :
    Whole device config := by
  refine reached.invariant (Whole device) ⟨rfl, ?_, fun _ member => absurd member List.not_mem_nil⟩
    ?_ ?_
  · intro link registered
    cases registered
  · intro w tasks task whole request
    refine ⟨whole.flow, whole.registered, fun link member => ?_⟩
    rcases List.mem_append.mp member with old | own
    · exact whole.registers link old
    · cases List.mem_singleton.mp own
      cases request
  · intro w w' before after new task choice whole meets moved
    have connected : ∀ link, (w.hosts device).socket = some link →
        (w'.hosts device).socket = some link := by
      intro link there
      cases RemoteShells.turn_device moved device with
      | still host => rw [host, there]
      | sends _ host => rw [host]; exact there
      | own ran =>
          rcases ShellHost.turn_socket ran (meets rfl) with same | alone
          · rw [same, there]
          · cases alone.symm.trans there
    refine ⟨?_, ?_, ?_⟩
    · cases RemoteShells.turn_device moved device with
      | still host sent => rw [host, sent, whole.flow]
      | sends registered host sent =>
          rw [host, sent, ShellHost.push_flow, if_pos (whole.registered _ registered), whole.flow]
      | own ran sent => rw [(ShellHost.turn_flow ran).2 (meets rfl), sent, whole.flow]
    · intro link registered
      rcases (RemoteShells.turn_registers moved).1 registered with old | rfl
      · exact connected link (whole.registered link old)
      · exact connected link (whole.registers link (by simp))
    · intro link member
      rcases mem_stepped member with spawned | old
      · exact (RemoteShells.turn_registers moved).2 spawned
      · exact connected link (whole.registers link (mem_of_others task old))

def desk : Uuid := Uuid.small 1

def operator : AuthUser := ⟨Uuid.small 0, "admin", "admin"⟩

/-- A message goes all the way to the message loop. -/
def delivers (index : Nat) : List (Label RemoteTask RemoteChoice) :=
  [.arrive (.host desk (.writes 0)), .run index .proceeds,
    .arrive (.host desk .arrives), .run index .proceeds,
    .arrive (.host desk .handles), .run index .proceeds]

/-- The handler of an input that goes into the channel. -/
def posts (index : Nat) (data : String) : List (Label RemoteTask RemoteChoice) :=
  [.arrive (.server (.sendInput operator (Uuid.small 7) data .authorize)),
    .run index (.server .proceeds), .run index (.server .proceeds)]

/-- A session is opened, the first input is with the writer and the second on its way. -/
def typesTwice : List (Label RemoteTask RemoteChoice) :=
  [.arrive (.host desk .connects), .run 0 .proceeds, .run 0 .proceeds,
    .arrive (.server (.openShell operator desk .createBroadcast)),
    .run 0 (.server (.generates (Uuid.small 7))), .run 0 (.server .proceeds),
    .run 0 (.server .proceeds)] ++
  delivers 1 ++ List.replicate 5 (.run 1 (.pty .proceeds)) ++
  posts 2 "ls\n" ++ delivers 3 ++ [.run 1 (.pty .proceeds)] ++ posts 3 "exit\n"

theorem typesTwice_reached : ∃ config,
    Reach remoteShells (undisturbed desk) (RemoteShells.start (.ofDevices .empty)) config ∧
      (config.shared.hosts desk).terminals = [⟨Uuid.small 7, ["ls\n"]⟩] ∧
      (config.shared.hosts desk).manager.sessions (Uuid.small 7) = some 0 := by
  obtain ⟨config, reached, seen⟩ := Reach.of_observed remoteShells (undisturbed desk)
    (RemoteShells.start (.ofDevices .empty)) typesTwice (fun config =>
      ((config.shared.hosts desk).terminals,
        (config.shared.hosts desk).manager.sessions (Uuid.small 7)))
    ([⟨Uuid.small 7, ["ls\n"]⟩], some 0) (by decide +kernel)
  exact ⟨config, reached, (Prod.mk.inj seen).1, (Prod.mk.inj seen).2⟩

theorem terminal_input_typed : ∃ config auth,
    Reach remoteShells (undisturbed desk) (RemoteShells.start (.ofDevices .empty)) config ∧
      .server (.sendInput auth (Uuid.small 7) "ls\n" .sent) ∈ config.tasks := by
  obtain ⟨config, reached, terminals, _⟩ := typesTwice_reached
  have member : ⟨Uuid.small 7, ["ls\n"]⟩ ∈ (config.shared.hosts desk).terminals := by
    rw [terminals]
    exact List.mem_cons_self
  obtain ⟨_, posted⟩ := terminal_input reached member
  obtain ⟨auth, _, answered, _⟩ := posted "ls\n" List.mem_cons_self
  exact ⟨config, auth, reached, answered⟩

end OsfmEdm
