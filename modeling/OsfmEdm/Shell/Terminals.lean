import OsfmEdm.Shell.Remote

/-!
One device: its messages reach the agent's message loop in order, and its terminals are given what
the message loop has handled.
-/

namespace OsfmEdm

open Interleaving

/-! ## Messages -/

namespace ShellHost

variable {h h' : ShellHost} {task : HostTask} {choice : RemoteChoice} {new : List HostTask}

/-- What the message loop has handled and may still handle. -/
def flow (h : ShellHost) : List ServerMessage := h.handled ++ h.onWay

/-- The steps that may lose messages: a connection or the agent ends. -/
def disturbs : HostTask → RemoteChoice → Bool
  | .stops _, _ | .leaves, _ | .restarts, _ | .writes _, .fails => true
  | _, _ => false

theorem onWay_updateLink (h : ShellHost) (link : Nat) (value : ShellLink) :
    (h.updateLink link value).onWay = h.inbound ++ h.socket.elim [] fun own =>
      if own = link then value.carried else (h.links own).carried := by
  unfold onWay updateLink
  cases h.socket with
  | none => rfl
  | some own => by_cases same : own = link <;> simp [same]

/-- A link that holds the same messages. -/
theorem onWay_kept {link : Nat} {value : ShellLink}
    (same : value.carried = (h.links link).carried) : (h.updateLink link value).onWay = h.onWay := by
  rw [onWay_updateLink, onWay]
  congr 2
  funext own
  split
  · rename_i here
    rw [same, here]
  · rfl

theorem onWay_stopped (h : ShellHost) (link : Nat) :
    (h.updateLink link (h.links link).stopped).onWay.Sublist h.onWay := by
  rw [onWay_updateLink, onWay]
  refine List.Sublist.append (List.Sublist.refl _) ?_
  cases h.socket with
  | none => exact List.Sublist.refl _
  | some own =>
      simp only [Option.elim]
      split
      · rename_i here
        rw [here]
        simp [ShellLink.carried, ShellLink.stopped]
      · exact List.Sublist.refl _

theorem handle_flow (h : ShellHost) (message : ServerMessage) :
    (h.handle message).1.handled = h.handled ++ [message] ∧
      (h.handle message).1.onWay = h.onWay := by
  cases message <;> exact ⟨rfl, rfl⟩

/-- A step loses messages only where a connection or the agent ends, and never reorders them. -/
theorem turn_flow (moved : h.turn task choice = some (h', new)) :
    h'.flow.Sublist h.flow ∧ (disturbs task choice = false → h'.flow = h.flow) := by
  have kept (same : h'.flow = h.flow) :
      h'.flow.Sublist h.flow ∧ (disturbs task choice = false → h'.flow = h.flow) :=
    ⟨same ▸ List.Sublist.refl _, fun _ => same⟩
  have lost (disturbed : disturbs task choice = true) (less : h'.flow.Sublist h.flow) :
      h'.flow.Sublist h.flow ∧ (disturbs task choice = false → h'.flow = h.flow) :=
    ⟨less, fun calm => by cases disturbed.symm.trans calm⟩
  unfold turn at moved
  split at moved
  · split at moved
    · rename_i alone
      cases moved
      refine kept ?_
      simp [flow, onWay, updateLink, alone, ShellLink.carried]
    · cases moved
  · rename_i link
    split at moved
    · rename_i message rest queued
      cases moved
      refine kept (congrArg (h.handled ++ ·) (onWay_kept ?_))
      simp [ShellLink.carried, queued]
    · cases moved
  · split at moved
    · cases moved
      exact lost rfl (List.Sublist.append (List.Sublist.refl _) (onWay_stopped ..))
    · cases moved
  · cases moved
    exact lost rfl (List.Sublist.append (List.Sublist.refl _) (onWay_stopped ..))
  · split at moved
    · rename_i link current
      split at moved
      · rename_i message rest carried
        split at moved
        · cases moved
          refine kept ?_
          simp [flow, onWay, updateLink, current, ShellLink.carried, carried]
        · cases moved
      · cases moved
    · cases moved
  · cases moved
    refine lost rfl (List.Sublist.append (List.Sublist.refl _) ?_)
    exact List.Sublist.append (List.Sublist.refl _) (List.nil_sublist _)
  · split at moved
    · rename_i message rest inbound
      have same := congrArg Prod.fst (Option.some.inj moved)
      subst same
      refine kept ?_
      obtain ⟨handled, still⟩ := handle_flow { h with inbound := rest } message
      have all : h.onWay = message :: onWay { h with inbound := rest } := by
        simp [onWay, inbound]
      rw [flow, handled, still, flow, all]
      simp
    · cases moved
  · cases moved
    exact lost rfl (List.nil_sublist _)
  · split at moved
    · obtain ⟨move, _, same⟩ := Option.map_eq_some_iff.mp moved
      cases same
      exact kept rfl
    · cases moved
  · obtain ⟨manager, _, same⟩ := Option.map_eq_some_iff.mp moved
    cases same
    exact kept rfl
  · split at moved
    · cases moved
      exact kept rfl
    · cases moved
  · cases moved

end ShellHost

/-! ## Terminals -/

namespace ShellManager

variable {s s' : ShellManager} {r r' : PtySession} {choice : PtyChoice}

/-- What a step of a PTY leaves, and what it takes from the session's channel. -/
structure Types (s : ShellManager) (r : PtySession) (choice : PtyChoice) (s' : ShellManager) :
    Prop where
  sessions : s'.sessions = s.sessions
  nextChannel : s'.nextChannel = s.nextChannel
  stdin : ∀ channel, (if channel = r.channel then s.written r choice else []) ++ s'.stdin channel =
    s.stdin channel

theorem Types.idle (sessions : s'.sessions = s.sessions) (next : s'.nextChannel = s.nextChannel)
    (stdin : s'.stdin = s.stdin) (none : s.written r choice = []) : Types s r choice s' where
  sessions := sessions
  nextChannel := next
  stdin channel := by
    rw [none, stdin]
    split <;> rfl

theorem Types.post {message : AgentMessage} (posted : s.post message = some s')
    (none : s.written r choice = []) : Types s r choice s' := by
  unfold ShellManager.post at posted
  split at posted
  · cases posted
    exact .idle rfl rfl rfl none
  · cases posted

theorem written_other (main : r.main ≠ .recvTimeout) (choice : PtyChoice) :
    s.written r choice = [] := by
  cases choice with
  | proceeds => exact if_neg main
  | _ => rfl

theorem runPtyBlocking_types (moved : s.runPtyBlocking r choice = some (s', r')) :
    Types s r choice s' := by
  have none (other : r.main ≠ .recvTimeout) : s.written r choice = [] :=
    written_other other choice
  unfold runPtyBlocking at moved
  cases at_ : r.main with
  | recvTimeout =>
      rw [at_] at moved
      cases choice <;> try cases moved
      case proceeds =>
        simp only at moved
        split at moved
        · rename_i data rest queued
          cases moved
          refine ⟨rfl, rfl, fun channel => ?_⟩
          by_cases own : channel = r.channel
          · simp [own, written, at_, queued]
          · simp [own]
        · rename_i empty
          split at moved <;> cases moved
          exact .idle rfl rfl rfl (by simp [written, empty])
      case timesOut =>
        simp only at moved
        split at moved <;> cases moved
        exact .idle rfl rfl rfl rfl
  | tryRecv =>
      rw [at_] at moved
      cases choice <;> try cases moved
      simp only at moved
      split at moved <;> cases moved <;> exact .idle rfl rfl rfl (none (by simp [at_]))
  | finish code =>
      rw [at_] at moved
      cases choice <;> try cases moved
      obtain ⟨after, posted, same⟩ := Option.map_eq_some_iff.mp moved
      cases same
      exact .post posted (none (by simp [at_]))
  | _ =>
      rw [at_] at moved
      cases choice <;> cases moved <;> exact .idle rfl rfl rfl (none (by simp [at_]))

theorem readPty_types (moved : s.readPty r choice = some (s', r'))
    (none : s.written r choice = []) : Types s r choice s' := by
  unfold readPty at moved
  split at moved
  · split at moved <;> cases moved
    exact .idle rfl rfl rfl none
  · cases moved
    exact .idle rfl rfl rfl none
  · obtain ⟨after, posted, same⟩ := Option.map_eq_some_iff.mp moved
    cases same
    exact .post posted none
  · cases moved

theorem turn_types {next : List PtyTask} (moved : s.turn (.pty r) choice = some (s', next)) :
    Types s r choice s' := by
  unfold turn at moved
  cases choice with
  | reads | readEnds | readerSends =>
      obtain ⟨move, read, same⟩ := Option.map_eq_some_iff.mp moved
      cases same
      exact readPty_types read rfl
  | _ =>
      obtain ⟨move, ran, same⟩ := Option.map_eq_some_iff.mp moved
      cases same
      exact runPtyBlocking_types ran

end ShellManager

namespace ShellHost

variable {h h' : ShellHost} {task : HostTask} {choice : RemoteChoice} {new : List HostTask}

/-- A terminal by what the message loop has handled: from the `OpenShell` of its session on, its
inputs are with the writer or in the channel, as long as the session is in the map. -/
def Reads (h : ShellHost) (channel : Nat) (terminal : Terminal) : Prop :=
  ∃ first inputs rest,
    h.handled = first ++ .openShell terminal.session :: (inputs ++ rest) ∧
      terminal.written ++ h.manager.stdin channel = inputsTo terminal.session inputs ∧
      (h.manager.sessions terminal.session = some channel → rest = [])

structure Terminals (h : ShellHost) : Prop where
  numbered : h.manager.nextChannel = h.terminals.length
  fresh : ∀ channel, h.terminals.length ≤ channel → h.manager.stdin channel = []
  entries : ∀ session channel, h.manager.sessions session = some channel →
    ∃ terminal, h.terminals[channel]? = some terminal ∧ terminal.session = session
  reads : ∀ channel terminal, h.terminals[channel]? = some terminal → h.Reads channel terminal

/-- One more message is handled: the terminals of sessions in the map may get more input. -/
theorem Reads.later {channel : Nat} {terminal : Terminal} (reads : h.Reads channel terminal)
    {message : ServerMessage} (handled : h'.handled = h.handled ++ [message])
    (stdin : h'.manager.stdin channel = h.manager.stdin channel ++
      if h.manager.sessions terminal.session = some channel then
        (message.inputTo terminal.session).toList
      else [])
    (live : h'.manager.sessions terminal.session = some channel →
      h.manager.sessions terminal.session = some channel) : h'.Reads channel terminal := by
  obtain ⟨first, inputs, rest, split, same, last⟩ := reads
  by_cases there : h.manager.sessions terminal.session = some channel
  · cases last there
    refine ⟨first, inputs ++ [message], [], ?_, ?_, fun _ => rfl⟩
    · simp [handled, split]
    · rw [stdin, if_pos there, ← List.append_assoc, same]
      simp
  · refine ⟨first, inputs, rest ++ [message], ?_, ?_, fun still => absurd (live still) there⟩
    · simp [handled, split]
    · rw [stdin, if_neg there, List.append_nil, same]

theorem index_lt {α : Type} {items : List α} {index : Nat} {item : α}
    (found : items[index]? = some item) : index < items.length :=
  (List.getElem?_eq_some_iff.mp found).1

/-- The session of a terminal in the map is the entry's own. -/
theorem Terminals.session_of (holds : h.Terminals) {session : Uuid} {channel : Nat}
    {terminal : Terminal} (entry : h.manager.sessions session = some channel)
    (found : h.terminals[channel]? = some terminal) : terminal.session = session := by
  obtain ⟨own, there, same⟩ := holds.entries session channel entry
  cases there.symm.trans found
  exact same

theorem Terminals.opens (holds : h.Terminals) (session : Uuid)
    (handled : h'.handled = h.handled ++ [.openShell session])
    (terminals : h'.terminals = h.terminals ++ [⟨session, []⟩])
    (next : h'.manager.nextChannel = h.manager.nextChannel + 1)
    (stdin : h'.manager.stdin = h.manager.stdin)
    (sessions : h'.manager.sessions =
      Function.update h.manager.sessions session (some h.manager.nextChannel)) : h'.Terminals := by
  refine ⟨?_, ?_, ?_, ?_⟩
  · simp [terminals, next, holds.numbered]
  · intro channel above
    rw [stdin]
    refine holds.fresh channel ?_
    simp only [terminals, List.length_append, List.length_singleton] at above
    omega
  · intro other channel entry
    rw [terminals]
    by_cases same : other = session
    · rw [sessions, same, Function.update_self, holds.numbered] at entry
      cases entry
      exact ⟨⟨session, []⟩, List.getElem?_concat_length .., same.symm⟩
    · rw [sessions, Function.update_of_ne same] at entry
      obtain ⟨terminal, found, own⟩ := holds.entries other channel entry
      exact ⟨terminal, by rw [List.getElem?_append_left (index_lt found), found], own⟩
  · intro channel terminal found
    rw [terminals] at found
    rcases Nat.lt_or_ge channel h.terminals.length with old | new
    · rw [List.getElem?_append_left old] at found
      refine (holds.reads channel terminal found).later handled ?_ ?_
      · simp [stdin, ServerMessage.inputTo]
      · intro live
        by_cases same : terminal.session = session
        · rw [sessions, same, Function.update_self, holds.numbered, Option.some.injEq] at live
          omega
        · rwa [sessions, Function.update_of_ne same] at live
    · have last : channel = h.terminals.length := by
        have bound := index_lt found
        simp only [List.length_append, List.length_singleton] at bound
        omega
      subst last
      rw [List.getElem?_concat_length] at found
      cases found
      refine ⟨h.handled, [], [], handled, ?_, fun _ => rfl⟩
      rw [stdin, holds.fresh _ (Nat.le_refl _)]
      rfl

theorem Terminals.inputs (holds : h.Terminals) {session : Uuid} {channel : Nat} (data : String)
    (entry : h.manager.sessions session = some channel)
    (handled : h'.handled = h.handled ++ [.shellInput session data])
    (terminals : h'.terminals = h.terminals)
    (next : h'.manager.nextChannel = h.manager.nextChannel)
    (stdin : h'.manager.stdin =
      Function.update h.manager.stdin channel (h.manager.stdin channel ++ [data]))
    (sessions : h'.manager.sessions = h.manager.sessions) : h'.Terminals := by
  obtain ⟨own, found, _⟩ := holds.entries session channel entry
  have bound := index_lt found
  refine ⟨?_, ?_, ?_, ?_⟩
  · rw [next, terminals, holds.numbered]
  · intro other above
    rw [terminals] at above
    rw [stdin, Function.update_of_ne (by omega), holds.fresh other above]
  · rw [sessions, terminals]
    exact holds.entries
  · intro other terminal there
    rw [terminals] at there
    refine (holds.reads other terminal there).later handled ?_ (by rw [sessions]; exact id)
    rw [stdin]
    by_cases same : other = channel
    · subst same
      simp [holds.session_of entry there, entry, ServerMessage.inputTo]
    · rw [Function.update_of_ne same]
      split
      · rename_i live
        have different : session ≠ terminal.session := by
          rintro rfl
          exact same (Option.some.inj (live.symm.trans entry))
        simp [ServerMessage.inputTo, different]
      · simp

/-- A message that gives no terminal any input and opens none. -/
theorem Terminals.passes (holds : h.Terminals) {message : ServerMessage}
    (handled : h'.handled = h.handled ++ [message]) (terminals : h'.terminals = h.terminals)
    (next : h'.manager.nextChannel = h.manager.nextChannel)
    (stdin : h'.manager.stdin = h.manager.stdin)
    (sessions : ∀ session channel, h'.manager.sessions session = some channel →
      h.manager.sessions session = some channel)
    (silent : ∀ session channel, h.manager.sessions session = some channel →
      message.inputTo session = none) : h'.Terminals := by
  refine ⟨?_, ?_, ?_, ?_⟩
  · rw [next, terminals, holds.numbered]
  · rw [terminals, stdin]
    exact holds.fresh
  · rw [terminals]
    exact fun session channel entry => holds.entries session channel (sessions _ _ entry)
  · intro channel terminal found
    rw [terminals] at found
    refine (holds.reads channel terminal found).later handled ?_ (sessions _ _)
    rw [stdin]
    split
    · rename_i live
      simp [silent _ _ live]
    · simp

theorem Terminals.handle (holds : h.Terminals) (message : ServerMessage) :
    (h.handle message).1.Terminals := by
  cases message with
  | openShell session =>
      cases entry : h.manager.sessions session with
      | none =>
          refine holds.opens session ?_ ?_ ?_ ?_ ?_ <;>
            simp [ShellHost.handle, react, ShellManager.openSession, entry]
      | some channel =>
          have idle : h.manager.openSession session = (h.manager, []) := by
            simp [ShellManager.openSession, entry]
          have after : (h.handle (.openShell session)).1 =
              { h with handled := h.handled ++ [.openShell session] } := by
            simp [ShellHost.handle, react, idle, entry]
          rw [after]
          exact holds.passes rfl rfl rfl rfl (fun _ _ live => live) (fun _ _ _ => rfl)
  | shellInput session data =>
      cases entry : h.manager.sessions session with
      | some channel =>
          refine holds.inputs data entry ?_ ?_ ?_ ?_ ?_ <;>
            simp [ShellHost.handle, react, ShellManager.sendInput, entry]
      | none =>
          have idle : h.manager.sendInput session data = h.manager := by
            simp [ShellManager.sendInput, entry]
          have after : (h.handle (.shellInput session data)).1 =
              { h with handled := h.handled ++ [.shellInput session data] } := by
            simp [ShellHost.handle, react, idle]
          rw [after]
          refine holds.passes rfl rfl rfl rfl (fun _ _ live => live) ?_
          intro other channel live
          have different : session ≠ other := by
            rintro rfl
            cases entry.symm.trans live
          simp [ServerMessage.inputTo, different]
  | closeShell session =>
      refine holds.passes rfl rfl ?_ ?_ ?_ (fun _ _ _ => rfl)
      · simp only [ShellHost.handle, react, ShellManager.closeSession]
        split <;> rfl
      · simp only [ShellHost.handle, react, ShellManager.closeSession]
        split <;> rfl
      · intro other channel live
        simp only [ShellHost.handle, react, ShellManager.closeSession] at live
        split at live
        · exact live
        · by_cases same : other = session
          · simp [same] at live
          · simpa [same] using live
  | _ => exact holds.passes rfl rfl rfl rfl (fun _ _ live => live) (fun _ _ _ => rfl)

theorem Terminals.types (holds : h.Terminals) {r : PtySession} {choice : PtyChoice}
    {manager : ShellManager} (types : h.manager.Types r choice manager) :
    Terminals { h with
      manager
      terminals := h.terminals.modify r.channel fun terminal =>
        { terminal with written := terminal.written ++ h.manager.written r choice } } := by
  refine ⟨?_, ?_, ?_, ?_⟩
  · simp [types.nextChannel, holds.numbered]
  · intro channel above
    rw [List.length_modify] at above
    have none := types.stdin channel
    rw [holds.fresh channel above] at none
    exact (List.append_eq_nil_iff.mp none).2
  · intro session channel entry
    rw [types.sessions] at entry
    obtain ⟨terminal, found, own⟩ := holds.entries session channel entry
    rw [List.getElem?_modify, found]
    exact ⟨_, rfl, by split <;> exact own⟩
  · intro channel terminal found
    rw [List.getElem?_modify] at found
    obtain ⟨old, there, same⟩ := Option.map_eq_some_iff.mp found
    obtain ⟨first, inputs, rest, split, reads, live⟩ := holds.reads channel old there
    have taken := types.stdin channel
    subst same
    by_cases own : r.channel = channel
    · rw [if_pos own]
      rw [if_pos own.symm] at taken
      refine ⟨first, inputs, rest, split, ?_, by rwa [types.sessions]⟩
      rw [List.append_assoc, taken]
      exact reads
    · rw [if_neg own]
      rw [if_neg (Ne.symm own), List.nil_append] at taken
      refine ⟨first, inputs, rest, split, ?_, by rwa [types.sessions]⟩
      rw [taken]
      exact reads

/-- A step that nothing of this is about. -/
theorem Terminals.still (holds : h.Terminals) (handled : h'.handled = h.handled)
    (terminals : h'.terminals = h.terminals)
    (next : h'.manager.nextChannel = h.manager.nextChannel)
    (stdin : h'.manager.stdin = h.manager.stdin)
    (sessions : h'.manager.sessions = h.manager.sessions) : h'.Terminals := by
  refine ⟨?_, ?_, ?_, ?_⟩
  · rw [next, terminals, holds.numbered]
  · rw [terminals, stdin]
    exact holds.fresh
  · rw [sessions, terminals]
    exact holds.entries
  · unfold Reads
    rw [terminals, handled, stdin, sessions]
    exact holds.reads

theorem terminals_start (h : ShellHost) (handled : h.terminals = [])
    (manager : h.manager = ptyStart.shared) : h.Terminals where
  numbered := by rw [handled, manager]; rfl
  fresh channel _ := by rw [manager]; rfl
  entries session channel entry := by rw [manager] at entry; cases entry
  reads channel terminal found := by rw [handled] at found; cases found

theorem Terminals.turn (holds : h.Terminals) (moved : h.turn task choice = some (h', new)) :
    h'.Terminals := by
  unfold ShellHost.turn at moved
  split at moved
  case h_5 =>
    split at moved
    · split at moved
      · split at moved <;> cases moved
        exact holds.still rfl rfl rfl rfl rfl
      · cases moved
    · cases moved
  case h_7 =>
    split at moved
    · rename_i message rest inbound
      have same := congrArg Prod.fst (Option.some.inj moved)
      subst same
      have before : Terminals { h with inbound := rest } := holds.still rfl rfl rfl rfl rfl
      exact before.handle message
    · cases moved
  case h_8 =>
    cases moved
    exact terminals_start _ rfl rfl
  case h_9 =>
    split at moved
    · obtain ⟨⟨manager, next⟩, ran, same⟩ := Option.map_eq_some_iff.mp moved
      cases same
      exact holds.types (ShellManager.turn_types ran)
    · cases moved
  case h_10 =>
    obtain ⟨manager, posted, same⟩ := Option.map_eq_some_iff.mp moved
    cases same
    unfold ShellManager.post at posted
    split at posted <;> cases posted
    exact holds.still rfl rfl rfl rfl rfl
  case h_12 => cases moved
  all_goals
    first
    | split at moved <;> cases moved <;> exact holds.still rfl rfl rfl rfl rfl
    | cases moved; exact holds.still rfl rfl rfl rfl rfl

end ShellHost

end OsfmEdm
