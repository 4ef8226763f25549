import OsfmEdm.Agent.Executor
import OsfmEdm.Library.Lines
import OsfmEdm.Library.Utf8Reader

/-!
The output of a job on its way through the two pipes of `execute_script` and the tasks that stream
them.
-/

namespace OsfmEdm

open Interleaving JsonText Lines Utf8Lossy

def newline : UInt8 := 10

def carriageReturn : UInt8 := 13

inductive NextLine where
  | waits
  | line (text : String) (rest : List UInt8)
  | ended
  | failed
deriving DecidableEq

/-- `next_line` on what a pipe holds, and whether the pipe was closed behind it. -/
structure LineReader where
  next : List UInt8 → Bool → NextLine
  next_line : ∀ text rest closed, newline ∉ utf8 text →
    next (utf8 text ++ newline :: rest) closed = .line (String.ofList (chop '\r' text)) rest
  next_last : ∀ text, text ≠ [] → newline ∉ utf8 text →
    next (utf8 text) true = .line (String.ofList text) []
  next_invalid : ∀ line rest closed, newline ∉ line → ¬ IsUtf8 line →
    next (line ++ newline :: rest) closed = .failed
  next_invalid_last : ∀ line, newline ∉ line → ¬ IsUtf8 line → next line true = .failed
  next_ended : next [] true = .ended
  next_waits : ∀ line, newline ∉ line → next line false = .waits

/-- The lines as they are documented. -/
def nextLine (held : List UInt8) (closed : Bool) : NextLine :=
  let line := held.takeWhile (· ≠ newline)
  let text := lossyText line
  match held.dropWhile (· ≠ newline) with
  | _ :: rest => if utf8 text = line then .line (String.ofList (chop '\r' text)) rest else .failed
  | [] =>
      if closed = false then .waits
      else if held = [] then .ended
      else if utf8 text = line then .line (String.ofList text) []
      else .failed

def lineReader : LineReader where
  next := nextLine
  next_line text rest closed ended := by
    obtain ⟨line, rest⟩ := cut_append_cons ended rest
    simp only [nextLine, line, rest, lossyText_utf8, if_true]
  next_last text some unended := by
    obtain ⟨line, rest⟩ := cut_last unended
    have notNil : utf8 text ≠ [] := fun same => some (utf8_injective same)
    simp only [nextLine, line, rest, lossyText_utf8, notNil, if_true, if_false, reduceCtorEq]
  next_invalid line rest closed ended invalid := by
    obtain ⟨line, rest⟩ := cut_append_cons ended rest
    simp only [nextLine, line, rest, mt isUtf8_iff.mpr invalid, if_false]
  next_invalid_last line unended invalid := by
    have notNil : line ≠ [] := by
      rintro rfl
      exact invalid ⟨[], rfl⟩
    obtain ⟨line, rest⟩ := cut_last unended
    simp only [nextLine, line, rest, mt isUtf8_iff.mpr invalid, notNil, if_false, reduceCtorEq]
  next_ended := rfl
  next_waits line unended := by
    obtain ⟨-, rest⟩ := cut_last unended
    simp only [nextLine, rest, if_true]

/-- One of the pipes of a child; the task that reads it closes it when it ends. -/
structure OutputPipe where
  /-- Everything the job has written, or tried to write. -/
  written : List UInt8
  /-- What the task has not taken. -/
  held : List UInt8
  /-- No process of the job can write any more. -/
  closed : Bool
  /-- A process has written to a pipe that nobody reads, which stops it. -/
  stopped : Bool
  reader : LogReader
  sent : List AgentMessage
deriving DecidableEq

inductive OutputStream where
  | stdout
  | stderr
deriving DecidableEq

def OutputStream.name : OutputStream → String
  | .stdout => "stdout"
  | .stderr => "stderr"

/-- A job whose child was spawned. -/
structure JobOutput where
  job : Uuid
  pipes : OutputStream → OutputPipe

inductive OutputTask where
  | spawns (job : Uuid)
  | output (output : JobOutput)
  | sends (message : AgentMessage)
  | connectionTakes

inductive OutputChoice where
  | proceeds
  | writes (stream : OutputStream) (bytes : List UInt8)
  | closes (stream : OutputStream)
  | streams (stream : OutputStream)

namespace OutputPipe

def start : OutputPipe where
  written := []
  held := []
  closed := false
  stopped := false
  reader := .reading
  sent := []

def write (p : OutputPipe) (bytes : List UInt8) : Option OutputPipe :=
  if p.closed ∨ bytes = [] then none
  else if p.reader = .ended then some { p with written := p.written ++ bytes, stopped := true }
  else some { p with written := p.written ++ bytes, held := p.held ++ bytes }

def close (p : OutputPipe) : OutputPipe := { p with closed := true }

/-- What the `while let` finds: a line, or that the loop ends. -/
def found (lines : LineReader) (p : OutputPipe) : Option (Option String × List UInt8) :=
  match lines.next p.held p.closed with
  | .waits => none
  | .line text rest => some (some text, rest)
  -- an error ends the loop like the end of the file
  | .ended | .failed => some (none, p.held)

def stream (lines : LineReader) (s : Jobs) (job : Uuid) (name : String) (p : OutputPipe) :
    Option (Jobs × OutputPipe) :=
  match p.reader with
  | .reading =>
      (p.found lines).bind fun (line, held) =>
        (s.stream job name line .reading).map fun (s, reader, sent) =>
          (s, { p with held, reader, sent := p.sent ++ sent })
  | reader =>
      (s.stream job name none reader).map fun (s, reader, sent) =>
        (s, { p with reader, sent := p.sent ++ sent })

end OutputPipe

namespace JobOutput

def start (job : Uuid) : JobOutput where
  job
  pipes _ := .start

def set (o : JobOutput) (stream : OutputStream) (pipe : OutputPipe) : JobOutput :=
  { o with pipes := Function.update o.pipes stream pipe }

def turn (lines : LineReader) (s : Jobs) (o : JobOutput) : OutputChoice → Option (Jobs × JobOutput)
  | .proceeds => none
  | .writes stream bytes => ((o.pipes stream).write bytes).map fun pipe => (s, o.set stream pipe)
  | .closes stream => some (s, o.set stream (o.pipes stream).close)
  | .streams stream =>
      ((o.pipes stream).stream lines s o.job stream.name).map fun (s, pipe) =>
        (s, o.set stream pipe)

/-- `execute_script` has joined both tasks. -/
def joined (o : JobOutput) : Prop :=
  ∀ stream, (o.pipes stream).closed = true ∧ (o.pipes stream).reader = .ended

end JobOutput

def outputProgram (lines : LineReader) : Program Jobs OutputTask OutputChoice where
  request
    | .output _ => false
    | _ => true
  step
    | s, .spawns job, _ => some (s, [.output (.start job)])
    | s, .output o, choice => (o.turn lines s choice).map fun (s, o) => (s, [.output o])
    | s, .sends message, _ => (s.post message).map fun s => (s, [])
    | s, .connectionTakes, _ =>
        match s.outbound with
        | _ :: rest => some ({ s with outbound := rest }, [])
        | [] => none

def outputStart (s : Jobs) : Config Jobs OutputTask where
  shared := s
  tasks := []

/-! ## What is to be sent -/

/-- The lines of an output; the last one need not be ended. -/
def outputLines (output : List UInt8) : List (List UInt8) := Lines.lines newline output

/-- The message of a line. Where the line is text, it says the same, less a carriage return at the
end. -/
def CarriesLine (job : Uuid) (name : String) (line : List UInt8) (message : AgentMessage) : Prop :=
  ∃ text, message = .jobLog job text name ∧
    (IsUtf8 line → utf8 text.toList = line ∨ utf8 text.toList ++ [carriageReturn] = line)

/-- The messages sent, and the one whose send is under way. -/
def OutputPipe.carried (job : Uuid) (name : String) (p : OutputPipe) : List AgentMessage :=
  match p.reader with
  | .sending line => p.sent ++ [.jobLog job line name]
  | _ => p.sent

/-- Every line taken from the pipe is carried, and nobody stops taking before the end of the file. -/
structure OutputPipe.Drained (job : Uuid) (name : String) (p : OutputPipe) : Prop where
  carried : ∃ taken, outputLines p.written = taken ++ outputLines p.held ∧
    List.Forall₂ (CarriesLine job name) taken (p.carried job name)
  ended : p.reader = .ended → p.closed = true ∧ p.held = []
  running : p.stopped = false

/-- The output of a job that has ended: one message for each line, in order. -/
structure OutputPipe.Logged (job : Uuid) (name : String) (p : OutputPipe) : Prop where
  messages : List.Forall₂ (CarriesLine job name) (outputLines p.written) p.sent
  drained : p.held = []
  running : p.stopped = false

/-- What can still be written. -/
def OutputPipe.Follows (p : OutputPipe) (more : List UInt8) : Prop := p.closed = true → more = []

/-- The lines of the output are text, or can still become text. -/
def OutputPipe.IsText (p : OutputPipe) : Prop :=
  ∃ more, p.Follows more ∧ ∀ line ∈ outputLines (p.written ++ more), IsUtf8 line

variable {lines : LineReader} {config : Config Jobs OutputTask} {s s' : Jobs} {job : Uuid}
  {name : String} {p p' : OutputPipe}

/-! ## One turn of the loop -/

theorem utf8_chop (text : List Char) :
    utf8 (chop '\r' text) = utf8 text ∨ utf8 (chop '\r' text) ++ [carriageReturn] = utf8 text := by
  have encoded : utf8 ['\r'] = [carriageReturn] := by decide
  rcases chop_cases '\r' text with same | cut
  · exact .inl (congrArg utf8 same)
  · exact .inr (by rw [← encoded, ← utf8_append, cut])

/-- What the loop finds at the front of the pipe. -/
inductive OutputPipe.Finds (job : Uuid) (name : String) (p : OutputPipe) :
    Option String × List UInt8 → Prop where
  | line (line : List UInt8) (text : String) (rest : List UInt8)
      (cut : ∀ more, p.Follows more →
        outputLines (p.held ++ more) = line :: outputLines (rest ++ more))
      (valid : IsUtf8 line) (carries : CarriesLine job name line (.jobLog job text name)) :
      Finds job name p (some text, rest)
  | ended (closed : p.closed = true) (drained : p.held = []) : Finds job name p (none, p.held)
  | failed (line : List UInt8) (invalid : ¬ IsUtf8 line)
      (held : ∀ more, p.Follows more → line ∈ outputLines (p.held ++ more)) :
      Finds job name p (none, p.held)

theorem OutputPipe.finds_line (job : Uuid) (name : String) {line rest : List UInt8}
    (ended : newline ∉ line) (held : p.held = line ++ newline :: rest) :
    ∃ result, p.found lines = some result ∧ p.Finds job name result := by
  have cut : ∀ more, outputLines (p.held ++ more) = line :: outputLines (rest ++ more) := by
    intro more
    rw [held, List.append_assoc, List.cons_append]
    exact lines_append_cons ended
  by_cases valid : IsUtf8 line
  · obtain ⟨text, rfl⟩ := valid
    have next := lines.next_line text rest p.closed ended
    rw [← held] at next
    refine ⟨_, by simp only [OutputPipe.found, next]; rfl,
      .line _ _ rest (fun more _ => cut more) ⟨text, rfl⟩ ⟨_, rfl, fun _ => ?_⟩⟩
    simpa only [String.toList_ofList] using utf8_chop text
  · have next := lines.next_invalid line rest p.closed ended valid
    rw [← held] at next
    exact ⟨_, by simp only [OutputPipe.found, next],
      .failed line valid fun more _ => by simp [cut more]⟩

theorem OutputPipe.finds_last (job : Uuid) (name : String) (unended : newline ∉ p.held)
    (closed : p.closed = true) :
    ∃ result, p.found lines = some result ∧ p.Finds job name result := by
  by_cases drained : p.held = []
  · have next := lines.next_ended
    rw [← drained, ← closed] at next
    exact ⟨_, by simp only [OutputPipe.found, next], .ended closed drained⟩
  · have one : ∀ more, p.Follows more → outputLines (p.held ++ more) = [p.held] := by
      intro more follows
      rw [follows closed, List.append_nil]
      exact lines_last unended drained
    by_cases valid : IsUtf8 p.held
    · obtain ⟨text, whole⟩ := valid
      have next := lines.next_last text (by rintro rfl; exact drained whole.symm)
        (whole ▸ unended)
      rw [whole, ← closed] at next
      refine ⟨_, by simp only [OutputPipe.found, next]; rfl, .line p.held _ [] ?_ ⟨text, whole⟩
        ⟨_, rfl, fun _ => .inl (by rw [String.toList_ofList, whole])⟩⟩
      intro more follows
      rw [one more follows, follows closed]
      rfl
    · have next := lines.next_invalid_last p.held unended valid
      rw [← closed] at next
      exact ⟨_, by simp only [OutputPipe.found, next],
        .failed p.held valid fun more follows => by simp [one more follows]⟩

theorem OutputPipe.finds (lines : LineReader) (p : OutputPipe) (job : Uuid) (name : String) :
    (p.found lines = none ∧ p.closed = false ∧ newline ∉ p.held) ∨
      ∃ result, p.found lines = some result ∧ p.Finds job name result := by
  rcases first_part newline p.held with unended | ⟨line, rest, ended, held⟩
  · cases closed : p.closed with
    | false =>
        have next := lines.next_waits p.held unended
        rw [← closed] at next
        exact .inl ⟨by simp only [OutputPipe.found, next], rfl, unended⟩
    | true => exact .inr (finds_last job name unended closed)
  · exact .inr (finds_line job name ended held)

theorem OutputPipe.finds_of_found {result : Option String × List UInt8}
    (found : p.found lines = some result) : p.Finds job name result := by
  rcases p.finds lines job name with ⟨none, -⟩ | ⟨result', same, finds⟩
  · rw [found] at none
    cases none
  · rw [found] at same
    cases same
    exact finds

theorem OutputPipe.found_eq_none_iff (lines : LineReader) :
    p.found lines = none ↔ p.closed = false ∧ newline ∉ p.held := by
  constructor
  · intro none
    rcases p.finds lines (Uuid.small 0) "" with ⟨-, waits⟩ | ⟨result, found, -⟩
    · exact waits
    · rw [none] at found
      cases found
  · rintro ⟨opened, unended⟩
    have next := lines.next_waits p.held unended
    rw [← opened] at next
    simp only [OutputPipe.found, next]

/-! ## A pipe on its way -/

/-- Either the task has taken whole lines so far, or it has ended at a line that is not text. -/
inductive OutputPipe.Holds (job : Uuid) (name : String) (p : OutputPipe) : Prop where
  | draining (taken : List (List UInt8))
      (cut : ∀ more, p.Follows more →
        outputLines (p.written ++ more) = taken ++ outputLines (p.held ++ more))
      (valid : ∀ line ∈ taken, IsUtf8 line)
      (carried : List.Forall₂ (CarriesLine job name) taken (p.carried job name))
      (ended : p.reader = .ended → p.closed = true ∧ p.held = [])
      (running : p.stopped = false)
  | failed (ended : p.reader = .ended) (line : List UInt8) (invalid : ¬ IsUtf8 line)
      (written : ∀ more, p.Follows more → line ∈ outputLines (p.written ++ more))
      (short : ∀ more, p.Follows more → p.sent.length < (outputLines (p.written ++ more)).length)

namespace OutputPipe.Holds

theorem write {bytes : List UInt8} (holds : p.Holds job name) (moved : p.write bytes = some p') :
    p'.Holds job name := by
  unfold OutputPipe.write at moved
  split at moved
  · cases moved
  rename_i able
  have opened : p.closed = false := by
    cases closed : p.closed with
    | false => rfl
    | true => exact absurd (.inl closed) able
  have follows : ∀ more, p.Follows more := by
    intro more closed
    rw [opened] at closed
    cases closed
  cases holds with
  | draining taken cut valid carried ended running =>
      have reads : p.reader ≠ .ended := by
        intro atEnd
        rw [(ended atEnd).1] at opened
        cases opened
      rw [if_neg reads] at moved
      cases moved
      refine .draining taken ?_ valid carried (fun atEnd => absurd atEnd reads) running
      intro more _
      simpa only [List.append_assoc] using cut (bytes ++ more) (follows _)
  | failed ended line invalid written short =>
      rw [if_pos ended] at moved
      cases moved
      refine .failed ended line invalid ?_ ?_
      · intro more _
        simpa only [List.append_assoc] using written (bytes ++ more) (follows _)
      · intro more _
        simpa only [List.append_assoc] using short (bytes ++ more) (follows _)

theorem close (holds : p.Holds job name) : p.close.Holds job name := by
  have follows : ∀ more, p.close.Follows more → p.Follows more := fun more all _ => all rfl
  cases holds with
  | draining taken cut valid carried ended running =>
      exact .draining taken (fun more all => cut more (follows more all)) valid carried
        (fun atEnd => ⟨rfl, (ended atEnd).2⟩) running
  | failed ended line invalid written short =>
      exact .failed ended line invalid (fun more all => written more (follows more all))
        fun more all => short more (follows more all)

theorem stream (holds : p.Holds job name) (moved : p.stream lines s job name = some (s', p')) :
    p'.Holds job name := by
  cases reader : p.reader with
  | ended => simp [OutputPipe.stream, reader, Jobs.stream] at moved
  | sending text =>
      simp only [OutputPipe.stream, reader] at moved
      obtain ⟨⟨_, next, sent⟩, streamed, same⟩ := Option.map_eq_some_iff.mp moved
      cases same
      obtain ⟨_, _, same⟩ := Option.map_eq_some_iff.mp streamed
      cases same
      cases holds with
      | failed ended => simp [reader] at ended
      | draining taken cut valid carried ended running =>
          refine .draining taken cut valid ?_ nofun running
          simpa only [OutputPipe.carried, reader] using carried
  | reading =>
      simp only [OutputPipe.stream, reader] at moved
      obtain ⟨⟨result, held⟩, found, rest⟩ := Option.bind_eq_some_iff.mp moved
      obtain ⟨⟨_, next, sent⟩, streamed, same⟩ := Option.map_eq_some_iff.mp rest
      cases same
      cases holds with
      | failed ended => simp [reader] at ended
      | draining taken cut valid carried ended running =>
          simp only [OutputPipe.carried, reader] at carried
          cases OutputPipe.finds_of_found found with
          | line line text rest front own carries =>
              cases streamed
              refine .draining (taken ++ [line]) ?_ ?_ ?_ nofun running
              · intro more follows
                rw [List.append_assoc, List.singleton_append, ← front more follows]
                exact cut more follows
              · simpa [or_imp, forall_and] using And.intro valid own
              · simpa only [OutputPipe.carried, List.append_nil] using
                  List.rel_append carried (.cons carries .nil)
          | ended closed drained =>
              cases streamed
              exact .draining taken cut valid (by simpa [OutputPipe.carried] using carried)
                (fun _ => ⟨closed, drained⟩) running
          -- the line stays in the output, and no message will be sent for it
          | failed line invalid front =>
              cases streamed
              refine .failed rfl line invalid ?_ ?_
              · intro more follows
                rw [cut more follows]
                exact List.mem_append_right _ (front more follows)
              · intro more follows
                have some := List.length_pos_of_mem (front more follows)
                have lengths := carried.length_eq
                simp only [cut more follows, List.append_nil, List.length_append]
                omega

end OutputPipe.Holds

theorem OutputPipe.Holds.start : OutputPipe.start.Holds job name :=
  .draining [] (fun _ _ => rfl) nofun .nil nofun rfl

/-- Nothing goes missing while the output can still be text. -/
theorem OutputPipe.Holds.drained (holds : p.Holds job name) (text : p.IsText) :
    p.Drained job name := by
  cases holds with
  | draining taken cut valid carried ended running =>
      have now := cut [] fun _ => rfl
      simp only [List.append_nil] at now
      exact ⟨⟨taken, now, carried⟩, ended, running⟩
  | failed ended line invalid written short =>
      obtain ⟨more, follows, all⟩ := text
      exact absurd (all line (written more follows)) invalid

theorem OutputPipe.Drained.logged (drained : p.Drained job name) (ended : p.reader = .ended) :
    p.Logged job name := by
  obtain ⟨⟨taken, cut, carried⟩, atEnd, running⟩ := drained
  have held := (atEnd ended).2
  rw [held, outputLines, outputLines, lines_nil, List.append_nil] at cut
  refine ⟨?_, held, running⟩
  rw [outputLines, cut]
  simpa only [OutputPipe.carried, ended] using carried

theorem OutputPipe.Holds.text (holds : p.Holds job name) (logged : p.Logged job name) :
    p.IsText := by
  refine ⟨[], fun _ => rfl, ?_⟩
  cases holds with
  | draining taken cut valid =>
      rw [cut [] fun _ => rfl, logged.drained]
      simpa [outputLines] using valid
  | failed ended line invalid written short =>
      have lengths := logged.messages.length_eq
      have fewer := short [] fun _ => rfl
      rw [List.append_nil] at fewer
      omega

/-- The task waits only for the job, or for room in the channel. -/
theorem OutputPipe.stream_eq_none_iff : p.stream lines s job name = none ↔
    p.reader = .ended ∨ (p.reader = .reading ∧ p.closed = false ∧ newline ∉ p.held) ∨
      (∃ line, p.reader = .sending line) ∧ OUTBOUND_CAPACITY ≤ s.outbound.length := by
  cases reader : p.reader with
  | ended => simp [OutputPipe.stream, reader, Jobs.stream]
  | sending line => simp [OutputPipe.stream, reader, Jobs.stream, Jobs.post]
  | reading =>
      simp only [OutputPipe.stream, reader, Option.bind_eq_none_iff, Option.map_eq_none_iff,
        reduceCtorEq, false_or, true_and, exists_false, false_and, or_false]
      constructor
      · intro stuck
        refine (OutputPipe.found_eq_none_iff lines).mp ?_
        cases found : p.found lines with
        | none => rfl
        | some result =>
            have next := stuck result found
            cases line : result.1 <;> simp [line, Jobs.stream] at next
      · intro waits result found
        rw [(OutputPipe.found_eq_none_iff lines).mpr waits] at found
        cases found

/-- What the task does is a step of the run whose output it streams. -/
theorem OutputPipe.stream_turn {platform : Platform} {r : JobRun}
    (moved : p.stream lines s r.job "stdout" = some (s', p')) (reads : r.stdout = p.reader) :
    ∃ line sent, p'.sent = p.sent ++ sent ∧ r.turn platform s (.stdout line) =
      some (s', [.run { r with stdout := p'.reader, sent := r.sent ++ sent }]) := by
  unfold OutputPipe.stream at moved
  split at moved
  · rename_i reading
    obtain ⟨⟨line, held⟩, -, rest⟩ := Option.bind_eq_some_iff.mp moved
    obtain ⟨⟨_, next, sent⟩, streamed, same⟩ := Option.map_eq_some_iff.mp rest
    cases same
    exact ⟨line, sent, rfl, by simp [JobRun.turn, reads, reading, streamed]⟩
  · obtain ⟨⟨_, next, sent⟩, streamed, same⟩ := Option.map_eq_some_iff.mp moved
    cases same
    exact ⟨none, sent, rfl, by simp [JobRun.turn, reads, streamed]⟩

/-! ## Jobs beside each other -/

def JobOutput.Holds (o : JobOutput) : Prop := ∀ stream, (o.pipes stream).Holds o.job stream.name

variable {o o' : JobOutput}

theorem JobOutput.Holds.set (holds : o.Holds) {stream : OutputStream}
    (pipe : p.Holds o.job stream.name) : (o.set stream p).Holds := by
  intro other
  by_cases same : other = stream
  · subst same
    simpa [JobOutput.set] using pipe
  · simpa [JobOutput.set, same] using holds other

theorem JobOutput.Holds.turn {choice : OutputChoice} (holds : o.Holds)
    (moved : o.turn lines s choice = some (s', o')) : o'.Holds := by
  cases choice with
  | proceeds => cases moved
  | writes stream bytes =>
      obtain ⟨pipe, wrote, same⟩ := Option.map_eq_some_iff.mp moved
      cases same
      exact holds.set ((holds stream).write wrote)
  | closes stream =>
      cases moved
      exact holds.set (holds stream).close
  | streams stream =>
      obtain ⟨⟨_, pipe⟩, streamed, same⟩ := Option.map_eq_some_iff.mp moved
      cases same
      exact holds.set ((holds stream).stream streamed)

theorem outputs_hold
    (reached : Reach (outputProgram lines) Guard.any (outputStart s) config)
    (member : .output o ∈ config.tasks) : o.Holds := by
  refine reached.each_task (fun task => ∀ o, task = .output o → o.Holds) nofun ?_ ?_ _ member o rfl
  · rintro _ request o rfl
    cases request
  · intro s others task choice s' new holds _ moved next member o same
    subst same
    cases task with
    | spawns job =>
        cases moved
        cases List.mem_singleton.mp member
        exact fun _ => .start
    | output own =>
        obtain ⟨⟨_, o'⟩, turned, same⟩ := Option.map_eq_some_iff.mp moved
        cases same
        cases List.mem_singleton.mp member
        exact (holds own rfl).turn turned
    | sends message =>
        obtain ⟨_, _, same⟩ := Option.map_eq_some_iff.mp moved
        cases same
        cases member
    | connectionTakes =>
        simp only [outputProgram] at moved
        split at moved <;> cases moved
        cases member

/-- While the output can be text, each line taken is on its way to the server and nobody closes the
pipe; once both tasks have been joined, the log is complete just when every line was text. -/
theorem job_output_logged_iff (lines : LineReader)
    (reached : Reach (outputProgram lines) Guard.any (outputStart s) config)
    (member : .output o ∈ config.tasks) :
    (∀ stream, (o.pipes stream).IsText → (o.pipes stream).Drained o.job stream.name) ∧
      (o.joined → ∀ stream, (o.pipes stream).Logged o.job stream.name ↔
        ∀ line ∈ outputLines (o.pipes stream).written, IsUtf8 line) := by
  have holds := outputs_hold reached member
  refine ⟨fun stream => (holds stream).drained, fun joined stream => ?_⟩
  obtain ⟨closed, ended⟩ := joined stream
  constructor
  · intro logged
    obtain ⟨more, follows, valid⟩ := (holds stream).text logged
    simpa only [follows closed, List.append_nil] using valid
  · intro valid
    refine ((holds stream).drained ⟨[], fun _ => rfl, ?_⟩).logged ended
    simpa only [List.append_nil] using valid

def OutputTask.seen : OutputTask → Option (Uuid × OutputPipe × OutputPipe)
  | .output o => some (o.job, o.pipes .stdout, o.pipes .stderr)
  | _ => none

/-- A line and an accented letter that nothing ends. -/
def twoStreams : List (Label OutputTask OutputChoice) :=
  [.arrive (.spawns (Uuid.small 9)), .run 0 .proceeds, .run 0 (.writes .stdout [0x61, 0x0D, 0x0A]),
    .run 0 (.writes .stderr [0xC3]), .run 0 (.streams .stdout), .run 0 (.writes .stderr [0xA9]),
    .run 0 (.streams .stdout), .run 0 (.closes .stdout), .run 0 (.closes .stderr),
    .run 0 (.streams .stderr), .run 0 (.streams .stderr), .run 0 (.streams .stderr),
    .run 0 (.streams .stdout)]

def streamedPipe (written : List UInt8) (sent : List AgentMessage) : OutputPipe :=
  { OutputPipe.start with written, closed := true, reader := .ended, sent }

theorem job_output_logged_accent : ∃ config o,
    Reach (outputProgram lineReader) Guard.any (outputStart jobStart.shared) config ∧
      .output o ∈ config.tasks ∧ o.joined ∧
      ∀ stream, (o.pipes stream).Logged o.job stream.name := by
  obtain ⟨config, reached, seen⟩ := Reach.of_observed (outputProgram lineReader) Guard.any
    (outputStart jobStart.shared) twoStreams (fun config => config.tasks.map OutputTask.seen)
    [some (Uuid.small 9,
      streamedPipe [0x61, 0x0D, 0x0A] [.jobLog (Uuid.small 9) "a" "stdout"],
      streamedPipe [0xC3, 0xA9] [.jobLog (Uuid.small 9) "é" "stderr"])] (by decide +kernel)
  obtain ⟨task, tasks, same⟩ := List.map_eq_singleton_iff.mp seen
  cases task with
  | output o =>
      simp only [OutputTask.seen, Option.some.injEq, Prod.mk.injEq] at same
      obtain ⟨-, stdout, stderr⟩ := same
      have member : .output o ∈ config.tasks := by simp [tasks]
      have joined : o.joined := by
        rintro (_ | _)
        · rw [stdout]; exact ⟨rfl, rfl⟩
        · rw [stderr]; exact ⟨rfl, rfl⟩
      refine ⟨config, o, reached, member, joined, ?_⟩
      intro stream
      refine ((job_output_logged_iff lineReader reached member).2 joined stream).mpr ?_
      simp only [isUtf8_iff]
      cases stream with
      | stdout =>
          rw [stdout]
          decide +kernel
      | stderr =>
          rw [stderr]
          decide +kernel
  | spawns | sends | connectionTakes => cases same

/-- A byte that is not text between two lines that are. -/
def binaryLine : List (Label OutputTask OutputChoice) :=
  [.arrive (.spawns (Uuid.small 9)), .run 0 .proceeds,
    .run 0 (.writes .stdout [0x61, 0x0A, 0xFF, 0x0A]), .run 0 (.streams .stdout),
    .run 0 (.streams .stdout), .run 0 (.streams .stdout), .run 0 (.writes .stdout [0x62, 0x0A]),
    .run 0 (.closes .stdout), .run 0 (.closes .stderr), .run 0 (.streams .stderr)]

theorem job_output_cut : ¬ ∀ (lines : LineReader) s config o,
    Reach (outputProgram lines) Guard.any (outputStart s) config → .output o ∈ config.tasks →
      o.joined → ∀ stream, (o.pipes stream).Logged o.job stream.name := by
  intro logged
  obtain ⟨config, reached, seen⟩ := Reach.of_observed (outputProgram lineReader) Guard.any
    (outputStart jobStart.shared) binaryLine (fun config => config.tasks.map OutputTask.seen)
    [some (Uuid.small 9,
      { streamedPipe [0x61, 0x0A, 0xFF, 0x0A, 0x62, 0x0A] [.jobLog (Uuid.small 9) "a" "stdout"] with
        held := [0xFF, 0x0A]
        stopped := true },
      streamedPipe [] [])] (by decide +kernel)
  obtain ⟨task, tasks, same⟩ := List.map_eq_singleton_iff.mp seen
  cases task with
  | output o =>
      simp only [OutputTask.seen, Option.some.injEq, Prod.mk.injEq] at same
      obtain ⟨-, stdout, stderr⟩ := same
      have joined : o.joined := by
        rintro (_ | _)
        · rw [stdout]; exact ⟨rfl, rfl⟩
        · rw [stderr]; exact ⟨rfl, rfl⟩
      have running := (logged lineReader _ config o reached (by simp [tasks]) joined .stdout).running
      rw [stdout] at running
      cases running
  | spawns | sends | connectionTakes => cases same

end OsfmEdm
