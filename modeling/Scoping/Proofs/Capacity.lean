import Scoping.Proofs.Observation

namespace Scoping.Script

namespace Session

variable {full cut : Session} {capacity : Nat}

def limited (session : Session) (capacity : Nat) : Session :=
  { session with sink := { session.sink with capacity := some capacity } }

/-- A replay and the same replay into a sink with a capacity: as long as the output fits, they
differ in the capacity alone, and from then on the sink is full. -/
inductive Tracks (capacity : Nat) (full cut : Session) : Prop
  | fits (room : full.sink.written.size ≤ capacity) (same : cut = full.limited capacity)
  | overflows (past : capacity < full.sink.written.size) (stopped : cut.status = .sinkFull)
      (written : cut.sink.written = full.sink.written.extract 0 capacity)

/-- A full sink stays as it is, whatever else would have been written. -/
theorem Tracks.overflows_of_adds {final : Session} {text : String} {found : List Diagnostic}
    (past : capacity < full.sink.written.size) (stopped : cut.status = .sinkFull)
    (written : cut.sink.written = full.sink.written.extract 0 capacity)
    (adds : full.Adds final text found) : Tracks capacity final cut := by
  refine .overflows ?_ stopped ?_
  · rw [adds.written, ByteArray.size_append]
    omega
  · rw [written, adds.written, extract_append_of_le (Nat.le_of_lt past)]

theorem tracks_write (unlimited : full.sink.capacity = none) (text : String) :
    Tracks capacity (full.write text) ((full.limited capacity).write text) := by
  rw [write_of_unlimited unlimited]
  rcases Nat.lt_or_ge capacity (full.sink.written ++ text.toUTF8).size with hover | hfits
  · have hwrite : (full.limited capacity).sink.write text = _ := Sink.write_of_over rfl hover
    simp only [write, send, hwrite]
    exact .overflows hover rfl rfl
  · have hwrite : (full.limited capacity).sink.write text = _ := Sink.write_of_fits rfl hfits
    simp only [write, send, hwrite]
    exact .fits hfits rfl

theorem tracks_print (unlimited : full.sink.capacity = none)
    (room : full.sink.written.size ≤ capacity) (text : String) :
    Tracks capacity (full.print text) ((full.limited capacity).print text) := by
  rw [print, print]
  split
  · exact .fits room rfl
  · exact tracks_write unlimited text

theorem refuse_limited (session : Session) (line : Nat) (fault : Fault) :
    (session.limited capacity).refuse line fault =
      (session.refuse line fault).limited capacity := by
  rw [refuse, refuse]
  split <;> rfl

theorem sink_refuse (session : Session) (line : Nat) (fault : Fault) :
    (session.refuse line fault).sink = session.sink := by
  rw [refuse]
  split <;> rfl

theorem tracks_runCommand (unlimited : full.sink.capacity = none)
    (room : full.sink.written.size ≤ capacity) (line : Nat) (command : Command) :
    Tracks capacity (full.runCommand line command)
      ((full.limited capacity).runCommand line command) := by
  have hstack : (full.limited capacity).stack = full.stack := rfl
  rw [runCommand_eq, runCommand_eq, hstack]
  cases command.run full.stack line with
  | error fault =>
    refine .fits ?_ (refuse_limited (full.record (command.entries full.stack line)) line fault)
    rw [settle, sink_refuse]
    exact room
  | ok done =>
    let next : Session := { full.record (command.entries full.stack line) with stack := done.1 }
    have hunlimited : next.sink.capacity = none := unlimited
    exact tracks_print hunlimited room done.2

theorem tracks_runLine (unlimited : full.sink.capacity = none)
    (room : full.sink.written.size ≤ capacity) (line : Nat) (text : String) :
    Tracks capacity (full.runLine line text) ((full.limited capacity).runLine line text) := by
  rw [runLine, runLine]
  cases Command.ofLine text line with
  | error fault => exact .fits room rfl
  | ok read =>
    cases read with
    | none => exact .fits room rfl
    | some command => exact tracks_runCommand unlimited room line command

theorem warnOpenScopes_limited (session : Session) :
    (session.limited capacity).warnOpenScopes = session.warnOpenScopes.limited capacity := by
  have hstack : (session.limited capacity).stack = session.stack := rfl
  rw [warnOpenScopes, warnOpenScopes, hstack]
  split <;> rfl

theorem sink_warnOpenScopes (session : Session) :
    session.warnOpenScopes.sink = session.sink := by
  rw [warnOpenScopes]
  split <;> rfl

theorem Tracks.warnOpenScopes (tracks : Tracks capacity full cut) :
    Tracks capacity full.warnOpenScopes cut.warnOpenScopes := by
  cases tracks with
  | fits room same =>
    rw [same, warnOpenScopes_limited]
    refine .fits ?_ rfl
    rw [sink_warnOpenScopes]
    exact room
  | overflows past stopped written =>
    refine .overflows ?_ ?_ ?_
    · rw [sink_warnOpenScopes]
      exact past
    · rw [status_warnOpenScopes, stopped]
    · rw [sink_warnOpenScopes, sink_warnOpenScopes, written]

theorem tracks_finish (live : full.Live) (room : full.sink.written.size ≤ capacity)
    (options : Options) :
    Tracks capacity (full.finish options) ((full.limited capacity).finish options) := by
  have hrunning : (full.limited capacity).status = .running := live.running
  rw [finish, finish, live.running, hrunning]
  apply Tracks.warnOpenScopes
  rw [dumpAtEnd, dumpAtEnd]
  split
  · rw [send_writeDump, send_writeDump]
    exact tracks_write live.unlimited full.stack.dump
  · exact .fits room rfl

theorem Tracks.of_ne_running (tracks : Tracks capacity full cut) (ended : full.status ≠ .running)
    (options : Options) (line : Nat) (lines : List String) :
    Tracks capacity ((full.runLines line lines).finish options)
      ((cut.runLines line lines).finish options) := by
  have hcut : cut.status ≠ .running := by
    cases tracks with
    | fits room same =>
      rw [same]
      exact ended
    | overflows past stopped written =>
      rw [stopped]
      decide
  rw [runLines_of_ne_running ended, finish_of_ne_running ended, runLines_of_ne_running hcut,
    finish_of_ne_running hcut]
  exact tracks

/-- Replays into a sink without a limit and into one with a capacity stay together until the output
no longer fits. -/
theorem tracks_runLines (live : full.Live) (room : full.sink.written.size ≤ capacity)
    (options : Options) (line : Nat) (lines : List String) :
    Tracks capacity ((full.runLines line lines).finish options)
      (((full.limited capacity).runLines line lines).finish options) := by
  induction lines generalizing full line with
  | nil => exact tracks_finish live room options
  | cons text later ih =>
    have hrunning : (full.limited capacity).status = .running := live.running
    have follows := live.follows_runLine line text
    have tracks := tracks_runLine live.unlimited room line text
    rw [runLines, runLines, live.running, hrunning]
    dsimp only
    generalize full.runLine line text = next at follows tracks ⊢
    generalize (full.limited capacity).runLine line text = short at tracks ⊢
    cases haborts : (lineEffect full.stack line text).aborts with
    | true => exact tracks.of_ne_running (follows.ne_running haborts) options (line + 1) later
    | false =>
      have hnext := live.of_follows follows haborts
      cases tracks with
      | fits room same =>
        rw [same]
        exact ih hnext room (line + 1)
      | overflows past stopped written =>
        -- The one replay is over, and what the other goes on to write does not fit either.
        have hshort : short.status ≠ .running := by
          rw [stopped]
          decide
        rw [runLines_of_ne_running hshort, finish_of_ne_running hshort]
        exact .overflows_of_adds past stopped written
          (hnext.yields_runLines options (line + 1) later).toAdds

end Session

/-- A replay into a sink with a capacity, for every script and all options. Into a sink without a
limit a replay always comes to findings. If its output fits the capacity, the findings are the same
and the output is written in full; if not, there are no findings, because writing failed, and
exactly as many bytes from its beginning as the capacity allows are written. The dumps and the lines
for names that were found are written piece by piece, and the first piece that does not fit is the
last one tried; this comes to the same as writing their text at once. -/
theorem full_sink_cuts_output (options : Options) (source : String) (capacity : Nat) :
    let full := replay options source
    let cut := replay options source (Sink.ofCapacity capacity)
    ∃ findings, full.findings? = some findings ∧
      (full.sink.written.size ≤ capacity →
        cut.findings? = some findings ∧ cut.sink.written = full.sink.written) ∧
      (capacity < full.sink.written.size →
        cut.findings? = none ∧ cut.sink.written = full.sink.written.extract 0 capacity) ∧
      (∀ (sink : Sink), sink.Holds → ∀ pieces : List String,
        sink.writeAll pieces = sink.write (String.join pieces)) ∧
      (∀ (stack : Stack) (sink : Sink), stack.writeDump sink = sink.write stack.dump) ∧
      ∀ (name : String) (found : SymbolRef) (symbol : Symbol) (sink : Sink),
        sink.writeAll (resolutionPieces name found symbol) =
          sink.write (resolutionText name found symbol) := by
  intro full cut
  have live := live_start options
  have tracks : Session.Tracks capacity full cut :=
    Session.tracks_runLines live (Nat.zero_le capacity) options 1 (sourceLines source)
  have yields : (replayUpTo options []).Yields full _ :=
    live.yields_runLines options 1 (sourceLines source)
  refine ⟨_, yields.findings?, ?_, ?_, fun sink holds => Sink.writeAll_eq_write_join holds,
    Stack.writeDump_eq, writeAll_resolutionPieces⟩
  · intro room
    cases tracks with
    | fits _ same =>
      rw [same]
      exact ⟨yields.findings?, rfl⟩
    | overflows past => omega
  · intro past
    cases tracks with
    | fits room _ => omega
    | overflows _ stopped written =>
      refine ⟨?_, written⟩
      rw [Session.findings?, stopped]

/-- A dump that is cut within its first line, one that is cut between the pieces of a row, and one
that just fits. -/
theorem full_sink_cuts_dump :
    let source := "enter\ndeclare x int var\ndump"
    let full := replay {} source
    7 < full.sink.written.size ∧
      (replay {} source (Sink.ofCapacity 7)).findings? = none ∧
      (replay {} source (Sink.ofCapacity 7)).sink.written = "scope #".toUTF8 ∧
      86 < full.sink.written.size ∧
      (replay {} source (Sink.ofCapacity 86)).findings? = none ∧
      (replay {} source (Sink.ofCapacity 86)).sink.written = full.sink.written.extract 0 86 ∧
      full.sink.written.size ≤ 141 ∧
      (replay {} source (Sink.ofCapacity 141)).findings? =
        some ⟨[.warning "1 scope(s) left open at the end of the script"], false⟩ ∧
      (Sink.ofCapacity 8).writeAll ["scope ", "#0"] = (Sink.ofCapacity 8).write "scope #0" ∧
      full.stack.writeDump (Sink.ofCapacity 86) = (Sink.ofCapacity 86).write full.stack.dump := by
  intro source full
  have hsize : full.sink.written.size = 141 := by decide +kernel
  have hfull : full.findings? =
      some ⟨[.warning "1 scope(s) left open at the end of the script"], false⟩ := by decide +kernel
  obtain ⟨_, _, _, hcut, _⟩ := full_sink_cuts_output {} source 7
  obtain ⟨_, _, _, hcut', _, hdumps, _⟩ := full_sink_cuts_output {} source 86
  obtain ⟨findings, hfindings, hfits, _, hpieces, _⟩ := full_sink_cuts_output {} source 141
  have hover : 7 < full.sink.written.size := by omega
  have hover' : 86 < full.sink.written.size := by omega
  have hroom : full.sink.written.size ≤ 141 := by omega
  obtain ⟨hnone, hwritten⟩ := hcut hover
  obtain ⟨hnone', hwritten'⟩ := hcut' hover'
  obtain ⟨hsame, _⟩ := hfits hroom
  refine ⟨hover, hnone, ?_, hover', hnone', hwritten', hroom, ?_, ?_, hdumps _ _⟩
  · rw [hwritten]
    decide +kernel
  · rw [hsame, ← hfindings]
    exact hfull
  · exact hpieces (Sink.ofCapacity 8) (fun _ _ => Nat.zero_le _) ["scope ", "#0"]

end Scoping.Script
