import Mathlib.Data.List.Forall2
import Scoping.Proofs.LineWords

namespace Scoping

namespace Text

def withReturns (text : List Char) : List Char :=
  text.flatMap fun c => if c = '\n' then ['\r', '\n'] else [c]

def Relaid (line other : List Char) : Prop := ∃ words, Laid words line ∧ Laid words other

theorem withReturns_of_not_mem {piece : List Char} (noFeed : '\n' ∉ piece) :
    withReturns piece = piece := by
  induction piece with
  | nil => rfl
  | cons c piece ih =>
    rw [List.mem_cons, not_or] at noFeed
    rw [withReturns, List.flatMap_cons, if_neg (Ne.symm noFeed.1)]
    exact congrArg (c :: ·) (ih noFeed.2)

theorem withReturns_append (text later : List Char) :
    withReturns (text ++ later) = withReturns text ++ withReturns later :=
  List.flatMap_append

/-- A carriage return ends up at the end of the piece in front of its line feed. -/
theorem splitOn_withReturns {piece : List Char} (noFeed : '\n' ∉ piece) (later : List Char) :
    (withReturns (piece ++ ['\n'] ++ later)).splitOn '\n' =
      (piece ++ ['\r']) :: (withReturns later).splitOn '\n' := by
  have hreturns : withReturns (piece ++ ['\n'] ++ later) =
      (piece ++ ['\r']) ++ '\n' :: withReturns later := by
    rw [withReturns_append, withReturns_append, withReturns_of_not_mem noFeed,
      List.append_assoc, List.append_assoc]
    rfl
  have noFeed' : '\n' ∉ piece ++ ['\r'] := by simp [noFeed]
  rw [hreturns, List.splitOn_append_cons_self, List.splitOn_eq_singleton noFeed',
    List.singleton_append]

theorem codeWords_splitOn_withReturns {pieces : List (List Char)}
    (noFeed : ∀ piece ∈ pieces, '\n' ∉ piece) (position : Nat) :
    codeWords (((withReturns (['\n'].intercalate pieces)).splitOn '\n')[position]?.getD []) =
      codeWords (pieces[position]?.getD []) := by
  induction pieces generalizing position with
  | nil => cases position <;> rfl
  | cons piece later ih =>
    have hpiece := noFeed piece List.mem_cons_self
    by_cases hlast : later = []
    · subst hlast
      rw [List.intercalate_singleton, withReturns_of_not_mem hpiece,
        List.splitOn_eq_singleton hpiece]
    · rw [List.intercalate_cons_of_ne_nil hlast, splitOn_withReturns hpiece]
      cases position with
      | zero => exact codeWords_concat_of_isBlank (by decide) piece
      | succ position =>
        exact ih (fun other hother => noFeed other (List.mem_cons_of_mem piece hother)) position

theorem codeWords_of_relaid {pieces others : List (List Char)}
    (relaid : List.Forall₂ Relaid pieces others) (position : Nat) :
    codeWords (pieces[position]?.getD []) = codeWords (others[position]?.getD []) := by
  induction relaid generalizing position with
  | nil => rfl
  | cons first _ ih =>
    cases position with
    | zero =>
      obtain ⟨words, laid, laid'⟩ := first
      exact (laid_iff.mp laid).trans (laid_iff.mp laid').symm
    | succ position => exact ih position

end Text

namespace Script

/-- The words on a line of a script, counted from 0. Behind the last line there are none. -/
def wordsAt (source : String) (position : Nat) : List (List Char) :=
  Text.codeWords ((sourceLines source)[position]?.getD "").toList

/-- Under all options and into every sink, both scripts come to the same output, the same findings
and the same journal. -/
def ReplaysAlike (source other : String) : Prop :=
  ∀ (options : Options) (sink : Sink), replay options source sink = replay options other sink

def withReturns (source : String) : String :=
  String.ofList (Text.withReturns source.toList)

/-- The script without the comments of some of its lines, which are counted from 0. -/
def withoutComments (chosen : Nat → Bool) (source : String) : String :=
  String.ofList (['\n'].intercalate ((source.toList.splitOn '\n').mapIdx fun position piece =>
    if chosen position then Text.code piece else piece))

section Lines

variable {text other : String}

/-- Lines with the same words are read as the same command, or have the same wrong with them. -/
theorem Command.ofLine_of_same_words
    (same : Text.codeWords text.toList = Text.codeWords other.toList) (line : Nat) :
    ofLine text line = ofLine other line := by
  have hwords : Text.words (Text.code text.toList) = Text.words (Text.code other.toList) := same
  rw [ofLine, ofLine, hwords]

theorem Session.runLine_of_same_words
    (same : Text.codeWords text.toList = Text.codeWords other.toList) (session : Session)
    (line : Nat) : session.runLine line text = session.runLine line other := by
  rw [runLine, runLine, Command.ofLine_of_same_words same]

theorem Session.runLine_of_no_words (wordless : Text.codeWords text.toList = []) (session : Session)
    (line : Nat) : session.runLine line text = session := by
  have same : Text.codeWords text.toList = Text.codeWords "".toList := wordless
  rw [runLine_of_same_words same]
  rfl

theorem Session.runLines_of_no_words {lines : List String}
    (wordless : ∀ position : Nat, Text.codeWords (lines[position]?.getD "").toList = [])
    (session : Session) (line : Nat) : session.runLines line lines = session := by
  induction lines generalizing line with
  | nil => rfl
  | cons text later ih =>
    have hfirst : Text.codeWords text.toList = [] := wordless 0
    have hlater := ih (fun position => wordless (position + 1)) (line + 1)
    rw [runLines, runLine_of_no_words hfirst, hlater]
    split <;> rfl

/-- Lines that have the same words one by one are run alike. Where the ones are at their end, those
that are left of the others have no words. -/
theorem Session.runLines_of_same_words {lines others : List String}
    (same : ∀ position : Nat, Text.codeWords (lines[position]?.getD "").toList =
      Text.codeWords (others[position]?.getD "").toList) (session : Session) (line : Nat) :
    session.runLines line lines = session.runLines line others := by
  induction lines generalizing others session line with
  | nil =>
    -- The lines left of the others have the words of no line at all.
    rw [runLines_of_no_words fun position => (same position).symm]
    rfl
  | cons text later ih =>
    cases others with
    | nil =>
      rw [runLines_of_no_words same]
      rfl
    | cons other others =>
      have hfirst : Text.codeWords text.toList = Text.codeWords other.toList := same 0
      have hlater : ∀ (session : Session) (line : Nat),
          session.runLines line later = session.runLines line others :=
        ih fun position => same (position + 1)
      rw [runLines, runLines, runLine_of_same_words hfirst, hlater]

end Lines

section Sources

variable {source other : String}

theorem replaysAlike_of_same_words
    (same : ∀ position, wordsAt source position = wordsAt other position) :
    ReplaysAlike source other := by
  intro options sink
  rw [replay, replay, Session.runLines_of_same_words same]

theorem ReplaysAlike.trans {third : String} (first : ReplaysAlike source other)
    (second : ReplaysAlike other third) : ReplaysAlike source third := fun options sink =>
  (first options sink).trans (second options sink)

theorem ReplaysAlike.symm (alike : ReplaysAlike source other) : ReplaysAlike other source :=
  fun options sink => (alike options sink).symm

/-- The words on a line are those between two line feeds. -/
theorem wordsAt_eq (source : String) (position : Nat) :
    wordsAt source position =
      Text.codeWords ((source.toList.splitOn '\n')[position]?.getD []) := by
  have hline : ((sourceLines source)[position]?.getD "").toList =
      (Text.lines source.toList)[position]?.getD [] := by
    rw [sourceLines, List.getElem?_map]
    cases (Text.lines source.toList)[position]? with
    | none => rfl
    | some line => exact String.toList_ofList
  rw [wordsAt, hline, Text.lines, Text.codeWords_linesOfPieces]

theorem wordsAt_append {extra : String} (wordless : ∀ position, wordsAt extra position = [])
    (source : String) (position : Nat) :
    wordsAt (source ++ "\n" ++ extra) position = wordsAt source position := by
  have hsplit : (source ++ "\n" ++ extra).toList.splitOn '\n' =
      source.toList.splitOn '\n' ++ extra.toList.splitOn '\n' := by
    rw [String.toList_append, String.toList_append, List.append_assoc]
    exact List.splitOn_append_cons_self _ _
  rw [wordsAt_eq, wordsAt_eq, hsplit]
  rcases Nat.lt_or_ge position (source.toList.splitOn '\n').length with hlt | hge
  · rw [List.getElem?_append_left hlt]
  · have hextra := wordless (position - (source.toList.splitOn '\n').length)
    rw [wordsAt_eq] at hextra
    rw [List.getElem?_append_right hge, List.getElem?_eq_none hge, hextra]
    rfl

theorem wordsAt_withReturns (source : String) (position : Nat) :
    wordsAt (withReturns source) position = wordsAt source position := by
  have noFeed : ∀ piece ∈ source.toList.splitOn '\n', '\n' ∉ piece := fun _ =>
    Text.not_mem_of_mem_splitOn
  have hpieces := Text.codeWords_splitOn_withReturns noFeed position
  rw [List.intercalate_splitOn] at hpieces
  rw [wordsAt_eq, wordsAt_eq, withReturns, String.toList_ofList, hpieces]

theorem wordsAt_withoutComments (chosen : Nat → Bool) (source : String) (position : Nat) :
    wordsAt (withoutComments chosen source) position = wordsAt source position := by
  let pieces := source.toList.splitOn '\n'
  let cut := pieces.mapIdx fun position piece => if chosen position then Text.code piece else piece
  have noFeed : ∀ piece ∈ cut, '\n' ∉ piece := by
    intro piece hpiece hfeed
    obtain ⟨position, hlt, rfl⟩ := List.mem_mapIdx.mp hpiece
    have hmem : '\n' ∈ pieces[position] := by
      split at hfeed
      · exact (List.takeWhile_sublist _).subset hfeed
      · exact hfeed
    exact Text.not_mem_of_mem_splitOn (List.getElem_mem hlt) hmem
  have hnonempty : cut ≠ [] := by
    rw [Ne, List.mapIdx_eq_nil_iff]
    exact List.splitOn_ne_nil '\n' source.toList
  have hsplit : (withoutComments chosen source).toList.splitOn '\n' = cut := by
    rw [withoutComments, String.toList_ofList]
    exact List.splitOn_intercalate '\n' noFeed hnonempty
  rw [wordsAt_eq, wordsAt_eq, hsplit, List.getElem?_mapIdx]
  cases pieces[position]? with
  | none => rfl
  | some piece =>
    show Text.codeWords (if chosen position then Text.code piece else piece) = _
    split
    · exact Text.codeWords_code piece
    · rfl

theorem wordsAt_of_blank {extra : String}
    (blank : ∀ line ∈ sourceLines extra, ∀ c ∈ Text.code line.toList, Text.isBlank c = true)
    (position : Nat) : wordsAt extra position = [] := by
  rw [wordsAt]
  cases hline : (sourceLines extra)[position]? with
  | none => rfl
  | some line => exact Text.words_of_forall_isBlank (blank line (List.mem_of_getElem? hline))

theorem wordsAt_empty (position : Nat) : wordsAt "" position = [] := rfl

theorem replaysAlike_append {extra : String} (wordless : ∀ position, wordsAt extra position = [])
    (source : String) : ReplaysAlike source (source ++ "\n" ++ extra) :=
  replaysAlike_of_same_words fun position => (wordsAt_append wordless source position).symm

theorem replaysAlike_append_feed (source : String) : ReplaysAlike source (source ++ "\n") := by
  have alike := replaysAlike_append wordsAt_empty source
  rwa [String.append_empty] at alike

/-- Lines without words can follow any script that does not end within a line. -/
theorem replaysAlike_append_of_ended {extra : String}
    (wordless : ∀ position, wordsAt extra position = [])
    (ended : source = "" ∨ ∃ start, source = start ++ "\n") :
    ReplaysAlike source (source ++ extra) := by
  rcases ended with rfl | ⟨start, rfl⟩
  · rw [String.empty_append]
    apply replaysAlike_of_same_words
    intro position
    rw [wordsAt_empty, wordless]
  · exact (replaysAlike_append_feed start).symm.trans (replaysAlike_append wordless start)

end Sources

/-- Scripts with the same words on the same lines come to the same output, the same findings and the
same journal under all options and into every sink; where one has fewer lines, the rest are taken to
be empty. So nothing changes if the line feeds of a script become pairs of a carriage return and a
line feed, whatever returns are there already, if a line feed or any blank lines and comments follow
at the end, if comments are left out on any of its lines, and if each of its lines is laid out anew
of the same words. -/
theorem layout_plays_no_part (source : String) :
    (∀ other, (∀ position, wordsAt source position = wordsAt other position) →
      ReplaysAlike source other) ∧
    ReplaysAlike source (withReturns source) ∧
    ReplaysAlike source (source ++ "\n") ∧
    (∀ extra, (∀ line ∈ sourceLines extra, ∀ c ∈ Text.code line.toList, Text.isBlank c = true) →
      ReplaysAlike source (source ++ "\n" ++ extra) ∧
      ((source = "" ∨ ∃ start, source = start ++ "\n") → ReplaysAlike source (source ++ extra))) ∧
    (∀ chosen, ReplaysAlike source (withoutComments chosen source)) ∧
    (∀ other, List.Forall₂ Text.Relaid (source.toList.splitOn '\n') (other.toList.splitOn '\n') →
      ReplaysAlike source other) := by
  refine ⟨?_, ?_, replaysAlike_append_feed source, ?_, ?_, ?_⟩
  · intro other same
    exact replaysAlike_of_same_words same
  · apply replaysAlike_of_same_words
    intro position
    exact (wordsAt_withReturns source position).symm
  · intro extra blank
    have wordless := wordsAt_of_blank blank
    exact ⟨replaysAlike_append wordless source, replaysAlike_append_of_ended wordless⟩
  · intro chosen
    apply replaysAlike_of_same_words
    intro position
    exact (wordsAt_withoutComments chosen source position).symm
  · intro other relaid
    apply replaysAlike_of_same_words
    intro position
    rw [wordsAt_eq, wordsAt_eq, Text.codeWords_of_relaid relaid]

/-- A script set out in another way, with a comment at its end instead of a line feed. -/
theorem layout_plays_no_part_in_declarations :
    let source := "enter\ndeclare x int var\nresolve x\n"
    let other := "\tenter\r\r\ndeclare  x\u00a0int var#\r\n resolve x # y\n\n#"
    (∀ position, wordsAt source position = wordsAt other position) ∧
      ReplaysAlike source other ∧ ReplaysAlike source (source ++ " \r\n# end") := by
  intro source other
  obtain ⟨halike, -, -, hextra, -, -⟩ := layout_plays_no_part source
  have same : ∀ position, wordsAt source position = wordsAt other position := by
    have hfirst : ∀ position < 5, wordsAt source position = wordsAt other position := by
      decide +kernel
    have hlength : (sourceLines source).length = 3 ∧ (sourceLines other).length = 5 := by
      decide +kernel
    intro position
    rcases Nat.lt_or_ge position 5 with hlt | hge
    · exact hfirst position hlt
    · rw [wordsAt, wordsAt, List.getElem?_eq_none (by omega), List.getElem?_eq_none (by omega)]
  have blank : ∀ line ∈ sourceLines " \r\n# end", ∀ c ∈ Text.code line.toList,
      Text.isBlank c = true := by
    have hlines : sourceLines " \r\n# end" = [" ", "# end"] := by decide +kernel
    intro line hline c hc
    rw [hlines] at hline
    rcases List.mem_cons.mp hline with rfl | hline
    · obtain rfl : c = ' ' := List.mem_singleton.mp hc
      decide
    · obtain rfl : line = "# end" := List.mem_singleton.mp hline
      exact absurd hc List.not_mem_nil
  have ended : source = "" ∨ ∃ start, source = start ++ "\n" :=
    Or.inr ⟨"enter\ndeclare x int var\nresolve x", rfl⟩
  exact ⟨same, halike other same, (hextra _ blank).2 ended⟩

end Script

end Scoping
