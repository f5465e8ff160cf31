import Scoping.Proofs.Findings
import Scoping.Proofs.Grammar

namespace Scoping

namespace Text

/-- Text that stays one word wherever blanks are around it. -/
structure IsField (text : String) : Prop where
  nonempty : text ≠ ""
  plain : ∀ c ∈ text.toList, isBlank c = false

def lineWords (text : String) : List (List String) :=
  (lines text.toList).map fun line => (words line).map String.ofList

/-- The text is a line of the given words, without its end. -/
structure IsLine (parts : List String) (text : String) : Prop where
  words : (words text.toList).map String.ofList = parts
  noFeed : '\n' ∉ text.toList

/-- The text is made of whole lines with the given words, so that what follows it keeps its own
lines. -/
def Prints (parts : List (List String)) (text : String) : Prop :=
  ∀ later, lineWords (text ++ later) = parts ++ lineWords later

def number? (text : String) : Option Nat :=
  if text.toList.all Char.isDigit then some (Nat.ofDigitChars 10 text.toList 0) else none

theorem isField_iff_all {text : String} :
    IsField text ↔ text ≠ "" ∧ (text.toList.all fun c => !isBlank c) = true := by
  have hall : (text.toList.all fun c => !isBlank c) = true ↔
      ∀ c ∈ text.toList, isBlank c = false := by simp
  rw [hall]
  exact ⟨fun isField => ⟨isField.nonempty, isField.plain⟩, fun h => ⟨h.1, h.2⟩⟩

instance (text : String) : Decidable (IsField text) := decidable_of_iff' _ isField_iff_all

section Words

variable {line blanks : List Char}

theorem words_append_of_forall_isBlank (h : ∀ c ∈ blanks, isBlank c = true) (word : List Char) :
    words (word ++ blanks) = words word := by
  cases blanks with
  | nil => rw [List.append_nil]
  | cons c blanks =>
    rw [List.forall_mem_cons] at h
    rw [words_append_cons h.1, words_of_forall_isBlank h.2, List.append_nil]

theorem words_dropReturn (line : List Char) : words (dropReturn line) = words line := by
  rw [dropReturn]
  split
  · next hreturn =>
    obtain ⟨front, rfl⟩ := List.getLast?_eq_some_iff.mp hreturn
    have hblank : ∀ c ∈ ['\r'], isBlank c = true := List.forall_mem_singleton.mpr (by decide)
    rw [List.dropLast_concat, words_append_of_forall_isBlank hblank]
  · rfl

theorem lines_append_cons (noFeed : '\n' ∉ line) (later : List Char) :
    lines (line ++ '\n' :: later) = dropReturn line :: lines later := by
  rw [lines, List.splitOn_append_cons_self, List.splitOn_eq_singleton noFeed,
    List.singleton_append, linesOfPieces_cons line (List.splitOn_ne_nil _ _), lines]

end Words

section Fields

variable {field other text : String} {parts : List String}

theorem IsField.toList_ne_nil (isField : IsField field) : field.toList ≠ [] :=
  fun h => isField.nonempty (String.toList_eq_nil_iff.mp h)

theorem IsField.words (isField : IsField field) : Text.words field.toList = [field.toList] :=
  words_of_forall_not_isBlank isField.toList_ne_nil isField.plain

theorem IsField.noFeed (isField : IsField field) : '\n' ∉ field.toList := by
  intro hmem
  have hfeed : isBlank '\n' = true := by decide
  rw [isField.plain _ hmem] at hfeed
  simp at hfeed

theorem IsField.append (isField : IsField field) (isOther : IsField other) :
    IsField (field ++ other) where
  nonempty h := isField.nonempty (String.append_eq_empty_iff.mp h).1
  plain c hc := by
    rw [String.toList_append, List.mem_append] at hc
    exact hc.elim (isField.plain c) (isOther.plain c)

theorem IsWord.isField (isWord : IsWord field.toList) : IsField field where
  nonempty h := isWord.nonempty (String.toList_eq_nil_iff.mpr h)
  plain c hc := (isWord.plain c hc).1

theorem isBlank_of_isDigit {c : Char} (h : c.isDigit = true) : isBlank c = false := by
  have hbounds : 48 ≤ c.toNat ∧ c.toNat ≤ 57 := by
    simpa [Char.isDigit, UInt32.le_iff_toNat_le] using h
  simp [isBlank, inRanges, blankRanges]
  omega

theorem isField_toString (n : Nat) : IsField (toString n) where
  nonempty := Nat.repr_ne_empty
  plain c hc := by
    rw [Nat.toString_eq_repr, Nat.toList_repr] at hc
    exact isBlank_of_isDigit (Nat.isDigit_of_mem_toDigits (by decide) (by decide) hc)

theorem number?_toString (n : Nat) : number? (toString n) = some n := by
  have hdigits : (Nat.toDigits 10 n).all Char.isDigit = true := by
    rw [List.all_eq_true]
    exact fun c hc => Nat.isDigit_of_mem_toDigits (by decide) (by decide) hc
  rw [number?, Nat.toString_eq_repr, Nat.toList_repr, hdigits, if_pos rfl,
    Nat.ofDigitChars_ten_toDigits]

end Fields

section Lines

variable {field text line : String} {parts : List String} {lines more : List (List String)}

theorem IsField.isLine (isField : IsField field) : IsLine [field] field where
  words := by rw [isField.words, List.map_singleton, String.ofList_toList]
  noFeed := isField.noFeed

theorem IsLine.indent (isLine : IsLine parts text) : IsLine parts ("  " ++ text) where
  words := by
    have hblank : isBlank ' ' = true := by decide
    rw [String.toList_append]
    show (Text.words (' ' :: ' ' :: text.toList)).map String.ofList = parts
    rw [words_cons_of_isBlank hblank, words_cons_of_isBlank hblank, isLine.words]
  noFeed := by
    rw [String.toList_append, List.mem_append, not_or]
    exact ⟨by decide, isLine.noFeed⟩

theorem toList_column (width : Nat) (text : String) :
    (column width text).toList = text.toList ++ List.replicate (width - text.length) ' ' := by
  simp [column, align, padding]

/-- A field is followed by the padding of its column and by a blank that always stands there. So it
is a word of its own even if it is wider than the column. -/
theorem IsLine.column (width : Nat) (isField : IsField field) (isLine : IsLine parts text) :
    IsLine (field :: parts) (column width field ++ " " ++ text) where
  words := by
    have hpadding : ∀ c ∈ List.replicate (width - field.length) ' ', isBlank c = true := by
      intro c hc
      rw [List.eq_of_mem_replicate hc]
      decide
    have htext : (Text.column width field ++ " " ++ text).toList =
        (field.toList ++ List.replicate (width - field.length) ' ') ++ ' ' :: text.toList := by
      rw [String.toList_append, String.toList_append, toList_column, List.append_assoc]
      rfl
    rw [htext, words_append_cons (by decide), words_append_of_forall_isBlank hpadding,
      isField.words, List.singleton_append, List.map_cons, isLine.words, String.ofList_toList]
  noFeed := by
    simp [toList_column, isField.noFeed, isLine.noFeed]

theorem IsLine.word (isField : IsField field) (isLine : IsLine parts text) :
    IsLine (field :: parts) (field ++ " " ++ text) := by
  have hcolumn : Text.column 0 field = field := align_of_le_length (Nat.zero_le _) _ _
  have hline := IsLine.column 0 isField isLine
  rwa [hcolumn] at hline

theorem IsLine.prints (isLine : IsLine parts text) : Prints [parts] (text ++ "\n") := by
  intro later
  have htext : (text ++ "\n" ++ later).toList = text.toList ++ '\n' :: later.toList := by
    rw [String.toList_append, String.toList_append, List.append_assoc]
    rfl
  rw [lineWords, htext, lines_append_cons isLine.noFeed, List.map_cons, words_dropReturn,
    isLine.words]
  rfl

theorem prints_empty : Prints [] "" := fun later => by
  rw [String.empty_append, List.nil_append]

theorem Prints.append (first : Prints lines text) (second : Prints more line) :
    Prints (lines ++ more) (text ++ line) := fun later => by
  rw [String.append_assoc, first, second, List.append_assoc]

theorem prints_join {α : Type} {items : List α} {parts : α → List (List String)}
    {write : α → String} (prints : ∀ item ∈ items, Prints (parts item) (write item)) :
    Prints (items.flatMap parts) (String.join (items.map write)) := by
  induction items with
  | nil => exact prints_empty
  | cons item items ih =>
    rw [List.forall_mem_cons] at prints
    rw [List.flatMap_cons, List.map_cons, String.join_cons]
    exact prints.1.append (ih prints.2)

theorem Prints.lineWords_eq (prints : Prints lines text) : lineWords text = lines := by
  have hwords := prints ""
  rwa [String.append_empty, show lineWords "" = [] from rfl, List.append_nil] at hwords

end Lines

end Text

structure Row where
  index : Nat
  name : String
  type : String
  address : Address
  line : Nat
  kind : String
  deriving DecidableEq, Repr

structure Table where
  handle : Handle
  rows : List Row
  deriving DecidableEq, Repr

def Symbol.row (symbol : Symbol) : Row :=
  ⟨symbol.index, symbol.name, symbol.type.spelling, symbol.address, symbol.line,
    symbol.kind.spelling⟩

def Scope.table (scope : Scope) : Table := ⟨scope.handle, scope.symbols.items.map Symbol.row⟩

def Stack.tables (stack : Stack) : List Table := stack.scopes.map Scope.table

namespace Row

def words (row : Row) : List String :=
  [toString row.index, row.name, row.type, toString row.address.toNat, toString row.line, row.kind]

def text (row : Row) : String :=
  dumpRow (toString row.index) row.name row.type (toString row.address.toNat) (toString row.line)
    row.kind

/-- What is not a number is a word. -/
structure Plain (row : Row) : Prop where
  name : Text.IsField row.name
  type : Text.IsField row.type
  kind : Text.IsField row.kind

def ofWords? : List String → Option Row
  | [index, name, type, address, line, kind] => do
    let index ← Text.number? index
    let address ← Text.number? address
    let line ← Text.number? line
    some ⟨index, name, type, .ofNat address, line, kind⟩
  | _ => none

end Row

namespace Handle

def words (handle : Handle) : List String :=
  ["scope", "#" ++ toString handle.serial.toNat, "(depth", toString handle.depth ++ ")"]

def ofWords? : List String → Option Handle
  | ["scope", serial, "(depth", depth] => do
    let serial ← Text.number? (String.ofList serial.toList.tail)
    let depth ← Text.number? (String.ofList depth.toList.dropLast)
    some ⟨.ofNat serial, depth⟩
  | _ => none

end Handle

namespace Table

def headings : List String := ["index", "name", "type", "address", "line", "kind"]

def lines (table : Table) : List (List String) :=
  table.handle.words ::
    if table.rows.isEmpty then [["(empty)"]] else headings :: table.rows.map Row.words

def text (table : Table) : String :=
  "scope " ++ table.handle.text ++ "\n" ++
    if table.rows.isEmpty then "  (empty)\n"
    else dumpRow "index" "name" "type" "address" "line" "kind"
      ++ String.join (table.rows.map Row.text)

/-- Adds a line in front of those read so far. Rows wait for the line of their scope. -/
def readLine (words : List String) (read : List Row × List Table) : List Row × List Table :=
  match Handle.ofWords? words, Row.ofWords? words with
  | some handle, _ => ([], ⟨handle, read.1⟩ :: read.2)
  | none, some row => (row :: read.1, read.2)
  | none, none => read

end Table

def readDump (text : String) : List Table :=
  ((Text.lineWords text).foldr Table.readLine ([], [])).2

/-- No name and no spelling of the symbols has a blank in it, and none is empty. -/
def Stack.Plain (stack : Stack) : Prop := ∀ symbol, stack.Holds symbol → symbol.row.Plain

theorem prints_dumpRow {index name type address line kind : String} (hindex : Text.IsField index)
    (hname : Text.IsField name) (htype : Text.IsField type) (haddress : Text.IsField address)
    (hline : Text.IsField line) (hkind : Text.IsField kind) :
    Text.Prints [[index, name, type, address, line, kind]]
      (dumpRow index name type address line kind) := by
  have isLine := (((((hkind.isLine.column 6 hline).column 8 haddress).column 10 htype).column 17
    hname).column 6 hindex).indent
  have hprints := isLine.prints
  unfold dumpRow
  simpa only [String.append_assoc] using hprints

theorem Row.prints {row : Row} (plain : row.Plain) : Text.Prints [row.words] row.text :=
  prints_dumpRow (Text.isField_toString _) plain.name plain.type (Text.isField_toString _)
    (Text.isField_toString _) plain.kind

theorem Handle.prints (handle : Handle) :
    Text.Prints [handle.words] ("scope " ++ handle.text ++ "\n") := by
  have hserial : Text.IsField ("#" ++ toString handle.serial.toNat) :=
    .append (by decide) (Text.isField_toString _)
  have hdepth : Text.IsField (toString handle.depth ++ ")") :=
    .append (Text.isField_toString _) (by decide)
  have isLine := ((hdepth.isLine.word (by decide : Text.IsField "(depth")).word hserial).word
    (by decide : Text.IsField "scope")
  have htext : "scope " ++ handle.text = "scope" ++ " " ++ ("#" ++ toString handle.serial.toNat
      ++ " " ++ ("(depth" ++ " " ++ (toString handle.depth ++ ")"))) := by
    have hdepth : " (depth " = " " ++ ("(depth" ++ " ") := by decide
    have hscope : "scope " = "scope" ++ " " := by decide
    simp only [Handle.text, hdepth, hscope, String.append_assoc]
  rw [htext]
  exact isLine.prints

namespace Table

variable {table : Table}

theorem prints (plain : ∀ row ∈ table.rows, row.Plain) : Text.Prints table.lines table.text := by
  have hheader := table.handle.prints
  rw [lines, text]
  cases hrows : table.rows.isEmpty with
  | true =>
    have hempty : Text.Prints [["(empty)"]] "  (empty)\n" :=
      (Text.IsField.isLine (by decide : Text.IsField "(empty)")).indent.prints
    exact hheader.append hempty
  | false =>
    have hheadings : Text.Prints [headings]
        (dumpRow "index" "name" "type" "address" "line" "kind") :=
      prints_dumpRow (by decide) (by decide) (by decide) (by decide) (by decide) (by decide)
    have hjoin := Text.prints_join fun row hrow => Row.prints (plain row hrow)
    rw [← List.map_eq_flatMap] at hjoin
    exact hheader.append (hheadings.append hjoin)

theorem length_of_mem_lines {parts : List String} (h : parts ∈ table.lines) : parts.length ≠ 3 := by
  rw [lines, List.mem_cons] at h
  rcases h with rfl | h
  · exact Nat.succ_ne_self 3
  · split at h
    · rw [List.mem_singleton.mp h]
      decide
    · rcases List.mem_cons.mp h with rfl | h
      · decide
      · obtain ⟨row, _, rfl⟩ := List.mem_map.mp h
        exact (by decide : 6 ≠ 3)

end Table

section Reading

theorem Row.ofWords?_words (row : Row) : ofWords? row.words = some row := by
  simp only [ofWords?, words, Text.number?_toString, Option.bind_eq_bind, Option.bind_some,
    UInt64.ofNat_toNat]

theorem Handle.ofWords?_words (handle : Handle) : ofWords? handle.words = some handle := by
  have hserial : String.ofList ("#" ++ toString handle.serial.toNat).toList.tail =
      toString handle.serial.toNat := by
    rw [String.toList_append]
    exact String.ofList_toList
  have hdepth : String.ofList (toString handle.depth ++ ")").toList.dropLast =
      toString handle.depth := by
    rw [String.toList_append]
    show String.ofList ((toString handle.depth).toList ++ [')']).dropLast = _
    rw [List.dropLast_concat, String.ofList_toList]
  simp only [ofWords?, words, hserial, hdepth, Text.number?_toString, Option.bind_eq_bind,
    Option.bind_some, UInt64.ofNat_toNat]

namespace Table

variable {read : List Row × List Table}

theorem readLine_handle (handle : Handle) :
    readLine handle.words read = ([], ⟨handle, read.1⟩ :: read.2) := by
  simp only [readLine, handle.ofWords?_words]

/-- The headings are as many words as a row, but the first one is not a number. -/
theorem readLine_headings : readLine headings read = read := by
  have hhandle : Handle.ofWords? headings = none := rfl
  have hrow : Row.ofWords? headings = none := rfl
  simp only [readLine, hhandle, hrow]

theorem readLine_empty : readLine ["(empty)"] read = read := by
  have hhandle : Handle.ofWords? ["(empty)"] = none := rfl
  have hrow : Row.ofWords? ["(empty)"] = none := rfl
  simp only [readLine, hhandle, hrow]

/-- Six words are no scope, whatever the first one is. -/
theorem readLine_row (row : Row) : readLine row.words read = (row :: read.1, read.2) := by
  have hhandle : Handle.ofWords? row.words = none := by
    simp [Handle.ofWords?, Row.words]
  simp only [readLine, hhandle, row.ofWords?_words]

theorem foldr_readLine_rows (rows : List Row) :
    (rows.map Row.words).foldr readLine read = (rows ++ read.1, read.2) := by
  induction rows with
  | nil => rfl
  | cons row rows ih => rw [List.map_cons, List.foldr_cons, ih, readLine_row, List.cons_append]

theorem foldr_readLine_lines (table : Table) (later : List Table) :
    table.lines.foldr readLine ([], later) = ([], table :: later) := by
  obtain ⟨handle, rows⟩ := table
  cases rows with
  | nil =>
    have hlines : lines ⟨handle, []⟩ = [handle.words, ["(empty)"]] := rfl
    rw [hlines, List.foldr_cons, List.foldr_cons, List.foldr_nil, readLine_empty, readLine_handle]
  | cons row rows =>
    have hlines : lines ⟨handle, row :: rows⟩ =
        handle.words :: headings :: (row :: rows).map Row.words := rfl
    rw [hlines, List.foldr_cons, List.foldr_cons, foldr_readLine_rows, readLine_headings,
      readLine_handle, List.append_nil]

theorem foldr_readLine_tables (tables : List Table) :
    (tables.flatMap lines).foldr readLine ([], []) = ([], tables) := by
  induction tables with
  | nil => rfl
  | cons table tables ih =>
    rw [List.flatMap_cons, List.foldr_append, ih, foldr_readLine_lines]

end Table

end Reading

theorem Scope.dump_eq (scope : Scope) : scope.dump = scope.table.text := by
  rw [Scope.dump, Table.text, Scope.table, List.map_map, List.isEmpty_map]
  rfl

namespace Stack

variable {stack : Stack}

/-- The tables are all that a dump depends on. -/
theorem dump_eq (stack : Stack) :
    stack.dump =
      if stack.tables.isEmpty then "no open scope\n"
      else String.join (stack.tables.map Table.text) := by
  have hdumps : stack.scopes.map Scope.dump = stack.tables.map Table.text := by
    rw [tables, List.map_map]
    exact List.map_congr_left fun scope _ => scope.dump_eq
  rw [dump, hdumps, tables, List.isEmpty_map]

theorem plain_of_no_scopes (h : stack.scopes = []) : stack.Plain := by
  rintro symbol ⟨scope, hscope, _⟩
  rw [h] at hscope
  simp at hscope

theorem plain_of_mem_tables (plain : stack.Plain) {table : Table} (htable : table ∈ stack.tables) :
    ∀ row ∈ table.rows, row.Plain := by
  obtain ⟨scope, hscope, rfl⟩ := List.mem_map.mp htable
  intro row hrow
  obtain ⟨symbol, hsymbol, rfl⟩ := List.mem_map.mp hrow
  exact plain symbol ⟨scope, hscope, hsymbol⟩

theorem lineWords_dump (plain : stack.Plain) :
    Text.lineWords stack.dump =
      if stack.scopes.isEmpty then [["no", "open", "scope"]]
      else stack.tables.flatMap Table.lines := by
  rw [dump_eq, tables, List.isEmpty_map]
  split
  · rfl
  · have hprints := Text.prints_join fun table htable =>
      Table.prints (plain_of_mem_tables plain htable)
    exact hprints.lineWords_eq

theorem readDump_dump (plain : stack.Plain) : readDump stack.dump = stack.tables := by
  rw [readDump, lineWords_dump plain]
  split
  · next hempty =>
    rw [tables, List.isEmpty_iff.mp hempty]
    rfl
  · rw [Table.foldr_readLine_tables]

theorem dump_eq_dump_iff {other : Stack} (plain : stack.Plain) (plain' : other.Plain) :
    stack.dump = other.dump ↔ stack.tables = other.tables := by
  constructor
  · intro same
    rw [← readDump_dump plain, same, readDump_dump plain']
  · intro same
    rw [dump_eq, dump_eq, same]

/-- No other line of a dump has three words. -/
theorem mem_lineWords_dump_iff (plain : stack.Plain) :
    ["no", "open", "scope"] ∈ Text.lineWords stack.dump ↔ stack.scopes = [] := by
  rw [lineWords_dump plain, ← List.isEmpty_iff]
  cases stack.scopes.isEmpty with
  | true => exact iff_of_true (List.mem_singleton_self _) rfl
  | false =>
    refine iff_of_false ?_ Bool.false_ne_true
    intro hmem
    obtain ⟨table, _, hline⟩ := List.mem_flatMap.mp hmem
    exact Table.length_of_mem_lines hline rfl

/-- The dump of a scope starts with another letter. -/
theorem dump_eq_iff (stack : Stack) : stack.dump = "no open scope\n" ↔ stack.scopes = [] := by
  rw [dump]
  cases stack.scopes with
  | nil => exact iff_of_true rfl rfl
  | cons scope later =>
    refine iff_of_false ?_ (List.cons_ne_nil _ _)
    intro same
    have hhead := congrArg (fun text => text.toList.head?) same
    simp [Scope.dump, String.join_cons] at hhead

end Stack

/-- The spelling of a tag is one of a few words or the word that the tag was read from. -/
theorem TypeTag.isField_spelling_ofWord {word : String} (isField : Text.IsField word) :
    Text.IsField (ofWord word).spelling := by
  cases htag : ofWord word with
  | other kept =>
    have hkept : kept = word := eq_of_custom?_ofWord (by rw [htag]; rfl)
    rw [hkept]
    exact isField
  | _ => decide

theorem KindTag.isField_spelling_ofWord {word : String} (isField : Text.IsField word) :
    Text.IsField (ofWord word).spelling := by
  cases htag : ofWord word with
  | other kept =>
    have hkept : kept = word := eq_of_custom?_ofWord (by rw [htag]; rfl)
    rw [hkept]
    exact isField
  | _ => decide

namespace Script

/-- The operands of a command are words of its line. -/
theorem Command.isField_of_mem_operands {text : String} {line : Nat} {command : Command}
    (read : ofLine text line = .ok (some command)) :
    ∀ operand ∈ command.operands, Text.IsField operand := by
  cases reading_iff.mpr read with
  | command written =>
    exact fun operand hmem => (written.isWord operand (List.mem_cons_of_mem _ hmem)).isField

/-- A symbol that a line adds is made of words of the line. -/
theorem plain_lineEffect {stack : Stack} (plain : stack.Plain) (line : Nat) (text : String) :
    (lineEffect stack line text).stack.Plain := by
  intro symbol holds
  rcases (lineOutcome stack line text).holds holds with
    hold | ⟨name, type, kind, read, _, hdeclaration⟩
  · exact plain symbol hold
  · have hoperands : ∀ operand ∈ [name, type, kind], Text.IsField operand :=
      Command.isField_of_mem_operands read
    simp only [List.forall_mem_cons] at hoperands
    obtain ⟨hname, htype, hkind, _⟩ := hoperands
    obtain ⟨symbol, index, address⟩ := symbol
    obtain rfl : symbol = declaration name type kind line := hdeclaration
    exact ⟨hname, TypeTag.isField_spelling_ofWord htype, KindTag.isField_spelling_ofWord hkind⟩

theorem Session.plain_runLines {session : Session} (plain : session.stack.Plain) (line : Nat)
    (lines : List String) :
    (session.runLines line lines).stack.Plain := by
  induction lines generalizing session line with
  | nil => exact plain
  | cons text later ih =>
    rw [runLines]
    split
    · apply ih
      rw [stack_runLine]
      exact plain_lineEffect plain line text
    · exact plain

theorem plain_replayUpTo (options : Options) (lines : List String) :
    (replayUpTo options lines).stack.Plain :=
  Session.plain_runLines (Stack.plain_of_no_scopes rfl) 1 lines

theorem plain_replay (options : Options) (source : String) (sink : Sink) :
    (replay options source sink).stack.Plain := by
  rw [replay, Session.stack_finish]
  exact Session.plain_runLines (Stack.plain_of_no_scopes rfl) 1 _

end Script

/-- If no name and no spelling has a blank in it, a dump can be read back from the words on its
lines. Each scope has a line with its handle and then a line of six words for each of its symbols,
or a word that says that there are none; the line that says that no scope is open is printed in this
case only. So two such stacks have the same dump exactly if they agree on all that a dump shows. The
stacks that a replay comes to, after any of its lines and at its end, are such stacks. -/
theorem dump_reads_back {stack : Stack} (plain : stack.Plain) :
    Text.lineWords stack.dump =
      (if stack.scopes.isEmpty then [["no", "open", "scope"]]
        else stack.tables.flatMap Table.lines) ∧
    readDump stack.dump = stack.tables ∧
    (∀ other : Stack, other.Plain → (stack.dump = other.dump ↔ stack.tables = other.tables)) ∧
    (stack.dump = "no open scope\n" ↔ stack.scopes = []) ∧
    (["no", "open", "scope"] ∈ Text.lineWords stack.dump ↔ stack.scopes = []) ∧
    ∀ (options : Script.Options) (source : String) (sink : Script.Sink) (count : Nat),
      (Script.replay options source sink).stack.Plain ∧
      (Script.replayUpTo options ((Script.sourceLines source).take count)).stack.Plain := by
  refine ⟨Stack.lineWords_dump plain, Stack.readDump_dump plain,
    fun other plain' => Stack.dump_eq_dump_iff plain plain', stack.dump_eq_iff,
    Stack.mem_lineWords_dump_iff plain, fun options source sink count =>
    ⟨Script.plain_replay options source sink, Script.plain_replayUpTo options _⟩⟩

/-- A name wider than its column, tags that look like the line of a scope, and an empty scope. -/
theorem dump_reads_back_with_wide_fields :
    let stack := Call.performAll {} [.enter,
      .declare ⟨0, 0⟩ ⟨"wider_than_its_column", .other "scope", .other "(depth", 1⟩, .enter]
    stack.Plain ∧
      stack.dump = "scope #0 (depth 0)\n"
        ++ "  index  name              type       address  line   kind\n"
        ++ "  0      wider_than_its_column scope      0        1      (depth\n"
        ++ "scope #1 (depth 1)\n  (empty)\n" ∧
      readDump stack.dump =
        [⟨⟨0, 0⟩, [⟨0, "wider_than_its_column", "scope", 0, 1, "(depth"⟩]⟩, ⟨⟨1, 1⟩, []⟩] := by
  intro stack
  have hfields : ∀ scope ∈ stack.scopes, ∀ symbol ∈ scope.symbols.items,
      Text.IsField symbol.row.name ∧ Text.IsField symbol.row.type ∧
        Text.IsField symbol.row.kind := by
    decide
  have plain : stack.Plain := by
    rintro symbol ⟨scope, hscope, hsymbol⟩
    obtain ⟨hname, htype, hkind⟩ := hfields scope hscope symbol hsymbol
    exact ⟨hname, htype, hkind⟩
  refine ⟨plain, by decide +kernel, ?_⟩
  obtain ⟨_, hread, _⟩ := dump_reads_back plain
  rw [hread]
  decide

end Scoping
