import Scoping.Script.Replay

namespace Scoping

theorem join_rowPieces (index name type address line kind : String) :
    String.join (rowPieces index name type address line kind) =
      dumpRow index name type address line kind := by
  unfold rowPieces dumpRow
  simp only [String.join_cons, String.join_nil, String.append_assoc, String.append_empty]

theorem Symbol.join_pieces (symbol : Symbol) : String.join symbol.pieces = symbol.dump :=
  join_rowPieces _ _ _ _ _ _

namespace Script

def resolutionText (name : String) (found : SymbolRef) (symbol : Symbol) : String :=
  s!"{name} -> scope {found.scope.text}: index {symbol.index}, address {symbol.address.toNat}, "
    ++ s!"{symbol.type.spelling} {symbol.kind.spelling} declared at line {symbol.line}\n"

theorem join_resolutionPieces (name : String) (found : SymbolRef) (symbol : Symbol) :
    String.join (resolutionPieces name found symbol) = resolutionText name found symbol := by
  have hstring (text : String) : toString text = text := rfl
  simp [resolutionPieces, resolutionText, String.join_cons, String.append_assoc, hstring]

theorem resolutionText_ne_empty (name : String) (found : SymbolRef) (symbol : Symbol) :
    resolutionText name found symbol ≠ "" := by
  rw [← join_resolutionPieces]
  simp [resolutionPieces, String.join_cons]

/-- What comes after the first bytes does not show among them. -/
theorem extract_append_of_le {bytes later : ByteArray} {count : Nat} (h : count ≤ bytes.size) :
    (bytes ++ later).extract 0 count = bytes.extract 0 count := by
  have hlater : later.extract (0 - bytes.size) (count - bytes.size) = .empty := by
    rw [Nat.sub_eq_zero_of_le h, Nat.zero_sub]
    exact ByteArray.extract_same
  rw [ByteArray.extract_append, hlater, ByteArray.append_empty]

theorem append_toUTF8_empty (bytes : ByteArray) : bytes ++ "".toUTF8 = bytes := by
  rw [String.toUTF8_eq_toByteArray, String.toByteArray_empty, ByteArray.append_empty]

theorem append_toUTF8 (bytes : ByteArray) (text later : String) :
    bytes ++ (text ++ later).toUTF8 = bytes ++ text.toUTF8 ++ later.toUTF8 := by
  simp only [String.toUTF8_eq_toByteArray, String.toByteArray_append, ByteArray.append_assoc]

namespace Sink

variable {sink : Sink} {capacity : Nat}

def Holds (sink : Sink) : Prop := ∀ capacity ∈ sink.capacity, sink.written.size ≤ capacity

theorem write_of_fits (limited : sink.capacity = some capacity) {text : String}
    (fits : (sink.written ++ text.toUTF8).size ≤ capacity) :
    sink.write text = .ok { sink with written := sink.written ++ text.toUTF8 } := by
  simp only [write, limited, if_pos fits]

theorem write_of_over (limited : sink.capacity = some capacity) {text : String}
    (past : capacity < (sink.written ++ text.toUTF8).size) :
    sink.write text =
      .error { sink with written := (sink.written ++ text.toUTF8).extract 0 capacity } := by
  simp only [write, limited, if_neg (Nat.not_le.mpr past)]

theorem write_empty (holds : sink.Holds) : sink.write "" = .ok sink := by
  rw [write, append_toUTF8_empty]
  cases hcapacity : sink.capacity with
  | none =>
    dsimp only
    rw [← hcapacity]
  | some capacity =>
    dsimp only
    rw [if_pos (holds capacity hcapacity), ← hcapacity]

/-- After a piece that fits, the rest of a text is written as if the whole text were. -/
theorem write_append_of_ok {next : Sink} {text : String} (h : sink.write text = .ok next)
    (later : String) : sink.write (text ++ later) = next.write later := by
  cases hcapacity : sink.capacity with
  | none =>
    rw [write_of_unlimited hcapacity, Except.ok.injEq] at h
    subst h
    simp only [write, hcapacity, append_toUTF8]
  | some capacity =>
    rcases Nat.lt_or_ge capacity (sink.written ++ text.toUTF8).size with hover | hfits
    · rw [write_of_over hcapacity hover] at h
      simp at h
    · rw [write_of_fits hcapacity hfits, Except.ok.injEq] at h
      subst h
      simp only [write, hcapacity, append_toUTF8]

/-- After a piece that does not fit, nothing of the rest of a text is written. -/
theorem write_append_of_error {next : Sink} {text : String} (h : sink.write text = .error next)
    (later : String) : sink.write (text ++ later) = .error next := by
  cases hcapacity : sink.capacity with
  | none =>
    rw [write_of_unlimited hcapacity] at h
    simp at h
  | some capacity =>
    rcases Nat.lt_or_ge capacity (sink.written ++ text.toUTF8).size with hover | hfits
    · have hlonger : capacity < (sink.written ++ (text ++ later).toUTF8).size := by
        rw [append_toUTF8, ByteArray.size_append]
        omega
      rw [← h, write_of_over hcapacity hover, write_of_over hcapacity hlonger, append_toUTF8,
        extract_append_of_le (Nat.le_of_lt hover)]
    · rw [write_of_fits hcapacity hfits] at h
      simp at h

theorem write_bind (sink : Sink) (text later : String) :
    (sink.write text >>= fun sink => sink.write later) = sink.write (text ++ later) := by
  cases htext : sink.write text with
  | ok next => exact (write_append_of_ok htext later).symm
  | error next => exact (write_append_of_error htext later).symm

/-- A text is written alike in one piece and in several. -/
theorem writeAll_cons (sink : Sink) (piece : String) (later : List String) :
    sink.writeAll (piece :: later) = sink.write (String.join (piece :: later)) := by
  induction later generalizing sink piece with
  | nil =>
    rw [writeAll, String.join_cons, String.join_nil, String.append_empty]
    cases sink.write piece <;> rfl
  | cons second later ih =>
    rw [writeAll, String.join_cons]
    cases hpiece : sink.write piece with
    | ok next => exact (ih next second).trans (write_append_of_ok hpiece _).symm
    | error next => exact (write_append_of_error hpiece _).symm

theorem writeAll_eq_write_join (holds : sink.Holds) (pieces : List String) :
    sink.writeAll pieces = sink.write (String.join pieces) := by
  cases pieces with
  | nil => exact (write_empty holds).symm
  | cons piece later => exact sink.writeAll_cons piece later

/-- One text after the other, each of them written as the sink writes a text. -/
theorem write_foldlM {α : Type} {write : Sink → α → Except Sink Sink} {text : α → String}
    (wrote : ∀ sink item, write sink item = sink.write (text item)) (sink : Sink) (before : String)
    (items : List α) :
    (sink.write before >>= fun sink => items.foldlM write sink) =
      sink.write (before ++ String.join (items.map text)) := by
  induction items generalizing before with
  | nil =>
    rw [List.map_nil, String.join_nil, String.append_empty]
    exact bind_pure _
  | cons item later ih =>
    rw [List.map_cons, String.join_cons, ← String.append_assoc, ← ih, ← write_bind, bind_assoc]
    simp only [List.foldlM_cons, wrote]

end Sink

end Script

open Script

theorem Symbol.writeAll_pieces (symbol : Symbol) (sink : Sink) :
    sink.writeAll symbol.pieces = sink.write symbol.dump := by
  rw [← symbol.join_pieces]
  exact sink.writeAll_cons _ _

theorem Scope.writeDump_eq (scope : Scope) (sink : Sink) :
    scope.writeDump sink = sink.write scope.dump := by
  have htitle : sink.writeAll ["scope ", scope.handle.text, "\n"] =
      sink.write ("scope " ++ scope.handle.text ++ "\n") := by
    rw [Sink.writeAll_cons]
    simp only [String.join_cons, String.join_nil, String.append_assoc, String.append_empty]
  rw [writeDump, htitle, dump]
  split
  · have hempty (sink : Sink) : sink.writeAll ["  (empty)\n"] = sink.write "  (empty)\n" := by
      rw [Sink.writeAll_cons, String.join_cons, String.join_nil, String.append_empty]
    simp only [hempty]
    exact Sink.write_bind _ _ _
  · have hheading (sink : Sink) :
        sink.writeAll (rowPieces "index" "name" "type" "address" "line" "kind") =
          sink.write (dumpRow "index" "name" "type" "address" "line" "kind") := by
      rw [← join_rowPieces]
      exact sink.writeAll_cons _ _
    simp only [hheading]
    rw [← bind_assoc, Sink.write_bind,
      Sink.write_foldlM (fun sink symbol => symbol.writeAll_pieces sink), String.append_assoc]

theorem Stack.dump_ne_empty (stack : Stack) : stack.dump ≠ "" := by
  rw [dump]
  cases stack.scopes with
  | nil => decide
  | cons scope later => simp [Scope.dump, String.join_cons]

/-- A dump is written alike in its pieces and as one text, into any sink. -/
theorem Stack.writeDump_eq (stack : Stack) (sink : Sink) :
    stack.writeDump sink = sink.write stack.dump := by
  rw [writeDump, dump]
  cases stack.scopes with
  | nil => rw [List.isEmpty_nil, if_pos rfl, if_pos rfl, Sink.writeAll_cons, String.join_cons,
      String.join_nil, String.append_empty]
  | cons scope later =>
    rw [List.isEmpty_cons, if_neg Bool.false_ne_true, if_neg Bool.false_ne_true, List.foldlM_cons,
      Scope.writeDump_eq, List.map_cons, String.join_cons,
      Sink.write_foldlM (fun sink scope => scope.writeDump_eq sink)]

theorem Script.writeAll_resolutionPieces (name : String) (found : SymbolRef) (symbol : Symbol)
    (sink : Sink) :
    sink.writeAll (resolutionPieces name found symbol) =
      sink.write (resolutionText name found symbol) := by
  rw [← join_resolutionPieces]
  exact sink.writeAll_cons _ _

end Scoping
