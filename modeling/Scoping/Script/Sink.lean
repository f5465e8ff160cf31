namespace Scoping.Script

/-- Where the output of a script goes. A sink with a capacity, in bytes, keeps what fits and refuses
the first byte that does not. -/
structure Sink where
  capacity : Option Nat := none
  written : ByteArray := .empty

namespace Sink

def ofCapacity (capacity : Nat) : Sink := { capacity }

/-- Answers the sink after the text, or the full sink if the text did not fit. -/
def write (sink : Sink) (text : String) : Except Sink Sink :=
  let written := sink.written ++ text.toUTF8
  match sink.capacity with
  | none => .ok { sink with written }
  | some capacity =>
    if written.size ≤ capacity then .ok { sink with written }
    else .error { sink with written := written.extract 0 capacity }

/-- Writes pieces of text one after the other, up to the first that does not fit. -/
def writeAll (sink : Sink) : List String → Except Sink Sink
  | [] => .ok sink
  | piece :: later =>
    match sink.write piece with
    | .ok sink => sink.writeAll later
    | .error sink => .error sink

theorem write_of_unlimited {sink : Sink} (h : sink.capacity = none) (text : String) :
    sink.write text = .ok { sink with written := sink.written ++ text.toUTF8 } := by
  simp [write, h]

end Sink

end Scoping.Script
