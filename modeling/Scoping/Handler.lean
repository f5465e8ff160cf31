import Scoping.Fault.Detail
import Scoping.Fault.Report

namespace Scoping

/-- The end of a run that met a finding where none was expected. -/
structure Halt where
  reason : String
  deriving DecidableEq, Repr

/-- Receives the findings that a caller does not want to stop at. It may take one of them for a
defect and halt. -/
class Handler (η ε : Type) where
  receive : η → ε → Except Halt η

structure Collector (ε : Type) where
  items : List ε := []
  deriving DecidableEq, Repr

namespace Collector

variable {ε η : Type}

def push (collector : Collector ε) (item : ε) : Collector ε :=
  { items := collector.items ++ [item] }

/-- Collecting diagnostics keeps the report of every fault received. -/
def pushReport (collector : Collector Diagnostic) (fault : Fault) : Collector Diagnostic :=
  collector.push fault.report

def pop? (collector : Collector ε) : Option (ε × Collector ε) :=
  collector.items.getLast?.map fun last => (last, { items := collector.items.dropLast })

def take (collector : Collector ε) : List ε × Collector ε := (collector.items, {})

/-- Empties the collector into a handler. The collector is empty afterwards even if the handler
halts on the way. -/
def forward [Handler η ε] (collector : Collector ε) (handler : η) :
    Collector ε × Except Halt η :=
  ({}, collector.items.foldlM Handler.receive handler)

end Collector

instance {ε : Type} : Handler (Collector ε) ε :=
  ⟨fun collector item => .ok (collector.push item)⟩

instance : Handler (Collector Diagnostic) Fault :=
  ⟨fun collector fault => .ok (collector.pushReport fault)⟩

structure Tally where
  count : UInt64 := 0
  deriving DecidableEq, Repr

instance {ε : Type} : Handler Tally ε := ⟨fun tally _ => .ok ⟨tally.count + 1⟩⟩

structure Discarder where
  deriving DecidableEq, Repr

instance {ε : Type} : Handler Discarder ε := ⟨fun discarder _ => .ok discarder⟩

structure Refuser where
  deriving DecidableEq, Repr

instance : Handler Refuser Fault :=
  ⟨fun _ fault => .error ⟨"unexpected diagnostic: " ++ fault.detail⟩⟩

end Scoping
