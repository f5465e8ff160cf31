import Scoping.Text.Words
import Scoping.Text.Lines
import Scoping.Text.Alignment
import Scoping.Text.Utf8
import Scoping.Text.Quoted
import Scoping.Store
import Scoping.Tag
import Scoping.AddressCounter
import Scoping.NameIndex
import Scoping.Fault.Detail
import Scoping.Fault.Report
import Scoping.Diagnostic.Rendering
import Scoping.Diagnostic.Ansi
import Scoping.Stack.Reporting
import Scoping.Journal
import Scoping.Stack.Table
import Scoping.Script.Printing
import Scoping.Script.Replay
import Scoping.CommandLine.Run
import Scoping.Main
import Scoping.Proofs.History
import Scoping.Proofs.Operations
import Scoping.Proofs.Refusals
import Scoping.Proofs.Positions
import Scoping.Proofs.Registry
import Scoping.Proofs.Lifecycle
import Scoping.Proofs.Evolution
import Scoping.Proofs.Acceptance
import Scoping.Proofs.Permanence
import Scoping.Proofs.Counting
import Scoping.Proofs.Addresses
import Scoping.Proofs.Objections
import Scoping.Proofs.Nesting
import Scoping.Proofs.Printing
import Scoping.Proofs.Commands
import Scoping.Proofs.Session
import Scoping.Proofs.Resolution
import Scoping.Proofs.Frames
import Scoping.Proofs.Abstraction
import Scoping.Proofs.Reading
import Scoping.Proofs.Simulation
import Scoping.Proofs.Transcription
import Scoping.Proofs.ReportLines
import Scoping.Proofs.Interpretation
import Scoping.Proofs.Editing
import Scoping.Proofs.Observation
import Scoping.Proofs.Passage
import Scoping.Proofs.Balance
import Scoping.Proofs.Delivery
import Scoping.Proofs.Commutation
import Scoping.Proofs.Renumbering
import Scoping.Proofs.Relaxation
import Scoping.Proofs.Interference
import Scoping.Proofs.Capacity
import Scoping.Proofs.Findings
import Scoping.Proofs.LineWords
import Scoping.Proofs.Layout
import Scoping.Proofs.Grammar
import Scoping.Proofs.Dumps
import Scoping.Proofs.Origins
import Scoping.Proofs.Classification
import Scoping.Proofs.TagLimits
import Scoping.Proofs.Rendering
import Scoping.Proofs.Terminal
