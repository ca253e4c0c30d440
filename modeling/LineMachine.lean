import LineMachine.Locale.Pattern
import LineMachine.Rehearsal
import LineMachine.Emulator
import LineMachine.Lesson.Session
import LineMachine.CommandLine.Program
import LineMachine.Main
import LineMachine.Proofs.Machine.ByteMachine
import LineMachine.Proofs.Machine.Course
import LineMachine.Proofs.Machine.Refinement
import LineMachine.Proofs.Machine.Trace
import LineMachine.Proofs.Machine.Ending
import LineMachine.Proofs.Text.Lines
import LineMachine.Proofs.Text.Decimal
import LineMachine.Proofs.Machine.Grammar
import LineMachine.Proofs.Machine.Canonical
import LineMachine.Proofs.Machine.WordMachine
import LineMachine.Proofs.Machine.Safety
import LineMachine.Proofs.Machine.Replay
import LineMachine.Proofs.Machine.Recurrence
import LineMachine.Proofs.Machine.Lockstep
import LineMachine.Proofs.Machine.Reformat
import LineMachine.Proofs.Text.Characters
import LineMachine.Proofs.Text.Breaks
import LineMachine.Proofs.Text.Joining
import LineMachine.Proofs.Loading
import LineMachine.Proofs.Document.Protocol
import LineMachine.Proofs.File.Path
import LineMachine.Proofs.File.Tree
import LineMachine.Proofs.File.Folder
import LineMachine.Proofs.Document.Storing
import LineMachine.Proofs.CommandLine.Compiling
import LineMachine.Proofs.Locale.Pattern
import LineMachine.Proofs.Machine.Independence
import LineMachine.Proofs.Emulator.History
import LineMachine.Proofs.Lesson.Calls
import LineMachine.Proofs.CommandLine.Frame
import LineMachine.Proofs.Text.Layout
import LineMachine.Proofs.Machine.Forward
import LineMachine.Proofs.Feed
import LineMachine.Proofs.Machine.Panel
import LineMachine.Proofs.CommandLine.Report
import LineMachine.Proofs.Document.Confinement
import LineMachine.Proofs.Document.Reading
import LineMachine.Proofs.Machine.Telling
import LineMachine.Proofs.Laziness
