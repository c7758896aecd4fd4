import StackMachine.Analysis.Check
import StackMachine.Debugger.Flat
import StackMachine.Debugger.Functions
import StackMachine.Main
import StackMachine.Pocket.Listing
import StackMachine.Pocket.StateFile
import StackMachine.Power
import StackMachine.Power.Listing
import StackMachine.Proofs.Machine.Form
import StackMachine.Proofs.Machine.Bracketing
import StackMachine.Shell.Calculator
import StackMachine.Shell.Items
import StackMachine.Proofs.Debugger.Journey
import StackMachine.Proofs.Machine.Console
import StackMachine.Proofs.Debugger.Stepping
import StackMachine.Proofs.Debugger.StepOver
import StackMachine.Proofs.Numeral.Decimal
import StackMachine.Proofs.Power.Listing
import StackMachine.Proofs.Debugger.Running
import StackMachine.Proofs.Power.Run
import StackMachine.Proofs.Machine.Ground
import StackMachine.Proofs.Machine.StackFrame
import StackMachine.Proofs.Machine.Destination
import StackMachine.Proofs.Debugger.Isolation
import StackMachine.Proofs.Listing.Reading
import StackMachine.Proofs.Listing.RoundTrip
import StackMachine.Proofs.Program.Labels
import StackMachine.Proofs.Debugger.Turning
import StackMachine.Proofs.Debugger.Pointer
import StackMachine.Proofs.Fibonacci.Listing
import StackMachine.Proofs.Listing.Grammar
import StackMachine.Proofs.Fibonacci.Run
import StackMachine.Proofs.Program.Clearing
import StackMachine.Proofs.Debugger.Resuming
import StackMachine.Proofs.Debugger.FlatTurning
import StackMachine.Proofs.Debugger.Pairing
import StackMachine.Proofs.Source.Recovery
import StackMachine.Proofs.Machine.StackHeight
import StackMachine.Proofs.Pocket.Agreement
import StackMachine.Proofs.Debugger.Continuation
import StackMachine.Proofs.Debugger.History
import StackMachine.Proofs.Pocket.RoundTrip
import StackMachine.Proofs.Machine.Course
import StackMachine.Proofs.Debugger.FlatStepping
import StackMachine.Proofs.Debugger.FlatLoops
import StackMachine.Proofs.Debugger.FlatEnding
import StackMachine.Proofs.Debugger.ExecPointer
import StackMachine.Proofs.Debugger.FlatLabels
import StackMachine.Proofs.Debugger.FlatResuming
import StackMachine.Proofs.Machine.Likeness
import StackMachine.Proofs.Debugger.FlatReloading
import StackMachine.Proofs.Machine.Failure
import StackMachine.Proofs.Debugger.Assertion
import StackMachine.Proofs.Debugger.Loading
import StackMachine.Proofs.Machine.Naming
import StackMachine.Proofs.Debugger.Inspection
import StackMachine.Proofs.Summation.Run
import StackMachine.Proofs.Machine.Postfix
import StackMachine.Proofs.Power.Recursion
import StackMachine.Proofs.Debugger.StackView
import StackMachine.Proofs.Machine.Shortage
import StackMachine.Proofs.Debugger.EndReport
import StackMachine.Proofs.Debugger.ExecReport
import StackMachine.Proofs.Text.Words
import StackMachine.Proofs.Numeral.Characters
import StackMachine.Proofs.Debugger.ExecSpelling
import StackMachine.Proofs.Source.Extent
import StackMachine.Proofs.Source.Scanning
import StackMachine.Proofs.Json.Strings
import StackMachine.Proofs.Json.Terms
import StackMachine.Proofs.Json.Collections
import StackMachine.Proofs.Pocket.Saving
