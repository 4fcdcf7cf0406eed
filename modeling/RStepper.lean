import RStepper.Text.Blank
import RStepper.Text.Lines
import RStepper.Text.Utf8
import RStepper.Text.Quoted
import RStepper.Text.Words
import RStepper.Text.Number
import RStepper.Response.Basic
import RStepper.Response.Diagnostics
import RStepper.Interpreter.Scripted
import RStepper.Instrument
import RStepper.Location
import RStepper.Frame.Position
import RStepper.Frame.Call
import RStepper.Frame.Script
import RStepper.Frame.Patience
import RStepper.Stack
import RStepper.Stack.Progress
import RStepper.Breakpoints
import RStepper.RunMode
import RStepper.Inspect
import RStepper.Worker
import RStepper.Json.Reader
import RStepper.Json.Writer
import RStepper.Console.Dialogue
import RStepper.Launch.Reader
import RStepper.Adapter.Framing
import RStepper.Adapter.Handling
import RStepper.Adapter.Serving
import RStepper.Interpreter.Piped
import RStepper.Interpreter.Recorded
import RStepper.Interpreter.Either
import RStepper.Program
import RStepper.Main
import RStepper.Proofs.CallStep
import RStepper.Proofs.ScriptStep
import RStepper.Proofs.DebuggeeHistory
import RStepper.Proofs.StackInvariant
import RStepper.Proofs.StepAccounting
import RStepper.Proofs.ResponseEnd
import RStepper.Proofs.ResponseRange
import RStepper.Proofs.LineBreaks
import RStepper.Proofs.StringLiterals
import RStepper.Proofs.QuotedNames
import RStepper.Proofs.LinePositions
import RStepper.Proofs.ConsoleGrammar
import RStepper.Proofs.WorkerTurn
import RStepper.Proofs.StepIteration
import RStepper.Proofs.SentCommands
import RStepper.Proofs.ScriptFeed
import RStepper.Proofs.WorkerHistory
import RStepper.Proofs.EventProtocol
import RStepper.Proofs.BreakpointStops
import RStepper.Proofs.Exchanges
import RStepper.Proofs.ErrorReports
import RStepper.Proofs.FailedStep
import RStepper.Proofs.LoopHeaders
import RStepper.Proofs.MirroredRuns
import RStepper.Proofs.Glimpses
import RStepper.Proofs.WatchedConditions
import RStepper.Proofs.Observation
import RStepper.Proofs.ByteStreams
import RStepper.Proofs.JsonTexts
import RStepper.Proofs.TrimmedTexts
import RStepper.Proofs.WrittenNumbers
import RStepper.Proofs.MessageStreams
import RStepper.Proofs.SessionLedger
import RStepper.Proofs.ServerHistory
import RStepper.Proofs.RequestLoop
import RStepper.Proofs.RequestAnswers
import RStepper.Proofs.EventCauses
import RStepper.Proofs.PauseTellings
import RStepper.Proofs.FrameAnswers
import RStepper.Proofs.MessageOrder
import RStepper.Proofs.StopRequests
import RStepper.Proofs.RequestOutcomes
import RStepper.Proofs.ToldBreakpoints
import RStepper.Proofs.ReturnCounts
import RStepper.Proofs.Reentry
import RStepper.Proofs.LiveStops
import RStepper.Proofs.OneLineCommands
import RStepper.Proofs.RunTarget
import RStepper.Proofs.ScriptPosition
import RStepper.Proofs.Announcements
import RStepper.Proofs.CallEntry
import RStepper.Proofs.AnsweredCommands
import RStepper.Proofs.StepBudget
import RStepper.Proofs.SteppingEnds
import RStepper.Proofs.AnnouncedLines
import RStepper.Proofs.ReturnOutput
import RStepper.Proofs.CallLife
import RStepper.Proofs.HookPlan
import RStepper.Proofs.FunctionDiscovery
import RStepper.Proofs.PrintedNames
import RStepper.Proofs.BreakpointHistory
import RStepper.Proofs.EntryProbe
import RStepper.Proofs.ShownVariables
import RStepper.Proofs.ConsoleCommands
import RStepper.Proofs.ResponseBoundaries
import RStepper.Proofs.DialogueEndings
import RStepper.Proofs.WireNumbers
import RStepper.Proofs.SetupOrder
