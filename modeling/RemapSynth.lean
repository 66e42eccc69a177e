import RemapSynth.Chat.Conversation
import RemapSynth.Chat.Error
import RemapSynth.Chat.Exchange
import RemapSynth.Chat.Message
import RemapSynth.Chat.Retry
import RemapSynth.Chat.Usage
import RemapSynth.Command.Arguments
import RemapSynth.Command.Clock
import RemapSynth.Command.Machine
import RemapSynth.Command.Run
import RemapSynth.Command.Storage
import RemapSynth.Command.Table
import RemapSynth.Decimal.Binary
import RemapSynth.Decimal.Fixed
import RemapSynth.Decimal.Layout
import RemapSynth.Decimal.Scaled
import RemapSynth.Decimal.Shortest
import RemapSynth.Diagnosis
import RemapSynth.Dialogue
import RemapSynth.Duration
import RemapSynth.Engine.Ask
import RemapSynth.Engine.Compile
import RemapSynth.Engine.Process
import RemapSynth.Engine.Run
import RemapSynth.Engine.Watch
import RemapSynth.Failure
import RemapSynth.Fix.Lesson
import RemapSynth.Fix.Local
import RemapSynth.Fix.Rule
import RemapSynth.Fix.Seed
import RemapSynth.Fix.Sharing
import RemapSynth.Fix.Store
import RemapSynth.Generation.Completion
import RemapSynth.Generation.Filling
import RemapSynth.Generation.Prompt
import RemapSynth.Generation.Session
import RemapSynth.Generation.Strategy
import RemapSynth.Json.Field
import RemapSynth.Json.Printer
import RemapSynth.Json.Scan
import RemapSynth.Json.Shape
import RemapSynth.Json.Tree
import RemapSynth.Json.Value
import RemapSynth.Main
import RemapSynth.Pattern
import RemapSynth.Policy.Assignment
import RemapSynth.Policy.Call
import RemapSynth.Policy.Check
import RemapSynth.Policy.Comment
import RemapSynth.Policy.Reserved
import RemapSynth.Proofs.Chat.Conversation
import RemapSynth.Proofs.Chat.Reported
import RemapSynth.Proofs.Chat.Retry
import RemapSynth.Proofs.Chat.Secrecy
import RemapSynth.Proofs.Chat.Usage
import RemapSynth.Proofs.Diagnosis
import RemapSynth.Proofs.Diagnosis.Canonical
import RemapSynth.Proofs.Dialogue
import RemapSynth.Proofs.Duration
import RemapSynth.Proofs.Engine.Log
import RemapSynth.Proofs.Engine.Watch
import RemapSynth.Proofs.Fix.Idempotence
import RemapSynth.Proofs.Fix.Learned
import RemapSynth.Proofs.Fix.Locality
import RemapSynth.Proofs.Fix.Sharing
import RemapSynth.Proofs.Fix.Tame
import RemapSynth.Proofs.Generation.Accounting
import RemapSynth.Proofs.Generation.Completion
import RemapSynth.Proofs.Generation.Fence
import RemapSynth.Proofs.Generation.Filling
import RemapSynth.Proofs.Generation.Memory
import RemapSynth.Proofs.Generation.Planning
import RemapSynth.Proofs.Generation.Script
import RemapSynth.Proofs.Json.Fits
import RemapSynth.Proofs.Json.Numeral
import RemapSynth.Proofs.Json.ReadBack
import RemapSynth.Proofs.Json.Written
import RemapSynth.Proofs.Policy.Assignment
import RemapSynth.Proofs.Policy.Call
import RemapSynth.Proofs.Policy.Comment
import RemapSynth.Proofs.Policy.Conflict
import RemapSynth.Proofs.Policy.Message
import RemapSynth.Proofs.Policy.Path
import RemapSynth.Proofs.Policy.Reserved
import RemapSynth.Proofs.Policy.Table
import RemapSynth.Proofs.Repair.Abort
import RemapSynth.Proofs.Repair.Bookkeeping
import RemapSynth.Proofs.Repair.Budget
import RemapSynth.Proofs.Repair.Context
import RemapSynth.Proofs.Repair.Cycle
import RemapSynth.Proofs.Repair.Flow
import RemapSynth.Proofs.Repair.Patterns
import RemapSynth.Proofs.Repair.Soundness
import RemapSynth.Proofs.Repair.Spending
import RemapSynth.Proofs.Repair.Tracking
import RemapSynth.Proofs.Repair.Turn
import RemapSynth.Proofs.Repair.Unfolding
import RemapSynth.Proofs.Repair.Window
import RemapSynth.Proofs.Sample
import RemapSynth.Proofs.Sample.Rendering
import RemapSynth.Proofs.Score.Calls
import RemapSynth.Proofs.Score.Doubles
import RemapSynth.Proofs.Score.Growth
import RemapSynth.Proofs.Score.Monotone
import RemapSynth.Proofs.Selection.Conservation
import RemapSynth.Proofs.Selection.Discipline
import RemapSynth.Proofs.Selection.Ending
import RemapSynth.Proofs.Selection.Optimum
import RemapSynth.Proofs.Selection.Pool
import RemapSynth.Proofs.Selection.Ranking
import RemapSynth.Proofs.Selection.Scoring
import RemapSynth.Proofs.Selection.Serial
import RemapSynth.Proofs.Selection.Table
import RemapSynth.Proofs.Text.Pieces
import RemapSynth.Proofs.Text.Trim
import RemapSynth.Proofs.Text.Weight
import RemapSynth.Proofs.Validation
import RemapSynth.Proofs.Validation.Compiling
import RemapSynth.Proofs.Validation.Pipeline
import RemapSynth.Proofs.Validation.Running
import RemapSynth.Proofs.Validation.Timeout
import RemapSynth.Proofs.Width
import RemapSynth.Rehearsal.Engine
import RemapSynth.Rehearsal.Files
import RemapSynth.Rehearsal.Machine
import RemapSynth.Rehearsal.Process
import RemapSynth.Rehearsal.Provider
import RemapSynth.Rehearsal.Reading
import RemapSynth.Rehearsal.Script
import RemapSynth.Rehearsal.Shell
import RemapSynth.Rehearsal.Shell.Command
import RemapSynth.Rehearsal.Shell.Expand
import RemapSynth.Rehearsal.Shell.Filter
import RemapSynth.Rehearsal.Shell.Printed
import RemapSynth.Rehearsal.Shell.State
import RemapSynth.Rehearsal.Shell.Token
import RemapSynth.Rehearsal.Stage
import RemapSynth.Rehearsal.Transcript
import RemapSynth.Repair.Loop
import RemapSynth.Repair.Record
import RemapSynth.Sample
import RemapSynth.Score.Calibration
import RemapSynth.Score.Estimate
import RemapSynth.Score.Measurement
import RemapSynth.Score.Scalar
import RemapSynth.Score.Scorer
import RemapSynth.Score.Tier
import RemapSynth.Selection.Candidate
import RemapSynth.Selection.Pool
import RemapSynth.Selection.Report
import RemapSynth.Selection.Run
import RemapSynth.Settings.Basic
import RemapSynth.Settings.Data
import RemapSynth.Settings.Document
import RemapSynth.Text.Alphabetic
import RemapSynth.Text.Blank
import RemapSynth.Text.Case
import RemapSynth.Text.Cut
import RemapSynth.Text.Line
import RemapSynth.Text.Lowercase
import RemapSynth.Text.Mark
import RemapSynth.Text.Number
import RemapSynth.Text.Numeral
import RemapSynth.Text.Search
import RemapSynth.Text.Snippet
import RemapSynth.Text.Utf8
import RemapSynth.Text.Word
import RemapSynth.Toml.Document
import RemapSynth.Toml.Printer
import RemapSynth.Toml.Scalar
import RemapSynth.Toml.Value
import RemapSynth.Validation
import RemapSynth.Width
