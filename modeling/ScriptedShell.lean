import ScriptedShell.Bridge
import ScriptedShell.Bridge.Operation
import ScriptedShell.Command
import ScriptedShell.CommandLine
import ScriptedShell.Decimal.Shortest
import ScriptedShell.Fault
import ScriptedShell.File.Tree
import ScriptedShell.Json
import ScriptedShell.Json.Reader
import ScriptedShell.Main
import ScriptedShell.Program
import ScriptedShell.Program.Interpreter
import ScriptedShell.Proofs.Balance
import ScriptedShell.Proofs.BridgeLife
import ScriptedShell.Proofs.CommandName
import ScriptedShell.Proofs.CommandRun
import ScriptedShell.Proofs.Delivery
import ScriptedShell.Proofs.Effect
import ScriptedShell.Proofs.EngineHeap
import ScriptedShell.Proofs.ExitCode
import ScriptedShell.Proofs.ExportText
import ScriptedShell.Proofs.ForeignRecord
import ScriptedShell.Proofs.Forwarding
import ScriptedShell.Proofs.FreshEngine
import ScriptedShell.Proofs.Furnishing
import ScriptedShell.Proofs.Installation
import ScriptedShell.Proofs.Inversion
import ScriptedShell.Proofs.LastStatus
import ScriptedShell.Proofs.LexedWord
import ScriptedShell.Proofs.LineJoin
import ScriptedShell.Proofs.LiteralText
import ScriptedShell.Proofs.LoadFailure
import ScriptedShell.Proofs.Machine
import ScriptedShell.Proofs.MachineRun
import ScriptedShell.Proofs.Moment
import ScriptedShell.Proofs.Move
import ScriptedShell.Proofs.NameBoundary
import ScriptedShell.Proofs.Nesting
import ScriptedShell.Proofs.OwnObject
import ScriptedShell.Proofs.Passage
import ScriptedShell.Proofs.PastEvents
import ScriptedShell.Proofs.PlainLine
import ScriptedShell.Proofs.PositionalFrames
import ScriptedShell.Proofs.ProgramEnding
import ScriptedShell.Proofs.Protection
import ScriptedShell.Proofs.QuotedLine
import ScriptedShell.Proofs.Quoting
import ScriptedShell.Proofs.RecordShapes
import ScriptedShell.Proofs.Reentrancy
import ScriptedShell.Proofs.Reference
import ScriptedShell.Proofs.ReferenceGrammar
import ScriptedShell.Proofs.Refusal
import ScriptedShell.Proofs.Registration
import ScriptedShell.Proofs.Rendering
import ScriptedShell.Proofs.RequestGrammar
import ScriptedShell.Proofs.RunawayRecursion
import ScriptedShell.Proofs.ScriptFault
import ScriptedShell.Proofs.ScriptLines
import ScriptedShell.Proofs.ScriptSurface
import ScriptedShell.Proofs.ScriptText
import ScriptedShell.Proofs.ScriptView
import ScriptedShell.Proofs.SettingsOrigin
import ScriptedShell.Proofs.SettingsReload
import ScriptedShell.Proofs.SettingsSearch
import ScriptedShell.Proofs.StartFailure
import ScriptedShell.Proofs.StatusSource
import ScriptedShell.Proofs.StoredValue
import ScriptedShell.Proofs.Timeline
import ScriptedShell.Proofs.TomlDocument
import ScriptedShell.Proofs.TomlString
import ScriptedShell.Proofs.TwoRuns
import ScriptedShell.Proofs.Undisturbed
import ScriptedShell.Proofs.VariableHistory
import ScriptedShell.Proofs.VariableStore
import ScriptedShell.Proofs.WordMarks
import ScriptedShell.Script.Action
import ScriptedShell.Script.Assignment
import ScriptedShell.Script.Builtin
import ScriptedShell.Script.BuiltinCall
import ScriptedShell.Script.Check
import ScriptedShell.Script.Chunk
import ScriptedShell.Script.Conversion
import ScriptedShell.Script.Declaration
import ScriptedShell.Script.Dialogue
import ScriptedShell.Script.EarlyError
import ScriptedShell.Script.Engine
import ScriptedShell.Script.Evaluation
import ScriptedShell.Script.Intrinsic
import ScriptedShell.Script.Language
import ScriptedShell.Script.Member
import ScriptedShell.Script.Message
import ScriptedShell.Script.Naming
import ScriptedShell.Script.Number
import ScriptedShell.Script.Object
import ScriptedShell.Script.ShellCall
import ScriptedShell.Script.SourceReader
import ScriptedShell.Script.Standard
import ScriptedShell.Script.Token
import ScriptedShell.Script.Tree
import ScriptedShell.Script.Value
import ScriptedShell.Session
import ScriptedShell.Session.Operation
import ScriptedShell.Settings
import ScriptedShell.Settings.JsonForm
import ScriptedShell.Settings.Source
import ScriptedShell.Settings.TomlForm
import ScriptedShell.Shell
import ScriptedShell.Shell.Execution
import ScriptedShell.Status
import ScriptedShell.Table
import ScriptedShell.Text.Blank
import ScriptedShell.Text.Identifier
import ScriptedShell.Text.Quoted
import ScriptedShell.Text.Unprintable
import ScriptedShell.Text.Utf16
import ScriptedShell.Toml
import ScriptedShell.Toml.Document
import ScriptedShell.Toml.Reader
import ScriptedShell.Toml.Scalar
import ScriptedShell.Toml.Writer
import ScriptedShell.Variable
import ScriptedShell.Word
import ScriptedShell.Word.Lexer
import ScriptedShell.Word.Template
