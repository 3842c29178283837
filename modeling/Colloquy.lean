import Colloquy.KeyMap
import Colloquy.Text.Blank
import Colloquy.Text.Ranges
import Colloquy.Text.CaseData
import Colloquy.Text.Lowercase
import Colloquy.Ident
import Colloquy.Decimal.Binary
import Colloquy.Json.Value
import Colloquy.Decimal.Shortest
import Colloquy.Decimal.Text
import Colloquy.Json.Writer
import Colloquy.Scalar
import Colloquy.Document.Basic
import Colloquy.Registry
import Colloquy.Fault
import Colloquy.Diagnostic
import Colloquy.Check
import Colloquy.Console.Args
import Colloquy.Files.Path
import Colloquy.Files.System
import Colloquy.Console.Source
import Colloquy.Store
import Colloquy.Presentation
import Colloquy.Engine.Basic
import Colloquy.Json.Error
import Colloquy.Json.Reader
import Colloquy.Document.Reader
import Colloquy.Engine.Step
import Colloquy.Engine.Create
import Colloquy.Console.Session
import Colloquy.Console.Program
import Colloquy.Decimal.Read
import Colloquy.Demos
import Colloquy.Document.Data
import Colloquy.Main
import Colloquy.Screen.CellData
import Colloquy.Screen.Cells
import Colloquy.Screen.Clusters
import Colloquy.Screen.Canvas
import Colloquy.Screen.Display
import Colloquy.Script.Case
import Colloquy.Text.PrintData
import Colloquy.Text.Escaped
import Colloquy.Script.Decode
import Colloquy.Screen.Events
import Colloquy.Screen.Keys
import Colloquy.Screen.Wrap
import Colloquy.Screen.Render
import Colloquy.Script.Run
import Colloquy.Proofs.Registry
import Colloquy.Proofs.Operations
import Colloquy.Proofs.RunShape
import Colloquy.Proofs.Transcript
import Colloquy.Proofs.EntryJumps
import Colloquy.Proofs.CheckedPlay
import Colloquy.Proofs.DocumentGrammar
import Colloquy.Proofs.DiagnosticWindow
import Colloquy.Proofs.RegistryHistory
import Colloquy.Proofs.Variables
import Colloquy.Proofs.ScreenSync
import Colloquy.Proofs.JumpChain
import Colloquy.Proofs.Refusals
import Colloquy.Proofs.Reload
import Colloquy.Proofs.CycleReport
import Colloquy.Proofs.EngineCreation
import Colloquy.Proofs.DisplayRuns
import Colloquy.Proofs.ChoiceWindow
import Colloquy.Proofs.Emission
import Colloquy.Proofs.LineMode
import Colloquy.Proofs.CaseVerdict
