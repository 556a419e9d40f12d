import MacroSandbox.Action
import MacroSandbox.Analysis
import MacroSandbox.Arrays
import MacroSandbox.Caches
import MacroSandbox.Document
import MacroSandbox.Emulator
import MacroSandbox.Encoding.Base64
import MacroSandbox.Encoding.Hex
import MacroSandbox.Encoding.Sha256
import MacroSandbox.Evaluation.Assignment
import MacroSandbox.Evaluation.Call
import MacroSandbox.Evaluation.Engine
import MacroSandbox.Evaluation.Expression
import MacroSandbox.Evaluation.Interpreter
import MacroSandbox.Evaluation.Monad
import MacroSandbox.Evaluation.Operand
import MacroSandbox.Evaluation.Resolution
import MacroSandbox.Evaluation.Statement
import MacroSandbox.Fault
import MacroSandbox.Files
import MacroSandbox.Heap
import MacroSandbox.Indicators
import MacroSandbox.Inference
import MacroSandbox.Library.Catalog
import MacroSandbox.Library.Host
import MacroSandbox.Library.Pure
import MacroSandbox.Library.TextFunction
import MacroSandbox.Limits
import MacroSandbox.Loop.Compiler
import MacroSandbox.Loop.Lowering
import MacroSandbox.Loop.Machine
import MacroSandbox.Loop.Program
import MacroSandbox.Memory
import MacroSandbox.Names
import MacroSandbox.Number.Binary64
import MacroSandbox.Number.FloatText
import MacroSandbox.Number.Numeral
import MacroSandbox.Number.Shortest
import MacroSandbox.Operators
import MacroSandbox.Policy
import MacroSandbox.Policy.Json
import MacroSandbox.Policy.Reader
import MacroSandbox.Program
import MacroSandbox.Program.Node
import MacroSandbox.Program.Render
import MacroSandbox.Proofs.Absorption
import MacroSandbox.Proofs.Announcements
import MacroSandbox.Proofs.ArraySizes
import MacroSandbox.Proofs.Assignments
import MacroSandbox.Proofs.CacheGrowth
import MacroSandbox.Proofs.CachedResults
import MacroSandbox.Proofs.CallChains
import MacroSandbox.Proofs.CallDepth
import MacroSandbox.Proofs.CellReads
import MacroSandbox.Proofs.CellReferences
import MacroSandbox.Proofs.ClosedPrograms
import MacroSandbox.Proofs.ClosedRuns
import MacroSandbox.Proofs.Composition
import MacroSandbox.Proofs.Confinement
import MacroSandbox.Proofs.ConstantCache
import MacroSandbox.Proofs.ConstantReuse
import MacroSandbox.Proofs.ConstantTexts
import MacroSandbox.Proofs.ConstantValues
import MacroSandbox.Proofs.Copies
import MacroSandbox.Proofs.DecimalTexts
import MacroSandbox.Proofs.Declarations
import MacroSandbox.Proofs.DigitTexts
import MacroSandbox.Proofs.DocumentNodes
import MacroSandbox.Proofs.ElementLoops
import MacroSandbox.Proofs.Evidence
import MacroSandbox.Proofs.Evolution
import MacroSandbox.Proofs.ExactIntegers
import MacroSandbox.Proofs.ExpressionTexts
import MacroSandbox.Proofs.Faults
import MacroSandbox.Proofs.FileClosing
import MacroSandbox.Proofs.FileHistories
import MacroSandbox.Proofs.FlatCopies
import MacroSandbox.Proofs.FlatResults
import MacroSandbox.Proofs.FormulaTexts
import MacroSandbox.Proofs.FuelledMachine
import MacroSandbox.Proofs.GrowingArrays
import MacroSandbox.Proofs.HexBytes
import MacroSandbox.Proofs.HexIntegers
import MacroSandbox.Proofs.InterpretedDeclarations
import MacroSandbox.Proofs.LockStep
import MacroSandbox.Proofs.Lookups
import MacroSandbox.Proofs.LoopAgreement
import MacroSandbox.Proofs.LoopCache
import MacroSandbox.Proofs.LoopDeclarations
import MacroSandbox.Proofs.LoopFollowing
import MacroSandbox.Proofs.LoopIsolation
import MacroSandbox.Proofs.LoopOutcomes
import MacroSandbox.Proofs.LoopPrograms
import MacroSandbox.Proofs.LoopResults
import MacroSandbox.Proofs.LoopRuns
import MacroSandbox.Proofs.LoopSimulation
import MacroSandbox.Proofs.LoopUpdates
import MacroSandbox.Proofs.LoweredPrograms
import MacroSandbox.Proofs.MarkedNumbers
import MacroSandbox.Proofs.MemoryContents
import MacroSandbox.Proofs.MemoryImages
import MacroSandbox.Proofs.Mentions
import MacroSandbox.Proofs.NameStems
import MacroSandbox.Proofs.NumberLengths
import MacroSandbox.Proofs.NumeralTexts
import MacroSandbox.Proofs.OperatorTexts
import MacroSandbox.Proofs.Parts
import MacroSandbox.Proofs.PendingErrors
import MacroSandbox.Proofs.PlainLoops
import MacroSandbox.Proofs.ProgramTexts
import MacroSandbox.Proofs.Reachability
import MacroSandbox.Proofs.ReadNames
import MacroSandbox.Proofs.Receivers
import MacroSandbox.Proofs.RelocatedHeaps
import MacroSandbox.Proofs.RelocatedRuns
import MacroSandbox.Proofs.RelocatedWrites
import MacroSandbox.Proofs.Repeatability
import MacroSandbox.Proofs.ReservedPlaces
import MacroSandbox.Proofs.ResumeNext
import MacroSandbox.Proofs.RunBudgets
import MacroSandbox.Proofs.Running
import MacroSandbox.Proofs.Separation
import MacroSandbox.Proofs.ShapedPrograms
import MacroSandbox.Proofs.SharedLists
import MacroSandbox.Proofs.SparedEvaluations
import MacroSandbox.Proofs.SparedRuns
import MacroSandbox.Proofs.StatementTexts
import MacroSandbox.Proofs.StoredResults
import MacroSandbox.Proofs.StoredVariables
import MacroSandbox.Proofs.StringLimits
import MacroSandbox.Proofs.TextPieces
import MacroSandbox.Proofs.TextPositions
import MacroSandbox.Proofs.TextSizes
import MacroSandbox.Proofs.Variables
import MacroSandbox.Proofs.WordTexts
import MacroSandbox.Report
import MacroSandbox.Report.Text
import MacroSandbox.Scope
import MacroSandbox.Session
import MacroSandbox.State
import MacroSandbox.Text.Blank
import MacroSandbox.Text.Case
import MacroSandbox.Text.CaseTable
import MacroSandbox.Text.Character
import MacroSandbox.Text.Pattern
import MacroSandbox.Text.Property
import MacroSandbox.Text.Quoted
import MacroSandbox.Text.Search
import MacroSandbox.Text.Slice
import MacroSandbox.Text.Substitution
import MacroSandbox.Text.Table
import MacroSandbox.Text.Visibility
import MacroSandbox.Text.Walk
import MacroSandbox.Value
