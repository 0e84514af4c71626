import Reckoner.Calculator
import Reckoner.Configuration.Reading
import Reckoner.Error
import Reckoner.Main
import Reckoner.Proofs.Appending
import Reckoner.Proofs.Applications
import Reckoner.Proofs.ClosedRuns
import Reckoner.Proofs.Commuting
import Reckoner.Proofs.Compilation
import Reckoner.Proofs.DataValues
import Reckoner.Proofs.Declarations
import Reckoner.Proofs.Dictionary
import Reckoner.Proofs.EmptyTexts
import Reckoner.Proofs.EvaluationFrame
import Reckoner.Proofs.EvaluationOrder
import Reckoner.Proofs.EvaluationPlan
import Reckoner.Proofs.ExpressionDerivation
import Reckoner.Proofs.ExpressionReading
import Reckoner.Proofs.Mentions
import Reckoner.Proofs.NameResolution
import Reckoner.Proofs.Noninterference
import Reckoner.Proofs.NumberReaders
import Reckoner.Proofs.Outcome
import Reckoner.Proofs.ParserReading
import Reckoner.Proofs.ParserSpelling
import Reckoner.Proofs.PlainKeys
import Reckoner.Proofs.PlainTokens
import Reckoner.Proofs.PrimaryReading
import Reckoner.Proofs.Printable
import Reckoner.Proofs.Readers
import Reckoner.Proofs.Repetition
import Reckoner.Proofs.ScopeChanges
import Reckoner.Proofs.ScriptRun
import Reckoner.Proofs.Simulation
import Reckoner.Proofs.Spelling
import Reckoner.Proofs.StatementDerivation
import Reckoner.Proofs.StatementReading
import Reckoner.Proofs.Tasks
import Reckoner.Proofs.TokenReading
import Reckoner.Proofs.Views
import Reckoner.Proofs.Written
import Reckoner.Proofs.WrittenTokens
import Reckoner.Proofs.Cutting
import Reckoner.Proofs.Meaning
import Reckoner.Proofs.Tiling
import Reckoner.Proofs.Division
import Reckoner.Proofs.Insertion
import Reckoner.Proofs.Relaying
import Reckoner.Proofs.LineEndings
import Reckoner.Proofs.FunctionText
import Reckoner.Proofs.Acceptance
import Reckoner.Proofs.DecimalDigits
import Reckoner.Proofs.PathText
import Reckoner.Proofs.Flattening
import Reckoner.Proofs.Binary64
import Reckoner.Proofs.Rounding
import Reckoner.Proofs.NearestNumber
import Reckoner.Proofs.ShortestDecimal
import Reckoner.Proofs.LiteralText
import Reckoner.Proofs.NumberText
import Reckoner.Proofs.JsonBridge
import Reckoner.Proofs.Sameness
import Reckoner.Proofs.StrictEquality
import Reckoner.Proofs.LooseEquality
import Reckoner.Proofs.Rounds
import Reckoner.Proofs.FailurePosition
import Reckoner.Proofs.BuiltParsers
import Reckoner.Proofs.TokenProgress
import Reckoner.Proofs.ErrorPlace
import Reckoner.Proofs.RadixDigits
import Reckoner.Proofs.StringLiteral
import Reckoner.Proofs.CorrectRounding
import Reckoner.Proofs.NumberGrammar
import Reckoner.Proofs.NumberLiterals
import Reckoner.Proofs.Interchange
import Reckoner.Proofs.Namesakes
import Reckoner.Proofs.NumberOrder
import Reckoner.Proofs.CivilCalendar
import Reckoner.Proofs.ValidInstants
import Reckoner.Proofs.Comparison
import Reckoner.Proofs.DateText
import Reckoner.Proofs.DateStability
import Reckoner.Proofs.PathAccess
import Reckoner.Proofs.IndexRange
import Reckoner.Proofs.ExactArithmetic
import Reckoner.Proofs.WholeDivision
import Reckoner.Proofs.DateParts
import Reckoner.Proofs.DateFields
import Reckoner.Proofs.DateSpellings
import Reckoner.Proofs.DateFormats
import Reckoner.Proofs.Positions
import Reckoner.Proofs.TextSearch
import Reckoner.Proofs.DigitSums
import Reckoner.Proofs.IntegerReading
import Reckoner.Proofs.RadixText
import Reckoner.Proofs.NumberForms
import Reckoner.Proofs.FloatReading
import Reckoner.Proofs.Broadcasting
import Reckoner.Proofs.NumberTrees
import Reckoner.Proofs.InnerProducts
import Reckoner.Proofs.ItemPlaces
import Reckoner.Proofs.ListRounds
import Reckoner.Proofs.ConfigurationText
import Reckoner.Proofs.VariableNames
