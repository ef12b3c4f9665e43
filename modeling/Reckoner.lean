import Reckoner.Batch.Destination
import Reckoner.Batch.Report
import Reckoner.Batch.Run
import Reckoner.CommandLine.Arguments
import Reckoner.CommandLine.Run
import Reckoner.Contract.Documents
import Reckoner.Contract.Language
import Reckoner.Contract.Pattern.Lexeme
import Reckoner.Contract.Pattern.Nesting
import Reckoner.Contract.Schema
import Reckoner.Contract.Store
import Reckoner.Expression.Evaluation
import Reckoner.Expression.Implied
import Reckoner.Expression.Operator
import Reckoner.Expression.Postfix
import Reckoner.Failure
import Reckoner.FileTree
import Reckoner.Json.Basic
import Reckoner.Json.Fraction
import Reckoner.Json.Printer
import Reckoner.Json.Reader
import Reckoner.Log
import Reckoner.Main
import Reckoner.Number.Binary64
import Reckoner.Number.Decimal
import Reckoner.Number.HalfUp
import Reckoner.Number.Numeral
import Reckoner.Number.Rational
import Reckoner.Number.Scientific
import Reckoner.Number.Value
import Reckoner.Proofs.Expression.Grammar
import Reckoner.Proofs.Number.NumeralGrammar
import Reckoner.Session
import Reckoner.Settings
import Reckoner.Text.Blank
import Reckoner.Text.CharacterName
import Reckoner.Text.CharacterName.From0020
import Reckoner.Text.CharacterName.From0700
import Reckoner.Text.CharacterName.From10500
import Reckoner.Text.CharacterName.From11280
import Reckoner.Text.CharacterName.From16800
import Reckoner.Text.CharacterName.From1780
import Reckoner.Text.CharacterName.From1D000
import Reckoner.Text.CharacterName.From1F000
import Reckoner.Text.CharacterName.From1F680
import Reckoner.Text.CharacterName.From20D0
import Reckoner.Text.CharacterName.From2460
import Reckoner.Text.CharacterName.From2B00
import Reckoner.Text.CharacterName.FromA640
import Reckoner.Text.CharacterName.FromFB50
import Reckoner.Text.CharacterName.Further
import Reckoner.Text.CharacterName.Outline
import Reckoner.Text.CodeString
import Reckoner.Text.Digits
import Reckoner.Text.Hexadecimal
import Reckoner.Text.Identifier
import Reckoner.Text.LetterCase
import Reckoner.Text.LetterRuns
import Reckoner.Text.Lines
import Reckoner.Text.Pieces
import Reckoner.Text.Printable
import Reckoner.Text.Quoted
import Reckoner.Text.Utf8
import Reckoner.Proofs.Expression.ImpliedProducts
import Reckoner.Proofs.Expression.OperatorStack
import Reckoner.Proofs.Expression.TreeEvaluation
import Reckoner.Proofs.Number.NumeralValue
import Reckoner.Proofs.Expression.ExactEvaluation
import Reckoner.Proofs.Number.DecimalValue
import Reckoner.Proofs.Number.ZeroDivisor
import Reckoner.Proofs.Expression.PostfixTokens
import Reckoner.Proofs.Expression.CheckedEvaluation
import Reckoner.Proofs.Answers
import Reckoner.Proofs.Expression.TokenFold
import Reckoner.Proofs.Expression.FailureCauses
import Reckoner.Proofs.Expression.OperandBalance
import Reckoner.Proofs.Expression.MeaningfulCharacters
import Reckoner.Proofs.Expression.OperandPlaces
import Reckoner.Proofs.Expression.Groups
import Reckoner.Proofs.Expression.Approximation
import Reckoner.Proofs.Text.Decoding
import Reckoner.Proofs.Text.FileLines
import Reckoner.Proofs.Expression.IgnoredCharacters
import Reckoner.Proofs.Expression.Wording
import Reckoner.Proofs.Batch.LineAnswers
import Reckoner.Proofs.Files.Access
import Reckoner.Proofs.Batch.FileAnswers
import Reckoner.Proofs.Session.Dialogue
import Reckoner.Proofs.CommandLine.Endings
import Reckoner.Proofs.Number.DigitRuns
import Reckoner.Proofs.Number.DecimalText
import Reckoner.Proofs.Number.BinaryIntegers
import Reckoner.Proofs.Expression.ValueTexts
import Reckoner.Proofs.Contract.SchemaDemands
import Reckoner.Proofs.Contract.SettingsContract
import Reckoner.Proofs.Json.StringText
import Reckoner.Proofs.Json.IntegerText
import Reckoner.Proofs.Json.LongIntegers
import Reckoner.Proofs.Json.ReadPrinted
import Reckoner.Proofs.Batch.ReportText
import Reckoner.Proofs.CommandLine.ArgumentPaths
import Reckoner.Proofs.CommandLine.FileEffects
import Reckoner.Proofs.Expression.MatchingParentheses
import Reckoner.Proofs.Expression.PostfixTrees
import Reckoner.Proofs.Number.LowestTerms
import Reckoner.Proofs.Contract.ReportDocuments
import Reckoner.Proofs.Expression.Conservation
import Reckoner.Proofs.Number.Rounding
import Reckoner.Proofs.Number.WrittenNumber
import Reckoner.Proofs.Number.NumeralFailures
import Reckoner.Proofs.Number.NumeralAcceptance
import Reckoner.Proofs.Number.DecimalArithmetic
import Reckoner.Proofs.Number.DecimalQuotient
import Reckoner.Proofs.Expression.DivisionFree
import Reckoner.Proofs.Number.CanonicalText
import Reckoner.Proofs.Expression.WrittenProducts
import Reckoner.Proofs.Contract.StoreHistory
import Reckoner.Proofs.Text.LetterTables
import Reckoner.Proofs.Text.Recasing
import Reckoner.Proofs.Session.ExitCommand
import Reckoner.Proofs.Expression.StackSegments
