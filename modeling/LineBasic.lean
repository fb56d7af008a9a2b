import LineBasic.CommandLine.Invocation
import LineBasic.CommandLine.Paths
import LineBasic.Files
import LineBasic.Main
import LineBasic.Text.Utf8
import LineBasic.Proofs.Folding
import LineBasic.Proofs.Leaves
import LineBasic.Proofs.TokenLanguage
import LineBasic.Proofs.ExactDecimals
import LineBasic.Proofs.ExpressionGrammar
import LineBasic.Proofs.LineNumbers
import LineBasic.Proofs.SourceLines
import LineBasic.Proofs.Execution
import LineBasic.Proofs.StoredStatements
import LineBasic.Proofs.History
import LineBasic.Proofs.MapEntries
import LineBasic.Proofs.Sequences
import LineBasic.Proofs.ProgramStore
import LineBasic.Proofs.FaultFree
import LineBasic.Proofs.ProgramInvariant
import LineBasic.Proofs.TokenText
import LineBasic.Proofs.PhysicalLines
import LineBasic.Proofs.Listing
import LineBasic.Proofs.Runs
import LineBasic.Proofs.CellMemory
import LineBasic.Proofs.FoldingOrder
import LineBasic.Proofs.OperatorChains
import LineBasic.Proofs.LiteralText
import LineBasic.Proofs.WrittenExpressions
import LineBasic.Proofs.ParenthesizedOperand
import LineBasic.Proofs.StatementEffects
import LineBasic.Proofs.FoldingConfluence
import LineBasic.Proofs.ParsedTrees
import LineBasic.Proofs.AssignmentGrammar
import LineBasic.Proofs.FoldingFixpoint
import LineBasic.Proofs.ExpressionInLine
import LineBasic.Proofs.EvaluationFailures
import LineBasic.Proofs.NumericTokens
import LineBasic.Proofs.ByteDecoding
import LineBasic.Proofs.TokenReading
import LineBasic.Proofs.PrintedStrings
import LineBasic.Proofs.ArrayContents
import LineBasic.Proofs.LineEnds
import LineBasic.Proofs.Outlines
import LineBasic.Proofs.Doubles
import LineBasic.Proofs.IndexValidation
import LineBasic.Proofs.ByteOrder
import LineBasic.Proofs.IndependentUpdates
import LineBasic.Proofs.TokenSeparators
