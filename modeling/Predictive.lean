import Predictive.Main
import Predictive.Parser.Permutation
import Predictive.Proofs.Success
import Predictive.Proofs.Composition
import Predictive.Proofs.Consumption
import Predictive.Proofs.Grammar
import Predictive.Proofs.Symbols
import Predictive.Proofs.LevelReading
import Predictive.Proofs.TableReading
import Predictive.Proofs.LevelSoundness
import Predictive.Proofs.Returning
import Predictive.Proofs.TokenTables
import Predictive.Proofs.Ambiguity
import Predictive.Proofs.ArithmeticParsing
import Predictive.Proofs.ErrorMerging
import Predictive.Proofs.ErrorPositions
import Predictive.Proofs.CombinatorLaws
import Predictive.Proofs.LoopRecursion
import Predictive.Proofs.RepetitionUnfolding
import Predictive.Proofs.PositionCoherence
import Predictive.Proofs.RangeParsing
import Predictive.Proofs.StreamIndependence
import Predictive.Proofs.ExactEvaluation
import Predictive.Proofs.NumberTypes
import Predictive.Proofs.Arrangements
import Predictive.Proofs.Words
import Predictive.Proofs.CaseFolding
import Predictive.Proofs.Literals
import Predictive.Proofs.LexemeReading
import Predictive.Proofs.LexemeReturning
import Predictive.Proofs.LexerReturning
import Predictive.Proofs.SourceLexing
import Predictive.Proofs.CommentScanning
import Predictive.Proofs.LoopBounds
import Predictive.Proofs.TokenBoundaries
import Predictive.Proofs.IntegerLiterals
import Predictive.Proofs.NumberForms
import Predictive.Proofs.ChainRecursion
import Predictive.Proofs.PermutationOrders
import Predictive.Proofs.IndexedPermutations
import Predictive.Proofs.SeparatorLanguages
import Predictive.Proofs.LiteralSpellings
import Predictive.Proofs.FixedTexts
import Predictive.Proofs.ExpressionReadability
import Predictive.Proofs.BindingLists
import Predictive.Proofs.GuardedRecursion
import Predictive.Proofs.ErrorRendering
import Predictive.Proofs.DistinctMessages
import Predictive.Proofs.PositionOrder
import Predictive.Proofs.TextCursor
