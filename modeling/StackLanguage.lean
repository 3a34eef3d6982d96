import StackLanguage.Main
import StackLanguage.SyntaxTree.Derivation
import StackLanguage.Proofs.Session.Chunks
import StackLanguage.Proofs.Soundness.Scoping
import StackLanguage.Proofs.Typing.Rollback
import StackLanguage.Proofs.Session.Rejection
import StackLanguage.Proofs.Token.ScanStability
import StackLanguage.Proofs.SyntaxTree.Continuation
import StackLanguage.Proofs.Token.Cuts
import StackLanguage.Proofs.SyntaxTree.Highlighting
import StackLanguage.Proofs.Evaluation.Surroundings
import StackLanguage.Proofs.Session.Surroundings
import StackLanguage.Proofs.Interactive.ChunkByChunk
import StackLanguage.Proofs.Session.InputLines
import StackLanguage.Proofs.Interactive.Loop
import StackLanguage.Proofs.Program.Regular
import StackLanguage.Proofs.Program.Failure
import StackLanguage.Proofs.Session.Termination
import StackLanguage.Proofs.Evaluation.Answers
import StackLanguage.Proofs.Session.History
import StackLanguage.Proofs.Session.CallLimit
import StackLanguage.Proofs.Session.Pieces
import StackLanguage.Proofs.Session.Following
import StackLanguage.Proofs.Typing.BaseStack
import StackLanguage.Proofs.Evaluation.SharedAgreement
import StackLanguage.Proofs.Evaluation.NamedParameters
import StackLanguage.Proofs.SyntaxTree.Words
import StackLanguage.Proofs.SyntaxTree.Respacing
import StackLanguage.Proofs.Session.ErrorPlaces
import StackLanguage.Proofs.Operator.IntegerPower
import StackLanguage.Proofs.Program.StringLiteral
import StackLanguage.Proofs.Number.PrintedNumbers
import StackLanguage.Proofs.Operator.DoublePower
import StackLanguage.Proofs.Program.NumberLiteral
import StackLanguage.Proofs.Operator.IntegerDivision
