import MonkeyLang.Main
import MonkeyLang.Proofs.Evaluation.Arithmetic
import MonkeyLang.Proofs.Evaluation.Causes
import MonkeyLang.Proofs.Evaluation.Depth
import MonkeyLang.Proofs.Evaluation.Equality
import MonkeyLang.Proofs.Evaluation.FirstError
import MonkeyLang.Proofs.Evaluation.Frame
import MonkeyLang.Proofs.Evaluation.History
import MonkeyLang.Proofs.Evaluation.IntegerRange
import MonkeyLang.Proofs.Evaluation.Invariant
import MonkeyLang.Proofs.Evaluation.Refinement
import MonkeyLang.Proofs.Evaluation.Relevance
import MonkeyLang.Proofs.Evaluation.Repetition
import MonkeyLang.Proofs.Evaluation.Scoping
import MonkeyLang.Proofs.Evaluation.Spelling
import MonkeyLang.Proofs.Evaluation.Succession
import MonkeyLang.Proofs.Interaction.Agreement
import MonkeyLang.Proofs.Interaction.Braces
import MonkeyLang.Proofs.Interaction.Independence
import MonkeyLang.Proofs.Interaction.Progress
import MonkeyLang.Proofs.Lexing.Coverage
import MonkeyLang.Proofs.Lexing.Interleaving
import MonkeyLang.Proofs.Lexing.Layout
import MonkeyLang.Proofs.Lexing.Lines
import MonkeyLang.Proofs.Parsing.Budget
import MonkeyLang.Proofs.Parsing.Continuation
import MonkeyLang.Proofs.Parsing.Cursor
import MonkeyLang.Proofs.Parsing.EarlyEnd
import MonkeyLang.Proofs.Parsing.ErrorOrder
import MonkeyLang.Proofs.Parsing.Literal
import MonkeyLang.Proofs.Parsing.Nesting
import MonkeyLang.Proofs.Parsing.Placement
import MonkeyLang.Proofs.Parsing.Trimming
import MonkeyLang.Proofs.Printing.Outline
import MonkeyLang.Proofs.Printing.Values
