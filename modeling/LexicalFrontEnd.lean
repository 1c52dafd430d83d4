import LexicalFrontEnd.Command.Directory
import LexicalFrontEnd.Main
import LexicalFrontEnd.Proofs.Buffering
import LexicalFrontEnd.Proofs.Layout
import LexicalFrontEnd.Proofs.LineEnding
import LexicalFrontEnd.Proofs.Listing
import LexicalFrontEnd.Proofs.Numbers
import LexicalFrontEnd.Proofs.Printing
import LexicalFrontEnd.Proofs.Progress
import LexicalFrontEnd.Proofs.Reopening
import LexicalFrontEnd.Proofs.Source.Retry
import LexicalFrontEnd.Proofs.Strings
import LexicalFrontEnd.Proofs.Characters
import LexicalFrontEnd.Proofs.Invalid
import LexicalFrontEnd.Proofs.Scanner.Tokens
import LexicalFrontEnd.Proofs.Operators
import LexicalFrontEnd.Proofs.Words
import LexicalFrontEnd.Proofs.Codes
import LexicalFrontEnd.Proofs.Tokenizer
import LexicalFrontEnd.Proofs.Unambiguous
import LexicalFrontEnd.Proofs.Truncation
import LexicalFrontEnd.Proofs.Output.Colors
import LexicalFrontEnd.Proofs.Output.Limits
import LexicalFrontEnd.Proofs.Command.Options
import LexicalFrontEnd.Proofs.Diagnostic.Code
import LexicalFrontEnd.Proofs.Source.Consistency
