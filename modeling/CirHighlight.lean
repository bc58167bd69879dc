import CirHighlight.Main
import CirHighlight.Proofs.Document.Clamping
import CirHighlight.Proofs.Document.Synchronization
import CirHighlight.Proofs.Highlighter.Concatenation
import CirHighlight.Proofs.Highlighter.Configuration
import CirHighlight.Proofs.Highlighter.Exact
import CirHighlight.Proofs.Highlighter.Faithful
import CirHighlight.Proofs.Highlighter.LineEnds
import CirHighlight.Proofs.Lexeme.Escape
import CirHighlight.Proofs.Lexeme.Recognition
import CirHighlight.Proofs.Lexeme.RuleOrder
import CirHighlight.Proofs.Lexer.Boundary
import CirHighlight.Proofs.Lexer.Progress
import CirHighlight.Proofs.Lexer.SelfDelimiting
import CirHighlight.Proofs.Server.Atomicity
import CirHighlight.Proofs.Server.Exchange
import CirHighlight.Proofs.Server.Independence
import CirHighlight.Proofs.Settings.Environment
import CirHighlight.Proofs.TokenStream.Difference
import CirHighlight.Proofs.TokenStream.Disorder
import CirHighlight.Proofs.TokenStream.Granularity
import CirHighlight.Proofs.TokenStream.Inverse
import CirHighlight.Proofs.TokenStream.Smallest
