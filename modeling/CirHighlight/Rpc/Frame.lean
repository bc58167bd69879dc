import CirHighlight.Json.Printer
import CirHighlight.Text.Ascii

namespace CirHighlight.Rpc.Frame

def length? (line : String) : Option Nat :=
  match line.toList.span (· ≠ ':') with
  | (name, _ :: value) =>
    let isBlank := fun c => c = ' ' || c = '\t' || c = '\r' || c = '\n'
    let value := ((value.dropWhile isBlank).reverse.dropWhile isBlank).reverse
    if Text.asciiLower name = "content-length".toList && !value.isEmpty && value.all Char.isDigit
    then some (Text.decimalValue value)
    else none
  | _ => none

def isEnd (line : String) : Bool :=
  line = "\r\n" || line = "\n"

def render (json : Json) : String :=
  let content := json.compress
  "Content-Length: " ++ toString content.utf8ByteSize ++ "\r\n\r\n" ++ content

end CirHighlight.Rpc.Frame
