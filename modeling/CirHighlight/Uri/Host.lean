import CirHighlight.Uri.Address
import CirHighlight.Uri.Domain
import CirHighlight.Uri.Percent

namespace CirHighlight.Uri.Host

def isDelimiter (c : Char) : Bool :=
  c ∈ ['\x00', '\t', '\n', '\r', ' ', '#', '/', ':', '<', '>', '?', '@', '[', '\\', ']', '^',
    '|']

/-- The normal form of the name of a host, which may be an address of 32 bits. -/
def name? (text : List Char) : Option (List Char) := do
  let decoded ← String.fromUTF8? ⟨(percentDecode text).toArray⟩
  let name ← Domain.ascii? decoded.toList
  if name.isEmpty then none
  else if Address.isNumeric name then (Address.four? name).map Address.renderFour
  else some name

/-- The normal form of a host. In brackets stands an address of 128 bits. -/
def parse? (special : Bool) (text : List Char) : Option (List Char) :=
  match text with
  | '[' :: rest =>
    if rest.getLast? = some ']' then (Address.six? rest.dropLast).map Address.renderSix else none
  | _ =>
    if special then name? text
    else if text.any isDelimiter then none
    else some (encode [] text)

end CirHighlight.Uri.Host
