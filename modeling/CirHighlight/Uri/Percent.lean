import CirHighlight.Text.Ascii

namespace CirHighlight.Uri

def percentByte (byte : UInt8) : List Char :=
  ['%', Text.upperHexDigit (byte.toNat / 16), Text.upperHexDigit (byte.toNat % 16)]

/-- Writes the characters outside printable ASCII and those of the given set as bytes. -/
def encode (set : List Char) (text : List Char) : List Char :=
  text.flatMap fun c =>
    if c.toNat < 0x20 ∨ 0x7E < c.toNat ∨ c ∈ set then
      (String.utf8EncodeChar c).flatMap percentByte
    else [c]

/-- The bytes of a text in which percent-encoded bytes stand for themselves. -/
def percentDecode : List Char → List UInt8
  | [] => []
  | '%' :: high :: low :: rest =>
    match Text.hexValue? high, Text.hexValue? low with
    | some high, some low => (high * 16 + low).toUInt8 :: percentDecode rest
    | _, _ => '%'.toNat.toUInt8 :: percentDecode (high :: low :: rest)
  | c :: rest => String.utf8EncodeChar c ++ percentDecode rest
termination_by text => text.length

def fragmentSet : List Char := [' ', '"', '<', '>', '\x60']

def pathSet : List Char := fragmentSet ++ ['#', '?', '\x7b', '\x7d']

def userSet : List Char := pathSet ++ ['/', ':', ';', '=', '@', '[', '\\', ']', '^', '|']

def querySet (special : Bool) : List Char :=
  [' ', '"', '#', '<', '>'] ++ if special then ['\''] else []

end CirHighlight.Uri
