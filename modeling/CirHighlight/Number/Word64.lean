namespace CirHighlight.Number

def isSigned64 (value : Int) : Bool :=
  -0x8000000000000000 ≤ value && value ≤ 0x7FFFFFFFFFFFFFFF

def isUnsigned64 (value : Int) : Bool :=
  0 ≤ value && value ≤ 0xFFFFFFFFFFFFFFFF

end CirHighlight.Number
