import CirHighlight.TokenStream.Basic
import CirHighlight.TokenStream.Edit

namespace CirHighlight

structure WireEdit where
  start : UInt32
  deleteCount : UInt32
  data : Option TokenStream
deriving DecidableEq

namespace WireEdit

/-- Puts an edit on the wire: high bits of its numbers and an incomplete last token are lost. -/
def ofEdit (edit : Edit) : WireEdit where
  start := edit.start.toUInt32
  deleteCount := edit.deleteCount.toUInt32
  data := if edit.data.isEmpty then none else some (TokenStream.ofIntegers edit.data)

def toEdit (edit : WireEdit) : Edit where
  start := edit.start.toNat
  deleteCount := edit.deleteCount.toNat
  data := (edit.data.getD []).integers

end WireEdit

end CirHighlight
