namespace CirHighlight

/-- Replaces `deleteCount` integers from the index `start` on by `data`. -/
structure Edit where
  start : Nat
  deleteCount : Nat
  data : List UInt32
deriving DecidableEq

namespace Edit

def common {α : Type} [DecidableEq α] : List α → List α → Nat
  | x :: xs, y :: ys => if x = y then common xs ys + 1 else 0
  | _, _ => 0

/-- The greatest multiple of the stride that is not above a number. -/
def alignDown (stride n : Nat) : Nat :=
  n - n % stride

/-- The edits, one at most, that turn one list into another and are cut at multiples of the
stride. -/
def between (stride : Nat) (before after : List UInt32) : List Edit :=
  if before = after then []
  else
    let start := alignDown stride (common before after)
    let kept :=
      alignDown stride (common (before.drop start).reverse (after.drop start).reverse)
    [{ start
       deleteCount := before.length - kept - start
       data := (after.take (after.length - kept)).drop start }]

def diff (before after : List UInt32) : List Edit :=
  between 1 before after

/-- The edits, one at most, that turn one list of whole tokens into another and replace whole
tokens. -/
def diffTokens (before after : List UInt32) : List Edit :=
  between 5 before after

/-- Applies an edit. What it names beyond the end of the list counts as the end. -/
def applyTo (edit : Edit) (data : List UInt32) : List UInt32 :=
  let stop := min (edit.start + edit.deleteCount) data.length
  let start := min edit.start stop
  data.take start ++ edit.data ++ data.drop stop

def apply (before : List UInt32) (edits : List Edit) : List UInt32 :=
  edits.foldl (fun data edit => edit.applyTo data) before

end Edit

end CirHighlight
