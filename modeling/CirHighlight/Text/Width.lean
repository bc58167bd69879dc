namespace CirHighlight.Text

/-- UTF-16 code units of a character: two for those beyond the basic multilingual plane. -/
def units (c : Char) : UInt32 :=
  if c.val ≤ 0xFFFF then 1 else 2

def width : List Char → UInt32
  | [] => 0
  | c :: text => units c + width text

def byteSize : List Char → Nat
  | [] => 0
  | c :: text => c.utf8Size + byteSize text

@[simp]
theorem width_nil : width [] = 0 := rfl

@[simp]
theorem width_cons (c : Char) (text : List Char) : width (c :: text) = units c + width text := rfl

@[simp]
theorem width_append (left right : List Char) :
    width (left ++ right) = width left + width right := by
  induction left with
  | nil => simp
  | cons c left ih => simp [ih, UInt32.add_assoc]

@[simp]
theorem byteSize_nil : byteSize [] = 0 := rfl

@[simp]
theorem byteSize_cons (c : Char) (text : List Char) :
    byteSize (c :: text) = c.utf8Size + byteSize text := rfl

@[simp]
theorem byteSize_append (left right : List Char) :
    byteSize (left ++ right) = byteSize left + byteSize right := by
  induction left with
  | nil => simp
  | cons c left ih => simp [ih, Nat.add_assoc]

end CirHighlight.Text
