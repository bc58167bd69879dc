import CirHighlight.Number.Binary64

namespace CirHighlight.Binary64

/-- The two sides of `c * 10 ^ place ≤ x * 2 ^ exponent` without negative powers. -/
def comparable (c : Nat) (place : Int) (x : Nat) (exponent : Int) : Nat × Nat :=
  ((c * Nat.pow 10 place.toNat) <<< (-exponent).toNat,
    (x * Nat.pow 10 (-place).toNat) <<< exponent.toNat)

/-- Whether `c * 10 ^ place` reads back as the number `mantissa * 2 ^ exponent`. The limits of
what does lie half way to the neighbours, and belong to numbers with an even mantissa. -/
def readsBack (mantissa : Nat) (exponent : Int) (c : Nat) (place : Int) : Bool :=
  let below := if mantissa = leastNormal ∧ leastExponent < exponent then 1 else 2
  let (value, low) := comparable c place (4 * mantissa - below) (exponent - 2)
  let (value', high) := comparable c place (4 * mantissa + 2) (exponent - 2)
  if mantissa % 2 = 0 then low ≤ value && value' ≤ high else low < value && value' < high

/-- The number of digits before the point of a positive number; it is negative for zeros after
the point. -/
def pointPlace (mantissa : Nat) (exponent : Int) : Int :=
  let scaled := ((mantissa * Nat.pow 10 400) <<< exponent.toNat) >>> (-exponent).toNat
  ((Nat.toDigits 10 scaled).length : Int) - 400

/-- A whole number with so many digits whose product with a power of ten reads back as the
number, if there is one; the nearer one if there are two. -/
def withDigits? (mantissa : Nat) (exponent : Int) (count : Nat) : Option (Nat × Int) :=
  let place := pointPlace mantissa exponent - count
  let (ten, value) := comparable 1 place mantissa exponent
  let lower := value / ten
  let remainder := value % ten
  let hitLower := lower ≠ 0 && readsBack mantissa exponent lower place
  let hitUpper := readsBack mantissa exponent (lower + 1) place
  if hitUpper && (!hitLower || ten ≤ 2 * remainder) then some (lower + 1, place)
  else if hitLower then some (lower, place)
  else none

/-- The fewest digits that read back as a positive number, and the power of ten they are
multiplied by. Seventeen digits are always enough. -/
def shortest (mantissa : Nat) (exponent : Int) : Nat × Int :=
  ((List.range 17).findSome? fun n => withDigits? mantissa exponent (n + 1)).getD (0, 0)

def positional (digits : Nat) (power : Int) : String :=
  let text := Nat.toDigits 10 digits
  let kept := (text.reverse.dropWhile (· = '0')).reverse
  let point : Int := text.length + power
  let body :=
    if point ≤ 0 then ['0', '.'] ++ List.replicate (-point).toNat '0' ++ kept
    else if kept.length ≤ point.toNat then kept ++ List.replicate (point.toNat - kept.length) '0'
    else kept.take point.toNat ++ '.' :: kept.drop point.toNat
  String.ofList body

def render : Binary64 → String
  | .nan => "NaN"
  | .infinite true => "-inf"
  | .infinite false => "inf"
  | .finite negative mantissa exponent =>
    let sign := if negative then "-" else ""
    if mantissa = 0 then sign ++ "0"
    else
      let (digits, power) := shortest mantissa exponent
      sign ++ positional digits power

def renderWithPoint (number : Binary64) : String :=
  let text := number.render
  match number with
  | .finite _ _ _ => if text.toList.contains '.' then text else text ++ ".0"
  | _ => text

end CirHighlight.Binary64
