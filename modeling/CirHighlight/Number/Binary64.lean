namespace CirHighlight

/-- A double-precision number. The value of a finite one is its mantissa times two to the power
of its exponent. -/
inductive Binary64 where
  | finite (negative : Bool) (mantissa : Nat) (exponent : Int)
  | infinite (negative : Bool)
  | nan
deriving DecidableEq

namespace Binary64

def leastExponent : Int := -1074

def greatestExponent : Int := 971

def leastNormal : Nat := 0x10000000000000

def zero (negative : Bool) : Binary64 :=
  .finite negative 0 leastExponent

def isZero : Binary64 → Bool
  | .finite _ 0 _ => true
  | _ => false

/-- The quotient of two natural numbers rounded to the nearest whole number, and to the even one
of two that are equally near. -/
def roundDiv (n d : Nat) : Nat :=
  let quotient := n / d
  let remainder := n % d
  if 2 * remainder < d then quotient
  else if d < 2 * remainder then quotient + 1
  else quotient + quotient % 2

def scaled (a b : Nat) (power : Int) : Nat × Nat :=
  (a <<< (-power).toNat, b <<< power.toNat)

/-- The greatest power of two that is not above a quotient of two positive numbers. -/
def floorLog (n d : Nat) : Int :=
  let guess : Int := (n.log2 : Int) - d.log2
  let (left, right) := scaled n d guess
  if right ≤ left then guess else guess - 1

def ofQuotient (negative : Bool) (n d : Nat) : Binary64 :=
  let exponent := max (floorLog n d - 52) leastExponent
  let (left, right) := scaled n d exponent
  let mantissa := roundDiv left right
  let (mantissa, exponent) :=
    if mantissa = 2 * leastNormal then (leastNormal, exponent + 1) else (mantissa, exponent)
  if greatestExponent < exponent then .infinite negative
  else if mantissa = 0 then zero negative
  else .finite negative mantissa exponent

/-- The number nearest to a decimal one: digits times a power of ten. -/
def ofDecimal (negative : Bool) (digits : Nat) (power : Int) : Binary64 :=
  let places : Int := (Nat.toDigits 10 digits).length + power
  if digits = 0 ∨ places < -330 then zero negative
  else if 310 < places then .infinite negative
  else ofQuotient negative (digits * Nat.pow 10 power.toNat) (Nat.pow 10 (-power).toNat)

end Binary64

end CirHighlight
