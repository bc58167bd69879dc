import CirHighlight.Text.Ascii
import CirHighlight.Text.Reader

namespace CirHighlight.Toml

open Reader

def fixedDigits : Nat → Reader (List Char)
  | 0 => return []
  | count + 1 => do
    let digit ← satisfy Char.isDigit
    return digit :: (← fixedDigits count)

def twoDigits (least greatest : Nat) : Reader (List Char) := do
  let digits ← fixedDigits 2
  let value := Text.decimalValue digits
  if least ≤ value && value ≤ greatest then return digits else failure

def daysIn (year month : Nat) : Nat :=
  if month = 2 then
    if year % 4 = 0 ∧ (year % 100 ≠ 0 ∨ year % 400 = 0) then 29 else 28
  else if month ∈ [4, 6, 9, 11] then 30
  else 31

def date : Reader (List Char) := do
  let year ← fixedDigits 4
  char '-'
  let month ← twoDigits 1 12
  char '-'
  let day ← twoDigits 1 (daysIn (Text.decimalValue year) (Text.decimalValue month))
  return year ++ '-' :: month ++ '-' :: day

/-- The digits after the point of a second: zeros at the end are left out. -/
def secondFraction (digits : List Char) : List Char :=
  let kept := ((digits.take 9).reverse.dropWhile (· = '0')).reverse
  if kept.isEmpty then [] else '.' :: kept

/-- How late the hour of a time may be, and how far the hours and minutes of its distance from
universal time may go. -/
structure Limits where
  hour : Nat
  offsetHour : Nat
  offsetMinute : Nat

/-- The limits for dates and times that stand in a document by themselves. -/
def Limits.plain : Limits := ⟨23, 23, 59⟩

/-- The limits for dates and times that a text gives: a day may end at the hour 24, and minutes
of the distance may go beyond an hour. -/
def Limits.text : Limits := ⟨24, 99, 99⟩

def time (limits : Limits) : Reader (List Char) := do
  let hour ← twoDigits 0 limits.hour
  char ':'
  let minute ← twoDigits 0 59
  char ':'
  let second ← twoDigits 0 60
  let fraction ← maybe do
    char '.'
    takeWhile1 Char.isDigit
  return hour ++ ':' :: minute ++ ':' :: second ++ secondFraction (fraction.getD [])

def renderTwo (n : Nat) : List Char :=
  [Char.ofNat ('0'.toNat + n / 10 % 10), Char.ofNat ('0'.toNat + n % 10)]

/-- The distance from universal time, which is a day at most. One of zero has a plus. -/
def offset (limits : Limits) : Reader (List Char) := do
  match ← next with
  | 'Z' | 'z' => return ['Z']
  | sign =>
    if sign ≠ '+' && sign ≠ '-' then failure
    let hour ← twoDigits 0 limits.offsetHour
    char ':'
    let minute ← twoDigits 0 limits.offsetMinute
    let total := Text.decimalValue hour * 60 + Text.decimalValue minute
    if 24 * 60 < total then failure
    let sign := if total = 0 then '+' else sign
    return sign :: renderTwo (total / 60) ++ ':' :: renderTwo (total % 60)

def dateTime (limits : Limits) : Reader String := do
  let full : Reader (List Char) := do
    let day ← date
    let clock ← maybe do
      let _ ← satisfy fun c => c = 'T' || c = 't' || c = ' '
      let clock ← time limits
      let zone ← maybe (offset limits)
      return 'T' :: clock ++ zone.getD []
    return day ++ clock.getD []
  String.ofList <$> (full <|> time limits)

def dateTimeOf? (text : String) : Option String :=
  run? (dateTime .text) text.toList

end CirHighlight.Toml
