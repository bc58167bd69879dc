import CirHighlight.Text.Ascii

namespace CirHighlight.Text.Unicode

def hexNumber (digits : List Char) : Nat :=
  digits.foldl (fun value c => value * 16 + (hexValue? c).getD 0) 0

def tableRows (text : String) : Array (List Nat) :=
  let rows := (splitWhere (fun c => c = ' ' || c = '\n') text.toList).filter (!·.isEmpty)
  rows.toArray.map fun row => (splitWhere (· = '-') row).map hexNumber

/-- Runs of characters: a row holds the first and the last one, or the only one. -/
def tableRuns (text : String) : Array (Nat × Nat) :=
  (tableRows text).filterMap fun
    | [only] => some (only, only)
    | [first, last] => some (first, last)
    | _ => none

/-- Runs of characters with a number: a row holds the first one, the last one and the number. -/
def tableClasses (text : String) : Array (Nat × Nat × Nat) :=
  (tableRows text).filterMap fun
    | [first, last, number] => some (first, last, number)
    | _ => none

/-- Runs of letters with what they become: a row holds the first and the last letter, the
distance from one letter to the next, and what the first becomes; the others follow at the same
distance. -/
def tableShifts (text : String) : Array (Nat × Nat × Nat × Nat) :=
  (tableRows text).filterMap fun
    | [first, last, step, image] => some (first, last, step, image)
    | _ => none

def inRuns (runs : Array (Nat × Nat)) (c : Char) : Bool :=
  runs.any fun (first, last) => first ≤ c.toNat && c.toNat ≤ last

def classOf? (classes : Array (Nat × Nat × Nat)) (c : Char) : Option Nat :=
  (classes.find? fun (first, last, _) => first ≤ c.toNat && c.toNat ≤ last).map (·.2.2)

def shifted? (shifts : Array (Nat × Nat × Nat × Nat)) (c : Char) : Option Char :=
  let run? := shifts.find? fun (first, last, step, _) =>
    first ≤ c.toNat && c.toNat ≤ last && (c.toNat - first) % step = 0
  run?.map fun (first, _, _, image) => Char.ofNat (image + (c.toNat - first))

end CirHighlight.Text.Unicode
