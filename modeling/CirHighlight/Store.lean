namespace CirHighlight

structure Store (κ α : Type) where
  entries : List (κ × α) := []

namespace Store

variable {κ α : Type} [DecidableEq κ]

def empty : Store κ α := {}

def get? (store : Store κ α) (key : κ) : Option α :=
  (store.entries.find? (·.1 = key)).map (·.2)

def erase (store : Store κ α) (key : κ) : Store κ α :=
  ⟨store.entries.filter (·.1 ≠ key)⟩

def insert (store : Store κ α) (key : κ) (value : α) : Store κ α :=
  ⟨(key, value) :: (store.erase key).entries⟩

@[simp]
theorem get?_empty (key : κ) : (empty : Store κ α).get? key = none := rfl

@[simp]
theorem get?_erase (store : Store κ α) (key other : κ) :
    (store.erase key).get? other = if other = key then none else store.get? other := by
  obtain ⟨entries⟩ := store
  induction entries with
  | nil => simp [get?, erase]
  | cons entry rest ih =>
    simp only [get?, erase, List.filter_cons, List.find?_cons] at ih ⊢
    grind

@[simp]
theorem get?_insert (store : Store κ α) (key other : κ) (value : α) :
    (store.insert key value).get? other = if other = key then some value else store.get? other := by
  have h := get?_erase store key other
  simp only [get?, insert, List.find?_cons] at h ⊢
  grind

end Store

end CirHighlight
