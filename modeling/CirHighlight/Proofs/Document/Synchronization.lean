import CirHighlight.Document
import CirHighlight.Proofs.Text.Position

namespace CirHighlight

/-- An edit that a client makes to its text: new text for all of it, or for the characters from
one place to another. -/
inductive BufferEdit where
  | all (new : String)
  | range (first last : Nat) (new : String)

namespace BufferEdit

def apply : BufferEdit → String → String
  | .all new, _ => new
  | .range first last new, text =>
    String.ofList (text.toList.take first ++ new.toList ++ text.toList.drop last)

/-- The change that a client tells for an edit of its text. -/
def change : BufferEdit → String → Change
  | .all new, _ => { range := none, text := new }
  | .range first last new, text =>
    { range :=
        some (Position.atEnd (text.toList.take first), Position.atEnd (text.toList.take last))
      text := new }

/-- Whether a place in a text can be told: it is not directly after a carriage return at the end
of a line. -/
def Tellable (text : String) (place : Nat) : Prop :=
  place ≤ text.toList.length ∧
    ¬ Position.AfterReturn (text.toList.take place) (text.toList.drop place)

instance (text : String) (place : Nat) : Decidable (Tellable text place) :=
  inferInstanceAs (Decidable (_ ∧ _))

/-- Whether an edit of a text can be told: its places are in order and can be told, and the text
has fewer than 2 ^ 32 bytes. -/
def Valid : BufferEdit → String → Prop
  | .all _, _ => True
  | .range first last _, text =>
    first ≤ last ∧ Tellable text first ∧ Tellable text last ∧
      Text.byteSize text.toList < 2 ^ 32

instance : (edit : BufferEdit) → (text : String) → Decidable (edit.Valid text)
  | .all _, _ => inferInstanceAs (Decidable True)
  | .range .., _ => inferInstanceAs (Decidable (_ ∧ _))

/-- The client's text after edits, one after the other. -/
def applyAll (edits : List BufferEdit) (text : String) : String :=
  edits.foldl (fun text edit => edit.apply text) text

/-- Whether edits, one after the other, can be told. -/
def AllValid : List BufferEdit → String → Prop
  | [], _ => True
  | edit :: rest, text => edit.Valid text ∧ AllValid rest (edit.apply text)

instance decidableAllValid : (edits : List BufferEdit) → (text : String) →
    Decidable (AllValid edits text)
  | [], _ => inferInstanceAs (Decidable True)
  | edit :: rest, text =>
    have := decidableAllValid rest (edit.apply text)
    inferInstanceAs (Decidable (_ ∧ _))

/-- The changes that a client tells for edits, one after the other. -/
def changes : List BufferEdit → String → List Change
  | [], _ => []
  | edit :: rest, text => edit.change text :: changes rest (edit.apply text)

/-- The lists of changes that a client tells for lists of edits. -/
def messages : List (List BufferEdit) → String → List (List Change)
  | [], _ => []
  | edits :: rest, text => changes edits text :: messages rest (applyAll edits text)

theorem Valid.apply_change {edit : BufferEdit} {text : String} (h : edit.Valid text) :
    (edit.change text).apply text = edit.apply text := by
  cases edit with
  | all new => exact String.ofList_toList
  | range first last new =>
    obtain ⟨hle, hfirst, hlast, hsize⟩ := h
    have hindex {place : Nat} (hplace : Tellable text place) :
        (Position.atEnd (text.toList.take place)).index text.toList = place := by
      have hfound := Position.index_atEnd (by rwa [List.take_append_drop]) hplace.2
      rwa [List.take_append_drop, List.length_take, Nat.min_eq_left hplace.1] at hfound
    simp only [change, Change.apply, Change.applyChars, apply, hindex hfirst, hindex hlast,
      Nat.max_eq_right hle]

theorem AllValid.applyAll_changes {edits : List BufferEdit} {text : String}
    (h : AllValid edits text) : Change.applyAll (changes edits text) text = applyAll edits text := by
  induction edits generalizing text with
  | nil => rfl
  | cons edit edits ih =>
    have hstep := h.1.apply_change
    have hrest := ih h.2
    simp only [Change.applyAll, changes, applyAll, List.foldl_cons] at hrest ⊢
    rw [hstep, hrest]

theorem allValid_append {left right : List BufferEdit} {text : String} :
    AllValid (left ++ right) text ↔ AllValid left text ∧ AllValid right (applyAll left text) := by
  induction left generalizing text with
  | nil => simp [AllValid, applyAll]
  | cons edit left ih =>
    simp only [List.cons_append, AllValid, ih, and_assoc]
    rfl

end BufferEdit

namespace Documents

variable {κ : Type} [DecidableEq κ]

/-- Changes a document by several lists of changes, one after the other. -/
def changeAll (documents : Documents κ) (uri : κ) (messages : List (List Change)) : Documents κ :=
  messages.foldl (fun documents changes => (documents.change uri changes).2) documents

theorem text?_change {documents : Documents κ} {uri : κ} {text : String}
    (h : documents.text? uri = some text) (changes : List Change) :
    (documents.change uri changes).2.text? uri = some (Change.applyAll changes text) := by
  simp only [change, h]
  exact (Store.get?_insert _ _ _ _).trans (if_pos rfl)

theorem text?_changeAll {documents : Documents κ} {uri : κ} {text : String}
    (h : documents.text? uri = some text) {edits : List (List BufferEdit)}
    (hvalid : BufferEdit.AllValid edits.flatten text) :
    (documents.changeAll uri (BufferEdit.messages edits text)).text? uri =
      some (BufferEdit.applyAll edits.flatten text) := by
  induction edits generalizing documents text with
  | nil => exact h
  | cons first edits ih =>
    rw [List.flatten_cons, BufferEdit.allValid_append] at hvalid
    have hfirst := text?_change h (BufferEdit.changes first text)
    rw [hvalid.1.applyAll_changes] at hfirst
    have hrest := ih hfirst hvalid.2
    simp only [changeAll, BufferEdit.messages, List.foldl_cons, List.flatten_cons,
      BufferEdit.applyAll, List.foldl_append] at hrest ⊢
    exact hrest

theorem messages_take (edits : List (List BufferEdit)) (text : String) (n : Nat) :
    (BufferEdit.messages edits text).take n = BufferEdit.messages (edits.take n) text := by
  induction edits generalizing text n with
  | nil => cases n <;> rfl
  | cons first edits ih =>
    cases n with
    | zero => rfl
    | succ n => simp only [BufferEdit.messages, List.take_succ_cons, ih]

/-- After every list of changes that it is told, a store holds the client's text. For the places
of any text, their positions lead back to them, or, directly after a return at the end of a line,
to the place before that return. -/
theorem holds_client_text {documents : Documents κ} {uri : κ} {text : String}
    (hopen : documents.text? uri = some text) {edits : List (List BufferEdit)}
    (hvalid : BufferEdit.AllValid edits.flatten text) :
    (∀ n, (documents.changeAll uri ((BufferEdit.messages edits text).take n)).text? uri =
      some (BufferEdit.applyAll (edits.take n).flatten text)) ∧
    ∀ (other : String) (before after : List Char), other.toList = before ++ after →
      Text.byteSize other.toList < 2 ^ 32 →
      (¬ Position.AfterReturn before after →
        (Position.atEnd before).offset other = Text.byteSize before) ∧
      (Position.AfterReturn before after →
        (Position.atEnd before).offset other = Text.byteSize before - 1) := by
  constructor
  · intro n
    have hsplit : edits.flatten = (edits.take n).flatten ++ (edits.drop n).flatten := by
      rw [← List.flatten_append, List.take_append_drop]
    rw [hsplit, BufferEdit.allValid_append] at hvalid
    rw [messages_take]
    exact text?_changeAll hopen hvalid.1
  · intro other before after htext hsize
    exact ⟨Position.offset_atEnd htext hsize, Position.offset_atEnd_afterReturn htext hsize⟩

/-- A text with both kinds of line ends and a character of two units, edited twice and then
replaced. -/
theorem holds_client_text_mixed_ends :
    BufferEdit.AllValid [[.range 4 5 "é\r", .range 1 3 "\n"], [.all "%0"]].flatten
        "a\r\nb😀\n" ∧
      ((openText Store.empty 0 "a\r\nb😀\n").changeAll 0
        ((BufferEdit.messages [[.range 4 5 "é\r", .range 1 3 "\n"], [.all "%0"]]
          "a\r\nb😀\n").take 1)).text? 0 = some "a\nbé\r\n" := by
  have hopen : (openText Store.empty 0 "a\r\nb😀\n").text? 0 = some "a\r\nb😀\n" := by decide
  have hvalid : BufferEdit.AllValid [[.range 4 5 "é\r", .range 1 3 "\n"], [.all "%0"]].flatten
      "a\r\nb😀\n" := by decide
  exact ⟨hvalid, (holds_client_text hopen hvalid).1 1⟩

end Documents

end CirHighlight
