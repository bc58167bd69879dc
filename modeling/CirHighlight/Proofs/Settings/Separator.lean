import CirHighlight.Settings.Environment
import Mathlib.Data.List.TakeDrop
import Mathlib.Data.List.TakeWhile

namespace CirHighlight

namespace Reader

variable {α β : Type} {c : Char}

/-- A reader that never takes the given character off a text. -/
def Keeps (c : Char) (p : Reader α) : Prop :=
  ∀ text a rest, p text = some (a, rest) → c ∈ text → c ∈ rest

theorem keeps_pure (a : α) : Keeps c (pure a) := by
  intro text b rest h hmem
  obtain ⟨_, rfl⟩ : a = b ∧ text = rest := Prod.mk.inj (Option.some.inj h)
  exact hmem

theorem keeps_failure : Keeps c (failure : Reader α) := by
  intro text a rest h
  simp [failure, StateT.failure] at h

theorem Keeps.bind {p : Reader α} {f : α → Reader β} (hp : Keeps c p) (hf : ∀ a, Keeps c (f a)) :
    Keeps c (p >>= f) := by
  intro text b rest h hmem
  match hread : p text with
  | none => simp [Bind.bind, StateT.bind, hread] at h
  | some (a, middle) =>
    have hthen : f a middle = some (b, rest) := by simpa [Bind.bind, StateT.bind, hread] using h
    exact hf a middle b rest hthen (hp text a middle hread hmem)

theorem keeps_satisfy {test : Char → Bool} (htest : test c = false) : Keeps c (satisfy test) := by
  intro text d rest h hmem
  match text with
  | [] => cases hmem
  | first :: others =>
    simp only [satisfy] at h
    split at h
    case isTrue hfirst =>
      obtain ⟨rfl, rfl⟩ : first = d ∧ others = rest := by simpa using h
      apply List.mem_of_ne_of_mem _ hmem
      rintro rfl
      simp [htest] at hfirst
    case isFalse => cases h

theorem keeps_char {d : Char} (hne : c ≠ d) : Keeps c (char d) :=
  (keeps_satisfy (by simpa using hne)).bind fun _ => keeps_pure ()

theorem keeps_takeWhile {test : Char → Bool} (htest : test c = false) :
    Keeps c (takeWhile test) := by
  intro text taken rest h hmem
  obtain ⟨rfl, rfl⟩ : text.takeWhile test = taken ∧ text.dropWhile test = rest := by
    simpa [takeWhile, List.span_eq_takeWhile_dropWhile] using h
  rw [← text.takeWhile_append_dropWhile, List.mem_append] at hmem
  rcases hmem with htaken | hrest
  · have haccepted := List.mem_takeWhile_imp htaken
    cases htest.symm.trans haccepted
  · exact hrest

theorem keeps_takeWhile1 {test : Char → Bool} (htest : test c = false) :
    Keeps c (takeWhile1 test) := by
  apply (keeps_takeWhile htest).bind
  intro taken
  split
  · exact keeps_failure
  · exact keeps_pure taken

theorem Keeps.maybe {p : Reader α} (hp : Keeps c p) : Keeps c (maybe p) := by
  intro text a rest h hmem
  simp only [Reader.maybe] at h
  split at h
  case h_1 b others hread =>
    obtain ⟨-, rfl⟩ : some b = a ∧ others = rest := by simpa using h
    exact hp text b others hread hmem
  case h_2 =>
    obtain ⟨-, rfl⟩ : none = a ∧ text = rest := by simpa using h
    exact hmem

theorem Keeps.run?_eq_none {p : Reader α} (hp : Keeps c p) {text : List Char} (hmem : c ∈ text) :
    run? p text = none := by
  unfold run?
  split
  case h_1 a hread => cases hp text a [] hread hmem
  case h_2 => rfl

end Reader

namespace Number

open Reader

theorem keeps_sign {c : Char} (hplus : c ≠ '+') (hminus : c ≠ '-') : Keeps c sign := by
  apply (keeps_satisfy (by simp [hplus, hminus])).maybe.bind
  intro found
  split
  · exact keeps_pure true
  · exact keeps_pure false

theorem keeps_comma_integer : Keeps ',' integer :=
  (keeps_sign (by decide) (by decide)).bind fun _ =>
    (keeps_takeWhile1 (by decide)).bind fun _ => keeps_pure _

theorem keeps_comma_decimal : Keeps ',' decimal := by
  apply (keeps_takeWhile (by decide)).bind
  intro whole
  apply ((keeps_char (by decide)).bind fun _ => keeps_takeWhile (by decide)).maybe.bind
  intro fraction
  have hpower : Keeps ',' (maybe do let _ ← satisfy fun c => c = 'e' || c = 'E'; integer) :=
    ((keeps_satisfy (by decide)).bind fun _ => keeps_comma_integer).maybe
  dsimp only
  split
  · exact keeps_failure.bind fun _ => hpower.bind fun _ => keeps_pure _
  · exact hpower.bind fun _ => keeps_pure _

theorem comma_mem_asciiLower {text : List Char} (hmem : ',' ∈ text) :
    ',' ∈ Text.asciiLower text :=
  List.mem_map.2 ⟨',', hmem, by decide⟩

theorem keeps_comma_unsignedReal : Keeps ',' unsignedReal := by
  intro text value rest h hmem
  have hlower := comma_mem_asciiLower hmem
  simp only [unsignedReal] at h
  split at h
  case isTrue hname =>
    rcases hname with hname | hname
    · exact absurd (hname ▸ hlower) (by decide)
    · exact absurd (hname ▸ hlower) (by decide)
  case isFalse =>
    split at h
    case isTrue hname => exact absurd (hname ▸ hlower) (by decide)
    case isFalse =>
      obtain ⟨⟨⟨digits, power⟩, others⟩, hread, heq⟩ := Option.map_eq_some_iff.1 h
      obtain ⟨-, rfl⟩ := Prod.mk.inj heq
      exact keeps_comma_decimal text _ _ hread hmem

theorem integer?_eq_none_of_comma {text : String} (hmem : ',' ∈ text.toList) :
    integer? text = none := by
  rw [integer?, keeps_comma_integer.run?_eq_none hmem]
  rfl

theorem real?_eq_none_of_comma {text : String} (hmem : ',' ∈ text.toList) : real? text = none := by
  apply Keeps.run?_eq_none _ hmem
  exact (keeps_sign (by decide) (by decide)).bind fun _ =>
    keeps_comma_unsignedReal.bind fun _ => keeps_pure _

end Number

namespace Text

theorem comma_mem_lowerFrom {text : List Char} (hmem : ',' ∈ text) (before : List Char) :
    ',' ∈ lowerFrom before text := by
  induction text generalizing before with
  | nil => cases hmem
  | cons c rest ih =>
    rw [lowerFrom, List.mem_append]
    rcases List.mem_cons.1 hmem with rfl | hrest
    · rw [if_neg (by decide)]
      exact .inl (by decide)
    · exact .inr (ih hrest (c :: before))

theorem comma_mem_lowercase {text : String} (hmem : ',' ∈ text.toList) :
    ',' ∈ (lowercase text).toList := by
  rw [lowercase, String.toList_ofList]
  exact comma_mem_lowerFrom hmem []

theorem splitWhere_eq_splitOnP (test : Char → Bool) (text : List Char) :
    splitWhere test text = text.splitOnP test := by
  induction text with
  | nil => rfl
  | cons c rest ih =>
    rw [splitWhere, ih, List.splitOnP_cons_eq_if_modifyHead]
    match hpieces : rest.splitOnP test with
    | [] => exact absurd hpieces (List.splitOnP_ne_nil test rest)
    | piece :: pieces => rfl

theorem splitWhere_intercalate {separator : Char} {words : List String} (hne : words ≠ [])
    (hwords : ∀ word ∈ words, separator ∉ word.toList) :
    splitWhere (· = separator) ((String.singleton separator).intercalate words).toList =
      words.map String.toList := by
  rw [splitWhere_eq_splitOnP, String.toList_intercalate, String.toList_singleton]
  apply List.splitOn_intercalate separator
  · intro letters hletters
    obtain ⟨word, hword, rfl⟩ := List.mem_map.1 hletters
    exact hwords word hword
  · simpa using hne

end Text

end CirHighlight
