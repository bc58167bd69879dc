import Mathlib.Data.List.Forall2
import CirHighlight.CommandLine.Report
import CirHighlight.Proofs.Highlighter.Stream
import CirHighlight.Proofs.Json.ReadBack

namespace CirHighlight.CommandLine.Report

/-- The name of the category of an entry, by its number in the legend. -/
def categoryName? (entry : Entry) : Option String :=
  (Category.legend.map Category.name)[entry.category.toNat]?

/-- A JSON object shows an entry: its place, its length and the name of its category. -/
structure Shows (value : Json) (entry : Entry) : Prop where
  line : value.field? "line" = some (.integer entry.line.toNat)
  column : value.field? "column" = some (.integer entry.column.toNat)
  length : value.field? "length" = some (.integer entry.length.toNat)
  category : ∃ name, categoryName? entry = some name ∧
    value.field? "category" = some (.string name)

/-- The words of a line, as the blanks between them tell. -/
def words (line : List Char) : List (List Char) :=
  (line.splitOn ' ').filter (· ≠ [])

/-- A line of the table shows an entry: its first words are the place, the length and the name of
the category. -/
def Tells (line : List Char) (entry : Entry) : Prop :=
  ∃ name, categoryName? entry = some name ∧
    (words line).take 4 =
      [(toString entry.line.toNat).toList, (toString entry.column.toNat).toList,
        (toString entry.length.toNat).toList, name.toList]

/-- A printed JSON text is an array with one object for each entry, in order. -/
def ShowsAll (printed : String) (entries : List Entry) : Prop :=
  ∃ rows, Json.read? printed = some (.array rows) ∧ List.Forall₂ Shows rows entries

/-- A printed table has a line for each entry, in order, after the names of the columns. -/
def TellsAll (printed : String) (entries : List Entry) : Prop :=
  ∃ heading lines, printed.toList.splitOn '\n' = heading :: (lines ++ [[]]) ∧
    words heading = ["LINE", "COL", "LEN", "CATEGORY", "TEXT"].map String.toList ∧
    List.Forall₂ Tells lines entries

theorem categoryName?_ofRow (row : Token × Category) :
    categoryName? (Entry.ofRow row) = some row.2.name := by
  obtain ⟨token, category⟩ := row
  cases category <;> rfl

theorem shows_tokenJson (row : Token × Category) :
    Shows (tokenJson row.1 row.2) (Entry.ofRow row) where
  line := rfl
  column := rfl
  length := rfl
  category := ⟨row.2.name, categoryName?_ofRow row, rfl⟩

theorem readsBack_tokenJson (depth : Nat) (token : Token) (category : Category) :
    Json.ReadsBack (depth + 1) (tokenJson token category) := by
  apply Json.ReadsBack.object
  simp only [List.forall_mem_cons, List.not_mem_nil, false_implies, implies_true, and_true]
  exact ⟨Json.readsBack_string _ _, Json.readsBack_ofWord _ _, Json.readsBack_ofWord _ _,
    Json.readsBack_ofWord _ _, Json.readsBack_string _ _⟩

theorem showsAll_json (rows : List (Token × Category)) :
    ShowsAll (json rows) (rows.map Entry.ofRow) := by
  have hread : Json.ReadsBack 127 (.array (rows.map fun row => tokenJson row.1 row.2)) := by
    apply Json.ReadsBack.array
    intro value hmem
    obtain ⟨row, -, rfl⟩ := List.mem_map.1 hmem
    exact readsBack_tokenJson 125 row.1 row.2
  refine ⟨_, hread.read?_pretty, ?_⟩
  rw [List.forall₂_map_left_iff, List.forall₂_map_right_iff, List.forall₂_same]
  exact fun row _ => shows_tokenJson row

theorem read?_encoded (stream : TokenStream) :
    Json.read? (encoded stream) =
      some (.array (stream.integers.map fun number => .integer number.toNat)) := by
  have hread : Json.ReadsBack 127 (Json.ofWords stream.integers) := by
    apply Json.ReadsBack.array
    intro value hmem
    obtain ⟨number, -, rfl⟩ := List.mem_map.1 hmem
    exact Json.readsBack_ofWord 126 number
  exact hread.read?_pretty

theorem words_blank (rest : List Char) : words (' ' :: rest) = words rest := by
  have hsplit : (' ' :: rest).splitOn ' ' = [] :: rest.splitOn ' ' :=
    List.splitOn_append_cons_self [] rest
  rw [words, hsplit]
  rfl

theorem words_blanks (n : Nat) (rest : List Char) :
    words (List.replicate n ' ' ++ rest) = words rest := by
  induction n with
  | zero => rfl
  | succ n ih => rw [List.replicate_succ, List.cons_append, words_blank, ih]

theorem words_append_blank {word : List Char} (hne : word ≠ []) (hword : ' ' ∉ word)
    (rest : List Char) : words (word ++ ' ' :: rest) = word :: words rest := by
  rw [words, List.splitOn_append_cons_self_of_not_mem hword, List.filter_cons,
    if_pos (decide_eq_true hne)]
  rfl

theorem words_padLeft {text : String} (hne : text.toList ≠ []) (htext : ' ' ∉ text.toList)
    (width : Nat) (rest : List Char) :
    words ((padLeft width text).toList ++ ' ' :: rest) = text.toList :: words rest := by
  rw [padLeft, String.toList_append, String.toList_ofList, List.append_assoc, words_blanks,
    words_append_blank hne htext]

theorem words_padRight {text : String} (hne : text.toList ≠ []) (htext : ' ' ∉ text.toList)
    (width : Nat) (rest : List Char) :
    words ((padRight width text).toList ++ ' ' :: rest) = text.toList :: words rest := by
  have hblanks : (padRight width text).toList ++ ' ' :: rest =
      text.toList ++ ' ' :: (List.replicate (width - text.length) ' ' ++ rest) := by
    rw [padRight, String.toList_append, String.toList_ofList, List.append_assoc,
      List.append_cons (List.replicate _ _), ← List.replicate_succ', List.replicate_succ,
      List.cons_append]
  rw [hblanks, words_append_blank hne htext, words_blanks]

theorem not_mem_toDigits {c : Char} (hc : c.isDigit = false) (n : Nat) :
    c ∉ Nat.toDigits 10 n := by
  intro hmem
  cases hc.symm.trans (Nat.isDigit_of_mem_toDigits (by decide) (by decide) hmem)

theorem words_number (n : Nat) (rest : List Char) :
    words ((padLeft 5 (toString n)).toList ++ ' ' :: rest) = (toString n).toList :: words rest := by
  have hdigits : (toString n).toList = Nat.toDigits 10 n := Nat.toList_repr
  apply words_padLeft
  · rw [hdigits]
    exact Nat.toDigits_ne_nil
  · rw [hdigits]
    exact not_mem_toDigits rfl n

theorem name_ne_nil (category : Category) : category.name.toList ≠ [] := by
  cases category <;> decide

theorem not_mem_name (category : Category) :
    ' ' ∉ category.name.toList ∧ '\n' ∉ category.name.toList := by
  cases category <;> decide

/-- A row of the table without the line feed that ends it. -/
def line (row : Token × Category) : List Char :=
  (padLeft 5 (toString row.1.line.toNat)).toList ++ ' ' ::
    ((padLeft 5 (toString row.1.column.toNat)).toList ++ ' ' ::
      ((padLeft 5 (toString row.1.length.toNat)).toList ++ ' ' :: ' ' ::
        ((padRight 11 row.2.name).toList ++ ' ' :: row.1.text.toList)))

theorem tells_line (row : Token × Category) : Tells (line row) (Entry.ofRow row) := by
  refine ⟨row.2.name, categoryName?_ofRow row, ?_⟩
  rw [line, words_number, words_number, words_number, words_blank,
    words_padRight (name_ne_nil _) (not_mem_name _).1]
  rfl

theorem newline_not_mem_line {row : Token × Category} (htext : '\n' ∉ row.1.text.toList) :
    '\n' ∉ line row := by
  have hfeed : '\n'.isDigit = false := rfl
  simp [line, padLeft, padRight, not_mem_toDigits hfeed, (not_mem_name row.2).2, htext]

theorem toList_table (rows : List (Token × Category)) :
    (table rows).toList =
      (row "LINE" "COL" "LEN" "CATEGORY" "TEXT").toList ++
        rows.flatMap fun row => line row ++ ['\n'] := by
  have hrow (token : Token) (category : Category) :
      (row (toString token.line.toNat) (toString token.column.toNat)
        (toString token.length.toNat) category.name token.text).toList =
          line (token, category) ++ ['\n'] := by
    simp [row, line]
  rw [table, String.toList_append, String.toList_join, List.flatMap_map]
  simp only [hrow]

theorem splitOn_lines {rows : List (Token × Category)}
    (h : ∀ row ∈ rows, '\n' ∉ row.1.text.toList) :
    (rows.flatMap fun row => line row ++ ['\n']).splitOn '\n' = rows.map line ++ [[]] := by
  induction rows with
  | nil => rfl
  | cons row rows ih =>
    obtain ⟨hrow, hrows⟩ := List.forall_mem_cons.1 h
    rw [List.flatMap_cons, List.append_assoc, List.singleton_append,
      List.splitOn_append_cons_self_of_not_mem (newline_not_mem_line hrow), ih hrows,
      List.map_cons, List.cons_append]

theorem tellsAll_table {rows : List (Token × Category)}
    (h : ∀ row ∈ rows, '\n' ∉ row.1.text.toList) :
    TellsAll (table rows) (rows.map Entry.ofRow) := by
  have hheading : (row "LINE" "COL" "LEN" "CATEGORY" "TEXT").toList =
      " LINE   COL   LEN  CATEGORY    TEXT".toList ++ ['\n'] := by decide
  refine ⟨" LINE   COL   LEN  CATEGORY    TEXT".toList, rows.map line, ?_, by decide, ?_⟩
  · rw [toList_table, hheading, List.append_assoc, List.singleton_append,
      List.splitOn_append_cons_self_of_not_mem (by decide), splitOn_lines h]
  · rw [List.forall₂_map_left_iff, List.forall₂_map_right_iff, List.forall₂_same]
    exact fun row _ => tells_line row

end CirHighlight.CommandLine.Report
