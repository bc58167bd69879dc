import Mathlib.Order.Bounds.Basic
import CirHighlight.Proofs.Lexeme.Delimiter
import CirHighlight.Proofs.Lexer.Line

namespace CirHighlight

namespace Literal

theorem closing_take {α : Type} [DecidableEq α] (quote escape : α) {run length : Nat}
    {text : List α} (h : closing quote escape run text ≤ length) :
    closing quote escape run (text.take length) = closing quote escape run text := by
  induction text generalizing run length with
  | nil => rw [List.take_nil]
  | cons x rest ih =>
    simp only [closing] at h ⊢
    cases length with
    | zero =>
      split at h
      · cases h
      · split at h <;> cases h
    | succ length =>
      simp only [List.take_succ_cons, closing]
      split
      · next hescape =>
        rw [if_pos hescape] at h
        rw [ih (Nat.le_of_succ_le_succ h)]
      · next hescape =>
        rw [if_neg hescape] at h
        split
        · rfl
        · next hquote =>
          rw [if_neg hquote] at h
          rw [ih (Nat.le_of_succ_le_succ h)]

theorem closingChars_le (run : Nat) (text : List Char) : closingChars run text ≤ text.length :=
  closing_le '"' '\\' run text

end Literal

namespace Comment

theorem codeLength_literal (run : Nat) (text : List Char) :
    codeLength (.literal run) text =
      Literal.closingChars run text +
        codeLength .code (text.drop (Literal.closingChars run text)) := by
  induction text generalizing run with
  | nil => rfl
  | cons c rest ih =>
    simp only [Literal.closingChars, Literal.closing, codeLength] at ih ⊢
    split
    · rw [ih, List.drop_succ_cons, Nat.add_right_comm]
    · split
      · rw [List.drop_succ_cons, List.drop_zero, Nat.add_comm]
      · rw [ih, List.drop_succ_cons, Nat.add_right_comm]

theorem codeLength_append {text after : List Char} (h : ∀ d ∈ text, ¬ Rule.Stops d) :
    codeLength .code (text ++ after) = text.length + codeLength .code after := by
  induction text with
  | nil => exact (Nat.zero_add _).symm
  | cons c text ih =>
    obtain ⟨hc, htext⟩ := List.forall_mem_cons.1 h
    rw [List.cons_append, codeLength, if_neg fun hquote => hc (.inr hquote),
      if_neg fun hslash => hc (.inl hslash.1), ih htext, List.length_cons, Nat.add_right_comm]

def Starts (text : List Char) : Prop :=
  ['/', '/'] <+: text

theorem starts_cons_iff {c : Char} {rest : List Char} :
    Starts (c :: rest) ↔ c = '/' ∧ rest.head? = some '/' := by
  constructor
  · rintro ⟨tail, htail⟩
    obtain ⟨rfl, rfl⟩ := List.cons.inj htail
    exact ⟨rfl, rfl⟩
  · rintro ⟨rfl, hhead⟩
    obtain ⟨tail, rfl⟩ := List.head?_eq_some_iff.1 hhead
    exact List.prefix_append ['/', '/'] tail

theorem codeLength_of_starts {text : List Char} (h : Starts text) : codeLength .code text = 0 := by
  obtain ⟨tail, rfl⟩ := h
  rfl

theorem codeLength_first (lexicon : Lexicon) {c : Char} {rest after : List Char}
    (hnot : ¬ Starts (c :: rest))
    (hafter : (Lexeme.first Rule.all lexicon c rest).chars ++ after = c :: rest) :
    codeLength .code (c :: rest) =
      (Lexeme.first Rule.all lexicon c rest).chars.length + codeLength .code after := by
  by_cases hc : c = '"'
  · subst hc
    rw [Lexeme.first_quote, Lexeme.chars, List.cons_append] at hafter
    rw [Lexeme.first_quote, Lexeme.chars, List.length_cons,
      List.length_take_of_le (Literal.closingChars_le 0 rest), codeLength, if_pos rfl,
      codeLength_literal, Nat.add_right_comm]
    have htake := List.take_append_drop (Literal.closingChars 0 rest) rest
    rw [List.append_cancel_left (htake.trans (List.cons.inj hafter).2.symm)]
  · obtain ⟨more, tail, hchars, rfl⟩ := Lexeme.exists_chars_first lexicon c rest
    rw [hchars, List.cons_append] at hafter
    obtain rfl := List.append_cancel_left (List.cons.inj hafter).2
    have hmore : ∀ d ∈ more, ¬ Rule.Stops d := fun d hmem hstops =>
      Lexeme.not_mem_of_chars_first lexicon hc hstops hchars hmem
    rw [hchars, List.length_cons, codeLength, if_neg hc, if_neg (mt starts_cons_iff.2 hnot),
      codeLength_append hmore, Nat.add_right_comm]

end Comment

namespace Lexeme

variable (lexicon : Lexicon)

theorem first_take_codeLength {c : Char} {rest : List Char} {length : Nat}
    (h : Comment.codeLength .code (c :: rest) = length + 1) :
    first Rule.all lexicon c (rest.take length) = first Rule.all lexicon c rest := by
  by_cases hc : c = '"'
  · subst hc
    rw [Comment.codeLength, if_pos rfl, Comment.codeLength_literal] at h
    have hle : Literal.closingChars 0 rest ≤ length := by omega
    have hclosing : Literal.closingChars 0 (rest.take length) = Literal.closingChars 0 rest :=
      Literal.closing_take '"' '\\' hle
    rw [first_quote, first_quote, hclosing, List.take_take, Nat.min_eq_left hle]
  · have hrest := List.take_append_drop length rest
    have hcomment := Comment.drop_codeLength .code (c :: rest)
    rw [h, List.drop_succ_cons] at hcomment
    rcases hcomment with hnil | ⟨tail, hslash⟩
    · rw [hnil, List.append_nil] at hrest
      rw [hrest]
    · rw [hslash] at hrest
      rw [← first_append_cons lexicon hc (.inl rfl) (rest.take length) ('/' :: tail), hrest]

@[elab_as_elim]
theorem piece_induction {motive : List Char → Prop} (text : List Char) (nil : motive [])
    (cons : ∀ c rest after, (first Rule.all lexicon c rest).chars ++ after = c :: rest →
      motive after → motive (c :: rest)) : motive text := by
  fun_induction scanWith Rule.all lexicon text with
  | case1 => exact nil
  | case2 c rest piece ih =>
    obtain ⟨more, after, hchars, rfl⟩ := exists_chars_first lexicon c rest
    simp only [piece, hchars, List.length_cons, Nat.add_sub_cancel, List.drop_left] at ih
    exact cons c (more ++ after) after (by rw [hchars, List.cons_append]) ih

theorem flatMap_chars_scan (text : List Char) : (scan lexicon text).flatMap chars = text := by
  induction text using piece_induction lexicon with
  | nil => rw [scan, scanWith, List.flatMap_nil]
  | cons c rest after hafter ih =>
    rw [scan_eq_cons lexicon hafter, List.flatMap_cons, ih, hafter]

theorem scan_take_append_drop (text : List Char) :
    scan lexicon text =
      scan lexicon (text.take (Comment.codeLength .code text)) ++
        scan lexicon (text.drop (Comment.codeLength .code text)) := by
  induction text using piece_induction lexicon with
  | nil => rw [List.take_nil, List.drop_nil, scan, scanWith, List.append_nil]
  | cons c rest after hafter ih =>
    by_cases hstarts : Comment.Starts (c :: rest)
    · rw [Comment.codeLength_of_starts hstarts, List.take_zero, List.drop_zero]
      rw [scan, scan, scanWith, List.nil_append]
    · have hlength := Comment.codeLength_first lexicon hstarts hafter
      have htake : (c :: rest).take (Comment.codeLength .code (c :: rest)) =
          (first Rule.all lexicon c rest).chars ++ after.take (Comment.codeLength .code after) := by
        rw [hlength, ← hafter, List.take_length_add_append]
      have hdrop : (c :: rest).drop (Comment.codeLength .code (c :: rest)) =
          after.drop (Comment.codeLength .code after) := by
        rw [hlength, ← hafter, List.drop_length_add_append]
      obtain ⟨length, hsucc⟩ : ∃ length, Comment.codeLength .code (c :: rest) = length + 1 := by
        obtain ⟨more, -, hchars, -⟩ := exists_chars_first lexicon c rest
        rw [hlength, hchars, List.length_cons, Nat.add_right_comm]
        exact ⟨_, rfl⟩
      rw [hdrop, hsucc, List.take_succ_cons]
      rw [hsucc, List.take_succ_cons, ← first_take_codeLength lexicon hsucc] at htake
      rw [scan_eq_cons lexicon hafter, scan_eq_cons lexicon htake.symm,
        first_take_codeLength lexicon hsucc, ih, List.cons_append]

theorem place_append (line column : UInt32) (left right : List Lexeme) :
    place line column (left ++ right) =
      place line column left ++ place line (column + Text.width (left.flatMap chars)) right := by
  induction left generalizing column with
  | nil => rw [List.nil_append, List.flatMap_nil, Text.width_nil, UInt32.add_zero]; rfl
  | cons piece left ih =>
    rw [List.cons_append, place, ih, place, List.append_assoc, List.flatMap_cons,
      Text.width_append, UInt32.add_assoc]

theorem scanLine_eq_append (number : UInt32) {line comment : List Char}
    (hcomment : Comment.comment? line = some comment) :
    scanLine lexicon number line =
      scanLine lexicon number (Comment.code line) ++
        place number (Text.width (Comment.code line)) (scan lexicon comment) := by
  have hdrop : line.drop (Comment.codeLength .code line) = comment := by
    simp only [Comment.comment?] at hcomment
    split at hcomment
    · cases hcomment
    · exact Option.some.inj hcomment
  rw [scanLine, scan_take_append_drop, hdrop, place_append, flatMap_chars_scan, UInt32.zero_add]
  rfl

theorem first_of_slash_mem {c : Char} {rest front more : List Char} (hne : front ≠ [])
    (hchars : (first Rule.all lexicon c rest).chars = front ++ '/' :: more) :
    first Rule.all lexicon c rest = .single (front ++ '/' :: more) (some .string) := by
  by_cases hc : c = '"'
  · subst hc
    rw [first_quote] at hchars ⊢
    rw [← hchars, chars]
  · obtain ⟨e, front, rfl⟩ := List.exists_cons_of_ne_nil hne
    obtain ⟨piece, -, hpiece, -⟩ := exists_chars_first lexicon c rest
    have hmore := (List.cons.inj (hpiece.symm.trans hchars)).2
    have hnot := not_mem_of_chars_first lexicon hc (.inl rfl) hpiece
    rw [hmore] at hnot
    exact (hnot (List.mem_append_right front List.mem_cons_self)).elim

theorem exists_literal_covers (number : UInt32) {column : UInt32} {text front after : List Char}
    (hfits : column.toNat + Text.unitCount text < 2 ^ 32)
    (htext : text = front ++ '/' :: '/' :: after)
    (hlt : front.length < Comment.codeLength .code text) :
    ∃ token ∈ place number column (scan lexicon text), token.category = some .string ∧
      token.covers (column.toNat + Text.unitCount front) = true := by
  induction text using piece_induction lexicon generalizing column front with
  | nil => exact (Nat.not_lt_zero _ hlt).elim
  | cons c rest tail htail ih =>
    have hnot : ¬ Comment.Starts (c :: rest) := by
      intro hstarts
      rw [Comment.codeLength_of_starts hstarts] at hlt
      exact Nat.not_lt_zero _ hlt
    rw [Comment.codeLength_first lexicon hnot htail] at hlt
    rw [scan_eq_cons lexicon htail, place]
    have hafter (more : List Char) (hfront : front = (first Rule.all lexicon c rest).chars ++ more)
        (hmore : tail = more ++ '/' :: '/' :: after) :
        ∃ token ∈ (first Rule.all lexicon c rest).tokens number column ++
            place number (column + Text.width (first Rule.all lexicon c rest).chars)
              (scan lexicon tail),
          token.category = some .string ∧
            token.covers (column.toNat + Text.unitCount front) = true := by
      rw [← htail, Text.unitCount_append, ← Nat.add_assoc] at hfits
      have hcolumn := Text.toNat_add_width (Nat.lt_of_le_of_lt (Nat.le_add_right _ _) hfits)
      rw [hfront, List.length_append] at hlt
      rw [← hcolumn] at hfits
      obtain ⟨token, hmem, hcategory, hcovers⟩ := ih hfits hmore (by omega)
      rw [hcolumn] at hcovers
      rw [hfront, Text.unitCount_append, ← Nat.add_assoc]
      exact ⟨token, List.mem_append_right _ hmem, hcategory, hcovers⟩
    rcases List.append_eq_append_iff.1 (htail.trans htext) with
      ⟨more, hfront, hmore⟩ | ⟨more, hchars, hmore⟩
    · exact hafter more hfront hmore
    · cases more with
      | nil => exact hafter [] (by simpa using hchars.symm) hmore.symm
      | cons d more =>
        obtain ⟨rfl, -⟩ := List.cons.inj hmore
        have hne : front ≠ [] := by
          rintro rfl
          rw [htext] at hnot
          exact hnot (List.prefix_append ['/', '/'] after)
        rw [first_of_slash_mem lexicon hne hchars]
        refine ⟨_, List.mem_append_left _ List.mem_cons_self, rfl, ?_⟩
        have hpos := Text.units_pos '/'
        simp only [Token.covers, String.toList_ofList, Text.unitCount_append, Text.unitCount_cons,
          Bool.and_eq_true, decide_eq_true_eq]
        omega

end Lexeme

namespace Comment

/-- Two slashes stand in a line after a part of it. -/
def SlashesAfter (line front : List Char) : Prop :=
  front ++ ['/', '/'] <+: line

/-- The place after a part of a line is covered by a token for a literal. -/
def InLiteral (tokens : List Token) (front : List Char) : Prop :=
  ∃ token ∈ tokens, token.category = some .string ∧ token.covers (Text.unitCount front) = true

variable (lexicon : Lexicon) (number : UInt32) {line front comment : List Char}

theorem inLiteral_of_slashesAfter (hfits : Text.unitCount line < 2 ^ 32)
    (hslashes : SlashesAfter line front) (hlt : front.length < codeLength .code line) :
    InLiteral (Lexeme.scanLine lexicon number line) front := by
  obtain ⟨after, hline⟩ := hslashes
  rw [List.append_assoc] at hline
  have hzero : (0 : UInt32).toNat + Text.unitCount line < 2 ^ 32 := by
    rwa [UInt32.toNat_zero, Nat.zero_add]
  obtain ⟨token, hmem, hcategory, hcovers⟩ :=
    Lexeme.exists_literal_covers lexicon number hzero hline.symm hlt
  rw [UInt32.toNat_zero, Nat.zero_add] at hcovers
  exact ⟨token, hmem, hcategory, hcovers⟩

theorem lt_column_of_mem_comment (hfits : Text.unitCount line < 2 ^ 32)
    (hcomment : comment? line = some comment) {token : Token}
    (hmem : token ∈ Lexeme.place number (Text.width (code line)) (Lexeme.scan lexicon comment)) :
    Text.unitCount (code line) < token.column.toNat := by
  rcases comment?_cases line with ⟨hnone, -⟩ | ⟨rest, hsome, hline⟩
  · rw [hnone] at hcomment
    cases hcomment
  · obtain rfl : '/' :: '/' :: rest = comment := Option.some.inj (hsome.symm.trans hcomment)
    have hfirst : (Lexeme.first Rule.all lexicon '/' ('/' :: rest)).chars ++ '/' :: rest =
        '/' :: '/' :: rest := rfl
    rw [Lexeme.scan_eq_cons lexicon hfirst, Lexeme.first_slash, Lexeme.place,
      Lexeme.chars, ← Text.width_append] at hmem
    have hunits : Text.unitCount (code line ++ ['/']) = Text.unitCount (code line) + 1 :=
      Text.unitCount_append _ _
    have hparts := congrArg Text.unitCount hline
    rw [← List.singleton_append, ← List.append_assoc, Text.unitCount_append] at hparts
    have hcolumn : (Text.width (code line ++ ['/'])).toNat = Text.unitCount (code line ++ ['/']) :=
      Text.toNat_width_of_lt (by omega)
    rcases List.mem_append.1 hmem with hmem | hmem
    · cases hmem
    · have hbounds := (Lexeme.tiled_place_scan lexicon number (by omega)).bounds hmem
      omega

theorem bounds_of_mem_code (hfits : Text.unitCount (code line) < 2 ^ 32) {token : Token}
    (hmem : token ∈ Lexeme.scanLine lexicon number (code line)) :
    token.column.toNat < Text.unitCount (code line) ∧
      token.column.toNat + Text.unitCount token.text.toList ≤ Text.unitCount (code line) := by
  have htiled := Lexeme.tiled_scanLine lexicon number hfits
  have hbounds := htiled.bounds hmem
  have hpos := Text.unitCount_pos (htiled.text_ne_nil hmem)
  omega

theorem le_or_lt_of_mem_scanLine (hfits : Text.unitCount line < 2 ^ 32)
    (hcomment : comment? line = some comment) {token : Token}
    (hmem : token ∈ Lexeme.scanLine lexicon number line) :
    token.column.toNat + Text.unitCount token.text.toList ≤ Text.unitCount (code line) ∨
      Text.unitCount (code line) < token.column.toNat := by
  rw [Lexeme.scanLine_eq_append lexicon number hcomment] at hmem
  rcases List.mem_append.1 hmem with hmem | hmem
  · exact .inl (bounds_of_mem_code lexicon number (Lexer.unitCount_code_lt hfits) hmem).2
  · exact .inr (lt_column_of_mem_comment lexicon number hfits hcomment hmem)

theorem scanLine_code_eq_filter (hfits : Text.unitCount line < 2 ^ 32)
    (hcomment : comment? line = some comment) :
    Lexeme.scanLine lexicon number (code line) =
      (Lexeme.scanLine lexicon number line).filter
        (·.column.toNat < Text.unitCount (code line)) := by
  have hbefore : (Lexeme.scanLine lexicon number (code line)).filter
      (·.column.toNat < Text.unitCount (code line)) =
        Lexeme.scanLine lexicon number (code line) := by
    rw [List.filter_eq_self]
    intro token hmem
    exact decide_eq_true
      (bounds_of_mem_code lexicon number (Lexer.unitCount_code_lt hfits) hmem).1
  have hafter : (Lexeme.place number (Text.width (code line)) (Lexeme.scan lexicon comment)).filter
      (·.column.toNat < Text.unitCount (code line)) = [] := by
    rw [List.filter_eq_nil_iff]
    intro token hmem
    have hlt := lt_column_of_mem_comment lexicon number hfits hcomment hmem
    rw [decide_eq_true_eq]
    omega
  rw [Lexeme.scanLine_eq_append lexicon number hcomment, List.filter_append, hbefore, hafter,
    List.append_nil]

theorem slashesAfter_code (hcomment : comment? line = some comment) :
    SlashesAfter line (code line) := by
  rcases comment?_cases line with ⟨hnone, -⟩ | ⟨rest, -, hline⟩
  · rw [hnone] at hcomment
    cases hcomment
  · refine ⟨rest, ?_⟩
    rw [List.append_assoc]
    exact hline

theorem not_inLiteral_code (hfits : Text.unitCount line < 2 ^ 32)
    (hcomment : comment? line = some comment) :
    ¬ InLiteral (Lexeme.scanLine lexicon number line) (code line) := by
  rintro ⟨token, hmem, -, hcovers⟩
  simp only [Token.covers, Bool.and_eq_true, decide_eq_true_eq] at hcovers
  have hcases := le_or_lt_of_mem_scanLine lexicon number hfits hcomment hmem
  omega

theorem byteSize_code_le (hfits : Text.unitCount line < 2 ^ 32)
    (hslashes : SlashesAfter line front)
    (houtside : ¬ InLiteral (Lexeme.scanLine lexicon number line) front) :
    Text.byteSize (code line) ≤ Text.byteSize front := by
  rcases Nat.lt_or_ge front.length (codeLength .code line) with hlt | hge
  · exact (houtside (inLiteral_of_slashesAfter lexicon number hfits hslashes hlt)).elim
  · have hfront : front <+: line := (List.prefix_append front _).trans hslashes
    have hle : (code line).length ≤ front.length :=
      Nat.le_trans (List.length_take_le _ _) hge
    obtain ⟨more, rfl⟩ := List.prefix_of_prefix_length_le (List.take_prefix _ line) hfront hle
    rw [← code, Text.byteSize_append]
    exact Nat.le_add_right _ _

/-- The comment of a line starts at the first two slashes that no literal of the whole line covers.
No token of the line reaches over its start, and the code alone has the tokens that start before
it. A line has no comment only if all its double slashes are in literals. -/
theorem comment_starts_outside_literals (lexicon : Lexicon) (number : UInt32) {line : List Char}
    (hfits : Text.byteSize line < 2 ^ 32) :
    let tokens := Lexeme.scanLine lexicon number line
    (∀ comment, comment? line = some comment →
      code line ++ comment = line ∧
        IsLeast {index | ∃ front, Text.byteSize front = index ∧ SlashesAfter line front ∧
          ¬ InLiteral tokens front} (Text.byteSize (code line)) ∧
        (∀ token ∈ tokens, ¬ (token.column.toNat < Text.unitCount (code line) ∧
          Text.unitCount (code line) <
            token.column.toNat + Text.unitCount token.text.toList)) ∧
        Lexeme.scanLine lexicon number (code line) =
          tokens.filter (·.column.toNat < Text.unitCount (code line))) ∧
      (comment? line = none →
        code line = line ∧ ∀ front, SlashesAfter line front → InLiteral tokens front) := by
  intro tokens
  have hunits : Text.unitCount line < 2 ^ 32 :=
    Nat.lt_of_le_of_lt (Text.unitCount_le_byteSize line) hfits
  constructor
  · intro comment hcomment
    refine ⟨(code_append_of_comment? hcomment).2, ⟨?_, ?_⟩, ?_, ?_⟩
    · exact ⟨code line, rfl, slashesAfter_code hcomment,
        not_inLiteral_code lexicon number hunits hcomment⟩
    · rintro index ⟨front, rfl, hslashes, houtside⟩
      exact byteSize_code_le lexicon number hunits hslashes houtside
    · intro token hmem hstraddles
      have hcases := le_or_lt_of_mem_scanLine lexicon number hunits hcomment hmem
      omega
    · exact scanLine_code_eq_filter lexicon number hunits hcomment
  · intro hnone
    rcases comment?_cases line with ⟨-, hcode⟩ | ⟨rest, hsome, -⟩
    · refine ⟨hcode, ?_⟩
      intro front hslashes
      apply inLiteral_of_slashesAfter lexicon number hunits hslashes
      have hlength := hslashes.length_le
      have hall := congrArg List.length hcode
      rw [code, List.length_take] at hall
      rw [List.length_append, List.length_cons] at hlength
      omega
    · rw [hnone] at hsome
      cases hsome

/-- Slashes in a literal with an escaped quote, a comment with a quote in it, and a literal that is
not closed. -/
theorem comment_starts_outside_literals_escaped :
    let line := "%x \"a\\\"//\" é // \"b".toList
    let tokens := Lexeme.scanLine .builtin 0 line
    Text.byteSize line < 2 ^ 32 ∧ comment? line = some "// \"b".toList ∧
      Text.byteSize (code line) = 14 ∧
      IsLeast {index | ∃ front, Text.byteSize front = index ∧ SlashesAfter line front ∧
        ¬ InLiteral tokens front} 14 ∧
      Lexeme.scanLine .builtin 0 (code line) = tokens.filter (·.column.toNat < 13) ∧
      Text.byteSize "\"//".toList < 2 ^ 32 ∧ comment? "\"//".toList = none ∧
      InLiteral (Lexeme.scanLine .builtin 0 "\"//".toList) ['"'] := by
  intro line tokens
  have hfits : Text.byteSize line < 2 ^ 32 := by decide
  have hcomment : comment? line = some "// \"b".toList := by decide
  have hsize : Text.byteSize (code line) = 14 := by decide
  have hunits : Text.unitCount (code line) = 13 := by decide
  have hfitsOpen : Text.byteSize "\"//".toList < 2 ^ 32 := by decide
  have hnone : comment? "\"//".toList = none := by decide
  obtain ⟨-, hleast, -, hcode⟩ := (comment_starts_outside_literals .builtin 0 hfits).1 _ hcomment
  obtain ⟨-, hopen⟩ := (comment_starts_outside_literals .builtin 0 hfitsOpen).2 hnone
  rw [hsize] at hleast
  rw [hunits] at hcode
  exact ⟨hfits, hcomment, hsize, hleast, hcode, hfitsOpen, hnone,
    hopen ['"'] ⟨[], rfl⟩⟩

end Comment

end CirHighlight
