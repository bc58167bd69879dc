import CirHighlight.Proofs.Lexeme.Longest
import CirHighlight.Proofs.Lexeme.Scan

namespace CirHighlight

namespace Grammar

/-- A token with the given place, text and category, and without modifiers. -/
structure IsToken (line : UInt32) (column : Nat) (text : List Char) (category : Option Category)
    (token : Token) : Prop where
  line_eq : token.line = line
  column_eq : token.column.toNat = column
  text_eq : token.text.toList = text
  category_eq : token.category = category
  modifiers_eq : token.modifiers = .empty

/-- The tokens that are emitted for a text of a kind at a column. Only for a word do they depend
on the lexicon, of which the keywords are asked before the macros and these before the type
names. -/
inductive Emits (lexicon : Lexicon) (line : UInt32) (column : Nat) :
    Kind → List Char → List Token → Prop
  | type {text : List Char} {token : Token}
      (h : IsToken line column text (some .typeName) token) :
    Emits lexicon line column .type text [token]
  | string {text : List Char} {token : Token}
      (h : IsToken line column text (some .string) token) :
    Emits lexicon line column .string text [token]
  | number {text : List Char} {token : Token}
      (h : IsToken line column text (some .number) token) :
    Emits lexicon line column .number text [token]
  | operation {name : List Char} {first second : Token}
      (hfirst : IsToken line column ['c', 'i', 'r'] (some .namespaceName) first)
      (hsecond : IsToken line (column + 4) name (some .function) second) :
    Emits lexicon line column .operation (['c', 'i', 'r', '.'] ++ name) [first, second]
  | function {name : List Char} {token : Token}
      (h : IsToken line column ('@' :: name) (some .function) token) :
    Emits lexicon line column .sigil ('@' :: name) [token]
  | variableName {name : List Char} {token : Token}
      (h : IsToken line column ('%' :: name) (some .variableName) token) :
    Emits lexicon line column .sigil ('%' :: name) [token]
  | enumMember {name : List Char} {token : Token}
      (h : IsToken line column ('#' :: name) (some .enumMember) token) :
    Emits lexicon line column .sigil ('#' :: name) [token]
  | keyword {text : List Char} {token : Token} (hmem : String.ofList text ∈ lexicon.keywords)
      (h : IsToken line column text (some .keyword) token) :
    Emits lexicon line column .word text [token]
  | macroName {text : List Char} {token : Token} (hkeywords : String.ofList text ∉ lexicon.keywords)
      (hmem : String.ofList text ∈ lexicon.macros)
      (h : IsToken line column text (some .macroName) token) :
    Emits lexicon line column .word text [token]
  | typeName {text : List Char} {token : Token} (hkeywords : String.ofList text ∉ lexicon.keywords)
      (hmacros : String.ofList text ∉ lexicon.macros)
      (hmem : String.ofList text ∈ lexicon.typenames)
      (h : IsToken line column text (some .typeName) token) :
    Emits lexicon line column .word text [token]
  | unknown {text : List Char} {token : Token} (hkeywords : String.ofList text ∉ lexicon.keywords)
      (hmacros : String.ofList text ∉ lexicon.macros)
      (htypenames : String.ofList text ∉ lexicon.typenames)
      (h : IsToken line column text none token) :
    Emits lexicon line column .word text [token]

/-- A kind is the first of which something can be taken. -/
def First (kind : Kind) (rest text : List Char) : Prop :=
  Takes kind rest text ∧ ∃ earlier later, Kind.order = earlier ++ kind :: later ∧
    ∀ other ∈ earlier, ∀ text, ¬ Takes other rest text

inductive Reads (lexicon : Lexicon) (line : UInt32) : Nat → List Char → List Token → Prop
  | done {column : Nat} : Reads lexicon line column [] []
  | take {column : Nat} {kind : Kind} {text rest : List Char} {emitted tokens : List Token}
      (hfirst : First kind (text ++ rest) text)
      (hemits : Emits lexicon line column kind text emitted)
      (hrest : Reads lexicon line (column + Text.unitCount text) rest tokens) :
    Reads lexicon line column (text ++ rest) (emitted ++ tokens)
  | skip {column : Nat} {c : Char} {rest : List Char} {tokens : List Token}
      (hnone : ∀ kind text, ¬ Takes kind (c :: rest) text)
      (hrest : Reads lexicon line (column + (Text.units c).toNat) rest tokens) :
    Reads lexicon line column (c :: rest) tokens

section Pieces

variable {lexicon : Lexicon} {line : UInt32} {column : UInt32} {kind : Kind}
  {rest text : List Char}

theorem Takes.mem_language (h : Takes kind rest text) (hkind : kind ≠ .string) :
    text ∈ kind.language := by
  cases h with
  | longest h => exact h.mem
  | unclosed => exact (hkind rfl).elim

theorem Takes.isPrefix (h : Takes kind rest text) : text <+: rest := by
  cases h with
  | longest h => exact h.isPrefix
  | unclosed => exact List.prefix_refl _

theorem Takes.chars_piece (h : Takes kind rest text) (lexicon : Lexicon) :
    (kind.piece lexicon text).chars = text := by
  cases kind with
  | operation =>
    obtain ⟨name, -, rfl⟩ := mem_singleton_mul.1 (h.mem_language (by decide))
    rfl
  | type | string | number | sigil | word => rfl

theorem rule_mem_all (kind : Kind) : kind.rule ∈ Rule.all := by
  cases kind <;> simp [Kind.rule, Rule.all]

theorem Takes.ne_nil (h : Takes kind rest text) : text ≠ [] := by
  have hrule : kind.rule .builtin rest = some (kind.piece .builtin text) :=
    rule_eq_some_iff.2 ⟨text, h, rfl⟩
  have hgives := (Rule.readsStart_of_mem_all (rule_mem_all kind) _ _ _ hrule).1
  rw [← h.chars_piece .builtin]
  exact hgives.chars_ne_nil

theorem isToken_iff {category : Option Category} {token : Token} :
    IsToken line column.toNat text category token ↔
      token = { line, column, text := String.ofList text, category } := by
  constructor
  · rintro ⟨rfl, hcolumn, rfl, rfl, hmodifiers⟩
    obtain ⟨line, place, text, category, modifiers⟩ := token
    obtain rfl : place = column := UInt32.toNat_inj.1 hcolumn
    obtain rfl : modifiers = .empty := hmodifiers
    rw [String.ofList_toList]
  · rintro rfl
    exact ⟨rfl, rfl, String.toList_ofList, rfl, rfl⟩

theorem emits_iff (htakes : Takes kind rest text)
    (hfits : column.toNat + Text.unitCount text < 2 ^ 32) {tokens : List Token} :
    Emits lexicon line column.toNat kind text tokens ↔
      tokens = (kind.piece lexicon text).tokens line column := by
  constructor
  · intro hemits
    cases hemits with
    | type h | string h | number h | function h | variableName h | enumMember h =>
      rw [isToken_iff.1 h]
      rfl
    | operation hfirst hsecond =>
      rw [← Lexeme.toNat_column_name hfits] at hsecond
      rw [isToken_iff.1 hfirst, isToken_iff.1 hsecond]
      rfl
    | keyword hmem h =>
      rw [isToken_iff.1 h, Kind.piece, Lexicon.classify, if_pos hmem]
      rfl
    | macroName hkeywords hmem h =>
      rw [isToken_iff.1 h, Kind.piece, Lexicon.classify, if_neg hkeywords, if_pos hmem]
      rfl
    | typeName hkeywords hmacros hmem h =>
      rw [isToken_iff.1 h, Kind.piece, Lexicon.classify, if_neg hkeywords, if_neg hmacros,
        if_pos hmem]
      rfl
    | unknown hkeywords hmacros htypenames h =>
      rw [isToken_iff.1 h, Kind.piece, Lexicon.classify, if_neg hkeywords, if_neg hmacros,
        if_neg htypenames]
      rfl
  · rintro rfl
    cases kind with
    | type => exact .type (isToken_iff.2 rfl)
    | string => exact .string (isToken_iff.2 rfl)
    | number => exact .number (isToken_iff.2 rfl)
    | operation =>
      obtain ⟨name, -, rfl⟩ := mem_singleton_mul.1 (htakes.mem_language (by decide))
      refine .operation (isToken_iff.2 rfl) ?_
      rw [← Lexeme.toNat_column_name hfits]
      exact isToken_iff.2 rfl
    | sigil =>
      obtain ⟨c, name, hsigil, -, rfl⟩ := mem_letter_mul.1 (htakes.mem_language (by decide))
      rcases hsigil with rfl | rfl | rfl
      · exact .function (isToken_iff.2 rfl)
      · exact .variableName (isToken_iff.2 rfl)
      · exact .enumMember (isToken_iff.2 rfl)
    | word =>
      rw [Kind.piece, Lexicon.classify]
      split
      · next hmem => exact .keyword hmem (isToken_iff.2 rfl)
      · next hkeywords =>
        split
        · next hmem => exact .macroName hkeywords hmem (isToken_iff.2 rfl)
        · next hmacros =>
          split
          · next hmem => exact .typeName hkeywords hmacros hmem (isToken_iff.2 rfl)
          · next htypenames => exact .unknown hkeywords hmacros htypenames (isToken_iff.2 rfl)

end Pieces

section Scan

variable {lexicon : Lexicon} {rest : List Char}

theorem findSome?_eq_some_iff {piece : Lexeme} :
    Rule.all.findSome? (· lexicon rest) = some piece ↔
      ∃ kind text, First kind rest text ∧ kind.piece lexicon text = piece := by
  rw [← Kind.map_rule_order, List.findSome?_map, List.findSome?_eq_some_iff]
  constructor
  · rintro ⟨earlier, kind, later, horder, hrule, hnone⟩
    obtain ⟨text, htakes, hpiece⟩ := rule_eq_some_iff.1 hrule
    refine ⟨kind, text, ⟨htakes, earlier, later, horder, ?_⟩, hpiece⟩
    intro other hmem
    exact rule_eq_none_iff.1 (hnone other hmem)
  · rintro ⟨kind, text, ⟨htakes, earlier, later, horder, hnone⟩, hpiece⟩
    refine ⟨earlier, kind, later, horder, rule_eq_some_iff.2 ⟨text, htakes, hpiece⟩, ?_⟩
    intro other hmem
    exact rule_eq_none_iff.2 (hnone other hmem)

theorem findSome?_eq_none_iff :
    Rule.all.findSome? (· lexicon rest) = none ↔ ∀ kind text, ¬ Takes kind rest text := by
  rw [← Kind.map_rule_order, List.findSome?_map, List.findSome?_eq_none_iff]
  constructor
  · intro h kind
    exact rule_eq_none_iff.1 (h kind (by cases kind <;> simp [Kind.order]))
  · intro h kind _
    exact rule_eq_none_iff.2 (h kind)

theorem scan_of_first {kind : Kind} {text : List Char} (h : First kind (text ++ rest) text) :
    Lexeme.scan lexicon (text ++ rest) = kind.piece lexicon text :: Lexeme.scan lexicon rest := by
  have hfind := findSome?_eq_some_iff.2 ⟨kind, text, h, Eq.refl (kind.piece lexicon text)⟩
  have hchars := h.1.chars_piece lexicon
  obtain ⟨c, more, rfl⟩ := List.exists_cons_of_ne_nil h.1.ne_nil
  have hpiece : Lexeme.first Rule.all lexicon c (more ++ rest) =
      kind.piece lexicon (c :: more) := by
    rw [Lexeme.first, ← List.cons_append, hfind, Option.getD_some]
  rw [List.cons_append, Lexeme.scan, Lexeme.scanWith, hpiece, hchars, List.length_cons,
    Nat.add_sub_cancel, List.drop_left, Lexeme.scan]

theorem scan_of_none {c : Char} (h : ∀ kind text, ¬ Takes kind (c :: rest) text) :
    Lexeme.scan lexicon (c :: rest) = .gap c :: Lexeme.scan lexicon rest := by
  have hgap : Lexeme.first Rule.all lexicon c rest = .gap c := by
    rw [Lexeme.first, findSome?_eq_none_iff.2 h, Option.getD_none]
  rw [Lexeme.scan, Lexeme.scanWith, hgap, Lexeme.scan]
  rfl

end Scan

section Line

variable {lexicon : Lexicon} {line : UInt32}

theorem fits_append {column : UInt32} (text : List Char) {rest : List Char}
    (hfits : column.toNat + Text.unitCount (text ++ rest) < 2 ^ 32) :
    column.toNat + Text.unitCount text < 2 ^ 32 ∧
      (column + Text.width text).toNat = column.toNat + Text.unitCount text ∧
      (column + Text.width text).toNat + Text.unitCount rest < 2 ^ 32 := by
  rw [Text.unitCount_append] at hfits
  have htext : column.toNat + Text.unitCount text < 2 ^ 32 := by omega
  have hcolumn := Text.toNat_add_width htext
  exact ⟨htext, hcolumn, by omega⟩

theorem Reads.eq_place {place : Nat} {text : List Char} {tokens : List Token}
    (h : Reads lexicon line place text tokens) {column : UInt32} (hplace : column.toNat = place)
    (hfits : column.toNat + Text.unitCount text < 2 ^ 32) :
    tokens = Lexeme.place line column (Lexeme.scan lexicon text) := by
  induction h generalizing column with
  | done => rw [Lexeme.scan, Lexeme.scanWith, Lexeme.place]
  | @take place kind text rest emitted tokens hfirst hemits hrest ih =>
    obtain ⟨htext, hcolumn, hnext⟩ := fits_append text hfits
    rw [← hplace] at hemits
    rw [hplace] at hcolumn
    rw [scan_of_first hfirst, Lexeme.place, hfirst.1.chars_piece,
      ← (emits_iff hfirst.1 htext).1 hemits, ← ih hcolumn hnext]
  | @skip place c rest tokens hnone hrest ih =>
    obtain ⟨-, hcolumn, hnext⟩ := fits_append [c] hfits
    rw [hplace] at hcolumn
    rw [scan_of_none hnone, Lexeme.place]
    exact ih hcolumn hnext

theorem reads_place {column : UInt32} {text : List Char}
    (hfits : column.toNat + Text.unitCount text < 2 ^ 32) :
    Reads lexicon line column.toNat text
      (Lexeme.place line column (Lexeme.scan lexicon text)) := by
  -- By induction on the length, because what is taken may be several characters.
  induction hlength : text.length using Nat.strong_induction_on generalizing column text with
  | _ n ih =>
    cases text with
    | nil =>
      rw [Lexeme.scan, Lexeme.scanWith]
      exact .done
    | cons c rest =>
      cases hfind : Rule.all.findSome? (· lexicon (c :: rest)) with
      | none =>
        have hnone := findSome?_eq_none_iff.1 hfind
        obtain ⟨-, hcolumn, hnext⟩ := fits_append [c] hfits
        have htail := ih rest.length (by simp [← hlength]) hnext rfl
        rw [hcolumn] at htail
        rw [scan_of_none hnone, Lexeme.place]
        exact .skip hnone htail
      | some piece =>
        obtain ⟨kind, text, hfirst, -⟩ := findSome?_eq_some_iff.1 hfind
        obtain ⟨tail, htext⟩ := hfirst.1.isPrefix
        rw [← htext] at hfirst hfits hlength ⊢
        obtain ⟨hinside, hcolumn, hnext⟩ := fits_append text hfits
        have hpos := List.length_pos_iff.2 hfirst.1.ne_nil
        rw [List.length_append] at hlength
        have htail := ih tail.length (by omega) hnext rfl
        rw [hcolumn] at htail
        rw [scan_of_first hfirst, Lexeme.place, hfirst.1.chars_piece]
        exact .take hfirst ((emits_iff hfirst.1 hinside).2 rfl) htail

/-- The tokens of a line are those that the grammar reads, and no others. -/
theorem scanLine_reads_grammar (lexicon : Lexicon) (line : UInt32) {text : List Char}
    (hsize : Text.byteSize text < 2 ^ 32) (tokens : List Token) :
    Reads lexicon line 0 text tokens ↔ tokens = Lexeme.scanLine lexicon line text := by
  have hfits : (0 : UInt32).toNat + Text.unitCount text < 2 ^ 32 := by
    have hunits := Text.unitCount_le_byteSize text
    rw [UInt32.toNat_zero]
    omega
  constructor
  · intro h
    exact h.eq_place rfl hfits
  · rintro rfl
    exact reads_place hfits

/-- Qualifiers without a name after them, a name that is a qualifier, digits before a word and a
literal that is not closed. -/
theorem scanLine_reads_grammar_fallbacks :
    Text.byteSize "!cir.%cir.x cir.cir.y 4z\"\\\"".toList < 2 ^ 32 ∧
      Reads .builtin 7 0 "!cir.%cir.x cir.cir.y 4z\"\\\"".toList
        [⟨7, 0, "!cir", some .typeName, .empty⟩, ⟨7, 5, "%cir.x", some .variableName, .empty⟩,
          ⟨7, 12, "cir", some .namespaceName, .empty⟩, ⟨7, 16, "cir", some .function, .empty⟩,
          ⟨7, 20, "y", none, .empty⟩, ⟨7, 22, "4", some .number, .empty⟩,
          ⟨7, 23, "z", none, .empty⟩, ⟨7, 24, "\"\\\"", some .string, .empty⟩] := by
  have hsize : Text.byteSize "!cir.%cir.x cir.cir.y 4z\"\\\"".toList < 2 ^ 32 := by decide
  exact ⟨hsize, (scanLine_reads_grammar .builtin 7 hsize _).2 (by decide +kernel)⟩

end Line

end Grammar

end CirHighlight
