import CirHighlight.Proofs.Lexeme.Grammar

namespace CirHighlight

namespace Grammar

theorem singleton_isPrefix {c : Char} {text rest : List Char} (hne : text ≠ [])
    (h : text <+: [c] ++ rest) : [c] <+: text := by
  cases text with
  | nil => exact (hne rfl).elim
  | cons d text =>
    obtain ⟨rfl, -⟩ := List.cons_prefix_cons.1 h
    exact List.prefix_append [d] text

section Literals

theorem ne_nil_of_mem_closed {text : List Char} (h : text ∈ closed) : text ≠ [] := by
  rcases mem_closed.1 h with rfl | ⟨c, rest, -, -, rfl⟩ | ⟨c, rest, -, rfl⟩
  · exact List.cons_ne_nil _ _
  · exact List.cons_ne_nil _ _
  · exact List.cons_ne_nil _ _

theorem cons_mem_closed_iff {c : Char} (hc : c ≠ '"' ∧ c ≠ '\\') (text : List Char) :
    [c] ++ text ∈ closed ↔ text ∈ closed := by
  constructor
  · intro h
    rcases mem_closed.1 h with h | ⟨d, rest, -, hrest, h⟩ | ⟨d, rest, -, h⟩
    · exact (hc.1 (List.cons.inj h).1).elim
    · cases h
      exact hrest
    · exact (hc.2 (List.cons.inj h).1).elim
  · intro h
    exact mem_closed.2 (.inr (.inl ⟨c, text, hc, h, rfl⟩))

theorem pair_mem_closed_iff (c : Char) (text : List Char) :
    ['\\', c] ++ text ∈ closed ↔ text ∈ closed := by
  constructor
  · intro h
    rcases mem_closed.1 h with h | ⟨d, rest, hd, -, h⟩ | ⟨d, rest, hrest, h⟩
    · cases h
    · exact (hd.2 (List.cons.inj h).1.symm).elim
    · cases h
      exact hrest
  · intro h
    exact mem_closed.2 (.inr (.inr ⟨c, text, h, rfl⟩))

theorem Best.cons_closed {rest : List Char} {found : Option (List Char)}
    (h : Best closed rest found) {c : Char} (hc : c ≠ '"' ∧ c ≠ '\\') :
    Best closed ([c] ++ rest) (found.map ([c] ++ ·)) := by
  refine h.append (cons_mem_closed_iff hc) ?_
  intro text hmem hpre
  exact singleton_isPrefix (ne_nil_of_mem_closed hmem) hpre

theorem Best.pair_closed {rest : List Char} {found : Option (List Char)}
    (h : Best closed rest found) (c : Char) :
    Best closed (['\\', c] ++ rest) (found.map (['\\', c] ++ ·)) := by
  refine h.append (pair_mem_closed_iff c) ?_
  intro text hmem hpre
  rcases mem_closed.1 hmem with rfl | ⟨d, more, hd, -, rfl⟩ | ⟨d, more, -, rfl⟩
  · exact absurd (List.cons_prefix_cons.1 hpre).1 (by decide)
  · exact (hd.2 (List.cons_prefix_cons.1 hpre).1).elim
  · obtain ⟨rfl, -⟩ := List.cons_prefix_cons.1 (List.cons_prefix_cons.1 hpre).2
    exact List.prefix_append ['\\', d] more

theorem best_closed_quote (rest : List Char) : Best closed ('"' :: rest) (some ['"']) := by
  refine ⟨mem_closed.2 (.inl rfl), List.prefix_append ['"'] rest, ?_⟩
  intro other hmem hpre
  rcases mem_closed.1 hmem with rfl | ⟨c, more, hc, -, rfl⟩ | ⟨c, more, -, rfl⟩
  · exact Nat.le_refl _
  · exact (hc.1 (List.cons_prefix_cons.1 hpre).1).elim
  · exact absurd (List.cons_prefix_cons.1 hpre).1 (by decide)

/-- The escape that waits for its character after a run of escapes. -/
def pending (run : Nat) : List Char :=
  if run % 2 = 0 then [] else ['\\']

theorem best_closed_pending (run : Nat) : Best closed (pending run ++ []) none := by
  intro text hmem hpre
  unfold pending at hpre
  split at hpre
  · exact ne_nil_of_mem_closed hmem (List.prefix_nil.1 hpre)
  · rcases mem_closed.1 hmem with rfl | ⟨c, more, hc, -, rfl⟩ | ⟨c, more, -, rfl⟩
    · exact absurd (List.cons_prefix_cons.1 hpre).1 (by decide)
    · exact (hc.2 (List.cons_prefix_cons.1 hpre).1).elim
    · exact absurd (List.prefix_nil.1 (List.cons_prefix_cons.1 hpre).2) (List.cons_ne_nil _ _)

/-- How far a literal reaches, told by the text that closes it: to its end, or to the end of the
line if there is no such text. -/
def Reaches (run length : Nat) (text : List Char) : Prop :=
  Best closed (pending run ++ text) (some (pending run ++ text.take length)) ∨
    (length = text.length ∧ Best closed (pending run ++ text) none)

/-- A literal that reaches so far from some place reaches one character further from the character
before it, if what precedes both places can be lifted off. -/
theorem Reaches.cons {run next length : Nat} {x : Char} {rest : List Char}
    (h : Reaches next length rest) (start : List Char)
    (hstart : pending run ++ [x] = start ++ pending next)
    (hlift : ∀ found, Best closed (pending next ++ rest) found →
      Best closed (start ++ (pending next ++ rest)) (found.map (start ++ ·))) :
    Reaches run (length + 1) (x :: rest) := by
  have hshift (more : List Char) :
      pending run ++ x :: more = start ++ (pending next ++ more) := by
    rw [← List.append_assoc, ← hstart, List.append_assoc, List.singleton_append]
  unfold Reaches
  rw [List.take_succ_cons, hshift, hshift, List.length_cons]
  rcases h with h | ⟨hlength, h⟩
  · exact .inl (hlift _ h)
  · exact .inr ⟨congrArg Nat.succ hlength, hlift _ h⟩

theorem reaches_closing (run : Nat) (text : List Char) :
    Reaches run (Literal.closing '"' '\\' run text) text := by
  -- The scanner counts a run of escapes and the language pairs them off, so they are matched up by
  -- the parity of the run.
  have heven {run : Nat} (h : run % 2 = 0) : pending run = [] := if_pos h
  have hodd {run : Nat} (h : ¬ run % 2 = 0) : pending run = ['\\'] := if_neg h
  fun_induction Literal.closing '"' '\\' run text with
  | case1 run => exact .inr ⟨rfl, best_closed_pending run⟩
  | case2 run rest ih =>
    by_cases hrun : run % 2 = 0
    · refine ih.cons [] ?_ ?_
      · rw [heven hrun, hodd (by omega)]
      · intro found hfound
        simpa using hfound
    · refine ih.cons ['\\', '\\'] ?_ fun found hfound => hfound.pair_closed '\\'
      rw [hodd hrun, heven (by omega)]
      rfl
  | case3 run x rest hescape hquote =>
    obtain ⟨rfl, hrun⟩ := hquote
    left
    rw [heven hrun]
    exact best_closed_quote rest
  | case4 run x rest hescape hquote ih =>
    by_cases hrun : run % 2 = 0
    · have hx : x ≠ '"' ∧ x ≠ '\\' := ⟨fun hx => hquote ⟨hx, hrun⟩, hescape⟩
      refine ih.cons [x] ?_ fun found hfound => hfound.cons_closed hx
      rw [heven hrun, heven (Nat.zero_mod 2)]
      rfl
    · refine ih.cons ['\\', x] ?_ fun found hfound => hfound.pair_closed x
      rw [hodd hrun, heven (Nat.zero_mod 2)]
      rfl

end Literals

namespace Kind

def rule : Kind → Rule
  | .type => Rule.type
  | .string => Rule.string
  | .number => Rule.number
  | .operation => Rule.operation
  | .sigil => Rule.sigil
  | .word => Rule.bareWord

/-- The piece that a rule makes of the text of its kind. -/
def piece (lexicon : Lexicon) : Kind → List Char → Lexeme
  | .type, text => .single text (some .typeName)
  | .string, text => .single text (some .string)
  | .number, text => .single text (some .number)
  | .operation, text => .operation (text.drop 4)
  | .sigil, text => .single text (text.head?.bind Rule.sigilCategory?)
  | .word, text => .single text (lexicon.classify (String.ofList text))

theorem map_rule_order : order.map rule = Rule.all := rfl

end Kind

/-- What becomes of a kind at the start of what is left of a line: the text that is taken, or
nothing if none can be. -/
def Outcome (kind : Kind) (rest : List Char) : Option (List Char) → Prop
  | some text => Takes kind rest text
  | none => ∀ text, ¬ Takes kind rest text

/-- A rule makes a piece of what its kind takes, and reads nothing where its kind takes nothing. -/
def Agrees (lexicon : Lexicon) (kind : Kind) (rest : List Char) : Prop :=
  ∃ found, Outcome kind rest found ∧ kind.rule lexicon rest = found.map (kind.piece lexicon)

theorem Best.outcome {kind : Kind} {rest : List Char} {found : Option (List Char)}
    (h : Best kind.language rest found) (hkind : kind ≠ .string) : Outcome kind rest found := by
  cases found with
  | some text => exact .longest h
  | none =>
    intro text htakes
    cases htakes with
    | longest hlongest => exact h text hlongest.mem hlongest.isPrefix
    | unclosed => exact hkind rfl

theorem qualifier_cir : Qualifier ['c', 'i', 'r', '.'] :=
  ⟨['c', 'i', 'r'], rfl, List.all_eq_true.1 (by decide)⟩

theorem qualifier_llvm : Qualifier ['l', 'l', 'v', 'm', '.'] :=
  ⟨['l', 'l', 'v', 'm'], rfl, List.all_eq_true.1 (by decide)⟩

theorem best_singleton_mul {language : Language Char} {rest : List Char}
    {found : Option (List Char)} (h : Best language rest found) (start : List Char) :
    Best ({start} * language) (start ++ rest) (found.map (start ++ ·)) := by
  refine h.append ?_ ?_
  · intro text
    rw [mem_singleton_mul]
    constructor
    · rintro ⟨other, hother, hsame⟩
      rwa [List.append_cancel_left hsame]
    · intro hmem
      exact ⟨text, hmem, rfl⟩
  · intro text hmem hpre
    obtain ⟨other, -, rfl⟩ := mem_singleton_mul.1 hmem
    exact List.prefix_append start other

theorem best_singleton_mul_of_not_isPrefix (language : Language Char) {start rest : List Char}
    (h : ¬ start <+: rest) : Best ({start} * language) rest none := by
  intro text hmem hpre
  obtain ⟨other, -, rfl⟩ := mem_singleton_mul.1 hmem
  exact h ((List.prefix_append start other).trans hpre)

theorem agrees_type (lexicon : Lexicon) (rest : List Char) : Agrees lexicon .type rest := by
  by_cases hhead : rest.head? = some '!'
  · obtain ⟨rest, rfl⟩ := List.head?_eq_some_iff.1 hhead
    have hbest := best_singleton_mul (best_qualifiedWord
      (List.forall_mem_cons.2 ⟨qualifier_cir, List.forall_mem_singleton.2 qualifier_llvm⟩) rest)
      ['!']
    refine ⟨_, Best.outcome hbest (by decide), ?_⟩
    rw [Option.map_map, map_nonempty?]
    rfl
  · refine ⟨none, Best.outcome (best_singleton_mul_of_not_isPrefix _ ?_) (by decide), ?_⟩
    · rintro ⟨tail, rfl⟩
      exact hhead rfl
    · change Rule.type lexicon rest = none
      unfold Rule.type
      split
      · exact (hhead rfl).elim
      · rfl

theorem agrees_string (lexicon : Lexicon) (rest : List Char) : Agrees lexicon .string rest := by
  by_cases hhead : rest.head? = some '"'
  · obtain ⟨rest, rfl⟩ := List.head?_eq_some_iff.1 hhead
    refine ⟨some ('"' :: rest.take (Literal.closingChars 0 rest)), ?_, rfl⟩
    rcases reaches_closing 0 rest with hclosed | ⟨hlength, hopen⟩
    · exact .longest (best_singleton_mul hclosed ['"'])
    · rw [Literal.closingChars, hlength, List.take_length]
      exact .unclosed (best_singleton_mul hopen ['"'])
  · refine ⟨none, ?_, ?_⟩
    · intro text htakes
      cases htakes with
      | longest h =>
        refine best_singleton_mul_of_not_isPrefix closed ?_ text h.mem h.isPrefix
        rintro ⟨tail, rfl⟩
        exact hhead rfl
      | unclosed => exact hhead rfl
    · change Rule.string lexicon rest = none
      unfold Rule.string
      split
      · exact (hhead rfl).elim
      · rfl

theorem agrees_number (lexicon : Lexicon) (rest : List Char) : Agrees lexicon .number rest := by
  refine ⟨_, Best.outcome (best_letters digit_iff rest) (by decide), ?_⟩
  rw [map_nonempty?]
  rfl

theorem agrees_operation (lexicon : Lexicon) (rest : List Char) :
    Agrees lexicon .operation rest := by
  by_cases hstart : ['c', 'i', 'r', '.'] <+: rest
  · obtain ⟨rest, rfl⟩ := hstart
    refine ⟨_, Best.outcome (best_singleton_mul (best_word rest) _) (by decide), ?_⟩
    rw [Option.map_map, map_nonempty?]
    rfl
  · refine ⟨none, Best.outcome (best_singleton_mul_of_not_isPrefix _ hstart) (by decide), ?_⟩
    change Rule.operation lexicon rest = none
    have hnot : Rule.cirQualifier.isPrefixOf rest = false := by
      rw [Bool.eq_false_iff]
      exact mt List.isPrefixOf_iff_prefix.1 hstart
    rw [Rule.operation, Rule.strip?, hnot]
    rfl

theorem sigilCategory?_isSome_iff (c : Char) :
    (Rule.sigilCategory? c).isSome ↔ Sigil c := by
  unfold Rule.sigilCategory? Sigil
  split <;> simp_all

theorem best_letter_mul {p : Char → Prop} {language : Language Char} {rest : List Char}
    {found : Option (List Char)} (h : Best language rest found) {c : Char} (hc : p c) :
    Best (letter p * language) ([c] ++ rest) (found.map ([c] ++ ·)) := by
  refine h.append ?_ ?_
  · intro text
    rw [mem_letter_mul]
    constructor
    · rintro ⟨d, other, -, hother, hsame⟩
      cases hsame
      exact hother
    · intro hmem
      exact ⟨c, text, hc, hmem, rfl⟩
  · intro text hmem hpre
    obtain ⟨d, other, -, -, rfl⟩ := mem_letter_mul.1 hmem
    exact singleton_isPrefix (List.cons_ne_nil _ _) hpre

theorem agrees_sigil (lexicon : Lexicon) (rest : List Char) : Agrees lexicon .sigil rest := by
  by_cases hsigil : ∃ c tail, rest = c :: tail ∧ (Rule.sigilCategory? c).isSome
  · obtain ⟨c, rest, rfl, hsome⟩ := hsigil
    obtain ⟨category, hcategory⟩ := Option.isSome_iff_exists.1 hsome
    have hbest := best_letter_mul
      (best_qualifiedWord (List.forall_mem_singleton.2 qualifier_cir) rest)
      ((sigilCategory?_isSome_iff c).1 hsome)
    refine ⟨_, Best.outcome hbest (by decide), ?_⟩
    change Rule.sigil lexicon (c :: rest) = _
    rw [Option.map_map, map_nonempty?]
    simp only [Rule.sigil, hcategory, Rule.marked, Function.comp_apply, List.singleton_append,
      Kind.piece, List.head?_cons, Option.bind_some]
    rfl
  · refine ⟨none, Best.outcome ?_ (by decide), ?_⟩
    · intro text hmem hpre
      obtain ⟨c, other, hc, -, rfl⟩ := mem_letter_mul.1 hmem
      obtain ⟨tail, rfl⟩ := hpre
      exact hsigil ⟨c, other ++ tail, rfl, (sigilCategory?_isSome_iff c).2 hc⟩
    · change Rule.sigil lexicon rest = none
      cases rest with
      | nil => rfl
      | cons c rest =>
        have hnone : Rule.sigilCategory? c = none := by
          rw [← Option.not_isSome_iff_eq_none]
          intro hsome
          exact hsigil ⟨c, rest, rfl, hsome⟩
        simp only [Rule.sigil, hnone]

theorem agrees_word (lexicon : Lexicon) (rest : List Char) : Agrees lexicon .word rest := by
  refine ⟨_, Best.outcome (best_word rest) (by decide), ?_⟩
  rw [map_nonempty?]
  rfl

theorem agrees (lexicon : Lexicon) (kind : Kind) (rest : List Char) :
    Agrees lexicon kind rest := by
  cases kind with
  | type => exact agrees_type lexicon rest
  | string => exact agrees_string lexicon rest
  | number => exact agrees_number lexicon rest
  | operation => exact agrees_operation lexicon rest
  | sigil => exact agrees_sigil lexicon rest
  | word => exact agrees_word lexicon rest

theorem rule_eq_some_iff {lexicon : Lexicon} {kind : Kind} {rest : List Char} {piece : Lexeme} :
    kind.rule lexicon rest = some piece ↔
      ∃ text, Takes kind rest text ∧ kind.piece lexicon text = piece := by
  obtain ⟨found, houtcome, hrule⟩ := agrees lexicon kind rest
  rw [hrule, Option.map_eq_some_iff]
  constructor
  · rintro ⟨text, rfl, hpiece⟩
    exact ⟨text, houtcome, hpiece⟩
  · rintro ⟨text, htakes, hpiece⟩
    cases found with
    | none => exact (houtcome text htakes).elim
    | some other => exact ⟨other, rfl, by rw [← htakes.unique houtcome, hpiece]⟩

theorem rule_eq_none_iff {lexicon : Lexicon} {kind : Kind} {rest : List Char} :
    kind.rule lexicon rest = none ↔ ∀ text, ¬ Takes kind rest text := by
  constructor
  · intro hnone text htakes
    rw [rule_eq_some_iff.2 ⟨text, htakes, rfl⟩] at hnone
    cases hnone
  · intro hnone
    rw [Option.eq_none_iff_forall_ne_some]
    intro piece hpiece
    obtain ⟨text, htakes, -⟩ := rule_eq_some_iff.1 hpiece
    exact hnone text htakes

end Grammar

end CirHighlight
