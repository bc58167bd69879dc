import CirHighlight.Lexeme.Comment

namespace CirHighlight.Comment

theorem drop_codeLength (place : Place) (line : List Char) :
    line.drop (codeLength place line) = [] ∨
      ∃ rest, line.drop (codeLength place line) = '/' :: '/' :: rest := by
  fun_induction codeLength place line with
  | case1 => exact .inl rfl
  | case2 rest ih => exact ih
  | case3 c rest hquote hslash =>
    obtain ⟨rfl, hhead⟩ := hslash
    obtain ⟨tail, rfl⟩ := List.head?_eq_some_iff.1 hhead
    exact .inr ⟨tail, rfl⟩
  | case4 c rest hquote hslash ih => exact ih
  | case5 run rest ih => exact ih
  | case6 run c rest hescape hquote ih => exact ih
  | case7 run c rest hescape hquote ih => exact ih

theorem comment?_cases (line : List Char) :
    (comment? line = none ∧ code line = line) ∨
      ∃ rest, comment? line = some ('/' :: '/' :: rest) ∧
        code line ++ '/' :: '/' :: rest = line := by
  have hline := List.take_append_drop (codeLength .code line) line
  rcases drop_codeLength .code line with hnil | ⟨rest, hrest⟩
  · rw [hnil, List.append_nil] at hline
    refine .inl ⟨?_, hline⟩
    rw [comment?, hnil]
    rfl
  · rw [hrest] at hline
    refine .inr ⟨rest, ?_, hline⟩
    rw [comment?, hrest]
    rfl

theorem code_append_of_comment? {line comment : List Char} (h : comment? line = some comment) :
    comment ≠ [] ∧ code line ++ comment = line := by
  rcases comment?_cases line with ⟨hnone, -⟩ | ⟨rest, hsome, hline⟩
  · rw [hnone] at h
    cases h
  · rw [hsome] at h
    rw [← Option.some.inj h]
    exact ⟨List.cons_ne_nil _ _, hline⟩

theorem exists_code_eq {line front rest : List Char} {c : Char} (hline : line = front ++ c :: rest)
    (hbefore : front.length < (code line).length) :
    ∃ inner, code line = front ++ c :: inner ∧
      ∀ d, rest.head? = some d → inner.head? = some d ∨ d = '/' := by
  have hparts := List.take_append_drop (codeLength .code line) line
  rw [← code] at hparts
  rcases List.append_eq_append_iff.1 (hparts.trans hline) with
    ⟨more, hfront, -⟩ | ⟨more, hcode, htail⟩
  · rw [hfront, List.length_append] at hbefore
    omega
  · cases more with
    | nil =>
      rw [hcode, List.append_nil] at hbefore
      omega
    | cons e inner =>
      obtain ⟨rfl, rfl⟩ := List.cons.inj htail
      refine ⟨inner, hcode, ?_⟩
      intro d hd
      cases inner with
      | nil =>
        rcases drop_codeLength .code line with hnil | ⟨after, hslash⟩
        · rw [hnil] at hd
          cases hd
        · rw [hslash] at hd
          exact .inr (Option.some.inj hd).symm
      | cons f inner => exact .inl hd

end CirHighlight.Comment
