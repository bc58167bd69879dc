import CirHighlight.Proofs.Lexeme.Rule
import CirHighlight.Proofs.Text.Width

namespace CirHighlight

/-- Tokens tile a text that starts at a column. The characters between them satisfy `Gap`
together with what follows them in the text. -/
inductive Tiled (Gap : Char → List Char → Prop) : Nat → List Char → List Token → Prop
  | nil {column : Nat} : Tiled Gap column [] []
  | gap {column : Nat} {c : Char} {rest : List Char} {tokens : List Token} (hgap : Gap c rest)
      (hrest : Tiled Gap (column + (Text.units c).toNat) rest tokens) :
    Tiled Gap column (c :: rest) tokens
  | token {column : Nat} {token : Token} {rest : List Char} {tokens : List Token}
      (hne : token.text.toList ≠ []) (hcolumn : token.column.toNat = column)
      (hrest : Tiled Gap (column + Text.unitCount token.text.toList) rest tokens) :
    Tiled Gap column (token.text.toList ++ rest) (token :: tokens)

namespace Token

def covers (token : Token) (column : Nat) : Bool :=
  token.column.toNat ≤ column && column < token.column.toNat + Text.unitCount token.text.toList

end Token

namespace Tiled

variable {Gap : Char → List Char → Prop} {column : Nat} {text : List Char} {tokens : List Token}

theorem skip (h : ∀ c rest, Gap c rest) (column : Nat) (text : List Char) :
    Tiled Gap column text [] := by
  induction text generalizing column with
  | nil => exact .nil
  | cons c text ih => exact .gap (h c text) (ih _)

theorem place (line : UInt32) {column : UInt32} {chars rest : List Char}
    (category : Option Category) (hne : chars ≠ [])
    (hrest : Tiled Gap (column.toNat + Text.unitCount chars) rest tokens) :
    Tiled Gap column.toNat (chars ++ rest)
      ({ line, column, text := String.ofList chars, category } :: tokens) := by
  obtain ⟨text, rfl⟩ : ∃ text : String, chars = text.toList :=
    ⟨String.ofList chars, String.toList_ofList.symm⟩
  rw [String.ofList_toList]
  exact @token Gap _ ⟨line, column, text, category, .empty⟩ rest tokens hne rfl hrest

theorem append {left right : List Char} {before after : List Token}
    (hl : Tiled (fun _ _ => True) column left before)
    (hr : Tiled (fun _ _ => True) (column + Text.unitCount left) right after) :
    Tiled (fun _ _ => True) column (left ++ right) (before ++ after) := by
  induction hl with
  | nil => exact hr
  | gap hgap hrest ih =>
    refine .gap trivial (ih ?_)
    rwa [Text.unitCount_cons, ← Nat.add_assoc] at hr
  | token hne hcolumn hrest ih =>
    rw [List.append_assoc]
    refine .token hne hcolumn (ih ?_)
    rwa [Text.unitCount_append, ← Nat.add_assoc] at hr

theorem forget (h : Tiled Gap column text tokens) :
    Tiled (fun _ _ => True) column text tokens := by
  induction h with
  | nil => exact .nil
  | gap hgap hrest ih => exact .gap trivial ih
  | token hne hcolumn hrest ih => exact .token hne hcolumn ih

theorem bounds (h : Tiled Gap column text tokens) {token : Token} (hmem : token ∈ tokens) :
    column ≤ token.column.toNat ∧
      token.column.toNat + Text.unitCount token.text.toList ≤ column + Text.unitCount text := by
  induction h with
  | nil => cases hmem
  | gap hgap hrest ih =>
    have := ih hmem
    rw [Text.unitCount_cons]
    omega
  | token hne hcolumn hrest ih =>
    rw [Text.unitCount_append]
    rcases List.mem_cons.1 hmem with rfl | hmem
    · omega
    · have := ih hmem
      omega

theorem text_ne_nil (h : Tiled Gap column text tokens) {token : Token} (hmem : token ∈ tokens) :
    token.text.toList ≠ [] := by
  induction h with
  | nil => cases hmem
  | gap hgap hrest ih => exact ih hmem
  | token hne hcolumn hrest ih =>
    rcases List.mem_cons.1 hmem with rfl | hmem
    · exact hne
    · exact ih hmem

theorem length_le (h : Tiled Gap column text tokens) : tokens.length ≤ Text.unitCount text := by
  induction h with
  | nil => exact Nat.le_refl _
  | gap hgap hrest ih =>
    rw [Text.unitCount_cons]
    omega
  | token hne hcolumn hrest ih =>
    have := Text.unitCount_pos hne
    rw [Text.unitCount_append, List.length_cons]
    omega

theorem pairwise (h : Tiled Gap column text tokens) :
    tokens.Pairwise fun first second =>
      first.column.toNat + Text.unitCount first.text.toList ≤ second.column.toNat := by
  induction h with
  | nil => exact .nil
  | gap hgap hrest ih => exact ih
  | token hne hcolumn hrest ih =>
    refine List.pairwise_cons.2 ⟨?_, ih⟩
    intro second hmem
    have := (hrest.bounds hmem).1
    omega

theorem filter_covers_eq_nil (h : Tiled Gap column text tokens) {place : Nat}
    (hplace : place < column) : tokens.filter (·.covers place) = [] := by
  rw [List.filter_eq_nil_iff]
  intro token hmem
  have := (h.bounds hmem).1
  simp only [Token.covers, Bool.and_eq_true, decide_eq_true_eq]
  omega

theorem exists_append (h : Tiled Gap column text tokens) {token : Token} (hmem : token ∈ tokens) :
    ∃ front back, text = front ++ (token.text.toList ++ back) ∧
      token.column.toNat = column + Text.unitCount front := by
  induction h with
  | nil => cases hmem
  | @gap column c rest tokens hgap hrest ih =>
    obtain ⟨front, back, rfl, hcolumn⟩ := ih hmem
    refine ⟨c :: front, back, rfl, ?_⟩
    rw [hcolumn, Text.unitCount_cons, Nat.add_assoc]
  | @token column first rest tokens hne hcolumn hrest ih =>
    rcases List.mem_cons.1 hmem with rfl | hmem
    · exact ⟨[], rest, rfl, hcolumn⟩
    · obtain ⟨front, back, rfl, hplace⟩ := ih hmem
      refine ⟨first.text.toList ++ front, back, by rw [List.append_assoc], ?_⟩
      rw [hplace, Text.unitCount_append, Nat.add_assoc]

theorem covered (h : Tiled Gap column text tokens) {front rest : List Char} {c : Char}
    (htext : text = front ++ c :: rest) :
    (∃ token, tokens.filter (·.covers (column + Text.unitCount front)) = [token]) ∨
      (tokens.filter (·.covers (column + Text.unitCount front)) = [] ∧ Gap c rest) := by
  induction h generalizing front with
  | nil => simp at htext
  | @gap column d after tokens hgap hrest ih =>
    cases front with
    | nil =>
      obtain ⟨rfl, rfl⟩ := List.cons.inj htext
      have hpos := Text.units_pos d
      refine .inr ⟨hrest.filter_covers_eq_nil ?_, hgap⟩
      rw [Text.unitCount_nil]
      omega
    | cons e front =>
      obtain ⟨rfl, htail⟩ := List.cons.inj htext
      rw [Text.unitCount_cons, ← Nat.add_assoc]
      exact ih htail
  | @token column token after tokens hne hcolumn hrest ih =>
    have hafter (more : List Char) (hfront : front = token.text.toList ++ more)
        (htail : after = more ++ c :: rest) :
        (∃ found, (token :: tokens).filter (·.covers (column + Text.unitCount front)) = [found]) ∨
          ((token :: tokens).filter (·.covers (column + Text.unitCount front)) = [] ∧
            Gap c rest) := by
      have hnot : token.covers (column + Text.unitCount front) = false := by
        simp only [Token.covers, hfront, Text.unitCount_append, Bool.and_eq_false_iff,
          decide_eq_false_iff_not]
        omega
      rw [List.filter_cons, hnot, hfront, Text.unitCount_append, ← Nat.add_assoc]
      exact ih htail
    rcases List.append_eq_append_iff.1 htext with ⟨more, hfront, htail⟩ | ⟨more, hinside, htail⟩
    · exact hafter more hfront htail
    · cases more with
      | nil => exact hafter [] (by simpa using hinside.symm) htail.symm
      | cons d more =>
        have hpos := Text.units_pos d
        have hunits := congrArg Text.unitCount hinside
        rw [Text.unitCount_append, Text.unitCount_cons] at hunits
        have hcovers : token.covers (column + Text.unitCount front) = true := by
          simp only [Token.covers, Bool.and_eq_true, decide_eq_true_eq]
          omega
        refine .inl ⟨token, ?_⟩
        rw [List.filter_cons, hcovers, hrest.filter_covers_eq_nil (by omega)]
        rfl

end Tiled

end CirHighlight
