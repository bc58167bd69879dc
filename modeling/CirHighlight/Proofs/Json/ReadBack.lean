import Mathlib.Data.List.Forall2
import CirHighlight.Json.Printer
import CirHighlight.Json.Reader
import CirHighlight.Proofs.Text.Reader

namespace CirHighlight.Json

open Reader

def isBlank (c : Char) : Bool :=
  c = ' ' || c = '\t' || c = '\n' || c = '\r'

def Follows (rest : List Char) : Prop :=
  rest.head? = some ',' ∨ rest.head? = some '\n'

/-- A reader takes a value off its text, whatever follows. -/
structure Takes {α : Type} (p : Reader α) (text : List Char) (a : α) : Prop where
  starts : ∃ c, text.head? = some c ∧ isBlank c = false
  reads : ∀ rest, Follows rest → p (text ++ rest) = some (a, rest)

theorem Takes.starts_append {α : Type} {p : Reader α} {text : List Char} {a : α}
    (h : Takes p text a) (rest : List Char) :
    ∃ c, (text ++ rest).head? = some c ∧ isBlank c = false := by
  obtain ⟨c, hc, hblank⟩ := h.starts
  refine ⟨c, ?_, hblank⟩
  rw [List.head?_append, hc]
  rfl

theorem blanks_append {indent rest : List Char} (hindent : ∀ c ∈ indent, isBlank c = true)
    (hrest : ∃ c, rest.head? = some c ∧ isBlank c = false) :
    blanks (indent ++ rest) = some ((), rest) := by
  obtain ⟨c, hc, hnot⟩ := hrest
  cases rest with
  | nil => cases hc
  | cons d rest =>
    obtain rfl := Option.some.inj hc
    have hdrop : (indent ++ d :: rest).dropWhile isBlank = d :: rest := by
      rw [List.dropWhile_append_of_pos hindent, List.dropWhile_cons_of_neg (by simp [hnot])]
    exact congrArg (fun rest => some ((), rest)) hdrop

theorem blanks_newline {indent rest : List Char} (hindent : ∀ c ∈ indent, isBlank c = true)
    (hrest : ∃ c, rest.head? = some c ∧ isBlank c = false) :
    blanks ('\n' :: (indent ++ rest)) = some ((), rest) := by
  have hfeed : ∀ c ∈ '\n' :: indent, isBlank c = true := List.forall_mem_cons.2 ⟨rfl, hindent⟩
  have hblanks : blanks ('\n' :: indent ++ rest) = some ((), rest) := blanks_append hfeed hrest
  exact hblanks

theorem blanks_of_head? {rest : List Char}
    (hrest : ∃ c, rest.head? = some c ∧ isBlank c = false) :
    blanks rest = some ((), rest) := by
  have hnone : ∀ c ∈ ([] : List Char), isBlank c = true := nofun
  exact blanks_append hnone hrest

theorem quotedChar?_of_plain {c : Char} (hslash : c ≠ '\\') (hquote : c ≠ '"')
    (hge : ¬ c.toNat < 0x20) (rest : List Char) : quotedChar? (c :: rest) = some (c, rest) := by
  unfold quotedChar?
  split
  · next heq => exact (hslash (List.cons.inj heq).1).elim
  · next heq => exact (hslash (List.cons.inj heq).1).elim
  · next heq =>
    obtain ⟨rfl, rfl⟩ := List.cons.inj heq
    simp [hge, hquote, hslash]
  · next heq => cases heq

theorem unicodeEscape?_of_lt {c : Char} (hlt : c.toNat < 0x20) (rest : List Char) :
    unicodeEscape? ('0' :: '0' :: Text.lowerHexDigit (c.toNat / 16) ::
      Text.lowerHexDigit (c.toNat % 16) :: rest) = some (c, rest) := by
  have hzero : Text.hexValue? '0' = some 0 := rfl
  have hhigh := Text.hexValue?_lowerHexDigit (c.toNat / 16) (by omega)
  have hlow := Text.hexValue?_lowerHexDigit (c.toNat % 16) (by omega)
  have hvalue : c.toNat / 16 * 16 + c.toNat % 16 = c.toNat := by omega
  have hsmall : ¬ 0xD800 ≤ c.toNat ∧ ¬ 0xDC00 ≤ c.toNat := by omega
  simp [unicodeEscape?, hex4?, hzero, hhigh, hlow, hvalue, hsmall]

theorem quotedChar?_escape (c : Char) (rest : List Char) :
    quotedChar? (escape c ++ rest) = some (c, rest) := by
  unfold escape
  split
  · rfl
  · rfl
  · rfl
  · rfl
  · rfl
  · rfl
  · rfl
  · next hquote hslash _ _ _ _ _ =>
    split
    · next hlt => exact unicodeEscape?_of_lt hlt rest
    · next hge => exact quotedChar?_of_plain hslash hquote hge rest

theorem escape_ne_nil (c : Char) : escape c ≠ [] := by
  intro hnil
  have hreads := quotedChar?_escape c []
  rw [hnil] at hreads
  cases hreads

theorem repeats_escape (chars rest : List Char) :
    Repeats quotedChar? (chars.flatMap escape ++ '"' :: rest) chars ('"' :: rest) := by
  induction chars with
  | nil => exact .stop rfl
  | cons c chars ih =>
    rw [List.flatMap_cons, List.append_assoc]
    refine .step (quotedChar?_escape c _) ?_ ih
    have hpos := List.length_pos_iff.2 (escape_ne_nil c)
    simp only [List.length_append, List.length_cons]
    omega

theorem toList_quote (text : String) :
    (quote text).toList = '"' :: (text.toList.flatMap escape ++ ['"']) := by
  simp [quote]

theorem quoted_quote (text : String) (rest : List Char) :
    quoted ((quote text).toList ++ rest) = some (text, rest) := by
  have hchars := (repeats_escape text.toList rest).many_eq
  rw [toList_quote, List.cons_append, List.append_assoc, quoted, bind_of_eq (char_cons _ _),
    List.singleton_append, bind_of_eq hchars, bind_of_eq (char_cons _ _), String.ofList_toList]
  rfl

theorem Follows.head?_ne {rest : List Char} (h : Follows rest) {c : Char} (hcomma : c ≠ ',')
    (hfeed : c ≠ '\n') : rest.head? ≠ some c := by
  intro hc
  rcases h with h | h
  · exact hcomma (Option.some.inj (hc.symm.trans h))
  · exact hfeed (Option.some.inj (hc.symm.trans h))

theorem Follows.test_eq_false {rest : List Char} (h : Follows rest) {test : Char → Bool}
    (hcomma : test ',' = false) (hfeed : test '\n' = false) :
    ∀ c, rest.head? = some c → test c = false := by
  intro c hc
  rcases h with h | h
  · rw [← Option.some.inj (h.symm.trans hc), hcomma]
  · rw [← Option.some.inj (h.symm.trans hc), hfeed]

theorem fraction_of_follows {rest : List Char} (h : Follows rest) :
    fraction rest = some ([], rest) := by
  have hpoint := char_of_head?_ne (h.head?_ne (c := '.') (by decide) (by decide))
  have hpower : satisfy (fun c => c = 'e' || c = 'E') rest = none :=
    satisfy_of_head? (h.test_eq_false rfl rfl)
  rw [fraction, bind_of_eq (maybe_of_eq_none (bind_of_eq_none hpoint _)),
    bind_of_eq (maybe_of_eq_none (bind_of_eq_none hpower _))]
  rfl

theorem wholeDigits_toDigits (n : Nat) {rest : List Char} (h : Follows rest) :
    wholeDigits (Nat.toDigits 10 n ++ rest) = some (Nat.toDigits 10 n, rest) := by
  have hdigits : takeWhile1 Char.isDigit (Nat.toDigits 10 n ++ rest) =
      some (Nat.toDigits 10 n, rest) :=
    takeWhile1_append Nat.toDigits_ne_nil
      (fun c hc => Nat.isDigit_of_mem_toDigits (by decide) (by decide) hc)
      (h.test_eq_false rfl rfl)
  rw [wholeDigits, bind_of_eq hdigits, if_neg]
  · rfl
  · by_cases hn : n = 0
    · rw [hn]
      decide
    · simp [Text.head?_toDigits_ne hn]

theorem number_toDigits (word : UInt32) {rest : List Char} (h : Follows rest) :
    number (Nat.toDigits 10 word.toNat ++ rest) = some (.ofWord word, rest) := by
  have hminus : char '-' (Nat.toDigits 10 word.toNat ++ rest) = none := by
    apply char_of_head?_ne
    intro hhead
    rw [List.head?_append_of_ne_nil _ Nat.toDigits_ne_nil] at hhead
    have hdigit := Nat.isDigit_of_mem_toDigits (by decide) (by decide) (List.mem_of_head? hhead)
    cases hdigit
  have hvalue : Number.isUnsigned64 (word.toNat : Int) = true := by
    have hlt := word.toNat_lt
    rw [Number.isUnsigned64, Bool.and_eq_true, decide_eq_true_iff, decide_eq_true_iff]
    omega
  rw [number, bind_of_eq (maybe_of_eq_none hminus),
    bind_of_eq (wholeDigits_toDigits word.toNat h), bind_of_eq (fraction_of_follows h),
    Text.decimalValue_toDigits]
  simp only [List.isEmpty_nil, hvalue, if_true]
  rfl

/-- A value is read back from what is printed, so many levels deep. -/
def ReadsBack (depth : Nat) (json : Json) : Prop :=
  ∀ indent : String, (∀ c ∈ indent.toList, isBlank c = true) →
    Takes (valueUpTo depth) (prettyFrom indent json).toList json

section Scalar

variable {text : List Char} {c : Char} (hhead : text.head? = some c)
include hhead

theorem named_of_head? {word : String} (hword : word.toList.head? ≠ some c)
    (hne : word.toList ≠ []) (json : Json) : named word json text = none := by
  apply bind_of_eq_none
  apply if_neg
  intro hprefix
  obtain ⟨rest, rfl⟩ := List.isPrefixOf_iff_prefix.1 hprefix
  rw [List.head?_append_of_ne_nil _ hne] at hhead
  exact hword hhead

theorem valueUpTo_of_head? (harray : c ≠ '[') (hobject : c ≠ '\x7b') (depth : Nat) :
    valueUpTo depth text = valueUpTo 0 text := by
  cases depth with
  | zero => rfl
  | succ depth =>
    have hpeek : peek? text = some (some c, text) := by rw [← hhead]; rfl
    conv_lhs => rw [valueUpTo, bind_of_eq hpeek]
    refine congrFun ?_ text
    split
    · next h => exact (harray (Option.some.inj h)).elim
    · next h => exact (hobject (Option.some.inj h)).elim
    · rfl

theorem valueUpTo_zero_of_head? (hnull : c ≠ 'n') (htrue : c ≠ 't') (hfalse : c ≠ 'f') :
    valueUpTo 0 text = ((.string <$> quoted) <|> number : Reader Json) text := by
  have hfirst {word : String} {d : Char} (hword : word.toList.head? = some d) (hne : c ≠ d)
      (json : Json) : named word json text = none := by
    apply named_of_head? hhead
    · rw [hword]
      exact fun heq => hne (Option.some.inj heq).symm
    · intro hnil
      rw [hnil] at hword
      cases hword
  rw [valueUpTo, orElse_of_eq_none (hfirst rfl hnull _), orElse_of_eq_none (hfirst rfl htrue _),
    orElse_of_eq_none (hfirst rfl hfalse _)]

end Scalar

theorem readsBack_string (depth : Nat) (text : String) : ReadsBack depth (.string text) := by
  intro indent _
  have hprinted : (prettyFrom indent (.string text)).toList = (quote text).toList := by
    rw [prettyFrom]
    · rfl
    · exact nofun
    · exact nofun
  have hstart : (quote text).toList.head? = some '"' := by rw [toList_quote, List.head?_cons]
  rw [hprinted]
  refine ⟨⟨'"', hstart, rfl⟩, ?_⟩
  intro rest _
  have hhead : ((quote text).toList ++ rest).head? = some '"' := by
    rw [List.head?_append, hstart]
    rfl
  rw [valueUpTo_of_head? hhead (by decide) (by decide),
    valueUpTo_zero_of_head? hhead (by decide) (by decide) (by decide),
    orElse_of_eq (map_of_eq (quoted_quote text rest) Json.string)]

theorem readsBack_ofWord (depth : Nat) (word : UInt32) : ReadsBack depth (.ofWord word) := by
  intro indent _
  have hprinted : (prettyFrom indent (.ofWord word)).toList = Nat.toDigits 10 word.toNat := by
    rw [ofWord, prettyFrom]
    · exact Nat.toList_repr
    · exact nofun
    · exact nofun
  obtain ⟨c, more, hdigits⟩ := List.exists_cons_of_ne_nil
    (Nat.toDigits_ne_nil (n := word.toNat) (b := 10))
  have hdigit : c.isDigit = true := by
    apply Nat.isDigit_of_mem_toDigits (b := 10) (n := word.toNat) (by decide) (by decide)
    rw [hdigits]
    exact List.mem_cons_self
  have hne {d : Char} (hd : d.isDigit = false) : c ≠ d := by
    rintro rfl
    cases hdigit.symm.trans hd
  rw [hprinted]
  constructor
  · refine ⟨c, by rw [hdigits, List.head?_cons], ?_⟩
    simp [isBlank, hne (d := ' ') rfl, hne (d := '\t') rfl, hne (d := '\n') rfl,
      hne (d := '\r') rfl]
  · intro rest hrest
    have hhead : (Nat.toDigits 10 word.toNat ++ rest).head? = some c := by
      rw [hdigits, List.cons_append, List.head?_cons]
    have hquoted : quoted (Nat.toDigits 10 word.toNat ++ rest) = none := by
      apply bind_of_eq_none
      apply char_of_head?_ne
      rw [hhead]
      exact fun heq => hne rfl (Option.some.inj heq)
    rw [valueUpTo_of_head? hhead (hne rfl) (hne rfl),
      valueUpTo_zero_of_head? hhead (hne rfl) (hne rfl) (hne rfl),
      orElse_of_eq_none (map_of_eq_none hquoted _), number_toDigits word hrest]

/-- What is printed after an item of an array or object: the other items and the bracket. -/
def tail (indent inner : List Char) (close : Char) : List (List Char) → List Char
  | [] => '\n' :: (indent ++ [close])
  | item :: more => ',' :: '\n' :: (inner ++ (item ++ tail indent inner close more))

theorem intercalate_append_tail (indent inner : List Char) (close : Char) (first : List Char)
    (items : List (List Char)) :
    [',', '\n'].intercalate ((first :: items).map (inner ++ ·)) ++ '\n' :: (indent ++ [close]) =
      inner ++ (first ++ tail indent inner close items) := by
  induction items generalizing first with
  | nil => simp [tail]
  | cons second items ih =>
    rw [List.map_cons, List.map_cons, List.intercalate_cons_cons, ← List.map_cons,
      List.append_assoc, ih, tail]
    simp

theorem toList_block {indent opening closing : String} {close : Char}
    (hclosing : closing.toList = [close]) (first : String) (items : List String) :
    (block indent opening closing (first :: items)).toList =
      opening.toList ++ '\n' :: ((indent ++ "  ").toList ++ (first.toList ++
        tail indent.toList (indent ++ "  ").toList close (items.map String.toList))) := by
  rw [block, if_neg (by simp)]
  generalize indent ++ "  " = inner
  have hitems : ((first :: items).map (inner ++ ·)).map String.toList =
      (first.toList :: items.map String.toList).map (inner.toList ++ ·) := by
    simp
  have hcommas : ",\n".toList = [',', '\n'] := rfl
  have hfeed : "\n".toList = ['\n'] := rfl
  rw [← intercalate_append_tail, ← hitems]
  simp only [String.toList_append, String.toList_intercalate, hcommas, hfeed, hclosing,
    List.append_assoc, List.nil_append, List.cons_append]

/-- What is left of that when blanks are left out. -/
def trimmed (indent inner : List Char) (close : Char) : List (List Char) → List Char
  | [] => [close]
  | item :: more => tail indent inner close (item :: more)

section Items

variable {α : Type} {item : Reader α} {indent inner : List Char} {close : Char}
  (hindent : ∀ c ∈ indent, isBlank c = true) (hinner : ∀ c ∈ inner, isBlank c = true)
  (hclose : isBlank close = false)

theorem follows_tail (texts : List (List Char)) (rest : List Char) :
    Follows (tail indent inner close texts ++ rest) := by
  cases texts with
  | nil => exact .inr rfl
  | cons text texts => exact .inl rfl

theorem length_trimmed_le (texts : List (List Char)) :
    (trimmed indent inner close texts).length ≤ (tail indent inner close texts).length := by
  cases texts with
  | nil => simp [trimmed, tail]
  | cons text texts => exact Nat.le_refl _

include hindent hclose in
theorem blanks_tail (texts : List (List Char)) (rest : List Char) :
    blanks (tail indent inner close texts ++ rest) =
      some ((), trimmed indent inner close texts ++ rest) := by
  cases texts with
  | nil =>
    rw [tail, trimmed, List.cons_append, List.append_assoc]
    exact blanks_newline hindent ⟨close, rfl, hclose⟩
  | cons text texts => exact blanks_of_head? ⟨',', rfl, rfl⟩

include hindent hclose in
theorem item_blanks {text : List Char} {a : α} (h : Takes item text a) (texts : List (List Char))
    (rest : List Char) :
    (do let a ← item; blanks; return a : Reader α)
        (text ++ (tail indent inner close texts ++ rest)) =
      some (a, trimmed indent inner close texts ++ rest) := by
  rw [bind_of_eq (h.reads _ (follows_tail texts rest)),
    bind_of_eq (blanks_tail hindent hclose texts rest)]
  rfl

include hinner in
theorem blanks_inner {text : List Char} {a : α} (h : Takes item text a) (rest : List Char) :
    blanks ('\n' :: (inner ++ (text ++ rest))) = some ((), text ++ rest) :=
  blanks_newline hinner (h.starts_append rest)

include hindent hinner hclose in
theorem repeats_items (hcomma : close ≠ ',') {texts : List (List Char)} {items : List α}
    (h : List.Forall₂ (Takes item) texts items) (rest : List Char) :
    Repeats (do (do char ','; blanks); (do let a ← item; blanks; return a))
      (trimmed indent inner close texts ++ rest) items (close :: rest) := by
  induction h with
  | nil =>
    apply Repeats.stop
    apply bind_of_eq_none
    apply bind_of_eq_none
    apply char_of_head?_ne
    exact fun heq => hcomma (Option.some.inj heq)
  | @cons text a texts items htakes _ ih =>
    refine .step ?_ ?_ ih
    · have hcommas : (do char ','; blanks : Reader Unit)
          (trimmed indent inner close (text :: texts) ++ rest) =
            some ((), text ++ (tail indent inner close texts ++ rest)) := by
        simp only [trimmed, tail, List.cons_append, List.append_assoc]
        rw [bind_of_eq (char_cons _ _), blanks_inner hinner htakes]
      rw [bind_of_eq hcommas, item_blanks hindent hclose htakes]
    · have hle : (trimmed indent inner close texts).length ≤ _ := length_trimmed_le texts
      simp only [trimmed, tail, List.length_append, List.length_cons] at hle ⊢
      omega

include hindent hinner hclose in
theorem itemsUntil_cons (hcomma : close ≠ ',') {text : List Char} {texts : List (List Char)}
    {a : α} {items : List α} (hfirst : Takes item text a)
    (hmore : List.Forall₂ (Takes item) texts items) (rest : List Char) :
    itemsUntil close item ('\n' :: (inner ++ (text ++ (tail indent inner close texts ++ rest)))) =
      some (a :: items, rest) := by
  have hitems := (repeats_items hindent hinner hclose hcomma hmore rest).many_eq
  have hall : sepBy1 (do let a ← item; blanks; return a) (do char ','; blanks)
      (text ++ (tail indent inner close texts ++ rest)) = some (a :: items, close :: rest) := by
    rw [sepBy1, bind_of_eq (item_blanks hindent hclose hfirst texts rest), bind_of_eq hitems]
    rfl
  rw [itemsUntil, bind_of_eq (blanks_inner hinner hfirst _), bind_of_eq (maybe_of_eq hall),
    bind_of_eq (char_cons _ _)]
  rfl

include hclose in
theorem itemsUntil_nil (hempty : ∀ rest, item (close :: rest) = none) (rest : List Char) :
    itemsUntil close item (close :: rest) = some ([], rest) := by
  have hblanks : blanks (close :: rest) = some ((), close :: rest) :=
    blanks_of_head? ⟨close, rfl, hclose⟩
  have hall : sepBy1 (do let a ← item; blanks; return a) (do char ','; blanks)
      (close :: rest) = none :=
    bind_of_eq_none (bind_of_eq_none (hempty rest) _) _
  rw [itemsUntil, bind_of_eq hblanks, bind_of_eq (maybe_of_eq_none hall),
    bind_of_eq (char_cons _ _)]
  rfl

end Items

theorem quoted_of_head? {text : List Char} (h : text.head? ≠ some '"') : quoted text = none :=
  bind_of_eq_none (char_of_head?_ne h) _

theorem number_bracket (rest : List Char) : number (']' :: rest) = none := by
  have hminus : char '-' (']' :: rest) = none := char_of_head?_ne (by simp)
  have hdigits : wholeDigits (']' :: rest) = none := rfl
  rw [number, bind_of_eq (maybe_of_eq_none hminus), bind_of_eq_none hdigits]

theorem valueUpTo_bracket (depth : Nat) (rest : List Char) :
    valueUpTo depth (']' :: rest) = none := by
  have hhead : (']' :: rest).head? = some ']' := rfl
  have hquoted : quoted (']' :: rest) = none := quoted_of_head? (by simp)
  rw [valueUpTo_of_head? hhead (by decide) (by decide),
    valueUpTo_zero_of_head? hhead (by decide) (by decide) (by decide),
    orElse_of_eq_none (map_of_eq_none hquoted _), number_bracket]

theorem valueUpTo_array (depth : Nat) {text rest : List Char} {items : List Json}
    (h : itemsUntil ']' (valueUpTo depth) text = some (items, rest)) :
    valueUpTo (depth + 1) ('[' :: text) = some (.array items, rest) := by
  have hpeek : peek? ('[' :: text) = some (some '[', '[' :: text) := rfl
  rw [valueUpTo, bind_of_eq hpeek]
  change (do char '['; return .array (← itemsUntil ']' (valueUpTo depth)) : Reader Json) _ = _
  rw [bind_of_eq (char_cons _ _), bind_of_eq h]
  rfl

def field (depth : Nat) : Reader (String × Json) := do
  let name ← quoted
  blanks
  char ':'
  blanks
  return (name, ← valueUpTo depth)

theorem valueUpTo_object (depth : Nat) {text rest : List Char} {fields : List (String × Json)}
    (h : itemsUntil '\x7d' (field depth) text = some (fields, rest)) :
    valueUpTo (depth + 1) ('\x7b' :: text) = some (.object fields, rest) := by
  have hpeek : peek? ('\x7b' :: text) = some (some '\x7b', '\x7b' :: text) := rfl
  rw [valueUpTo, bind_of_eq hpeek]
  change (do char '\x7b'; return .object (← itemsUntil '\x7d' (field depth)) : Reader Json) _ = _
  rw [bind_of_eq (char_cons _ _), bind_of_eq h]
  rfl

theorem takes_field {depth : Nat} {indent name : String} {json : Json}
    (h : Takes (valueUpTo depth) (prettyFrom indent json).toList json) :
    Takes (field depth) (quote name ++ ": " ++ prettyFrom indent json).toList (name, json) := by
  have htext : (quote name ++ ": " ++ prettyFrom indent json).toList =
      (quote name).toList ++ (':' :: ' ' :: (prettyFrom indent json).toList) := by
    simp
  rw [htext]
  refine ⟨⟨'"', by rw [toList_quote, List.cons_append, List.head?_cons], rfl⟩, ?_⟩
  intro rest hrest
  have hcolon (more : List Char) : blanks (':' :: more) = some ((), ':' :: more) :=
    blanks_of_head? ⟨':', rfl, rfl⟩
  have hspace : blanks (' ' :: ((prettyFrom indent json).toList ++ rest)) =
      some ((), (prettyFrom indent json).toList ++ rest) := by
    have hone : ∀ c ∈ [' '], isBlank c = true := List.forall_mem_singleton.2 rfl
    have hblanks := blanks_append hone (h.starts_append rest)
    exact hblanks
  rw [List.append_assoc, field, bind_of_eq (quoted_quote name _), List.cons_append,
    bind_of_eq (hcolon _), bind_of_eq (char_cons _ _), List.cons_append, bind_of_eq hspace,
    bind_of_eq (h.reads rest hrest)]
  rfl

theorem prettyItems_eq_map (indent : String) (items : List Json) :
    prettyItems indent items = items.map (prettyFrom indent) := by
  induction items with
  | nil => rfl
  | cons item items ih => rw [prettyItems, ih, List.map_cons]

theorem prettyFields_eq_map (indent : String) (fields : List (String × Json)) :
    prettyFields indent fields =
      fields.map fun field => quote field.1 ++ ": " ++ prettyFrom indent field.2 := by
  induction fields with
  | nil => rfl
  | cons field fields ih => rw [prettyFields, ih, List.map_cons]

theorem isBlank_inner {indent : String} (h : ∀ c ∈ indent.toList, isBlank c = true) :
    ∀ c ∈ (indent ++ "  ").toList, isBlank c = true := by
  intro c hc
  rw [String.toList_append, List.mem_append] at hc
  rcases hc with hc | hc
  · exact h c hc
  · have hspaces : "  ".toList = List.replicate 2 ' ' := rfl
    rw [hspaces] at hc
    rw [List.eq_of_mem_replicate hc]
    rfl

theorem exists_toList_block {α : Type} {item : Reader α} {indent opening closing : String}
    {bracket close : Char} (hopening : opening.toList = [bracket])
    (hclosing : closing.toList = [close])
    (hindent : ∀ c ∈ indent.toList, isBlank c = true) (hclose : isBlank close = false)
    (hcomma : close ≠ ',') (hempty : ∀ rest, item (close :: rest) = none) {texts : List String}
    {items : List α} (h : List.Forall₂ (fun text => Takes item text.toList) texts items) :
    ∃ body, (block indent opening closing texts).toList = bracket :: body ∧
      ∀ rest, itemsUntil close item (body ++ rest) = some (items, rest) := by
  cases h with
  | nil =>
    refine ⟨[close], ?_, itemsUntil_nil hclose hempty⟩
    simp [block, hopening, hclosing]
  | @cons text a texts items hfirst hmore =>
    have htexts : List.Forall₂ (Takes item) (texts.map String.toList) items :=
      List.forall₂_map_left_iff.2 hmore
    have hread := itemsUntil_cons hindent (isBlank_inner hindent) hclose hcomma hfirst htexts
    rw [toList_block hclosing, hopening, List.singleton_append]
    refine ⟨_, rfl, ?_⟩
    intro rest
    rw [List.cons_append, List.append_assoc, List.append_assoc]
    exact hread rest

theorem ReadsBack.array {depth : Nat} {items : List Json}
    (h : ∀ item ∈ items, ReadsBack depth item) : ReadsBack (depth + 1) (.array items) := by
  intro indent hindent
  have hitems : List.Forall₂ (fun text => Takes (valueUpTo depth) text.toList)
      (items.map (prettyFrom (indent ++ "  "))) items := by
    rw [List.forall₂_map_left_iff, List.forall₂_same]
    intro item hmem
    exact h item hmem _ (isBlank_inner hindent)
  have hopening : "[".toList = ['['] := rfl
  have hclosing : "]".toList = [']'] := rfl
  obtain ⟨body, hprinted, hread⟩ := exists_toList_block hopening hclosing hindent (by decide)
    (by decide) (valueUpTo_bracket depth) hitems
  rw [prettyFrom, prettyItems_eq_map, hprinted]
  refine ⟨⟨'[', rfl, rfl⟩, ?_⟩
  intro rest _
  exact valueUpTo_array depth (hread rest)

theorem ReadsBack.object {depth : Nat} {fields : List (String × Json)}
    (h : ∀ field ∈ fields, ReadsBack depth field.2) : ReadsBack (depth + 1) (.object fields) := by
  intro indent hindent
  have hfields : List.Forall₂ (fun text => Takes (field depth) text.toList)
      (fields.map fun field => quote field.1 ++ ": " ++ prettyFrom (indent ++ "  ") field.2)
      fields := by
    rw [List.forall₂_map_left_iff, List.forall₂_same]
    intro field hmem
    exact takes_field (h field hmem _ (isBlank_inner hindent))
  have hopening : "\x7b".toList = ['\x7b'] := rfl
  have hclosing : "\x7d".toList = ['\x7d'] := rfl
  have hempty (rest : List Char) : field depth ('\x7d' :: rest) = none :=
    bind_of_eq_none (quoted_of_head? (by simp)) _
  obtain ⟨body, hprinted, hread⟩ := exists_toList_block hopening hclosing hindent (by decide)
    (by decide) hempty hfields
  rw [prettyFrom, prettyFields_eq_map, hprinted]
  refine ⟨⟨'\x7b', rfl, rfl⟩, ?_⟩
  intro rest _
  exact valueUpTo_object depth (hread rest)

theorem ReadsBack.read?_pretty {json : Json} (h : ReadsBack 127 json) :
    read? (pretty json ++ "\n") = some json := by
  have htakes : Takes (valueUpTo 127) (pretty json).toList json := h "" nofun
  have hread := htakes.reads ['\n'] (.inr rfl)
  have hstart := blanks_of_head? (htakes.starts_append ['\n'])
  have hend : blanks ['\n'] = some ((), []) := rfl
  have htext : (pretty json ++ "\n").toList = (pretty json).toList ++ ['\n'] :=
    String.toList_append
  rw [read?, run?, htext, bind_of_eq hstart, bind_of_eq hread, bind_of_eq hend]
  rfl

end CirHighlight.Json
