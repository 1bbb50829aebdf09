import Mathlib.Data.List.TakeWhile
import Schemata.Json.Read
import Schemata.Proofs.Number.Text
import Schemata.Proofs.Text.Readable

/-!
# Lexemes of written values

The text of a value is cut into the lexemes that it was written with.  A string is one lexeme, whose
units stand for the characters of the string.  A number ends where its text ends, if what follows
cannot be taken for a part of it; in the text of a value that is a comma or a closing bracket.

## Main definitions

* `Json.quotedLexeme`, `Json.wholeLexeme` : the lexemes of strings and of integers.
* `Json.EndsNumber` : what may follow a number.
* `Json.IsNumeral` : a text that is a number and nothing else.

## Main results

* `Json.lex_quoted`, `Json.IsNumeral.lex_append` : strings and numbers in front of other text.
* `Json.text_quotedLexeme`, `Json.value_wholeLexeme` : what these lexemes stand for.
* `Json.exists_isNumeral` : a text that is read as a floating-point number is a numeral.
-/

namespace Schemata.Json

open Quoted

/-! ### Strings -/

/-- The unit that a character is written as. -/
def unitOf (c : Char) : StringUnit :=
  if c.toNat < 32 ∧ c ∉ ['\x08', '\x09', '\x0a', '\x0c', '\x0d'] then .code c.toNat else .char c

/-- The lexeme of a quoted text. -/
def quotedLexeme (text : String) : StringLexeme :=
  ⟨text.toList.map unitOf, none⟩

theorem toOption_hexCode_hex4 : ∀ n < 32, (hexCode (hex4 n)).toOption = some n := by
  decide

theorem hexCode_hex4 {n : Nat} (small : n < 32) : hexCode (hex4 n) = .ok n := by
  have read := toOption_hexCode_hex4 n small
  cases coded : hexCode (hex4 n) with
  | error fault =>
    rw [coded] at read
    cases read
  | ok m =>
    rw [coded] at read
    exact congrArg Except.ok (Option.some.inj read)

theorem lexString_escape (c : Char) (rest : List Char) :
    lexString (escape c ++ rest)
      = ((lexString rest).1.cons (unitOf c), (lexString rest).2) := by
  unfold escape
  split
  -- First the characters that a backslash and a letter stand for.
  · rfl
  · rfl
  · rfl
  · rfl
  · rfl
  · rfl
  · rfl
  · rename_i quote backslash b t n f r
    have plain : c ∉ ['\x08', '\x09', '\x0a', '\x0c', '\x0d'] := by simp_all
    split
    · rename_i small
      have code := hexCode_hex4 small
      rw [unitOf, if_pos ⟨small, plain⟩]
      rw [hex4] at code ⊢
      simp only [List.cons_append, List.nil_append, lexString, code]
    · rename_i large
      rw [unitOf, if_neg fun h => large h.1, List.singleton_append, lexString, if_neg large]
      · exact quote
      · exact fun same _ => backslash same
      · exact fun _ _ _ _ _ same _ => backslash same
      · exact fun _ _ same _ => backslash same

/-- A quoted text is one string lexeme. -/
theorem lexString_quoted (text rest : List Char) :
    lexString (text.flatMap escape ++ '"' :: rest) = (⟨text.map unitOf, none⟩, rest) := by
  induction text with
  | nil => simp [lexString]
  | cons c text ih =>
    rw [List.flatMap_cons, List.append_assoc, lexString_escape, ih]
    rfl

theorem decodeUnits_cons (c : Char) (units : List StringUnit) (fault : Option Refusal) :
    decodeUnits (unitOf c :: units) fault = (c :: ·) <$> decodeUnits units fault := by
  unfold unitOf
  split
  · rename_i small
    have trail : isTrail c.toNat = false := by
      simp only [isTrail, Bool.and_eq_false_iff, decide_eq_false_iff_not]
      omega
    have lead : isLead c.toNat = false := by
      simp only [isLead, Bool.and_eq_false_iff, decide_eq_false_iff_not]
      omega
    rw [decodeUnits.eq_def]
    dsimp only
    rw [trail, lead, Char.ofNat_toNat]
    rfl
  · rfl

@[simp] theorem text_quotedLexeme (text : String) : (quotedLexeme text).text = .ok text := by
  have decoded : ∀ chars : List Char, decodeUnits (chars.map unitOf) none = .ok chars := by
    intro chars
    induction chars with
    | nil => rfl
    | cons c chars ih =>
      rw [List.map_cons, decodeUnits_cons, ih]
      rfl
  rw [StringLexeme.text, quotedLexeme, decoded]
  exact congrArg Except.ok (String.ofList_toList)

/-! ### Numbers and what follows them -/

/-- What may follow a number without being taken for a part of it. -/
def EndsNumber (rest : List Char) : Prop :=
  ∀ c ∈ rest.head?, c.isDigit = false ∧ c ≠ '.' ∧ c ≠ 'e' ∧ c ≠ 'E'

theorem endsNumber_nil : EndsNumber [] := by
  rintro c ⟨⟩

theorem endsNumber_cons {c : Char} (closes : c ∈ [',', ']', '}']) (rest : List Char) :
    EndsNumber (c :: rest) := by
  rintro _ ⟨⟩
  simp only [List.mem_cons, List.not_mem_nil, or_false] at closes
  rcases closes with rfl | rfl | rfl <;> decide

section Follow

variable {n n' : NumberLexeme} {text rest : List Char} (ends : EndsNumber rest)

include ends

theorem takeWhile_isDigit_append :
    (text ++ rest).takeWhile Char.isDigit = text.takeWhile Char.isDigit := by
  induction text with
  | nil =>
    cases rest with
    | nil => rfl
    | cons c rest => simp [(ends c rfl).1]
  | cons c text ih => rw [List.cons_append, List.takeWhile_cons, List.takeWhile_cons, ih]

theorem dropWhile_isDigit_append :
    (text ++ rest).dropWhile Char.isDigit = text.dropWhile Char.isDigit ++ rest := by
  induction text with
  | nil =>
    cases rest with
    | nil => rfl
    | cons c rest => simp [(ends c rfl).1]
  | cons c text ih =>
    rw [List.cons_append, List.dropWhile_cons, List.dropWhile_cons, ih]
    split <;> rfl

omit ends in
theorem lexSign_append (filled : text ≠ []) :
    lexSign (text ++ rest) = ((lexSign text).1, (lexSign text).2 ++ rest) := by
  cases text with
  | nil => exact absurd rfl filled
  | cons c text =>
    unfold lexSign
    split <;> simp_all

theorem lexExponent_append (read : lexExponent n text = (n', [])) (whole : n'.fault = none) :
    lexExponent n (text ++ rest) = (n', rest) := by
  cases text with
  | nil =>
    cases read
    cases rest with
    | nil => rfl
    | cons c rest =>
      obtain ⟨-, -, e, e'⟩ := ends c rfl
      rw [List.nil_append, lexExponent, if_neg (by simp [e, e'])]
  | cons c text =>
    rw [lexExponent] at read
    rw [List.cons_append, lexExponent]
    split at read
    · rename_i mark
      dsimp only at read
      split at read
      · obtain ⟨rfl, -⟩ := Prod.mk.inj read
        cases whole
      · rename_i digits
        obtain ⟨rfl, left⟩ := Prod.mk.inj read
        have filled : text ≠ [] := by
          rintro rfl
          exact digits rfl
        rw [if_pos mark, lexSign_append filled]
        dsimp only
        rw [takeWhile_isDigit_append ends, if_neg digits, dropWhile_isDigit_append ends, left]
        rfl
    · cases read

theorem lexFraction_append (read : lexFraction n text = (n', [])) (whole : n'.fault = none) :
    lexFraction n (text ++ rest) = (n', rest) := by
  by_cases point : ∃ digits, text = '.' :: digits
  · obtain ⟨digits, rfl⟩ := point
    rw [lexFraction] at read
    rw [List.cons_append, lexFraction, takeWhile_isDigit_append ends,
      dropWhile_isDigit_append ends]
    split at read
    · obtain ⟨rfl, -⟩ := Prod.mk.inj read
      cases whole
    · rename_i filled
      rw [if_neg filled]
      exact lexExponent_append ends read whole
  · have plain : ∀ digits, text ++ rest ≠ '.' :: digits := by
      rintro digits same
      cases text with
      | nil => exact (ends '.' (by rw [← List.nil_append rest, same]; rfl)).2.1 rfl
      | cons c text => exact point ⟨text, by rw [(List.cons.inj same).1]⟩
    rw [lexFraction] at read
    rw [lexFraction]
    · exact lexExponent_append ends read whole
    · exact plain
    · exact fun digits same => point ⟨digits, same⟩

/-- A number ends where its text ends, if nothing follows that could be a part of it. -/
theorem lexNumber_append {negative : Bool} (read : lexNumber negative text = (n, []))
    (whole : n.fault = none) : lexNumber negative (text ++ rest) = (n, rest) := by
  unfold lexNumber at read ⊢
  rw [takeWhile_isDigit_append ends, dropWhile_isDigit_append ends]
  dsimp only at read ⊢
  split at read
  · obtain ⟨rfl, -⟩ := Prod.mk.inj read
    cases whole
  · obtain ⟨rfl, -⟩ := Prod.mk.inj read
    cases whole
  · exact lexFraction_append ends read whole

end Follow

/-! ### Integers -/

/-- The lexeme of an integer. -/
def wholeLexeme (n : Int) : NumberLexeme :=
  ⟨decide (n < 0), Nat.toDigits 10 n.natAbs, [], none, none⟩

theorem head_toDigits {n : Nat} (positive : 0 < n) : (Nat.toDigits 10 n).head? ≠ some '0' := by
  induction n using Nat.strongRecOn with
  | _ n ih =>
    rw [Nat.toDigits_eq_if (by decide)]
    split
    · rename_i small
      have digits : ∀ d < 10, 0 < d → some (Nat.digitChar d) ≠ some '0' := by decide
      exact digits n small positive
    · rw [List.head?_append_of_ne_nil _ Nat.toDigits_ne_nil]
      exact ih (n / 10) (by omega) (by omega)

theorem toDigits_ne_zero_cons (n : Nat) (c : Char) (rest : List Char) :
    Nat.toDigits 10 n ≠ '0' :: c :: rest := by
  intro same
  rcases Nat.eq_zero_or_pos n with rfl | positive
  · cases same
  · exact head_toDigits positive (by rw [same]; rfl)

theorem lexNumber_toDigits (negative : Bool) (n : Nat) :
    lexNumber negative (Nat.toDigits 10 n)
      = (⟨negative, Nat.toDigits 10 n, [], none, none⟩, []) := by
  have all : ∀ c ∈ Nat.toDigits 10 n, c.isDigit := fun _ member =>
    Nat.isDigit_of_mem_toDigits (by decide) (by decide) member
  have taken : (Nat.toDigits 10 n).takeWhile Char.isDigit = Nat.toDigits 10 n :=
    List.takeWhile_eq_self_iff.mpr all
  have left : (Nat.toDigits 10 n).dropWhile Char.isDigit = [] :=
    List.dropWhile_eq_nil_iff.mpr all
  unfold lexNumber
  rw [taken, left]
  dsimp only
  split
  · rename_i empty
    exact absurd empty Nat.toDigits_ne_nil
  · rename_i c more zero
    exact absurd zero (toDigits_ne_zero_cons n c more)
  · rfl

theorem takeDigits_append {a b : Nat} {digits : List Char} (taken : takeDigits a digits = (b, []))
    (more : List Char) : takeDigits a (digits ++ more) = takeDigits b more := by
  induction digits generalizing a with
  | nil =>
    cases taken
    rfl
  | cons c digits ih =>
    rw [List.cons_append, takeDigits]
    rw [takeDigits] at taken
    split at taken
    · rename_i fits
      rw [if_pos fits]
      exact ih taken
    · cases taken

theorem takeDigits_digitChar {a d : Nat} (small : d < 10) (fits : 10 * a + d ≤ maxSignificand)
    (rest : List Char) :
    takeDigits a (Nat.digitChar d :: rest) = takeDigits (10 * a + d) rest := by
  have digit : ∀ d < 10, (Nat.digitChar d).toNat - '0'.toNat = d := by decide
  rw [takeDigits, digit d small, if_pos fits]

/-- Digits stand for the number that they were made from. -/
theorem takeDigits_toDigits {n : Nat} (fits : n ≤ maxSignificand) :
    takeDigits 0 (Nat.toDigits 10 n) = (n, []) := by
  induction n using Nat.strongRecOn with
  | _ n ih =>
    rw [Nat.toDigits_eq_if (by decide)]
    split
    · rename_i small
      rw [takeDigits_digitChar small (by omega), takeDigits, Nat.mul_zero, Nat.zero_add]
    · have before := ih (n / 10) (by omega) (by omega)
      have whole : 10 * (n / 10) + n % 10 = n := by omega
      rw [takeDigits_append before, takeDigits_digitChar (Nat.mod_lt _ (by decide)) (by omega),
        takeDigits, whole]

/-- Is the integer one of sixty-four bits, with or without a sign? -/
def isWord (n : Int) : Bool :=
  -(Nat.pow 2 63 : Int) ≤ n && n ≤ maxSignificand

theorem value_wholeLexeme {n : Int} (word : isWord n) : (wholeLexeme n).value = .ok (.int n) := by
  simp only [isWord, Bool.and_eq_true, decide_eq_true_eq] at word
  have half : Nat.pow 2 63 ≤ maxSignificand := by decide
  unfold NumberLexeme.value wholeLexeme
  dsimp only
  rw [takeDigits_toDigits (by omega)]
  by_cases negative : n < 0
  · have large : ¬ (n.natAbs = 0 ∨ Nat.pow 2 63 < n.natAbs) := by omega
    have same : -(n.natAbs : Int) = n := by omega
    simp only [List.isEmpty_nil, Option.isNone_none, Bool.and_self, if_true, negative, decide_true,
      Bool.not_true, Bool.false_eq_true, if_false, large, same]
  · have same : (n.natAbs : Int) = n := by omega
    simp [negative, same]

theorem toList_toString (n : Int) :
    (toString n).toList = (if n < 0 then ['-'] else []) ++ Nat.toDigits 10 n.natAbs := by
  cases n with
  | ofNat n =>
    have plain : toString (Int.ofNat n) = toString n := rfl
    rw [plain, Nat.toString_eq_ofList_toDigits, String.toList_ofList, if_neg (by simp)]
    rfl
  | negSucc n =>
    have signed : toString (Int.negSucc n) = "-" ++ toString (n + 1) := rfl
    rw [signed, String.toList_append, Nat.toString_eq_ofList_toDigits,
      if_pos (Int.negSucc_lt_zero n)]
    exact congrArg ('-' :: ·) String.toList_ofList

/-! ### The first lexeme of a text -/

section First

variable (rest : List Char)

@[simp] theorem lex_openBracket : lex ('[' :: rest) = .openBracket :: lex rest := by
  rw [lex]
  rfl

@[simp] theorem lex_closeBracket : lex (']' :: rest) = .closeBracket :: lex rest := by
  rw [lex]
  rfl

@[simp] theorem lex_openBrace : lex ('{' :: rest) = .openBrace :: lex rest := by
  rw [lex]
  rfl

@[simp] theorem lex_closeBrace : lex ('}' :: rest) = .closeBrace :: lex rest := by
  rw [lex]
  rfl

@[simp] theorem lex_comma : lex (',' :: rest) = .comma :: lex rest := by
  rw [lex]
  rfl

@[simp] theorem lex_colon : lex (':' :: rest) = .colon :: lex rest := by
  rw [lex]
  rfl

theorem lex_null : lex (Json.null.compactChars ++ rest) = .null :: lex rest := by
  have chars : Json.null.compactChars ++ rest = 'n' :: 'u' :: 'l' :: 'l' :: rest := rfl
  rw [chars, lex]
  rfl

theorem lex_bool (b : Bool) : lex ((Json.bool b).compactChars ++ rest) = .bool b :: lex rest := by
  cases b with
  | false =>
    have chars : (Json.bool false).compactChars ++ rest
        = 'f' :: 'a' :: 'l' :: 's' :: 'e' :: rest := rfl
    rw [chars, lex]
    rfl
  | true =>
    have chars : (Json.bool true).compactChars ++ rest = 't' :: 'r' :: 'u' :: 'e' :: rest := rfl
    rw [chars, lex]
    rfl

@[simp] theorem lex_quoted (text : String) :
    lex (quoteChars text.toList ++ rest) = .string (quotedLexeme text) :: lex rest := by
  have chars : quoteChars text.toList ++ rest
      = '"' :: (text.toList.flatMap escape ++ '"' :: rest) := by
    simp [quoteChars]
  rw [chars, lex]
  simp only [lexString_quoted]
  rfl

variable {c : Char} {text : List Char} {n : NumberLexeme}

theorem lex_digit (digit : c.isDigit) (plain : isBlank c = false) :
    lex (c :: text) = .number (lexNumber false (c :: text)).1 ::
      (if (lexNumber false (c :: text)).1.fault.isSome then []
        else lex (lexNumber false (c :: text)).2) := by
  rw [lex.eq_def]
  dsimp only
  rw [plain, if_neg Bool.false_ne_true, if_pos digit]

theorem lex_minus : lex ('-' :: text) = .number (lexNumber true text).1 ::
      (if (lexNumber true text).1.fault.isSome then [] else lex (lexNumber true text).2) := by
  rw [lex]
  rfl

theorem lex_ne_nil (plain : isBlank c = false) : lex (c :: text) ≠ [] := by
  rw [lex.eq_def]
  dsimp only
  rw [plain, if_neg Bool.false_ne_true]
  split
  · exact List.cons_ne_nil _ _
  · split
    all_goals try split
    all_goals exact List.cons_ne_nil _ _

/-- The text is a number and nothing else. -/
def IsNumeral (text : List Char) (n : NumberLexeme) : Prop :=
  n.fault = none ∧
    ((∃ c ∈ text.head?, c.isDigit) ∧ lexNumber false text = (n, []) ∨
      ∃ digits, text = '-' :: digits ∧ lexNumber true digits = (n, []))

theorem not_isBlank_of_isDigit (digit : c.isDigit) : isBlank c = false := by
  simp only [isBlank, Bool.or_eq_false_iff, decide_eq_false_iff_not]
  refine ⟨⟨⟨?_, ?_⟩, ?_⟩, ?_⟩ <;> (rintro rfl; cases digit)

/-- A numeral is one lexeme, if nothing follows that could be a part of it. -/
theorem IsNumeral.lex_append (numeral : IsNumeral text n) {rest : List Char}
    (ends : EndsNumber rest) : lex (text ++ rest) = .number n :: lex rest := by
  obtain ⟨whole, ⟨⟨c, first, digit⟩, read⟩ | ⟨digits, rfl, read⟩⟩ := numeral
  · have read' := lexNumber_append ends read whole
    obtain ⟨tail, rfl⟩ := List.head?_eq_some_iff.mp first
    rw [List.cons_append] at read' ⊢
    rw [lex_digit digit (not_isBlank_of_isDigit digit), read', whole]
    rfl
  · rw [List.cons_append, lex_minus, lexNumber_append ends read whole, whole]
    rfl

theorem isNumeral_toString (n : Int) : IsNumeral (toString n).toList (wholeLexeme n) := by
  refine ⟨rfl, ?_⟩
  rw [toList_toString, wholeLexeme]
  by_cases negative : n < 0
  · rw [if_pos negative, decide_eq_true negative]
    exact Or.inr ⟨_, rfl, lexNumber_toDigits true _⟩
  · rw [if_neg negative, decide_eq_false negative, List.nil_append]
    have filled : Nat.toDigits 10 n.natAbs ≠ [] := Nat.toDigits_ne_nil
    obtain ⟨c, more, digits⟩ := List.exists_cons_of_ne_nil filled
    refine Or.inl ⟨⟨c, by rw [digits]; rfl, ?_⟩, lexNumber_toDigits false _⟩
    exact Nat.isDigit_of_mem_toDigits (by decide) (by decide) (digits ▸ List.mem_cons_self)

/-! ### Numbers that are read back -/

theorem lexSign_suffix (text : List Char) : (lexSign text).2 <:+ text := by
  unfold lexSign
  split
  · exact List.suffix_cons _ _
  · exact List.suffix_cons _ _
  · exact List.suffix_refl _

theorem lexExponent_suffix (n : NumberLexeme) (text : List Char) :
    (lexExponent n text).2 <:+ text := by
  unfold lexExponent
  split
  · rename_i c rest
    have after : (lexSign rest).2.dropWhile Char.isDigit <:+ c :: rest :=
      ((List.dropWhile_suffix _).trans (lexSign_suffix rest)).trans (List.suffix_cons _ _)
    split
    · dsimp only
      split <;> exact after
    · exact List.suffix_refl _
  · exact List.suffix_refl _

theorem lexFraction_suffix (n : NumberLexeme) (text : List Char) :
    (lexFraction n text).2 <:+ text := by
  unfold lexFraction
  split
  · rename_i rest
    have after : rest.dropWhile Char.isDigit <:+ '.' :: rest :=
      (List.dropWhile_suffix _).trans (List.suffix_cons _ _)
    dsimp only
    split
    · exact after
    · exact (lexExponent_suffix _ _).trans after
  · exact lexExponent_suffix _ _

theorem lexNumber_suffix (negative : Bool) (text : List Char) :
    (lexNumber negative text).2 <:+ text := by
  have after : text.dropWhile Char.isDigit <:+ text := List.dropWhile_suffix _
  unfold lexNumber
  dsimp only
  split
  · exact after
  · exact after
  · exact (lexFraction_suffix _ _).trans after

end First

theorem fault_of_value {n : NumberLexeme} {value : Json} (read : n.value = .ok value) :
    n.fault = none := by
  unfold NumberLexeme.value at read
  split at read
  · cases read
  · cases read
  · assumption

theorem parse_of_lex {text : List Char} {n : NumberLexeme} {more : List Lexeme}
    (lexed : lex text = .number n :: more) :
    parse (String.ofList text)
      = n.value >>= fun value => if !more.isEmpty then .error .malformed else .ok value := by
  rw [parse, readText, Outline.ofText, String.toList_ofList, lexed]
  rfl

/-- If a text is read as a number, there is no fault in the number, and nothing behind it. -/
theorem lexNumber_of_parse {text digits : List Char} {negative : Bool} {value : Json}
    (lexed : lex text = .number (lexNumber negative digits).1 ::
      (if (lexNumber negative digits).1.fault.isSome then []
        else lex (lexNumber negative digits).2))
    (plain : ∀ c ∈ digits, isBlank c = false) (read : parse (String.ofList text) = .ok value) :
    ∃ n, n.fault = none ∧ lexNumber negative digits = (n, []) ∧ n.value = .ok value := by
  rw [parse_of_lex lexed] at read
  have suffix := lexNumber_suffix negative digits
  generalize lexNumber negative digits = result at read suffix ⊢
  obtain ⟨n, left⟩ := result
  dsimp only at read suffix
  cases valued : n.value with
  | error fault =>
    rw [valued] at read
    cases read
  | ok other =>
    have whole := fault_of_value valued
    rw [valued, whole] at read
    cases left with
    | nil =>
      rw [lex_nil] at read
      cases read
      exact ⟨n, whole, rfl, valued⟩
    | cons c left =>
      -- What the number leaves would be a lexeme of its own, since no blank is among it.
      have follows : lex (c :: left) ≠ [] :=
        lex_ne_nil (plain c (suffix.subset List.mem_cons_self))
      obtain ⟨first, more, lexed⟩ := List.exists_cons_of_ne_nil follows
      rw [if_neg (by simp), lexed] at read
      cases read

theorem lex_junk {c : Char} (junk : c ∈ ['.', '+', 'e', 'N', 'a', 'i']) (text : List Char) :
    lex (c :: text) = [.junk] := by
  rw [lex.eq_def]
  simp only [List.mem_cons, List.not_mem_nil, or_false] at junk
  rcases junk with rfl | rfl | rfl | rfl | rfl | rfl <;> rfl

theorem lex_constant {c : Char} (constant : c = 'n' ∨ c = 'f') (text : List Char) :
    ∃ first more, lex (c :: text) = first :: more ∧
      (first = .null ∨ first = .bool false ∨ ∃ fault, first = .word fault) := by
  rcases constant with rfl | rfl
  · cases read : (lexWord ['u', 'l', 'l'] text).1 with
    | none =>
      exact ⟨.null, lex (lexWord ['u', 'l', 'l'] text).2, by simp [lex, isBlank, read], Or.inl rfl⟩
    | some fault =>
      exact ⟨.word fault, [], by simp [lex, isBlank, read], Or.inr (Or.inr ⟨fault, rfl⟩)⟩
  · cases read : (lexWord ['a', 'l', 's', 'e'] text).1 with
    | none =>
      exact ⟨.bool false, lex (lexWord ['a', 'l', 's', 'e'] text).2, by simp [lex, isBlank, read],
        Or.inr (Or.inl rfl)⟩
    | some fault =>
      exact ⟨.word fault, [], by simp [lex, isBlank, read], Or.inr (Or.inr ⟨fault, rfl⟩)⟩

/-- What else the text of a number may begin with is not read as a number. -/
theorem parse_ne_float {c : Char} (other : c ∈ ['.', '+', 'e', 'N', 'a', 'i'] ∨ c = 'n' ∨ c = 'f')
    (text : List Char) (d : Double) : parse (String.ofList (c :: text)) ≠ .ok (.float d) := by
  intro read
  rw [parse, readText, Outline.ofText, String.toList_ofList] at read
  rcases other with junk | constant
  · rw [lex_junk junk] at read
    cases read
  · obtain ⟨first, more, lexed, kind⟩ := lex_constant constant text
    rw [lexed] at read
    rcases kind with rfl | rfl | ⟨fault, rfl⟩
    · cases more <;> cases read
    · cases more <;> cases read
    · cases read

/-- A text that is read as a floating-point number is a numeral. -/
theorem exists_isNumeral {text : List Char} (chars : ∀ c ∈ text, Double.isTextChar c) {d : Double}
    (read : parse (String.ofList text) = .ok (.float d)) :
    ∃ n, IsNumeral text n ∧ n.value = .ok (.float d) := by
  have plain : ∀ c ∈ text, isBlank c = false := by
    intro c member
    refine Bool.eq_false_iff.mpr fun blank => ?_
    simp only [isBlank, Bool.or_eq_true, decide_eq_true_eq] at blank
    rcases blank with ((rfl | rfl) | rfl) | rfl <;> cases chars _ member
  cases text with
  | nil =>
    rw [parse, readText, Outline.ofText, String.toList_ofList, lex_nil] at read
    cases read
  | cons c tail =>
    -- Only a digit or a minus sign begins a number.
    obtain ⟨first, -⟩ := List.forall_mem_cons.mp chars
    rw [Double.isTextChar, Bool.or_eq_true, List.contains_iff_mem] at first
    rcases first with digit | first
    · obtain ⟨n, whole, read, value⟩ :=
        lexNumber_of_parse (lex_digit digit (not_isBlank_of_isDigit digit)) plain read
      exact ⟨n, ⟨whole, Or.inl ⟨⟨c, rfl, digit⟩, read⟩⟩, value⟩
    · by_cases sign : c = '-'
      · subst sign
        obtain ⟨n, whole, read, value⟩ := lexNumber_of_parse lex_minus
          (fun c member => plain c (List.mem_cons_of_mem _ member)) read
        exact ⟨n, ⟨whole, Or.inr ⟨tail, rfl, read⟩⟩, value⟩
      · refine absurd read (parse_ne_float ?_ tail d)
        simp only [List.mem_cons, List.not_mem_nil, or_false] at first ⊢
        tauto

end Schemata.Json
