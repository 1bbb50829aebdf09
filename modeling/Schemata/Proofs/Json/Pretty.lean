import Schemata.Proofs.Json.RoundTrip

/-!
# Values in several lines

A value that is written with one item or member a line has the same lexemes as in one line, because
blanks between lexemes do not count.  So what is known of the one text holds of the other.

## Main results

* `Json.lex_prettyChars` : the lexemes of a value in several lines.
* `Json.ofText_pretty` : the outline of such a text.
-/

namespace Schemata.Json

theorem lex_blank {c : Char} (blank : isBlank c) (text : List Char) :
    lex (c :: text) = lex text := by
  rw [lex.eq_def]
  exact if_pos blank

theorem lex_space (text : List Char) : lex (' ' :: text) = lex text :=
  lex_blank rfl text

theorem lex_newLine (depth : Nat) (text : List Char) : lex (newLine depth ++ text) = lex text := by
  have spaces : ∀ count, lex (List.replicate count ' ' ++ text) = lex text := by
    intro count
    induction count with
    | zero => rfl
    | succ count ih =>
      rw [List.replicate_succ, List.cons_append, lex_space, ih]
  rw [newLine, List.cons_append, lex_blank rfl, spaces]

theorem endsNumber_newLine (depth : Nat) (text : List Char) :
    EndsNumber (newLine depth ++ text) := by
  rintro _ ⟨⟩
  decide

mutual

/-- The lexemes of a value in several lines are those of the value in one line. -/
theorem lex_prettyChars : (value : Json) → value.isExact → (depth : Nat) →
    {rest rest' : List Char} → EndsNumber rest → EndsNumber rest' → lex rest = lex rest' →
    lex (value.prettyChars depth ++ rest) = lex (value.compactChars ++ rest')
  | .null, _, _, rest, rest', _, _, same => by
    have line := lex_null rest'
    rw [← same, ← lex_null rest] at line
    exact line.symm
  | .bool b, _, _, rest, rest', _, _, same => by
    have line := lex_bool rest' b
    rw [← same, ← lex_bool rest b] at line
    cases b <;> exact line.symm
  | .int n, _, _, rest, rest', ends, ends', same => by
    have numeral := isNumeral_toString n
    rw [prettyChars, compactChars, numeral.lex_append ends, numeral.lex_append ends', same]
  | .float d, told, _, rest, rest', ends, ends', same => by
    obtain ⟨n, numeral, -⟩ := isNumeral_of_isReadBack told
    rw [prettyChars, compactChars, numeral.lex_append ends, numeral.lex_append ends', same]
  | .string text, _, _, rest, rest', _, _, same => by
    rw [prettyChars, compactChars, lex_quoted, lex_quoted, same]
  | .array [], _, _, rest, rest', _, _, same => by
    simp only [prettyChars, compactChars, compactItems, List.cons_append, List.nil_append,
      lex_openBracket, lex_closeBracket, same]
  | .array (item :: items), told, depth, rest, rest', _, _, same => by
    have closes : EndsNumber (']' :: rest') := endsNumber_cons (by decide) rest'
    have inside := lex_prettyItems (item :: items) told (depth + 1)
      (endsNumber_newLine depth (']' :: rest)) closes
      (by rw [lex_newLine, lex_closeBracket, lex_closeBracket, same])
    simp only [prettyChars, compactChars, List.cons_append, List.append_assoc, List.nil_append,
      lex_openBracket, inside]
  | .object [], _, _, rest, rest', _, _, same => by
    simp only [prettyChars, compactChars, compactMembers, List.cons_append, List.nil_append,
      lex_openBrace, lex_closeBrace, same]
  | .object (member :: members), told, depth, rest, rest', _, _, same => by
    have closes : EndsNumber ('}' :: rest') := endsNumber_cons (by decide) rest'
    have inside := lex_prettyMembers (member :: members) told (depth + 1)
      (endsNumber_newLine depth ('}' :: rest)) closes
      (by rw [lex_newLine, lex_closeBrace, lex_closeBrace, same])
    simp only [prettyChars, compactChars, List.cons_append, List.append_assoc, List.nil_append,
      lex_openBrace, inside]

theorem lex_prettyItems : (items : List Json) → areExact items → (depth : Nat) →
    {rest rest' : List Char} → EndsNumber rest → EndsNumber rest' → lex rest = lex rest' →
    lex (prettyItems depth items ++ rest) = lex (compactItems items ++ rest')
  | [], _, _, _, _, _, _, same => same
  | [item], told, depth, rest, rest', ends, ends', same => by
    rw [areExact, itemsPass, Bool.and_eq_true] at told
    rw [prettyItems, compactItems, List.append_assoc, lex_newLine,
      lex_prettyChars item told.1 depth ends ends' same]
  | item :: next :: items, told, depth, rest, rest', ends, ends', same => by
    rw [areExact, itemsPass, Bool.and_eq_true] at told
    have later := lex_prettyItems (next :: items) told.2 depth ends ends' same
    simp only [prettyItems, compactItems, List.append_assoc, List.cons_append, lex_newLine]
    refine lex_prettyChars item told.1 depth (endsNumber_cons (by decide) _)
      (endsNumber_cons (by decide) _) ?_
    rw [lex_comma, lex_comma, later]

theorem lex_prettyMembers : (members : List (String × Json)) → areExactMembers members →
    (depth : Nat) → {rest rest' : List Char} → EndsNumber rest → EndsNumber rest' →
    lex rest = lex rest' →
    lex (prettyMembers depth members ++ rest) = lex (compactMembers members ++ rest')
  | [], _, _, _, _, _, _, same => same
  | [(key, value)], told, depth, rest, rest', ends, ends', same => by
    rw [areExactMembers, membersPass, Bool.and_eq_true] at told
    have inside := lex_prettyChars value told.1 depth ends ends' same
    simp only [prettyMembers, compactMembers, List.append_assoc, List.cons_append, lex_newLine,
      lex_quoted, lex_colon, lex_space, inside]
  | (key, value) :: next :: members, told, depth, rest, rest', ends, ends', same => by
    rw [areExactMembers, membersPass, Bool.and_eq_true] at told
    have later := lex_prettyMembers (next :: members) told.2 depth ends ends' same
    simp only [prettyMembers, compactMembers, List.append_assoc, List.cons_append, lex_newLine,
      lex_quoted, lex_colon, lex_space]
    congr 2
    refine lex_prettyChars value told.1 depth (endsNumber_cons (by decide) _)
      (endsNumber_cons (by decide) _) ?_
    rw [lex_comma, lex_comma, later]

end

/-- A text in several lines is read as one value, with nothing behind it. -/
theorem ofText_pretty {value : Json} (told : value.isExact) :
    Outline.ofText value.pretty = (value.outline, false) := by
  have same := lex_prettyChars value told 0 endsNumber_nil endsNumber_nil rfl
  rw [List.append_nil, List.append_nil] at same
  rw [← ofText_compact told, Outline.ofText, Outline.ofText, pretty, compact, String.toList_ofList,
    String.toList_ofList, same]

end Schemata.Json
