import Schemata.Proofs.Json.Lexeme

/-!
# Values that are read back from their texts

The outline of a written value is the value itself, cut into lexemes.  A value is read from it again
if its numbers are told exactly by their texts, and if it is not nested too deeply for the reader.
Integers of sixty-four bits are told exactly.  A floating-point number is rounded when it is read,
and the number that its own text is read as may be its neighbour.

## Main definitions

* `Json.isReadBack` : is a floating-point number read back from its text?
* `Json.numbersPass` : do the floating-point numbers inside a value pass a test?
* `Json.isExact` : are all numbers inside a value told exactly by their texts?
* `Json.isWhole` : are all numbers inside a value integers?
* `Json.outline` : the outline of a written value.
* `Json.depth` : how deeply a value is nested.
* `Json.isSorted` : do the members of all objects stand in the order of their keys?

## Main results

* `Json.isExact_of_isWhole` : integers are told exactly.
* `Json.ofText_compact` : the outline of the text of a value.
* `Json.value_outline` : the value of this outline.
* `Json.parse_compact` : values are read back from their texts.
* `Json.sorted_of_isSorted` : sorting the keys of such a value changes nothing.
-/

namespace Schemata.Json

/-! ### Numbers that are read back -/

/-- Is the number read back from its text? -/
def isReadBack (d : Double) : Bool :=
  match parse d.toJsonText with
  | .ok (.float e) => e = d
  | _ => false

-- The text is right to the last digit, but the reader rounds it to the next number.
example : isReadBack (Double.ofInt 7205759403792796) = false := by decide +kernel

theorem parse_of_isReadBack {d : Double} (back : isReadBack d) :
    parse d.toJsonText = .ok (.float d) := by
  unfold isReadBack at back
  split at back
  · rename_i e read
    rw [read, of_decide_eq_true back]
  · cases back

theorem parse_null : parse "null" = .ok .null := by
  have lexed := lex_null []
  have chars : "null".toList = Json.null.compactChars := rfl
  rw [List.append_nil, lex_nil] at lexed
  rw [parse, readText, Outline.ofText, chars, lexed]
  rfl

theorem isNumeral_of_isReadBack {d : Double} (back : isReadBack d) :
    ∃ n, IsNumeral d.toJsonText.toList n ∧ n.value = .ok (.float d) := by
  have read := parse_of_isReadBack back
  refine exists_isNumeral ?_ (by rwa [String.ofList_toList])
  unfold Double.toJsonText at read ⊢
  split
  -- Infinities and what is no number are written as null.
  · rename_i special
    rw [if_pos special, parse_null] at read
    cases read
  · exact Double.isTextChar_text (List.all_eq_true.mp (by decide))
      (List.all_eq_true.mp (by decide)) d

theorem IsNumeral.ofText {text : String} {n : NumberLexeme} (numeral : IsNumeral text.toList n) :
    Outline.ofText text = (.number n, false) := by
  have lexed := numeral.lex_append endsNumber_nil
  rw [List.append_nil, lex_nil] at lexed
  rw [Outline.ofText, lexed]
  rfl

/-! ### Outlines of values -/

mutual

/-- Are all integers inside of sixty-four bits, and do all floating-point numbers pass a test? -/
def numbersPass (test : Double → Bool) : Json → Bool
  | .int n => isWord n
  | .float d => test d
  | .array items => itemsPass test items
  | .object members => membersPass test members
  | _ => true

/-- The same over a list. -/
def itemsPass (test : Double → Bool) : List Json → Bool
  | [] => true
  | item :: rest => item.numbersPass test && itemsPass test rest

/-- The same over members. -/
def membersPass (test : Double → Bool) : List (String × Json) → Bool
  | [] => true
  | (_, value) :: rest => value.numbersPass test && membersPass test rest

end

attribute [simp] numbersPass membersPass

@[simp] theorem itemsPass_iff {test : Double → Bool} {items : List Json} :
    itemsPass test items ↔ ∀ item ∈ items, item.numbersPass test := by
  induction items with
  | nil => simp [itemsPass]
  | cons item rest ih => simp [itemsPass, ih]

/-- Are all numbers inside told exactly by their texts? -/
abbrev isExact (value : Json) : Bool :=
  value.numbersPass isReadBack

/-- The same over a list. -/
abbrev areExact (items : List Json) : Bool :=
  itemsPass isReadBack items

/-- The same over members. -/
abbrev areExactMembers (members : List (String × Json)) : Bool :=
  membersPass isReadBack members

/-- Are all numbers inside integers? -/
def isWhole (value : Json) : Bool :=
  value.numbersPass fun _ => false

variable {test test' : Double → Bool}

mutual

theorem numbersPass_imp (imp : ∀ d, test d → test' d) :
    (value : Json) → value.numbersPass test → value.numbersPass test'
  | .null, _ | .bool _, _ | .string _, _ => rfl
  | .int _, pass => pass
  | .float d, pass => imp d pass
  | .array items, pass => itemsPass_imp imp items pass
  | .object members, pass => membersPass_imp imp members pass

theorem itemsPass_imp (imp : ∀ d, test d → test' d) :
    (items : List Json) → itemsPass test items → itemsPass test' items
  | [], _ => rfl
  | item :: rest, pass => by
    rw [itemsPass, Bool.and_eq_true] at pass ⊢
    exact ⟨numbersPass_imp imp item pass.1, itemsPass_imp imp rest pass.2⟩

theorem membersPass_imp (imp : ∀ d, test d → test' d) :
    (members : List (String × Json)) → membersPass test members → membersPass test' members
  | [], _ => rfl
  | (key, value) :: rest, pass => by
    rw [membersPass, Bool.and_eq_true] at pass ⊢
    exact ⟨numbersPass_imp imp value pass.1, membersPass_imp imp rest pass.2⟩

end

theorem isExact_of_isWhole {value : Json} (whole : value.isWhole) : value.isExact :=
  numbersPass_imp (fun _ never => absurd never Bool.false_ne_true) value whole

mutual

/-- The outline of a written value. -/
def outline : Json → Outline
  | .null => .null
  | .bool b => .bool b
  | .int n => .number (wholeLexeme n)
  | .float d => (Outline.ofText d.toJsonText).1
  | .string text => .string (quotedLexeme text)
  | .array items => .array (outlineItems items) none
  | .object members => .object (outlineMembers members) none

/-- The outlines of items. -/
def outlineItems : List Json → List Outline
  | [] => []
  | item :: rest => item.outline :: outlineItems rest

/-- The keys of members, with the outlines of their values. -/
def outlineMembers : List (String × Json) → List (StringLexeme × Outline)
  | [] => []
  | (key, value) :: rest => (quotedLexeme key, value.outline) :: outlineMembers rest

end

namespace Outline

/-- What is built when a value has been read inside the brackets `frames`. -/
def settle (value : Outline) (rest : List Lexeme) (frames : List Frame) : Outline × Bool :=
  match resume value frames with
  | none => (value, !rest.isEmpty)
  | some (frames, expected) => build rest frames expected

end Outline

open Outline

mutual

/-- The text of a value is read as the outline of the value. -/
theorem build_compactChars : (value : Json) → value.isExact → {rest : List Char} →
    EndsNumber rest → (frames : List Frame) → (first : Bool) →
    build (lex (value.compactChars ++ rest)) frames (.value first)
      = settle value.outline (lex rest) frames
  | .null, _, rest, _, frames, first => by
    rw [lex_null]
    rfl
  | .bool b, _, rest, _, frames, first => by
    rw [lex_bool]
    rfl
  | .int n, _, rest, ends, frames, first => by
    rw [compactChars, (isNumeral_toString n).lex_append ends]
    rfl
  | .float d, told, rest, ends, frames, first => by
    obtain ⟨n, numeral, -⟩ := isNumeral_of_isReadBack told
    rw [compactChars, numeral.lex_append ends, outline, numeral.ofText]
    rfl
  | .string text, _, rest, _, frames, first => by
    rw [compactChars, lex_quoted]
    rfl
  | .array [], _, rest, _, frames, first => by
    simp only [compactChars, compactItems, List.cons_append, List.nil_append, lex_openBracket,
      lex_closeBracket]
    rfl
  | .array (item :: items), told, rest, _, frames, first => by
    simp only [compactChars, List.cons_append, List.append_assoc, List.nil_append, lex_openBracket]
    exact build_compactItems (item :: items) (List.cons_ne_nil _ _) told rest frames [] true
  | .object [], _, rest, _, frames, first => by
    simp only [compactChars, compactMembers, List.cons_append, List.nil_append, lex_openBrace,
      lex_closeBrace]
    rfl
  | .object (member :: members), told, rest, _, frames, first => by
    simp only [compactChars, List.cons_append, List.append_assoc, List.nil_append, lex_openBrace]
    exact build_compactMembers (member :: members) (List.cons_ne_nil _ _) told rest frames [] true

/-- Items are read into the array that has begun with `done`. -/
theorem build_compactItems : (items : List Json) → items ≠ [] → areExact items →
    (rest : List Char) → (frames : List Frame) → (done : List Outline) → (first : Bool) →
    build (lex (compactItems items ++ ']' :: rest)) (.array done :: frames) (.value first)
      = settle (.array (done ++ outlineItems items) none) (lex rest) frames
  | [], filled, _, _, _, _, _ => absurd rfl filled
  | [item], _, told, rest, frames, done, first => by
    rw [areExact, itemsPass, Bool.and_eq_true] at told
    rw [compactItems, build_compactChars item told.1 (endsNumber_cons (by decide) rest)]
    simp only [settle, resume, lex_closeBracket]
    rfl
  | item :: next :: items, _, told, rest, frames, done, first => by
    rw [areExact, itemsPass, Bool.and_eq_true] at told
    have later := build_compactItems (next :: items) (List.cons_ne_nil _ _) told.2 rest frames
      (done ++ [item.outline]) false
    rw [List.append_assoc] at later
    rw [compactItems, List.append_assoc, List.cons_append,
      build_compactChars item told.1 (endsNumber_cons (by decide) _)]
    simp only [settle, resume, lex_comma]
    exact later

/-- Members are read into the object that has begun with `done`. -/
theorem build_compactMembers : (members : List (String × Json)) → members ≠ [] →
    areExactMembers members → (rest : List Char) → (frames : List Frame) →
    (done : List (StringLexeme × Outline)) → (first : Bool) →
    build (lex (compactMembers members ++ '}' :: rest)) frames (.key done first)
      = settle (.object (done ++ outlineMembers members) none) (lex rest) frames
  | [], filled, _, _, _, _, _ => absurd rfl filled
  | [(key, value)], _, told, rest, frames, done, first => by
    rw [areExactMembers, membersPass, Bool.and_eq_true] at told
    rw [compactMembers, List.append_assoc, List.cons_append, lex_quoted, lex_colon]
    refine (build_compactChars value told.1 (endsNumber_cons (by decide) rest)
      (.object done (quotedLexeme key) :: frames) false).trans ?_
    simp only [settle, resume, lex_closeBrace]
    rfl
  | (key, value) :: next :: members, _, told, rest, frames, done, first => by
    rw [areExactMembers, membersPass, Bool.and_eq_true] at told
    have later := build_compactMembers (next :: members) (List.cons_ne_nil _ _) told.2 rest frames
      (done ++ [(quotedLexeme key, value.outline)]) false
    rw [List.append_assoc] at later
    simp only [compactMembers, List.append_assoc, List.cons_append, lex_quoted, lex_colon]
    refine (build_compactChars value told.1 (endsNumber_cons (by decide) _)
      (.object done (quotedLexeme key) :: frames) false).trans ?_
    simp only [settle, resume, lex_comma]
    exact later

end

/-- A text that was written is read as one value, with nothing behind it. -/
theorem ofText_compact {value : Json} (told : value.isExact) :
    Outline.ofText value.compact = (value.outline, false) := by
  have read := build_compactChars value told endsNumber_nil [] false
  rw [List.append_nil] at read
  rw [ofText, compact, String.toList_ofList, read, lex_nil]
  rfl

/-! ### Values of outlines -/

mutual

/-- The number of brackets around the innermost value. -/
def depth : Json → Nat
  | .array items => depthItems items + 1
  | .object members => depthMembers members + 1
  | _ => 0

/-- The depth of the deepest item. -/
def depthItems : List Json → Nat
  | [] => 0
  | item :: rest => max item.depth (depthItems rest)

/-- The depth of the deepest member. -/
def depthMembers : List (String × Json) → Nat
  | [] => 0
  | (_, value) :: rest => max value.depth (depthMembers rest)

end

theorem depth_lt_of_mem_items {item : Json} {items : List Json} (member : item ∈ items) :
    item.depth < (Json.array items).depth := by
  suffices item.depth ≤ depthItems items from Nat.lt_succ_of_le this
  induction items with
  | nil => cases member
  | cons first rest ih =>
    rw [depthItems]
    rcases List.mem_cons.mp member with rfl | member
    · exact Nat.le_max_left _ _
    · exact Nat.le_trans (ih member) (Nat.le_max_right _ _)

theorem depth_lt_of_mem_members {members : List (String × Json)} (part : String × Json)
    (member : part ∈ members) : part.2.depth < (Json.object members).depth := by
  suffices part.2.depth ≤ depthMembers members from Nat.lt_succ_of_le this
  induction members with
  | nil => cases member
  | cons first rest ih =>
    rw [depthMembers]
    rcases List.mem_cons.mp member with rfl | member
    · exact Nat.le_max_left _ _
    · exact Nat.le_trans (ih member) (Nat.le_max_right _ _)

theorem enter_of_lt {depth budget : Nat} (shallow : depth + 1 < budget) :
    ∃ inside, enter budget = .ok inside ∧ depth < inside := by
  obtain ⟨inside, rfl⟩ : ∃ inside, budget = inside + 2 := ⟨budget - 2, by omega⟩
  exact ⟨inside + 1, rfl, by omega⟩

mutual

/-- The value of an outline is the value that was written, if it is not nested too deeply. -/
theorem value_outline : (value : Json) → value.isExact → {budget : Nat} → value.depth < budget →
    value.outline.value budget = .ok value
  | .null, _, _, _ => rfl
  | .bool _, _, _, _ => rfl
  | .int n, told, _, _ => value_wholeLexeme told
  | .float d, told, _, _ => by
    obtain ⟨n, numeral, value⟩ := isNumeral_of_isReadBack told
    rw [outline, numeral.ofText]
    exact value
  | .string text, _, _, _ => by
    rw [outline, Outline.value, text_quotedLexeme]
    rfl
  | .array items, told, budget, shallow => by
    obtain ⟨inside, entered, deep⟩ := enter_of_lt shallow
    rw [outline, Outline.value, entered]
    simp only [bind, Except.bind]
    rw [valueItems_outlineItems items told deep]
    rfl
  | .object members, told, budget, shallow => by
    obtain ⟨inside, entered, deep⟩ := enter_of_lt shallow
    rw [outline, Outline.value, entered]
    simp only [bind, Except.bind]
    rw [valueMembers_outlineMembers members told deep]
    rfl

theorem valueItems_outlineItems : (items : List Json) → areExact items → {budget : Nat} →
    depthItems items < budget → valueItems budget (outlineItems items) = .ok items
  | [], _, _, _ => rfl
  | item :: rest, told, budget, shallow => by
    rw [areExact, itemsPass, Bool.and_eq_true] at told
    rw [depthItems] at shallow
    rw [outlineItems, valueItems, value_outline item told.1 (by omega),
      valueItems_outlineItems rest told.2 (by omega)]
    rfl

theorem valueMembers_outlineMembers : (members : List (String × Json)) →
    areExactMembers members → {budget : Nat} → depthMembers members < budget →
    valueMembers budget (outlineMembers members) = .ok members
  | [], _, _, _ => rfl
  | (key, value) :: rest, told, budget, shallow => by
    rw [areExactMembers, membersPass, Bool.and_eq_true] at told
    rw [depthMembers] at shallow
    rw [outlineMembers, valueMembers, text_quotedLexeme, value_outline value told.1 (by omega),
      valueMembers_outlineMembers rest told.2 (by omega)]
    rfl

end

/-- A value whose numbers are told exactly is read back from its text. -/
theorem parse_compact {value : Json} (told : value.isExact) (shallow : value.depth < depthLimit) :
    parse value.compact = .ok value := by
  rw [parse, readText, ofText_compact told]
  dsimp only
  rw [value_outline value told shallow]
  rfl

/-! ### Sorted values -/

mutual

/-- Have all objects inside one member per key, in the order of the keys? -/
def isSorted : Json → Bool
  | .array items => areSorted items
  | .object members => (members.map Prod.fst).Pairwise (· < ·) && areSortedMembers members
  | _ => true

/-- The same over a list. -/
def areSorted : List Json → Bool
  | [] => true
  | item :: rest => item.isSorted && areSorted rest

/-- The same over members. -/
def areSortedMembers : List (String × Json) → Bool
  | [] => true
  | (_, value) :: rest => value.isSorted && areSortedMembers rest

end

theorem insertSorted_of_last {key : String} {value : Json} {done : List (String × Json)}
    (last : ∀ k ∈ done.map Prod.fst, k < key) :
    insertSorted key value done = done ++ [(key, value)] := by
  induction done with
  | nil => rfl
  | cons first rest ih =>
    obtain ⟨k, v⟩ := first
    obtain ⟨before, last⟩ := List.forall_mem_cons.mp last
    have other : key ≠ k := by
      rintro rfl
      exact String.lt_irrefl _ before
    rw [insertSorted, if_neg other, if_neg (String.lt_asymm before), ih last]
    rfl

mutual

theorem sorted_of_isSorted : (value : Json) → value.isSorted → value.sorted = value
  | .null, _ | .bool _, _ | .int _, _ | .float _, _ | .string _, _ => rfl
  | .array items, isSorted => by
    rw [sorted, sortedItems_of_areSorted items isSorted]
  | .object members, isSorted => by
    rw [Json.isSorted, Bool.and_eq_true, decide_eq_true_eq] at isSorted
    rw [sorted, sortedMembers_of_areSorted members isSorted.2 [] isSorted.1, List.nil_append]

theorem sortedItems_of_areSorted : (items : List Json) → areSorted items →
    sortedItems items = items
  | [], _ => rfl
  | item :: rest, areSorted => by
    rw [Json.areSorted, Bool.and_eq_true] at areSorted
    rw [sortedItems, sorted_of_isSorted item areSorted.1, sortedItems_of_areSorted rest areSorted.2]

theorem sortedMembers_of_areSorted : (members : List (String × Json)) →
    areSortedMembers members → (done : List (String × Json)) →
    ((done ++ members).map Prod.fst).Pairwise (· < ·) →
    sortedMembers members done = done ++ members
  | [], _, done, _ => (List.append_nil done).symm
  | (key, value) :: rest, areSorted, done, ascending => by
    rw [areSortedMembers, Bool.and_eq_true] at areSorted
    -- The key comes after those that stand already, so the member is put behind them.
    have last : ∀ k ∈ done.map Prod.fst, k < key := by
      intro k member
      rw [List.map_append, List.pairwise_append] at ascending
      exact ascending.2.2 k member key List.mem_cons_self
    have next : done ++ (key, value) :: rest = done ++ [(key, value)] ++ rest := by simp
    rw [next] at ascending ⊢
    rw [sortedMembers, sorted_of_isSorted value areSorted.1, insertSorted_of_last last,
      sortedMembers_of_areSorted rest areSorted.2 _ ascending]

end

end Schemata.Json
