import Mathlib.Data.List.Basic
import Schemata.Shape.Id
import Schemata.Text.Quoted
import Schemata.Text.Visible

/-!
# Texts that can be read back

Canonical texts put the forms of several values behind each other.  They can be told apart again
because each form shows where it ends: words end before a character of another class, ids have
sixteen digits, and quoted texts end with a quote that is not escaped.

## Main definitions

* `Readable` : a form can be read off the front of a text.
* `Hex.value`, `ShapeId.ofHex` : the number and the id that hexadecimal digits stand for.
* `Quoted.read?`, `Visible.read?` : the character that a text inside quotes begins with.

## Main results

* `Readable.flatMap`, `Readable.flatMap_inj` : lists of readable forms, up to a closing character
  or up to the end.
* `run_append_inj` : words end before a character of another class.
* `ShapeId.readable_toHex`, `Quoted.readable_quote`, `Visible.readable_quote` : the forms in use.
-/

namespace Schemata

/-! ### Forms and lists of them -/

section Forms

variable {α β : Type}

/-- The forms of good values can be read off the front of a text: what is read and what is left are
determined. -/
def Readable (good : α → Prop) (form : α → List β) : Prop :=
  ∀ a b, good a → good b → ∀ rest rest', form a ++ rest = form b ++ rest' → a = b ∧ rest = rest'

theorem Readable.inj {good : α → Prop} {form : α → List β} (readable : Readable good form)
    {a b : α} (ha : good a) (hb : good b) (same : form a = form b) : a = b :=
  (readable a b ha hb [] [] (by rw [same])).1

/-- Forms of one length are readable if they tell values apart. -/
theorem readable_of_length {good : α → Prop} {form : α → List β} {size : Nat}
    (length : ∀ a, good a → (form a).length = size)
    (injective : ∀ a b, good a → good b → form a = form b → a = b) : Readable good form := by
  intro a b ha hb rest rest' same
  obtain ⟨forms, rests⟩ := List.append_inj same ((length a ha).trans (length b hb).symm)
  exact ⟨injective a b ha hb forms, rests⟩

/-- A list of readable forms, up to a character with which none of them begins. -/
theorem Readable.flatMap {good : α → Prop} {form : α → List β} {close : β}
    (readable : Readable good form)
    (opens : ∀ a, good a → ∀ rest rest', form a ++ rest ≠ close :: rest') :
    Readable (fun list => ∀ a ∈ list, good a) fun list : List α =>
      list.flatMap form ++ [close] := by
  intro list
  induction list with
  | nil =>
    intro other _ hother rest rest' same
    cases other with
    | nil => exact ⟨rfl, (List.cons.inj same).2⟩
    | cons b others =>
      refine absurd ?_ (opens b (hother b List.mem_cons_self)
        (others.flatMap form ++ [close] ++ rest') rest)
      simpa using same.symm
  | cons a list ih =>
    intro other hlist hother rest rest' same
    obtain ⟨ha, hlist⟩ := List.forall_mem_cons.mp hlist
    cases other with
    | nil =>
      refine absurd ?_ (opens a ha (list.flatMap form ++ [close] ++ rest) rest')
      simpa using same
    | cons b others =>
      obtain ⟨hb, hothers⟩ := List.forall_mem_cons.mp hother
      simp only [List.flatMap_cons, List.append_assoc] at same
      obtain ⟨rfl, later⟩ := readable a b ha hb _ _ same
      obtain ⟨rfl, rests⟩ := ih others hlist hothers rest rest' (by simpa using later)
      exact ⟨rfl, rests⟩

/-- A whole list of readable forms, none of which is empty. -/
theorem Readable.flatMap_inj {good : α → Prop} {form : α → List β} (readable : Readable good form)
    (shows : ∀ a, form a ≠ []) {list list' : List α} (goods : ∀ a ∈ list, good a)
    (goods' : ∀ a ∈ list', good a) (same : list.flatMap form = list'.flatMap form) :
    list = list' := by
  induction list generalizing list' with
  | nil =>
    cases list' with
    | nil => rfl
    | cons b others => exact absurd (List.append_eq_nil_iff.mp same.symm).1 (shows b)
  | cons a list ih =>
    cases list' with
    | nil => exact absurd (List.append_eq_nil_iff.mp same).1 (shows a)
    | cons b others =>
      obtain ⟨ha, hlist⟩ := List.forall_mem_cons.mp goods
      obtain ⟨hb, hothers⟩ := List.forall_mem_cons.mp goods'
      obtain ⟨rfl, later⟩ := readable a b ha hb _ _ same
      rw [ih hlist hothers later]

theorem takeWhile_word {inClass : β → Bool} {word rest : List β}
    (all : ∀ c ∈ word, inClass c) (ends : ∀ c ∈ rest.head?, inClass c = false) :
    (word ++ rest).takeWhile inClass = word := by
  rw [List.takeWhile_append_of_pos all]
  cases rest with
  | nil => simp
  | cons c rest => simp [ends c rfl]

/-- A word ends before a character of another class. -/
theorem run_append_inj {inClass : β → Bool} {word word' rest rest' : List β}
    (all : ∀ c ∈ word, inClass c) (all' : ∀ c ∈ word', inClass c)
    (ends : ∀ c ∈ rest.head?, inClass c = false) (ends' : ∀ c ∈ rest'.head?, inClass c = false)
    (same : word ++ rest = word' ++ rest') : word = word' ∧ rest = rest' := by
  obtain rfl : word = word' := by
    rw [← takeWhile_word all ends, same, takeWhile_word all' ends']
  exact ⟨rfl, List.append_cancel_left same⟩

end Forms

/-! ### Hexadecimal digits -/

namespace Hex

/-- The number that a hexadecimal digit stands for. -/
def digit (c : Char) : Nat :=
  ((List.range 16).find? (Nat.digitChar · = c)).getD 0

/-- The number that hexadecimal digits stand for. -/
def value (digits : List Char) : Nat :=
  digits.foldl (fun n c => 16 * n + digit c) 0

theorem digit_digitChar : ∀ d < 16, digit (Nat.digitChar d) = d := by
  decide

theorem value_toDigits (n : Nat) : value (Nat.toDigits 16 n) = n := by
  induction n using Nat.strongRecOn with
  | _ n ih =>
    rw [Nat.toDigits_eq_if (by decide)]
    split
    · rename_i small
      simp [value, digit_digitChar n small]
    · rename_i large
      have before := ih (n / 16) (by omega)
      unfold value at before ⊢
      rw [List.foldl_append, before, List.foldl_cons, List.foldl_nil,
        digit_digitChar _ (Nat.mod_lt _ (by decide))]
      omega

theorem value_zeros (count : Nat) (digits : List Char) :
    value (List.replicate count '0' ++ digits) = value digits := by
  induction count with
  | zero => rfl
  | succ count ih => exact ih

theorem digitChar_of_mem_toDigits {n : Nat} {c : Char} (member : c ∈ Nat.toDigits 16 n) :
    ∃ d, c = Nat.digitChar d := by
  induction n using Nat.strongRecOn with
  | _ n ih =>
    rw [Nat.toDigits_eq_if (by decide)] at member
    split at member
    · exact ⟨n, List.mem_singleton.mp member⟩
    · rcases List.mem_append.mp member with member | member
      · exact ih (n / 16) (by omega) member
      · exact ⟨_, List.mem_singleton.mp member⟩

end Hex

namespace ShapeId

theorem length_toHex (id : ShapeId) : id.toHex.toList.length = 16 := by
  have short : (Nat.toDigits 16 id.value.toNat).length ≤ 16 :=
    (Nat.length_toDigits_le_iff (by decide) (by decide)).mpr id.value.toNat_lt
  simp [toHex, padHex]
  omega

theorem value_toHex (id : ShapeId) : Hex.value id.toHex.toList = id.value.toNat := by
  simp only [toHex, padHex, String.toList_ofList]
  rw [Hex.value_zeros, Hex.value_toDigits]

/-- The id with the given digits. -/
def ofHex (digits : List Char) : ShapeId :=
  ⟨UInt64.ofNat (Hex.value digits)⟩

theorem ofHex_toHex (id : ShapeId) : ofHex id.toHex.toList = id := by
  rw [ofHex, value_toHex, UInt64.ofNat_toNat]

theorem toHex_inj {a b : ShapeId} (same : a.toHex.toList = b.toHex.toList) : a = b := by
  rw [← ofHex_toHex a, same, ofHex_toHex]

/-- The digits of an id can be read off a text. -/
theorem readable_toHex : Readable (fun _ => True) fun id : ShapeId => id.toHex.toList :=
  readable_of_length (fun id _ => id.length_toHex) fun _ _ _ _ => toHex_inj

theorem not_mem_toHex {c : Char} (other : ∀ d, Nat.digitChar d ≠ c) (id : ShapeId) :
    c ∉ id.toHex.toList := by
  intro member
  simp only [toHex, padHex, String.toList_ofList, List.mem_append, List.mem_replicate] at member
  rcases member with ⟨-, rfl⟩ | digits
  · exact other 0 rfl
  · obtain ⟨d, rfl⟩ := Hex.digitChar_of_mem_toDigits digits
    exact other d rfl

end ShapeId

/-! ### Quoted texts -/

/-- The characters of a quoted text can be read if each of them can, and none looks like the closing
quote. -/
theorem readable_quoted {escape : Char → List Char}
    {read? : List Char → Option (Char × List Char)}
    (reads : ∀ c rest, read? (escape c ++ rest) = some (c, rest))
    (closes : ∀ rest, read? ('"' :: rest) = none) :
    Readable (fun _ => True) fun text : String => '"' :: text.toList.flatMap escape ++ ['"'] := by
  have readable : Readable (fun _ => True) escape := by
    intro c d _ _ rest rest' same
    have := congrArg read? same
    rw [reads, reads] at this
    simpa using this
  have opens : ∀ c, True → ∀ rest rest', escape c ++ rest ≠ '"' :: rest' := by
    intro c _ rest rest' same
    have := congrArg read? same
    rw [reads, closes] at this
    cases this
  intro a b _ _ rest rest' same
  obtain ⟨texts, rests⟩ := readable.flatMap opens a.toList b.toList (fun _ _ => trivial)
    (fun _ _ => trivial) rest rest' (List.cons.inj same).2
  exact ⟨String.toList_inj.mp texts, rests⟩

namespace Quoted

/-- The character that a text inside quotes begins with, and what follows it. -/
def read? : List Char → Option (Char × List Char)
  | '\\' :: '"' :: rest => some ('"', rest)
  | '\\' :: '\\' :: rest => some ('\\', rest)
  | '\\' :: 'b' :: rest => some ('\x08', rest)
  | '\\' :: 't' :: rest => some ('\x09', rest)
  | '\\' :: 'n' :: rest => some ('\x0a', rest)
  | '\\' :: 'f' :: rest => some ('\x0c', rest)
  | '\\' :: 'r' :: rest => some ('\x0d', rest)
  | '\\' :: 'u' :: a :: b :: c :: d :: rest => some (Char.ofNat (Hex.value [a, b, c, d]), rest)
  | '\\' :: _ => none
  | '"' :: _ => none
  | c :: rest => some (c, rest)
  | [] => none

theorem value_hex4 : ∀ n < 32, Hex.value (hex4 n) = n := by
  decide

theorem read?_escape (c : Char) (rest : List Char) : read? (escape c ++ rest) = some (c, rest) := by
  unfold escape
  split
  · rfl
  · rfl
  · rfl
  · rfl
  · rfl
  · rfl
  · rfl
  · rename_i quote backslash _ _ _ _ _
    split
    · rename_i small
      have same : Char.ofNat (Hex.value (hex4 c.toNat)) = c := by
        rw [value_hex4 _ small, Char.ofNat_toNat]
      exact congrArg (fun c => some (c, rest)) same
    · unfold read?
      split <;> simp_all

/-- A quoted text can be read off a text. -/
theorem readable_quote : Readable (fun _ => True) fun text : String => (quote text).toList := by
  have := readable_quoted read?_escape fun _ => rfl
  simpa only [quote, quoteChars, String.toList_ofList] using this

end Quoted

namespace Visible

/-- The character that a visible text inside quotes begins with, and what follows it. -/
def read? : List Char → Option (Char × List Char)
  | '\\' :: '0' :: rest => some ('\x00', rest)
  | '\\' :: 't' :: rest => some ('\t', rest)
  | '\\' :: 'r' :: rest => some ('\r', rest)
  | '\\' :: 'n' :: rest => some ('\n', rest)
  | '\\' :: '\\' :: rest => some ('\\', rest)
  | '\\' :: '"' :: rest => some ('"', rest)
  | '\\' :: 'u' :: '{' :: rest =>
    some (Char.ofNat (Hex.value (rest.takeWhile (· ≠ '}'))), (rest.dropWhile (· ≠ '}')).drop 1)
  | '\\' :: _ => none
  | '"' :: _ => none
  | c :: rest => some (c, rest)
  | [] => none

theorem read?_codePoint (c : Char) (rest : List Char) :
    read? (codePoint c ++ rest) = some (c, rest) := by
  have digits : ∀ d ∈ Nat.toDigits 16 c.toNat, decide (d ≠ '}') = true := by
    intro d member
    obtain ⟨n, rfl⟩ := Hex.digitChar_of_mem_toDigits member
    exact decide_eq_true (Nat.digitChar_ne '}' rfl)
  have split : codePoint c ++ rest
      = '\\' :: 'u' :: '{' :: (Nat.toDigits 16 c.toNat ++ '}' :: rest) := by
    simp [codePoint]
  rw [split]
  simp only [read?]
  rw [List.takeWhile_append_of_pos digits, List.dropWhile_append_of_pos digits]
  simp [Hex.value_toDigits, Char.ofNat_toNat]

theorem read?_escape (c : Char) (rest : List Char) : read? (escape c ++ rest) = some (c, rest) := by
  unfold escape
  split
  · rfl
  · rfl
  · rfl
  · rfl
  · rfl
  · rfl
  · split
    · unfold read?
      split <;> simp_all
    · exact read?_codePoint c rest

/-- A visibly quoted text can be read off a text. -/
theorem readable_quote : Readable (fun _ => True) fun text : String => (quote text).toList := by
  have := readable_quoted read?_escape fun _ => rfl
  simpa only [quote, String.toList_ofList] using this

end Visible

end Schemata
