import Mathlib.Data.List.Basic
import Schemata.Number.Decimal

/-!
# The characters of number texts

However a number is laid out, its text is made of digits, signs, points, the mark of an exponent and
the letters of the special values.  So it shows where it ends, and is no other word.

## Main definitions

* `Double.isTextChar` : the characters of number texts.
* `Double.unsigned` : a number, with both zeros taken for one.

## Main results

* `Double.isTextChar_text`, `Double.isTextChar_toSource` : every character of a number text is one.
-/

namespace Schemata

namespace Double

/-- The same number, but zero for both zeros. -/
def unsigned (d : Double) : Double :=
  if d.bits = 0x8000000000000000 then ⟨0⟩ else d

/-- The sign of a zero shows in canonical texts. -/
theorem eq_of_unsigned_eq {a b : Double} (same : a.unsigned = b.unsigned)
    (texts : a.toCanonicalText = b.toCanonicalText) : a = b := by
  have zeros : (⟨0x8000000000000000⟩ : Double).toCanonicalText
      ≠ (⟨0⟩ : Double).toCanonicalText := by
    decide +kernel
  obtain ⟨a⟩ := a
  obtain ⟨b⟩ := b
  unfold unsigned at same
  split at same <;> split at same
  · simp_all
  · simp_all
  · simp_all
  · exact same

/-- The characters of number texts. -/
def isTextChar (c : Char) : Bool :=
  c.isDigit || ['.', '-', '+', 'e', 'N', 'a', 'i', 'n', 'f'].contains c

theorem isTextChar_of_isDigit {c : Char} (h : c.isDigit) : isTextChar c := by
  rw [isTextChar, h, Bool.true_or]

theorem isTextChar_toDigits (n : Nat) : ∀ c ∈ Nat.toDigits 10 n, isTextChar c :=
  fun _ member => isTextChar_of_isDigit (Nat.isDigit_of_mem_toDigits (by decide) (by decide) member)

theorem isTextChar_natRepr (n : Nat) : ∀ c ∈ (toString n).toList, isTextChar c := by
  rw [Nat.toString_eq_ofList_toDigits, String.toList_ofList]
  exact isTextChar_toDigits n

theorem isTextChar_intRepr (n : Int) : ∀ c ∈ (toString n).toList, isTextChar c := by
  cases n with
  | ofNat n => exact isTextChar_natRepr n
  | negSucc n =>
    intro c member
    have : toString (Int.negSucc n) = "-" ++ toString (n + 1) := rfl
    rw [this, String.toList_append, List.mem_append] at member
    rcases member with sign | digit
    · obtain rfl : c = '-' := by simpa using sign
      rfl
    · exact isTextChar_natRepr (n + 1) c digit

theorem isTextChar_zeros (count : Nat) : ∀ c ∈ Decimal.zeros count, isTextChar c := by
  intro c member
  rw [(List.mem_replicate.mp member).2]
  rfl

theorem isTextChar_ofDouble (tie : Decimal.Tie) (d : Double) :
    ∀ c ∈ (Decimal.ofDouble tie d).digits, isTextChar c := by
  intro c member
  unfold Decimal.ofDouble at member
  dsimp only at member
  have kept : c ∈ Nat.toDigits 10 _ :=
    List.mem_reverse.mp ((List.dropWhile_suffix _).mem (List.mem_reverse.mp member))
  exact isTextChar_toDigits _ c kept

theorem isTextChar_positional {decimal : Decimal} {whole : List Char}
    (digits : ∀ c ∈ decimal.digits, isTextChar c) (after : ∀ c ∈ whole, isTextChar c) :
    ∀ c ∈ decimal.positional whole, isTextChar c := by
  intro c member
  unfold Decimal.positional at member
  split at member
  · simp only [List.cons_append, List.mem_cons, List.mem_append] at member
    rcases member with rfl | rfl | zero | digit
    · rfl
    · rfl
    · exact isTextChar_zeros _ c zero
    · exact digits c digit
  · split at member
    · simp only [List.mem_append, List.mem_cons] at member
      rcases member with digit | rfl | digit
      · exact digits c (List.mem_of_mem_take digit)
      · rfl
      · exact digits c (List.mem_of_mem_drop digit)
    · simp only [List.mem_append] at member
      rcases member with (digit | zero) | last
      · exact digits c digit
      · exact isTextChar_zeros _ c zero
      · exact after c last

theorem isTextChar_scientific {decimal : Decimal} {plus : List Char}
    (digits : ∀ c ∈ decimal.digits, isTextChar c) (sign : ∀ c ∈ plus, isTextChar c) :
    ∀ c ∈ decimal.scientific plus, isTextChar c := by
  intro c member
  unfold Decimal.scientific at member
  dsimp only at member
  simp only [List.mem_append, List.mem_cons, List.append_assoc] at member
  rcases member with first | tail | (rfl | before) | power
  · exact digits c (List.mem_of_mem_take first)
  · split at tail
    · cases tail
    · rename_i rest isRest
      rcases List.mem_cons.mp tail with rfl | digit
      · rfl
      · exact digits c (List.mem_of_mem_drop digit)
  · rfl
  · split at before
    · cases before
    · exact sign c before
  · exact isTextChar_intRepr _ c power

/-- Every character of a number text is one. -/
theorem isTextChar_text {layout : Layout} (after : ∀ c ∈ layout.whole, isTextChar c)
    (sign : ∀ c ∈ layout.plus, isTextChar c) (d : Double) :
    ∀ c ∈ (d.text layout).toList, isTextChar c := by
  have magnitude : ∀ c ∈ d.magnitudeText layout, isTextChar c := by
    unfold magnitudeText
    split
    · exact List.forall_mem_cons.mpr ⟨rfl, after⟩
    · have either (inRange : Bool) : ∀ c ∈ (if inRange then
          (Decimal.ofDouble layout.tie d).positional layout.whole
          else (Decimal.ofDouble layout.tie d).scientific layout.plus), isTextChar c := by
        cases inRange
        · exact isTextChar_scientific (isTextChar_ofDouble layout.tie d) sign
        · exact isTextChar_positional (isTextChar_ofDouble layout.tie d) after
      exact either _
  have unsignedText : ∀ c ∈ (if d.isSpecial then ['i', 'n', 'f'] else d.magnitudeText layout),
      isTextChar c := by
    split
    · exact List.all_eq_true.mp (by decide)
    · exact magnitude
  unfold text
  split
  · exact List.all_eq_true.mp (by decide)
  · dsimp only
    rw [String.toList_ofList]
    split
    · exact List.forall_mem_cons.mpr ⟨rfl, unsignedText⟩
    · exact unsignedText

theorem isTextChar_toCanonicalText (d : Double) : ∀ c ∈ d.toCanonicalText.toList, isTextChar c :=
  isTextChar_text (List.all_eq_true.mp (by decide)) (List.all_eq_true.mp (by decide)) d

theorem isTextChar_toSource (d : Double) : ∀ c ∈ d.toSource.toList, isTextChar c := by
  unfold toSource
  split
  · dsimp only
    split
    · rw [String.toList_append]
      exact List.forall_mem_append.mpr ⟨List.all_eq_true.mp (by decide), isTextChar_natRepr _⟩
    · exact isTextChar_natRepr _
  · exact isTextChar_text (List.all_eq_true.mp (by decide)) (List.all_eq_true.mp (by decide)) d

end Double

end Schemata
