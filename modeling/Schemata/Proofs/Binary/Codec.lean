import Schemata.Binary.Codec
import Mathlib.Algebra.Group.Nat.Defs

/-!
# Binary codecs read what they write

A value that is written as fewer octets than a word can count is read back from the front of any
string that begins with it, and what follows is left alone.  The bound is there for the lengths that
are written in front of texts and lists: eight octets have no room for larger ones.

## Main definitions

* `Codec.Lawful` : a codec reads what it writes, and writes something for every value.

## Main results

* `Codec.lawful_text`, `Codec.Lawful.list`, `Codec.Lawful.pair`, `Codec.Lawful.optional`,
  `Codec.Lawful.convert`, `Codec.lawful_oneOf` : the codecs for plain data are lawful.
* `Codec.tag_choice`, `Codec.Lawful.chosen` : reading a choice that was written.
-/

namespace Schemata

/-! ### Octets -/

namespace Bytes

theorem length_ofNat (count n : Nat) : (ofNat count n).length = count := by
  induction count generalizing n with
  | zero => rfl
  | succ count ih => simp [ofNat, ih]

theorem toNat_ofNat {count n : Nat} (h : n < 256 ^ count) : toNat (ofNat count n) = n := by
  induction count generalizing n with
  | zero =>
    have : n = 0 := by simpa using h
    simp [ofNat, toNat, this]
  | succ count ih =>
    have smaller : n / 256 < 256 ^ count := by
      rw [Nat.div_lt_iff_lt_mul (by decide), ← Nat.pow_succ]
      exact h
    have low : (UInt8.ofNat n).toNat = n % 256 := by simp
    calc toNat (ofNat (count + 1) n)
        = (UInt8.ofNat n).toNat + 256 * toNat (ofNat count (n / 256)) := rfl
      _ = n % 256 + 256 * (n / 256) := by rw [low, ih smaller]
      _ = n := Nat.mod_add_div n 256

private theorem toList_loop (bytes : ByteArray) (i : Nat) (octets : List UInt8) :
    ByteArray.toList.loop bytes i octets = octets.reverse ++ bytes.data.toList.drop i := by
  fun_induction ByteArray.toList.loop bytes i octets with
  | case1 i octets h ih =>
    have inside : i < bytes.data.toList.length := by simpa using h
    rw [ih, List.drop_eq_getElem_cons inside]
    simp [ByteArray.get!, h]
  | case2 i octets h =>
    rw [List.drop_of_length_le (by simpa using h), List.append_nil]

theorem ofString_eq (text : String) : ofString text = text.toByteArray.data.toList :=
  toList_loop _ 0 []

theorem length_ofString (text : String) : (ofString text).length = text.utf8ByteSize := by
  rw [ofString_eq]
  simp

theorem fromUTF8?_ofString (text : String) :
    String.fromUTF8? (ByteArray.mk (ofString text).toArray) = some text := by
  rw [ofString_eq, Array.toArray_toList, String.fromUTF8?]
  exact dif_pos text.isValidUTF8

theorem ofNat_inj {count m n : Nat} (hm : m < 256 ^ count) (hn : n < 256 ^ count)
    (same : ofNat count m = ofNat count n) : m = n := by
  rw [← toNat_ofNat hm, same, toNat_ofNat hn]

theorem toNat_lt (bytes : List UInt8) : toNat bytes < 256 ^ bytes.length := by
  induction bytes with
  | nil => decide
  | cons byte bytes ih =>
    have low : byte.toNat < 256 := byte.toNat_lt
    calc toNat (byte :: bytes) = byte.toNat + 256 * toNat bytes := rfl
      _ < 256 * 256 ^ bytes.length := by omega
      _ = 256 ^ (byte :: bytes).length := by rw [List.length_cons, Nat.pow_succ, Nat.mul_comm]

theorem toNat_inj {bytes bytes' : List UInt8} (length : bytes.length = bytes'.length)
    (same : toNat bytes = toNat bytes') : bytes = bytes' := by
  induction bytes generalizing bytes' with
  | nil => exact (List.length_eq_zero_iff.mp length.symm).symm
  | cons byte bytes ih =>
    cases bytes' with
    | nil => cases length
    | cons byte' bytes' =>
      have low : byte.toNat < 256 := byte.toNat_lt
      have low' : byte'.toNat < 256 := byte'.toNat_lt
      have sum : byte.toNat + 256 * toNat bytes = byte'.toNat + 256 * toNat bytes' := same
      obtain rfl : byte = byte' := UInt8.toNat_inj.mp (by omega)
      rw [ih (Nat.succ.inj length) (by omega)]

theorem ofString_inj {text text' : String} (same : ofString text = ofString text') :
    text = text' := by
  rw [← Option.some_inj, ← fromUTF8?_ofString, same, fromUTF8?_ofString]

/-- The octets of a character other than NUL are not zero. -/
theorem zero_not_mem_utf8EncodeChar {c : Char} (other : c ≠ '\x00') :
    0 ∉ String.utf8EncodeChar c := by
  have octet {n : Nat} (pos : 0 < n) (small : n < 256) : 0 ≠ UInt8.ofNat n := by
    intro zero
    have := congrArg UInt8.toNat zero
    simp at this
    omega
  have pos : 0 < c.val.toNat := by
    rw [Nat.pos_iff_ne_zero]
    intro zero
    exact other (Char.ext (UInt32.toNat_inj.mp zero))
  unfold String.utf8EncodeChar
  dsimp only
  split
  · simpa using octet pos (by omega)
  · split
    · simp only [List.mem_cons, List.not_mem_nil, or_false, not_or]
      exact ⟨octet (by omega) (by omega), octet (by omega) (by omega)⟩
    · split <;> simp only [List.mem_cons, List.not_mem_nil, or_false, not_or] <;>
        refine ⟨octet (by omega) (by omega), octet (by omega) (by omega), ?_⟩
      · exact octet (by omega) (by omega)
      · exact ⟨octet (by omega) (by omega), octet (by omega) (by omega)⟩

theorem zero_not_mem_ofString {text : String} (free : '\x00' ∉ text.toList) :
    0 ∉ ofString text := by
  rw [ofString_eq, ← String.utf8Encode_toList, List.utf8Encode, List.toList_data_toByteArray]
  intro member
  obtain ⟨c, hc, octet⟩ := List.mem_flatMap.mp member
  exact zero_not_mem_utf8EncodeChar (fun h => free (h ▸ hc)) octet

end Bytes

namespace Codec

variable {α β : Type}

/-- What is written is read back whatever follows it, unless it is too long; and something is
written for every value. -/
structure Lawful (codec : Codec α) : Prop where
  reads : ∀ a rest, (codec.encode a).length < UInt64.size →
    codec.decode? (codec.encode a ++ rest) = some (a, rest)
  writes : ∀ a, 0 < (codec.encode a).length

/-! ### Plain data -/

theorem splitOctets?_append (bytes rest : List UInt8) :
    splitOctets? bytes.length (bytes ++ rest) = some (bytes, rest) := by
  simp [splitOctets?]

theorem decode?_natural {count n : Nat} (h : n < 256 ^ count) (rest : List UInt8) :
    (natural count).decode? ((natural count).encode n ++ rest) = some (n, rest) := by
  have split := splitOctets?_append (Bytes.ofNat count n) rest
  rw [Bytes.length_ofNat] at split
  simp [natural, split, Bytes.toNat_ofNat h]

theorem length_natural (count n : Nat) : ((natural count).encode n).length = count :=
  Bytes.length_ofNat count n

theorem lawful_word : Lawful word where
  reads w rest _ := by
    have fits : w.toNat < 256 ^ 8 := w.toNat_lt
    simp [word, decode?_natural fits]
  writes w := by simp [word, length_natural]

theorem lawful_flag : Lawful flag where
  reads b rest _ := by cases b <;> rfl
  writes b := by cases b <;> decide

theorem lawful_text : Lawful text where
  reads t rest short := by
    have fits : t.utf8ByteSize < 256 ^ 8 := by
      have : (text.encode t).length = 8 + t.utf8ByteSize := by
        simp [text, length_natural, Bytes.length_ofString]
      unfold UInt64.size at short
      omega
    have split := splitOctets?_append (Bytes.ofString t) rest
    rw [Bytes.length_ofString] at split
    simp [text, decode?_natural fits, split, Bytes.fromUTF8?_ofString]
  writes t := by
    simp only [text, List.length_append, length_natural]
    omega

theorem Lawful.optional {inner : Codec α} (h : inner.Lawful) : (optional inner).Lawful where
  reads a rest short := by
    cases a with
    | none => rfl
    | some a =>
      have shorter : (inner.encode a).length < UInt64.size := Nat.lt_of_succ_lt short
      simp [Codec.optional, h.reads a rest shorter]
  writes a := by cases a <;> simp [Codec.optional]

theorem Lawful.pair {first : Codec α} {second : Codec β} (hf : first.Lawful) (hs : second.Lawful) :
    (first.pair second).Lawful where
  reads p rest short := by
    have sum : (first.encode p.1).length + (second.encode p.2).length < UInt64.size := by
      simpa [Codec.pair] using short
    simp [Codec.pair, hf.reads p.1 _ (by omega), hs.reads p.2 rest (by omega)]
  writes p := by
    have := hf.writes p.1
    simp only [Codec.pair, List.length_append]
    omega

theorem Lawful.decodeMany? {inner : Codec α} (h : inner.Lawful) {as : List α}
    (short : (as.flatMap inner.encode).length < UInt64.size) (rest : List UInt8) :
    inner.decodeMany? as.length (as.flatMap inner.encode ++ rest) = some (as, rest) := by
  induction as with
  | nil => rfl
  | cons a as ih =>
    rw [List.flatMap_cons, List.length_append] at short
    simp [Codec.decodeMany?, h.reads a _ (by omega), ih (by omega)]

/-- A list is no longer than what is written for it. -/
theorem Lawful.length_le {inner : Codec α} (h : inner.Lawful) (as : List α) :
    as.length ≤ (as.flatMap inner.encode).length := by
  induction as with
  | nil => simp
  | cons a as ih =>
    have := h.writes a
    rw [List.flatMap_cons, List.length_append, List.length_cons]
    omega

theorem Lawful.list {inner : Codec α} (h : inner.Lawful) : (list inner).Lawful where
  reads as rest short := by
    have sum : 8 + (as.flatMap inner.encode).length < UInt64.size := by
      simpa only [Codec.list, List.length_append, length_natural] using short
    have count := h.length_le as
    have fits : as.length < 256 ^ 8 := by
      unfold UInt64.size at sum
      omega
    have shorter : (as.flatMap inner.encode).length < UInt64.size := by omega
    simp [Codec.list, decode?_natural fits, h.decodeMany? shorter]
  writes as := by
    simp only [Codec.list, List.length_append, length_natural]
    omega

theorem Lawful.convert {inner : Codec α} (h : inner.Lawful) {toInner : β → α} {ofInner : α → β}
    (back : ∀ b, ofInner (toInner b) = b) : (inner.convert toInner ofInner).Lawful where
  reads b rest short := by
    simp [Codec.convert, h.reads (toInner b) rest short, back]
  writes b := h.writes (toInner b)

/-! ### Choices -/

theorem tag_choice {number : Nat} (h : number < 256 ^ 4) (contents rest : List UInt8) :
    tag.decode? (choice number contents ++ rest) = some (number, contents ++ rest) := by
  rw [choice, List.append_assoc]
  exact decode?_natural h _

theorem length_choice (number : Nat) (contents : List UInt8) :
    (choice number contents).length = 4 + contents.length := by
  rw [choice, List.length_append]
  exact congrArg (· + contents.length) (length_natural 4 number)

theorem choice_pos (number : Nat) (contents : List UInt8) :
    0 < (choice number contents).length := by
  rw [length_choice]
  omega

theorem lt_of_choice {number size : Nat} {contents : List UInt8}
    (short : (choice number contents).length < size) : contents.length < size := by
  rw [length_choice] at short
  omega

theorem Lawful.chosen {inner : Codec α} (h : inner.Lawful) (make : α → β) {a : α}
    (short : (inner.encode a).length < UInt64.size) (rest : List UInt8) :
    chosen inner make (inner.encode a ++ rest) = some (make a, rest) := by
  simp [Codec.chosen, h.reads a rest short]

theorem lawful_oneOf [DecidableEq α] {values : List α} (all : ∀ a, a ∈ values)
    (few : values.length ≤ 256 ^ 4) : (oneOf values).Lawful where
  reads a rest _ := by
    have place : values.idxOf a < values.length := List.idxOf_lt_length_of_mem (all a)
    have read := decode?_natural (Nat.lt_of_lt_of_le place few) rest
    simp [oneOf, tag, read, place]
  writes a := by simp [oneOf, tag, length_natural]

end Codec

end Schemata
