import Schemata.Bytes

/-!
# Binary codecs

A codec writes values as octets and reads them back from the start of a longer string of octets.
Numbers have a fixed width with the least octet first, texts and lists carry their length in front,
and a choice is written as its number.

## Main definitions

* `Codec` : a writer with its reader.
* `Codec.word`, `Codec.flag`, `Codec.text`, `Codec.optional`, `Codec.list`, `Codec.pair` : codecs
  for plain data.
* `Codec.oneOf`, `Codec.tag` : codecs for choices.
-/

namespace Schemata

/-- Writes values as octets and reads them back. -/
structure Codec (α : Type) where
  encode : α → List UInt8
  /-- Reads a value at the start of a string and returns what is behind it. -/
  decode? : List UInt8 → Option (α × List UInt8)

namespace Codec

variable {α β : Type}

/-- The first `count` octets of a string, and the others. -/
def splitOctets? (count : Nat) (bytes : List UInt8) : Option (List UInt8 × List UInt8) :=
  if count ≤ bytes.length then some (bytes.take count, bytes.drop count) else none

/-- A number of `count` octets. -/
def natural (count : Nat) : Codec Nat where
  encode n := Bytes.ofNat count n
  decode? bytes := do
    let (octets, rest) ← splitOctets? count bytes
    return (Bytes.toNat octets, rest)

/-- A word of eight octets. -/
def word : Codec UInt64 where
  encode w := (natural 8).encode w.toNat
  decode? bytes := do
    let (n, rest) ← (natural 8).decode? bytes
    return (UInt64.ofNat n, rest)

/-- A truth value: one octet, zero or one. -/
def flag : Codec Bool where
  encode
    | false => [0]
    | true => [1]
  decode?
    | 0 :: rest => some (false, rest)
    | 1 :: rest => some (true, rest)
    | _ => none

/-- A text in UTF-8 with its number of octets in front. -/
def text : Codec String where
  encode t := (natural 8).encode t.utf8ByteSize ++ Bytes.ofString t
  decode? bytes := do
    let (size, rest) ← (natural 8).decode? bytes
    let (octets, rest) ← splitOctets? size rest
    let t ← String.fromUTF8? (ByteArray.mk octets.toArray)
    return (t, rest)

/-- A value that may be missing: one octet tells whether it is there. -/
def optional (inner : Codec α) : Codec (Option α) where
  encode
    | none => [0]
    | some a => 1 :: inner.encode a
  decode?
    | 0 :: rest => some (none, rest)
    | 1 :: rest => do
      let (a, rest) ← inner.decode? rest
      return (some a, rest)
    | _ => none

/-- Two values, one after the other. -/
def pair (first : Codec α) (second : Codec β) : Codec (α × β) where
  encode p := first.encode p.1 ++ second.encode p.2
  decode? bytes := do
    let (a, rest) ← first.decode? bytes
    let (b, rest) ← second.decode? rest
    return ((a, b), rest)

/-- Reads `count` values. -/
def decodeMany? (inner : Codec α) : Nat → List UInt8 → Option (List α × List UInt8)
  | 0, bytes => some ([], bytes)
  | count + 1, bytes => do
    let (a, rest) ← inner.decode? bytes
    let (as, rest) ← decodeMany? inner count rest
    return (a :: as, rest)

/-- A list with its length in front. -/
def list (inner : Codec α) : Codec (List α) where
  encode as := (natural 8).encode as.length ++ as.flatMap inner.encode
  decode? bytes := do
    let (count, rest) ← (natural 8).decode? bytes
    inner.decodeMany? count rest

/-- A codec for values that stand for others. -/
def convert (inner : Codec α) (toInner : β → α) (ofInner : α → β) : Codec β where
  encode b := inner.encode (toInner b)
  decode? bytes := (inner.decode? bytes).map fun (a, rest) => (ofInner a, rest)

/-- The number of a choice. -/
def tag : Codec Nat :=
  natural 4

/-- One of a list of values, written as its place. -/
def oneOf [DecidableEq α] (values : List α) : Codec α where
  encode a := tag.encode (values.idxOf a)
  decode? bytes := do
    let (place, rest) ← tag.decode? bytes
    return (← values[place]?, rest)

/-- Writes the number of a choice in front of its contents. -/
def choice (number : Nat) (contents : List UInt8) : List UInt8 :=
  tag.encode number ++ contents

/-- Reads contents into a choice. -/
def chosen (inner : Codec α) (make : α → β) (bytes : List UInt8) : Option (β × List UInt8) :=
  (inner.decode? bytes).map fun (a, rest) => (make a, rest)

end Codec

end Schemata
