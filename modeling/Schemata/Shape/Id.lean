import Schemata.Digest.Blake3

/-!
# Ids of type shapes

A shape is known by an id: the first eight octets of a digest.  The parts that go into the digest
are framed by their lengths, so that neighbouring parts never run together.

## Main definitions

* `ShapeId.declaration` : the id of a declaration, from its file and name.
* `ShapeId.node` : the id of an anonymous shape, from its file, its context and its canonical text.
-/

namespace Schemata

/-- The id of a type shape. -/
structure ShapeId where
  value : UInt64
deriving DecidableEq, Repr, Inhabited

namespace ShapeId

/-- The first eight octets of a digest, read as a number. -/
def truncate (digest : List UInt8) : UInt64 :=
  UInt64.ofNat (Bytes.toNat (digest.take 8))

/-- One part with its length in front. -/
def framePart (part : String) : List UInt8 :=
  Bytes.ofNat 8 part.utf8ByteSize ++ Bytes.ofString part

/-- The octets that stand for a list of parts. -/
def frame (parts : List String) : List UInt8 :=
  parts.flatMap framePart

/-- The parts that name a declaration. -/
def declarationParts (file name : String) : List String :=
  ["decl", file, name]

/-- The parts that name an anonymous shape. -/
def nodeParts (file context canonical : String) : List String :=
  ["node", file, context, canonical]

/-- The id of a list of parts. -/
def ofParts (parts : List String) : ShapeId :=
  ⟨truncate (Blake3.digest (frame parts))⟩

/-- The id of the declaration `name` in `file`. -/
def declaration (file name : String) : ShapeId :=
  ofParts (declarationParts file name)

/-- The id of the anonymous shape with the canonical text `canonical`, met in `file` while the
declaration `context` is read. -/
def node (file context canonical : String) : ShapeId :=
  ofParts (nodeParts file context canonical)

/-- Lower-case hexadecimal digits, padded with zeros to `width`. -/
def padHex (width n : Nat) : String :=
  let digits := Nat.toDigits 16 n
  String.ofList (List.replicate (width - digits.length) '0' ++ digits)

/-- All sixteen hexadecimal digits. -/
def toHex (id : ShapeId) : String :=
  padHex 16 id.value.toNat

/-- The eight leading hexadecimal digits. -/
def short (id : ShapeId) : String :=
  padHex 8 (id.value.toNat / Nat.pow 2 32)

/-- The id as it stands inside canonical texts of transforms. -/
def canonical (id : ShapeId) : String :=
  s!"TypeId({id.toHex})"

end ShapeId

end Schemata
