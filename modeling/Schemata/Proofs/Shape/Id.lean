import Schemata.Proofs.Binary.Codec
import Schemata.Proofs.Text.Readable

/-!
# What ids are made of

An id is cut from a digest of octets: a word for its kind and the texts that it is made for, each
with its length in front.  A text may hold any octets, also those of a length or of another part.
The octets still tell which kind of id it is and what all the texts are, as long as the lengths fit
in a word.  Cutting a digest keeps its first eight octets, so two ids are equal only if they are
made for the same, or if the digests of different octets begin alike.

## Main definitions

* `ShapeId.Subject` : what an id is made for, a declaration or an anonymous shape.
* `ShapeId.Collide` : different octets whose digests begin with the same eight octets.

## Main results

* `ShapeId.readable_framePart`, `ShapeId.frame_inj` : framed parts can be read off.
* `ShapeId.truncate_eq_iff` : nothing but the end of a digest is lost.
* `ShapeId.Subject.octets_identify` : what the octets behind ids, and ids, tell apart.
-/

namespace Schemata

/-! ### The length of a digest -/

namespace Blake3

theorem length_flatMap_ofNat (words : List UInt32) :
    (words.flatMap fun word => Bytes.ofNat 4 word.toNat).length = 4 * words.length := by
  induction words with
  | nil => rfl
  | cons word words ih =>
    rw [List.flatMap_cons, List.length_append, Bytes.length_ofNat, ih, List.length_cons]
    omega

theorem Node.length_digest (node : Node) : node.digest.length = 32 := by
  unfold Node.digest
  rw [length_flatMap_ofNat, Vector.length_toList]

theorem length_digest (bytes : List UInt8) : (digest bytes).length = 32 := by
  unfold digest
  exact Node.length_digest _

end Blake3

namespace ShapeId

/-! ### Framed parts -/

/-- A part whose length fits in the word in front of it can be read off. -/
theorem readable_framePart :
    Readable (fun part : String => part.utf8ByteSize < UInt64.size) framePart := by
  intro part part' fits fits' rest rest' same
  simp only [framePart, List.append_assoc] at same
  obtain ⟨sizes, same⟩ := List.append_inj same (by rw [Bytes.length_ofNat, Bytes.length_ofNat])
  have size := Bytes.ofNat_inj fits fits' sizes
  obtain ⟨texts, rests⟩ := List.append_inj same
    (by rw [Bytes.length_ofString, Bytes.length_ofString, size])
  exact ⟨Bytes.ofString_inj texts, rests⟩

theorem framePart_ne_nil (part : String) : framePart part ≠ [] := by
  simp [framePart, Bytes.ofNat]

/-- Framed parts tell how many parts there are and what each of them is. -/
theorem frame_inj {parts parts' : List String}
    (fits : ∀ part ∈ parts, part.utf8ByteSize < UInt64.size)
    (fits' : ∀ part ∈ parts', part.utf8ByteSize < UInt64.size)
    (same : frame parts = frame parts') : parts = parts' :=
  readable_framePart.flatMap_inj framePart_ne_nil fits fits' same

/-! ### Digests that are cut -/

theorem toNat_truncate (digest : List UInt8) :
    (truncate digest).toNat = Bytes.toNat (digest.take 8) := by
  have small : Bytes.toNat (digest.take 8) < UInt64.size :=
    calc Bytes.toNat (digest.take 8) < 256 ^ (digest.take 8).length := Bytes.toNat_lt _
      _ ≤ 256 ^ 8 := Nat.pow_le_pow_right (by decide) (List.length_take_le 8 digest)
  exact UInt64.toNat_ofNat_of_lt' small

/-- Two digests are cut to the same number if and only if they begin with the same eight octets. -/
theorem truncate_eq_iff {digest digest' : List UInt8} (long : 8 ≤ digest.length)
    (long' : 8 ≤ digest'.length) :
    truncate digest = truncate digest' ↔ digest.take 8 = digest'.take 8 := by
  rw [← UInt64.toNat_inj, toNat_truncate, toNat_truncate]
  refine ⟨Bytes.toNat_inj ?_, congrArg Bytes.toNat⟩
  rw [List.length_take_of_le long, List.length_take_of_le long']

/-- The octets are different, but their digests begin with the same eight octets. -/
def Collide (octets octets' : List UInt8) : Prop :=
  octets ≠ octets' ∧ (Blake3.digest octets).take 8 = (Blake3.digest octets').take 8

/-! ### What ids are made for -/

/-- What an id is made for. -/
inductive Subject where
  | declaration (file name : String)
  | node (file context canonical : String)
deriving DecidableEq, Repr

namespace Subject

/-- The id that is made for a subject. -/
def id : Subject → ShapeId
  | declaration file name => ShapeId.declaration file name
  | node file context canonical => ShapeId.node file context canonical

/-- The texts of a subject. -/
def texts : Subject → List String
  | declaration file name => [file, name]
  | node file context canonical => [file, context, canonical]

/-- The parts that go into the digest. -/
def parts : Subject → List String
  | declaration file name => declarationParts file name
  | node file context canonical => nodeParts file context canonical

/-- The octets of which the id is a digest. -/
def octets (subject : Subject) : List UInt8 :=
  frame subject.parts

/-- The length of each text fits in a word. -/
def Measured (subject : Subject) : Prop :=
  ∀ text ∈ subject.texts, text.utf8ByteSize < UInt64.size

instance (subject : Subject) : Decidable subject.Measured :=
  inferInstanceAs (Decidable (∀ text ∈ subject.texts, text.utf8ByteSize < UInt64.size))

/-- The first part is a word of its own for each kind, so no node has the parts of a declaration. -/
theorem parts_inj {a b : Subject} (same : a.parts = b.parts) : a = b := by
  cases a <;> cases b <;> simp_all [parts, declarationParts, nodeParts]

theorem Measured.parts {subject : Subject} (measured : subject.Measured) :
    ∀ part ∈ subject.parts, part.utf8ByteSize < UInt64.size := by
  have kinds : "decl".utf8ByteSize < UInt64.size ∧ "node".utf8ByteSize < UInt64.size := by
    decide
  cases subject with
  | declaration file name => exact List.forall_mem_cons.mpr ⟨kinds.1, measured⟩
  | node file context canonical => exact List.forall_mem_cons.mpr ⟨kinds.2, measured⟩

theorem octets_inj {a b : Subject} (ha : a.Measured) (hb : b.Measured)
    (same : a.octets = b.octets) : a = b :=
  parts_inj (frame_inj ha.parts hb.parts same)

theorem id_eq (subject : Subject) :
    subject.id = ⟨truncate (Blake3.digest subject.octets)⟩ := by
  cases subject <;> rfl

/-- Ids are equal if and only if the digests behind them begin alike. -/
theorem id_eq_iff (a b : Subject) :
    a.id = b.id ↔ (Blake3.digest a.octets).take 8 = (Blake3.digest b.octets).take 8 := by
  have long (octets : List UInt8) : 8 ≤ (Blake3.digest octets).length := by
    rw [Blake3.length_digest]
    decide
  rw [id_eq, id_eq, ShapeId.mk.injEq]
  exact truncate_eq_iff (long _) (long _)

/-- The octets behind two ids are the same only if both are ids of declarations or both of
anonymous shapes, and are made for the same texts.  So ids that are made for anything else are equal
if and only if their octets collide. -/
theorem octets_identify {a b : Subject} (ha : a.Measured) (hb : b.Measured) :
    (a.octets = b.octets ↔ a = b) ∧ (a.id = b.id ↔ a = b ∨ Collide a.octets b.octets) := by
  have octets : a.octets = b.octets ↔ a = b := ⟨octets_inj ha hb, congrArg Subject.octets⟩
  refine ⟨octets, ?_, ?_⟩
  · intro same
    by_cases subjects : a = b
    · exact .inl subjects
    · exact .inr ⟨mt octets.mp subjects, (id_eq_iff a b).mp same⟩
  · rintro (rfl | ⟨-, alike⟩)
    · rfl
    · exact (id_eq_iff a b).mpr alike

/-- A node with three short texts. -/
def brief : Subject :=
  node "a" "b" "c"

/-- A declaration in a file whose name goes on with the length and the letter of another text. -/
def nested : Subject :=
  declaration "a\x01\x00\x00\x00\x00\x00\x00\x00b" "c"

/-- From its first letter on, the declaration has the octets of the node.  Neither the octets as a
whole nor the ids are the same. -/
theorem octets_identify_nested :
    nested.Measured ∧ brief.Measured ∧ nested.octets.drop 20 = brief.octets.drop 20 ∧
      nested.octets ≠ brief.octets ∧ nested.id ≠ brief.id ∧
      ¬ Collide nested.octets brief.octets := by
  have measured : nested.Measured := by decide +kernel
  have measured' : brief.Measured := by decide +kernel
  obtain ⟨octets, ids⟩ := octets_identify measured measured'
  have apart : nested.id ≠ brief.id := by decide +kernel
  exact ⟨measured, measured', by decide +kernel, mt octets.mp (by decide), apart,
    fun collide => apart (ids.mpr (.inr collide))⟩

end Subject

end ShapeId

end Schemata
