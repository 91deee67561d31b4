import Darasa.Curriculum.Diff
import Darasa.Foundation.Separators
import Mathlib.Logic.Equiv.Basic

/-!
Fingerprints of submitted evidence: which documents have one in common.

Six fields name a document.  Each is trimmed and lowered, and the six are joined with a
control character before they are hashed.  The character may stand in a field as well, and
then the same text can be six other fields.
-/

namespace Darasa.Curriculum

open Darasa (Unicode)

/-! ## The fields that name a document -/

/-- The fields of a document's identity, trimmed and lowered. -/
structure DocumentIdentity where
  fileChecksum : String
  claimedAuthority : String
  claimedReferenceNumber : String
  claimedPublicationNumber : String
  claimedPublicationDate : String
  claimedEffectiveDate : String
  deriving DecidableEq, Repr

namespace DocumentIdentity

/-- The fields, in the order they are hashed. -/
def parts (identity : DocumentIdentity) : List String :=
  [identity.fileChecksum, identity.claimedAuthority, identity.claimedReferenceNumber,
    identity.claimedPublicationNumber, identity.claimedPublicationDate,
    identity.claimedEffectiveDate]

theorem parts_inj {identity other : DocumentIdentity} (same : identity.parts = other.parts) :
    identity = other := by
  cases identity
  cases other
  simpa [parts] using same

end DocumentIdentity

section

variable {O : Type} [SnapshotObject O] [Unicode]

/-- A payload: what is filed under each key. -/
abbrev EvidencePayload (O : Type) := List (String × SnapshotValue O)

/-- `payload.get(key, "")`. -/
def EvidencePayload.field (payload : EvidencePayload O) (key : String) : SnapshotValue O :=
  ((payload.find? fun entry => entry.1 == key).map Prod.snd).getD (.str "")

/-- `value or ""`, as text. -/
def SnapshotValue.textOrEmpty (value : SnapshotValue O) : String :=
  if value.truthy then value.text else ""

/-- The identity of the document a payload submits. -/
def EvidencePayload.identity (payload : EvidencePayload O) : DocumentIdentity where
  fileChecksum := Text.lower (Text.strip (payload.field "file_checksum").text)
  claimedAuthority := Text.lower (Text.strip (payload.field "claimed_authority").text)
  claimedReferenceNumber :=
    Text.lower (Text.strip (payload.field "claimed_reference_number").text)
  claimedPublicationNumber :=
    Text.lower (Text.strip (payload.field "claimed_publication_number").text)
  -- a date that is missing, `None` or empty is the empty text
  claimedPublicationDate :=
    Text.lower (Text.strip (payload.field "claimed_publication_date").textOrEmpty)
  claimedEffectiveDate :=
    Text.lower (Text.strip (payload.field "claimed_effective_date").textOrEmpty)

/-! ## Fingerprints -/

/-- `"\x1f"`. -/
def unitSeparator : Char := '\x1f'

variable [Sha256]

/-- `build_evidence_fingerprint`. -/
def buildEvidenceFingerprint (fileChecksum claimedAuthority claimedReferenceNumber
    claimedPublicationNumber : String)
    (claimedPublicationDate claimedEffectiveDate : SnapshotValue O) : String :=
  let parts := [
    Text.lower (Text.strip fileChecksum),
    Text.lower (Text.strip claimedAuthority),
    Text.lower (Text.strip claimedReferenceNumber),
    Text.lower (Text.strip claimedPublicationNumber),
    Text.lower (Text.strip claimedPublicationDate.textOrEmpty),
    Text.lower (Text.strip claimedEffectiveDate.textOrEmpty)]
  "sha256:" ++ Sha256.hexdigest (.ofList ([unitSeparator].intercalate (parts.map String.toList)))

/-- `fingerprint_payload`. -/
def fingerprintPayload (payload : EvidencePayload O) : String :=
  buildEvidenceFingerprint (payload.field "file_checksum").text
    (payload.field "claimed_authority").text (payload.field "claimed_reference_number").text
    (payload.field "claimed_publication_number").text (payload.field "claimed_publication_date")
    (payload.field "claimed_effective_date")

/-- The pieces the separator cuts the fields of an identity into, field by field. -/
def DocumentIdentity.pieces (identity : DocumentIdentity) : List (List (List Char)) :=
  identity.parts.map fun part => part.toList.splitOn unitSeparator

/-- The two have the same pieces only with as many to each field: what the fields of one are
cut into is not what the fields of the other are cut into in another place. -/
def CutAlike (identity other : DocumentIdentity) : Prop :=
  identity.pieces.flatten = other.pieces.flatten →
    identity.pieces.map List.length = other.pieces.map List.length

instance (identity other : DocumentIdentity) : Decidable (CutAlike identity other) := by
  unfold CutAlike
  infer_instance

omit [SnapshotObject O] [Unicode] [Sha256] in
theorem pieces_flatten (identity : DocumentIdentity) : identity.pieces.flatten =
    (identity.parts.map String.toList).flatMap (List.splitOn unitSeparator) := by
  rw [DocumentIdentity.pieces, ← List.flatMap_def, List.flatMap_map]

omit [SnapshotObject O] [Unicode] [Sha256] in
theorem pieces_counts (identity : DocumentIdentity) : identity.pieces.map List.length =
    (identity.parts.map String.toList).map fun part => (part.splitOn unitSeparator).length := by
  rw [DocumentIdentity.pieces, List.map_map, List.map_map]
  rfl

/-- Two fingerprints are one exactly when the fields have the same pieces. -/
theorem fingerprints_eq_iff (injective : Function.Injective Sha256.hexdigest)
    {a b : EvidencePayload O} : fingerprintPayload a = fingerprintPayload b ↔
      a.identity.pieces.flatten = b.identity.pieces.flatten := by
  have digest : ∀ payload : EvidencePayload O, fingerprintPayload payload = "sha256:" ++
      Sha256.hexdigest (.ofList ([unitSeparator].intercalate
        (payload.identity.parts.map String.toList))) := fun _ => rfl
  rw [digest, digest, String.append_right_inj, injective.eq_iff, String.ofList_inj,
    pieces_flatten, pieces_flatten]
  exact Separators.intercalate_eq_iff (by simp [DocumentIdentity.parts])
    (by simp [DocumentIdentity.parts])

omit [Unicode] [Sha256] in
/-- Fields of the same pieces, as many to each, are the same fields. -/
theorem eq_of_pieces {identity other : DocumentIdentity}
    (pieces : identity.pieces.flatten = other.pieces.flatten)
    (counts : identity.pieces.map List.length = other.pieces.map List.length) :
    identity = other := by
  rw [pieces_flatten, pieces_flatten] at pieces
  rw [pieces_counts, pieces_counts] at counts
  exact DocumentIdentity.parts_inj (List.map_injective_iff.mpr (fun _ _ => String.toList_inj.mp)
    (Separators.parts_eq_of_pieces pieces counts))

omit [Unicode] [Sha256] in
/-- Fields without the separator are cut like any others. -/
theorem cutAlike_of_free {identity : DocumentIdentity} (other : DocumentIdentity)
    (free : ∀ part ∈ identity.parts, unitSeparator ∉ part.toList) : CutAlike identity other := by
  intro pieces
  rw [pieces_flatten, pieces_flatten] at pieces
  rw [pieces_counts, pieces_counts]
  exact Separators.counts_of_free (List.forall_mem_map.mpr free) rfl pieces

/-- Where no field of a document has the separator, only payloads of that document have its
fingerprint. -/
theorem fingerprint_names_document (injective : Function.Injective Sha256.hexdigest)
    {a : EvidencePayload O} (free : ∀ part ∈ a.identity.parts, unitSeparator ∉ part.toList)
    (b : EvidencePayload O) : fingerprintPayload a = fingerprintPayload b ↔
      a.identity = b.identity := by
  rw [fingerprints_eq_iff injective]
  exact ⟨fun pieces => eq_of_pieces pieces (cutAlike_of_free b.identity free pieces),
    fun same => by rw [same]⟩

end

/-! ## A circular -/

section Sample

attribute [local instance] Unicode.ascii

/-- No object but what JSON has. -/
local instance noObject : SnapshotObject Empty where
  str := Empty.elim
  repr := Empty.elim
  truthy := Empty.elim
  unhashable? := Empty.elim
  equal _ _ := false

/-- The digests of the two texts the samples hash; another text changes place with one of
them or is its own. -/
local instance sampleDigest : Sha256 where
  hexdigest text :=
    Equiv.swap "9f86d081\x1fkicd\x1fnotice\x1f7\x1f\x1f\x1f"
      "ef7db1b45acbc7f01a0637c15589b6ecda62ba722d420e8fe8e51629485930b1"
      (Equiv.swap "9f86d081\x1fkicd\x1f2026/7\x1f\x1f\x1f"
        "787c0a5f4fe7b22f475c8d4c095bcbb0d2b1a2ae880bce0e4f816a8eff3cf31d" text)

end Sample

end Darasa.Curriculum
