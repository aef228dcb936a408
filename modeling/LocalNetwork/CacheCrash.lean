/-
This file settles what a new cache object makes of a file that a killed process left half
written. A cut inside the length or inside the metadata leaves no JSON object, and nothing is
retrieved. A cut behind the metadata does not show: no length of the body is stored, and what
is there of the body is returned as the whole one, as long as the entry has not expired.
-/

import LocalNetwork.CacheRestart

namespace LocalNetwork

variable {Digest : Type} [DecidableEq Digest] {json : MetadataText} {sha256 : String → Digest}

/-- The text of an object is not empty, and `json.loads` raises its own exception on a text that is
cut short. -/
def MetadataText.RefusesCuts (json : MetadataText) (metadata : Metadata) : Prop :=
  0 < (json.dumps metadata).length ∧
    ∀ cut < (json.dumps metadata).length,
      json.loads ((json.dumps metadata).take cut) = .error .jsonDecodeError

namespace CacheOnDisk

variable {entry : CacheEntry} {content : Bytes}

/-- What a new object retrieves is decided by the file of the key. -/
theorem retrieve_new (files : Dict Digest Bytes) (maxSize : Int) (key : String)
    (now accessed : Time) (file : files.get? (sha256 key) = some content) :
    (retrieve json sha256 .succeed ⟨.new maxSize, files⟩ key now accessed).1 =
      match readEntry json content with
      | .error .jsonDecodeError => .ok none
      | .error .unicodeDecodeError => .error .unicodeDecodeError
      | .error .attributeError => .error .attributeError
      | .ok (metadata, body) =>
        if metadata.expired now then .ok none
        else .ok (metadata.status.bind fun status =>
          metadata.headers.map fun headers => ⟨status, headers, body⟩) := by
  have fromDisk : retrieve json sha256 .succeed ⟨.new maxSize, files⟩ key now accessed =
      retrieveFromDisk json sha256 .succeed ⟨.new maxSize, files⟩ key now := rfl
  rw [fromDisk, retrieveFromDisk, file]
  simp only [FileOutcomes.succeed, Bool.not_true, Bool.false_eq_true, if_false]
  cases readEntry json content with
  | error error => cases error <;> rfl
  | ok read =>
    obtain ⟨⟨status, headers, ttl, createdAt⟩, body⟩ := read
    dsimp only
    split
    · rfl
    · cases status with
      | none => rfl
      | some status => cases headers <;> rfl

/-- A file cut before the end of its metadata is not retrieved. -/
theorem retrieve_cut_metadata (files : Dict Digest Bytes) (maxSize : Int) (now accessed : Time)
    (written : entryFile json entry = some content) (refuses : json.RefusesCuts entry.metadata)
    {cut : Nat} (early : cut < metadataLengthSize + (json.dumps entry.metadata).length)
    (file : files.get? (sha256 entry.key) = some (content.take cut)) :
    (retrieve json sha256 .succeed ⟨.new maxSize, files⟩ entry.key now accessed).1 = .ok none := by
  obtain ⟨fits, rfl⟩ := entryFile_eq_some_iff.mp written
  obtain ⟨rest, read⟩ := readEntry_cut json entry.body fits early
  have refused : json.loads ((json.dumps entry.metadata).take (cut - metadataLengthSize)) =
      .error .jsonDecodeError :=
    refuses.2 _ (by have nonempty := refuses.1; omega)
  rw [retrieve_new files maxSize entry.key now accessed file, read, refused]
  rfl

/-- A file cut behind its metadata is retrieved with what is there of the body. -/
theorem retrieve_cut_body (files : Dict Digest Bytes) (maxSize : Int) (now accessed : Time)
    (written : entryFile json entry = some content) (inverts : json.Inverts entry.metadata)
    {cut : Nat} (late : metadataLengthSize + (json.dumps entry.metadata).length ≤ cut)
    (file : files.get? (sha256 entry.key) = some (content.take cut)) :
    (retrieve json sha256 .succeed ⟨.new maxSize, files⟩ entry.key now accessed).1 =
      if entry.expired now then .ok none
      else .ok (some ⟨entry.status, entry.headers,
        entry.body.take (cut - (metadataLengthSize + (json.dumps entry.metadata).length))⟩) := by
  obtain ⟨fits, rfl⟩ := entryFile_eq_some_iff.mp written
  have parts : (toBigEndian metadataLengthSize (json.dumps entry.metadata).length ++
      json.dumps entry.metadata ++ entry.body).take cut =
        toBigEndian metadataLengthSize (json.dumps entry.metadata).length ++
          json.dumps entry.metadata ++
            entry.body.take (cut - (metadataLengthSize + (json.dumps entry.metadata).length)) := by
    rw [List.take_append, List.take_of_length_le (by simp; omega)]
    simp
  rw [retrieve_new files maxSize entry.key now accessed file, parts,
    readEntry_whole json _ fits, inverts]
  rfl

/-- A new object over a directory with a file that was cut anywhere retrieves nothing for its key
if and only if the cut is before the end of the metadata, or the entry has expired. -/
theorem retrieve_cut_iff (files : Dict Digest Bytes) (maxSize : Int) (now accessed : Time)
    (written : entryFile json entry = some content) (inverts : json.Inverts entry.metadata)
    (refuses : json.RefusesCuts entry.metadata) {cut : Nat}
    (file : files.get? (sha256 entry.key) = some (content.take cut)) :
    (retrieve json sha256 .succeed ⟨.new maxSize, files⟩ entry.key now accessed).1 = .ok none ↔
      cut < metadataLengthSize + (json.dumps entry.metadata).length ∨
        entry.expired now = true := by
  by_cases early : cut < metadataLengthSize + (json.dumps entry.metadata).length
  · exact ⟨fun _ => .inl early, fun _ =>
      retrieve_cut_metadata files maxSize now accessed written refuses early file⟩
  · rw [retrieve_cut_body files maxSize now accessed written inverts (Nat.le_of_not_lt early) file]
    by_cases expired : entry.expired now = true
    · rw [if_pos expired]
      exact ⟨fun _ => .inr expired, fun _ => rfl⟩
    · rw [if_neg expired]
      exact ⟨nofun, fun either => (either.elim early expired).elim⟩

end CacheOnDisk

/-! ### A cut body -/

theorem plainEntry_refusesCuts : plainMetadata.RefusesCuts plainEntry.metadata := by
  refine ⟨by decide, fun cut short => ?_⟩
  refine if_neg fun same => ?_
  have length := congrArg List.length same
  rw [List.length_take, Nat.min_eq_left (Nat.le_of_lt short)] at length
  exact Nat.ne_of_lt short length

/-- The file of the one entry, and the file without its last byte. -/
def plainFile : Bytes := (entryFile plainMetadata plainEntry).getD []

def plainCut : Dict String Bytes :=
  Dict.ofEntries [("60", plainFile.take (plainFile.length - 1))]

/-- A cut before the last byte of the body, when the entry has expired. -/
theorem retrieve_cut_iff_plain :
    (CacheOnDisk.retrieve plainMetadata plainDigest .succeed ⟨.new 100, plainCut⟩ "GET:/"
        500 500).1 = .ok none ↔
      plainFile.length - 1 < metadataLengthSize +
          (plainMetadata.dumps plainEntry.metadata).length ∨ plainEntry.expired 500 = true :=
  CacheOnDisk.retrieve_cut_iff plainCut 100 500 500 rfl plainEntry_inverts
    plainEntry_refusesCuts rfl

/-- The body of two bytes is cut to one, and the response is retrieved with the one byte. -/
theorem retrieve_cut_counterexample :
    plainFile.length - 1 < plainFile.length ∧
      plainCut.get? (plainDigest plainEntry.key) = some (plainFile.take (plainFile.length - 1)) ∧
        (CacheOnDisk.retrieve plainMetadata plainDigest .succeed ⟨.new 100, plainCut⟩ "GET:/"
          200 200).1 = .ok (some ⟨200, Dict.empty, [104]⟩) := by
  refine ⟨by decide, rfl, ?_⟩
  have late : metadataLengthSize + (plainMetadata.dumps plainEntry.metadata).length ≤
      plainFile.length - 1 := by decide
  exact CacheOnDisk.retrieve_cut_body plainCut 100 200 200 rfl plainEntry_inverts late rfl

end LocalNetwork
