import NatRouter.Lib.ByteMemory

/-!
# Capture files

The file format of `tcpdump` on a little-endian machine: a header, and then record after record, each
with a header of its own that says how many bytes of data there are behind it.  `readCapture` is what a
reader of such files makes of one; what was written as a header and records is read as these
(`readCapture_captureBytes`).
-/

namespace CaptureFile

open ByteMemory

/-! ### Words -/

/-- The bytes of a word, least significant first. -/
def le32 (v : UInt32) : List UInt8 :=
  [⟨v.toBitVec.extractLsb' 0 8⟩, ⟨v.toBitVec.extractLsb' 8 8⟩, ⟨v.toBitVec.extractLsb' 16 8⟩,
    ⟨v.toBitVec.extractLsb' 24 8⟩]

/-- The bytes of a short word, least significant first. -/
def le16 (v : UInt16) : List UInt8 :=
  [⟨v.toBitVec.extractLsb' 0 8⟩, ⟨v.toBitVec.extractLsb' 8 8⟩]

/-- The first word of a file, and what is behind it. -/
def readWord : List UInt8 → Option (UInt32 × List UInt8)
  | a :: b :: c :: d :: rest =>
    some (⟨d.toBitVec ++ c.toBitVec ++ (b.toBitVec ++ a.toBitVec)⟩, rest)
  | _ => none

/-- The first short word. -/
def readShort : List UInt8 → Option (UInt16 × List UInt8)
  | a :: b :: rest => some (⟨b.toBitVec ++ a.toBitVec⟩, rest)
  | _ => none

/-- A word is read back. -/
@[simp] lemma readWord_le32 (v : UInt32) (rest : List UInt8) :
    readWord (le32 v ++ rest) = some (v, rest) := by
  have hword : (⟨v.toBitVec.extractLsb' 24 8 ++ v.toBitVec.extractLsb' 16 8 ++
      (v.toBitVec.extractLsb' 8 8 ++ v.toBitVec.extractLsb' 0 8)⟩ : UInt32) = v :=
    UInt32.eq_of_toBitVec_eq (append_extractLsb'_bytes v.toBitVec)
  simp only [le32, List.cons_append, List.nil_append, readWord, hword]

/-- A short word is read back. -/
@[simp] lemma readShort_le16 (v : UInt16) (rest : List UInt8) :
    readShort (le16 v ++ rest) = some (v, rest) := by
  have hword : (⟨v.toBitVec.extractLsb' 8 8 ++ v.toBitVec.extractLsb' 0 8⟩ : UInt16) = v :=
    UInt16.eq_of_toBitVec_eq (@BitVec.extractLsb'_append_extractLsb' 8 8 v.toBitVec)
  simp only [le16, List.cons_append, List.nil_append, readShort, hword]

/-! ### Headers and records -/

/-- The magic number. -/
def magic : UInt32 := 0xa1b2c3d4

/-- What the header says. -/
structure CaptureHeader where
  /-- The version of the format, before the dot. -/
  versionMajor : UInt16
  /-- And behind it. -/
  versionMinor : UInt16
  /-- The time zone. -/
  thiszone : UInt32
  /-- The accuracy of the times. -/
  sigfigs : UInt32
  /-- How much of a packet is stored at most. -/
  snaplen : UInt32
  /-- The type of the link. -/
  linktype : UInt32
  deriving DecidableEq

/-- The header of a record. -/
structure RecordHeader where
  /-- The time, in seconds. -/
  tvSec : UInt32
  /-- And microseconds. -/
  tvUsec : UInt32
  /-- How much of the packet is stored. -/
  caplen : UInt32
  /-- How long the packet was. -/
  len : UInt32
  deriving DecidableEq

/-- A record: its header says how long it is. -/
structure CaptureRecord where
  /-- The header. -/
  header : RecordHeader
  /-- What is stored of the packet. -/
  data : List UInt8
  /-- It is as long as the header says. -/
  length_data : data.length = header.caplen.toNat

/-- A header in a file. -/
def CaptureHeader.bytes (h : CaptureHeader) : List UInt8 :=
  le32 magic ++ le16 h.versionMajor ++ le16 h.versionMinor ++ le32 h.thiszone ++ le32 h.sigfigs ++
    le32 h.snaplen ++ le32 h.linktype

/-- The header of a record in a file. -/
def RecordHeader.bytes (h : RecordHeader) : List UInt8 :=
  le32 h.tvSec ++ le32 h.tvUsec ++ le32 h.caplen ++ le32 h.len

/-- A record in a file. -/
def CaptureRecord.bytes (r : CaptureRecord) : List UInt8 := r.header.bytes ++ r.data

/-! ### Reading -/

/-- The fields of a header behind the magic number, and what is behind them. -/
def readFields (file : List UInt8) : Option (CaptureHeader × List UInt8) := do
  let (versionMajor, file) ← readShort file
  let (versionMinor, file) ← readShort file
  let (thiszone, file) ← readWord file
  let (sigfigs, file) ← readWord file
  let (snaplen, file) ← readWord file
  let (linktype, file) ← readWord file
  return (⟨versionMajor, versionMinor, thiszone, sigfigs, snaplen, linktype⟩, file)

/-- The header of a file, and what is behind it. -/
def readHeader (file : List UInt8) : Option (CaptureHeader × List UInt8) :=
  match readWord file with
  | none => none
  | some (first, file) => if first = magic then readFields file else none

/-- The header of the first record, and what is behind it. -/
def readRecordHeader (file : List UInt8) : Option (RecordHeader × List UInt8) := do
  let (tvSec, file) ← readWord file
  let (tvUsec, file) ← readWord file
  let (caplen, file) ← readWord file
  let (len, file) ← readWord file
  return (⟨tvSec, tvUsec, caplen, len⟩, file)

/-- The first record, and what is behind it. -/
def readRecord (file : List UInt8) : Option (CaptureRecord × List UInt8) :=
  match readRecordHeader file with
  | none => none
  | some (header, file) =>
    if h : (file.take header.caplen.toNat).length = header.caplen.toNat then
      some (⟨header, _, h⟩, file.drop header.caplen.toNat)
    else none

/-- At most `fuel` records, if the file ends with one of them. -/
def readRecords : ℕ → List UInt8 → Option (List CaptureRecord)
  | _, [] => some []
  | 0, _ => none
  | fuel + 1, file =>
    match readRecord file with
    | none => none
    | some (r, file) => (readRecords fuel file).map (r :: ·)

/-- What a reader makes of a file: the header and the records, of which there are fewer than bytes. -/
def readCapture (file : List UInt8) : Option (CaptureHeader × List CaptureRecord) :=
  match readHeader file with
  | none => none
  | some (header, file) => (readRecords file.length file).map (header, ·)

/-- A header is read back. -/
lemma readHeader_bytes (h : CaptureHeader) (rest : List UInt8) :
    readHeader (h.bytes ++ rest) = some (h, rest) := by
  simp [readHeader, readFields, CaptureHeader.bytes, List.append_assoc]

/-- A record is read back. -/
lemma readRecord_bytes (r : CaptureRecord) (rest : List UInt8) :
    readRecord (r.bytes ++ rest) = some (r, rest) := by
  have hheader : readRecordHeader (r.header.bytes ++ (r.data ++ rest)) =
      some (r.header, r.data ++ rest) := by
    simp [readRecordHeader, RecordHeader.bytes, List.append_assoc]
  have hdata : (r.data ++ rest).take r.header.caplen.toNat = r.data := by
    rw [← r.length_data, List.take_left]
  have hrest : (r.data ++ rest).drop r.header.caplen.toNat = rest := by
    rw [← r.length_data, List.drop_left]
  rw [CaptureRecord.bytes, List.append_assoc, readRecord, hheader]
  simp only [hdata, r.length_data, hrest, dite_true]

/-- A record takes some bytes. -/
lemma CaptureRecord.bytes_ne_nil (r : CaptureRecord) : r.bytes ≠ [] := List.cons_ne_nil _ _

/-- Records are read back. -/
lemma readRecords_bytes {records : List CaptureRecord} {fuel : ℕ} (h : records.length ≤ fuel) :
    readRecords fuel (records.flatMap CaptureRecord.bytes) = some records := by
  induction records generalizing fuel with
  | nil => cases fuel <;> rfl
  | cons r records ih =>
    obtain ⟨fuel, rfl⟩ := Nat.exists_eq_succ_of_ne_zero (Nat.ne_zero_of_lt h)
    rw [List.flatMap_cons, readRecords, readRecord_bytes]
    · simp only [ih (Nat.le_of_succ_le_succ h), Option.map_some]
    · exact fun hnil => r.bytes_ne_nil (List.append_eq_nil_iff.mp hnil).1

/-- There are no more records than bytes. -/
lemma length_le_length_flatMap_bytes (records : List CaptureRecord) :
    records.length ≤ (records.flatMap CaptureRecord.bytes).length := by
  induction records with
  | nil => exact Nat.le_refl 0
  | cons r records ih =>
    have hpos := List.length_pos_iff.mpr r.bytes_ne_nil
    rw [List.flatMap_cons, List.length_append, List.length_cons]
    omega

/-- **A capture is read back.** -/
theorem readCapture_captureBytes (h : CaptureHeader) (records : List CaptureRecord) :
    readCapture (h.bytes ++ records.flatMap CaptureRecord.bytes) = some (h, records) := by
  rw [readCapture, readHeader_bytes]
  simp only [readRecords_bytes (length_le_length_flatMap_bytes records)]
  rfl

end CaptureFile
