import NatRouter.Lib.CaptureFile
import NatRouter.Vns.MessageLengths

/-!
# The log file (`sr_dumper.c`, `sr_log_packet`)

The router can log the frames that it is handed and those that it sends to a file in the format of
`tcpdump`, which is opened for records of 1024 bytes.  Of a longer frame the first 1024 bytes are logged,
with a header that says that it had no more.  Each call of `sr_log_packet` adds one record to the file, if
its length is not negative; then a reader finds in the file what was logged (`capture_iff`).  The calls
are made one after the other: what two threads write at a time is not followed.
-/

namespace NatRouter

open ByteMemory CaptureFile

/-! ### `sr_dumper.c` -/

/-- `struct timeval`. -/
structure Timeval where
  /-- `tv_sec`. -/
  tvSec : ℤ
  /-- `tv_usec`. -/
  tvUsec : ℤ

/-- `struct pcap_pkthdr`. -/
structure PcapPkthdr where
  /-- `ts`. -/
  ts : Timeval
  /-- `caplen`. -/
  caplen : UInt32
  /-- `len`. -/
  len : UInt32

/-- A value of type `int`. -/
def toInt32 (v : ℤ) : UInt32 := ⟨BitVec.ofInt 32 v⟩

/-- `LINKTYPE_ETHERNET`. -/
def linktypeEthernet : UInt32 := 1

/-- The header that `sf_write_header` fills in. -/
def sfHeader (linktype thiszone snaplen : UInt32) : CaptureHeader where
  versionMajor := 2
  versionMinor := 4
  thiszone := thiszone
  snaplen := snaplen
  sigfigs := 0
  linktype := linktype

/-- `sf_write_header`: what it writes. -/
def sfWriteHeader (linktype thiszone snaplen : UInt32) : List UInt8 :=
  (sfHeader linktype thiszone snaplen).bytes

/-- `sr_dump_open`: what is in the file then. -/
def srDumpOpen (thiszone snaplen : UInt32) : List UInt8 :=
  sfWriteHeader linktypeEthernet thiszone snaplen

/-- `sf_hdr`, the header of a record with its times as `int`. -/
def sfPkthdr (h : PcapPkthdr) : RecordHeader :=
  ⟨toInt32 h.ts.tvSec, toInt32 h.ts.tvUsec, h.caplen, h.len⟩

/-- `sr_dump`: what it writes. -/
def srDump (h : PcapPkthdr) (sp : ByteMem) : List UInt8 :=
  (sfPkthdr h).bytes ++ bytes sp h.caplen.toNat

/-! ### `sr_log_packet` -/

/-- A call of `sr_log_packet`, with the time that it is made at. -/
structure LogCall where
  /-- `h.ts`. -/
  ts : Timeval
  /-- `buf`. -/
  buf : ByteMem
  /-- `len`. -/
  len : ℤ

/-- `sr_log_packet` with a log file: what is written to it.  A negative length becomes a huge one, and
more is written than there is of the buffer. -/
def srLogPacket (call : LogCall) : Except Fault (List UInt8) :=
  let size := min packetDumpSize call.len
  if size < 0 then .error .overrun
  else
    .ok (srDump ⟨call.ts, toInt32 size,
      if size < packetDumpSize then toInt32 size else toInt32 packetDumpSize⟩ call.buf)

/-- The log file after some calls. -/
def logFile : List UInt8 → List LogCall → Except Fault (List UInt8)
  | file, [] => .ok file
  | file, call :: rest =>
    match srLogPacket call with
    | .error e => .error e
    | .ok written => logFile (file ++ written) rest

/-- The log file of `main`. -/
def mainLogFile (calls : List LogCall) : Except Fault (List UInt8) :=
  logFile (srDumpOpen 0 (toInt32 packetDumpSize)) calls

/-! ### What a reader finds -/

/-- How much of a frame is logged. -/
def LogCall.logged (call : LogCall) : ℕ := min 1024 call.len.toNat

/-- A number of bytes that are logged as an `int`. -/
lemma toNat_toInt32_logged (call : LogCall) : (toInt32 (call.logged : ℤ)).toNat = call.logged := by
  have hle : call.logged ≤ 1024 := Nat.min_le_left _ _
  change (BitVec.ofInt 32 (call.logged : ℤ)).toNat = call.logged
  rw [BitVec.toNat_ofInt]
  omega

/-- The record of a call: its time, and the first bytes of the frame, as if it had no more. -/
def LogCall.record (call : LogCall) : CaptureRecord where
  header := ⟨toInt32 call.ts.tvSec, toInt32 call.ts.tvUsec, toInt32 call.logged, toInt32 call.logged⟩
  data := bytes call.buf call.logged
  length_data := by rw [length_bytes, toNat_toInt32_logged]

/-- A call writes its record if its length is not negative. -/
lemma srLogPacket_eq (call : LogCall) :
    srLogPacket call = if call.len < 0 then .error .overrun else .ok call.record.bytes := by
  unfold srLogPacket
  by_cases hneg : call.len < 0
  · have hsize : min packetDumpSize call.len < 0 := by
      unfold packetDumpSize
      omega
    simp only [hsize, hneg, if_true]
  · have hsize : min packetDumpSize call.len = call.logged := by
      unfold packetDumpSize LogCall.logged
      omega
    have hnonneg : ¬ ((call.logged : ℤ) < 0) := by omega
    have hlen : (if (call.logged : ℤ) < packetDumpSize then toInt32 call.logged
        else toInt32 packetDumpSize) = toInt32 call.logged := by
      split_ifs with hlt
      · rfl
      · have hfull : (call.logged : ℤ) = packetDumpSize := by
          have hle : call.logged ≤ 1024 := Nat.min_le_left _ _
          unfold packetDumpSize at hlt ⊢
          omega
        rw [hfull]
    simp only [hsize, hnonneg, hneg, if_false, hlen]
    rw [srDump, toNat_toInt32_logged]
    rfl

/-- Calls that all write write one record after the other. -/
lemma logFile_eq_ok (file : List UInt8) {calls : List LogCall} (h : ∀ call ∈ calls, 0 ≤ call.len) :
    logFile file calls = .ok (file ++ (calls.map LogCall.record).flatMap CaptureRecord.bytes) := by
  induction calls generalizing file with
  | nil => simp [logFile]
  | cons call rest ih =>
    have hcall := h call List.mem_cons_self
    rw [logFile, srLogPacket_eq, if_neg (Int.not_lt.mpr hcall)]
    simp only [ih _ fun c hc => h c (List.mem_cons_of_mem _ hc), List.map_cons, List.flatMap_cons,
      List.append_assoc]

/-- A file is there only if all calls write. -/
lemma nonneg_of_logFile {file file' : List UInt8} {calls : List LogCall}
    (h : logFile file calls = .ok file') : ∀ call ∈ calls, 0 ≤ call.len := by
  induction calls generalizing file with
  | nil =>
    intro call hcall
    cases hcall
  | cons call rest ih =>
    rw [logFile, srLogPacket_eq] at h
    split_ifs at h with hneg
    intro c hc
    rcases List.mem_cons.mp hc with rfl | hrest
    · exact Int.not_lt.mp hneg
    · exact ih h c hrest

/-- **What was logged can be read**: unless a call has a negative length, the file is one that a reader
takes apart into the header and one record for each call, with the first 1024 bytes of its frame. -/
theorem capture_iff (calls : List LogCall) :
    (∃ file, mainLogFile calls = .ok file ∧
      readCapture file =
        some (sfHeader linktypeEthernet 0 (toInt32 packetDumpSize), calls.map LogCall.record)) ↔
      ∀ call ∈ calls, 0 ≤ call.len := by
  constructor
  · rintro ⟨file, hfile, -⟩
    exact nonneg_of_logFile hfile
  · intro h
    exact ⟨_, logFile_eq_ok _ h, readCapture_captureBytes _ _⟩

end NatRouter
