import NatRouter.Lib.DottedQuad
import NatRouter.Lib.TextFile
import NatRouter.Network

/-!
# Routing tables as text (`sr_load_rt`, `sr_print_routing_entry`)

A routing table is read from a file, line by line, and its entries are printed in the same form:
destination, next hop, mask and interface, with blanks between them.  The four fields are read into
buffers on the stack that outlive the line, so a line with fewer fields repeats what the line before
it had there.  The old table is given up at the first line that is accepted, and what was loaded stays
when a later line makes the load fail (`load_fails_iff`).
-/

namespace NatRouter

open DottedQuad TextFile

/-- What C does not define in `sr_load_rt`. -/
inductive LoadFault where
  /-- A field of 32 characters or more runs over its buffer. -/
  | fieldOverflow
  /-- A buffer is read that nothing was written to. -/
  | unsetField
  deriving DecidableEq

/-! ### Library functions -/

/-- `inet_aton`, for a text without blanks. -/
def inetAton (cp : Text) : Option UInt32 := (fromDotted cp).map fun v => htonl (UInt32.ofNat v)

/-- `inet_ntoa`. -/
def inetNtoa (addr : UInt32) : Text := toDotted (ntohl addr).toNat

/-- `BUFSIZ`. -/
def bufsiz : ℕ := 8192

/-! ### Reading -/

/-- The buffers of `sr_load_rt`, each with the string in it if there is one. -/
structure RtFields where
  /-- `dest`. -/
  dest : Option Text
  /-- `gw`. -/
  gw : Option Text
  /-- `mask`. -/
  mask : Option Text
  /-- `iface`. -/
  iface : Option Text

/-- The buffers at the start. -/
def RtFields.unset : RtFields := ⟨none, none, none, none⟩

/-- The size of a buffer. -/
def fieldSize : ℕ := 32

/-- `sr_add_rt_entry`: a new element at the end of the list. -/
def srAddRtEntry (routingTable : List SrRt) (dest gw mask : UInt32) (ifName : Text) : List SrRt :=
  routingTable ++ [⟨dest, gw, mask, ifName.take fieldSize⟩]

/-- How a pass of the loop ends before its end. -/
inductive LoadStop where
  /-- C does not define it. -/
  | fault (e : LoadFault)
  /-- An address cannot be converted: `return -1`. -/
  | badAddress

/-- `sscanf(line, "%s %s %s %s", dest, gw, mask, iface)`: a field that the line does not have is left
as it is. -/
def scanFields (fields : RtFields) (line : Text) : Except LoadStop RtFields :=
  let read := (words (cString line)).take 4
  if read.all fun field => field.length < fieldSize then
    .ok ⟨read[0]?.or fields.dest, read[1]?.or fields.gw, read[2]?.or fields.mask,
      read[3]?.or fields.iface⟩
  else .error (.fault .fieldOverflow)

/-- The string in a buffer. -/
def fieldText : Option Text → Except LoadStop Text
  | some text => .ok text
  | none => .error (.fault .unsetField)

/-- `inet_aton` of a buffer, and the test of its result. -/
def convertField (field : Option Text) : Except LoadStop UInt32 := do
  match inetAton (← fieldText field) with
  | some addr => return addr
  | none => throw .badAddress

/-- One pass of the loop up to the call of `sr_add_rt_entry`: the buffers, and the arguments of the
call. -/
def loadLine (fields : RtFields) (line : Text) :
    Except LoadStop (RtFields × UInt32 × UInt32 × UInt32 × Text) := do
  let fields ← scanFields fields line
  let destAddr ← convertField fields.dest
  let gwAddr ← convertField fields.gw
  let maskAddr ← convertField fields.mask
  let iface ← fieldText fields.iface
  return (fields, destAddr, gwAddr, maskAddr, iface)

/-- The loop of `sr_load_rt` over the lines of the file, with the buffers, the flag
`clear_routing_table` and the table. -/
def srLoadRtLoop : List Text → RtFields → Bool → List SrRt → Except LoadFault (ℤ × List SrRt)
  | [], _, _, routingTable => .ok (0, routingTable)
  | line :: rest, fields, cleared, routingTable =>
    match loadLine fields line with
    | .error (.fault e) => .error e
    | .error .badAddress => .ok (-1, routingTable)
    | .ok (fields, destAddr, gwAddr, maskAddr, iface) =>
      srLoadRtLoop rest fields true
        (srAddRtEntry (if cleared then routingTable else []) destAddr gwAddr maskAddr iface)

/-- `sr_load_rt`: the result and the table.  No file is one that `access` does not find. -/
def srLoadRt (file : Option Text) (routingTable : List SrRt) : Except LoadFault (ℤ × List SrRt) :=
  match file with
  | none => .ok (-1, routingTable)
  | some file => srLoadRtLoop (lines (bufsiz - 2) file) .unset false routingTable

/-! ### Printing -/

/-- `'\t'`. -/
def tab : UInt8 := 9

/-- `sr_print_routing_entry`. -/
def srPrintRoutingEntry (entry : SrRt) : Text :=
  inetNtoa entry.dest ++ [tab, tab] ++ inetNtoa entry.gw ++ [tab] ++ inetNtoa entry.mask ++ [tab] ++
    entry.interface ++ [newline]

/-! ### The old table -/

/-- Once the old table is given up, entries are only added. -/
lemma srLoadRtLoop_cleared (file : List Text) (fields : RtFields) (rt : List SrRt) :
    srLoadRtLoop file fields true rt =
      (srLoadRtLoop file fields true []).map fun r => (r.1, rt ++ r.2) := by
  induction file generalizing fields rt with
  | nil => simp [srLoadRtLoop, Except.map]
  | cons line rest ih =>
    unfold srLoadRtLoop
    split
    · rfl
    · simp [Except.map]
    · rename_i fields' destAddr gwAddr maskAddr iface _
      rw [ih, ih fields' (srAddRtEntry (if true then [] else []) destAddr gwAddr maskAddr iface)]
      cases srLoadRtLoop rest fields' true [] with
      | error e => rfl
      | ok r => simp [Except.map, srAddRtEntry]

/-- **What is loaded does not depend on the old table**: whatever the file, it leaves every table as
it is, or it fails for every table, or it leaves the same new table in the place of every one. -/
lemma load_cases (file : Option Text) :
    (∃ code, ∀ rt, srLoadRt file rt = .ok (code, rt)) ∨
    (∃ e, ∀ rt, srLoadRt file rt = .error e) ∨
    ∃ code rt', rt' ≠ [] ∧ ∀ rt, srLoadRt file rt = .ok (code, rt') := by
  cases file with
  | none => exact .inl ⟨-1, fun rt => rfl⟩
  | some file =>
    unfold srLoadRt
    simp only
    cases lines (bufsiz - 2) file with
    | nil => exact .inl ⟨0, fun rt => rfl⟩
    | cons line rest =>
      simp only [srLoadRtLoop]
      split
      · exact .inr (.inl ⟨_, fun rt => rfl⟩)
      · exact .inl ⟨-1, fun rt => rfl⟩
      · rename_i fields destAddr gwAddr maskAddr iface _
        refine .inr ?_
        simp only [Bool.false_eq_true, if_false]
        rw [srLoadRtLoop_cleared]
        cases srLoadRtLoop rest fields true [] with
        | error e => exact .inl ⟨e, fun rt => rfl⟩
        | ok r => exact .inr ⟨r.1, _, by simp [srAddRtEntry], fun rt => rfl⟩

/-! ### The names of interfaces -/

/-- A name that fits into its field and can be read with `%s`. -/
structure IsFieldName (name : IfName) : Prop where
  /-- It is not empty. -/
  ne_nil : name ≠ []
  /-- It fits, with a zero byte behind it. -/
  length : name.length < fieldSize
  /-- It has no blanks. -/
  noSpace : ∀ c ∈ name, isSpace c = false
  /-- It has no zero byte. -/
  noZero : 0 ∉ name

/-- A field that is read from a line. -/
lemma isFieldName_of_mem {line field : Text} (h : field ∈ (words (cString line)).take 4)
    (hfits : ((words (cString line)).take 4).all fun field => field.length < fieldSize) :
    IsFieldName field := by
  obtain ⟨hne, hchars⟩ := mem_words (List.mem_of_mem_take h)
  refine ⟨hne, ?_, fun c hc => (hchars c hc).1, fun hzero => ?_⟩
  · exact of_decide_eq_true (List.all_eq_true.mp hfits field h)
  · exact zero_notMem_cString line (hchars 0 hzero).2

/-- The interface buffer holds a name, if anything. -/
def HoldsName (fields : RtFields) : Prop := ∀ name, fields.iface = some name → IsFieldName name

/-- It does after a line is read. -/
lemma HoldsName.scanFields {fields fields' : RtFields} (h : HoldsName fields) {line : Text}
    (hscan : scanFields fields line = .ok fields') : HoldsName fields' := by
  unfold NatRouter.scanFields at hscan
  simp only at hscan
  split at hscan
  · rename_i hfits
    cases hscan
    intro name hname
    rcases Option.or_eq_some_iff.mp hname with hread | ⟨-, hold⟩
    · exact isFieldName_of_mem (List.mem_of_getElem? hread) hfits
    · exact h name hold
  · cases hscan

/-- One step of a pass after the other. -/
lemma exceptBind_eq_ok {ε α β : Type} {x : Except ε α} {f : α → Except ε β} {b : β} :
    x >>= f = .ok b ↔ ∃ a, x = .ok a ∧ f a = .ok b := by
  cases x with
  | error e => simp [bind, Except.bind]
  | ok a => simp [bind, Except.bind]

/-- A buffer that is read holds a string. -/
lemma eq_some_of_fieldText {field : Option Text} {text : Text} (h : fieldText field = .ok text) :
    field = some text := by
  cases field with
  | none => cases h
  | some t =>
    cases h
    rfl

/-- A line that is accepted has been read. -/
lemma loadLine_eq_ok {fields fields' : RtFields} {line : Text} {destAddr gwAddr maskAddr : UInt32}
    {iface : Text} :
    loadLine fields line = .ok (fields', destAddr, gwAddr, maskAddr, iface) ↔
      scanFields fields line = .ok fields' ∧ convertField fields'.dest = .ok destAddr ∧
        convertField fields'.gw = .ok gwAddr ∧ convertField fields'.mask = .ok maskAddr ∧
        fieldText fields'.iface = .ok iface := by
  simp only [loadLine, exceptBind_eq_ok, pure, Except.pure]
  grind

/-- All entries of a table have such names. -/
def NamesFit (rt : List SrRt) : Prop := ∀ e ∈ rt, IsFieldName e.interface

/-- The loop adds entries with such names only. -/
lemma NamesFit.loop {file : List Text} {fields : RtFields} {cleared : Bool} {rt rt' : List SrRt}
    {code : ℤ} (hrt : NamesFit rt) (hfields : HoldsName fields)
    (h : srLoadRtLoop file fields cleared rt = .ok (code, rt')) : NamesFit rt' := by
  induction file generalizing fields cleared rt with
  | nil =>
    cases h
    exact hrt
  | cons line rest ih =>
    unfold srLoadRtLoop at h
    split at h
    · cases h
    · cases h
      exact hrt
    · rename_i fields' destAddr gwAddr maskAddr iface hline
      obtain ⟨hscan, -, -, -, hiface⟩ := loadLine_eq_ok.mp hline
      have hfields' := hfields.scanFields hscan
      have hname : IsFieldName iface := hfields' iface (eq_some_of_fieldText hiface)
      refine ih (fun e he => ?_) hfields' h
      rcases List.mem_append.mp he with hold | hnew
      · cases cleared with
        | false => cases hold
        | true => exact hrt e hold
      · rw [List.mem_singleton.mp hnew, List.take_of_length_le hname.length.le]
        exact hname

/-- **Every name that is loaded fits**, also in the parts of a table that was loaded in vain. -/
lemma NamesFit.load {file : Option Text} {rt rt' : List SrRt} {code : ℤ} (hrt : NamesFit rt)
    (h : srLoadRt file rt = .ok (code, rt')) : NamesFit rt' := by
  cases file with
  | none =>
    cases h
    exact hrt
  | some file => exact hrt.loop (fun name hname => by cases hname) h

/-! ### Printed entries -/

/-- An address is read back. -/
lemma inetAton_inetNtoa (addr : UInt32) : inetAton (inetNtoa addr) = some addr := by
  rw [inetAton, inetNtoa, fromDotted_toDotted (ntohl addr).toNat_lt, Option.map_some,
    UInt32.ofNat_toNat, htonl_ntohl]

/-- The characters of an address are neither blanks nor zero. -/
lemma isSpace_of_mem_inetNtoa {addr : UInt32} {c : UInt8} (h : c ∈ inetNtoa addr) :
    isSpace c = false ∧ c ≠ 0 := by
  rcases mem_toDotted h with rfl | ⟨hlow, -⟩
  · decide
  · have hle : 48 ≤ c.toNat := UInt8.le_iff_toNat_le.mp hlow
    have hne : ∀ d : UInt8, d.toNat < 48 → c ≠ d := by
      rintro d hd rfl
      exact absurd hd (Nat.not_lt.mpr hle)
    have hupper : ¬ c ≤ 13 := by
      rw [UInt8.le_iff_toNat_le]
      exact Nat.not_le.mpr (lt_of_lt_of_le (by decide) hle)
    refine ⟨?_, hne 0 (by decide)⟩
    simp [isSpace, hne 32 (by decide), hupper]

/-- What is printed of an address is a field. -/
lemma isFieldName_inetNtoa (addr : UInt32) : IsFieldName (inetNtoa addr) where
  ne_nil h := by
    have hread := inetAton_inetNtoa addr
    rw [h] at hread
    cases hread
  length := lt_of_le_of_lt (length_toDotted_le (ntohl addr).toNat_lt) (by decide)
  noSpace _ hc := (isSpace_of_mem_inetNtoa hc).1
  noZero hzero := (isSpace_of_mem_inetNtoa hzero).2 rfl

/-- The line of an entry, up to its end. -/
def entryLine (e : SrRt) : Text :=
  inetNtoa e.dest ++ tab :: tab :: (inetNtoa e.gw ++ tab :: (inetNtoa e.mask ++ tab :: e.interface))

/-- It is printed with its end. -/
lemma srPrintRoutingEntry_eq (e : SrRt) : srPrintRoutingEntry e = entryLine e ++ [newline] := by
  simp [srPrintRoutingEntry, entryLine]

section Printed

variable {e : SrRt} (he : IsFieldName e.interface)

include he

/-- The line has no zero byte, no end before its end, and fits into the buffer. -/
lemma entryLine_fits : 0 ∉ entryLine e ∧ newline ∉ entryLine e ∧ (entryLine e).length < 256 := by
  have haddr := isFieldName_inetNtoa
  have hnewline : ∀ name, IsFieldName name → newline ∉ name :=
    fun name hname h => absurd (hname.noSpace _ h) (by decide)
  have htabs : (0 : UInt8) ≠ tab ∧ newline ≠ tab := by decide
  refine ⟨?_, ?_, ?_⟩
  · simp [entryLine, (haddr _).noZero, he.noZero, htabs.1]
  · simp [entryLine, hnewline _ (haddr _), hnewline _ he, htabs.2]
  · have hdest := (haddr e.dest).length
    have hgw := (haddr e.gw).length
    have hmask := (haddr e.mask).length
    have hname := he.length
    simp only [fieldSize] at hdest hgw hmask hname
    simp only [entryLine, List.length_append, List.length_cons]
    omega

/-- The words of the line. -/
lemma words_entryLine : words (cString (entryLine e ++ [newline])) =
    [inetNtoa e.dest, inetNtoa e.gw, inetNtoa e.mask, e.interface] := by
  have htab : isSpace tab = true := rfl
  have hend : isSpace newline = true := rfl
  have haddr := isFieldName_inetNtoa
  have hzero : 0 ∉ entryLine e ++ [newline] := by
    rw [List.mem_append, not_or]
    exact ⟨(entryLine_fits he).1, by decide⟩
  rw [cString_eq_self hzero]
  unfold entryLine
  simp only [List.append_assoc, List.cons_append]
  rw [words_word (haddr _).ne_nil (haddr _).noSpace htab, words_space htab,
    words_word (haddr _).ne_nil (haddr _).noSpace htab,
    words_word (haddr _).ne_nil (haddr _).noSpace htab, words_word he.ne_nil he.noSpace hend]
  rfl

/-- It is loaded as the entry, whatever was in the buffers. -/
lemma loadLine_entryLine (fields : RtFields) :
    ∃ fields', loadLine fields (entryLine e ++ [newline]) =
      .ok (fields', e.dest, e.gw, e.mask, e.interface) := by
  have haddr := isFieldName_inetNtoa
  have hconvert : ∀ addr, convertField (some (inetNtoa addr)) = .ok addr := by
    intro addr
    simp [convertField, fieldText, inetAton_inetNtoa, pure, Except.pure, bind, Except.bind]
  refine ⟨⟨some (inetNtoa e.dest), some (inetNtoa e.gw), some (inetNtoa e.mask), some e.interface⟩,
    loadLine_eq_ok.mpr ⟨?_, hconvert _, hconvert _, hconvert _, rfl⟩⟩
  rw [scanFields, words_entryLine he]
  simp [(haddr _).length, he.length]

/-- It is read as one line. -/
lemma lines_printed (rest : Text) : lines (bufsiz - 2) (srPrintRoutingEntry e ++ rest) =
    (entryLine e ++ [newline]) :: lines (bufsiz - 2) rest := by
  obtain ⟨-, hend, hlength⟩ := entryLine_fits he
  rw [srPrintRoutingEntry_eq, List.append_assoc, List.singleton_append,
    lines_line hend (hlength.le.trans (by decide))]

end Printed

/-- The printed entries of a table are loaded as the table, behind what is there. -/
lemma srLoadRtLoop_printed {rt : List SrRt} (hrt : NamesFit rt) (fields : RtFields)
    (acc : List SrRt) :
    srLoadRtLoop (lines (bufsiz - 2) (rt.flatMap srPrintRoutingEntry)) fields true acc =
      .ok (0, acc ++ rt) := by
  induction rt generalizing fields acc with
  | nil =>
    rw [List.flatMap_nil, lines_nil, srLoadRtLoop, List.append_nil]
  | cons e rest ih =>
    have he : IsFieldName e.interface := hrt e List.mem_cons_self
    obtain ⟨fields', hline⟩ := loadLine_entryLine he fields
    rw [List.flatMap_cons, lines_printed he, srLoadRtLoop, hline]
    simp only [if_true]
    rw [ih (fun e' he' => hrt e' (List.mem_cons_of_mem _ he')), srAddRtEntry,
      List.take_of_length_le he.length.le, List.append_assoc, List.singleton_append]

/-! ### Round trips -/

/-- The printed entries of a table with proper names replace any table. -/
lemma srLoadRt_printed {rt : List SrRt} (hrt : NamesFit rt) (hne : rt ≠ []) (old : List SrRt) :
    srLoadRt (some (rt.flatMap srPrintRoutingEntry)) old = .ok (0, rt) := by
  obtain ⟨e, rest, rfl⟩ := List.exists_cons_of_ne_nil hne
  have he : IsFieldName e.interface := hrt e List.mem_cons_self
  obtain ⟨fields, hline⟩ := loadLine_entryLine he .unset
  rw [srLoadRt, List.flatMap_cons, lines_printed he, srLoadRtLoop, hline]
  simp only [Bool.false_eq_true, if_false]
  rw [srLoadRtLoop_printed fun e' he' => hrt e' (List.mem_cons_of_mem _ he'), srAddRtEntry,
    List.take_of_length_le he.length.le]
  rfl

/-- **What was loaded is loaded again as it is printed**: the entries of a table that came from a
file, one after the other, are a file from which the same table is loaded in the place of any table. -/
theorem load_printed {file : Option Text} {code : ℤ} {rt : List SrRt}
    (h : srLoadRt file [] = .ok (code, rt)) (hne : rt ≠ []) (old : List SrRt) :
    srLoadRt (some (rt.flatMap srPrintRoutingEntry)) old = .ok (0, rt) :=
  srLoadRt_printed (NamesFit.load (fun e he => by cases he) h) hne old

/-- A place in a list is its head or a place behind it. -/
lemma exists_place_cons {α : Type} {P : List α → α → Prop} {next : α} {file : List α} :
    (∃ front line rest, next :: file = front ++ line :: rest ∧ P front line) ↔
      P [] next ∨ ∃ front line rest, file = front ++ line :: rest ∧ P (next :: front) line := by
  constructor
  · rintro ⟨front, line, rest, hfile, hP⟩
    cases front with
    | nil =>
      obtain ⟨rfl, -⟩ := List.cons.inj hfile
      exact .inl hP
    | cons first front =>
      obtain ⟨rfl, hrest⟩ := List.cons.inj hfile
      exact .inr ⟨front, line, rest, hrest, hP⟩
  · rintro (hP | ⟨front, line, rest, rfl, hP⟩)
    · exact ⟨[], next, file, rfl, hP⟩
    · exact ⟨next :: front, line, rest, rfl, hP⟩

/-- The loop fails at a line behind those that it has loaded. -/
lemma srLoadRtLoop_fails_iff {file : List Text} {fields : RtFields} {cleared : Bool}
    {old rt : List SrRt} : srLoadRtLoop file fields cleared old = .ok (-1, rt) ↔
      ∃ front line rest, file = front ++ line :: rest ∧
        srLoadRtLoop front fields cleared old = .ok (0, rt) ∧
        srLoadRtLoop (front ++ [line]) fields cleared old = .ok (-1, rt) := by
  induction file generalizing fields cleared old with
  | nil => simp [srLoadRtLoop]
  | cons next file ih =>
    rw [exists_place_cons (P := fun front line => srLoadRtLoop front fields cleared old = .ok (0, rt) ∧
      srLoadRtLoop (front ++ [line]) fields cleared old = .ok (-1, rt))]
    rcases hline : loadLine fields next with (e | _) | ⟨fields', destAddr, gwAddr, maskAddr, iface⟩
    · simp [srLoadRtLoop, hline]
    · simp [srLoadRtLoop, hline]
    · simp only [List.nil_append, List.cons_append, srLoadRtLoop, hline, ih]
      simp

/-- **A load that fails is not undone**: `sr_load_rt` fails at a line of the file, and leaves the table
that it leaves of a file with the lines before that line only. -/
theorem load_fails_iff {file : Text} {old rt : List SrRt} :
    srLoadRt (some file) old = .ok (-1, rt) ↔ ∃ front line rest,
      lines (bufsiz - 2) file = front ++ line :: rest ∧
        srLoadRt (some front.flatten) old = .ok (0, rt) ∧
        srLoadRt (some (front.flatten ++ line)) old = .ok (-1, rt) := by
  unfold srLoadRt
  simp only
  rw [srLoadRtLoop_fails_iff]
  refine exists_congr fun front => exists_congr fun line => exists_congr fun rest =>
    and_congr_right fun hfile => ?_
  have hloaded : lines (bufsiz - 2) front.flatten = front := lines_flatten hfile
  have hfails : lines (bufsiz - 2) (front.flatten ++ line) = front ++ [line] := by
    have hfront : front ++ line :: rest = (front ++ [line]) ++ rest := by simp
    have h := lines_flatten (hfile.trans hfront)
    rwa [List.flatten_append, List.flatten_singleton] at h
  rw [hloaded, hfails]

/-- **Loading a file twice is loading it once**, and a table that came out of it comes out of it
whatever the table was before. -/
theorem load_again {file : Option Text} {code : ℤ} {rt rt' : List SrRt}
    (h : srLoadRt file rt = .ok (code, rt')) :
    srLoadRt file rt' = .ok (code, rt') ∧
      (rt' ≠ rt → ∀ old, srLoadRt file old = .ok (code, rt')) := by
  rcases load_cases file with ⟨code', hsame⟩ | ⟨e, herror⟩ | ⟨code', new, -, hnew⟩
  · rw [hsame] at h
    cases h
    exact ⟨hsame rt, fun hne => absurd rfl hne⟩
  · rw [herror] at h
    cases h
  · rw [hnew] at h
    cases h
    exact ⟨hnew rt', fun _ => hnew⟩

/-! ### A file with a short line -/

/-- `"172.64.3.21 172.64.3.21 255.255.255.255 eth2"`. -/
def firstLine : Text :=
  ['1', '7', '2', '.', '6', '4', '.', '3', '.', '2', '1', ' ', '1', '7', '2', '.', '6', '4', '.', '3',
    '.', '2', '1', ' ', '2', '5', '5', '.', '2', '5', '5', '.', '2', '5', '5', '.', '2', '5', '5', ' ',
    'e', 't', 'h', '2'].map ascii

/-- `"0x0a000164"`, an address and no more. -/
def secondLine : Text := ['0', 'x', '0', 'a', '0', '0', '0', '1', '6', '4'].map ascii

/-- `"eth2"`. -/
def eth2 : IfName := ['e', 't', 'h', '2'].map ascii

/-- The entries of the two lines. -/
def twoEntries : List SrRt :=
  [⟨htonl 0xac400315, htonl 0xac400315, htonl 0xffffffff, eth2⟩,
    ⟨htonl 0x0a000164, htonl 0xac400315, htonl 0xffffffff, eth2⟩]

/-- The second line is completed with the fields of the first. -/
lemma srLoadRt_twoLines :
    srLoadRt (some (firstLine ++ newline :: (secondLine ++ newline :: []))) [] =
      .ok (0, twoEntries) := by
  rw [srLoadRt, lines_line (by decide) (by decide), lines_line (by decide) (by decide), lines_nil]
  rfl

/-- The table of the two lines, printed and loaded in the place of its first entry. -/
theorem load_printed_twoLines :
    srLoadRt (some (twoEntries.flatMap srPrintRoutingEntry)) (twoEntries.take 1) =
      .ok (0, twoEntries) :=
  load_printed srLoadRt_twoLines (List.cons_ne_nil _ _) (twoEntries.take 1)

/-- The two lines, loaded again in the place of what they have left. -/
theorem load_again_twoLines :
    srLoadRt (some (firstLine ++ newline :: (secondLine ++ newline :: []))) twoEntries =
        .ok (0, twoEntries) ∧
      (twoEntries ≠ [] → ∀ old,
        srLoadRt (some (firstLine ++ newline :: (secondLine ++ newline :: []))) old =
          .ok (0, twoEntries)) :=
  load_again srLoadRt_twoLines

end NatRouter
