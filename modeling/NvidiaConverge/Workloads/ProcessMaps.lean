import NvidiaConverge.Library.Delimited
import NvidiaConverge.Library.Text

/-!
# Memory maps of a process

`_process_maps_use_nvidia` of `gpu_safety.py`: the `maps` file of a process is read in chunks, and
each record is judged by `_maps_line_uses_nvidia` as soon as its newline has arrived.
`clean_maps_iff` says that the reader finds nothing wrong exactly when every record of the whole
content, taken as a line, is clean, wherever the chunks end.
-/

namespace NvidiaConverge

/-- `_MAX_MAP_BYTES_PER_PROCESS`: the most bytes of one process's maps. -/
def maxMapBytesPerProcess : Nat := 8 * 1024 * 1024

/-- `_MAX_MAP_FILE_STATS_PER_PROCESS`: the most mapped files of one process that are inspected. -/
def maxMapFileStatsPerProcess : Nat := 65536

/-- `_MAX_PROC_MAP_LINE_BYTES`: the most bytes of one record. -/
def maxProcMapLineBytes : Nat := 64 * 1024

/-! ## Bytes -/

/-- The ASCII character that a byte stands for. -/
def asciiChar (byte : UInt8) : Char :=
  Char.ofNat byte.toNat

/-- `bytes.isspace` of one byte: a blank, or one of the control characters from tab to carriage
return. -/
def isSpaceByte (byte : UInt8) : Bool :=
  byte == 32 || (9 ≤ byte.toNat && byte.toNat ≤ 13)

/-- `[0-9]`: the byte is a decimal digit. -/
def isDigitByte (byte : UInt8) : Bool :=
  48 ≤ byte.toNat && byte.toNat ≤ 57

/-- The value of a hexadecimal digit, if the byte is one. -/
def hexDigit? (byte : UInt8) : Option Nat :=
  let code := byte.toNat
  if 48 ≤ code ∧ code ≤ 57 then some (code - 48)
  else if 65 ≤ code ∧ code ≤ 70 then some (code - 55)
  else if 97 ≤ code ∧ code ≤ 102 then some (code - 87)
  else none

/-- `[0-9A-Fa-f]+`: one hexadecimal digit or more. -/
def isHex (bytes : List UInt8) : Bool :=
  bytes ≠ [] && bytes.all fun byte => (hexDigit? byte).isSome

/-- `int(bytes, base)` of bytes that are digits. -/
def bytesValue (base : Nat) (bytes : List UInt8) : Nat :=
  bytes.foldl (fun value byte => value * base + (hexDigit? byte).getD 0) 0

/-- `bytes.split(None, count)`: the fields between blanks, the last one with all that is left. -/
def splitFields : Nat → List UInt8 → List (List UInt8)
  | 0, bytes =>
      match bytes.dropWhile isSpaceByte with
      | [] => []
      | rest => [rest]
  | count + 1, bytes =>
      match bytes.dropWhile isSpaceByte with
      | [] => []
      | rest =>
          rest.takeWhile (!isSpaceByte ·) :: splitFields count (rest.dropWhile (!isSpaceByte ·))

/-- `bytes.lower()`: the ASCII letters of the bytes in lower case. -/
def lowerBytes (bytes : List UInt8) : List UInt8 :=
  bytes.map fun byte => if 65 ≤ byte.toNat ∧ byte.toNat ≤ 90 then byte + 32 else byte

/-! ## One record -/

/-- `_NvidiaDeviceIdentity`: the number of a device, and the file that names it. -/
structure NvidiaDeviceIdentity where
  rdev : Nat
  backingDevice : Nat
  inode : Nat

/-- `os.major` of a device number, as Linux encodes it. -/
def osMajor (device : Nat) : Nat :=
  device / 2 ^ 8 % 2 ^ 12 + device / 2 ^ 44 % 2 ^ 20 * 2 ^ 12

/-- `os.minor` of a device number, as Linux encodes it. -/
def osMinor (device : Nat) : Nat :=
  device % 2 ^ 8 + device / 2 ^ 20 % 2 ^ 24 * 2 ^ 8

/-- What `os.stat` answers: `vanished` is `ENOENT` or `ESRCH`. -/
inductive StatReply where
  | vanished
  | failed (reason : String)
  | found (character : Bool) (rdev : Nat)

/-- The mapped files of one process, its `map_files` directory and its own directory. -/
structure MapFiles where
  mapped : String → StatReply
  root : StatReply
  process : StatReply

/-- The values that `_maps_line_uses_nvidia` returns. -/
structure MapsLine where
  mapped : Bool := false
  inspected : Nat := 0
  error : Option String := none

/-- The record shows no mapping of a device and no error. -/
def MapsLine.clean (line : MapsLine) : Bool :=
  !line.mapped && line.error.isNone

/-- A record that cannot be read, for this reason. -/
def MapsLine.refused (reason : String) : MapsLine where
  error := some reason

/-- The fields of a record that the judgement uses. -/
structure MapsRecord where
  address : List UInt8
  device : Nat × Nat
  inode : Nat
  pathname : List UInt8

/-- The checks on one record, in the order in which the code makes them. -/
def parseMapsLine (line : List UInt8) : Except String MapsRecord :=
  if line = [] then .error "memory map contains an empty record"
  else if maxProcMapLineBytes < line.length then
    .error "memory map contains an overlong record"
  else
    match splitFields 5 line with
    | address :: _ :: _ :: device :: inode :: rest =>
        match Delimited.cut 45 address with
        | ([first], last) =>
            if isHex first = false ∨ isHex last = false then
              .error "memory map contains an invalid address range"
            else
              match Delimited.cut 58 device with
              | ([major], minor) =>
                  if isHex major = false ∨ isHex minor = false ∨ 8 < major.length ∨
                      8 < minor.length then
                    .error "memory map contains an invalid device identity"
                  else if inode.all isDigitByte = false ∨ 20 < inode.length then
                    .error "memory map contains an invalid inode identity"
                  else
                    .ok
                      { address := address
                        device := (bytesValue 16 major, bytesValue 16 minor)
                        inode := bytesValue 10 inode
                        pathname := rest.headD [] }
              | _ => .error "memory map contains an invalid device identity"
        | _ => .error "memory map contains an invalid address range"
    | _ => .error "memory map contains a malformed record"

/-- The `map_files` entry of a record whose path or device may be NVIDIA's. -/
def inspectMappedFile (files : MapFiles) (devices : List NvidiaDeviceIdentity) (name : String) :
    MapsLine :=
  match files.mapped name with
  | .found character rdev =>
      { mapped := character && devices.any (·.rdev == rdev), inspected := 1 }
  | .failed reason =>
      { inspected := 1
        error := some ("cannot classify potentially relevant mapped file " ++ name ++ ": " ++
          reason) }
  | .vanished =>
      match files.root with
      -- the mapping is gone, its directory is not
      | .found .. => { inspected := 1 }
      | .failed reason =>
          { inspected := 1
            error := some ("cannot inspect procfs map_files while classifying mapping " ++ name ++
              ": " ++ reason) }
      | .vanished =>
          match files.process with
          -- the process is gone
          | .vanished => { inspected := 1 }
          | .failed reason =>
              { inspected := 1
                error := some ("cannot establish process state while classifying mapped file " ++
                  name ++ ": " ++ reason) }
          | .found .. =>
              { inspected := 1
                error := some ("procfs map_files inventory is unavailable for a potentially " ++
                  "relevant mapping " ++ name) }

/-- `_maps_line_uses_nvidia`: whether one record maps an NVIDIA device. -/
def mapsLineUsesNvidia (files : MapFiles) (devices : List NvidiaDeviceIdentity)
    (line : List UInt8) : MapsLine :=
  match parseMapsLine line with
  | .error reason => .refused reason
  | .ok record =>
      let backing := devices.map fun device =>
        ((osMajor device.backingDevice, osMinor device.backingDevice), device.inode)
      if (record.device, record.inode) ∈ backing then { mapped := true }
      else if (0 < record.inode ∧ record.device ∈ backing.map Prod.fst) ∨
          Text.utf8 "nvidia" <:+: lowerBytes record.pathname then
        inspectMappedFile files devices (String.ofList (record.address.map asciiChar))
      else {}

/-! ## The whole file -/

/-- A result of `os.read` that is not empty. -/
abbrev Chunk := { bytes : List UInt8 // bytes ≠ [] }

/-- How the reads end: at the end of the file, or with an error of which `vanished` is `ENOENT` or
`ESRCH`. -/
inductive ReadEnd where
  | endOfFile
  | vanished
  | failed (reason : String)

/-- What the calls on a `maps` file answer: how it opens, what is read and how that ends. -/
inductive MapsFile where
  | vanished
  | refused (reason : String)
  | opened (regular : Bool) (chunks : List Chunk) (ending : ReadEnd)

/-- The values that `_process_maps_use_nvidia` returns. -/
structure MapsScan where
  mapped : Bool := false
  bytesRead : Nat := 0
  inspected : Nat := 0
  error : Option String := none

/-- The scan shows no mapping of a device and no error. -/
def MapsScan.clean (scan : MapsScan) : Bool :=
  !scan.mapped && scan.error.isNone

section Scan

variable (judge : List UInt8 → MapsLine)

/-- The lines of one chunk: the count of inspections behind clean ones, or what the scan returns. -/
def scanLines (total : Nat) : List (List UInt8) → Nat → Except MapsScan Nat
  | [], inspected => .ok inspected
  | line :: lines, inspected =>
      let verdict := judge line
      let inspected := inspected + verdict.inspected
      if maxMapFileStatsPerProcess < inspected then
        .error
          { bytesRead := total
            inspected
            error := some "mapped-file identity inspection exceeded the per-process limit" }
      else if verdict.clean then scanLines total lines inspected
      else .error ⟨verdict.mapped, total, inspected, verdict.error⟩

/-- The end of the reads: the last record may lack its newline. -/
def scanEnd (total inspected : Nat) (buffered : List UInt8) : ReadEnd → MapsScan
  | .vanished => { bytesRead := total, inspected }
  | .failed reason => { bytesRead := total, inspected, error := some reason }
  | .endOfFile =>
      match scanLines judge total (if buffered = [] then [] else [buffered]) inspected with
      | .ok inspected => { bytesRead := total, inspected }
      | .error scan => scan

/-- The loop over the reads, which judges every record as soon as it is complete. -/
def scanChunks (ending : ReadEnd) : List Chunk → Nat → Nat → List UInt8 → MapsScan
  | [], total, inspected, buffered => scanEnd judge total inspected buffered ending
  | chunk :: chunks, total, inspected, buffered =>
      let total := total + chunk.val.length
      if maxMapBytesPerProcess < total then
        { bytesRead := total
          inspected
          error := some "memory map exceeded the per-process scan limit" }
      else
        let (lines, buffered) := Delimited.cut 10 (buffered ++ chunk.val)
        if maxProcMapLineBytes < buffered.length then
          { bytesRead := total
            inspected
            error := some "memory map contains an overlong record" }
        else
          match scanLines judge total lines inspected with
          | .ok inspected => scanChunks ending chunks total inspected buffered
          | .error scan => scan

end Scan

/-- `_process_maps_use_nvidia`: whether a process maps an NVIDIA device. -/
def processMapsUseNvidia (files : MapFiles) (devices : List NvidiaDeviceIdentity) :
    MapsFile → MapsScan
  | .vanished => {}
  | .refused reason => { error := some reason }
  | .opened false _ _ => { error := some "maps is not a regular procfs file" }
  | .opened true chunks ending =>
      scanChunks (mapsLineUsesNvidia files devices) ending chunks 0 0 []

/-! ## Clean contents -/

/-- How many inspections of mapped files the lines take. -/
def inspections (judge : List UInt8 → MapsLine) (lines : List (List UInt8)) : Nat :=
  (lines.map fun line => (judge line).inspected).sum

/-- A content of which every record, as a whole line, is clean, within the limits. -/
structure CleanRecords (judge : List UInt8 → MapsLine) (total inspected : Nat)
    (records : List (List UInt8)) : Prop where
  bytes : total ≤ maxMapBytesPerProcess
  clean : ∀ record ∈ records, (judge record).clean = true
  inspected : inspected + inspections judge records ≤ maxMapFileStatsPerProcess

section Clean

variable {judge : List UInt8 → MapsLine} {total inspected count : Nat} {buffered : List UInt8}

theorem inspections_append (lines more : List (List UInt8)) :
    inspections judge (lines ++ more) = inspections judge lines + inspections judge more := by
  rw [inspections, List.map_append, List.sum_append]
  rfl

/-- A record that is too long is refused, and so is not clean. -/
theorem overlong_not_clean (files : MapFiles) (devices : List NvidiaDeviceIdentity)
    {line : List UInt8} (h : maxProcMapLineBytes < line.length) :
    (mapsLineUsesNvidia files devices line).clean = false := by
  have hne : line ≠ [] := by
    rintro rfl
    exact absurd h (Nat.not_lt_zero _)
  have hparse : parseMapsLine line = .error "memory map contains an overlong record" := by
    rw [parseMapsLine, if_neg hne, if_pos h]
  rw [mapsLineUsesNvidia, hparse]
  rfl

/-- Lines are passed exactly when each is clean and the inspections stay within the limit. -/
theorem scan_lines_eq_ok {lines : List (List UInt8)}
    (hinspected : inspected ≤ maxMapFileStatsPerProcess) :
    scanLines judge total lines inspected = .ok count ↔
      (∀ line ∈ lines, (judge line).clean = true) ∧ inspected + inspections judge lines = count ∧
        count ≤ maxMapFileStatsPerProcess := by
  induction lines generalizing inspected with
  | nil =>
      simp only [scanLines, inspections, List.map_nil, List.sum_nil, Nat.add_zero,
        Except.ok.injEq, List.not_mem_nil, false_imp_iff, implies_true, true_and]
      exact ⟨fun h => ⟨h, h ▸ hinspected⟩, fun h => h.1⟩
  | cons line lines ih =>
      have hsum : inspections judge (line :: lines) =
          (judge line).inspected + inspections judge lines := by
        rw [inspections, List.map_cons, List.sum_cons]
        rfl
      rw [scanLines, List.forall_mem_cons, hsum, ← Nat.add_assoc]
      split
      · next hover =>
          refine ⟨fun h => (by cases h), fun h => ?_⟩
          omega
      · next hwithin =>
          split
          · next hclean =>
              rw [ih (by omega)]
              simp [hclean]
          · next hclean => simp [hclean]

/-- What stops a scan within a chunk is not clean. -/
theorem scan_lines_error {lines : List (List UInt8)} {scan : MapsScan}
    (h : scanLines judge total lines inspected = .error scan) : scan.clean = false := by
  induction lines generalizing inspected with
  | nil => cases h
  | cons line lines ih =>
      rw [scanLines] at h
      split at h
      · cases h
        rfl
      · split at h
        · exact ih h
        · next hclean =>
            cases h
            exact Bool.eq_false_iff.mpr hclean

/-- The end of a scan is clean exactly when the records left in the buffer are. -/
theorem scan_end_clean (hinspected : inspected ≤ maxMapFileStatsPerProcess)
    (htotal : total ≤ maxMapBytesPerProcess) (hbuffered : 10 ∉ buffered) :
    (scanEnd judge total inspected buffered .endOfFile).clean = true ↔
      CleanRecords judge total inspected (Delimited.records 10 buffered) := by
  rw [Delimited.records_of_not_mem hbuffered, scanEnd]
  cases hscan : scanLines judge total (if buffered = [] then [] else [buffered]) inspected with
  | error scan =>
      refine iff_of_false (Bool.eq_false_iff.mp (scan_lines_error hscan)) fun h => ?_
      rw [(scan_lines_eq_ok hinspected).mpr ⟨h.clean, rfl, h.inspected⟩] at hscan
      cases hscan
  | ok count =>
      obtain ⟨hclean, rfl, hcount⟩ := (scan_lines_eq_ok hinspected).mp hscan
      exact iff_of_true rfl ⟨htotal, hclean, hcount⟩

/-- The loop, behind a clean start: by induction on the chunks. What is buffered is the rest of
what has been read, and the records behind it are those of the whole content. -/
theorem scan_chunks_clean
    (hjudge : ∀ line, maxProcMapLineBytes < line.length → (judge line).clean = false)
    (chunks : List Chunk) (hinspected : inspected ≤ maxMapFileStatsPerProcess)
    (htotal : total ≤ maxMapBytesPerProcess) (hbuffered : 10 ∉ buffered) :
    (scanChunks judge .endOfFile chunks total inspected buffered).clean = true ↔
      CleanRecords judge (total + (chunks.flatMap Subtype.val).length) inspected
        (Delimited.records 10 (buffered ++ chunks.flatMap Subtype.val)) := by
  induction chunks generalizing total inspected buffered with
  | nil =>
      rw [List.flatMap_nil, List.append_nil]
      exact scan_end_clean hinspected htotal hbuffered
  | cons chunk chunks ih =>
      rw [List.flatMap_cons, List.length_append, ← Nat.add_assoc, ← List.append_assoc,
        Delimited.records_append, scanChunks]
      have hrest := Delimited.not_mem_rest (10 : UInt8) (buffered ++ chunk.val)
      revert hrest
      obtain ⟨lines, rest⟩ := Delimited.cut (10 : UInt8) (buffered ++ chunk.val)
      intro hrest
      dsimp only at hrest ⊢
      split
      · next hover => exact iff_of_false Bool.false_ne_true fun h => by have := h.bytes; omega
      · next hwithin =>
          split
          · next hover =>
              -- a partial record over the limit is part of a record over the limit
              refine iff_of_false Bool.false_ne_true fun h => ?_
              have hne : rest ≠ [] := by
                rintro rfl
                exact absurd hover (Nat.not_lt_zero _)
              obtain ⟨record, hrecord, hprefix⟩ := Delimited.exists_record_of_not_mem hrest hne
                (chunks.flatMap Subtype.val)
              have hlong := hjudge record (Nat.lt_of_lt_of_le hover hprefix.length_le)
              rw [h.clean record (List.mem_append_right _ hrecord)] at hlong
              cases hlong
          · cases hscan : scanLines judge (total + chunk.val.length) lines inspected with
            | error scan =>
                refine iff_of_false (Bool.eq_false_iff.mp (scan_lines_error hscan)) fun h => ?_
                have hsplit := h.inspected
                rw [inspections_append] at hsplit
                rw [(scan_lines_eq_ok hinspected).mpr
                  ⟨fun line hline => h.clean line (List.mem_append_left _ hline), rfl, by omega⟩]
                  at hscan
                cases hscan
            | ok count =>
                obtain ⟨hclean, rfl, hcount⟩ := (scan_lines_eq_ok hinspected).mp hscan
                dsimp only
                rw [ih hcount (by omega) hrest]
                refine ⟨fun h => ⟨h.bytes, ?_, ?_⟩, fun h => ⟨h.bytes, ?_, ?_⟩⟩
                · exact fun record hrecord =>
                    (List.mem_append.mp hrecord).elim (hclean record) (h.clean record)
                · rw [inspections_append, ← Nat.add_assoc]
                  exact h.inspected
                · exact fun record hrecord => h.clean record (List.mem_append_right _ hrecord)
                · have hsplit := h.inspected
                  rwa [inspections_append, ← Nat.add_assoc] at hsplit

end Clean

/-- A `maps` file that is read to its end is found clean exactly when its content is within the
byte limit and each of its records, taken as a whole line, is clean, within the limit on
inspections: wherever the chunks end. -/
theorem clean_maps_iff (files : MapFiles) (devices : List NvidiaDeviceIdentity)
    (chunks : List Chunk) :
    (processMapsUseNvidia files devices (.opened true chunks .endOfFile)).clean = true ↔
      CleanRecords (mapsLineUsesNvidia files devices) (chunks.flatMap Subtype.val).length 0
        (Delimited.records 10 (chunks.flatMap Subtype.val)) := by
  rw [processMapsUseNvidia, scan_chunks_clean (fun line => overlong_not_clean files devices) chunks
    (Nat.zero_le _) (Nat.zero_le _) List.not_mem_nil, Nat.zero_add, List.nil_append]

/-- A mapping by backing identity, with a read that ends inside its inode. -/
example : (processMapsUseNvidia ⟨fun _ => .vanished, .vanished, .vanished⟩
    [{ rdev := 49920, backingDevice := 5, inode := 97 }]
    (.opened true [⟨Text.utf8 "7f00-7f01 rw-s 00000000 00:05 9", by decide +kernel⟩,
      ⟨Text.utf8 "7 /dev/nvidia0\n", by decide +kernel⟩] .endOfFile)).mapped = true := by
  decide +kernel

end NvidiaConverge
