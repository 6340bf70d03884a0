import Geminifs.Core.SlotLog
import Geminifs.Library.Assoc
import Geminifs.Library.Decimal

/-!
# The NVMe File Manager

`FileManager`: the files of one controller, by id. A file is a record in a slot of
the log, and its id is the number of the slot.

A record is written when its file is created and stays when the file is deleted.
The bitmap of the slots in use is kept in memory and written after a number of
changes, and when the manager is destroyed. A new manager takes from the log the
records of the slots that the bitmap lists, if each names its own slot.

The calls of the constructor succeed, since there is no manager otherwise; an
exception is `none`. Whether the writes of the other functions succeed is given in
advance. A write that fails leaves the file as it is.

## Main definitions

* `NVMeFileDesc`: A record, with its bytes.
* `FileManager`: The manager.
* `FileManager.construct`: Opening a log, or starting one.
* `FileManager.createFile`, `FileManager.createFileAuto`, `FileManager.deleteFile`:
  The operations.
* `FileManager.step`: One call of the three.
-/

namespace Geminifs.Gemini

open SlotLog

/-- `UINT32_MAX`, an id that no file has. -/
def uint32Max : Nat := 4294967295

/-- `NVMeFileDesc`, without its padding. The name is a C string in a field of 16
    bytes. -/
@[ext]
structure NVMeFileDesc where
  slotIndex : UInt32
  filename : Bytes
  size : UInt64
  createTime : UInt64
  modifyTime : UInt64
  filename_length : filename.length = 16
  deriving DecidableEq

namespace NVMeFileDesc

/-- `sizeof(NVMeFileDesc)`. -/
def sizeof : Nat := 64

/-- `MAGIC_NUMBER`: "NVMEFILE". -/
def magicNumber : UInt64 := 0x4E564D4546494C45

def encode (d : NVMeFileDesc) : Bytes :=
  leBytes 4 d.slotIndex.toNat ++ (zeroBytes 20 ++ (d.filename ++
    (word d.size ++ (word d.createTime ++ word d.modifyTime))))

def decode (bs : Bytes) : NVMeFileDesc where
  slotIndex := UInt32.ofNat (leNat (field 0 4 bs))
  filename := (List.range 16).map (fun k => bs.getD (24 + k) 0)
  size := wordAt 40 bs
  createTime := wordAt 48 bs
  modifyTime := wordAt 56 bs
  filename_length := by rw [List.length_map, List.length_range]

/-- `std::string(desc.filename)`. -/
def name (d : NVMeFileDesc) : Bytes := cStr d.filename

end NVMeFileDesc

/-- `strncpy` into the zeroed field, of 15 bytes at most. -/
def nameField (filename : Bytes) : Bytes := padTo 16 ((cStr filename).take 15)

theorem nameField_length (filename : Bytes) : (nameField filename).length = 16 :=
  padTo_length 16 _ (Nat.le_trans (List.length_take_le 15 _) (by omega))

/-- The record of a new file. -/
def newDesc (slot : Nat) (filename : Bytes) (size now : UInt64) : NVMeFileDesc where
  slotIndex := UInt32.ofNat slot
  filename := nameField filename
  size := size
  createTime := now
  modifyTime := now
  filename_length := nameField_length filename

/-- `OpenFileHandle`: an address in host memory, a name, and the size of what is
    allocated. -/
structure OpenFileHandle where
  fd : Nat
  filename : Bytes
  hdrSize : Nat
  deriving DecidableEq, Repr

/-- The members of `FileManager`. `log` is the file behind `log_file_handle_`, and
    `files` is `nvme_file_id_to_file_map_`. The pending writes are fewer than the
    threshold after every call, so that their count does not wrap. -/
structure FileManager where
  log : ByteFile
  header : LogHeader
  bitmap : Bitmap
  files : AList (fun _ : Nat => NVMeFileDesc)
  threshold : Nat
  pending : Nat
  openFiles : List OpenFileHandle

/-- The time, and which of the writes of a call succeed. -/
structure WriteEnv where
  now : UInt64
  recordOk : Bool
  headerOk : Bool
  bitmapOk : Bool
  deriving DecidableEq, Repr

/-- `writeRecordToSlot`, on a log whose header is in memory. -/
def writeRecordToSlot (log : ByteFile) (h : LogHeader) (d : NVMeFileDesc) (slot : Nat) : ByteFile :=
  log.write (h.slotOffset slot) d.encode

variable (fm : FileManager)

namespace FileManager

/-! ### Opening a log -/

/-- The size of every log. -/
def logSize : Nat := recordsStart + maxRecords * NVMeFileDesc.sizeof

/-- Whether the constructor starts the log over. -/
def needInitialize (f : ByteFile) : Bool :=
  match f.read 0 sizeofHeader with
  -- An empty file, or one shorter than the header.
  | none => true
  | some bs =>
    let h := LogHeader.decode bs
    h.magicNum ≠ NVMeFileDesc.magicNumber || h.recordSize.toNat ≠ NVMeFileDesc.sizeof ||
      h.headerSize.toNat ≠ sizeofHeader || maxRecords < h.activeRecordCount.toNat ||
      f.size ≠ logSize

/-- `initializeLogFile`: the header, no bit set, and a record of zeros in each
    slot. -/
def initializeLogFile : ByteFile :=
  ((ByteFile.empty.write 0 (newHeader NVMeFileDesc.magicNumber NVMeFileDesc.sizeof).encode).write
    sizeofHeader (zeroBytes bitmapSizeBytes)).write
    recordsStart (zeroBytes (maxRecords * NVMeFileDesc.sizeof))

/-- What the loop of `loadFromFile` changes. -/
structure Loaded where
  bitmap : Bitmap
  files : AList (fun _ : Nat => NVMeFileDesc)
  pending : Nat

/-- One turn of the loop. A slot that cannot be read, or whose record names another
    slot, is not in use any more. -/
def loadRecord (f : ByteFile) (h : LogHeader) (s : Loaded) (i : Nat) : Loaded :=
  if s.bitmap i then
    match f.read (h.slotOffset i) NVMeFileDesc.sizeof with
    | none => { s with bitmap := s.bitmap.clearBit i, pending := s.pending + 1 }
    | some bs =>
      let d := NVMeFileDesc.decode bs
      if d.slotIndex.toNat ≠ i then
        { s with bitmap := s.bitmap.clearBit i, pending := s.pending + 1 }
      else { s with files := s.files.insert d.slotIndex.toNat d }
  else s

/-- The loop, over the first `n` slots. -/
def loadRecords (f : ByteFile) (h : LogHeader) (s : Loaded) : Nat → Loaded
  | 0 => s
  | n + 1 => loadRecord f h (loadRecords f h s n) n

/-- The end of `loadFromFile`: a wrong count in the header is corrected, and is a
    change to be written. -/
def finishLoad (f : ByteFile) (h : LogHeader) (threshold : Nat) (s : Loaded) : FileManager :=
  let count := UInt64.ofNat s.files.keys.length
  { log := f
    header := { h with activeRecordCount := count }
    bitmap := s.bitmap
    files := s.files
    threshold := threshold
    pending := if count ≠ h.activeRecordCount then s.pending + 1 else s.pending
    openFiles := [] }

/-- `loadFromFile`. -/
def loadFromFile (f : ByteFile) (threshold : Nat) : Option FileManager :=
  match f.read 0 sizeofHeader with
  | none => none
  | some bs =>
    let h := LogHeader.decode bs
    if h.magicNum ≠ NVMeFileDesc.magicNumber ∨ h.recordSize.toNat ≠ NVMeFileDesc.sizeof then none
    else
      match f.read h.bitmapOffset.toNat bitmapSizeBytes with
      | none => none
      | some buf =>
        some (finishLoad f h threshold (loadRecords f h
          ⟨fun i => decide (i < maxRecords) && shiftedBit buf i, ∅, 0⟩ maxRecords))

/-- The constructor, on a path where there is a file or not. -/
def construct (log : Option ByteFile) (threshold : Nat) : Option FileManager :=
  match log with
  | none => loadFromFile initializeLogFile threshold
  | some f => loadFromFile (if needInitialize f then initializeLogFile else f) threshold

/-! ### Changing it -/

/-- `persistBitmap`. The count of pending writes is reset whether or not the writes
    succeed. -/
def persistBitmap (env : WriteEnv) : FileManager :=
  let header := { fm.header with activeRecordCount := UInt64.ofNat fm.files.keys.length }
  let log := if env.headerOk then fm.log.write 0 header.encode else fm.log
  let log :=
    if env.bitmapOk then log.write header.bitmapOffset.toNat (bitmapBytes fm.bitmap) else log
  { fm with log := log, header := header, pending := 0 }

/-- `forcePersist`. -/
def forcePersist (env : WriteEnv) : FileManager :=
  if 0 < fm.pending ∨ fm.threshold = 0 then fm.persistBitmap env else fm

/-- The end of a change: the bitmap is written if enough is pending. -/
def countWrite (env : WriteEnv) : FileManager :=
  let fm := { fm with pending := fm.pending + 1 }
  if fm.threshold = 0 ∨ fm.threshold ≤ fm.pending then fm.persistBitmap env else fm

/-- Write a record to a slot and take the slot into use. -/
def occupy (d : NVMeFileDesc) (slot : Nat) : FileManager :=
  { fm with
    log := writeRecordToSlot fm.log fm.header d slot
    bitmap := fm.bitmap.setBit slot
    files := fm.files.insert slot d }

/-- Take a file out of the map, and its slot out of use. The record stays. -/
def vacate (id slot : Nat) : FileManager :=
  { fm with bitmap := fm.bitmap.clearBit slot, files := fm.files.erase id }

/-- `createFile` with a name. That the name may stand for another slot is only
    warned about. -/
def createFile (filename : Bytes) (size : UInt64) (env : WriteEnv) :
    FileManager × Option NVMeFileDesc :=
  if 16 ≤ filename.length then (fm, none)
  else
    match findNextFreeSlot fm.bitmap with
    | none => (fm, none)
    | some slot =>
      if (fm.files.lookup slot).isSome then (fm, none)
      else
        let d := newDesc slot filename size env.now
        if ¬ env.recordOk then (fm, none)
        else ((fm.occupy d slot).countWrite env, some d)

/-- `generateFilenameFromId`. -/
def generateFilenameFromId (id : Nat) : Bytes := decimal id

/-- `createFile` without a name: the slot is the name. It is not looked up in the
    map. -/
def createFileAuto (size : UInt64) (env : WriteEnv) : FileManager × Option NVMeFileDesc :=
  match findNextFreeSlot fm.bitmap with
  | none => (fm, none)
  | some slot =>
    if 16 ≤ (generateFilenameFromId slot).length then (fm, none)
    else
      let d := newDesc slot (generateFilenameFromId slot) size env.now
      if ¬ env.recordOk then (fm, none)
      else ((fm.occupy d slot).countWrite env, some d)

/-- `deleteFile`. -/
def deleteFile (id : Nat) (env : WriteEnv) : FileManager × Bool :=
  match fm.files.lookup id with
  | none => (fm, false)
  | some d => ((fm.vacate id d.slotIndex.toNat).countWrite env, true)

/-- The destructor: what it leaves on disk. -/
def destroy (env : WriteEnv) : ByteFile := (fm.forcePersist env).log

/-! ### Finding files -/

/-- `parseFileIdFromFilename`: what `stoul` returns is cut to 32 bits. -/
def parseFileIdFromFilename (filename : Bytes) : Nat :=
  match stoul filename with
  | none => uint32Max
  | some v => v % 4294967296

/-- `getFileIdByFilename`. A name that reads as the id of a file stands for that
    file, whatever its name. Other names are looked for in the order of the map. -/
def getFileIdByFilename (filename : Bytes) : Nat :=
  let id := parseFileIdFromFilename filename
  if id ≠ uint32Max ∧ (fm.files.lookup id).isSome then id
  else
    match fm.files.entries.find? (fun e => e.2.name == filename) with
    | some e => e.1
    | none => uint32Max

/-! ### Calls -/

/-- The calls that change the files. -/
inductive Call where
  | createFile (filename : Bytes) (size : UInt64) (env : WriteEnv)
  | createFileAuto (size : UInt64) (env : WriteEnv)
  | deleteFile (id : Nat) (env : WriteEnv)
  deriving DecidableEq, Repr

def step : Call → FileManager
  | .createFile filename size env => (fm.createFile filename size env).1
  | .createFileAuto size env => (fm.createFileAuto size env).1
  | .deleteFile id env => (fm.deleteFile id env).1

end FileManager

end Geminifs.Gemini
