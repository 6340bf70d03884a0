import Geminifs.Core.FileLog
import Geminifs.Library.Transfer
import Geminifs.Library.Volume

/-!
# The Directory on Disk

`persist_locked` and `load_locked`: the packed records of `file_log.bin`, and
the write-to-temporary, sync, rename sequence that replaces the file.

The writer issues one `write_full` for the header, one per entry record and
one per non-empty extent table; `encodeChunks` is that sequence of buffers and
`encodeLog` what a finished file holds. Narrowing casts are the truncation
`leBytes` does.

A persist is recorded system call by system call: `PersistRun.states` is the
volume after each of them, so that a crash can be put at any point. What the
calls return is given by a `PersistEnv`.

## Main definitions

* `encodeLog`: The bytes of a directory.
* `loadLocked`: Reading a directory back from bytes.
* `persistLocked`: Replacing the log file.
* `loadOrInit`: Opening a log, or starting one.
-/

namespace Geminifs

/-- A byte string from ASCII characters. -/
def ascii (cs : List Char) : Bytes := cs.map (fun c => UInt8.ofNat c.toNat)

/-- `"TUTITLOG"`, little-endian. -/
def kLogMagicV1 : Nat := 0x474F4C5449545554

def kLogVersion : Nat := 1

/-- `sizeof(OnDiskHeader)`. -/
def onDiskHeaderSize : Nat := 40

/-- `sizeof(OnDiskEntry)`. -/
def onDiskEntrySize : Nat := 152

/-- `sizeof(LbaExtent)`. -/
def lbaExtentSize : Nat := 16

namespace FileLog

/-- `OnDiskHeader`: magic, version, entry count, next id, two reserved words. -/
def encodeHeader (l : FileLog) : Bytes :=
  leBytes 8 kLogMagicV1 ++ (leBytes 4 kLogVersion ++ (leBytes 4 l.entries.length ++
    (leBytes 8 l.nextId ++ (leBytes 8 0 ++ leBytes 8 0))))

/-- `OnDiskEntry`: id, size, extent count, a reserved word, and the name cut to
    one byte less than its field, zero-padded. -/
def encodeRecord (e : Entry) : Bytes :=
  leBytes 8 e.fileId ++ (leBytes 8 e.sizeBytes.toNat ++ (leBytes 4 e.extents.length ++
    (leBytes 4 0 ++ padTo kNameMax (e.name.take (kNameMax - 1)))))

def encodeExtent (x : LbaExtent) : Bytes :=
  leBytes 8 x.startLba.toNat ++ leBytes 8 x.lengthBlocks.toNat

/-- The buffers written for one entry: the extent table only if there is one. -/
def entryChunks (e : Entry) : List Bytes :=
  if e.extents.isEmpty then [encodeRecord e]
  else [encodeRecord e, e.extents.flatMap encodeExtent]

/-- The buffers `persist_locked` writes, in order. -/
def encodeChunks (l : FileLog) : List Bytes :=
  l.encodeHeader :: l.entries.flatMap entryChunks

/-- What a log file holds once all of them are written. -/
def encodeLog (l : FileLog) : Bytes := l.encodeChunks.flatten

/-- `read_full` on a file with `bs` left to read: short at the end of file. -/
def readFull (n : Nat) (bs : Bytes) : Option (Bytes × Bytes) :=
  if n ≤ bs.length then some (bs.take n, bs.drop n) else none

/-- The extents of a table of `count` records. -/
def decodeExtents : Nat → Bytes → List LbaExtent
  | 0, _ => []
  | count + 1, bs =>
    ⟨UInt64.ofNat (leNat (field 0 8 bs)), UInt64.ofNat (leNat (field 8 8 bs))⟩ ::
      decodeExtents count (bs.drop lbaExtentSize)

/-- One turn of the entry loop: the record, then its extent table. -/
def loadEntry (bs : Bytes) : Option (Entry × Bytes) :=
  match readFull onDiskEntrySize bs with
  | none => none
  | some (oe, rest) =>
    let numExtents := leNat (field 16 4 oe)
    match readFull (numExtents * lbaExtentSize) rest with
    | none => none
    | some (table, rest) =>
      some
        ({ fileId := leNat (field 0 8 oe)
           name := cStr (field 24 kNameMax oe)
           sizeBytes := UInt64.ofNat (leNat (field 8 8 oe))
           extents := decodeExtents numExtents table }, rest)

/-- Append a loaded entry. Unlike `add` this checks nothing, and a repeated
    name is indexed at its last position. -/
def pushLoaded (l : FileLog) (e : Entry) : FileLog :=
  { l with
    entries := l.entries ++ [e]
    nameToIndex := Function.update l.nameToIndex e.name (some l.entries.length) }

/-- The entry loop, with `count` entries to go. -/
def loadEntries : Nat → Bytes → FileLog → Option FileLog
  | 0, _, l => some l
  | count + 1, bs, l =>
    match loadEntry bs with
    | none => none
    | some (e, rest) => loadEntries count rest (l.pushLoaded e)

/-- `load_locked` on the contents of an existing file. A stored next id of
    zero is read as one. -/
def loadLocked (bs : Bytes) : Option FileLog :=
  match readFull onDiskHeaderSize bs with
  | none => none
  | some (hdr, rest) =>
    if leNat (field 0 8 hdr) ≠ kLogMagicV1 then none
    else if leNat (field 8 4 hdr) ≠ kLogVersion then none
    else
      let next := leNat (field 16 8 hdr)
      -- Bytes behind the last entry are not looked at.
      loadEntries (leNat (field 12 4 hdr)) rest
        { empty with nextId := if next = 0 then 1 else next }

/-- What the system calls of one persist return. -/
structure PersistEnv where
  openOk : Bool
  writes : List IoResult
  fsyncOk : Bool
  renameOk : Bool
  unlinkOk : Bool

/-- The record of one persist: the volume after each system call, and what was
    returned, if the machine did not stop inside a write. -/
structure PersistRun where
  states : List (Volume Bytes)
  last : Volume Bytes
  ret : Option Bool

/-- The `write_full` calls of a persist, one per buffer, up to the first that
    fails. -/
def writeChunks (tmp : Bytes) : List Bytes → List IoResult → Volume Bytes → PersistRun
  | [], _, v => ⟨[], v, some true⟩
  | c :: cs, rs, v =>
    let t := transferLoop 0 c.length rs
    let states := t.marks.map (fun m => v.write tmp (c.take m))
    let v' := v.write tmp (c.take t.moved)
    match t.ending with
    | .complete =>
      let w := writeChunks tmp cs t.rest v'
      { w with states := states ++ w.states }
    -- The machine stopped inside the call.
    | .pending => ⟨states, v', none⟩
    | _ => ⟨states, v', some false⟩

/-- `log_path_ + ".tmp"`. -/
def tmpPath (path : Bytes) : Bytes := path ++ ascii ['.', 't', 'm', 'p']

/-- The clean-up of a failed persist: remove the temporary file, if that
    works, and return false. -/
def abandon (tmp : Bytes) (env : PersistEnv) (states : List (Volume Bytes)) (v : Volume Bytes) :
    PersistRun :=
  let v' := if env.unlinkOk then v.unlink tmp else v
  ⟨states ++ [v'], v', some false⟩

/-- `persist_locked`: write the temporary file, sync it, rename it over the
    log. -/
def persistLocked (path : Bytes) (l : FileLog) (env : PersistEnv) (v : Volume Bytes) : PersistRun :=
  let tmp := tmpPath path
  if ¬ env.openOk then ⟨[v], v, some false⟩
  else
    let v₁ := v.openTrunc tmp
    let w := writeChunks tmp l.encodeChunks env.writes v₁
    let states := v :: v₁ :: w.states
    match w.ret with
    | none => ⟨states ++ [w.last], w.last, none⟩
    | some false => abandon tmp env (states ++ [w.last]) w.last
    | some true =>
      if ¬ env.fsyncOk then abandon tmp env (states ++ [w.last]) w.last
      else
        let v₂ := w.last.fsync tmp
        if ¬ env.renameOk then abandon tmp env (states ++ [w.last, v₂]) v₂
        else
          -- The directory that holds both names is not synced.
          let v₃ := v₂.rename tmp path
          ⟨states ++ [w.last, v₂, v₃], v₃, some true⟩

/-- `load_or_init`: a missing log file is started by persisting an empty
    directory. -/
def loadOrInit (path : Bytes) (env : PersistEnv) (v : Volume Bytes) : Option FileLog :=
  match v path with
  | some f => loadLocked f.data
  | none => if (persistLocked path empty env v).ret = some true then some empty else none

end FileLog

end Geminifs
