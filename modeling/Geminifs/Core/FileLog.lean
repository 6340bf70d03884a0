import Geminifs.Library.Bytes
import Geminifs.Library.SwapPop
import Mathlib.Logic.Function.Basic

/-!
# The File Directory of One Device

The in-memory half of `PersistentFileLog`: an entry vector, an index from names
to vector positions, and the counter file ids are drawn from. Names are byte
strings; nothing about them is checked here beyond their length.

The counter is a natural number. The source's is 64 bits wide and is drawn
from once per created file, so it does not wrap in the life of a device; the
results about the on-disk format say where the width is relied on.

## Main definitions

* `LbaExtent`: A run of device blocks.
* `FileLog`: The directory, with the fields of `PersistentFileLog`.
* `FileLog.findByName`, `FileLog.nextFileId`, `FileLog.add`, `FileLog.remove`:
  Its operations.
* `FileLog.WellFormed`, `FileLog.Indexed`: The index and the vector describe one directory.
-/

namespace Geminifs

open Function

/-- A run of device blocks: `start_lba`, `length_blocks`. -/
structure LbaExtent where
  startLba : UInt64
  lengthBlocks : UInt64
  deriving DecidableEq, Repr, Inhabited

/-- One directory entry. -/
structure Entry where
  fileId : Nat
  name : Bytes
  sizeBytes : UInt64
  extents : List LbaExtent
  deriving DecidableEq, Repr, Inhabited

/-- Names of this many bytes or more are refused by `add`; also the width of
    the on-disk name field. -/
def kNameMax : Nat := 128

/-- The directory of one device: `entries_`, `name_to_index_` and
    `next_file_id_`. -/
@[ext]
structure FileLog where
  entries : List Entry
  nameToIndex : Bytes → Option Nat
  nextId : Nat

namespace FileLog

/-- A freshly constructed directory. -/
def empty : FileLog := ⟨[], fun _ => none, 1⟩

/-- `find_by_name`: the entry the index points at. -/
def findByName (l : FileLog) (name : Bytes) : Option Entry :=
  match l.nameToIndex name with
  | none => none
  | some i => l.entries[i]?

/-- `next_file_id`: draw an id, whether or not it is going to be used. -/
def nextFileId (l : FileLog) : Nat × FileLog :=
  (l.nextId, { l with nextId := l.nextId + 1 })

/-- `add`: refuses long names and names already present. -/
def add (l : FileLog) (e : Entry) : FileLog × Bool :=
  if kNameMax ≤ e.name.length then (l, false)
  else if (l.nameToIndex e.name).isSome then (l, false)
  else
    -- An entry with an id from elsewhere moves the counter past it.
    ({ entries := l.entries ++ [e]
       nameToIndex := update l.nameToIndex e.name (some l.entries.length)
       nextId := if l.nextId ≤ e.fileId then e.fileId + 1 else l.nextId }, true)

/-- Take out position `i` holding `e`: the last entry moves into its place, and
    the index follows it unless it was the one removed. -/
def erasePosition (l : FileLog) (i : Nat) (e : Entry) : FileLog :=
  match l.entries.getLast? with
  | none => l
  | some z =>
    let index := update l.nameToIndex e.name none
    { l with
      entries := swapPop l.entries i z
      nameToIndex :=
        if i ≠ l.entries.length - 1 then update index z.name (some i) else index }

/-- `remove`: the first entry with the id goes, by swap-and-pop. -/
def remove (l : FileLog) (fileId : Nat) : FileLog × Bool :=
  match l.entries.findIdx? (fun e => e.fileId == fileId) with
  | none => (l, false)
  | some i =>
    match l.entries[i]? with
    -- The position is one of the vector, so this is not reached.
    | none => (l, false)
    | some e => (l.erasePosition i e, true)

/-- The index and the vector describe one directory: names and ids are unique,
    the index finds exactly the vector's names, and ids come from the
    counter. -/
structure WellFormed (l : FileLog) : Prop where
  names : (l.entries.map Entry.name).Nodup
  ids : (l.entries.map Entry.fileId).Nodup
  index : ∀ name i, l.nameToIndex name = some i ↔ (l.entries[i]?).map Entry.name = some name
  below : ∀ e ∈ l.entries, e.fileId < l.nextId
  counter : 0 < l.nextId
  short : ∀ e ∈ l.entries, e.name.length < kNameMax

/-- The same without the counter and the length of names, which a log file need not
    keep. -/
structure Indexed (l : FileLog) : Prop where
  names : (l.entries.map Entry.name).Nodup
  ids : (l.entries.map Entry.fileId).Nodup
  index : ∀ name i, l.nameToIndex name = some i ↔ (l.entries[i]?).map Entry.name = some name

end FileLog

end Geminifs
