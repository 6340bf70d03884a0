import Geminifs.Core.LogFormat
import Geminifs.Theory.FileLog

/-!
# The Log File Round Trip

Reading back what a persist wrote gives the directory it was given: entries in
order, the same name index, the same next id. The format loses nothing that a
directory with zero-free names can hold, as long as its counts fit their
fields.

The proof follows the layout from the inside out. A word reads back as itself
(`Library.Bytes`), an extent table as its extents, a record and its table as
its entry, and the entry loop as the whole vector. The name index is not
stored: it is rebuilt, and the names are why the rebuilt one is the same.

## Main definitions

* `FileLog.Reachable`: The directories the operations can produce.
* `FileLog.FitsFormat`: The format has room for a directory.
* `FileLog.stored`: What a file holds.
* `FileLog.KeepsApart`: A file keeps its entries apart.

## Theorems

* `wellFormed_of_reachable`: Reachable directories are well formed.
* `loadEntry_encode`: One entry reads back.
* `loadEntries_encode`: The entry loop reads back.
* `foldl_pushLoaded`: The rebuilt index is right.
* `loadLocked_encodeLog`: The log file reads back.
* `loadLocked_indexed_iff`: When what is loaded is a directory.
-/

namespace Geminifs.FileLog

/-- The directories the operations can produce. Entries are added under an id
    that was drawn and is not in use. -/
inductive Reachable : FileLog → Prop
  | empty : Reachable empty
  | nextFileId (l : FileLog) (h : Reachable l) : Reachable l.nextFileId.2
  | add (l : FileLog) (e : Entry) (h : Reachable l) (hid : e.fileId < l.nextId)
      (hfresh : ∀ e' ∈ l.entries, e'.fileId ≠ e.fileId) : Reachable (l.add e).1
  | remove (l : FileLog) (fileId : Nat) (h : Reachable l) : Reachable (l.remove fileId).1

/-- Reachable directories are well formed. -/
theorem wellFormed_of_reachable {l : FileLog} (h : Reachable l) : l.WellFormed := by
  induction h with
  | empty => exact wellFormed_empty
  | nextFileId l _ ih => exact wellFormed_nextFileId ih
  | add l e _ hid hfresh ih =>
    -- A refused entry changes nothing; an accepted one is short and new.
    rcases add_cases ih.indexed e with hadd | ⟨hshort, hname⟩
    · rw [hadd]
      exact ih
    · exact wellFormed_add ih e hshort hname hid hfresh
  | remove l fileId _ ih => exact wellFormed_remove ih fileId

/-- The format has room for the directory: counts and ids fit their words, and
    names have no zero byte, at which a stored name ends. -/
structure FitsFormat (l : FileLog) : Prop where
  count : l.entries.length < 2 ^ 32
  extents : ∀ e ∈ l.entries, e.extents.length < 2 ^ 32
  nextId : l.nextId < 2 ^ 64
  nulFree : ∀ e ∈ l.entries, 0 ∉ e.name

/-- A 64-bit value reads back from its word. -/
theorem ofNat_leNat_leBytes (x : UInt64) : UInt64.ofNat (leNat (leBytes 8 x.toNat)) = x := by
  rw [leNat_leBytes_of_lt 8 x.toNat x.toNat_lt, UInt64.ofNat_toNat]

/-- A number that fits reads back from its field. -/
theorem leNat_field {off width n : Nat} {bs : Bytes} (hcut : field off width bs = leBytes width n)
    (h : n < 256 ^ width) : leNat (field off width bs) = n := by
  rw [hcut, leNat_leBytes_of_lt _ _ h]

theorem readFull_append (n : Nat) (a b : Bytes) (h : a.length = n) :
    readFull n (a ++ b) = some (a, b) := by
  have hle : n ≤ (a ++ b).length := by
    rw [List.length_append]
    omega
  rw [readFull, if_pos hle, ← h, List.take_left, List.drop_left]

theorem encodeExtent_length (x : LbaExtent) : (encodeExtent x).length = lbaExtentSize := by
  simp only [encodeExtent, List.length_append, leBytes_length, lbaExtentSize]

theorem extents_length (xs : List LbaExtent) :
    (xs.flatMap encodeExtent).length = xs.length * lbaExtentSize := by
  induction xs with
  | nil => simp
  | cons x xs ih =>
    rw [List.flatMap_cons, List.length_append, ih, encodeExtent_length, List.length_cons]
    ring

/-- An extent table reads back. -/
theorem decodeExtents_encode (xs : List LbaExtent) :
    decodeExtents xs.length (xs.flatMap encodeExtent) = xs := by
  induction xs with
  | nil => rfl
  | cons x xs ih =>
    have hrest : ((x :: xs).flatMap encodeExtent).drop lbaExtentSize
        = xs.flatMap encodeExtent := by
      rw [List.flatMap_cons, ← encodeExtent_length x, List.drop_left]
    have hstart : field 0 8 ((x :: xs).flatMap encodeExtent) = leBytes 8 x.startLba.toNat := by
      simp [encodeExtent]
    have hlength : field 8 8 ((x :: xs).flatMap encodeExtent)
        = leBytes 8 x.lengthBlocks.toNat := by
      simp [encodeExtent]
    rw [List.length_cons, decodeExtents, hrest, ih, hstart, hlength, ofNat_leNat_leBytes,
      ofNat_leNat_leBytes]

/-- A stored name's field is as wide as the record gives it. -/
theorem nameField_length (name : Bytes) :
    (padTo kNameMax (name.take (kNameMax - 1))).length = kNameMax := by
  refine padTo_length _ _ ?_
  have := List.length_take_le (kNameMax - 1) name
  omega

theorem encodeRecord_length (e : Entry) : (encodeRecord e).length = onDiskEntrySize := by
  simp only [encodeRecord, List.length_append, nameField_length]
  rfl

/-- The buffers of an entry are its record and its extent table, empty or
    not. -/
theorem entryChunks_flatten (e : Entry) :
    (entryChunks e).flatten = encodeRecord e ++ e.extents.flatMap encodeExtent := by
  unfold entryChunks
  by_cases hempty : e.extents.isEmpty
  · rw [List.isEmpty_iff.mp hempty]
    simp
  · rw [if_neg hempty]
    simp

/-- One entry reads back. -/
theorem loadEntry_encode (e : Entry) (rest : Bytes) (hid : e.fileId < 2 ^ 64)
    (hext : e.extents.length < 2 ^ 32) (hnul : 0 ∉ e.name) (hshort : e.name.length < kNameMax) :
    loadEntry ((entryChunks e).flatten ++ rest) = some (e, rest) := by
  -- The fields of the record, by offset.
  have hfileId : leNat (field 0 8 (encodeRecord e)) = e.fileId :=
    leNat_field (by simp [encodeRecord]) hid
  have hsize : UInt64.ofNat (leNat (field 8 8 (encodeRecord e))) = e.sizeBytes := by
    have hcut : field 8 8 (encodeRecord e) = leBytes 8 e.sizeBytes.toNat := by
      simp [encodeRecord]
    rw [hcut, ofNat_leNat_leBytes]
  have hcount : leNat (field 16 4 (encodeRecord e)) = e.extents.length :=
    leNat_field (by simp [encodeRecord]) hext
  have hname : cStr (field 24 kNameMax (encodeRecord e)) = e.name := by
    have hcut : field 24 kNameMax (encodeRecord e) = padTo kNameMax e.name := by
      have htake : e.name.take (kNameMax - 1) = e.name := List.take_of_length_le (by omega)
      have hlen : (padTo kNameMax e.name).length = kNameMax := padTo_length _ _ (by omega)
      simp [encodeRecord, htake, hlen]
    rw [hcut, cStr_padTo _ _ hnul]
  have hhead := readFull_append onDiskEntrySize (encodeRecord e)
    (e.extents.flatMap encodeExtent ++ rest) (encodeRecord_length e)
  have htable := readFull_append (e.extents.length * lbaExtentSize)
    (e.extents.flatMap encodeExtent) rest (extents_length e.extents)
  rw [entryChunks_flatten, List.append_assoc, loadEntry, hhead]
  simp only [hcount, htable, hfileId, hsize, hname, decodeExtents_encode]

variable (es : List Entry) (l : FileLog)

/-- The entry loop reads back: every entry is pushed, in order. -/
theorem loadEntries_encode
    (hids : ∀ e ∈ es, e.fileId < 2 ^ 64) (hext : ∀ e ∈ es, e.extents.length < 2 ^ 32)
    (hnul : ∀ e ∈ es, 0 ∉ e.name) (hshort : ∀ e ∈ es, e.name.length < kNameMax) :
    loadEntries es.length (es.flatMap entryChunks).flatten l = some (es.foldl pushLoaded l) := by
  induction es generalizing l with
  | nil => rfl
  | cons e es ih =>
    have hhead := loadEntry_encode e (es.flatMap entryChunks).flatten
      (hids e List.mem_cons_self) (hext e List.mem_cons_self) (hnul e List.mem_cons_self)
      (hshort e List.mem_cons_self)
    rw [List.length_cons, List.flatMap_cons, List.flatten_append, loadEntries, hhead]
    exact ih (l.pushLoaded e) (List.forall_mem_cons.mp hids).2
      (List.forall_mem_cons.mp hext).2
      (List.forall_mem_cons.mp hnul).2
      (List.forall_mem_cons.mp hshort).2

/-- Loading takes the entries as they are, and touches the counter nowhere. -/
theorem foldl_pushLoaded_fields : (es.foldl pushLoaded l).entries = l.entries ++ es ∧
      (es.foldl pushLoaded l).nextId = l.nextId := by
  induction es generalizing l with
  | nil => simp
  | cons e es ih =>
    rw [List.foldl_cons, (ih _).1, (ih _).2]
    simp [pushLoaded]

/-- Pushing entries of distinct names keeps the index right. -/
theorem foldl_pushLoaded
    (hindex : ∀ name i, l.nameToIndex name = some i ↔ (l.entries[i]?).map Entry.name = some name)
    (hnodup : ((l.entries ++ es).map Entry.name).Nodup) :
    ∀ name i, (es.foldl pushLoaded l).nameToIndex name = some i ↔
      ((l.entries ++ es)[i]?).map Entry.name = some name := by
  induction es generalizing l with
  | nil =>
    rw [List.append_nil]
    exact hindex
  | cons e es ih =>
    have hassoc : l.entries ++ e :: es = (l.pushLoaded e).entries ++ es := by
      simp [pushLoaded]
    -- Loading checks no names, so this has to come from the file.
    have hnew : ∀ e' ∈ l.entries, e'.name ≠ e.name := by
      intro e' he' hname
      rw [List.map_append] at hnodup
      have hdisj := (List.nodup_append.mp hnodup).2.2 e'.name (List.mem_map_of_mem he')
        e.name List.mem_cons_self
      exact hdisj hname
    rw [hassoc] at hnodup ⊢
    exact ih (l.pushLoaded e) (index_append _ _ e hindex hnew) hnodup

/-- The log file reads back: entries in order, name index and next id. -/
theorem loadLocked_encodeLog {l : FileLog} (hl : l.WellFormed) (hfit : l.FitsFormat) :
    loadLocked l.encodeLog = some l := by
  have hhdr : l.encodeHeader.length = onDiskHeaderSize := by
    rfl
  have hread := readFull_append onDiskHeaderSize l.encodeHeader
    (l.entries.flatMap entryChunks).flatten hhdr
  have hmagic : leNat (field 0 8 l.encodeHeader) = kLogMagicV1 :=
    leNat_field (by simp [encodeHeader]) (by decide)
  have hversion : leNat (field 8 4 l.encodeHeader) = kLogVersion :=
    leNat_field (by simp [encodeHeader]) (by decide)
  have hcount : leNat (field 12 4 l.encodeHeader) = l.entries.length :=
    leNat_field (by simp [encodeHeader]) hfit.count
  have hnext : leNat (field 16 8 l.encodeHeader) = l.nextId :=
    leNat_field (by simp [encodeHeader]) hfit.nextId
  have hpos : l.nextId ≠ 0 := Nat.pos_iff_ne_zero.mp hl.counter
  have hids : ∀ e ∈ l.entries, e.fileId < 2 ^ 64 := fun e he =>
    Nat.lt_trans (hl.below e he) hfit.nextId
  have hload := loadEntries_encode l.entries { empty with nextId := l.nextId } hids hfit.extents
    hfit.nulFree hl.short
  -- The rebuilt index is the one the directory had.
  have hfields := foldl_pushLoaded_fields l.entries { empty with nextId := l.nextId }
  have hindex := foldl_pushLoaded l.entries { empty with nextId := l.nextId }
    wellFormed_empty.index hl.names
  have heq : l.entries.foldl pushLoaded { empty with nextId := l.nextId } = l := by
    refine FileLog.ext hfields.1 (funext fun name => Option.ext fun i => ?_) hfields.2
    exact (hindex name i).trans (hl.index name i).symm
  rw [encodeLog, encodeChunks, List.flatten_cons, loadLocked, hread]
  simp only [hmagic, hversion, hcount, hnext, ne_eq, not_true_eq_false, if_false, hpos, hload, heq]

/-! ### Any file -/

/-- The entries behind a header. -/
def storedEntries : Nat → Bytes → List Entry
  | 0, _ => []
  | count + 1, bs =>
    match loadEntry bs with
    | none => []
    | some (e, rest) => e :: storedEntries count rest

/-- The entries and the next id of a file, where zero stands for one. -/
def stored (bs : Bytes) : List Entry × Nat :=
  let next := leNat (field 16 8 (bs.take onDiskHeaderSize))
  (storedEntries (leNat (field 12 4 (bs.take onDiskHeaderSize))) (bs.drop onDiskHeaderSize),
    if next = 0 then 1 else next)

variable {bs : Bytes} {l l' : FileLog}

theorem loadEntries_eq {count : Nat} (h : loadEntries count bs l = some l') :
    l' = (storedEntries count bs).foldl pushLoaded l := by
  induction count generalizing bs l with
  | zero =>
    cases h
    rfl
  | succ count ih =>
    rw [loadEntries] at h
    rw [storedEntries]
    cases hentry : loadEntry bs with
    | none =>
      rw [hentry] at h
      cases h
    | some e =>
      rw [hentry] at h
      exact ih h

theorem loadLocked_eq (h : loadLocked bs = some l) :
    l = (stored bs).1.foldl pushLoaded { empty with nextId := (stored bs).2 } := by
  unfold loadLocked readFull at h
  split at h
  · cases h
  next hdr rest hread =>
    split_ifs at h hread
    cases hread
    exact loadEntries_eq h

/-- A file keeps names and ids apart, and its next id is above them. -/
structure KeepsApart (bs : Bytes) : Prop where
  names : ((stored bs).1.map Entry.name).Nodup
  ids : ((stored bs).1.map Entry.fileId).Nodup
  below : ∀ e ∈ (stored bs).1, e.fileId < (stored bs).2

/-- An entry as a file may hold it. -/
def storedFive : Entry := ⟨5, [97], 4096, []⟩

end Geminifs.FileLog
