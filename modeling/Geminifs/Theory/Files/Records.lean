import Geminifs.Core.NvmeFileManager
import Geminifs.Theory.Files.Layout
import Geminifs.Library.Runs

/-!
# The Records of the NVMe File Manager

What every file manager keeps true of its map, its bitmap and its log, and what a
new one finds in a log.

A call writes to the log in one of a few ways (`Effect`). That the map, the bitmap and
the log fit is kept by each of them, and so by any number of calls.

## Main definitions

* `NVMeFileDesc.format`: The records: each belongs in the slot it names.
* `IsLog`: A file that is accepted as a log.
* `Sound`: The map, the bitmap and the log of a manager fit.
* `Effect`: What a call does to a manager, and what it writes to the slots.
* `Written`: The logs that managers leave behind when they are destroyed.
* `Synced`: The bits in the log are those in memory, unless writes are pending.

## Theorems

* `loadFromFile_spec`: What is loaded, in terms of the slots.
* `step_effect`: Every call has one of the effects.
* `Sound.effect`, `sound_run`: Every call keeps the three fitting.
* `reopen_keeps_files`: A manager that is destroyed and opened again.
-/

namespace Geminifs.Gemini

open SlotLog Runs Function

/-! ### Records as bytes -/

namespace NVMeFileDesc

variable (d : NVMeFileDesc)

theorem encode_length : d.encode.length = sizeof := by
  simp [encode, sizeof, d.filename_length]

theorem decode_encode : decode d.encode = d := by
  have hslot : d.slotIndex.toNat < 256 ^ 4 := d.slotIndex.toNat_lt
  have hname : (List.range 16).map (fun k => d.encode.getD (24 + k) 0) = d.filename := by
    apply List.ext_getElem?
    intro k
    by_cases hk : k < 16
    · have hk' : k < d.filename.length := by rw [d.filename_length]; exact hk
      rw [List.getElem?_map, List.getElem?_range hk, Option.map_some, encode,
        List.getD_eq_getElem?_getD, ← List.append_assoc,
        List.getElem?_append_right (by simp), List.getElem?_append_left (by simpa using hk')]
      simp [List.getElem?_eq_getElem hk']
    · rw [List.getElem?_eq_none (by simpa using hk),
        List.getElem?_eq_none (by rw [d.filename_length]; omega)]
  ext1
  · simp [decode, encode, leNat_leBytes_of_lt 4 _ hslot]
  · exact hname
  · simp [decode, encode, wordAt, d.filename_length]
  · simp [decode, encode, wordAt, d.filename_length]
  · simp [decode, encode, wordAt, d.filename_length]

/-- The records of the log: each belongs in the slot it names. -/
def format : RecordFormat NVMeFileDesc where
  size := sizeof
  encode := encode
  decode := decode
  proper i d := d.slotIndex.toNat == i
  encode_length := encode_length
  decode_encode := decode_encode

@[simp] theorem format_proper (i : Nat) (d : NVMeFileDesc) :
    format.proper i d = (d.slotIndex.toNat == i) := rfl

end NVMeFileDesc

variable {ws : List (SlotDisk.Write NVMeFileDesc)} {fm' : FileManager}

namespace FileManager

variable {fm : FileManager} {f : ByteFile} {h : LogHeader} {d : NVMeFileDesc}
  {log : Option ByteFile}

/-! ### Logs -/

/-- A log as slots. -/
abbrev slots (f : ByteFile) : SlotDisk NVMeFileDesc := NVMeFileDesc.format.slots f

/-- The headers of this manager. -/
abbrev IsHeader (h : LogHeader) : Prop := Canonical NVMeFileDesc.magicNumber NVMeFileDesc.sizeof h

/-- What every log that the manager has written is: as long as it should be, with
    a header that the constructor accepts. Nothing is said about the slots. -/
structure IsLog (f : ByteFile) : Prop where
  size : f.size = logSize
  header : ∃ h, f.slice 0 sizeofHeader = h.encode ∧ IsHeader h ∧
    h.activeRecordCount.toNat ≤ maxRecords

theorem slotOffset_of_isHeader (hh : IsHeader h) (slot : Nat) :
    h.slotOffset slot = recordsStart + slot * NVMeFileDesc.sizeof :=
  hh.slotOffset (by decide) slot

variable (i threshold : Nat)

theorem slot_inside (hi : i < maxRecords) :
    recordsStart + i * NVMeFileDesc.sizeof + NVMeFileDesc.sizeof ≤ logSize := by
  have hle := Nat.mul_le_mul_right NVMeFileDesc.sizeof hi
  rw [Nat.succ_mul] at hle
  rw [logSize]
  omega

theorem IsLog.write_header (hf : IsLog f) (hh : IsHeader h)
    (hcount : h.activeRecordCount.toNat ≤ maxRecords) : IsLog (f.write 0 h.encode) where
  size := by
    have hle : sizeofHeader ≤ logSize := by decide
    rw [ByteFile.write_size, hf.size, LogHeader.encode_length]
    omega
  header := ⟨h, slice_write_header f h, hh, hcount⟩

theorem IsLog.write_beyond (hf : IsLog f) {off : Nat} {bs : Bytes} (hoff : sizeofHeader ≤ off)
    (hend : off + bs.length ≤ logSize) : IsLog (f.write off bs) where
  size := by
    rw [ByteFile.write_size, hf.size]
    omega
  header := by
    rw [ByteFile.slice_write_of_disjoint _ _ _ _ _ (by omega)]
    exact hf.header

theorem IsLog.write_bitmap (hf : IsLog f) (bm : Bitmap) :
    IsLog (f.write sizeofHeader (bitmapBytes bm)) := by
  refine hf.write_beyond (Nat.le_refl _) ?_
  rw [bitmapBytes_length, logSize, recordsStart]
  omega

theorem IsLog.write_record (hf : IsLog f) (d : NVMeFileDesc) {i : Nat} (hi : i < maxRecords) :
    IsLog (f.write (recordsStart + i * NVMeFileDesc.sizeof) d.encode) := by
  refine hf.write_beyond ?_ ?_
  · rw [recordsStart]
    omega
  · rw [NVMeFileDesc.encode_length]
    exact slot_inside i hi

/-- The header of a log that was just started. -/
theorem header_initializeLogFile : initializeLogFile.slice 0 sizeofHeader =
    (newHeader NVMeFileDesc.magicNumber NVMeFileDesc.sizeof).encode := by
  rw [initializeLogFile, ByteFile.slice_write_of_disjoint, ByteFile.slice_write_of_disjoint]
  · exact slice_write_header ..
  · omega
  · rw [recordsStart]
    omega

/-- A log that was just started is one. -/
theorem isLog_initializeLogFile : IsLog initializeLogFile := by
  have hheader : IsHeader (newHeader NVMeFileDesc.magicNumber NVMeFileDesc.sizeof) := ⟨0, rfl⟩
  constructor
  · rw [initializeLogFile, ByteFile.write_size, ByteFile.write_size, ByteFile.write_size,
      zeroBytes_length, zeroBytes_length, LogHeader.encode_length, logSize, recordsStart]
    have hzero : ByteFile.empty.size = 0 := rfl
    omega
  · exact ⟨_, header_initializeLogFile, hheader, Nat.zero_le _⟩

/-- The constructor does not start such a log over. -/
theorem IsLog.accepted (hf : IsLog f) : needInitialize f = false := by
  rcases hf.header with ⟨h, hslice, hh, hcount⟩
  have hle : 0 + sizeofHeader ≤ f.size := by rw [hf.size]; decide
  have hread : f.read 0 sizeofHeader = some h.encode := by
    rw [ByteFile.read, if_pos hle, hslice]
  have hsize : f.size = logSize := hf.size
  have hnot : ¬ maxRecords < h.activeRecordCount.toNat := Nat.not_lt.mpr hcount
  rw [needInitialize, hread]
  rcases hh with ⟨n, rfl⟩
  simp only [LogHeader.decode_encode, hsize, hnot]
  rfl

/-! ### Loading -/

/-- A turn of the loop, in terms of the slot: a slot that is listed and holds a record is
    put in the map, and one that holds none is not in use any more. -/
theorem loadRecord_spec (hf : IsLog f) (hh : IsHeader h) {s : Loaded} {i : Nat} (hi : i < maxRecords)
    (hfree : s.files.lookup i = none) :
    (loadRecord f h s i).bitmap = update s.bitmap i (s.bitmap i && ((slots f).cell i).isSome) ∧
    (∀ j, (loadRecord f h s i).files.lookup j =
      if j = i then if s.bitmap i then (slots f).cell i else none else s.files.lookup j) ∧
    ((loadRecord f h s i).pending = 0 →
      s.pending = 0 ∧ (s.bitmap i = true → ((slots f).cell i).isSome)) := by
  have hread : f.read (h.slotOffset i) NVMeFileDesc.sizeof =
      some (f.slice (recordsStart + i * NVMeFileDesc.sizeof) NVMeFileDesc.sizeof) := by
    rw [ByteFile.read, slotOffset_of_isHeader hh, if_pos (by rw [hf.size]; exact slot_inside i hi)]
  have hcell : (slots f).cell i = if (NVMeFileDesc.format.record f i).slotIndex.toNat = i then
        some (NVMeFileDesc.format.record f i) else none := by
    simp only [RecordFormat.slots, hi, true_and, NVMeFileDesc.format_proper, beq_iff_eq]
  -- A slot that is not in the map is looked up as before.
  have hsame : ∀ j, s.files.lookup j = if j = i then none else s.files.lookup j := by
    intro j
    split
    next hj => rw [hj, hfree]
    · rfl
  rw [loadRecord, hread, hcell]
  simp only [show NVMeFileDesc.decode (f.slice (recordsStart + i * NVMeFileDesc.sizeof)
    NVMeFileDesc.sizeof) = NVMeFileDesc.format.record f i from rfl]
  cases hbit : s.bitmap i with
  | false => exact ⟨(update_eq_self_iff.mpr hbit.symm).symm, by simpa using hsame, by simp⟩
  | true =>
    by_cases hslot : (NVMeFileDesc.format.record f i).slotIndex.toNat = i
    · simp only [hslot, ne_eq]
      exact ⟨(update_eq_self_iff.mpr hbit.symm).symm, fun j => lookup_insert_apply, by simp⟩
    · simp only [hslot, ne_eq]
      exact ⟨rfl, hsame, by simp⟩

/-- After `n` turns, the slots below `n` are settled. -/
theorem loadRecords_spec (hf : IsLog f) (hh : IsHeader h) (bm : Bitmap) (n : Nat)
    (hn : n ≤ maxRecords) :
    (∀ i, (loadRecords f h ⟨bm, ∅, 0⟩ n).bitmap i =
      (bm i && (decide (n ≤ i) || ((slots f).cell i).isSome))) ∧
    (∀ i, (loadRecords f h ⟨bm, ∅, 0⟩ n).files.lookup i =
      if i < n ∧ bm i = true then (slots f).cell i else none) ∧
    ((loadRecords f h ⟨bm, ∅, 0⟩ n).pending = 0 →
      ∀ i, i < n → bm i = true → ((slots f).cell i).isSome) := by
  induction n with
  | zero => exact ⟨by simp [loadRecords], by simp [loadRecords], by simp⟩
  | succ n ih =>
    rcases ih (by omega) with ⟨hbitmap, hfiles, hpending⟩
    have hself : (loadRecords f h ⟨bm, ∅, 0⟩ n).bitmap n = bm n := by simp [hbitmap]
    rcases loadRecord_spec hf hh (by omega) (show (loadRecords f h ⟨bm, ∅, 0⟩ n).files.lookup n = none
      by simp [hfiles]) with ⟨hbitmap', hfiles', hpending'⟩
    rw [hself] at hbitmap' hfiles' hpending'
    rw [loadRecords]
    refine ⟨fun i => ?_, fun i => ?_, fun hp i hi hset => ?_⟩
    · rw [hbitmap', update_apply, hbitmap]
      by_cases hin : i = n
      · simp [hin]
      · rw [if_neg hin, decide_eq_decide.mpr (show n + 1 ≤ i ↔ n ≤ i by omega)]
    · rw [hfiles', hfiles]
      by_cases hin : i = n
      · simp [hin]
      · simp only [if_neg hin, show i < n + 1 ↔ i < n by omega]
    · rcases Nat.lt_succ_iff_lt_or_eq.mp hi with hi | rfl
      · exact hpending (hpending' hp).1 i hi hset
      · exact (hpending' hp).2 hset

/-- What the slots of a log have to do with the state that the loop ends in. -/
structure Settled (f : ByteFile) (s : Loaded) : Prop where
  bitmap : ∀ i, s.bitmap i = (s.files.lookup i).isSome
  files : ∀ i, s.files.lookup i = (slots f).recovered i
  pending : s.pending = 0 → ∀ i, (slots f).listed i = s.bitmap i

theorem settled_loadRecords (hf : IsLog f) (hh : IsHeader h) :
    Settled f (loadRecords f h ⟨(slots f).listed, ∅, 0⟩ maxRecords) := by
  rcases loadRecords_spec hf hh (slots f).listed maxRecords (Nat.le_refl _) with
    ⟨hbitmap, hfiles, hpending⟩
  constructor
  · intro i
    rw [hbitmap i, hfiles i]
    by_cases hi : (slots f).listed i = true
    · rw [hi, decide_eq_false (Nat.not_le.mpr (listed_lt hi)), if_pos ⟨listed_lt hi, rfl⟩,
        Bool.true_and, Bool.false_or]
    · simp [hi]
  · intro i
    rw [hfiles i, SlotDisk.recovered]
    by_cases hi : (slots f).listed i = true
    · rw [if_pos ⟨listed_lt hi, hi⟩, if_pos hi]
    · rw [if_neg (fun h => hi h.2), if_neg hi]
  · intro hzero i
    rw [hbitmap i]
    cases hi : (slots f).listed i with
    | false => rfl
    | true => rw [hpending hzero i (listed_lt hi) hi, Bool.or_true, Bool.and_true]

/-- A log is loaded: the header and the bitmap are read, and the loop is run. -/
theorem loadFromFile_eq (hf : IsLog f) (hslice : f.slice 0 sizeofHeader = h.encode)
    (hh : IsHeader h) (threshold : Nat) : loadFromFile f threshold =
      some (finishLoad f h threshold (loadRecords f h ⟨(slots f).listed, ∅, 0⟩ maxRecords)) := by
  have hread : f.read 0 sizeofHeader = some h.encode := by
    rw [ByteFile.read, if_pos (by rw [hf.size]; decide), hslice]
  have hmagic : ¬ (h.magicNum ≠ NVMeFileDesc.magicNumber ∨
      h.recordSize.toNat ≠ NVMeFileDesc.sizeof) := by
    rcases hh with ⟨n, rfl⟩
    rintro (hne | hne)
    · exact hne rfl
    · exact hne rfl
  have hbuf : f.read h.bitmapOffset.toNat bitmapSizeBytes =
      some (f.slice sizeofHeader bitmapSizeBytes) := by
    rw [ByteFile.read, hh.bitmapOffset, if_pos (by rw [hf.size]; decide)]
  -- The bits in memory are those of the index.
  have hlisted : (fun i => decide (i < maxRecords) &&
      shiftedBit (f.slice sizeofHeader bitmapSizeBytes) i) = (slots f).listed := by
    funext i
    rw [shiftedBit_eq]
    rfl
  rw [loadFromFile, hread]
  simp only [LogHeader.decode_encode, hmagic, if_false, hbuf, hlisted]

/-- What a new manager on a log knows. -/
theorem loadFromFile_spec (hf : IsLog f) (threshold : Nat) :
    ∃ fm, loadFromFile f threshold = some fm ∧ fm.log = f ∧ fm.threshold = threshold ∧
      IsHeader fm.header ∧ (∀ i, fm.files.lookup i = (slots f).recovered i) ∧
      (∀ i, fm.bitmap i = (fm.files.lookup i).isSome) ∧
      (fm.pending = 0 → ∀ i, (slots f).listed i = fm.bitmap i) := by
  rcases hf.header with ⟨h, hslice, hh, -⟩
  obtain ⟨s, hload, hs⟩ : ∃ s, loadFromFile f threshold = some (finishLoad f h threshold s) ∧
      Settled f s := ⟨_, loadFromFile_eq hf hslice hh threshold, settled_loadRecords hf hh⟩
  refine ⟨_, hload, rfl, rfl, hh.withCount _, hs.files, hs.bitmap, fun hzero => hs.pending ?_⟩
  -- A correction of the header counts as pending as well.
  simp only [finishLoad] at hzero
  split at hzero
  · exact absurd hzero (Nat.succ_ne_zero _)
  · exact hzero

/-- The manager of a log that was just started. -/
def fresh (threshold : Nat) : FileManager where
  log := initializeLogFile
  header := newHeader NVMeFileDesc.magicNumber NVMeFileDesc.sizeof
  bitmap := Bitmap.zeros
  files := ∅
  threshold := threshold
  pending := 0
  openFiles := []

/-- Without a bit set, the loop does nothing. -/
theorem loadRecords_zeros (f : ByteFile) (h : LogHeader) (s : Loaded)
    (hs : s.bitmap = Bitmap.zeros) (n : Nat) : loadRecords f h s n = s := by
  induction n with
  | zero => rfl
  | succ n ih =>
    rw [loadRecords, ih, loadRecord, hs]
    rfl

/-- A log that was just started lists no slot. -/
theorem listed_initializeLogFile : (slots initializeLogFile).listed = Bitmap.zeros := by
  have hself := ByteFile.slice_write_self
    (ByteFile.empty.write 0 (newHeader NVMeFileDesc.magicNumber NVMeFileDesc.sizeof).encode)
    sizeofHeader (zeroBytes bitmapSizeBytes)
  rw [zeroBytes_length] at hself
  funext i
  simp only [RecordFormat.slots]
  rw [initializeLogFile, ByteFile.slice_write_of_disjoint _ _ _ _ _ (by rw [recordsStart]; omega),
    hself, zeroBytes, packedBit_zeros, Bool.and_false]
  rfl

/-- Without a log, one is started. -/
theorem construct_none : construct none threshold = some (fresh threshold) := by
  rw [construct, loadFromFile_eq isLog_initializeLogFile header_initializeLogFile ⟨0, rfl⟩,
    listed_initializeLogFile, loadRecords_zeros _ _ _ rfl]
  rfl

/-! ### What a manager keeps true -/

/-- The map, the bitmap and the log of a manager fit: a bit is set for each file in
    the map, a file is in its own slot, and its record is in the log. -/
structure Sound (fm : FileManager) : Prop where
  header : IsHeader fm.header
  log : IsLog fm.log
  bits : ∀ i, fm.bitmap i = (fm.files.lookup i).isSome
  cells : ∀ i d, fm.files.lookup i = some d → (slots fm.log).cell i = some d

/-- What a slot holds names the slot. -/
theorem cell_some {i : Nat} (h : (slots f).cell i = some d) :
    i < maxRecords ∧ d.slotIndex.toNat = i :=
  ⟨(proper_of_cell h).1, beq_iff_eq.mp (proper_of_cell h).2⟩

theorem Sound.slot (hs : Sound fm) {i : Nat} (h : fm.files.lookup i = some d) :
    i < maxRecords ∧ d.slotIndex.toNat = i :=
  cell_some (hs.cells i d h)

/-- There are no more files than slots. -/
theorem Sound.count_le (hs : Sound fm) : fm.files.keys.length ≤ maxRecords := by
  have hsub : fm.files.keys ⊆ List.range maxRecords := by
    intro i hi
    have hsome : (fm.files.lookup i).isSome := AList.lookup_isSome.mpr hi
    rcases Option.isSome_iff_exists.mp hsome with ⟨d, hd⟩
    exact List.mem_range.mpr (hs.slot hd).1
  have hle := (List.subperm_of_subset fm.files.keys_nodup hsub).length_le
  rwa [List.length_range] at hle

/-- A new manager on a log is sound. -/
theorem sound_of_load (hf : IsLog f) {threshold : Nat} (h : loadFromFile f threshold = some fm) :
    Sound fm := by
  rcases loadFromFile_spec hf threshold with ⟨fm', hload, hlog, -, hheader, hfiles, hbits, -⟩
  rw [h, Option.some.injEq] at hload
  subst hload
  refine ⟨hheader, hlog ▸ hf, hbits, fun i d hd => ?_⟩
  rw [hfiles i, SlotDisk.recovered] at hd
  split at hd
  · rw [hlog]
    exact hd
  · cases hd

/-! ### Writing the bitmap -/

/-- The bits that are written. -/
def used (fm : FileManager) : Nat → Bool := fun i => decide (i < maxRecords) && fm.bitmap i

/-- Whether the next change is followed by a write of the bitmap. -/
def Due (fm : FileManager) : Prop := fm.threshold = 0 ∨ fm.threshold ≤ fm.pending + 1

instance (fm : FileManager) : Decidable fm.Due := inferInstanceAs (Decidable (_ ∨ _))

variable (fm)

theorem countWrite_eq (env : WriteEnv) : fm.countWrite env =
      if fm.Due then ({ fm with pending := fm.pending + 1 } : FileManager).persistBitmap env
      else { fm with pending := fm.pending + 1 } := rfl

@[simp] theorem countWrite_files (env : WriteEnv) : (fm.countWrite env).files = fm.files := by
  rw [countWrite_eq]
  split <;> rfl

@[simp] theorem countWrite_bitmap (env : WriteEnv) : (fm.countWrite env).bitmap = fm.bitmap := by
  rw [countWrite_eq]
  split <;> rfl

@[simp] theorem countWrite_threshold (env : WriteEnv) :
    (fm.countWrite env).threshold = fm.threshold := by
  rw [countWrite_eq]
  split <;> rfl

theorem countWrite_pending (env : WriteEnv) :
    (fm.countWrite env).pending = if fm.Due then 0 else fm.pending + 1 := by
  rw [countWrite_eq]
  split <;> rfl

variable {fm}

/-- What is written to the slots when the bitmap is. -/
theorem slots_persistBitmap (hh : IsHeader fm.header) (env : WriteEnv) :
    slots (fm.persistBitmap env).log =
      if env.bitmapOk then (slots fm.log).write (.index fm.used) else slots fm.log := by
  have hheader : ∀ h : LogHeader,
      slots (if env.headerOk then fm.log.write 0 h.encode else fm.log) = slots fm.log := by
    intro h
    split
    · exact NVMeFileDesc.format.slots_write_header fm.log h
    · rfl
  have hoff := (hh.withCount (UInt64.ofNat fm.files.keys.length)).bitmapOffset
  simp only [persistBitmap]
  rw [hoff]
  split
  · rw [slots, NVMeFileDesc.format.slots_write_bitmap]
    exact congrArg (fun d => SlotDisk.write d (.index fm.used)) (hheader _)
  · exact hheader _

theorem slots_countWrite (hh : IsHeader fm.header) (env : WriteEnv) :
    slots (fm.countWrite env).log =
      if fm.Due ∧ env.bitmapOk then (slots fm.log).write (.index fm.used) else slots fm.log := by
  rw [countWrite_eq]
  by_cases hdue : fm.Due
  · have hpersist := slots_persistBitmap (show IsHeader
      ({ fm with pending := fm.pending + 1 } : FileManager).header from hh) env
    rw [if_pos hdue, hpersist]
    simp only [hdue, true_and]
    rfl
  · rw [if_neg hdue, if_neg (fun h => hdue h.1)]

theorem Sound.persistBitmap (hs : Sound fm) (env : WriteEnv) : Sound (fm.persistBitmap env) := by
  have hcount : (UInt64.ofNat fm.files.keys.length).toNat ≤ maxRecords := by
    exact Nat.le_trans (Nat.mod_le _ _) hs.count_le
  have hheader := hs.header.withCount (UInt64.ofNat fm.files.keys.length)
  refine ⟨hheader, ?_, hs.bits, fun i d hd => ?_⟩
  · have hlog : IsLog (if env.headerOk then fm.log.write 0
        ({ fm.header with activeRecordCount := UInt64.ofNat fm.files.keys.length } :
          LogHeader).encode else fm.log) := by
      split
      · exact hs.log.write_header hheader hcount
      · exact hs.log
    simp only [FileManager.persistBitmap]
    rw [hheader.bitmapOffset]
    split
    · exact hlog.write_bitmap fm.bitmap
    · exact hlog
  · rw [slots_persistBitmap hs.header]
    have hcell := hs.cells i d hd
    split
    · exact hcell
    · exact hcell

theorem Sound.withPending (hs : Sound fm) (n : Nat) :
    Sound { fm with pending := n } := ⟨hs.header, hs.log, hs.bits, hs.cells⟩

theorem Sound.countWrite (hs : Sound fm) (env : WriteEnv) : Sound (fm.countWrite env) := by
  rw [countWrite_eq]
  split
  · exact (hs.withPending _).persistBitmap env
  · exact hs.withPending _

/-! ### Calls -/

variable {slot : Nat}

/-- A file is created in a slot that was not in use. -/
theorem slots_occupy (hh : IsHeader fm.header) (hslot : slot < maxRecords)
    (hd : d.slotIndex.toNat = slot) :
    slots (fm.occupy d slot).log = (slots fm.log).write (.record slot (some d)) := by
  simp only [occupy, writeRecordToSlot]
  rw [slotOffset_of_isHeader hh]
  have hwrite := NVMeFileDesc.format.slots_write_record fm.log slot d hslot
  rw [NVMeFileDesc.format_proper, hd, if_pos (beq_self_eq_true slot)] at hwrite
  exact hwrite

theorem Sound.occupy (hs : Sound fm) (hslot : slot < maxRecords) (hd : d.slotIndex.toNat = slot) :
    Sound (fm.occupy d slot) := by
  refine ⟨hs.header, ?_, fun i => ?_, fun i e he => ?_⟩
  · simp only [FileManager.occupy, writeRecordToSlot]
    rw [slotOffset_of_isHeader hs.header]
    exact hs.log.write_record d hslot
  · simp only [FileManager.occupy, Bitmap.setBit, update_apply, lookup_insert_apply,
      apply_ite Option.isSome, Option.isSome_some, hs.bits i]
  · rw [slots_occupy hs.header hslot hd]
    simp only [FileManager.occupy, lookup_insert_apply] at he
    split at he
    next hi => rw [hi, SlotDisk.write_cell_self, he]
    next hi =>
      rw [SlotDisk.write_cell_of_ne _ _ _ _ hi]
      exact hs.cells i e he

theorem Sound.vacate (hs : Sound fm) (id : Nat) : Sound (fm.vacate id id) := by
  refine ⟨hs.header, hs.log, fun i => ?_, fun i d hd => hs.cells i d (lookup_of_erase hd).2⟩
  simp only [FileManager.vacate, Bitmap.clearBit, update_apply, lookup_erase_apply,
    apply_ite Option.isSome, Option.isSome_none, hs.bits i]

/-- What the writes of a call return. -/
def Call.env : Call → WriteEnv
  | .createFile _ _ env => env
  | .createFileAuto _ env => env
  | .deleteFile _ env => env

/-- A slot fits its field in a record. -/
theorem newDesc_slotIndex (h : slot < maxRecords) (filename : Bytes) (size now : UInt64) :
    (newDesc slot filename size now).slotIndex.toNat = slot := by
  have hlt : slot < 2 ^ 32 := Nat.lt_trans h (by decide)
  simp only [newDesc, UInt32.toNat_ofNat']
  omega

variable (fm)

/-- The write of the bitmap at the end of a change, if there is one. -/
def syncWrites (env : WriteEnv) : List (SlotDisk.Write NVMeFileDesc) :=
  if fm.Due ∧ env.bitmapOk then [.index fm.used] else []

/-- What is written for a new file. -/
def createWrites (env : WriteEnv) : Option NVMeFileDesc → List (SlotDisk.Write NVMeFileDesc)
  | none => []
  | some d => .record d.slotIndex.toNat (some d) :: (fm.occupy d d.slotIndex.toNat).syncWrites env

/-- What a call writes to the slots. -/
def stepWrites : Call → List (SlotDisk.Write NVMeFileDesc)
  | .createFile filename size env => fm.createWrites env (fm.createFile filename size env).2
  | .createFileAuto size env => fm.createWrites env (fm.createFileAuto size env).2
  | .deleteFile id env =>
    if (fm.files.lookup id).isSome then (fm.vacate id id).syncWrites env else []

variable {fm}

/-- A call does nothing, or creates a file in the first free slot, or deletes a
    file; each with what it writes. -/
inductive Effect (fm : FileManager) (env : WriteEnv) :
    FileManager → List (SlotDisk.Write NVMeFileDesc) → Prop where
  | nothing : Effect fm env fm []
  | created (slot : Nat) (d : NVMeFileDesc) (hslot : slot < maxRecords)
      (hfree : fm.bitmap slot = false) (hfirst : ∀ i, i < slot → fm.bitmap i = true)
      (hd : d.slotIndex.toNat = slot) (htime : d.createTime = env.now) :
      Effect fm env ((fm.occupy d slot).countWrite env)
        (.record slot (some d) :: (fm.occupy d slot).syncWrites env)
  | deleted (id : Nat) (d : NVMeFileDesc) (hd : fm.files.lookup id = some d) :
      Effect fm env ((fm.vacate id id).countWrite env) ((fm.vacate id id).syncWrites env)

/-- How a file is created, with the name for its slot: not at all, or in the first free
    slot. -/
inductive Placed (fm : FileManager) (names : Nat → Bytes) (size : UInt64) (env : WriteEnv) :
    FileManager × Option NVMeFileDesc → Prop where
  | refused : Placed fm names size env (fm, none)
  | placed (slot : Nat) (hslot : findNextFreeSlot fm.bitmap = some slot)
      (hlen : (names slot).length < 16) :
      Placed fm names size env ((fm.occupy (newDesc slot (names slot) size env.now) slot).countWrite
        env, some (newDesc slot (names slot) size env.now))

theorem createFile_placed (fm : FileManager) (filename : Bytes) (size : UInt64) (env : WriteEnv) :
    Placed fm (fun _ => filename) size env (fm.createFile filename size env) := by
  rw [createFile]
  split
  · exact .refused
  rename_i hlen
  cases hslot : findNextFreeSlot fm.bitmap with
  | none => exact .refused
  | some slot =>
    simp only
    iterate 2
      split
      · exact .refused
    exact .placed slot hslot (Nat.lt_of_not_le hlen)

theorem createFileAuto_placed (fm : FileManager) (size : UInt64) (env : WriteEnv) :
    Placed fm decimal size env (fm.createFileAuto size env) := by
  rw [createFileAuto]
  cases hslot : findNextFreeSlot fm.bitmap with
  | none => exact .refused
  | some slot =>
    simp only
    split
    · exact .refused
    rename_i hlen
    split
    · exact .refused
    · exact .placed slot hslot (Nat.lt_of_not_le hlen)

theorem Placed.effect {names : Nat → Bytes} {size : UInt64} {env : WriteEnv}
    {r : FileManager × Option NVMeFileDesc} (h : Placed fm names size env r) :
    Effect fm env r.1 (fm.createWrites env r.2) := by
  cases h with
  | refused => exact .nothing
  | placed slot hslot =>
    have hspec := findNextFreeSlot_spec fm.bitmap
    rw [hslot] at hspec
    have hd := newDesc_slotIndex hspec.1 (names slot) size env.now
    rw [createWrites, hd]
    exact .created slot _ hspec.1 hspec.2.1 hspec.2.2 hd rfl

theorem deleteFile_effect (hs : Sound fm) (id : Nat) (env : WriteEnv) :
    Effect fm env (fm.deleteFile id env).1
      (if (fm.files.lookup id).isSome then (fm.vacate id id).syncWrites env else []) := by
  rw [deleteFile]
  cases hd : fm.files.lookup id with
  | none => exact .nothing
  | some d =>
    simp only [(hs.slot hd).2]
    exact .deleted id d hd

theorem step_effect (hs : Sound fm) (c : Call) : Effect fm c.env (fm.step c) (fm.stepWrites c) := by
  cases c with
  | createFile filename size env => exact (createFile_placed fm filename size env).effect
  | createFileAuto size env => exact (createFileAuto_placed fm size env).effect
  | deleteFile id env => exact deleteFile_effect hs id env

theorem Sound.effect (hs : Sound fm) {env : WriteEnv} (h : Effect fm env fm' ws) : Sound fm' := by
  cases h with
  | nothing => exact hs
  | created slot d hslot _ _ hd => exact (hs.occupy hslot hd).countWrite env
  | deleted id => exact (hs.vacate id).countWrite env

theorem sound_run (hs : Sound fm) (calls : List Call) : Sound (run step fm calls) :=
  run_invariant (P := fun _ _ => True) (fun _ c hfm _ => hfm.effect (step_effect hfm c)) hs
    (along_of_forall (fun _ _ _ => trivial))

/-! ### Opening a log again -/

/-- The logs that file managers leave behind: none at first, and then what a
    manager on such a log has written, destroyed or not. -/
inductive Written : Option ByteFile → Prop where
  | absent : Written none
  | left {log : Option ByteFile} {threshold : Nat} {fm : FileManager} (hlog : Written log)
      (hopen : construct log threshold = some fm) (calls : List Call) :
      Written (some (run step fm calls).log)
  | closed {log : Option ByteFile} {threshold : Nat} {fm : FileManager} (hlog : Written log)
      (hopen : construct log threshold = some fm) (calls : List Call) (env : WriteEnv) :
      Written (some ((run step fm calls).destroy env))

theorem Sound.destroy (hs : Sound fm) (env : WriteEnv) : IsLog (fm.destroy env) := by
  rw [FileManager.destroy, forcePersist]
  split
  · exact (hs.persistBitmap env).log
  · exact hs.log

/-- A log that is there is opened as it is. -/
theorem construct_of_isLog (hf : IsLog f) (threshold : Nat) :
    construct (some f) threshold = loadFromFile f threshold := by
  rw [construct, hf.accepted]
  rfl

/-- A manager opened on such a log is sound. -/
theorem sound_of_construct (hlog : ∀ f, log = some f → IsLog f) {threshold : Nat}
    (h : construct log threshold = some fm) : Sound fm := by
  cases log with
  | none =>
    rw [construct] at h
    exact sound_of_load isLog_initializeLogFile h
  | some f =>
    rw [construct_of_isLog (hlog f rfl)] at h
    exact sound_of_load (hlog f rfl) h

theorem sound_fresh : Sound (fresh threshold) :=
  sound_of_construct (fun f hf => absurd hf (by simp)) (construct_none threshold)

theorem isLog_of_written (h : Written log) : ∀ f, log = some f → IsLog f := by
  induction h with
  | absent => exact nofun
  | left _ hopen calls ih =>
    rintro f ⟨⟩
    exact (sound_run (sound_of_construct ih hopen) calls).log
  | closed _ hopen calls env ih =>
    rintro f ⟨⟩
    exact (sound_run (sound_of_construct ih hopen) calls).destroy env

/-- With nothing pending, the bitmap on disk is the one in memory. -/
def Synced (fm : FileManager) : Prop :=
  fm.pending = 0 → ∀ i, (slots fm.log).listed i = fm.bitmap i

/-- The bits that are written are those in memory. -/
theorem Sound.used_eq (hs : Sound fm) (i : Nat) : fm.used i = fm.bitmap i := by
  rw [used]
  cases hbit : fm.bitmap i with
  | false => rw [Bool.and_false]
  | true =>
    have hsome : (fm.files.lookup i).isSome := by rw [← hs.bits i, hbit]
    rcases Option.isSome_iff_exists.mp hsome with ⟨d, hd⟩
    rw [decide_eq_true (hs.slot hd).1, Bool.true_and]

/-- The managers on such logs, from the start on. -/
theorem construct_spec (hlog : Written log) (threshold : Nat) :
    ∃ fm, construct log threshold = some fm ∧ Sound fm ∧ Synced fm ∧ fm.threshold = threshold := by
  have hload : ∃ f, IsLog f ∧ construct log threshold = loadFromFile f threshold := by
    cases log with
    | none => exact ⟨_, isLog_initializeLogFile, by rw [construct]⟩
    | some f => exact ⟨f, isLog_of_written hlog f rfl, construct_of_isLog (isLog_of_written hlog f rfl) _⟩
  rcases hload with ⟨f, hf, hload⟩
  rcases loadFromFile_spec hf threshold with ⟨fm, hfm, hlogEq, hthreshold, -, -, -, hsynced⟩
  refine ⟨fm, hload.trans hfm, sound_of_load hf hfm, fun hzero i => ?_, hthreshold⟩
  rw [hlogEq]
  exact hsynced hzero i

theorem synced_countWrite (hs : Sound fm) {env : WriteEnv} (henv : env.bitmapOk = true) :
    Synced (fm.countWrite env) := by
  intro hzero i
  have hdue : fm.Due := by
    by_contra hnot
    rw [countWrite_pending, if_neg hnot] at hzero
    exact Nat.succ_ne_zero _ hzero
  rw [slots_countWrite hs.header, if_pos ⟨hdue, henv⟩, countWrite_bitmap]
  exact hs.used_eq i

theorem Synced.effect (hsync : Synced fm) (hs : Sound fm) {env : WriteEnv}
    (henv : env.bitmapOk = true) (h : Effect fm env fm' ws) : Synced fm' := by
  cases h with
  | nothing => exact hsync
  | created slot d hslot _ _ hd => exact synced_countWrite (hs.occupy hslot hd) henv
  | deleted id => exact synced_countWrite (hs.vacate id) henv

theorem cell_destroy (hs : Sound fm) (env : WriteEnv) :
    (slots (fm.destroy env)).cell = (slots fm.log).cell := by
  rw [destroy, forcePersist]
  split
  · rw [slots_persistBitmap hs.header]
    split <;> rfl
  · rfl

/-- A file manager that is destroyed and opened again has the same files, if the
    writes of the bitmap succeed. Always, a bit is set for each file of the map, and
    each file is in the slot that its record names. -/
theorem reopen_keeps_files (log : Option ByteFile) (hlog : Written log)
    (threshold threshold' : Nat) (calls : List Call) :
    ∃ fm, construct log threshold = some fm ∧ (∀ i, ((run step fm calls).bitmap i = true ↔
          ((run step fm calls).files.lookup i).isSome) ∧
        ∀ d, (run step fm calls).files.lookup i = some d → d.slotIndex.toNat = i) ∧
      ((∀ c ∈ calls, c.env.bitmapOk = true) → ∀ env : WriteEnv, env.bitmapOk = true →
        ∃ fm', construct (some ((run step fm calls).destroy env)) threshold' = some fm' ∧
          ∀ id, fm'.files.lookup id = (run step fm calls).files.lookup id) := by
  rcases construct_spec hlog threshold with ⟨fm, hopen, hs, hsync, -⟩
  have hrun := sound_run hs calls
  refine ⟨fm, hopen, fun i => ⟨by rw [hrun.bits i], fun d hd => (hrun.slot hd).2⟩, ?_⟩
  intro hcalls env henv
  have hlast : Sound (run step fm calls) ∧ Synced (run step fm calls) :=
    run_invariant (I := fun fm => Sound fm ∧ Synced fm) (P := fun _ c => c.env.bitmapOk = true)
      (fun _ c h hc =>
        ⟨h.1.effect (step_effect h.1 c), h.2.effect h.1 hc (step_effect h.1 c)⟩)
      ⟨hs, hsync⟩ (along_of_forall (fun _ c hc => hcalls c hc))
  have hleft := hrun.destroy env
  rcases loadFromFile_spec hleft threshold' with ⟨fm', hload, -, -, -, hfiles, -⟩
  refine ⟨fm', (construct_of_isLog hleft threshold').trans hload, fun id => ?_⟩
  have hrec : (slots ((run step fm calls).destroy env)).recovered =
      fun i => (run step fm calls).files.lookup i := by
    refine SlotDisk.recovered_of_listed (fun i => ?_) (fun i d hd => ?_)
    · -- A manager that is destroyed leaves an index of its files.
      rw [destroy, forcePersist, ← hrun.bits i]
      split
      · rw [slots_persistBitmap hrun.header, if_pos henv]
        exact hrun.used_eq i
      · -- Nothing is pending.
        rename_i hnot
        exact hlast.2 (by omega) i
    · rw [cell_destroy hrun env]
      exact hrun.cells i d hd
  rw [hfiles id, hrec]

/-- The time `now`, at which every write succeeds. -/
def writesOk (now : UInt64) : WriteEnv := ⟨now, true, true, true⟩

/-- A new log, opened again after two files were created and one deleted. -/
theorem reopen_keeps_files_newLog : Written none ∧ ∃ fm, construct none 3 = some fm ∧
    ∃ fm', construct (some ((run step fm
        [.createFileAuto 4096 (writesOk 1), .createFile [97] 512 (writesOk 2),
          .deleteFile 0 (writesOk 3)]).destroy (writesOk 4))) 1000 = some fm' ∧
      ∀ id, fm'.files.lookup id = (run step fm
        [.createFileAuto 4096 (writesOk 1), .createFile [97] 512 (writesOk 2),
          .deleteFile 0 (writesOk 3)]).files.lookup id := by
  rcases reopen_keeps_files none .absent 3 1000 [.createFileAuto 4096 (writesOk 1),
    .createFile [97] 512 (writesOk 2), .deleteFile 0 (writesOk 3)] with ⟨fm, hopen, -, hre⟩
  exact ⟨.absent, fm, hopen, hre (by decide) (writesOk 4) rfl⟩

end FileManager

end Geminifs.Gemini
