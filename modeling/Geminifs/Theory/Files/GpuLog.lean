import Geminifs.Theory.Files.Creation
import Geminifs.Theory.Files.GpuCalls
import Geminifs.Library.Runs
import Mathlib.Tactic.FinCases

/-!
# The Log of the GPU File Manager

What every GPU file manager keeps true of its map, its bitmap and its log, at the end
of each call and after each write on the way, and what a new one finds in a log.

The loader reads the records one after the other and does not look where it is. It
finds each record in its slot because a slot that is listed lies inside the file
(`Readable`), so that no read fails and the position never falls behind.

## Main definitions

* `GPUFileDesc.format`: The records: each belongs in the slot it names, if it is valid.
* `Readable`: The logs that are loaded as they should be.
* `Blanked`: A slot that the bitmap lists was blanked, and nothing was done about it.
* `Safe`: A log that can be read, where the slots that are listed without a record are those
  that were blanked.
* `Sound`: The map, the bitmap and the log of a manager fit.
* `Written`: The logs that managers leave behind when they are destroyed.
* `Consistent`: A bit is set for each file in the map, and only for those.

## Theorems

* `loadFromFile_spec`: What is loaded, in terms of the slots.
* `construct_none`: The manager of a new log.
* `sound_step`, `sound_run`: Every call keeps the three fitting.
* `reopen_keeps_gpu_files`: A manager that is destroyed and opened again.
-/

namespace Geminifs.Gemini

open SlotLog Runs

/-! ### Records as bytes -/

namespace GPUFileDesc

@[simp] theorem word32_length (x : UInt32) : (word32 x).length = 4 := leBytes_length 4 x.toNat

@[simp] theorem ofNat_leNat_word32 (x : UInt32) : UInt32.ofNat (leNat (word32 x)) = x := by
  have hlt : x.toNat < 256 ^ 4 := x.toNat_lt
  rw [word32, leNat_leBytes_of_lt 4 _ hlt, UInt32.ofNat_toNat]

theorem encode_length (d : GPUFileDesc) : d.encode.length = sizeof := by
  simp [encode, sizeof]

theorem decode_encode (d : GPUFileDesc) : decode d.encode = d := by
  ext1
  · simp [decode, encode, word32At]
  · simp [decode, encode, wordAt]
  · simp [decode, encode, wordAt]
  · funext i
    fin_cases i <;> simp [decode, encode, word32At]
  · ext1
    · funext i
      fin_cases i <;> simp [decode, encode, word32At]
    · simp [decode, encode]

/-- The records of the log: a valid one belongs in the slot it names. -/
def format : RecordFormat GPUFileDesc where
  size := sizeof
  encode := encode
  decode := decode
  proper i d := d.nvmeMapping.isValid && d.fileId.toNat == i
  encode_length := encode_length
  decode_encode := decode_encode

/-- Where a slot starts. -/
def slotStart (i : Nat) : Nat := recordsStart + i * sizeof

theorem slotStart_inj {i j : Nat} (h : slotStart i = slotStart j) : i = j := by
  rw [slotStart, slotStart, sizeof] at h
  omega

theorem sizeofHeader_lt_slotStart (i : Nat) : sizeofHeader < slotStart i := by
  have hlt : sizeofHeader < recordsStart := by decide
  rw [slotStart]
  omega

theorem not_isValid_blank : blank.nvmeMapping.isValid = false := by decide

end GPUFileDesc

/-! ### Logs -/

namespace LogFile

@[simp] theorem content_write (log : LogFile) (off : Nat) (bs : Bytes) :
    (log.write off bs).content = log.content.write off bs := by
  rw [content, write, ByteFile.replay_append]
  rfl

/-- What holds after each of a number of writes, and after one more. -/
theorem forall_take_append {P : List (Nat × Bytes) → Prop} {ws : List (Nat × Bytes)}
    (h : ∀ k, P (ws.take k)) {w : Nat × Bytes} (hlast : P (ws ++ [w])) (k : Nat) :
    P ((ws ++ [w]).take k) := by
  by_cases hk : k ≤ ws.length
  · rw [List.take_append_of_le_length hk]
    exact h k
  · rw [List.take_of_length_le]
    · exact hlast
    · rw [List.length_append, List.length_singleton]
      omega

end LogFile

variable (controllers : List ManagedController) (start : ByteFile) (ws : List (Nat × Bytes))
  (threshold : Nat)

namespace GPUFileManager

open GPUFileDesc

variable {m m' : GPUFileManager} {f : ByteFile} {d : GPUFileDesc} {h : LogHeader}
  {files : List (Nat × GPUFileDesc)}

/-- A log as slots. -/
abbrev slots (f : ByteFile) : SlotDisk GPUFileDesc := format.slots f

/-- The headers of this manager. -/
abbrev IsHeader (h : LogHeader) : Prop := Canonical magicNumber sizeof h

theorem slotOffset_of_isHeader (hh : IsHeader h) (slot : Nat) :
    h.slotOffset slot = slotStart slot := hh.slotOffset (by decide) slot

/-- The logs that are loaded as they should be: a header that is there is one of this
    manager, the slots that are listed are inside, and a valid record is in its slot.
    A log that was not yet started is one as well. -/
structure Readable (f : ByteFile) : Prop where
  header : sizeofHeader ≤ f.size → ∃ h : LogHeader, f.slice 0 sizeofHeader = h.encode ∧ IsHeader h
  inside : ∀ i, (slots f).listed i = true → slotStart i + sizeof ≤ f.size
  named : ∀ i, (format.record f i).nvmeMapping.isValid = true → (format.record f i).fileId.toNat = i

variable {i : Nat}

/-- What a slot holds is a valid record that names the slot. -/
theorem cell_some (h : (slots f).cell i = some d) :
    i < maxRecords ∧ d.nvmeMapping.isValid = true ∧ d.fileId.toNat = i := by
  have hproper := (proper_of_cell h).2
  simp only [format, Bool.and_eq_true, beq_iff_eq] at hproper
  exact ⟨(proper_of_cell h).1, hproper⟩

theorem Readable.cell_eq (hf : Readable f) (hi : i < maxRecords) : (slots f).cell i =
      if (format.record f i).nvmeMapping.isValid then some (format.record f i) else none := by
  have hproper : format.proper i (format.record f i) =
      ((format.record f i).nvmeMapping.isValid && (format.record f i).fileId.toNat == i) := rfl
  simp only [RecordFormat.slots, hi, hproper]
  cases hvalid : (format.record f i).nvmeMapping.isValid with
  | false => rfl
  | true => rw [hf.named i hvalid, beq_self_eq_true]; rfl

theorem slots_write_header (f : ByteFile) (h : LogHeader) :
    slots (f.write 0 h.encode) = slots f := format.slots_write_header f h

theorem slots_write_bitmap (f : ByteFile) (bm : Bitmap) :
    slots (f.write sizeofHeader (bitmapBytes bm)) =
      (slots f).write (.index (fun i => decide (i < maxRecords) && bm i)) :=
  format.slots_write_bitmap f bm

/-- A record that is written is a valid one that names its slot, or a blank. -/
def Proper (slot : Nat) (d : GPUFileDesc) : Prop :=
  (d.nvmeMapping.isValid = true ∧ d.fileId.toNat = slot) ∨ d = blank

theorem slots_write_record (f : ByteFile) {slot : Nat} (hslot : slot < maxRecords)
    (hd : Proper slot d) :
    slots (f.write (slotStart slot) d.encode) =
      (slots f).write (.record slot (if d.nvmeMapping.isValid then some d else none)) := by
  have hwrite := format.slots_write_record f slot d hslot
  have hproper : format.proper slot d = d.nvmeMapping.isValid := by
    show (d.nvmeMapping.isValid && d.fileId.toNat == slot) = _
    rcases hd with ⟨hvalid, hid⟩ | rfl
    · rw [hvalid, hid, beq_self_eq_true]
      rfl
    · rw [not_isValid_blank, Bool.false_and]
  rw [hproper] at hwrite
  exact hwrite

theorem Readable.write_header (hf : Readable f) (hh : IsHeader h) :
    Readable (f.write 0 h.encode) where
  header _ := ⟨h, slice_write_header f h, hh⟩
  inside i hi := by
    rw [slots_write_header] at hi
    exact Nat.le_trans (hf.inside i hi) (Nat.le_max_left ..)
  named i := by
    rw [format.record_write_below f (by rw [LogHeader.encode_length, recordsStart]; omega)]
    exact hf.named i

section

variable (hf : Readable f) (hsize : sizeofHeader ≤ f.size)

include hf hsize

/-- A header stays if something is written behind it. -/
theorem Readable.header_write {off : Nat} (hoff : sizeofHeader ≤ off) (bs : Bytes) :
    ∃ h : LogHeader, (f.write off bs).slice 0 sizeofHeader = h.encode ∧ IsHeader h := by
  rw [ByteFile.slice_write_of_disjoint _ _ _ _ _ (by omega)]
  exact hf.header hsize

theorem Readable.write_bitmap {bm : Bitmap}
    (hbm : ∀ i, i < maxRecords → bm i = true → slotStart i + sizeof ≤ f.size) :
    Readable (f.write sizeofHeader (bitmapBytes bm)) where
  header _ := hf.header_write hsize (Nat.le_refl _) _
  inside i hi := by
    rw [slots_write_bitmap] at hi
    simp only [SlotDisk.write, Bool.and_eq_true, decide_eq_true_eq] at hi
    exact Nat.le_trans (hbm i hi.1 hi.2) (Nat.le_max_left ..)
  named i := by
    rw [format.record_write_below f (by rw [bitmapBytes_length, recordsStart])]
    exact hf.named i

theorem Readable.write_record {slot : Nat} (hslot : slot < maxRecords) (hd : Proper slot d) :
    Readable (f.write (slotStart slot) d.encode) where
  header _ := hf.header_write hsize (Nat.le_of_lt (sizeofHeader_lt_slotStart slot)) _
  inside i hi := by
    rw [slots_write_record f hslot hd] at hi
    exact Nat.le_trans (hf.inside i hi) (Nat.le_max_left ..)
  named i := by
    by_cases hi : i = slot
    · have hself : format.record (f.write (slotStart slot) d.encode) slot = d :=
        format.record_write_self f slot d
      rw [hi, hself]
      rcases hd with ⟨-, hid⟩ | rfl
      · exact fun _ => hid
      · exact fun hvalid => absurd (not_isValid_blank.symm.trans hvalid) (by simp)
    · have hother : format.record (f.write (slotStart slot) d.encode) i = format.record f i :=
        format.record_write_of_ne f d hi
      rw [hother]
      exact hf.named i

end

theorem readable_empty : Readable ByteFile.empty where
  header := nofun
  inside i hi := by
    simp only [RecordFormat.slots, ByteFile.slice_empty, packedBit_zeros, Bool.and_false] at hi
    cases hi
  named i hvalid := by
    have hflags : (format.record ByteFile.empty i).nvmeMapping.mappingFlags = 0 := by
      simp [RecordFormat.record, format, GPUFileDesc.decode, ByteFile.slice_empty]
    rw [CompactNVMeMapping.isValid, hflags] at hvalid
    cases hvalid

/-! ### Loading -/

/-- After `n` turns the loop is at slot `n`, and has the records of the slots before it
    that are listed. -/
theorem loadRecords_spec (hf : Readable f) (n : Nat) (hn : n ≤ maxRecords) :
    (loadRecords f (slots f).listed recordsStart n).1 = slotStart n ∧
      ∀ i, (loadRecords f (slots f).listed recordsStart n).2.lookup i =
        if i < n then (slots f).recovered i else none := by
  induction n with
  | zero =>
    refine ⟨by rw [loadRecords, slotStart]; omega, fun i => ?_⟩
    rfl
  | succ n ih =>
    rcases ih (by omega) with ⟨hpos, hdescs⟩
    have hnext : slotStart n + sizeof = slotStart (n + 1) := by
      rw [slotStart, slotStart, Nat.succ_mul]
      omega
    have hlt : ∀ i, i ≠ n → (i < n + 1 ↔ i < n) := fun i hi => by omega
    rw [loadRecords, loadRecord, hpos]
    cases hlisted : (slots f).listed n with
    | false =>
      -- The slot is not listed: it is skipped.
      simp only [Bool.false_eq_true, if_false]
      refine ⟨hnext, fun i => ?_⟩
      rw [hdescs i]
      by_cases hi : i = n
      · simp [hi, SlotDisk.recovered, hlisted]
      · simp only [hlt i hi]
    | true =>
      have hread : f.read (slotStart n) sizeof = some (f.slice (slotStart n) sizeof) := by
        rw [ByteFile.read, if_pos (hf.inside n hlisted)]
      have hrecord : GPUFileDesc.decode (f.slice (slotStart n) sizeof) = format.record f n := rfl
      have hrec : (slots f).recovered n = (slots f).cell n := by
        rw [SlotDisk.recovered, if_pos hlisted]
      have hcell := hf.cell_eq (show n < maxRecords by omega)
      simp only [if_true, hread, hrecord]
      refine ⟨hnext, fun i => ?_⟩
      by_cases hi : i = n
      · subst hi
        rw [if_pos (Nat.lt_succ_self i), hrec, hcell]
        split
        next hvalid => rw [hf.named i hvalid, AList.lookup_insert]
        · rw [hdescs i, if_neg (Nat.lt_irrefl i)]
      · rw [← if_congr (hlt i hi).symm rfl rfl, ← hdescs i]
        split
        next hvalid => rw [hf.named n hvalid, AList.lookup_insert_ne hi]
        · rfl

/-- What is loaded from a log. -/
structure Loaded (f : ByteFile)
    (r : LogHeader × Bitmap × AList (fun _ : Nat => GPUFileDesc)) : Prop where
  header : recordsStart ≤ f.size → IsHeader r.1
  bitmap : ∀ i, r.2.1 i = (slots f).listed i
  descs : ∀ i, r.2.2.lookup i = (slots f).recovered i

/-- From a log that is too short nothing is loaded, and nothing is listed. -/
theorem Readable.loaded_short (hf : Readable f) (hshort : f.size < recordsStart) (h : LogHeader) :
    Loaded f (h, Bitmap.zeros, ∅) := by
  have hnot : ∀ i, (slots f).listed i = false := by
    intro i
    by_contra hlisted
    have hin := hf.inside i (by simpa using hlisted)
    rw [slotStart] at hin
    omega
  refine ⟨fun hle => absurd hle (Nat.not_le.mpr hshort), fun i => (hnot i).symm, fun i => ?_⟩
  rw [SlotDisk.recovered, hnot i]
  rfl

/-- From a log with a header and a bitmap, the slots that are listed are loaded. -/
theorem Readable.loaded_full (hf : Readable f) (hh : IsHeader h) {n : Nat} (hn : n = maxRecords) :
    Loaded f (h, (slots f).listed, (loadRecords f (slots f).listed recordsStart n).2) := by
  refine ⟨fun _ => hh, fun _ => rfl, fun i => ?_⟩
  rw [(loadRecords_spec hf n hn.le).2 i]
  by_cases hi : (slots f).listed i = true
  · rw [if_pos (hn ▸ listed_lt hi)]
  · rw [SlotDisk.recovered, if_neg hi, ite_self]

/-- From a log with a header, the bitmap is read and the loop is run. -/
theorem loadFromFile_eq (hslice : f.slice 0 sizeofHeader = h.encode) (hh : IsHeader h)
    (hsize : sizeofHeader ≤ f.size) (junk : LogHeader) :
    loadFromFile f junk = (h, if recordsStart ≤ f.size then
      ((slots f).listed, (loadRecords f (slots f).listed recordsStart maxRecords).2)
    else (Bitmap.zeros, ∅)) := by
  have hlast : sizeofHeader + bitmapSizeBytes = recordsStart := rfl
  have hread : f.read 0 sizeofHeader = some h.encode := by
    rw [ByteFile.read, if_pos (by omega), hslice]
  have hmagic : ¬ h.magicNum ≠ magicNumber := by
    rcases hh with ⟨n, rfl⟩
    exact fun hne => hne rfl
  have hstart : h.recordsOffset.toNat = recordsStart := by
    rcases hh with ⟨n, rfl⟩
    rfl
  -- The bits in memory are those of the index.
  have hlisted : (fun i => decide (i < maxRecords) &&
      maskedBit (f.slice sizeofHeader bitmapSizeBytes) i) = (slots f).listed := by
    funext i
    rw [maskedBit_eq]
    rfl
  have hbuf : f.read h.bitmapOffset.toNat bitmapSizeBytes =
      if recordsStart ≤ f.size then some (f.slice sizeofHeader bitmapSizeBytes) else none := by
    rw [ByteFile.read, hh.bitmapOffset, hlast]
  rw [loadFromFile, hread]
  simp only [LogHeader.decode_encode, hmagic, if_false, hstart]
  by_cases hfull : recordsStart ≤ f.size
  · simp only [hbuf, hfull, if_true, hlisted]
  · simp only [hbuf, hfull, if_false]

theorem loadFromFile_spec (hf : Readable f) (junk : LogHeader) :
    Loaded f (loadFromFile f junk) := by
  by_cases hsize : sizeofHeader ≤ f.size
  · rcases hf.header hsize with ⟨h, hslice, hh⟩
    rw [loadFromFile_eq hslice hh hsize]
    split
    · exact hf.loaded_full hh rfl
    next hfull => exact hf.loaded_short (Nat.lt_of_not_le hfull) h
  · have hread : f.read 0 sizeofHeader = none := by
      rw [ByteFile.read, if_neg (by omega)]
    rw [loadFromFile, hread]
    exact hf.loaded_short (Nat.lt_of_lt_of_le (Nat.lt_of_not_le hsize) (by decide)) junk

/-! ### After each write -/

/-- A slot that was listed is blanked, and neither the bitmap nor the slot is written
    after that. -/
def Blanked (i : Nat) : Prop :=
  ∃ before after, ws = before ++ (slotStart i, blank.encode) :: after ∧
    (slots (start.replay before)).listed i = true ∧
    ∀ w ∈ after, w.1 ≠ sizeofHeader ∧ w.1 ≠ slotStart i

theorem blanked_append (w : Nat × Bytes) (i : Nat) : Blanked start (ws ++ [w]) i ↔
      (w = (slotStart i, blank.encode) ∧ (slots (start.replay ws)).listed i = true) ∨
      (Blanked start ws i ∧ w.1 ≠ sizeofHeader ∧ w.1 ≠ slotStart i) := by
  constructor
  · rintro ⟨before, after, hws, hlisted, hafter⟩
    rcases List.eq_nil_or_concat after with rfl | ⟨after, v, rfl⟩
    · rcases List.append_inj' hws rfl with ⟨rfl, hw⟩
      exact .inl ⟨List.singleton_injective hw, hlisted⟩
    · rw [List.concat_eq_append, ← List.cons_append, ← List.append_assoc] at hws
      rcases List.append_inj' hws rfl with ⟨rfl, hw⟩
      cases List.singleton_injective hw
      refine .inr ⟨⟨before, after, rfl, hlisted, fun u hu => hafter u ?_⟩, hafter w ?_⟩
      · rw [List.concat_eq_append]
        exact List.mem_append_left _ hu
      · rw [List.concat_eq_append]
        exact List.mem_append_right _ List.mem_cons_self
  · rintro (⟨rfl, hlisted⟩ | ⟨⟨before, after, rfl, hlisted, hafter⟩, hw⟩)
    · exact ⟨ws, [], rfl, hlisted, nofun⟩
    · exact ⟨before, after ++ [w], by rw [List.append_assoc]; rfl, hlisted,
        List.forall_mem_append.mpr ⟨hafter, List.forall_mem_singleton.mpr hw⟩⟩

/-- What is true of a log after each write: it can be read, and the slots that are
    listed without a record are those that were blanked. -/
structure Safe (start : ByteFile) (ws : List (Nat × Bytes)) : Prop where
  readable : Readable (start.replay ws)
  tracked : ∀ i, Blanked start ws i ↔
    (slots (start.replay ws)).listed i = true ∧ (slots (start.replay ws)).cell i = none

theorem replay_append_singleton (w : Nat × Bytes) :
    start.replay (ws ++ [w]) = (start.replay ws).write w.1 w.2 := by
  rw [ByteFile.replay_append]
  rfl

section

variable {start : ByteFile} {ws : List (Nat × Bytes)}

theorem Safe.header (h : Safe start ws) {hdr : LogHeader} (hh : IsHeader hdr) :
    Safe start (ws ++ [(0, hdr.encode)]) := by
  constructor
  · rw [replay_append_singleton]
    exact h.readable.write_header hh
  · intro i
    have hne : 0 ≠ slotStart i := Nat.ne_of_lt (Nat.zero_lt_of_lt (sizeofHeader_lt_slotStart i))
    rw [replay_append_singleton, slots_write_header, blanked_append, ← h.tracked i]
    constructor
    · rintro (⟨hw, -⟩ | hb)
      · exact absurd (congrArg Prod.fst hw) hne
      · exact hb.1
    · exact fun hb => .inr ⟨hb, (by decide : 0 ≠ sizeofHeader), hne⟩

/-- The bitmap lists slots that hold records. -/
theorem Safe.bitmap (h : Safe start ws) (hsize : sizeofHeader ≤ (start.replay ws).size)
    {bm : Bitmap} (hbm : ∀ i, i < maxRecords → bm i = true →
      ((slots (start.replay ws)).cell i).isSome ∧ slotStart i + sizeof ≤ (start.replay ws).size) :
    Safe start (ws ++ [(sizeofHeader, bitmapBytes bm)]) := by
  constructor
  · rw [replay_append_singleton]
    exact h.readable.write_bitmap hsize (fun i hi hbit => (hbm i hi hbit).2)
  · intro i
    rw [replay_append_singleton, slots_write_bitmap, blanked_append]
    constructor
    · rintro (⟨hw, -⟩ | hb)
      · exact absurd (congrArg Prod.fst hw) (Nat.ne_of_lt (sizeofHeader_lt_slotStart i))
      · exact absurd rfl hb.2.1
    · rintro ⟨hlisted, hcell⟩
      simp only [SlotDisk.write, Bool.and_eq_true, decide_eq_true_eq] at hlisted hcell
      have hsome := (hbm i hlisted.1 hlisted.2).1
      rw [hcell] at hsome
      cases hsome

theorem Safe.record (h : Safe start ws) (hsize : sizeofHeader ≤ (start.replay ws).size) {slot : Nat}
    (hslot : slot < maxRecords) (hd : Proper slot d) :
    Safe start (ws ++ [(slotStart slot, d.encode)]) := by
  constructor
  · rw [replay_append_singleton]
    exact h.readable.write_record hsize hslot hd
  · intro i
    rw [replay_append_singleton, slots_write_record _ hslot hd, blanked_append]
    by_cases hi : i = slot
    · subst hi
      rw [SlotDisk.write_cell_self]
      have hlisted : ((slots (start.replay ws)).write (.record i
          (if d.nvmeMapping.isValid then some d else none))).listed i =
          (slots (start.replay ws)).listed i := rfl
      rw [hlisted]
      -- The slot is blanked now, or it holds a record.
      rcases hd with ⟨hvalid, -⟩ | rfl
      · simp only [hvalid, if_true, reduceCtorEq, and_false, iff_false]
        rintro (⟨hw, -⟩ | hb)
        · have henc : d.encode = blank.encode := congrArg Prod.snd hw
          have heq : d = blank := by rw [← decode_encode d, henc, decode_encode]
          rw [heq] at hvalid
          cases hvalid
        · exact hb.2.2 rfl
      · simp only [not_isValid_blank, Bool.false_eq_true, if_false, and_true, true_and, ne_eq,
          not_true, and_false, or_false]
    · have hne : slotStart slot ≠ slotStart i := fun heq => hi (slotStart_inj heq).symm
      have hne' : slotStart slot ≠ sizeofHeader :=
        (Nat.ne_of_lt (sizeofHeader_lt_slotStart slot)).symm
      rw [SlotDisk.write_cell_of_ne _ _ _ _ hi]
      have hsame := h.tracked i
      constructor
      · rintro (⟨hw, -⟩ | hb)
        · exact absurd (congrArg Prod.fst hw) hne
        · exact hsame.mp hb.1
      · exact fun hb => .inr ⟨hsame.mpr hb, hne', hne⟩

end

/-! ### What a manager keeps true -/

/-- The map, the bitmap and the log of a manager fit: a bit is set for each file in
    the map, and its record is in its slot. The log has been safe after each write. -/
structure Sound (m : GPUFileManager) : Prop where
  header : IsHeader m.header
  size : recordsStart ≤ m.log.content.size
  bits : ∀ i, m.dirtyBitmap i = (m.descs.lookup i).isSome
  cells : ∀ i d, m.descs.lookup i = some d →
    (slots m.log.content).cell i = some d ∧ slotStart i + sizeof ≤ m.log.content.size
  safe : ∀ k, Safe m.log.start (m.log.writes.take k)

section

variable (hs : Sound m)

include hs

theorem Sound.safe_content : Safe m.log.start m.log.writes := by
  have hsafe := hs.safe m.log.writes.length
  rwa [List.take_length] at hsafe

theorem Sound.hasHeader : sizeofHeader ≤ (m.log.start.replay m.log.writes).size :=
  Nat.le_trans (by decide) hs.size

/-- Only the log, the header, the bitmap and the map matter. -/
theorem Sound.congr (hlog : m'.log = m.log) (hheader : m'.header = m.header)
    (hbitmap : m'.dirtyBitmap = m.dirtyBitmap) (hdescs : m'.descs = m.descs) : Sound m' where
  header := by rw [hheader]; exact hs.header
  size := by rw [hlog]; exact hs.size
  bits := by rw [hbitmap, hdescs]; exact hs.bits
  cells := by rw [hlog, hdescs]; exact hs.cells
  safe := by rw [hlog]; exact hs.safe

/-- A file in the map is in the slot of its id. -/
theorem Sound.slot (hd : m.descs.lookup i = some d) : i < maxRecords ∧ d.fileId.toNat = i := by
  have hcell := cell_some (hs.cells i d hd).1
  exact ⟨hcell.1, hcell.2.2⟩

/-- Something is written that leaves the records of the files. -/
theorem Sound.write (hh : IsHeader h) {off : Nat} {bs : Bytes}
    (hsafe : Safe m.log.start (m.log.writes ++ [(off, bs)]))
    (hcells : ∀ i d, m.descs.lookup i = some d →
      (slots (m.log.content.write off bs)).cell i = some d) :
    Sound { m with header := h, log := m.log.write off bs } := by
  refine ⟨hh, ?_, hs.bits, fun i d hd => ?_, LogFile.forall_take_append hs.safe hsafe⟩
  · rw [LogFile.content_write]
    exact Nat.le_trans hs.size (Nat.le_max_left ..)
  · rw [LogFile.content_write]
    exact ⟨hcells i d hd, Nat.le_trans (hs.cells i d hd).2 (Nat.le_max_left ..)⟩

/-- A record is written to a free slot. -/
theorem Sound.record {slot : Nat} (hslot : slot < maxRecords)
    (hfree : m.descs.lookup slot = none) (hd : Proper slot d) :
    Sound (m.recordAll [(slot, d)]) := by
  have hlog : m.recordAll [(slot, d)] =
      { m with log := m.log.write (slotStart slot) d.encode } := by
    rw [← slotOffset_of_isHeader hs.header]
    rfl
  rw [hlog]
  refine hs.write hs.header (hs.safe_content.record hs.hasHeader hslot hd) (fun i e he => ?_)
  have hne : i ≠ slot := by
    rintro rfl
    cases hfree.symm.trans he
  rw [slots_write_record _ hslot hd, SlotDisk.write_cell_of_ne _ _ _ _ hne]
  exact (hs.cells i e he).1

/-- Records of new files are written, and are there. -/
theorem Sound.recordAll (h : Fresh m files) : Sound (m.recordAll files) ∧
      (∀ e ∈ files, (slots (m.recordAll files).log.content).cell e.1 = some e.2 ∧
        slotStart e.1 + sizeof ≤ (m.recordAll files).log.content.size) ∧
      m.log.content.size ≤ (m.recordAll files).log.content.size ∧
      ∀ i, i ∉ files.map Prod.fst →
        (slots (m.recordAll files).log.content).cell i = (slots m.log.content).cell i := by
  induction files generalizing m with
  | nil =>
    rw [recordAll_nil]
    exact ⟨hs, nofun, Nat.le_refl _, fun _ _ => rfl⟩
  | cons e _ ih =>
    have hfree := h.free e List.mem_cons_self
    have hnamed := h.named e List.mem_cons_self
    have hnodup := h.nodup
    rw [List.map_cons, List.nodup_cons] at hnodup
    have hone := hs.record hfree.1 hfree.2.2 (.inl hnamed.symm)
    have hlog : (m.recordAll [e]).log.content = m.log.content.write (slotStart e.1) e.2.encode := by
      rw [← LogFile.content_write, ← slotOffset_of_isHeader hs.header]
      rfl
    have hslots := slots_write_record m.log.content hfree.1 (.inl hnamed.symm)
    rw [hnamed.2] at hslots
    rw [recordAll_cons]
    have hrest := h.sublist (List.sublist_cons_self ..)
    rcases ih hone ⟨hrest.nodup, hrest.free, hrest.named⟩ with ⟨hsound, hcells, hsize, hother⟩
    rw [hlog] at hsize hother
    rw [hslots] at hother
    refine ⟨hsound, fun e' he' => ?_, Nat.le_trans (Nat.le_max_left ..) hsize, fun i hi => ?_⟩
    · rcases List.mem_cons.mp he' with rfl | he'
      · -- The slots of the others are different ones.
        rw [hother _ hnodup.1, SlotDisk.write_cell_self]
        refine ⟨rfl, Nat.le_trans ?_ hsize⟩
        exact Nat.le_max_right ..
      · exact hcells e' he'
    · rw [List.map_cons, List.mem_cons, not_or] at hi
      rw [hother i hi.2, SlotDisk.write_cell_of_ne _ _ _ _ hi.1]

/-- Files with records in their slots are put in the map. -/
theorem Sound.enter (hnodup : (files.map Prod.fst).Nodup)
    (hcells : ∀ e ∈ files, (slots m.log.content).cell e.1 = some e.2 ∧
      slotStart e.1 + sizeof ≤ m.log.content.size) : Sound (m.enter files) := by
  rcases lookup_addDescs files m.descs hnodup with ⟨hin, hout⟩
  have hmem : ∀ i, i ∈ files.map Prod.fst → ∃ e ∈ files, e.1 = i := fun i hi =>
    List.mem_map.mp hi
  refine ⟨hs.header, hs.size, fun i => ?_, fun i d hd => ?_, hs.safe⟩
  · show m.dirtyBitmap.setAll (files.map Prod.fst) i = ((addDescs m.descs files).lookup i).isSome
    rw [Bitmap.setAll_apply]
    by_cases hi : i ∈ files.map Prod.fst
    · rcases hmem i hi with ⟨e, he, rfl⟩
      rw [hin e he, decide_eq_true hi]
      rfl
    · rw [hout i hi, decide_eq_false hi, Bool.false_or, hs.bits i]
  · replace hd : (addDescs m.descs files).lookup i = some d := hd
    by_cases hi : i ∈ files.map Prod.fst
    · rcases hmem i hi with ⟨e, he, rfl⟩
      rw [hin e he] at hd
      rw [← hd]
      exact hcells e he
    · rw [hout i hi] at hd
      exact hs.cells i d hd

theorem Sound.vacate (id : Nat) (cs : List ManagedController) :
    Sound (m.vacate id cs) := by
  refine ⟨hs.header.withCount _, hs.size, fun i => ?_,
    fun i d hd => hs.cells i d (lookup_of_erase hd).2, hs.safe⟩
  simp only [GPUFileManager.vacate, Bitmap.clearBit, Function.update_apply, lookup_erase_apply,
    apply_ite Option.isSome, Option.isSome_none, hs.bits i]

/-! ### Writing the bitmap -/

/-- The header is written, with any count. -/
theorem Sound.writeHeader (n : UInt64) (ok : Bool) : Sound { m with
      header := { m.header with activeRecordCount := n }
      log := if ok then m.log.write 0 ({ m.header with activeRecordCount := n } : LogHeader).encode
        else m.log } := by
  have hh := hs.header.withCount n
  cases ok with
  | false => exact ⟨hh, hs.size, hs.bits, hs.cells, hs.safe⟩
  | true =>
    refine hs.write hh (hs.safe_content.header hh) (fun i d hd => ?_)
    rw [slots_write_header]
    exact (hs.cells i d hd).1

theorem Sound.writeBitmap :
    Sound { m with log := m.log.write sizeofHeader (bitmapBytes m.dirtyBitmap) } := by
  have hbits : ∀ i, i < maxRecords → m.dirtyBitmap i = true →
      ((slots m.log.content).cell i).isSome ∧ slotStart i + sizeof ≤ m.log.content.size := by
    intro i _ hbit
    rw [hs.bits i] at hbit
    rcases Option.isSome_iff_exists.mp hbit with ⟨d, hd⟩
    have hcell := hs.cells i d hd
    exact ⟨by rw [hcell.1]; rfl, hcell.2⟩
  refine hs.write hs.header (hs.safe_content.bitmap hs.hasHeader hbits) (fun i d hd => ?_)
  rw [slots_write_bitmap]
  exact (hs.cells i d hd).1

omit hs in
/-- The two writes, one after the other. -/
theorem persistBitmap_log (hh : IsHeader m.header) (env : PersistEnv) :
    let log := if env.headerOk then m.log.write 0 ({ m.header with
      activeRecordCount := UInt64.ofNat m.descs.keys.length } : LogHeader).encode else m.log
    (m.persistBitmap env).log =
      if env.bitmapOk then log.write sizeofHeader (bitmapBytes m.dirtyBitmap) else log := by
  simp only [persistBitmap]
  rw [(hh.withCount (UInt64.ofNat m.descs.keys.length)).bitmapOffset]

theorem Sound.persistBitmap (env : PersistEnv) : Sound (m.persistBitmap env) := by
  have hheader := hs.writeHeader (UInt64.ofNat m.descs.keys.length) env.headerOk
  have hlog := persistBitmap_log hs.header env
  extract_lets log at hlog
  by_cases hok : env.bitmapOk = true
  · rw [if_pos hok] at hlog
    exact hheader.writeBitmap.congr hlog rfl rfl rfl
  · rw [if_neg hok] at hlog
    exact hheader.congr hlog rfl rfl rfl

theorem Sound.countWrites (n : Nat) (env : PersistEnv) :
    Sound (m.countWrites n env) := by
  have hpending : Sound { m with pending := m.pending + n } := hs.congr rfl rfl rfl rfl
  rw [GPUFileManager.countWrites]
  split
  · exact hpending.persistBitmap env
  · exact hpending

/-! ### Calls -/

theorem Sound.creation (h : Creation m m') : Sound m' := by
  cases h with
  | failed _ _ hfresh => exact (hs.recordAll hfresh).1.congr rfl rfl rfl rfl
  | created cs files n env hfresh =>
    have hcs : Sound { m with controllers := cs } := hs.congr rfl rfl rfl rfl
    have hfresh' : Fresh { m with controllers := cs } files :=
      ⟨hfresh.nodup, hfresh.free, hfresh.named⟩
    rcases hcs.recordAll hfresh' with ⟨hsound, hcells, -⟩
    exact (hsound.enter hfresh.nodup hcells).countWrites n env

theorem Sound.removed {id : Nat} {env : DeleteGPUEnv} {deleted : Bool}
    (h : Removed m id env m' deleted) : Sound m' := by
  cases h with
  | refused => exact hs
  | removed d _ hlt =>
    have hvacant := hs.vacate id
      (deleteNVMeFilesForGPUFile m.controllers d.nvmeMapping env.delete).1
    refine Sound.countWrites ?_ 1 env.persist
    split
    · exact hvacant.record hlt (AList.lookup_erase id m.descs) (.inr rfl)
    · rwa [recordAll_nil]

/-- Every call keeps a manager sound. -/
theorem sound_step {c : Call} (h : m.step c = some m') : Sound m' := by
  cases step_stepped h with
  | one h | many h => exact hs.creation h.creation
  | inited h =>
    cases h with
    | refused => exact hs
    | failed _ _ _ hopen | pooled _ _ _ hopen =>
      rw [openMapped_eq hopen]
      exact hs.congr rfl rfl rfl rfl
  | opened h =>
    cases h with
    | refused => exact hs
    | opened => exact hs.congr rfl rfl rfl rfl
  | closed h =>
    cases h with
    | refused => exact hs
    | doubled | closed => exact hs.congr rfl rfl rfl rfl
  | removed h => exact hs.removed h

theorem sound_run {calls : List Call}
    (h : run (lift step) (some m) calls = some m') : Sound m' :=
  run_lift_invariant (P := fun _ _ => True) (fun _ _ _ hs _ hstep => sound_step hs hstep) hs
    (along_of_forall (fun _ _ _ _ _ => trivial)) h

end

/-! ### Opening a log again -/

/-- A bit is set for each file in the map, which is in the slot that its record names,
    and only for those. -/
def Consistent (m : GPUFileManager) : Prop :=
  ∀ i, m.dirtyBitmap i = true ↔ ∃ d, m.descs.lookup i = some d ∧ d.fileId.toNat = i

theorem Sound.consistent (hs : Sound m) : Consistent m := by
  intro i
  rw [hs.bits i, Option.isSome_iff_exists]
  constructor
  · rintro ⟨d, hd⟩
    exact ⟨d, hd, (hs.slot hd).2⟩
  · rintro ⟨d, hd, -⟩
    exact ⟨d, hd⟩

/-- A log that is not written to is safe if each slot that is listed holds a record. -/
theorem Readable.safe (hf : Readable f)
    (hfull : ∀ i, (slots f).listed i = true → ((slots f).cell i).isSome) : Safe f [] := by
  refine ⟨hf, fun i => ⟨?_, fun h => ?_⟩⟩
  · rintro ⟨_, _, hws, -⟩
    exact absurd hws (by simp)
  · have hnone : (slots f).cell i = none := h.2
    have hsome := hfull i h.1
    rw [hnone] at hsome
    cases hsome

/-- The writes for a new log are safe. -/
theorem safe_initialWrites (k : Nat) : Safe ByteFile.empty (initialWrites.take k) := by
  have hstart : Safe ByteFile.empty [] := readable_empty.safe (fun i hi =>
    absurd (readable_empty.inside i hi) (by simp [ByteFile.empty, sizeof]))
  have hh : IsHeader (newHeader magicNumber sizeof) := ⟨0, rfl⟩
  have hheader := hstart.header hh
  have hzeros : zeroBytes bitmapSizeBytes = bitmapBytes Bitmap.zeros :=
    (packBits_zeros maxRecords _).symm
  have hsize : sizeofHeader ≤ (ByteFile.empty.replay
      ([] ++ [(0, (newHeader magicNumber sizeof).encode)])).size := by
    rw [replay_append_singleton, ByteFile.write_size, LogHeader.encode_length]
    omega
  have hbitmap : Safe ByteFile.empty ([] ++ [(0, (newHeader magicNumber sizeof).encode)] ++
      [(sizeofHeader, bitmapBytes Bitmap.zeros)]) :=
    hheader.bitmap hsize (fun i _ hbit => absurd hbit Bool.false_ne_true)
  rw [← hzeros] at hbitmap
  refine LogFile.forall_take_append (fun k => ?_) hbitmap k
  exact LogFile.forall_take_append (fun k => by rw [List.take_nil]; exact hstart) hheader k

/-- The manager of a log that was just started. -/
def fresh : GPUFileManager where
  log := ⟨ByteFile.empty, initialWrites⟩
  header := newHeader magicNumber sizeof
  dirtyBitmap := Bitmap.zeros
  descs := ∅
  freeList := []
  ctxs := ∅
  devFds := ∅
  threshold := threshold
  pending := 0
  controllers := controllers

/-- Without a bit set, the loop only goes on. -/
theorem loadRecords_zeros (f : ByteFile) (pos n : Nat) :
    (loadRecords f Bitmap.zeros pos n).2 = ∅ := by
  induction n with
  | zero => rfl
  | succ _ ih => exact ih

/-- What is on disk when a log was just started. -/
theorem content_initialWrites : (⟨ByteFile.empty, initialWrites⟩ : LogFile).content =
    (ByteFile.empty.write 0 (newHeader magicNumber sizeof).encode).write sizeofHeader
      (zeroBytes bitmapSizeBytes) := by
  rw [LogFile.content, initialWrites, ByteFile.replay_cons, ByteFile.replay_cons,
    ByteFile.replay_nil]

theorem size_initialWrites :
    (⟨ByteFile.empty, initialWrites⟩ : LogFile).content.size = recordsStart := by
  have hzero : ByteFile.empty.size = 0 := rfl
  rw [content_initialWrites, ByteFile.write_size, ByteFile.write_size, LogHeader.encode_length,
    zeroBytes_length, recordsStart]
  omega

theorem loadFromFile_initialWrites (junk : LogHeader) :
    loadFromFile (⟨ByteFile.empty, initialWrites⟩ : LogFile).content junk =
      (newHeader magicNumber sizeof, Bitmap.zeros, ∅) := by
  have hsize := size_initialWrites
  have hslice : (⟨ByteFile.empty, initialWrites⟩ : LogFile).content.slice 0 sizeofHeader =
      (newHeader magicNumber sizeof).encode := by
    rw [content_initialWrites, ByteFile.slice_write_of_disjoint _ _ _ _ _ (by omega),
      slice_write_header]
  have hlisted : (slots (⟨ByteFile.empty, initialWrites⟩ : LogFile).content).listed =
      Bitmap.zeros := by
    rw [content_initialWrites, show zeroBytes bitmapSizeBytes = bitmapBytes Bitmap.zeros from
      (packBits_zeros maxRecords _).symm, slots_write_bitmap]
    exact funext fun i => Bool.and_false _
  rw [loadFromFile_eq hslice ⟨0, rfl⟩ (by rw [hsize]; decide), if_pos hsize.ge, hlisted,
    loadRecords_zeros]

theorem construct_none
    (junk : LogHeader) : construct none controllers threshold junk = fresh controllers threshold := by
  unfold construct
  dsimp only
  rw [loadFromFile_initialWrites, fresh]

theorem sound_fresh : Sound (fresh controllers threshold) where
  header := ⟨0, rfl⟩
  size := size_initialWrites.ge
  bits _ := rfl
  cells i d hd := absurd hd (by simp [fresh])
  safe := safe_initialWrites

/-- The logs in which each slot that is listed holds a record. -/
structure Clean (f : ByteFile) : Prop where
  readable : Readable f
  size : recordsStart ≤ f.size
  full : ∀ i, (slots f).listed i = true → ((slots f).cell i).isSome

theorem sound_construct (hf : Clean f) (controllers : List ManagedController) (threshold : Nat)
    (junk : LogHeader) : Sound (construct (some f) controllers threshold junk) := by
  have hload := loadFromFile_spec hf.readable junk
  refine ⟨hload.header hf.size, hf.size, fun i => ?_, fun i d hd => ?_, fun k => ?_⟩
  · show (loadFromFile f junk).2.1 i = ((loadFromFile f junk).2.2.lookup i).isSome
    rw [hload.bitmap i, hload.descs i, SlotDisk.recovered]
    cases hlisted : (slots f).listed i with
    | false => rfl
    | true => rw [if_pos rfl, hf.full i hlisted]
  · replace hd : (loadFromFile f junk).2.2.lookup i = some d := hd
    rw [hload.descs i, SlotDisk.recovered] at hd
    split at hd
    next hlisted => exact ⟨hd, hf.readable.inside i hlisted⟩
    · cases hd
  · have hnil : (construct (some f) controllers threshold junk).log.writes.take k = [] :=
      List.take_nil
    rw [hnil]
    exact hf.readable.safe hf.full

/-- A manager that is destroyed leaves its bitmap. -/
theorem Sound.listed_persist (hs : Sound m) {env : PersistEnv} (henv : env.bitmapOk = true)
    (i : Nat) : (slots (m.persistBitmap env).log.content).listed i = m.dirtyBitmap i := by
  rw [persistBitmap_log hs.header, if_pos henv, LogFile.content_write, slots_write_bitmap]
  show (decide (i < maxRecords) && m.dirtyBitmap i) = m.dirtyBitmap i
  cases hbit : m.dirtyBitmap i with
  | false => rw [Bool.and_false]
  | true =>
    have hsome : (m.descs.lookup i).isSome := by rw [← hs.bits i, hbit]
    rcases Option.isSome_iff_exists.mp hsome with ⟨d, hd⟩
    rw [decide_eq_true (hs.slot hd).1, Bool.true_and]

theorem Sound.clean_destroy (hs : Sound m) {env : PersistEnv} (henv : env.bitmapOk = true) :
    Clean (m.destroy env) := by
  have hlast := hs.persistBitmap env
  refine ⟨hlast.safe_content.readable, hlast.size, fun i hi => ?_⟩
  rw [destroy, hs.listed_persist henv, hs.bits i] at hi
  rcases Option.isSome_iff_exists.mp hi with ⟨d, hd⟩
  rw [destroy, (hlast.cells i d hd).1]
  rfl

/-- The logs that managers leave behind: none at first, and then what a manager on such
    a log has written when it is destroyed. -/
inductive Written : Option ByteFile → Prop where
  | absent : Written none
  | closed {log : Option ByteFile} (hlog : Written log) (controllers : List ManagedController)
      (threshold : Nat) (junk : LogHeader) (calls : List Call) (m : GPUFileManager)
      (hrun : run (lift step) (some (construct log controllers threshold junk)) calls =
        some m) (env : PersistEnv) (henv : env.bitmapOk = true) :
      Written (some (m.destroy env))

/-- A manager on such a log is sound. -/
theorem Written.sound {log : Option ByteFile} (h : Written log)
    (controllers : List ManagedController) (threshold : Nat) (junk : LogHeader) :
    Sound (construct log controllers threshold junk) := by
  induction h generalizing controllers threshold junk with
  | absent =>
    rw [construct_none]
    exact sound_fresh controllers threshold
  | closed _ cs t j _ _ hrun _ henv ih =>
    exact sound_construct ((sound_run (ih cs t j) hrun).clean_destroy henv) ..

/-- A GPU file manager that is destroyed and opened again has the same files and the same
    bitmap, with a bit for each file that is in its slot. -/
theorem reopen_keeps_gpu_files (log : Option ByteFile) (hlog : Written log)
    (controllers controllers' : List ManagedController) (threshold threshold' : Nat)
    (junk junk' : LogHeader) (calls : List Call) (m : GPUFileManager)
    (hrun : run (lift step) (some (construct log controllers threshold junk)) calls =
      some m) (env : PersistEnv) (henv : env.bitmapOk = true) :
    (∀ id, (construct (some (m.destroy env)) controllers' threshold' junk').descs.lookup id =
        m.descs.lookup id) ∧
      (construct (some (m.destroy env)) controllers' threshold' junk').dirtyBitmap = m.dirtyBitmap ∧
      Consistent (construct (some (m.destroy env)) controllers' threshold' junk') := by
  have hs := sound_run (hlog.sound controllers threshold junk) hrun
  have hclean := hs.clean_destroy henv
  have hlast := hs.persistBitmap env
  have hload := loadFromFile_spec hclean.readable junk'
  have hlisted : ∀ i, (slots (m.destroy env)).listed i = m.dirtyBitmap i := hs.listed_persist henv
  refine ⟨fun id => ?_, funext fun i => ?_, (sound_construct hclean ..).consistent⟩
  · have hrec : (slots (m.destroy env)).recovered = fun i => m.descs.lookup i :=
      SlotDisk.recovered_of_listed (fun i => (hlisted i).trans (hs.bits i))
        (fun i d hd => (hlast.cells i d hd).1)
    exact (hload.descs id).trans (congrFun hrec id)
  · exact (hload.bitmap i).trans (hlisted i)

/-- A file is deleted without a failure. -/
def deletesOk : DeleteEnv := ⟨true, FileManager.writesOk 3, FileManager.writesOk 3⟩

/-- A file is created without a failure, in one piece. -/
def createOk : CreateOneEnv where
  new _ := ManagedController.madeWith [] [⟨512, 1048576, 65536, 1⟩]
  cleanup _ := deletesOk
  rollback _ := deletesOk
  recordOk := true
  persist := ⟨true, true⟩

def deleteOk : DeleteGPUEnv := ⟨fun _ => deletesOk, true, ⟨true, true⟩⟩

/-- Two files on one controller, of which one is deleted. -/
theorem reopen_keeps_gpu_files_twoFiles : Written none ∧ ∃ m,
    run (lift step) (some (construct none [ManagedController.fresh ManagedController.mountM]
      4 (newHeader 0 0))) [.createGPUFile 65536 [1, 1, 4096] createOk,
        .createGPUFile 65536 [1, 1, 4096] createOk, .deleteGPUFile 0 deleteOk] = some m ∧
    (construct (some (m.destroy ⟨true, true⟩)) [] 4 (newHeader 0 0)).dirtyBitmap = m.dirtyBitmap := by
  have hrun : (run (lift step) (some (construct none
      [ManagedController.fresh ManagedController.mountM] 4 (newHeader 0 0)))
      [.createGPUFile 65536 [1, 1, 4096] createOk, .createGPUFile 65536 [1, 1, 4096] createOk,
        .deleteGPUFile 0 deleteOk]).isSome = true := by
    rw [construct_none]
    decide
  rcases Option.isSome_iff_exists.mp hrun with ⟨m, hrun⟩
  exact ⟨.absent, m, hrun,
    (reopen_keeps_gpu_files none .absent _ [] 4 4 _ _ _ m hrun ⟨true, true⟩ rfl).2.1⟩

end GPUFileManager

end Geminifs.Gemini
