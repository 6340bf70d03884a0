import Geminifs.Core.SlotLog
import Geminifs.Library.SlotDisk

/-!
# The Logs as Slots

A log file seen as a `SlotDisk`: the bitmap is the index, and a slot holds a
record if the bytes there are a proper one. Each of the three things that are
written to a log, a header, the bitmap or a record, is one write of the slots or
none.

## Main definitions

* `RecordFormat`: How a record is written, and which ones are proper in a slot.
* `RecordFormat.slots`: A log as slots.
* `Canonical`: The headers that are written.

## Theorems

* `record_write_below`, `record_write_self`, `record_write_of_ne`: The record of a slot
  after a write.
* `slots_write_header`, `slots_write_bitmap`, `slots_write_record`: What a write
  of the file is to the slots.
-/

namespace Geminifs.SlotLog

/-- How records are written, and which of them belong in which slot. -/
structure RecordFormat (ρ : Type _) where
  size : Nat
  encode : ρ → Bytes
  decode : Bytes → ρ
  proper : Nat → ρ → Bool
  encode_length : ∀ r, (encode r).length = size
  decode_encode : ∀ r, decode (encode r) = r

/-- The headers that are written: that of a new log, but for the count. -/
def Canonical (magic : UInt64) (recordSize : Nat) (h : LogHeader) : Prop :=
  ∃ n, h = { newHeader magic recordSize with activeRecordCount := n }

section

variable {magic : UInt64} {recordSize : Nat} {h : LogHeader}

section

variable (hc : Canonical magic recordSize h)

include hc

theorem Canonical.bitmapOffset : h.bitmapOffset.toNat = sizeofHeader := by
  rcases hc with ⟨n, rfl⟩
  rfl

theorem Canonical.slotOffset (hsize : recordSize < 256)
    (slot : Nat) : h.slotOffset slot = recordsStart + slot * recordSize := by
  rcases hc with ⟨n, rfl⟩
  have hstart : (UInt64.ofNat recordsStart).toNat = recordsStart := rfl
  have hrecord : (UInt64.ofNat recordSize).toNat = recordSize := by
    rw [UInt64.toNat_ofNat']
    omega
  simp only [LogHeader.slotOffset, newHeader, hstart, hrecord]

theorem Canonical.withCount (n : UInt64) :
    Canonical magic recordSize { h with activeRecordCount := n } := by
  rcases hc with ⟨m, rfl⟩
  exact ⟨n, rfl⟩

end

end

/-- A header that was written is read. -/
theorem slice_write_header (f : ByteFile) (h : LogHeader) :
    (f.write 0 h.encode).slice 0 sizeofHeader = h.encode := by
  have hself := ByteFile.slice_write_self f 0 h.encode
  rwa [LogHeader.encode_length] at hself

namespace RecordFormat

variable {ρ : Type _} (fmt : RecordFormat ρ)

/-- The bytes of a slot, as a record. -/
def record (f : ByteFile) (i : Nat) : ρ := fmt.decode (f.slice (recordsStart + i * fmt.size) fmt.size)

/-- A log as slots. -/
def slots (f : ByteFile) : SlotDisk ρ where
  listed i := decide (i < maxRecords) && packedBit (f.slice sizeofHeader bitmapSizeBytes) i
  cell i :=
    if i < maxRecords ∧ fmt.proper i (fmt.record f i) = true then some (fmt.record f i) else none

variable (f : ByteFile) (i : Nat) (r : ρ)

/-- What is in front of the records does not matter to them. -/
theorem record_write_below {off : Nat} {bs : Bytes} (h : off + bs.length ≤ recordsStart) (i : Nat) :
    fmt.record (f.write off bs) i = fmt.record f i := by
  rw [record, record, ByteFile.slice_write_of_disjoint]
  omega

theorem record_write_self :
    fmt.record (f.write (recordsStart + i * fmt.size) (fmt.encode r)) i = r := by
  have hslice := ByteFile.slice_write_self f (recordsStart + i * fmt.size) (fmt.encode r)
  rw [fmt.encode_length] at hslice
  rw [record, hslice, fmt.decode_encode]

theorem record_write_of_ne {i j : Nat} (hj : j ≠ i) :
    fmt.record (f.write (recordsStart + i * fmt.size) (fmt.encode r)) j = fmt.record f j := by
  rw [record, record, ByteFile.slice_write_of_disjoint]
  rw [fmt.encode_length]
  -- One of the two slots ends before the other one starts.
  rcases Nat.lt_or_gt_of_ne hj with hlt | hgt
  · have hle := Nat.mul_le_mul_right fmt.size hlt
    rw [Nat.succ_mul] at hle
    omega
  · have hle := Nat.mul_le_mul_right fmt.size hgt
    rw [Nat.succ_mul] at hle
    omega

/-- The header is in no slot. -/
theorem slots_write_header (h : LogHeader) : fmt.slots (f.write 0 h.encode) = fmt.slots f := by
  have hrecord : ∀ i, fmt.record (f.write 0 h.encode) i = fmt.record f i :=
    fmt.record_write_below f (by rw [LogHeader.encode_length, recordsStart]; omega)
  have hbitmap : (f.write 0 h.encode).slice sizeofHeader bitmapSizeBytes =
      f.slice sizeofHeader bitmapSizeBytes := by
    rw [ByteFile.slice_write_of_disjoint]
    rw [LogHeader.encode_length]
    omega
  simp only [slots, hrecord, hbitmap]

/-- Writing the bitmap writes the index. -/
theorem slots_write_bitmap (bm : Bitmap) : fmt.slots (f.write sizeofHeader (bitmapBytes bm)) =
      (fmt.slots f).write (.index (fun i => decide (i < maxRecords) && bm i)) := by
  have hrecord : ∀ i, fmt.record (f.write sizeofHeader (bitmapBytes bm)) i = fmt.record f i :=
    fmt.record_write_below f (by rw [bitmapBytes_length, recordsStart])
  have hbitmap : (f.write sizeofHeader (bitmapBytes bm)).slice sizeofHeader bitmapSizeBytes =
      bitmapBytes bm := by
    have hself := ByteFile.slice_write_self f sizeofHeader (bitmapBytes bm)
    rwa [bitmapBytes_length] at hself
  apply SlotDisk.ext
  · funext i
    rw [slots, SlotDisk.write, hbitmap]
    by_cases hi : i < maxRecords
    · simp only [packedBit_bitmapBytes bm i hi]
    · simp only [decide_eq_false hi, Bool.false_and]
  · simp only [slots, SlotDisk.write, hrecord]

/-- Writing a record writes its slot. -/
theorem slots_write_record (hi : i < maxRecords) :
    fmt.slots (f.write (recordsStart + i * fmt.size) (fmt.encode r)) =
      (fmt.slots f).write (.record i (if fmt.proper i r then some r else none)) := by
  have hbitmap : (f.write (recordsStart + i * fmt.size) (fmt.encode r)).slice
      sizeofHeader bitmapSizeBytes = f.slice sizeofHeader bitmapSizeBytes := by
    rw [ByteFile.slice_write_of_disjoint]
    rw [recordsStart]
    omega
  apply SlotDisk.ext
  · simp only [slots, SlotDisk.write, hbitmap]
  · funext j
    by_cases hj : j = i
    · subst hj
      rw [SlotDisk.write_cell_self]
      simp only [slots, fmt.record_write_self f j r, hi, true_and]
    · rw [SlotDisk.write_cell_of_ne _ _ _ _ hj]
      simp only [slots, fmt.record_write_of_ne f r hj]

end RecordFormat

section

variable {ρ : Type _} {fmt : RecordFormat ρ} {f : ByteFile} {i : Nat} {r : ρ}

theorem listed_lt (h : (fmt.slots f).listed i = true) : i < maxRecords := by
  simp only [RecordFormat.slots, Bool.and_eq_true, decide_eq_true_eq] at h
  exact h.1

/-- What a slot holds is proper in it. -/
theorem proper_of_cell (h : (fmt.slots f).cell i = some r) :
    i < maxRecords ∧ fmt.proper i r = true := by
  rcases Option.ite_none_right_eq_some.mp h with ⟨hi, hr⟩
  cases hr
  exact hi

end

end Geminifs.SlotLog
