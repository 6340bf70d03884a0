import Geminifs.Library.ByteFile
import Geminifs.Library.PackedBits

/-!
# The Layout of the File Logs

The NVMe file manager and the GPU file manager keep logs of one layout: a header,
a bitmap of the slots in use, and one record for each slot. The records differ,
and so do their sizes.

## Main definitions

* `LogHeader`: The header, `LogHeader` and `GPULogHeader` of the source.
* `LogHeader.encode`, `LogHeader.decode`: Its bytes.
* `newHeader`: The header of a new log.
* `bitmapBytes`: The bytes of the bitmap.
* `findNextFreeSlot`: The first slot not in use.
-/

namespace Geminifs.SlotLog

/-- `BITMAP_SIZE_BYTES` and `GPU_BITMAP_SIZE_BYTES`. -/
def bitmapSizeBytes : Nat := 262144

/-- `MAX_RECORDS` and `GPU_MAX_RECORDS`. -/
def maxRecords : Nat := 8 * bitmapSizeBytes

/-- `sizeof(LogHeader)`: nine words and 456 reserved bytes. -/
def sizeofHeader : Nat := 528

/-- Where the records start. -/
def recordsStart : Nat := sizeofHeader + bitmapSizeBytes

/-- A buffer of zeros. -/
def zeroBytes (n : Nat) : Bytes := List.replicate n 0

/-- `LogHeader` and `GPULogHeader`. The reserved bytes are zero in every header
    that is written, and are not read. -/
@[ext]
structure LogHeader where
  magicNum : UInt64
  logFileSize : UInt64
  activeRecordCount : UInt64
  totalRecordCapacity : UInt64
  headerSize : UInt64
  bitmapOffset : UInt64
  bitmapSize : UInt64
  recordsOffset : UInt64
  recordSize : UInt64
  deriving DecidableEq, Repr

/-- A word of the header. -/
def word (x : UInt64) : Bytes := leBytes 8 x.toNat

/-- The word at an offset. -/
def wordAt (off : Nat) (bs : Bytes) : UInt64 := UInt64.ofNat (leNat (field off 8 bs))

def LogHeader.encode (h : LogHeader) : Bytes :=
  word h.magicNum ++ (word h.logFileSize ++ (word h.activeRecordCount ++
    (word h.totalRecordCapacity ++ (word h.headerSize ++ (word h.bitmapOffset ++
      (word h.bitmapSize ++ (word h.recordsOffset ++ (word h.recordSize ++ zeroBytes 456))))))))

def LogHeader.decode (bs : Bytes) : LogHeader where
  magicNum := wordAt 0 bs
  logFileSize := wordAt 8 bs
  activeRecordCount := wordAt 16 bs
  totalRecordCapacity := wordAt 24 bs
  headerSize := wordAt 32 bs
  bitmapOffset := wordAt 40 bs
  bitmapSize := wordAt 48 bs
  recordsOffset := wordAt 56 bs
  recordSize := wordAt 64 bs

/-- The header `initializeLogFile` writes, for records of the given size. -/
def newHeader (magic : UInt64) (recordSize : Nat) : LogHeader where
  magicNum := magic
  logFileSize := UInt64.ofNat (recordsStart + maxRecords * recordSize)
  activeRecordCount := 0
  totalRecordCapacity := UInt64.ofNat maxRecords
  headerSize := UInt64.ofNat sizeofHeader
  bitmapOffset := UInt64.ofNat sizeofHeader
  bitmapSize := UInt64.ofNat bitmapSizeBytes
  recordsOffset := UInt64.ofNat recordsStart
  recordSize := UInt64.ofNat recordSize

/-- The offset of a slot, as the header describes it. -/
def LogHeader.slotOffset (h : LogHeader) (slot : Nat) : Nat :=
  h.recordsOffset.toNat + slot * h.recordSize.toNat

/-- The buffer `persistBitmap` fills. -/
def bitmapBytes (bm : Bitmap) : Bytes :=
  packBits bm maxRecords (zeroBytes bitmapSizeBytes)

/-- `findNextFreeSlot`, with `none` for -1. -/
def findNextFreeSlot (bm : Bitmap) : Option Nat := findZeroFrom bm maxRecords 0

/-! ### Bytes and back -/

@[simp] theorem word_length (x : UInt64) : (word x).length = 8 := leBytes_length 8 x.toNat

@[simp] theorem ofNat_leNat_word (x : UInt64) : UInt64.ofNat (leNat (word x)) = x := by
  have hlt : x.toNat < 256 ^ 8 := x.toNat_lt
  rw [word, leNat_leBytes_of_lt 8 _ hlt, UInt64.ofNat_toNat]

@[simp] theorem zeroBytes_length (n : Nat) : (zeroBytes n).length = n := List.length_replicate

@[simp] theorem LogHeader.encode_length (h : LogHeader) : h.encode.length = sizeofHeader := by
  simp [encode, sizeofHeader]

@[simp] theorem LogHeader.decode_encode (h : LogHeader) : decode h.encode = h := by
  ext <;> simp [encode, decode, wordAt]

@[simp] theorem bitmapBytes_length (bm : Bitmap) : (bitmapBytes bm).length = bitmapSizeBytes := by
  rw [bitmapBytes, packBits_length, zeroBytes_length]

/-- Every bit of the bitmap reads back. -/
theorem packedBit_bitmapBytes (bm : Bitmap) (i : Nat) (h : i < maxRecords) :
    packedBit (bitmapBytes bm) i = bm i := packedBit_packBits_zeros bm bitmapSizeBytes i h

/-- The slot found is the first one that is not in use. -/
theorem findNextFreeSlot_spec (bm : Bitmap) : match findNextFreeSlot bm with
    | none => ∀ i, i < maxRecords → bm i = true
    | some slot => slot < maxRecords ∧ bm slot = false ∧ ∀ i, i < slot → bm i = true := by
  have hspec := findZeroFrom_spec bm maxRecords 0
  rw [findNextFreeSlot]
  revert hspec
  cases findZeroFrom bm maxRecords 0 with
  | none =>
    intro hspec i hi
    exact hspec i (Nat.zero_le i) (by omega)
  | some =>
    rintro ⟨-, hlt, hclear, hfirst⟩
    exact ⟨by omega, hclear, fun i hi => hfirst i (Nat.zero_le i) hi⟩

end Geminifs.SlotLog
