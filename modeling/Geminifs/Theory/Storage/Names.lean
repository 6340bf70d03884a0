import Geminifs.Core.Bootstrap
import Geminifs.Library.PosixPath

/-!
# Names and Paths

The storage layer builds the path of a file by concatenation and recovers the
name from a directory listing by cutting off `.bin`. For plain names the two
are inverse, and distinct names have distinct paths.

`create_file` itself accepts more: slashes, zero bytes and the name of the log
are not refused. What follows from that is in `Theory.Storage.Isolation`; the
results about whole runs are about plain names.

## Main definitions

* `Plain`, `Stem`: A name that stays in `.tutti` and is not the log's.
* `ListsTutti`: A directory listing that tells the truth.

## Theorems

* `cStr_hostPath`: The system calls see the whole path of a plain name.
* `hostPath_injective`: Distinct names have distinct paths.
* `binName_append`: Reconcile recovers a plain name from its file.
* `eq_of_binName`: Reconcile recovers a name only from its own file.
-/

namespace Geminifs.HostStorage

/-- `"file_log"`. -/
def logStem : Bytes := ascii ['f', 'i', 'l', 'e', '_', 'l', 'o', 'g']

/-- A name that stays in `.tutti` and is not the log's. -/
structure Plain (name : Bytes) : Prop where
  nonempty : name ≠ []
  noSlash : slash ∉ name
  noNul : 0 ∉ name
  short : name.length < kNameMax
  notLog : name ≠ logStem

/-- The same without the length, as a file in `.tutti` is named. -/
structure Stem (name : Bytes) : Prop where
  nonempty : name ≠ []
  noSlash : slash ∉ name
  noNul : 0 ∉ name
  notLog : name ≠ logStem

theorem Plain.stem {name : Bytes} (h : Plain name) : Stem name :=
  ⟨h.nonempty, h.noSlash, h.noNul, h.notLog⟩

instance (name : Bytes) : Decidable (Plain name) :=
  decidable_of_iff
    (name ≠ [] ∧ slash ∉ name ∧ 0 ∉ name ∧ name.length < kNameMax ∧ name ≠ logStem)
    ⟨fun h => ⟨h.1, h.2.1, h.2.2.1, h.2.2.2.1, h.2.2.2.2⟩,
      fun h => ⟨h.nonempty, h.noSlash, h.noNul, h.short, h.notLog⟩⟩

/-- The path of a directory entry of `.tutti`. -/
def leafPath (mp : MountPath) (fn : Bytes) : Bytes := tuttiDir mp ++ (ascii ['/'] ++ fn)

variable (mp : MountPath) (name : Bytes)

theorem leafPath_injective {fn fn' : Bytes} (h : leafPath mp fn = leafPath mp fn') : fn = fn' := by
  unfold leafPath at h
  rw [List.append_cancel_left_eq, List.append_cancel_left_eq] at h
  exact h

/-- Distinct names have distinct paths. -/
theorem hostPath_injective {name name' : Bytes} (h : hostPath mp name = hostPath mp name') :
    name = name' := by
  have hleaf := leafPath_injective mp h
  rwa [List.append_cancel_right_eq] at hleaf

/-- No part of a path is cut off when it has no zero byte. -/
theorem cStr_leafPath (fn : Bytes) (h : 0 ∉ fn) : cStr (leafPath mp fn) = leafPath mp fn := by
  have hdir : 0 ∉ tuttiDir mp := List.not_mem_append mp.nulFree (by decide)
  exact cStr_of_zero_notMem _ (List.not_mem_append hdir (List.not_mem_append (by decide) h))

/-- The system calls see the whole path of a name without a zero byte. -/
theorem cStr_hostPath (h : 0 ∉ name) : cStr (hostPath mp name) = hostPath mp name :=
  cStr_leafPath mp (name ++ binExt) (List.not_mem_append h (by decide))

/-- The file of a name other than the log's is neither the log nor its temporary
    file. -/
theorem bin_ne_log (hlog : name ≠ logStem) :
    name ++ binExt ≠ logFileName ∧ name ++ binExt ≠ FileLog.tmpPath logFileName := by
  refine ⟨fun h => ?_, fun h => ?_⟩
  · have hstem : logFileName = logStem ++ binExt := rfl
    rw [hstem, List.append_cancel_right_eq] at h
    exact hlog h
  · -- The temporary file ends in `.tmp`.
    have hlast := congrArg List.getLast? h
    rw [List.getLast?_append] at hlast
    cases hlast

/-- Reconcile recovers a name from its file, unless it is the log's. -/
theorem binName_append (hne : name ≠ []) (hlog : name ≠ logStem) :
    binName (name ++ binExt) = some name := by
  have hnot := bin_ne_log name hlog
  have hlen : (name ++ binExt).length = name.length + binExt.length := List.length_append
  have hpos : 0 < name.length := List.length_pos_iff.mpr hne
  have hcut : (name ++ binExt).length - binExt.length = name.length := by omega
  unfold binName
  rw [if_neg (by simp [hnot.1, hnot.2]), if_neg (by omega), hcut, if_neg (by simp), List.take_left]

/-- Reconcile recovers a name only from its own file. -/
theorem eq_of_binName {fn name : Bytes} (h : binName fn = some name) :
    fn = name ++ binExt ∧ name ≠ [] ∧ name ≠ logStem := by
  unfold binName at h
  by_cases hlog : fn = logFileName ∨ fn = FileLog.tmpPath logFileName
  · rw [if_pos hlog] at h
    cases h
  rw [if_neg hlog] at h
  by_cases hlen : fn.length ≤ binExt.length
  · rw [if_pos hlen] at h
    cases h
  rw [if_neg hlen] at h
  split_ifs at h with hext
  rw [Option.some.injEq] at h
  rw [not_not] at hext
  have hfn : fn = name ++ binExt := by
    have hsplit := List.take_append_drop (fn.length - binExt.length) fn
    rw [hext, h] at hsplit
    exact hsplit.symm
  refine ⟨hfn, fun hnil => hlen ?_, fun hstem => hlog (.inl ?_)⟩
  · rw [hfn, hnil, List.nil_append]
  · rw [hfn, hstem]
    rfl

/-- A listing of `.tutti` that tells the truth about a disk: every file that is
    directly in the directory, once. The log's own files are skipped by
    reconcile, so nothing is asked about them. -/
structure ListsTutti (mp : MountPath) (d : Disk) (listing : List Bytes) : Prop where
  nodup : listing.Nodup
  mem : ∀ fn, fn ≠ logFileName → fn ≠ FileLog.tmpPath logFileName →
    (fn ∈ listing ↔ fn ≠ [] ∧ slash ∉ fn ∧ 0 ∉ fn ∧ (d.files (leafPath mp fn)).isSome)

end Geminifs.HostStorage
