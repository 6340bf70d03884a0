import Geminifs.Theory.Storage.Directory

/-!
# Calls That Fail

What a failed call leaves behind. A create that returns null has undone all it
did, at whichever of its seven calls it failed: only an id is used up. A delete
that returns false has kept the file if its `unlink` failed. If it was the
persist that failed, the file and its entry are gone all the same.

## Main definitions

* `SameDirectory`: Nothing of the directory, the handles or the files changed.
* `Remains`: A file is listed, has its `.bin` file and can be opened.

## Theorems

* `failed_create`: A create that returns null changes nothing of these.
* `failed_delete_keeps_iff`: When a delete that returns false keeps the file.
-/

namespace Geminifs.HostStorage

open Runs

/-- A booted device shows what it showed before: the entries in order, the name
    index, the handles, the files, and the directory on disk. -/
structure SameDirectory (d : Disk) (ds : DeviceState) (s : Storage) : Prop where
  dev : ∃ ds', s.dev = some ds' ∧ ds'.log.entries = ds.log.entries ∧
    ds'.log.nameToIndex = ds.log.nameToIndex ∧ ds'.files = ds.files
  files : s.disk.files = d.files
  log : s.disk.log = d.log

/-- A file that is made where there was none and unlinked again leaves the files
    as they were. -/
theorem unlink_touched {d d' : Disk} {p : Bytes} (hfile : d.files p = none)
    (htouch : Disk.Touches p d d') : (d'.unlink p true).files = d.files := by
  funext q
  by_cases hq : q = p
  · rw [hq, Disk.unlink_self, hfile]
  · rw [(Disk.unlink_of_ne d' true hq).1, htouch.files q hq]

/-- A create that returns null leaves everything as it was, if its name had no
    file and the `unlink` succeeds. -/
theorem failed_create (mp : MountPath) (ops : List Op) (ds : DeviceState)
    (hdev : (run (step mp) freshDevice ops).dev = some ds) (name : Bytes) (sizeBytes : UInt64)
    (persistNow syncNow : Bool) (env : CreateEnv)
    (hfile : (run (step mp) freshDevice ops).disk.files (cStr (hostPath mp name)) = none)
    (hunlink : env.unlinkOk = true)
    (hnull : reply mp (run (step mp) freshDevice ops)
      (.createFile name sizeBytes persistNow syncNow env) = .file none) :
    SameDirectory (run (step mp) freshDevice ops).disk ds
      (step mp (run (step mp) freshDevice ops)
        (.createFile name sizeBytes persistNow syncNow env)) := by
  have hwf := ((storage_run mp ops).dev ds hdev).log.wf
  rcases hs : run (step mp) freshDevice ops with ⟨d, dev⟩
  rw [hs] at hdev hfile hnull
  cases hdev
  have hcases := createFileLocked_cases mp d ds hwf name sizeBytes persistNow syncNow env
  simp only [reply, step, exec] at hnull ⊢
  generalize createFileLocked mp d ds name sizeBytes persistNow syncNow env = r
    at hcases hnull ⊢
  cases hcases with
  | refused => exact ⟨⟨ds, rfl, rfl, rfl, rfl⟩, rfl, rfl⟩
  | abandoned hopens hfails d' s' htouch hlog hfiles =>
    rw [hunlink]
    refine ⟨⟨s', rfl, entries_of_drawn hlog, ?_, hfiles⟩, unlink_touched hfile htouch, ?_⟩
    · -- Drawing an id leaves the index alone.
      rcases hlog with h | h
      · rw [h]
      · rw [h]
        rfl
    · rw [Disk.unlink_log, htouch.log]
  | created => cases hnull

/-- The header of a second file cannot be written. -/
theorem failed_create_firstFile :
    SameDirectory (run (step mountPoint) freshDevice firstFile).disk firstState
      (step mountPoint (run (step mountPoint) freshDevice firstFile)
        (.createFile spareName 4096 true true
          { createOk [⟨0, 81920, 8192, fiemapExtentLast⟩] with pwriteOk := false })) :=
  failed_create mountPoint firstFile firstState firstFile_dev spareName 4096 true true _
    (by decide) rfl rfl

/-- A file is listed, has its `.bin` file, and can be opened. -/
structure Remains (mp : MountPath) (name : Bytes) (d : Disk) (ds : DeviceState) : Prop where
  listed : ∃ e ∈ ds.log.entries, e.name = name
  file : (d.files (cStr (hostPath mp name))).isSome
  opens : ∀ fd, (openFile mp ds name (some fd)).2 ≠ none

/-- A delete of a file that returns false keeps it, unless the file was
    unlinked and the persist failed. -/
theorem failed_delete_keeps_iff (mp : MountPath) (ops : List Op) (ds : DeviceState)
    (hdev : (run (step mp) freshDevice ops).dev = some ds) (f : NvmeFile) (hf : f ∈ ds.files)
    (hfile : ((run (step mp) freshDevice ops).disk.files (cStr f.hostPath)).isSome)
    (persistNow unlinkOk persistOk : Bool) :
    let r := deleteFile (run (step mp) freshDevice ops).disk ds f.id persistNow unlinkOk persistOk
    (r.2.2 = false → Remains mp f.name r.1 r.2.1) ↔
      ¬ (unlinkOk = true ∧ persistNow = true ∧ persistOk = false) := by
  have hds := (storage_run mp ops).dev ds hdev
  generalize (run (step mp) freshDevice ops).disk = d at hfile ⊢
  have hnext := devOf_delete tableRule_ids d hds f.id persistNow unlinkOk persistOk
  have hcases := deleteFile_cases d ds f.id persistNow unlinkOk persistOk
  intro r
  change DeleteOutcome d ds f.id persistNow unlinkOk persistOk r at hcases
  change DevOf mp _ _ r.2.1 at hnext
  generalize r = r at hcases hnext ⊢
  cases hcases with
  | missing h => exact absurd (List.find?_eq_none.mp h f hf) (by simp)
  | kept g hg hunlink =>
    refine iff_of_true (fun _ => ?_) (fun h => by simp [hunlink] at h)
    have he := (hds.handles f hf).1
    exact ⟨⟨_, he, rfl⟩, (hds.handles f hf).2 ▸ hfile, hnext.open_ne_none he⟩
  | removed g hg hunlink =>
    -- The entry is gone, so this is a return of true or the file is lost.
    have hlost : ¬ ∃ e ∈ (ds.log.remove f.id).1.entries, e.name = f.name := by
      rintro ⟨e, he, hname⟩
      exact hds.remove_gone hf e he hname
    refine ⟨fun h hc => hlost (h ?_).listed, fun h hret => (h ⟨hunlink, ?_⟩).elim⟩
    · simp [hc]
    · simpa using hret

theorem failed_delete_keeps_iff_firstFile :
    let r := deleteFile (run (step mountPoint) freshDevice firstFile).disk firstState 1 true false
      true
    r.2.2 = false ∧ Remains mountPoint cacheName r.1 r.2.1 :=
  ⟨by decide, (failed_delete_keeps_iff mountPoint firstFile firstState firstFile_dev firstHandle
    List.mem_cons_self (by decide) true false true).mpr (by decide) (by decide)⟩

/-- A delete of the file just created returns false because the persist fails, and the
    file is neither listed nor on disk. -/
theorem failed_delete_loses_file :
    reply mountPoint (run (step mountPoint) freshDevice firstFile) (.deleteFile 1 true true false) =
        .flag false ∧
      (step mountPoint (run (step mountPoint) freshDevice firstFile)
        (.deleteFile 1 true true false)).dev.map (fun ds => ds.log.entries) = some [] ∧
      (step mountPoint (run (step mountPoint) freshDevice firstFile)
        (.deleteFile 1 true true false)).disk.files (hostPath mountPoint cacheName) = none := by
  decide

end Geminifs.HostStorage
