import Geminifs.Theory.Storage.Isolation

/-!
# A Flush that Returned True

`flush_metadata` persists the directory only if its dirty flag is set, so what
a flush that returned true means rests on one invariant: while the flag is
clear, the directory on disk has the entries of the one in memory (`Tracked`).

Two steps break it. `delete_file` with `persist_now` takes the entry out of
memory and then returns whatever its persist returned, without setting the
flag when that failed; and a bootstrap whose reconcile removed an entry but
could not persist that starts with a clear flag as well. A later flush returns
true and the entry is still on disk (`flush_after_failed_delete`). Every other
step keeps the invariant, so a run without these two has it in every state
(`flush_true_synced`).

Nothing else is asked of the environment, and little of the names: they have
no zero byte, which the log would not keep, and they do not lead to the log
itself, which the disk keeps apart from the files here (`LogSafe`).

## Main definitions

* `SameEntries`: Two directories have the same entries.
* `Tracked`, `Tidy`: The invariant.
* `LogSafe`: A name that the log can hold and that does not lead to it.
* `KeepsTrack`: A step that is not one of the two.

## Theorems

* `tidy_step`: Every other step keeps the invariant.
* `flush_true_synced`: In a run of such steps, a flush that returned true left
  the same entries on disk and in memory.
* `flush_after_failed_delete`: A run with one such delete where it did not.
-/

namespace Geminifs.HostStorage

open Runs

/-- Two directories have the same entries: ids, names, sizes and extents. -/
def SameEntries (l l' : FileLog) : Prop := ∀ e, e ∈ l.entries ↔ e ∈ l'.entries

/-- The disk holds the entries of a directory. -/
def OnDisk (d : Disk) (l : FileLog) : Prop := ∃ l', d.log = some l' ∧ SameEntries l' l

/-- While the dirty flag is clear, the disk holds the entries in memory. -/
structure Tracked (d : Disk) (ds : DeviceState) : Prop where
  log : ds.log.WellFormed
  clean : ds.dirtyUnpersistedLog = false → OnDisk d ds.log

/-- The directories are well formed, and a booted device keeps track. -/
structure Tidy (s : Storage) : Prop where
  disk : ∀ l, s.disk.log = some l → l.WellFormed
  dev : ∀ ds, s.dev = some ds → Tracked s.disk ds

/-- The name has no zero byte and leads neither to the log nor to its temporary
    file. -/
structure LogSafe (mp : MountPath) (name : Bytes) : Prop where
  nulFree : 0 ∉ name
  notLog : place mp name ≠ tuttiPlace mp ++ [logFileName]
  notTmp : place mp name ≠ tuttiPlace mp ++ [FileLog.tmpPath logFileName]

/-- A step after which the dirty flag still tells the truth. Left out are a
    delete that took the file and its entry away and whose own persist fails
    while the flag is clear, and a bootstrap that finds an entry without its
    file and cannot persist the entry's removal. -/
def KeepsTrack (mp : MountPath) (s : Storage) : Op → Prop
  | .createFile name _ _ _ _ => LogSafe mp name
  | .deleteFile id persistNow unlinkOk persistOk =>
    ∀ ds, s.dev = some ds → ds.dirtyUnpersistedLog = false → findFile ds.files id ≠ none →
      unlinkOk = true → persistNow = true → persistOk = true
  | .bootstrap env =>
    ∀ l names, s.dev = none → s.disk.log = some l → env.setupOk = true → env.listing = some names →
      tombstones (binOnDisk mp names) (env.order (logByName l)) ≠ [] → env.persistOk = true
  | _ => True

theorem sameEntries_refl (l : FileLog) : SameEntries l l := fun _ => Iff.rfl

variable {d d' : Disk} {l : FileLog} {ds : DeviceState} {mp : MountPath}

/-- A device with a well-formed directory that the disk was just given. -/
theorem tidy_persist (d : Disk) (hl : l.WellFormed) (hds : ds.log = l) :
    Tidy ⟨d.persist l, some ds⟩ := by
  refine ⟨fun _ hl' => ?_, fun _ hds' => ?_⟩
  · rw [← Option.some.inj hl']
    exact hl
  · rw [← Option.some.inj hds']
    exact ⟨hds.symm ▸ hl, fun _ => hds.symm ▸ ⟨l, rfl, sameEntries_refl l⟩⟩

/-- A step that persists nothing keeps track when it leaves the entries and the
    flag as they are, or sets the flag. -/
theorem tidy_of_log_eq {ds' : DeviceState} (h : Tidy ⟨d, some ds⟩) (hlog : d'.log = d.log)
    (hwf : ds'.log.WellFormed) (hflag : ds'.dirtyUnpersistedLog = false →
      ds.dirtyUnpersistedLog = false ∧ ds'.log.entries = ds.log.entries) : Tidy ⟨d', some ds'⟩ where
  disk := fun l hl => h.disk l (hlog.symm.trans hl)
  dev := by
    intro _ hds''
    rw [← Option.some.inj hds'']
    refine ⟨hwf, fun hclear => ?_⟩
    have hsame := hflag hclear
    rcases (h.dev ds rfl).clean hsame.1 with ⟨k, hk, hlisted⟩
    refine ⟨k, hlog.trans hk, fun e => ?_⟩
    rw [hsame.2]
    exact hlisted e

/-- A call keeps the flag truthful, unless it is a delete that fails to persist:
    every other change of the directory is persisted or sets the flag. -/
theorem tidy_call {ds' : DeviceState} {op : Op} (h : Tidy ⟨d, some ds⟩)
    (hout : CallOutcome mp d ds op d' ds') (htrack : KeepsTrack mp ⟨d, some ds⟩ op) :
    Tidy ⟨d', some ds'⟩ := by
  have hwf := (h.dev ds rfl).log
  cases hout with
  | quiet op d₁ d' ds' hsync hdisk hlog =>
    rcases hdisk with hdisk | hdisk
    · rw [hdisk.1]
      refine tidy_of_log_eq h hsync.log (hlog.symm ▸ hwf) (fun hclear => ⟨?_, by rw [hlog]⟩)
      exact hdisk.2.symm.trans hclear
    · rw [hdisk]
      exact tidy_persist d₁ hwf hlog
  | abandoned name sizeBytes persistNow syncNow env hopens hfails d₁ ds' htouch hlog hflag =>
    have hsame : ds'.log.WellFormed ∧ ds'.log.entries = ds.log.entries := by
      rcases hlog with hlog | hlog
      · rw [hlog]
        exact ⟨hwf, rfl⟩
      · rw [hlog]
        exact ⟨FileLog.wellFormed_nextFileId hwf, rfl⟩
    refine tidy_of_log_eq h ?_ hsame.1 (fun hclear => ⟨hflag ▸ hclear, hsame.2⟩)
    rw [Disk.unlink_log, htouch.log]
  | created name sizeBytes persistNow syncNow env hopens fd map halloc hcommit d₁ ds' htouch hfile
      hsettled hlog hflag hreply =>
      have hspec := createdLog_spec hwf hcommit.short hopens.fresh hlog
      cases persistNow with
      | true => exact tidy_persist d₁ hspec.1 rfl
      | false =>
        refine tidy_of_log_eq h htouch.log hspec.1 (fun hclear => ?_)
        rw [hflag] at hclear
        exact absurd hclear (by simp)
  | removed id persistNow persistOk f hf ds' hlog hflag =>
    have hwf' : ds'.log.WellFormed := hlog.symm ▸ FileLog.wellFormed_remove hwf id
    by_cases hpersist : persistNow = true ∧ persistOk = true
    · rw [if_pos hpersist]
      exact tidy_persist _ hwf' rfl
    · rw [if_neg hpersist]
      refine tidy_of_log_eq h (Disk.unlink_log d _ _) hwf' (fun hclear => ?_)
      -- With the flag clear afterwards, the delete was to persist, and did not fail.
      rw [hflag, Bool.or_eq_false_iff, Bool.not_eq_false'] at hclear
      have hok := htrack ds rfl hclear.1 (by rw [hf]; simp) rfl hclear.2
      exact absurd ⟨hclear.2, hok⟩ hpersist

/-- A bootstrap that loaded a directory starts with a truthful flag, unless it
    could not persist what reconcile removed. -/
theorem tidy_finishBoot (hl : l.WellFormed) (hlog : d.log = some l) (env : BootEnv)
    (hkept : ∀ names, env.listing = some names → env.persistOk = false →
      (swept mp l env names).1 = l) : Tidy (finishBoot mp d l env) := by
  have hwf := (reconcile_wellFormed mp d env hl).1
  -- Either the result was persisted, or the directory loaded is still the one in memory.
  have hsaved : (reconcile mp d l env).1.log = some (reconcile mp d l env).2.1 := by
    rcases reconcile_log mp d hl.indexed env with h | h
    · exact h
    rcases h.2 with hsame | hfail
    · rw [h.1, hlog, hsame]
    rcases hnames : env.listing with _ | names
    · rw [reconcile_unlisted mp d l env hnames]
      exact hlog
    · rw [h.1, hlog, (reconcile_listed mp d l env names hnames).1, hkept names hnames hfail]
  refine ⟨fun l' hl' => ?_, fun ds hds => ?_⟩
  · have heq : (reconcile mp d l env).2.1 = l' := Option.some.inj (hsaved.symm.trans hl')
    exact heq ▸ hwf
  · have heq : bootedWith (reconcile mp d l env).2.1 = ds := Option.some.inj hds
    rw [← heq]
    exact ⟨hwf, fun _ => ⟨_, hsaved, sameEntries_refl _⟩⟩

/-- Every step but the two keeps the flag truthful. -/
theorem tidy_step (s : Storage) (op : Op) (h : Tidy s) (htrack : KeepsTrack mp s op) :
    Tidy (step mp s op) := by
  have hcases := step_cases mp s op (fun ds hds => (h.dev ds hds).log)
  generalize step mp s op = s' at hcases ⊢
  cases hcases with
  | same => exact h
  | call _ _ _ _ _ _ _ hout => exact tidy_call h hout htrack
  | started _ env =>
    -- An empty directory has no entry to lose, whatever order it is visited in.
    refine tidy_finishBoot FileLog.wellFormed_empty rfl env (fun names _ _ => ?_)
    rw [swept, sweepTombstones_empty]
  | loaded _ env hsetup l hlog =>
    refine tidy_finishBoot (h.disk l hlog) hlog env (fun names hnames hfail => ?_)
    have hnone : tombstones (binOnDisk mp names) (env.order (logByName l)) = [] := by
      by_contra hsome
      have hok := htrack l names rfl hlog hsetup hnames hsome
      rw [hok] at hfail
      cases hfail
    rw [swept, hnone]
    rfl
  | shutdown _ _ ds _ persistOk _ hsync =>
    refine ⟨fun l hl => ?_, by simp⟩
    cases persistOk with
    | false => exact h.disk l (hsync.log.symm.trans hl)
    | true => exact Option.some.inj hl ▸ (h.dev ds rfl).log
  | crash => exact ⟨h.disk, by simp⟩

/-- The device is booted and the disk holds the entries in memory. -/
def Flushed (s : Storage) : Prop := ∃ ds, s.dev = some ds ∧ OnDisk s.disk ds.log

/-- In a run of steps that keep track, every flush that returned true left the
    same entries on disk and in memory. -/
theorem flush_true_synced (mp : MountPath) (ops : List Op)
    (hrun : Runs.Along (step mp) (KeepsTrack mp) freshDevice ops) :
    Runs.Along (step mp) (fun s op => ∀ syncOk persistOk, op = .flushMetadata syncOk persistOk →
      reply mp s op = .flag true → Flushed (step mp s op)) freshDevice ops := by
  refine along_of_invariant (I := Tidy) tidy_step ?_ ?_ hrun
  · intro s op hs hop _ _ heq hreply
    have htidy := tidy_step s op hs hop
    rcases s with ⟨d, _ | ds⟩
    · rw [heq] at hreply
      cases hreply
    · subst heq
      exact ⟨_, rfl, (htidy.dev _ rfl).clean (flush_true_flag hreply)⟩
  · refine ⟨fun l hl => absurd hl (by simp [freshDevice, Disk.fresh]), fun _ hds => ?_⟩
    cases hds

/-- A file is created without persisting, and flushed. -/
def bulkCreate : List Op :=
  [.bootstrap (bootOk []),
    .createFile cacheName 4096 false false (createOk [⟨0, 40960, 8192, fiemapExtentLast⟩]),
    .flushMetadata true true]

/-- A plain name does not lead to the log. -/
theorem logSafe_of_plain (mp : MountPath) {name : Bytes} (h : Plain name) : LogSafe mp name := by
  rcases (place_of_plain mp h).1 with ⟨_, hplace, hlog, htmp⟩
  refine ⟨h.noNul, fun heq => hlog ?_, fun heq => htmp ?_⟩
  · exact List.singleton_inj.mp (List.append_inj' (hplace.symm.trans heq) rfl).2
  · exact List.singleton_inj.mp (List.append_inj' (hplace.symm.trans heq) rfl).2

theorem flush_true_synced_bulkCreate : Flushed (run (step mountPoint) freshDevice bulkCreate) := by
  have hplain : Plain cacheName := by decide
  have hrun : Runs.Along (step mountPoint) (KeepsTrack mountPoint) freshDevice bulkCreate := by
    refine ⟨fun l names _ hl => ?_, logSafe_of_plain mountPoint hplain, trivial, trivial⟩
    cases hl
  have hall := flush_true_synced mountPoint bulkCreate hrun
  exact hall.2.2.1 true true rfl (by decide)

/-- A file is created durably, and deleted with a persist that fails. -/
def failedDelete : List Op :=
  [.bootstrap (bootOk []),
    .createFile cacheName 4096 true true (createOk [⟨0, 40960, 8192, fiemapExtentLast⟩]),
    .deleteFile 1 true true false]

/-- After a delete whose persist failed, a flush returns true and the deleted
    file is still listed on disk. -/
theorem flush_after_failed_delete :
    Runs.Along (step mountPoint) (Legal mountPoint) freshDevice failedDelete ∧
      reply mountPoint (run (step mountPoint) freshDevice failedDelete)
        (.flushMetadata true true) = .flag true ∧
      ¬ Flushed (step mountPoint (run (step mountPoint) freshDevice failedDelete)
        (.flushMetadata true true)) := by
  have hplain : Plain cacheName := by decide
  refine ⟨⟨faithful_fresh mountPoint, hplain, trivial, trivial⟩, by decide, fun h => ?_⟩
  rcases h with ⟨ds, hds, l, hl, hsame⟩
  have hmem : (step mountPoint (run (step mountPoint) freshDevice failedDelete)
      (.flushMetadata true true)).dev.map (fun ds => ds.log.entries) = some [] := by decide
  have hdisk : (step mountPoint (run (step mountPoint) freshDevice failedDelete)
      (.flushMetadata true true)).disk.log.map FileLog.entries =
        some [⟨1, cacheName, 4096, [⟨10, 2⟩]⟩] := by decide
  rw [hds, Option.map_some, Option.some.injEq] at hmem
  rw [hl, Option.map_some, Option.some.injEq] at hdisk
  have hlost := (hsame ⟨1, cacheName, 4096, [⟨10, 2⟩]⟩).mp (by rw [hdisk]; simp)
  rw [hmem] at hlost
  cases hlost

end Geminifs.HostStorage
