import Geminifs.Theory.Storage.Invariant

/-!
# Recovery after a Crash

After a crash, bootstrap compares the directory with the files in `.tutti` by
name only. An entry whose name has a file is kept, whatever file that is; so a
recovered directory is right about sizes and extents only if every file that
can be found at an entry's path is the file the entry was made for.

This is an invariant of careful runs (`Consistent`). What breaks it is a name
that the persisted directory still lists and that gets a new file: the name was
deleted without persisting, and is created again without persisting, or by a
create that fails and leaves its file behind. After a crash the old entry is
taken for the new file, and its extents are blocks that are no longer the
file's (`recovers_stale_entry`). A leftover file longer than the new one, or a
size so large that adding the header wraps around, also makes an entry that
does not match its file.

## Main definitions

* `Matches`: An entry records the size and the extents of a file.
* `Agrees`: Every file that may survive at an entry's path matches it.
* `Careful`: A step that gives no new file to a stale entry.
* `Recovered`: A directory that lists exactly the files there are, and is right
  about them.

## Theorems

* `consistent_call`: A careful call keeps both directories right.
* `consistent_step`: Every careful step does.
* `recovered_after_crash`: After a careful run, a crash and a bootstrap, the
  directory is right.
* `recovers_stale_entry`: A run that is not careful, and a directory that is
  wrong.
-/

namespace Geminifs.HostStorage

open Runs Function

variable {mp : MountPath} {d : Disk} {l : FileLog}

/-- An entry records the size and the extents of a file: the file has a header
    in front of the bytes the entry counts. -/
structure Matches (e : Entry) (ino : Inode) : Prop where
  size : ino.len = nvmeFileHeaderSize.toNat + e.sizeBytes.toNat
  extents : e.extents = ino.lbaExtents

/-- Every file that may survive at an entry's path matches the entry. -/
def Agrees (mp : MountPath) (d : Disk) (l : FileLog) : Prop :=
  ∀ e ∈ l.entries, ∀ ino, some ino ∈ d.survivors (hostPath mp e.name) → Matches e ino

/-- Both directories agree with what may survive. -/
structure Consistent (mp : MountPath) (s : Storage) : Prop where
  disk : ∀ l, s.disk.log = some l → Agrees mp s.disk l
  dev : ∀ ds, s.dev = some ds → Agrees mp s.disk ds.log

/-- A step that gives no new file to a stale entry. A create that opens its file
    under a name the persisted directory lists has to persist, and to succeed;
    and one that succeeds makes a file of just the size it records. -/
def Careful (mp : MountPath) (s : Storage) : Op → Prop
  | .createFile name sizeBytes persistNow syncNow env =>
    ∀ ds, s.dev = some ds → Opens ds name sizeBytes env →
      ((∃ l, s.disk.log = some l ∧ ∃ e ∈ l.entries, e.name = name) →
        persistNow = true ∧ env.Completes name sizeBytes persistNow syncNow) ∧
      (env.Completes name sizeBytes persistNow syncNow →
        nvmeFileHeaderSize.toNat + sizeBytes.toNat < 2 ^ 64 ∧
          ∀ ino, s.disk.files (hostPath mp name) = some ino →
            ino.len ≤ nvmeFileHeaderSize.toNat + sizeBytes.toNat)
  | _ => True

/-- Fewer entries and fewer files that may survive agree as well. -/
theorem agrees_mono {d' : Disk} {l' : FileLog} (h : Agrees mp d l)
    (hsurvivors : ∀ p ino, some ino ∈ d'.survivors p → some ino ∈ d.survivors p)
    (hentries : ∀ e ∈ l'.entries, e ∈ l.entries) : Agrees mp d' l' :=
  fun e he ino hino => h e (hentries e he) ino (hsurvivors _ ino hino)

/-- A change at the path of a name that no entry has. -/
theorem agrees_elsewhere {d' : Disk} {name : Bytes} (hplain : Plain name) (h : Agrees mp d l)
    (ht : Disk.Touches (cStr (hostPath mp name)) d d') (hname : ∀ e ∈ l.entries, e.name ≠ name) :
    Agrees mp d' l := by
  intro e he ino hino
  rw [cStr_hostPath mp name hplain.noNul] at ht
  rw [ht.survivors _ (fun heq => hname e he (hostPath_injective mp heq))] at hino
  exact h e he ino hino

/-- The file of a create that succeeds matches its entry, if the sum of header
    and size does not wrap around and no longer file was there. -/
theorem matches_created {name : Bytes} {sizeBytes : UInt64} {syncNow : Bool} {env : CreateEnv}
    {fd : Nat} {map : List FiemapExtent} {before : Option Inode}
    (halloc : env.Allocates sizeBytes syncNow fd map)
    (hwrap : nvmeFileHeaderSize.toNat + sizeBytes.toNat < 2 ^ 64)
    (hshort : ∀ ino, before = some ino → ino.len ≤ nvmeFileHeaderSize.toNat + sizeBytes.toNat) :
    Matches (createdEntry l name sizeBytes (recordedExtents env fd map))
      (createdInode before sizeBytes map) := by
  have htotal : (totalBytes sizeBytes).toNat = nvmeFileHeaderSize.toNat + sizeBytes.toNat := by
    unfold totalBytes
    rw [UInt64.toNat_add, Nat.mod_eq_of_lt hwrap]
  refine ⟨?_, recordedExtents_eq halloc _⟩
  unfold createdInode
  rw [htotal]
  rcases before with _ | ino
  · exact Nat.max_eq_right (Nat.zero_le _)
  · exact Nat.max_eq_right (hshort ino rfl)

/-- A careful call keeps both directories in agreement with the disk. -/
theorem consistent_call {d' : Disk} {ds ds' : DeviceState} {op : Op} (hinv : Inv mp ⟨d, some ds⟩)
    (h : Consistent mp ⟨d, some ds⟩) (hlegal : Legal mp ⟨d, some ds⟩ op)
    (hcareful : Careful mp ⟨d, some ds⟩ op) (hout : CallOutcome mp d ds op d' ds') :
    Consistent mp ⟨d', some ds'⟩ := by
  have hs := hinv.dev ds rfl
  have hmem : Agrees mp d ds.log := h.dev ds rfl
  -- Enough: the new directory in memory agrees, and so does the old one on disk
  -- unless it was replaced.
  suffices hnew : Agrees mp d' ds'.log ∧
      (d'.log = some ds'.log ∨ ∀ l, d'.log = some l → Agrees mp d' l) by
    refine ⟨fun l hl => ?_, fun _ hds₁ => Option.some.inj hds₁ ▸ hnew.1⟩
    rcases hnew.2 with hlog | hlog
    · exact Option.some.inj (hlog.symm.trans hl) ▸ hnew.1
    · exact hlog l hl
  cases hout with
  | quiet _ d₁ _ ds' hsync hdisk hlog =>
    have hfewer : ∀ p ino, some ino ∈ d₁.survivors p → some ino ∈ d.survivors p :=
      fun p ino => hsync.subset hinv.disk.current p _
    have hmem' : Agrees mp d₁ ds'.log := agrees_mono hmem hfewer (fun e he => hlog ▸ he)
    rcases hdisk with hdisk | hdisk
    · rw [hdisk.1]
      refine ⟨hmem', .inr (fun l hl => ?_)⟩
      exact agrees_mono (h.disk l (hsync.log.symm.trans hl)) hfewer (fun e he => he)
    · rw [hdisk, ← hlog]
      exact ⟨hmem', .inl rfl⟩
  | abandoned _ _ _ _ env hopens hfails d₁ _ htouch hlog =>
    have ht := htouch.trans (Disk.touches_unlink d₁ _ env.unlinkOk)
    refine ⟨?_, .inr (fun l hl => ?_)⟩
    · have hsame := agrees_elsewhere hlegal hmem ht hopens.fresh
      exact agrees_mono hsame (fun p ino hino => hino)
        (fun e he => entries_of_drawn hlog ▸ he)
    · have hl' : d.log = some l := ht.log.symm.trans hl
      refine agrees_elsewhere hlegal (h.disk l hl') ht (fun e he heq => ?_)
      exact hfails ((hcareful ds rfl hopens).1 ⟨l, hl', e, he, heq⟩).2
  | created name sizeBytes persistNow _ env hopens fd map halloc hcommit d₁ ds' htouch hfile
      hsettled hlog =>
      have hplain : Plain name := hlegal
      have hspec := createdLog_spec hs.log.wf hcommit.short hopens.fresh hlog
      have hok := (hcareful ds rfl hopens).2 ⟨fd, map, halloc, hcommit⟩
      have hpath := cStr_hostPath mp name hplain.noNul
      have hmem' : Agrees mp d₁ ds'.log := by
        intro e he ino hino
        rw [hspec.2.2] at he
        rcases List.mem_append.mp he with he | he
        · exact agrees_elsewhere hplain hmem htouch hopens.fresh e he ino hino
        · -- The new file is all that can be found at the new entry's path.
          rw [List.mem_singleton.mp he] at hino ⊢
          have hone : d₁.survivors (hostPath mp name) =
              [some (createdInode (d.files (hostPath mp name)) sizeBytes map)] := by
            rw [hpath] at hsettled hfile
            rw [hsettled, hfile]
          have hino' : some ino ∈ d₁.survivors (hostPath mp name) := hino
          rw [hone, List.mem_singleton, Option.some.injEq] at hino'
          rw [hino']
          exact matches_created halloc hok.1 hok.2
      cases persistNow with
      | true => exact ⟨hmem', .inl rfl⟩
      | false =>
        refine ⟨hmem', .inr (fun l hl => ?_)⟩
        have hl' : d.log = some l := htouch.log.symm.trans hl
        refine agrees_elsewhere hplain (h.disk l hl') htouch (fun e he heq => ?_)
        have hnow := ((hcareful ds rfl hopens).1 ⟨l, hl', e, he, heq⟩).1
        cases hnow
  | removed id persistNow persistOk f _ ds' hlog =>
    have hfewer : ∀ p ino, some ino ∈ (d.unlink (cStr f.hostPath) true).survivors p →
        some ino ∈ d.survivors p := by
      intro p _ hino
      rcases Disk.mem_unlink_survivors d _ p true _ hino with hnone | hold
      · cases hnone
      · exact hold
    have hmem' : Agrees mp (d.unlink (cStr f.hostPath) true) ds'.log := by
      refine agrees_mono hmem hfewer (fun e he => ?_)
      rw [hlog] at he
      exact ((FileLog.mem_remove hs.log.wf.indexed id e).mp he).1
    by_cases hpersist : persistNow = true ∧ persistOk = true
    · rw [if_pos hpersist]
      exact ⟨hmem', .inl rfl⟩
    · rw [if_neg hpersist]
      refine ⟨hmem', .inr (fun l hl => ?_)⟩
      exact agrees_mono (h.disk l hl) hfewer (fun e he => he)

/-- A directory that agrees with the disk still does after reconcile, and so
    does the one on disk. -/
theorem consistent_finishBoot (hl : DirOk l) (h : Agrees mp d l)
    (hdisk : ∀ l', d.log = some l' → Agrees mp d l') (env : BootEnv) :
    Consistent mp (finishBoot mp d l env) := by
  have hfewer : ∀ p ino, some ino ∈ (reconcile mp d l env).1.survivors p →
      some ino ∈ d.survivors p := by
    intro p _ hino
    rcases reconcile_survivors mp d env p _ hino with hnone | hold
    · cases hnone
    · exact hold
  have hmem : Agrees mp (reconcile mp d l env).1 (reconcile mp d l env).2.1 :=
    agrees_mono h hfewer (reconcile_wellFormed mp d env hl.wf).2
  refine ⟨fun l' hl' => ?_, fun ds hds => ?_⟩
  · rcases reconcile_log mp d hl.wf.indexed env with hlog | hlog
    · exact Option.some.inj (hlog.symm.trans hl') ▸ hmem
    · exact agrees_mono (hdisk l' (hlog.1.symm.trans hl')) hfewer (fun e he => he)
  · have heq : bootedWith (reconcile mp d l env).2.1 = ds := Option.some.inj hds
    rw [← heq]
    exact hmem

theorem agrees_empty (mp : MountPath) (d : Disk) : Agrees mp d .empty :=
  nofun

/-- Every careful step keeps both directories in agreement with the disk. -/
theorem consistent_step (s : Storage) (op : Op) (h : Inv mp s ∧ Consistent mp s)
    (hop : Legal mp s op ∧ Careful mp s op) :
    Inv mp (step mp s op) ∧ Consistent mp (step mp s op) := by
  refine ⟨inv_step s op h.1 hop.1, ?_⟩
  have hcases := step_cases mp s op (fun ds hds => (h.1.dev ds hds).log.wf)
  generalize step mp s op = s' at hcases ⊢
  cases hcases with
  | same => exact h.2
  | call _ _ _ _ _ _ _ hout => exact consistent_call h.1 h.2 hop.1 hop.2 hout
  | started _ env =>
    refine consistent_finishBoot dirOk_empty (agrees_empty mp _) (fun _ hl' => ?_) env
    rw [← Option.some.inj hl']
    exact agrees_empty mp _
  | loaded _ env _ l hlog =>
    exact consistent_finishBoot (h.1.disk.log l hlog) (h.2.disk l hlog) h.2.disk env
  | shutdown _ _ ds _ persistOk _ hsync =>
    -- Syncing only narrows down what may survive.
    have hfewer := fun p ino => hsync.subset h.1.disk.current p (some ino)
    refine ⟨fun l hl => ?_, nofun⟩
    cases persistOk with
    | false =>
      exact agrees_mono (h.2.disk l (hsync.log.symm.trans hl)) hfewer (fun e he => he)
    | true =>
      rw [← Option.some.inj hl]
      exact agrees_mono (h.2.dev ds rfl) hfewer (fun e he => he)
  | crash =>
    refine ⟨fun l hl => ?_, nofun⟩
    refine agrees_mono (h.2.disk l hl) (fun p _ hino => ?_) (fun e he => he)
    rw [List.mem_singleton.mp hino]
    exact hop.1 p

/-- A directory that lists exactly the files there are, with their sizes and
    extents. -/
structure Recovered (mp : MountPath) (d : Disk) (l : FileLog) : Prop where
  listed : ListsExactly mp d l
  agree : ∀ e ∈ l.entries, ∀ ino, d.files (hostPath mp e.name) = some ino → Matches e ino

/-- Reconcile, with a truthful listing and unlinks that succeed, recovers from a
    directory that agrees with the disk. -/
theorem recovered_reconcile (hd : DiskOk mp d) (hl : DirOk l) (h : Agrees mp d l) {env : BootEnv}
    (henv : env.Faithful mp d) {names : List Bytes} (hnames : env.listing = some names)
    (hunlink : ∀ n, env.unlinkOk n = true) :
    Recovered mp (reconcile mp d l env).1 (reconcile mp d l env).2.1 := by
  have hmem := reconcile_mem mp d hl.wf.indexed env henv hl.stem names hnames
  have hfile := reconcile_of_entry mp d hl.wf.indexed env henv
  have hstems := stemsListed_reconcile mp d hl.wf.indexed env henv hl.stem names hnames hunlink
  refine ⟨fun p => ⟨fun hp => ?_, fun hp => ?_⟩, fun e he ino hino => ?_⟩
  · -- A file that is left is a plain name's.
    rcases Option.isSome_iff_exists.mp hp with ⟨ino, hino⟩
    have hcur := reconcile_current mp d (l := l) env hd.current p
    rw [hino] at hcur
    have hold := (reconcile_survivors mp d env p _ hcur).resolve_left (Option.some_ne_none ino)
    rcases hd.paths p ino hold with ⟨name, hplain, rfl⟩
    rcases (hstems name hplain.stem).mp hp with ⟨e, he, rfl⟩
    exact ⟨e, he, rfl⟩
  · rcases hp with ⟨e, he, rfl⟩
    exact (hstems e.name (hl.stem e ((hmem e).mp he).1)).mpr ⟨e, he, rfl⟩
  · have hold := (hmem e).mp he
    rw [hfile e hold.1] at hino
    exact h e hold.1 ino (hino ▸ hd.current _)

theorem consistent_fresh (mp : MountPath) : Consistent mp freshDevice :=
  ⟨fun _ hl => absurd hl (by simp [freshDevice, Disk.fresh]),
    fun _ hds => absurd hds (by simp [freshDevice])⟩

/-- After a run of careful steps, a crash that leaves what may survive, and a
    bootstrap that lists `.tutti`, unlinks its ghosts and returns true, the
    directory lists exactly the files there are, with their sizes and
    extents. -/
theorem recovered_after_crash (mp : MountPath) (ops : List Op)
    (hrun : Runs.Along (step mp) (fun s op => Legal mp s op ∧ Careful mp s op) freshDevice ops)
    (pick : Bytes → Option Inode)
    (hpick : ∀ p, pick p ∈ (run (step mp) freshDevice ops).disk.survivors p)
    (env : BootEnv)
    (henv : env.Faithful mp ((run (step mp) freshDevice ops).disk.crash pick))
    (hlisting : env.listing ≠ none) (hunlink : ∀ n, env.unlinkOk n = true)
    (hboot : reply mp (step mp (run (step mp) freshDevice ops) (.crash pick))
      (.bootstrap env) = .flag true) :
    ∃ ds, (step mp (step mp (run (step mp) freshDevice ops) (.crash pick))
        (.bootstrap env)).dev = some ds ∧
      Recovered mp (step mp (step mp (run (step mp) freshDevice ops) (.crash pick))
        (.bootstrap env)).disk ds.log := by
  have hrunInv := run_invariant consistent_step ⟨inv_fresh mp, consistent_fresh mp⟩ hrun
  generalize run (step mp) freshDevice ops = s at hrunInv hpick henv hboot ⊢
  -- The crash is one more careful step.
  have hcrashed := consistent_step s (.crash pick) hrunInv ⟨hpick, trivial⟩
  rcases Option.ne_none_iff_exists'.mp hlisting with ⟨_, hnames⟩
  rcases boot_after_crash s pick env hboot with ⟨d, l, hstep, hload, hinit⟩
  rw [hstep]
  refine ⟨_, rfl, ?_⟩
  rcases hlog : s.disk.log with _ | l'
  · rcases hinit hlog with ⟨rfl, rfl⟩
    exact recovered_reconcile (diskOk_persist hcrashed.1.disk dirOk_empty) dirOk_empty
      (agrees_empty mp _) (faithful_persist henv .empty) hnames hunlink
  · rcases hload l' hlog with ⟨rfl, rfl⟩
    exact recovered_reconcile hcrashed.1.disk (hcrashed.1.disk.log l hlog)
      (hcrashed.2.disk l hlog) henv hnames hunlink

theorem recovered_after_crash_firstFile :
    ∃ ds, (step mountPoint (step mountPoint (run (step mountPoint) freshDevice firstFile)
        (.crash (run (step mountPoint) freshDevice firstFile).disk.files))
        (.bootstrap (bootOk [cacheName ++ binExt]))).dev = some ds ∧
      Recovered mountPoint (step mountPoint
        (step mountPoint (run (step mountPoint) freshDevice firstFile)
          (.crash (run (step mountPoint) freshDevice firstFile).disk.files))
        (.bootstrap (bootOk [cacheName ++ binExt]))).disk ds.log := by
  have hcache : Plain cacheName := by decide
  have hnofile : (step mountPoint freshDevice (.bootstrap (bootOk []))).disk.files
      (hostPath mountPoint cacheName) = none := rfl
  have hrun : Runs.Along (step mountPoint)
      (fun s op => Legal mountPoint s op ∧ Careful mountPoint s op) freshDevice firstFile := by
    refine ⟨⟨faithful_fresh mountPoint, trivial⟩, ⟨hcache, fun _ _ _ => ⟨fun _ => ?_, fun _ => ?_⟩⟩,
      trivial⟩
    · exact ⟨rfl, 3, _, ⟨rfl, rfl, by decide, by decide, fun _ => rfl, by decide⟩, rfl,
        by decide, fun _ => rfl⟩
    · refine ⟨by decide, fun _ hino => ?_⟩
      exact absurd (hnofile.symm.trans hino) (by simp)
  have hlegal := along_mono (fun s _ hop => And.left hop) hrun
  exact recovered_after_crash mountPoint firstFile hrun _
    (inv_run mountPoint firstFile hlegal).disk.current (bootOk [cacheName ++ binExt])
    (faithful_single mountPoint hcache firstFile_files) (by simp [bootOk]) (fun _ => rfl)
    (by decide)

/-- The file is deleted without persisting, and created again without
    persisting, with another size and other extents. -/
def recreated : List Op :=
  firstFile ++ [.deleteFile 1 false true true,
    .createFile cacheName 8192 false true (createOk [⟨0, 819200, 12288, fiemapExtentLast⟩])]

/-- Then the machine crashes, nothing is lost, and the device is booted with
    calls that all succeed. -/
def staleRecovery : List Op :=
  recreated ++ [.crash (run (step mountPoint) freshDevice recreated).disk.files,
    .bootstrap (bootOk [cacheName ++ binExt])]

theorem recreated_files (p : Bytes) :
    ((run (step mountPoint) freshDevice recreated).disk.files p).isSome ↔
      p = hostPath mountPoint cacheName := by
  have hfiles : (run (step mountPoint) freshDevice recreated).disk.files = update (update (update
        (run (step mountPoint) freshDevice firstFile).disk.files
        (hostPath mountPoint cacheName) none)
        (hostPath mountPoint cacheName) (some ⟨0, []⟩))
        (hostPath mountPoint cacheName)
          (some ⟨12288, [⟨0, 819200, 12288, fiemapExtentLast⟩]⟩) := rfl
  rw [hfiles]
  refine isSome_update_iff (fun q hq => ?_) _ p
  rw [update_of_ne hq, update_of_ne hq]
  by_contra hsome
  exact hq ((firstFile_files q).mp (Option.isSome_iff_ne_none.mpr hsome))

/-- The old entry then stands for the new file: its size is not the file's, and
    its extents are blocks the file does not have. -/
theorem recovers_stale_entry :
    Runs.Along (step mountPoint) (Legal mountPoint) freshDevice staleRecovery ∧
    (run (step mountPoint) freshDevice staleRecovery).dev.map (fun ds => ds.log.entries) =
      some [⟨1, cacheName, 4096, [⟨10, 2⟩]⟩] ∧
    (run (step mountPoint) freshDevice staleRecovery).disk.files (hostPath mountPoint cacheName) =
      some ⟨12288, [⟨0, 819200, 12288, fiemapExtentLast⟩]⟩ ∧
    ¬ Matches ⟨1, cacheName, 4096, [⟨10, 2⟩]⟩
      ⟨12288, [⟨0, 819200, 12288, fiemapExtentLast⟩]⟩ := by
  have hcache : Plain cacheName := by decide
  have hcalls : Runs.Along (step mountPoint) (Legal mountPoint) freshDevice recreated :=
    ⟨faithful_fresh mountPoint, hcache, trivial, hcache, trivial⟩
  refine ⟨?_, by decide, by decide, fun h => absurd h.size (by decide)⟩
  unfold staleRecovery
  rw [along_append]
  refine ⟨hcalls, (inv_run mountPoint recreated hcalls).disk.current, ?_, trivial⟩
  exact faithful_single mountPoint hcache recreated_files

end Geminifs.HostStorage
