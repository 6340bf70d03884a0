import Geminifs.Theory.Storage.Create
import Geminifs.Theory.Storage.Operations
import Geminifs.Core.Bootstrap

/-!
# What a Call Does

The five calls on a booted device, seen from the directory and the disk. A call
that adds and removes no entry is quiet: it may sync files and persist the
directory as it is. A create that opened its file and then failed takes the
file away again, or tries to. Otherwise an entry was added or removed.

Every invariant of a whole run is checked against these four cases.

## Main definitions

* `Op.IsCall`: The calls, as opposed to bootstrap, shutdown and crashes.
* `CallOutcome`: The four cases.
* `StepOutcome`: What a step does.

## Theorems

* `call_cases`, `step_cases`: Every call is one of them, and what a step does.
* `CallOutcome.log`: A call leaves the persisted directory alone, or persists
  the one in memory.
* `flush_true_flag`: A flush that returned true leaves the dirty flag clear.
-/

namespace Geminifs.HostStorage

/-- The operations a client calls while a device is booted. -/
def Op.IsCall : Op → Prop
  | .bootstrap _ => False
  | .shutdown _ _ _ => False
  | .crash _ => False
  | _ => True

/-- What a call does to the disk and the state of a booted device. -/
inductive CallOutcome (mp : MountPath) (d : Disk) (ds : DeviceState) :
    Op → Disk → DeviceState → Prop
  | quiet (op : Op) (d₁ d' : Disk) (ds' : DeviceState) (hsync : Disk.Syncs d d₁)
      (hdisk : (d' = d₁ ∧ ds'.dirtyUnpersistedLog = ds.dirtyUnpersistedLog) ∨
        d' = d₁.persist ds.log) (hlog : ds'.log = ds.log) :
      CallOutcome mp d ds op d' ds'
  | abandoned (name : Bytes) (sizeBytes : UInt64) (persistNow syncNow : Bool) (env : CreateEnv)
      (hopens : Opens ds name sizeBytes env)
      (hfails : ¬ env.Completes name sizeBytes persistNow syncNow) (d₁ : Disk) (ds' : DeviceState)
      (htouch : Disk.Touches (cStr (hostPath mp name)) d d₁)
      (hlog : ds'.log = ds.log ∨ ds'.log = ds.log.nextFileId.2)
      (hflag : ds'.dirtyUnpersistedLog = ds.dirtyUnpersistedLog) :
      CallOutcome mp d ds (.createFile name sizeBytes persistNow syncNow env)
        (d₁.unlink (cStr (hostPath mp name)) env.unlinkOk) ds'
  | created (name : Bytes) (sizeBytes : UInt64) (persistNow syncNow : Bool) (env : CreateEnv)
      (hopens : Opens ds name sizeBytes env) (fd : Nat) (map : List FiemapExtent)
      (halloc : env.Allocates sizeBytes syncNow fd map) (hcommit : env.Commits name persistNow)
      (d₁ : Disk) (ds' : DeviceState) (htouch : Disk.Touches (cStr (hostPath mp name)) d d₁)
      (hfile : d₁.files (cStr (hostPath mp name)) =
        some (createdInode (d.files (cStr (hostPath mp name))) sizeBytes map))
      (hsettled : d₁.Settled (cStr (hostPath mp name)))
      (hlog : ds'.log = createdLog ds.log name sizeBytes (recordedExtents env fd map))
      (hflag : ds'.dirtyUnpersistedLog = (ds.dirtyUnpersistedLog || !persistNow))
      (hreply : reply mp ⟨d, some ds⟩ (.createFile name sizeBytes persistNow syncNow env) =
        .file (some (createdFile ds.log name sizeBytes (recordedExtents env fd map) fd
          (hostPath mp name)))) :
      CallOutcome mp d ds (.createFile name sizeBytes persistNow syncNow env)
        (if persistNow then d₁.persist ds'.log else d₁) ds'
  | removed (id : Nat) (persistNow persistOk : Bool) (f : NvmeFile)
      (hf : findFile ds.files id = some f) (ds' : DeviceState)
      (hlog : ds'.log = (ds.log.remove id).1)
      (hflag : ds'.dirtyUnpersistedLog = (ds.dirtyUnpersistedLog || !persistNow)) :
      CallOutcome mp d ds (.deleteFile id persistNow true persistOk)
        (if persistNow ∧ persistOk then (d.unlink (cStr f.hostPath) true).persist ds'.log
          else d.unlink (cStr f.hostPath) true) ds'

/-- Drawing an id, or not, changes no entry. -/
theorem entries_of_drawn {l l' : FileLog} (h : l' = l ∨ l' = l.nextFileId.2) :
    l'.entries = l.entries := by
  rcases h with h | h
  · rw [h]
  · rw [h]
    rfl

/-- A call that changes neither the disk, the directory nor the flag. -/
theorem CallOutcome.unchanged (mp : MountPath) (d : Disk) (ds : DeviceState) (op : Op)
    {ds' : DeviceState} (hlog : ds'.log = ds.log)
    (hflag : ds'.dirtyUnpersistedLog = ds.dirtyUnpersistedLog) : CallOutcome mp d ds op d ds' :=
  .quiet op d d ds' (Disk.Syncs.refl d) (.inl ⟨rfl, hflag⟩) hlog

section

variable (mp : MountPath) (d : Disk) {ds : DeviceState}

theorem create_call (hl : ds.log.WellFormed) (name : Bytes) (sizeBytes : UInt64)
    (persistNow syncNow : Bool) (env : CreateEnv) :
    CallOutcome mp d ds (.createFile name sizeBytes persistNow syncNow env)
      (createFileLocked mp d ds name sizeBytes persistNow syncNow env).1
      (createFileLocked mp d ds name sizeBytes persistNow syncNow env).2.1 := by
  have hcases := createFileLocked_cases mp d ds hl name sizeBytes persistNow syncNow env
  have hreply : reply mp ⟨d, some ds⟩ (.createFile name sizeBytes persistNow syncNow env) =
      .file (createFileLocked mp d ds name sizeBytes persistNow syncNow env).2.2 := rfl
  generalize createFileLocked mp d ds name sizeBytes persistNow syncNow env = r
    at hcases hreply ⊢
  cases hcases with
  | refused => exact .unchanged mp d ds _ rfl rfl
  | abandoned hopens hfails d' s' htouch hlog _ hdirty =>
    exact .abandoned name sizeBytes persistNow syncNow env hopens hfails d' s' htouch hlog hdirty
  | created hopens fd map halloc hcommit d' s' htouch hfile hsettled hlog _ hdirty =>
    have hnew : (createdState s' name sizeBytes (recordedExtents env fd map) persistNow fd
        (hostPath mp name)).log =
          createdLog ds.log name sizeBytes (recordedExtents env fd map) := by
      simp only [createdState, hlog]
    have hout := CallOutcome.created name sizeBytes persistNow syncNow env hopens fd map halloc
      hcommit d' (createdState s' name sizeBytes (recordedExtents env fd map) persistNow fd
        (hostPath mp name)) htouch hfile hsettled hnew (by simp only [createdState, hdirty])
      hreply
    rwa [hnew] at hout

theorem open_call (name : Bytes) (openFd : Option Nat) :
    CallOutcome mp d ds (.openFile name openFd) d (openFile mp ds name openFd).1 := by
  have hcases := openFile_cases mp ds name openFd
  generalize openFile mp ds name openFd = r at hcases ⊢
  cases hcases with
  | same | opened | reopened => exact .unchanged mp d ds _ rfl rfl

theorem close_call (id : Nat) (fsyncOk persistOk : Bool) :
    CallOutcome mp d ds (.closeFile id fsyncOk persistOk)
      (closeFile d ds id fsyncOk persistOk).1 (closeFile d ds id fsyncOk persistOk).2.1 := by
  have hcases := closeFile_cases d ds id fsyncOk persistOk
  generalize closeFile d ds id fsyncOk persistOk = r at hcases ⊢
  cases hcases with
  | missing => exact .unchanged mp d ds _ rfl rfl
  | closed _ _ d' hsync =>
    refine .quiet _ d' _ _ hsync ?_ rfl
    cases persistOk with
    | false => exact .inl ⟨rfl, rfl⟩
    | true => exact .inr rfl

theorem delete_call (id : Nat) (persistNow unlinkOk persistOk : Bool) :
    CallOutcome mp d ds (.deleteFile id persistNow unlinkOk persistOk)
      (deleteFile d ds id persistNow unlinkOk persistOk).1
      (deleteFile d ds id persistNow unlinkOk persistOk).2.1 := by
  have hcases := deleteFile_cases d ds id persistNow unlinkOk persistOk
  generalize deleteFile d ds id persistNow unlinkOk persistOk = r at hcases ⊢
  cases hcases with
  | missing | kept => exact .unchanged mp d ds _ rfl rfl
  | removed f h hunlink =>
    subst hunlink
    exact .removed id persistNow persistOk f h
      { ds with
        files := eraseFile ds.files id
        log := (ds.log.remove id).1
        dirtyUnpersistedLog := ds.dirtyUnpersistedLog || !persistNow } rfl rfl

theorem flush_call (syncOk persistOk : Bool) : CallOutcome mp d ds (.flushMetadata syncOk persistOk)
      (flushMetadata d ds syncOk persistOk).1 (flushMetadata d ds syncOk persistOk).2.1 := by
  rcases flushMetadata_cases d ds syncOk persistOk with ⟨d', hsync, heq⟩
  rw [heq]
  refine .quiet _ d' _ _ hsync ?_ rfl
  -- The flag changes only when the directory is persisted.
  cases hdirty : ds.dirtyUnpersistedLog with
  | false => exact .inl ⟨rfl, rfl⟩
  | true =>
    cases persistOk with
    | false => exact .inl ⟨rfl, rfl⟩
    | true => exact .inr rfl

/-- Every call on a booted device leaves it booted, and is one of the four
    cases. -/
theorem call_cases (hl : ds.log.WellFormed) (op : Op) (hcall : op.IsCall) :
    ∃ d' ds', step mp ⟨d, some ds⟩ op = ⟨d', some ds'⟩ ∧ CallOutcome mp d ds op d' ds' := by
  cases op with
  | bootstrap | shutdown | crash => exact hcall.elim
  | createFile name sizeBytes persistNow syncNow env =>
    exact ⟨_, _, rfl, create_call mp d hl name sizeBytes persistNow syncNow env⟩
  | openFile name openFd => exact ⟨_, _, rfl, open_call mp d name openFd⟩
  | closeFile id fsyncOk persistOk => exact ⟨_, _, rfl, close_call mp d id fsyncOk persistOk⟩
  | deleteFile id persistNow unlinkOk persistOk =>
    exact ⟨_, _, rfl, delete_call mp d id persistNow unlinkOk persistOk⟩
  | flushMetadata syncOk persistOk => exact ⟨_, _, rfl, flush_call mp d syncOk persistOk⟩

end

/-- What a step does: nothing, a call on a booted device, or the start or the end of a
    session. -/
inductive StepOutcome (mp : MountPath) : Storage → Op → Storage → Prop
  | same (s : Storage) (op : Op) : StepOutcome mp s op s
  | call (d : Disk) (ds : DeviceState) (op : Op) (hcall : op.IsCall) (d' : Disk) (ds' : DeviceState)
      (hstep : step mp ⟨d, some ds⟩ op = ⟨d', some ds'⟩) (hout : CallOutcome mp d ds op d' ds') :
      StepOutcome mp ⟨d, some ds⟩ op ⟨d', some ds'⟩
  | started (d : Disk) (env : BootEnv) :
      StepOutcome mp ⟨d, none⟩ (.bootstrap env) (finishBoot mp (d.persist .empty) .empty env)
  | loaded (d : Disk) (env : BootEnv) (hsetup : env.setupOk = true) (l : FileLog)
      (hlog : d.log = some l) : StepOutcome mp ⟨d, none⟩ (.bootstrap env) (finishBoot mp d l env)
  | shutdown (d d' : Disk) (ds : DeviceState) (fsyncOk : Nat → Bool) (persistOk umountOk : Bool)
      (hsync : Disk.Syncs d d') :
      StepOutcome mp ⟨d, some ds⟩ (.shutdown fsyncOk persistOk umountOk)
        ⟨if persistOk then d'.persist ds.log else d', none⟩
  | crash (s : Storage) (pick : Bytes → Option Inode) :
      StepOutcome mp s (.crash pick) ⟨s.disk.crash pick, none⟩

theorem step_cases (mp : MountPath) (s : Storage) (op : Op)
    (hwf : ∀ ds, s.dev = some ds → ds.log.WellFormed) : StepOutcome mp s op (step mp s op) := by
  rcases s with ⟨d, dev⟩
  by_cases hcall : op.IsCall
  · cases dev with
    | none =>
      cases op with
      | bootstrap | shutdown | crash => exact hcall.elim
      | _ => exact .same _ _
    | some ds =>
      rcases call_cases mp d (hwf ds rfl) op hcall with ⟨d', ds', hstep, hout⟩
      rw [hstep]
      exact .call d ds op hcall d' ds' hstep hout
  · cases op with
    | bootstrap env =>
      have hcases := bootstrap_cases mp ⟨d, dev⟩ env
      simp only [step, exec]
      generalize bootstrapWith some mp ⟨d, dev⟩ env = r at hcases ⊢
      cases hcases with
      | same => exact .same _ _
      | started h =>
        cases h
        exact .started d env
      | loaded h hsetup l hlog =>
        cases h
        exact .loaded d env hsetup l hlog
    | shutdown fsyncOk persistOk umountOk =>
      cases dev with
      | none => exact .same _ _
      | some ds =>
        rcases shutdown_cases d ds fsyncOk persistOk umountOk with ⟨d', hsync, heq⟩
        simp only [step, exec, heq]
        exact .shutdown d d' ds _ _ _ hsync
    | crash pick => exact .crash ⟨d, dev⟩ pick
    | _ => exact absurd trivial hcall

/-- A call leaves the persisted directory alone, and then a set flag stays set;
    or it persists the directory in memory. -/
theorem CallOutcome.log {mp : MountPath} {d d' : Disk} {ds ds' : DeviceState} {op : Op}
    (h : CallOutcome mp d ds op d' ds') :
    (d'.log = d.log ∧ (ds.dirtyUnpersistedLog = true → ds'.dirtyUnpersistedLog = true)) ∨
      d'.log = some ds'.log := by
  cases h with
  | quiet _ _ _ _ hsync hdisk hlog =>
    rcases hdisk with hdisk | hdisk
    · rw [hdisk.1]
      exact .inl ⟨hsync.log, fun hdirty => hdisk.2.trans hdirty⟩
    · rw [hdisk, hlog]
      exact .inr rfl
  | abandoned _ _ _ _ _ _ _ d₁ _ htouch _ hflag =>
    exact .inl ⟨(Disk.unlink_log d₁ _ _).trans htouch.log, fun hdirty => hflag.trans hdirty⟩
  | created _ _ persistNow _ _ _ _ _ _ _ _ _ htouch _ _ _ hflag =>
      cases persistNow with
      | true => exact .inr rfl
      | false => exact .inl ⟨htouch.log, fun hdirty => by rw [hflag, hdirty]; rfl⟩
  | removed _ _ _ _ _ _ _ hflag =>
    split
    · exact .inr rfl
    · exact .inl ⟨Disk.unlink_log d _ _, fun hdirty => by rw [hflag, hdirty]; rfl⟩

/-- A flush that returned true leaves the flag clear. -/
theorem flush_true_flag {mp : MountPath} {d : Disk} {ds : DeviceState} {syncOk persistOk : Bool}
    (h : reply mp ⟨d, some ds⟩ (.flushMetadata syncOk persistOk) = .flag true) :
    (flushMetadata d ds syncOk persistOk).2.1.dirtyUnpersistedLog = false := by
  rcases flushMetadata_cases d ds syncOk persistOk with ⟨_, -, heq⟩
  simp only [reply, exec, Reply.flag.injEq] at h
  rw [heq] at h ⊢
  simp only [Bool.and_eq_true] at h ⊢
  rw [← Bool.not_eq_true', Bool.not_and, Bool.not_not]
  exact h.2

end Geminifs.HostStorage
