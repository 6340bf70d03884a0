import Geminifs.Theory.Storage.Calls
import Geminifs.Theory.Storage.Reconcile

/-!
# The Invariant of a Device

What holds of a device in every state of every run, however its sessions are
cut short: both directories, the one in memory and the one last persisted, are
well formed and name plain files; every handle mirrors an entry; only paths of
plain names have files; and what is on disk is among what may survive.

A run is `Legal` when its created names are plain and its environment tells
the truth: a crash leaves something that may survive, and a directory listing
lists what is there. Everything else the environment may choose.

That directories are well formed and handles mirror entries needs none of this. It
is shown once, along with any property that new entries have and any property of
tables of handles that putting and erasing handles keeps (`storageOf_step`).

## Main definitions

* `Legal`, `Calls`: What a run promises about its actions, and a client.
* `entryOf`: The entry a handle mirrors.
* `DirOk`, `Inv`: The invariant.
* `ListsExactly`: There is a file exactly for each entry.
* `StorageOf`: The part of it that every run keeps, with two properties.

## Theorems

* `storageOf_step`, `storageOf_run`: Every action keeps that part.
* `filesOk_call`, `filesOk_finishBoot`: What actions do to the files.
* `inv_step`, `inv_run`: Every legal action keeps the invariant, and every legal run.
* `boot_after_crash`: What a bootstrap after a crash starts from.
* `faithful_fresh`, `faithful_single`: A new device, and one with one file, can
  be booted.
-/

namespace Geminifs.HostStorage

open Runs Function

variable {mp : MountPath} {d : Disk} {l : FileLog} {s ds : DeviceState} {name : Bytes}

/-- What a run promises about an action: plain names, and an environment that
    tells the truth. -/
def Legal (mp : MountPath) (s : Storage) : Op → Prop
  | .bootstrap env => env.Faithful mp s.disk
  | .crash pick => ∀ p, pick p ∈ s.disk.survivors p
  | .createFile name _ _ _ _ => Plain name
  | _ => True

/-- A step of a client: a call, with a plain name if it creates. -/
def Calls (mp : MountPath) (s : Storage) (op : Op) : Prop := op.IsCall ∧ Legal mp s op

/-- The entry a handle mirrors. -/
def entryOf (f : NvmeFile) : Entry := ⟨f.id, f.name, f.sizeBytes, f.extents⟩

/-- A directory that is well formed and names plain files. -/
structure DirOk (l : FileLog) : Prop where
  wf : l.WellFormed
  plain : ∀ e ∈ l.entries, Plain e.name

theorem DirOk.stem (hl : DirOk l) : ∀ e ∈ l.entries, Stem e.name :=
  fun e he => (hl.plain e he).stem

/-- What holds of a booted device: its directory is in order, and every handle
    mirrors an entry and knows its path. -/
structure DevOk (mp : MountPath) (ds : DeviceState) : Prop where
  log : DirOk ds.log
  handles : ∀ f ∈ ds.files, entryOf f ∈ ds.log.entries ∧ f.hostPath = hostPath mp f.name

/-- What holds of a disk: the persisted directory is in order, the present
    state can survive, and only plain names have files. -/
structure DiskOk (mp : MountPath) (d : Disk) : Prop where
  log : ∀ l, d.log = some l → DirOk l
  current : d.Current
  paths : ∀ p ino, some ino ∈ d.survivors p → ∃ name, Plain name ∧ p = hostPath mp name

/-- There is a file exactly for each entry of a directory. -/
def ListsExactly (mp : MountPath) (d : Disk) (l : FileLog) : Prop :=
  ∀ p, (d.files p).isSome ↔ ∃ e ∈ l.entries, p = hostPath mp e.name

/-- What holds in every state of every legal run. -/
structure Inv (mp : MountPath) (s : Storage) : Prop where
  disk : DiskOk mp s.disk
  dev : ∀ ds, s.dev = some ds → DevOk mp ds

variable {f : NvmeFile}

/-- A handle for another id is a handle for another path. -/
theorem handle_path_ne (hs : DevOk mp ds) {e : Entry} (he : e ∈ ds.log.entries)
    {id : Nat} (hf : findFile ds.files id = some f) (hid : id ≠ e.fileId) :
    hostPath mp e.name ≠ cStr f.hostPath := by
  have hmem := findFile_some hf
  have hold := hs.handles f hmem.1
  have hplain : Plain f.name := hs.log.plain _ hold.1
  rw [hold.2, cStr_hostPath mp f.name hplain.noNul]
  intro heq
  -- Two entries of one name would be one entry, with one id.
  have hname : (entryOf f).name = e.name := (hostPath_injective mp heq).symm
  have hsame := FileLog.eq_of_name_eq hs.log.wf.indexed hold.1 he hname
  refine hid ?_
  rw [← hsame, ← hmem.2]
  rfl

/-- Persisting a directory that is in order keeps a disk in order. -/
theorem diskOk_persist (h : DiskOk mp d) (hl : DirOk l) : DiskOk mp (d.persist l) where
  log := by
    intro l' hl'
    have heq : l = l' := Option.some.inj hl'
    exact heq ▸ hl
  current := h.current
  paths := h.paths

/-- The entries after a successful create: the old ones and the new one. -/
theorem createdLog_spec (hl : l.WellFormed) (hshort : name.length < kNameMax)
    (hname : ∀ e ∈ l.entries, e.name ≠ name) {sizeBytes : UInt64} {extents : List LbaExtent}
    {l' : FileLog} (hlog : l' = createdLog l name sizeBytes extents) :
    l'.WellFormed ∧ l'.nextId = l.nextId + 1 ∧
      l'.entries = l.entries ++ [createdEntry l name sizeBytes extents] := by
  have hwf := FileLog.wellFormed_nextFileId hl
  have hadd := FileLog.add_of_fresh hwf (createdEntry l name sizeBytes extents) hshort hname
    (Nat.lt_succ_self _)
  subst hlog
  refine ⟨?_, ?_, ?_⟩
  · exact FileLog.wellFormed_add hwf _ hshort hname (Nat.lt_succ_self _)
      (createdEntry_fresh hl name sizeBytes extents)
  · unfold createdLog
    rw [hadd]
    rfl
  · unfold createdLog
    rw [hadd]
    rfl

/-! ### Directories and handles -/

/-- A directory that is well formed and whose entries have a property. -/
structure DirOf (E : Entry → Prop) (l : FileLog) : Prop where
  wf : l.WellFormed
  all : ∀ e ∈ l.entries, E e

/-- A property of tables of handles that every call keeps. -/
structure TableRule (T : List NvmeFile → Prop) : Prop where
  nil : T []
  put : ∀ files f, T files → f.dataOffset = nvmeFileHeaderSize → T (putFile files f)
  reopen : ∀ files f fd, T files → f ∈ files → T (putFile files { f with hostFd := fd })
  erase : ∀ files id, T files → T (eraseFile files id)

/-- A device with such a directory and such a table, whose handles mirror entries and
    know their paths. -/
structure DevOf (mp : MountPath) (E : Entry → Prop) (T : List NvmeFile → Prop)
    (ds : DeviceState) : Prop where
  log : DirOf E ds.log
  handles : ∀ f ∈ ds.files, entryOf f ∈ ds.log.entries ∧ f.hostPath = hostPath mp f.name
  table : T ds.files

structure StorageOf (mp : MountPath) (E : Entry → Prop) (T : List NvmeFile → Prop)
    (s : Storage) : Prop where
  disk : ∀ l, s.disk.log = some l → DirOf E l
  dev : ∀ ds, s.dev = some ds → DevOf mp E T ds

/-- The entries that an action makes have a property. -/
def Makes (E : Entry → Prop) : Op → Prop
  | .createFile name sizeBytes _ syncNow env => ∀ l fd map, env.Allocates sizeBytes syncNow fd map →
    E (createdEntry l name sizeBytes (recordedExtents env fd map))
  | _ => True

variable {op : Op} {ds' : DeviceState}

section

variable {E : Entry → Prop} {T : List NvmeFile → Prop}

theorem DirOf.empty : DirOf E .empty := ⟨FileLog.wellFormed_empty, nofun⟩

/-- Drawing an id, or not. -/
theorem DirOf.drawn (h : DirOf E l) {l' : FileLog} (hl' : l' = l ∨ l' = l.nextFileId.2) :
    DirOf E l' := by
  rcases hl' with rfl | rfl
  · exact h
  · exact ⟨FileLog.wellFormed_nextFileId h.wf, h.all⟩

theorem DirOf.remove (h : DirOf E l) (id : Nat) : DirOf E (l.remove id).1 :=
  ⟨FileLog.wellFormed_remove h.wf id,
    fun e he => h.all e ((FileLog.mem_remove h.wf.indexed id e).mp he).1⟩

/-- A handle is put that mirrors an entry. -/
theorem DevOf.put (h : DevOf mp E T ds) (hentry : entryOf f ∈ ds.log.entries)
    (hpath : f.hostPath = hostPath mp f.name) (htable : T (putFile ds.files f)) :
    DevOf mp E T { ds with files := putFile ds.files f } := by
  refine ⟨h.log, fun g hg => ?_, htable⟩
  rcases (mem_putFile ds.files f g).mp hg with rfl | hg
  · exact ⟨hentry, hpath⟩
  · exact h.handles g hg.1

/-- A handle is opened or closed. -/
theorem DevOf.reopen (h : DevOf mp E T ds) (hT : TableRule T) (hf : f ∈ ds.files)
    (fd : Int) : DevOf mp E T { ds with files := putFile ds.files { f with hostFd := fd } } :=
  h.put (h.handles f hf).1 (h.handles f hf).2 (hT.reopen ds.files f fd h.table hf)

section

variable (hT : TableRule T)

include hT

theorem devOf_create (d : Disk) (hs : DevOf mp E T s) {sizeBytes : UInt64}
    {persistNow syncNow : Bool} {env : CreateEnv}
    (hnew : Makes E (.createFile name sizeBytes persistNow syncNow env)) :
    DevOf mp E T (createFileLocked mp d s name sizeBytes persistNow syncNow env).2.1 := by
  have hcases := createFileLocked_cases mp d s hs.log.wf name sizeBytes persistNow syncNow env
  generalize createFileLocked mp d s name sizeBytes persistNow syncNow env = r at hcases ⊢
  cases hcases with
  | refused => exact hs
  | abandoned _ _ _ _ _ hlog hfiles =>
    refine ⟨hs.log.drawn hlog, fun f hf => ?_, hfiles ▸ hs.table⟩
    rw [entries_of_drawn hlog]
    exact hs.handles f (hfiles ▸ hf)
  | created hopens fd map halloc hcommit _ _ _ _ _ hlog hfiles =>
    have hspec := createdLog_spec hs.log.wf hcommit.short hopens.fresh
      (rfl : createdLog _ _ sizeBytes (recordedExtents env fd map) = _)
    simp only [createdState, hlog, hfiles]
    refine ⟨⟨hspec.1, ?_⟩, fun f hf => ?_, hT.put _ _ hs.table rfl⟩
    · rw [hspec.2.2]
      exact List.forall_mem_append.mpr
        ⟨hs.log.all, List.forall_mem_singleton.mpr (hnew s.log fd map halloc)⟩
    · -- The new handle mirrors the new entry; the others keep theirs.
      rw [hspec.2.2]
      rcases (mem_putFile _ _ f).mp hf with rfl | hf
      · exact ⟨List.mem_append_right _ (List.mem_singleton_self _), rfl⟩
      · exact (hs.handles f hf.1).imp_left (List.mem_append_left _)

theorem devOf_open (hs : DevOf mp E T s) (name : Bytes) (openFd : Option Nat) :
    DevOf mp E T (openFile mp s name openFd).1 := by
  have hcases := openFile_cases mp s name openFd
  generalize openFile mp s name openFd = r at hcases ⊢
  cases hcases with
  | same => exact hs
  | opened e h =>
    have he := (FileLog.findByName_eq_some hs.log.wf.indexed name e).mp h
    exact hs.put he.1 (by rw [he.2]) (hT.put _ _ hs.table rfl)
  | reopened _ h fd => exact hs.reopen hT h fd

theorem devOf_delete (d : Disk) (hs : DevOf mp E T s) (id : Nat)
    (persistNow unlinkOk persistOk : Bool) :
    DevOf mp E T (deleteFile d s id persistNow unlinkOk persistOk).2.1 := by
  have hcases := deleteFile_cases d s id persistNow unlinkOk persistOk
  generalize deleteFile d s id persistNow unlinkOk persistOk = r at hcases ⊢
  cases hcases with
  | missing => exact hs
  | kept _ h => exact hs.reopen hT (findFile_some h).1 (-1)
  | removed =>
    refine ⟨hs.log.remove id, fun g hg => ?_, hT.erase s.files id hs.table⟩
    -- A handle that is left has another id, so its entry is left too.
    have hg' := (mem_eraseFile s.files id g).mp hg
    exact (hs.handles g hg'.1).imp_left fun hold =>
      (FileLog.mem_remove hs.log.wf.indexed id _).mpr ⟨hold, hg'.2⟩

theorem devOf_call (d : Disk) (hs : DevOf mp E T s)
    (hcall : op.IsCall) (hnew : Makes E op)
    (hds' : (step mp ⟨d, some s⟩ op).dev = some ds') : DevOf mp E T ds' := by
  cases op with
  | bootstrap | shutdown | crash => exact hcall.elim
  | createFile => exact Option.some.inj hds' ▸ devOf_create hT d hs hnew
  | openFile name openFd => exact Option.some.inj hds' ▸ devOf_open hT hs name openFd
  | closeFile id fsyncOk persistOk =>
    have hcases := closeFile_cases d s id fsyncOk persistOk
    rw [← Option.some.inj hds']
    generalize closeFile d s id fsyncOk persistOk = r at hcases ⊢
    cases hcases with
    | missing => exact hs
    | closed _ h => exact hs.reopen hT (findFile_some h).1 (-1)
  | deleteFile id persistNow unlinkOk persistOk =>
    exact Option.some.inj hds' ▸ devOf_delete hT d hs id persistNow unlinkOk persistOk
  | flushMetadata syncOk persistOk =>
    rcases flushMetadata_cases d s syncOk persistOk with ⟨_, -, heq⟩
    rw [← Option.some.inj hds', heq]
    exact ⟨hs.log, hs.handles, hs.table⟩

theorem storageOf_finishBoot (hd : ∀ l, d.log = some l → DirOf E l)
    (hl : DirOf E l) (env : BootEnv) : StorageOf mp E T (finishBoot mp d l env) := by
  have hwf := reconcile_wellFormed mp d env hl.wf
  have hdir : DirOf E (reconcile mp d l env).2.1 := ⟨hwf.1, fun e he => hl.all e (hwf.2 e he)⟩
  refine ⟨fun l' hl' => ?_, fun _ hds => ?_⟩
  · rcases reconcile_log mp d hl.wf.indexed env with h | h
    · exact Option.some.inj (h.symm.trans hl') ▸ hdir
    · exact hd l' (h.1.symm.trans hl')
  · rw [← Option.some.inj hds]
    exact ⟨hdir, nofun, hT.nil⟩

/-- Every action keeps directories well formed and handles in order, whatever its
    environment does. -/
theorem storageOf_step {s : Storage} (h : StorageOf mp E T s)
    (hnew : Makes E op) : StorageOf mp E T (step mp s op) := by
  have hcases := step_cases mp s op (fun ds hds => (h.dev ds hds).log.wf)
  generalize step mp s op = s' at hcases ⊢
  cases hcases with
  | same => exact h
  | call d ds _ hcall _ ds' hstep hout =>
    have hdev := fun ds' (hds' : _ = some ds') => devOf_call hT d (h.dev ds rfl) hcall hnew hds'
    rw [hstep] at hdev
    refine ⟨fun l hl => ?_, hdev⟩
    -- What is persisted is what was, or the directory in memory.
    rcases hout.log with hlog | hlog
    · exact h.disk l (hlog.1 ▸ hl)
    · exact Option.some.inj (hlog.symm.trans hl) ▸ (hdev ds' rfl).log
  | started _ env =>
    exact storageOf_finishBoot hT (fun l hl => Option.some.inj hl ▸ .empty) .empty env
  | loaded _ env _ l hlog => exact storageOf_finishBoot hT h.disk (h.disk l hlog) env
  | shutdown _ _ ds _ persistOk _ hsync =>
    refine ⟨fun l hl => ?_, nofun⟩
    cases persistOk with
    | false => exact h.disk l (hsync.log ▸ hl)
    | true => exact Option.some.inj hl ▸ (h.dev ds rfl).log
  | crash => exact ⟨h.disk, nofun⟩

theorem storageOf_run (ops : List Op)
    (hnew : Runs.Along (step mp) (fun _ => Makes E) freshDevice ops) :
    StorageOf mp E T (run (step mp) freshDevice ops) :=
  run_invariant (fun _ _ h hop => storageOf_step hT h hop) ⟨nofun, nofun⟩ hnew

end

end

/-! ### Files -/

/-- What holds of the files on a disk. -/
structure FilesOk (mp : MountPath) (d : Disk) : Prop where
  current : d.Current
  paths : ∀ p ino, some ino ∈ d.survivors p → ∃ name, Plain name ∧ p = hostPath mp name

variable {d' : Disk}

/-- A change at the path of a plain name. -/
theorem FilesOk.touches (h : FilesOk mp d) (hplain : Plain name)
    (ht : Disk.Touches (cStr (hostPath mp name)) d d') : FilesOk mp d' := by
  rw [cStr_hostPath mp name hplain.noNul] at ht
  refine ⟨fun p => ?_, fun p ino hino => ?_⟩
  · by_cases hp : p = hostPath mp name
    · rw [hp]
      exact ht.current (h.current _)
    · rw [ht.files p hp, ht.survivors p hp]
      exact h.current p
  · by_cases hp : p = hostPath mp name
    · exact ⟨name, hplain, hp⟩
    · rw [ht.survivors p hp] at hino
      exact h.paths p ino hino

theorem FilesOk.syncs (h : FilesOk mp d) (hs : Disk.Syncs d d') : FilesOk mp d' :=
  ⟨hs.current h.current, fun p ino hino => h.paths p ino (hs.subset h.current p _ hino)⟩

/-- The files do not depend on the persisted directory. -/
theorem FilesOk.persist_if (h : FilesOk mp d) (l : FileLog) (c : Prop) [Decidable c] :
    FilesOk mp (if c then d.persist l else d) := by
  split
  · exact ⟨h.current, h.paths⟩
  · exact h

theorem filesOk_call (h : FilesOk mp d) (hs : DevOk mp ds)
    (hlegal : Legal mp ⟨d, some ds⟩ op) (hout : CallOutcome mp d ds op d' ds') : FilesOk mp d' := by
  cases hout with
  | quiet op d₁ d' ds' hsync hdisk =>
    rcases hdisk with hdisk | hdisk
    · exact hdisk.1 ▸ h.syncs hsync
    · exact hdisk ▸ (h.syncs hsync).persist_if ds.log True
  | abandoned name sizeBytes persistNow syncNow env hopens hfails d₁ ds' htouch =>
    exact h.touches hlegal (htouch.trans (Disk.touches_unlink d₁ _ _))
  | created name sizeBytes persistNow syncNow env hopens fd map halloc hcommit d₁ ds' htouch =>
    exact (h.touches hlegal htouch).persist_if _ _
  | removed id persistNow persistOk f hf =>
    have hold := hs.handles f (findFile_some hf).1
    refine FilesOk.persist_if ?_ _ _
    rw [hold.2]
    exact h.touches (hs.log.plain _ hold.1) (Disk.touches_unlink d _ _)

theorem filesOk_finishBoot (h : FilesOk mp d) (l : FileLog) (env : BootEnv) :
    FilesOk mp (finishBoot mp d l env).disk := by
  refine ⟨reconcile_current mp d env h.current, fun p ino hino => ?_⟩
  rcases reconcile_survivors mp d env p _ hino with hnone | hold
  · cases hnone
  · exact h.paths p ino hold

theorem filesOk_step {s : Storage} (h : Inv mp s) (hlegal : Legal mp s op) :
    FilesOk mp (step mp s op).disk := by
  have hfiles : FilesOk mp s.disk := ⟨h.disk.current, h.disk.paths⟩
  have hcases := step_cases mp s op (fun ds hds => (h.dev ds hds).log.wf)
  generalize step mp s op = s' at hcases ⊢
  cases hcases with
  | same => exact hfiles
  | call _ ds _ _ _ _ _ hout => exact filesOk_call hfiles (h.dev ds rfl) hlegal hout
  | started _ env => exact filesOk_finishBoot (hfiles.persist_if .empty True) _ env
  | loaded _ env => exact filesOk_finishBoot hfiles _ env
  | shutdown _ _ _ _ _ _ hsync => exact (hfiles.syncs hsync).persist_if _ _
  | crash =>
    refine ⟨fun p => List.mem_singleton_self _, fun p ino hino => h.disk.paths p ino ?_⟩
    rw [List.mem_singleton.mp hino]
    exact hlegal p

/-- A directory without entries is in order. -/
theorem dirOk_empty : DirOk .empty :=
  ⟨FileLog.wellFormed_empty, nofun⟩

theorem inv_fresh (mp : MountPath) : Inv mp freshDevice where
  disk := by
    refine ⟨nofun, fun p => List.mem_singleton_self _, fun p _ hino => ?_⟩
    cases List.mem_singleton.mp hino
  dev := nofun

/-- Every legal action keeps the invariant. -/
theorem inv_step (s : Storage) (op : Op) (h : Inv mp s) (hlegal : Legal mp s op) :
    Inv mp (step mp s op) := by
  have hmakes : Makes (fun e => Plain e.name) op := by
    cases op with
    | createFile => exact fun _ _ _ _ => hlegal
    | _ => trivial
  have hof : StorageOf mp (fun e => Plain e.name) (fun _ => True) s := by
    refine ⟨fun l hl => ?_, fun ds hds => ?_⟩
    · exact ⟨(h.disk.log l hl).wf, (h.disk.log l hl).plain⟩
    · exact ⟨⟨(h.dev ds hds).log.wf, (h.dev ds hds).log.plain⟩, (h.dev ds hds).handles, trivial⟩
  have hnext := storageOf_step ⟨trivial, fun _ _ _ _ => trivial, fun _ _ _ _ _ => trivial,
    fun _ _ _ => trivial⟩ hof hmakes
  have hfiles := filesOk_step h hlegal
  refine ⟨⟨fun l hl => ?_, hfiles.current, hfiles.paths⟩, fun ds hds => ?_⟩
  · exact ⟨(hnext.disk l hl).wf, (hnext.disk l hl).all⟩
  · exact ⟨⟨(hnext.dev ds hds).log.wf, (hnext.dev ds hds).log.all⟩, (hnext.dev ds hds).handles⟩

/-- Every legal run from a new device keeps the invariant. -/
theorem inv_run (mp : MountPath) (ops : List Op)
    (hlegal : Runs.Along (step mp) (Legal mp) freshDevice ops) :
    Inv mp (run (step mp) freshDevice ops) :=
  run_invariant inv_step (inv_fresh mp) hlegal

/-- A bootstrap that returned true after a crash has finished booting from the
    directory that was saved, or from an empty one if none was. -/
theorem boot_after_crash (s : Storage) (pick : Bytes → Option Inode) (env : BootEnv)
    (hboot : reply mp (step mp s (.crash pick)) (.bootstrap env) = .flag true) :
    ∃ d l, step mp (step mp s (.crash pick)) (.bootstrap env) = finishBoot mp d l env ∧
      (∀ l', s.disk.log = some l' → d = s.disk.crash pick ∧ l = l') ∧
      (s.disk.log = none → d = (s.disk.crash pick).persist .empty ∧ l = .empty) := by
  have hcases := bootstrap_cases mp ⟨s.disk.crash pick, none⟩ env
  simp only [reply, exec, step, Reply.flag.injEq] at hboot ⊢
  generalize bootstrapWith some mp ⟨s.disk.crash pick, none⟩ env = r at hcases hboot ⊢
  cases hcases with
  | same _ hok => exact absurd rfl (hok hboot)
  | started _ hlog =>
    refine ⟨_, _, rfl, fun l' hl' => ?_, fun _ => ⟨rfl, rfl⟩⟩
    exact absurd (hlog.symm.trans hl') (by simp)
  | loaded _ _ l hlog =>
    refine ⟨_, l, rfl, fun _ hl' => ⟨rfl, ?_⟩, fun hnone => ?_⟩
    · exact Option.some.inj (hlog.symm.trans hl')
    · exact absurd (hlog.symm.trans hnone) (by simp)

/-- What a listing says does not depend on the persisted directory. -/
theorem faithful_persist {env : BootEnv} (h : env.Faithful mp d) (l : FileLog) :
    env.Faithful mp (d.persist l) :=
  ⟨h.order, fun names hnames => ⟨(h.listing names hnames).nodup, (h.listing names hnames).mem⟩⟩

/-- A mount point, for concrete runs. -/
def mountPoint : MountPath := ⟨ascii ['/', 'm', 'n', 't'], by decide⟩

/-- Two names for concrete runs. -/
def cacheName : Bytes := ascii ['k', 'v']

def spareName : Bytes := ascii ['t', 'm', 'p']

/-- A bootstrap in which every call succeeds, with the given listing. -/
def bootOk (listing : List Bytes) : BootEnv :=
  ⟨true, true, some listing, id, fun _ => true, true⟩

/-- A create in which every call succeeds, with the extent map chosen. -/
def createOk (map : List FiemapExtent) : CreateEnv :=
  ⟨some 3, some map, true, ⟨some 4096, true, 0⟩, true, true, true, true⟩

/-- On a new device, an empty listing tells the truth. -/
theorem faithful_fresh (mp : MountPath) : (bootOk []).Faithful mp freshDevice.disk where
  order := List.Perm.refl
  listing := by
    intro names hnames
    have hnil : names = [] := (Option.some.inj hnames).symm
    rw [hnil]
    refine ⟨List.nodup_nil, fun _ _ _ => ?_⟩
    simp [freshDevice, Disk.fresh]

/-- On a disk whose only file is a plain name's, a listing of that file tells
    the truth. -/
theorem faithful_single (mp : MountPath) (hname : Plain name)
    (hfiles : ∀ p, (d.files p).isSome ↔ p = hostPath mp name) :
    (bootOk [name ++ binExt]).Faithful mp d where
  order := List.Perm.refl
  listing := by
    intro names hnames
    have hone : names = [name ++ binExt] := (Option.some.inj hnames).symm
    rw [hone]
    refine ⟨List.nodup_singleton _, fun _ _ _ => ?_⟩
    rw [List.mem_singleton, hfiles]
    constructor
    · intro hfn
      rw [hfn]
      exact ⟨by simp [hname.nonempty], List.not_mem_append hname.noSlash (by decide),
        List.not_mem_append hname.noNul (by decide), rfl⟩
    · exact fun h => leafPath_injective mp h.2.2.2

/-- A new device is booted, and one file is created durably on it. -/
def firstFile : List Op :=
  [.bootstrap (bootOk []),
    .createFile cacheName 4096 true true (createOk [⟨0, 40960, 8192, fiemapExtentLast⟩])]

/-- A file put where there is no other is the only one. -/
theorem isSome_update_iff {files : Bytes → Option Inode} {p : Bytes}
    (hfiles : ∀ q, q ≠ p → files q = none) (ino : Inode) (q : Bytes) :
    (update files p (some ino) q).isSome ↔ q = p := by
  by_cases hq : q = p
  · subst hq
    simp
  · rw [update_of_ne hq, hfiles q hq]
    simp [hq]

theorem firstFile_files (p : Bytes) :
    ((run (step mountPoint) freshDevice firstFile).disk.files p).isSome ↔
      p = hostPath mountPoint cacheName := by
  exact isSome_update_iff (fun q hq => update_of_ne hq _ _) _ p

end Geminifs.HostStorage
