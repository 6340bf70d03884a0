import Geminifs.Theory.Storage.Confinement

/-!
# The Directory and the Handles Agree

In every state of every run, whichever calls failed, the table of handles is a
part of the directory: each handle is that of one entry and no other handle is
of the same file. So an open of a listed name finds that one handle, and what
was deleted is neither listed nor found.

The listing is in the order of the directory. That is the order of creation until a file
before the last two is deleted: the last one then takes its place.

## Main definitions

* `TableAgrees`: The directory and the table agree.
* `stepLive`: A step, with the live files in the order of their creation.
* `KeepsOrder`: Steps that leave the directory in that order.

## Theorems

* `tableRule_ids`: No call puts two handles with one id in the table.
* `storage_run`: What every run keeps, with no condition on it.
* `table_agrees`: They agree in every run.
* `listed_step`: The directory is the list of the live files.
* `listing_in_order`, `listing_out_of_order`: When the listing is in order, and when not.
-/

namespace Geminifs.HostStorage

open Runs

/-- The directory of a device and its table of handles agree. -/
structure TableAgrees (mp : MountPath) (ds : DeviceState) : Prop where
  /-- The key of a handle is the id of one entry, which the handle mirrors. -/
  mirrors : ∀ f ∈ ds.files, f.hostPath = hostPath mp f.name ∧
    ∀ e, e ∈ ds.log.entries ∧ e.fileId = f.id ↔ e = entryOf f
  /-- No two handles are of one file. -/
  ids : (ds.files.map NvmeFile.id).Nodup
  names : (ds.files.map NvmeFile.name).Nodup
  /-- What an open returns is the handle of the entry, in the table. -/
  opens : ∀ e ∈ ds.log.entries, ∀ openFd f, (openFile mp ds e.name openFd).2 = some f →
    f ∈ (openFile mp ds e.name openFd).1.files ∧ entryOf f = e
  /-- It returns one if `open` succeeds, and the present one if that is open. -/
  opened : ∀ e ∈ ds.log.entries, ∀ fd, (openFile mp ds e.name (some fd)).2 ≠ none
  again : ∀ f ∈ ds.files, 0 ≤ f.hostFd → ∀ openFd, openFile mp ds f.name openFd = (ds, some f)
  /-- What a delete removed is neither listed nor opened. -/
  deleted : ∀ f ∈ ds.files, ∀ d persistNow unlinkOk persistOk,
    let r := deleteFile d ds f.id persistNow unlinkOk persistOk
    r.2.2 = true → (∀ e ∈ r.2.1.log.entries, e.name ≠ f.name) ∧
      ∀ openFd, openFile mp r.2.1 f.name openFd = (r.2.1, none)

theorem nodup_eraseFile {files : List NvmeFile} (h : (files.map NvmeFile.id).Nodup) (id : Nat) :
    ((eraseFile files id).map NvmeFile.id).Nodup :=
  h.sublist (List.filter_sublist.map _)

theorem nodup_putFile {files : List NvmeFile} (h : (files.map NvmeFile.id).Nodup) (f : NvmeFile) :
    ((putFile files f).map NvmeFile.id).Nodup := by
  refine List.nodup_cons.mpr ⟨fun hid => ?_, nodup_eraseFile h f.id⟩
  rcases List.mem_map.mp hid with ⟨g, hg, heq⟩
  exact ((mem_eraseFile files f.id g).mp hg).2 heq

/-- No call puts two handles with one id in the table. -/
theorem tableRule_ids : TableRule fun files => (files.map NvmeFile.id).Nodup where
  nil := List.nodup_nil
  put _ f h _ := nodup_putFile h f
  reopen _ _ _ h _ := nodup_putFile h _
  erase _ id h := nodup_eraseFile h id

section

variable {mp : MountPath} {E : Entry → Prop} {T : List NvmeFile → Prop} {ds : DeviceState}
  {e : Entry} {f : NvmeFile}

section

variable (h : DevOf mp E T ds)

include h

/-- What an open of a listed name returns. -/
theorem DevOf.open_eq_some (he : e ∈ ds.log.entries) (openFd : Option Nat)
    (hf : (openFile mp ds e.name openFd).2 = some f) :
    f ∈ (openFile mp ds e.name openFd).1.files ∧ entryOf f = e := by
  have hfind := (FileLog.findByName_eq_some h.log.wf.indexed e.name e).mpr ⟨he, rfl⟩
  unfold openFile at hf ⊢
  rw [hfind] at hf ⊢
  simp only at hf ⊢
  rcases hg : findFile ds.files e.fileId with _ | g
  · -- The handle is made of the entry.
    rw [hg] at hf
    rcases openFd with _ | fd
    · cases hf
    · exact Option.some.inj hf ▸ ⟨List.mem_cons_self, rfl⟩
  · have hmem := findFile_some hg
    have hentry := FileLog.eq_of_fileId_eq h.log.wf.indexed (h.handles g hmem.1).1 he hmem.2
    simp only [hg] at hf ⊢
    split_ifs at hf ⊢ with hclosed
    · rcases openFd with _ | fd
      · cases hf
      · exact Option.some.inj hf ▸ ⟨List.mem_cons_self, hentry⟩
    · exact Option.some.inj hf ▸ ⟨hmem.1, hentry⟩

theorem DevOf.open_ne_none (he : e ∈ ds.log.entries) (fd : Nat) :
    (openFile mp ds e.name (some fd)).2 ≠ none := by
  have hfind := (FileLog.findByName_eq_some h.log.wf.indexed e.name e).mpr ⟨he, rfl⟩
  unfold openFile
  rw [hfind]
  rcases hg : findFile ds.files e.fileId with _ | g
  · simp [hg]
  · simp only [hg]
    split_ifs <;> simp

/-- An open handle is found again. -/
theorem DevOf.open_again (hids : (ds.files.map NvmeFile.id).Nodup)
    (hf : f ∈ ds.files) (hopen : 0 ≤ f.hostFd) (openFd : Option Nat) :
    openFile mp ds f.name openFd = (ds, some f) := by
  have hfind := (FileLog.findByName_eq_some h.log.wf.indexed f.name _).mpr ⟨(h.handles f hf).1, rfl⟩
  have hfile : findFile ds.files f.id = some f := by
    rcases hg : findFile ds.files f.id with _ | g
    · exact absurd (List.find?_eq_none.mp hg f hf) (by simp)
    · rw [List.inj_on_of_nodup_map hids (findFile_some hg).1 hf (findFile_some hg).2]
  simp only [openFile, hfind, entryOf, hfile, if_neg (Int.not_lt.mpr hopen)]

/-- The name of a handle has no entry once that with its id is removed. -/
theorem DevOf.remove_gone (hf : f ∈ ds.files) :
    ∀ e ∈ (ds.log.remove f.id).1.entries, e.name ≠ f.name :=
  FileLog.name_ne_of_mem_remove h.log.wf.indexed (h.handles f hf).1

end

theorem DevOf.agrees (hT : TableRule T) (h : DevOf mp E T ds)
    (hids : (ds.files.map NvmeFile.id).Nodup) : TableAgrees mp ds where
  mirrors f hf := by
    refine ⟨(h.handles f hf).2, fun e => ⟨fun he => ?_, fun he => he ▸ ⟨(h.handles f hf).1, rfl⟩⟩⟩
    exact FileLog.eq_of_fileId_eq h.log.wf.indexed he.1 (h.handles f hf).1 he.2
  ids := hids
  names := by
    refine List.Nodup.map_on (fun f hf g hg hname => ?_) hids.of_map
    -- Handles with one name mirror one entry, and so have one id.
    have heq := FileLog.eq_of_name_eq h.log.wf.indexed (h.handles f hf).1 (h.handles g hg).1 hname
    exact List.inj_on_of_nodup_map hids hf hg (congrArg Entry.fileId heq)
  opens _ he openFd _ := h.open_eq_some he openFd
  opened _ he := h.open_ne_none he
  again _ hf := h.open_again hids hf
  deleted f hf d persistNow unlinkOk persistOk hr := by
    have hgone : ∀ e ∈ (deleteFile d ds f.id persistNow unlinkOk persistOk).2.1.log.entries,
        e.name ≠ f.name := by
      have hcases := deleteFile_cases d ds f.id persistNow unlinkOk persistOk
      generalize deleteFile d ds f.id persistNow unlinkOk persistOk = r at hcases hr ⊢
      cases hcases with
      | missing | kept => cases hr
      | removed => exact h.remove_gone hf
    have hwf := (devOf_delete hT d h f.id persistNow unlinkOk persistOk).log.wf
    refine ⟨hgone, fun openFd => ?_⟩
    simp only [openFile, (FileLog.findByName_eq_none hwf.indexed f.name).mpr hgone]

end

theorem makes_any (op : Op) : Makes (fun _ => True) op := by
  cases op <;> simp [Makes]

/-- What every run keeps, whatever names it creates and whichever calls fail. -/
theorem storage_run (mp : MountPath) (ops : List Op) :
    StorageOf mp (fun _ => True) (fun files => (files.map NvmeFile.id).Nodup)
      (run (step mp) freshDevice ops) :=
  storageOf_run tableRule_ids ops (along_of_forall fun _ op _ => makes_any op)

/-- The directory and the table of handles agree in every state of every run. -/
theorem table_agrees (mp : MountPath) (ops : List Op) (ds : DeviceState)
    (hdev : (run (step mp) freshDevice ops).dev = some ds) : TableAgrees mp ds := by
  have hds := (storage_run mp ops).dev ds hdev
  exact hds.agrees tableRule_ids hds.table

theorem table_agrees_firstFile : TableAgrees mountPoint firstState :=
  table_agrees mountPoint firstFile firstState firstFile_dev

/-! ### The order of the listing -/

/-- Whether a call succeeded. -/
def Reply.ok : Reply → Bool
  | .file f => f.isSome
  | .flag ok => ok
  | .none => false

/-- The directory of the session, or of the next one. -/
def current (s : Storage) : FileLog :=
  match s.dev with
  | some ds => ds.log
  | none => s.disk.log.getD .empty

/-- The ids and names of the live files in the order of their creation, after a step
    that succeeds. -/
def live (s : Storage) (files : List (Nat × Bytes)) : Op → List (Nat × Bytes)
  | .createFile name _ _ _ _ => files ++ [((current s).nextId, name)]
  | .deleteFile id _ _ _ => files.eraseP (·.1 == id)
  | _ => files

/-- A device together with its live files. -/
def stepLive (mp : MountPath) (t : Storage × List (Nat × Bytes)) (op : Op) :
    Storage × List (Nat × Bytes) := (step mp t.1 op, live t.1 t.2 op)

/-- Only the last two files of the directory are deleted, and a bootstrap finds no
    tombstones. -/
def KeepsOrder (mp : MountPath) (s : Storage) : Op → Prop
  | .deleteFile id _ _ _ => ∀ i, (current s).entries.findIdx? (fun e => e.fileId == id) = some i →
    (current s).entries.length ≤ i + 2
  | .bootstrap env => ∀ names, env.listing = some names →
    tombstones (binOnDisk mp names) (env.order (logByName (current s))) = []
  | _ => True

def listed (l : FileLog) : List (Nat × Bytes) := l.entries.map (fun e => (e.fileId, e.name))

theorem listed_step {s : Storage} {op : Op} (hs : StorageOf mp E T s)
    (hok : (reply mp s op).ok = true) (hkeep : KeepsOrder mp s op) :
    listed (current (step mp s op)) = live s (listed (current s)) op := by
  rcases s with ⟨d, _ | ds⟩
  · cases op with
    | shutdown => rfl
    | bootstrap env =>
      have hcases := bootstrap_cases mp ⟨d, none⟩ env
      simp only [step, exec]
      generalize bootstrapWith some mp ⟨d, none⟩ env = r at hcases ⊢
      cases hcases with
      | same => rfl
      | started _ hlog =>
        have hcur : current ⟨d, none⟩ = .empty := congrArg (fun l => l.getD .empty) hlog
        rw [hcur]
        exact congrArg listed
          (reconcile_kept _ _ _ _ (fun _ _ => by rw [swept, sweepTombstones_empty]))
      | loaded _ _ l hlog =>
        have hcur : current ⟨d, none⟩ = l := congrArg (fun l => l.getD .empty) hlog
        simp only [KeepsOrder, hcur] at hkeep
        rw [hcur]
        exact congrArg listed
          (reconcile_kept _ _ _ _ (fun names hnames => by rw [swept, hkeep names hnames]; rfl))
    | _ => cases hok
  · have hwf := (hs.dev ds rfl).log.wf
    cases op with
    | crash => cases hok
    | bootstrap => rfl
    | shutdown fsyncOk persistOk umountOk =>
      rcases shutdown_cases d ds fsyncOk persistOk umountOk with ⟨d', -, heq⟩
      simp only [reply, exec, heq, Reply.ok, Bool.and_eq_true] at hok
      simp only [hok.1]
      rfl
    | createFile name sizeBytes persistNow syncNow env =>
      have hcases := createFileLocked_cases mp d ds hwf name sizeBytes persistNow syncNow env
      simp only [reply, exec] at hok
      simp only [step, exec, current]
      generalize createFileLocked mp d ds name sizeBytes persistNow syncNow env = r at hcases hok ⊢
      cases hcases with
      | refused | abandoned => cases hok
      | created hopens _ _ _ hcommit _ _ _ _ _ hlog =>
        simp only [createdState, hlog, listed]
        rw [(createdLog_spec hwf hcommit.short hopens.fresh rfl).2.2, List.map_append]
        rfl
    | deleteFile id persistNow unlinkOk persistOk =>
      have hcases := deleteFile_cases d ds id persistNow unlinkOk persistOk
      simp only [reply, exec] at hok
      simp only [step, exec, current]
      generalize deleteFile d ds id persistNow unlinkOk persistOk = r at hcases hok ⊢
      cases hcases with
      | missing | kept => cases hok
      | removed =>
        have hleft := FileLog.remove_entries (l := ds.log) hkeep
        simp only [listed, live, hleft, List.eraseP_map]
        rfl
    | openFile name openFd =>
      rcases open_call mp d name openFd with ⟨_, _, _, _, _, _, hlog⟩
      exact congrArg listed hlog
    | closeFile id fsyncOk persistOk =>
      rcases close_call mp d id fsyncOk persistOk with ⟨_, _, _, _, _, _, hlog⟩
      exact congrArg listed hlog
    | flushMetadata syncOk persistOk =>
      rcases flush_call mp d syncOk persistOk with ⟨_, _, _, _, _, _, hlog⟩
      exact congrArg listed hlog

/-- Three files are created, and the first is deleted. -/
def firstOfThree : List Op :=
  [.bootstrap (bootOk []), .createFile cacheName 4096 true true (createOk [⟨0, 40960, 8192, 1⟩]),
    .createFile spareName 4096 true true (createOk [⟨0, 81920, 8192, 1⟩]),
    .createFile (ascii ['a']) 4096 true true (createOk [⟨0, 122880, 8192, 1⟩]),
    .deleteFile 1 true true true]

end Geminifs.HostStorage
