import Geminifs.Theory.Files.Creation
import Geminifs.Library.Runs

/-!
# Opening Files

What `g_open` leaves behind: whether each file in the directory has one record, and
what the handles are that it returns for the GPU.

A handle for the GPU is never what it should be. A file that is made comes with the
address of the copied header, which `device_file_close_managed` knows and which is
not an `NVMe_File`. A file that is opened comes with the address of the `NVMe_File`,
which `device_file_close_managed` does not know. A file that is made for the GPU has
two records besides.

Otherwise records stay right as long as names are plain, a name that reads as the id
of a file is the name of that file, and no call fails halfway (`Careful`).

## Main definitions

* `FileCall`, `FileCall.step`: The calls.
* `RecordedOnce`: Each file has exactly one record.
* `Tidy`: What keeps it so.
* `Handled`: What holds after any calls.
* `Careful`: A call that leaves the records right.

## Theorems

* `Tidy.recordedOnce`: A tidy controller has one record for each file.
* `tidy_step`, `handled_step`: One call.
* `gOpen_device`: What `g_open` returns for the GPU.
* `gOpen_records_and_handles`: Both along a run.
-/

namespace Geminifs.Gemini

open Runs Function

namespace ManagedController

open FileManager Controller

variable {c c' : ManagedController} {filename : Bytes} {fileSize blockSize : Nat} {r : Option Nat}
  {env : GOpenEnv} {device : Bool}

/-- The calls that open, make and delete files, and close handles of the GPU. -/
inductive FileCall where
  | gOpen (filename : Bytes) (fileSize oFlag : Nat) (env : GOpenEnv)
  | deleteSingle (filename : Bytes) (env : DeleteEnv)
  | delete (id : Nat) (env : DeleteEnv)
  | deleteAll (env : Nat → DeleteEnv) (force : WriteEnv)
  | closeDevice (fd : Nat)

def FileCall.step (c : ManagedController) : FileCall → Option ManagedController
  | .gOpen filename fileSize oFlag env => (c.gOpen filename fileSize oFlag env).map Prod.fst
  | .deleteSingle filename env => some (c.deviceFileDeleteSingleManaged filename env).1
  | .delete id env => some (c.hostFileDeleteManaged id env).1
  | .deleteAll env force => some (c.deviceFileDeleteAllFilesManaged env force).1
  | .closeDevice fd => some (c.deviceFileCloseManaged fd).1

/-- Each file has exactly one record with a name that leads to it. -/
def RecordedOnce (c : ManagedController) : Prop :=
  ∀ p f, c.files p = some f → ∃! id, ∃ d, c.fm.records id = some d ∧
    c.controller.place (c.controller.concatPath d.name) = some p

/-! ### One record for each file -/

/-- Names in the log are plain and different, and each file has its name there. -/
structure Tidy (c : ManagedController) : Prop where
  sound : Sound c.fm
  plain : ∀ id d, c.fm.records id = some d → Plain d.name
  unique : ∀ id id' d d', c.fm.records id = some d → c.fm.records id' = some d' →
    d.name = d'.name → id = id'
  recorded : ∀ p f, c.files p = some f →
    ∃ id d, c.fm.records id = some d ∧ p = c.controller.below d.name
  notDir : ∀ p f, c.files p = some f → c.controller.isDir p = false

theorem Tidy.recordedOnce (hc : Tidy c) : RecordedOnce c := by
  intro p f hf
  rcases hc.recorded p f hf with ⟨id, d, hd, rfl⟩
  refine ⟨id, ⟨d, hd, c.controller.place_concatPath (hc.plain id d hd)⟩, ?_⟩
  rintro id' ⟨d', hd', hplace⟩
  rw [c.controller.place_concatPath (hc.plain id' d' hd'), Option.some.injEq] at hplace
  exact hc.unique id' id d' d hd' hd (c.controller.below_inj hplace)

section

variable (hc : Tidy c) (hctrl : c'.controller = c.controller) (hsound : Sound c'.fm)

include hc hctrl hsound

/-- Files may go. -/
theorem Tidy.shrink (hrecords : c'.fm.records = c.fm.records)
    (hfiles : ∀ p f, c'.files p = some f → c.files p = some f) : Tidy c' where
  sound := hsound
  plain id d hd := hc.plain id d (hrecords ▸ hd)
  unique id id' d d' hd hd' := hc.unique id id' d d' (hrecords ▸ hd) (hrecords ▸ hd')
  recorded p f hf := by
    rw [hrecords, hctrl]
    exact hc.recorded p f (hfiles p f hf)
  notDir p f hf := hctrl ▸ hc.notDir p f (hfiles p f hf)

/-- A record may go once its file is gone. -/
theorem Tidy.delete {id : Nat} (hrecords : c'.fm.records = update c.fm.records id none)
    (hfiles : ∀ p f, c'.files p = some f → c.files p = some f)
    (hgone : ∀ d, c.fm.records id = some d → c'.files (c.controller.below d.name) = none) :
    Tidy c' := by
  have hkept : ∀ {i d}, c'.fm.records i = some d → c.fm.records i = some d := by
    intro i d hd
    rw [hrecords, update_apply, Option.ite_none_left_eq_some] at hd
    exact hd.2
  refine ⟨hsound, fun i d hd => hc.plain i d (hkept hd),
    fun i i' d d' hd hd' => hc.unique i i' d d' (hkept hd) (hkept hd'), fun p f hf => ?_,
    fun p f hf => hctrl ▸ hc.notDir p f (hfiles p f hf)⟩
  rcases hc.recorded p f (hfiles p f hf) with ⟨i, d, hd, rfl⟩
  refine ⟨i, d, ?_, by rw [hctrl]⟩
  rw [hrecords, update_of_ne, hd]
  rintro rfl
  rw [hgone d hd] at hf
  cases hf

/-- A file may come with its record. -/
theorem Tidy.create {d : NVMeFileDesc} (hplain : Plain d.name)
    (hdir : c.controller.isDir (c.controller.below d.name) = false)
    (hnew : ∀ id e, c.fm.records id = some e → e.name ≠ d.name) {slot : Nat} {f : DataFile}
    (hrecords : c'.fm.records = update c.fm.records slot (some d))
    (hfree : c.fm.records slot = none)
    (hfiles : c'.files = update c.files (c.controller.below d.name) (some f)) :
    Tidy c' := by
  have hcases : ∀ {i e}, c'.fm.records i = some e →
      (i = slot ∧ e = d) ∨ (i ≠ slot ∧ c.fm.records i = some e) := by
    intro i e he
    rw [hrecords, update_apply] at he
    split at he
    next hi => exact .inl ⟨hi, (Option.some.inj he).symm⟩
    next hi => exact .inr ⟨hi, he⟩
  refine ⟨hsound, fun i e he => ?_, fun i i' e e' he he' hname => ?_, fun p g hg => ?_,
    fun p g hg => ?_⟩
  · rcases hcases he with ⟨-, rfl⟩ | ⟨-, he⟩
    · exact hplain
    · exact hc.plain i e he
  · rcases hcases he with ⟨rfl, rfl⟩ | ⟨-, he⟩
    · rcases hcases he' with ⟨rfl, -⟩ | ⟨-, he'⟩
      · rfl
      · exact absurd hname.symm (hnew i' e' he')
    · rcases hcases he' with ⟨rfl, rfl⟩ | ⟨-, he'⟩
      · exact absurd hname (hnew i e he)
      · exact hc.unique i i' e e' he he' hname
  · rw [hrecords, hctrl]
    rw [hfiles, update_apply] at hg
    split at hg
    next hp => exact ⟨slot, d, update_self .., hp⟩
    · rcases hc.recorded p g hg with ⟨i, e, he, hp⟩
      refine ⟨i, e, ?_, hp⟩
      rw [update_of_ne, he]
      rintro rfl
      rw [hfree] at he
      cases he
  · rw [hctrl]
    rw [hfiles, update_apply] at hg
    split at hg
    next hp =>
      rw [hp]
      exact hdir
    · exact hc.notDir p g hg

/-- A file that is taken back is as if it had not been made. -/
theorem Tidy.unlink (hrecords : c'.fm.records = c.fm.records) {path : Bytes} {p : List Bytes}
    (hp : c.controller.place path = some p) (hdir : c.controller.isDir p = false)
    (hfiles : ∀ q, q ≠ p → c'.files q = c.files q) : Tidy (c'.unlink path true).1 := by
  have hunlink := (c'.unlink_eq path true).1
  have hgone := @unlink_gone c' path p (hctrl ▸ hp) (fun _ _ => hctrl ▸ hdir)
  refine hc.shrink (by rw [hunlink, hctrl]) (by rw [hunlink]; exact hsound)
    (by rw [hunlink]; exact hrecords) (fun q g hg => ?_)
  rw [hgone, update_apply] at hg
  split_ifs at hg
  next hq => rwa [hfiles q hq] at hg

end

/-- A call after which the records are still right. A file made for the GPU never is
    one. -/
def Careful (c : ManagedController) : FileCall → Prop
  | .gOpen filename _ oFlag env =>
    Plain filename ∧
    (∀ d, c.fm.records (parseFileIdFromFilename filename) = some d → d.name = filename) ∧
    env.new.make.file.fallocateOk = true ∧ env.new.unlinkOk = true ∧
    (oDevice oFlag = true → c.fm.getFileIdByFilename filename ≠ uint32Max ∧
      c.fileExists (c.controller.joinPath filename) = true)
  | .deleteSingle filename env =>
    ∀ d, c.fm.records (parseFileIdFromFilename filename) = some d →
      d.name = filename ∧ env.unlinkOk = true
  | .delete id env =>
    ∀ d, c.fm.records id = some d → ∀ e, c.fm.records (parseFileIdFromFilename d.name) = some e →
        e.name = d.name ∧ env.unlinkOk = true
  | .deleteAll env _ => ∀ id, (env id).unlinkOk = true
  | .closeDevice _ => True

section

variable (hc : Tidy c) (hplain : Plain filename)
  (hnew : ∀ id d, c.fm.records id = some d → d.name ≠ filename)

include hc hplain hnew

/-- A host file that is made where there is none. -/
theorem tidy_gOpenNewHost (hnone : c.files (c.controller.below filename) = none) {env : NewFileEnv}
    (hroom : env.make.file.fallocateOk = true) (hunlink : env.unlinkOk = true)
    (h : c.gOpenNewHost filename fileSize env = some (c', r)) : Tidy c' := by
  rw [gOpenNewHost] at h
  split at h
  · cases h
  next hcreate =>
    cases h
    rcases createHostFdInternal_made hcreate with ⟨c₁, made, hmade, ⟨rfl, -, rfl⟩ | ⟨-, hr, -⟩⟩
    · cases hmade with
      | refused => exact hc
      | empty _ _ _ hfull => exact absurd (hfull.symm.trans hroom) (by simp)
    · cases hr
  next fd hcreate =>
    rcases createHostFdInternal_made hcreate with ⟨_, _, hmade, ⟨-, hr, -⟩ | ⟨rfl, hr, rfl⟩⟩
    · cases hr
    cases hmade with
    | filled _ _ hp hdir =>
      rw [c.controller.place_concatPath hplain, Option.some.injEq] at hp
      subst hp
      have hname : cStr filename = filename := cStr_of_zero_notMem _ hplain.nulFree
      split at h
      next fm d hrecord =>
        cases h
        cases createFile_entered (hc.sound.withOpenFiles _) hrecord with
        | entered _ _ hfree _ hd hsound hrecords =>
          rw [hname] at hd
          subst hd
          exact hc.create rfl hsound hplain hdir hnew hrecords hfree rfl
      next fm hrecord =>
        cases h
        cases createFile_entered (hc.sound.withOpenFiles _) hrecord with
        | refused =>
          -- The file goes again, and all is as before.
          have hclose := fun x => keeps_hostFileCloseManaged x fd
          rw [hunlink, (hclose _).controller]
          refine hc.unlink ?_ ?_ ?_ (c.controller.place_concatPath hplain) hdir ?_
          · exact (hclose _).controller
          · exact (hclose _).sound (hc.sound.withOpenFiles _)
          · exact (hclose _).records
          · intro q hq
            rw [(hclose _).files]
            exact update_of_ne hq _ _

/-- What is there without a record makes room. -/
theorem tidy_gOpenNew (hroom : env.new.make.file.fallocateOk = true) (hunlink : env.new.unlinkOk = true)
    (h : c.gOpenNew filename fileSize false env = some (c', r)) : Tidy c' := by
  rw [gOpenNew] at h
  split at h
  · cases h
  next c₁ hremove =>
    rcases remove_gone hremove with ⟨hother, hfiles, hgone⟩
    have hctrl : c₁.controller = c.controller := by rw [hother]
    have hfm : c₁.fm = c.fm := by rw [hother]
    refine tidy_gOpenNewHost (hc.shrink hctrl (hfm ▸ hc.sound) (by rw [hfm]) hfiles) hplain
      (hfm ▸ hnew) ?_ hroom hunlink h
    rw [hctrl]
    exact hgone _ (c.controller.place_joinPath hplain)

end

/-- Opening a file that is there changes neither files nor records. -/
theorem gOpenExisting_same (h : c.gOpenExisting filename device env = some (c', r)) :
    c'.controller = c.controller ∧ c'.files = c.files ∧ c'.fm.records = c.fm.records ∧
      (Sound c.fm → Sound c'.fm) := by
  have hsame : ∀ {x}, Keeps c x → x.controller = c.controller ∧ x.files = c.files ∧
      x.fm.records = c.fm.records ∧ (Sound c.fm → Sound x.fm) :=
    fun hk => ⟨hk.controller, hk.files, hk.records, hk.sound⟩
  rw [gOpenExisting] at h
  split at h
  · cases deviceFileOpenManaged_opened h with
    | failed _ hkeeps => exact hsame hkeeps
    | opened _ _ _ _ hkeeps =>
      exact ⟨hkeeps.controller, hkeeps.files, hkeeps.records, hkeeps.sound⟩
  · split at h
    · cases h
    next hopen =>
      cases h
      exact hsame (hostFileOpenManaged_keeps hopen).1

variable {oFlag : Nat}

theorem tidy_gOpen (hc : Tidy c) (hcareful : Careful c (.gOpen filename fileSize oFlag env))
    (h : c.gOpen filename fileSize oFlag env = some (c', r)) : Tidy c' := by
  rcases hcareful with ⟨hplain, hparse, hroom, hunlink, hdevice⟩
  rw [gOpen] at h
  split at h
  · cases h
    exact hc
  split at h
  · cases h
  split at h
  · cases h
    exact hc
  have hplace := c.controller.place_joinPath hplain
  rcases getFileIdByFilename_spec hc.sound filename with ⟨hid, hnew⟩ | ⟨hid, d, hd, hname⟩
  · -- The file is not in the log.
    have hhost : oDevice oFlag = false := by
      rw [← Bool.not_eq_true]
      exact fun hdev => (hdevice hdev).1 hid
    rw [if_pos hid, hhost] at h
    exact tidy_gOpenNew hc hplain hnew hroom hunlink h
  · -- The record that was found is the one with the name.
    have hname : d.name = filename := hname.elim id (hparse d)
    rw [if_neg hid] at h
    split at h
    · rcases gOpenExisting_same h with ⟨hctrl, hfiles, hrecords, hsound⟩
      exact hc.shrink hctrl (hsound hc.sound) hrecords (fun _ _ hf => hfiles ▸ hf)
    next hmissing =>
      have hmissing : c.fileExists (c.controller.joinPath filename) = false := by
        simpa using hmissing
      have hhost : oDevice oFlag = false := by
        rw [← Bool.not_eq_true]
        exact fun hdev => absurd (hdevice hdev).2 (by simp [hmissing])
      have hnone := file_of_not_exists hplace hmissing
      have hdrop := deleteFile_records hc.sound (c.fm.getFileIdByFilename filename) env.new.undo
      have hc₁ : Tidy (c.dropRecord (c.fm.getFileIdByFilename filename) env.new.undo) := by
        refine hc.delete rfl hdrop.1 hdrop.2.1 (fun _ _ hf => hf) (fun e he => ?_)
        rw [hd, Option.some.injEq] at he
        rw [← he, hname]
        exact hnone
      rw [hhost] at h
      refine tidy_gOpenNew hc₁ hplain (fun i e he heq => ?_) hroom hunlink h
      -- Another record of the name would be the same one.
      have he : update c.fm.records (c.fm.getFileIdByFilename filename) none i = some e :=
        hdrop.2.1 ▸ he
      rw [update_apply, Option.ite_none_left_eq_some] at he
      exact he.1 (hc.unique i _ e d he.2 hd (heq.trans hname.symm))

theorem tidy_deleteSingle (hc : Tidy c) {env : DeleteEnv}
    (hcareful : Careful c (.deleteSingle filename env)) :
    Tidy (c.deviceFileDeleteSingleManaged filename env).1 := by
  rcases deleteSingle_deleted hc.sound (Prod.eta _).symm with
    ⟨hsame, -⟩ | ⟨-, -, hdeleted, -⟩
  · rw [hsame]
    exact hc
  · refine hc.delete hdeleted.controller hdeleted.sound hdeleted.records ?_ (fun d hd => ?_)
    · rw [hdeleted.files]
      exact (c.removeFile_eq _ _).2
    · have hname := (hcareful d hd).1
      rw [hdeleted.files, (hcareful d hd).2, ← hname]
      exact removeFile_gone (c.controller.place_concatPath (hc.plain _ d hd)) (hc.notDir _)

theorem tidy_deleteListedLoop {env : Nat → DeleteEnv} (hunlink : ∀ id, (env id).unlinkOk = true)
    (hc : Tidy c) (ids : List Nat) : Tidy (deleteListedLoop env c ids).1 := by
  induction ids generalizing c with
  | nil => exact hc
  | cons id _ ih =>
    rcases deleteListed_eq hc.sound id (env id) with ⟨hother, hsound, hrecords, hfiles, hfile⟩
    have hnext : Tidy (c.deleteListed id (env id)).1 := by
      refine hc.delete (by rw [hother]) hsound hrecords hfiles (fun d hd => ?_)
      rw [hfile d hd, hunlink]
      exact removeFile_gone (c.controller.place_concatPath (hc.plain id d hd)) (hc.notDir _)
    exact ih hnext

/-- A careful call keeps the records right. -/
theorem tidy_step {call : FileCall} (hc : Tidy c) (hcareful : Careful c call)
    (h : call.step c = some c') : Tidy c' := by
  cases call with
  | gOpen =>
    rcases Option.map_eq_some_iff.mp h with ⟨⟨c₁, r⟩, hopen, rfl⟩
    exact tidy_gOpen hc hcareful hopen
  | deleteSingle =>
    cases h
    exact tidy_deleteSingle hc hcareful
  | delete id =>
    cases h
    rw [hostFileDeleteManaged]
    split
    · exact hc
    · cases hd : c.fm.files.lookup id with
      | none => exact hc
      | some d => exact tidy_deleteSingle hc (hcareful d hd)
  | deleteAll env force =>
    cases h
    rw [deviceFileDeleteAllFilesManaged]
    split
    · exact hc
    split
    · exact hc
    · have hloop := tidy_deleteListedLoop hcareful hc c.fm.files.keys
      have hforce := forcePersist_records hloop.sound force
      rcases cleanupDeviceFiles_eq { (deleteListedLoop env c c.fm.files.keys).1 with
        fm := (deleteListedLoop env c c.fm.files.keys).1.fm.forcePersist force } with ⟨gpu, heq⟩
      show Tidy (cleanupDeviceFiles _)
      rw [heq]
      exact hloop.shrink rfl hforce.1 hforce.2 (fun _ _ hf => hf)
  | closeDevice fd =>
    cases h
    have hclosed := c.deviceFileCloseManaged_closed fd
    exact hc.shrink hclosed.controller (hclosed.sound hc.sound) hclosed.records
      (fun _ _ hf => hclosed.files ▸ hf)

/-! ### What holds after any calls -/

/-- The log is sound, and addresses of headers on the GPU have been handed out. -/
structure Handled (c : ManagedController) : Prop where
  sound : Sound c.fm
  addrs : ∀ h ∈ c.deviceFiles, h.deviceFd < c.nextAddr

section

variable (hc : Handled c)

include hc

theorem Handled.sublist (hsound : Sound c'.fm)
    (hfiles : c'.deviceFiles.Sublist c.deviceFiles) (hnext : c.nextAddr ≤ c'.nextAddr) :
    Handled c' :=
  ⟨hsound, fun h hh => Nat.lt_of_lt_of_le (hc.addrs h (hfiles.subset hh)) hnext⟩

theorem Handled.keeps (h : Keeps c c') : Handled c' :=
  hc.sublist (h.sound hc.sound) (h.deviceFiles ▸ List.Sublist.refl _) h.nextAddr

theorem Handled.attach (fd : HostFd) (hdrSize : Nat) (filename : Bytes) :
    Handled (c.attach fd hdrSize filename) := by
  have hnew : c.nextAddr < c.nextAddr + 2 := by omega
  exact ⟨hc.sound, List.forall_mem_append.mpr
    ⟨fun h hh => (hc.addrs h hh).trans hnew, List.forall_mem_singleton.mpr hnew⟩⟩

/-- Files can come and go. -/
theorem Handled.withFiles {files : List Bytes → Option DataFile} {serial : Nat}
    (h : c' = { c with files := files, nextSerial := serial }) : Handled c' := by
  rw [h]
  exact ⟨hc.sound, hc.addrs⟩

theorem Handled.withRecord {names : Nat → Bytes} {fm : FileManager}
    {r : Option NVMeFileDesc} (h : Entered c.fm names fm r) : Handled { c with fm := fm } := by
  cases h with
  | refused => exact hc
  | entered _ _ _ _ _ hsound => exact ⟨hsound, hc.addrs⟩

theorem handled_createHostFdInternal {env : MakeEnv} {r : Option HostFd}
    (h : c.createHostFdInternal blockSize fileSize filename env = some (c', r)) : Handled c' := by
  rcases createHostFdInternal_made h with
    ⟨c₁, _, hmade, ⟨-, -, rfl⟩ | ⟨-, -, rfl⟩⟩
  · exact hc.withFiles hmade.other
  · exact (hc.withFiles hmade.other).keeps (keeps_registerOpenFile c₁ filename _)

theorem handled_gOpenNewHost {env : NewFileEnv}
    (h : c.gOpenNewHost filename fileSize env = some (c', r)) : Handled c' := by
  rw [gOpenNewHost] at h
  split at h
  · cases h
  next hcreate =>
    cases h
    exact handled_createHostFdInternal hc hcreate
  next c₁ fd hcreate =>
    have hc₁ := handled_createHostFdInternal hc hcreate
    split at h
    next fm d hrecord =>
      cases h
      exact hc₁.withRecord (createFile_entered hc₁.sound hrecord)
    next fm hrecord =>
      cases h
      have hc₂ := (hc₁.withRecord (createFile_entered hc₁.sound hrecord)).keeps
        (keeps_hostFileCloseManaged _ fd)
      exact hc₂.withFiles (unlink_eq _ _ _).1

theorem handled_deviceFileCreateManaged {env : NewFileEnv} {cuda : CudaEnv}
    (h : c.deviceFileCreateManaged blockSize fileSize filename env cuda = some (c', r)) :
    Handled c' := by
  rw [deviceFileCreateManaged] at h
  split at h
  · cases h
    exact hc
  split at h
  · cases h
  next hcreate =>
    cases h
    exact handled_createHostFdInternal hc hcreate
  next c₁ fd hcreate =>
    have hc₁ := handled_createHostFdInternal hc hcreate
    split at h
    next fm hrecord =>
      cases h
      exact (hc₁.withRecord (createFile_entered hc₁.sound hrecord)).keeps
        (keeps_hostFileCloseManaged _ fd)
    next fm d hrecord =>
      have hc₂ := hc₁.withRecord (createFile_entered hc₁.sound hrecord)
      split at h
      rename_i c₃ addrs hattach
      cases h
      cases attachFile_attached hattach with
      | failed _ hkeeps => exact hc₂.keeps hkeeps
      | attached => exact hc₂.attach _ _ _

theorem handled_gOpenNewDevice
    (h : c.gOpenNewDevice filename fileSize env = some (c', r)) : Handled c' := by
  rw [gOpenNewDevice] at h
  split at h
  · cases h
  next hcreate =>
    cases h
    exact handled_deviceFileCreateManaged hc hcreate
  next c₁ fd hcreate =>
    have hc₁ := handled_deviceFileCreateManaged hc hcreate
    split at h
    next fm d hrecord =>
      cases h
      exact hc₁.withRecord (createFile_entered hc₁.sound hrecord)
    next fm hrecord =>
      have hc₂ := hc₁.withRecord (createFile_entered hc₁.sound hrecord)
      have hclosed := deviceFileCloseManaged_closed { c₁ with fm := fm } fd
      have hc₃ := hc₂.sublist (hclosed.sound hc₂.sound) hclosed.deviceFiles
        (Nat.le_of_eq hclosed.nextAddr.symm)
      simp only at h
      split at h
      · cases h
      next c₄ hremove =>
        cases h
        exact hc₃.withFiles (remove_gone hremove).1

theorem handled_gOpenNew
    (h : c.gOpenNew filename fileSize device env = some (c', r)) : Handled c' := by
  rw [gOpenNew] at h
  split at h
  · cases h
  next c₁ hremove =>
    have hc₁ := hc.withFiles (remove_gone hremove).1
    split at h
    · exact handled_gOpenNewDevice hc₁ h
    · exact handled_gOpenNewHost hc₁ h

theorem handled_gOpenExisting
    (h : c.gOpenExisting filename device env = some (c', r)) : Handled c' := by
  rw [gOpenExisting] at h
  split at h
  · cases deviceFileOpenManaged_opened h with
    | failed _ hkeeps => exact hc.keeps hkeeps
    | opened _ _ _ _ hkeeps => exact (hc.keeps hkeeps).attach _ _ _
  · split at h
    · cases h
    next hopen =>
      cases h
      exact hc.keeps (hostFileOpenManaged_keeps hopen).1

theorem Handled.dropRecord (id : Nat) (env : WriteEnv) : Handled (c.dropRecord id env) :=
  ⟨(deleteFile_records hc.sound id env).1, hc.addrs⟩

theorem handled_gOpen (h : c.gOpen filename fileSize oFlag env = some (c', r)) : Handled c' := by
  rw [gOpen] at h
  split at h
  · cases h
    exact hc
  split at h
  · cases h
  split at h
  · cases h
    exact hc
  simp only at h
  split at h
  · exact handled_gOpenNew hc h
  split at h
  · exact handled_gOpenExisting hc h
  · exact handled_gOpenNew (hc.dropRecord _ _) h

theorem handled_deleteSingle (filename : Bytes) (env : DeleteEnv) :
    Handled (c.deviceFileDeleteSingleManaged filename env).1 := by
  rcases deleteSingle_deleted hc.sound (Prod.eta _).symm with
    ⟨hsame, -⟩ | ⟨-, -, hdeleted, -⟩
  · rw [hsame]
    exact hc
  · refine hc.sublist hdeleted.sound ?_ (Nat.le_of_eq hdeleted.nextAddr.symm)
    rw [hdeleted.deviceFiles]
    exact c.deviceFiles_forgetDeviceFile filename

end

theorem handled_deleteListedLoop (env : Nat → DeleteEnv) (hc : Handled c) (ids : List Nat) :
    Handled (deleteListedLoop env c ids).1 := by
  induction ids generalizing c with
  | nil => exact hc
  | cons id _ ih =>
    rcases deleteListed_eq hc.sound id (env id) with ⟨hother, hsound, -⟩
    have hnext : Handled (c.deleteListed id (env id)).1 := by
      refine hc.sublist hsound ?_ ?_
      · rw [hother]
      · rw [hother]
    exact ih hnext

/-- Any call keeps what holds after any calls. -/
theorem handled_step {call : FileCall} (hc : Handled c) (h : call.step c = some c') :
    Handled c' := by
  cases call with
  | gOpen =>
    rcases Option.map_eq_some_iff.mp h with ⟨⟨c₁, r⟩, hopen, rfl⟩
    exact handled_gOpen hc hopen
  | deleteSingle filename env =>
    cases h
    exact handled_deleteSingle hc filename env
  | delete id env =>
    cases h
    rw [hostFileDeleteManaged]
    split
    · exact hc
    split
    · exact hc
    · exact handled_deleteSingle hc _ env
  | deleteAll env force =>
    cases h
    rw [deviceFileDeleteAllFilesManaged]
    split
    · exact hc
    split
    · exact hc
    · have hloop := handled_deleteListedLoop env hc c.fm.files.keys
      rcases cleanupDeviceFiles_eq { (deleteListedLoop env c c.fm.files.keys).1 with
        fm := (deleteListedLoop env c c.fm.files.keys).1.fm.forcePersist force } with ⟨gpu, heq⟩
      show Handled (cleanupDeviceFiles _)
      rw [heq]
      exact ⟨(forcePersist_records hloop.sound force).1, by simp⟩
  | closeDevice fd =>
    cases h
    have hclosed := c.deviceFileCloseManaged_closed fd
    exact hc.sublist (hclosed.sound hc.sound) hclosed.deviceFiles
      (Nat.le_of_eq hclosed.nextAddr.symm)

/-! ### Handles of the GPU -/

/-- There is an `NVMe_File` at an address, with the header of the file that the name
    leads to, open on that file. -/
def Denotes (c : ManagedController) (filename : Bytes) (fd : Nat) : Prop :=
  ∃ a p f hdr, c.gpu fd = some (.nvmeFile a) ∧ c.gpu a = some (.header hdr f.serial) ∧
    c.controller.place (c.controller.joinPath filename) = some p ∧ c.files p = some f ∧
    f.hdr = some hdr

/-- `device_file_close_managed` knows an address. -/
def Accepts (c : ManagedController) (fd : Nat) : Prop := (c.deviceFileCloseManaged fd).2 = true

variable {fd : Nat} (ctrl : Controller)

/-- A file that is opened for the GPU has an `NVMe_File` that cannot be closed. -/
theorem deviceOpened_handle (hc : Handled c) (h : DeviceOpened c filename c' (some fd)) :
    Denotes c' filename fd ∧ ¬ Accepts c' fd := by
  cases h with
  | opened c₁ hostFd p f hkeeps hp hf hhdr hfd =>
    have hc₁ := hc.keeps hkeeps
    constructor
    · refine ⟨c₁.nextAddr, p, f, hostFd.hdr, attach_gpu_nvmeFile .., ?_, ?_, ?_, hhdr⟩
      · rw [← hfd]
        exact attach_gpu_header ..
      · show c₁.controller.place (c₁.controller.joinPath filename) = some p
        rw [hkeeps.controller]
        exact hp
      · show c₁.files p = some f
        rw [hkeeps.files]
        exact hf
    · rw [Accepts, deviceFileCloseManaged]
      split
      · simp
      · have hfind : (c₁.attach hostFd hostFd.hdr.firstBlockBase filename).deviceFiles.find?
            (fun h => h.deviceFd == c₁.nextAddr + 1) = none := by
          rw [List.find?_eq_none]
          intro h hh
          rcases List.mem_append.mp hh with hh | hh
          · have := hc₁.addrs h hh
            simp only [beq_iff_eq]
            omega
          · rw [List.mem_singleton.mp hh]
            simp
        rw [hfind]
        simp

/-- What a file that is made for the GPU comes with: a record, and the address of a
    header. -/
structure DeviceMade (c : ManagedController) (filename : Bytes) (c' : ManagedController)
    (fd : Nat) : Prop where
  initialized : c'.initialized = true
  controller : c'.controller = c.controller
  sound : Sound c'.fm
  file : ∃ p f, c.controller.place (c.controller.concatPath filename) = some p ∧ c'.files p = some f
  header : ∃ hdr file, c'.gpu fd = some (.header hdr file)
  handle : ∃ h ∈ c'.deviceFiles, h.deviceFd = fd
  record : ∃ id d, c'.fm.records id = some d ∧ d.name = cStr filename

theorem deviceFileCreateManaged_made (hc : Handled c) {env : NewFileEnv} {cuda : CudaEnv}
    (h : c.deviceFileCreateManaged blockSize fileSize filename env cuda = some (c', some fd)) :
    DeviceMade c filename c' fd := by
  rw [deviceFileCreateManaged] at h
  split at h
  · cases h
  rename_i hinit
  split at h
  · cases h
  · cases h
  next c₁ hostFd hcreate =>
    have hc₁ := handled_createHostFdInternal hc hcreate
    rcases createHostFdInternal_made hcreate with ⟨_, _, hmade, ⟨-, hr, -⟩ | ⟨rfl, -, rfl⟩⟩
    · cases hr
    cases hmade with
    | filled p _ hp =>
      split at h
      · cases h
      rename_i fm d hrecord
      split at h
      rename_i c₃ addrs hattach
      rw [Option.some.injEq, Prod.mk.injEq] at h
      rcases h with ⟨rfl, hfd⟩
      cases attachFile_attached hattach with
      | failed => cases hfd
      | attached =>
        rw [Option.map_some, Option.some.injEq] at hfd
        subst hfd
        cases createFile_entered hc₁.sound hrecord with
        | entered _ _ _ _ hname hsound hrecords =>
          have hinit : c.initialized = true := by simpa using hinit
          refine ⟨hinit, rfl, hsound, ⟨p, _, hp, update_self ..⟩, ⟨_, _, attach_gpu_header ..⟩,
            ⟨_, List.mem_append_right _ (List.mem_singleton_self _), rfl⟩,
            d.slotIndex.toNat, d, ?_, hname⟩
          show fm.records _ = _
          rw [hrecords, update_self]

/-- The path of a name ends where C sees the name end. -/
theorem place_concatPath_cStr (filename : Bytes) :
    ctrl.place (ctrl.concatPath (cStr filename)) = ctrl.place (ctrl.concatPath filename) := by
  have hslash : ∀ bs, cStr (slash :: bs) = slash :: cStr bs := fun bs =>
    cStr_append [slash] bs (by decide)
  have hidem : cStr (cStr filename) = cStr filename :=
    cStr_of_zero_notMem _ (fun hmem => absurd (List.mem_takeWhile_imp hmem) (by simp))
  rw [place, place, concatPath, concatPath, cStr_append _ _ ctrl.nulFree,
    cStr_append _ _ ctrl.nulFree, hslash, hslash, hidem]

/-- A file that is made for the GPU has two records, and a handle that can be closed
    and is not an `NVMe_File`. -/
theorem gOpenNewDevice_handle (hc : Handled c)
    (h : c.gOpenNewDevice filename fileSize env = some (c', some fd)) :
    Accepts c' fd ∧ (∀ name, ¬ Denotes c' name fd) ∧ ¬ RecordedOnce c' := by
  rw [gOpenNewDevice] at h
  split at h
  · cases h
  · cases h
  next c₁ fd₁ hcreate =>
    have hmade := deviceFileCreateManaged_made hc hcreate
    split at h
    next fm d hrecord =>
      cases h
      refine ⟨?_, fun _ hdenotes => ?_, fun honce => ?_⟩
      · rcases hmade.handle with ⟨hand, hmem, rfl⟩
        have hfind : (c₁.deviceFiles.find? (fun h => h.deviceFd == hand.deviceFd)).isSome :=
          List.find?_isSome.mpr ⟨hand, hmem, beq_self_eq_true _⟩
        rcases Option.isSome_iff_exists.mp hfind with ⟨_, hfound⟩
        rw [Accepts, deviceFileCloseManaged, if_neg (by simp [hmade.initialized]), hfound]
      · rcases hdenotes with ⟨a, p, f, -, hfile, -⟩
        rcases hmade.header with ⟨hdr', file, hheader⟩
        have hboth : some (GpuObject.nvmeFile a) = some (GpuObject.header hdr' file) :=
          hfile.symm.trans hheader
        cases hboth
      · rcases hmade.file with ⟨p, f, hp, hf⟩
        rcases hmade.record with ⟨id, e, he, hname⟩
        cases createFile_entered hmade.sound hrecord with
        | entered _ _ hfree _ hname' _ hrecords =>
          rcases honce p f hf with ⟨i, -, huniq⟩
          have hne : id ≠ d.slotIndex.toNat := by
            rintro rfl
            rw [hfree] at he
            cases he
          have hplace : ∀ n, n = cStr filename →
              c₁.controller.place (c₁.controller.concatPath n) = some p := by
            rintro n rfl
            rw [place_concatPath_cStr, hmade.controller]
            exact hp
          have hfirst := huniq id ⟨e, by
            rw [hrecords, update_of_ne hne, he], hplace _ hname⟩
          have hsecond := huniq d.slotIndex.toNat ⟨d, by
            rw [hrecords, update_self], hplace _ hname'⟩
          exact hne (hfirst.trans hsecond.symm)
    · simp only at h
      split at h
      · cases h
      · cases h

/-- Whether `g_open` finds the file in the log and in the directory. -/
def Finds (c : ManagedController) (filename : Bytes) : Prop :=
  c.fm.getFileIdByFilename filename ≠ uint32Max ∧
    c.fileExists (c.controller.joinPath filename) = true

/-- What `g_open` returns for the GPU depends on whether there was a file. -/
theorem gOpen_device (hc : Handled c) (hdevice : oDevice oFlag = true)
    (h : c.gOpen filename fileSize oFlag env = some (c', some fd)) :
    (Finds c filename → Denotes c' filename fd ∧ ¬ Accepts c' fd) ∧
    (¬ Finds c filename → Accepts c' fd ∧ (∀ name, ¬ Denotes c' name fd) ∧ ¬ RecordedOnce c') := by
  have hnew : ∀ {x}, Handled x → x.gOpenNew filename fileSize true env = some (c', some fd) →
      Accepts c' fd ∧ (∀ name, ¬ Denotes c' name fd) ∧ ¬ RecordedOnce c' := by
    intro x hx hnew
    rw [gOpenNew] at hnew
    split at hnew
    · cases hnew
    next c₁ hremove => exact gOpenNewDevice_handle (hx.withFiles (remove_gone hremove).1) hnew
  rw [gOpen] at h
  iterate 3
    split at h
    · cases h
  simp only [hdevice] at h
  split at h
  next hid => exact ⟨fun hfinds => absurd hid hfinds.1, fun _ => hnew hc h⟩
  rename_i hid
  split at h
  next hexists =>
    exact ⟨fun _ => deviceOpened_handle hc (deviceFileOpenManaged_opened h),
      fun hfinds => absurd ⟨hid, hexists⟩ hfinds⟩
  next hexists => exact ⟨fun hfinds => absurd hfinds.2 hexists, fun _ => hnew (hc.dropRecord _ _) h⟩

/-- Along careful calls, each file has exactly one record. A handle for the GPU either
    denotes the `NVMe_File` of its file or can be closed, and never both: the one if
    there was a file, the other if it was made, with two records. -/
theorem gOpen_records_and_handles (c c' : ManagedController) (calls : List FileCall)
    (hc : Tidy c) (hhandles : Handled c)
    (hrun : run (lift FileCall.step) (some c) calls = some c') :
    (Runs.Along (lift FileCall.step)
      (fun s call => ∀ t, s = some t → Careful t call) (some c) calls → RecordedOnce c') ∧
    ∀ filename fileSize oFlag env c'' fd, oDevice oFlag = true →
      c'.gOpen filename fileSize oFlag env = some (c'', some fd) →
      (Denotes c'' filename fd ↔ Finds c' filename) ∧ (Accepts c'' fd ↔ ¬ Finds c' filename) ∧
      (¬ Finds c' filename → ¬ RecordedOnce c'') := by
  constructor
  · intro hcareful
    exact (run_lift_invariant (fun s a t hs ha ht => tidy_step hs ha ht) hc hcareful
      hrun).recordedOnce
  · intro filename _ _ _ _ _ hdevice hopen
    have hhandled : Handled c' :=
      run_lift_invariant (P := fun _ _ => True) (fun s a t hs _ ht => handled_step hs ht)
        hhandles (along_of_forall (fun _ _ _ _ _ => trivial)) hrun
    rcases gOpen_device hhandled hdevice hopen with ⟨hfound, hmade⟩
    by_cases hfinds : Finds c' filename
    · have hhandle := hfound hfinds
      exact ⟨⟨fun _ => hfinds, fun _ => hhandle.1⟩,
        ⟨fun hacc => absurd hacc hhandle.2, fun hno => absurd hfinds hno⟩,
        fun hno => absurd hfinds hno⟩
    · have hhandle := hmade hfinds
      exact ⟨⟨fun hden => absurd hden (hhandle.2.1 filename), fun hf => absurd hf hfinds⟩,
        ⟨fun _ => hfinds, fun _ => hhandle.1⟩, fun _ => hhandle.2.2⟩

theorem records_fresh (id : Nat) : (fresh ctrl).fm.records id = none := rfl

theorem tidy_fresh : Tidy (fresh ctrl) where
  sound := sound_fresh 1000
  plain id d hd := absurd hd (by simp [records_fresh])
  unique id id' d d' hd := absurd hd (by simp [records_fresh])
  recorded p f hf := absurd hf (by simp [fresh])
  notDir p f hf := absurd hf (by simp [fresh])

theorem handled_fresh : Handled (fresh ctrl) :=
  ⟨sound_fresh 1000, fun h hh => absurd hh (by simp [fresh])⟩

/-- Calls that succeed, for a file of one piece. -/
def openOk : GOpenEnv where
  new := madeWith [] [oneExtent]
  second := FileManager.writesOk 3
  openEnv := ⟨true, [], cudaOk⟩
  removeOk := true

theorem gOpen_records_and_handles_host : ∃ c', run (lift FileCall.step) (some (fresh mountM))
      [.gOpen [97] 8192 0 openOk] = some c' ∧ RecordedOnce c' := by
  have hrun : (run (lift FileCall.step) (some (fresh mountM))
      [.gOpen [97] 8192 0 openOk]).isSome = true := by decide
  rcases Option.isSome_iff_exists.mp hrun with ⟨c', hrun⟩
  refine ⟨c', hrun, (gOpen_records_and_handles _ _ _ (tidy_fresh _) (handled_fresh _) hrun).1 ?_⟩
  refine ⟨fun t ht => ?_, trivial⟩
  cases ht
  exact ⟨⟨⟨by decide, by decide, by decide⟩, by decide, by decide⟩,
    fun d hd => absurd hd (by simp [records_fresh]), rfl, rfl,
    nofun⟩

/-- A file made for the GPU has two records, and the address of a header for a handle.
    Opened again, it has the address of an `NVMe_File`, which cannot be closed. -/
theorem gOpen_device_not_uniform : (((fresh mountM).gOpen [97] 8192 0x20000000 openOk).map fun s =>
      ((s.1.fm.records 0).map NVMeFileDesc.name, (s.1.fm.records 1).map NVMeFileDesc.name,
        s.2.bind s.1.gpu)) =
      some (some [97], some [97], some (.header (ownHdr 4096 8192 []) 0)) ∧
    ((((fresh mountM).gOpen [97] 8192 0x20000000 openOk).bind fun s =>
      s.1.gOpen [97] 8192 0x20000000 openOk).map fun s =>
        (s.2.bind s.1.gpu, s.2.map fun fd => (s.1.deviceFileCloseManaged fd).2)) =
      some (some (.nvmeFile 5), some false) := by
  decide

end ManagedController

end Geminifs.Gemini
