import Geminifs.Core.NvmeController
import Geminifs.Theory.Files.Records

/-!
# Operations of a Controller

What the operations of a controller do to its directory, to the records of its file
manager and to GPU memory, said once for each of them.

A record enters a free slot or it does not (`Entered`). A file is refused, left
empty or filled (`Made`). Opening a file and giving it to the GPU leave both alone
(`Keeps`); what they add is a handle (`Attached`).

## Main definitions

* `FileManager.records`: The records by id.
* `FileManager.Entered`: What creating a record can do.
* `Controller.below`: Where a plain name leads.
* `Made`: What `makeFile` can do.
* `Keeps`: Nothing is lost.
* `Attached`: What `attachFile` can do.
* `DeviceOpened`: What opening a file for the GPU can do.
* `Deleted`: What deleting a file does.

## Theorems

* `createFile_entered`, `createFileAuto_entered`, `deleteFile_records`: The records.
* `place_concatPath`, `place_joinPath`: Both ways to name a file lead to the same place.
* `makeFile_made`, `attachFile_attached`: The two do what they can.
* `createHostFdInternal_made`, `hostFileOpenManaged_keeps`,
  `deviceFileOpenManaged_opened`, `deleteSingle_deleted`: The functions built on them.
-/

namespace Geminifs.Gemini

open SlotLog Function

variable {r : Option NVMeFileDesc}

namespace FileManager

variable {fm fm' : FileManager} {filename : Bytes} {size : UInt64} {env : WriteEnv}

/-! ### Records -/

/-- The records by id. -/
def records (fm : FileManager) : Nat → Option NVMeFileDesc := fun id => fm.files.lookup id

/-- Creating a record: there is no room, or it enters a free slot with the name of
    the slot. -/
inductive Entered (fm : FileManager) (names : Nat → Bytes) :
    FileManager → Option NVMeFileDesc → Prop where
  | refused : Entered fm names fm none
  | entered (fm' : FileManager) (d : NVMeFileDesc)
      (hfree : fm.records d.slotIndex.toNat = none) (hlt : d.slotIndex.toNat < maxRecords)
      (hname : d.name = names d.slotIndex.toNat) (hsound : Sound fm')
      (hrecords : fm'.records = update fm.records d.slotIndex.toNat (some d)) :
      Entered fm names fm' (some d)

theorem name_newDesc (slot : Nat) (h : filename.length < 16) (size now : UInt64) :
    (newDesc slot filename size now).name = cStr filename := by
  have hlen : (cStr filename).length ≤ 15 := by
    have hle : (cStr filename).length ≤ filename.length := (List.takeWhile_sublist _).length_le
    omega
  have hnul : 0 ∉ cStr filename := by
    intro hmem
    cases List.mem_takeWhile_imp hmem
  show cStr (nameField filename) = cStr filename
  rw [nameField, List.take_of_length_le hlen, cStr_padTo _ _ hnul]

theorem Placed.entered (hs : Sound fm) {names names' : Nat → Bytes}
    (h : Placed fm names size env (fm', r)) (hnames : ∀ slot, names' slot = cStr (names slot)) :
    Entered fm names' fm' r := by
  cases h with
  | refused => exact .refused
  | placed slot hslot hlen =>
    have hspec := findNextFreeSlot_spec fm.bitmap
    rw [hslot] at hspec
    have hd := newDesc_slotIndex hspec.1 (names slot) size env.now
    refine .entered _ _ ?_ (hd.trans_lt hspec.1) ?_ ((hs.occupy hspec.1 hd).countWrite env) ?_
    · have hbit := hs.bits slot
      rw [hspec.2.1] at hbit
      rw [hd]
      exact Option.isNone_iff_eq_none.mp (Option.isSome_eq_false_iff.mp hbit.symm)
    · rw [hd, hnames, name_newDesc slot hlen]
    · funext i
      rw [records, countWrite_files, hd, update_apply]
      exact lookup_insert_apply

theorem createFile_entered (hs : Sound fm) (h : fm.createFile filename size env = (fm', r)) :
    Entered fm (fun _ => cStr filename) fm' r :=
  Placed.entered hs (h ▸ createFile_placed fm filename size env) (fun _ => rfl)

theorem createFileAuto_entered (hs : Sound fm)
    (h : fm.createFileAuto size env = (fm', r)) : Entered fm decimal fm' r :=
  Placed.entered hs (h ▸ createFileAuto_placed fm size env)
    (fun slot => (cStr_of_zero_notMem _ (decimal_ordinary slot).2.2).symm)

/-- The record that is returned is the one in the map. -/
theorem records_createFileAuto {d : NVMeFileDesc} (h : fm.createFileAuto size env = (fm', some d)) :
    fm'.records d.slotIndex.toNat = some d := by
  have hspec := findNextFreeSlot_spec fm.bitmap
  have hplaced := createFileAuto_placed fm size env
  rw [h] at hplaced
  cases hplaced with
  | placed slot hslot =>
    rw [hslot] at hspec
    rw [newDesc_slotIndex hspec.1, records, countWrite_files]
    exact AList.lookup_insert _

theorem deleteFile_records (hs : Sound fm) (id : Nat) (env : WriteEnv) :
    Sound (fm.deleteFile id env).1 ∧ (fm.deleteFile id env).1.records = update fm.records id none ∧
      (fm.deleteFile id env).2 = (fm.records id).isSome := by
  refine ⟨hs.effect (deleteFile_effect hs id env), ?_⟩
  rw [deleteFile]
  cases hd : fm.files.lookup id with
  | none =>
    have hnone : fm.records id = none := hd
    exact ⟨(hnone ▸ update_eq_self id fm.records).symm, by rw [hnone]; rfl⟩
  | some d =>
    have hsome : fm.records id = some d := hd
    refine ⟨funext fun i => ?_, by rw [hsome]; rfl⟩
    simp only [records, countWrite_files, update_apply]
    exact lookup_erase_apply

/-- `getFileIdByFilename` returns a file whose name or id is the given one, or there
    is no file of that name. -/
theorem getFileIdByFilename_spec (hs : Sound fm) (filename : Bytes) :
    (fm.getFileIdByFilename filename = uint32Max ∧
      ∀ id d, fm.records id = some d → d.name ≠ filename) ∨
    (fm.getFileIdByFilename filename ≠ uint32Max ∧
      ∃ d, fm.records (fm.getFileIdByFilename filename) = some d ∧
        (d.name = filename ∨ fm.records (parseFileIdFromFilename filename) = some d)) := by
  have hslot : ∀ {id d}, fm.records id = some d → id ≠ uint32Max := fun hd =>
    Nat.ne_of_lt (Nat.lt_trans (hs.slot hd).1 (by decide))
  rw [getFileIdByFilename]
  split
  next hparsed =>
    rcases Option.isSome_iff_exists.mp hparsed.2 with ⟨d, hd⟩
    exact .inr ⟨hparsed.1, d, hd, .inr hd⟩
  · cases hfind : fm.files.entries.find? (fun e => e.2.name == filename) with
    | none =>
      refine .inl ⟨rfl, fun id d hd hname => ?_⟩
      have hmem : (⟨id, d⟩ : Sigma fun _ : Nat => NVMeFileDesc) ∈ fm.files.entries :=
        AList.mem_lookup_iff.mp hd
      have hno := List.find?_eq_none.mp hfind _ hmem
      exact hno (beq_iff_eq.mpr hname)
    | some e =>
      have hd : fm.records e.1 = some e.2 :=
        AList.mem_lookup_iff.mpr (List.mem_of_find?_eq_some hfind)
      have hname : e.2.name = filename := by simpa using List.find?_some hfind
      exact .inr ⟨hslot hd, e.2, hd, .inl hname⟩

theorem forcePersist_records (hs : Sound fm) (env : WriteEnv) :
    Sound (fm.forcePersist env) ∧ (fm.forcePersist env).records = fm.records := by
  rw [forcePersist]
  split
  · exact ⟨hs.persistBitmap env, rfl⟩
  · exact ⟨hs, rfl⟩

theorem Sound.withOpenFiles (hs : Sound fm) (hands : List OpenFileHandle) :
    Sound { fm with openFiles := hands } := ⟨hs.header, hs.log, hs.bits, hs.cells⟩

end FileManager

namespace Controller

variable {filename : Bytes}

/-! ### Names -/

/-- A name of a file in the mount point. -/
structure Plain (filename : Bytes) : Prop where
  ordinary : Ordinary filename
  slashFree : slash ∉ filename
  nulFree : 0 ∉ filename

/-- The place of a file in the mount point. -/
def below (ctrl : Controller) (filename : Bytes) : List Bytes :=
  resolve ctrl.devMountPath ++ [filename]

variable (ctrl : Controller)

theorem isDir_of_mem_ancestors : ∀ q ∈ ancestors ctrl.devMountPath, ctrl.isDir q = true :=
  fun _ hq => decide_eq_true hq

theorem place_concatPath (h : Plain filename) :
    ctrl.place (ctrl.concatPath filename) = some (ctrl.below filename) := by
  have hnul : 0 ∉ slash :: filename := List.not_mem_cons_of_ne_of_not_mem (by decide) h.nulFree
  rw [place, concatPath, cStr_append _ _ ctrl.nulFree, cStr_of_zero_notMem _ hnul]
  exact follow_below ctrl.isDir _ filename ctrl.isDir_of_mem_ancestors h.ordinary h.slashFree

/-- A slash at the end of the mount path, or one more, makes no difference. -/
theorem place_buildFilePath (h : Plain filename) :
    ctrl.place (ctrl.buildFilePath filename) = some (ctrl.below filename) := by
  rw [buildFilePath]
  split
  next hend =>
    have hnul : 0 ∉ ctrl.devMountPath ++ filename := List.not_mem_append ctrl.nulFree h.nulFree
    rw [place, cStr_of_zero_notMem _ hnul, below]
    rcases hend with hempty | hlast
    · rw [hempty, List.nil_append, follow, splitPath_of_noSlash _ h.slashFree]
      have hroot : ctrl.isDir [] = true := by
        rw [isDir, hempty]
        rfl
      rw [walk, if_pos hroot, enter_ordinary _ _ h.ordinary]
      rfl
    · -- The path up to the last slash leads to the mount point as well.
      rcases List.getLast?_eq_some_iff.mp hlast with ⟨dir, hdir⟩
      have hsplit : splitPath ctrl.devMountPath = splitPath dir ++ [[]] := by
        rw [hdir, splitPath_append]
        rfl
      have hresolve : resolve ctrl.devMountPath = resolve dir := by
        rw [resolve, hsplit, List.foldl_append]
        rfl
      have hdirs : ∀ q ∈ ancestors dir, ctrl.isDir q = true := by
        intro q hq
        refine ctrl.isDir_of_mem_ancestors q ?_
        rw [ancestors, hsplit, List.scanl_append]
        exact List.mem_append_left _ hq
      rw [hresolve, hdir, List.append_assoc]
      exact follow_below ctrl.isDir dir filename hdirs h.ordinary h.slashFree
  · exact ctrl.place_concatPath h

theorem place_joinPath (h : Plain filename) :
    ctrl.place (ctrl.joinPath filename) = some (ctrl.below filename) := by
  rw [joinPath, if_neg ?_]
  · exact ctrl.place_buildFilePath h
  · intro hhead
    exact h.slashFree (List.mem_of_mem_head? hhead)

theorem below_inj {a b : Bytes} (h : ctrl.below a = ctrl.below b) : a = b := by
  simpa [below] using h

end Controller

namespace ManagedController

open FileManager

variable {c c' : ManagedController} {path filename : Bytes} {p : List Bytes}

/-- A new controller on an empty mount point. -/
def fresh (controller : Controller) : ManagedController where
  initialized := true
  controller := controller
  fm := FileManager.fresh 1000
  files := fun _ => none
  deviceFiles := []
  gpu := fun _ => none
  nextAddr := 1
  nextSerial := 0

/-! ### Making a file -/

@[simp] theorem setFile_files (c : ManagedController) (p : List Bytes) (f : Option DataFile) :
    (c.setFile p f).files = update c.files p f := rfl

@[simp] theorem newFile_files (c : ManagedController) (p : List Bytes) (length : Nat)
    (hdr : Option GeminiHdr) : (c.newFile p length hdr).files =
      update c.files p (some ⟨c.nextSerial, length, hdr⟩) := rfl

/-- What `makeFile` does: nothing, an empty file, or a file with its header. -/
inductive Made (c : ManagedController) (path : Bytes) (hdr : GeminiHdr) (env : CreateEnv) :
    ManagedController → Bool → Prop where
  | refused : Made c path hdr env c false
  | empty (p : List Bytes) (hp : c.controller.place path = some p) (hdir : c.controller.isDir p = false)
      (hfull : env.fallocateOk = false) : Made c path hdr env (c.newFile p 0 none) false
  | filled (p : List Bytes) (stored : GeminiHdr) (hp : c.controller.place path = some p)
      (hdir : c.controller.isDir p = false) (hopen : env.openOk = true)
      (hroom : env.fallocateOk = true) (hrefine : hostRefineNvmeofst hdr env = some stored) :
      Made c path hdr env
        (c.newFile p (geminiHdrMaxSize + hdr.virtualSpaceSize) (some stored)) true

theorem makeFile_made {hdr : GeminiHdr} {env : CreateEnv} {made : Bool}
    (h : c.makeFile path hdr env = some (c', made)) : Made c path hdr env c' made := by
  rw [makeFile] at h
  cases hp : c.controller.place path with
  | none =>
    rw [hp] at h
    cases h
    exact .refused
  | some p =>
    rw [hp] at h
    simp only at h
    split at h
    · cases h
      exact .refused
    rename_i hrefused
    rw [not_or, not_not, Bool.not_eq_true] at hrefused
    split at h
    next hfull =>
      cases h
      exact .empty p hp hrefused.2 (by simpa using hfull)
    rename_i hroom
    cases hrefine : hostRefineNvmeofst hdr env with
    | none =>
      rw [hrefine] at h
      cases h
    | some stored =>
      rw [hrefine] at h
      cases h
      exact .filled p stored hp hrefused.2 hrefused.1 (by simpa using hroom) hrefine

/-- A file that is made or not leaves all but the directory alone. -/
theorem Made.other {hdr : GeminiHdr} {env : CreateEnv} {made : Bool}
    (h : Made c path hdr env c' made) :
    c' = { c with files := c'.files, nextSerial := c'.nextSerial } := by
  cases h <;> rfl

/-- `create_host_fd_internal` makes a file and then only notes that it is open. What
    it returns is the header in its memory. -/
theorem createHostFdInternal_made {blockSize fileSize : Nat} {env : MakeEnv} {r : Option HostFd}
    (h : c.createHostFdInternal blockSize fileSize filename env = some (c', r)) :
    ∃ c₁ made, Made c (c.controller.concatPath filename) (ownHdr blockSize fileSize env.memory)
      env.file c₁ made ∧ ((made = false ∧ r = none ∧ c' = c₁) ∨
        (made = true ∧ r = some ⟨c₁.nextAddr, ownHdr blockSize fileSize env.memory, c.nextSerial⟩ ∧
          c' = { c₁ with nextAddr := c₁.nextAddr + 1 }.registerOpenFile c₁.nextAddr filename
            geminiHdrMaxSize)) := by
  rw [createHostFdInternal] at h
  split at h
  · cases h
  split at h
  · cases h
    exact ⟨c, false, .refused, .inl ⟨rfl, rfl, rfl⟩⟩
  split at h
  · cases h
  next hmake =>
    cases h
    exact ⟨c', false, makeFile_made hmake, .inl ⟨rfl, rfl, rfl⟩⟩
  next c₁ hmake =>
    cases h
    exact ⟨c₁, true, makeFile_made hmake, .inr ⟨rfl, rfl, rfl⟩⟩

/-! ### Removing files -/

/-- `unlink` changes at most the file that the path leads to. -/
theorem unlink_eq (c : ManagedController) (path : Bytes) (ok : Bool) :
    (c.unlink path ok).1 = { c with files := (c.unlink path ok).1.files } ∧
      ∀ p f, (c.unlink path ok).1.files p = some f → c.files p = some f := by
  rw [unlink]
  split
  · exact ⟨rfl, fun _ _ hf => hf⟩
  split
  · refine ⟨rfl, fun p f hf => ?_⟩
    rw [setFile_files, update_apply, Option.ite_none_left_eq_some] at hf
    exact hf.2
  · exact ⟨rfl, fun _ _ hf => hf⟩

/-- A file that can be unlinked is gone. -/
theorem unlink_gone (hp : c.controller.place path = some p)
    (hdir : ∀ f, c.files p = some f → c.controller.isDir p = false) :
    (c.unlink path true).1.files = update c.files p none := by
  rw [unlink, hp]
  simp only [Bool.true_and]
  cases hf : c.files p with
  | none =>
    simp only [Option.isSome_none, Bool.and_false, Bool.false_eq_true, if_false]
    rw [← hf, update_eq_self]
  | some f => simp only [hdir f hf, Bool.not_false, Option.isSome_some, Bool.and_self, if_true,
      setFile_files]

theorem removeFile_eq (c : ManagedController) (path : Bytes) (ok : Bool) :
    (c.removeFile path ok).1 = { c with files := (c.removeFile path ok).1.files } ∧
      ∀ p f, (c.removeFile path ok).1.files p = some f → c.files p = some f := by
  rw [removeFile]
  split
  · exact ⟨rfl, fun _ _ hf => hf⟩
  · exact c.unlink_eq path ok

/-- The files at other places stay. -/
theorem removeFile_other (c : ManagedController) (hp : c.controller.place path = some p) (ok : Bool)
    {q : List Bytes} (hq : q ≠ p) : (c.removeFile path ok).1.files q = c.files q := by
  rw [removeFile]
  split
  · rfl
  rw [unlink, hp]
  simp only
  split
  · rw [setFile_files, update_of_ne hq]
  · rfl

/-- What is not there has no file. -/
theorem file_of_not_exists (hp : c.controller.place path = some p) (h : c.fileExists path = false) :
    c.files p = none := by
  rw [fileExists, hp] at h
  simp only [Bool.or_eq_false_iff] at h
  exact Option.isNone_iff_eq_none.mp (Option.isSome_eq_false_iff.mp h.2)

theorem removeFile_gone (hp : c.controller.place path = some p)
    (hdir : ∀ f, c.files p = some f → c.controller.isDir p = false) :
    (c.removeFile path true).1.files p = none := by
  rw [removeFile]
  split
  next hnone => exact file_of_not_exists hp (by simpa using hnone)
  · rw [unlink_gone hp hdir, update_self]

/-- `std::filesystem::remove` leaves no file. -/
theorem remove_gone {ok : Bool} (h : c.remove path ok = some c') :
    c' = { c with files := c'.files } ∧ (∀ p f, c'.files p = some f → c.files p = some f) ∧
      ∀ p, c.controller.place path = some p → c'.files p = none := by
  rw [remove] at h
  split at h
  next hnone =>
    cases h
    exact ⟨rfl, fun _ _ hf => hf, fun p hp => file_of_not_exists hp (by simpa using hnone)⟩
  split at h
  next hplace =>
    cases h
    exact ⟨rfl, fun _ _ hf => hf, fun p hp => absurd (hplace.symm.trans hp) (by simp)⟩
  next q hplace =>
    split at h
    · cases h
      refine ⟨rfl, fun p f hf => ?_, fun p hp => ?_⟩
      · rw [setFile_files, update_apply, Option.ite_none_left_eq_some] at hf
        exact hf.2
      · rw [hplace, Option.some.injEq] at hp
        rw [hp, setFile_files, update_self]
    · cases h

/-! ### Opening a file -/

/-- Nothing of a controller is lost: its files, records and handles are what they
    were, and so is the GPU memory in use. -/
structure Keeps (c c' : ManagedController) : Prop where
  initialized : c'.initialized = c.initialized
  controller : c'.controller = c.controller
  files : c'.files = c.files
  nextSerial : c'.nextSerial = c.nextSerial
  deviceFiles : c'.deviceFiles = c.deviceFiles
  nextAddr : c.nextAddr ≤ c'.nextAddr
  gpu : ∀ a, a < c.nextAddr → c'.gpu a = c.gpu a
  fm : ∃ hands, c'.fm = { c.fm with openFiles := hands }

theorem Keeps.refl (c : ManagedController) : Keeps c c :=
  ⟨rfl, rfl, rfl, rfl, rfl, Nat.le_refl _, fun _ _ => rfl, c.fm.openFiles, rfl⟩

theorem Keeps.trans {c'' : ManagedController} (h₁ : Keeps c c') (h₂ : Keeps c' c'') :
    Keeps c c'' where
  initialized := h₂.initialized.trans h₁.initialized
  controller := h₂.controller.trans h₁.controller
  files := h₂.files.trans h₁.files
  nextSerial := h₂.nextSerial.trans h₁.nextSerial
  deviceFiles := h₂.deviceFiles.trans h₁.deviceFiles
  nextAddr := Nat.le_trans h₁.nextAddr h₂.nextAddr
  gpu a ha := (h₂.gpu a (Nat.lt_of_lt_of_le ha h₁.nextAddr)).trans (h₁.gpu a ha)
  fm := by
    rcases h₁.fm with ⟨_, h₁⟩
    rcases h₂.fm with ⟨hands, h₂⟩
    exact ⟨hands, by rw [h₂, h₁]⟩

theorem Keeps.records (h : Keeps c c') : c'.fm.records = c.fm.records := by
  rcases h.fm with ⟨hands, hfm⟩
  rw [hfm]
  rfl

theorem Keeps.sound (h : Keeps c c') (hs : Sound c.fm) : Sound c'.fm := by
  rcases h.fm with ⟨hands, hfm⟩
  rw [hfm]
  exact hs.withOpenFiles hands

variable (c)

theorem keeps_hostFileCloseManaged (fd : HostFd) : Keeps c (c.hostFileCloseManaged fd) := by
  rw [hostFileCloseManaged]
  split
  · exact .refl c
  · exact ⟨rfl, rfl, rfl, rfl, rfl, Nat.le_refl _, fun _ _ => rfl, _, rfl⟩

/-- The address that is noted is a new one. -/
theorem keeps_registerOpenFile (filename : Bytes) (hdrSize : Nat) :
    Keeps c ({ c with nextAddr := c.nextAddr + 1 }.registerOpenFile c.nextAddr filename
      hdrSize) :=
  ⟨rfl, rfl, rfl, rfl, rfl, Nat.le_succ _, fun _ _ => rfl, _, rfl⟩

theorem keeps_cudaMalloc (obj : GpuObject) : Keeps c (c.cudaMalloc obj).1 := by
  refine ⟨rfl, rfl, rfl, rfl, rfl, Nat.le_succ _, fun a ha => ?_, _, rfl⟩
  exact update_of_ne (Nat.ne_of_lt ha) _ _

variable {c}

/-- What was allocated since can be freed. -/
theorem Keeps.cudaFree (h : Keeps c c') {addr : Nat} (haddr : c.nextAddr ≤ addr) :
    Keeps c (c'.cudaFree addr) where
  initialized := h.initialized
  controller := h.controller
  files := h.files
  nextSerial := h.nextSerial
  deviceFiles := h.deviceFiles
  nextAddr := h.nextAddr
  gpu a ha := by
    rw [← h.gpu a ha]
    exact update_of_ne (by omega) _ _
  fm := h.fm

/-- `host_file_open_managed` returns the header of the file that the path leads to. -/
theorem hostFileOpenManaged_keeps {openOk : Bool} {r : Option HostFd}
    (h : c.hostFileOpenManaged path openOk = some (c', r)) :
    Keeps c c' ∧ ∀ fd, r = some fd → ∃ p f, c.controller.place path = some p ∧
      c.files p = some f ∧ f.hdr = some fd.hdr ∧ fd.fd = f.serial := by
  rw [hostFileOpenManaged] at h
  split at h
  · cases h
    exact ⟨.refl c, nofun⟩
  split_ifs at h
  split at h
  · cases h
  next f hf =>
    split at h
    · cases h
    next hdr hopen =>
      cases h
      refine ⟨keeps_registerOpenFile c path _, fun _ hfd => ?_⟩
      cases hfd
      rcases Option.bind_eq_some_iff.mp hf with ⟨p, hp, hf⟩
      rcases Option.bind_eq_some_iff.mp hopen with ⟨_, hstored, hopen⟩
      rw [hostOpenGeminifsFile] at hopen
      split_ifs at hopen
      cases hopen
      exact ⟨p, f, hp, hf, hstored, rfl⟩

variable (c)

/-- A copy of the header and an `NVMe_File` that points to it, and a handle for the
    two. -/
def attach (fd : HostFd) (hdrSize : Nat) (filename : Bytes) : ManagedController :=
  { c with
    gpu := update (update c.gpu c.nextAddr (some (.header fd.hdr fd.fd)))
      (c.nextAddr + 1) (some (.nvmeFile c.nextAddr))
    nextAddr := c.nextAddr + 2
    deviceFiles := c.deviceFiles ++ [⟨fd, c.nextAddr, hdrSize, filename, c.nextAddr + 1⟩] }

theorem attach_gpu (fd : HostFd) (hdrSize : Nat) (filename : Bytes) :
    (c.attach fd hdrSize filename).gpu =
      update (update c.gpu c.nextAddr (some (.header fd.hdr fd.fd)))
        (c.nextAddr + 1) (some (.nvmeFile c.nextAddr)) := rfl

theorem attach_gpu_header (fd : HostFd) (hdrSize : Nat) (filename : Bytes) :
    (c.attach fd hdrSize filename).gpu c.nextAddr = some (.header fd.hdr fd.fd) := by
  rw [attach_gpu, update_of_ne (by omega), update_self]

theorem attach_gpu_nvmeFile (fd : HostFd) (hdrSize : Nat) (filename : Bytes) :
    (c.attach fd hdrSize filename).gpu (c.nextAddr + 1) = some (.nvmeFile c.nextAddr) :=
  update_self ..

variable {c}

theorem attach_gpu_old {a : Nat} (ha : a < c.nextAddr) (fd : HostFd) (hdrSize : Nat)
    (filename : Bytes) : (c.attach fd hdrSize filename).gpu a = c.gpu a := by
  rw [attach_gpu, update_of_ne (by omega), update_of_ne (by omega)]

/-- What `attachFile` does: nothing, or both and the handle. -/
inductive Attached (c : ManagedController) (fd : HostFd) (hdrSize : Nat) (filename : Bytes) :
    ManagedController → Option (Nat × Nat) → Prop where
  | failed (c' : ManagedController) (hkeeps : Keeps c c') : Attached c fd hdrSize filename c' none
  | attached : Attached c fd hdrSize filename (c.attach fd hdrSize filename)
      (some (c.nextAddr, c.nextAddr + 1))

theorem attachFile_attached {fd : HostFd} {hdrSize : Nat} {env : CudaEnv} {r : Option (Nat × Nat)}
    (h : c.attachFile fd hdrSize filename env = (c', r)) : Attached c fd hdrSize filename c' r := by
  have hcopy := keeps_cudaMalloc c (.header fd.hdr fd.fd)
  have hfile := hcopy.trans (keeps_cudaMalloc _ (.nvmeFile c.nextAddr))
  rw [attachFile, copyHostFdToDevice] at h
  by_cases hcopied : ¬ env.mallocOk ∨ ¬ env.memcpyOk
  · rw [if_pos hcopied] at h
    cases h
    exact .failed _ (keeps_hostFileCloseManaged c fd)
  rw [if_neg hcopied] at h
  simp only [cudaMalloc] at h
  split at h
  · cases h
    exact .failed _ ((hcopy.trans (keeps_hostFileCloseManaged _ fd)).cudaFree (Nat.le_refl _))
  split at h
  · cases h
    exact .failed _ (((hfile.trans (keeps_hostFileCloseManaged _ fd)).cudaFree
      (Nat.le_refl _)).cudaFree (Nat.le_succ _))
  · cases h
    exact .attached

/-- What opening a file for the GPU does: nothing, or a handle with the header that
    the file has. -/
inductive DeviceOpened (c : ManagedController) (filename : Bytes) :
    ManagedController → Option Nat → Prop where
  | failed (c' : ManagedController) (hkeeps : Keeps c c') : DeviceOpened c filename c' none
  | opened (c₁ : ManagedController) (fd : HostFd) (p : List Bytes) (f : DataFile)
      (hkeeps : Keeps c c₁) (hp : c.controller.place (c.controller.joinPath filename) = some p)
      (hf : c.files p = some f) (hhdr : f.hdr = some fd.hdr) (hfd : fd.fd = f.serial) :
      DeviceOpened c filename (c₁.attach fd fd.hdr.firstBlockBase filename)
        (some (c₁.nextAddr + 1))

theorem deviceFileOpenManaged_opened {env : OpenEnv} {r : Option Nat}
    (h : c.deviceFileOpenManaged filename env = some (c', r)) : DeviceOpened c filename c' r := by
  rw [deviceFileOpenManaged] at h
  split at h
  · cases h
    exact .failed _ (.refl c)
  split at h
  · cases h
    exact .failed _ (.refl c)
  split at h
  · cases h
  next hopen =>
    cases h
    exact .failed _ (hostFileOpenManaged_keeps hopen).1
  next c₁ fd hopen =>
    rcases hostFileOpenManaged_keeps hopen with ⟨hkeeps, hfound⟩
    rcases hfound fd rfl with ⟨p, f, hp, hf, hhdr, hfd⟩
    split at h
    rename_i c₂ addrs hattach
    rcases h with ⟨rfl, rfl⟩
    cases attachFile_attached hattach with
    | failed _ hkeeps' => exact .failed _ (hkeeps.trans hkeeps')
    | attached => exact .opened c₁ fd p f hkeeps hp hf hhdr hfd

theorem DeviceOpened.sound {r : Option Nat} (h : DeviceOpened c filename c' r) (hs : Sound c.fm) :
    Sound c'.fm := by
  cases h with
  | failed _ hkeeps | opened c₁ fd p f hkeeps => exact hkeeps.sound hs

/-! ### Deleting files -/

theorem forgetDeviceFile_eq (c : ManagedController) (filename : Bytes) :
    c.forgetDeviceFile filename = { c with
      gpu := (c.forgetDeviceFile filename).gpu
      deviceFiles := (c.forgetDeviceFile filename).deviceFiles } := by
  rw [forgetDeviceFile]
  split <;> rfl

/-- Only the handles and GPU memory matter. -/
theorem forgetDeviceFile_congr (hgpu : c'.gpu = c.gpu) (hfiles : c'.deviceFiles = c.deviceFiles)
    (filename : Bytes) :
    (c'.forgetDeviceFile filename).gpu = (c.forgetDeviceFile filename).gpu ∧
      (c'.forgetDeviceFile filename).deviceFiles = (c.forgetDeviceFile filename).deviceFiles := by
  rw [forgetDeviceFile, forgetDeviceFile, hfiles]
  split
  · exact ⟨hgpu, hfiles⟩
  · exact ⟨by rw [cudaFree, cudaFree, cudaFree, cudaFree, hgpu], rfl⟩

theorem deviceFiles_forgetDeviceFile (c : ManagedController) (filename : Bytes) :
    (c.forgetDeviceFile filename).deviceFiles.Sublist c.deviceFiles := by
  rw [forgetDeviceFile]
  split
  · exact List.Sublist.refl _
  · exact List.eraseP_sublist

/-- What deleting a file by its name does: its record goes, the file that the name
    leads to goes if it can, and so does a handle with the name. -/
structure Deleted (c : ManagedController) (filename : Bytes) (unlinkOk : Bool)
    (c' : ManagedController) : Prop where
  initialized : c'.initialized = c.initialized
  controller : c'.controller = c.controller
  sound : Sound c'.fm
  records : c'.fm.records = update c.fm.records (parseFileIdFromFilename filename) none
  files : c'.files = (c.removeFile (c.controller.concatPath filename) unlinkOk).1.files
  gpu : c'.gpu = (c.forgetDeviceFile filename).gpu
  deviceFiles : c'.deviceFiles = (c.forgetDeviceFile filename).deviceFiles
  nextAddr : c'.nextAddr = c.nextAddr
  nextSerial : c'.nextSerial = c.nextSerial

/-- `device_file_delete_single_managed`, of a name that reads as an id. -/
theorem deleteSingle_of_parsed (hs : Sound c.fm) (hinit : c.initialized = true)
    (hid : parseFileIdFromFilename filename ≠ uint32Max) (env : DeleteEnv) :
    Deleted c filename env.unlinkOk (c.deviceFileDeleteSingleManaged filename env).1 ∧
      ((c.deviceFileDeleteSingleManaged filename env).2 = true →
        (c.fm.records (parseFileIdFromFilename filename)).isSome) := by
  have hremove := (c.removeFile_eq (c.controller.concatPath filename) env.unlinkOk).1
  rw [deviceFileDeleteSingleManaged]
  simp only [hinit, not_true, hid, if_false]
  generalize hr : c.removeFile (c.controller.concatPath filename) env.unlinkOk = removed at hremove
  obtain ⟨c₁, _⟩ := removed
  simp only at hremove ⊢
  have hfm : c₁.fm = c.fm := by rw [hremove]
  have hdelete := deleteFile_records hs (parseFileIdFromFilename filename) env.record
  rw [hfm]
  have hforget := @forgetDeviceFile_congr c
    { c₁ with fm := (c.fm.deleteFile (parseFileIdFromFilename filename) env.record).1 }
    (by rw [hremove]) (by rw [hremove]) filename
  have hother := forgetDeviceFile_eq
    { c₁ with fm := (c.fm.deleteFile (parseFileIdFromFilename filename) env.record).1 } filename
  have hforce := forcePersist_records hdelete.1 env.force
  refine ⟨⟨?_, ?_, ?_, ?_, ?_, hforget.1, hforget.2, ?_, ?_⟩, ?_⟩
  · rw [hother, hremove]
  · rw [hother, hremove]
  · rw [hother]
    exact hforce.1
  · rw [hother]
    exact hforce.2.trans hdelete.2.1
  · rw [hr]
    rw [hother]
  · rw [hother, hremove]
  · rw [hother, hremove]
  · intro hboth
    rw [Bool.and_eq_true, hdelete.2.2] at hboth
    exact hboth.2

/-- `device_file_delete_single_managed` deletes, or does nothing and fails. -/
theorem deleteSingle_deleted (hs : Sound c.fm) {env : DeleteEnv} {deleted : Bool}
    (h : c.deviceFileDeleteSingleManaged filename env = (c', deleted)) :
    (c' = c ∧ deleted = false) ∨ (parseFileIdFromFilename filename ≠ uint32Max ∧
      c.initialized = true ∧ Deleted c filename env.unlinkOk c' ∧
      (deleted = true → (c.fm.records (parseFileIdFromFilename filename)).isSome)) := by
  by_cases hinit : c.initialized = true
  · by_cases hid : parseFileIdFromFilename filename = uint32Max
    · rw [deviceFileDeleteSingleManaged] at h
      simp only [hinit, hid] at h
      cases h
      exact .inl ⟨rfl, rfl⟩
    · have hdeleted := deleteSingle_of_parsed hs hinit hid env
      rw [h] at hdeleted
      exact .inr ⟨hid, hinit, hdeleted⟩
  · rw [deviceFileDeleteSingleManaged] at h
    simp only [hinit] at h
    cases h
    exact .inl ⟨rfl, rfl⟩

/-- What closing a handle of the GPU does: nothing, or the handle goes. -/
structure Closed (c c' : ManagedController) : Prop where
  initialized : c'.initialized = c.initialized
  controller : c'.controller = c.controller
  files : c'.files = c.files
  nextAddr : c'.nextAddr = c.nextAddr
  nextSerial : c'.nextSerial = c.nextSerial
  deviceFiles : c'.deviceFiles.Sublist c.deviceFiles
  fm : ∃ hands, c'.fm = { c.fm with openFiles := hands }

theorem Closed.records (h : Closed c c') : c'.fm.records = c.fm.records := by
  rcases h.fm with ⟨hands, hfm⟩
  rw [hfm]
  rfl

theorem Closed.sound (h : Closed c c') (hs : Sound c.fm) : Sound c'.fm := by
  rcases h.fm with ⟨hands, hfm⟩
  rw [hfm]
  exact hs.withOpenFiles hands

variable (c)

theorem deviceFileCloseManaged_closed (fd : Nat) : Closed c (c.deviceFileCloseManaged fd).1 := by
  have hsame : Closed c c :=
    ⟨rfl, rfl, rfl, rfl, rfl, List.Sublist.refl _, c.fm.openFiles, rfl⟩
  rw [deviceFileCloseManaged]
  split
  · exact hsame
  split
  · exact hsame
  next h _ =>
    simp only [hostFileCloseManaged]
    split
    · exact ⟨rfl, rfl, rfl, rfl, rfl, List.eraseP_sublist, c.fm.openFiles, rfl⟩
    · exact ⟨rfl, rfl, rfl, rfl, rfl, List.eraseP_sublist, _, rfl⟩

theorem foldl_cudaFree (hands : List DeviceFileHandle) :
    ∃ gpu, hands.foldl (fun c h => (c.cudaFree h.dNvmeFile).cudaFree h.deviceFd) c =
      { c with gpu := gpu } := by
  induction hands generalizing c with
  | nil => exact ⟨c.gpu, rfl⟩
  | cons h _ ih =>
    rcases ih ((c.cudaFree h.dNvmeFile).cudaFree h.deviceFd) with ⟨gpu, heq⟩
    exact ⟨gpu, heq⟩

theorem cleanupDeviceFiles_eq :
    ∃ gpu, c.cleanupDeviceFiles = { c with gpu := gpu, deviceFiles := [] } := by
  rcases foldl_cudaFree c c.deviceFiles with ⟨gpu, heq⟩
  exact ⟨gpu, by rw [cleanupDeviceFiles, heq]⟩

variable {c}

/-- One turn of the loop that deletes all files. -/
theorem deleteListed_eq (hs : Sound c.fm) (id : Nat) (env : DeleteEnv) :
    (c.deleteListed id env).1 = { c with
        files := (c.deleteListed id env).1.files, fm := (c.deleteListed id env).1.fm } ∧
      Sound (c.deleteListed id env).1.fm ∧
      (c.deleteListed id env).1.fm.records = update c.fm.records id none ∧
      (∀ p f, (c.deleteListed id env).1.files p = some f → c.files p = some f) ∧
      ∀ d, c.fm.records id = some d → (c.deleteListed id env).1.files =
        (c.removeFile (c.controller.concatPath d.name) env.unlinkOk).1.files := by
  rw [deleteListed]
  cases hd : c.fm.files.lookup id with
  | none =>
    have hnone : c.fm.records id = none := hd
    refine ⟨rfl, hs, ?_, fun _ _ hf => hf, fun d hsome => ?_⟩
    · exact (hnone ▸ update_eq_self id c.fm.records).symm
    · rw [hnone] at hsome
      cases hsome
  | some d =>
    have hremove := c.removeFile_eq (c.controller.concatPath d.name) env.unlinkOk
    have hdelete := deleteFile_records hs id env.record
    have hfm : (c.removeFile (c.controller.concatPath d.name) env.unlinkOk).1.fm = c.fm := by
      rw [hremove.1]
    simp only [hfm]
    refine ⟨by rw [hremove.1], hdelete.1, hdelete.2.1, hremove.2, fun e he => ?_⟩
    have hsame : d = e := Option.some.inj (hd.symm.trans he)
    rw [hsame]

end ManagedController

end Geminifs.Gemini
