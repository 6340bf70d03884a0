import Geminifs.Theory.Files.AutoFiles

/-!
# Headers of New Files

The four ways to make a file, and the header that each leaves. They all build a
header in memory and have the extents written to the file, next to which that memory
is never brought up to date.

The two host paths do not use their memory again, and the file has the header it
should. `host_file_create_only_managed` writes its memory over the file, and
`device_file_create_managed` copies its memory to the GPU: either is complete only
when `malloc` happened to return memory with the right extents in it.

## Main definitions

* `Creation`, `Creation.run`: The four ways to make a file.
* `storedHdr`, `openedHdr`: The header in a file, and what opening the file makes of
  it.
* `LeftNothing`: There is nothing new.
* `Complete`: The header that is left is what a later open of the file produces.

## Theorems

* `named_stored`, `automatic_stored`, `createOnly_stored`, `device_stored`: The header
  that each way leaves in the file.
* `creation_complete_iff`: When the header of a new file is complete.
* `failed_leaves_nothing_iff`: When a host file that cannot be made leaves nothing.
-/

namespace Geminifs.Gemini

namespace ManagedController

variable {c : ManagedController} {path : Bytes} {blockSize fileSize : Nat}

/-- The ways to make a file, with what only one of them needs. -/
inductive Creation where
  | named (filename : Bytes)
  | automatic
  | createOnly (filename : Bytes) (dirsOk writeOk : Bool)
  | device (filename : Bytes) (cuda : CudaEnv)
  deriving DecidableEq, Repr

/-- Where the header of a new file is: in the file, and on the GPU if it was copied
    there. -/
structure NewHdr where
  path : Bytes
  gpu : Option Nat
  deriving DecidableEq, Repr

variable (c)

/-- Make a file one of the ways. -/
def Creation.run (blockSize fileSize : Nat) (env : NewFileEnv) :
    Creation → Option (ManagedController × Option NewHdr)
  | .named filename =>
    (c.hostFileCreateManaged blockSize fileSize filename env).map fun r =>
      (r.1, r.2.map fun _ => ⟨c.controller.concatPath filename, none⟩)
  | .automatic =>
    (c.hostFileCreateManagedAuto blockSize fileSize env).map fun r =>
      (r.1, (r.2.bind r.1.fm.records).map fun d => ⟨c.controller.concatPath d.name, none⟩)
  | .createOnly filename dirsOk writeOk =>
    (c.hostFileCreateOnlyManaged blockSize fileSize filename env dirsOk writeOk).map fun r =>
      (r.1, if r.2 then some ⟨c.controller.buildFilePath filename, none⟩ else none)
  | .device filename cuda =>
    (c.deviceFileCreateManaged blockSize fileSize filename env cuda).map fun r =>
      (r.1, r.2.map fun fd => ⟨c.controller.concatPath filename, some fd⟩)

/-- Whether the header in memory is used once the file has its extents. -/
def Creation.reusesMemory : Creation → Bool
  | .named _ | .automatic => false
  | .createOnly _ _ _ | .device _ _ => true

/-- The header in a file. -/
def storedHdr (path : Bytes) : Option GeminiHdr :=
  ((c.controller.place path).bind c.files).bind DataFile.hdr

/-- The header that opening a file returns. -/
def openedHdr (path : Bytes) : Option GeminiHdr :=
  (c.hostFileOpenManaged path true).bind fun r => r.2.map HostFd.hdr

/-- The header of a new file has the extents and the size, opening the file returns
    it, and what is on the GPU is the same. -/
def Complete (new : NewHdr) (fileSize : Nat) (extents : List FiemapExtent) : Prop :=
  ∃ hdr, c.storedHdr new.path = some hdr ∧ c.openedHdr new.path = some hdr ∧
    hdr.extents = extents ∧ hdr.virtualSpaceSize = fileSize ∧
    ∀ addr, new.gpu = some addr → ∃ fd, c.gpu addr = some (.header hdr fd)

variable {c}

/-- A header that was left with some extents is complete if they are the right ones,
    in the file and on the GPU. -/
theorem complete_of_stored (hinit : c.initialized = true) {new : NewHdr}
    {extents : List FiemapExtent}
    (h : c.storedHdr new.path = some (ownHdr blockSize fileSize extents))
    (reported : List FiemapExtent) :
    Complete c new fileSize reported ↔ extents = reported ∧ ∀ addr, new.gpu = some addr →
        ∃ fd, c.gpu addr = some (.header (ownHdr blockSize fileSize reported) fd) := by
  constructor
  · rintro ⟨hdr, hstored, -, hextents, -, hgpu⟩
    rw [h, Option.some.injEq] at hstored
    subst hstored
    have hsame : extents = reported := hextents
    subst hsame
    exact ⟨rfl, hgpu⟩
  · rintro ⟨rfl, hgpu⟩
    refine ⟨_, h, ?_, rfl, rfl, hgpu⟩
    rcases Option.bind_eq_some_iff.mp h with ⟨f, hf, hhdr⟩
    rw [openedHdr, hostFileOpenManaged, if_neg (by simp [hinit]), hf]
    simp [hhdr, hostOpenGeminifsFile, ownHdr]

/-! ### The four ways -/

theorem Made.stored {c' : ManagedController} {memory reported : List FiemapExtent} {env : CreateEnv}
    {made : Bool} (h : Made c path (ownHdr blockSize fileSize memory) env c' made)
    (hmade : made = true) (hmap : readFiemap env.fiemap = some reported) :
    c'.storedHdr path = some (ownHdr blockSize fileSize reported) := by
  cases h with
  | refused | empty => cases hmade
  | filled p stored hp _ _ _ hrefine =>
    have hplace : ∀ n, (c.newFile p n (some stored)).controller.place path = some p := fun _ => hp
    rw [storedHdr, hplace, Option.bind_some, newFile_files, Function.update_self, Option.bind_some]
    rw [hostRefineNvmeofst, hmap] at hrefine
    simp only at hrefine
    split at hrefine
    · cases hrefine
    split_ifs at hrefine
    exact hrefine.symm

/-- `write` replaces the header of a file, and nothing else. -/
theorem storedHdr_writeHdr {old : GeminiHdr} (h : c.storedHdr path = some old) (hdr : GeminiHdr) :
    (c.writeHdr path hdr).storedHdr path = some hdr ∧
      (c.writeHdr path hdr).initialized = c.initialized := by
  rcases Option.bind_eq_some_iff.mp h with ⟨f, hf, -⟩
  rcases Option.bind_eq_some_iff.mp hf with ⟨p, hp, hf⟩
  rw [writeHdr, hp]
  have hplace : (c.setFile p ((c.files p).map fun f => { f with hdr := some hdr })).controller.place
      path = some p := hp
  refine ⟨?_, rfl⟩
  rw [storedHdr, hplace, Option.bind_some, setFile_files, Function.update_self, hf]
  rfl

section Paths

variable {c c' : ManagedController} {blockSize fileSize : Nat} {env : NewFileEnv}
  {reported : List FiemapExtent} (hmap : readFiemap env.make.file.fiemap = some reported)

variable {filename : Bytes}

include hmap

theorem named_stored {id : Nat}
    (h : c.hostFileCreateManaged blockSize fileSize filename env = some (c', some id)) :
    c'.initialized = true ∧ c'.storedHdr (c.controller.concatPath filename) =
      some (ownHdr blockSize fileSize reported) := by
  rw [hostFileCreateManaged] at h
  split at h
  · cases h
  rename_i hinit
  split at h
  · cases h
  split at h
  · cases h
  simp only at h
  split at h
  · cases h
  · cases h
  next c₁ hmake =>
    have hmade := makeFile_made hmake
    split at h
    · cases h
      refine ⟨?_, hmade.stored rfl hmap⟩
      rw [hmade.other]
      simpa using hinit
    · cases h

theorem automatic_stored {id : Nat}
    (h : c.hostFileCreateManagedAuto blockSize fileSize env = some (c', some id)) :
    c'.initialized = true ∧ ∃ d, c'.fm.records id = some d ∧
      c'.storedHdr (c.controller.concatPath d.name) =
        some (ownHdr blockSize fileSize reported) := by
  rw [hostFileCreateManagedAuto] at h
  split at h
  · cases h
  rename_i hinit
  split at h
  · cases h
  rename_i fm d hrecord
  simp only at h
  iterate 3
    split at h
    · cases h
  · cases h
  next c₁ hmake =>
    have hmade := makeFile_made hmake
    cases h
    refine ⟨?_, d, ?_, hmade.stored rfl hmap⟩
    · rw [hmade.other]
      simpa using hinit
    · rw [hmade.other]
      exact FileManager.records_createFileAuto hrecord

/-- The extents that were stored are overwritten. -/
theorem createOnly_stored {dirsOk writeOk : Bool}
    (h : c.hostFileCreateOnlyManaged blockSize fileSize filename env dirsOk writeOk =
      some (c', true)) :
    c'.initialized = true ∧ c'.storedHdr (c.controller.buildFilePath filename) =
      some (ownHdr blockSize fileSize env.make.memory) := by
  rw [hostFileCreateOnlyManaged] at h
  simp only at h
  split at h
  · cases h
  rename_i hinit
  iterate 3
    split at h
    · cases h
  · cases h
  next c₁ hmake =>
    have hmade := makeFile_made hmake
    split at h
    · cases h
    split at h
    · cases h
      have hwritten := storedHdr_writeHdr (hmade.stored rfl hmap)
        (ownHdr blockSize fileSize env.make.memory)
      refine ⟨hwritten.2.trans ?_, hwritten.1⟩
      rw [hmade.other]
      simpa using hinit
    · cases h

/-- The header on the GPU comes from the memory and not from the file. -/
theorem device_stored {cuda : CudaEnv} {fd : Nat}
    (h : c.deviceFileCreateManaged blockSize fileSize filename env cuda = some (c', some fd)) :
    c'.initialized = true ∧ c'.storedHdr (c.controller.concatPath filename) =
      some (ownHdr blockSize fileSize reported) ∧
      ∃ file, c'.gpu fd = some (.header (ownHdr blockSize fileSize env.make.memory) file) := by
  rw [deviceFileCreateManaged] at h
  split at h
  · cases h
  rename_i hinit
  split at h
  · cases h
  · cases h
  next c₁ hostFd hcreate =>
    rcases createHostFdInternal_made hcreate with
      ⟨c₂, _, hmade, ⟨-, hnone, -⟩ | ⟨htrue, hfd, rfl⟩⟩
    · cases hnone
    rw [Option.some.injEq] at hfd
    subst hfd
    have hstored := hmade.stored htrue hmap
    have hinit₂ : c₂.initialized = true := by
      rw [hmade.other]
      simpa using hinit
    split at h
    · cases h
    · split at h
      rename_i c₃ addrs hattach
      rw [Option.some.injEq, Prod.mk.injEq] at h
      rcases h with ⟨rfl, hfd⟩
      cases attachFile_attached hattach with
      | failed => cases hfd
      | attached =>
        rw [Option.map_some, Option.some.injEq] at hfd
        subst hfd
        exact ⟨hinit₂, hstored, _, attach_gpu_header _ _ _ _⟩

end Paths

/-- The header of a new file is complete if the memory it was built in is not used
    again, or has had the right extents from the start. -/
theorem creation_complete_iff (c c' : ManagedController) (via : Creation)
    (blockSize fileSize : Nat) (env : NewFileEnv) (new : NewHdr) (reported : List FiemapExtent)
    (h : via.run c blockSize fileSize env = some (c', some new))
    (hmap : readFiemap env.make.file.fiemap = some reported) :
    Complete c' new fileSize reported ↔ via.reusesMemory = false ∨ env.make.memory = reported := by
  cases via with
  | named =>
    rcases Option.map_eq_some_iff.mp h with ⟨⟨c₁, id⟩, hrun, heq⟩
    rw [Prod.mk.injEq] at heq
    rcases heq with ⟨rfl, hid⟩
    rcases Option.map_eq_some_iff.mp hid with ⟨id, rfl, rfl⟩
    have hstored := named_stored hmap hrun
    rw [complete_of_stored hstored.1 hstored.2]
    simp [Creation.reusesMemory]
  | automatic =>
    rcases Option.map_eq_some_iff.mp h with ⟨⟨c₁, id⟩, hrun, heq⟩
    rw [Prod.mk.injEq] at heq
    rcases heq with ⟨rfl, hid⟩
    rcases Option.map_eq_some_iff.mp hid with ⟨d, hd, rfl⟩
    rcases Option.bind_eq_some_iff.mp hd with ⟨_, rfl, hd⟩
    rcases automatic_stored hmap hrun with ⟨hinit, _, hd', hstored⟩
    rw [hd, Option.some.injEq] at hd'
    subst hd'
    rw [complete_of_stored hinit hstored]
    simp [Creation.reusesMemory]
  | createOnly =>
    rcases Option.map_eq_some_iff.mp h with ⟨⟨c₁, made⟩, hrun, heq⟩
    rw [Prod.mk.injEq] at heq
    rcases heq with ⟨rfl, hnew⟩
    cases made with
    | false => cases hnew
    | true =>
      rw [if_pos rfl, Option.some.injEq] at hnew
      subst hnew
      have hstored := createOnly_stored hmap hrun
      rw [complete_of_stored hstored.1 hstored.2]
      simp [Creation.reusesMemory]
  | device =>
    rcases Option.map_eq_some_iff.mp h with ⟨⟨_, fd⟩, hrun, heq⟩
    rw [Prod.mk.injEq] at heq
    rcases heq with ⟨rfl, hfd⟩
    rcases Option.map_eq_some_iff.mp hfd with ⟨_, rfl, rfl⟩
    rcases device_stored hmap hrun with ⟨hinit, hstored, file, hgpu⟩
    rw [complete_of_stored hinit hstored]
    -- The file is right. What is on the GPU is what was in memory.
    have hsame : ∀ extents, (ownHdr blockSize fileSize env.make.memory =
        ownHdr blockSize fileSize extents) ↔ env.make.memory = extents :=
      fun _ => ⟨fun heq => congrArg GeminiHdr.extents heq, fun heq => heq ▸ rfl⟩
    simp [Creation.reusesMemory, hgpu, hsame]

/-- A new file from calls that succeed, given what `malloc` and the kernel return. -/
def madeWith (memory reported : List FiemapExtent) : NewFileEnv where
  make := ⟨true, memory, ⟨true, true, true, ⟨some reported.length, some reported⟩⟩⟩
  record := FileManager.writesOk 1
  undo := FileManager.writesOk 2
  unlinkOk := true

def cudaOk : CudaEnv := ⟨true, true, true, true⟩

/-- A controller mounted at `/m`. -/
def mountM : Controller := ⟨[47, 109], 4096, 512, by decide⟩

/-- Two blocks in one piece. -/
def oneExtent : FiemapExtent := ⟨512, 1048576, 8192, 1⟩

theorem creation_complete_iff_host : ∃ c' new,
    (Creation.named [97]).run (fresh mountM) 4096 8192 (madeWith [] [oneExtent]) =
      some (c', some new) ∧ Complete c' new 8192 [oneExtent] := by
  have hrun : (((Creation.named [97]).run (fresh mountM) 4096 8192
      (madeWith [] [oneExtent])).bind Prod.snd).isSome = true := by decide
  rcases Option.isSome_iff_exists.mp hrun with ⟨new, hnew⟩
  rcases Option.bind_eq_some_iff.mp hnew with ⟨⟨c', _⟩, hrun, rfl⟩
  exact ⟨c', new, hrun, (creation_complete_iff _ _ _ _ _ _ _ _ hrun rfl).mpr (.inl rfl)⟩

/-- With other memory, the file of the one way and the GPU of the other have a header
    without extents. -/
theorem reused_memory_incomplete :
    (((Creation.createOnly [97] true true).run (fresh mountM) 4096 8192
      (madeWith [] [oneExtent])).bind fun r => r.2.bind fun new =>
        r.1.storedHdr new.path) = some (ownHdr 4096 8192 []) ∧
    (((Creation.device [97] cudaOk).run (fresh mountM) 4096 8192
      (madeWith [] [oneExtent])).bind fun r => r.2.bind fun new =>
        new.gpu.bind r.1.gpu) = some (.header (ownHdr 4096 8192 []) 0) ∧
    (((Creation.device [97] cudaOk).run (fresh mountM) 4096 8192
      (madeWith [] [oneExtent])).bind fun r => r.2.bind fun new =>
        r.1.openedHdr new.path) = some (ownHdr 4096 8192 [oneExtent]) := by
  decide

/-! ### Failures -/

variable {c' : ManagedController}

/-- Nothing is left: the records are what they were, and there are no files in new places. -/
def LeftNothing (c c' : ManagedController) : Prop :=
  c'.fm.records = c.fm.records ∧ ∀ p, c.files p = none → c'.files p = none

/-- `open` makes a file that was not there. -/
def Opens (c : ManagedController) (path : Bytes) (env : NewFileEnv) : Prop :=
  c.initialized = true ∧ env.make.mallocOk = true ∧ env.make.file.openOk = true ∧
    ∃ p, c.controller.place path = some p ∧ c.controller.isDir p = false ∧ c.files p = none

/-- A new place has a file afterwards exactly if `open` made one there. -/
theorem makeFile_leaves {hdr : GeminiHdr} {env : NewFileEnv} {made : Bool}
    (hinit : c.initialized = true) (hmalloc : env.make.mallocOk = true)
    (h : c.makeFile path hdr env.make.file = some (c', made)) :
    (∀ p, c.files p = none → c'.files p = none) ↔ ¬ c.Opens path env := by
  unfold makeFile at h
  unfold Opens
  split at h
  · cases h
    simp_all
  next p hp =>
    split at h
    next hrefused =>
      cases h
      grind
    -- Whether or not it is filled, the file is there.
    have hfile : ∃ f, c'.files = Function.update c.files p (some f) := by
      split at h
      · cases h
        exact ⟨_, rfl⟩
      split at h
      · cases h
      · cases h
        exact ⟨_, rfl⟩
    obtain ⟨f, hfile⟩ := hfile
    rw [hfile]
    constructor
    · intro hall hopens
      have hnone := hall p (by grind)
      simp at hnone
    · intro hopens q hq
      have hne : q ≠ p := by grind
      rwa [Function.update_of_ne hne]

/-- A record without a name of its own is made in the first free slot, and named by it. -/
theorem forall_createFileAuto (fm : FileManager) (size : UInt64) (env : WriteEnv)
    (P : Bytes → Prop) : (∀ d ∈ (fm.createFileAuto size env).2, P d.name) ↔
      ∀ slot ∈ SlotLog.findNextFreeSlot fm.bitmap, (decimal slot).length < 16 →
        env.recordOk = true → P (decimal slot) := by
  unfold FileManager.createFileAuto FileManager.generateFilenameFromId
  cases SlotLog.findNextFreeSlot fm.bitmap with
  | none => simp
  | some slot =>
    have hname := cStr_of_zero_notMem _ (decimal_ordinary slot).2.2
    simp only
    split_ifs with hlen hok
    · simp [hlen]
    · have hlen := Nat.lt_of_not_le hlen
      simp [FileManager.name_newDesc slot hlen, hname, hlen, hok]
    · simp [hok]

/-- A call that fails leaves nothing exactly if it does not make a new file, or that one can be
    filled, and unlinked. Without a name, a new file that cannot be filled is left. -/
theorem failed_leaves_nothing_iff (c c' : ManagedController) (hs : c.fm.Sound)
    (blockSize fileSize : Nat) (env : NewFileEnv) :
    (∀ filename, c.hostFileCreateManaged blockSize fileSize filename env = some (c', none) →
      (LeftNothing c c' ↔ (c.Opens (c.controller.concatPath filename) env →
        env.make.file.fallocateOk = true ∧ env.unlinkOk = true))) ∧
    (c.hostFileCreateManagedAuto blockSize fileSize env = some (c', none) →
      (LeftNothing c c' ↔ ∀ slot ∈ SlotLog.findNextFreeSlot c.fm.bitmap,
        (decimal slot).length < 16 → env.record.recordOk = true →
          ¬ c.Opens (c.controller.concatPath (decimal slot)) env)) := by
  refine ⟨fun filename h => ?_, fun h => ?_⟩
  · unfold hostFileCreateManaged at h
    split at h
    next hinit =>
      cases h
      simp_all [LeftNothing, Opens]
    split at h
    · cases h
    split at h
    next hmalloc =>
      cases h
      simp_all [LeftNothing, Opens]
    rename_i hinit _ hmalloc
    rw [not_not] at hinit hmalloc
    simp only at h
    split at h
    · cases h
    next hmake =>
      cases h
      have hleaves := makeFile_leaves hinit hmalloc hmake
      cases makeFile_made hmake with
      | refused => simp_all [LeftNothing]
      | empty _ _ _ hfull =>
        rw [LeftNothing, hleaves, hfull]
        simp [newFile, setFile]
    next c₁ hmake =>
      have hleaves := makeFile_leaves hinit hmalloc hmake
      cases makeFile_made hmake with
      | filled p stored hp hdir _ hroom =>
        split at h
        · cases h
        next fm hrecord =>
          cases h
          cases FileManager.createFile_entered hs hrecord with
          | refused =>
            -- The file that was filled is unlinked.
            rw [hroom]
            cases hok : env.unlinkOk with
            | true =>
              simp [LeftNothing, unlink, newFile, setFile, hp, hdir, Function.update_apply]
              exact fun _ hq _ => hq
            | false =>
              simpa [LeftNothing, unlink, newFile, setFile, hp] using hleaves
  · have hrecords : c'.fm.records = c.fm.records := by
      cases hostFileCreateManagedAuto_made hs h with
      | failed _ _ hrecords => exact hrecords
    have hname := forall_createFileAuto c.fm (UInt64.ofNat fileSize) env.record
      fun name => ¬ c.Opens (c.controller.concatPath name) env
    rw [LeftNothing, and_iff_right hrecords, ← hname]
    unfold hostFileCreateManagedAuto at h
    split at h
    next hinit =>
      cases h
      simp_all [Opens]
    rename_i hinit
    rw [not_not] at hinit
    split at h
    next fm hrecord =>
      cases h
      simp_all
    next fm d hrecord =>
      simp only at h
      split at h
      · cases h
      split at h
      next hmalloc =>
        cases h
        simp_all [Opens, dropRecord]
      next hmalloc =>
        rw [not_not] at hmalloc
        split at h
        · cases h
        next hmake =>
          cases h
          have hleaves := makeFile_leaves (c := { c with fm := fm }) hinit hmalloc hmake
          simp only [hrecord, Option.mem_def, Option.some.injEq, forall_eq']
          exact hleaves
        · cases h

theorem failed_leaves_nothing_iff_malloc :
    let env := { madeWith [] [] with make := ⟨false, [], ⟨true, true, true, ⟨none, none⟩⟩⟩ }
    (fresh mountM).hostFileCreateManaged 4096 8192 [97] env = some (fresh mountM, none) ∧
      LeftNothing (fresh mountM) (fresh mountM) := by
  intro env
  exact ⟨rfl, ((failed_leaves_nothing_iff (fresh mountM) (fresh mountM)
    (FileManager.sound_fresh 1000) 4096 8192 env).1 [97] rfl).mpr fun h => absurd h.2.1 (by decide)⟩

/-- A file that cannot be filled stays. -/
theorem empty_file_left : ((fresh mountM).hostFileCreateManaged 4096 8192 [97]
      { madeWith [] [] with make := ⟨true, [], ⟨true, false, true, ⟨none, none⟩⟩⟩ }).map (fun r =>
        (r.2, (r.1.files (mountM.below [97])).isSome)) = some (none, true) ∧
    (fresh mountM).files (mountM.below [97]) = none := by
  decide

end ManagedController

end Geminifs.Gemini
