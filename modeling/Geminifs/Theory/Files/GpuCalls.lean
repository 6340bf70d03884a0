import Geminifs.Core.GpuFileManager
import Geminifs.Theory.Files.Controller

/-!
# Calls of the GPU File Manager

What the calls of a GPU file manager do to its log, its map and its pool, said once
for each of them. What happens to the NVMe files on the way is kept as the equation
that made them.

## Main definitions

* `Fresh`: New files in free slots, with records that name them.
* `recordAll`, `enter`: Their records are written, and they are put in the map.
* `CreatedOne`, `CreatedMany`, `Removed`, `Inited`, `Opened`, `Closed`, `Stepped`: What
  each call can do.
* `Creation`: What creating files does to the log and the map, one or several.

## Theorems

* `createGPUFile_created`, `createGPUFiles_created`, `deleteGPUFile_removed`,
  `initGPUFile_inited`, `openGPUFile_opened`, `closeGPUFile_closed`, `step_stepped`: The
  calls do what they can.
* `hasNvmeController_new`, `nvmeFileIds_new`: The NVMe files of a new file.
-/

namespace Geminifs.Gemini

open SlotLog

/-! ### Records of new files -/

namespace CompactNVMeMapping

variable (m : CompactNVMeMapping)

theorem isValid_setValid : m.setValid.isValid = true := by
  rw [isValid, setValid, decide_eq_true_eq]
  intro h
  rw [or_and_byte] at h
  exact absurd (UInt8.or_eq_zero_iff.mp h).2 (by decide)

theorem isValid_setNvmeFile (i : Fin 4) (id : UInt32) :
    (m.setNvmeFile i id).isValid = m.isValid := by
  have hmask : ∀ i : Fin 4, (0x80 >>> UInt8.ofNat i) &&& 0x01 = (0 : UInt8) := by decide
  simp only [isValid, setNvmeFile, or_and_byte, hmask i, UInt8.or_zero]

theorem hasNvmeController_setNvmeFile (i j : Fin 4) (id : UInt32) :
    (m.setNvmeFile i id).hasNvmeController j = (decide (j = i) || m.hasNvmeController j) := by
  have hself : ∀ i : Fin 4, ((0x80 : UInt8) >>> UInt8.ofNat i) &&& (0x80 >>> UInt8.ofNat i) ≠ 0 := by
    decide
  have hother : ∀ i j : Fin 4, j ≠ i →
      ((0x80 : UInt8) >>> UInt8.ofNat i) &&& (0x80 >>> UInt8.ofNat j) = 0 := by decide
  simp only [hasNvmeController, setNvmeFile, or_and_byte]
  by_cases hj : j = i
  · subst hj
    have hne : m.mappingFlags &&& (0x80 >>> UInt8.ofNat j) |||
        (0x80 >>> UInt8.ofNat j) &&& (0x80 >>> UInt8.ofNat j) ≠ 0 := fun h =>
      hself j (UInt8.or_eq_zero_iff.mp h).2
    rw [decide_eq_true hne, decide_eq_true rfl, Bool.true_or]
  · simp only [hother i j hj, UInt8.or_zero, hj, decide_false, Bool.false_or]

theorem isValid_setNvmeFiles (i : Nat) (ids : List Nat) :
    (m.setNvmeFiles i ids).isValid = m.isValid := by
  induction ids generalizing m i with
  | nil => rfl
  | cons _ _ ih =>
    rw [setNvmeFiles]
    split
    · rw [ih, isValid_setNvmeFile]
    · rfl

/-- The controllers from `i` on have the files, in order. -/
theorem setNvmeFiles_spec (i : Nat) (ids : List Nat) (j : Fin 4) :
    (m.setNvmeFiles i ids).hasNvmeController j =
        (decide (i ≤ j ∧ j < i + ids.length) || m.hasNvmeController j) ∧
      (m.setNvmeFiles i ids).nvmeFileIds j =
        if i ≤ j ∧ j < i + ids.length then UInt32.ofNat (ids.getD (j - i) 0)
        else m.nvmeFileIds j := by
  induction ids generalizing m i with
  | nil =>
    have hnot : ¬ (i ≤ j ∧ j < i + ([] : List Nat).length) := by
      rw [List.length_nil]
      omega
    rw [if_neg hnot, decide_eq_false hnot]
    exact ⟨rfl, rfl⟩
  | cons id ids ih =>
    rw [setNvmeFiles]
    split
    next hi =>
      rcases ih (m.setNvmeFile ⟨i, hi⟩ (UInt32.ofNat id)) (i + 1) with ⟨hhas, hids⟩
      rw [hhas, hids, hasNvmeController_setNvmeFile]
      by_cases hj : j = ⟨i, hi⟩
      · -- This one is written now, and not again.
        subst hj
        simp [setNvmeFile]
      · have hne : (j : Nat) ≠ i := fun h => hj (Fin.ext h)
        have hiff : (i + 1 ≤ j ∧ j < i + 1 + ids.length) ↔
            (i ≤ j ∧ j < i + (id :: ids).length) := by
          rw [List.length_cons]
          omega
        simp only [hiff, hj, decide_false, Bool.false_or, setNvmeFile, Function.update_of_ne hj,
          true_and]
        split
        next hin =>
          have hsub : (j : Nat) - i = (j - (i + 1)) + 1 := by omega
          rw [hsub, List.getD_cons_succ]
        · rfl
    next hi =>
      have hnot : ¬ (i ≤ j ∧ j < i + (id :: ids).length) := by omega
      rw [if_neg hnot, decide_eq_false hnot]
      exact ⟨rfl, rfl⟩

end CompactNVMeMapping

namespace GPUFileDesc

variable (slot totalFileSize : Nat) (tensorShape ids : List Nat)

theorem isValid_new : (new slot totalFileSize tensorShape ids).nvmeMapping.isValid = true := by
  rw [new, CompactNVMeMapping.isValid_setNvmeFiles, CompactNVMeMapping.isValid_setValid]

theorem fileId_new {slot : Nat} (h : slot < maxRecords) (totalFileSize : Nat)
    (tensorShape ids : List Nat) :
    (new slot totalFileSize tensorShape ids).fileId.toNat = slot := by
  have hlt : slot < 2 ^ 32 := Nat.lt_trans h (by decide)
  simp only [new, UInt32.toNat_ofNat']
  omega

/-- The file is on as many controllers as it has NVMe files, up to four. -/
theorem hasNvmeController_new (j : Fin 4) :
    (new slot totalFileSize tensorShape ids).nvmeMapping.hasNvmeController j =
      decide (j < ids.length) := by
  have hnone : ∀ j : Fin 4, CompactNVMeMapping.empty.setValid.hasNvmeController j = false := by
    decide
  rw [new, (CompactNVMeMapping.setNvmeFiles_spec _ 0 ids j).1, hnone j]
  simp

theorem nvmeFileIds_new (j : Fin 4) (hj : j < ids.length) :
    (new slot totalFileSize tensorShape ids).nvmeMapping.nvmeFileIds j =
      UInt32.ofNat (ids.getD j 0) := by
  rw [new, (CompactNVMeMapping.setNvmeFiles_spec _ 0 ids j).2, if_pos (by omega), Nat.sub_zero]

end GPUFileDesc

/-- Several writes, one after the other. -/
def LogFile.append (log : LogFile) (ws : List (Nat × Bytes)) : LogFile :=
  { log with writes := log.writes ++ ws }

namespace GPUFileManager

variable {m m' : GPUFileManager} {totalFileSize : Nat} {tensorShape : List Nat} {r : Option Nat}

/-! ### The end of a change -/

variable (m) (n : Nat) (env : PersistEnv)

/-- Only the log, the header and what is pending change. -/
theorem countWrites_eq : m.countWrites n env = { m with
      log := (m.countWrites n env).log
      header := (m.countWrites n env).header
      pending := (m.countWrites n env).pending } := by
  rw [countWrites]
  split <;> rfl

@[simp] theorem countWrites_descs : (m.countWrites n env).descs = m.descs := by rw [countWrites_eq]

@[simp] theorem countWrites_freeList : (m.countWrites n env).freeList = m.freeList := by
  rw [countWrites_eq]

@[simp] theorem countWrites_ctxs : (m.countWrites n env).ctxs = m.ctxs := by rw [countWrites_eq]

@[simp] theorem countWrites_devFds : (m.countWrites n env).devFds = m.devFds := by
  rw [countWrites_eq]

@[simp] theorem countWrites_controllers : (m.countWrites n env).controllers = m.controllers := by
  rw [countWrites_eq]

variable {m}

/-! ### New files -/

/-- New files: in free slots, each with a record that names its slot. -/
structure Fresh (m : GPUFileManager) (files : List (Nat × GPUFileDesc)) : Prop where
  nodup : (files.map Prod.fst).Nodup
  free : ∀ e ∈ files, e.1 < maxRecords ∧ m.dirtyBitmap e.1 = false ∧ m.descs.lookup e.1 = none
  named : ∀ e ∈ files, e.2.fileId.toNat = e.1 ∧ e.2.nvmeMapping.isValid = true

/-- The records of some files are written. -/
def recordAll (m : GPUFileManager) (files : List (Nat × GPUFileDesc)) : GPUFileManager :=
  { m with log := m.log.append (files.map fun e => (m.header.slotOffset e.1, e.2.encode)) }

/-- Some files are put in the map. -/
def enter (m : GPUFileManager) (files : List (Nat × GPUFileDesc)) : GPUFileManager :=
  { m with
    descs := addDescs m.descs files
    dirtyBitmap := m.dirtyBitmap.setAll (files.map Prod.fst) }

theorem fresh_nil (m : GPUFileManager) : Fresh m [] :=
  ⟨List.nodup_nil, nofun, nofun⟩

theorem Fresh.sublist {files files' : List (Nat × GPUFileDesc)} (h : Fresh m files)
    (hsub : files'.Sublist files) : Fresh m files' where
  nodup := h.nodup.sublist (hsub.map Prod.fst)
  free e he := h.free e (hsub.subset he)
  named e he := h.named e (hsub.subset he)

@[simp] theorem recordAll_nil (m : GPUFileManager) : m.recordAll [] = m := by
  simp only [recordAll, LogFile.append, List.map_nil, List.append_nil]

theorem recordAll_cons (m : GPUFileManager) (e : Nat × GPUFileDesc)
    (files : List (Nat × GPUFileDesc)) :
    m.recordAll (e :: files) = (m.recordAll [e]).recordAll files := by
  simp only [recordAll, LogFile.append, List.map_cons, List.map_nil, List.append_assoc,
    List.singleton_append]

variable (files : List (Nat × GPUFileDesc))

/-- A map with new files in it. -/
theorem lookup_addDescs (descs : AList (fun _ : Nat => GPUFileDesc))
    (hnodup : (files.map Prod.fst).Nodup) :
    (∀ e ∈ files, (addDescs descs files).lookup e.1 = some e.2) ∧
      ∀ i, i ∉ files.map Prod.fst → (addDescs descs files).lookup i = descs.lookup i := by
  induction files generalizing descs with
  | nil => exact ⟨nofun, fun _ _ => rfl⟩
  | cons e files ih =>
    rw [List.map_cons, List.nodup_cons] at hnodup
    have hstep : addDescs descs (e :: files) = addDescs (descs.insert e.1 e.2) files := rfl
    rcases ih (descs.insert e.1 e.2) hnodup.2 with ⟨hin, hout⟩
    rw [hstep]
    refine ⟨fun e' he' => ?_, fun i hi => ?_⟩
    · rcases List.mem_cons.mp he' with rfl | he'
      · rw [hout _ hnodup.1, AList.lookup_insert]
      · exact hin e' he'
    · rw [List.map_cons, List.mem_cons, not_or] at hi
      rw [hout i hi.2, AList.lookup_insert_ne hi.1]

/-- Writing records: all of them are written, or those before the first one that fails. -/
theorem writeRecords_recorded (recordOk : Nat → Bool) (i : Nat)
    (files : List (Nat × GPUFileDesc)) (m : GPUFileManager)
    (hslots : ∀ e ∈ files, e.1 < maxRecords) :
    writeRecords recordOk i files m = (m.recordAll files, none) ∨
      ∃ done e rest, files = done ++ e :: rest ∧ recordOk (i + done.length) = false ∧
        (∀ j, j < done.length → recordOk (i + j) = true) ∧
        writeRecords recordOk i files m = (m.recordAll done, some (i + done.length)) := by
  induction files generalizing i m with
  | nil =>
    left
    simp only [writeRecords, recordAll, LogFile.append, List.map_nil, List.append_nil]
  | cons e files ih =>
    obtain ⟨slot, d⟩ := e
    have hslot : ¬ maxRecords ≤ slot := Nat.not_le.mpr (hslots _ List.mem_cons_self)
    simp only [writeRecords, writeRecordToSlot]
    cases hok : recordOk i with
    | false =>
      right
      refine ⟨[], (slot, d), files, rfl, hok, fun j hj => absurd hj (Nat.not_lt_zero j), ?_⟩
      simp [recordAll, LogFile.append]
    | true =>
      have hwritten : ({ m with log := m.log.write (m.header.slotOffset slot) d.encode } :
          GPUFileManager) = m.recordAll [(slot, d)] := rfl
      simp only [hslot, not_true, or_self, if_false]
      rw [hwritten, recordAll_cons m (slot, d) files]
      rcases ih (i + 1) (m.recordAll [(slot, d)])
        (List.forall_mem_cons.mp hslots).2 with
        hall | ⟨done, e, rest, hfiles, hfail, hdone, hsome⟩
      · exact .inl hall
      · have hlength : i + ((slot, d) :: done).length = i + 1 + done.length := by
          rw [List.length_cons]
          omega
        refine .inr ⟨(slot, d) :: done, e, rest, by rw [hfiles]; rfl, by rw [hlength, hfail],
          fun j _ => ?_, ?_⟩
        · cases j with
          | zero => exact hok
          | succ j =>
            have hshift : i + (j + 1) = i + 1 + j := by omega
            rw [hshift]
            exact hdone j (by omega)
        · rw [hsome, recordAll_cons m (slot, d) done, hlength]

/-! ### Creating files -/

/-- What `createGPUFile` can do. -/
inductive CreatedOne (m : GPUFileManager) (totalFileSize : Nat) (tensorShape : List Nat)
    (env : CreateOneEnv) : GPUFileManager → Option Nat → Prop where
  | refused : CreatedOne m totalFileSize tensorShape env m none
  | failed (cs : List ManagedController)
      (hnvme : createNVMeFilesForGPUFile m.controllers totalFileSize env.new env.cleanup =
        some (cs, none)) :
      CreatedOne m totalFileSize tensorShape env { m with controllers := cs } none
  | undone (cs : List ManagedController) (ids : List Nat) (slot : Nat)
      (hnvme : createNVMeFilesForGPUFile m.controllers totalFileSize env.new env.cleanup =
        some (cs, some ids)) :
      CreatedOne m totalFileSize tensorShape env
        { m with
          controllers := (deleteNVMeFilesForGPUFile cs
            (GPUFileDesc.new slot totalFileSize tensorShape ids).nvmeMapping env.rollback).1 }
        none
  | created (cs : List ManagedController) (ids : List Nat) (slot : Nat)
      (hnvme : createNVMeFilesForGPUFile m.controllers totalFileSize env.new env.cleanup =
        some (cs, some ids))
      (hfresh : Fresh m [(slot, GPUFileDesc.new slot totalFileSize tensorShape ids)]) :
      CreatedOne m totalFileSize tensorShape env
        ((({ m with controllers := cs }.recordAll
          [(slot, GPUFileDesc.new slot totalFileSize tensorShape ids)]).enter
          [(slot, GPUFileDesc.new slot totalFileSize tensorShape ids)]).countWrites 1 env.persist)
        (some slot)

theorem createGPUFile_created {env : CreateOneEnv}
    (h : m.createGPUFile totalFileSize tensorShape env = some (m', r)) :
    CreatedOne m totalFileSize tensorShape env m' r := by
  have hspec := findNextFreeSlot_spec m.dirtyBitmap
  rw [createGPUFile] at h
  cases hslot : findNextFreeSlot m.dirtyBitmap with
  | none =>
    rw [hslot] at h
    cases h
    exact .refused
  | some slot =>
    rw [hslot] at h hspec
    simp only at h hspec
    split at h
    · cases h
      exact .refused
    rename_i hnew
    split at h
    · cases h
      exact .refused
    split at h
    · cases h
    next cs hnvme =>
      cases h
      exact .failed cs hnvme
    next cs ids hnvme =>
      have hlt : ¬ maxRecords ≤ slot := Nat.not_le.mpr hspec.1
      cases hok : env.recordOk with
      | false =>
        simp only [writeRecordToSlot, hok, Bool.false_eq_true, not_false_iff, or_true] at h
        cases h
        exact .undone cs ids slot hnvme
      | true =>
        simp only [writeRecordToSlot, hok, hlt] at h
        cases h
        refine .created cs ids slot hnvme ⟨List.nodup_singleton slot, fun e he => ?_,
          fun e he => ?_⟩
        · rw [List.mem_singleton] at he
          subst he
          exact ⟨hspec.1, hspec.2.1, by simpa using hnew⟩
        · rw [List.mem_singleton] at he
          subst he
          exact ⟨GPUFileDesc.fileId_new hspec.1 .., GPUFileDesc.isValid_new ..⟩

theorem findMultipleFreeSlots_spec (bm : Bitmap) (count : Nat) :
    (findMultipleFreeSlots bm count).Nodup ∧
      ∀ slot ∈ findMultipleFreeSlots bm count, slot < maxRecords ∧ bm slot = false := by
  have hspec := findZerosFrom_spec bm maxRecords 0 count
  rw [findMultipleFreeSlots]
  split
  · exact ⟨List.nodup_nil, nofun⟩
  · refine ⟨hspec.1.imp (fun h => Nat.ne_of_lt h), fun slot hslot => ?_⟩
    have hin := hspec.2 slot hslot
    exact ⟨by omega, hin.2.2⟩

theorem map_fst_newFiles (totalFileSize : Nat) (tensorShape slots : List Nat)
    (results : List (List Nat)) :
    (newFiles totalFileSize tensorShape slots results).map Prod.fst = slots := by
  rw [newFiles, List.map_map]
  exact List.zipIdx_map_fst 0 slots

/-- What `createGPUFiles` can do. -/
inductive CreatedMany (m : GPUFileManager) (totalFileSize toCreate : Nat)
    (tensorShape : List Nat) (env : CreateManyEnv) :
    GPUFileManager → Option (List Nat) → Prop where
  | refused (hwhy : tensorShape.length ≠ 3 ∨
        ∃ slot ∈ findMultipleFreeSlots m.dirtyBitmap toCreate, (m.descs.lookup slot).isSome) :
      CreatedMany m totalFileSize toCreate tensorShape env m none
  | failed (cs : List ManagedController) (results : List (List Nat))
      (hshape : tensorShape.length = 3)
      (hnew : ∀ slot ∈ findMultipleFreeSlots m.dirtyBitmap toCreate, m.descs.lookup slot = none)
      (hnvme : createOnAll totalFileSize m.controllers.length toCreate env.new env.cleanup 0
        m.controllers = some (cs, results))
      (hbad : results.any (fun ids => ids.isEmpty || ids.length ≠ toCreate) = true) :
      CreatedMany m totalFileSize toCreate tensorShape env { m with controllers := cs } none
  | undone (cs : List ManagedController) (results : List (List Nat)) (slots : List Nat)
      (done : List (Nat × GPUFileDesc)) (e : Nat × GPUFileDesc) (rest : List (Nat × GPUFileDesc))
      (hshape : tensorShape.length = 3)
      (hnew : ∀ slot ∈ findMultipleFreeSlots m.dirtyBitmap toCreate, m.descs.lookup slot = none)
      (hnvme : createOnAll totalFileSize m.controllers.length toCreate env.new env.cleanup 0
        m.controllers = some (cs, results))
      (hgood : results.any (fun ids => ids.isEmpty || ids.length ≠ toCreate) = false)
      (hslots : slots.length = toCreate)
      (hfiles : newFiles totalFileSize tensorShape slots results = done ++ e :: rest)
      (hfail : env.recordOk done.length = false)
      (hdone : ∀ j, j < done.length → env.recordOk j = true)
      (hfresh : Fresh m (newFiles totalFileSize tensorShape slots results)) :
      CreatedMany m totalFileSize toCreate tensorShape env
        { m.recordAll done with
          controllers := rollbackFiles env.rollback 0 (done ++ [e]) cs } none
  | created (cs : List ManagedController) (results : List (List Nat)) (slots : List Nat)
      (hnvme : createOnAll totalFileSize m.controllers.length toCreate env.new env.cleanup 0
        m.controllers = some (cs, results))
      (hgood : results.any (fun ids => ids.isEmpty || ids.length ≠ toCreate) = false)
      (hslots : slots.length = toCreate)
      (hfresh : Fresh m (newFiles totalFileSize tensorShape slots results)) :
      CreatedMany m totalFileSize toCreate tensorShape env
        ((({ m with controllers := cs }.recordAll
          (newFiles totalFileSize tensorShape slots results)).enter
          (newFiles totalFileSize tensorShape slots results)).countWrites toCreate env.persist)
        (some slots)

theorem createGPUFiles_created {toCreate : Nat} {env : CreateManyEnv} {r : Option (List Nat)}
    (h : m.createGPUFiles totalFileSize toCreate tensorShape env = some (m', r)) :
    CreatedMany m totalFileSize toCreate tensorShape env m' r := by
  rcases findMultipleFreeSlots_spec m.dirtyBitmap toCreate with ⟨hnodup, hfree⟩
  rw [createGPUFiles] at h
  simp only at h
  generalize hfound : findMultipleFreeSlots m.dirtyBitmap toCreate = slots at h hnodup hfree
  have hreleased : (m.dirtyBitmap.setAll slots).clearAll slots = m.dirtyBitmap :=
    Bitmap.clearAll_setAll (fun i hi => (hfree i hi).2)
  split at h
  next hshape =>
    cases h
    exact .refused (.inl hshape)
  rename_i hshape
  rw [not_not] at hshape
  split at h
  · cases h
  rename_i hlength
  rw [not_not] at hlength
  simp only [releaseSlots, hreleased] at h
  split at h
  next hany =>
    cases h
    exact .refused (.inr (hfound ▸ List.any_eq_true.mp hany))
  rename_i hany
  have hnew : ∀ slot ∈ slots, m.descs.lookup slot = none := by
    intro slot hslot
    cases hd : m.descs.lookup slot with
    | none => rfl
    | some => exact absurd (List.any_eq_true.mpr ⟨slot, hslot, by simp [hd]⟩) hany
  split at h
  · cases h
  rename_i cs results hnvme
  split at h
  next hbad =>
    cases h
    exact .failed cs results hshape (hfound ▸ hnew) hnvme hbad
  rename_i hgood
  rw [Bool.not_eq_true] at hgood
  have hfresh : Fresh m (newFiles totalFileSize tensorShape slots results) := by
    have hmem : ∀ e ∈ newFiles totalFileSize tensorShape slots results, e.1 ∈ slots := by
      intro e he
      rw [← map_fst_newFiles totalFileSize tensorShape slots results]
      exact List.mem_map_of_mem he
    refine ⟨by rwa [map_fst_newFiles], fun e he => ?_, fun e he => ?_⟩
    · exact ⟨(hfree _ (hmem e he)).1, (hfree _ (hmem e he)).2, hnew _ (hmem e he)⟩
    · have hlt := (hfree _ (hmem e he)).1
      rcases List.mem_map.mp he with ⟨_, -, rfl⟩
      exact ⟨GPUFileDesc.fileId_new hlt .., GPUFileDesc.isValid_new ..⟩
  -- Marking the slots makes no difference to what is written.
  rcases writeRecords_recorded env.recordOk 0 (newFiles totalFileSize tensorShape slots results)
    { m with dirtyBitmap := m.dirtyBitmap.setAll slots, controllers := cs }
    (fun e he => (hfresh.free e he).1) with hall | ⟨done, e, rest, hfiles, hfail, hdone, hsome⟩
  · rw [hall] at h
    cases h
    have hcreated := @CreatedMany.created m totalFileSize toCreate tensorShape env cs results
      slots hnvme hgood hlength hfresh
    rw [enter, map_fst_newFiles] at hcreated
    exact hcreated
  · have htake : (newFiles totalFileSize tensorShape slots results).take
        (0 + done.length + 1) = done ++ [e] := by
      rw [hfiles, List.take_append]
      simp
    simp only [Nat.zero_add] at hfail hdone
    rw [hsome] at h
    simp only [htake, recordAll, hreleased] at h
    cases h
    exact .undone cs results slots done e rest hshape (hfound ▸ hnew) hnvme hgood hlength hfiles
      hfail hdone hfresh

/-- What both ways to create files do to the log and the map: some records are written
    to free slots and forgotten, or to stay. -/
inductive Creation (m : GPUFileManager) : GPUFileManager → Prop where
  | failed (cs : List ManagedController) (stale : List (Nat × GPUFileDesc))
      (hfresh : Fresh m stale) : Creation m { m.recordAll stale with controllers := cs }
  | created (cs : List ManagedController) (files : List (Nat × GPUFileDesc)) (n : Nat)
      (env : PersistEnv) (hfresh : Fresh m files) :
      Creation m ((({ m with controllers := cs }.recordAll files).enter files).countWrites n env)

theorem Creation.without_records (m : GPUFileManager) (cs : List ManagedController) :
    Creation m { m with controllers := cs } := by
  have hfailed := Creation.failed cs [] (fresh_nil m)
  rwa [recordAll_nil] at hfailed

theorem CreatedOne.creation {env : CreateOneEnv}
    (h : CreatedOne m totalFileSize tensorShape env m' r) : Creation m m' := by
  cases h with
  | refused => exact .without_records m m.controllers
  | failed cs => exact .without_records m cs
  | undone => exact .without_records m _
  | created cs _ _ _ hfresh => exact .created cs _ 1 env.persist hfresh

theorem CreatedMany.creation {toCreate : Nat} {env : CreateManyEnv} {r : Option (List Nat)}
    (h : CreatedMany m totalFileSize toCreate tensorShape env m' r) : Creation m m' := by
  cases h with
  | refused => exact .without_records m m.controllers
  | failed cs => exact .without_records m cs
  | undone _ _ _ done _ _ _ _ _ _ _ hfiles _ _ hfresh =>
    refine .failed _ done (hfresh.sublist ?_)
    rw [hfiles]
    exact List.sublist_append_left ..
  | created cs _ _ _ _ _ hfresh => exact .created cs _ toCreate env.persist hfresh

/-! ### Deleting a file -/

/-- A file is taken out of the map. -/
def vacate (m : GPUFileManager) (id : Nat) (cs : List ManagedController) : GPUFileManager :=
  { m with
    controllers := cs
    descs := m.descs.erase id
    dirtyBitmap := m.dirtyBitmap.clearBit id
    header := { m.header with activeRecordCount := m.header.activeRecordCount - 1 } }

/-- What `deleteGPUFile` can do. Its record is blanked if that succeeds. -/
inductive Removed (m : GPUFileManager) (id : Nat) (env : DeleteGPUEnv) :
    GPUFileManager → Bool → Prop where
  | refused (hnone : m.descs.lookup id = none) : Removed m id env m false
  | removed (d : GPUFileDesc) (hd : m.descs.lookup id = some d) (hlt : id < maxRecords) :
      Removed m id env
        (((m.vacate id
          (deleteNVMeFilesForGPUFile m.controllers d.nvmeMapping env.delete).1).recordAll
          (if env.recordOk then [(id, .blank)] else [])).countWrites 1 env.persist) true

theorem deleteGPUFile_removed {id : Nat} {env : DeleteGPUEnv} {deleted : Bool}
    (h : m.deleteGPUFile id env = some (m', deleted)) : Removed m id env m' deleted := by
  rw [deleteGPUFile] at h
  cases hd : m.descs.lookup id with
  | none =>
    rw [hd] at h
    cases h
    exact .refused hd
  | some d =>
    rw [hd] at h
    simp only at h
    split_ifs at h
    rename_i hlt
    have hremoved := @Removed.removed m id env d hd (Nat.lt_of_not_le hlt)
    cases hok : env.recordOk with
    | false =>
      simp only [writeRecordToSlot, hok, Bool.false_eq_true, not_false_iff, or_true] at h
      cases h
      rw [hok, if_neg Bool.false_ne_true, recordAll_nil] at hremoved
      exact hremoved
    | true =>
      simp only [writeRecordToSlot, hok, hlt] at h
      cases h
      rw [hok] at hremoved
      exact hremoved

/-! ### Files of the pool -/

/-- Opening NVMe files changes the controllers and the handles. -/
theorem openMapped_eq {mapping : CompactNVMeMapping} {env : Nat → OpenEnv} {is : List (Fin 4)}
    {ok : Bool} (h : openMapped mapping env is m = some (m', ok)) :
    m' = { m with controllers := m'.controllers, devFds := m'.devFds } := by
  induction is generalizing m with
  | nil =>
    cases h
    rfl
  | cons _ _ ih =>
    rw [openMapped] at h
    split at h
    · cases h
      rfl
    split at h
    · exact ih h
    split at h
    · cases h
    · cases h
      rfl
    · have heq := ih h
      exact heq

/-- What `initGPUFile` can do. -/
inductive Inited (m : GPUFileManager) (id : Nat) (env : Nat → OpenEnv) :
    GPUFileManager → Bool → Prop where
  | refused : Inited m id env m false
  | failed (m' : GPUFileManager) (d : GPUFileDesc) (hd : m.descs.lookup id = some d)
      (hopen : openMapped d.nvmeMapping env (List.finRange 4) m = some (m', false)) :
      Inited m id env m' false
  | pooled (m' : GPUFileManager) (d : GPUFileDesc) (hd : m.descs.lookup id = some d)
      (hopen : openMapped d.nvmeMapping env (List.finRange 4) m = some (m', true)) :
      Inited m id env { m' with freeList := m'.freeList ++ [id] } true

theorem initGPUFile_inited {id : Nat} {env : Nat → OpenEnv} {ok : Bool}
    (h : m.initGPUFile id env = some (m', ok)) : Inited m id env m' ok := by
  rw [initGPUFile] at h
  split at h
  · cases h
    exact .refused
  split at h
  · cases h
    exact .refused
  rename_i d hd
  split at h
  · cases h
    exact .refused
  split at h
  · cases h
  next hopen =>
    cases h
    exact .failed m' d hd hopen
  next m₁ hopen =>
    cases h
    exact .pooled m₁ d hd hopen

/-- What `openGPUFile` can do. -/
inductive Opened (m : GPUFileManager) : GPUFileManager → Option Nat → Prop where
  | refused : Opened m m none
  | opened (id : Nat) (rest fds : List Nat) (hlast : m.freeList = rest ++ [id])
      (hfds : m.getDevFdById id = some fds) :
      Opened m { m with freeList := rest, ctxs := m.ctxs.insert id fds } (some id)

theorem openGPUFile_opened {mallocOk memcpyOk : Bool}
    (h : m.openGPUFile mallocOk memcpyOk = some (m', r)) : Opened m m' r := by
  rw [openGPUFile] at h
  split at h
  · cases h
    exact .refused
  rename_i id hlast
  have hlist : m.freeList = m.freeList.dropLast ++ [id] :=
    (List.dropLast_append_getLast? id hlast).symm
  split at h
  · cases h
  rename_i fds hfds
  split at h
  · cases h
    -- The file goes back to where it was.
    rw [← hlist]
    exact .refused
  · cases h
    exact .opened id _ fds hlist hfds

/-- The position that the search ends at is in the range. -/
theorem lowerBoundLoop_le (l : List Nat) (v turns first len : Nat) :
    lowerBoundLoop l v turns first len ≤ first + len := by
  induction turns generalizing first len with
  | zero => exact Nat.le_add_right first len
  | succ _ ih =>
    rw [lowerBoundLoop]
    split
    · exact Nat.le_add_right first len
    simp only
    split
    · have hle := ih (first + len / 2 + 1) (len - len / 2 - 1)
      omega
    · have hle := ih first (len / 2)
      omega

/-- What `closeGPUFile` can do: a file goes back to the pool, unless it is found there.
    -/
inductive Closed (m : GPUFileManager) (id : Nat) : GPUFileManager → Bool → Prop where
  | refused (hnone : m.ctxs.lookup id = none) : Closed m id m false
  | doubled (hmem : id ∈ m.freeList) : Closed m id { m with ctxs := m.ctxs.erase id } true
  | closed (freeList : List Nat) (hopen : (m.ctxs.lookup id).isSome)
      (hperm : freeList.Perm (id :: m.freeList)) :
      Closed m id { m with ctxs := m.ctxs.erase id, freeList := freeList } true

theorem closeGPUFile_closed (m : GPUFileManager) (id : Nat) :
    Closed m id (m.closeGPUFile id).1 (m.closeGPUFile id).2 := by
  rw [closeGPUFile]
  split
  next hnone => exact .refused hnone
  rename_i hopen
  simp only
  split
  next hfound => exact .doubled (List.mem_of_getElem? hfound)
  · refine .closed _ (by rw [hopen]; rfl) (List.perm_insertIdx id _ ?_)
    have hle := lowerBoundLoop_le m.freeList id m.freeList.length 0 m.freeList.length
    rwa [Nat.zero_add] at hle

/-! ### Calls -/

/-- What a call can do. -/
inductive Stepped (m : GPUFileManager) : Call → GPUFileManager → Prop where
  | one {size shape env m' r} (h : CreatedOne m size shape env m' r) :
      Stepped m (.createGPUFile size shape env) m'
  | many {size n shape env m' r} (h : CreatedMany m size n shape env m' r) :
      Stepped m (.createGPUFiles size n shape env) m'
  | inited {id env m' ok} (h : Inited m id env m' ok) : Stepped m (.initGPUFile id env) m'
  | opened {mallocOk memcpyOk m' r} (h : Opened m m' r) :
      Stepped m (.openGPUFile mallocOk memcpyOk) m'
  | closed {id m' ok} (h : Closed m id m' ok) : Stepped m (.closeGPUFile id) m'
  | removed {id env m' ok} (h : Removed m id env m' ok) : Stepped m (.deleteGPUFile id env) m'

theorem step_stepped {c : Call} (h : m.step c = some m') : Stepped m c m' := by
  cases c with
  | closeGPUFile id =>
    cases h
    exact .closed (closeGPUFile_closed m id)
  | createGPUFile | createGPUFiles | initGPUFile | openGPUFile | deleteGPUFile =>
    obtain ⟨⟨_, _⟩, hcall, rfl⟩ := Option.map_eq_some_iff.mp h
    first
      | exact .one (createGPUFile_created hcall)
      | exact .many (createGPUFiles_created hcall)
      | exact .inited (initGPUFile_inited hcall)
      | exact .opened (openGPUFile_opened hcall)
      | exact .removed (deleteGPUFile_removed hcall)

end GPUFileManager

end Geminifs.Gemini
