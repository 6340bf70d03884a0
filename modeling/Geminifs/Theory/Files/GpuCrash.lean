import Geminifs.Theory.Files.GpuLog

/-!
# A GPU File Manager After a Crash

A crash leaves some of the writes to a log, from the first one on. What a new manager
loads from that is consistent but for one kind of slot: a file that the bitmap on disk
lists was deleted, its record was blanked at once, and the bitmap was not written in
the meantime. The bit of such a slot is set and there is no file, so that the slot is
never used again.

The other way round there is no harm. A file that is loaded always has its bit.

## Theorems

* `crash_consistent_iff`: When what is loaded after a crash is consistent.
* `delete_crash_loses_slot`: A crash right after a record was blanked.
-/

namespace Geminifs.Gemini

open SlotLog Runs

namespace GPUFileManager

open GPUFileDesc

/-- What a new manager finds after a crash, in terms of the slots. -/
theorem loaded_crash {m : GPUFileManager} (hs : Sound m) (k : Nat) (junk : LogHeader) :
    Loaded (m.log.crash k) (loadFromFile (m.log.crash k) junk) :=
  loadFromFile_spec (hs.safe k).readable junk

/-- What is loaded after a crash is consistent, unless a slot that the bitmap lists was
    blanked and neither the bitmap nor the slot was written after that. A file that is
    loaded always has its bit, and is in the slot that it names. -/
theorem crash_consistent_iff (log : Option ByteFile) (hlog : Written log)
    (controllers controllers' : List ManagedController) (threshold threshold' : Nat)
    (junk junk' : LogHeader) (calls : List Call) (m : GPUFileManager)
    (hrun : run (lift step) (some (construct log controllers threshold junk)) calls =
      some m) (k : Nat) :
    (Consistent (construct (some (m.log.crash k)) controllers' threshold' junk') ↔
      ∀ i, ¬ Blanked m.log.start (m.log.writes.take k) i) ∧
    ∀ i d, (construct (some (m.log.crash k)) controllers' threshold' junk').descs.lookup i =
      some d → (construct (some (m.log.crash k)) controllers' threshold' junk').dirtyBitmap i =
        true ∧ d.fileId.toNat = i := by
  have hs := sound_run (hlog.sound controllers threshold junk) hrun
  have htracked : ∀ i, Blanked m.log.start (m.log.writes.take k) i ↔
      (slots (m.log.crash k)).listed i = true ∧ (slots (m.log.crash k)).cell i = none :=
    (hs.safe k).tracked
  have hload := loaded_crash hs k junk'
  have hbitmap : ∀ i, (construct (some (m.log.crash k)) controllers' threshold'
      junk').dirtyBitmap i = (slots (m.log.crash k)).listed i := hload.bitmap
  have hdescs : ∀ i, (construct (some (m.log.crash k)) controllers' threshold'
      junk').descs.lookup i = (slots (m.log.crash k)).recovered i := hload.descs
  have hfound : ∀ i d, (slots (m.log.crash k)).recovered i = some d →
      (slots (m.log.crash k)).listed i = true ∧ d.fileId.toNat = i := by
    intro i d hd
    rw [SlotDisk.recovered] at hd
    split at hd
    next hlisted => exact ⟨hlisted, (cell_some hd).2.2⟩
    · cases hd
  refine ⟨⟨fun hcons i hblank => ?_, fun hno i => ?_⟩, fun i d hd => ?_⟩
  · -- The bit of a slot that was blanked is set, and there is no file.
    rcases (htracked i).mp hblank with ⟨hlisted, hcell⟩
    rcases (hcons i).mp ((hbitmap i).trans hlisted) with ⟨d, hd, -⟩
    rw [hdescs i, SlotDisk.recovered, if_pos hlisted, hcell] at hd
    cases hd
  · rw [hbitmap i]
    constructor
    · intro hlisted
      cases hcell : (slots (m.log.crash k)).cell i with
      | none => exact absurd ((htracked i).mpr ⟨hlisted, hcell⟩) (hno i)
      | some d =>
        refine ⟨d, ?_, (cell_some hcell).2.2⟩
        rw [hdescs i, SlotDisk.recovered, if_pos hlisted, hcell]
    · rintro ⟨d, hd, -⟩
      exact (hfound i d ((hdescs i).symm.trans hd)).1
  · rw [hbitmap i]
    exact hfound i d ((hdescs i).symm.trans hd)

/-! ### Losing a slot -/

/-- Only writes are added to the log. -/
theorem countWrites_log (m : GPUFileManager) (n : Nat) (env : PersistEnv) :
    ∃ ws, (m.countWrites n env).log = m.log.append ws := by
  have hnil : ∃ ws, m.log = m.log.append ws := ⟨[], by simp only [LogFile.append, List.append_nil]⟩
  rw [countWrites]
  split
  · simp only [persistBitmap]
    split
    · split
      · exact ⟨[_, _], by simp only [LogFile.write, List.append_assoc]; rfl⟩
      · exact ⟨[_], rfl⟩
    · split
      · exact ⟨[_], rfl⟩
      · exact hnil
  · exact hnil

/-- A file whose bit is on disk is deleted, and its record is blanked: a crash right
    after that. -/
theorem blanked_of_delete {m m' : GPUFileManager} (hs : Sound m) {id : Nat} {env : DeleteGPUEnv}
    (hlisted : (slots m.log.content).listed id = true) (hrecord : env.recordOk = true)
    (h : m.deleteGPUFile id env = some (m', true)) :
    Blanked m'.log.start (m'.log.writes.take (m.log.writes.length + 1)) id := by
  cases deleteGPUFile_removed h with
  | removed d _ _ =>
    rw [hrecord, if_pos rfl]
    rcases countWrites_log ((m.vacate id (deleteNVMeFilesForGPUFile m.controllers d.nvmeMapping
      env.delete).1).recordAll [(id, blank)]) 1 env.persist with ⟨ws, hws⟩
    have hoff : (m.vacate id (deleteNVMeFilesForGPUFile m.controllers d.nvmeMapping
        env.delete).1).header.slotOffset id = slotStart id :=
      slotOffset_of_isHeader (hs.header.withCount _) id
    have hwrites : ((m.vacate id (deleteNVMeFilesForGPUFile m.controllers d.nvmeMapping
        env.delete).1).recordAll [(id, blank)]).log.writes =
        m.log.writes ++ [(slotStart id, blank.encode)] := by
      simp only [recordAll, List.map_cons, hoff]
      rfl
    refine ⟨m.log.writes, [], ?_, ?_, by simp⟩
    · rw [hws, LogFile.append, hwrites, List.take_append_of_le_length, List.take_of_length_le]
      · rw [List.length_append, List.length_singleton]
      · rw [List.length_append, List.length_singleton]
    · rw [hws]
      exact hlisted

/-- A bitmap that is written after every change is the one in memory. -/
theorem Sound.listed_countWrites {m : GPUFileManager} (hs : Sound m) (hdue : m.threshold ≤ 1)
    {env : PersistEnv} (henv : env.bitmapOk = true) (i : Nat) :
    (slots (m.countWrites 1 env).log.content).listed i = m.dirtyBitmap i := by
  have hpending : Sound { m with pending := m.pending + 1 } := hs.congr rfl rfl rfl rfl
  rw [GPUFileManager.countWrites]
  rw [if_pos (Nat.le_trans hdue (Nat.le_add_left 1 m.pending))]
  exact hpending.listed_persist henv i

/-- Even if the bitmap is written after every change, a crash right after a record was
    blanked leaves a slot that is in use by no file. -/
theorem delete_crash_loses_slot {m m₁ m₂ : GPUFileManager} (hs : Sound m)
    (hdue : m.threshold ≤ 1) {totalFileSize : Nat} {tensorShape : List Nat} {env : CreateOneEnv}
    {id : Nat} (hcreate : m.createGPUFile totalFileSize tensorShape env = some (m₁, some id))
    (henv : env.persist.bitmapOk = true) {env' : DeleteGPUEnv} (hrecord : env'.recordOk = true)
    (hdelete : m₁.deleteGPUFile id env' = some (m₂, true))
    (controllers : List ManagedController) (threshold : Nat) (junk : LogHeader) :
    (construct (some (m₂.log.crash (m₁.log.writes.length + 1))) controllers threshold
        junk).dirtyBitmap id = true ∧
      (construct (some (m₂.log.crash (m₁.log.writes.length + 1))) controllers threshold
        junk).descs.lookup id = none := by
  have hcreated := createGPUFile_created hcreate
  have hs₁ : Sound m₁ := hs.creation hcreated.creation
  have hs₂ : Sound m₂ := hs₁.removed (deleteGPUFile_removed hdelete)
  have hlisted : (slots m₁.log.content).listed id = true := by
    cases hcreated with
    | created cs ids _ _ hfresh =>
      have hcs : Sound { m with controllers := cs } := hs.congr rfl rfl rfl rfl
      rcases hcs.recordAll ⟨hfresh.nodup, hfresh.free, hfresh.named⟩ with ⟨hsound, hcells, -⟩
      rw [(hsound.enter hfresh.nodup hcells).listed_countWrites hdue henv]
      exact Function.update_self id true m.dirtyBitmap
  have hblank := blanked_of_delete hs₁ hlisted hrecord hdelete
  rcases ((hs₂.safe (m₁.log.writes.length + 1)).tracked id).mp hblank with ⟨hbit, hcell⟩
  have hload := loaded_crash hs₂ (m₁.log.writes.length + 1) junk
  refine ⟨(hload.bitmap id).trans hbit, (hload.descs id).trans ?_⟩
  rw [SlotDisk.recovered]
  split
  · exact hcell
  · rfl

/-- A crash after the record of a new file was written. -/
theorem crash_consistent_iff_newLog : Written none ∧ ∃ m,
    run (lift step) (some (construct none [ManagedController.fresh ManagedController.mountM]
      1 (newHeader 0 0))) [.createGPUFile 65536 [1, 1, 4096] createOk] = some m ∧
    ∀ i d, (construct (some (m.log.crash 3)) [] 1 (newHeader 0 0)).descs.lookup i = some d →
      (construct (some (m.log.crash 3)) [] 1 (newHeader 0 0)).dirtyBitmap i = true ∧
        d.fileId.toNat = i := by
  have hrun : (run (lift step) (some (construct none
      [ManagedController.fresh ManagedController.mountM] 1 (newHeader 0 0)))
      [.createGPUFile 65536 [1, 1, 4096] createOk]).isSome = true := by
    rw [construct_none]
    decide
  rcases Option.isSome_iff_exists.mp hrun with ⟨m, hrun⟩
  exact ⟨.absent, m, hrun,
    (crash_consistent_iff none .absent _ [] 1 1 _ (newHeader 0 0) _ m hrun 3).2⟩

/-- A file is created and deleted, with the bitmap written after each of the two. A crash
    right after its record was blanked leaves its bit set. -/
theorem crash_keeps_bit : ∃ m₁ m₂,
    (construct none [ManagedController.fresh ManagedController.mountM] 1
      (newHeader 0 0)).createGPUFile 65536 [1, 1, 4096] createOk = some (m₁, some 0) ∧
    m₁.deleteGPUFile 0 deleteOk = some (m₂, true) ∧ m₁.log.writes.length = 5 ∧
    (construct (some (m₂.log.crash 6)) [] 1 (newHeader 0 0)).dirtyBitmap 0 = true ∧
    (construct (some (m₂.log.crash 6)) [] 1 (newHeader 0 0)).descs.lookup 0 = none := by
  rw [construct_none]
  have hrun : (((fresh [ManagedController.fresh ManagedController.mountM] 1).createGPUFile 65536
      [1, 1, 4096] createOk).bind fun s => (s.1.deleteGPUFile 0 deleteOk).map fun t =>
        (s.2, s.1.log.writes.length, t.2)) = some (some 0, 5, true) := by decide
  rcases Option.bind_eq_some_iff.mp hrun with ⟨⟨m₁, r⟩, hcreate, hrest⟩
  rcases Option.map_eq_some_iff.mp hrest with ⟨⟨m₂, ok⟩, hdelete, heq⟩
  simp only [Prod.mk.injEq] at heq
  rcases heq with ⟨rfl, hlength, rfl⟩
  have hlost := delete_crash_loses_slot (sound_fresh _ 1) (Nat.le_refl 1) hcreate rfl rfl hdelete
    [] 1 (newHeader 0 0)
  rw [hlength] at hlost
  exact ⟨m₁, m₂, hcreate, hdelete, hlength, hlost⟩

end GPUFileManager

end Geminifs.Gemini
