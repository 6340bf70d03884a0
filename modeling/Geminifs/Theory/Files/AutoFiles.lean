import Geminifs.Theory.Files.Controller

/-!
# Files Named by Their Ids

The NVMe files of GPU files are made without a name, and are named by the ids of their
records. So the name of a file reads as its id, no two of them share a place in the
directory, and what is done to one of them leaves the others alone.

## Main definitions

* `AutoMade`: What `host_file_create_managed` without a name can do.
* `Worked`: Files are made, and files that were not there at first are deleted.
* `Numbered`: A controller with such files only.
* `Spares`: Some of the files are left alone.

## Theorems

* `parse_decimal`: The name of such a file reads as its id.
* `hostFileCreateManagedAuto_made`: The function does what it can.
* `hostFileDeleteManaged_deleted`: Deleting such a file deletes its record.
* `hostFileDeleteManaged_spares`: The other files are left alone.
* `Worked.spares`: The files that were there at first are left alone.
-/

namespace Geminifs.Gemini

open SlotLog Function

/-- The name of a file in the mount point, made from an id. -/
theorem Controller.plain_decimal (id : Nat) : Controller.Plain (decimal id) :=
  ⟨(decimal_ordinary id).1, (decimal_ordinary id).2.1, (decimal_ordinary id).2.2⟩

theorem Controller.below_decimal_ne (ctrl : Controller) {id id' : Nat} (h : id ≠ id') :
    ctrl.below (decimal id) ≠ ctrl.below (decimal id') :=
  fun heq => h (decimal_inj (ctrl.below_inj heq))

/-- The name of such a file reads as its id. -/
theorem FileManager.parse_decimal {id : Nat} (h : id < maxRecords) :
    parseFileIdFromFilename (decimal id) = id ∧ id ≠ uint32Max := by
  have hmax : maxRecords < 4294967295 := by decide
  rw [parseFileIdFromFilename, stoul_decimal id (by omega)]
  refine ⟨Nat.mod_eq_of_lt (by omega), ?_⟩
  rw [uint32Max]
  omega

namespace ManagedController

open FileManager

variable {c c' : ManagedController} {r : Option Nat}

/-- What `host_file_create_managed` without a name can do. If it fails, the records are
    what they were, and so are the files that have records. -/
inductive AutoMade (c : ManagedController) : ManagedController → Option Nat → Prop where
  | failed (c' : ManagedController)
      (hother : c' = { c with fm := c'.fm, files := c'.files, nextSerial := c'.nextSerial })
      (hsound : Sound c'.fm) (hrecords : c'.fm.records = c.fm.records)
      (hfiles : ∀ id, (c.fm.records id).isSome →
        c'.files (c.controller.below (decimal id)) = c.files (c.controller.below (decimal id))) :
      AutoMade c c' none
  | made (c' : ManagedController) (id : Nat) (d : NVMeFileDesc) (f : DataFile)
      (hinit : c.initialized = true)
      (hother : c' = { c with fm := c'.fm, files := c'.files, nextSerial := c'.nextSerial })
      (hsound : Sound c'.fm) (hfree : c.fm.records id = none) (hlt : id < maxRecords)
      (hname : d.name = decimal id)
      (hrecords : c'.fm.records = update c.fm.records id (some d))
      (hfiles : c'.files = update c.files (c.controller.below (decimal id)) (some f)) :
      AutoMade c c' (some id)

theorem hostFileCreateManagedAuto_made (hs : Sound c.fm) {blockSize fileSize : Nat}
    {env : NewFileEnv} (h : c.hostFileCreateManagedAuto blockSize fileSize env = some (c', r)) :
    AutoMade c c' r := by
  rw [hostFileCreateManagedAuto] at h
  split at h
  · cases h
    exact .failed c rfl hs rfl (fun _ _ => rfl)
  rename_i hinit
  split at h
  next fm hrecord =>
    cases h
    cases createFileAuto_entered hs hrecord with
    | refused => exact .failed _ rfl hs rfl (fun _ _ => rfl)
  rename_i fm d hrecord
  cases createFileAuto_entered hs hrecord with
  | entered _ _ hfree hlt hname hsound hrecords =>
    -- A record that was just made is taken back.
    have hdrop : ∀ c₁ : ManagedController, c₁.fm = fm →
        Sound (c₁.dropRecord d.slotIndex.toNat env.undo).fm ∧
          (c₁.dropRecord d.slotIndex.toNat env.undo).fm.records = c.fm.records := by
      rintro c₁ rfl
      have hdelete := deleteFile_records hsound d.slotIndex.toNat env.undo
      refine ⟨hdelete.1, hdelete.2.1.trans ?_⟩
      rw [hrecords, update_idem, ← hfree, update_eq_self]
    simp only at h
    split at h
    · cases h
    split at h
    · cases h
      exact .failed _ rfl (hdrop _ rfl).1 (hdrop _ rfl).2 (fun _ _ => rfl)
    have hplace : c.controller.place (c.controller.concatPath d.name) =
        some (c.controller.below (decimal d.slotIndex.toNat)) := by
      rw [hname]
      exact c.controller.place_concatPath (Controller.plain_decimal _)
    split at h
    · cases h
    next c₁ hmake =>
      cases h
      have hmade := makeFile_made hmake
      have hfm : c₁.fm = fm := by rw [hmade.other]
      refine .failed _ ?_ (hdrop c₁ hfm).1 (hdrop c₁ hfm).2 (fun id hid => ?_)
      · simp only [dropRecord]
        rw [hmade.other]
      · -- The place of a free slot is not that of another file.
        cases hmade with
        | refused => rfl
        | empty p hp =>
          have hpe : c.controller.below (decimal d.slotIndex.toNat) = p :=
            Option.some.inj (hplace.symm.trans hp)
          have hne : id ≠ d.slotIndex.toNat := by
            rintro rfl
            rw [hfree] at hid
            cases hid
          rw [← hpe]
          exact update_of_ne (c.controller.below_decimal_ne hne) _ _
    next c₁ hmake =>
      cases h
      have hmade := makeFile_made hmake
      cases hmade with
      | filled p stored hp =>
        have hpe : c.controller.below (decimal d.slotIndex.toNat) = p :=
          Option.some.inj (hplace.symm.trans hp)
        subst hpe
        exact .made _ _ d _ (by simpa using hinit) rfl hsound hfree hlt hname hrecords rfl

/-- Deleting a file by an id that is its name. -/
theorem hostFileDeleteManaged_deleted (hs : Sound c.fm) (hinit : c.initialized = true) {id : Nat}
    {d : NVMeFileDesc} (hd : c.fm.records id = some d) (hname : d.name = decimal id)
    (env : DeleteEnv) :
    Deleted c (decimal id) env.unlinkOk (c.hostFileDeleteManaged id env).1 ∧
      (c.hostFileDeleteManaged id env).1.fm.records = update c.fm.records id none := by
  have hlookup : c.fm.files.lookup id = some d := hd
  rcases parse_decimal (hs.slot hd).1 with ⟨hparse, hmax⟩
  have hdeleted := (deleteSingle_of_parsed hs hinit (hparse.symm ▸ hmax) env).1
  rw [hostFileDeleteManaged]
  simp only [hinit, not_true, if_false, hlookup, hname]
  exact ⟨hdeleted, by rw [hdeleted.records, hparse]⟩

/-- Deleting a file keeps the file manager sound, whatever its name. -/
theorem hostFileDeleteManaged_sound (hs : Sound c.fm) (id : Nat) (env : DeleteEnv) :
    Sound (c.hostFileDeleteManaged id env).1.fm := by
  rw [hostFileDeleteManaged]
  split
  · exact hs
  split
  · exact hs
  next d _ =>
    rcases deleteSingle_deleted hs (show c.deviceFileDeleteSingleManaged d.name env =
      ((c.deviceFileDeleteSingleManaged d.name env).1, _) from rfl) with ⟨heq, -⟩ | ⟨-, -, hdel, -⟩
    · rw [heq]
      exact hs
    · exact hdel.sound

theorem AutoMade.sound (h : AutoMade c c' r) : Sound c'.fm := by
  cases h with
  | failed _ hsound | made _ _ _ _ _ hsound => exact hsound

/-- The work on a controller: files are made without a name, and files that were not there
    at first are deleted. -/
inductive Worked (c : ManagedController) : ManagedController → Prop where
  | refl : Worked c c
  | make {c₁ c₂ : ManagedController} {r : Option Nat} (h : Worked c c₁) (hmade : AutoMade c₁ c₂ r) :
      Worked c c₂
  | delete {c₁ : ManagedController} (h : Worked c c₁) (id : Nat) (env : DeleteEnv)
      (hnew : c.fm.records id = none) : Worked c (c₁.hostFileDeleteManaged id env).1

/-- A file that is there at first is there if one more is made before that. -/
theorem Worked.after {c₁ : ManagedController} (hmade : AutoMade c c₁ r) (h : Worked c₁ c') :
    Worked c c' := by
  induction h with
  | refl => exact .make .refl hmade
  | make _ hnext ih => exact .make ih hnext
  | delete _ id env hnew ih =>
    refine .delete ih id env ?_
    cases hmade with
    | failed _ _ hrecords => rwa [hrecords] at hnew
    | made id' d _ _ _ _ hfree _ _ hrecords =>
      by_cases hid : id = id'
      · rw [hid]
        exact hfree
      · rwa [hrecords, update_of_ne hid] at hnew

/-! ### Other files -/

/-- A controller whose files are named by their ids. It is mounted at an absolute path,
    and so its handles have absolute paths for names. -/
structure Numbered (c : ManagedController) : Prop where
  sound : Sound c.fm
  named : ∀ id d, c.fm.records id = some d → d.name = decimal id
  mounted : c.controller.devMountPath.head? = some slash
  handles : ∀ h ∈ c.deviceFiles, h.filename.head? = some slash

/-- The files in `S` and the GPU memory are left alone. -/
structure Spares (c c' : ManagedController) (S : Nat → Prop) : Prop where
  controller : c'.controller = c.controller
  gpu : c'.gpu = c.gpu
  nextAddr : c'.nextAddr = c.nextAddr
  records : ∀ id, S id → c'.fm.records id = c.fm.records id
  files : ∀ id, S id →
    c'.files (c.controller.below (decimal id)) = c.files (c.controller.below (decimal id))

theorem Spares.refl (c : ManagedController) (S : Nat → Prop) : Spares c c S :=
  ⟨rfl, rfl, rfl, fun _ _ => rfl, fun _ _ => rfl⟩

theorem Spares.trans {c₁ c₂ : ManagedController} {S T : Nat → Prop} (h₁ : Spares c c₁ S)
    (h₂ : Spares c₁ c₂ T) (hsub : ∀ id, S id → T id) : Spares c c₂ S where
  controller := h₂.controller.trans h₁.controller
  gpu := h₂.gpu.trans h₁.gpu
  nextAddr := h₂.nextAddr.trans h₁.nextAddr
  records id hid := (h₂.records id (hsub id hid)).trans (h₁.records id hid)
  files id hid := by
    have hfiles := h₂.files id (hsub id hid)
    rw [h₁.controller] at hfiles
    exact hfiles.trans (h₁.files id hid)

theorem AutoMade.numbered (hc : Numbered c) (h : AutoMade c c' r) : Numbered c' := by
  cases h with
  | failed hother hsound hrecords _ =>
    refine ⟨hsound, fun id d hd => ?_, ?_, ?_⟩
    · rw [hrecords] at hd
      exact hc.named id d hd
    · rw [hother]
      exact hc.mounted
    · rw [hother]
      exact hc.handles
  | made id d _ _ hother hsound _ _ hname hrecords _ =>
    refine ⟨hsound, fun id' d' hd => ?_, ?_, ?_⟩
    · rw [hrecords] at hd
      by_cases hid : id' = id
      · rw [hid, update_self, Option.some.injEq] at hd
        rw [← hd, hid, hname]
      · rw [update_of_ne hid] at hd
        exact hc.named id' d' hd
    · rw [hother]
      exact hc.mounted
    · rw [hother]
      exact hc.handles

/-- A file that is made leaves those alone that are there. -/
theorem AutoMade.spares (h : AutoMade c c' r) :
    Spares c c' (fun id => (c.fm.records id).isSome) := by
  cases h with
  | failed hother _ hrecords hfiles =>
    exact ⟨by rw [hother], by rw [hother], by rw [hother], fun id _ => by rw [hrecords], hfiles⟩
  | made id d _ _ hother _ hfree _ _ hrecords hfiles =>
    have hne : ∀ id', (c.fm.records id').isSome → id' ≠ id := by
      rintro id' hsome rfl
      rw [hfree] at hsome
      cases hsome
    refine ⟨by rw [hother], by rw [hother], by rw [hother], fun id' hid => ?_, fun id' hid => ?_⟩
    · rw [hrecords, update_of_ne (hne id' hid)]
    · rw [hfiles, update_of_ne (c.controller.below_decimal_ne (hne id' hid))]

/-- No handle has the name of a file for its own. -/
theorem Numbered.forgetDeviceFile (hc : Numbered c) (id : Nat) :
    c.forgetDeviceFile (decimal id) = c := by
  have hfind : c.deviceFiles.find? (fun h => h.filename == decimal id) = none := by
    rw [List.find?_eq_none]
    intro h hh hname
    have hslash := hc.handles h hh
    rw [beq_iff_eq.mp hname] at hslash
    exact (Controller.plain_decimal id).slashFree (List.mem_of_mem_head? hslash)
  rw [ManagedController.forgetDeviceFile, hfind]

/-- Deleting a file leaves the others alone. -/
theorem hostFileDeleteManaged_spares (hc : Numbered c) (id : Nat) (env : DeleteEnv) :
    Numbered (c.hostFileDeleteManaged id env).1 ∧
      Spares c (c.hostFileDeleteManaged id env).1 (· ≠ id) ∧
      ((c.hostFileDeleteManaged id env).1 = c ∨
        (c.hostFileDeleteManaged id env).1.fm.records id = none) := by
  by_cases hinit : c.initialized = true
  · cases hd : c.fm.records id with
    | none =>
      have hsame : (c.hostFileDeleteManaged id env).1 = c := by
        have hlookup : c.fm.files.lookup id = none := hd
        simp only [hostFileDeleteManaged, hinit, not_true, if_false, hlookup]
      rw [hsame]
      exact ⟨hc, .refl c _, .inl rfl⟩
    | some d =>
      rcases hostFileDeleteManaged_deleted hc.sound hinit hd (hc.named id d hd) env with
        ⟨hdeleted, hrecords⟩
      have hgpu := hdeleted.gpu
      have hhandles := hdeleted.deviceFiles
      rw [hc.forgetDeviceFile] at hgpu hhandles
      refine ⟨⟨hdeleted.sound, fun id' d' hd' => ?_, ?_, ?_⟩,
        ⟨hdeleted.controller, hgpu, hdeleted.nextAddr, fun id' hid => ?_, fun id' hid => ?_⟩,
        .inr ?_⟩
      · rw [hrecords] at hd'
        by_cases hid : id' = id
        · rw [hid, update_self] at hd'
          cases hd'
        · rw [update_of_ne hid] at hd'
          exact hc.named id' d' hd'
      · rw [hdeleted.controller]
        exact hc.mounted
      · rw [hhandles]
        exact hc.handles
      · rw [hrecords, update_of_ne hid]
      · rw [hdeleted.files]
        exact c.removeFile_other (c.controller.place_concatPath (Controller.plain_decimal id)) _
          (c.controller.below_decimal_ne hid)
      · rw [hrecords, update_self]
  · have hsame : (c.hostFileDeleteManaged id env).1 = c := by
      rw [hostFileDeleteManaged, if_pos hinit]
    rw [hsame]
    exact ⟨hc, .refl c _, .inl rfl⟩

/-- The files that were there at first are left alone. -/
theorem Worked.spares (hc : Numbered c) (h : Worked c c') :
    Numbered c' ∧ Spares c c' (fun id => (c.fm.records id).isSome) := by
  induction h with
  | refl => exact ⟨hc, .refl c _⟩
  | make _ hmade ih =>
    refine ⟨hmade.numbered ih.1, ih.2.trans hmade.spares (fun id hid => ?_)⟩
    rw [ih.2.records id hid]
    exact hid
  | delete _ id env hnew ih =>
    rcases hostFileDeleteManaged_spares ih.1 id env with ⟨hnumbered, hspares, -⟩
    refine ⟨hnumbered, ih.2.trans hspares ?_⟩
    rintro id' hsome rfl
    rw [hnew] at hsome
    cases hsome

end ManagedController

end Geminifs.Gemini
