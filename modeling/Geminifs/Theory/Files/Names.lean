import Geminifs.Theory.Files.AutoFiles
import Geminifs.Theory.Files.Creation

/-!
# Names and Ids of Files

A file has an id, which is its slot, and a name. Both ways to find it from its name read
the name as a number first, whatever slot the file is in: `getFileIdByFilename` falls
back to the names if there is no record of that number, and deleting a file does not.

So a name denotes the file that has it exactly if it does not read as the id of another
one, and a file is deleted exactly if its name reads as its id. A file that is made
without a name always is.

## Main definitions

* `NameCall`: The calls that make and delete files.
* `Removes`: One record is gone, and the file that it describes.

## Theorems

* `lookup_right_iff`: When the record that is found has the name.
* `deleteSingle_removes_iff`: When the right record is deleted.
* `names_denote_iff`: Both, after any calls.
-/

namespace Geminifs.Gemini

open SlotLog Runs Function

namespace ManagedController

open FileManager

variable {c c' : ManagedController} {fm : FileManager}

/-- The calls that make and delete files, with what happens in them. -/
inductive NameCall where
  | create (blockSize fileSize : Nat) (filename : Bytes) (env : NewFileEnv)
  | createAuto (blockSize fileSize : Nat) (env : NewFileEnv)
  | deleteSingle (filename : Bytes) (env : DeleteEnv)
  | delete (id : Nat) (env : DeleteEnv)

def NameCall.step (c : ManagedController) : NameCall → Option ManagedController
  | .create blockSize fileSize filename env =>
    (c.hostFileCreateManaged blockSize fileSize filename env).map Prod.fst
  | .createAuto blockSize fileSize env =>
    (c.hostFileCreateManagedAuto blockSize fileSize env).map Prod.fst
  | .deleteSingle filename env => some (c.deviceFileDeleteSingleManaged filename env).1
  | .delete id env => some (c.hostFileDeleteManaged id env).1

/-- The record `d` of an id is gone and no other, and the file that it describes is gone
    and no other. -/
def Removes (c : ManagedController) (id : Nat) (d : NVMeFileDesc) (c' : ManagedController) : Prop :=
  c'.fm.records = update c.fm.records id none ∧
    c'.files = match c.controller.place (c.controller.concatPath d.name) with
      | some p => update c.files p none
      | none => c.files

/-! ### What the calls keep -/

/-- The file manager is sound, and there are no files in the place of directories. -/
structure Proper (c : ManagedController) : Prop where
  sound : Sound c.fm
  notDir : ∀ p f, c.files p = some f → c.controller.isDir p = false

/-- The files are among those that there were. -/
theorem Proper.fewer (hc : Proper c) (hsound : Sound c'.fm) (hctrl : c'.controller = c.controller)
    (hfiles : ∀ p f, c'.files p = some f → ∃ g, c.files p = some g) : Proper c' := by
  refine ⟨hsound, fun p f hf => ?_⟩
  rcases hfiles p f hf with ⟨g, hg⟩
  rw [hctrl]
  exact hc.notDir p g hg

/-- A file is made where there is no directory. -/
theorem Made.proper {path : Bytes} {hdr : GeminiHdr} {env : CreateEnv} {made : Bool} (hc : Proper c)
    (h : Made c path hdr env c' made) : Proper c' := by
  have hnew : ∀ {p length hdr}, c.controller.isDir p = false → Proper (c.newFile p length hdr) := by
    intro p length hdr hdir
    refine ⟨hc.sound, fun q f hf => ?_⟩
    by_cases hq : q = p
    · rw [hq]
      exact hdir
    · rw [newFile_files, update_of_ne hq] at hf
      exact hc.notDir q f hf
  cases h with
  | refused => exact hc
  | empty p _ hdir | filled p _ _ hdir => exact hnew hdir

theorem Proper.withFm (hc : Proper c) (hsound : Sound fm) : Proper { c with fm := fm } :=
  hc.fewer hsound rfl (fun _ f hf => ⟨f, hf⟩)

theorem Entered.sound {fm' : FileManager} {names : Nat → Bytes} {r : Option NVMeFileDesc}
    (hs : Sound fm) (h : Entered fm names fm' r) : Sound fm' := by
  cases h with
  | refused => exact hs
  | entered _ _ _ _ _ hsound => exact hsound

theorem proper_create (hc : Proper c) {blockSize fileSize : Nat} {filename : Bytes}
    {env : NewFileEnv} {r : Option Nat}
    (h : c.hostFileCreateManaged blockSize fileSize filename env = some (c', r)) : Proper c' := by
  rw [hostFileCreateManaged] at h
  split at h
  · cases h
    exact hc
  split at h
  · cases h
  split at h
  · cases h
    exact hc
  simp only at h
  split at h
  · cases h
  next hmake =>
    cases h
    exact (makeFile_made hmake).proper hc
  next c₁ hmake =>
    have hc₁ := (makeFile_made hmake).proper hc
    split at h
    next hrecord =>
      cases h
      exact hc₁.withFm (Entered.sound hc₁.sound (createFile_entered hc₁.sound hrecord))
    next hrecord =>
      cases h
      have hunlink := c₁.unlink_eq (c.controller.concatPath filename) env.unlinkOk
      refine hc₁.fewer (Entered.sound hc₁.sound (createFile_entered hc₁.sound hrecord)) ?_
        (fun p f hf => ⟨f, hunlink.2 p f hf⟩)
      rw [hunlink.1]

theorem proper_createAuto (hc : Proper c) {blockSize fileSize : Nat} {env : NewFileEnv}
    {r : Option Nat} (h : c.hostFileCreateManagedAuto blockSize fileSize env = some (c', r)) :
    Proper c' := by
  have hsound := (hostFileCreateManagedAuto_made hc.sound h).sound
  rw [hostFileCreateManagedAuto] at h
  split at h
  · cases h
    exact hc
  split at h
  · cases h
    exact hc.withFm hsound
  rename_i fm d hrecord
  have hfm := Entered.sound hc.sound (createFileAuto_entered hc.sound hrecord)
  simp only at h
  split at h
  · cases h
  split at h
  · cases h
    exact hc.withFm hsound
  split at h
  · cases h
  next c₁ hmake =>
    cases h
    exact ((makeFile_made hmake).proper (hc.withFm hfm)).withFm hsound
  next c₁ hmake =>
    cases h
    exact (makeFile_made hmake).proper (hc.withFm hfm)

theorem proper_deleteSingle (hc : Proper c) (filename : Bytes) (env : DeleteEnv) :
    Proper (c.deviceFileDeleteSingleManaged filename env).1 := by
  rcases deleteSingle_deleted hc.sound (show c.deviceFileDeleteSingleManaged filename env =
    ((c.deviceFileDeleteSingleManaged filename env).1, _) from rfl) with
    ⟨heq, -⟩ | ⟨-, -, hdeleted, -⟩
  · rw [heq]
    exact hc
  · refine hc.fewer hdeleted.sound hdeleted.controller (fun p f hf => ?_)
    rw [hdeleted.files] at hf
    exact ⟨f, (c.removeFile_eq _ _).2 p f hf⟩

theorem proper_step (hc : Proper c) {call : NameCall} (h : call.step c = some c') : Proper c' := by
  cases call with
  | create =>
    rcases Option.map_eq_some_iff.mp h with ⟨⟨c₁, r⟩, hcreate, rfl⟩
    exact proper_create hc hcreate
  | createAuto =>
    rcases Option.map_eq_some_iff.mp h with ⟨⟨c₁, r⟩, hcreate, rfl⟩
    exact proper_createAuto hc hcreate
  | deleteSingle filename env =>
    cases h
    exact proper_deleteSingle hc filename env
  | delete id env =>
    cases h
    rw [hostFileDeleteManaged]
    split
    · exact hc
    split
    · exact hc
    · exact proper_deleteSingle hc _ env

/-! ### Finding a file -/

/-- The record that is found has the name, unless the name reads as the id of another
    one. -/
theorem lookup_right_iff (hs : Sound fm) (filename : Bytes) :
    (fm.getFileIdByFilename filename ≠ uint32Max →
        ∃ d, fm.records (fm.getFileIdByFilename filename) = some d ∧ d.name = filename) ↔
      ∀ d, fm.records (parseFileIdFromFilename filename) = some d → d.name = filename := by
  constructor
  · intro h d hd
    have hmax : parseFileIdFromFilename filename ≠ uint32Max :=
      Nat.ne_of_lt (Nat.lt_trans (hs.slot hd).1 (by decide))
    have hthere : (fm.files.lookup (parseFileIdFromFilename filename)).isSome :=
      Option.isSome_iff_exists.mpr ⟨d, hd⟩
    have hfound : fm.getFileIdByFilename filename = parseFileIdFromFilename filename :=
      if_pos ⟨hmax, hthere⟩
    rw [hfound] at h
    rcases h hmax with ⟨e, he, hname⟩
    rw [hd, Option.some.injEq] at he
    rw [he]
    exact hname
  · intro h hfound
    rcases getFileIdByFilename_spec hs filename with ⟨hnone, -⟩ | ⟨-, d, hd, hname | hparsed⟩
    · exact absurd hnone hfound
    · exact ⟨d, hd, hname⟩
    · exact ⟨d, hd, h d hparsed⟩

/-! ### Deleting a file -/

/-- The record is the one that the name reads as, and the file is the one of the name. -/
theorem deleteSingle_removes_iff (hc : Proper c) (hinit : c.initialized = true) {id : Nat}
    {d : NVMeFileDesc} (hd : c.fm.records id = some d) {env : DeleteEnv}
    (hok : env.unlinkOk = true) :
    Removes c id d (c.deviceFileDeleteSingleManaged d.name env).1 ↔
      parseFileIdFromFilename d.name = id := by
  have hlt : id ≠ uint32Max := Nat.ne_of_lt (Nat.lt_trans (hc.sound.slot hd).1 (by decide))
  constructor
  · rintro ⟨hrecords, -⟩
    have hgone : (c.deviceFileDeleteSingleManaged d.name env).1.fm.records id = none := by
      rw [hrecords, update_self]
    by_contra hne
    -- Whatever is deleted is another record.
    rcases deleteSingle_deleted hc.sound (show c.deviceFileDeleteSingleManaged d.name env =
      ((c.deviceFileDeleteSingleManaged d.name env).1, _) from rfl) with
      ⟨heq, -⟩ | ⟨-, -, hdeleted, -⟩
    · rw [heq, hd] at hgone
      cases hgone
    · rw [hdeleted.records, update_of_ne (fun heq => hne heq.symm), hd] at hgone
      cases hgone
  · intro hparse
    have hdeleted := (deleteSingle_of_parsed hc.sound hinit (hparse ▸ hlt) env).1
    refine ⟨by rw [hdeleted.records, hparse], ?_⟩
    rw [hdeleted.files, hok]
    cases hp : c.controller.place (c.controller.concatPath d.name) with
    | none =>
      rw [removeFile, fileExists, hp]
      rfl
    | some p =>
      rw [removeFile]
      split
      next hnone =>
        exact (update_eq_self_iff.mpr
          (file_of_not_exists hp (by simpa using hnone)).symm).symm
      · exact unlink_gone hp (hc.notDir p)

/-- After any calls, a name denotes the file that is found for it exactly if no other file
    has the id that it reads as. A file is deleted by its id or its name, and nothing else
    is, exactly if its name reads as its id. -/
theorem names_denote_iff (c c' : ManagedController) (calls : List NameCall) (hc : Proper c)
    (hrun : run (lift fun c call => NameCall.step c call) (some c) calls = some c') :
    (∀ filename, (c'.fm.getFileIdByFilename filename ≠ uint32Max →
        ∃ d, c'.fm.records (c'.fm.getFileIdByFilename filename) = some d ∧ d.name = filename) ↔
      ∀ d, c'.fm.records (parseFileIdFromFilename filename) = some d → d.name = filename) ∧
    ∀ id d env, c'.initialized = true → c'.fm.records id = some d → env.unlinkOk = true →
      (Removes c' id d (c'.hostFileDeleteManaged id env).1 ↔ parseFileIdFromFilename d.name = id) ∧
      (Removes c' id d (c'.deviceFileDeleteSingleManaged d.name env).1 ↔
        parseFileIdFromFilename d.name = id) := by
  have hc' : Proper c' :=
    run_lift_invariant (P := fun _ _ => True) (fun _ _ _ hs _ hstep => proper_step hs hstep) hc
      (along_of_forall (fun _ _ _ _ _ => trivial)) hrun
  refine ⟨lookup_right_iff hc'.sound, fun id d env hinit hd hok => ?_⟩
  have hiff := deleteSingle_removes_iff hc' hinit hd hok
  have hlookup : c'.fm.files.lookup id = some d := hd
  -- Deleting by id is deleting by the name of the record.
  rw [hostFileDeleteManaged, if_neg (not_not.mpr hinit), hlookup]
  exact ⟨hiff, hiff⟩

theorem proper_fresh (ctrl : Controller) : Proper (fresh ctrl) :=
  ⟨sound_fresh 1000, fun p f hf => absurd hf (by simp [fresh])⟩

/-- A file that is made without a name is deleted by its id. -/
theorem names_denote_iff_auto : ∃ c d,
    run (lift fun c call => NameCall.step c call) (some (fresh mountM))
      [.createAuto 4096 8192 (madeWith [] [oneExtent])] = some c ∧ c.fm.records 0 = some d ∧
      Removes c 0 d (c.hostFileDeleteManaged 0 ⟨true, writesOk 3, writesOk 3⟩).1 := by
  have hrun : ((run (lift fun c call => NameCall.step c call) (some (fresh mountM))
      [.createAuto 4096 8192 (madeWith [] [oneExtent])]).map fun c =>
        (c.initialized, c.fm.records 0)) = some (true, some (newDesc 0 [48] 8192 1)) := by decide
  rcases Option.map_eq_some_iff.mp hrun with ⟨c, hrun, heq⟩
  rw [Prod.mk.injEq] at heq
  refine ⟨c, _, hrun, heq.2, ?_⟩
  exact ((names_denote_iff (fresh mountM) c _ (proper_fresh mountM) hrun).2 0 _ _ heq.1 heq.2
    rfl).1.mpr (by decide)

/-- Of two files with the names `1` and `b`, the first one has id 0. The name `1` finds the
    second one. Deleting the first one by its id takes away its file, and the record of the
    second one. -/
theorem name_of_another_id : ((run (lift fun c call => NameCall.step c call) (some (fresh mountM))
      [.create 4096 8192 [49] (madeWith [] [oneExtent]),
        .create 4096 8192 [98] (madeWith [] [oneExtent])]).map fun c =>
          (c.fm.getFileIdByFilename [49], (c.fm.records 0).map NVMeFileDesc.name,
            (c.fm.records 1).map NVMeFileDesc.name)) = some (1, some [49], some [98]) ∧
    ((run (lift fun c call => NameCall.step c call) (some (fresh mountM))
      [.create 4096 8192 [49] (madeWith [] [oneExtent]),
        .create 4096 8192 [98] (madeWith [] [oneExtent]),
        .delete 0 ⟨true, writesOk 3, writesOk 3⟩]).map fun c =>
          (((c.fm.records 0).map NVMeFileDesc.name, (c.fm.records 1).map NVMeFileDesc.name),
            c.fileExists (c.controller.joinPath [49]), c.fileExists (c.controller.joinPath [98]))) =
      some ((some [49], none), false, true) := by
  exact ⟨by decide, by decide⟩

end ManagedController

end Geminifs.Gemini
