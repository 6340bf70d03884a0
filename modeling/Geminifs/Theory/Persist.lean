import Geminifs.Theory.LogFormat

/-!
# Replacing the Log is Atomic

A persist may stop anywhere: inside a write, after a failed sync, before or
after the rename, with or without its temporary file left behind. Whatever is
found afterwards at the log's own path is the old file or the new one, whole.

The argument is that only one system call touches the log's path. Everything
before the rename works on the temporary file (`writeChunks_of_ne`,
`abandon_of_ne`), so the old file, synced when it was installed, is still
there. The rename installs a file that was synced a moment before, so from
then on the new one is. Reading either back is `loadLocked_encodeLog`.

## Theorems

* `writeChunks_of_ne`: Writing the temporary file touches no other path.
* `writeChunks_complete`: The finished temporary file holds the whole log.
* `persistLocked_cases`: At every point the log is the old file or the new, and
  a persist that returned true installed the new one.
* `persist_atomic`: Loading after a crash at any point gives the old or the
  new directory, and the new one if the persist returned true.
-/

namespace Geminifs.FileLog

theorem tmpPath_ne (path : Bytes) : path ≠ tmpPath path := by
  intro h
  have hlen := congrArg List.length h
  rw [tmpPath, List.length_append] at hlen
  simp only [ascii, List.length_map, List.length_cons] at hlen
  omega

/-- Writing the temporary file touches no other path, at any point. -/
theorem writeChunks_of_ne (tmp q : Bytes) (hq : q ≠ tmp) (cs : List Bytes)
    (rs : List IoResult) (v : Volume Bytes) :
    (∀ u ∈ (writeChunks tmp cs rs v).states, u q = v q) ∧
      (writeChunks tmp cs rs v).last q = v q := by
  induction cs generalizing rs v with
  | nil => exact ⟨nofun, rfl⟩
  | cons c cs ih =>
    have hmarks : ∀ u ∈ (transferLoop 0 c.length rs).marks.map
        (fun m => v.write tmp (c.take m)), u q = v q := by
      intro u hu
      rcases List.mem_map.mp hu with ⟨m, -, rfl⟩
      exact Volume.write_of_ne _ hq
    have hlast : v.write tmp (c.take (transferLoop 0 c.length rs).moved) q = v q :=
      Volume.write_of_ne _ hq
    rw [writeChunks]
    rcases hend : (transferLoop 0 c.length rs).ending with _ | _ | _ | _
    · -- The buffer is written; the rest of the buffers follow.
      have hrest := ih (transferLoop 0 c.length rs).rest
        (v.write tmp (c.take (transferLoop 0 c.length rs).moved))
      exact ⟨List.forall_mem_append.mpr ⟨hmarks, fun u hu => (hrest.1 u hu).trans hlast⟩,
        hrest.2.trans hlast⟩
    · exact ⟨hmarks, hlast⟩
    · exact ⟨hmarks, hlast⟩
    · exact ⟨hmarks, hlast⟩

/-- When every buffer is written, the temporary file holds all of them. -/
theorem writeChunks_complete (tmp : Bytes) (cs : List Bytes) (rs : List IoResult)
    (v : Volume Bytes) (f : Stored) (hf : v tmp = some f)
    (hret : (writeChunks tmp cs rs v).ret = some true) :
    ∃ b, (writeChunks tmp cs rs v).last tmp = some ⟨f.data ++ cs.flatten, b⟩ := by
  induction cs generalizing rs v f with
  | nil => exact ⟨f.synced, by simp only [writeChunks, hf, List.flatten_nil, List.append_nil]⟩
  | cons c cs ih =>
    rw [writeChunks] at hret ⊢
    rcases hend : (transferLoop 0 c.length rs).ending with _ | _ | _ | _
    · simp only [hend] at hret ⊢
      have hmoved := transferLoop_complete 0 c.length rs hend
      rw [Nat.zero_add] at hmoved
      have hwritten := Volume.write_self (p := tmp) (c.take c.length) f hf
      rw [hmoved] at hret ⊢
      rcases ih _ _ _ hwritten hret with ⟨b, hb⟩
      refine ⟨b, ?_⟩
      rw [hb, List.take_length, List.flatten_cons, List.append_assoc]
    · simp [hend] at hret
    · simp [hend] at hret
    · simp [hend] at hret

/-- Giving up does not return true, and its last call touches only the
    temporary file. -/
theorem abandon_of_ne (tmp q : Bytes) (hq : q ≠ tmp) (env : PersistEnv)
    (states : List (Volume Bytes)) (v : Volume Bytes) (f : Option Stored)
    (hstates : ∀ u ∈ states, u q = f) (hv : v q = f) :
    (abandon tmp env states v).ret ≠ some true ∧ (abandon tmp env states v).last q = f ∧
      ∀ u ∈ (abandon tmp env states v).states, u q = f := by
  have hlast : (if env.unlinkOk then v.unlink tmp else v) q = f := by
    by_cases hu : env.unlinkOk
    · rw [if_pos hu, Volume.unlink_of_ne hq, hv]
    · rw [if_neg hu, hv]
  exact ⟨by simp [abandon], hlast,
    List.forall_mem_append.mpr ⟨hstates, List.forall_mem_singleton.mpr hlast⟩⟩

/-- What a persist did to the log's path: nothing at any point and it did not
    return true, or the rename installed the whole new file as its last call.
    -/
theorem persistLocked_cases (path : Bytes) (l : FileLog) (env : PersistEnv) (v : Volume Bytes) :
    ((persistLocked path l env v).ret ≠ some true ∧
      (persistLocked path l env v).last path = v path ∧
      ∀ u ∈ (persistLocked path l env v).states, u path = v path) ∨
    ((persistLocked path l env v).ret = some true ∧
      (persistLocked path l env v).last path = some ⟨l.encodeLog, true⟩ ∧
      ∀ u ∈ (persistLocked path l env v).states,
        u path = v path ∨ u path = some ⟨l.encodeLog, true⟩) := by
  have hne := tmpPath_ne path
  have hopen : v.openTrunc (tmpPath path) path = v path := Volume.openTrunc_of_ne hne
  have hwrite := writeChunks_of_ne (tmpPath path) path hne l.encodeChunks env.writes
    (v.openTrunc (tmpPath path))
  have hwhole := writeChunks_complete (tmpPath path) l.encodeChunks env.writes
    (v.openTrunc (tmpPath path)) ⟨[], false⟩ Volume.openTrunc_self
  rw [hopen] at hwrite
  simp only [persistLocked]
  generalize writeChunks (tmpPath path) l.encodeChunks env.writes
    (v.openTrunc (tmpPath path)) = w at hwrite hwhole ⊢
  -- Up to the rename, every state has the old log.
  have hbefore : ∀ u ∈ v :: v.openTrunc (tmpPath path) :: w.states, u path = v path :=
    List.forall_mem_cons.mpr ⟨rfl, List.forall_mem_cons.mpr ⟨hopen, hwrite.1⟩⟩
  have hwritten : ∀ u ∈ (v :: v.openTrunc (tmpPath path) :: w.states) ++ [w.last],
      u path = v path :=
    List.forall_mem_append.mpr ⟨hbefore, List.forall_mem_singleton.mpr hwrite.2⟩
  have hsync : w.last.fsync (tmpPath path) path = v path :=
    (Volume.fsync_of_ne hne).trans hwrite.2
  have hsynced : ∀ u ∈ (v :: v.openTrunc (tmpPath path) :: w.states) ++
      [w.last, w.last.fsync (tmpPath path)], u path = v path :=
    List.forall_mem_append.mpr ⟨hbefore,
      List.forall_mem_cons.mpr ⟨hwrite.2, List.forall_mem_singleton.mpr hsync⟩⟩
  by_cases hopenOk : env.openOk
  swap
  · simp only [hopenOk]
    refine .inl ⟨by simp, rfl, fun u hu => ?_⟩
    rw [List.mem_singleton.mp hu]
  simp only [hopenOk]
  rcases hret : w.ret with _ | _ | _
  · exact .inl ⟨by simp, hwrite.2, hwritten⟩
  · exact .inl (abandon_of_ne (tmpPath path) path hne env _ _ _ hwritten hwrite.2)
  by_cases hsyncOk : env.fsyncOk
  swap
  · simp only [hsyncOk]
    exact .inl (abandon_of_ne (tmpPath path) path hne env _ _ _ hwritten hwrite.2)
  by_cases hrenameOk : env.renameOk
  swap
  · simp only [hsyncOk, hrenameOk]
    exact .inl (abandon_of_ne (tmpPath path) path hne env _ _ _ hsynced hsync)
  -- The temporary file is whole and synced, and the rename installs it.
  simp only [hsyncOk, hrenameOk, not_true_eq_false, if_false]
  rcases hwhole hret with ⟨b, hb⟩
  have hnew := Volume.rename_target _ (Volume.fsync_self _ hb) hne
  refine .inr ⟨trivial, hnew, List.forall_mem_append.mpr ⟨fun u hu => .inl (hbefore u hu), ?_⟩⟩
  exact List.forall_mem_cons.mpr ⟨.inl hwrite.2, List.forall_mem_cons.mpr
    ⟨.inl hsync, List.forall_mem_singleton.mpr (.inr hnew)⟩⟩

/-- A persist that stops, fails or crashes anywhere leaves the old directory or
    the new one to be loaded, whole; one that returned true leaves the new. -/
theorem persist_atomic (path : Bytes) (old new : FileLog) (hold : old.Reachable)
    (holdfits : old.FitsFormat) (hnew : new.Reachable) (hnewfits : new.FitsFormat)
    (v : Volume Bytes) (hv : v path = some ⟨old.encodeLog, true⟩) (env : PersistEnv) :
    (∀ u ∈ (persistLocked path new env v).states, ∀ w, u.Survives w → ∀ env',
      loadOrInit path env' w = some old ∨ loadOrInit path env' w = some new) ∧
    ((persistLocked path new env v).ret = some true →
      ∀ w, (persistLocked path new env v).last.Survives w → ∀ env',
        loadOrInit path env' w = some new) := by
  have hload : ∀ (l : FileLog), l.Reachable → l.FitsFormat → ∀ (u w : Volume Bytes),
      u path = some ⟨l.encodeLog, true⟩ → u.Survives w → ∀ env',
      loadOrInit path env' w = some l := by
    intro l hl hfits u w hu hw env'
    -- The log was synced, so a crash leaves it, and it reads back.
    have hthere := hw path _ hu rfl
    simp only [loadOrInit, hthere]
    exact loadLocked_encodeLog (wellFormed_of_reachable hl) hfits
  rcases persistLocked_cases path new env v with ⟨hret, -, hstates⟩ | ⟨-, hlast, hstates⟩
  · refine ⟨fun u hu w hw env' => .inl ?_, fun h => absurd h hret⟩
    exact hload old hold holdfits u w ((hstates u hu).trans hv) hw env'
  · refine ⟨fun u hu w hw env' => ?_, fun _ w hw env' => ?_⟩
    · rcases hstates u hu with hu | hu
      · exact .inl (hload old hold holdfits u w (hu.trans hv) hw env')
      · exact .inr (hload new hnew hnewfits u w hu hw env')
    · exact hload new hnew hnewfits _ w hlast hw env'

/-- A directory of one file, as the first create on a device leaves it. -/
def oneFile : FileLog :=
  (empty.nextFileId.2.add ⟨1, ascii ['k', 'v'], 8192, [⟨34816, 3⟩]⟩).1

/-- The first file of a device, persisted by short and interrupted writes, is
    what the next load finds. -/
theorem persist_atomic_oneFile : loadOrInit (ascii ['l']) ⟨true, [], true, true, true⟩
      (persistLocked (ascii ['l']) oneFile
        ⟨true, [.moved 40, .interrupted, .moved 100, .moved 52, .moved 16], true, true, true⟩
        (fun p => if p = ascii ['l'] then some ⟨empty.encodeLog, true⟩ else none)).last
      = some oneFile := by
  have hempty : empty.FitsFormat := ⟨by decide, by decide, by decide, by decide⟩
  have hone : oneFile.Reachable :=
    .add _ _ (.nextFileId _ .empty) (by decide) (by decide)
  have hfits : oneFile.FitsFormat := ⟨by decide, by decide, by decide, by decide⟩
  have hatomic := persist_atomic (ascii ['l']) empty oneFile .empty hempty hone hfits
    (fun p => if p = ascii ['l'] then some ⟨empty.encodeLog, true⟩ else none)
    (if_pos rfl)
    ⟨true, [.moved 40, .interrupted, .moved 100, .moved 52, .moved 16], true, true, true⟩
  exact hatomic.2 (by decide +kernel) _ (fun p f hf _ => hf) _

end Geminifs.FileLog
