import Geminifs.Theory.Files.GpuLog

/-!
# The Pool of GPU Files

A file is in the pool, or it is open, or neither. Opening a file and closing it keep
these apart, whatever CUDA returns: the pool loses the file that is opened and has a
file that is closed put back, wherever the search for its place ends.

Putting a file in the pool and deleting one do not look whether it is in the pool or
open. A file that is there already is there twice, or is open and in the pool; a file
that is deleted is left there without a descriptor. As these are the only ways, the
pool is in order exactly if the calls that succeed never do that (`pool_disciplined_iff`).

## Main definitions

* `Disciplined`: The pool is in order.
* `Idle`: A file that is neither in the pool nor open.
* `Careful`: A call that puts only idle files in the pool and deletes only idle files.
* `InOrder`: A call that leaves the pool in order and opens no file that is open.

## Theorems

* `disciplined_step_iff`: The careful calls are those that leave the pool in order.
* `pool_disciplined_iff`: The same for a number of calls.
-/

namespace Geminifs.Gemini

open SlotLog Runs

namespace GPUFileManager

variable {m m' : GPUFileManager}

/-- The pool is in order: no file is in it twice, or open as well, and the files in the
    pool and those that are open have descriptors. -/
structure Disciplined (m : GPUFileManager) : Prop where
  nodup : m.freeList.Nodup
  closed : ∀ id ∈ m.freeList, m.ctxs.lookup id = none
  pooled : ∀ id ∈ m.freeList, (m.descs.lookup id).isSome
  opened : ∀ id, (m.ctxs.lookup id).isSome → (m.descs.lookup id).isSome

variable (m)

/-- The file is neither in the pool nor open. -/
def Idle (id : Nat) : Prop := id ∉ m.freeList ∧ m.ctxs.lookup id = none

/-- A file that is put in the pool or deleted is idle. -/
def Careful : Call → Prop
  | .initGPUFile id env => ∀ m', m.initGPUFile id env = some (m', true) → m.Idle id
  | .deleteGPUFile id env => ∀ m', m.deleteGPUFile id env = some (m', true) → m.Idle id
  | _ => True

/-- The call leaves the pool in order, and a file that it opens was not open. -/
def InOrder (c : Call) : Prop :=
  ∀ m', m.step c = some m' → Disciplined m' ∧
    ∀ mallocOk memcpyOk id, c = .openGPUFile mallocOk memcpyOk →
      m.openGPUFile mallocOk memcpyOk = some (m', some id) → m.ctxs.lookup id = none

variable {m}

/-! ### One call -/

section

variable (h : Disciplined m)

include h

/-- Only the pool, the files that are open and the map matter. -/
theorem Disciplined.congr (hlist : m'.freeList = m.freeList)
    (hctxs : m'.ctxs = m.ctxs) (hdescs : m'.descs = m.descs) :
    Disciplined m' where
  nodup := by rw [hlist]; exact h.nodup
  closed := by rw [hlist, hctxs]; exact h.closed
  pooled := by rw [hlist, hdescs]; exact h.pooled
  opened := by rw [hctxs, hdescs]; exact h.opened

/-- New files in the map make no difference. -/
theorem Disciplined.creation (hc : Creation m m') : Disciplined m' := by
  cases hc with
  | failed => exact h.congr rfl rfl rfl
  | created _ files _ _ hfresh =>
    have hdescs : ∀ id, (m.descs.lookup id).isSome →
        ((addDescs m.descs files).lookup id).isSome := by
      intro id hid
      rcases lookup_addDescs files m.descs hfresh.nodup with ⟨hin, hout⟩
      by_cases hmem : id ∈ files.map Prod.fst
      · rcases List.mem_map.mp hmem with ⟨e, he, rfl⟩
        rw [hin e he]
        rfl
      · rw [hout id hmem]
        exact hid
    constructor
    · rw [countWrites_freeList]
      exact h.nodup
    · rw [countWrites_freeList, countWrites_ctxs]
      exact h.closed
    · rw [countWrites_freeList, countWrites_descs]
      exact fun id hid => hdescs id (h.pooled id hid)
    · rw [countWrites_ctxs, countWrites_descs]
      exact fun id hid => hdescs id (h.opened id hid)

/-- A file is deleted without harm if it is idle, and only then. -/
theorem Disciplined.removed_iff {id : Nat} {env : DeleteGPUEnv}
    (hr : Removed m id env m' true) : Disciplined m' ↔ m.Idle id := by
  cases hr with
  | removed =>
    have hgone : (m.descs.erase id).lookup id = none := AList.lookup_erase id m.descs
    constructor
    · intro h'
      have hpooled := h'.pooled
      have hopened := h'.opened
      rw [countWrites_freeList, countWrites_descs] at hpooled
      rw [countWrites_ctxs, countWrites_descs] at hopened
      refine ⟨fun hmem => ?_, ?_⟩
      · have hsome : ((m.descs.erase id).lookup id).isSome := hpooled id hmem
        rw [hgone] at hsome
        cases hsome
      · cases hctx : m.ctxs.lookup id with
        | none => rfl
        | some =>
          have hsome : ((m.descs.erase id).lookup id).isSome :=
            hopened id (show (m.ctxs.lookup id).isSome by rw [hctx]; rfl)
          rw [hgone] at hsome
          cases hsome
    · rintro ⟨hnot, hclosed⟩
      have hkept : ∀ j, j ≠ id → (m.descs.lookup j).isSome →
          ((m.descs.erase id).lookup j).isSome := fun j hj hsome => by
        rw [AList.lookup_erase_ne hj]
        exact hsome
      constructor
      · rw [countWrites_freeList]
        exact h.nodup
      · rw [countWrites_freeList, countWrites_ctxs]
        exact h.closed
      · rw [countWrites_freeList, countWrites_descs]
        intro j hj
        exact hkept j (fun heq => hnot (heq ▸ hj)) (h.pooled j hj)
      · rw [countWrites_ctxs, countWrites_descs]
        intro j hj
        replace hj : (m.ctxs.lookup j).isSome := hj
        have hne : j ≠ id := by
          rintro rfl
          rw [hclosed] at hj
          cases hj
        exact hkept j hne (h.opened j hj)

/-- A file is put in the pool without harm if it is idle, and only then. -/
theorem Disciplined.pooled_iff {id : Nat} {d : GPUFileDesc} (hd : m.descs.lookup id = some d) :
    Disciplined { m with freeList := m.freeList ++ [id] } ↔ m.Idle id := by
  have hself : id ∈ m.freeList ++ [id] := List.mem_append_right _ List.mem_cons_self
  constructor
  · intro h'
    refine ⟨fun hmem => ?_, h'.closed id hself⟩
    exact List.disjoint_of_nodup_append h'.nodup hmem List.mem_cons_self
  · rintro ⟨hnot, hclosed⟩
    have hmem : ∀ j, j ∈ m.freeList ++ [id] → j ∈ m.freeList ∨ j = id := fun j hj =>
      (List.mem_append.mp hj).imp_right List.mem_singleton.mp
    refine ⟨?_, fun j hj => ?_, fun j hj => ?_, h.opened⟩
    · refine h.nodup.append (List.nodup_singleton id) (fun j hj hid => ?_)
      rw [List.mem_singleton.mp hid] at hj
      exact hnot hj
    · rcases hmem j hj with hj | rfl
      · exact h.closed j hj
      · exact hclosed
    · rcases hmem j hj with hj | rfl
      · exact h.pooled j hj
      · exact Option.isSome_iff_exists.mpr ⟨d, hd⟩

/-- A file of the pool is opened. It was not open. -/
theorem Disciplined.opens {r : Option Nat} (ho : Opened m m' r) :
    Disciplined m' ∧ ∀ id, r = some id → m.ctxs.lookup id = none := by
  cases ho with
  | refused => exact ⟨h, nofun⟩
  | opened id rest fds hlast =>
    have hin : id ∈ m.freeList := by
      rw [hlast]
      exact List.mem_append_right _ List.mem_cons_self
    have hrest : ∀ j ∈ rest, j ∈ m.freeList ∧ j ≠ id := by
      intro j hj
      have hnodup := h.nodup
      rw [hlast] at hnodup ⊢
      refine ⟨List.mem_append_left _ hj, ?_⟩
      rintro rfl
      exact List.disjoint_of_nodup_append hnodup hj List.mem_cons_self
    refine ⟨⟨?_, fun j hj => ?_, fun j hj => h.pooled j (hrest j hj).1, fun j hj => ?_⟩,
      fun _ hid => ?_⟩
    · have hnodup := h.nodup
      rw [hlast] at hnodup
      exact hnodup.sublist (List.sublist_append_left ..)
    · rw [AList.lookup_insert_ne (hrest j hj).2]
      exact h.closed j (hrest j hj).1
    · by_cases hne : j = id
      · rw [hne]
        exact h.pooled id hin
      · rw [AList.lookup_insert_ne hne] at hj
        exact h.opened j hj
    · cases hid
      exact h.closed id hin

/-- A file that is closed goes back to the pool. -/
theorem Disciplined.closes {id : Nat} {ok : Bool} (hc : Closed m id m' ok) : Disciplined m' := by
  have hopened : ∀ j, ((m.ctxs.erase id).lookup j).isSome → (m.descs.lookup j).isSome := by
    intro j hj
    rcases Option.isSome_iff_exists.mp hj with ⟨fds, hfds⟩
    exact h.opened j (Option.isSome_of_eq_some (lookup_of_erase hfds).2)
  have hclosed : ∀ j ∈ m.freeList, (m.ctxs.erase id).lookup j = none := fun j hj => by
    rw [lookup_erase_apply, h.closed j hj, ite_self]
  cases hc with
  | refused => exact h
  | doubled => exact ⟨h.nodup, hclosed, h.pooled, hopened⟩
  | closed freeList hopen hperm =>
    have hmem : ∀ j, j ∈ freeList → j = id ∨ j ∈ m.freeList := fun j hj =>
      List.mem_cons.mp (hperm.mem_iff.mp hj)
    refine ⟨?_, fun j hj => ?_, fun j hj => ?_, hopened⟩
    · refine hperm.nodup_iff.mpr (List.nodup_cons.mpr ⟨fun hin => ?_, h.nodup⟩)
      rw [h.closed id hin] at hopen
      cases hopen
    · rcases hmem j hj with rfl | hj
      · exact AList.lookup_erase j m.ctxs
      · exact hclosed j hj
    · rcases hmem j hj with rfl | hj
      · exact h.opened j hopen
      · exact h.pooled j hj

/-- The careful calls are those that leave the pool in order. -/
theorem disciplined_step_iff (c : Call) : InOrder m c ↔ Careful m c := by
  cases c with
  | createGPUFile =>
    refine iff_of_true (fun m' hstep => ?_) trivial
    rcases Option.map_eq_some_iff.mp hstep with ⟨⟨m₁, r⟩, hcreate, rfl⟩
    exact ⟨h.creation (createGPUFile_created hcreate).creation, nofun⟩
  | createGPUFiles =>
    refine iff_of_true (fun m' hstep => ?_) trivial
    rcases Option.map_eq_some_iff.mp hstep with ⟨⟨m₁, r⟩, hcreate, rfl⟩
    exact ⟨h.creation (createGPUFiles_created hcreate).creation, nofun⟩
  | initGPUFile =>
    constructor
    · intro hin m' hinit
      have hm' := (hin m' (by rw [step, hinit]; rfl)).1
      cases initGPUFile_inited hinit with
      | pooled _ _ hd hopen =>
        rw [openMapped_eq hopen] at hm'
        exact (h.pooled_iff hd).mp (hm'.congr rfl rfl rfl)
    · intro hcareful m' hstep
      refine ⟨?_, nofun⟩
      rcases Option.map_eq_some_iff.mp hstep with ⟨⟨m₁, _⟩, hinit, rfl⟩
      cases hi : initGPUFile_inited hinit with
      | refused => exact h
      | failed _ _ _ hopen =>
        rw [openMapped_eq hopen]
        exact h.congr rfl rfl rfl
      | pooled _ _ hd hopen =>
        have hidle := hcareful _ hinit
        rw [openMapped_eq hopen]
        exact ((h.pooled_iff hd).mpr hidle).congr rfl rfl rfl
  | openGPUFile =>
    refine iff_of_true (fun m' hstep => ?_) trivial
    rcases Option.map_eq_some_iff.mp hstep with ⟨⟨m₁, r⟩, hopen, rfl⟩
    have hopens := h.opens (openGPUFile_opened hopen)
    refine ⟨hopens.1, fun _ _ id heq hopen' => ?_⟩
    cases heq
    rw [hopen, Option.some.injEq, Prod.mk.injEq] at hopen'
    exact hopens.2 id hopen'.2
  | closeGPUFile id =>
    refine iff_of_true (fun m' hstep => ?_) trivial
    cases hstep
    exact ⟨h.closes (closeGPUFile_closed m id), nofun⟩
  | deleteGPUFile =>
    constructor
    · intro hin m' hdelete
      have hm' := (hin m' (by rw [step, hdelete]; rfl)).1
      exact (h.removed_iff (deleteGPUFile_removed hdelete)).mp hm'
    · intro hcareful _ hstep
      refine ⟨?_, nofun⟩
      rcases Option.map_eq_some_iff.mp hstep with ⟨⟨m₁, deleted⟩, hdelete, rfl⟩
      have hremoved := deleteGPUFile_removed hdelete
      cases deleted with
      | false =>
        cases hremoved with
        | refused => exact h
      | true => exact (h.removed_iff hremoved).mpr (hcareful m₁ hdelete)

end

/-! ### Any number of calls -/

/-- The pool of a new manager is in order, and stays so along the calls, exactly if each
    file that is put in the pool or deleted was idle. -/
theorem pool_disciplined_iff (log : Option ByteFile) (controllers : List ManagedController)
    (threshold : Nat) (junk : LogHeader) (calls : List Call) :
    Disciplined (construct log controllers threshold junk) ∧
      (Runs.Along (lift step) (fun s c => ∀ m, s = some m → InOrder m c)
          (some (construct log controllers threshold junk)) calls ↔
        Runs.Along (lift step) (fun s c => ∀ m, s = some m → Careful m c)
          (some (construct log controllers threshold junk)) calls) := by
  have hstart : Disciplined (construct log controllers threshold junk) :=
    ⟨List.nodup_nil, nofun, nofun, fun _ hid => absurd hid Bool.false_ne_true⟩
  have hsome : ∀ m, some (construct log controllers threshold junk) = some m → Disciplined m := by
    rintro _ ⟨⟩
    exact hstart
  -- A call that is in order leaves the next state disciplined, if there is one.
  have hnext : ∀ (s : Option GPUFileManager) (c : Call), (∀ m, s = some m → Disciplined m) →
      (∀ m, s = some m → InOrder m c) → ∀ m, lift step s c = some m → Disciplined m := by
    intro s c _ hin m hm
    rcases Option.bind_eq_some_iff.mp hm with ⟨m₀, hs, hstep⟩
    exact (hin m₀ hs m hstep).1
  refine ⟨hstart, ⟨fun h => ?_, fun h => ?_⟩⟩
  · exact along_of_invariant hnext
      (fun s c hdis hin m hm => (disciplined_step_iff (hdis m hm) c).mp (hin m hm)) hsome h
  · exact along_of_invariant
      (fun s c hdis hcareful => hnext s c hdis
        (fun m hm => (disciplined_step_iff (hdis m hm) c).mpr (hcareful m hm)))
      (fun s c hdis hcareful m hm => (disciplined_step_iff (hdis m hm) c).mpr (hcareful m hm))
      hsome h

/-- The NVMe files of a file are opened without a failure. -/
def initOk : Nat → OpenEnv := fun _ => ⟨true, [], ManagedController.cudaOk⟩

/-- A file that is put in the pool twice is in it twice, and is opened a second time while
    it is open. A file that is deleted while it is in the pool stays there. -/
theorem pool_hands_out_twice : ((run (lift step) (some (construct none
      [ManagedController.fresh ManagedController.mountM] 4 (newHeader 0 0)))
      [.createGPUFile 65536 [1, 1, 4096] createOk, .initGPUFile 0 initOk,
        .initGPUFile 0 initOk]).map fun m => m.freeList) = some [0, 0] ∧
    ((run (lift step) (some (construct none
      [ManagedController.fresh ManagedController.mountM] 4 (newHeader 0 0)))
      [.createGPUFile 65536 [1, 1, 4096] createOk, .initGPUFile 0 initOk,
        .initGPUFile 0 initOk, .openGPUFile true true]).bind fun m =>
          (m.openGPUFile true true).map fun r => ((m.ctxs.lookup 0).isSome, r.2)) =
      some (true, some 0) ∧
    ((run (lift step) (some (construct none
      [ManagedController.fresh ManagedController.mountM] 4 (newHeader 0 0)))
      [.createGPUFile 65536 [1, 1, 4096] createOk, .initGPUFile 0 initOk,
        .deleteGPUFile 0 deleteOk]).map fun m => (m.freeList, (m.descs.lookup 0).isSome)) =
      some ([0], false) := by
  rw [construct_none]
  decide

end GPUFileManager

end Geminifs.Gemini
