import Geminifs.Theory.Snvme.AllOrNothing

/-!
# One Ring, One Queue

A map that serves as a ring belongs to one queue: no two queues that exist, and no
submission and completion queue of a pair, have the same map as their memory.

The module compares the addresses of one request with each other, as they are. Two
addresses in one page lead to the same map all the same, as do a submission and a
completion address in one map without a kind, and a second request may name the
rings of the first again: nothing records that a map is in use. So the rings are
exclusive in the runs in which the requests see to it themselves.

## Main definitions

* `Exclusive`: No map is the ring of two queues.
* `RingsFree`: The rings that a request names are different maps, and none is in use.

## Theorems

* `shrinks_of_not_adds`: Only `NVM_ADD_USER_QUEUE` gives a queue a ring.
* `exclusive_step`: A request that names free rings keeps rings exclusive.
* `rings_exclusive`: So does every run.
* `rings_shared`: A run that names the same rings twice, in one request.
-/

namespace Geminifs.Snvme

open Runs

/-- No map is the ring of two queues: not of the two queues of a pair, and not of
    queues with different ids. -/
structure Exclusive (hw : Hw) : Prop where
  pair : ∀ key, ((hw key).rings.map Registered.id).Nodup
  apart : ∀ key key', key ≠ key' → ∀ r ∈ (hw key).rings, ∀ r' ∈ (hw key').rings, r.id ≠ r'.id

/-- The maps of a batch, pair by pair. -/
def ringIds (rings : List (Registered × Registered)) : List Nat :=
  rings.flatMap fun x => [x.2.id, x.1.id]

/-- What `NVM_ADD_USER_QUEUE` finds for its addresses are different maps, and no queue
    has one of them as its ring. -/
def RingsFree (s : System) : Request → Prop
  | .ioctl _ fd _ (.addUserQueue req _) => ∀ rings,
      req.pairs.mapM (fun pr => findRegs pr none none (s.driver.groupMaps fd req.groupId)) =
        some rings →
      (ringIds rings).Nodup ∧ ∀ id ∈ ringIds rings, ∀ key, ∀ r ∈ (s.hw key).rings, r.id ≠ id
  | _ => True

/-- The request is `NVM_ADD_USER_QUEUE`. -/
def Request.adds : Request → Bool
  | .ioctl _ _ _ (.addUserQueue ..) => true
  | _ => false

variable {d : Driver} {hw hw' : Hw}

/-! ### Requests that add nothing -/

/-- Fewer queues have fewer rings. -/
theorem Exclusive.of_le (h : Exclusive hw)
    (hle : ∀ key, hw' key = hw key ∨ hw' key = HwQueue.none) : Exclusive hw' := by
  have hrings : ∀ key, ∀ r ∈ (hw' key).rings, r ∈ (hw key).rings := by
    intro key r hr
    rcases hle key with heq | heq
    · rwa [heq] at hr
    · rw [heq] at hr
      cases hr
  refine ⟨fun key => ?_, fun key key' hne r hr r' hr' => ?_⟩
  · rcases hle key with heq | heq
    · rw [heq]
      exact h.pair key
    · rw [heq]
      exact List.nodup_nil
  · exact h.apart key key' hne r (hrings key r hr) r' (hrings key' r' hr')

theorem run_apply_registered (rs : List Registered) (hw : Hw) :
    run Hw.apply hw (rs.map .registered) = hw := by
  induction rs with
  | nil => rfl
  | cons _ _ ih => exact ih

/-- Destroying groups takes rings from queues. -/
theorem dropEvents_le (d : Driver) (c fd : Nat) (gs : List QGroup) (hw : Hw) (key : Nat × Nat) :
    run Hw.apply hw (gs.flatMap (d.dropEvents c fd)) key = hw key ∨
      run Hw.apply hw (gs.flatMap (d.dropEvents c fd)) key = HwQueue.none := by
  rw [run_apply_dropEvents]
  split
  · exact .inr rfl
  · exact .inl rfl

/-- An ioctl other than `NVM_ADD_USER_QUEUE` gives no queue a ring. -/
theorem shrinks_callEvents (d : Driver) (c : Nat) (own : Owner) (task : Nat) (r : Result)
    (call : Call) (hadd : Request.adds (.ioctl c own.fd task call) = false) (hw : Hw)
    (key : Nat × Nat) :
    run Hw.apply hw (d.callEvents c own task r call) key = hw key ∨
      run Hw.apply hw (d.callEvents c own task r call) key = HwQueue.none := by
  have hmap : run Hw.apply hw (d.mapEvents c own.fd r) = hw := by
    have hregs := run_apply_registered
      ((r.state.maps.drop d.regs.length).map fun m => ⟨d.next, c, own.fd, m⟩) hw
    rw [List.map_map] at hregs
    exact hregs
  have hunmap : ∀ list vaddr ok, run Hw.apply hw (d.unmapEvents list task vaddr ok) = hw := by
    intro _ vaddr ok
    rw [Driver.unmapEvents]
    split
    · exact run_apply_unmapped _ hw
    · rfl
  cases call with
  | mapHost | mapDevice | mapDeviceQueue => exact .inl (congrFun hmap key)
  | unmapHost vaddr ok => exact .inl (congrFun (hunmap .host vaddr ok) key)
  | unmapDevice vaddr ok => exact .inl (congrFun (hunmap .device vaddr ok) key)
  | unmapDeviceQueue vaddr ok => exact .inl (congrFun (hunmap .deviceQueue vaddr ok) key)
  | createQueueGroup | setIoqNum | setKernelIoqCap | setShareReg | clearIoqNum => exact .inl rfl
  | destroyQueueGroup =>
    rw [Driver.callEvents]
    split
    next g hg =>
      split
      · have hdrop := dropEvents_le d c own.fd [g] hw key
        rw [List.flatMap_singleton] at hdrop
        exact hdrop
      · exact .inl rfl
    · exact .inl rfl
  | addUserQueue => cases hadd

/-- So does every request. -/
theorem shrinks_of_not_adds (d : Driver) {req : Request} (hadd : req.adds = false) (hw : Hw)
    (key : Nat × Nat) :
    run Hw.apply hw (d.events req) key = hw key ∨
      run Hw.apply hw (d.events req) key = HwQueue.none := by
  have hrestart : ∀ c, run Hw.apply hw [.restarted c] key = hw key ∨
      run Hw.apply hw [.restarted c] key = HwQueue.none := by
    intro c
    by_cases hc : c = key.1
    · exact .inr (if_pos hc)
    · exact .inl (if_neg hc)
  cases req with
  | devOpen => exact .inl rfl
  | devRelease c =>
    rw [Driver.events]
    split
    · rw [Driver.closeEvents, run_append, run_apply_unmapped]
      exact dropEvents_le d c _ _ hw key
    · exact .inl rfl
  | ioctl c fd task call =>
    rcases d.ioctl_cases c fd task call with ⟨-, hevents, -⟩ | ⟨own, rfl, hown⟩
    · exact .inl (by rw [hevents, run])
    · rw [d.events_ioctl hown]
      exact shrinks_callEvents d c own task _ call hadd hw key
  | deviceBind c | deviceReset c | deviceUnbind c => exact hrestart c

/-! ### Batches -/

variable {rings : List (Registered × Registered)}

/-- A ring of a batch is at one place of it. -/
theorem ringIds_apart {qids : List Nat} (hnodup : (ringIds rings).Nodup) {x y : Item}
    (hx : x ∈ qids.zip rings) (hy : y ∈ qids.zip rings) (hne : x.1 ≠ y.1) {r r' : Registered}
    (hr : r ∈ [x.2.2, x.2.1]) (hr' : r' ∈ [y.2.2, y.2.1]) : r.id ≠ r'.id := by
  induction rings generalizing qids with
  | nil => exact absurd (List.of_mem_zip hx).2 List.not_mem_nil
  | cons z rings ih =>
    have hhead : ∀ {w : Registered × Registered} {t : Registered}, t ∈ [w.2, w.1] →
        t.id ∈ [w.2.id, w.1.id] := List.mem_map_of_mem
    have hids : ∀ {w : Registered × Registered} {t : Registered}, w ∈ rings → t ∈ [w.2, w.1] →
        t.id ∈ ringIds rings := fun {w} _ hw ht => List.mem_flatMap.mpr ⟨w, hw, hhead ht⟩
    rw [ringIds, List.flatMap_cons, List.nodup_append'] at hnodup
    rcases hnodup with ⟨-, hrest, hdisjoint⟩
    cases qids with
    | nil => cases hx
    | cons =>
      -- At most one of the two is the first pair, as their ids differ.
      rcases List.mem_cons.mp hx with rfl | hx
      · rcases List.mem_cons.mp hy with rfl | hy
        · exact absurd rfl hne
        · intro heq
          refine hdisjoint (hhead hr) ?_
          rw [heq]
          exact hids (List.of_mem_zip hy).2 hr'
      · rcases List.mem_cons.mp hy with rfl | hy
        · intro heq
          refine hdisjoint (hhead hr') ?_
          rw [← heq]
          exact hids (List.of_mem_zip hx).2 hr
        · exact ih hrest hx hy

/-- The two rings of a pair are different maps, and belong to the batch. -/
theorem ringIds_pair (hnodup : (ringIds rings).Nodup)
    {x : Registered × Registered} (hx : x ∈ rings) :
    x.2.id ≠ x.1.id ∧ x.2.id ∈ ringIds rings ∧ x.1.id ∈ ringIds rings := by
  have hpair := (List.nodup_flatMap.mp hnodup).1 x hx
  refine ⟨fun heq => (List.nodup_cons.mp hpair).1 (List.mem_singleton.mpr heq),
    List.mem_flatMap.mpr ⟨x, hx, List.mem_cons_self⟩,
    List.mem_flatMap.mpr ⟨x, hx, List.mem_cons_of_mem _ List.mem_cons_self⟩⟩

/-- Queues with rings of their own, of which some are new: these have free rings. -/
theorem Exclusive.extend {c : Nat} {qids : List Nat} (h : Exclusive hw)
    (hnodup : (ringIds rings).Nodup)
    (hfree : ∀ id ∈ ringIds rings, ∀ key, ∀ r ∈ (hw key).rings, r.id ≠ id)
    (hnew : ∀ key, (∃ x ∈ qids.zip rings, (c, x.1) = key ∧
      hw' key = ⟨true, true, [x.2.2, x.2.1]⟩) ∨ hw' key = hw key) : Exclusive hw' := by
  have hids : ∀ {x : Item}, x ∈ qids.zip rings → ∀ r ∈ [x.2.2, x.2.1], r.id ∈ ringIds rings := by
    intro x hx
    have hpair := ringIds_pair hnodup (List.of_mem_zip hx).2
    exact List.forall_mem_cons.mpr ⟨hpair.2.1, List.forall_mem_singleton.mpr hpair.2.2⟩
  refine ⟨fun key => ?_, fun key key' hne r hr r' hr' => ?_⟩
  · rcases hnew key with ⟨x, hx, -, heq⟩ | heq
    · rw [heq]
      have hpair := (ringIds_pair hnodup (List.of_mem_zip hx).2).1
      exact List.nodup_cons.mpr ⟨fun hin => hpair (List.mem_singleton.mp hin), List.nodup_singleton _⟩
    · rw [heq]
      exact h.pair key
  · rcases hnew key with ⟨x, hx, hkey, heq⟩ | heq
    · rw [heq] at hr
      rcases hnew key' with ⟨y, hy, hkey', heq'⟩ | heq'
      · rw [heq'] at hr'
        refine ringIds_apart hnodup hx hy (fun hxy => hne ?_) hr hr'
        rw [← hkey, ← hkey', hxy]
      · rw [heq'] at hr'
        exact (hfree _ (hids hx r hr) key' r' hr').symm
    · rw [heq] at hr
      rcases hnew key' with ⟨y, hy, -, heq'⟩ | heq'
      · rw [heq'] at hr'
        exact hfree _ (hids hy r' hr') key r hr
      · rw [heq'] at hr'
        exact h.apart key key' hne r hr r' hr'

/-! ### Runs -/

/-- A request keeps rings exclusive, if it is no `NVM_ADD_USER_QUEUE` or names free
    rings. -/
theorem exclusive_step {s : System} {req : Request} (h : Exclusive s.hw) (hs : Sound s.driver)
    (hslotted : Slotted s.driver s.hw) (hgrant : GrantsBelow s.driver) (hfree : RingsFree s req) :
    Exclusive (s.step req).hw := by
  cases hadd : req.adds with
  | false => exact h.of_le (shrinks_of_not_adds s.driver hadd s.hw)
  | true =>
    match req, hadd, hfree with
    | .ioctl c fd task (.addUserQueue add env), _, hfree =>
      show Exclusive (run Hw.apply s.hw (s.driver.events _))
      rcases s.driver.ioctl_cases c fd task _ with ⟨-, hevents, -⟩ | ⟨own, rfl, hown⟩
      · rw [hevents]
        exact h
      · rcases addUserQueue_cases hown task rfl with ⟨rc, -, -, hevents, -⟩ |
          ⟨g, _, p, _, _, rings, -, hrings, -, hb, -, hend⟩
        · rw [hevents]
          exact h
        · cases hend with
          | committed _ hevents =>
            exact h.extend (hfree rings hrings).1 (hfree rings hrings).2
              (hslotted.made hs hgrant hb hevents)
          | failed _ _ hevents =>
            rw [hslotted.failed hs hgrant hb hevents]
            exact h

/-- In every run in which each `NVM_ADD_USER_QUEUE` names free rings, no map is the ring
    of two queues. -/
theorem rings_exclusive (reqs : List Request)
    (hgrant : Along Driver.step (fun d _ => GrantsBelow d) Driver.init reqs)
    (hfree : Along System.step RingsFree System.init reqs) :
    Exclusive (run System.step System.init reqs).hw := by
  have hinit : (Sound System.init.driver ∧ Slotted System.init.driver System.init.hw) ∧
      Exclusive System.init.hw :=
    ⟨⟨sound_init, slotted_empty _⟩, fun _ => List.nodup_nil, fun _ _ _ _ hr =>
      absurd hr List.not_mem_nil⟩
  exact (run_invariant
    (I := fun s : System => (Sound s.driver ∧ Slotted s.driver s.hw) ∧ Exclusive s.hw)
    (fun s req h hp => ⟨⟨sound_step req h.1.1 hp.1, slotted_step h.1.2 h.1.1 hp.1 req⟩,
      exclusive_step h.2 h.1.1 h.1.2 hp.1 hp.2⟩) hinit
    (along_and (along_image (f := System.driver) (s := System.init) (fun _ _ => rfl) hgrant)
      hfree)).2

/-- Without `NVM_ADD_USER_QUEUE` there are no queues. -/
theorem hw_none_of_not_adds {reqs : List Request} (h : ∀ req ∈ reqs, req.adds = false)
    (key : Nat × Nat) : (run System.step System.init reqs).hw key = HwQueue.none := by
  refine run_invariant (I := fun s : System => ∀ key, s.hw key = HwQueue.none)
    (P := fun _ req => req.adds = false) (fun s _ hnone hadd key => ?_) (fun _ => rfl)
    (along_of_forall fun _ => h) key
  rcases shrinks_of_not_adds s.driver hadd s.hw key with heq | heq
  · exact heq.trans (hnone key)
  · exact heq

/-- The two rings of the queue of `ringsInUse`. -/
theorem rings_exclusive_oneQueue :
    ((run System.step System.init ringsInUse).hw (0, 3)).rings.length = 2 ∧
      Exclusive (run System.step System.init ringsInUse).hw := by
  have hquiet : ∀ req ∈ ringsInUse.take 6, req.adds = false := by decide
  refine ⟨by decide, rings_exclusive ringsInUse (grantsBelow_of_one 0 (by decide) (by decide)) ?_⟩
  have hsplit : ringsInUse = ringsInUse.take 6 ++ ringsInUse.drop 6 := by rfl
  rw [hsplit, along_append]
  refine ⟨along_of_forall fun s req hreq => ?_, fun rings hrings => ⟨?_, fun _ _ _ r hr => ?_⟩,
    trivial⟩
  · have hadd := hquiet req hreq
    unfold RingsFree
    split
    · cases hadd
    · trivial
  · have hids : ringIds rings = [6, 5] := by
      rw [← Option.some.inj hrings]
      rfl
    rw [hids]
    decide
  · rw [hw_none_of_not_adds hquiet] at hr
    cases hr

/-- Two pairs whose addresses are different, but lie in the same two pages: the check
    for duplicates lets them pass, and both queues get the same rings. -/
theorem rings_shared : ¬ Exclusive (run System.step System.init (ringsInUse.take 6 ++
      [.ioctl 0 1 10 (.addUserQueue ⟨1, 0, [], [⟨4096, 8192⟩, ⟨4160, 8208⟩]⟩
        ⟨true, true, true, fun _ => 0, fun _ => 0, true⟩)])).hw := by
  intro h
  have hapart := h.apart (0, 3) (0, 4) (by decide)
  revert hapart
  decide

end Geminifs.Snvme
