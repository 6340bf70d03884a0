import Geminifs.Core.MemorySubsystem
import Geminifs.Library.Runs
import Mathlib.Data.List.Count

/-!
# What Becomes of Memory

What is done for one region has a simple form, whatever happens to the others: its buffer
is allocated, if it has one of its own; it gets its id; mappings are made; and in the end
they are all taken away and the buffer is freed. The table has the regions whose end has
not come yet.

So everything that is said about a whole history is read off from the part of it that is
for one region. A region is created with an id that nothing has been done for.

## Main definitions

* `Slot.buffers`: The buffers that a region owns.
* `Living`, `Lived`: What has been done for a region, up to now and in the end.
* `Kept`: The table has the regions that live.
* `Accounted`: Mappings and buffers are given back once, in order.

## Theorems

* `Kept.next`: A call does something for one region.
* `kept_step`: All calls.
* `lived_all`: Every region comes to its end.
* `memory_accounted`: Over any history.
-/

namespace Geminifs.Memory

open Runs

variable {slot : Slot} {region : MemoryRegion} {events : List Event}

/-! ### The life of a region -/

variable (slot)

/-- The buffers that a region owns. -/
def Slot.buffers : List (Nat × Heap) :=
  (if slot.ownsHostAlloc ∧ slot.region.hostPtr ≠ 0 then
    [(slot.region.hostPtr, if slot.region.kind = .pinnedHost then .pinned else .malloc)]
  else []) ++
  if slot.ownsDeviceAlloc ∧ slot.region.devicePtr ≠ 0 then [(slot.region.devicePtr, .cuda)] else []

theorem Slot.frees_eq :
    slot.frees = slot.buffers.map fun b => .free slot.region.regionId b.1 b.2 := by
  rw [Slot.frees, Slot.buffers, List.map_append]
  congr 1
  · split
    · split
      · rfl
      · rfl
    · rfl
  · split
    · rfl
    · rfl

/-- The mappings of a region, the last one first. -/
def Slot.dmas : List Nat := slot.dmaPerDevice.entries.map Sigma.snd

theorem Slot.unmaps_eq : slot.unmaps = slot.dmas.map (.unmap slot.region.regionId) := by
  rw [Slot.unmaps, Slot.dmas, List.map_map]
  rfl

/-- The mappings that have been made for a region. -/
def Slot.maps : List Event := slot.dmas.reverse.map (.map slot.region.regionId)

/-- How a region begins. -/
def Slot.birth : List Event :=
  (slot.buffers.map fun b => .alloc slot.region.regionId b.1 b.2) ++ [.create slot.region.regionId]

variable {slot}

/-- What has been done for a region that is in the table. -/
structure Living (slot : Slot) (events : List Event) : Prop where
  events : events = slot.birth ++ slot.maps
  dmas : slot.dmas.Nodup
  buffers : slot.buffers.length ≤ 1

/-- What has been done for a region that is not in the table, any more or yet. -/
def Lived (events : List Event) : Prop :=
  events = [] ∨ ∃ slot lived, Living slot lived ∧ events = lived ++ slot.teardown

theorem teardown_region (slot : Slot) : ∀ e ∈ slot.teardown, e.region = slot.region.regionId := by
  intro e he
  rcases List.mem_append.mp he with he | he
  · rcases List.mem_map.mp he with ⟨x, -, rfl⟩
    rfl
  · rw [slot.frees_eq] at he
    rcases List.mem_map.mp he with ⟨x, -, rfl⟩
    rfl

/-! ### The events of one region -/

/-- The part of a history that is for one region. -/
def ofRegion (id : Nat) (events : List Event) : List Event := events.filter (·.region = id)

@[simp] theorem ofRegion_append (id : Nat) (es fs : List Event) :
    ofRegion id (es ++ fs) = ofRegion id es ++ ofRegion id fs := List.filter_append ..

theorem ofRegion_all {id : Nat} {es : List Event} (h : ∀ e ∈ es, e.region = id) :
    ofRegion id es = es := List.filter_eq_self.mpr (fun e he => by simpa using h e he)

theorem ofRegion_none {id : Nat} {es : List Event} (h : ∀ e ∈ es, e.region ≠ id) :
    ofRegion id es = [] := List.filter_eq_nil_iff.mpr (fun e he => by simpa using h e he)

theorem count_ofRegion (e : Event) (events : List Event) :
    (ofRegion e.region events).count e = events.count e :=
  List.count_filter (by simp)

/-! ### The table -/

/-- The regions of the table live, and all others have lived. -/
structure Kept (w : Subsystem × List Event) : Prop where
  keyed : ∀ id slot, w.1.regions.lookup id = some slot → slot.region.regionId = id
  living : ∀ id slot, w.1.regions.lookup id = some slot → Living slot (ofRegion id w.2)
  lived : ∀ id, w.1.regions.lookup id = none → Lived (ofRegion id w.2)
  fresh : ∀ id, w.1.nextRegionId ≤ id → w.1.regions.lookup id = none ∧ ofRegion id w.2 = []
  dmas : ∀ id dma, .map id dma ∈ w.2 → dma < w.1.nextDma
  owner : ∀ id id' dma, .map id dma ∈ w.2 → .map id' dma ∈ w.2 → id = id'

variable {s s' : Subsystem} {log es : List Event} {id : Nat}

/-- Something is done for one region. -/
theorem Kept.next (h : Kept (s, log)) (id : Nat) (hes : ∀ e ∈ es, e.region = id)
    (hother : ∀ i, i ≠ id → s'.regions.lookup i = s.regions.lookup i)
    (hsome : ∀ slot, s'.regions.lookup id = some slot →
      slot.region.regionId = id ∧ Living slot (ofRegion id log ++ es))
    (hnone : s'.regions.lookup id = none → Lived (ofRegion id log ++ es))
    (hid : id < s'.nextRegionId) (hnext : s.nextRegionId ≤ s'.nextRegionId)
    (hdma : s.nextDma ≤ s'.nextDma)
    (hmaps : ∀ dma, .map id dma ∈ es → s.nextDma ≤ dma ∧ dma < s'.nextDma) :
    Kept (s', log ++ es) := by
  have hsame : ∀ i, i ≠ id → ofRegion i (log ++ es) = ofRegion i log := by
    intro i hi
    have hnil : ofRegion i es = [] := ofRegion_none fun e he heq => hi (heq.symm.trans (hes e he))
    rw [ofRegion_append, hnil, List.append_nil]
  have hself : ofRegion id (log ++ es) = ofRegion id log ++ es := by
    rw [ofRegion_append, ofRegion_all hes]
  -- A mapping is an old one, or a new one of this region.
  have hold : ∀ i dma, .map i dma ∈ log ++ es →
      .map i dma ∈ log ∧ dma < s.nextDma ∨ i = id ∧ s.nextDma ≤ dma ∧ dma < s'.nextDma := by
    intro i dma hmem
    rcases List.mem_append.mp hmem with hmem | hmem
    · exact .inl ⟨hmem, h.dmas i dma hmem⟩
    · have hi : i = id := hes _ hmem
      exact .inr ⟨hi, hmaps dma (hi ▸ hmem)⟩
  refine ⟨fun i slot hi => ?_, fun i slot hi => ?_, fun i hi => ?_, fun i hi => ?_,
    fun i dma hmem => ?_, fun i j dma hmem hmem' => ?_⟩
  · by_cases heq : i = id
    · rw [heq] at hi ⊢
      exact (hsome slot hi).1
    · exact h.keyed i slot ((hother i heq).symm.trans hi)
  · show Living slot (ofRegion i (log ++ es))
    by_cases heq : i = id
    · rw [heq] at hi ⊢
      rw [hself]
      exact (hsome slot hi).2
    · rw [hsame i heq]
      exact h.living i slot ((hother i heq).symm.trans hi)
  · show Lived (ofRegion i (log ++ es))
    by_cases heq : i = id
    · rw [heq] at hi ⊢
      rw [hself]
      exact hnone hi
    · rw [hsame i heq]
      exact h.lived i ((hother i heq).symm.trans hi)
  · show s'.regions.lookup i = none ∧ ofRegion i (log ++ es) = []
    replace hi : s'.nextRegionId ≤ i := hi
    have heq : i ≠ id := by omega
    rw [hsame i heq, hother i heq]
    exact h.fresh i (by show s.nextRegionId ≤ i; omega)
  · rcases hold i dma hmem with ⟨-, hlt⟩ | ⟨-, -, hlt⟩
    · exact Nat.lt_of_lt_of_le hlt hdma
    · exact hlt
  · rcases hold i dma hmem with ⟨hlog, hlt⟩ | ⟨hi, hle, -⟩
    · rcases hold j dma hmem' with ⟨hlog', -⟩ | ⟨-, hle, -⟩
      · exact h.owner i j dma hlog hlog'
      · omega
    · rcases hold j dma hmem' with ⟨-, hlt⟩ | ⟨hj, -⟩
      · omega
      · rw [hi, hj]

/-- Nothing is done. -/
theorem Kept.same (h : Kept (s, log)) : Kept (s, log ++ []) := by
  rw [List.append_nil]
  exact h

/-! ### Creating regions -/

section

variable (h : Kept (s, log))

include h

section

variable (hid : region.regionId = s.nextRegionId)

include hid

/-- A region with a new id, whose buffers have just been allocated. -/
theorem kept_create (ownsHost ownsDevice : Bool)
    (hbuffers : (Slot.buffers ⟨region, ownsHost, ownsDevice, ∅⟩).length ≤ 1) :
    Kept ((s.registerIntoTable region ownsHost ownsDevice).1,
      log ++ Slot.birth ⟨region, ownsHost, ownsDevice, ∅⟩) ∧
    (s.registerIntoTable region ownsHost ownsDevice).2.1 = [.create region.regionId] := by
  have hfresh := h.fresh region.regionId (by rw [hid])
  rw [Subsystem.registerIntoTable]
  rw [hfresh.1, if_neg (by simp)]
  refine ⟨?_, rfl⟩
  refine h.next region.regionId (fun e he => ?_) (fun i hi => AList.lookup_insert_ne hi)
    (fun _ hslot => ?_) (fun hnone => ?_) (by show _ < s.nextRegionId + 1; omega)
    (Nat.le_succ _) (Nat.le_refl _) (fun _ hdma => ?_)
  · rcases List.mem_append.mp he with he | he
    · rcases List.mem_map.mp he with ⟨b, -, rfl⟩
      rfl
    · rw [List.mem_singleton.mp he]
      rfl
  · have heq := (AList.lookup_insert s.regions).symm.trans hslot
    rw [Option.some.injEq] at heq
    rw [← heq, hfresh.2]
    exact ⟨rfl, by rw [List.nil_append, Slot.maps]; exact (List.append_nil _).symm,
      List.nodup_nil, hbuffers⟩
  · exact absurd ((AList.lookup_insert s.regions).symm.trans hnone) (by simp)
  · rcases List.mem_append.mp hdma with hdma | hdma
    · rcases List.mem_map.mp hdma with ⟨b, -, hb⟩
      cases hb
    · cases List.mem_singleton.mp hdma

/-- A region of the caller's. -/
theorem kept_register : Kept ((s.registerIntoTable region false false).1,
      log ++ (s.registerIntoTable region false false).2.1) := by
  have hbuffers : Slot.buffers ⟨region, false, false, ∅⟩ = [] := by simp [Slot.buffers]
  have hkept := kept_create h hid false false (by simp [hbuffers])
  rw [hkept.2]
  exact hkept.1

/-- A region of the subsystem's own. -/
theorem kept_owned {ownsHost ownsDevice : Bool} {ptr : Nat} {heap : Heap}
    (hbuffers : Slot.buffers ⟨region, ownsHost, ownsDevice, ∅⟩ = [(ptr, heap)]) :
    Kept ((s.registerOwned region ownsHost ownsDevice ptr heap).1,
      log ++ (s.registerOwned region ownsHost ownsDevice ptr heap).2.1) := by
  have hkept := kept_create h hid ownsHost ownsDevice (by simp [hbuffers])
  rw [Subsystem.registerOwned]
  rw [hkept.2]
  rw [Slot.birth, hbuffers] at hkept
  exact hkept.1

end

theorem kept_allocateHost (size : Nat) (kind : MemoryKind) (ptr : Nat) :
    Kept ((s.allocateHost size kind ptr).1, log ++ (s.allocateHost size kind ptr).2.1) := by
  rw [Subsystem.allocateHost]
  iterate 3
    split
    · exact h.same
  next hptr => exact kept_owned h rfl (by simp [Slot.buffers, hptr])

theorem kept_allocateDevice (size : Nat) (kind : MemoryKind) (deviceId : Int)
    (setDeviceOk : Bool) (ptr : Nat) :
    Kept ((s.allocateDevice size kind deviceId setDeviceOk ptr).1,
      log ++ (s.allocateDevice size kind deviceId setDeviceOk ptr).2.1) := by
  unfold Subsystem.allocateDevice
  split
  · exact h.same
  cases kind with
  | device =>
    simp only
    iterate 3
      split
      · exact h.same
    next hptr => exact kept_owned h rfl (by simp [Slot.buffers, hptr])
  | managed =>
    simp only
    split
    · exact h.same
    next hptr => exact kept_owned h rfl (by simp [Slot.buffers, hptr])
  | host | pinnedHost | external => exact h.same

theorem kept_registerHost (hostPtr size : Nat) :
    Kept ((s.registerHost hostPtr size).1, log ++ (s.registerHost hostPtr size).2.1) := by
  rw [Subsystem.registerHost]
  split
  · exact h.same
  · exact kept_register h rfl

theorem kept_registerDevice (devicePtr size : Nat) (deviceId : Int) :
    Kept ((s.registerDevice devicePtr size deviceId).1,
      log ++ (s.registerDevice devicePtr size deviceId).2.1) := by
  rw [Subsystem.registerDevice]
  split
  · exact h.same
  · exact kept_register h rfl

theorem kept_registerExternal (hostPtr devicePtr size : Nat) (source : ExternalMemorySource) :
    Kept ((s.registerExternal hostPtr devicePtr size source).1,
      log ++ (s.registerExternal hostPtr devicePtr size source).2.1) := by
  rw [Subsystem.registerExternal]
  iterate 3
    split
    · exact h.same
  · exact kept_register h rfl

end

/-! ### Mapping and erasing -/

/-- A region that is in the table has been given its id. -/
theorem Kept.id_lt (h : Kept (s, log)) (hslot : s.regions.lookup id = some slot) :
    id < s.nextRegionId := by
  by_contra hle
  have hgone := (h.fresh id (Nat.not_lt.mp hle)).1
  exact absurd (hgone.symm.trans hslot) (by simp)

/-- A new mapping comes before the others in the table, and after them in the history. -/
theorem Living.mapped (h : Living slot es) {device dma : Nat} (hdevice : device ∉ slot.dmaPerDevice)
    (hdma : dma ∉ slot.dmas) :
    Living { slot with dmaPerDevice := slot.dmaPerDevice.insert device dma }
      (es ++ [.map slot.region.regionId dma]) := by
  have hdmas : Slot.dmas { slot with dmaPerDevice := slot.dmaPerDevice.insert device dma } =
      dma :: slot.dmas := by
    rw [Slot.dmas, AList.entries_insert_of_notMem hdevice]
    rfl
  refine ⟨?_, ?_, h.buffers⟩
  · rw [h.events, Slot.maps, Slot.maps, hdmas, List.reverse_cons, List.map_append,
      List.append_assoc]
    rfl
  · rw [hdmas, List.nodup_cons]
    exact ⟨hdma, h.dmas⟩

theorem kept_ensureMapping (h : Kept (s, log)) (id : Nat) (device : Option Device) (ok : Bool) :
    Kept ((s.ensureMapping id device ok).1, log ++ (s.ensureMapping id device ok).2.1) := by
  unfold Subsystem.ensureMapping
  cases device with
  | none => exact h.same
  | some dev => _
  cases hslot : s.regions.lookup id with
  | none => exact h.same
  | some slot => _
  simp only
  split
  · exact h.same
  rename_i hnew
  iterate 3
    split
    · exact h.same
  have hid := h.keyed id slot hslot
  have hliving : Living slot (ofRegion id log) := h.living id slot hslot
  have habsent : dev.addr ∉ slot.dmaPerDevice := by
    rw [← AList.lookup_isSome]
    simpa using hnew
  -- All mappings so far have smaller numbers.
  have hfresh : s.nextDma ∉ slot.dmas := by
    intro hmem
    have hin : Event.map id s.nextDma ∈ ofRegion id log := by
      rw [hliving.events, ← hid]
      exact List.mem_append_right _ (List.mem_map_of_mem (List.mem_reverse.mpr hmem))
    exact Nat.lt_irrefl _ (h.dmas id s.nextDma (List.mem_of_mem_filter hin))
  refine h.next id (fun e he => ?_) (fun i hi => AList.lookup_insert_ne hi)
    (fun slot' hslot' => ?_) (fun hnone => ?_) (h.id_lt hslot) (Nat.le_refl _) (Nat.le_succ _)
    (fun dma hdma => ?_)
  · rw [List.mem_singleton.mp he]
    rfl
  · have heq := (AList.lookup_insert s.regions).symm.trans hslot'
    rw [Option.some.injEq] at heq
    have hmapped := hliving.mapped habsent hfresh
    rw [hid] at hmapped
    rw [← heq]
    exact ⟨hid, hmapped⟩
  · exact absurd ((AList.lookup_insert s.regions).symm.trans hnone) (by simp)
  · have heq := List.mem_singleton.mp hdma
    rw [Event.map.injEq] at heq
    rw [heq.2]
    exact ⟨Nat.le_refl _, Nat.lt_succ_self _⟩

theorem kept_ensureMappings (id : Nat) (ok : Nat → Bool) (devs : List (Option Device)) {i : Nat}
    (h : Kept (s, log)) :
    Kept ((Subsystem.ensureMappings id ok i devs s).1,
      log ++ (Subsystem.ensureMappings id ok i devs s).2.1) := by
  induction devs generalizing i s log with
  | nil => exact h.same
  | cons dev _ ih =>
    have hone := kept_ensureMapping h id dev (ok i)
    rw [Subsystem.ensureMappings]
    split
    next heq =>
      rw [heq] at hone
      exact hone
    next heq =>
      rw [heq] at hone
      rw [← List.append_assoc]
      exact ih hone

theorem kept_registerTensor (h : Kept (s, log)) (ptr size : Nat) (targets : List (Option Device))
    (env : Subsystem.TensorEnv) :
    Kept ((s.registerTensor ptr size targets env).1,
      log ++ (s.registerTensor ptr size targets env).2.1) := by
  have hregion : Kept ((s.regionOf ptr size env).1, log ++ (s.regionOf ptr size env).2.1) := by
    rw [Subsystem.regionOf]
    split
    · exact h.same
    split
    · exact kept_registerDevice h ptr size _
    · exact kept_registerHost h ptr size
    · exact kept_registerHost h ptr size
  rw [Subsystem.registerTensor]
  split
  · exact h.same
  split
  next heq =>
    rw [heq] at hregion
    exact hregion
  next heq =>
    rw [heq] at hregion
    split
    · exact hregion
    · simp only
      rw [← List.append_assoc]
      exact kept_ensureMappings _ _ _ hregion

/-- A region comes to its end. -/
theorem kept_erase (h : Kept (s, log)) (hslot : s.regions.lookup id = some slot) :
    Kept ((s.erase id slot).1, log ++ (s.erase id slot).2) := by
  have hid := h.keyed id slot hslot
  have hgone : (s.erase id slot).1.regions.lookup id = none := AList.lookup_erase id s.regions
  refine h.next id (fun e he => (teardown_region slot e he).trans hid)
    (fun i hi => AList.lookup_erase_ne hi)
    (fun _ hslot' => absurd (hgone.symm.trans hslot') (by simp))
    (fun _ => .inr ⟨slot, _, h.living id slot hslot, rfl⟩) (h.id_lt hslot) (Nat.le_refl _)
    (Nat.le_refl _) (fun dma hdma => ?_)
  · replace hdma : Event.map id dma ∈ slot.unmaps ++ slot.frees := hdma
    rw [slot.frees_eq] at hdma
    rcases List.mem_append.mp hdma with hdma | hdma
    · rcases List.mem_map.mp hdma with ⟨x, -, hx⟩
      cases hx
    · rcases List.mem_map.mp hdma with ⟨x, -, hx⟩
      cases hx

theorem kept_release (h : Kept (s, log)) {region : Option Nat} {r : Subsystem × List Event}
    (hr : s.release region = some r) : Kept (r.1, log ++ r.2) := by
  cases region with
  | none =>
    cases hr
    exact h.same
  | some =>
    rw [Subsystem.release] at hr
    split at hr
    · cases hr
    next slot hslot =>
      cases hr
      exact kept_erase h hslot

theorem kept_step {w w' : Subsystem × List Event} (h : Kept w) {call : Call}
    (hstep : step w call = some w') : Kept w' := by
  rcases Option.map_eq_some_iff.mp hstep with ⟨r, hr, rfl⟩
  cases call with
  | allocateHost size kind ptr =>
    cases hr
    exact kept_allocateHost h size kind ptr
  | allocateDevice size kind deviceId setDeviceOk ptr =>
    cases hr
    exact kept_allocateDevice h size kind deviceId setDeviceOk ptr
  | registerHost hostPtr size =>
    cases hr
    exact kept_registerHost h hostPtr size
  | registerDevice devicePtr size deviceId =>
    cases hr
    exact kept_registerDevice h devicePtr size deviceId
  | registerExternal hostPtr devicePtr size source =>
    cases hr
    exact kept_registerExternal h hostPtr devicePtr size source
  | registerTensor ptr size targets env =>
    cases hr
    exact kept_registerTensor h ptr size targets env
  | free | unregister => exact kept_release h hr

/-! ### The end -/

/-- What the destructor does for one region. -/
theorem ofRegion_flatMap {l : List (Sigma fun _ : Nat => Slot)} (hnodup : l.NodupKeys)
    (hkeyed : ∀ e ∈ l, e.2.region.regionId = e.1) (id : Nat) :
    ofRegion id (l.flatMap fun e => e.2.teardown) = ((l.dlookup id).map Slot.teardown).getD [] := by
  induction l with
  | nil => rfl
  | cons e l ih =>
    rw [List.nodupKeys_cons] at hnodup
    have hrest := ih hnodup.2 (List.forall_mem_cons.mp hkeyed).2
    have hregion : ∀ x ∈ e.2.teardown, x.region = e.1 := fun x hx =>
      (teardown_region e.2 x hx).trans (hkeyed e List.mem_cons_self)
    rw [List.flatMap_cons, ofRegion_append, hrest]
    by_cases heq : e.1 = id
    · have hgone : l.dlookup id = none := List.dlookup_eq_none.mpr (heq ▸ hnodup.1)
      rw [ofRegion_all (heq ▸ hregion), hgone, ← heq, List.dlookup_cons_eq]
      simp
    · rw [ofRegion_none (fun x hx h => heq ((hregion x hx).symm.trans h)), List.nil_append,
        List.dlookup_cons_ne _ _ (Ne.symm heq)]

/-- After the destructor, every region has lived. -/
theorem lived_all (h : Kept (s, log)) (id : Nat) : Lived (ofRegion id (log ++ s.destruct)) := by
  have hkeyed : ∀ e ∈ s.regions.entries, e.2.region.regionId = e.1 := fun e he =>
    h.keyed e.1 e.2 ((List.mem_dlookup_iff s.regions.nodupKeys).mpr he)
  have hend : ofRegion id s.destruct = ((s.regions.lookup id).map Slot.teardown).getD [] :=
    ofRegion_flatMap s.regions.nodupKeys hkeyed id
  rw [ofRegion_append, hend]
  cases hslot : s.regions.lookup id with
  | none =>
    have hlived := h.lived id hslot
    simpa using hlived
  | some slot => exact .inr ⟨slot, _, h.living id slot hslot, rfl⟩

/-- Everything is given back once: no id is used twice, mappings are taken away exactly as
    they were made, buffers are freed exactly as they were allocated, and a buffer is freed
    when all the mappings of its region are gone. A mapping belongs to one region. -/
structure Accounted (events : List Event) : Prop where
  ids : ∀ id, events.count (.create id) ≤ 1
  maps : ∀ id dma, events.count (.map id dma) ≤ 1 ∧
    events.count (.unmap id dma) = events.count (.map id dma)
  buffers : ∀ id ptr heap, events.count (.alloc id ptr heap) ≤ 1 ∧
    events.count (.free id ptr heap) = events.count (.alloc id ptr heap)
  order : ∀ before after id ptr heap, events = before ++ .free id ptr heap :: after →
    ∀ dma, before.count (.unmap id dma) = events.count (.map id dma)
  owner : ∀ id id' dma, .map id dma ∈ events → .map id' dma ∈ events → id = id'

/-! ### Counting -/

theorem count_map_ne {α : Type _} {f : α → Event} {e : Event} (h : ∀ x, f x ≠ e) (l : List α) :
    (l.map f).count e = 0 := by
  refine List.count_eq_zero.mpr fun hmem => ?_
  rcases List.mem_map.mp hmem with ⟨x, -, hx⟩
  exact h x hx

section Life

variable {slot : Slot} {lived : List Event}

section

variable (h : Living slot lived)

include h

/-- An event of a whole life is in one part of it. -/
theorem count_life (e : Event) : (lived ++ slot.teardown).count e =
      (slot.buffers.map fun b => Event.alloc slot.region.regionId b.1 b.2).count e +
        [Event.create slot.region.regionId].count e +
        (slot.dmas.reverse.map (Event.map slot.region.regionId)).count e +
        (slot.dmas.map (Event.unmap slot.region.regionId)).count e +
        (slot.buffers.map fun b => Event.free slot.region.regionId b.1 b.2).count e := by
  rw [h.events, Slot.birth, Slot.maps, Slot.teardown, slot.unmaps_eq, slot.frees_eq]
  simp only [List.count_append]
  omega

theorem count_create_life (id : Nat) : (lived ++ slot.teardown).count (.create id) ≤ 1 := by
  rw [count_life h, count_map_ne (by simp), count_map_ne (by simp), count_map_ne (by simp),
    count_map_ne (by simp)]
  have hle : [Event.create slot.region.regionId].count (.create id) ≤ 1 := List.count_le_length
  omega

theorem count_map_life (dma : Nat) :
    (lived ++ slot.teardown).count (.map slot.region.regionId dma) = slot.dmas.count dma := by
  have hinj : (Event.map slot.region.regionId).Injective := fun a b hab => (Event.map.inj hab).2
  rw [count_life h, List.count_map_of_injective _ _ hinj, count_map_ne (by simp),
    count_map_ne (by simp), count_map_ne (by simp), List.count_reverse]
  simp

theorem count_unmap_life (dma : Nat) :
    (lived ++ slot.teardown).count (.unmap slot.region.regionId dma) = slot.dmas.count dma := by
  have hinj : (Event.unmap slot.region.regionId).Injective := fun a b hab => (Event.unmap.inj hab).2
  rw [count_life h, List.count_map_of_injective _ _ hinj, count_map_ne (by simp),
    count_map_ne (by simp), count_map_ne (by simp)]
  simp

theorem count_alloc_life (ptr : Nat) (heap : Heap) :
    (lived ++ slot.teardown).count (.alloc slot.region.regionId ptr heap) =
      slot.buffers.count (ptr, heap) := by
  have hinj : (fun b : Nat × Heap => Event.alloc slot.region.regionId b.1 b.2).Injective :=
    fun a b hab => Prod.ext (Event.alloc.inj hab).2.1 (Event.alloc.inj hab).2.2
  have hcount := List.count_map_of_injective slot.buffers _ hinj (ptr, heap)
  rw [count_life h, hcount, count_map_ne (by simp), count_map_ne (by simp), count_map_ne (by simp)]
  simp

theorem count_free_life (ptr : Nat) (heap : Heap) :
    (lived ++ slot.teardown).count (.free slot.region.regionId ptr heap) =
      slot.buffers.count (ptr, heap) := by
  have hinj : (fun b : Nat × Heap => Event.free slot.region.regionId b.1 b.2).Injective :=
    fun a b hab => Prod.ext (Event.free.inj hab).2.1 (Event.free.inj hab).2.2
  have hcount := List.count_map_of_injective slot.buffers _ hinj (ptr, heap)
  rw [count_life h, hcount, count_map_ne (by simp), count_map_ne (by simp), count_map_ne (by simp)]
  simp

/-- A buffer is freed at the very end of a life, after all mappings are gone. -/
theorem before_free {before after : List Event} {ptr : Nat} {heap : Heap}
    (heq : lived ++ slot.teardown = before ++ .free slot.region.regionId ptr heap :: after) :
    before = lived ++ slot.unmaps := by
  have hnone : Event.free slot.region.regionId ptr heap ∉ lived ++ slot.unmaps := by
    rw [h.events, Slot.birth, Slot.maps, slot.unmaps_eq]
    simp
  have hshort : slot.frees.length ≤ 1 := by
    rw [slot.frees_eq, List.length_map]
    exact h.buffers
  rw [Slot.teardown, ← List.append_assoc] at heq
  rcases List.append_eq_append_iff.mp heq with ⟨rest, hbefore, hfrees⟩ | ⟨rest, hlived, hrest⟩
  · -- The one event after the mappings is this one.
    cases rest with
    | nil => simpa using hbefore
    | cons =>
      rw [hfrees] at hshort
      simp at hshort
  · cases rest with
    | nil => simpa using hlived.symm
    | cons =>
      rw [List.cons_append, List.cons.injEq] at hrest
      rw [hlived, hrest.1] at hnone
      simp at hnone

end

end Life

/-! ### Histories -/

theorem kept_init : Kept (Subsystem.init, []) := by
  have hempty : ∀ id, Subsystem.init.regions.lookup id = none := fun id => AList.lookup_empty id
  refine ⟨fun id slot h => ?_, fun id _ h => ?_, fun id _ => .inl rfl,
    fun id _ => ⟨hempty id, rfl⟩, fun id dma h => ?_, fun id _ _ h => ?_⟩
  · exact absurd ((hempty id).symm.trans h) (by simp)
  · exact absurd ((hempty id).symm.trans h) (by simp)
  · cases h
  · cases h

theorem kept_run {calls : List Call}
    (h : run (lift step) (some (Subsystem.init, [])) calls = some (s, log)) :
    Kept (s, log) :=
  run_lift_invariant (P := fun _ _ => True) (fun _ _ _ hw _ hstep => kept_step hw hstep)
    kept_init (along_of_forall fun _ _ _ _ _ => trivial) h

/-- What is true of a life and of nothing is true of the part of a history that is for one
    region. -/
theorem ofRegion_induction (h : ∀ id, Lived (ofRegion id events)) {motive : Nat → List Event → Prop}
    (hnil : ∀ id, motive id []) (hlife : ∀ slot lived, Living slot lived →
      motive slot.region.regionId (lived ++ slot.teardown)) (id : Nat) :
    motive id (ofRegion id events) := by
  rcases h id with heq | ⟨slot, lived, hliving, heq⟩
  · rw [heq]
    exact hnil id
  · have hmem : Event.create slot.region.regionId ∈ ofRegion id events := by
      rw [heq, hliving.events, Slot.birth]
      simp
    -- The region of a life is the one that its events are for.
    have hregion := List.of_mem_filter hmem
    have hid : slot.region.regionId = id := of_decide_eq_true hregion
    rw [heq, ← hid]
    exact hlife slot lived hliving

/-- If all regions have lived, then everything is accounted for. -/
theorem accounted_of_lived (h : ∀ id, Lived (ofRegion id events))
    (howner : ∀ id id' dma, .map id dma ∈ events → .map id' dma ∈ events → id = id') :
    Accounted events := by
  refine ⟨fun id => ?_, fun id dma => ?_, fun id ptr heap => ?_,
    fun before after id ptr heap heq dma => ?_, howner⟩
  · rw [← count_ofRegion]
    exact ofRegion_induction h (motive := fun id es => es.count (.create id) ≤ 1) (by simp)
      (fun slot lived hl => count_create_life hl _) id
  · rw [← count_ofRegion (.map id dma), ← count_ofRegion (.unmap id dma)]
    refine ofRegion_induction h (motive := fun id es => es.count (.map id dma) ≤ 1 ∧
      es.count (.unmap id dma) = es.count (.map id dma)) (by simp) (fun slot lived hl => ?_) id
    rw [count_map_life hl, count_unmap_life hl]
    exact ⟨List.nodup_iff_count_le_one.mp hl.dmas dma, rfl⟩
  · rw [← count_ofRegion (.alloc id ptr heap), ← count_ofRegion (.free id ptr heap)]
    refine ofRegion_induction h (motive := fun id es => es.count (.alloc id ptr heap) ≤ 1 ∧
      es.count (.free id ptr heap) = es.count (.alloc id ptr heap)) (by simp)
      (fun slot lived hl => ?_) id
    rw [count_alloc_life hl, count_free_life hl]
    exact ⟨Nat.le_trans List.count_le_length hl.buffers, rfl⟩
  · -- Only what is done for this region matters.
    have hsplit : ofRegion id events =
        ofRegion id before ++ .free id ptr heap :: ofRegion id after := by
      rw [heq, ofRegion_append, ofRegion, ofRegion,
        List.filter_cons_of_pos (by simp [Event.region])]
      rfl
    rw [← count_ofRegion (.unmap id dma), ← count_ofRegion (.map id dma)]
    refine ofRegion_induction h (motive := fun id es => ∀ before' after',
      es = before' ++ .free id ptr heap :: after' →
        before'.count (.unmap id dma) = es.count (.map id dma)) (by simp)
      (fun slot _ hl _ _ heq' => ?_) id _ _ hsplit
    have hbefore := before_free hl heq'
    have hfrees : slot.frees.count (.unmap slot.region.regionId dma) = 0 := by
      rw [slot.frees_eq]
      exact count_map_ne (by simp) _
    have hcount := count_unmap_life hl dma
    rw [Slot.teardown, ← List.append_assoc, List.count_append, hfrees, Nat.add_zero] at hcount
    rw [hbefore, hcount, count_map_life hl]

/-- From the beginning to the end, whatever is called and whatever fails, everything is
    accounted for. -/
theorem memory_accounted (calls : List Call) (s : Subsystem) (log : List Event)
    (h : run (lift step) (some (Subsystem.init, [])) calls = some (s, log)) :
    Accounted (log ++ s.destruct) := by
  have hkept := kept_run h
  have hmaps : ∀ id dma, .map id dma ∈ log ++ s.destruct → .map id dma ∈ log := by
    intro id dma hmem
    rcases List.mem_append.mp hmem with hmem | hmem
    · exact hmem
    · -- The destructor maps nothing.
      rcases List.mem_flatMap.mp hmem with ⟨e, -, he⟩
      rw [Slot.teardown, Slot.unmaps_eq, Slot.frees_eq] at he
      simp at he
  exact accounted_of_lived (lived_all hkept) fun id id' dma hmem hmem' =>
    hkept.owner id id' dma (hmaps id dma hmem) (hmaps id' dma hmem')

/-- A buffer with two mappings, of which one fails at first, is given back by `free`, and
    the mapping of a tensor of the caller's by the destructor. -/
def tensorCalls : List Call :=
  [.allocateDevice 4096 .device 0 true 65536,
   .registerTensor 65536 4096 [some ⟨1, true⟩, some ⟨2, true⟩] ⟨0, .device 0, (· = 0)⟩,
   .registerTensor 65536 4096 [some ⟨1, true⟩, some ⟨2, true⟩] ⟨0, .device 0, fun _ => true⟩,
   .registerTensor 4096 64 [some ⟨1, true⟩] ⟨0, .unknown, fun _ => true⟩,
   .free (some 1)]

theorem memory_accounted_tensors :
    ∃ s log, run (lift step) (some (Subsystem.init, [])) tensorCalls = some (s, log) ∧
      log ++ s.destruct = [.alloc 1 65536 .cuda, .create 1, .map 1 0, .map 1 1, .create 2, .map 2 2,
         .unmap 1 1, .unmap 1 0, .free 1 65536 .cuda, .unmap 2 2] ∧
      Accounted (log ++ s.destruct) :=
  ⟨_, _, rfl, by decide, memory_accounted tensorCalls _ _ rfl⟩

end Geminifs.Memory
