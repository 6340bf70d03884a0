import Geminifs.Core.MemorySubsystem
import Geminifs.Library.Assoc

/-!
# The Regions of Tensors

A tensor that is registered gets the region that its pointer lies in, and a new one if there
is none. A new one is as long as the tensor. One that was there is taken as it is, and may
end before the tensor does.

## Main definitions

* `Slot.Covers`: A whole range lies in one of the views of a region.
* `Slot.MappedFor`: A region has a mapping for a device.

## Theorems

* `ensureMappings_true`: What the loop over the devices leaves.
* `regionOf_new`: A region that is made for a tensor.
* `tensor_covered_iff`: When the region of a tensor has all of it.
-/

namespace Geminifs.Memory

open Subsystem

variable {s s' : Subsystem} {slot : Slot} {id ptr size pick : Nat} {es : List Event}

/-- A whole range lies in one of the views of a region. -/
def Slot.Covers (slot : Slot) (ptr size : Nat) : Prop :=
  (slot.region.hostPtr ≠ 0 ∧ slot.region.hostPtr ≤ ptr ∧
    ptr + size ≤ slot.region.hostPtr + slot.region.size) ∨
  (slot.region.devicePtr ≠ 0 ∧ slot.region.devicePtr ≤ ptr ∧
    ptr + size ≤ slot.region.devicePtr + slot.region.size)

/-- A region has a mapping for a device. -/
def Slot.MappedFor (slot : Slot) (target : Option Device) : Prop :=
  ∃ dev, target = some dev ∧ (slot.dmaPerDevice.lookup dev.addr).isSome

theorem mem_entries : ⟨id, slot⟩ ∈ s.regions.entries ↔ s.regions.lookup id = some slot :=
  (List.mem_dlookup_iff s.regions.nodupKeys).symm

theorem slotByPtr_some (h : s.slotByPtr ptr pick = some id) :
    ∃ slot, s.regions.lookup id = some slot ∧ slot.contains ptr = true := by
  unfold slotByPtr at h
  split_ifs at h
  simpa [mem_entries] using List.mem_of_getElem? h

theorem slotByPtr_none (h : s.slotByPtr ptr pick = none) (hptr : ptr ≠ 0)
    (hslot : s.regions.lookup id = some slot) : slot.contains ptr = false := by
  by_contra hin
  have hmem : ⟨id, slot⟩ ∈ s.regions.entries.filter fun e => e.2.contains ptr :=
    List.mem_filter.mpr ⟨mem_entries.mpr hslot, by simpa using hin⟩
  have hlt := Nat.mod_lt pick (List.length_pos_of_mem hmem)
  simp [slotByPtr] at h
  omega

/-- A mapping that is there or made leaves the region and its other mappings. -/
theorem ensureMapping_true {target : Option Device} {ok : Bool}
    (h : s.ensureMapping id target ok = (s', es, true)) (hslot : s.regions.lookup id = some slot) :
    ∃ slot', s'.regions.lookup id = some slot' ∧ slot'.region = slot.region ∧
      slot'.MappedFor target ∧ ∀ t, slot.MappedFor t → slot'.MappedFor t := by
  unfold ensureMapping at h
  cases target with
  | none => simp at h
  | some dev =>
    simp only [hslot] at h
    split_ifs at h with hold <;> simp at h
    · obtain ⟨rfl, -⟩ := h
      exact ⟨slot, hslot, rfl, ⟨dev, rfl, hold⟩, fun _ ht => ht⟩
    · obtain ⟨rfl, -⟩ := h
      refine ⟨_, AList.lookup_insert _, rfl, ⟨dev, rfl, by simp⟩, ?_⟩
      rintro _ ⟨d, rfl, hd⟩
      refine ⟨d, rfl, ?_⟩
      rw [lookup_insert_apply]
      split <;> simp [hd]

/-- All of the loop. -/
theorem ensureMappings_true {ok : Nat → Bool} {targets : List (Option Device)} {i : Nat}
    (hslot : s.regions.lookup id = some slot) (h : (ensureMappings id ok i targets s).2.2 = true) :
    ∃ slot', (ensureMappings id ok i targets s).1.regions.lookup id = some slot' ∧
      slot'.region = slot.region ∧ (∀ t ∈ targets, slot'.MappedFor t) ∧
      ∀ t, slot.MappedFor t → slot'.MappedFor t := by
  induction targets generalizing s slot i with
  | nil => exact ⟨slot, hslot, rfl, nofun, fun _ ht => ht⟩
  | cons t _ ih =>
    unfold ensureMappings at h ⊢
    split at h
    · cases h
    next hone =>
      obtain ⟨slot₁, hslot₁, hregion₁, ht, hkeep₁⟩ := ensureMapping_true hone hslot
      obtain ⟨slot', hslot', hregion, hall, hkeep⟩ := ih hslot₁ h
      exact ⟨slot', hslot', hregion.trans hregion₁,
        List.forall_mem_cons.mpr ⟨hkeep t ht, hall⟩, fun u hu => hkeep u (hkeep₁ u hu)⟩

/-- A region that is made for a tensor is as long as the tensor. -/
theorem regionOf_new {env : TensorEnv} (hnone : s.slotByPtr ptr env.pick = none)
    (h : s.regionOf ptr size env = (s', es, some id)) :
    ∃ slot, slot.Covers ptr size ∧
      ∀ i, s'.regions.lookup i = if i = id then some slot else s.regions.lookup i := by
  unfold regionOf at h
  simp only [hnone] at h
  split at h
  all_goals
    simp only [registerDevice, registerHost, registerIntoTable] at h
    split_ifs at h with hvalid <;> simp at h
    obtain ⟨rfl, -, rfl⟩ := h
    refine ⟨_, ?_, fun i => lookup_insert_apply⟩
    simp [Slot.Covers]
    omega

/-- A tensor that is registered has a mapping for each of its devices. Its region has all of
    it exactly if the one that its pointer lay in before has, or there was none. -/
theorem tensor_covered_iff (s : Subsystem) (ptr size : Nat) (targets : List (Option Device))
    (env : TensorEnv) (s' : Subsystem) (es : List Event) (id : Nat)
    (h : s.registerTensor ptr size targets env = (s', es, some id)) :
    (∃ slot, s'.regions.lookup id = some slot ∧ slot.Covers ptr size ∧
      ∀ t ∈ targets, slot.MappedFor t) ↔
      ∀ id₀, s.slotByPtr ptr env.pick = some id₀ → ∀ slot₀, s.regions.lookup id₀ = some slot₀ →
        slot₀.Covers ptr size := by
  unfold registerTensor at h
  split_ifs at h with hvalid
  · cases h
  split at h
  · cases h
  rename_i s₁ es₁ region hregion
  split at h
  · cases h
  rename_i id₁ hfound
  simp only [Prod.mk.injEq, Option.ite_none_right_eq_some, Option.some.injEq] at h
  obtain ⟨rfl, -, hok, rfl⟩ := h
  obtain ⟨slot₁, hslot₁, hin⟩ := slotByPtr_some hfound
  obtain ⟨slot', hslot', hsame, hmapped, -⟩ := ensureMappings_true hslot₁ hok
  cases hthere : s.slotByPtr ptr env.pick with
  | some id₀ =>
    -- The second search finds what the first one has found.
    simp only [regionOf, hthere] at hregion
    obtain ⟨rfl, -, rfl⟩ := hregion
    cases hfound.symm.trans hthere
    simp_all [Slot.Covers]
  | none =>
    obtain ⟨slot, hcovers, hlookup⟩ := regionOf_new hthere hregion
    rw [hlookup] at hslot₁
    split at hslot₁
    next heq =>
      cases heq
      cases hslot₁
      exact iff_of_true ⟨slot', hslot', by simpa [Slot.Covers, hsame] using hcovers, hmapped⟩ nofun
    next =>
      -- Nothing that was there before has the pointer.
      have hout := slotByPtr_none hthere (by omega) hslot₁
      simp [hin] at hout

/-- A tensor on the host. -/
def hostTensor : TensorEnv := ⟨0, .unknown, fun _ => true⟩

theorem tensor_covered_iff_new :
    ∃ slot, (init.registerTensor 4096 32 [some ⟨7, true⟩] hostTensor).1.regions.lookup 1 =
      some slot ∧ slot.Covers 4096 32 ∧ ∀ t ∈ [some ⟨7, true⟩], slot.MappedFor t :=
  (tensor_covered_iff init 4096 32 _ hostTensor _ _ 1 rfl).mpr nofun

/-- A tensor of 32 bytes gets a region of 16 bytes that starts where it does. -/
theorem short_region_found : ∃ slot,
    ((init.registerHost 4096 16).1.registerTensor 4096 32 [] hostTensor).2.2 = some 1 ∧
    ((init.registerHost 4096 16).1.registerTensor 4096 32 [] hostTensor).1.regions.lookup 1 =
      some slot ∧ ¬ slot.Covers 4096 32 :=
  ⟨_, rfl, rfl, by simp [Slot.Covers]⟩

end Geminifs.Memory
