import Geminifs.Core.Snvme.Driver

/-!
# The Map an Unmap Releases

A map is looked up by the address it was registered at, rounded to either page size.
Maps of device memory are at whole device pages, so theirs is the only one that fits. A
map of host memory is not found if another one of its task, at the start of the same
device page, was registered before it: that one is released.

## Main definitions

* `MapList.page`: The pages that the maps of a list consist of.

## Theorems

* `unmap_releases_iff`: When an unmap releases the map registered at the address.
-/

namespace Geminifs.Snvme

def MapList.page : MapList → Nat
  | .host => pageSize
  | .device => gpuPageSize
  | .deviceQueue => gpuPageSize

/-- A whole device page has one address, by either page size. -/
theorem pageOf_of_dvd {v : Nat} (hdvd : gpuPageSize ∣ pageOf pageSize v) :
    pageOf pageSize v = pageOf gpuPageSize v := by
  rw [pageOf, pageOf, pageSize, gpuPageSize] at *
  omega

section

variable {list : MapList} {task v : Nat} {m m' : MapDesc}

theorem mapFind_iff : mapFind list task v m = true ↔ m.list = list ∧ m.owner = task ∧
    (m.vaddr = pageOf pageSize v ∨ m.vaddr = pageOf gpuPageSize v) := by
  rw [mapFind, decide_eq_true_iff]

end

/-- An unmap releases the map that was registered at its address, and no other, if no map
    of host memory before it is at the start of the same device page. -/
theorem unmap_releases_iff (d : Driver) (list : MapList) (task v : Nat) (r : Registered)
    (before after : List Registered) (hregs : d.regs = before ++ r :: after)
    (hlist : r.desc.list = list) (howner : r.desc.owner = task)
    (hat : r.desc.vaddr = pageOf list.page v)
    (hpages : ∀ r' ∈ before, r'.desc.list = list → list.page ∣ r'.desc.vaddr)
    (hdistinct : ∀ r' ∈ before, r'.desc.list = list → r'.desc.owner = task →
      r'.desc.vaddr ≠ r.desc.vaddr) :
    d.unmapEvents list task v true = [.unmapped r] ↔
      ∀ r' ∈ before, list = .host → r'.desc.list = list → r'.desc.owner = task →
        r'.desc.vaddr ≠ pageOf gpuPageSize v := by
  have hfound : mapFind list task v r.desc = true :=
    mapFind_iff.mpr ⟨hlist, howner, by cases list <;> simp [hat, MapList.page]⟩
  have hother : ∀ r' ∈ before, mapFind list task v r'.desc = true ↔
      list = .host ∧ r'.desc.list = list ∧ r'.desc.owner = task ∧
        r'.desc.vaddr = pageOf gpuPageSize v := by
    intro r' hr'
    rw [mapFind_iff]
    by_cases hsame : r'.desc.list = list ∧ r'.desc.owner = task
    · have hne := hdistinct r' hr' hsame.1 hsame.2
      have hdvd := hpages r' hr' hsame.1
      rw [hat] at hne
      clear hsame hfound hlist hat hpages hdistinct
      cases list with
      | host =>
        have hpage : r'.desc.vaddr ≠ pageOf pageSize v := hne
        simp [hpage]
      | device | deviceQueue =>
        have hpage : r'.desc.vaddr ≠ pageOf gpuPageSize v := hne
        have hsmall : r'.desc.vaddr ≠ pageOf pageSize v := fun h =>
          hpage (h.trans (pageOf_of_dvd (h ▸ hdvd)))
        simp [hpage, hsmall]
    · tauto
  have hfirst : d.unmapEvents list task v true = [.unmapped r] ↔
      before.find? (fun r => mapFind list task v r.desc) = none := by
    rw [Driver.unmapEvents, hregs, List.find?_append, List.find?_cons, hfound]
    cases hbefore : before.find? (fun r => mapFind list task v r.desc) with
    | none =>
      simp
    | some r' =>
      -- A map found before it is another one, as it has another address.
      have hne : r' ≠ r := by
        rintro rfl
        exact hdistinct r' (List.mem_of_find?_eq_some hbefore) hlist howner rfl
      simpa using hne
  rw [hfirst, List.find?_eq_none]
  refine forall₂_congr fun r' hr' => ?_
  rw [hother r' hr']
  tauto

/-- A map of host memory at the address. -/
def hostMapAt (id vaddr : Nat) : Registered :=
  ⟨id, 0, 0, createDescriptor .host pageSize 7 vaddr vaddr⟩

theorem unmap_releases_second :
    Driver.unmapEvents { Driver.init with regs := [hostMapAt 0 0x12000, hostMapAt 1 0x11000] }
      .host 7 0x11000 true = [.unmapped (hostMapAt 1 0x11000)] :=
  (unmap_releases_iff _ .host 7 0x11000 (hostMapAt 1 0x11000) [hostMapAt 0 0x12000] [] rfl rfl rfl
    rfl (by decide) (by decide)).mpr (by decide)

/-- Two maps in one device page: the first is released for the second. -/
theorem unmap_releases_other :
    Driver.unmapEvents { Driver.init with regs := [hostMapAt 0 0x10000, hostMapAt 1 0x11000] }
      .host 7 0x11000 true = [.unmapped (hostMapAt 0 0x10000)] := by
  decide

end Geminifs.Snvme
