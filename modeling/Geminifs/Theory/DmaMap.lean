import Geminifs.Core.DmaMap
import Geminifs.Library.Runs
import Mathlib.Data.List.GetD

/-!
# Pages and Buffers

The library counts pages from the pointer, and the kernel from the page that the pointer
lies in. So the addresses of a handle are those of the buffer only if the pointer is at
the beginning of such a page, of 64 KiB for a GPU. They are also those of the first
controller for a GPU, whoever asks. And if fewer pages are pinned than were asked for,
the rest of the addresses is zero.

Whether a mapping is accepted does not depend on where the pages are on the bus. That is
why the condition can be given exactly, for all bus addresses at once.

Handles share a mapping, and the last one takes it away. How that is done was decided when
the mapping was made, and not for all kinds of memory is it the way they were mapped.

## Main definitions

* `byteAddr`: Where a byte is on the bus.
* `Matches`: A handle is right about a buffer.
* `Right`: When it is.
* `Creation.Proper`, `Creation.Matched`: The last handle undoes the mapping, and when.

## Theorems

* `pageAlign_spec`: Sizes that are accepted are rounded up.
* `dmaMap_handle`: What is in a handle.
* `perform_same`: What is accepted does not depend on bus addresses.
* `dma_pages_iff`: When the pages are those of the buffer.
* `pages_of_others`: A pointer inside a page, and a controller that is not the first.
* `perform_counted`: A call on a handle.
* `unmap_matches_iff`: When the last handle undoes the mapping.
* `created_freed_mapped`: A buffer is freed while it is mapped.
-/

namespace Geminifs.Dma

open Snvme (pageOf gpuPageSize)

variable {call : Call} {addrs : List Nat}

/-- Where a byte is on the bus, given where the pages are. -/
def byteAddr (bus : Nat → Nat) (page a : Nat) : Nat := bus (a / page) + a % page

/-- A handle has the bus address of the byte at each of its pages, and its pages cover the
    buffer. -/
structure Matches (addr : Nat → Nat) (h : Handle) (ptr size : Nat) : Prop where
  pages : ∀ i a, h.ioaddrs[i]? = some a → a = addr (h.vaddr + i * h.pageSize)
  covers : ∀ b, b < size → ∃ i, i < h.ioaddrs.length ∧ h.vaddr + i * h.pageSize ≤ ptr + b ∧
    ptr + b < h.vaddr + (i + 1) * h.pageSize

/-- The memory that a call is for. -/
def Call.type : Call → MappingType
  | .dataHost => .host
  | .dataDevice | .device => .cuda

/-- The pages that memory is pinned in. -/
def MappingType.page (ctrl : Ctrl) : MappingType → Nat
  | .host => ctrl.pageSize
  | .cuda => gpuPageSize

/-- The pages of a buffer. -/
def pagesOf (size page : Nat) : Nat := (size + page - 1) / page

/-- The pointer is at the beginning of a page; all pages of the host's are pinned, or the
    controller is the first one of the kernel's. -/
def Right (type : MappingType) (ctrlList : List Nat) (ctrl : Ctrl) (ptr size : Nat) (env : Env) :
    Prop :=
  ptr % type.page ctrl = 0 ∧ match type with
    | .host => pagesOf size ctrl.pageSize ≤ env.got
    | .cuda => ctrlList.headD 0 = ctrl.id

/-! ### Sizes -/

section Sizes

variable {size page : Nat}

theorem Ctrl.pageSize_pos (ctrl : Ctrl) : 0 < ctrl.pageSize := Nat.two_pow_pos _

theorem pageOf_eq (page a : Nat) : pageOf page a = page * (a / page) := by
  have h := Nat.div_add_mod a page
  rw [pageOf]
  omega

/-- A size that does not become zero is rounded up to whole pages. -/
theorem pageAlign_spec (hsize : size < 2 ^ 64) (h : pageAlign size page / page ≠ 0) :
    pageAlign size page = page * pagesOf size page ∧ pageAlign size page < 2 ^ 64 ∧
      size ≤ pageAlign size page ∧ 0 < page := by
  have hpage : 0 < page := by
    by_contra hzero
    rw [Nat.eq_zero_of_not_pos hzero, Nat.div_zero] at h
    exact h rfl
  -- If the sum wraps around, less than a page is left.
  have hfit : size + page - 1 < 2 ^ 64 := by
    by_contra hwrap
    have hsmall : (size + page - 1) % 2 ^ 64 < page := by
      omega
    rw [pageAlign, pageOf_eq, Nat.div_eq_of_lt hsmall, Nat.mul_zero, Nat.zero_div] at h
    exact h rfl
  have heq : pageAlign size page = page * pagesOf size page := by
    rw [pageAlign, Nat.mod_eq_of_lt hfit, pageOf_eq, pagesOf]
  have hdiv := Nat.div_add_mod (size + page - 1) page
  have hmod := Nat.mod_lt (size + page - 1) hpage
  rw [heq, pagesOf]
  omega

/-- Whole pages stay as they are. -/
theorem pagesOf_mul (hpage : 0 < page) (n : Nat) : pagesOf (page * n) page = n := by
  rw [pagesOf, Nat.add_sub_assoc hpage, Nat.mul_add_div hpage, Nat.div_eq_of_lt (by omega),
    Nat.add_zero]

end Sizes

/-! ### What is in a handle -/

variable {k : Kernel} {ctrl : Ctrl} {type : MappingType} {page ptr size n : Nat} {env : Env}
  {handle : Handle}

/-- The address that the library gets for the `i`-th page that it asks for. -/
def pinnedAddr (k : Kernel) (ctrl : Ctrl) (env : Env) (first : Nat) (i : Nat) : MappingType → Nat
  | .host => if i < env.got then k.bus ctrl.id (first + i) else 0
  | .cuda => k.bus (k.ctrlList.headD 0) (first + i)

theorem getD_pageAddrs (bus : Nat → Nat) (first m pad i : Nat) :
    (pageAddrs bus first m ++ List.replicate pad 0).getD i 0 =
      if i < m then bus (first + i) else 0 := by
  have hlen : (pageAddrs bus first m).length = m := by simp [pageAddrs]
  by_cases hi : i < m
  · rw [List.getD_append _ _ _ _ (by rw [hlen]; exact hi)]
    simp [pageAddrs, hi]
  · rw [if_neg hi, List.getD_append_right _ _ _ _ (by rw [hlen]; omega)]
    simp

/-- The host's pages have the addresses of those that were pinned, and zeros behind them. -/
theorem mapUserspace_addrs {bus : Nat → Nat} (h : mapUserspace bus page ptr n env = .ok addrs)
    (i pad : Nat) :
    (addrs ++ List.replicate pad 0).getD i 0 =
      if (i : Int) < env.got then bus (ptr / page + i) else 0 := by
  unfold mapUserspace at h
  iterate 3
    split at h
    · cases h
  split at h
  next hzero =>
    -- No page was pinned.
    cases h
    have hnone : ¬ (i : Int) < env.got := by omega
    rw [if_neg hnone]
    simp [List.getD_eq_getElem?_getD]
  next =>
    split_ifs at h
    cases h
    have hiff : i < env.got.toNat ↔ (i : Int) < env.got := by omega
    rw [getD_pageAddrs, if_congr hiff rfl rfl]

/-- A GPU's pages have the addresses of the first controller. -/
theorem mapDeviceMemory_addrs (hmem : ctrl.id ∈ k.ctrlList)
    (h : mapDeviceMemory k ptr n env = some (.ok addrs)) {i : Nat} (hi : i < n) (pad : Nat) :
    (addrs ++ List.replicate pad 0).getD i 0 =
      k.bus (k.ctrlList.headD 0) (ptr / gpuPageSize + i) := by
  unfold mapDeviceMemory at h
  iterate 3
    split at h
    · cases h
  split at h
  · cases h
  split_ifs at h
  split at h
  next hempty =>
    rw [hempty] at hmem
    cases hmem
  next first rest hlist =>
    cases h
    rw [getD_pageAddrs, if_pos hi, hlist]
    rfl

/-- What `ioctl_map` gives. -/
theorem ioctlMap_addrs (h : ioctlMap k ctrl type ⟨ptr, page, n⟩ env = some (.ok addrs)) {i : Nat}
    (hi : i < n) : addrs.getD i 0 = pinnedAddr k ctrl env (ptr / type.page ctrl) i type := by
  unfold ioctlMap at h
  split at h
  · cases h
  next hmem =>
    rcases Option.map_eq_some_iff.mp h with ⟨pinned, hpinned, hok⟩
    cases pinned with
    | error => cases hok
    | ok =>
      simp only at hok
      split_ifs at hok
      rw [Except.ok.injEq] at hok
      rw [← hok]
      cases type with
      | host => exact mapUserspace_addrs (Option.some.inj hpinned) i _
      | cuda => exact mapDeviceMemory_addrs (not_not.mp hmem) hpinned hi _

/-- A handle is made of what `ioctl_map` gives. -/
theorem nvmDmaInit_ok {va : VaRange} (h : nvmDmaInit k ctrl type va env = some (.ok handle)) :
    ∃ addrs, ioctlMap k ctrl type va env = some (.ok addrs) ∧
      handle = populateHandle ctrl.pageSize va addrs ∧
      va.pageSize * va.nPages % 2 ^ 64 % ctrl.pageSize = 0 := by
  rw [nvmDmaInit] at h
  iterate 4
    split at h
    · cases h
  rename_i hcontainer
  split at h
  · cases h
  rcases Option.map_eq_some_iff.mp h with ⟨mapped, hmapped, hok⟩
  cases mapped with
  | error => cases hok
  | ok addrs =>
    refine ⟨addrs, hmapped, ?_, ?_⟩
    · simpa [Except.map] using hok.symm
    · rw [createContainer] at hcontainer
      split_ifs at hcontainer with hchecks
      by_contra hne
      exact hchecks (.inr (.inr hne))

/-- What is in a handle: an address for each page of the controller, inside one of the pages
    that were asked for. -/
theorem dmaMap_handle (hsize : size < 2 ^ 64)
    (h : dmaMap k ctrl type page ptr size env = some (.ok handle)) :
    0 < page ∧ size ≤ page * pagesOf size page ∧ 0 < pagesOf size page ∧
      handle.vaddr = ptr ∧ handle.pageSize = ctrl.pageSize ∧
      handle.ioaddrs.length * ctrl.pageSize = page * pagesOf size page ∧
      ∀ i, i < handle.ioaddrs.length → i * ctrl.pageSize / page < pagesOf size page ∧
        handle.ioaddrs[i]? = some (pinnedAddr k ctrl env (ptr / type.page ctrl)
          (i * ctrl.pageSize / page) type + i * ctrl.pageSize % page) := by
  rw [dmaMap, createMappingDescriptor] at h
  split at h
  · cases h
  rename_i va hva
  split at hva
  · cases hva
  rename_i hpages
  split_ifs at hva
  obtain ⟨halign, hfit, hle, hpage⟩ := pageAlign_spec hsize hpages
  have hn : pageAlign size page / page = pagesOf size page := by
    rw [halign, Nat.mul_div_cancel_left _ hpage]
  rw [hn] at hpages
  rw [hn, Except.ok.injEq] at hva
  rw [halign] at hfit hle
  subst hva
  obtain ⟨_, haddrs, hhandle, hdvd⟩ := nvmDmaInit_ok h
  have hpos := ctrl.pageSize_pos
  rw [Nat.mod_eq_of_lt hfit] at hdvd
  have hcount : nCtrlPages ctrl.pageSize page (pagesOf size page) * ctrl.pageSize =
      page * pagesOf size page := by
    rw [nCtrlPages, Nat.mod_eq_of_lt hfit, Nat.div_mul_cancel (Nat.dvd_of_mod_eq_zero hdvd)]
  have hlength : handle.ioaddrs.length = nCtrlPages ctrl.pageSize page (pagesOf size page) := by
    rw [hhandle, populateHandle, List.length_map, List.length_range]
  refine ⟨hpage, hle, Nat.pos_of_ne_zero hpages, by rw [hhandle, populateHandle],
    by rw [hhandle, populateHandle], by rw [hlength, hcount], fun i hi => ?_⟩
  rw [hlength] at hi
  have hin : i * ctrl.pageSize / page < pagesOf size page := by
    rw [Nat.div_lt_iff_lt_mul hpage, Nat.mul_comm (pagesOf size page), ← hcount]
    exact Nat.mul_lt_mul_of_pos_right hi hpos
  refine ⟨hin, ?_⟩
  rw [hhandle, populateHandle, List.getElem?_map, List.getElem?_range hi, Option.map_some, ioaddr,
    ioctlMap_addrs haddrs hin]

/-! ### What is accepted -/

/-- Whether something failed, and how. -/
def outcome {α : Type} (r : Option (Except Int α)) : Option (Except Int Unit) :=
  r.map (·.map fun _ => ())

theorem outcome_ok {α β : Type} {r : Option (Except Int α)} {r' : Option (Except Int β)}
    (h : outcome r = outcome r') {a : α} (hr : r = some (.ok a)) : ∃ b, r' = some (.ok b) := by
  rw [hr] at h
  cases r' with
  | none => cases h
  | some x =>
    cases x with
    | error => cases h
    | ok b => exact ⟨b, rfl⟩

theorem outcome_map {α β : Type} {f : Except Int α → Except Int β}
    (hf : ∀ x y, outcome (some x) = outcome (some y) → outcome (some (f x)) = outcome (some (f y)))
    {r r' : Option (Except Int α)} (h : outcome r = outcome r') :
    outcome (r.map f) = outcome (r'.map f) := by
  cases r with
  | none =>
    cases r' with
    | none => rfl
    | some => cases h
  | some x =>
    cases r' with
    | none => cases h
    | some y => exact hf x y h

variable (ctrlList : List Nat) (bus bus' : Nat → Nat → Nat)

/-- The rest of the ioctl only looks at whether pinning failed. -/
theorem ioctlMap_same (ctrl : Ctrl) (type : MappingType) (va : VaRange) (env : Env) :
    outcome (ioctlMap ⟨ctrlList, bus⟩ ctrl type va env) =
      outcome (ioctlMap ⟨ctrlList, bus'⟩ ctrl type va env) := by
  unfold ioctlMap
  by_cases hmem : ctrl.id ∈ ctrlList
  · rw [if_neg (not_not.mpr hmem), if_neg (not_not.mpr hmem)]
    refine outcome_map (fun x y hxy => ?_) ?_
    · cases x with
      | error =>
        cases y with
        | error => exact hxy
        | ok => cases hxy
      | ok =>
        cases y with
        | error => cases hxy
        | ok =>
          split_ifs
          · rfl
          · rfl
    · cases type with
      | host =>
        simp only [mapUserspace]
        split_ifs <;> rfl
      | cuda =>
        simp only [mapDeviceMemory]
        cases ctrlList with
        | nil => rfl
        | cons first =>
          simp only
          split_ifs <;> first | rfl | (split <;> rfl)
  · rw [if_pos hmem, if_pos hmem]

theorem dmaMap_same (ctrl : Ctrl) (type : MappingType) (page buffer size : Nat) (env : Env) :
    outcome (dmaMap ⟨ctrlList, bus⟩ ctrl type page buffer size env) =
      outcome (dmaMap ⟨ctrlList, bus'⟩ ctrl type page buffer size env) := by
  have hmap : ∀ (r : Option (Except Int (List Nat))) (f : List Nat → Handle),
      outcome (r.map (·.map f)) = outcome r := by
    intro r f
    rcases r with _ | e | _ <;> rfl
  unfold dmaMap
  cases createMappingDescriptor page buffer size env with
  | error => rfl
  | ok va =>
    simp only [nvmDmaInit]
    cases createContainer ctrl.pageSize va env with
    | error => rfl
    | ok =>
      simp only
      iterate 4
        split
        · rfl
      · rw [hmap, hmap]
        exact ioctlMap_same ctrlList bus bus' ctrl type va env

/-- What a call comes down to. -/
theorem perform_ok (hsize : size < 2 ^ 64)
    (h : call.perform k ctrl ptr size env = some (.ok handle)) :
    ∃ size', size' < 2 ^ 64 ∧ size ≤ size' ∧
      pagesOf size' (call.type.page ctrl) = pagesOf size (call.type.page ctrl) ∧
      dmaMap k ctrl call.type (call.type.page ctrl) ptr size' env = some (.ok handle) := by
  cases call with
  | dataHost =>
    have hcall : nvmDmaMapDataHost k ctrl ptr size env = some (.ok handle) := h
    rw [nvmDmaMapDataHost] at hcall
    split at hcall
    · cases hcall
    rename_i hzero
    split at hcall
    · cases hcall
    -- The size has been rounded up before.
    have hne : pageAlign size ctrl.pageSize / ctrl.pageSize ≠ 0 := by
      intro hdiv
      rw [pageAlign, pageOf_eq, Nat.mul_div_cancel_left _ ctrl.pageSize_pos] at hdiv
      exact hzero (by rw [pageAlign, pageOf_eq, hdiv, Nat.mul_zero])
    obtain ⟨halign, hfit, hle, hpage⟩ := pageAlign_spec hsize hne
    refine ⟨_, hfit, hle, ?_, hcall⟩
    show pagesOf (pageAlign size ctrl.pageSize) ctrl.pageSize = pagesOf size ctrl.pageSize
    rw [halign, pagesOf_mul hpage]
  | dataDevice | device =>
    -- The two calls do the same here.
    have hcall : nvmDmaMapDevice k ctrl ptr size env = some (.ok handle) := h
    rw [nvmDmaMapDevice] at hcall
    split at hcall
    · cases hcall
    exact ⟨size, hsize, Nat.le_refl _, rfl, hcall⟩

theorem perform_same (call : Call) (ctrl : Ctrl) (ptr size : Nat) (env : Env) :
    outcome (call.perform ⟨ctrlList, bus⟩ ctrl ptr size env) =
      outcome (call.perform ⟨ctrlList, bus'⟩ ctrl ptr size env) := by
  have hsame := fun type page size =>
    dmaMap_same ctrlList bus bus' ctrl type page ptr size env
  cases call with
  | dataHost =>
    simp only [Call.perform, nvmDmaMapDataHost]
    split
    · rfl
    split
    · rfl
    · exact hsame _ _ _
  | dataDevice =>
    simp only [Call.perform, nvmDmaMapDataDevice]
    split
    · rfl
    · exact hsame _ _ _
  | device =>
    simp only [Call.perform, nvmDmaMapDevice]
    split
    · rfl
    · exact hsame _ _ _

/-! ### The pages of a handle -/

variable {ctrlList bus}

section

variable (hsize : size < 2 ^ 64)
  (h : call.perform k ctrl ptr size env = some (.ok handle))

include hsize h

/-- The handle that a call gives, in terms of the buffer. -/
theorem perform_handle : let page := call.type.page ctrl
    0 < page ∧ 0 < pagesOf size page ∧ size ≤ handle.ioaddrs.length * ctrl.pageSize ∧
      handle.vaddr = ptr ∧ handle.pageSize = ctrl.pageSize ∧
      handle.ioaddrs.length * ctrl.pageSize = page * pagesOf size page ∧
      ∀ i, i < handle.ioaddrs.length → i * ctrl.pageSize / page < pagesOf size page ∧
        handle.ioaddrs[i]? = some (pinnedAddr k ctrl env (ptr / page)
          (i * ctrl.pageSize / page) call.type + i * ctrl.pageSize % page) := by
  obtain ⟨_, hsize', hle, hpages, hmap⟩ := perform_ok hsize h
  obtain ⟨hpage, hcover, hpos, hvaddr, hps, hlen, haddrs⟩ := dmaMap_handle hsize' hmap
  rw [hpages] at hpos hlen haddrs hcover
  exact ⟨hpage, hpos, by rw [hlen]; exact Nat.le_trans hle hcover, hvaddr, hps, hlen, haddrs⟩

/-- If everything is right, the pages are those of the buffer. -/
theorem matches_of_right (hright : Right call.type k.ctrlList ctrl ptr size env) :
    Matches (byteAddr (k.bus ctrl.id) (call.type.page ctrl)) handle ptr size := by
  obtain ⟨hpage, hpages, hcover, hvaddr, hps, hlen, haddrs⟩ := perform_handle hsize h
  have hpos := ctrl.pageSize_pos
  refine ⟨fun i a ha => ?_, fun b hb => ?_⟩
  · have hi : i < handle.ioaddrs.length := (List.getElem?_eq_some_iff.mp ha).1
    obtain ⟨hin, haddr⟩ := haddrs i hi
    -- Every page that is asked for has its address.
    have hpinned : pinnedAddr k ctrl env (ptr / call.type.page ctrl)
        (i * ctrl.pageSize / call.type.page ctrl) call.type =
        k.bus ctrl.id (ptr / call.type.page ctrl + i * ctrl.pageSize / call.type.page ctrl) := by
      generalize call.type = type at *
      cases type with
      | host =>
        have hgot : (pagesOf size ctrl.pageSize : Int) ≤ env.got := hright.2
        have hlt : ((i * ctrl.pageSize / ctrl.pageSize : Nat) : Int) < env.got :=
          Int.lt_of_lt_of_le (Int.ofNat_lt.mpr hin) hgot
        exact if_pos hlt
      | cuda =>
        have hfirst : k.ctrlList.headD 0 = ctrl.id := hright.2
        rw [pinnedAddr, hfirst]
    -- The pointer is at the beginning of a page.
    have hsplit : ptr + i * ctrl.pageSize =
        call.type.page ctrl * (ptr / call.type.page ctrl) + i * ctrl.pageSize := by
      rw [Nat.mul_div_cancel' (Nat.dvd_of_mod_eq_zero hright.1)]
    have heq : a = pinnedAddr k ctrl env (ptr / call.type.page ctrl)
        (i * ctrl.pageSize / call.type.page ctrl) call.type +
        i * ctrl.pageSize % call.type.page ctrl := Option.some.inj (ha.symm.trans haddr)
    rw [heq, hpinned, hvaddr, hps, byteAddr, hsplit, Nat.mul_add_div hpage, Nat.mul_add_mod]
  · refine ⟨b / ctrl.pageSize, ?_, ?_, ?_⟩
    · rw [Nat.div_lt_iff_lt_mul hpos]
      omega
    · have hle := Nat.div_mul_le_self b ctrl.pageSize
      rw [hps]
      omega
    · have hlt := Nat.lt_div_mul_add hpos (a := b)
      rw [hps, Nat.add_mul]
      omega

/-- The first address of a handle. -/
theorem first_addr :
    handle.ioaddrs[0]? = some (pinnedAddr k ctrl env (ptr / call.type.page ctrl) 0 call.type) := by
  obtain ⟨hpage, hpages, -, -, -, hlen, haddrs⟩ := perform_handle hsize h
  have hne : 0 < handle.ioaddrs.length := by
    by_contra hzero
    rw [Nat.eq_zero_of_not_pos hzero, Nat.zero_mul] at hlen
    exact Nat.ne_of_lt (Nat.mul_pos hpage hpages) hlen
  have hzero := (haddrs 0 hne).2
  rwa [Nat.zero_mul, Nat.zero_div] at hzero

end

section Matching

variable {call : Call} (hsize : size < 2 ^ 64)
  (hmatches : ∀ bus h, call.perform ⟨ctrlList, bus⟩ ctrl ptr size env = some (.ok h) →
    Matches (byteAddr (bus ctrl.id) (call.type.page ctrl)) h ptr size)

variable {h : Handle}

include hsize hmatches

/-- The first page of a handle that is right has the address of the first byte. -/
theorem first_pinned (hh : call.perform ⟨ctrlList, bus⟩ ctrl ptr size env = some (.ok h)) :
    pinnedAddr ⟨ctrlList, bus⟩ ctrl env (ptr / call.type.page ctrl) 0 call.type =
      byteAddr (bus ctrl.id) (call.type.page ctrl) ptr := by
  have hpage := (hmatches bus h hh).pages 0 _ (first_addr hsize hh)
  have hvaddr := (perform_handle hsize hh).2.2.2.1
  rwa [Nat.zero_mul, hvaddr] at hpage

/-- With every page at zero, the first byte is at its offset, so that is zero. -/
theorem offset_of_matches
    (hh : call.perform ⟨ctrlList, fun _ _ => 0⟩ ctrl ptr size env = some (.ok h)) :
    ptr % call.type.page ctrl = 0 := by
  have hzero := first_pinned hsize hmatches hh
  rw [byteAddr, Nat.zero_add] at hzero
  rw [← hzero]
  generalize call.type = type
  cases type with
  | host =>
    rw [pinnedAddr]
    split
    · rfl
    · rfl
  | cuda => rfl

/-- With no page at zero, the last one of the host's has been pinned. -/
theorem pinned_of_matches (hcall : call.type = .host)
    (hh : call.perform ⟨ctrlList, fun _ _ => 1⟩ ctrl ptr size env = some (.ok h)) :
    (pagesOf size ctrl.pageSize : Int) ≤ env.got := by
  obtain ⟨-, hpages, -, -, -, hlen, haddrs⟩ := perform_handle hsize hh
  have hbytes := (hmatches _ h hh).pages
  rw [hcall] at hpages hlen haddrs hbytes
  have hpos := ctrl.pageSize_pos
  have hsome : 0 < pagesOf size ctrl.pageSize := hpages
  by_contra hfew
  have hcount : h.ioaddrs.length = pagesOf size ctrl.pageSize := by
    refine Nat.eq_of_mul_eq_mul_right hpos ?_
    rw [hlen, Nat.mul_comm]
    rfl
  have hbyte := hbytes _ _ (haddrs (pagesOf size ctrl.pageSize - 1) (by omega)).2
  have hwhole : (pagesOf size ctrl.pageSize - 1) * ctrl.pageSize /
      MappingType.page ctrl .host = pagesOf size ctrl.pageSize - 1 :=
    Nat.mul_div_cancel _ hpos
  have hmod : (pagesOf size ctrl.pageSize - 1) * ctrl.pageSize %
      MappingType.page ctrl .host = 0 := Nat.mul_mod_left _ _
  have hnot : ¬ ((pagesOf size ctrl.pageSize - 1 : Nat) : Int) < env.got := by omega
  have hnone : pinnedAddr ⟨ctrlList, fun _ _ => 1⟩ ctrl env (ptr / MappingType.page ctrl .host)
      (pagesOf size ctrl.pageSize - 1) .host = 0 := if_neg hnot
  rw [hwhole, byteAddr] at hbyte
  omega

/-- With the pages of the first controller elsewhere, it is the one that asks. -/
theorem first_of_matches (hcall : call.type = .cuda)
    (hh : call.perform ⟨ctrlList, fun c _ => if c = ctrlList.headD 0 then 0 else 1⟩ ctrl ptr size
      env = some (.ok h)) : ctrlList.headD 0 = ctrl.id := by
  by_contra hne
  have hzero := first_pinned hsize hmatches hh
  rw [hcall, byteAddr, if_neg (Ne.symm hne)] at hzero
  have hpinned : pinnedAddr ⟨ctrlList, fun c _ => if c = ctrlList.headD 0 then 0 else 1⟩ ctrl
      env (ptr / MappingType.page ctrl .cuda) 0 .cuda = 0 := if_pos rfl
  omega

/-- A handle that is right whatever the bus addresses are was made with everything right. -/
theorem right_of_matches {bus₀ : Nat → Nat → Nat}
    (haccept : call.perform ⟨ctrlList, bus₀⟩ ctrl ptr size env = some (.ok handle)) :
    Right call.type ctrlList ctrl ptr size env := by
  have hall : ∀ bus, ∃ h, call.perform ⟨ctrlList, bus⟩ ctrl ptr size env = some (.ok h) :=
    fun bus => outcome_ok (perform_same ctrlList bus₀ bus call ctrl ptr size env) haccept
  refine ⟨?_, ?_⟩
  · obtain ⟨h, hh⟩ := hall fun _ _ => 0
    exact offset_of_matches hsize hmatches hh
  · cases hcall : call.type with
    | host =>
      obtain ⟨h, hh⟩ := hall fun _ _ => 1
      exact pinned_of_matches hsize hmatches hcall hh
    | cuda =>
      obtain ⟨h, hh⟩ := hall fun c _ => if c = ctrlList.headD 0 then 0 else 1
      exact first_of_matches hsize hmatches hcall hh

end Matching

/-- The pages of a mapping that is accepted are those of the buffer, wherever they are on
    the bus, exactly if the pointer is at the beginning of a page of the kernel's, all pages
    of the host's were pinned, and the controller that asks for memory of a GPU is the first
    of the kernel's list. -/
theorem dma_pages_iff (call : Call) (ctrlList : List Nat) (ctrl : Ctrl) (ptr size : Nat) (env : Env)
    (hsize : size < 2 ^ 64)
    (haccept : ∃ bus h, call.perform ⟨ctrlList, bus⟩ ctrl ptr size env = some (.ok h)) :
    (∀ bus h, call.perform ⟨ctrlList, bus⟩ ctrl ptr size env = some (.ok h) →
      Matches (byteAddr (bus ctrl.id) (call.type.page ctrl)) h ptr size) ↔
      Right call.type ctrlList ctrl ptr size env := by
  obtain ⟨bus₀, h₀, haccept⟩ := haccept
  exact ⟨fun hmatches => right_of_matches hsize hmatches haccept,
    fun hright bus h hh => matches_of_right hsize hh hright⟩

/-- A mapping in which nothing fails and some pages are pinned. -/
def smooth (got : Int) : Env where
  descriptor := true
  ctrlGet := true
  mapAlloc := true
  mutexInit := 0
  container := true
  addrList := true
  kernelAlloc := true
  got := got
  dmaMapPage := 0
  getPages := 0
  dmaMapPages := fun _ => 0
  finish := 0

/-- Each controller sees memory at another place. -/
def apart (c p : Nat) : Nat := c * 1000000 + p * 4096

/-- Two whole pages of the host's. -/
theorem dma_pages_iff_whole :
    Call.dataHost.perform ⟨[1, 2], apart⟩ ⟨2, 12, true⟩ 8192 5000 (smooth 2) =
        some (.ok ⟨8192, 4096, true, [2008192, 2012288]⟩) ∧
      Matches (byteAddr (apart 2) 4096)
        ⟨8192, 4096, true, [2008192, 2012288]⟩ 8192 5000 := by
  have hok : Call.dataHost.perform ⟨[1, 2], apart⟩ ⟨2, 12, true⟩ 8192 5000 (smooth 2) =
      some (.ok ⟨8192, 4096, true, [2008192, 2012288]⟩) := by decide
  have hright : Right .host [1, 2] ⟨2, 12, true⟩ 8192 5000 (smooth 2) := by
    refine ⟨by decide, ?_⟩
    decide
  have hiff := dma_pages_iff .dataHost [1, 2] ⟨2, 12, true⟩ 8192 5000 (smooth 2) (by decide)
    ⟨apart, _, hok⟩
  exact ⟨hok, hiff.mpr hright apart _ hok⟩

/-- A pointer 16 bytes into a page of the host's gets the address of the page. And for the
    second controller, memory of a GPU is mapped at the addresses of the first. -/
theorem pages_of_others : Call.dataHost.perform ⟨[1, 2], apart⟩ ⟨2, 12, true⟩ 8208 4096 (smooth 1) =
        some (.ok ⟨8208, 4096, true, [2008192]⟩) ∧
      byteAddr (apart 2) 4096 8208 = 2008208 ∧
      ¬ Matches (byteAddr (apart 2) 4096) ⟨8208, 4096, true, [2008192]⟩ 8208 4096 ∧
    ∃ h, Call.dataDevice.perform ⟨[1, 2], apart⟩ ⟨2, 16, true⟩ 131072 65536 (smooth 0) =
        some (.ok h) ∧ h.ioaddrs = [1008192] ∧
      byteAddr (apart 2) gpuPageSize 131072 = 2008192 ∧
      ¬ Matches (byteAddr (apart 2) gpuPageSize) h 131072 65536 := by
  refine ⟨rfl, rfl, fun h => ?_, _, rfl, rfl, rfl, fun h => ?_⟩
  · cases h.pages 0 _ rfl
  · cases h.pages 0 _ rfl

/-! ### The last handle -/

open Runs (Along)

def Shared.step (s : Shared) (u : Use) : Shared := (s.perform u).1

/-- There is a handle to call on, and there will be fewer than can be counted. -/
def Shared.Legal (s : Shared) (u : Use) : Prop := 0 < s.handles ∧ (s.step u).handles < 2 ^ 32

/-- Dropping the last handle undoes the map ioctl before anything is freed, and no other
    call does anything. -/
def Creation.Proper (c : Creation) (s : Shared) (u : Use) : Prop :=
  if u = .unmap ∧ s.handles = 1 then
    ∃ m, c.descriptor = some m ∧ (s.perform u).2 = .unmap m.mapList m.buffer :: m.release
  else (s.perform u).2 = []

/-- When the callback of a mapping fits it. -/
def Creation.Matched (onHost : Bool) : Creation → Prop
  | .create _ | .map => False
  | .mapHost _ isCq ioqIdx => 0 ≤ isCq ∧ 0 ≤ ioqIdx → onHost = true
  | .mapQueueDevice _ isCq _ => 0 ≤ isCq.toInt ∧ onHost = false
  | .mapDevice _ | .mapDataHost _ | .mapDataDevice _ => True

theorem matched_iff (onHost : Bool) (c : Creation) : c.Matched onHost ↔
    ∃ m, c.descriptor = some m ∧ (c.shared onHost).unmap ++ (c.shared onHost).release =
      .unmap m.mapList m.buffer :: m.release := by
  cases c
  all_goals
    simp only [Creation.Matched, Creation.shared, Creation.descriptor, IoctlMapping.unmap,
      Option.elim, Option.some.injEq, exists_eq_left']
    try split_ifs
  all_goals
    simp_all [IoctlMapping.ioctlUnmap, IoctlMapping.ioctlQueueUnmap, IoctlMapping.mapList,
      IoctlMapping.release]
    try omega

/-- The mapping with `n` handles, which are counted. -/
abbrev Shared.counted (s : Shared) (n : Nat) : Shared := { s with count := n, handles := n }

/-- Only dropping the last handle has an effect. -/
theorem perform_counted {s : Shared} {n : Nat} {u : Use} (hn : n < 2 ^ 32)
    (hu : (s.counted n).Legal u) :
    (∃ m < 2 ^ 32, (s.counted n).step u = s.counted m) ∧ ((s.counted n).perform u).2 =
      if u = .unmap ∧ n = 1 then s.unmap ++ s.release else [] := by
  obtain ⟨hpos : 0 < n, hnext⟩ := hu
  cases u with
  | unmap =>
    have hput : (n + (2 ^ 32 - 1)) % 2 ^ 32 = n - 1 := by omega
    have hlast : n - 1 = 0 ↔ n = 1 := by omega
    simp only [Shared.step, Shared.perform, Shared.put, Shared.counted, hput, hlast, true_and]
    exact ⟨⟨n - 1, by omega, rfl⟩, trivial⟩
  | remap lock container =>
    cases lock with
    | false => exact ⟨⟨n, hn, rfl⟩, rfl⟩
    | true =>
      cases container with
      | false =>
        -- The reference is taken and dropped again.
        have hput : ((n + 1) % 2 ^ 32 + (2 ^ 32 - 1)) % 2 ^ 32 = n := by omega
        have hne : n ≠ 0 := by omega
        simp only [Shared.step, Shared.perform, Shared.put, Shared.counted, hput, hne]
        exact ⟨⟨n, hn, rfl⟩, rfl⟩
      | true =>
        have hlt : n + 1 < 2 ^ 32 := hnext
        have hget : (n + 1) % 2 ^ 32 = n + 1 := Nat.mod_eq_of_lt hlt
        simp only [Shared.step, Shared.perform, Shared.counted, hget]
        exact ⟨⟨n + 1, hlt, rfl⟩, rfl⟩

theorem proper_iff {onHost : Bool} {c : Creation} {n : Nat} {u : Use} (hn : n < 2 ^ 32)
    (hu : ((c.shared onHost).counted n).Legal u) :
    c.Proper ((c.shared onHost).counted n) u ↔ (u = .unmap ∧ n = 1 → c.Matched onHost) := by
  rw [Creation.Proper, (perform_counted hn hu).2, matched_iff]
  by_cases hlast : u = .unmap ∧ n = 1
  · simp [hlast]
  · simp only [hlast, if_false, false_imp_iff]

/-- The last handle undoes the mapping, and no other one does anything, if and only if the
    callback fits the mapping. -/
theorem unmap_matches_iff (onHost : Bool) (c : Creation) :
    (∀ us, Along Shared.step Shared.Legal (c.shared onHost) us →
      Along Shared.step c.Proper (c.shared onHost) us) ↔ c.Matched onHost := by
  have hone : 1 < 2 ^ 32 := by decide
  constructor
  · intro h
    have honly : ((c.shared onHost).counted 1).Legal .unmap := ⟨Nat.one_pos, Nat.two_pow_pos 32⟩
    exact (proper_iff hone honly).mp (h [.unmap] ⟨honly, trivial⟩).1 ⟨rfl, rfl⟩
  · intro hm us hlegal
    refine Runs.along_of_invariant (I := fun s => ∃ n < 2 ^ 32, s = (c.shared onHost).counted n)
      ?_ ?_ ⟨1, hone, rfl⟩ hlegal
    · rintro _ u ⟨n, hn, rfl⟩ hu
      exact (perform_counted hn hu).1
    · rintro _ u ⟨n, hn, rfl⟩ hu
      exact (proper_iff hn hu).mpr fun _ => hm

/-- A buffer of `nvm_dma_create` is freed while it is mapped as host memory. -/
theorem created_freed_mapped :
    (Creation.create 4096).descriptor.map IoctlMapping.mapList = some .host ∧
    (((Creation.create 4096).shared false).perform .unmap).2 = [.free 4096] ∧
    ¬ (Creation.create 4096).Proper ((Creation.create 4096).shared false) .unmap := by
  have hfree : (((Creation.create 4096).shared false).perform .unmap).2 = [.free 4096] := by
    decide +kernel
  refine ⟨rfl, hfree, ?_⟩
  rw [Creation.Proper, if_pos ⟨rfl, rfl⟩, hfree]
  rintro ⟨m, -, hevents⟩
  cases hevents

end Geminifs.Dma
