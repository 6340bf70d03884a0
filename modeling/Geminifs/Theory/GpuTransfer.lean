import Geminifs.Core.GpuTransfer
import Mathlib.Data.List.Forall2

/-!
# What Registration Leaves for a Transfer

A tensor that was registered is cut into groups, and each group into slices, without
gaps, and the memory pages are dealt out to the slices in order. As long as every
slice is made of whole pages, an entry therefore has exactly the bytes of its slice.
It always is: the largest I/O, the granularity and the size are multiples of a page.

`Sliced` is all that the theory of transfers needs to know of a group, and
`GpuTransfer.sliced` says that every transfer has it.

## Main definitions

* `Registered`: The outcome of either way to register.
* `GpuTransfer`: A tensor to be transferred, with the registration that it is part of.
* `GpuTransfer.granule`: The size of the group at its address.
* `Sliced`: The lengths and the memory of a group's entries.

## Theorems

* `checkFileAccessSafety_iff`: The check of a thread.
* `minMaxIoSize_fit`: The bounds on the largest I/O.
* `prpEntry_address`: The memory of an entry.
* `createDMAContext_eq`: The check of the granularity.
* `initSlices_some`, `initGroups_some`: The loops over slices and groups.
* `GpuTransfer.sliced`: The entries of a transfer.
-/

namespace Geminifs.Gemini

open Striping

variable {ctrls : List NVMeController} {s : SubSliceInfo}

/-! ### The check -/

variable {offset page : Nat}

theorem checkFileAccessSafety_iff {fileMaxSize tensorSize len : Nat} :
    checkFileAccessSafety fileMaxSize tensorSize offset len = true ↔
      fileMaxSize ≠ 0 ∧ len ≤ tensorSize ∧ offset + len ≤ fileMaxSize ∧ offset < fileMaxSize ∧
        len ≠ 0 ∧ offset % 4096 = 0 ∧ len % 4096 = 0 := by
  simp only [checkFileAccessSafety, Bool.and_eq_true, decide_eq_true_eq, and_assoc]

/-! ### The largest I/O -/

/-- The running minimum is the one it started from, or within the bounds of the
    controllers. -/
theorem foldl_maxIo (ctrls : List NVMeController) : ∀ m : Nat,
    let r := ctrls.foldl (fun m c => if 0 < c.maxIOsize then min m c.maxIOsize else m) m
    r = m ∨ 0 < r ∧ r ≤ 1048576 ∧ 4096 ∣ r := by
  induction ctrls with
  | nil => exact fun m => .inl rfl
  | cons c _ ih =>
    intro m
    rw [List.foldl_cons]
    by_cases hpos : 0 < c.maxIOsize
    · -- A controller takes part in the minimum if it reports a size at all.
      rw [if_pos hpos]
      rcases Nat.le_total m c.maxIOsize with hle | hle
      · rw [Nat.min_eq_left hle]
        exact ih m
      · rw [Nat.min_eq_right hle]
        rcases ih c.maxIOsize with h | h
        · rw [h]
          exact .inr ⟨hpos, c.small, c.aligned⟩
        · exact .inr h
    · rw [if_neg hpos]
      exact ih m

/-- The bounds on the largest I/O. -/
theorem minMaxIoSize_fit {maxIo : Nat} (h : minMaxIoSize ctrls = some maxIo) :
    0 < maxIo ∧ maxIo ≤ 1048576 ∧ 4096 ∣ maxIo := by
  unfold minMaxIoSize at h
  dsimp only at h
  split_ifs at h with hne
  rw [← Option.some.inj h]
  exact (foldl_maxIo ctrls uint64Max).resolve_left hne

/-! ### Entries -/

/-- The pages of an entry are consecutive. -/
theorem prpPages_getD {size i : Nat} (hsize : size ≤ 1048576) (hi : i < slicePages size) :
    (page :: prp2Pages (prpTransferType size) page size).getD i 0 = page + i := by
  cases i with
  | zero => rfl
  | succ i =>
    rw [List.getD_cons_succ]
    unfold prpTransferType
    rw [slicePages] at hi
    split
    · omega
    split
    · -- Two pages: the second one is given directly.
      have hzero : i = 0 := by omega
      rw [prp2Pages, if_pos (by rw [slicePages]; omega), hzero]
      rfl
    · -- More than two: the list holds up to 511 of them, which a megabyte does not exceed.
      have hlt : i < min (slicePages size - 1) 511 := by
        rw [slicePages]
        omega
      rw [prp2Pages, List.getD_eq_getElem?_getD, List.getElem?_map, List.getElem?_range hlt]
      show page + 1 + i = page + (i + 1)
      omega

/-- An entry has the memory of its slice, from its first page on. -/
theorem prpEntry_address {vaddr k : Nat} (hsize : s.size ≤ 1048576) (hk : k < s.size) :
    (prpEntry page s).address vaddr k = vaddr + page * 4096 + k := by
  have hpage : k / 4096 < slicePages s.size := by
    rw [slicePages]
    omega
  rw [PRPMappingEntry.address]
  dsimp only [prpEntry]
  rw [prpPages_getD hsize hpage]
  omega

theorem prpEntry_dataLength (page : Nat) (hsize : s.size ≤ 1048576) :
    (prpEntry page s).dataLength = s.size := by
  exact Nat.mod_eq_of_lt (by omega)

theorem slicePages_of_dvd {size : Nat} (h : 4096 ∣ size) : slicePages size * 4096 = size := by
  rw [slicePages]
  omega

/-! ### The loops -/

/-- How many bytes some slices have. -/
def bytesOf (ss : List SubSliceInfo) : Nat := (ss.map SubSliceInfo.size).sum

@[simp] theorem bytesOf_cons (s : SubSliceInfo) (ss : List SubSliceInfo) :
    bytesOf (s :: ss) = s.size + bytesOf ss := by
  simp only [bytesOf, List.map_cons, List.sum_cons]

variable {env : RegisterEnv} {nIoaddrs : Nat}

/-- If slices are made of whole pages, each gets the page that has its first byte. -/
theorem initSlices_some (ss : List SubSliceInfo) : ∀ {page page' entries},
    (∀ s ∈ ss, 4096 ∣ s.size) → initSlices env nIoaddrs page ss = some (entries, page') →
      page' * 4096 = page * 4096 + bytesOf ss ∧ entries.length = ss.length ∧
      ∀ j s, ss[j]? = some s → ∃ q, q * 4096 = page * 4096 + bytesOf (ss.take j) ∧
        entries[j]? = some (prpEntry q s) := by
  induction ss with
  | nil =>
    intro page page' entries _ h
    rcases Prod.mk.inj (Option.some.inj h) with ⟨rfl, rfl⟩
    exact ⟨(Nat.add_zero _).symm, rfl, nofun⟩
  | cons s _ ih =>
    intro page _ _ hss h
    rw [initSlices] at h
    split at h
    · cases h
    split_ifs at h
    rcases Option.map_eq_some_iff.mp h with ⟨⟨_, p⟩, hrest, heq⟩
    rcases Prod.mk.inj heq with ⟨rfl, rfl⟩
    -- A slice of whole pages uses up exactly its bytes, so the next one starts right after it.
    have hs := slicePages_of_dvd (hss s List.mem_cons_self)
    rcases ih (List.forall_mem_cons.mp hss).2 hrest with ⟨hpage, hlen, hget⟩
    rw [Nat.add_mul, hs] at hpage
    refine ⟨by rw [hpage, bytesOf_cons, Nat.add_assoc], by
      rw [List.length_cons, List.length_cons, hlen], fun j t ht => ?_⟩
    cases j with
    | zero =>
      exact ⟨page, (Nat.add_zero _).symm, by rw [← Option.some.inj ht, List.getElem?_cons_zero]⟩
    | succ j =>
      rcases hget j t ht with ⟨q, hq, hentry⟩
      refine ⟨q, ?_, hentry⟩
      rw [hq, Nat.add_mul, hs, List.take_succ_cons, bytesOf_cons, Nat.add_assoc]

/-- The groups keep what slicing gave them, and their entries start at the page that
    has their first byte. -/
theorem initGroups_some (gs : List GranularitySliceGroup) : ∀ {page gs'},
    (∀ g ∈ gs, ∀ s ∈ g.subSlices, 4096 ∣ s.size) → initGroups env nIoaddrs page gs = some gs' →
      ∀ g' ∈ gs', ∃ i g entries p p', gs[i]? = some g ∧ g' = { g with prpMappings := entries } ∧
        initSlices env nIoaddrs p g.subSlices = some (entries, p') ∧
        p * 4096 = page * 4096 + ((gs.take i).map fun g => bytesOf g.subSlices).sum := by
  induction gs with
  | nil =>
    intro page gs' _ h g' hg'
    rw [← Option.some.inj h] at hg'
    cases hg'
  | cons g _ ih =>
    intro page _ hgs h g' hg'
    rw [initGroups] at h
    split at h
    · cases h
    next entries page' hslices =>
      rcases Option.map_eq_some_iff.mp h with ⟨_, hrest, rfl⟩
      rcases List.mem_cons.mp hg' with rfl | hg'
      · exact ⟨0, g, entries, page, page', rfl, rfl, hslices, (Nat.add_zero _).symm⟩
      · -- The pages of the first group are passed, and they have all its bytes.
        have hpage := (initSlices_some _ (hgs g List.mem_cons_self) hslices).1
        rcases ih (List.forall_mem_cons.mp hgs).2 hrest g' hg' with
          ⟨i, k, es, p, p', hk, heq, hsl, hp⟩
        refine ⟨i + 1, k, es, p, p', hk, heq, hsl, ?_⟩
        rw [hp, hpage, List.take_succ_cons, List.map_cons, List.sum_cons, Nat.add_assoc]

/-! ### Slicing -/

variable {maxIo size : Nat}

/-- A group is cut in the same way whether it is longer than an I/O or not. -/
theorem cutGroup_eq (offset : Nat) (hpos : 0 < size) :
    cutGroup maxIo offset size = (pieces maxIo size).map fun p => ⟨p.1, p.2, offset + p.1⟩ := by
  unfold cutGroup
  split
  next hle => rw [pieces_of_le hpos hle]; rfl
  next => rfl

theorem bytesOf_take_cutGroup (offset j : Nat) (hio : 0 < maxIo) (hpos : 0 < size) :
    bytesOf ((cutGroup maxIo offset size).take j) = min (j * maxIo) size := by
  rw [cutGroup_eq offset hpos, bytesOf, ← List.map_take, List.map_map]
  exact sum_take_pieces hio j

theorem bytesOf_cutGroup (offset : Nat) (hio : 0 < maxIo) (hpos : 0 < size) :
    bytesOf (cutGroup maxIo offset size) = size := by
  rw [cutGroup_eq offset hpos, bytesOf, List.map_map]
  exact sum_pieces hio

/-- The length of a piece is a multiple of what the whole and the size are multiples
    of. -/
theorem dvd_of_mem_pieces {d total : Nat} {p : Nat × Nat} (hsize : 0 < size) (hd : d ∣ size)
    (htotal : d ∣ total) (hp : p ∈ pieces size total) : d ∣ p.1 ∧ d ∣ p.2 := by
  rcases (mem_pieces hsize).mp hp with ⟨j, -, rfl⟩
  have hstart : d ∣ j * size := Nat.dvd_mul_left_of_dvd hd j
  refine ⟨hstart, ?_⟩
  rcases Nat.le_total (total - j * size) size with hle | hle
  · rw [Nat.min_eq_left hle]
    exact Nat.dvd_sub htotal hstart
  · rwa [Nat.min_eq_right hle]

theorem dvd_of_mem_cutGroup (hio : 0 < maxIo) (halign : 4096 ∣ maxIo) (hpos : 0 < size)
    (hsize : 4096 ∣ size) (hs : s ∈ cutGroup maxIo offset size) : 4096 ∣ s.size := by
  rw [cutGroup_eq offset hpos] at hs
  rcases List.mem_map.mp hs with ⟨p, hp, rfl⟩
  exact (dvd_of_mem_pieces hio halign hsize hp).2

/-- The size of the group at an offset of a tensor. -/
def granuleSize (tensorSize granularity offset : Nat) : Nat :=
  if granularity = 0 then tensorSize else min granularity (tensorSize - offset)

/-- The group at an offset, before it has entries. -/
def groupAt (maxIo vaddr tensorSize granularity offset : Nat) : GranularitySliceGroup :=
  ⟨vaddr + offset, offset, granuleSize tensorSize granularity offset,
    cutGroup maxIo offset (granuleSize tensorSize granularity offset), []⟩

variable {vaddr tensorSize granularity : Nat} {g : GranularitySliceGroup}

/-- Slicing makes the groups one after the other. -/
theorem performDMASlicing_get {i : Nat} (hio : 0 < maxIo)
    (hpos : 0 < tensorSize) (hpage : 4096 ∣ tensorSize) (hgran : 4096 ∣ granularity)
    (h : (performDMASlicing maxIo vaddr tensorSize granularity)[i]? = some g) :
    ∃ offset, g = groupAt maxIo vaddr tensorSize granularity offset ∧
      0 < granuleSize tensorSize granularity offset ∧
      4096 ∣ granuleSize tensorSize granularity offset ∧
      (((performDMASlicing maxIo vaddr tensorSize granularity).take i).map fun g =>
        bytesOf g.subSlices).sum = offset := by
  unfold performDMASlicing at h ⊢
  rcases Nat.eq_zero_or_pos granularity with hzero | hgpos
  · -- There is one group, with the whole tensor.
    rw [if_neg (by omega)] at h ⊢
    have hg : granuleSize tensorSize granularity 0 = tensorSize := if_pos hzero
    cases i with
    | zero =>
      exact ⟨0, by rw [groupAt, hg, ← Option.some.inj h, Nat.add_zero], by rwa [hg], by rwa [hg],
        rfl⟩
    | succ => cases h
  · rw [if_pos hgpos, List.getElem?_map] at h
    rw [if_pos hgpos]
    rcases Option.map_eq_some_iff.mp h with ⟨p, hp, rfl⟩
    have hmem : p ∈ pieces granularity tensorSize := List.mem_of_getElem? hp
    have hdvd := dvd_of_mem_pieces hgpos hgran hpage hmem
    rw [getElem?_pieces hgpos] at hp
    split at hp
    next hlt =>
      rw [← Option.some.inj hp] at hdvd ⊢
      have hg : granuleSize tensorSize granularity (i * granularity) =
          min (tensorSize - i * granularity) granularity := by
        rw [granuleSize, if_neg (by omega), Nat.min_comm]
      refine ⟨i * granularity, by rw [groupAt, hg], by rw [hg]; omega, by rw [hg]; exact hdvd.2, ?_⟩
      rw [← List.map_take, List.map_map]
      -- Every group before it has as many bytes as its piece.
      have hbytes : ∀ q ∈ (pieces granularity tensorSize).take i,
          bytesOf (cutGroup maxIo q.1 q.2) = q.2 := fun q hq => by
        rcases (mem_pieces hgpos).mp (List.mem_of_mem_take hq) with ⟨j, hj, rfl⟩
        exact bytesOf_cutGroup _ hio (by omega)
      refine (congrArg List.sum (List.map_congr_left hbytes)).trans ?_
      rw [sum_take_pieces hgpos]
      omega
    next => cases hp

/-! ### Registered tensors -/

/-- What a transfer needs to know of a group of `size` bytes at `base`, in a tensor at
    `vaddr`: how many entries it has, how long they are, and their memory. -/
structure Sliced (maxIo size base vaddr : Nat) (entries : List PRPMappingEntry) : Prop where
  index : ∀ j, j < entries.length ↔ j * maxIo < size
  length : ∀ j e, entries[j]? = some e → e.dataLength = min (size - j * maxIo) maxIo
  address : ∀ j e, entries[j]? = some e → ∀ k < e.dataLength,
    e.address vaddr k = base + j * maxIo + k

/-- The entries of a group that starts with a page. -/
theorem sliced_of_initSlices {page' : Nat} {entries : List PRPMappingEntry} (hio : 0 < maxIo)
    (hsmall : maxIo ≤ 1048576) (halign : 4096 ∣ maxIo) (hpos : 0 < size) (hsize : 4096 ∣ size)
    (hpage : page * 4096 = offset)
    (h : initSlices env nIoaddrs page (cutGroup maxIo offset size) = some (entries, page')) :
    Sliced maxIo size (vaddr + offset) vaddr entries := by
  rcases initSlices_some _ (fun s hs => dvd_of_mem_cutGroup hio halign hpos hsize hs) h with
    ⟨-, hlen, hget⟩
  have hindex : ∀ j, j < entries.length ↔ j * maxIo < size := fun j => by
    rw [hlen, cutGroup_eq offset hpos, List.length_map]
    exact lt_length_pieces hio j
  -- The slice of an entry, and its first page.
  have hslice : ∀ j e, entries[j]? = some e → ∃ q, q * 4096 = offset + j * maxIo ∧
      e = prpEntry q ⟨j * maxIo, min (size - j * maxIo) maxIo, offset + j * maxIo⟩ := by
    intro j e he
    have hlt := (hindex j).mp (List.getElem?_eq_some_iff.mp he).1
    have hs : (cutGroup maxIo offset size)[j]? =
        some ⟨j * maxIo, min (size - j * maxIo) maxIo, offset + j * maxIo⟩ := by
      rw [cutGroup_eq offset hpos, List.getElem?_map, getElem?_pieces hio, if_pos hlt]
      rfl
    rcases hget j _ hs with ⟨q, hq, hentry⟩
    rw [bytesOf_take_cutGroup offset j hio hpos, Nat.min_eq_left (Nat.le_of_lt hlt), hpage] at hq
    exact ⟨q, hq, Option.some.inj (he.symm.trans hentry)⟩
  refine ⟨hindex, fun j e he => ?_, fun j e he k hk => ?_⟩
  · rcases hslice j e he with ⟨q, -, rfl⟩
    exact prpEntry_dataLength q (Nat.le_trans (Nat.min_le_right _ _) hsmall)
  · rcases hslice j e he with ⟨q, hq, rfl⟩
    have hshort : min (size - j * maxIo) maxIo ≤ 1048576 :=
      Nat.le_trans (Nat.min_le_right _ _) hsmall
    rw [prpEntry_dataLength q hshort] at hk
    rw [prpEntry_address hshort hk, hq, ← Nat.add_assoc]

variable {groups : List GranularitySliceGroup}

/-- Every group of a tensor whose slicing succeeded. -/
theorem sliced_of_createDma {t : Tensor}
    (hmax : minMaxIoSize ctrls = some maxIo) (hpage : 4096 ∣ t.size)
    (hgran : 4096 ∣ granularity) (h : createDma ctrls t granularity env = some groups)
    (hg : g ∈ groups) :
    ∃ offset, g.gpuTensorPtr = t.dataPtr + offset ∧
      0 < granuleSize t.size granularity offset ∧ 4096 ∣ granuleSize t.size granularity offset ∧
      Sliced maxIo (granuleSize t.size granularity offset) (t.dataPtr + offset) t.dataPtr
        g.prpMappings := by
  rcases minMaxIoSize_fit hmax with ⟨hio, hsmall, halign⟩
  unfold createDma at h
  split at h
  next n m hn hm =>
    rw [Option.some.inj (hm.symm.trans hmax)] at h
    -- A tensor without bytes gets no addresses from the driver.
    have hpos : 0 < t.size := Nat.pos_of_ne_zero fun h0 => by
      rw [getDeviceDma, if_pos h0] at hn
      cases hn
    split at h
    · cases h
    next groups' hinit =>
      split_ifs at h
      rw [Option.some.inj h] at hinit
      unfold initializePRPEntries at hinit
      split_ifs at hinit
      -- The entries of a slice are whole pages, in every group.
      have hwhole : ∀ k ∈ performDMASlicing maxIo t.dataPtr t.size granularity,
          ∀ s ∈ k.subSlices, 4096 ∣ s.size := fun k hk s hs => by
        rcases List.mem_iff_getElem?.mp hk with ⟨i, hi⟩
        rcases performDMASlicing_get hio hpos hpage hgran hi with ⟨o, rfl, hp, hd, -⟩
        exact dvd_of_mem_cutGroup hio halign hp hd hs
      rcases initGroups_some _ hwhole hinit g hg with ⟨i, k, _, p, _, hk, rfl, hslices, hp⟩
      rcases performDMASlicing_get hio hpos hpage hgran hk with ⟨o, rfl, hsize, hd, hsum⟩
      rw [hsum, Nat.zero_add] at hp
      exact ⟨o, rfl, hsize, hd, sliced_of_initSlices hio hsmall halign hsize hd hp hslices⟩
  next => cases h

/-- The groups of a tensor that was registered, alone or in a list. -/
def Registered (ctrls : List NVMeController) (t : Tensor) (granularity : Nat)
    (groups : List GranularitySliceGroup) : Prop :=
  (∃ env, registerTensorMemory ctrls t granularity env = some groups) ∨
    ∃ ts all env, ∃ i : Nat, registerTensorList ctrls ts granularity env = some all ∧
      ts[i]? = some t ∧ all[i]? = some groups

theorem createDmas_some (ts : List Tensor) : ∀ {all}, createDmas ctrls granularity env ts = some all →
    List.Forall₂ (fun t groups => createDma ctrls t granularity env = some groups) ts all := by
  induction ts with
  | nil =>
    intro _ h
    rw [← Option.some.inj h]
    exact .nil
  | cons _ _ ih =>
    intro _ h
    rw [createDmas] at h
    split at h
    · cases h
    next first hfirst =>
      -- One failure fails all, so every tensor before and after it was sliced.
      rcases Option.map_eq_some_iff.mp h with ⟨_, hrest, rfl⟩
      exact .cons hfirst (ih hrest)

/-- A tensor that is registered alone may have any size: its check never applies. -/
theorem createDMAContext_eq (ctrls : List NVMeController) (t : Tensor) (granularity : Nat)
    (env : RegisterEnv) :
    createDMAContext ctrls t granularity env = createDma ctrls t granularity env :=
  if_neg fun h => Nat.lt_irrefl _ h.1.2

/-- Both ways to register check the alignment of size and granularity, and do the same
    with a tensor. -/
theorem Registered.created {t : Tensor} (h : Registered ctrls t granularity groups) :
    4096 ∣ t.size ∧ 4096 ∣ granularity ∧ ∃ env, createDma ctrls t granularity env = some groups := by
  have hsize : validateTensor t = true → 4096 ∣ t.size := fun hv => by
    simp only [validateTensor, Bool.and_eq_true, decide_eq_true_eq] at hv
    omega
  have hgran : ¬ (0 < granularity ∧ granularity % 4096 ≠ 0) → 4096 ∣ granularity := fun hg => by
    omega
  rcases h with ⟨env, h⟩ | ⟨_, all, env, i, h, ht, hgroups⟩
  · unfold registerTensorMemory at h
    split at h
    · cases h
    next hvalid =>
      split_ifs at h with hg
      -- Alone, a tensor may leave a rest.
      rw [createDMAContext_eq] at h
      exact ⟨hsize (not_not.mp hvalid), hgran hg, env, h⟩
  · unfold registerTensorList at h
    split_ifs at h with hvalid hg
    -- In a list, one invalid tensor would have refused them all.
    have hv : validateTensor t = true := by
      rw [List.any_eq_true] at hvalid
      by_contra hbad
      exact hvalid ⟨t, List.mem_of_getElem? ht, decide_eq_true hbad⟩
    unfold createDMAContexts at h
    split at h
    · cases ht
    next first rest =>
      split at h
      · cases h
      split_ifs at h
      exact ⟨hsize hv, hgran hg, env, (List.forall₂_iff_zip.mp (createDmas_some _ h)).2
        (List.mem_of_getElem? (List.getElem?_zip_eq_some.mpr ⟨ht, hgroups⟩))⟩

/-- A tensor to be transferred, with the registration that it is part of: `ptr` and
    `len` are its own, and need not be those that were registered. -/
structure GpuTransfer where
  ctrls : List NVMeController
  maxIo : Nat
  maxIo_eq : minMaxIoSize ctrls = some maxIo
  tensor : Tensor
  granularity : Nat
  groups : List GranularitySliceGroup
  registered : Registered ctrls tensor granularity groups
  ptr : Nat
  len : Nat
  entries : List PRPMappingEntry
  found : lookupMappings groups ptr = some entries

namespace GpuTransfer

/-- The size of the group that is found at the tensor's address. -/
def granule (x : GpuTransfer) : Nat :=
  granuleSize x.tensor.size x.granularity (x.ptr - x.tensor.dataPtr)

/-- The entries of a transfer are those of one group. -/
theorem sliced (x : GpuTransfer) : 0 < x.granule ∧ 4096 ∣ x.granule ∧
      Sliced x.maxIo x.granule x.ptr x.tensor.dataPtr x.entries := by
  rcases x.registered.created with ⟨hsize, hgran, _, hcreated⟩
  rcases Option.map_eq_some_iff.mp x.found with ⟨g, hfind, hentries⟩
  have hptr : g.gpuTensorPtr = x.ptr := by
    simpa only [decide_eq_true_eq] using List.find?_some hfind
  rcases sliced_of_createDma x.maxIo_eq hsize hgran hcreated (List.mem_of_find?_eq_some hfind) with
    ⟨offset, hg, hpos, hdvd, hsliced⟩
  have hoffset : x.ptr - x.tensor.dataPtr = offset := by omega
  rw [granule, hoffset, ← hentries, ← hptr, hg]
  exact ⟨hpos, hdvd, hsliced⟩

end GpuTransfer

end Geminifs.Gemini
