import Geminifs.Core.GpuFiles
import Geminifs.Theory.GeminiFile
import Geminifs.Theory.GpuTransfer

/-!
# Capacity of a GPU File

The NVMe files of a GPU file have the size of one share, whichever way they were made
(`Created.files`), and a transfer deals blocks of its own length out to them. A
share is rounded up to a GPU page, not to a block, and with more than four
controllers only the first four files are used, although the shares are those of
all. So whether all blocks of a GPU file are inside its NVMe files depends on the
length of a block (`blocks_fit_iff`).

## Main definitions

* `Created`: A GPU file, made in either way.
* `BlocksFit`: The check accepts every block of the file.

## Theorems

* `perNvmeFileSize_some`: The size of a share.
* `Created.files`: The NVMe files of a GPU file.
* `passes_gpuBlock_iff`: Which blocks the check accepts.
* `blocks_fit_iff`: Which files have room for all their blocks.
-/

namespace Geminifs.Gemini

open Striping

/-- The GPU file was made with the given size on the given number of controllers. -/
def Created (totalFileSize nvmeCount : Nat) (f : GPUFile) : Prop :=
  (∃ shape ctrls env, ctrls.length = nvmeCount ∧
    createGPUFile totalFileSize shape ctrls env = some f) ∨
    ∃ toCreate shape ctrls env files, ctrls.length = nvmeCount ∧
      createGPUFiles totalFileSize toCreate shape ctrls env = some files ∧ f ∈ files

/-- Every thread whose block is inside the GPU file passes its check. -/
def BlocksFit (f : GPUFile) (len tensorSize : Nat) : Prop :=
  ∀ off idx e, e.dataLength = len → (off / len + idx + 1) * len ≤ f.totalFileSize →
    passes f.sizes tensorSize (gpuBlock f.sizes.length off idx e) = true

/-! ### Creation -/

variable {total count per : Nat} {f : GPUFile}

/-- A share is rounded up to a GPU page. -/
theorem perNvmeFileSize_some (h : perNvmeFileSize total count = some per) :
    0 < count ∧ 65536 ≤ per ∧ per = (total / count + 65535) / 65536 * 65536 := by
  -- The source tests the remainder; the result is a division rounded up.
  have hround : (if total / count % 65536 ≠ 0 then (total / count / 65536 + 1) * 65536
      else total / count) = (total / count + 65535) / 65536 * 65536 := by
    split
    · omega
    · omega
  unfold perNvmeFileSize at h
  dsimp only at h
  rw [hround] at h
  split_ifs at h with hcount hsize
  rw [← Option.some.inj h]
  exact ⟨Nat.pos_of_ne_zero hcount, Nat.not_lt.mp hsize, rfl⟩

/-- The loop makes one file for each controller, all of one size. -/
theorem createManaged_some (ctrls : List (Nat × ManagedEnv)) : ∀ {hdrs},
    createManaged per ctrls = some hdrs →
      hdrs.length = ctrls.length ∧ ∀ hdr ∈ hdrs, hdr.virtualSpaceSize = per := by
  induction ctrls with
  | nil =>
    intro hdrs h
    rw [← Option.some.inj h]
    exact ⟨rfl, nofun⟩
  | cons _ _ ih =>
    intro _ h
    rw [createManaged] at h
    split at h
    · cases h
    next first hfirst =>
      rcases Option.map_eq_some_iff.mp h with ⟨_, hrest, rfl⟩
      rcases ih hrest with ⟨hlen, hsize⟩
      refine ⟨by rw [List.length_cons, List.length_cons, hlen],
        List.forall_mem_cons.mpr ⟨?_, hsize⟩⟩
      -- The extents are filled in later and leave the size alone.
      rcases hostRefine_some (hostFileCreateManaged_some hfirst) with ⟨n, _, -, rfl⟩
      rfl

/-- Controller by controller, there is a file of every number. -/
theorem createOnAll_some {toCreate : Nat} (ctrls : List (Nat × (Nat → ManagedEnv))) :
    ∀ {results}, createOnAll total count toCreate ctrls = some results →
      results.length = ctrls.length ∧ ∀ hdrs ∈ results, hdrs.length = toCreate ∧
        ∃ per, perNvmeFileSize total count = some per ∧
          ∀ hdr ∈ hdrs, hdr.virtualSpaceSize = per := by
  induction ctrls with
  | nil =>
    intro results h
    rw [← Option.some.inj h]
    exact ⟨rfl, nofun⟩
  | cons _ _ ih =>
    intro _ h
    rw [createOnAll] at h
    split at h
    · cases h
    next first hfirst =>
      split_ifs at h with hfull
      rcases Option.map_eq_some_iff.mp h with ⟨_, hrest, rfl⟩
      rcases ih hrest with ⟨hlen, hall⟩
      refine ⟨by rw [List.length_cons, List.length_cons, hlen], fun hdrs hhdrs => ?_⟩
      rcases List.mem_cons.mp hhdrs with rfl | hhdrs
      · refine ⟨not_not.mp (not_or.mp hfull).2, ?_⟩
        -- The share is computed anew on each controller, from the same numbers.
        unfold createNVMeFilesPerDevice at hfirst
        split at hfirst
        · cases hfirst
        next per hper => exact ⟨per, hper, (createManaged_some _ hfirst).2⟩
      · exact hall hdrs hhdrs

/-- The kernels see the first four files of a GPU file. -/
theorem sizes_take {hdrs : List GeminiHdr} (hlen : min hdrs.length 4 = min count 4)
    (hsize : ∀ hdr ∈ hdrs, hdr.virtualSpaceSize = per) :
    GPUFile.sizes ⟨total, hdrs.take 4⟩ = List.replicate (min count 4) per := by
  refine List.eq_replicate_iff.mpr ⟨?_, fun _ hmem => ?_⟩
  · rw [GPUFile.sizes, List.length_map, List.length_take]
    omega
  · rcases List.mem_map.mp hmem with ⟨hdr, hhdr, rfl⟩
    exact hsize hdr (List.mem_of_mem_take hhdr)

/-- A GPU file has a file of one share on each of its controllers, but on no more than
    four. Only files that are made at once can be made without any. -/
theorem Created.files (h : Created total count f) :
    f.totalFileSize = total ∧ (count = 0 ∧ f.sizes = [] ∨
      ∃ per, perNvmeFileSize total count = some per ∧
        f.sizes = List.replicate (min count 4) per) := by
  rcases h with ⟨_, _, _, rfl, h⟩ | ⟨toCreate, _, ctrls, _, _, rfl, h, hf⟩
  · unfold createGPUFile at h
    split at h
    · cases h
    split at h
    · cases h
    next hdrs hhdrs =>
      split_ifs at h
      rw [← Option.some.inj h]
      -- The share is that of all controllers, although only four get a file.
      unfold createNVMeFilesForGPUFile at hhdrs
      split at hhdrs
      · cases hhdrs
      next per hper =>
        rcases createManaged_some _ hhdrs with ⟨hlen, hsize⟩
        rw [List.length_take] at hlen
        exact ⟨rfl, .inr ⟨per, hper, sizes_take (by omega) hsize⟩⟩
  · unfold createGPUFiles at h
    split at h
    · cases h
    split at h
    · cases h
    next results hresults =>
      split_ifs at h
      rw [← Option.some.inj h] at hf
      rcases List.mem_map.mp hf with ⟨i, hi, rfl⟩
      have hi := List.mem_range.mp hi
      rcases createOnAll_some ctrls hresults with ⟨hlen, hall⟩
      refine ⟨rfl, ?_⟩
      cases results with
      | nil => exact .inl ⟨hlen.symm, rfl⟩
      | cons hdrs rest =>
        rcases (hall hdrs List.mem_cons_self).2 with ⟨per, hper, -⟩
        refine .inr ⟨per, hper, sizes_take ?_ fun hdr hhdr => ?_⟩
        · -- Every controller has a file with this number.
          have hsome : ((hdrs :: rest).filterMap (·[i]?)).length = (hdrs :: rest).length :=
            List.filterMap_length_eq_length.mpr fun l hl => by
              rw [List.getElem?_eq_getElem ((hall l hl).1 ▸ hi)]
              rfl
          rw [hsome, hlen]
        · rcases List.mem_filterMap.mp hhdr with ⟨l, hl, hget⟩
          rcases (hall l hl).2 with ⟨_, hper', hsize⟩
          rw [hsize hdr (List.mem_of_getElem? hget)]
          exact Option.some.inj (hper'.symm.trans hper)

/-! ### Blocks -/

/-- On files of one size, the check is whether the block is inside. -/
theorem passes_gpuBlock_iff {n off idx len tensorSize : Nat} {e : PRPMappingEntry} (hn : 0 < n)
    (hlen : e.dataLength = len) (hpos : 0 < len) (hpage : 4096 ∣ len) (hsize : len ≤ tensorSize) :
    passes (List.replicate n per) tensorSize (gpuBlock n off idx e) = true ↔
      (stripe n len (off / len + idx)).start + len ≤ per := by
  have hfile : (List.replicate n per).getD ((off / len + idx) % n) 0 = per := by
    rw [List.getD_eq_getElem?_getD, List.getElem?_replicate, if_pos (Nat.mod_lt _ hn)]
    rfl
  have hstart : 4096 ∣ (off / len + idx) / n * len := Nat.dvd_mul_left_of_dvd hpage _
  rw [passes, gpuBlock, hlen, checkFileAccessSafety_iff]
  dsimp only [stripe]
  omega

/-- For every size for which a GPU file can be made, every number of controllers and
    every length of blocks: the check accepts all blocks of the file if and only if
    there are none, or the blocks of the first NVMe file fit into a share. -/
theorem blocks_fit_iff (total count len tensorSize : Nat) (f : GPUFile)
    (hcreated : Created total count f) (hpos : 0 < len) (hpage : 4096 ∣ len)
    (hsize : len ≤ tensorSize) :
    BlocksFit f len tensorSize ↔ total < len ∨ 0 < count ∧
      (total / len + min count 4 - 1) / min count 4 * len ≤
        (total / count + 65535) / 65536 * 65536 := by
  rcases hcreated.files with ⟨rfl, hfiles⟩
  -- Block `b` is inside the file if and only if it is one of the first ones.
  have hinside : ∀ b, (b + 1) * len ≤ f.totalFileSize ↔ b < f.totalFileSize / len := fun b =>
    (Nat.le_div_iff_mul_le hpos).symm
  -- An entry of this length, for a thread of any number.
  have hentry : ∃ e : PRPMappingEntry, e.dataLength = len := ⟨⟨.singlePage, len, 0, [], 0⟩, rfl⟩
  rcases hentry with ⟨e, he⟩
  rcases hfiles with ⟨hnone, hsizes⟩ | ⟨per, hper, hsizes⟩
  · rw [BlocksFit, hsizes]
    constructor
    · intro h
      refine .inl (Nat.lt_of_not_le fun hle => ?_)
      have hfirst := h 0 0 e he (by rw [Nat.zero_div, Nat.one_mul]; exact hle)
      exact (checkFileAccessSafety_iff.mp hfirst).1 rfl
    · rintro (hsmall | ⟨hsome, -⟩) off idx e' _ hle
      · exact absurd (Nat.le_trans (Nat.le_mul_of_pos_left len (Nat.succ_pos _)) hle) (by omega)
      · omega
  · rcases perNvmeFileSize_some hper with ⟨hcount, -, hshare⟩
    have hn : 0 < min count 4 := by omega
    have hfit : BlocksFit f len tensorSize ↔
        ∀ b < f.totalFileSize / len, (stripe (min count 4) len b).start + len ≤ per := by
      rw [BlocksFit, hsizes, List.length_replicate]
      constructor
      · intro h b hb
        have hthread := h (b * len) 0 e he
        rw [passes_gpuBlock_iff hn he hpos hpage hsize, Nat.mul_div_cancel _ hpos] at hthread
        exact hthread ((hinside b).mpr hb)
      · intro h off idx e' he' hle
        rw [passes_gpuBlock_iff hn he' hpos hpage hsize]
        exact h _ ((hinside _).mp hle)
    rw [hfit, stripe_fits_iff hn, hshare]
    constructor
    · exact fun h => .inr ⟨hcount, h⟩
    · rintro (hsmall | ⟨-, h⟩)
      · rw [Nat.div_eq_of_lt hsmall, Nat.div_eq_of_lt (by omega), Nat.zero_mul]
        exact Nat.zero_le _
      · exact h

/-- Two controllers with pages of 4096 bytes, on which every call succeeds. -/
def twoControllers : List (Nat × ManagedEnv) :=
  [(4096, ⟨true, true, true, oneExtentEnv⟩), (4096, ⟨true, true, true, oneExtentEnv⟩)]

theorem blocks_fit_iff_evenShares :
    ∃ f, createGPUFile 524288 [2, 1, 131072] twoControllers ⟨true, true⟩ = some f ∧
      BlocksFit f 131072 131072 :=
  ⟨_, rfl, (blocks_fit_iff 524288 2 131072 131072 _ (.inl ⟨[2, 1, 131072],
    twoControllers, ⟨true, true⟩, rfl, rfl⟩) (by decide) (by decide) (by decide)).mpr (.inr (by decide))⟩

/-- A GPU file of 384 KiB on two controllers has two NVMe files of 192 KiB. Its third
    block of 128 KiB is the second one of the first file, which has no room for it. -/
theorem third_block_refused :
    ∃ f, createGPUFile 393216 [2, 1, 131072] twoControllers ⟨true, true⟩ = some f ∧
      f.sizes = [196608, 196608] ∧
      ∃ e, e.dataLength = 131072 ∧ (gpuBlock 2 262144 0 e).spot = ⟨0, 131072, 131072⟩ ∧
        passes f.sizes 131072 (gpuBlock 2 262144 0 e) = false :=
  ⟨_, rfl, rfl, ⟨.list, 131072, 0, [], 0⟩, rfl, rfl, rfl⟩

end Geminifs.Gemini
