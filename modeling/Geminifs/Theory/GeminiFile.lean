import Mathlib.Data.Nat.ModEq
import Geminifs.Core.GeminiFile

/-!
# Two Views of a GeminiFS File

The host finds a virtual address through the file system, after the header. The
GPU finds it in the extents of the header, which are those of the whole file: the
kernel reports an extent as a whole, and the first one begins with the header. The
two are 512 bytes apart.

Blocks of ext4 have 1024 bytes or more, and so every extent starts and ends at a
multiple of 1024, in the file and on the device. Neither walk then changes an
address modulo 1024 (`findBlock_modEq`, `diskByte_modEq`), so the 512 bytes never
go away: whatever the extents are, the two views agree on no block of any file.

## Main definitions

* `Made`: A new file, made in either way.
* `Blocked`: An extent of whole blocks of the file system.
* `ViewsAgree`: The host and the GPU have an address in one place, and neither
  touches the header.

## Theorems

* `blockBit_two_pow`: The header records the block size, if it is a power of two.
* `Made.opens`: A new file can be opened.
* `hostXferLoop_inside`, `header_le_of_hostXfer`: The host keeps out of the header.
* `findBlock_modEq`, `diskByte_modEq`: The two walks modulo 1024.
* `views_never_agree`: The views agree nowhere.
* `gpu_finds_header`, `gpu_transfers_header`: The GPU has the header in its first
  block, and a transfer of that block has it too.
-/

namespace Geminifs.Gemini

variable {hdr : GeminiHdr} {env : CreateEnv} {map : List FiemapExtent}

/-- The header is that of a new file, for which the system calls returned what `env`
    has. -/
def Made (env : CreateEnv) (hdr : GeminiHdr) : Prop :=
  (∃ blockSize size, hostCreateGeminifsFile blockSize size env = some hdr) ∨
    ∃ pageSize blockSize size menv, menv.file = env ∧
      hostFileCreateManaged pageSize blockSize size menv = some hdr

/-- The extent consists of whole blocks of the file system, in the file and on the
    device. -/
structure Blocked (ex : FiemapExtent) : Prop where
  logical : 1024 ∣ ex.feLogical.toNat
  physical : 1024 ∣ ex.fePhysical.toNat
  length : 1024 ∣ ex.feLength.toNat

/-- The host and the GPU have the address `va` in one place of the device, and a
    transfer of it by either of them has no byte of the header. -/
structure ViewsAgree (hdr : GeminiHdr) (map : List FiemapExtent) (va : Nat) : Prop where
  same : ∃ b, getNvmeofst hdr va = some b ∧ diskByte map (hostConvertVaTo hdr va) = some b
  hostSpares : ∀ nbyte results, va + nbyte ≤ hdr.virtualSpaceSize →
    ∀ call ∈ hostXferGeminifsFile hdr va nbyte results, hdr.firstBlockBase ≤ call.1
  gpuSpares : ∀ page log nbytes lba n, va + nbytes ≤ hdr.virtualSpaceSize →
    nvmeXfer hdr page log va nbytes = some (lba, n) →
      ∀ o < hdr.firstBlockBase, ∀ h, diskByte map o = some h →
        ¬ (lba * 2 ^ log ≤ h ∧ h < (lba + n) * 2 ^ log)

/-! ### The header -/

theorem oneNrLoop_two_pow (width : Nat) : ∀ k ≤ width, oneNrLoop width (2 ^ k - 1) = k := by
  induction width with
  | zero =>
    intro k hk
    rw [Nat.le_zero.mp hk, oneNrLoop]
  | succ _ ih =>
    intro k _
    cases k with
    | zero => simp only [oneNrLoop, Nat.pow_zero, Nat.sub_self, if_true]
    | succ k =>
      have hpos : 0 < 2 ^ k := Nat.two_pow_pos k
      have hne : 2 ^ (k + 1) - 1 ≠ 0 := by omega
      have hodd : (2 ^ (k + 1) - 1) % 2 = 1 := by omega
      have hhalf : (2 ^ (k + 1) - 1) / 2 = 2 ^ k - 1 := by omega
      rw [oneNrLoop, if_neg hne, hodd, hhalf, ih k (by omega), Nat.add_comm]

/-- The header that is left in the file has the extents, and is the given one
    otherwise. -/
theorem hostRefine_some {hdr₀ : GeminiHdr} (h : hostRefineNvmeofst hdr₀ env = some hdr) :
    ∃ n answer, env.fiemap.answer = some answer ∧
      hdr = { hdr₀ with extents := answer.take (n + 1) } := by
  unfold hostRefineNvmeofst at h
  split_ifs at h
  split at h
  · cases h
  next extents hread =>
    split_ifs at h
    unfold readFiemap at hread
    split at hread
    · cases hread
    · cases hread
    next n _ =>
      rcases Option.map_eq_some_iff.mp hread with ⟨answer, hanswer, rfl⟩
      exact ⟨n, answer, hanswer, (Option.some.inj h).symm⟩

theorem hostCreate_some {blockSize virtualSpaceSize : Nat}
    (h : hostCreateGeminifsFile blockSize virtualSpaceSize env = some hdr) :
    hostRefineNvmeofst ⟨theGeminiFSMagic, 512, roundUp virtualSpaceSize blockSize,
      oneNrOfBinaryInt (blockSize - 1), []⟩ env = some hdr := by
  unfold hostCreateGeminifsFile at h
  split at h
  · cases h
  split_ifs at h
  exact h

theorem hostFileCreateManaged_some {pageSize blockSize fileSize : Nat} {menv : ManagedEnv}
    (h : hostFileCreateManaged pageSize blockSize fileSize menv = some hdr) :
    hostRefineNvmeofst ⟨theGeminiFSMagic, 512, fileSize, ctzll blockSize, []⟩ menv.file =
      some hdr := by
  unfold hostFileCreateManaged at h
  iterate 3
    split at h
    · cases h
  split_ifs at h
  exact h

/-- The header records the block size, if it is a power of two. -/
theorem blockBit_two_pow {k virtualSpaceSize : Nat} (hk : k < 64)
    (h : hostCreateGeminifsFile (2 ^ k) virtualSpaceSize env = some hdr) : hdr.blockBit = k := by
  rcases hostRefine_some (hostCreate_some h) with ⟨n, _, -, rfl⟩
  exact oneNrLoop_two_pow 64 k (by omega)

/-- Both ways to make a file leave a header of 512 bytes with the extents. -/
theorem Made.header (h : Made env hdr) :
    hdr.magicNum = theGeminiFSMagic ∧ hdr.firstBlockBase = 512 ∧
      ∃ n answer, env.fiemap.answer = some answer ∧ hdr.extents = answer.take (n + 1) := by
  rcases h with ⟨_, _, h⟩ | ⟨_, _, _, _, rfl, h⟩
  · rcases hostRefine_some (hostCreate_some h) with ⟨n, answer, hanswer, rfl⟩
    exact ⟨rfl, rfl, n, answer, hanswer, rfl⟩
  · rcases hostRefine_some (hostFileCreateManaged_some h) with ⟨n, answer, hanswer, rfl⟩
    exact ⟨rfl, rfl, n, answer, hanswer, rfl⟩

/-- A file that was made can be opened, with the header it was made with. -/
theorem Made.opens (h : Made env hdr) : hostOpenGeminifsFile hdr = some hdr :=
  if_neg (not_not.mpr h.header.1)

/-! ### The host -/

/-- Every call of the loop is inside the range of the transfer. -/
theorem hostXferLoop_inside (pos nbyte : Nat) (results : List (Option Nat)) :
    ∀ call ∈ hostXferLoop pos nbyte results, pos ≤ call.1 ∧ call.1 + call.2 ≤ pos + nbyte := by
  fun_induction hostXferLoop pos nbyte results with
  | case1 | case2 => nofun
  -- A call that fails is the last one.
  | case3 => exact List.forall_mem_singleton.mpr ⟨Nat.le_refl _, Nat.le_refl _⟩
  | case4 _ _ _ _ ih =>
    -- What a call moved is taken from the front of the range.
    refine List.forall_mem_cons.mpr ⟨⟨Nat.le_refl _, Nat.le_refl _⟩, fun call hcall => ?_⟩
    have hrest := ih call hcall
    omega

/-- A transfer of the host keeps out of the header. -/
theorem header_le_of_hostXfer {va nbyte : Nat} {results : List (Option Nat)} {call : Nat × Nat}
    (hfits : hdr.firstBlockBase + va < 18446744073709551616)
    (hcall : call ∈ hostXferGeminifsFile hdr va nbyte results) : hdr.firstBlockBase ≤ call.1 := by
  have hpos := (hostXferLoop_inside _ nbyte results call hcall).1
  rw [hostConvertVaTo, u64] at hpos
  omega

/-! ### Addresses modulo 1024 -/

theorem u64_modEq (n : Nat) : u64 n ≡ n [MOD 1024] :=
  (Nat.mod_modEq n _).of_dvd (by decide)

/-- The whole blocks of an extent have a multiple of 1024 bytes: blocks that are
    smaller leave no rest, and larger ones are multiples themselves. -/
theorem dvd_blocks {len : Nat} (bit : Nat) (h : 1024 ∣ len) : 1024 ∣ len / 2 ^ bit * 2 ^ bit := by
  rcases Nat.le_total bit 10 with hsmall | hlarge
  · have hblock : 2 ^ bit ∣ len := Nat.dvd_trans (Nat.pow_dvd_pow 2 hsmall) h
    rwa [Nat.div_mul_cancel hblock]
  · exact Nat.dvd_mul_left_of_dvd (Nat.pow_dvd_pow 2 hlarge) _

/-- The walk of the GPU does not change an address modulo 1024. The invariant is that
    the blocks passed have a multiple of 1024 bytes. -/
theorem findBlock_modEq {bit blkId b : Nat} (exs : List FiemapExtent) :
    ∀ start, (∀ ex ∈ exs, Blocked ex) → 1024 ∣ start * 2 ^ bit →
      findBlock bit blkId start exs = some b → b ≡ blkId * 2 ^ bit [MOD 1024] := by
  induction exs with
  | nil =>
    intro start _ _ h
    cases h
  | cons ex _ ih =>
    intro start hexs hstart h
    have hex := hexs ex List.mem_cons_self
    rw [findBlock] at h
    split at h
    next hin =>
      -- The address is the start of the extent, a multiple, and the bytes since its first block.
      rw [← Option.some.inj h]
      calc u64 (ex.fePhysical.toNat + u64 ((blkId - start) * 2 ^ bit))
          ≡ ex.fePhysical.toNat + u64 ((blkId - start) * 2 ^ bit) [MOD 1024] := u64_modEq _
        _ ≡ start * 2 ^ bit + (blkId - start) * 2 ^ bit [MOD 1024] :=
            Nat.ModEq.add ((Nat.modEq_zero_iff_dvd.mpr hex.physical).trans
              (Nat.modEq_zero_iff_dvd.mpr hstart).symm) (u64_modEq _)
        _ = blkId * 2 ^ bit := by rw [← Nat.add_mul, Nat.add_sub_cancel' hin.1]
    next =>
      -- The blocks of this extent are passed, and they are multiples too.
      refine ih _ (List.forall_mem_cons.mp hexs).2 ?_ h
      refine Nat.modEq_zero_iff_dvd.mp (((u64_modEq _).mul_right _).trans ?_)
      rw [Nat.add_mul]
      exact Nat.modEq_zero_iff_dvd.mpr (Nat.dvd_add hstart (dvd_blocks bit hex.length))

/-- Neither does the file system. -/
theorem diskByte_modEq {o b : Nat} (hmap : ∀ ex ∈ map, Blocked ex) (h : diskByte map o = some b) :
    b ≡ o [MOD 1024] := by
  rcases Option.map_eq_some_iff.mp h with ⟨ex, hfind, rfl⟩
  have hex := hmap ex (List.mem_of_find?_eq_some hfind)
  have hin : ex.feLogical.toNat ≤ o ∧ o < ex.feLogical.toNat + ex.feLength.toNat := by
    simpa only [decide_eq_true_eq] using List.find?_some hfind
  calc ex.fePhysical.toNat + (o - ex.feLogical.toNat)
      ≡ ex.feLogical.toNat + (o - ex.feLogical.toNat) [MOD 1024] :=
        Nat.ModEq.add_right _ ((Nat.modEq_zero_iff_dvd.mpr hex.physical).trans
          (Nat.modEq_zero_iff_dvd.mpr hex.logical).symm)
    _ = o := Nat.add_sub_cancel' hin.1

/-! ### The two views -/

/-- For every file, whatever its extents are and whatever was reported of them, the
    two views agree on no block of it. -/
theorem views_never_agree (env : CreateEnv) (hdr : GeminiHdr) (map : List FiemapExtent) (va : Nat)
    (hmade : Made env hdr)
    (hanswer : ∀ answer ∈ env.fiemap.answer, ∀ ex ∈ answer, Blocked ex)
    (hmap : ∀ ex ∈ map, Blocked ex) (hva : 2 ^ hdr.blockBit ∣ va) : ¬ ViewsAgree hdr map va := by
  intro hagree
  rcases hagree.same with ⟨b, hgpu, hhost⟩
  rcases hmade.header with ⟨-, hbase, n, answer, hans, hextents⟩
  have hexs : ∀ ex ∈ hdr.extents, Blocked ex := fun ex hex => by
    rw [hextents] at hex
    exact hanswer answer hans ex (List.mem_of_mem_take hex)
  -- The GPU keeps the address, and the host adds the header to it.
  have hkeeps : b ≡ va [MOD 1024] := by
    have hwalk := findBlock_modEq _ 0 hexs (by rw [Nat.zero_mul]; exact Nat.dvd_zero _) hgpu
    rwa [Nat.div_mul_cancel hva] at hwalk
  have hadds : b ≡ 512 + va [MOD 1024] := by
    refine (diskByte_modEq hmap hhost).trans ?_
    rw [hostConvertVaTo, hbase]
    exact u64_modEq _
  have hsum : va % 1024 = (512 + va) % 1024 := hkeeps.symm.trans hadds
  omega

/-- A file of two blocks of 4096 bytes, in one extent at the second megabyte. -/
def oneExtent : FiemapExtent := ⟨0, 1048576, 12288, fiemapExtentLast⟩

/-- What the calls return for it. -/
def oneExtentEnv : CreateEnv := ⟨true, true, true, some 1, some [oneExtent]⟩

theorem blocked_oneExtent : ∀ ex ∈ [oneExtent], Blocked ex := by
  intro _ hex
  rw [List.mem_singleton.mp hex]
  exact ⟨by decide, by decide, by decide⟩

theorem views_never_agree_oneExtent :
    ∃ hdr, hostCreateGeminifsFile 4096 8192 oneExtentEnv = some hdr ∧
      ¬ ViewsAgree hdr [oneExtent] 4096 :=
  ⟨_, rfl, views_never_agree oneExtentEnv _ [oneExtent] 4096 (.inl ⟨4096, 8192, rfl⟩)
    (fun _ h => Option.some.inj h ▸ blocked_oneExtent) blocked_oneExtent (by decide)⟩

/-- The host has its first block 512 bytes after the one of the GPU, which begins with
    the header. -/
theorem views_differ : ∃ hdr, hostCreateGeminifsFile 4096 8192 oneExtentEnv = some hdr ∧
      getNvmeofst hdr 0 = some 1048576 ∧
      diskByte [oneExtent] (hostConvertVaTo hdr 0) = some 1049088 ∧
      diskByte [oneExtent] 0 = some 1048576 :=
  ⟨_, rfl, by decide, by decide, by decide⟩

section

variable {first : FiemapExtent} {rest : List FiemapExtent} (hmade : Made env hdr)
  (hanswer : env.fiemap.answer =
    some (fiemapRange (first :: rest) hdr.firstBlockBase hdr.virtualSpaceSize))
  (hfirst : Blocked first) (hzero : first.feLogical.toNat = 0)
  (hroom : 2 ^ hdr.blockBit ≤ first.feLength.toNat)

include hmade hanswer hfirst hzero hroom

/-- If the file begins with an extent that has room for a block, and the kernel
    answers as documented, then the first block of the GPU begins with the first byte
    of the header. -/
theorem gpu_finds_header :
    getNvmeofst hdr 0 = some first.fePhysical.toNat ∧
      diskByte (first :: rest) 0 = some first.fePhysical.toNat := by
  have hblock : 0 < 2 ^ hdr.blockBit := Nat.two_pow_pos _
  have hlen : 1024 ≤ first.feLength.toNat := Nat.le_of_dvd (by omega) hfirst.length
  have hsmall := first.feLength.toNat_lt
  have hphys := first.fePhysical.toNat_lt
  rcases hmade.header with ⟨-, hbase, n, _, hans, hextents⟩
  -- The first extent has the bytes after the header as well, so it is reported.
  have hkept : ∃ others, hdr.extents = first :: others := by
    rw [hanswer] at hans
    rw [hextents, ← Option.some.inj hans, fiemapRange, List.filter_cons_of_pos]
    · exact ⟨_, rfl⟩
    · rw [decide_eq_true_eq]
      omega
  rcases hkept with ⟨_, hkept⟩
  constructor
  · have hpos : 0 < first.feLength.toNat / 2 ^ hdr.blockBit := Nat.div_pos hroom hblock
    have hle := Nat.div_le_self first.feLength.toNat (2 ^ hdr.blockBit)
    rw [getNvmeofst, hkept, findBlock, if_pos]
    · simp only [Nat.zero_div, Nat.sub_zero, Nat.zero_mul, u64, Nat.zero_mod, Nat.add_zero]
      rw [Nat.mod_eq_of_lt (by omega)]
    · rw [Nat.zero_div, u64, Nat.zero_add, Nat.mod_eq_of_lt (by omega)]
      exact ⟨Nat.le_refl _, hpos⟩
  · rw [diskByte, List.find?_cons_of_pos]
    · simp only [Option.map_some, hzero, Nat.sub_zero, Nat.add_zero]
    · rw [decide_eq_true_eq]
      omega

/-- Then every transfer of the GPU at the virtual address 0 has the header in it. -/
theorem gpu_transfers_header {page log nbytes lba n : Nat}
    (hxfer : nvmeXfer hdr page log 0 nbytes = some (lba, n)) (hn : 0 < n) :
    ∃ h, diskByte (first :: rest) 0 = some h ∧ lba * 2 ^ log ≤ h ∧ h < (lba + n) * 2 ^ log := by
  rcases gpu_finds_header hmade hanswer hfirst hzero hroom with ⟨hgpu, hdisk⟩
  refine ⟨_, hdisk, ?_⟩
  -- The command is in blocks of the device, which may cut the address down.
  unfold nvmeXfer at hxfer
  split_ifs at hxfer
  rw [hgpu] at hxfer
  rcases Prod.mk.inj (Option.some.inj hxfer) with ⟨rfl, -⟩
  refine ⟨Nat.div_mul_le_self _ _, ?_⟩
  calc first.fePhysical.toNat
      < (first.fePhysical.toNat / 2 ^ log + 1) * 2 ^ log := by
        rw [Nat.mul_comm]
        exact Nat.lt_mul_div_succ _ (Nat.two_pow_pos log)
    _ ≤ (first.fePhysical.toNat / 2 ^ log + n) * 2 ^ log :=
        Nat.mul_le_mul_right _ (Nat.add_le_add_left hn _)

end

end Geminifs.Gemini
