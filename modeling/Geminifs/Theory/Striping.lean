import Geminifs.Theory.GpuTransfer

/-!
# Collisions in a Striped GPU File

Every thread of a transfer computes the place of its entry from the entry's own
length: it takes the offset in the GPU file for a number of blocks of that length.
Two entries are therefore in one grid only if they are equally long, and striping
says nothing about blocks of two sizes.

So transfers keep out of each other's way if and only if all their entries have one
length, and the tensors are exactly the groups that their addresses stand for: of a
longer tensor the rest is not transferred at all, and of a shorter one too much is.
The theorem for one pair of transfers is `collision_free_iff`.

## Main definitions

* `KeptFrom`: What one transfer can expect from itself and another one.
* `CollisionFree`: Both can.
* `Fitting`: A tensor is one group, which is cut evenly.

## Theorems

* `block_apart`, `block_apart_of_range`: Entries of one length.
* `write_stored`, `read_stored`: What is in the files, and what is read back.
* `keptFrom_of_fitting`: Fitting tensors with one length of slices.
* `KeptFrom.even`, `KeptFrom.sliceLen_eq`, `KeptFrom.granule_le`, `KeptFrom.le_granule`:
  The four ways to collide.
* `collision_free_iff`: Both directions.
-/

namespace Geminifs.Gemini

open Copying Striping

/-- The transfer of `x` is not disturbed by itself or by the one of `y`: for every
    number of files and every offset its entries are in different places, and, if the
    two have different ranges of the GPU file, in other places than those of `y`. If
    moreover no check fails, what was written from `x` is read back unchanged,
    whichever was written first and in whatever order the commands take effect. -/
structure KeptFrom (x y : GpuTransfer) : Prop where
  own : ∀ kernel n off, 0 < n →
    (assigned kernel n off x.entries).Pairwise fun a b => a.spot.Apart b.spot
  cross : ∀ kernel n off off', 0 < n → off + x.len ≤ off' ∨ off' + y.len ≤ off →
    ∀ a ∈ assigned kernel n off x.entries, ∀ b ∈ assigned kernel n off' y.entries,
      a.spot.Apart b.spot
  roundTrip : ∀ kernel files off off', off + x.len ≤ off' ∨ off' + y.len ≤ off →
    (∀ io ∈ assigned kernel files.length off x.entries, passes files x.len io = true) →
    (∀ io ∈ assigned kernel files.length off' y.entries, passes files y.len io = true) →
    ∀ wx wy rx : List Io, wx.Perm (issued kernel files x.len off x.entries) →
    wy.Perm (issued kernel files y.len off' y.entries) →
    rx.Perm (issued kernel files x.len off x.entries) →
    ∀ (memX memY old : Nat → UInt8) (store stored : Nat × Nat → UInt8),
    stored = write y.tensor.dataPtr wy memY (write x.tensor.dataPtr wx memX store) ∨
      stored = write x.tensor.dataPtr wx memX (write y.tensor.dataPtr wy memY store) →
    ∀ k < x.len, read x.tensor.dataPtr rx stored old (x.ptr + k) = memX (x.ptr + k)

/-- Neither of two transfers disturbs the other one or itself. -/
def CollisionFree (x y : GpuTransfer) : Prop := KeptFrom x y ∧ KeptFrom y x

/-- The tensor is the group at its address, and that is cut into slices of one
    length. -/
def Fitting (x : GpuTransfer) : Prop :=
  x.len = x.granule ∧ (x.granule ≤ x.maxIo ∨ x.maxIo ∣ x.granule)

/-! ### Threads -/

/-- Both kernels compute the same places. -/
theorem assigned_eq (kernel : Kernel) (n off : Nat) (entries : List PRPMappingEntry) :
    assigned kernel n off entries = nvmeXferKernel n off entries := by
  cases kernel with
  | single => rfl
  | batch =>
    rw [assigned, nvmeBatchXferKernel, fillCtx, List.map_map]
    rfl

theorem getElem?_assigned (kernel : Kernel) (n off j : Nat) (entries : List PRPMappingEntry) :
    (assigned kernel n off entries)[j]? = entries[j]?.map (gpuBlock n off j) := by
  rw [assigned_eq, nvmeXferKernel, List.getElem?_map, List.getElem?_zipIdx, Option.map_map,
    Nat.zero_add]
  rfl

theorem mem_assigned {kernel : Kernel} {n off : Nat} {entries : List PRPMappingEntry} {io : Io} :
    io ∈ assigned kernel n off entries ↔
      ∃ (j : Nat) (e : PRPMappingEntry), entries[j]? = some e ∧ io = gpuBlock n off j e := by
  rw [List.mem_iff_getElem?]
  refine exists_congr fun j => ?_
  rw [getElem?_assigned, Option.map_eq_some_iff]
  refine exists_congr fun e => and_congr_right fun _ => eq_comm

namespace GpuTransfer

variable {x y : GpuTransfer} {j : Nat} {e : PRPMappingEntry}

variable (x)

/-- The length of the first slice. -/
def sliceLen : Nat := min x.granule x.maxIo

theorem maxIo_pos : 0 < x.maxIo := (minMaxIoSize_fit x.maxIo_eq).1

theorem sliceLen_pos : 0 < x.sliceLen :=
  Nat.lt_min.mpr ⟨x.sliced.1, x.maxIo_pos⟩

theorem dvd_sliceLen : 4096 ∣ x.sliceLen := by
  rcases Nat.le_total x.granule x.maxIo with hle | hle
  · rw [sliceLen, Nat.min_eq_left hle]
    exact x.sliced.2.1
  · rw [sliceLen, Nat.min_eq_right hle]
    exact (minMaxIoSize_fit x.maxIo_eq).2.2

variable {x}

theorem index_of_get (he : x.entries[j]? = some e) : j * x.maxIo < x.granule :=
  (x.sliced.2.2.index j).mp (List.getElem?_eq_some_iff.mp he).1

theorem exists_entry (x : GpuTransfer) (hj : j * x.maxIo < x.granule) :
    ∃ e, x.entries[j]? = some e ∧ e.dataLength = min (x.granule - j * x.maxIo) x.maxIo := by
  have hlt := (x.sliced.2.2.index j).mpr hj
  exact ⟨x.entries[j], List.getElem?_eq_getElem hlt,
    x.sliced.2.2.length j _ (List.getElem?_eq_getElem hlt)⟩

/-- The first entry has the length of a slice. -/
theorem first_entry (x : GpuTransfer) :
    ∃ e, x.entries[0]? = some e ∧ e.dataLength = x.sliceLen := by
  rcases exists_entry x (show 0 * x.maxIo < x.granule by rw [Nat.zero_mul]; exact x.sliced.1) with
    ⟨e, he, hlen⟩
  exact ⟨e, he, by rw [hlen, Nat.zero_mul, Nat.sub_zero, sliceLen]⟩

/-- If the group is cut evenly, so have all others. -/
theorem dataLength_of_even (heven : x.granule ≤ x.maxIo ∨ x.maxIo ∣ x.granule)
    (he : x.entries[j]? = some e) : e.dataLength = x.sliceLen := by
  rw [x.sliced.2.2.length j e he, pieces_even heven (index_of_get he), sliceLen]

end GpuTransfer

/-! ### Entries of one length -/

section Even

variable {x y : GpuTransfer} {n off off' j j' : Nat} {e e' : PRPMappingEntry}

section

variable (heven : x.granule ≤ x.maxIo ∨ x.maxIo ∣ x.granule)

include heven

theorem spot_gpuBlock (he : x.entries[j]? = some e) :
    (gpuBlock n off j e).spot = stripe n x.sliceLen (off / x.sliceLen + j) := by
  rw [gpuBlock, GpuTransfer.dataLength_of_even heven he]

/-- The entries of one transfer. -/
theorem block_apart (hne : j ≠ j') (he : x.entries[j]? = some e) (he' : x.entries[j']? = some e') :
    (gpuBlock n off j e).spot.Apart (gpuBlock n off j' e').spot := by
  rw [spot_gpuBlock heven he, spot_gpuBlock heven he']
  exact stripe_apart fun h => hne (Nat.add_left_cancel h)

/-- A range that ends before another one begins has the lower blocks. -/
theorem block_lt
    (hlen : x.granule ≤ x.len) (hrange : off + x.len ≤ off') (he : x.entries[j]? = some e) :
    off / x.sliceLen + j < off' / x.sliceLen := by
  have hj := GpuTransfer.index_of_get he
  have hrest := pieces_even heven hj
  have hle : j * x.sliceLen ≤ j * x.maxIo := Nat.mul_le_mul_left j (Nat.min_le_right _ _)
  have hend : (j + 1) * x.sliceLen ≤ x.granule := by
    rw [← GpuTransfer.sliceLen] at hrest
    rw [Nat.succ_mul]
    omega
  calc off / x.sliceLen + j
      < off / x.sliceLen + (j + 1) := Nat.lt_succ_self _
    _ = (off + (j + 1) * x.sliceLen) / x.sliceLen := by
        rw [Nat.add_mul_div_right _ _ x.sliceLen_pos]
    _ ≤ off' / x.sliceLen := Nat.div_le_div_right (by omega)

end

/-- The entries of two transfers with different ranges. -/
theorem block_apart_of_range (hx : Fitting x) (hy : Fitting y) (hlen : x.sliceLen = y.sliceLen)
    (hrange : off + x.len ≤ off' ∨ off' + y.len ≤ off) (he : x.entries[j]? = some e)
    (he' : y.entries[j']? = some e') :
    (gpuBlock n off j e).spot.Apart (gpuBlock n off' j' e').spot := by
  rw [spot_gpuBlock hx.2 he, spot_gpuBlock hy.2 he', ← hlen]
  refine stripe_apart ?_
  rcases hrange with h | h
  · have := block_lt hx.2 (Nat.le_of_eq hx.1.symm) h he
    omega
  · have := block_lt hy.2 (Nat.le_of_eq hy.1.symm) h he'
    rw [← hlen] at this
    omega

end Even

/-! ### Data -/

/-- The transfer moves the byte at the address `a` to or from the place `b`. -/
def Moves (x : GpuTransfer) (n off a : Nat) (b : Nat × Nat) : Prop :=
  ∃ j e k, x.entries[j]? = some e ∧ k < e.dataLength ∧ a = x.ptr + j * x.maxIo + k ∧
    b = ((gpuBlock n off j e).spot.file, (gpuBlock n off j e).spot.start + k)

section Data

variable {x y : GpuTransfer} {n off off' a a' : Nat} {b : Nat × Nat}

/-- If no check fails, these are the bytes of the commands, in any order. -/
theorem mem_bytes_iff {kernel : Kernel} {files : List Nat} {ios : List Io}
    (hpass : ∀ io ∈ assigned kernel files.length off x.entries, passes files x.len io = true)
    (hperm : ios.Perm (issued kernel files x.len off x.entries)) (p : Nat × Nat × Nat) :
    p ∈ ios.flatMap (Io.bytes x.tensor.dataPtr) ↔ Moves x files.length off p.1 p.2 := by
  rw [issued, List.filter_eq_self.mpr hpass] at hperm
  rw [List.mem_flatMap]
  constructor
  · rintro ⟨_, hio, hp⟩
    rcases mem_assigned.mp (hperm.mem_iff.mp hio) with ⟨j, e, he, rfl⟩
    rcases List.mem_map.mp hp with ⟨k, hk, rfl⟩
    have hk := List.mem_range.mp hk
    exact ⟨j, e, k, he, hk, x.sliced.2.2.address j e he k hk, rfl⟩
  · rintro ⟨j, e, k, he, hk, ha, hb⟩
    refine ⟨_, hperm.mem_iff.mpr (mem_assigned.mpr ⟨j, e, he, rfl⟩), List.mem_map.mpr
      ⟨k, List.mem_range.mpr hk, ?_⟩⟩
    refine Prod.ext ?_ hb.symm
    exact (x.sliced.2.2.address j e he k hk).trans ha.symm

/-- Only bytes of the group are moved, and each of them is. -/
theorem Moves.inside (h : Moves x n off a b) : a < x.ptr + x.granule := by
  rcases h with ⟨j, e, k, he, hk, rfl, -⟩
  rw [x.sliced.2.2.length j e he] at hk
  omega

theorem exists_moves (n off : Nat) {i : Nat} (hi : i < x.granule) :
    ∃ b, Moves x n off (x.ptr + i) b := by
  -- The slice of a byte is its quotient, and the byte in it the remainder.
  have hsplit := Nat.div_add_mod' i x.maxIo
  have hmod := Nat.mod_lt i x.maxIo_pos
  rcases GpuTransfer.exists_entry x (show i / x.maxIo * x.maxIo < x.granule by omega) with
    ⟨e, he, hlen⟩
  exact ⟨_, i / x.maxIo, e, i % x.maxIo, he, by omega, by omega, rfl⟩

/-- A place has one source. -/
theorem Moves.unique (heven : x.granule ≤ x.maxIo ∨ x.maxIo ∣ x.granule) (h : Moves x n off a b)
    (h' : Moves x n off a' b) : a = a' := by
  rcases h with ⟨j, e, k, he, hk, rfl, rfl⟩
  rcases h' with ⟨j', _, _, he', hk', rfl, hplace⟩
  -- Within one entry the byte tells the source; two entries are apart.
  by_cases hne : j = j'
  · subst hne
    rw [Option.some.inj (he.symm.trans he')] at hplace
    have hbyte := (Prod.mk.inj hplace).2
    omega
  · exact absurd hplace ((block_apart heven hne he he').ne hk hk')

/-- Two transfers with different ranges have no place in common. -/
theorem Moves.not_shared (hx : Fitting x) (hy : Fitting y) (hlen : x.sliceLen = y.sliceLen)
    (hrange : off + x.len ≤ off' ∨ off' + y.len ≤ off) (h : Moves x n off a b) :
    ¬ Moves y n off' a' b := by
  rcases h with ⟨j, e, k, he, hk, rfl, rfl⟩
  rintro ⟨_, _, _, he', hk', rfl, hplace⟩
  exact (block_apart_of_range hx hy hlen hrange he he').ne hk hk' hplace

variable {V : Type} {vaddr : Nat} {ios : List Io} {mem old : Nat → V} {store : Nat × Nat → V}

/-- Commands leave what their places have from one source each. -/
theorem write_stored {p : Nat × Nat × Nat}
    (hone : ∀ q ∈ ios.flatMap (Io.bytes vaddr), q.2 = p.2 → q.1 = p.1)
    (hp : p ∈ ios.flatMap (Io.bytes vaddr)) : write vaddr ios mem store p.2 = mem p.1 :=
  copyAll_of_mem _ ⟨p, hp, rfl⟩ fun q hq h => congrArg mem (hone q hq h)

/-- If the files have what was written from an address, it is read back. -/
theorem read_stored (hstored : ∀ q ∈ ios.flatMap (Io.bytes vaddr), q.1 = a → store q.2 = mem a)
    (hmem : ∃ q ∈ ios.flatMap (Io.bytes vaddr), q.1 = a) :
    read vaddr ios store old a = mem a := by
  refine copyAll_of_mem _ ?_ fun q hq ha => ?_
  · rcases hmem with ⟨q, hq, ha⟩
    exact ⟨q.swap, List.mem_map_of_mem hq, ha⟩
  · rcases List.mem_map.mp hq with ⟨p, hp, rfl⟩
    exact hstored p hp ha

end Data

/-- Fitting tensors with slices of one length do not disturb each other. -/
theorem keptFrom_of_fitting {x y : GpuTransfer} (hx : Fitting x) (hy : Fitting y)
    (hlen : x.sliceLen = y.sliceLen) : KeptFrom x y where
  own kernel n off _ := by
    rw [List.pairwise_iff_getElem]
    intro i j hi hj hlt
    have hget : ∀ k (hk : k < (assigned kernel n off x.entries).length), ∃ e,
        x.entries[k]? = some e ∧ (assigned kernel n off x.entries)[k] = gpuBlock n off k e := by
      intro k hk
      have h := (getElem?_assigned kernel n off k x.entries).symm.trans (List.getElem?_eq_getElem hk)
      rcases Option.map_eq_some_iff.mp h with ⟨e, he, heq⟩
      exact ⟨e, he, heq.symm⟩
    rcases hget i hi with ⟨e, he, heq⟩
    rcases hget j hj with ⟨e', he', heq'⟩
    rw [heq, heq']
    exact block_apart hx.2 (Nat.ne_of_lt hlt) he he'
  cross kernel n off off' _ hrange a ha b hb := by
    rcases mem_assigned.mp ha with ⟨j, e, he, rfl⟩
    rcases mem_assigned.mp hb with ⟨_, _, he', rfl⟩
    exact block_apart_of_range hx hy hlen hrange he he'
  roundTrip kernel files off off' hrange hpx hpy wx wy rx hwx hwy hrx memX memY old store stored
      horder i hi := by
    rw [hx.1] at hi
    have hwrote := mem_bytes_iff hpx hwx
    have hread := mem_bytes_iff hpx hrx
    -- The places of `x` have what was written from `x`: each has one source, and none is
    -- a place of `y`.
    have hstored : ∀ q ∈ rx.flatMap (Io.bytes x.tensor.dataPtr), stored q.2 = memX q.1 := by
      intro q hq
      have hmoves := (hread q).mp hq
      have hin : q ∈ wx.flatMap (Io.bytes x.tensor.dataPtr) := (hwrote q).mpr hmoves
      have hone : ∀ p ∈ wx.flatMap (Io.bytes x.tensor.dataPtr), p.2 = q.2 → p.1 = q.1 :=
        fun p hp h => Moves.unique hx.2 (h ▸ (hwrote p).mp hp) hmoves
      -- If `x` was written first, `y` has left its places alone.
      rcases horder with rfl | rfl
      · have hother : ∀ p ∈ wy.flatMap (Io.bytes y.tensor.dataPtr), p.2 ≠ q.2 := fun p hp h =>
          Moves.not_shared hx hy hlen hrange hmoves (h ▸ (mem_bytes_iff hpy hwy p).mp hp)
        rw [write, copyAll_of_ne _ hother]
        exact write_stored hone hin
      · exact write_stored hone hin
    rcases exists_moves files.length off hi with ⟨b, hb⟩
    exact read_stored (fun q hq h => h ▸ hstored q hq) ⟨(x.ptr + i, b), (hread _).mpr hb, rfl⟩

/-! ### Collisions -/

section Collisions

variable {x y : GpuTransfer} {n off j : Nat} {e : PRPMappingEntry} {e' : PRPMappingEntry}

theorem KeptFrom.own_apart {j' : Nat} (h : KeptFrom x y) (hn : 0 < n)
    (hlt : j < j') (he : x.entries[j]? = some e) (he' : x.entries[j']? = some e') :
    (gpuBlock n off j e).spot.Apart (gpuBlock n off j' e').spot := by
  have hget : ∀ {k f}, x.entries[k]? = some f →
      (assigned .single n off x.entries)[k]? = some (gpuBlock n off k f) := fun hf => by
    rw [getElem?_assigned, hf]
    rfl
  rcases List.getElem?_eq_some_iff.mp (hget he) with ⟨hj, heq⟩
  rcases List.getElem?_eq_some_iff.mp (hget he') with ⟨hj', heq'⟩
  have hapart := List.pairwise_iff_getElem.mp (h.own .single n off hn) j j' hj hj' hlt
  rwa [heq, heq'] at hapart

theorem KeptFrom.cross_apart {off' j' : Nat} (h : KeptFrom x y) (hn : 0 < n)
    (hrange : off + x.len ≤ off' ∨ off' + y.len ≤ off) (he : x.entries[j]? = some e)
    (he' : y.entries[j']? = some e') :
    (gpuBlock n off j e).spot.Apart (gpuBlock n off' j' e').spot :=
  h.cross .single n off off' hn hrange _ (mem_assigned.mpr ⟨j, e, he, rfl⟩) _
    (mem_assigned.mpr ⟨j', e', he', rfl⟩)

/-- A shorter last slice is put where another one is: on one file, and from the start
    of it, slice number `q` of `r` bytes begins at `q * r`. -/
theorem KeptFrom.even (h : KeptFrom x y) : x.granule ≤ x.maxIo ∨ x.maxIo ∣ x.granule := by
  by_contra huneven
  have hio := x.maxIo_pos
  rcases pieces_uneven hio huneven with ⟨q, r, hq, hr, hlt, htotal⟩
  -- The full slice that has the byte `q * r`.
  have hbelow : q * r < x.maxIo * q := by
    rw [Nat.mul_comm x.maxIo]
    exact Nat.mul_lt_mul_of_pos_left hlt hq
  have hj : q * r / x.maxIo < q := Nat.div_lt_of_lt_mul hbelow
  have hstep : q * r / x.maxIo * x.maxIo + x.maxIo ≤ q * x.maxIo := by
    rw [← Nat.succ_mul]
    exact Nat.mul_le_mul_right _ hj
  rcases GpuTransfer.exists_entry x (show q * x.maxIo < x.granule by omega) with
    ⟨last, hlast, hlastlen⟩
  rcases GpuTransfer.exists_entry x (show q * r / x.maxIo * x.maxIo < x.granule by omega) with
    ⟨e, he, helen⟩
  have hapart : (gpuBlock 1 0 _ e).spot.Apart (gpuBlock 1 0 q last).spot :=
    h.own_apart Nat.one_pos hj he hlast
  have hfull : e.dataLength = x.maxIo := by omega
  have hshort : last.dataLength = r := by omega
  rw [gpuBlock, gpuBlock, hfull, hshort, Nat.zero_div, Nat.zero_div, Nat.zero_add, Nat.zero_add,
    stripe_one, stripe_one] at hapart
  have hsplit := Nat.div_add_mod' (q * r) x.maxIo
  have hmod := Nat.mod_lt (q * r) hio
  -- The full slice begins at or before that byte and ends after it.
  rcases hapart with hfile | hend | hend
  · exact hfile rfl
  · dsimp only at hend
    omega
  · dsimp only at hend
    omega

theorem spot_first {b : Nat} (hlen : e.dataLength = x.sliceLen) (hb : b < n) :
    (gpuBlock n (b * x.sliceLen) 0 e).spot = ⟨b, 0, x.sliceLen⟩ := by
  rw [gpuBlock, hlen, Nat.mul_div_cancel _ x.sliceLen_pos, Nat.add_zero, stripe_of_lt _ hb]

/-- Block number `b` of either length is the first one of the file `b`, if there are
    enough files. -/
theorem KeptFrom.sliceLen_eq (h : KeptFrom x y) : x.sliceLen = y.sliceLen := by
  rcases x.first_entry with ⟨e, he, hlen⟩
  rcases y.first_entry with ⟨_, he', hlen'⟩
  have hcollide : ∀ b, ¬ (b * x.sliceLen + x.len ≤ b * y.sliceLen ∨
      b * y.sliceLen + y.len ≤ b * x.sliceLen) := fun b hrange => by
    have hapart := h.cross_apart (Nat.succ_pos b) hrange he he'
    rw [spot_first hlen (Nat.lt_succ_self b), spot_first hlen' (Nat.lt_succ_self b)] at hapart
    exact absurd hapart (Spot.not_apart rfl rfl x.sliceLen_pos y.sliceLen_pos)
  -- With different lengths, a number of blocks far enough out puts one range behind the other.
  rcases Nat.lt_trichotomy x.sliceLen y.sliceLen with hlt | heq | hlt
  · refine absurd (.inl ?_) (hcollide x.len)
    exact Nat.mul_le_mul_left _ hlt
  · exact heq
  · refine absurd (.inr ?_) (hcollide y.len)
    exact Nat.mul_le_mul_left _ hlt

/-- If the group is longer than the tensor, the next range begins with a block that
    has been used. -/
theorem KeptFrom.granule_le (h : KeptFrom x y) : x.granule ≤ x.len := by
  by_contra hshort
  have heven := h.even
  have hlenEq := h.sliceLen_eq
  have hfloor := Nat.div_mul_le_self x.len x.sliceLen
  -- The slice that has the byte after the tensor is still in the group.
  have hj : x.len / x.sliceLen * x.maxIo < x.granule := by
    rcases Nat.le_total x.granule x.maxIo with hle | hle
    · rw [GpuTransfer.sliceLen, Nat.div_eq_of_lt (by omega), Nat.zero_mul]
      exact x.sliced.1
    · rw [GpuTransfer.sliceLen, Nat.min_eq_right hle] at hfloor ⊢
      omega
  rcases GpuTransfer.exists_entry x hj with ⟨e, he, -⟩
  rcases y.first_entry with ⟨e', he', hlen'⟩
  have hapart : (gpuBlock 1 0 _ e).spot.Apart (gpuBlock 1 x.len 0 e').spot :=
    h.cross_apart Nat.one_pos (.inl (Nat.le_of_eq (Nat.zero_add _))) he he'
  -- Both are block number `x.len / x.sliceLen` of the file.
  rw [spot_gpuBlock heven he, gpuBlock, hlen', ← hlenEq, Nat.zero_div, Nat.zero_add] at hapart
  exact absurd hapart (Spot.not_apart rfl rfl x.sliceLen_pos x.sliceLen_pos)

/-- On one file that is large enough, no check of an evenly cut group fails. -/
theorem passes_gpuBlock {cap : Nat} (heven : x.granule ≤ x.maxIo ∨ x.maxIo ∣ x.granule)
    (hlen : x.sliceLen ≤ x.len) (he : x.entries[j]? = some e)
    (hcap : (off / x.sliceLen + j + 1) * x.sliceLen ≤ cap) :
    passes [cap] x.len (gpuBlock 1 off j e) = true := by
  have hpos := x.sliceLen_pos
  have hstart : 4096 ∣ (off / x.sliceLen + j) * x.sliceLen :=
    Nat.dvd_mul_left_of_dvd x.dvd_sliceLen _
  have hpage := Nat.mod_eq_zero_of_dvd x.dvd_sliceLen
  rw [Nat.succ_mul] at hcap
  rw [passes, spot_gpuBlock heven he, stripe_one, checkFileAccessSafety_iff, List.getD_cons_zero]
  dsimp only
  omega

/-- Of a tensor that is longer than the group, the rest is not read back. -/
theorem KeptFrom.le_granule (h : KeptFrom x y) (hother : KeptFrom y x) : x.len ≤ x.granule := by
  by_contra hlong
  have hlen := h.sliceLen_eq
  have hx : x.sliceLen ≤ x.len := Nat.le_trans (Nat.min_le_left _ _) h.granule_le
  have hy : y.sliceLen ≤ y.len := Nat.le_trans (Nat.min_le_left _ _) hother.granule_le
  -- One file with room for both: `x` at its start, and `y` right after it.
  let cap := (x.len + x.entries.length + y.entries.length) * x.sliceLen
  have hpx : ∀ io ∈ assigned .single [cap].length 0 x.entries, passes [cap] x.len io = true := by
    intro io hio
    rcases mem_assigned.mp hio with ⟨j, e, he, rfl⟩
    have hj := (List.getElem?_eq_some_iff.mp he).1
    refine passes_gpuBlock h.even hx he (Nat.mul_le_mul_right _ ?_)
    rw [Nat.zero_div]
    omega
  have hpy : ∀ io ∈ assigned .single [cap].length x.len y.entries, passes [cap] y.len io = true := by
    intro _ hio
    rcases mem_assigned.mp hio with ⟨j, e, he, rfl⟩
    have hj := (List.getElem?_eq_some_iff.mp he).1
    have hdiv := Nat.div_le_self x.len y.sliceLen
    refine passes_gpuBlock hother.even hy he ?_
    rw [← hlen] at hdiv ⊢
    exact Nat.mul_le_mul_right _ (by omega)
  have hback := h.roundTrip .single [cap] 0 x.len (.inl (Nat.le_of_eq (Nat.zero_add _))) hpx hpy
    _ _ _ (.refl _) (.refl _) (.refl _) (fun _ => 1) (fun _ => 1) (fun _ => 0) (fun _ => 0) _
    (.inl rfl) x.granule (by omega)
  -- The byte after the group is no destination, so it is still 0.
  rw [read, copyAll_of_ne] at hback
  · cases hback
  · intro q hq heq
    rcases List.mem_map.mp hq with ⟨p, hp, rfl⟩
    have hin := ((mem_bytes_iff hpx (.refl _) p).mp hp).inside
    rw [Prod.snd_swap] at heq
    omega

end Collisions

/-- Two transfers neither collide nor lose data, on any number of files and at any
    offsets, if and only if each tensor is exactly one group of its registration, both
    groups are cut evenly, and into slices of one length. -/
theorem collision_free_iff (x y : GpuTransfer) : CollisionFree x y ↔
      (x.len = x.granule ∧ (x.granule ≤ x.maxIo ∨ x.maxIo ∣ x.granule)) ∧
      (y.len = y.granule ∧ (y.granule ≤ y.maxIo ∨ y.maxIo ∣ y.granule)) ∧
      min x.granule x.maxIo = min y.granule y.maxIo := by
  constructor
  · rintro ⟨hxy, hyx⟩
    exact ⟨⟨Nat.le_antisymm (hxy.le_granule hyx) hxy.granule_le, hxy.even⟩,
      ⟨Nat.le_antisymm (hyx.le_granule hxy) hyx.granule_le, hyx.even⟩, hxy.sliceLen_eq⟩
  · rintro ⟨hx, hy, hlen⟩
    exact ⟨keptFrom_of_fitting hx hy hlen, keptFrom_of_fitting hy hx hlen.symm⟩

/-- A controller with a largest I/O of 128 KiB. -/
def ctrl128 : NVMeController := ⟨131072, by decide, by decide⟩

/-- What registration finds for a tensor of the given number of pages. -/
def mapped (nIoaddrs : Nat) : RegisterEnv := ⟨some nIoaddrs, true, true⟩

/-- A tensor of 256 KiB, registered without a granularity: two slices of 128 KiB. -/
def twoSlices : GpuTransfer where
  ctrls := [ctrl128]
  maxIo := 131072
  maxIo_eq := rfl
  tensor := ⟨1048576, 262144⟩
  granularity := 0
  groups := _
  registered := .inl ⟨mapped 64, rfl⟩
  ptr := 1048576
  len := 262144
  entries := _
  found := rfl

theorem collision_free_iff_twoSlices : CollisionFree twoSlices twoSlices :=
  (collision_free_iff twoSlices twoSlices).mpr
    ⟨⟨rfl, .inr (by decide)⟩, ⟨rfl, .inr (by decide)⟩, rfl⟩

/-- A tensor of 192 KiB is cut into 128 KiB and 64 KiB. On one file the second slice is
    put into the second half of the first one. -/
theorem slices_collide : ∃ groups entries, newNVMeController 128 = some ctrl128 ∧
      registerTensorMemory [ctrl128] ⟨1048576, 196608⟩ 0 (mapped 48) = some groups ∧
      lookupMappings groups 1048576 = some entries ∧
      (nvmeXferKernel 1 0 entries).map Io.spot = [⟨0, 0, 131072⟩, ⟨0, 65536, 65536⟩] :=
  ⟨_, _, rfl, rfl, rfl, rfl⟩

end Geminifs.Gemini
