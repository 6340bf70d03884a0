import Geminifs.Core.Fiemap
import Mathlib.Data.List.Chain

/-!
# What Reading the Extent Map Returns

A successful `read_extents` returns the extents of the kernel's first answer,
each divided by the block size, in order and all of them, and it has synced
the file on the way.

The loop around the ioctl looks as if it could ask again, but never does: it
asks again only when an answer filled the buffer, and a filled buffer already
holds more extents than a file may have (`readLoop_fuel`).

## Main definitions

* `Fiemap.Accepted`: An extent that passes the flag and alignment checks.
* `Fiemap.contiguousFrom`, `Fiemap.upToLast`: A map without holes, and where it ends.

## Theorems

* `scanExtents_ok`: What the loop over an answer collects.
* `readLoop_fuel`: One call decides.
* `readExtents_ok`: What a successful read returns.
* `readExtents_whole_iff`: When that is the file without holes up to its last extent.
-/

namespace Geminifs

variable {blk : UInt32}

namespace Fiemap

/-- An extent that passes the flag and alignment checks. -/
structure Accepted (blk : UInt32) (ex : FiemapExtent) : Prop where
  flags : ex.feFlags &&& badFlags = 0
  physical : ex.fePhysical % blk.toUInt64 = 0
  length : ex.feLength % blk.toUInt64 = 0

variable {s s' : Scan}

/-- What one turn of the loop over an answer collects. -/
theorem scanExtent_ok {ex : FiemapExtent} (h : scanExtent blk s ex = .ok s') :
    Accepted blk ex ∧ s'.extents = s.extents ++ [toLbaExtent blk ex] ∧
      s'.extents.length ≤ kNvmeFileHeaderMaxExtents := by
  unfold scanExtent at h
  by_cases hflags : ex.feFlags &&& badFlags ≠ 0
  · rw [if_pos hflags] at h
    cases h
  rw [if_neg hflags] at h
  split_ifs at h with halign
  by_cases hmany : kNvmeFileHeaderMaxExtents < (s.extents ++ [toLbaExtent blk ex]).length
  · rw [if_pos hmany] at h
    cases h
  rw [if_neg hmany, Except.ok.injEq] at h
  push Not at hflags halign
  rw [← h]
  exact ⟨⟨hflags, halign.1, halign.2⟩, rfl, Nat.not_lt.mp hmany⟩

/-- The loop over an answer collects every extent of it, in order. -/
theorem scanExtents_ok (exs : List FiemapExtent)
    (hs : s.extents.length ≤ kNvmeFileHeaderMaxExtents) (h : scanExtents blk s exs = .ok s') :
    (∀ ex ∈ exs, Accepted blk ex) ∧ s'.extents = s.extents ++ exs.map (toLbaExtent blk) ∧
      s'.extents.length ≤ kNvmeFileHeaderMaxExtents := by
  induction exs generalizing s with
  | nil =>
    rw [scanExtents, Except.ok.injEq] at h
    rw [← h, List.map_nil, List.append_nil]
    exact ⟨nofun, rfl, hs⟩
  | cons ex exs ih =>
    rw [scanExtents] at h
    rcases hone : scanExtent blk s ex with e | t
    · rw [hone] at h
      cases h
    rw [hone] at h
    have hfirst := scanExtent_ok hone
    have hrest := ih hfirst.2.2 h
    refine ⟨List.forall_mem_cons.mpr ⟨hfirst.1, hrest.1⟩, ?_, hrest.2.2⟩
    · rw [hrest.2.1, hfirst.2.1, List.map_cons, List.append_assoc, List.singleton_append]

/-- One call decides: an answer that fills the buffer is refused before the
    loop can ask again, so more fuel changes nothing. -/
theorem readLoop_fuel (blk : UInt32) (env : FiemapEnv) (ioctl : FiemapIoctl) (fuel call : Nat)
    (s : Scan) (hs : s.extents.length ≤ kNvmeFileHeaderMaxExtents) :
    readLoop blk env ioctl (fuel + 1) call s = readLoop blk env ioctl 1 call s := by
  rw [readLoop, readLoop]
  rcases ioctl call s.cursor with _ | answer
  · rfl
  simp only
  by_cases hempty : (answer.take kFiemapMaxExtentsPerCall).isEmpty
  · rw [if_pos hempty, if_pos hempty]
  rcases hscan : scanExtents blk s (answer.take kFiemapMaxExtentsPerCall) with e | t
  · rfl
  simp only
  by_cases hdone : t.done
  · rw [if_pos hdone, if_pos hdone]
  by_cases hfew : (answer.take kFiemapMaxExtentsPerCall).length < kFiemapMaxExtentsPerCall
  · rw [if_pos hfew, if_pos hfew]
  · -- A full buffer would have been too many extents.
    have hall := scanExtents_ok _ hs hscan
    have hlen := hall.2.2
    rw [hall.2.1, List.length_append, List.length_map] at hlen
    simp only [kFiemapMaxExtentsPerCall, kNvmeFileHeaderMaxExtents] at hfew hlen
    omega

/-- What the loop over ioctl calls collects when it succeeds: all of the first
    answer. -/
theorem readLoop_ok (blk : UInt32) (env : FiemapEnv) (ioctl : FiemapIoctl) (fuel call : Nat)
    (hs : s.extents.length ≤ kNvmeFileHeaderMaxExtents)
    (h : readLoop blk env ioctl (fuel + 1) call s = .ok s') :
    ∃ answer, ioctl call s.cursor = some answer ∧
      (∀ ex ∈ answer.take kFiemapMaxExtentsPerCall, Accepted blk ex) ∧
      s'.extents = s.extents ++ (answer.take kFiemapMaxExtentsPerCall).map (toLbaExtent blk) ∧
      s'.extents.length ≤ kNvmeFileHeaderMaxExtents := by
  rw [readLoop_fuel blk env ioctl fuel call s hs, readLoop] at h
  rcases hioctl : ioctl call s.cursor with _ | answer
  · rw [hioctl] at h
    cases h
  rw [hioctl] at h
  simp only at h
  refine ⟨answer, rfl, ?_⟩
  by_cases hempty : (answer.take kFiemapMaxExtentsPerCall).isEmpty
  · rw [if_pos hempty, Except.ok.injEq] at h
    rw [List.isEmpty_iff.mp hempty, ← h, List.map_nil, List.append_nil]
    exact ⟨nofun, rfl, hs⟩
  rw [if_neg hempty] at h
  rcases hscan : scanExtents blk s (answer.take kFiemapMaxExtentsPerCall) with e | t
  · rw [hscan] at h
    cases h
  rw [hscan] at h
  -- Whichever way the round ends, it returns what the scan left.
  have ht : t = s' := by
    simp only [readLoop] at h
    split at h
    · exact Except.ok.inj h
    · split at h
      · exact Except.ok.inj h
      · exact Except.ok.inj h
  rw [← ht]
  exact scanExtents_ok _ hs hscan

end Fiemap

open Fiemap

/-- A successful read returns every extent of the kernel's first answer, in
    device blocks, and has synced the file. -/
theorem readExtents_ok {fd : Int} {env : FiemapEnv} {ioctl : FiemapIoctl}
    (h : (readExtents fd blk env ioctl).ok = true) :
    ∃ answer, ioctl 0 0 = some answer ∧ (readExtents fd blk env ioctl).extents =
        (answer.take kFiemapMaxExtentsPerCall).map (toLbaExtent blk) ∧
      (readExtents fd blk env ioctl).extents ≠ [] ∧
      (readExtents fd blk env ioctl).extents.length ≤ kNvmeFileHeaderMaxExtents ∧
      (∀ ex ∈ answer.take kFiemapMaxExtentsPerCall, Accepted blk ex) ∧
      readExtentsSyncs blk env = true := by
  unfold readExtents at h ⊢
  -- A check that fails contradicts the result; past all of them, one answer was read.
  by_cases hfd : fd < 0
  · simp [hfd] at h
  by_cases hblk : blk = 0
  · simp [hfd, hblk] at h
  by_cases hstat : env.stBlksize.getD 0 = 0
  · simp [hfd, hblk, hstat] at h
  by_cases hmult : env.stBlksize.getD 0 % blk = 0
  swap
  · simp [hfd, hblk, hstat, hmult] at h
  cases hsync : env.fsyncOk with
  | false => simp [hfd, hblk, hstat, hmult, hsync] at h
  | true =>
    simp only [hfd, hblk, hstat, hmult, hsync] at h ⊢
    rcases hloop : readLoop blk env ioctl readFuel 0 ⟨[], false, 0⟩ with e | t
    · rw [hloop] at h
      cases h
    rw [hloop] at h
    have hread := readLoop_ok blk env ioctl 1 0 (Nat.zero_le _) hloop
    rcases hread with ⟨answer, hioctl, haccept, hext, hlen⟩
    by_cases hempty : t.extents.isEmpty
    · simp [hempty] at h
    · refine ⟨answer, hioctl, ?_, ?_, ?_, haccept, ?_⟩
      · simp only [hempty]
        exact hext
      · simp only [hempty]
        exact fun hnil => hempty (List.isEmpty_iff.mpr hnil)
      · simp only [hempty]
        exact hlen
      · simp [readExtentsSyncs, hstat, hmult, hsync]

/-! ### Holes -/

namespace Fiemap

/-- The extents follow each other from byte `start` on. -/
def contiguousFrom : Nat → List FiemapExtent → Prop
  | _, [] => True
  | start, ex :: exs => ex.feLogical.toNat = start ∧ contiguousFrom (start + ex.feLength.toNat) exs

/-- The extents up to the one marked last. -/
def upToLast : List FiemapExtent → List FiemapExtent
  | [] => []
  | ex :: exs => if ex.feFlags &&& fiemapExtentLast ≠ 0 then [ex] else ex :: upToLast exs

/-- Neither a hole nor the mark of the last extent lies between two extents. -/
def Follows (ex next : FiemapExtent) : Prop :=
  ex.feFlags &&& fiemapExtentLast = 0 ∧ next.feLogical.toNat = ex.feLogical.toNat + ex.feLength.toNat

theorem upToLast_initial (exs : List FiemapExtent) : upToLast exs <+: exs := by
  induction exs with
  | nil => exact List.nil_prefix
  | cons ex exs ih =>
    rw [upToLast]
    split
    · exact List.prefix_append [ex] exs
    · exact (List.prefix_cons_inj ex).mpr ih

theorem contiguous_upToLast_iff (start : Nat) (exs : List FiemapExtent) :
    contiguousFrom start exs ∧ upToLast exs = exs ↔
      (∀ ex ∈ exs.head?, ex.feLogical.toNat = start) ∧ exs.IsChain Follows := by
  induction exs generalizing start with
  | nil => simp [contiguousFrom, upToLast]
  | cons ex exs ih =>
    rw [List.isChain_cons]
    by_cases hlast : ex.feFlags &&& fiemapExtentLast = 0
    · simp only [contiguousFrom, upToLast, hlast, Follows, ne_eq, not_true_eq_false, if_false,
        List.cons.injEq, List.head?_cons, Option.mem_some_iff, forall_eq', true_and, and_assoc]
      refine and_congr_right (fun hstart => ?_)
      rw [hstart]
      exact ih _
    · -- Behind the mark there may be no other extent.
      cases exs with
      | nil => simp [contiguousFrom, upToLast, hlast]
      | cons => simp [upToLast, hlast, Follows]

end Fiemap

/-- Holes are not looked for, and an answer is read beyond the extent marked last: what a
    successful read returns is the file up to there exactly if the kernel answers so. -/
theorem readExtents_whole_iff {fd : Int} {blk : UInt32} {env : FiemapEnv} {ioctl : FiemapIoctl}
    (h : (readExtents fd blk env ioctl).ok = true) :
    ∃ answer, ioctl 0 0 = some answer ∧
      (contiguousFrom 0 (answer.take kFiemapMaxExtentsPerCall) ∧
        (readExtents fd blk env ioctl).extents =
          (upToLast (answer.take kFiemapMaxExtentsPerCall)).map (toLbaExtent blk) ↔
        (∀ ex ∈ (answer.take kFiemapMaxExtentsPerCall).head?, ex.feLogical.toNat = 0) ∧
          (answer.take kFiemapMaxExtentsPerCall).IsChain Follows) := by
  rcases readExtents_ok h with ⟨answer, hanswer, hextents, -⟩
  refine ⟨answer, hanswer, ?_⟩
  rw [← contiguous_upToLast_iff, hextents]
  refine and_congr_right (fun _ => ⟨fun heq => ?_, fun heq => by rw [heq]⟩)
  have hlength := congrArg List.length heq
  rw [List.length_map, List.length_map] at hlength
  exact (upToLast_initial _).eq_of_length hlength.symm

/-- An answer of two extents, the first one marked with `flags` and the second one from
    `start` on. -/
def twoExtents (flags : UInt32) (start : UInt64) : List FiemapExtent :=
  [⟨0, 8192, 4096, flags⟩, ⟨start, 32768, 4096, fiemapExtentLast⟩]

/-- What is read from such an answer. -/
def readTwo (flags : UInt32) (start : UInt64) : FiemapResult :=
  readExtents 3 512 ⟨some 4096, true, 0⟩ fun _ _ => some (twoExtents flags start)

theorem readExtents_whole_iff_two : (readTwo 0 4096).extents = [⟨16, 8⟩, ⟨64, 8⟩] := by
  have hok : (readTwo 0 4096).ok = true := by decide
  rcases readExtents_whole_iff hok with ⟨answer, hanswer, hiff⟩
  cases hanswer
  refine (hiff.mpr ⟨by decide, ?_⟩).2
  simp [twoExtents, Follows, kFiemapMaxExtentsPerCall]

/-- A file with a hole is read, and so is an extent behind the one marked last. -/
theorem readExtents_hole :
    ((readTwo 0 8192).ok = true ∧ ¬ contiguousFrom 0 (twoExtents 0 8192)) ∧
      (readTwo fiemapExtentLast 4096).ok = true ∧
      (readTwo fiemapExtentLast 4096).extents = [⟨16, 8⟩, ⟨64, 8⟩] ∧
      upToLast (twoExtents fiemapExtentLast 4096) = [⟨0, 8192, 4096, fiemapExtentLast⟩] := by
  refine ⟨⟨by decide, fun h => absurd h.2.1 (by decide)⟩, by decide, by decide, by decide⟩

end Geminifs
