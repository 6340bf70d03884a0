import Mathlib.Data.List.Nodup
import Geminifs.Core.Snvme.UserQueues

/-!
# The Pool of User Queue Ids

What the functions on the pool do to the set of ids in use. An id is handed out
as a 16-bit number, so the bits and the ids agree only while the pool ends below
65536; that is what `Proper` asks for.

## Main definitions

* `UserQidPool.Covers`: The id lies in the pool.
* `UserQidPool.inUse`: The id's bit is set.
* `UserQidPool.Proper`: The pool is not empty and its ids have 16 bits.
* `UserQidPool.Taken`: What a pool is after some of its free ids were taken.

## Theorems

* `UserQidPool.inUse_freeAll`: Freeing unmarks the ids given and no others.
* `UserQidPool.alloc_some`: An allocation takes as many free ids as asked for.
* `UserQidPool.alloc_none`: An allocation that fails changes nothing.
* `UserQidPool.Taken.inUse_freeAll`: Freeing what was taken.
* `userQidPoolInit_ok`: Where a pool comes from.
-/

namespace Geminifs.Snvme

namespace UserQidPool

variable {p p' : UserQidPool} {qids : List Nat}

variable (p)

def Covers (q : Nat) : Prop := p.first ≤ q ∧ q ≤ p.last

/-- The id lies in the pool and its bit is set. -/
def inUse (q : Nat) : Bool :=
  decide (p.first ≤ q) && decide (q ≤ p.last) && p.bitmap (q - p.first)

theorem inUse_iff (q : Nat) : p.inUse q = true ↔ p.Covers q ∧ p.bitmap (q - p.first) = true := by
  simp only [inUse, Covers, Bool.and_eq_true, decide_eq_true_eq]

variable {p}

/-- The pool has an id, and its ids have 16 bits. -/
structure Proper (p : UserQidPool) : Prop where
  nonempty : p.first ≤ p.last
  short : p.last < 65536

/-- Only the range of a pool matters for that. -/
theorem Proper.of_range (hp : p.Proper) (hrange : p'.first = p.first ∧ p'.last = p.last) :
    p'.Proper where
  nonempty := by rw [hrange.1, hrange.2]; exact hp.nonempty
  short := by rw [hrange.2]; exact hp.short

variable (p)

@[simp] theorem free_first (qid : Nat) : (p.free qid).first = p.first := by
  rw [free]
  split <;> rfl

@[simp] theorem free_last (qid : Nat) : (p.free qid).last = p.last := by
  rw [free]
  split <;> rfl

/-- Freeing an id unmarks it and no other, whether or not the pool covers it. -/
theorem inUse_free (qid q : Nat) : (p.free qid).inUse q = (p.inUse q && !decide (q = qid)) := by
  rw [Bool.eq_iff_iff, inUse_iff, Bool.and_eq_true, inUse_iff, Covers, Covers, free]
  by_cases hout : qid < p.first ∨ p.last < qid
  · -- The id is not in the pool, so no id of the pool is it.
    rw [if_pos hout]
    have hne : p.first ≤ q ∧ q ≤ p.last → q ≠ qid := by omega
    constructor
    · rintro ⟨hcov, hbit⟩
      exact ⟨⟨hcov, hbit⟩, by simpa using hne hcov⟩
    · exact fun h => h.1
  · rw [if_neg hout]
    simp only [Bitmap.clearBit, Function.update_apply, Bool.not_eq_true', decide_eq_false_iff_not]
    constructor
    · rintro ⟨hcov, hbit⟩
      split_ifs at hbit with hsame
      exact ⟨⟨hcov, hbit⟩, fun heq => hsame (by rw [heq])⟩
    · rintro ⟨⟨hcov, hbit⟩, hne⟩
      refine ⟨hcov, ?_⟩
      rw [if_neg (by omega)]
      exact hbit

variable {p}

theorem freeAll_range (qids : List Nat) (p : UserQidPool) :
    (p.freeAll qids).first = p.first ∧ (p.freeAll qids).last = p.last := by
  induction qids generalizing p with
  | nil => exact ⟨rfl, rfl⟩
  | cons qid qids ih =>
    have hrest := ih (p.free qid)
    rw [free_first, free_last] at hrest
    exact hrest

/-- Freeing a list of ids unmarks them and no others. -/
theorem inUse_freeAll (qids : List Nat) (p : UserQidPool) (q : Nat) :
    (p.freeAll qids).inUse q = (p.inUse q && !decide (q ∈ qids)) := by
  induction qids generalizing p with
  | nil => simp [freeAll]
  | cons qid qids ih =>
    have hstep : p.freeAll (qid :: qids) = (p.free qid).freeAll qids := rfl
    rw [hstep, ih, inUse_free, Bool.and_assoc]
    simp only [← Bool.not_or, List.mem_cons, Bool.decide_or]

/-- `p'` is `p` after the free ids of the list were taken from it. -/
structure Taken (p p' : UserQidPool) (qids : List Nat) : Prop where
  first : p'.first = p.first
  last : p'.last = p.last
  nodup : qids.Nodup
  covers : ∀ q ∈ qids, p.Covers q
  free : ∀ q ∈ qids, p.inUse q = false
  inUse : ∀ q, p'.inUse q = (p.inUse q || decide (q ∈ qids))

theorem Taken.range (h : Taken p p' qids) :
    p'.first = p.first ∧ p'.last = p.last := ⟨h.first, h.last⟩

/-- Freeing ids afterwards does not move the pool either. -/
theorem Taken.freeAll_range (h : Taken p p' qids) (ks : List Nat) :
    (p'.freeAll ks).first = p.first ∧ (p'.freeAll ks).last = p.last := by
  have hfree := UserQidPool.freeAll_range ks p'
  exact ⟨hfree.1.trans h.first, hfree.2.trans h.last⟩

theorem taken_nil (p : UserQidPool) : Taken p p [] where
  first := rfl
  last := rfl
  nodup := List.nodup_nil
  covers := nofun
  free := nofun
  inUse := by simp

/-- One more turn of the loop: the first clear bit is a free id, and the number
    handed out is that id. -/
theorem Taken.next {bit : Nat} (hp : p.Proper) (h : Taken p p' qids)
    (hfind : p'.bitmap.findFirstZeroBit p'.size = bit) (hbit : bit < p'.size) :
    Taken p { p' with bitmap := p'.bitmap.setBit bit } (qids ++ [u16 (p'.first + bit)]) := by
  have hclear : p'.bitmap bit = false := by
    have hc := Bitmap.findFirstZeroBit_clear (hfind ▸ hbit)
    rwa [hfind] at hc
  have hle := hp.nonempty
  have hshort := hp.short
  rw [size, h.first, h.last] at hbit
  -- The id has 16 bits.
  have hid : u16 (p'.first + bit) = p.first + bit := by
    rw [h.first]
    exact Nat.mod_eq_of_lt (by omega)
  rw [hid]
  have hcov : p.Covers (p.first + bit) := ⟨by omega, by omega⟩
  -- It was not in use in `p'`, hence neither in `p` nor among those taken.
  have hnot : p'.inUse (p.first + bit) = false := by
    rw [← Bool.not_eq_true, inUse_iff, h.first, Nat.add_sub_cancel_left, hclear]
    simp
  rw [h.inUse, Bool.or_eq_false_iff] at hnot
  have hnew : p.first + bit ∉ qids := by simpa using hnot.2
  refine ⟨h.first, h.last, ?_,
    List.forall_mem_append.mpr ⟨h.covers, List.forall_mem_singleton.mpr hcov⟩,
    List.forall_mem_append.mpr ⟨h.free, List.forall_mem_singleton.mpr hnot.1⟩, ?_⟩
  · exact List.nodup_append_comm.mp (List.nodup_cons.mpr ⟨hnew, h.nodup⟩)
  · intro q
    have hq := h.inUse q
    rw [Bool.eq_iff_iff, inUse_iff, Covers, h.first, h.last] at hq ⊢
    simp only [Bool.or_eq_true, decide_eq_true_eq, List.mem_append, List.mem_singleton,
      Bitmap.setBit, Function.update_apply] at hq ⊢
    by_cases hsame : q = p.first + bit
    · -- The bit that was just set.
      refine iff_of_true ⟨by omega, ?_⟩ (.inr (.inr hsame))
      rw [if_pos (by omega)]
    · rw [← or_assoc, ← hq]
      constructor
      · rintro ⟨hcovq, hb⟩
        rw [if_neg (by omega)] at hb
        exact .inl ⟨hcovq, hb⟩
      · rintro (⟨hcovq, hb⟩ | heq)
        · refine ⟨hcovq, ?_⟩
          rw [if_neg (by omega)]
          exact hb
        · exact absurd heq hsame

/-- The loop's own way back: clearing the bits of what was taken. -/
theorem Taken.rollback (h : Taken p p' qids) (q : Nat) :
    { p' with bitmap := p'.bitmap.clearAll (qids.reverse.map (· - p'.first)) }.inUse q =
      p.inUse q := by
  have hq := h.inUse q
  rw [Bool.eq_iff_iff, inUse_iff, Covers, h.first] at hq ⊢
  simp only [Bitmap.clearAll_apply, List.mem_map, List.mem_reverse, Bool.or_eq_true,
    decide_eq_true_eq] at hq ⊢
  constructor
  · rintro ⟨hcov, hbit⟩
    split_ifs at hbit with hmem
    rcases hq.mp ⟨hcov, hbit⟩ with hused | htaken
    · exact hused
    · exact absurd ⟨q, htaken, rfl⟩ hmem
  · intro hused
    have hcov := (hq.mpr (.inl hused))
    refine ⟨hcov.1, ?_⟩
    -- An id that was in use before is none of those taken.
    have hmem : ¬ ∃ a ∈ qids, a - p.first = q - p.first := by
      rintro ⟨a, ha, hsub⟩
      have hca := h.covers a ha
      have hfree := h.free a ha
      have heq : a = q := by
        have := hca.1
        omega
      rw [heq, hused] at hfree
      cases hfree
    rw [if_neg hmem]
    exact hcov.2

/-- The loop either takes as many ids as it was asked for, or leaves the pool as
    it was before the first. The induction is on the number left, with the ids
    taken so far. -/
theorem allocLoop_spec (hp : p.Proper) (nr : Nat) :
    ∀ (p' : UserQidPool) (qids : List Nat), Taken p p' qids → match allocLoop nr p' qids with
      | (r, some qids') => Taken p r qids' ∧ qids'.length = qids.length + nr
      | (r, none) => (r.first = p.first ∧ r.last = p.last) ∧ ∀ q, r.inUse q = p.inUse q := by
  induction nr with
  | zero => exact fun p' qids h => ⟨h, rfl⟩
  | succ nr ih =>
    intro p' qids h
    rw [allocLoop]
    by_cases hfull : p'.size ≤ p'.bitmap.findFirstZeroBit p'.size
    · rw [if_pos hfull]
      exact ⟨⟨h.first, h.last⟩, h.rollback⟩
    · rw [if_neg hfull]
      have hrest := ih _ _ (h.next hp rfl (by omega))
      rw [List.length_append, Nat.add_right_comm] at hrest
      rwa [← Nat.add_assoc]

/-- An allocation that succeeds takes as many free ids as asked for. -/
theorem alloc_some {nr : Nat} (hp : p.Proper) (h : p.alloc nr = (p', some qids)) :
    Taken p p' qids ∧ qids.length = nr := by
  have hspec := allocLoop_spec hp nr p [] (taken_nil p)
  rw [alloc] at h
  rw [h, List.length_nil, Nat.zero_add] at hspec
  exact hspec

/-- The number of ids, whatever the pool is. -/
theorem allocLoop_length {nr : Nat} {taken : List Nat}
    (h : allocLoop nr p taken = (p', some qids)) : qids.length = taken.length + nr := by
  induction nr generalizing p taken with
  | zero => rw [← Option.some.inj (Prod.mk.inj h).2, Nat.add_zero]
  | succ nr ih =>
    rw [allocLoop] at h
    split at h
    · exact absurd (Prod.mk.inj h).2 (by simp)
    · rw [ih h, List.length_append, List.length_singleton]
      omega

/-- An allocation that fails leaves every id as it was. -/
theorem alloc_none {nr : Nat} (hp : p.Proper) (h : p.alloc nr = (p', none)) :
    (p'.first = p.first ∧ p'.last = p.last) ∧ ∀ q, p'.inUse q = p.inUse q := by
  have hspec := allocLoop_spec hp nr p [] (taken_nil p)
  rw [alloc] at h
  rwa [h] at hspec

/-- Freeing what was taken gives back the ids that were in use. -/
theorem Taken.inUse_freeAll (h : Taken p p' qids) (q : Nat) :
    (p'.freeAll qids).inUse q = p.inUse q := by
  rw [UserQidPool.inUse_freeAll, h.inUse]
  by_cases hq : q ∈ qids
  · simp [h.free q hq]
  · simp [hq]

end UserQidPool

/-- A pool is the one there was, or is made from what the binding says. -/
theorem userQidPoolInit_ok {pool : Option UserQidPool} {ndev : NvmeDev} {ok : Bool}
    {p : UserQidPool} (h : userQidPoolInit pool ndev ok = .ok p) :
    pool = some p ∨ pool = none ∧ ndev.onlineQueues ≤ ndev.ctrlMaxIoQueues ∧
      p = ⟨ndev.onlineQueues, ndev.ctrlMaxIoQueues, Bitmap.zeros⟩ := by
  unfold userQidPoolInit at h
  cases pool with
  | some => exact .inl (by rw [Except.ok.inj h])
  | none =>
    simp only at h
    split at h
    · cases h
    split at h
    · cases h
    split_ifs at h with hle _
    exact .inr ⟨rfl, by omega, (Except.ok.inj h).symm⟩

end Geminifs.Snvme
