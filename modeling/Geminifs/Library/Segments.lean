import Mathlib.Algebra.Ring.Nat

/-!
# Address Spaces Made of Segments

A contiguous range of logical addresses laid out over a list of segments: the
first segment holds the first addresses, the next one those after it, and so
on. `locate` says where an address is; `findSpan` is the walk that looks for
the one segment that holds a whole range, keeping the number of addresses
passed so far.

The walk is right when it succeeds (`locate_of_findSpan`), and it succeeds on
every nonempty range that one segment holds (`findSpan_of_inside`). When the
segments do not overlap, no two addresses are in one place
(`locate_injective`).

## Main definitions

* `Segment`: A run of places.
* `locate`: The place of an address.
* `findSpan`: The walk.
* `Segment.Apart`: Two segments have no place in common.

## Theorems

* `locate_of_findSpan`: The walk returns the place of the whole range.
* `findSpan_of_inside`: The walk finds every range that one segment holds.
* `locate_holds`: An address is in one of the segments.
* `locate_injective`, `locate_ne_of_apart`: Addresses in segments that do not
  overlap.
-/

namespace Geminifs

/-- A run of `len` places from `start` on. -/
structure Segment where
  start : Nat
  len : Nat
  deriving DecidableEq, Repr

variable (segs : List Segment)

namespace Segment

/-- The two segments have no place in common. -/
def Apart (s t : Segment) : Prop := s.start + s.len ≤ t.start ∨ t.start + t.len ≤ s.start

/-- How many addresses a list of segments holds. -/
def total : Nat := (segs.map Segment.len).sum

@[simp] theorem total_nil : total [] = 0 := rfl

@[simp] theorem total_cons (s : Segment) (segs : List Segment) :
    total (s :: segs) = s.len + total segs := by
  simp only [total, List.map_cons, List.sum_cons]

/-- The place of the address `i`. -/
def locate : List Segment → Nat → Option Nat
  | [], _ => none
  | s :: segs, i => if i < s.len then some (s.start + i) else locate segs (i - s.len)

/-- The walk that looks for the segment holding the addresses from `first` up
    to `last`, with `cursor` addresses passed. -/
def findSpan (cursor first last : Nat) : List Segment → Option Nat
  | [] => none
  | s :: segs =>
    if cursor ≤ first ∧ last ≤ cursor + s.len then some (s.start + (first - cursor))
    else findSpan (cursor + s.len) first last segs

/-- When the walk succeeds, it has the places of the whole range. -/
theorem locate_of_findSpan {first last : Nat} (hlt : first < last) (segs : List Segment) :
    ∀ {cursor p : Nat}, findSpan cursor first last segs = some p →
      cursor ≤ first ∧ ∀ j, first + j < last → locate segs (first + j - cursor) = some (p + j) := by
  induction segs with
  | nil =>
    intro cursor p h
    cases h
  | cons s segs ih =>
    intro cursor p h
    rw [findSpan] at h
    by_cases hin : cursor ≤ first ∧ last ≤ cursor + s.len
    · rw [if_pos hin, Option.some.injEq] at h
      refine ⟨hin.1, fun j hj => ?_⟩
      rw [locate, if_pos (by omega)]
      exact congrArg some (by omega)
    · -- The segment is passed, and its addresses are subtracted.
      rw [if_neg hin] at h
      have hrest := ih h
      refine ⟨by omega, fun j hj => ?_⟩
      rw [locate, if_neg (by omega), ← hrest.2 j hj]
      exact congrArg (locate segs) (by omega)

/-- The walk finds every nonempty range that one of the segments holds. -/
theorem findSpan_of_inside {first last : Nat} (hlt : first < last) (s : Segment)
    (after : List Segment) (before : List Segment) :
    ∀ (cursor : Nat), cursor + total before ≤ first → last ≤ cursor + total before + s.len →
      findSpan cursor first last (before ++ s :: after) =
        some (s.start + (first - (cursor + total before))) := by
  induction before with
  | nil =>
    intro cursor hfirst hlast
    rw [List.nil_append, findSpan, if_pos ⟨hfirst, hlast⟩]
    rfl
  | cons t before ih =>
    intro cursor hfirst hlast
    rw [total_cons] at hfirst hlast
    -- The range starts after this segment, so it cannot end within it.
    rw [List.cons_append, findSpan, if_neg (by omega),
      ih (cursor + t.len) (by omega) (by omega), total_cons]
    exact congrArg some (by omega)

/-- An address is in one of the segments. -/
theorem locate_holds :
    ∀ {i b : Nat}, locate segs i = some b → ∃ s ∈ segs, s.start ≤ b ∧ b < s.start + s.len := by
  induction segs with
  | nil =>
    intro i b h
    cases h
  | cons s segs ih =>
    intro i b h
    rw [locate] at h
    by_cases hi : i < s.len
    · rw [if_pos hi, Option.some.injEq] at h
      exact ⟨s, List.mem_cons_self, by omega, by omega⟩
    · rw [if_neg hi] at h
      rcases ih h with ⟨t, ht, hb⟩
      exact ⟨t, List.mem_cons_of_mem _ ht, hb⟩

/-- Addresses of two lists of segments that do not overlap are in different
    places. -/
theorem locate_ne_of_apart {segs segs' : List Segment}
    (h : ∀ s ∈ segs, ∀ t ∈ segs', Apart s t) {i j b c : Nat} (hi : locate segs i = some b)
    (hj : locate segs' j = some c) : b ≠ c := by
  rcases locate_holds segs hi with ⟨s, hs, hb⟩
  rcases locate_holds segs' hj with ⟨t, ht, hc⟩
  rcases h s hs t ht with hst | hst
  · omega
  · omega

/-- Two addresses are in different places when the segments do not overlap. -/
theorem locate_injective (h : segs.Pairwise Apart) :
    ∀ {i j b : Nat}, locate segs i = some b → locate segs j = some b → i = j := by
  induction segs with
  | nil =>
    intro i j b hi
    cases hi
  | cons s segs ih =>
    intro i j b hi hj
    rw [List.pairwise_cons] at h
    -- A place in the head is not in the tail.
    have hcross : ∀ k, locate segs k = some b → ¬ (s.start ≤ b ∧ b < s.start + s.len) := by
      intro k hk hb
      rcases locate_holds segs hk with ⟨t, ht, hc⟩
      rcases h.1 t ht with hst | hst
      · omega
      · omega
    rw [locate] at hi hj
    by_cases hi' : i < s.len
    · rw [if_pos hi', Option.some.injEq] at hi
      by_cases hj' : j < s.len
      · rw [if_pos hj', Option.some.injEq] at hj
        omega
      · rw [if_neg hj'] at hj
        exact absurd ⟨by omega, by omega⟩ (hcross _ hj)
    · rw [if_neg hi'] at hi
      by_cases hj' : j < s.len
      · rw [if_pos hj', Option.some.injEq] at hj
        exact absurd ⟨by omega, by omega⟩ (hcross _ hi)
      · rw [if_neg hj'] at hj
        have hsub := ih h.2 hi hj
        omega

end Segment

end Geminifs
