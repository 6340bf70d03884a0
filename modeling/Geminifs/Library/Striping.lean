import Mathlib.Algebra.Order.Group.Nat
import Mathlib.Algebra.Ring.Nat

/-!
# Cutting and Striping

Two ways to place bytes. `pieces` cuts a range into pieces of one size, the last of
which may be shorter. `stripe` deals blocks of one size out to several files in
turn, so that block `b` is the `b / n`th block of the file `b % n`.

Striping keeps blocks of one size apart (`stripe_apart`), and a number of blocks
needs a capacity of every file that can be read off the last block
(`stripe_fits_iff`). Neither says anything about blocks of different sizes: those
of a cut are all of one size if and only if the range is a multiple of it or
shorter (`pieces_even`, `pieces_uneven`).

## Main definitions

* `pieces`: The pieces of a range, as offsets and lengths.
* `Spot`, `Spot.Apart`: A run of bytes of one of several files.
* `stripe`: The place of a block.

## Theorems

* `getElem?_pieces`, `mem_pieces`: The pieces, by number and as a set.
* `sum_take_pieces`, `sum_pieces`: How many bytes are before a piece, and in all.
* `pieces_even`, `pieces_uneven`: When the pieces have one length.
* `Spot.Apart.ne`: Bytes of runs that are apart.
* `stripe_apart`, `stripe_fits_iff`: Blocks of one size.
-/

namespace Geminifs.Striping

/-! ### Cutting -/

/-- The pieces of the `rest` bytes from `start` on. -/
def piecesFrom (size : Nat) : Nat → Nat → Nat → List (Nat × Nat)
  | 0, _, _ => []
  | fuel + 1, start, rest =>
    if rest = 0 then []
    else (start, min rest size) ::
      piecesFrom size fuel (start + min rest size) (rest - min rest size)

/-- The offsets and lengths of the pieces of `total` bytes. -/
def pieces (size total : Nat) : List (Nat × Nat) := piecesFrom size total 0 total

variable {size total : Nat}

section

variable (hsize : 0 < size)

include hsize

/-- The induction is on the fuel: a piece has at least one byte, so there is enough
    of it as long as there is as much as there are bytes left. -/
theorem getElem?_piecesFrom (fuel : Nat) : ∀ start rest j, rest ≤ fuel →
    (piecesFrom size fuel start rest)[j]? =
      if j * size < rest then some (start + j * size, min (rest - j * size) size) else none := by
  induction fuel with
  | zero =>
    intro start rest j hrest
    rw [if_neg (by omega)]
    rfl
  | succ _ ih =>
    intro _ rest j _
    rw [piecesFrom]
    by_cases hzero : rest = 0
    · rw [if_pos hzero, if_neg (by omega)]
      rfl
    · rw [if_neg hzero]
      cases j with
      | zero =>
        rw [Nat.zero_mul, if_pos (by omega)]
        rfl
      | succ j =>
        rw [List.getElem?_cons_succ, ih _ _ _ (by omega), Nat.succ_mul]
        -- The last piece takes all that is left; a full one leaves the same question for the
        -- rest.
        rcases Nat.le_total rest size with hle | hle
        · rw [if_neg (by omega), if_neg (by omega)]
        · rw [Nat.min_eq_right hle]
          by_cases hlt : j * size < rest - size
          · rw [if_pos hlt, if_pos (by omega), Nat.add_comm (j * size) size, Nat.add_assoc,
              Nat.sub_sub]
          · rw [if_neg hlt, if_neg (by omega)]

/-- The `j`th piece. -/
theorem getElem?_pieces (j : Nat) : (pieces size total)[j]? =
      if j * size < total then some (j * size, min (total - j * size) size) else none := by
  rw [pieces, getElem?_piecesFrom hsize total 0 total j (Nat.le_refl _), Nat.zero_add]

/-- The first `j` pieces have all bytes up to the end of the last of them. -/
theorem sum_take_piecesFrom (fuel : Nat) : ∀ start rest j, rest ≤ fuel →
    (((piecesFrom size fuel start rest).take j).map Prod.snd).sum = min (j * size) rest := by
  induction fuel with
  | zero =>
    intro start rest j hrest
    rw [Nat.le_zero.mp hrest, Nat.min_zero, piecesFrom, List.take_nil]
    rfl
  | succ _ ih =>
    intro _ rest j _
    rw [piecesFrom]
    by_cases hzero : rest = 0
    · rw [if_pos hzero, hzero, Nat.min_zero, List.take_nil]
      rfl
    · rw [if_neg hzero]
      cases j with
      | zero => rw [Nat.zero_mul, Nat.zero_min]; rfl
      | succ j =>
        -- The first piece and the first `j` of what it leaves.
        rw [List.take_succ_cons, List.map_cons, List.sum_cons, ih _ _ _ (by omega), Nat.succ_mul]
        omega

theorem sum_take_pieces (j : Nat) :
    (((pieces size total).take j).map Prod.snd).sum = min (j * size) total :=
  sum_take_piecesFrom hsize total 0 total j (Nat.le_refl _)

theorem mem_pieces {p : Nat × Nat} : p ∈ pieces size total ↔
      ∃ j, j * size < total ∧ p = (j * size, min (total - j * size) size) := by
  rw [List.mem_iff_getElem?]
  refine exists_congr fun j => ?_
  rw [getElem?_pieces hsize]
  by_cases h : j * size < total
  · rw [if_pos h, Option.some.injEq, eq_comm]
    exact (and_iff_right h).symm
  · rw [if_neg h]
    exact iff_of_false nofun fun hp => h hp.1

theorem lt_length_pieces (j : Nat) : j < (pieces size total).length ↔ j * size < total := by
  by_cases h : j * size < total
  · exact iff_of_true (List.getElem?_eq_some_iff.mp ((getElem?_pieces hsize j).trans (if_pos h))).1 h
  · refine iff_of_false (Nat.not_lt.mpr (List.getElem?_eq_none_iff.mp ?_)) h
    exact (getElem?_pieces hsize j).trans (if_neg h)

/-- The pieces have all bytes. -/
theorem sum_pieces : ((pieces size total).map Prod.snd).sum = total := by
  have hend : ¬ (pieces size total).length * size < total :=
    (lt_length_pieces hsize _).not.mp (Nat.lt_irrefl _)
  calc ((pieces size total).map Prod.snd).sum
      = (((pieces size total).take (pieces size total).length).map Prod.snd).sum := by
        rw [List.take_length]
    _ = min ((pieces size total).length * size) total := sum_take_pieces hsize _
    _ = total := Nat.min_eq_right (Nat.not_lt.mp hend)

end

/-- A range that is not longer than a piece is not cut. -/
theorem pieces_of_le (hpos : 0 < total) (hle : total ≤ size) : pieces size total = [(0, total)] := by
  cases total with
  | zero => omega
  | succ total =>
    rw [pieces, piecesFrom, if_neg (by omega), Nat.min_eq_left hle, Nat.sub_self]
    cases total with
    | zero => rfl
    | succ => rw [piecesFrom, if_pos rfl]

/-- All pieces have one length. -/
theorem pieces_even {j : Nat} (heven : total ≤ size ∨ size ∣ total) (hj : j * size < total) :
    min (total - j * size) size = min total size := by
  rcases heven with hle | ⟨count, rfl⟩
  · -- There is only one piece.
    have hzero : j = 0 := by
      rcases Nat.eq_zero_or_pos j with h | h
      · exact h
      · have := Nat.le_mul_of_pos_left size h
        omega
    rw [hzero, Nat.zero_mul, Nat.sub_zero]
  · -- A piece that is not the last one has a full piece after it.
    rw [Nat.mul_comm size] at hj ⊢
    have hlt : j < count := Nat.lt_of_mul_lt_mul_right hj
    have hstep : (j + 1) * size ≤ count * size := Nat.mul_le_mul_right _ hlt
    rw [Nat.succ_mul] at hstep
    rw [Nat.min_eq_right (by omega), Nat.min_eq_right (by omega)]

/-- Otherwise there are at least two, and the last one is shorter. -/
theorem pieces_uneven (hsize : 0 < size) (huneven : ¬ (total ≤ size ∨ size ∣ total)) :
    ∃ q r, 0 < q ∧ 0 < r ∧ r < size ∧ total = q * size + r := by
  rcases not_or.mp huneven with ⟨-, hdvd⟩
  exact ⟨total / size, total % size, Nat.div_pos (by omega) hsize,
    Nat.pos_of_ne_zero fun h => hdvd (Nat.dvd_of_mod_eq_zero h), Nat.mod_lt _ hsize,
    (Nat.div_add_mod' total size).symm⟩

/-! ### Striping -/

/-- A run of bytes of one of several files. -/
structure Spot where
  file : Nat
  start : Nat
  len : Nat
  deriving DecidableEq, Repr

/-- The two runs have no byte in common. -/
def Spot.Apart (a b : Spot) : Prop :=
  a.file ≠ b.file ∨ a.start + a.len ≤ b.start ∨ b.start + b.len ≤ a.start

instance (a b : Spot) : Decidable (a.Apart b) :=
  inferInstanceAs (Decidable (a.file ≠ b.file ∨ _ ∨ _))

/-- A byte of one run is no byte of the other. -/
theorem Spot.Apart.ne {a b : Spot} {k l : Nat} (h : a.Apart b) (hk : k < a.len) (hl : l < b.len) :
    (a.file, a.start + k) ≠ (b.file, b.start + l) := by
  intro heq
  rcases Prod.mk.inj heq with ⟨hfile, hbyte⟩
  rcases h with h | h | h
  · exact h hfile
  · omega
  · omega

/-- A run with bytes is not apart from one that begins where it begins. -/
theorem Spot.not_apart {a b : Spot} (hfile : a.file = b.file) (hstart : a.start = b.start)
    (ha : 0 < a.len) (hb : 0 < b.len) : ¬ a.Apart b := by
  rintro (h | h | h)
  · exact h hfile
  · omega
  · omega

/-- The place of block `blk`, of `len` bytes, on `n` files. -/
def stripe (n len blk : Nat) : Spot := ⟨blk % n, blk / n * len, len⟩

theorem stripe_one (len blk : Nat) : stripe 1 len blk = ⟨0, blk * len, len⟩ := by
  rw [stripe, Nat.mod_one, Nat.div_one]

theorem stripe_of_lt {n blk : Nat} (len : Nat) (h : blk < n) : stripe n len blk = ⟨blk, 0, len⟩ := by
  rw [stripe, Nat.mod_eq_of_lt h, Nat.div_eq_of_lt h, Nat.zero_mul]

/-- Different blocks are apart. -/
theorem stripe_apart {n len b b' : Nat} (h : b ≠ b') : (stripe n len b).Apart (stripe n len b') := by
  by_cases hfile : b % n = b' % n
  · -- In one file, it is the quotients that differ.
    have hdiv : b / n ≠ b' / n := fun heq => h <| by
      rw [← Nat.div_add_mod b n, ← Nat.div_add_mod b' n, heq, hfile]
    rcases Nat.lt_or_gt_of_ne hdiv with hlt | hlt
    · have hle := Nat.mul_le_mul_right len hlt
      rw [Nat.succ_mul] at hle
      exact .inr (.inl hle)
    · have hle := Nat.mul_le_mul_right len hlt
      rw [Nat.succ_mul] at hle
      exact .inr (.inr hle)
  · exact .inl hfile

/-- The first `k` blocks fit if and only if the last one does. -/
theorem stripe_fits_iff {n len k cap : Nat} (hn : 0 < n) :
    (∀ b < k, (stripe n len b).start + len ≤ cap) ↔ (k + n - 1) / n * len ≤ cap := by
  have hend : ∀ b, (stripe n len b).start + len = (b + n) / n * len := fun b => by
    rw [stripe, Nat.add_div_right b hn, Nat.succ_mul]
  constructor
  · intro h
    cases k with
    | zero =>
      rw [Nat.div_eq_of_lt (by omega), Nat.zero_mul]
      exact Nat.zero_le _
    | succ k =>
      have hlast := h k (Nat.lt_succ_self k)
      rw [hend] at hlast
      rwa [Nat.succ_add]
  · intro h b _
    rw [hend]
    exact Nat.le_trans (Nat.mul_le_mul_right _ (Nat.div_le_div_right (by omega))) h

end Geminifs.Striping
