import Geminifs.Library.Bytes

/-!
# Transfer Loops over Partial System Calls

The loop around `read`, `write`, `pread` and `pwrite` that keeps asking for
what is left until nothing is. A call may be interrupted (and is repeated),
may fail, may move fewer bytes than asked for, or may move none.

What the calls return is a list given in advance. It may run out before the
loop is done: the machine then stopped inside a call, and the transfer is left
`pending`. That is how a crash inside the loop appears.

The loop records the calls it made and where it stood after each, so a caller
can ask both what was touched (`transferLoop_requests`) and what was moved
(`transferLoop_complete`).

## Main definitions

* `IoResult`: What one call returned.
* `IoEnd`: How the loop ended.
* `transferLoop`: The loop, from a number of bytes already moved.

## Theorems

* `transferLoop_induct`: The induction over the loop.
* `transferLoop_requests`: Every call asks for exactly the bytes left.
* `transferLoop_first`: The first call asks for the whole transfer.
* `transferLoop_complete`: A complete transfer moved every byte.
* `transferLoop_zero`: Nothing is called for an empty transfer.
-/

namespace Geminifs

/-- What one call returned: interrupted (`EINTR`), another error, or a number
    of bytes. A call never moves more than it was asked to. -/
inductive IoResult where
  | interrupted
  | failed
  | moved (r : Nat)
  deriving DecidableEq, Repr

/-- How a transfer ended: every byte moved, a call moved nothing, a call
    failed, or the machine stopped inside a call. -/
inductive IoEnd where
  | complete
  | stalled
  | failed
  | pending
  deriving DecidableEq, Repr

/-- The record of one transfer. -/
structure Transfer where
  /-- Each call: how many bytes were already moved, and how many it asked for. -/
  requests : List (Nat × Nat)
  /-- The number of bytes moved, after each call that moved some. -/
  marks : List Nat
  /-- The number of bytes moved in the end. -/
  moved : Nat
  ending : IoEnd
  /-- The results the loop did not consume. -/
  rest : List IoResult
  deriving DecidableEq, Repr

/-- Move `remaining` bytes, with `done` bytes moved before. -/
def transferLoop (done remaining : Nat) : List IoResult → Transfer
  | [] =>
    if remaining = 0 then ⟨[], [], done, .complete, []⟩
    else ⟨[(done, remaining)], [], done, .pending, []⟩
  | r :: rs =>
    if remaining = 0 then ⟨[], [], done, .complete, r :: rs⟩
    else
      match r with
      | .interrupted =>
        let t := transferLoop done remaining rs
        { t with requests := (done, remaining) :: t.requests }
      | .failed => ⟨[(done, remaining)], [], done, .failed, rs⟩
      | .moved k =>
        let n := min k remaining
        if n = 0 then ⟨[(done, remaining)], [], done, .stalled, rs⟩
        else
          let t := transferLoop (done + n) (remaining - n) rs
          { t with requests := (done, remaining) :: t.requests, marks := (done + n) :: t.marks }

variable (done remaining : Nat) (rs : List IoResult)

/-- Nothing is called for an empty transfer. -/
theorem transferLoop_zero : transferLoop done 0 rs = ⟨[], [], done, .complete, rs⟩ := by
  cases rs with
  | nil => rfl
  | cons => simp only [transferLoop, if_true]

/-- The induction that every fact about the loop is proved by. The loop is over, it
    stops at a call that moves nothing, it repeats a call, or it goes on with
    what is left after one. -/
theorem transferLoop_induct {motive : Nat → Nat → Transfer → Prop}
    (ends : ∀ done rs, motive done 0 ⟨[], [], done, .complete, rs⟩)
    (stops : ∀ done remaining ending rs, remaining ≠ 0 → ending ≠ .complete →
      motive done remaining ⟨[(done, remaining)], [], done, ending, rs⟩)
    (repeats : ∀ done remaining t, remaining ≠ 0 → motive done remaining t →
      motive done remaining { t with requests := (done, remaining) :: t.requests })
    (goesOn : ∀ done remaining n t, 0 < n → n ≤ remaining → motive (done + n) (remaining - n) t →
      motive done remaining { t with requests := (done, remaining) :: t.requests,
                                     marks := (done + n) :: t.marks })
    (done remaining : Nat) (rs : List IoResult) :
    motive done remaining (transferLoop done remaining rs) := by
  fun_induction transferLoop done remaining rs with
  | case1 done => exact ends done []
  | case2 done remaining h0 => exact stops done remaining .pending [] h0 (by simp)
  | case3 done r rs => exact ends done (r :: rs)
  | case4 done remaining _ h0 t ih => exact repeats done remaining t h0 ih
  | case5 done remaining rs h0 => exact stops done remaining .failed rs h0 (by simp)
  | case6 done remaining rs h0 => exact stops done remaining .stalled rs h0 (by simp)
  | case7 done remaining _ _ _ n hn t ih =>
    exact goesOn done remaining n t (Nat.pos_of_ne_zero hn) (Nat.min_le_right _ _) ih

/-- Every call asks for exactly the bytes that are left: it starts at or after
    the bytes already moved and ends where the transfer ends. -/
theorem transferLoop_requests :
    ∀ q ∈ (transferLoop done remaining rs).requests,
      done ≤ q.1 ∧ 0 < q.2 ∧ q.1 + q.2 = done + remaining := by
  refine transferLoop_induct (motive := fun done remaining t => ∀ q ∈ t.requests,
    done ≤ q.1 ∧ 0 < q.2 ∧ q.1 + q.2 = done + remaining) ?_ ?_ ?_ ?_ done remaining rs
  · intro done rs q hq
    cases hq
  · intro done remaining _ _ h0 _ q hq
    rw [List.mem_singleton.mp hq]
    exact ⟨Nat.le_refl _, Nat.pos_of_ne_zero h0, rfl⟩
  · intro done remaining t h0 ih
    exact List.forall_mem_cons.mpr ⟨⟨Nat.le_refl _, Nat.pos_of_ne_zero h0, rfl⟩, ih⟩
  · intro _ _ n t hpos hle ih
    refine List.forall_mem_cons.mpr
      ⟨⟨Nat.le_refl _, Nat.lt_of_lt_of_le hpos hle, rfl⟩, fun q hq => ?_⟩
    -- The later calls start after the bytes this one moved.
    have hlater := ih q hq
    omega

/-- The first call of a transfer that is not empty asks for all of it. -/
theorem transferLoop_first (h : remaining ≠ 0) :
    (done, remaining) ∈ (transferLoop done remaining rs).requests := by
  revert h
  refine transferLoop_induct (motive := fun done remaining t => remaining ≠ 0 →
    (done, remaining) ∈ t.requests) ?_ ?_ ?_ ?_ done remaining rs
  · exact fun done rs h => absurd rfl h
  · exact fun done remaining _ _ _ _ _ => List.mem_singleton_self _
  · exact fun done remaining t _ _ _ => List.mem_cons_self
  · exact fun _ _ n t _ _ _ _ => List.mem_cons_self

/-- A complete transfer moved every byte. -/
theorem transferLoop_complete
    (h : (transferLoop done remaining rs).ending = .complete) :
    (transferLoop done remaining rs).moved = done + remaining := by
  revert h
  refine transferLoop_induct (motive := fun done remaining t => t.ending = .complete →
    t.moved = done + remaining) ?_ ?_ ?_ ?_ done remaining rs
  · exact fun done rs _ => rfl
  · exact fun done remaining _ _ _ hending h => absurd h hending
  · exact fun done remaining t _ ih h => ih h
  · intro done remaining n t _ _ ih h
    have hmoved : t.moved = done + n + (remaining - n) := ih h
    simp only
    omega

end Geminifs
