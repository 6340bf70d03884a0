import Mathlib.Logic.Function.Basic
import Mathlib.Data.List.Basic

/-!
# Records in Slots, with an Index

A store that keeps each record in a slot of its own, and an index of the slots
that are in use. Records are written when they change and the index now and
then, so what a reader recovers is a mixture: the slots are those of the last
index, the records are the last ones.

`recovered_of_listed` says when the mixture is what was meant, namely when the
index lists the slots in use. `recovered_replay` says when it is what was meant
at some earlier time: the index lists the slots that were in use then, and none
of these was written since. If no record is written twice, that is the only way
(`untouched_of_recovered_replay`).

## Main definitions

* `SlotDisk`: The index and the slots.
* `SlotDisk.Write`: What is written at once: a record, a blank, or the index.
* `SlotDisk.replay`: The store after a number of writes.
* `SlotDisk.recovered`: What a reader finds.

## Theorems

* `replay_cell_of_untouched`, `exists_of_touched`: What a slot holds in the end.
* `recovered_of_listed`: Recovery with an index that is up to date.
* `recovered_replay`: Recovery with an index that once was.
* `untouched_of_recovered_replay`: Its converse, for records that differ.
-/

namespace Geminifs

open Function

/-- The slots that the index lists, and what each slot holds; `none` is a slot
    without a proper record. -/
@[ext]
structure SlotDisk (ρ : Type _) where
  listed : Nat → Bool
  cell : Nat → Option ρ

namespace SlotDisk

variable {ρ : Type _}

/-- A write of one slot, or of the whole index. -/
inductive Write (ρ : Type _) where
  | record (i : Nat) (r : Option ρ)
  | index (bits : Nat → Bool)

variable (d : SlotDisk ρ)

def write : Write ρ → SlotDisk ρ
  | .record i r => { d with cell := update d.cell i r }
  | .index bits => { d with listed := bits }

/-- The store after a number of writes. -/
def replay (ws : List (Write ρ)) : SlotDisk ρ := ws.foldl write d

/-- What a reader finds: the records of the slots listed. -/
def recovered (i : Nat) : Option ρ := if d.listed i then d.cell i else none

/-- The slot is written. -/
def Touches (ws : List (Write ρ)) (i : Nat) : Prop := ∃ r, Write.record i r ∈ ws

variable {live : Nat → Option ρ} (d : SlotDisk ρ) (ws : List (Write ρ)) (i : Nat)

@[simp] theorem replay_nil : d.replay [] = d := rfl

@[simp] theorem replay_cons (w : Write ρ) (ws : List (Write ρ)) :
    d.replay (w :: ws) = (d.write w).replay ws := rfl

theorem replay_append (vs : List (Write ρ)) :
    d.replay (ws ++ vs) = (d.replay ws).replay vs := List.foldl_append

theorem write_cell_of_ne (j : Nat) (r : Option ρ) (h : j ≠ i) :
    (d.write (.record i r)).cell j = d.cell j := by
  simp only [write, update_of_ne h]

theorem write_cell_self (r : Option ρ) : (d.write (.record i r)).cell i = r := by
  simp only [write, update_self]

/-- A slot that is not written keeps what it holds. -/
theorem replay_cell_of_untouched (d : SlotDisk ρ) (i : Nat) (h : ¬ Touches ws i) :
    (d.replay ws).cell i = d.cell i := by
  induction ws generalizing d with
  | nil => rfl
  | cons w ws ih =>
    have hrest : ¬ Touches ws i := fun ⟨r, hr⟩ => h ⟨r, List.mem_cons_of_mem w hr⟩
    rw [replay_cons, ih _ hrest]
    cases w with
    | index => rfl
    | record j r =>
      have hne : i ≠ j := by
        rintro rfl
        exact h ⟨r, List.mem_cons_self⟩
      exact write_cell_of_ne d j i r hne

/-- A slot that is written holds one of the records written to it. -/
theorem exists_of_touched (d : SlotDisk ρ) (i : Nat) (h : Touches ws i) :
    ∃ r, Write.record i r ∈ ws ∧ (d.replay ws).cell i = r := by
  induction ws generalizing d with
  | nil => exact absurd h.choose_spec List.not_mem_nil
  | cons w ws ih =>
    by_cases hrest : Touches ws i
    · rcases ih (d.write w) hrest with ⟨r, hr, hcell⟩
      exact ⟨r, List.mem_cons_of_mem w hr, hcell⟩
    · -- The first write is the only one, and stays.
      rcases h with ⟨r, hr⟩
      rcases List.mem_cons.mp hr with rfl | hr
      · refine ⟨r, List.mem_cons_self, ?_⟩
        rw [replay_cons, replay_cell_of_untouched ws _ i hrest, write_cell_self]
      · exact absurd ⟨r, hr⟩ hrest

/-- With an index of the slots in use, and their records in them, a reader finds
    what is in use. -/
theorem recovered_of_listed {d : SlotDisk ρ} (hindex : ∀ i, d.listed i = (live i).isSome)
    (hcell : ∀ i r, live i = some r → d.cell i = some r) : d.recovered = live := by
  funext i
  rw [recovered, hindex]
  cases hlive : live i with
  | none => rfl
  | some r => exact hcell i r hlive

/-- A reader finds what was in use at an earlier time, if the index lists the slots
    that were, and none of them was written since. -/
theorem recovered_replay {d : SlotDisk ρ} {ws : List (Write ρ)}
    (hcell : ∀ i r, live i = some r → d.cell i = some r)
    (hindex : ∀ i, (d.replay ws).listed i = (live i).isSome)
    (hkept : ∀ i, (live i).isSome → ¬ Touches ws i) : (d.replay ws).recovered = live := by
  refine recovered_of_listed hindex (fun i r hlive => ?_)
  rw [replay_cell_of_untouched ws d i (hkept i (by rw [hlive]; rfl))]
  exact hcell i r hlive

/-- If a reader finds what was in use at an earlier time, and nothing that was
    written since is one of the records of that time, then none of their slots was
    written since. -/
theorem untouched_of_recovered_replay {d : SlotDisk ρ} {ws : List (Write ρ)}
    (hrec : (d.replay ws).recovered = live) (hnew : ∀ i r, Write.record i r ∈ ws → r ≠ live i)
    (i : Nat) (hi : (live i).isSome) : (d.replay ws).listed i = true ∧ ¬ Touches ws i := by
  have hat : (d.replay ws).recovered i = live i := congrFun hrec i
  have hlisted : (d.replay ws).listed i = true := by
    by_contra hnot
    rw [recovered, if_neg hnot] at hat
    rw [← hat] at hi
    cases hi
  refine ⟨hlisted, fun htouch => ?_⟩
  rcases exists_of_touched ws d i htouch with ⟨r, hr, hcell⟩
  rw [recovered, if_pos hlisted, hcell] at hat
  exact hnew i r hr hat

end SlotDisk

end Geminifs
