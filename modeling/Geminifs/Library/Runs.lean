import Mathlib.Data.List.Basic

/-!
# Runs of a Deterministic Machine

A machine is a step function on a state type and an action type; a run is a
list of actions performed one after the other. Whatever the environment is
free to choose (which system call fails, what survives a crash) is part of the
action, so the step is a function and a run has no branch points.

`Along` says that every action of a run meets a condition in the state it is
performed in. It is the form hypotheses about a run take, since a condition on
an action usually depends on where the machine is, and it is also the form
conclusions take, since a safety property asks something of every action.

`run_invariant` is the induction every safety argument uses: what one step
preserves, a whole run preserves. `along_of_invariant` is its companion for
properties of the actions themselves.

A machine that can come to an end is one whose state may be missing (`lift`), and
what its steps preserve holds as long as it goes on (`run_lift_invariant`).

## Main definitions

* `run`: The state a list of actions ends in.
* `Along`: A condition met by every action of a run.
* `Sometime`: A condition met by some action of a run.
* `lift`: A machine that can come to an end.

## Theorems

* `run_append`: Running a concatenation is running its parts in order.
* `along_append`: A condition along a concatenation splits.
* `along_mono`: A condition along a run may be weakened.
* `along_and`, `along_forall`: Several conditions along a run are one.
* `along_of_forall`: A condition on the actions alone.
* `run_image`, `along_image`: A part of the state that runs by itself, and a
  condition on it.
* `run_invariant`: What every step preserves, a run preserves.
* `along_of_invariant`: An invariant gives a property of every action.
* `run_sometime`: What an action establishes and later steps keep, holds at
  the end.
* `run_lift_invariant`: The invariant rule for a machine that can come to an end.
-/

namespace Geminifs.Runs

variable {σ α : Type _}

/-- The state a list of actions ends in. -/
def run (step : σ → α → σ) : σ → List α → σ
  | s, [] => s
  | s, a :: as => run step (step s a) as

/-- Every action of the run meets `P` in the state it is performed in. -/
def Along (step : σ → α → σ) (P : σ → α → Prop) : σ → List α → Prop
  | _, [] => True
  | s, a :: as => P s a ∧ Along step P (step s a) as

/-- Some action of the run meets `P` in the state it is performed in. -/
def Sometime (step : σ → α → σ) (P : σ → α → Prop) : σ → List α → Prop
  | _, [] => False
  | s, a :: as => P s a ∨ Sometime step P (step s a) as

variable {step : σ → α → σ}

/-- A condition that can be decided of an action can be decided along a run. -/
instance decidableAlong {P : σ → α → Prop} [∀ s a, Decidable (P s a)] :
    ∀ (s : σ) (as : List α), Decidable (Along step P s as)
  | _, [] => isTrue trivial
  | s, a :: as => @instDecidableAnd _ _ _ (decidableAlong (step s a) as)

theorem run_append (s : σ) (as bs : List α) :
    run step s (as ++ bs) = run step (run step s as) bs := by
  induction as generalizing s with
  | nil => rfl
  | cons a as ih => exact ih (step s a)

theorem run_append_cons (s : σ) (as : List α) (a : α) (bs : List α) :
    run step s (as ++ a :: bs) = run step (step (run step s as) a) bs := run_append s as (a :: bs)

variable {P Q : σ → α → Prop} {s : σ} {as : List α} {I : σ → Prop}

theorem along_append (s : σ) (as bs : List α) :
    Along step P s (as ++ bs) ↔ Along step P s as ∧ Along step P (run step s as) bs := by
  induction as generalizing s with
  | nil => simp only [List.nil_append, Along, run, true_and]
  | cons a as ih => simp only [List.cons_append, Along, run, ih, and_assoc]

theorem along_mono (h : ∀ s a, P s a → Q s a) (hp : Along step P s as) : Along step Q s as := by
  induction as generalizing s with
  | nil => trivial
  | cons a as ih => exact ⟨h s a hp.1, ih hp.2⟩

theorem along_and (hp : Along step P s as) (hq : Along step Q s as) :
    Along step (fun s a => P s a ∧ Q s a) s as := by
  induction as generalizing s with
  | nil => trivial
  | cons a as ih => exact ⟨⟨hp.1, hq.1⟩, ih hp.2 hq.2⟩

/-- Any number of conditions along a run are one. -/
theorem along_forall {ι : Sort _} {P : ι → σ → α → Prop} (h : ∀ i, Along step (P i) s as) :
    Along step (fun s a => ∀ i, P i s a) s as := by
  induction as generalizing s with
  | nil => trivial
  | cons a as ih => exact ⟨fun i => (h i).1, ih (fun i => (h i).2)⟩

/-- A condition on the actions alone holds along any run of them. -/
theorem along_of_forall (h : ∀ t, ∀ a ∈ as, P t a) : Along step P s as := by
  induction as generalizing s with
  | nil => trivial
  | cons a as ih =>
    exact ⟨h s a List.mem_cons_self, ih (fun t b hb => h t b (List.mem_cons_of_mem _ hb))⟩

/-- What a machine shows of its state, if that is a machine too. -/
theorem run_image {τ : Type _} {view : τ → α → τ} {f : σ → τ}
    (hf : ∀ s a, f (step s a) = view (f s) a) (s : σ) (as : List α) :
    f (run step s as) = run view (f s) as := by
  induction as generalizing s with
  | nil => rfl
  | cons a as ih =>
    rw [run, run, ih, hf]

/-- A condition on what a machine shows of its state, if that is a machine too. -/
theorem along_image {τ : Type _} {view : τ → α → τ} {f : σ → τ}
    (hf : ∀ s a, f (step s a) = view (f s) a) {P : τ → α → Prop} (h : Along view P (f s) as) :
    Along step (fun s a => P (f s) a) s as := by
  induction as generalizing s with
  | nil => trivial
  | cons a as ih =>
    rw [Along, ← hf] at h
    exact ⟨h.1, ih h.2⟩

/-- What every step that meets `P` preserves, a run whose steps all meet `P`
    preserves. -/
theorem run_invariant (hstep : ∀ s a, I s → P s a → I (step s a)) (hs : I s)
    (hp : Along step P s as) : I (run step s as) := by
  induction as generalizing s with
  | nil => exact hs
  | cons a as ih => exact ih (hstep s a hs hp.1) hp.2

/-- An invariant that makes every step meet `Q` makes a whole run meet it. -/
theorem along_of_invariant (hstep : ∀ s a, I s → P s a → I (step s a))
    (hq : ∀ s a, I s → P s a → Q s a) (hs : I s) (hp : Along step P s as) : Along step Q s as := by
  induction as generalizing s with
  | nil => trivial
  | cons a as ih => exact ⟨hq s a hs hp.1, ih (hstep s a hs hp.1) hp.2⟩

/-- A run with an invariant, in which some action establishes `R` and every
    later one keeps it, ends in a state where `R` holds. -/
theorem run_sometime {E : σ → α → Prop} {R : σ → Prop} (hstep : ∀ s a, I s → P s a → I (step s a))
    (hest : ∀ s a, I s → P s a → E s a → R (step s a))
    (hkeep : ∀ s a, I s → P s a → R s → R (step s a)) (hs : I s) (hp : Along step P s as)
    (he : Sometime step E s as) : R (run step s as) := by
  induction as generalizing s with
  | nil => exact he.elim
  | cons a as ih =>
    have hs' := hstep s a hs hp.1
    rcases he with he | he
    · -- The action itself establishes `R`; the rest of the run keeps it.
      have hr := hest s a hs hp.1 he
      have hboth := run_invariant (I := fun t => I t ∧ R t)
        (fun t b ht hb => ⟨hstep t b ht.1 hb, hkeep t b ht.1 hb ht.2⟩) ⟨hs', hr⟩ hp.2
      exact hboth.2
    · exact ih hs' hp.2 he

/-- A machine whose steps can come to an end, where it stays. -/
def lift (step : σ → α → Option σ) : Option σ → α → Option σ := fun s a => s.bind (step · a)

theorem run_lift_none (step : σ → α → Option σ) (as : List α) : run (lift step) none as = none := by
  induction as with
  | nil => rfl
  | cons a as ih => exact ih

/-- What every step that meets `P` preserves, is preserved as long as a run goes on
    and its steps meet `P`. -/
theorem run_lift_invariant {step : σ → α → Option σ}
    (hstep : ∀ s a t, I s → P s a → step s a = some t → I t) {t : σ} (hs : I s)
    (hp : Along (lift step) (fun s a => ∀ t, s = some t → P t a) (some s) as)
    (ht : run (lift step) (some s) as = some t) : I t := by
  induction as generalizing s with
  | nil =>
    cases ht
    exact hs
  | cons a as ih =>
    cases hnext : step s a with
    | none =>
      have hend : lift step (some s) a = none := hnext
      rw [run, hend, run_lift_none] at ht
      cases ht
    | some s' =>
      have hgo : lift step (some s) a = some s' := hnext
      rw [Along, hgo] at hp
      rw [run, hgo] at ht
      exact ih (hstep s a s' hs (hp.1 s rfl) hnext) hp.2 ht

end Geminifs.Runs
