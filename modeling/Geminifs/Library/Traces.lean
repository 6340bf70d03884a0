import Geminifs.Library.Runs

/-!
# What a Run Puts Out

A machine that puts out a list of events with every step, and an observer that
reads them one by one. The trace of a run is what its steps put out, joined.

`trace_invariant` is the rule for safety properties of a trace: what ties the
machine to the observer is kept by every step, and makes every event of that
step acceptable to the observer; then every event of the trace is.

`Repeats` is the form of a protocol: a word is the beginning of a sequence of
cycles. It is closed under dropping events from the end, so it says the same of
every moment of a run.

## Main definitions

* `trace`: The events of a run.
* `Repeats`: A word is the beginning of a repetition of cycles.

## Theorems

* `trace_invariant`: An invariant between machine and observer.
* `repeats_of_complete`: Complete cycles and the beginning of one more.
* `Repeats.along`: What every cycle does, a repetition does.
-/

namespace Geminifs.Runs

variable {σ α ε η : Type _} {step : σ → α → σ} {out : σ → α → List ε}

/-- The events of a run. -/
def trace (step : σ → α → σ) (out : σ → α → List ε) : σ → List α → List ε
  | _, [] => []
  | s, a :: as => out s a ++ trace step out (step s a) as

/-- An invariant between the machine and an observer of its events: if every
    step keeps it, and with it lets the observer accept the events of that step,
    then the observer accepts the whole trace. -/
theorem trace_invariant {next : η → ε → η} {P : σ → α → Prop} {Q : η → ε → Prop} {I : σ → η → Prop}
    (hstep : ∀ s h a, I s h → P s a → I (step s a) (run next h (out s a)))
    (hout : ∀ s h a, I s h → P s a → Along next Q h (out s a)) {s : σ} {h : η} {as : List α}
    (hs : I s h) (hp : Along step P s as) :
    I (run step s as) (run next h (trace step out s as)) ∧
      Along next Q h (trace step out s as) := by
  induction as generalizing s h with
  | nil => exact ⟨hs, trivial⟩
  | cons a as ih =>
    have hrest := ih (hstep s h a hs hp.1) hp.2
    rw [trace, run_append, along_append]
    exact ⟨hrest.1, hout s h a hs hp.1, hrest.2⟩

/-- The word is the beginning of a sequence of cycles. -/
def Repeats (cycles : List (List ε)) (word : List ε) : Prop :=
  ∃ ws : List (List ε), (∀ w ∈ ws, w ∈ cycles) ∧ word <+: ws.flatten

/-- Complete cycles, followed by the beginning of another one. -/
theorem repeats_of_complete {cycles ws : List (List ε)} {begun w : List ε}
    (hws : ∀ x ∈ ws, x ∈ cycles) (hw : w ∈ cycles) (hbegun : begun <+: w) :
    Repeats cycles (ws.flatten ++ begun) := by
  refine ⟨ws ++ [w], List.forall_mem_append.mpr ⟨hws, List.forall_mem_singleton.mpr hw⟩, ?_⟩
  · rw [List.flatten_append, List.flatten_singleton]
    exact (List.prefix_append_right_inj _).mpr hbegun

/-- An observer that every cycle takes back to where it started, accepting all
    its events, accepts every beginning of a repetition. -/
theorem Repeats.along {cycles : List (List ε)} {word : List ε} {next : η → ε → η}
    {Q : η → ε → Prop} {h : η}
    (hcycle : ∀ w ∈ cycles, Along next Q h w ∧ run next h w = h) (hw : Repeats cycles word) :
    Along next Q h word := by
  rcases hw with ⟨ws, hws, rest, hrest⟩
  have hall : Along next Q h ws.flatten := by
    clear hrest
    induction ws with
    | nil => trivial
    | cons w ws ih =>
      have hw := hcycle w (hws w List.mem_cons_self)
      rw [List.flatten_cons, along_append, hw.2]
      exact ⟨hw.1, ih (List.forall_mem_cons.mp hws).2⟩
  rw [← hrest, along_append] at hall
  exact hall.1

end Geminifs.Runs
