import Geminifs.Theory.NvmeService.Leases

/-!
# Clients that Look Dead

The reaper takes a client for dead if it may not send it a signal, if it cannot read its
start time, or if the start time is not the one recorded when it connected. The last
check is there for pids that are used again; the start time is zero if it could not be
read then.

A process that runs has one start time, and whatever is read from its `/proc/<pid>/stat`
says so (`readStarttimeImpl_text`). But a signal may be refused and a read may fail, and
either of them is enough for a silent client to lose its lease.

## Main definitions

* `ProcStat`: A line of `/proc/<pid>/stat`.
* `Shows`, `Alive`: What can be seen of a process that runs.

## Theorems

* `readStarttimeImpl_text`: The start time is found in the line.
* `isPidDead_alive_iff`: When a process that runs looks dead.
* `live_lease_dropped_iff`: When a client that runs loses its lease.
-/

namespace Geminifs.NvmeService

open LinkTree Runs

/-! ### Reading the start time -/

/-- A line of `/proc/<pid>/stat`. The name of the program can have anything in it but a
    line break; the other fields have no blanks and no brackets. -/
structure ProcStat where
  pid : Nat
  comm : Bytes
  fields : List Bytes
  starttime : Nat
  rest : List Bytes
  comm_line : 10 ∉ comm
  fields_length : fields.length = 19
  fields_plain : ∀ f ∈ fields, f ≠ [] ∧ ∀ b ∈ f, isSpace b = false ∧ b ≠ 41
  starttime_lt : starttime < 2 ^ 64
  rest_plain : ∀ f ∈ rest, ∀ b ∈ f, b ≠ 10 ∧ b ≠ 41

namespace ProcStat

/-- What is behind the name of the program. -/
def tail (p : ProcStat) : Bytes :=
  p.fields.flatMap (32 :: ·) ++ (32 :: decimal p.starttime ++ p.rest.flatMap (32 :: ·))

def text (p : ProcStat) : Bytes :=
  decimal p.pid ++ 32 :: 40 :: p.comm ++ 41 :: p.tail ++ [10]

end ProcStat

variable {x : Bytes}

theorem skipToken_append {f : Bytes} (hne : f ≠ []) (hf : ∀ b ∈ f, isSpace b = false)
    (hx : x.dropWhile (fun b => ¬ isSpace b) = x) : skipToken (32 :: f ++ x) = some x := by
  cases f with
  | nil => exact absurd rfl hne
  | cons b f =>
    have hb := hf b List.mem_cons_self
    have hdrop : (32 :: b :: f ++ x).dropWhile isSpace = b :: f ++ x := by
      rw [List.cons_append, List.dropWhile_cons_of_pos (by decide), List.cons_append,
        List.dropWhile_cons_of_neg (by rw [hb]; simp)]
    rw [skipToken, hdrop, if_neg (by simp),
      List.dropWhile_append_of_pos (fun c hc => by simp [hf c hc]), hx]

/-- Each field is one token. -/
theorem skipTokens_fields {fields : List Bytes}
    (hfields : ∀ f ∈ fields, f ≠ [] ∧ ∀ b ∈ f, isSpace b = false)
    (hx : x.dropWhile (fun b => ¬ isSpace b) = x) :
    skipTokens fields.length (fields.flatMap (32 :: ·) ++ x) = some x := by
  induction fields with
  | nil => rfl
  | cons f fields ih =>
    have hf := hfields f List.mem_cons_self
    have hrest := ih (List.forall_mem_cons.mp hfields).2
    -- What is behind a field is another blank, or what follows all of them.
    have hnext : (fields.flatMap (32 :: ·) ++ x).dropWhile (fun b => ¬ isSpace b) =
        fields.flatMap (32 :: ·) ++ x := by
      cases fields with
      | nil => exact hx
      | cons => exact List.dropWhile_cons_of_neg (by decide)
    rw [List.flatMap_cons, List.append_assoc, List.length_cons, skipTokens,
      skipToken_append hf.1 hf.2 hnext, Option.bind_some, hrest]

/-- A number between blanks. -/
theorem stoul_blank_decimal (n : Nat) (h : n < 2 ^ 64) (hx : x.takeWhile isDigit = []) :
    stoul (32 :: decimal n ++ x) = some n := by
  rcases decimal_plain n with ⟨hspace, hsign, -⟩
  rcases hd : decimal n with _ | ⟨b, bs⟩
  · exact absurd hd (decimal_ne_nil n)
  rw [hd] at hspace hsign
  have hdigits : ∀ c ∈ b :: bs, isDigit c = true := fun c hc => mem_decimal (n := n) (hd ▸ hc)
  have hb : isSpace b = false := by
    cases hb : isSpace b with
    | false => rfl
    | true =>
      have hlen := congrArg List.length hspace
      rw [List.dropWhile_cons_of_pos hb, List.length_cons] at hlen
      have hle := (List.dropWhile_sublist (p := isSpace) (l := bs)).length_le
      omega
  have hdrop : (32 :: (b :: bs) ++ x).dropWhile isSpace = b :: bs ++ x := by
    rw [List.cons_append, List.dropWhile_cons_of_pos (by decide), List.cons_append,
      List.dropWhile_cons_of_neg (by rw [hb]; simp)]
  have hsign' : takeSign (b :: bs ++ x) = (false, b :: bs ++ x) := by
    rw [takeSign] at hsign
    rw [List.cons_append, takeSign]
    split at hsign
    · cases hsign
    split at hsign
    · have hlen := congrArg (fun p => p.2.length) hsign
      simp at hlen
    next h45 h43 => rw [if_neg h45, if_neg h43]
  have htake : (b :: bs ++ x).takeWhile isDigit = decimal n := by
    rw [List.takeWhile_append_of_pos hdigits, hx, List.append_nil, hd]
  unfold stoul
  rw [hdrop, hsign']
  simp only
  rw [htake, if_neg (decimal_ne_nil n), digitsValue_decimal, if_neg (by omega)]
  rfl

theorem decimal_plain (n : Nat) : ∀ b ∈ decimal n, b ≠ 10 ∧ b ≠ 41 := by
  intro b hb
  have hdigit := mem_decimal hb
  constructor
  · rintro rfl
    cases hdigit
  · rintro rfl
    cases hdigit

/-- Fields without line breaks and brackets stay so with the blanks in front of them. -/
theorem fields_flat_plain {fields : List Bytes} (h : ∀ f ∈ fields, ∀ b ∈ f, b ≠ 10 ∧ b ≠ 41) :
    ∀ b ∈ fields.flatMap (32 :: ·), b ≠ 10 ∧ b ≠ 41 := by
  intro b hb
  rcases List.mem_flatMap.mp hb with ⟨f, hf, hbf⟩
  rcases List.mem_cons.mp hbf with rfl | hbf
  · decide
  · exact h f hf b hbf

namespace ProcStat

/-- The line without its line break. -/
def line (p : ProcStat) : Bytes := decimal p.pid ++ 32 :: 40 :: p.comm ++ 41 :: p.tail

variable (p : ProcStat)

theorem tail_plain : ∀ b ∈ p.tail, b ≠ 10 ∧ b ≠ 41 := by
  have hfields : ∀ f ∈ p.fields, ∀ b ∈ f, b ≠ 10 ∧ b ≠ 41 := by
    intro f hf b hb
    have hplain := (p.fields_plain f hf).2 b hb
    refine ⟨?_, hplain.2⟩
    rintro rfl
    cases hplain.1
  intro b hb
  simp only [ProcStat.tail, List.mem_append, List.mem_cons, List.cons_append] at hb
  rcases hb with hb | rfl | hb | hb
  · exact fields_flat_plain hfields b hb
  · decide
  · exact decimal_plain _ b hb
  · exact fields_flat_plain p.rest_plain b hb

/-- What is read is all of the line but the line break. -/
theorem getline_text : getline p.text = some p.line := by
  have hbody : ∀ b ∈ p.line, decide (b ≠ 10) = true := by
    intro b hb
    simp only [ProcStat.line, List.mem_append, List.mem_cons] at hb
    rw [decide_eq_true_eq]
    rcases hb with (hb | rfl | rfl | hb) | rfl | hb
    · exact (decimal_plain _ b hb).1
    · decide
    · decide
    · exact fun h => p.comm_line (h ▸ hb)
    · decide
    · exact (p.tail_plain b hb).1
  rw [ProcStat.line] at hbody ⊢
  rw [getline, ProcStat.text, List.takeWhile_append_of_pos hbody]
  simp

/-- There may be brackets in the name, but none behind it. -/
theorem afterLast_line : afterLast 41 p.line = some p.tail := by
  have hrev : ∀ b ∈ p.tail.reverse, decide (b ≠ 41) = true := fun b hb =>
    decide_eq_true (p.tail_plain b (List.mem_reverse.mp hb)).2
  rw [afterLast, ProcStat.line, if_pos (by simp), List.reverse_append, List.reverse_cons,
    List.append_assoc, List.takeWhile_append_of_pos hrev]
  simp

/-- The fields in front of the start time are skipped. -/
theorem skipTokens_tail :
    skipTokens 19 p.tail = some (32 :: decimal p.starttime ++ p.rest.flatMap (32 :: ·)) := by
  have hnext : (32 :: decimal p.starttime ++ p.rest.flatMap (32 :: ·)).dropWhile
      (fun b => ¬ isSpace b) = 32 :: decimal p.starttime ++ p.rest.flatMap (32 :: ·) :=
    List.dropWhile_cons_of_neg (by decide)
  have h := skipTokens_fields (fun f hf => ⟨(p.fields_plain f hf).1,
    fun b hb => ((p.fields_plain f hf).2 b hb).1⟩) hnext
  rwa [p.fields_length] at h

end ProcStat

/-- The start time is found in the line, whatever the program is called. -/
theorem readStarttimeImpl_text (p : ProcStat) :
    readStarttimeImpl (some p.text) = some p.starttime := by
  have hstop : (p.rest.flatMap (32 :: ·)).takeWhile isDigit = [] := by
    cases p.rest with
    | nil => rfl
    | cons => exact List.takeWhile_cons_of_neg (by decide)
  rw [readStarttimeImpl, Option.bind_some, p.getline_text, Option.bind_some, p.afterLast_line,
    Option.bind_some, p.skipTokens_tail, Option.bind_some,
    stoul_blank_decimal _ p.starttime_lt hstop]

/-! ### A process that runs -/

/-- What can be read of a process that runs: its line, or nothing that makes sense. -/
inductive Shows (starttime : Nat) : Option Bytes → Prop
  | line (p : ProcStat) (h : p.starttime = starttime) : Shows starttime (some p.text)
  | failed {stat : Option Bytes} (h : readStarttimeImpl stat = none) : Shows starttime stat

theorem Shows.read {starttime : Nat} {stat : Option Bytes} (h : Shows starttime stat) :
    readStarttimeImpl stat = some starttime ∨ readStarttimeImpl stat = none := by
  cases h with
  | line p hp => exact .inl (hp ▸ readStarttimeImpl_text p)
  | failed h => exact .inr h

/-- What can be seen of a process that runs. A signal may be refused. -/
structure Alive (starttime : Nat) (probe : Probe) : Prop where
  kill : probe.kill ≠ .esrch
  shows : Shows starttime probe.stat

/-- A process that runs looks dead if anything at all went wrong. -/
theorem isPidDead_alive_iff {starttime : Nat} {probe : Probe} (h : Alive starttime probe)
    {recorded : Option Bytes} (hrecorded : Shows starttime recorded) :
    isPidDead probe ((readStarttimeImpl recorded).getD 0) = true ↔
      probe.kill = .eperm ∨ readStarttimeImpl probe.stat = none ∨
        (readStarttimeImpl recorded = none ∧ starttime ≠ 0) := by
  rw [isPidDead]
  cases hkill : probe.kill with
  | esrch => exact absurd hkill h.kill
  | eperm => simp
  | ok =>
    rcases h.shows.read with hnow | hnow
    · rcases hrecorded.read with hthen | hthen
      · simp [hnow, hthen]
      · simp [hnow, hthen]
    · simp [hnow]

/-- After any calls, a client that runs loses its lease in a round of the reaper exactly
    if it has been silent for longer than the timeout, and the signal is refused, or its
    start time cannot be read now, or it could not be read when it connected. -/
theorem live_lease_dropped_iff (cfg : ServiceConfig) (env : InitEnv) (t t' : Tree)
    (s : ServiceState) (calls : List Call)
    (hs : ServiceState.construct cfg env t = some (t', s))
    (hfair : Runs.Along World.step World.Fair (World.start s) calls) (id : Bytes) (l : Lease)
    (hl : (run World.step (World.start s) calls).book id = some l) (hlive : l.ended = false)
    (starttime now : Nat) (probe : Bytes → Probe) (hconnect : Shows starttime l.stat)
    (halive : Alive starttime (probe id)) :
    id ∈ ((run World.step (World.start s) calls).service.reap now probe).2 ↔
      (∀ t ∈ l.seen, t + cfg.lease.timeoutSec * 10 ^ 9 < now) ∧
        ((probe id).kill = .eperm ∨ readStarttimeImpl (probe id).stat = none ∨
          (readStarttimeImpl l.stat = none ∧ starttime ≠ 0)) := by
  have hend := kept_run (kept_start hs) hfair
  rw [hend.mem_reaped_iff hl hlive now probe, Call.Ends, isPidDead_alive_iff halive hconnect]

/-- The line of a process, as in the small service. -/
def sampleProc : ProcStat where
  pid := 7
  comm := Geminifs.text "sh"
  fields := ["S", "1", "7", "7", "0", "-1", "4", "0", "0", "0", "0", "0", "0", "0", "0", "20", "0",
    "1", "0"].map Geminifs.text
  starttime := 5
  rest := [[48]]
  comm_line := by decide
  fields_length := by decide
  fields_plain := by simp [Geminifs.text, isSpace]
  starttime_lt := by decide
  rest_plain := by simp

/-- A client that is silent and can be seen keeps its lease. -/
theorem live_lease_dropped_iff_seen :
    generateAllocationId 1 0 ∉ ((run World.step (World.start sampled.2)
      [sampleConnect 7 1 5 0]).service.reap (31 * 10 ^ 9)
        fun _ => ⟨.ok, some (sampleStat 5)⟩).2 := by
  have hshows : Shows 5 (some (sampleStat 5)) := Shows.line sampleProc rfl
  rw [live_lease_dropped_iff sampleConfig sampleInit _ sampled.1 sampled.2 _ construct_sampled
    (by decide) _ _ rfl rfl 5 _ _ hshows ⟨by decide, hshows⟩]
  decide

/-- A client that runs is silent for longer than the timeout. It loses its lease if the
    signal is refused, if its start time cannot be read, and also if it could not be read
    when the client connected. -/
theorem live_lease_dropped : generateAllocationId 1 0 ∈ ((run World.step (World.start sampled.2)
      [sampleConnect 7 1 5 0]).service.reap (31 * 10 ^ 9)
        fun _ => ⟨.eperm, some (sampleStat 5)⟩).2 ∧
    generateAllocationId 1 0 ∈ ((run World.step (World.start sampled.2)
      [sampleConnect 7 1 5 0]).service.reap (31 * 10 ^ 9) fun _ => ⟨.ok, none⟩).2 ∧
    generateAllocationId 1 0 ∈ ((run World.step (World.start sampled.2)
      [.connect 0 0 0 7 ⟨1, 0, none, 0⟩]).service.reap (31 * 10 ^ 9)
        fun _ => ⟨.ok, some (sampleStat 5)⟩).2 := by
  exact ⟨by decide, by decide, by decide⟩

end Geminifs.NvmeService
