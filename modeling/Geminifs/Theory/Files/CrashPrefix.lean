import Geminifs.Theory.Files.Records

/-!
# A File Manager After a Crash

A crash leaves the records that were written and the bitmap that was written
last. What a new manager loads from that is the map after some of the calls, if
the bitmap lists the files that there were then and none of their slots was taken
by a file created since.

## Main definitions

* `Takes`: A call takes a slot into use.
* `Lists`: The log lists the files after the first calls, and none of their slots was
  taken since.
* `Timed`: The files of a run have times of their own.
* `Recent`: At most two changes were made since the bitmap was written.

## Theorems

* `recovered_of_lists`, `lists_of_recovered`: What is loaded, and when it is the map after
  the first calls.
* `Recent.step`, `recent_run`: A bitmap that is written often enough stays recent.
* `crash_loads_prefix`: What a manager loads after a crash.
* `crash_mixes_files`: A crash after which it loads files that were never there together.
-/

namespace Geminifs.Gemini

open SlotLog Runs

namespace FileManager

variable {fm fm' s : FileManager} {calls before after : List Call} {env : WriteEnv} {i : Nat}
  {ws : List (SlotDisk.Write NVMeFileDesc)} {log : Option ByteFile}

/-! ### What is written -/

/-- What a number of calls write to the slots. -/
def runWrites : FileManager → List Call → List (SlotDisk.Write NVMeFileDesc)
  | _, [] => []
  | fm, c :: cs => fm.stepWrites c ++ runWrites (fm.step c) cs

theorem Effect.slots (h : Effect fm env fm' ws) (hs : Sound fm) :
    FileManager.slots fm'.log = (FileManager.slots fm.log).replay ws := by
  have hsync : ∀ s : FileManager, IsHeader s.header → FileManager.slots (s.countWrite env).log =
        (FileManager.slots s.log).replay (s.syncWrites env) := by
    intro s hh
    rw [slots_countWrite hh, syncWrites]
    split <;> rfl
  cases h with
  | nothing => rfl
  | created slot d hslot _ _ hd =>
    have hh : IsHeader (fm.occupy d slot).header := hs.header
    rw [hsync _ hh, slots_occupy hs.header hslot hd, SlotDisk.replay_cons]
  | deleted id =>
    have hh : IsHeader (fm.vacate id id).header := hs.header
    rw [hsync _ hh]
    rfl

theorem slots_run (hs : Sound fm) (calls : List Call) :
    slots (run step fm calls).log = (slots fm.log).replay (fm.runWrites calls) := by
  induction calls generalizing fm with
  | nil => rfl
  | cons c _ ih =>
    have heff := step_effect hs c
    rw [run, ih (hs.effect heff), heff.slots hs, runWrites, SlotDisk.replay_append]

/-- A slot that is written is taken into use by a new file. -/
theorem Effect.record (h : Effect fm env fm' ws) (hs : Sound fm) {r : Option NVMeFileDesc}
    (hr : SlotDisk.Write.record i r ∈ ws) :
    fm.files.lookup i = none ∧ ∃ d, r = some d ∧ d.createTime = env.now ∧
      fm'.files.lookup i = some d := by
  have hsync : ∀ s : FileManager, SlotDisk.Write.record i r ∉ s.syncWrites env := by
    intro s hmem
    rw [syncWrites] at hmem
    split at hmem
    · cases List.mem_singleton.mp hmem
    · exact List.not_mem_nil hmem
  cases h with
  | nothing => cases hr
  | created _ d _ hfree _ _ htime =>
    rcases List.mem_cons.mp hr with heq | hr
    · rcases heq with ⟨rfl, rfl⟩
      have hnone : (fm.files.lookup i).isSome = false := by rw [← hs.bits i, hfree]
      refine ⟨Option.not_isSome_iff_eq_none.mp (by rw [hnone]; simp), d, rfl, htime, ?_⟩
      rw [countWrite_files]
      exact AList.lookup_insert _
    · exact absurd hr (hsync _)
  | deleted => exact absurd hr (hsync _)

/-- The call takes a slot that was free. -/
def Takes (fm : FileManager) (c : Call) (i : Nat) : Prop :=
  fm.files.lookup i = none ∧ ((fm.step c).files.lookup i).isSome

/-- Only a call that writes a slot takes it. -/
theorem Effect.untaken (h : Effect fm env fm' ws) (htouch : ¬ SlotDisk.Touches ws i)
    (hnone : fm.files.lookup i = none) : fm'.files.lookup i = none := by
  cases h with
  | nothing => exact hnone
  | created slot =>
    have hne : i ≠ slot := by
      rintro rfl
      exact htouch ⟨_, List.mem_cons_self⟩
    rw [countWrite_files]
    exact (AList.lookup_insert_ne hne).trans hnone
  | deleted id =>
    rw [countWrite_files]
    exact lookup_erase_apply.trans (by rw [hnone, ite_self])

/-- The log lists the files that there were after the first calls, and none of
    their slots was taken since. -/
def Lists (fm : FileManager) (before after : List Call) : Prop :=
  (∀ i, (slots (run step fm (before ++ after)).log).listed i =
    ((run step fm before).files.lookup i).isSome) ∧
  Runs.Along step
    (fun s c => ∀ i, ((run step fm before).files.lookup i).isSome → ¬ Takes s c i)
    (run step fm before) after

/-! ### Loading what a crash leaves -/

/-- A slot that is written by some calls is taken by one of them. -/
theorem untouched_of_along (hs : Sound fm)
    (h : Runs.Along step (fun s c => ¬ Takes s c i) fm calls) :
    ¬ SlotDisk.Touches (fm.runWrites calls) i := by
  induction calls generalizing fm with
  | nil => exact fun ⟨_, hr⟩ => absurd hr List.not_mem_nil
  | cons c _ ih =>
    have heff := step_effect hs c
    rintro ⟨r, hr⟩
    rcases List.mem_append.mp hr with hr | hr
    · rcases heff.record hs hr with ⟨hnone, d, -, -, hsome⟩
      exact h.1 ⟨hnone, by rw [hsome]; rfl⟩
    · exact ih (hs.effect heff) h.2 ⟨r, hr⟩

/-- The converse: a slot that is taken is written. -/
theorem along_of_untouched (hs : Sound fm) (h : ¬ SlotDisk.Touches (fm.runWrites calls) i) :
    Runs.Along step (fun s c => ¬ Takes s c i) fm calls := by
  induction calls generalizing fm with
  | nil => trivial
  | cons c _ ih =>
    have heff := step_effect hs c
    refine ⟨fun htakes => ?_, ih (hs.effect heff) (fun ⟨r, hr⟩ =>
      h ⟨r, List.mem_append_right _ hr⟩)⟩
    have hfirst : ¬ SlotDisk.Touches (fm.stepWrites c) i := fun ⟨r, hr⟩ =>
      h ⟨r, List.mem_append_left _ hr⟩
    rw [Takes, heff.untaken hfirst htakes.1] at htakes
    cases htakes.2

/-- What a new manager loads after a crash, in terms of the slots. -/
theorem construct_left (hs : Sound fm) (threshold : Nat) :
    ∃ fm', construct (some fm.log) threshold = some fm' ∧
      ∀ id, fm'.files.lookup id = (slots fm.log).recovered id := by
  rcases loadFromFile_spec hs.log threshold with ⟨fm', hload, -, -, -, hfiles, -⟩
  exact ⟨fm', (construct_of_isLog hs.log threshold).trans hload, hfiles⟩

/-- If the log lists the files that there were, and their slots were not taken
    since, these files are what is loaded. -/
theorem recovered_of_lists (hs : Sound fm) (h : Lists fm before after) (id : Nat) :
    (slots (run step fm (before ++ after)).log).recovered id =
      (run step fm before).files.lookup id := by
  have hmid := sound_run hs before
  have hslots := slots_run hmid after
  rw [← run_append] at hslots
  have hrec : (slots (run step fm (before ++ after)).log).recovered =
      fun i => (run step fm before).files.lookup i := by
    have hlisted := h.1
    rw [hslots] at hlisted ⊢
    refine SlotDisk.recovered_replay hmid.cells hlisted (fun i hi => ?_)
    exact untouched_of_along hmid (along_mono (fun s c hc => hc i hi) h.2)
  exact congrFun hrec id

/-! ### The only way -/

/-- A listed slot holds a record. -/
def Indexed (f : ByteFile) : Prop :=
  ∀ i, (slots f).listed i = true → ((slots f).cell i).isSome

theorem Indexed.effect (hi : Indexed fm.log) (hs : Sound fm) (h : Effect fm env fm' ws) :
    Indexed fm'.log := by
  have hsync : ∀ s : FileManager, Sound s → Indexed s.log → Indexed (s.countWrite env).log := by
    intro s hsound hindexed i
    rw [slots_countWrite hsound.header]
    split
    · -- The index was just written, from the files in the map.
      intro hlisted
      have hbit : s.bitmap i = true := by rw [← hsound.used_eq i]; exact hlisted
      rw [hsound.bits i] at hbit
      rcases Option.isSome_iff_exists.mp hbit with ⟨d, hd⟩
      have hcell := hsound.cells i d hd
      simp only [SlotDisk.write, hcell]
      rfl
    · exact hindexed i
  cases h with
  | nothing => exact hi
  | created slot _ hslot _ _ hd =>
    refine hsync _ (hs.occupy hslot hd) (fun i hlisted => ?_)
    rw [slots_occupy hs.header hslot hd] at hlisted ⊢
    by_cases hslotEq : i = slot
    · rw [hslotEq, SlotDisk.write_cell_self]
      rfl
    · rw [SlotDisk.write_cell_of_ne _ _ _ _ hslotEq]
      exact hi i hlisted
  | deleted id => exact hsync _ (hs.vacate id) hi

theorem indexed_run (hs : Sound fm) (hi : Indexed fm.log) (calls : List Call) :
    Indexed (run step fm calls).log := by
  have hboth : Sound (run step fm calls) ∧ Indexed (run step fm calls).log :=
    run_invariant (I := fun fm => Sound fm ∧ Indexed fm.log) (P := fun _ _ => True)
      (fun _ c h _ => ⟨h.1.effect (step_effect h.1 c), h.2.effect h.1 (step_effect h.1 c)⟩)
      ⟨hs, hi⟩ (along_of_forall (fun _ _ _ => trivial))
  exact hboth.2

theorem Indexed.destroy (hi : Indexed fm.log) (hs : Sound fm) (env : WriteEnv) :
    Indexed (fm.destroy env) := by
  intro i
  rw [cell_destroy hs env, FileManager.destroy, forcePersist]
  split
  · rw [slots_persistBitmap hs.header]
    split
    · intro hlisted
      have hbit : fm.bitmap i = true := by rw [← hs.used_eq i]; exact hlisted
      rw [hs.bits i] at hbit
      rcases Option.isSome_iff_exists.mp hbit with ⟨d, hd⟩
      rw [hs.cells i d hd]
      rfl
    · exact hi i
  · exact hi i

/-- A new log lists nothing. -/
theorem indexed_initializeLogFile : Indexed initializeLogFile := by
  intro i hlisted
  rw [listed_initializeLogFile] at hlisted
  cases hlisted

/-- A manager has the log it was opened on, and the files recovered from it. -/
theorem opened_of_construct (hlog : ∀ f, log = some f → IsLog f) {threshold : Nat}
    (h : construct log threshold = some fm) :
    fm.log = log.getD initializeLogFile ∧ ∀ i, fm.files.lookup i = (slots fm.log).recovered i := by
  have hload : ∀ f, IsLog f → loadFromFile f threshold = some fm →
      fm.log = f ∧ ∀ i, fm.files.lookup i = (slots fm.log).recovered i := by
    intro f hf hfm
    rcases loadFromFile_spec hf threshold with ⟨_, hload, hlogEq, -, -, hfiles, -⟩
    rw [hfm, Option.some.injEq] at hload
    rw [hload]
    exact ⟨hlogEq, fun i => hlogEq ▸ hfiles i⟩
  cases log with
  | none =>
    exact hload _ isLog_initializeLogFile h
  | some f =>
    rw [construct_of_isLog (hlog f rfl)] at h
    exact hload f (hlog f rfl) h

theorem indexed_of_written (h : Written log) : Indexed (log.getD initializeLogFile) := by
  induction h with
  | absent => exact indexed_initializeLogFile
  | left hlog hopen calls ih =>
    have hwritten := isLog_of_written hlog
    rw [← (opened_of_construct hwritten hopen).1] at ih
    exact indexed_run (sound_of_construct hwritten hopen) ih calls
  | closed hlog hopen calls env ih =>
    have hwritten := isLog_of_written hlog
    have hs := sound_of_construct hwritten hopen
    rw [← (opened_of_construct hwritten hopen).1] at ih
    exact (indexed_run hs ih calls).destroy (sound_run hs calls) env

/-- A manager that was just opened has the files that its log lists. -/
theorem listed_of_construct (hlog : Written log) {threshold : Nat}
    (h : construct log threshold = some fm) (i : Nat) :
    (slots fm.log).listed i = (fm.files.lookup i).isSome := by
  have hwritten := isLog_of_written hlog
  have hindexed := indexed_of_written hlog
  rw [← (opened_of_construct hwritten h).1] at hindexed
  have hfiles : fm.files.lookup i = (slots fm.log).recovered i := (opened_of_construct hwritten h).2 i
  rw [hfiles, SlotDisk.recovered]
  cases hlisted : (slots fm.log).listed i with
  | false => rfl
  | true => exact (hindexed i hlisted).symm

/-- The time of each call is its own, and no file has one of these times yet. -/
def Timed (fm : FileManager) (calls : List Call) : Prop :=
  (calls.map (fun c => c.env.now)).Nodup ∧
    ∀ i d, fm.files.lookup i = some d → d.createTime ∉ calls.map (fun c => c.env.now)

theorem Effect.time (h : Effect fm env fm' ws) {d : NVMeFileDesc}
    (hd : fm'.files.lookup i = some d) : fm.files.lookup i = some d ∨ d.createTime = env.now := by
  cases h with
  | nothing => exact .inl hd
  | created slot _ _ _ _ _ htime =>
    rw [countWrite_files, occupy, lookup_insert_apply] at hd
    split at hd
    · exact .inr (Option.some.inj hd ▸ htime)
    · exact .inl hd
  | deleted id =>
    rw [countWrite_files] at hd
    exact .inl (lookup_of_erase hd).2

/-- A file was there at the start, or has the time of one of the calls. -/
theorem time_of_run (hs : Sound fm) {d : NVMeFileDesc}
    (hd : (run step fm calls).files.lookup i = some d) :
    fm.files.lookup i = some d ∨ d.createTime ∈ calls.map (fun c => c.env.now) := by
  induction calls generalizing fm with
  | nil => exact .inl hd
  | cons c _ ih =>
    have heff := step_effect hs c
    rcases ih (hs.effect heff) hd with hfirst | hrest
    · rcases heff.time hfirst with hold | hnow
      · exact .inl hold
      · exact .inr (hnow ▸ List.mem_cons_self)
    · exact .inr (List.mem_cons_of_mem _ hrest)

/-- A record that is written has the time of one of the calls. -/
theorem time_of_runWrites (hs : Sound fm) {r : Option NVMeFileDesc}
    (hr : SlotDisk.Write.record i r ∈ fm.runWrites calls) :
    ∃ d, r = some d ∧ d.createTime ∈ calls.map (fun c => c.env.now) := by
  induction calls generalizing fm with
  | nil => cases hr
  | cons c _ ih =>
    have heff := step_effect hs c
    rcases List.mem_append.mp hr with hr | hr
    · rcases heff.record hs hr with ⟨-, d, hrd, htime, -⟩
      exact ⟨d, hrd, htime ▸ List.mem_cons_self⟩
    · rcases ih (hs.effect heff) hr with ⟨d, hrd, htime⟩
      exact ⟨d, hrd, List.mem_cons_of_mem _ htime⟩

/-- If what is loaded is the map after some of the calls, the log lists the files of
    that map, and none of their slots was taken since. -/
theorem lists_of_recovered (hs : Sound fm) (hi : Indexed fm.log)
    (htimed : Timed fm (before ++ after))
    (hrec : ∀ id, (slots (run step fm (before ++ after)).log).recovered id =
      (run step fm before).files.lookup id) : Lists fm before after := by
  have hmid := sound_run hs before
  have hslots := slots_run hmid after
  rw [← run_append] at hslots
  have hindexed := indexed_run hs hi (before ++ after)
  have hnew : ∀ i r, SlotDisk.Write.record i r ∈ (run step fm before).runWrites after →
      r ≠ (run step fm before).files.lookup i := by
    intro i r hr heq
    rcases time_of_runWrites hmid hr with ⟨d, rfl, htime⟩
    rcases htimed with ⟨hnodup, hold⟩
    rw [List.map_append] at hnodup hold
    rcases time_of_run hs heq.symm with hfirst | hbefore
    · exact hold i d hfirst (List.mem_append_right _ htime)
    · exact (List.nodup_append.mp hnodup).2.2 _ hbefore _ htime rfl
  have hfun : ((slots (run step fm before).log).replay
      ((run step fm before).runWrites after)).recovered =
      fun i => (run step fm before).files.lookup i := by
    rw [← hslots]
    exact funext hrec
  have hlive := SlotDisk.untouched_of_recovered_replay hfun hnew
  constructor
  · intro i
    cases hfile : (run step fm before).files.lookup i with
    | some =>
      have hlisted := (hlive i (by rw [hfile]; rfl)).1
      rwa [← hslots] at hlisted
    | none =>
      -- A listed slot has a record, which would be loaded.
      by_contra hnot
      rw [Option.isSome_none, Bool.not_eq_false] at hnot
      have hat := hrec i
      rw [SlotDisk.recovered, if_pos hnot, hfile] at hat
      have hsome := hindexed i hnot
      rw [hat] at hsome
      cases hsome
  · apply along_forall
    intro i
    by_cases hfile : ((run step fm before).files.lookup i).isSome
    · exact along_mono (fun s c hc _ => hc) (along_of_untouched hmid (hlive i hfile).2)
    · exact along_of_forall (fun s c _ hfile' => absurd hfile' hfile)

/-! ### Small thresholds -/

/-- A call that takes none of the slots, and leaves the index, goes on. -/
theorem Lists.extend (h : Lists fm before after) {c : Call}
    (hindex : ∀ i, (slots (run step fm (before ++ (after ++ [c]))).log).listed i =
      (slots (run step fm (before ++ after)).log).listed i)
    (hfree : ∀ i, ((run step fm before).files.lookup i).isSome →
      ¬ Takes (run step fm (before ++ after)) c i) : Lists fm before (after ++ [c]) := by
  refine ⟨fun i => (hindex i).trans (h.1 i), ?_⟩
  rw [along_append]
  refine ⟨h.2, fun i hi => ?_, trivial⟩
  rw [← run_append]
  exact hfree i hi

/-- The changes since the bitmap was written, when there are at most two of them. -/
inductive Recent (fm : FileManager) (calls : List Call) : Prop where
  | fresh (h : Lists fm calls [])
  | one (before after : List Call) (hsplit : calls = before ++ after) (h : Lists fm before after)
      (hpending : 1 ≤ (run step fm calls).pending)
      (hone : (∀ i, (run step fm before).bitmap i = true → (run step fm calls).bitmap i = true) ∨
        ∃ x, ∀ i, (run step fm calls).bitmap i = ((run step fm before).bitmap i && decide (i ≠ x)))
  | two (before after : List Call) (hsplit : calls = before ++ after) (h : Lists fm before after)
      (hpending : 2 ≤ (run step fm calls).pending)

theorem lists_nil : Lists fm calls [] ↔ ∀ i, (slots (run step fm calls).log).listed i =
      ((run step fm calls).files.lookup i).isSome := by
  rw [Lists, List.append_nil]
  exact and_iff_left trivial

theorem Recent.lists (h : Recent fm calls) :
    ∃ before after, calls = before ++ after ∧ Lists fm before after := by
  cases h with
  | fresh h => exact ⟨calls, [], (List.append_nil calls).symm, h⟩
  | one before after hsplit h | two before after hsplit h => exact ⟨before, after, hsplit, h⟩

/-- A call that changes nothing. -/
theorem Recent.unchanged (h : Recent fm calls) {c : Call}
    (hc : (run step fm calls).step c = run step fm calls) : Recent fm (calls ++ [c]) := by
  have hrun : run step fm (calls ++ [c]) = run step fm calls :=
    (run_append fm calls [c]).trans hc
  have hextend : ∀ before after, calls = before ++ after → Lists fm before after →
      Lists fm before (after ++ [c]) := by
    rintro before after rfl hlists
    refine hlists.extend (fun i => ?_) (fun i _ htakes => ?_)
    · rw [← List.append_assoc, hrun]
    · rw [Takes, hc, htakes.1] at htakes
      cases htakes.2
  cases h with
  | fresh h =>
    rw [lists_nil] at h
    exact .fresh (lists_nil.mpr (by rw [hrun]; exact h))
  | one before after hsplit h hpending hone =>
    exact .one before (after ++ [c]) (by rw [hsplit, List.append_assoc])
      (hextend before after hsplit h) (by rw [hrun]; exact hpending) (by rw [hrun]; exact hone)
  | two before after hsplit h hpending =>
    exact .two before (after ++ [c]) (by rw [hsplit, List.append_assoc])
      (hextend before after hsplit h) (by rw [hrun]; exact hpending)

/-- A change of one bit, before it is counted. -/
structure Change (s t : FileManager) : Prop where
  sound : Sound t
  listed : ∀ i, (slots t.log).listed i = (slots s.log).listed i
  pending : t.pending = s.pending
  threshold : t.threshold = s.threshold
  bit : (∃ slot, s.bitmap slot = false ∧ ∀ i, t.bitmap i = (s.bitmap i || decide (i = slot))) ∨
    ∃ id, ∀ i, t.bitmap i = (s.bitmap i && decide (i ≠ id))

theorem Effect.change {s' : FileManager} (h : Effect s env s' ws) (hs : Sound s) :
    s' = s ∨ ∃ t, Change s t ∧ s' = t.countWrite env := by
  cases h with
  | nothing => exact .inl rfl
  | created slot _ hslot hfree _ hd =>
    refine .inr ⟨_, ⟨hs.occupy hslot hd, fun i => ?_, rfl, rfl, .inl ⟨slot, hfree, fun i => ?_⟩⟩, rfl⟩
    · rw [slots_occupy hs.header hslot hd]
      rfl
    · simp only [FileManager.occupy, Bitmap.setBit, Function.update_apply]
      by_cases hi : i = slot
      · rw [if_pos hi, decide_eq_true hi, Bool.or_true]
      · rw [if_neg hi, decide_eq_false hi, Bool.or_false]
  | deleted id =>
    refine .inr ⟨_, ⟨hs.vacate id, fun i => rfl, rfl, rfl, .inr ⟨id, fun i => ?_⟩⟩, rfl⟩
    simp only [FileManager.vacate, Bitmap.clearBit, Function.update_apply]
    by_cases hi : i = id
    · rw [if_pos hi, decide_eq_false (not_not.mpr hi), Bool.and_false]
    · rw [if_neg hi, decide_eq_true hi, Bool.and_true]

/-- A change that is followed by a write of the bitmap. -/
theorem Change.due {t : FileManager} (h : Change s t) (hdue : s.Due) (henv : env.bitmapOk = true)
    (i : Nat) :
    (slots (t.countWrite env).log).listed i = ((t.countWrite env).files.lookup i).isSome := by
  have hdue' : t.Due := by rw [Due, h.threshold, h.pending]; exact hdue
  rw [slots_countWrite h.sound.header, if_pos ⟨hdue', henv⟩, countWrite_files, ← h.sound.bits i]
  exact h.sound.used_eq i

/-- A change that is not. -/
theorem Change.not_due {t : FileManager} (h : Change s t) (hdue : ¬ s.Due) (env : WriteEnv) :
    (∀ i, (slots (t.countWrite env).log).listed i = (slots s.log).listed i) ∧
      (t.countWrite env).pending = s.pending + 1 := by
  have hdue' : ¬ t.Due := by rw [Due, h.threshold, h.pending]; exact hdue
  refine ⟨fun i => ?_, ?_⟩
  · rw [slots_countWrite h.sound.header, if_neg (fun hc => hdue' hc.1)]
    exact h.listed i
  · rw [countWrite_pending, if_neg hdue', h.pending]

/-- One more call. With a threshold of three at most, a third change is followed by a
    write of the bitmap. -/
theorem Recent.step (hs : Sound fm) (h : Recent fm calls)
    (hthreshold : (run FileManager.step fm calls).threshold ≤ 3) {c : Call}
    (hc : c.env.bitmapOk = true) : Recent fm (calls ++ [c]) := by
  have hs' := sound_run hs calls
  rcases (step_effect hs' c).change hs' with hsame | ⟨t, ht, hstep⟩
  · exact h.unchanged hsame
  have hrun : run FileManager.step fm (calls ++ [c]) = t.countWrite c.env :=
    (run_append fm calls [c]).trans hstep
  by_cases hdue : (run FileManager.step fm calls).Due
  · exact .fresh (lists_nil.mpr (by rw [hrun]; exact ht.due hdue hc))
  rcases ht.not_due hdue c.env with ⟨hlisted, hpending⟩
  rw [← hrun] at hlisted hpending
  have hbitmap : ∀ i, (run FileManager.step fm (calls ++ [c])).bitmap i = t.bitmap i := by
    intro i
    rw [hrun, countWrite_bitmap]
  have hfew : (run FileManager.step fm calls).pending ≤ 1 := by
    rw [Due] at hdue
    omega
  -- The call is one more of those since, unless it takes a slot that was in use then.
  have hextend : ∀ before after, calls = before ++ after → Lists fm before after →
      (∀ i, (run FileManager.step fm before).bitmap i = true →
        (run FileManager.step fm calls).bitmap i = false → t.bitmap i = false) →
      Lists fm before (after ++ [c]) := by
    rintro before after rfl hlists hkeep
    refine hlists.extend (fun i => ?_) (fun i hi htakes => ?_)
    · rw [← List.append_assoc]
      exact hlisted i
    · rw [← (sound_run hs before).bits i] at hi
      have hfree : (run FileManager.step fm (before ++ after)).bitmap i = false := by
        rw [hs'.bits i, htakes.1]
        rfl
      have htaken := htakes.2
      rw [hstep, countWrite_files, ← ht.sound.bits i, hkeep i hi hfree] at htaken
      cases htaken
  cases h with
  | fresh h =>
    have hlists := hextend calls [] (List.append_nil calls).symm h
      (fun i hset hclear => absurd (hset.symm.trans hclear) (by simp))
    refine .one calls [c] rfl hlists (by omega) ?_
    rcases ht.bit with ⟨slot, -, hset⟩ | ⟨id, hclear⟩
    · refine .inl (fun i hi => ?_)
      rw [hbitmap i, hset i, hi, Bool.true_or]
    · exact .inr ⟨id, fun i => (hbitmap i).trans (hclear i)⟩
  | one before after hsplit h _ hone =>
    have hsplit' : calls ++ [c] = before ++ (after ++ [c]) := by
      rw [hsplit, List.append_assoc]
    have htwo : 2 ≤ (run FileManager.step fm (calls ++ [c])).pending := by omega
    rcases hone with hgrow | ⟨x, hlost⟩
    · refine .two before (after ++ [c]) hsplit' (hextend before after hsplit h ?_) htwo
      intro i hi hclear
      exact absurd ((hgrow i hi).symm.trans hclear) (by simp)
    · rcases ht.bit with ⟨slot, hfree, hset⟩ | ⟨_, hclear⟩
      · by_cases hold : (run FileManager.step fm before).bitmap slot = true
        · -- The slot is taken again that was given up: what is listed is in use once more.
          have hx : slot = x := by
            have hat := hlost slot
            rw [hfree, hold] at hat
            exact not_not.mp (of_decide_eq_false hat.symm)
          refine .fresh (lists_nil.mpr (fun i => ?_))
          have hlist := h.1 i
          rw [← hsplit] at hlist
          rw [hlisted i, hlist, ← (sound_run hs before).bits i,
            ← (sound_run hs (calls ++ [c])).bits i, hbitmap i, hset i, hlost i, hx]
          by_cases hi : i = x
          · rw [hi, ← hx, hold]
            simp
          · simp [hi]
        · refine .two before (after ++ [c]) hsplit' (hextend before after hsplit h ?_) htwo
          intro i hi hclear
          have hne : i ≠ slot := by
            rintro rfl
            exact hold hi
          rw [hset i, hclear, decide_eq_false hne, Bool.or_false]
      · refine .two before (after ++ [c]) hsplit' (hextend before after hsplit h ?_) htwo
        intro i _ hzero
        rw [hclear i, hzero, Bool.false_and]
  | two => omega

theorem threshold_run (fm : FileManager) (hs : Sound fm) (calls : List Call) :
    (run step fm calls).threshold = fm.threshold := by
  have hboth : Sound (run step fm calls) ∧ (run step fm calls).threshold = fm.threshold := by
    refine run_invariant (I := fun s => Sound s ∧ s.threshold = fm.threshold)
      (P := fun _ _ => True) (fun s c h _ => ?_) ⟨hs, rfl⟩
      (along_of_forall (fun _ _ _ => trivial))
    have heff := step_effect h.1 c
    refine ⟨h.1.effect heff, ?_⟩
    rcases heff.change h.1 with hsame | ⟨t, ht, hstep⟩
    · rw [hsame]
      exact h.2
    · rw [hstep, countWrite_threshold, ht.threshold]
      exact h.2
  exact hboth.2

/-- With a threshold of three at most, the log always lists the files of some time,
    with their slots not taken since. -/
theorem recent_run (hs : Sound fm) (hstart : Lists fm [] []) (hthreshold : fm.threshold ≤ 3)
    (calls : List Call) (hcalls : ∀ c ∈ calls, c.env.bitmapOk = true) : Recent fm calls := by
  -- By induction on the calls from the end on, since a split of them is extended there.
  induction calls using List.reverseRecOn with
  | nil => exact .fresh hstart
  | append_singleton cs c ih =>
    have hrest := ih (fun b hb => hcalls b (List.mem_append_left _ hb))
    refine hrest.step hs ?_ (hcalls c (List.mem_append_right _ (List.mem_singleton_self c)))
    rw [threshold_run fm hs cs]
    exact hthreshold

/-- What a manager loads after a crash is the map after the first calls, if the log
    lists the files of that map and none of their slots was taken since. If all files
    have times of their own, it is only then. With a threshold of three at most there
    always are such first calls, as long as the bitmap can be written. -/
theorem crash_loads_prefix (log : Option ByteFile) (hlog : Written log)
    (threshold threshold' : Nat) (calls : List Call) :
    ∃ fm fm', construct log threshold = some fm ∧
      construct (some (run step fm calls).log) threshold' = some fm' ∧
      (∀ before after, calls = before ++ after → Lists fm before after →
        ∀ id, fm'.files.lookup id = (run step fm before).files.lookup id) ∧
      (Timed fm calls → ∀ before after, calls = before ++ after →
        (∀ id, fm'.files.lookup id = (run step fm before).files.lookup id) →
        Lists fm before after) ∧
      (threshold ≤ 3 → (∀ c ∈ calls, c.env.bitmapOk = true) →
        ∃ before after, calls = before ++ after ∧ Lists fm before after) := by
  rcases construct_spec hlog threshold with ⟨fm, hopen, hs, -, hthreshold⟩
  have hwritten := isLog_of_written hlog
  have hindexed : Indexed fm.log := by
    rw [(opened_of_construct hwritten hopen).1]
    exact indexed_of_written hlog
  rcases construct_left (sound_run hs calls) threshold' with ⟨fm', hopen', hfiles⟩
  refine ⟨fm, fm', hopen, hopen', ?_, ?_, ?_⟩
  · rintro before after rfl hlists id
    rw [hfiles id]
    exact recovered_of_lists hs hlists id
  · rintro htimed _ _ rfl hsame
    exact lists_of_recovered hs hindexed htimed (fun id => (hfiles id).symm.trans (hsame id))
  · intro hle hcalls
    have hstart : Lists fm [] [] := lists_nil.mpr (fun i => listed_of_construct hlog hopen i)
    exact (recent_run hs hstart (hthreshold ▸ hle) calls hcalls).lists

/-- A crash right after a file was created, with a threshold of three. -/
theorem crash_loads_prefix_oneFile : Written none ∧ ∃ fm fm', construct none 3 = some fm ∧
    construct (some (run step fm [.createFileAuto 4096 (writesOk 1)]).log) 3 = some fm' ∧
    ∃ before after, [Call.createFileAuto 4096 (writesOk 1)] = before ++ after ∧
      ∀ id, fm'.files.lookup id = (run step fm before).files.lookup id := by
  rcases crash_loads_prefix none .absent 3 3 [.createFileAuto 4096 (writesOk 1)] with
    ⟨fm, fm', hopen, hopen', hsame, -, hsmall⟩
  rcases hsmall (by decide) (by decide) with ⟨before, after, hsplit, hlists⟩
  exact ⟨.absent, fm, fm', hopen, hopen', before, after, hsplit, hsame before after hsplit hlists⟩

/-- Four files, after which the bitmap is written; then the first two are deleted,
    and a new one takes the slot of the first. -/
def reusedSlot : List Call :=
  [.createFile [65] 4096 (writesOk 1), .createFile [67] 4096 (writesOk 2),
    .createFile [68] 4096 (writesOk 3), .createFile [69] 4096 (writesOk 4),
    .deleteFile 0 (writesOk 5), .deleteFile 1 (writesOk 6), .createFile [66] 4096 (writesOk 7)]

/-- With a threshold of four, a crash then brings back the second file, beside the
    new one: there was no time when both were in the map. -/
theorem crash_mixes_files : ∃ fm fm', construct none 4 = some fm ∧
    construct (some (run step fm reusedSlot).log) 4 = some fm' ∧
    ∀ before after, reusedSlot = before ++ after →
      ¬ ∀ id, fm'.files.lookup id = (run step fm before).files.lookup id := by
  have hs : Sound (fresh 4) := sound_of_construct (fun _ h => absurd h (by simp)) (construct_none 4)
  rcases construct_left (sound_run hs reusedSlot) 4 with ⟨fm', hopen', hfiles⟩
  refine ⟨fresh 4, fm', construct_none 4, hopen', fun before after hsplit hsame => ?_⟩
  rw [slots_run hs reusedSlot] at hfiles
  have hnew : fm'.files.lookup 0 = some (newDesc 0 [66] 4096 7) := (hfiles 0).trans (by decide)
  have hold : fm'.files.lookup 1 = some (newDesc 1 [67] 4096 2) := (hfiles 1).trans (by decide)
  have hnever : ∀ calls ∈ reusedSlot.inits,
      ¬ ((run step (fresh 4) calls).files.lookup 0 = some (newDesc 0 [66] 4096 7) ∧
        (run step (fresh 4) calls).files.lookup 1 = some (newDesc 1 [67] 4096 2)) := by
    decide
  refine hnever before (List.mem_inits _ _ |>.mpr ⟨after, hsplit.symm⟩) ⟨?_, ?_⟩
  · rw [← hsame 0, hnew]
  · rw [← hsame 1, hold]

end FileManager

end Geminifs.Gemini
