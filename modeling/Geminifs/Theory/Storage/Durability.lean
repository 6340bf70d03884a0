import Geminifs.Theory.Storage.Invariant

/-!
# Durability

What a client may rely on after a crash. A file it created, made durable and
did not delete is listed again, with the id, size and extents it was given; a
file it deleted, made durable and did not create again is not listed.

Two things have to survive for this: the file, and the directory that lists it.
The file does from the moment it is created, because reading its extents syncs
it. The directory does once it is persisted, by the call itself or by a flush
that returned true. Between these, the dirty flag stays set. This second part
is the same argument for a directory that lists an entry and for one that does
not list a name, so it is made once, for any property of directories
(`saved_run`).

## Main definitions

* `FlushesTrue`, `Deletes`, `Creates`: What a step of a run did.
* `Held`, `Saved`, `Pending`: A property of the directory in memory, of the one
  on disk, and a dirty flag that is set.
* `Durable`: What a directory owes to a run.

## Theorems

* `saved_run`: A property that holds in memory throughout, and is saved or about
  to be flushed, is saved at the end.
* `kept_call`, `gone_call`: What calls do to a file and to a name's absence.
* `durable_after_crash`: Durability.
-/

namespace Geminifs.HostStorage

open Runs Function

variable {mp : MountPath} {ds : DeviceState}

/-- The step is a flush that returns true. -/
def FlushesTrue (mp : MountPath) (s : Storage) (op : Op) : Prop :=
  ∃ syncOk persistOk, op = .flushMetadata syncOk persistOk ∧ reply mp s op = .flag true

/-- The step is a delete of the id that unlinks its file, whether or not the
    delete then returns true. -/
def Deletes (id : Nat) : Op → Prop
  | .deleteFile id' _ unlinkOk _ => id' = id ∧ unlinkOk = true
  | _ => False

/-- The step is a create of the name that succeeds. -/
def Creates (mp : MountPath) (name : Bytes) (s : Storage) (op : Op) : Prop :=
  ∃ sizeBytes persistNow syncNow env f,
    op = .createFile name sizeBytes persistNow syncNow env ∧ reply mp s op = .file (some f)

/-- The device is booted, and its directory has a property. -/
def Held (Q : FileLog → Prop) (s : Storage) : Prop := ∃ ds, s.dev = some ds ∧ Q ds.log

/-- The directory last persisted has a property. -/
def Saved (Q : FileLog → Prop) (s : Storage) : Prop := ∃ l, s.disk.log = some l ∧ Q l

/-- The directory is marked to be persisted by the next flush. -/
def Pending (s : Storage) : Prop := ∃ ds, s.dev = some ds ∧ ds.dirtyUnpersistedLog = true

variable {op : Op} {ds' : DeviceState} {d d' : Disk}

section

variable {mp : MountPath} {Q : FileLog → Prop}

/-- What is saved stays saved while it is held. -/
theorem saved_call
    (hout : CallOutcome mp d ds op d' ds') (hheld : Q ds'.log) (h : Saved Q ⟨d, some ds⟩) :
    Saved Q ⟨d', some ds'⟩ := by
  rcases hout.log with hlog | hlog
  · rcases h with ⟨l, hl, hq⟩
    exact ⟨l, hlog.1.trans hl, hq⟩
  · exact ⟨ds'.log, hlog, hheld⟩

/-- What is pending stays pending, or is saved. -/
theorem pending_call
    (hout : CallOutcome mp d ds op d' ds') (hheld : Q ds'.log) (h : Pending ⟨d, some ds⟩) :
    Saved Q ⟨d', some ds'⟩ ∨ Pending ⟨d', some ds'⟩ := by
  rcases hout.log with hlog | hlog
  · rcases h with ⟨ds₁, hds₁, hdirty⟩
    have heq : ds = ds₁ := Option.some.inj hds₁
    exact .inr ⟨ds', rfl, hlog.2 (heq ▸ hdirty)⟩
  · exact .inl ⟨ds'.log, hlog, hheld⟩

variable {I : Storage → Prop} {P : Storage → Op → Prop}
  (hcall : ∀ s op, P s op → op.IsCall)
  (hI : ∀ s, I s → Inv mp s ∧ Held Q s)
  (hstep : ∀ s op, I s → P s op → I (step mp s op))

include hcall hI hstep

/-- A step of such a run, as a call on a booted device. -/
theorem held_call (s : Storage) (op : Op) (hs : I s) (hp : P s op) :
    ∃ d ds d' ds', s = ⟨d, some ds⟩ ∧ step mp s op = ⟨d', some ds'⟩ ∧
      CallOutcome mp d ds op d' ds' ∧ Q ds'.log := by
  rcases hI s hs with ⟨hinv, ds, hds, -⟩
  rcases s with ⟨d, dev⟩
  have hdev : dev = some ds := hds
  subst hdev
  rcases call_cases mp d (hinv.dev ds rfl).log.wf op (hcall _ op hp) with ⟨d', ds', heq, hout⟩
  rcases hI _ (hstep _ op hs hp) with ⟨-, ds₁, hds₁, hq⟩
  rw [heq] at hds₁
  have hsame : ds' = ds₁ := Option.some.inj hds₁
  exact ⟨d, ds, d', ds', rfl, heq, hout, hsame ▸ hq⟩

/-- A property that the directory in memory keeps throughout a run of calls is
    saved at the end if it was saved at the start, or was pending there and the
    run has a flush that returned true. -/
theorem saved_run {s : Storage} {ops : List Op} (hs : I s) (hrun : Runs.Along (step mp) P s ops)
    {now : Bool} (hsaved : now = true → Saved Q s) (hpending : now = false → Pending s)
    (hdur : now = true ∨ Runs.Sometime (step mp) (FlushesTrue mp) s ops) :
    Saved Q (run (step mp) s ops) := by
  have hkeep : ∀ s op, I s → P s op → Saved Q s → Saved Q (step mp s op) := by
    intro s op hs hp hsaved
    rcases held_call hcall hI hstep s op hs hp with ⟨d, ds, d', ds', rfl, heq, hout, hq⟩
    rw [heq]
    exact saved_call hout hq hsaved
  cases now with
  | true =>
    have hboth := run_invariant (I := fun s => I s ∧ Saved Q s)
      (fun s op h hp => ⟨hstep s op h.1 hp, hkeep s op h.1 hp h.2⟩) ⟨hs, hsaved rfl⟩ hrun
    exact hboth.2
  | false =>
    refine run_sometime (I := fun s => I s ∧ (Saved Q s ∨ Pending s)) ?_ ?_ ?_
      ⟨hs, .inr (hpending rfl)⟩ hrun (hdur.resolve_left Bool.false_ne_true)
    · intro s op h hp
      refine ⟨hstep s op h.1 hp, ?_⟩
      rcases held_call hcall hI hstep s op h.1 hp with ⟨d, ds, d', ds', rfl, heq, hout, hq⟩
      rw [heq]
      rcases h.2 with hsaved | hdirty
      · exact .inl (saved_call hout hq hsaved)
      · exact pending_call hout hq hdirty
    · -- After a flush that returned true nothing is pending any more.
      intro s op h hp hflushes
      rcases held_call hcall hI hstep s op h.1 hp with ⟨d, ds, _, ds', rfl, heq, hout, hq⟩
      rcases hflushes with ⟨syncOk, persistOk, rfl, hreply⟩
      have hclear := flush_true_flag hreply
      have hds' : (flushMetadata d ds syncOk persistOk).2.1 = ds' :=
        Option.some.inj (congrArg Storage.dev heq)
      rw [hds'] at hclear
      rw [heq]
      rcases h.2 with hsaved | hdirty
      · exact saved_call hout hq hsaved
      rcases pending_call hout hq hdirty with hsaved | ⟨ds₁, hds₁, hset⟩
      · exact hsaved
      · have hsame : ds' = ds₁ := Option.some.inj hds₁
        rw [← hsame, hclear] at hset
        cases hset
    · exact fun s op h hp hsaved => hkeep s op h.1 hp hsaved

end

/-- A booted device lists an entry, and the entry's file survives any crash. -/
structure Kept (mp : MountPath) (e : Entry) (s : Storage) : Prop where
  inv : Inv mp s
  held : Held (fun l => e ∈ l.entries) s
  file : ∃ ino, s.disk.survivors (hostPath mp e.name) = [some ino]

/-- A booted device does not list a name. -/
structure Gone (mp : MountPath) (name : Bytes) (s : Storage) : Prop where
  inv : Inv mp s
  held : Held (fun l => ∀ e ∈ l.entries, e.name ≠ name) s

/-- A call keeps an entry and its file, unless it is the entry's delete. -/
theorem kept_call {e : Entry} (hd : d.Current) (hs : DevOk mp ds) (he : e ∈ ds.log.entries)
    (hfile : ∃ ino, d.survivors (hostPath mp e.name) = [some ino])
    (hlegal : Legal mp ⟨d, some ds⟩ op) (hdel : ¬ Deletes e.fileId op)
    (hout : CallOutcome mp d ds op d' ds') :
    e ∈ ds'.log.entries ∧ ∃ ino, d'.survivors (hostPath mp e.name) = [some ino] := by
  rcases hfile with ⟨ino, hino⟩
  -- The file of a plain name that is not listed yet is another file.
  have hother : ∀ name, Plain name → (∀ x ∈ ds.log.entries, x.name ≠ name) →
      hostPath mp e.name ≠ cStr (hostPath mp name) := by
    intro name hname hfresh heq
    rw [cStr_hostPath mp name hname.noNul] at heq
    exact hfresh e he (hostPath_injective mp heq)
  cases hout with
  | quiet _ _ _ _ hsync hdisk hlog =>
    have hsame := hsync.of_singleton hd hino
    refine ⟨hlog.symm ▸ he, ino, ?_⟩
    rcases hdisk with hdisk | hdisk
    · rw [hdisk.1]
      exact hsame
    · rw [hdisk]
      exact hsame
  | abandoned name _ _ _ env hopens _ d₁ _ htouch hlog =>
    have hpath := hother name hlegal hopens.fresh
    have ht := htouch.trans (Disk.touches_unlink d₁ _ env.unlinkOk)
    exact ⟨(entries_of_drawn hlog).symm ▸ he, ino, (ht.survivors _ hpath).trans hino⟩
  | created name sizeBytes persistNow _ env hopens fd map _ hcommit _ _ htouch _ _ hlog =>
      have hpath := hother name hlegal hopens.fresh
      have hspec := createdLog_spec hs.log.wf hcommit.short hopens.fresh hlog
      refine ⟨?_, ino, ?_⟩
      · rw [hspec.2.2]
        exact List.mem_append_left _ he
      · cases persistNow with
        | false | true => exact (htouch.survivors _ hpath).trans hino
  | removed id _ _ _ hf _ hlog =>
    have hid : id ≠ e.fileId := fun heq => hdel ⟨heq, rfl⟩
    -- Another id is another path, so the `unlink` misses the file.
    have hpath := handle_path_ne hs he hf hid
    refine ⟨?_, ino, ?_⟩
    · rw [hlog]
      exact (FileLog.mem_remove hs.log.wf.indexed id e).mpr ⟨he, fun heq => hid heq.symm⟩
    · have hsame := (Disk.unlink_of_ne d true hpath).2.trans hino
      split
      · exact hsame
      · exact hsame

variable {name : Bytes}

/-- A call that does not create a name keeps it absent. -/
theorem gone_call (hs : DevOk mp ds)
    (h : ∀ e ∈ ds.log.entries, e.name ≠ name) (hcreate : ¬ Creates mp name ⟨d, some ds⟩ op)
    (hout : CallOutcome mp d ds op d' ds') : ∀ e ∈ ds'.log.entries, e.name ≠ name := by
  cases hout with
  | quiet _ _ _ _ _ _ hlog =>
    rw [hlog]
    exact h
  | abandoned _ _ _ _ _ _ _ _ _ _ hlog =>
    rw [entries_of_drawn hlog]
    exact h
  | created name' sizeBytes persistNow syncNow env hopens fd map _ hcommit _ _ _ _ _ hlog _ hreply =>
      have hspec := createdLog_spec hs.log.wf hcommit.short hopens.fresh hlog
      intro e he
      rw [hspec.2.2] at he
      rcases List.mem_append.mp he with he | he
      · exact h e he
      · rw [List.mem_singleton.mp he]
        intro heq
        have hname : name' = name := heq
        subst hname
        exact hcreate ⟨sizeBytes, persistNow, syncNow, env, _, rfl, hreply⟩
  | removed id _ _ _ _ _ hlog =>
    intro e he
    rw [hlog] at he
    exact h e ((FileLog.mem_remove hs.log.wf.indexed id e).mp he).1

theorem kept_step (e : Entry) (s : Storage) (op : Op) (h : Kept mp e s)
    (hop : Calls mp s op ∧ ¬ Deletes e.fileId op) : Kept mp e (step mp s op) := by
  have hinv := inv_step s op h.inv hop.1.2
  rcases h.held with ⟨ds, hds, he⟩
  rcases s with ⟨d, dev⟩
  have hdev : dev = some ds := hds
  subst hdev
  have hs := h.inv.dev ds rfl
  rcases call_cases mp d hs.log.wf op hop.1.1 with ⟨_, ds', heq, hout⟩
  have hkept := kept_call h.inv.disk.current hs he h.file hop.1.2 hop.2 hout
  rw [heq] at hinv ⊢
  exact ⟨hinv, ⟨ds', rfl, hkept.1⟩, hkept.2⟩

theorem gone_step (name : Bytes) (s : Storage) (op : Op) (h : Gone mp name s)
    (hop : Calls mp s op ∧ ¬ Creates mp name s op) : Gone mp name (step mp s op) := by
  have hinv := inv_step s op h.inv hop.1.2
  rcases h.held with ⟨ds, hds, hnone⟩
  rcases s with ⟨d, dev⟩
  have hdev : dev = some ds := hds
  subst hdev
  have hs := h.inv.dev ds rfl
  rcases call_cases mp d hs.log.wf op hop.1.1 with ⟨_, ds', heq, hout⟩
  rw [heq] at hinv ⊢
  exact ⟨hinv, ds', rfl, gone_call hs hnone hop.2 hout⟩

variable {s : Storage} {f : NvmeFile} {sizeBytes : UInt64}

/-- The entry of a create that succeeded, right after it: listed in memory, with
    a file that survives, and saved unless it is pending. -/
theorem kept_of_create (hinv : Inv mp s) (hplain : Plain name)
    {persistNow syncNow : Bool} {env : CreateEnv}
    (hop : op = .createFile name sizeBytes persistNow syncNow env)
    (hreply : reply mp s op = .file (some f)) :
    f.name = name ∧ f.sizeBytes = sizeBytes ∧
      Kept mp (entryOf f) (step mp s op) ∧
      (persistNow = true → Saved (fun l => entryOf f ∈ l.entries) (step mp s op)) ∧
      (persistNow = false → Pending (step mp s op)) := by
  subst hop
  have hinv' := inv_step s (.createFile name sizeBytes persistNow syncNow env) hinv hplain
  rcases s with ⟨d, _ | ds⟩
  · cases hreply
  have hs := hinv.dev ds rfl
  have hcases := createFileLocked_cases mp d ds hs.log.wf name sizeBytes persistNow syncNow env
  simp only [reply, exec, step, Reply.file.injEq] at hreply hinv' ⊢
  generalize createFileLocked mp d ds name sizeBytes persistNow syncNow env = r
    at hcases hreply hinv' ⊢
  cases hcases with
  | refused | abandoned => cases hreply
  | created hopens fd map _ hcommit _ _ _ hfile hsettled hlog =>
    rw [← Option.some.inj hreply]
    have hnew : createdEntry ds.log name sizeBytes (recordedExtents env fd map) ∈
        (createdLog ds.log name sizeBytes (recordedExtents env fd map)).entries := by
      rw [(createdLog_spec hs.log.wf hcommit.short hopens.fresh rfl).2.2]
      exact List.mem_append_right _ (List.mem_singleton_self _)
    rw [cStr_hostPath mp name hplain.noNul] at hsettled hfile
    refine ⟨rfl, rfl, ⟨hinv', ⟨_, rfl, ?_⟩,
      createdInode (d.files (hostPath mp name)) sizeBytes map, ?_⟩, ?_, ?_⟩
    · simp only [createdState, hlog]
      exact hnew
    · -- Reading the extents has synced the file.
      have hsurvives := hsettled.trans (congrArg (fun x => [x]) hfile)
      cases persistNow with
      | false | true => exact hsurvives
    · intro hnow
      subst hnow
      exact ⟨_, rfl, hnew⟩
    · intro hnow
      subst hnow
      exact ⟨_, rfl, by simp [createdState]⟩

variable {persistNow unlinkOk persistOk : Bool}

/-- The name of a delete that returned true, right after it: not listed in
    memory, and this is saved unless it is pending. -/
theorem gone_of_delete (hinv : Inv mp s) (hds : s.dev = some ds) {id : Nat}
    (hf : findFile ds.files id = some f) (hop : op = .deleteFile id persistNow unlinkOk persistOk)
    (hreply : reply mp s op = .flag true) :
    Gone mp f.name (step mp s op) ∧
      (persistNow = true → Saved (fun l => ∀ e ∈ l.entries, e.name ≠ f.name) (step mp s op)) ∧
      (persistNow = false → Pending (step mp s op)) := by
  subst hop
  have hinv' := inv_step s (.deleteFile id persistNow unlinkOk persistOk) hinv trivial
  rcases s with ⟨d, dev⟩
  have hdev : dev = some ds := hds
  subst hdev
  have hs := hinv.dev ds rfl
  have hcases := deleteFile_cases d ds id persistNow unlinkOk persistOk
  simp only [reply, exec, step, Reply.flag.injEq] at hreply hinv' ⊢
  generalize deleteFile d ds id persistNow unlinkOk persistOk = r at hcases hreply hinv' ⊢
  cases hcases with
  | missing | kept => cases hreply
  | removed =>
    have hmem := findFile_some hf
    have hold := hs.handles f hmem.1
    have hnone : ∀ e ∈ (ds.log.remove id).1.entries, e.name ≠ f.name :=
      hmem.2 ▸ FileLog.name_ne_of_mem_remove hs.log.wf.indexed hold.1
    refine ⟨⟨hinv', _, rfl, hnone⟩, fun hnow => ?_, fun hnow => ?_⟩
    · subst hnow
      simp only [Bool.not_true, Bool.false_or] at hreply
      simp only [hreply]
      exact ⟨_, rfl, hnone⟩
    · subst hnow
      exact ⟨_, rfl, by simp⟩

/-- What the directory after a run owes to it: the files that were created, made
    durable and not deleted, and the absence of those that were deleted, made
    durable and not created again. -/
structure Durable (mp : MountPath) (s : Storage) (ops : List Op) (l : FileLog) : Prop where
  created : ∀ before after name sizeBytes persistNow syncNow env f,
    ops = before ++ .createFile name sizeBytes persistNow syncNow env :: after →
    reply mp (run (step mp) s before) (.createFile name sizeBytes persistNow syncNow env) =
      .file (some f) →
    (persistNow = true ∧ syncNow = true) ∨ Runs.Sometime (step mp) (FlushesTrue mp)
      (step mp (run (step mp) s before) (.createFile name sizeBytes persistNow syncNow env)) after →
    (∀ op ∈ after, ¬ Deletes f.id op) →
    ⟨f.id, name, sizeBytes, f.extents⟩ ∈ l.entries
  deleted : ∀ before after id persistNow unlinkOk persistOk ds f,
    ops = before ++ .deleteFile id persistNow unlinkOk persistOk :: after →
    (run (step mp) s before).dev = some ds → findFile ds.files id = some f →
    reply mp (run (step mp) s before) (.deleteFile id persistNow unlinkOk persistOk) = .flag true →
    persistNow = true ∨ Runs.Sometime (step mp) (FlushesTrue mp)
      (step mp (run (step mp) s before) (.deleteFile id persistNow unlinkOk persistOk)) after →
    Runs.Along (step mp) (fun t op => ¬ Creates mp f.name t op)
      (step mp (run (step mp) s before) (.deleteFile id persistNow unlinkOk persistOk)) after →
    ∀ e ∈ l.entries, e.name ≠ f.name

section

variable {mp : MountPath} {s : Storage} (hinv : Inv mp s)

variable {before after : List Op}

include hinv

/-- The states of a run of calls, up to an action and after it. -/
theorem calls_split (hrun : Runs.Along (step mp) (Calls mp) s (before ++ op :: after)) :
    Inv mp (run (step mp) s before) ∧ Legal mp (run (step mp) s before) op ∧
      Runs.Along (step mp) (Calls mp) (step mp (run (step mp) s before) op) after := by
  rw [along_append] at hrun
  refine ⟨run_invariant (fun t a ht ha => inv_step t a ht ha.2) hinv hrun.1, ?_, hrun.2.2⟩
  exact hrun.2.1.2

/-- A file created, made durable and not deleted is listed on disk at the end of
    the run, and survives. -/
theorem created_saved {persistNow syncNow : Bool}
    {env : CreateEnv} (hop : op = .createFile name sizeBytes persistNow syncNow env)
    (hrun : Runs.Along (step mp) (Calls mp) s (before ++ op :: after))
    (hreply : reply mp (run (step mp) s before) op = .file (some f))
    (hdur : (persistNow = true ∧ syncNow = true) ∨ Runs.Sometime (step mp) (FlushesTrue mp)
      (step mp (run (step mp) s before) op) after)
    (hdel : ∀ op ∈ after, ¬ Deletes f.id op) :
    f.name = name ∧ f.sizeBytes = sizeBytes ∧
      Kept mp (entryOf f) (run (step mp) s (before ++ op :: after)) ∧
      Saved (fun l => entryOf f ∈ l.entries) (run (step mp) s (before ++ op :: after)) := by
  have hsplit := calls_split hinv hrun
  have hlegal : Legal mp _ (.createFile name sizeBytes persistNow syncNow env) := hop ▸ hsplit.2.1
  have hnew := kept_of_create hsplit.1 hlegal hop hreply
  have hafter := along_and hsplit.2.2
    (along_of_forall (P := fun _ op => ¬ Deletes (entryOf f).fileId op)
      (fun t op hop => hdel op hop))
  rw [run_append_cons]
  refine ⟨hnew.1, hnew.2.1, run_invariant (kept_step (entryOf f)) hnew.2.2.1 hafter, ?_⟩
  exact saved_run (fun t _ h => h.1.1) (fun t h => ⟨h.inv, h.held⟩) (kept_step (entryOf f))
    hnew.2.2.1 hafter hnew.2.2.2.1 hnew.2.2.2.2 (hdur.imp_left And.left)

end

/-- An entry that is saved, and whose file survives, is listed after a crash. -/
theorem listed_after_crash {e : Entry} (hkept : Kept mp e s) {l : FileLog}
    (hl : s.disk.log = some l) (he : e ∈ l.entries) {pick : Bytes → Option Inode}
    (hpick : ∀ p, pick p ∈ s.disk.survivors p) {env : BootEnv}
    (henv : env.Faithful mp (s.disk.crash pick)) :
    e ∈ (reconcile mp (s.disk.crash pick) l env).2.1.entries := by
  have hdir := hkept.inv.disk.log l hl
  rcases hnames : env.listing with _ | names
  · rw [reconcile_unlisted mp _ l env hnames]
    exact he
  · rw [reconcile_mem mp _ hdir.wf.indexed env henv hdir.stem names hnames]
    refine ⟨he, ?_⟩
    rcases hkept.file with ⟨_, hino⟩
    have hleft := hpick (hostPath mp e.name)
    rw [hino, List.mem_singleton] at hleft
    have hfile : (s.disk.crash pick).files (hostPath mp e.name) = pick (hostPath mp e.name) := rfl
    rw [hfile, hleft]
    rfl

/-- After any history of a device, any run of calls, a crash that leaves what
    may survive, and a bootstrap that returns true, the directory in memory has
    every file that was made durable and none that was durably deleted. -/
theorem durable_after_crash (mp : MountPath) (history ops : List Op)
    (hhistory : Runs.Along (step mp) (Legal mp) freshDevice history)
    (hops : Runs.Along (step mp) (Calls mp) (run (step mp) freshDevice history) ops)
    (pick : Bytes → Option Inode)
    (hpick : ∀ p, pick p ∈ (run (step mp) freshDevice (history ++ ops)).disk.survivors p)
    (env : BootEnv)
    (henv : env.Faithful mp ((run (step mp) freshDevice (history ++ ops)).disk.crash pick))
    (hboot : reply mp (step mp (run (step mp) freshDevice (history ++ ops)) (.crash pick))
      (.bootstrap env) = .flag true) :
    ∃ ds, (step mp (step mp (run (step mp) freshDevice (history ++ ops)) (.crash pick))
        (.bootstrap env)).dev = some ds ∧
      Durable mp (run (step mp) freshDevice history) ops ds.log := by
  have hinv := inv_run mp history hhistory
  rw [run_append] at hpick henv hboot ⊢
  rcases boot_after_crash _ pick env hboot with ⟨d, l, hstep, hload, -⟩
  rw [hstep]
  refine ⟨_, rfl, ?_, ?_⟩
  · intro before after name sizeBytes persistNow _ _ f hsplit hreply hdur hdel
    subst hsplit
    rcases created_saved hinv rfl hops hreply hdur hdel with ⟨hname, hsize, hkept, l', hl', he⟩
    rcases hload l' hl' with ⟨rfl, rfl⟩
    have hlisted := listed_after_crash hkept hl' he hpick henv
    have hentry : entryOf f = ⟨f.id, name, sizeBytes, f.extents⟩ := by
      rw [← hname, ← hsize]
      rfl
    rw [hentry] at hlisted
    exact hlisted
  · intro _ _ _ _ _ _ _ f hsplit hds hf hreply hdur hcreate
    subst hsplit
    -- A name that is deleted, made durable and not created again is not listed on disk.
    have hcalls := calls_split hinv hops
    have hgone := gone_of_delete hcalls.1 hds hf rfl hreply
    rcases saved_run (fun t _ h => h.1.1) (fun t h => ⟨h.inv, h.held⟩) (gone_step f.name) hgone.1
      (along_and hcalls.2.2 hcreate) hgone.2.1 hgone.2.2 hdur with ⟨l', hl', hnone⟩
    rw [← run_append_cons] at hl'
    rcases hload l' hl' with ⟨rfl, rfl⟩
    have hinv' := run_invariant (fun t a ht ha => inv_step t a ht ha.2) hinv hops
    intro e he
    -- Reconcile adds no entry.
    exact hnone e ((reconcile_wellFormed mp _ env (hinv'.disk.log l hl').wf).2 e he)

/-- One file is created durably; another is created and deleted, and this is
    flushed. -/
def createAndDelete : List Op :=
  [.createFile cacheName 4096 true true (createOk [⟨0, 40960, 8192, fiemapExtentLast⟩]),
    .createFile spareName 4096 false false (createOk [⟨0, 81920, 8192, fiemapExtentLast⟩]),
    .deleteFile 2 false true true,
    .flushMetadata true true]

/-- The device after these calls, on its first boot. -/
def createdAndDeleted : Storage :=
  run (step mountPoint) freshDevice ([.bootstrap (bootOk [])] ++ createAndDelete)

theorem createdAndDeleted_files (p : Bytes) :
    (createdAndDeleted.disk.files p).isSome ↔ p = hostPath mountPoint cacheName := by
  have hne : hostPath mountPoint cacheName ≠ hostPath mountPoint spareName := by decide
  have hfiles : createdAndDeleted.disk.files = update (update (update (update (update
        (fun _ => none) (hostPath mountPoint cacheName) (some ⟨0, []⟩))
        (hostPath mountPoint cacheName) (some ⟨8192, [⟨0, 40960, 8192, fiemapExtentLast⟩]⟩))
        (hostPath mountPoint spareName) (some ⟨0, []⟩))
        (hostPath mountPoint spareName) (some ⟨8192, [⟨0, 81920, 8192, fiemapExtentLast⟩]⟩))
        (hostPath mountPoint spareName) none := rfl
  rw [hfiles]
  by_cases hspare : p = hostPath mountPoint spareName
  · subst hspare
    simp [hne.symm]
  · rw [update_of_ne hspare, update_of_ne hspare, update_of_ne hspare]
    exact isSome_update_iff (fun q hq => update_of_ne hq _ _) _ p

theorem durable_after_crash_createAndDelete : ∃ ds,
    (step mountPoint (step mountPoint createdAndDeleted (.crash createdAndDeleted.disk.files))
      (.bootstrap (bootOk [cacheName ++ binExt]))).dev = some ds ∧
    ⟨1, cacheName, 4096, [⟨10, 2⟩]⟩ ∈ ds.log.entries ∧
    ∀ e ∈ ds.log.entries, e.name ≠ spareName := by
  have hcache : Plain cacheName := by decide
  have hspare : Plain spareName := by decide
  have hhistory : Runs.Along (step mountPoint) (Legal mountPoint) freshDevice
      [.bootstrap (bootOk [])] := ⟨faithful_fresh mountPoint, trivial⟩
  have hops : Runs.Along (step mountPoint) (Calls mountPoint)
      (run (step mountPoint) freshDevice [.bootstrap (bootOk [])]) createAndDelete :=
    ⟨⟨trivial, hcache⟩, ⟨trivial, hspare⟩, ⟨trivial, trivial⟩, ⟨trivial, trivial⟩, trivial⟩
  have hlegal : Runs.Along (step mountPoint) (Legal mountPoint) freshDevice
      ([.bootstrap (bootOk [])] ++ createAndDelete) :=
    ⟨faithful_fresh mountPoint, hcache, hspare, trivial, trivial, trivial⟩
  have hcurrent : createdAndDeleted.disk.Current := (inv_run mountPoint _ hlegal).disk.current
  rcases durable_after_crash mountPoint [.bootstrap (bootOk [])] createAndDelete hhistory hops
    createdAndDeleted.disk.files hcurrent (bootOk [cacheName ++ binExt])
    (faithful_single mountPoint hcache createdAndDeleted_files) (by decide) with ⟨ds, hds, hdur⟩
  refine ⟨ds, hds, ?_, ?_⟩
  · exact hdur.created [] _ cacheName 4096 true true _
      (createdFile .empty cacheName 4096 [⟨10, 2⟩] 3 (hostPath mountPoint cacheName)) rfl
      (by decide) (.inl ⟨rfl, rfl⟩) (by simp [Deletes, createdFile, FileLog.empty])
  · -- The deleted file's handle is the one its create returned.
    refine hdur.deleted (createAndDelete.take 2) [.flushMetadata true true] 2 false true true _
      ⟨2, spareName, 4096, [⟨20, 2⟩], 3, hostPath mountPoint spareName, nvmeFileHeaderSize⟩
      rfl rfl rfl (by decide) (.inr (.inl ⟨true, true, rfl, by decide⟩)) ⟨?_, trivial⟩
    intro hcreates
    rcases hcreates with ⟨_, _, _, _, _, heq, -⟩
    cases heq

end Geminifs.HostStorage
