import Geminifs.Theory.LogFormat
import Geminifs.Theory.Storage.Invariant

/-!
# Shutting Down and Booting Again

A session that ends with a shutdown that returned true is found again by the
next one: the same directory, entry by entry, with the same next id, and
nothing for reconcile to do.

Two things are needed. The directory has to come back from its bytes, which is
the round trip of `Theory.LogFormat`; and reconcile must find neither an entry
without a file nor a file without an entry. The second is an invariant of a
session on a new device, as long as the unlinks of failed creates succeed:
there is a file exactly for each entry (`Mirrored`).

The bytes hold an entry count of 32 bits and ids of 64. The count is enough
because ext4 numbers its files with 32 bits (`FewFiles`), and every entry has
one.

## Main definitions

* `reload`: What the next session reads of a persisted directory.
* `Mirrored`: There is a file exactly for each entry.
* `CleansUp`: A step whose cleanup succeeds.
* `FewFiles`: The file system has fewer than `2^32` files.

## Theorems

* `listsExactly_add`, `listsExactly_drop`: A file and its entry come and go together.
* `mirrored_call`, `mirrored_step`: Calls keep the mirror.
* `fitsFormat_of_mirrored`: The directory fits its format.
* `nothing_to_sweep`: Reconcile finds no tombstones and no ghosts.
* `reconcile_intersects`: What reconcile leaves.
* `bounce_keeps_directory`: A shutdown and a bootstrap change nothing.
-/

namespace Geminifs.HostStorage

open Runs

variable {mp : MountPath} {d : Disk} {env : BootEnv}

/-- What the next session reads of a persisted directory: its bytes, decoded. -/
def reload (l : FileLog) : Option FileLog := FileLog.loadLocked l.encodeLog

/-- There is a file exactly for each entry, and no entry has more extents than
    the header of a file can hold. -/
structure Mirrored (mp : MountPath) (d : Disk) (l : FileLog) : Prop where
  files : ListsExactly mp d l
  extents : ∀ e ∈ l.entries, e.extents.length ≤ kNvmeFileHeaderMaxExtents

/-- If the step is a create that has to remove its file again, the `unlink`
    succeeds. -/
def CleansUp : Op → Prop
  | .createFile _ _ _ _ env => env.unlinkOk = true
  | _ => True

/-- There are fewer than `2^32` files, as on ext4. -/
def FewFiles (d : Disk) : Prop :=
  ∀ paths : List Bytes, paths.Nodup → (∀ p ∈ paths, (d.files p).isSome) → paths.length < 2 ^ 32

section

variable {mp : MountPath} {d d' : Disk} {l l' : FileLog}

/-- One more file, with an entry of its own. -/
theorem listsExactly_add {e : Entry} (h : ListsExactly mp d l)
    (hentries : l'.entries = l.entries ++ [e]) (hfile : (d'.files (hostPath mp e.name)).isSome)
    (hother : ∀ p, p ≠ hostPath mp e.name → d'.files p = d.files p) :
    ListsExactly mp d' l' := by
  intro p
  rw [hentries]
  by_cases hp : p = hostPath mp e.name
  · rw [hp]
    exact ⟨fun _ => ⟨e, List.mem_append_right _ (List.mem_singleton_self e), rfl⟩, fun _ => hfile⟩
  rw [hother p hp, h p]
  constructor
  · intro hex
    rcases hex with ⟨e', he', hpath⟩
    exact ⟨e', List.mem_append_left _ he', hpath⟩
  · intro hex
    rcases hex with ⟨e', he', hpath⟩
    rcases List.mem_append.mp he' with he' | he'
    · exact ⟨e', he', hpath⟩
    · rw [List.mem_singleton.mp he'] at hpath
      exact absurd hpath hp

/-- One path less: its file is gone, and so is every entry that names it. -/
theorem listsExactly_drop {q : Bytes} (h : ListsExactly mp d l)
    (hentries : ∀ e, e ∈ l'.entries ↔ e ∈ l.entries ∧ q ≠ hostPath mp e.name)
    (hfile : d'.files q = none) (hother : ∀ p, p ≠ q → d'.files p = d.files p) :
    ListsExactly mp d' l' := by
  intro p
  by_cases hp : p = q
  · rw [hp, hfile]
    refine ⟨nofun, fun hex => ?_⟩
    rcases hex with ⟨e, he, hpath⟩
    exact absurd hpath ((hentries e).mp he).2
  rw [hother p hp, h p]
  constructor
  · intro hex
    rcases hex with ⟨e, he, hpath⟩
    exact ⟨e, (hentries e).mpr ⟨he, fun hq => hp (hpath.trans hq.symm)⟩, hpath⟩
  · intro hex
    rcases hex with ⟨e, he, hpath⟩
    exact ⟨e, ((hentries e).mp he).1, hpath⟩

end

/-- A call whose cleanup succeeds keeps the mirror. -/
theorem mirrored_call {d' : Disk} {ds ds' : DeviceState} {op : Op} (hs : DevOk mp ds)
    (h : Mirrored mp d ds.log) (hlegal : Legal mp ⟨d, some ds⟩ op) (hclean : CleansUp op)
    (hout : CallOutcome mp d ds op d' ds') : Mirrored mp d' ds'.log := by
  cases hout with
  | quiet _ _ d' _ hsync hdisk hlog =>
    have hfiles : d'.files = d.files := by
      rcases hdisk with hdisk | hdisk
      · rw [hdisk.1]
        exact hsync.files
      · rw [hdisk]
        exact hsync.files
    rw [hlog]
    exact ⟨fun p => by rw [hfiles]; exact h.files p, h.extents⟩
  | abandoned name _ _ _ env hopens _ d₁ _ htouch hlog =>
    have hplain : Plain name := hlegal
    have hunlink : env.unlinkOk = true := hclean
    rw [cStr_hostPath mp name hplain.noNul] at htouch ⊢
    rw [hunlink]
    have hentries := entries_of_drawn hlog
    refine ⟨listsExactly_drop h.files (fun e => ?_) (Disk.unlink_self d₁ _) (fun p hp => ?_),
      fun e he => h.extents e (hentries ▸ he)⟩
    · -- No entry had the name, so none is lost with the file.
      rw [hentries]
      refine ⟨fun he => ⟨he, fun hpath => ?_⟩, And.left⟩
      exact hopens.fresh e he (hostPath_injective mp hpath).symm
    · rw [(Disk.unlink_of_ne d₁ true hp).1, htouch.files p hp]
  | created name sizeBytes persistNow _ env hopens fd map halloc hcommit d₁ ds' htouch hfile _ hlog =>
      have hplain : Plain name := hlegal
      rw [cStr_hostPath mp name hplain.noNul] at htouch hfile
      have hspec := createdLog_spec hs.log.wf hcommit.short hopens.fresh hlog
      have hfiles := Disk.ite_persist_files d₁ (persistNow = true) ds'.log
      refine ⟨listsExactly_add h.files hspec.2.2 ?_ (fun p hp => ?_), ?_⟩
      · rw [hfiles]
        exact Option.isSome_of_eq_some hfile
      · rw [hfiles, htouch.files p hp]
      · -- More extents would have been refused when they were read.
        rcases readExtents_ok halloc.extents with ⟨-, -, -, -, hcount, -, -⟩
        rw [hspec.2.2]
        exact List.forall_mem_append.mpr ⟨h.extents, List.forall_mem_singleton.mpr hcount⟩
  | removed id persistNow persistOk f hf ds' hlog =>
    have hmem := findFile_some hf
    have hold := hs.handles f hmem.1
    have hpath : cStr f.hostPath = hostPath mp f.name := by
      rw [hold.2, cStr_hostPath mp f.name (hs.log.plain _ hold.1).noNul]
    have hfiles := Disk.ite_persist_files (d.unlink (cStr f.hostPath) true)
      (persistNow = true ∧ persistOk = true) ds'.log
    have hleft := fun e => FileLog.mem_remove hs.log.wf.indexed id e
    rw [← hlog] at hleft
    refine ⟨listsExactly_drop h.files (fun e => ?_) ((congrFun hfiles _).trans
      (Disk.unlink_self d (cStr f.hostPath))) (fun p hp => ?_),
      fun e he => h.extents e ((hleft e).mp he).1⟩
    · rw [hleft e]
      refine and_congr_right (fun he => ⟨fun hid hq => ?_, fun hq hid => hq ?_⟩)
      · exact handle_path_ne hs he hf hid.symm hq.symm
      · -- An entry with the id is the handle's own.
        have hsame := FileLog.eq_of_fileId_eq hs.log.wf.indexed he hold.1 (hid.trans hmem.2.symm)
        rw [hpath, hsame]
        rfl
    · rw [hfiles, (Disk.unlink_of_ne d true hp).1]

/-- A booted device in order, whose directory mirrors the disk. -/
structure InMirror (mp : MountPath) (s : Storage) : Prop where
  inv : Inv mp s
  mirrored : ∃ ds, s.dev = some ds ∧ Mirrored mp s.disk ds.log

theorem mirrored_step (s : Storage) (op : Op) (h : InMirror mp s)
    (hop : Calls mp s op ∧ CleansUp op) : InMirror mp (step mp s op) := by
  have hinv := inv_step s op h.inv hop.1.2
  rcases h.mirrored with ⟨ds, hds, hmirror⟩
  rcases s with ⟨d, dev⟩
  have hdev : dev = some ds := hds
  subst hdev
  have hs := h.inv.dev ds rfl
  rcases call_cases mp d hs.log.wf op hop.1.1 with ⟨_, ds', heq, hout⟩
  rw [heq] at hinv ⊢
  exact ⟨hinv, ds', rfl, mirrored_call hs hmirror hop.1.2 hop.2 hout⟩

/-- A new device, once booted, has no files and no entries. -/
theorem mirrored_boot (henv : env.Faithful mp freshDevice.disk)
    (hboot : reply mp freshDevice (.bootstrap env) = .flag true) :
    InMirror mp (step mp freshDevice (.bootstrap env)) := by
  refine ⟨inv_step freshDevice (.bootstrap env) (inv_fresh mp) henv, ?_⟩
  have hcases := bootstrap_cases mp freshDevice env
  simp only [reply, exec, step, Reply.flag.injEq] at hboot ⊢
  generalize bootstrapWith some mp freshDevice env = r at hcases hboot ⊢
  cases hcases with
  | same _ hok => exact absurd rfl (hok hboot)
  | loaded _ _ _ hlog => cases hlog
  | started =>
    -- An empty directory stays empty, whatever the sweep does.
    have hnone : ∀ e, e ∉ (reconcile mp (freshDevice.disk.persist .empty) .empty env).2.1.entries :=
      fun e he => absurd
        ((reconcile_wellFormed mp _ env FileLog.wellFormed_empty).2 e he) List.not_mem_nil
    refine ⟨_, rfl, fun p => ?_, fun e he => absurd he (hnone e)⟩
    have hfile : (reconcile mp (freshDevice.disk.persist .empty) .empty env).1.files p = none := by
      rcases reconcile_files mp (freshDevice.disk.persist .empty) (l := .empty) env p with h | h
      · exact h
      · exact h
    simp only [finishBoot, hfile, Option.isSome_none, Bool.false_eq_true, false_iff]
    intro hex
    rcases hex with ⟨e, he, -⟩
    exact hnone e he

variable {l : FileLog}

/-- A directory that mirrors a file system of limited size fits its format. -/
theorem fitsFormat_of_mirrored (hl : DirOk l) (h : Mirrored mp d l) (hfew : FewFiles d)
    (hcounter : l.nextId < 2 ^ 64) : l.FitsFormat := by
  refine ⟨?_, fun e he => ?_, hcounter, fun e he => (hl.plain e he).noNul⟩
  · -- The entries' paths are as many files.
    have hnodup : (l.entries.map (fun e => hostPath mp e.name)).Nodup := by
      have hnames : (l.entries.map (fun e => e.name)).Nodup := hl.wf.names
      have hpaths := hnames.map (f := hostPath mp) (fun _ _ heq => hostPath_injective mp heq)
      rwa [List.map_map] at hpaths
    have hlen := hfew _ hnodup (fun p hp => ?_)
    · rwa [List.length_map] at hlen
    · rcases List.mem_map.mp hp with ⟨e, he, heq⟩
      exact (h.files p).mpr ⟨e, he, heq.symm⟩
  · have hmax : kNvmeFileHeaderMaxExtents < 2 ^ 32 := by decide
    exact Nat.lt_of_le_of_lt (h.extents e he) hmax

theorem ListsExactly.stems (h : ListsExactly mp d l) : StemsListed mp d l := by
  intro name _
  rw [h]
  constructor
  · rintro ⟨e, he, hpath⟩
    exact ⟨e, he, (hostPath_injective mp hpath).symm⟩
  · rintro ⟨e, he, rfl⟩
    exact ⟨e, he, rfl⟩

/-- Where there is a file exactly for each entry, reconcile has nothing to
    remove. -/
theorem nothing_to_sweep (hl : l.Indexed) (hstem : ∀ e ∈ l.entries, Stem e.name)
    (h : StemsListed mp d l) (henv : env.Faithful mp d) {names : List Bytes}
    (hnames : env.listing = some names) :
    tombstones (binOnDisk mp names) (env.order (logByName l)) = [] ∧
      ghosts (binOnDisk mp names) (logByName l) = [] := by
  have hlist := henv.listing names hnames
  refine ⟨List.eq_nil_iff_forall_not_mem.mpr (fun kv hkv => ?_),
    List.eq_nil_iff_forall_not_mem.mpr (fun kv hkv => ?_)⟩
  · rcases (mem_tombstones hl _ env.order henv.order kv).mp hkv with ⟨e, he, -, hkey⟩
    have hseen := (hasKey_binOnDisk mp d names hlist e.name (hstem e he)).mpr
      ((h _ (hstem e he)).mpr ⟨e, he, rfl⟩)
    rw [hkey] at hseen
    cases hseen
  · have hghost := (mem_ghosts hl kv _).mp hkv
    have hfile := of_mem_binOnDisk hlist hghost.1
    rcases (h _ hfile.1).mp hfile.2.2 with ⟨e, he, hname⟩
    exact hghost.2 e he hname

/-- With nothing to remove, reconcile changes nothing. -/
theorem reconcile_of_nothing (h : ∀ names, env.listing = some names →
      tombstones (binOnDisk mp names) (env.order (logByName l)) = [] ∧
        ghosts (binOnDisk mp names) (logByName l) = []) :
    (reconcile mp d l env).1 = d ∧ (reconcile mp d l env).2.1 = l := by
  unfold reconcile
  rcases hnames : env.listing with _ | names
  · exact ⟨rfl, rfl⟩
  · have hnone := h names hnames
    simp only [hnone.1, hnone.2]
    exact ⟨rfl, rfl⟩

/-- With a truthful listing, unlinks and a persist that succeed, reconcile leaves the
    entries that have a file, each found by its name, and of the files that could
    belong to an entry only theirs. Other files are not touched, a directory that was
    persisted is persisted, and to run it again changes nothing. -/
theorem reconcile_intersects (mp : MountPath) (d : Disk) (l : FileLog) (hl : l.Indexed)
    (hstem : ∀ e ∈ l.entries, Stem e.name) (env : BootEnv) (henv : env.Faithful mp d)
    (names : List Bytes) (hnames : env.listing = some names)
    (hunlink : ∀ n, env.unlinkOk n = true) (hpersist : env.persistOk = true) :
    let r := reconcile mp d l env
    (∀ e, e ∈ r.2.1.entries ↔ e ∈ l.entries ∧ (d.files (hostPath mp e.name)).isSome) ∧
      r.2.1.Indexed ∧ (∀ e ∈ r.2.1.entries, r.2.1.findByName e.name = some e) ∧
      StemsListed mp r.1 r.2.1 ∧
      (∀ p, (∀ name, Stem name → (∀ e ∈ l.entries, e.name ≠ name) → p ≠ hostPath mp name) →
        r.1.files p = d.files p) ∧
      (d.log = some l → r.1.log = some r.2.1) ∧
      ∀ env' : BootEnv, env'.Faithful mp r.1 →
        (reconcile mp r.1 r.2.1 env').1 = r.1 ∧ (reconcile mp r.1 r.2.1 env').2.1 = r.2.1 := by
  have hleft := reconcile_indexed mp d hl env
  have hstems := stemsListed_reconcile mp d hl env henv hstem names hnames hunlink
  refine ⟨reconcile_mem mp d hl env henv hstem names hnames, hleft.1, fun e he => ?_, hstems,
    fun p hp => (reconcile_untouched mp d hl env henv p hp).1, fun hlog => ?_, fun env' henv' => ?_⟩
  · exact (FileLog.findByName_eq_some hleft.1 e.name e).mpr ⟨he, rfl⟩
  · rcases reconcile_log mp d hl env with h | h
    · exact h
    · -- Nothing was removed, so the directory is the one on disk.
      rw [h.1, h.2.resolve_right (by simp [hpersist]), hlog]
  · exact reconcile_of_nothing (fun _ => nothing_to_sweep hleft.1
      (fun e he => hstem e (hleft.2.2 e he)) hstems henv')

/-- An entry without a file, on a device with a file without an entry. -/
theorem reconcile_intersects_one :
    (reconcile mountPoint (run (step mountPoint) freshDevice firstFile).disk
      (FileLog.empty.nextFileId.2.add ⟨1, spareName, 4096, []⟩).1
      (bootOk [cacheName ++ binExt])).2.1.Indexed :=
  (reconcile_intersects mountPoint (run (step mountPoint) freshDevice firstFile).disk _
    (FileLog.wellFormed_add (FileLog.wellFormed_nextFileId FileLog.wellFormed_empty)
      ⟨1, spareName, 4096, []⟩ (by decide) nofun (by decide) nofun).indexed
    (fun e he => (List.mem_singleton.mp he ▸ by decide : Plain e.name).stem) _
    (faithful_single mountPoint (by decide) firstFile_files) _ rfl (fun _ => rfl) rfl).2.1

/-- After a session on a new device whose cleanups succeeded, a shutdown that
    returns true and a bootstrap that succeeds, the directory is the one before
    the shutdown. Reconcile found no tombstone and no ghost, and every file is
    still there. -/
theorem bounce_keeps_directory (mp : MountPath) (first : BootEnv)
    (hfirst : first.Faithful mp freshDevice.disk)
    (hbooted : reply mp freshDevice (.bootstrap first) = .flag true) (ops : List Op)
    (hops : Runs.Along (step mp) (fun s op => Calls mp s op ∧ CleansUp op)
      (step mp freshDevice (.bootstrap first)) ops)
    (s : Storage) (hs : s = run (step mp) (step mp freshDevice (.bootstrap first)) ops)
    (ds : DeviceState) (hds : s.dev = some ds) (hcounter : ds.log.nextId < 2 ^ 64)
    (hext4 : FewFiles s.disk) (fsyncOk : Nat → Bool) (persistOk umountOk : Bool)
    (hdown : (shutdown s fsyncOk persistOk umountOk).2 = true) (env : BootEnv)
    (henv : env.Faithful mp (shutdown s fsyncOk persistOk umountOk).1.disk)
    (hup : (bootstrapWith reload mp (shutdown s fsyncOk persistOk umountOk).1 env).2 = true) :
    ∃ ds', (bootstrapWith reload mp (shutdown s fsyncOk persistOk umountOk).1 env).1.dev =
        some ds' ∧ ds'.log = ds.log ∧
      (bootstrapWith reload mp (shutdown s fsyncOk persistOk umountOk).1 env).1.disk.files =
        s.disk.files ∧
      ∀ names, env.listing = some names →
        tombstones (binOnDisk mp names) (env.order (logByName ds.log)) = [] ∧
          ghosts (binOnDisk mp names) (logByName ds.log) = [] := by
  have hmirror : InMirror mp s :=
    hs.symm ▸ run_invariant mirrored_step (mirrored_boot hfirst hbooted) hops
  rcases hmirror.mirrored with ⟨ds₁, hds₁, hexact⟩
  have hsame : ds₁ = ds := Option.some.inj (hds₁.symm.trans hds)
  subst hsame
  rcases s with ⟨d, dev⟩
  have hdev : dev = some ds₁ := hds
  subst hdev
  have hdir := (hmirror.inv.dev ds₁ rfl).log
  -- The shutdown persisted the directory, and synced some files.
  rcases shutdown_cases d ds₁ fsyncOk persistOk umountOk with ⟨d', hsync, heq⟩
  rw [heq] at hdown henv hup ⊢
  rw [Bool.and_eq_true] at hdown
  simp only [hdown.1, if_true] at henv hup ⊢
  -- The directory is read back from its bytes.
  have hload : reload ds₁.log = some ds₁.log :=
    FileLog.loadLocked_encodeLog hdir.wf (fitsFormat_of_mirrored hdir hexact hext4 hcounter)
  have hlists : ListsExactly mp (d'.persist ds₁.log) ds₁.log := by
    intro p
    have hfiles : (d'.persist ds₁.log).files = d.files := hsync.files
    rw [hfiles]
    exact hexact.files p
  have hnone := fun names (hnames : env.listing = some names) =>
    nothing_to_sweep hdir.wf.indexed hdir.stem hlists.stems henv hnames
  have hkept := reconcile_of_nothing (d := d'.persist ds₁.log) hnone
  have hstarted : bootstrapWith reload mp ⟨d'.persist ds₁.log, none⟩ env =
      (finishBoot mp (d'.persist ds₁.log) ds₁.log env, true) := by
    have hlog : (d'.persist ds₁.log).log = some ds₁.log := rfl
    unfold bootstrapWith at hup ⊢
    cases hsetup : env.setupOk with
    | false => simp [hsetup] at hup
    | true => simp [hlog, hload]
  rw [hstarted]
  refine ⟨_, rfl, hkept.2, ?_, hnone⟩
  simp only [finishBoot]
  rw [hkept.1]
  exact hsync.files

/-- A disk with one file has few. -/
theorem fewFiles_single {q : Bytes} (h : ∀ p, (d.files p).isSome ↔ p = q) : FewFiles d := by
  intro paths hnodup hall
  rcases paths with _ | ⟨a, _ | ⟨b, _⟩⟩
  · simp
  · simp
  · -- Two paths would be the same one.
    have ha := (h a).mp (hall a List.mem_cons_self)
    have hb := (h b).mp (hall b (List.mem_cons_of_mem _ List.mem_cons_self))
    exact absurd (ha.trans hb.symm ▸ List.mem_cons_self) (List.nodup_cons.mp hnodup).1

theorem bounce_keeps_directory_firstFile : ∃ ds', (bootstrapWith reload mountPoint
        (shutdown (run (step mountPoint) freshDevice firstFile) (fun _ => true) true true).1
        (bootOk [cacheName ++ binExt])).1.dev = some ds' ∧
      ds'.log.entries = [⟨1, cacheName, 4096, [⟨10, 2⟩]⟩] ∧ ds'.log.nextId = 2 := by
  have hcache : Plain cacheName := by decide
  have hup : (bootstrapWith reload mountPoint
      (shutdown (run (step mountPoint) freshDevice firstFile) (fun _ => true) true true).1
      (bootOk [cacheName ++ binExt])).2 = true := by decide +kernel
  rcases bounce_keeps_directory mountPoint (bootOk []) (faithful_fresh mountPoint) (by decide)
    firstFile.tail ⟨⟨⟨trivial, hcache⟩, rfl⟩, trivial⟩
    (run (step mountPoint) freshDevice firstFile) rfl _ rfl (by decide)
    (fewFiles_single firstFile_files) (fun _ => true) true true (by decide)
    (bootOk [cacheName ++ binExt]) (faithful_single mountPoint hcache firstFile_files) hup
    with ⟨ds', hds', hlog, -, -⟩
  refine ⟨ds', hds', ?_, ?_⟩
  · rw [hlog]
    rfl
  · rw [hlog]
    rfl

end Geminifs.HostStorage
