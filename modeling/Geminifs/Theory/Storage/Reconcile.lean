import Geminifs.Theory.FileLog
import Geminifs.Theory.Storage.Disk
import Geminifs.Theory.Storage.Names

/-!
# What Reconcile Does

The sweep as a statement about sets: with a truthful listing, the entries left
are those whose `.bin` file is there, and the files unlinked are at paths no
entry has.

The tombstone sweep is a loop of `remove`, and an entry survives it when its
id is not among the dead (`sweepTombstones_spec`). The ghost sweep is a loop of
`unlink`, which changes the paths it names and no others
(`sweepGhosts_of_notMem`).

## Theorems

* `hasKey_binOnDisk`: A stem is seen on disk exactly when its file is.
* `logByName_eq`: The name map of a directory is its entries.
* `sweepTombstones_spec`: The entries left by the tombstone sweep.
* `sweepGhosts_of_notMem`, `sweepGhosts_survivors`, `sweepGhosts_unlinked`:
  The disk left by the ghost sweep.
* `reconcile_mem`: The entries left by reconcile.
* `stemsListed_reconcile`: The files left by it.
* `reconcile_log`: When reconcile persists.
-/

namespace Geminifs.HostStorage

variable {l : FileLog} (mp : MountPath) (listing : List Bytes) (d : Disk)
  (dead : List (Bytes × Nat)) (env : BootEnv) (stray : List (Bytes × Bytes)) (p : Bytes)
  (kv : Bytes × Bytes)

/-- A pair of `bin_on_disk` is a listed file and its path. -/
theorem mem_binOnDisk (h : kv ∈ binOnDisk mp listing) :
    kv.2 = hostPath mp kv.1 ∧ kv.1 ++ binExt ∈ listing ∧ kv.1 ≠ [] ∧ kv.1 ≠ logStem := by
  have hmem := mem_of_mem_emplaceAll _ kv h
  rcases List.mem_filterMap.mp hmem with ⟨_, hfn, hkv⟩
  rcases Option.map_eq_some_iff.mp hkv with ⟨_, hname, hpair⟩
  have hbin := eq_of_binName hname
  rw [← hpair]
  refine ⟨?_, hbin.1 ▸ hfn, hbin.2.1, hbin.2.2⟩
  rw [show hostPath mp _ = leafPath mp _ from rfl, ← hbin.1]
  rfl

/-- A stem is a key of `bin_on_disk` exactly when its file is listed. -/
theorem hasKey_binOnDisk_iff_mem (name : Bytes) (hstem : Stem name) :
    hasKey (binOnDisk mp listing) name = true ↔ name ++ binExt ∈ listing := by
  unfold binOnDisk
  rw [hasKey_emplaceAll]
  constructor
  · intro h
    rcases h with ⟨v, hv⟩
    rcases List.mem_filterMap.mp hv with ⟨_, hfn, hkv⟩
    rcases Option.map_eq_some_iff.mp hkv with ⟨name', hname, hpair⟩
    have hbin := eq_of_binName hname
    have heq : name' = name := congrArg Prod.fst hpair
    rw [← heq, ← hbin.1]
    exact hfn
  · intro h
    refine ⟨tuttiDir mp ++ (ascii ['/'] ++ (name ++ binExt)), ?_⟩
    refine List.mem_filterMap.mpr ⟨name ++ binExt, h, ?_⟩
    rw [binName_append name hstem.nonempty hstem.notLog, Option.map_some]

/-- A stem is seen on disk exactly when its file is there. -/
theorem hasKey_binOnDisk (listing : List Bytes) (hlist : ListsTutti mp d listing) (name : Bytes)
    (hstem : Stem name) :
    hasKey (binOnDisk mp listing) name = true ↔ (d.files (hostPath mp name)).isSome := by
  rw [hasKey_binOnDisk_iff_mem mp listing name hstem]
  have hnot := bin_ne_log name hstem.notLog
  rw [hlist.mem _ hnot.1 hnot.2]
  constructor
  · intro h
    exact h.2.2.2
  · intro h
    exact ⟨by simp [binExt, ascii], List.not_mem_append hstem.noSlash (by decide),
      List.not_mem_append hstem.noNul (by decide), h⟩

/-- With a truthful listing, every pair of `bin_on_disk` is a file and its path. -/
theorem of_mem_binOnDisk {mp : MountPath} {d : Disk} {listing : List Bytes}
    (hlist : ListsTutti mp d listing) {kv : Bytes × Bytes} (h : kv ∈ binOnDisk mp listing) :
    Stem kv.1 ∧ cStr kv.2 = hostPath mp kv.1 ∧ (d.files (hostPath mp kv.1)).isSome := by
  have hbin := mem_binOnDisk mp listing kv h
  have hnot := bin_ne_log kv.1 hbin.2.2.2
  have hmem := (hlist.mem (kv.1 ++ binExt) hnot.1 hnot.2).mp hbin.2.1
  have hnul : 0 ∉ kv.1 := fun hz => hmem.2.2.1 (List.mem_append_left _ hz)
  refine ⟨⟨hbin.2.2.1, fun hs => hmem.2.1 (List.mem_append_left _ hs), hnul, hbin.2.2.2⟩, ?_,
    hmem.2.2.2⟩
  -- The listed name has no zero byte, so its path is seen whole.
  rw [hbin.1, cStr_hostPath mp kv.1 hnul]

/-- The name map of a directory is its entries, in order. -/
theorem logByName_eq (hl : l.Indexed) :
    logByName l = l.entries.map (fun e => (e.name, e.fileId)) := by
  refine emplaceAll_of_nodup _ ?_
  rw [List.map_map]
  exact hl.names

theorem hasKey_logByName (hl : l.Indexed) (name : Bytes) :
    hasKey (logByName l) name = true ↔ ∃ e ∈ l.entries, e.name = name := by
  rw [hasKey_iff, logByName_eq hl]
  constructor
  · rintro ⟨v, hv⟩
    rcases List.mem_map.mp hv with ⟨e, he, heq⟩
    exact ⟨e, he, congrArg Prod.fst heq⟩
  · rintro ⟨e, he, rfl⟩
    exact ⟨e.fileId, List.mem_map.mpr ⟨e, he, rfl⟩⟩

/-- A ghost is a file without an entry. -/
theorem mem_ghosts (hl : l.Indexed) (kv : Bytes × Bytes) (bin : List (Bytes × Bytes)) :
    kv ∈ ghosts bin (logByName l) ↔ kv ∈ bin ∧ ∀ e ∈ l.entries, e.name ≠ kv.1 := by
  rw [ghosts, List.mem_filter, Bool.not_eq_true', ← Bool.not_eq_true, hasKey_logByName hl]
  simp

/-- The tombstone sweep from any count: what is left, and that an unchanged
    count means an unchanged directory. -/
theorem foldl_remove_spec (hl : l.Indexed) (n : Nat) :
    let r := dead.foldl (fun acc kv =>
      let r := acc.1.remove kv.2
      (r.1, if r.2 then acc.2 + 1 else acc.2)) (l, n)
    r.1.Indexed ∧ r.1.nextId = l.nextId ∧
      (∀ x, x ∈ r.1.entries ↔ x ∈ l.entries ∧ ∀ kv ∈ dead, x.fileId ≠ kv.2) ∧
      n ≤ r.2 ∧ (r.2 = n → r.1 = l) := by
  induction dead generalizing l n with
  | nil => exact ⟨hl, rfl, fun x => by simp, Nat.le_refl _, fun _ => rfl⟩
  | cons kv _ ih =>
    have hmem := FileLog.mem_remove hl kv.2
    have hnext := FileLog.remove_nextId l kv.2
    have hrest := ih (FileLog.indexed_remove hl kv.2)
      (if (l.remove kv.2).2 then n + 1 else n)
    simp only [List.foldl_cons] at hrest ⊢
    rcases hrest with ⟨hwf, hid, hentries, hle, hsame⟩
    refine ⟨hwf, hid.trans hnext, fun x => ?_, ?_, ?_⟩
    · rw [hentries, hmem, and_assoc, List.forall_mem_cons]
    · have hcount : n ≤ if (l.remove kv.2).2 then n + 1 else n := by
        split
        · exact Nat.le_succ n
        · exact Nat.le_refl n
      exact Nat.le_trans hcount hle
    · intro hn
      -- A removal that happened would have been counted.
      rcases FileLog.remove_cases l kv.2 with ⟨heq, -⟩ | ⟨i, e, -, -, heq⟩
      · rw [heq] at hsame hn ⊢
        exact hsame hn
      · rw [heq] at hle hn
        simp only [if_true] at hle hn
        omega

/-- There is nothing to remove from an empty directory. -/
theorem sweepTombstones_empty : sweepTombstones .empty dead = (.empty, 0) := by
  induction dead with
  | nil => rfl
  | cons _ _ ih =>
    exact ih

/-- The entries left by the tombstone sweep are those whose id is not among the
    dead; a count of zero means nothing was removed. -/
theorem sweepTombstones_spec (hl : l.Indexed) (dead : List (Bytes × Nat)) :
    (sweepTombstones l dead).1.Indexed ∧ (sweepTombstones l dead).1.nextId = l.nextId ∧
      (∀ x, x ∈ (sweepTombstones l dead).1.entries ↔ x ∈ l.entries ∧ ∀ kv ∈ dead, x.fileId ≠ kv.2) ∧
      ((sweepTombstones l dead).2 = 0 → (sweepTombstones l dead).1 = l) := by
  have h := foldl_remove_spec dead hl 0
  exact ⟨h.1, h.2.1, h.2.2.1, h.2.2.2.2⟩

/-- What every `unlink` of the ghost sweep keeps, the sweep keeps. -/
@[elab_as_elim]
theorem sweepGhosts_induct {P : Disk → Prop} (h : P d)
    (hstep : ∀ d, ∀ kv ∈ stray, P d → P (d.unlink (cStr kv.2) (env.unlinkOk kv.1))) :
    P (sweepGhosts d env stray) :=
  List.foldlRecOn stray _ h (fun d hd kv hkv => hstep d kv hkv hd)

/-- The ghost sweep leaves a path alone that is no ghost's, and the log. -/
theorem sweepGhosts_of_notMem (hp : ∀ kv ∈ stray, cStr kv.2 ≠ p) :
    (sweepGhosts d env stray).files p = d.files p ∧
      (sweepGhosts d env stray).survivors p = d.survivors p := by
  refine sweepGhosts_induct d env stray ⟨rfl, rfl⟩ (fun d' kv hkv h => ?_)
  rw [← h.1, ← h.2]
  exact Disk.unlink_of_ne d' _ (fun h => hp kv hkv h.symm)

theorem sweepGhosts_log : (sweepGhosts d env stray).log = d.log :=
  sweepGhosts_induct d env stray rfl (fun d' _ _ h => (Disk.unlink_log d' _ _).trans h)

/-- The ghost sweep takes files away and adds none. -/
theorem sweepGhosts_files :
    (sweepGhosts d env stray).files p = none ∨ (sweepGhosts d env stray).files p = d.files p := by
  refine sweepGhosts_induct d env stray (.inr rfl) (fun d' kv _ h => ?_)
  rcases Disk.unlink_files d' (cStr kv.2) p (env.unlinkOk kv.1) with h' | h'
  · exact .inl h'
  · rwa [h']

/-- All a ghost sweep adds to what may survive is that a file is gone. -/
theorem sweepGhosts_survivors :
    ∀ x ∈ (sweepGhosts d env stray).survivors p, x = none ∨ x ∈ d.survivors p :=
  sweepGhosts_induct d env stray (fun _ => .inr) (fun d' kv _ h x hx =>
    (Disk.mem_unlink_survivors d' (cStr kv.2) p _ x hx).elim .inl (h x))

/-- The present state of every path stays among what may survive. -/
theorem sweepGhosts_current (h : d.Current) : (sweepGhosts d env stray).Current := by
  refine sweepGhosts_induct d env stray h (fun d' kv _ h p => ?_)
  have ht := Disk.touches_unlink d' (cStr kv.2) (env.unlinkOk kv.1)
  by_cases hp : p = cStr kv.2
  · rw [hp]
    exact ht.current (h _)
  · rw [ht.files p hp, ht.survivors p hp]
    exact h p

/-- A ghost whose `unlink` succeeds is gone. -/
theorem sweepGhosts_unlinked (hkv : kv ∈ stray)
    (hok : env.unlinkOk kv.1 = true) : (sweepGhosts d env stray).files (cStr kv.2) = none := by
  induction stray generalizing d with
  | nil => cases hkv
  | cons kv' stray ih =>
    rcases List.mem_cons.mp hkv with heq | hkv
    · -- Gone at once, and the rest of the sweep does not bring it back.
      have hgone : (d.unlink (cStr kv'.2) (env.unlinkOk kv'.1)).files (cStr kv.2) = none := by
        rw [← heq, hok]
        exact Disk.unlink_self d _
      rcases sweepGhosts_files (d.unlink (cStr kv'.2) (env.unlinkOk kv'.1)) env stray
        (cStr kv.2) with h | h
      · exact h
      · exact h.trans hgone
    · exact ih (d.unlink (cStr kv'.2) (env.unlinkOk kv'.1)) hkv

/-- An environment of a bootstrap that tells the truth: the name map is visited
    in some order, and a listing of `.tutti` lists what is there. -/
structure BootEnv.Faithful (mp : MountPath) (d : Disk) (env : BootEnv) : Prop where
  order : ∀ m, (env.order m).Perm m
  listing : ∀ names, env.listing = some names → ListsTutti mp d names

/-- The tombstones of a directory are its entries whose file is
    not seen, whatever order they are visited in. -/
theorem mem_tombstones (hl : l.Indexed) (bin : List (Bytes × Bytes))
    (order : List (Bytes × Nat) → List (Bytes × Nat)) (horder : ∀ m, (order m).Perm m)
    (kv : Bytes × Nat) :
    kv ∈ tombstones bin (order (logByName l)) ↔
      ∃ e ∈ l.entries, (e.name, e.fileId) = kv ∧ hasKey bin e.name = false := by
  unfold tombstones
  rw [List.mem_filter, (horder _).mem_iff, logByName_eq hl, List.mem_map, Bool.not_eq_true']
  constructor
  · intro h
    rcases h with ⟨⟨e, he, heq⟩, hkey⟩
    rw [← heq] at hkey
    exact ⟨e, he, heq, hkey⟩
  · intro h
    rcases h with ⟨e, he, heq, hkey⟩
    rw [← heq]
    exact ⟨⟨e, he, rfl⟩, hkey⟩

/-- The directory left when `.tutti` could be listed. -/
def swept (mp : MountPath) (l : FileLog) (env : BootEnv) (names : List Bytes) : FileLog × Nat :=
  sweepTombstones l (tombstones (binOnDisk mp names) (env.order (logByName l)))

/-- The stems that have a file are the names of the entries. -/
def StemsListed (mp : MountPath) (d : Disk) (l : FileLog) : Prop :=
  ∀ name, Stem name → ((d.files (hostPath mp name)).isSome ↔ ∃ e ∈ l.entries, e.name = name)

/-- The parts of reconcile's result when `.tutti` could be listed. -/
theorem reconcile_listed (l : FileLog) (env : BootEnv) (names : List Bytes)
    (hnames : env.listing = some names) :
    (reconcile mp d l env).2.1 = (swept mp l env names).1 ∧ (reconcile mp d l env).1.files =
        (sweepGhosts d env (ghosts (binOnDisk mp names) (logByName l))).files ∧
      (reconcile mp d l env).1.survivors =
        (sweepGhosts d env (ghosts (binOnDisk mp names) (logByName l))).survivors ∧
      (reconcile mp d l env).1.log = if (swept mp l env names).2 ≠ 0 ∧ env.persistOk = true then
          some (swept mp l env names).1 else d.log := by
  have hlog := sweepGhosts_log d env (ghosts (binOnDisk mp names) (logByName l))
  unfold reconcile swept
  rw [hnames]
  -- Only a count that is not zero leads to a persist.
  by_cases hcount : (sweepTombstones l (tombstones (binOnDisk mp names)
      (env.order (logByName l)))).2 = 0
  · simp only [hcount, ne_eq, not_true_eq_false, if_false]
    exact ⟨trivial, trivial, trivial, hlog⟩
  · cases hpersist : env.persistOk with
    | false =>
      simp only [hcount, ne_eq, not_false_eq_true, if_true, Bool.false_eq_true, if_false]
      exact ⟨trivial, trivial, trivial, hlog⟩
    | true =>
      simp only [hcount, ne_eq, not_false_eq_true, if_true]
      refine ⟨trivial, ?_, ?_, ?_⟩
      · rfl
      · rfl
      · rfl

/-- Without a listing, reconcile does nothing. -/
theorem reconcile_unlisted (l : FileLog) (env : BootEnv) (hnames : env.listing = none) :
    reconcile mp d l env = (d, l, false) := by
  unfold reconcile
  rw [hnames]

/-- The directory stays if the tombstone sweep leaves it. -/
theorem reconcile_kept (l : FileLog) (env : BootEnv)
    (h : ∀ names, env.listing = some names → (swept mp l env names).1 = l) :
    (reconcile mp d l env).2.1 = l := by
  rcases hnames : env.listing with _ | names
  · rw [reconcile_unlisted mp d l env hnames]
  · rw [(reconcile_listed mp d l env names hnames).1, h names hnames]

section

variable (mp : MountPath) (d : Disk) {l : FileLog} (hl : l.Indexed) (env : BootEnv)

include hl

/-- Reconcile keeps the index right, draws no id and adds no entry. -/
theorem reconcile_indexed :
    (reconcile mp d l env).2.1.Indexed ∧ (reconcile mp d l env).2.1.nextId = l.nextId ∧
      ∀ x ∈ (reconcile mp d l env).2.1.entries, x ∈ l.entries := by
  rcases hnames : env.listing with _ | names
  · rw [reconcile_unlisted mp d l env hnames]
    exact ⟨hl, rfl, fun x hx => hx⟩
  · have h := sweepTombstones_spec hl (tombstones (binOnDisk mp names) (env.order (logByName l)))
    rw [(reconcile_listed mp d l env names hnames).1]
    exact ⟨h.1, h.2.1, fun x hx => ((h.2.2.1 x).mp hx).1⟩

omit hl in
theorem reconcile_wellFormed (hl : l.WellFormed) : (reconcile mp d l env).2.1.WellFormed ∧
      ∀ x ∈ (reconcile mp d l env).2.1.entries, x ∈ l.entries := by
  have h := reconcile_indexed mp d hl.indexed env
  exact ⟨hl.of_subset h.1 h.2.1 h.2.2, h.2.2⟩

/-- Reconcile persists the directory it leaves, unless nothing was removed or
    the persist fails. -/
theorem reconcile_log : (reconcile mp d l env).1.log = some (reconcile mp d l env).2.1 ∨
      ((reconcile mp d l env).1.log = d.log ∧
        ((reconcile mp d l env).2.1 = l ∨ env.persistOk = false)) := by
  rcases hnames : env.listing with _ | names
  · rw [reconcile_unlisted mp d l env hnames]
    exact .inr ⟨rfl, .inl rfl⟩
  · have h := sweepTombstones_spec hl (tombstones (binOnDisk mp names) (env.order (logByName l)))
    have hparts := reconcile_listed mp d l env names hnames
    rw [hparts.1, hparts.2.2.2]
    by_cases hcount : (swept mp l env names).2 = 0
    · rw [if_neg (by simp [hcount])]
      exact .inr ⟨rfl, .inl (h.2.2.2 hcount)⟩
    · cases hpersist : env.persistOk with
      | false =>
        rw [if_neg (by simp)]
        exact .inr ⟨rfl, .inr rfl⟩
      | true =>
        rw [if_pos ⟨hcount, rfl⟩]
        exact .inl rfl

variable (henv : env.Faithful mp d)

include henv

/-- With a truthful listing, the entries left are those whose file is there. -/
theorem reconcile_mem (hstem : ∀ e ∈ l.entries, Stem e.name) (names : List Bytes)
    (hnames : env.listing = some names) (x : Entry) :
    x ∈ (reconcile mp d l env).2.1.entries ↔
      x ∈ l.entries ∧ (d.files (hostPath mp x.name)).isSome := by
  have hlist := henv.listing names hnames
  have h := sweepTombstones_spec hl (tombstones (binOnDisk mp names) (env.order (logByName l)))
  rw [(reconcile_listed mp d l env names hnames).1, swept, h.2.2.1]
  constructor
  · intro hx
    refine ⟨hx.1, ?_⟩
    rw [← hasKey_binOnDisk mp d names hlist x.name (hstem x hx.1)]
    -- An entry whose file is not seen is a tombstone, and its id is dead.
    by_contra hkey
    rw [Bool.not_eq_true] at hkey
    have hdead := (mem_tombstones hl (binOnDisk mp names) env.order henv.order
      (x.name, x.fileId)).mpr ⟨x, hx.1, rfl, hkey⟩
    exact hx.2 _ hdead rfl
  · intro hx
    refine ⟨hx.1, fun kv hkv hid => ?_⟩
    rcases (mem_tombstones hl (binOnDisk mp names) env.order henv.order kv).mp hkv with
      ⟨e, he, heq, hkey⟩
    -- A dead id belongs to one entry, whose file is not seen.
    have hxe : x = e := FileLog.eq_of_fileId_eq hl hx.1 he (hid.trans (congrArg Prod.snd heq).symm)
    have hseen := (hasKey_binOnDisk mp d names hlist x.name (hstem x hx.1)).mpr hx.2
    rw [hxe, hkey] at hseen
    cases hseen

/-- Reconcile leaves a path alone that is not that of a stem without an entry. -/
theorem reconcile_untouched (p : Bytes)
    (hp : ∀ name, Stem name → (∀ e ∈ l.entries, e.name ≠ name) → p ≠ hostPath mp name) :
    (reconcile mp d l env).1.files p = d.files p ∧
      (reconcile mp d l env).1.survivors p = d.survivors p := by
  rcases hnames : env.listing with _ | names
  · rw [reconcile_unlisted mp d l env hnames]
    exact ⟨rfl, rfl⟩
  · have hparts := reconcile_listed mp d l env names hnames
    rw [hparts.2.1, hparts.2.2.1]
    refine sweepGhosts_of_notMem d env _ _ (fun kv hkv hpath => ?_)
    have hghost := (mem_ghosts hl kv _).mp hkv
    have hfile := of_mem_binOnDisk (henv.listing names hnames) hghost.1
    exact hp kv.1 hfile.1 hghost.2 (hpath.symm.trans hfile.2.1)

/-- Reconcile leaves the file of an entry alone. -/
theorem reconcile_of_entry (e : Entry) (he : e ∈ l.entries) :
    (reconcile mp d l env).1.files (hostPath mp e.name) = d.files (hostPath mp e.name) :=
  (reconcile_untouched mp d hl env henv _
    (fun _ _ hno hpath => hno e he (hostPath_injective mp hpath))).1

/-- With a truthful listing and unlinks that succeed, the file of a stem without an
    entry is gone. -/
theorem reconcile_ghost (names : List Bytes) (hnames : env.listing = some names)
    (hunlink : ∀ n, env.unlinkOk n = true)
    (name : Bytes) (hname : Stem name) (hno : ∀ e ∈ l.entries, e.name ≠ name) :
    (reconcile mp d l env).1.files (hostPath mp name) = none := by
  rw [(reconcile_listed mp d l env names hnames).2.1]
  rcases hfile : d.files (hostPath mp name) with _ | _
  · -- Nothing was there, and the sweep adds nothing.
    rcases sweepGhosts_files d env (ghosts (binOnDisk mp names) (logByName l))
      (hostPath mp name) with h | h
    · exact h
    · exact h.trans hfile
  · have hlist := henv.listing names hnames
    have hseen := (hasKey_binOnDisk mp d names hlist name hname).mpr (by rw [hfile]; rfl)
    rcases (hasKey_iff _ _).mp hseen with ⟨abs, habs⟩
    have hgone := sweepGhosts_unlinked d env _ (name, abs) ((mem_ghosts hl _ _).mpr ⟨habs, hno⟩)
      (hunlink name)
    rwa [(of_mem_binOnDisk hlist habs).2.1] at hgone

/-- With a truthful listing and unlinks that succeed, the files left are the entries'
    left. -/
theorem stemsListed_reconcile (hstem : ∀ e ∈ l.entries, Stem e.name) (names : List Bytes)
    (hnames : env.listing = some names) (hunlink : ∀ n, env.unlinkOk n = true) :
    StemsListed mp (reconcile mp d l env).1 (reconcile mp d l env).2.1 := by
  intro name hname
  have hmem := reconcile_mem mp d hl env henv hstem names hnames
  have hfile := reconcile_of_entry mp d hl env henv
  constructor
  · intro hleft
    by_cases hex : ∃ e ∈ l.entries, e.name = name
    · rcases hex with ⟨e, he, rfl⟩
      rw [hfile e he] at hleft
      exact ⟨e, (hmem e).mpr ⟨he, hleft⟩, rfl⟩
    · rw [reconcile_ghost mp d hl env henv names hnames hunlink name hname
        (fun e he heq => hex ⟨e, he, heq⟩)] at hleft
      cases hleft
  · rintro ⟨e, he, rfl⟩
    have hold := (hmem e).mp he
    rw [hfile e hold.1]
    exact hold.2

omit hl henv in
/-- Reconcile takes files away and adds none. -/
theorem reconcile_files (p : Bytes) : (reconcile mp d l env).1.files p = none ∨
      (reconcile mp d l env).1.files p = d.files p := by
  rcases hnames : env.listing with _ | names
  · rw [reconcile_unlisted mp d l env hnames]
    exact .inr rfl
  · rw [(reconcile_listed mp d l env names hnames).2.1]
    exact sweepGhosts_files d env _ p

omit hl henv in
/-- All that reconcile adds to what may survive is that a file is gone. -/
theorem reconcile_survivors (p : Bytes) (x : Option Inode)
    (hx : x ∈ (reconcile mp d l env).1.survivors p) : x = none ∨ x ∈ d.survivors p := by
  rcases hnames : env.listing with _ | names
  · rw [reconcile_unlisted mp d l env hnames] at hx
    exact .inr hx
  · rw [(reconcile_listed mp d l env names hnames).2.2.1] at hx
    exact sweepGhosts_survivors d env _ p x hx

omit hl henv in
/-- The present state of every path stays among what may survive. -/
theorem reconcile_current (h : d.Current) : (reconcile mp d l env).1.Current := by
  rcases hnames : env.listing with _ | names
  · rw [reconcile_unlisted mp d l env hnames]
    exact h
  · have hparts := reconcile_listed mp d l env names hnames
    intro p
    rw [hparts.2.1, hparts.2.2.1]
    exact sweepGhosts_current d env _ h p

end

end Geminifs.HostStorage
