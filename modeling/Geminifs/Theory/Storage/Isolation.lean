import Geminifs.Theory.Storage.Invariant

/-!
# Names that Have a Path of Their Own

The storage layer means to keep a flat namespace: each name has one file,
directly in `.tutti`, apart from the log. `create_file` checks only that the
name is not empty and, through the log, that it is shorter than 128 bytes. It
does not look for slashes, zero bytes or the log's name.

So a path is shared whenever two spellings of it are accepted, and almost
every path has two: a slash in front of a name changes nothing about where it
leads (`place_slash_cons`). Only a name so long that no other spelling fits
has a path of its own, and `isolated_iff` says exactly which names these are.
The name `file_log` leads to the log itself (`file_log_not_isolated`).

Among plain names there is no such trouble: they lie directly in `.tutti`,
apart from the log, and apart from each other (`place_of_plain`), and creating
or deleting one leaves the files of the others alone (`create_other_plain`,
`delete_other_plain`).

## Main definitions

* `Accepted`: A name some `create_file` call succeeds with.
* `place`: Where a name's path leads.
* `Isolated`: A name's path is in `.tutti`, apart from the log and from every
  other accepted name's.
* `Unaliased`: The names that have no other spelling.
* `Spares`, `FileKept`: An action that is not about a name, and a file that is kept.

## Theorems

* `accepted_iff`: Which names are accepted.
* `isolated_iff`: Exactly the unaliased names are isolated.
* `place_of_plain`: Plain names are kept apart.
* `create_other_plain`, `delete_other_plain`: Creating and deleting a plain
  name leaves the other plain names' files alone.
* `run_spares`: So do whole runs of calls.
-/

namespace Geminifs.HostStorage

open Runs

/-- A name that some call of `create_file` succeeds with. -/
def Accepted (mp : MountPath) (name : Bytes) : Prop :=
  ∃ (d : Disk) (s : DeviceState) (sizeBytes : UInt64) (persistNow syncNow : Bool)
    (env : CreateEnv), s.log.WellFormed ∧
      (createFileLocked mp d s name sizeBytes persistNow syncNow env).2.2 ≠ none

/-- What the system calls see of a name: `.bin` is cut off with everything else
    after a zero byte. -/
def seenName (name : Bytes) : Bytes := cStr (name ++ binExt)

/-- Where `.tutti` is. -/
def tuttiPlace (mp : MountPath) : List Bytes := resolve (tuttiDir mp)

/-- Where the path that is opened, allocated, written and unlinked for a name
    leads. -/
def place (mp : MountPath) (name : Bytes) : List Bytes := resolve (cStr (hostPath mp name))

/-- The path of a name is directly in `.tutti`, is not the log nor its temporary
    file, and is no other accepted name's. -/
structure Isolated (mp : MountPath) (name : Bytes) : Prop where
  inside : ∃ leaf, place mp name = tuttiPlace mp ++ [leaf] ∧ leaf ≠ logFileName ∧
    leaf ≠ FileLog.tmpPath logFileName
  unique : ∀ other, Accepted mp other → other ≠ name → place mp other ≠ place mp name

/-- The names that have no other spelling of 127 bytes or fewer: 127 bytes
    without a slash or a zero byte, or 126 such bytes that do not end in `.bin`
    and one zero byte. -/
def Unaliased (name : Bytes) : Prop :=
  (name.length = 127 ∧ slash ∉ name ∧ 0 ∉ name) ∨
    ∃ c, name = c ++ [0] ∧ c.length = 126 ∧ slash ∉ c ∧ 0 ∉ c ∧ ∀ x, c ≠ x ++ binExt

variable {name other : Bytes} (mp : MountPath) (x : Bytes)

/-- `create_file` accepts every name of 1 to 127 bytes. -/
theorem accepted_iff (name : Bytes) : Accepted mp name ↔ name ≠ [] ∧ name.length < kNameMax := by
  constructor
  · intro h
    rcases h with ⟨d, s, sizeBytes, persistNow, syncNow, env, hwf, hsome⟩
    have hcases := createFileLocked_cases mp d s hwf name sizeBytes persistNow syncNow env
    generalize createFileLocked mp d s name sizeBytes persistNow syncNow env = r
      at hcases hsome
    cases hcases with
    | refused | abandoned => exact absurd rfl hsome
    | created hopens _ _ _ hcommit =>
      exact ⟨hopens.nonempty, hcommit.short⟩
  · intro h
    -- On an empty device where every call succeeds, any such name is taken.
    refine ⟨.fresh, bootedWith .empty, 4096, true, true,
      createOk [⟨0, 40960, 8192, fiemapExtentLast⟩], FileLog.wellFormed_empty, ?_⟩
    have hcases := createFileLocked_cases mp .fresh (bootedWith .empty)
      FileLog.wellFormed_empty name 4096 true true
      (createOk [⟨0, 40960, 8192, fiemapExtentLast⟩])
    generalize createFileLocked mp .fresh (bootedWith .empty) name 4096 true true
      (createOk [⟨0, 40960, 8192, fiemapExtentLast⟩]) = r at hcases ⊢
    cases hcases with
    | refused hopens =>
      refine absurd ⟨h.1, by decide, fun e he => ?_, by simp [createOk]⟩ hopens
      cases he
    | abandoned _ hfails =>
      refine absurd ⟨3, [⟨0, 40960, 8192, fiemapExtentLast⟩], ?_, rfl, h.2, fun _ => rfl⟩ hfails
      exact ⟨rfl, rfl, by decide, by decide, fun _ => rfl, by decide⟩
    | created =>
      simp

/-- A name's path continues from `.tutti` with what is seen of the name. -/
theorem place_eq (name : Bytes) :
    place mp name = (splitPath (seenName name)).foldl enter (tuttiPlace mp) := by
  have hnul : 0 ∉ tuttiDir mp ++ [slash] :=
    List.not_mem_append (List.not_mem_append mp.nulFree (by decide)) (by decide)
  have hpath : hostPath mp name = (tuttiDir mp ++ [slash]) ++ (name ++ binExt) := by
    rw [List.append_assoc]
    rfl
  unfold place
  rw [hpath, cStr_append _ _ hnul, List.append_assoc, List.singleton_append, resolve_append]
  rfl

theorem seenName_of_nulFree (name : Bytes) (h : 0 ∉ name) : seenName name = name ++ binExt :=
  cStr_of_zero_notMem _ (List.not_mem_append h (by decide))

theorem seenName_of_nul (c rest : Bytes) (h : 0 ∉ c) : seenName (c ++ 0 :: rest) = c := by
  unfold seenName
  rw [List.append_assoc]
  exact cStr_append_zero c _ h

/-- Every name is seen whole, or cut at its first zero byte. -/
theorem seenName_cases (name : Bytes) : (0 ∉ name ∧ seenName name = name ++ binExt) ∨
      ∃ c rest, name = c ++ 0 :: rest ∧ 0 ∉ c ∧ seenName name = c := by
  by_cases h : (0 : UInt8) ∈ name
  · rcases List.eq_append_cons_of_mem h with ⟨c, rest, heq, hc⟩
    exact .inr ⟨c, rest, heq, hc, heq ▸ seenName_of_nul c rest hc⟩
  · exact .inl ⟨h, seenName_of_nulFree name h⟩

theorem place_congr (h : seenName name = seenName other) : place mp name = place mp other := by
  rw [place_eq, place_eq, h]

/-- A slash in front of a name leads to the same place. -/
theorem place_slash_cons (name : Bytes) : place mp (slash :: name) = place mp name := by
  have hseen : seenName (slash :: name) = slash :: seenName name :=
    cStr_append [slash] (name ++ binExt) (by decide)
  have hskip : enter (tuttiPlace mp) [] = tuttiPlace mp := rfl
  rw [place_eq, place_eq, hseen, splitPath, if_pos rfl, List.foldl_cons, hskip]

/-- What is seen of a name is its leaf, when that is an ordinary component. -/
theorem place_leaf (mp : MountPath) (name : Bytes) (hslash : slash ∉ seenName name)
    (hord : Ordinary (seenName name)) : place mp name = tuttiPlace mp ++ [seenName name] := by
  rw [place_eq, splitPath_of_noSlash _ hslash, List.foldl_cons, List.foldl_nil,
    enter_ordinary _ _ hord]

theorem ordinary_of_length (c : Bytes) (h : 2 < c.length) : Ordinary c := by
  refine ⟨fun heq => ?_, fun heq => ?_, fun heq => ?_⟩
  all_goals
    rw [heq] at h
    exact absurd h (by decide)

theorem ordinary_bin : Ordinary (x ++ binExt) := by
  refine ordinary_of_length _ ?_
  have hlen : binExt.length = 4 := rfl
  rw [List.length_append]
  omega

theorem slash_notMem_bin (h : slash ∉ x) : slash ∉ x ++ binExt :=
  List.not_mem_append h (by decide)

/-- A name without slashes and zero bytes has the leaf `name.bin`. -/
theorem place_bin (hslash : slash ∉ x) (hnul : 0 ∉ x) :
    place mp x = tuttiPlace mp ++ [x ++ binExt] := by
  have hseen := seenName_of_nulFree x hnul
  rw [place_leaf mp x (hseen ▸ slash_notMem_bin x hslash) (hseen ▸ ordinary_bin x), hseen]

/-- A name with a slash is seen to end in `x.bin`, for what follows the slash. -/
theorem place_after_slash (q x : Bytes) (hslash : slash ∉ x) (hnul : 0 ∉ q ++ slash :: x) :
    place mp (q ++ slash :: x) = (splitPath q).foldl enter (tuttiPlace mp) ++ [x ++ binExt] := by
  rw [place_eq, seenName_of_nulFree _ hnul, List.append_assoc, List.cons_append,
    splitPath_append, splitPath_of_noSlash _ (slash_notMem_bin x hslash),
    foldl_enter_last _ _ _ (ordinary_bin x)]

/-- A name without zero bytes leads to some `x.bin`. -/
theorem place_last (name : Bytes) (hnul : 0 ∉ name) :
    ∃ dir x, place mp name = dir ++ [x ++ binExt] := by
  by_cases hslash : slash ∈ name
  · rcases exists_last_slash name hslash with ⟨q, x, heq, hx⟩
    rw [heq] at hnul ⊢
    exact ⟨_, x, place_after_slash mp q x hx hnul⟩
  · exact ⟨_, name, place_bin mp name hslash hnul⟩

/-- A name that leads directly into `.tutti` has its leaf among what is seen of
    it. -/
theorem leaf_of_place (name leaf : Bytes) (h : place mp name = tuttiPlace mp ++ [leaf]) :
    leaf ∈ splitPath (seenName name) ∧ Ordinary leaf :=
  foldl_enter_eq_append _ _ leaf ((place_eq mp name) ▸ h)

/-- A leaf longer than the log's two names is neither. -/
theorem ne_log_of_length (leaf : Bytes) (h : 16 < leaf.length) :
    leaf ≠ logFileName ∧ leaf ≠ FileLog.tmpPath logFileName := by
  refine ⟨fun heq => ?_, fun heq => ?_⟩
  all_goals
    rw [heq] at h
    exact absurd h (by decide)

/-! ### Other spellings of an isolated name -/

section Spellings

variable {mp : MountPath} {name : Bytes}

/-- An accepted spelling of the same place is the name itself. -/
theorem Isolated.eq_of_place (h : Isolated mp name) (hne : other ≠ [])
    (hlen : other.length ≤ 127) (heq : place mp other = place mp name) : other = name := by
  have hmax : kNameMax = 128 := rfl
  by_contra hother
  exact h.unique other ((accepted_iff mp other).mpr ⟨hne, by omega⟩) hother heq

/-- A shorter name has another spelling with a slash in front. -/
theorem Isolated.length_eq (hacc : Accepted mp name) (h : Isolated mp name) :
    name.length = 127 := by
  have hfits := (accepted_iff mp name).mp hacc
  have hmax : kNameMax = 128 := rfl
  by_contra hlen
  have hcons : slash :: name = name := h.eq_of_place (by simp) (by rw [List.length_cons]; omega)
    (place_slash_cons mp name)
  have hlength := congrArg List.length hcons
  rw [List.length_cons] at hlength
  omega

/-- What follows the last slash, alone or with one slash in front, is a spelling
    too, and one of the two is not the name. -/
theorem Isolated.noSlash (h : Isolated mp name) (hlong : name.length = 127) (hnul : 0 ∉ name) :
    slash ∉ name := by
  intro hslash
  rcases h.inside with ⟨_, hleaf, -, -⟩
  rcases exists_last_slash name hslash with ⟨q, x, rfl, hx⟩
  have hxnul : 0 ∉ x := fun hz =>
    hnul (List.mem_append_right _ (List.mem_cons_of_mem _ hz))
  have hplace : place mp x = place mp (q ++ slash :: x) := by
    have hlast := place_after_slash mp q x hx hnul
    have hinit := List.append_inj' (hleaf.symm.trans hlast) rfl
    rw [place_bin mp x hx hxnul, hlast, ← hinit.1]
  rw [List.length_append, List.length_cons] at hlong
  have hcons : slash :: x = q ++ slash :: x := h.eq_of_place (by simp)
    (by rw [List.length_cons]; omega) ((place_slash_cons mp x).trans hplace)
  have hq := congrArg List.length hcons
  rw [List.length_append, List.length_cons] at hq
  have hxne : x ≠ [] := by
    intro hnil
    rw [hnil, List.length_nil] at hlong hq
    omega
  have hshort := congrArg List.length (h.eq_of_place hxne (by omega) hplace)
  rw [List.length_append, List.length_cons] at hshort
  omega

/-- The leaf alone, cut by a zero byte, is a shorter spelling. -/
theorem Isolated.noSlash_cut {c : Bytes} (h : Isolated mp (c ++ [0])) (hlen : c.length = 126)
    (hc : 0 ∉ c) : slash ∉ c := by
  intro hslash
  rcases h.inside with ⟨leaf, hleaf, -, -⟩
  have hpiece := leaf_of_place mp _ leaf hleaf
  rw [seenName_of_nul c [] hc] at hpiece
  have hspec := piece_of_splitPath c leaf hpiece.1
  have hlnul : 0 ∉ leaf := fun hz => hc (hspec.2.1 0 hz)
  have hlseen := seenName_of_nul leaf [] hlnul
  have hplace : place mp (leaf ++ [0]) = tuttiPlace mp ++ [leaf] := by
    rw [place_leaf mp (leaf ++ [0]) (hlseen.symm ▸ hspec.1) (hlseen.symm ▸ hpiece.2), hlseen]
  have heq : leaf ++ [0] = c ++ [0] := h.eq_of_place (by simp)
    (by rw [List.length_append, List.length_singleton]; omega) (hplace.trans hleaf.symm)
  rw [List.append_cancel_right_eq] at heq
  exact hspec.1 (heq.symm ▸ hslash)

/-- The name without `.bin` is seen with it. -/
theorem Isolated.noExt_cut {c : Bytes} (h : Isolated mp (c ++ [0])) (hlen : c.length = 126)
    (hc : 0 ∉ c) (x : Bytes) : c ≠ x ++ binExt := by
  intro hx
  have hxlen := congrArg List.length hx
  have hbin : binExt.length = 4 := rfl
  rw [List.length_append] at hxlen
  have hxne : x ≠ [] := by
    intro hnil
    rw [hnil, List.length_nil] at hxlen
    omega
  have hxnul : 0 ∉ x := fun hz => hc (hx ▸ List.mem_append_left _ hz)
  have heq := h.eq_of_place hxne (by omega)
    (place_congr mp (by rw [seenName_of_nul c [] hc, seenName_of_nulFree x hxnul, hx]))
  have hlength := congrArg List.length heq
  rw [List.length_append] at hlength
  omega

end Spellings

/-- A name with a path of its own has no other spelling. -/
theorem unaliased_of_isolated (name : Bytes) (hacc : Accepted mp name) (h : Isolated mp name) :
    Unaliased name := by
  have hlong := h.length_eq hacc
  rcases seenName_cases name with ⟨hnul, -⟩ | ⟨c, rest, rfl, hc, hseen⟩
  · exact .inl ⟨hlong, h.noSlash hlong hnul, hnul⟩
  · -- Nothing follows the zero byte, since the name up to it is a spelling as well.
    have hcut : c ++ [0] = c ++ 0 :: rest := by
      refine h.eq_of_place (by simp) ?_ (place_congr mp ?_)
      · rw [List.length_append, List.length_cons] at hlong
        rw [List.length_append, List.length_singleton]
        omega
      · rw [hseen]
        exact seenName_of_nul c [] hc
    rw [← hcut] at hlong h ⊢
    rw [List.length_append, List.length_singleton] at hlong
    have hlen : c.length = 126 := by omega
    exact .inr ⟨c, rfl, hlen, h.noSlash_cut hlen hc, hc, h.noExt_cut hlen hc⟩

/-- A name without another spelling has a path of its own. -/
theorem isolated_of_unaliased (name : Bytes) (h : Unaliased name) : Isolated mp name := by
  have hmax : kNameMax = 128 := rfl
  have hbin : binExt.length = 4 := rfl
  rcases h with ⟨hlen, hslash, hnul⟩ | ⟨c, rfl, hlen, hslash, hnul, hext⟩
  · have hplace := place_bin mp name hslash hnul
    have hleaf : (name ++ binExt).length = 131 := by rw [List.length_append, hbin, hlen]
    refine ⟨⟨_, hplace, ne_log_of_length _ (by omega)⟩, fun other hacc hne heq => hne ?_⟩
    have hfits := (accepted_iff mp other).mp hacc
    have hspec := piece_of_splitPath _ _ (leaf_of_place mp other _ (heq.trans hplace)).1
    rcases seenName_cases other with ⟨-, hseen⟩ | ⟨c, rest, rfl, -, hseen⟩
    · rw [hseen] at hspec
      have hseenLen : (other ++ binExt).length = other.length + 4 := by
        rw [List.length_append, hbin]
      have hall := hspec.2.2.2 (by omega)
      rw [List.append_cancel_right_eq] at hall
      exact hall.symm
    · -- A name that is cut is too short to be seen with the leaf.
      rw [hseen] at hspec
      rw [List.length_append] at hfits
      omega
  · have hseen := seenName_of_nul c [] hnul
    have hplace : place mp (c ++ [0]) = tuttiPlace mp ++ [c] := by
      rw [place_leaf mp (c ++ [0]) (hseen.symm ▸ hslash)
        (hseen.symm ▸ ordinary_of_length c (by omega)), hseen]
    refine ⟨⟨c, hplace, ne_log_of_length c (by omega)⟩, fun other hacc hne heq => hne ?_⟩
    have hfits := (accepted_iff mp other).mp hacc
    rcases seenName_cases other with ⟨hfree, -⟩ | ⟨b, rest, rfl, -, hbseen⟩
    · rcases place_last mp other hfree with ⟨_, x, hlast⟩
      have hinit := List.append_inj' ((heq.trans hplace).symm.trans hlast) rfl
      exact absurd (List.singleton_inj.mp hinit.2) (hext x)
    · have hspec := piece_of_splitPath _ _ (leaf_of_place mp _ _ (heq.trans hplace)).1
      rw [hbseen] at hspec
      rw [List.length_append, List.length_cons] at hfits
      have hall := hspec.2.2.2 (by omega)
      have hrest : rest = [] := List.length_eq_zero_iff.mp (by omega)
      rw [hrest, hall]

/-- An accepted name has a path in `.tutti` apart from the log and from every
    other accepted name's exactly when it is too long for a second spelling. -/
theorem isolated_iff (mp : MountPath) (name : Bytes) (h : Accepted mp name) :
    Isolated mp name ↔ Unaliased name :=
  ⟨unaliased_of_isolated mp name h, isolated_of_unaliased mp name⟩

/-- A name of 127 letters has a path of its own. -/
theorem isolated_iff_long : Accepted mountPoint (List.replicate 127 97) ∧
    Isolated mountPoint (List.replicate 127 97) := by
  have hacc : Accepted mountPoint (List.replicate 127 97) :=
    (accepted_iff mountPoint _).mpr ⟨by simp, by simp [kNameMax]⟩
  refine ⟨hacc, (isolated_iff mountPoint _ hacc).mpr (.inl ⟨by simp, ?_, ?_⟩)⟩
  · exact fun h => absurd (List.eq_of_mem_replicate h) (by decide)
  · exact fun h => absurd (List.eq_of_mem_replicate h) (by decide)

/-- Three accepted names that are not isolated: `file_log` leads to the log,
    `../x` leads out of `.tutti`, and `/a` leads to where `a` leads. -/
theorem file_log_not_isolated : (Accepted mountPoint logStem ∧
      place mountPoint logStem = tuttiPlace mountPoint ++ [logFileName] ∧
      ¬ Isolated mountPoint logStem) ∧
    (Accepted mountPoint (ascii ['.', '.', '/', 'x']) ∧
      place mountPoint (ascii ['.', '.', '/', 'x']) =
        [ascii ['m', 'n', 't'], ascii ['x', '.', 'b', 'i', 'n']]) ∧
    (Accepted mountPoint (ascii ['a']) ∧ Accepted mountPoint (ascii ['/', 'a']) ∧
      place mountPoint (ascii ['/', 'a']) = place mountPoint (ascii ['a'])) := by
  have hlog : place mountPoint logStem = tuttiPlace mountPoint ++ [logFileName] :=
    place_bin mountPoint logStem (by decide) (by decide)
  refine ⟨⟨(accepted_iff _ _).mpr (by decide), hlog, fun h => ?_⟩,
    ⟨(accepted_iff _ _).mpr (by decide), by decide +kernel⟩,
    (accepted_iff _ _).mpr (by decide), (accepted_iff _ _).mpr (by decide),
    place_slash_cons mountPoint (ascii ['a'])⟩
  rcases h.inside with ⟨_, hleaf, hne, -⟩
  have hinit := List.append_inj' (hleaf.symm.trans hlog) rfl
  exact hne (List.singleton_inj.mp hinit.2)

/-- Plain names lead directly into `.tutti`, apart from the log and apart from
    each other. -/
theorem place_of_plain (h : Plain name) :
    (∃ leaf, place mp name = tuttiPlace mp ++ [leaf] ∧ leaf ≠ logFileName ∧
      leaf ≠ FileLog.tmpPath logFileName) ∧
    ∀ other, Plain other → place mp other = place mp name → other = name := by
  have hplace := place_bin mp name h.noSlash h.noNul
  refine ⟨⟨_, hplace, bin_ne_log name h.notLog⟩, fun other hother heq => ?_⟩
  rw [place_bin mp other hother.noSlash hother.noNul, hplace] at heq
  have hinit := List.append_inj' heq rfl
  have hleaf := List.singleton_inj.mp hinit.2
  rwa [List.append_cancel_right_eq] at hleaf

/-- A path is as it was, and so is what may survive there. -/
def LeftAlone (p : Bytes) (d d' : Disk) : Prop :=
  d'.files p = d.files p ∧ d'.survivors p = d.survivors p

theorem hostPath_ne_of_plain (h : Plain name) (hne : other ≠ name) :
    hostPath mp other ≠ cStr (hostPath mp name) := by
  rw [cStr_hostPath mp name h.noNul]
  exact fun heq => hne (hostPath_injective mp heq)

/-- Creating a plain name leaves the files of the other plain names alone. -/
theorem create_other_plain (d : Disk) (s : DeviceState) (hl : s.log.WellFormed) (hname : Plain name)
    (hne : other ≠ name) (sizeBytes : UInt64) (persistNow syncNow : Bool) (env : CreateEnv) :
    LeftAlone (hostPath mp other) d
      (createFileLocked mp d s name sizeBytes persistNow syncNow env).1 := by
  have hcases := createFileLocked_cases mp d s hl name sizeBytes persistNow syncNow env
  have hpath := hostPath_ne_of_plain mp hname hne
  generalize createFileLocked mp d s name sizeBytes persistNow syncNow env = r at hcases ⊢
  cases hcases with
  | refused => exact ⟨rfl, rfl⟩
  | abandoned _ _ d' _ htouch =>
    have ht := htouch.trans (Disk.touches_unlink d' _ env.unlinkOk)
    exact ⟨ht.files _ hpath, ht.survivors _ hpath⟩
  | created _ _ _ _ _ _ _ htouch =>
    -- Persisting changes no file.
    cases persistNow with
    | false | true => exact ⟨htouch.files _ hpath, htouch.survivors _ hpath⟩

/-- Deleting a handle's file leaves the files of the other names alone. -/
theorem delete_other_plain {mp : MountPath} {d : Disk} {s : DeviceState} (hs : DevOk mp s)
    {f : NvmeFile} {id : Nat} (hf : findFile s.files id = some f) (hne : other ≠ f.name)
    (persistNow unlinkOk persistOk : Bool) :
    LeftAlone (hostPath mp other) d (deleteFile d s id persistNow unlinkOk persistOk).1 := by
  have hold := hs.handles f (findFile_some hf).1
  have hpath := hold.2 ▸ hostPath_ne_of_plain mp (hs.log.plain _ hold.1) hne
  have hcases := deleteFile_cases d s id persistNow unlinkOk persistOk
  generalize deleteFile d s id persistNow unlinkOk persistOk = r at hcases ⊢
  cases hcases with
  | missing | kept => exact ⟨rfl, rfl⟩
  | removed g h =>
    rw [Option.some.inj (h.symm.trans hf)]
    split <;> exact Disk.unlink_of_ne d true hpath

/-- An action that neither creates a name nor deletes a handle's file with it. -/
def Spares (name : Bytes) (s : Storage) : Op → Prop
  | .createFile created _ _ _ _ => name ≠ created
  | .deleteFile id _ _ _ => ∀ ds f, s.dev = some ds → findFile ds.files id = some f → name ≠ f.name
  | _ => True

/-- A file is as it was, and nothing may survive of it that might not have before. -/
def FileKept (p : Bytes) (d d' : Disk) : Prop :=
  d'.files p = d.files p ∧ d'.survivors p ⊆ d.survivors p

theorem LeftAlone.kept {p : Bytes} {d d' : Disk} (h : LeftAlone p d d') : FileKept p d d' :=
  ⟨h.1, fun _ hx => h.2 ▸ hx⟩

theorem spared_step {mp : MountPath} (s : Storage) (op : Op) (hinv : Inv mp s)
    (hcall : Calls mp s op) (hspares : Spares name s op) :
    FileKept (hostPath mp name) s.disk (step mp s op).disk := by
  rcases s with ⟨d, _ | ds⟩
  · cases op with
    | bootstrap | shutdown | crash => exact hcall.1.elim
    | _ => exact LeftAlone.kept ⟨rfl, rfl⟩
  have hs := hinv.dev ds rfl
  cases op with
  | createFile _ _ _ _ env =>
    exact (create_other_plain mp d ds hs.log.wf hcall.2 hspares _ _ _ env).kept
  | deleteFile id =>
    cases hf : findFile ds.files id with
    | none => simp [FileKept, step, exec, deleteFile, hf]
    | some f =>
      exact (delete_other_plain hs hf (hspares ds f rfl hf) _ _ _).kept
  | _ =>
    rcases call_cases mp d hs.log.wf _ hcall.1 with ⟨_, _, hstep, hout⟩
    rw [hstep]
    cases hout with
    | quiet _ _ _ _ hsync hdisk =>
      rcases hdisk with ⟨rfl, -⟩ | rfl
      all_goals exact ⟨congrFun hsync.files _, hsync.subset hinv.disk.current _⟩

/-- A run of calls that neither creates a name nor deletes its file keeps the file, whether
    the directory lists it or not. -/
theorem run_spares (mp : MountPath) (s : Storage) (hinv : Inv mp s) (ops : List Op)
    (hrun : Runs.Along (step mp) (fun t op => Calls mp t op ∧ Spares name t op) s ops) :
    FileKept (hostPath mp name) s.disk (run (step mp) s ops).disk := by
  refine (run_invariant (I := fun t => Inv mp t ∧ FileKept (hostPath mp name) s.disk t.disk)
    (fun t op ht hop => ?_) ⟨hinv, LeftAlone.kept ⟨rfl, rfl⟩⟩ hrun).2
  have hstep := spared_step t op ht.1 hop.1 hop.2
  exact ⟨inv_step t op ht.1 hop.1.2, hstep.1.trans ht.2.1, fun _ h => ht.2.2 (hstep.2 h)⟩

/-- A second file is created next to the first, and this is flushed. -/
theorem run_spares_first : FileKept (hostPath mountPoint cacheName)
    (run (step mountPoint) freshDevice firstFile).disk
    (run (step mountPoint) (run (step mountPoint) freshDevice firstFile)
      [.createFile spareName 4096 false false (createOk []), .flushMetadata true true]).disk := by
  have hcache : Plain cacheName := by decide
  have hspare : Plain spareName := by decide
  exact run_spares mountPoint _
    (inv_run mountPoint firstFile ⟨faithful_fresh mountPoint, hcache, trivial⟩) _
    ⟨⟨⟨trivial, hspare⟩, (by decide : cacheName ≠ spareName)⟩, ⟨⟨trivial, trivial⟩, trivial⟩, trivial⟩

end Geminifs.HostStorage
