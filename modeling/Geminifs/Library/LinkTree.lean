import Geminifs.Library.PosixPath
import Mathlib.Logic.Function.Basic

/-!
# Directories with Symbolic Links

A tree has a node at each place that exists. A path is followed component by component;
at a link the rest of the path is put behind its target, which is followed from the
directory of the link if it is not absolute. The kernel follows 40 links and no more.

The calls of `std::filesystem` that make directories and links are functions on trees,
with `none` for an error.

## Main definitions

* `Node`, `Tree`: What there is.
* `realPlace`: Where components lead.
* `place`, `linkPlace`: Where a path leads, with and without a link at its end.
* `pathAppend`, `pathEq`: `operator/` and `operator==` of `std::filesystem::path`.
* `createDirectories`, `createSymlink`: Changes to a tree.
* `Plain`, `names`: A path that has no dots in it, and the names that it has.
* `Dirs`, `Clear`: There are directories on the way to a place, or nothing else.
* `Grown`: Only directories have been made, but for one place.

## Theorems

* `realPlace_dirs`: A path leads through directories.
* `realPlace_link`: What is behind a link.
* `createDirectories_plain`: Which directories are made.
* `plain_of_pathEq`: Equal paths have the same names.
* `Grown.clear`, `Grown.dirs`, `Grown.link`: What stays as it is.
-/

namespace Geminifs.LinkTree

open Function

/-- What there can be at a place. -/
inductive Node where
  | dir
  | file
  | link (target : Bytes)
  deriving DecidableEq, Repr

/-- The nodes by their places. The root is a directory without one. -/
abbrev Tree := List Bytes → Option Node

variable (t : Tree)

def isDir (p : List Bytes) : Bool := p.isEmpty || t p == some .dir

instance (c : Bytes) : Decidable (Ordinary c) := inferInstanceAs (Decidable (_ ∧ _ ∧ _))

/-- Follow components up to the next link. The last one need not exist. -/
def walkTo (t : Tree) (onLink : List Bytes → Bytes → List Bytes → Option (List Bytes)) :
    List Bytes → List Bytes → Option (List Bytes)
  | dir, [] => some dir
  | dir, c :: cs =>
    if Ordinary c then
      match t (dir ++ [c]) with
      | some .dir => walkTo t onLink (dir ++ [c]) cs
      | some (.link target) => onLink dir target cs
      | some .file | none => if cs = [] then some (dir ++ [c]) else none
    else walkTo t onLink (enter dir c) cs

/-- The directory that a path starts from. -/
def startOf (dir : List Bytes) (p : Bytes) : List Bytes := if p.head? = some slash then [] else dir

/-- Follow components, and as many links as are given. -/
def realPlace (t : Tree) : Nat → List Bytes → List Bytes → Option (List Bytes)
  | 0 => walkTo t fun _ _ _ => none
  | n + 1 => walkTo t fun dir target cs => realPlace t n (startOf dir target) (splitPath target ++ cs)

/-- How many links are followed. -/
def maxLinks : Nat := 40

variable (cwd : List Bytes) (p : Bytes)

/-- The place that a path leads to. -/
def place : Option (List Bytes) :=
  realPlace t maxLinks (startOf cwd p) (splitPath p)

/-- The place that components lead to, if a link at their end is not followed. -/
def linkPlaceOf (start cs : List Bytes) : Option (List Bytes) :=
  match cs.getLast? with
  | none => realPlace t maxLinks start cs
  | some c =>
    if Ordinary c then
      match realPlace t maxLinks start cs.dropLast with
      | none => none
      | some dir => if isDir t dir then some (dir ++ [c]) else none
    else realPlace t maxLinks start cs

/-- The place of a path itself, if there is a link at its end. -/
def linkPlace : Option (List Bytes) :=
  linkPlaceOf t (startOf cwd p) (splitPath p)

/-- `operator/`, of a path and a relative one. -/
def pathAppend (p q : Bytes) : Bytes :=
  if p = [] ∨ p.getLast? = some slash then p ++ q else p ++ slash :: q

/-- The elements of a path: whether it is absolute, the names, and whether there is a
    slash behind them. -/
def pathElements : Bool × List Bytes × Bool :=
  (p.head? == some slash, (splitPath p).filter (· ≠ []),
    (splitPath p).any (· ≠ []) && (splitPath p).getLast? == some [])

/-- `operator==`. -/
def pathEq (p q : Bytes) : Bool := pathElements p == pathElements q

/-- The loop of `create_directories`, with the components that are there. -/
def makeDirs (start : List Bytes) : Tree → List Bytes → List Bytes → Option Tree
  | t, _, [] => some t
  | t, done, c :: cs =>
    if Ordinary c then
      match realPlace t maxLinks start (done ++ [c]) with
      | none => none
      | some p =>
        if isDir t p then makeDirs start t (done ++ [c]) cs
        -- There is nothing, not even a link that leads nowhere.
        else if t p = none ∧ linkPlaceOf t start (done ++ [c]) = some p then
          makeDirs start (update t p (some .dir)) (done ++ [c]) cs
        else none
    else makeDirs start t (done ++ [c]) cs

/-- `create_directories`. -/
def createDirectories : Option Tree :=
  if p = [] then none else makeDirs (startOf cwd p) t [] (splitPath p)

/-- `create_symlink`. -/
def createSymlink (target p : Bytes) : Option Tree :=
  match linkPlace t cwd p with
  | none => none
  | some q => if t q = none then some (update t q (some (.link target))) else none

/-- `symlink_status`, where `none` is that there is nothing. -/
def symlinkStatus : Option Node :=
  (linkPlace t cwd p).bind t

/-- `remove`, of a link. -/
def removeLink : Tree :=
  match linkPlace t cwd p with
  | none => t
  | some q => update t q none

/-! ### Plain paths -/

variable (cs : List Bytes)

/-- The names among components. -/
def names : List Bytes := cs.filter (· ≠ [])

/-- Components without dots. -/
def Undotted : Prop := ∀ c ∈ cs, c = [] ∨ Ordinary c

/-- An absolute path without dots. -/
def Plain : Prop := p.head? = some slash ∧ Undotted (splitPath p)

instance (p : Bytes) : Decidable (Plain p) :=
  inferInstanceAs (Decidable (_ ∧ ∀ c ∈ splitPath p, c = [] ∨ Ordinary c))

@[simp] theorem names_append (cs ds : List Bytes) : names (cs ++ ds) = names cs ++ names ds :=
  List.filter_append ..

@[simp] theorem names_nil : names [] = [] := rfl

@[simp] theorem names_empty : names ([] :: cs) = names cs := rfl

variable {c : Bytes} {p : List Bytes}

@[simp] theorem names_cons (hc : Ordinary c) (cs : List Bytes) : names (c :: cs) = c :: names cs :=
  List.filter_cons_of_pos (by simpa using hc.1)

/-- There are directories all the way to a place. -/
def Dirs (p : List Bytes) : Prop := ∀ q, q ≠ [] → q <+: p → t q = some .dir

/-- There is nothing on the way to a place that is not a directory. -/
def Clear (p : List Bytes) : Prop :=
  ∀ q, q ≠ [] → q <+: p → t q = none ∨ t q = some .dir

variable {t : Tree}

theorem isDir_of_dirs (h : Dirs t p) : isDir t p = true := by
  cases p with
  | nil => rfl
  | cons =>
    rw [isDir, h _ (by simp) (List.prefix_refl _)]
    simp

/-- A place with a directory at its end. -/
theorem Dirs.concat (h : Dirs t p) (hc : t (p ++ [c]) = some .dir) : Dirs t (p ++ [c]) := by
  intro q hne hq
  rcases List.prefix_concat_iff.mp hq with rfl | hq
  · exact hc
  · exact h q hne hq

/-- Components that lead through directories. -/
theorem walkTo_dirs {f : List Bytes → Bytes → List Bytes → Option (List Bytes)}
    {dir cs : List Bytes} (hcs : Undotted cs)
    (h : ∀ q, q ≠ [] → q <+: names cs → t (dir ++ q) = some .dir) (ds : List Bytes) :
    walkTo t f dir (cs ++ ds) = walkTo t f (dir ++ names cs) ds := by
  induction cs generalizing dir with
  | nil => rw [List.nil_append, names_nil, List.append_nil]
  | cons c cs ih =>
    have hrest : Undotted cs := (List.forall_mem_cons.mp hcs).2
    rw [List.cons_append, walkTo]
    rcases hcs c List.mem_cons_self with rfl | hord
    · exact ih hrest h
    · rw [names_cons hord] at h ⊢
      rw [if_pos hord, h [c] (by simp) (by simp)]
      have hnext := @ih (dir ++ [c]) hrest (fun q hne hq => by
        rw [List.append_assoc]
        exact h ([c] ++ q) (by simp) (by simpa using hq))
      rw [List.append_assoc] at hnext
      exact hnext

theorem realPlace_dirs {cs : List Bytes} (hcs : Undotted cs) (h : Dirs t (names cs))
    (n : Nat) (ds : List Bytes) : realPlace t n [] (cs ++ ds) = realPlace t n (names cs) ds := by
  cases n with
  | zero | succ => exact @walkTo_dirs t _ [] cs hcs h ds

/-- A name that is not a link. -/
theorem realPlace_name {dir : List Bytes} (hc : Ordinary c)
    (h : t (dir ++ [c]) = none ∨ t (dir ++ [c]) = some .dir) (n : Nat) :
    realPlace t n dir [c] = some (dir ++ [c]) := by
  cases n with
  | zero | succ =>
    rw [realPlace, walkTo, if_pos hc]
    rcases h with h | h
    · rw [h]
      rfl
    · rw [h]
      rfl

theorem realPlace_link {dir : List Bytes} {target : Bytes} (hc : Ordinary c)
    (h : t (dir ++ [c]) = some (.link target)) (n : Nat) :
    realPlace t (n + 1) dir [c] = realPlace t n (startOf dir target) (splitPath target) := by
  rw [realPlace, walkTo, if_pos hc, h]
  simp only [List.append_nil]

/-- A plain path to directories. -/
theorem realPlace_plain {p : Bytes} (hp : Plain p) (h : Dirs t (names (splitPath p)))
    (n : Nat) (dir : List Bytes) :
    realPlace t n (startOf dir p) (splitPath p) = some (names (splitPath p)) := by
  have hall := realPlace_dirs hp.2 h n []
  rw [List.append_nil] at hall
  rw [startOf, if_pos hp.1, hall]
  cases n with
  | zero | succ => rfl

/-- The place of a name behind directories. -/
theorem linkPlaceOf_dirs {cs : List Bytes} (hcs : Undotted cs) (h : Dirs t (names cs))
    (hc : Ordinary c) : linkPlaceOf t [] (cs ++ [c]) = some (names cs ++ [c]) := by
  have hdir : realPlace t maxLinks [] cs = some (names cs) := by
    have hall := realPlace_dirs hcs h maxLinks []
    rw [List.append_nil] at hall
    exact hall
  rw [linkPlaceOf, List.getLast?_concat]
  simp only
  rw [if_pos hc, List.dropLast_concat, hdir]
  simp only
  rw [if_pos (isDir_of_dirs h)]

/-! ### Making directories -/

/-- Directories all the way to a place. -/
def addDirs (t : Tree) (p : List Bytes) : Tree :=
  fun q => if q ≠ [] ∧ q <+: p then some .dir else t q

theorem addDirs_of_dirs (h : Dirs t p) : addDirs t p = t := by
  funext q
  rw [addDirs]
  split
  next hq => exact (h q hq.1 hq.2).symm
  · rfl

theorem dirs_addDirs (t : Tree) (p : List Bytes) : Dirs (addDirs t p) p :=
  fun _ hne hq => if_pos ⟨hne, hq⟩

/-- The loop makes what is missing. -/
theorem makeDirs_plain {done cs : List Bytes} (hdone : Undotted done)
    (hcs : Undotted cs) (hdirs : Dirs t (names done)) (hclear : Clear t (names done ++ names cs)) :
    makeDirs [] t done cs = some (addDirs t (names done ++ names cs)) := by
  induction cs generalizing t done with
  | nil => rw [makeDirs, names_nil, List.append_nil, addDirs_of_dirs hdirs]
  | cons c cs ih =>
    have hrest : Undotted cs := (List.forall_mem_cons.mp hcs).2
    have hdone' : Undotted (done ++ [c]) := by
      intro d hd
      rcases List.mem_append.mp hd with hd | hd
      · exact hdone d hd
      · exact List.mem_singleton.mp hd ▸ hcs c List.mem_cons_self
    rw [makeDirs]
    rcases hcs c List.mem_cons_self with rfl | hord
    · have hsame : names (done ++ [[]]) = names done := by simp
      rw [if_neg (fun hord => hord.1 rfl), ih hdone' hrest (hsame ▸ hdirs) (by rwa [hsame]), hsame,
        names_empty]
    have hnames : names (done ++ [c]) = names done ++ [c] := by simp [hord]
    have hsplit : names done ++ names (c :: cs) = (names done ++ [c]) ++ names cs := by
      rw [names_cons hord, List.append_assoc, List.singleton_append]
    rw [hsplit] at hclear ⊢
    have hhere := hclear (names done ++ [c]) (by simp) (List.prefix_append _ _)
    have hplace : realPlace t maxLinks [] (done ++ [c]) = some (names done ++ [c]) := by
      rw [realPlace_dirs hdone hdirs, realPlace_name hord hhere]
    rw [if_pos hord, hplace]
    simp only
    rcases hhere with hnone | hdir
    · -- The directory is made, and the rest goes on in a tree that has it.
      have hnot : isDir t (names done ++ [c]) = false := by
        rw [isDir, hnone]
        simp
      rw [hnot, if_neg (by simp), if_pos ⟨hnone, linkPlaceOf_dirs hdone hdirs hord⟩]
      have hkeep : ∀ q, q ≠ names done ++ [c] → update t (names done ++ [c]) (some .dir) q = t q :=
        fun q hq => update_of_ne hq _ _
      have hself := update_self (names done ++ [c]) (some Node.dir) t
      have hdirs' : Dirs (update t (names done ++ [c]) (some .dir))
          (names (done ++ [c])) := by
        rw [hnames]
        refine Dirs.concat (fun q hne hq => ?_) hself
        rw [hkeep q (fun heq => by
          have hlen := hq.length_le
          rw [heq, List.length_append, List.length_singleton] at hlen
          omega)]
        exact hdirs q hne hq
      rw [ih hdone' hrest hdirs' (fun q hne hq => ?_), hnames]
      · congr 1
        funext q
        rw [addDirs, addDirs]
        split
        · rfl
        next hq => exact hkeep q (fun heq => hq ⟨heq ▸ by simp, heq ▸ List.prefix_append _ _⟩)
      · rw [hnames] at hq
        by_cases heq : q = names done ++ [c]
        · exact .inr (heq ▸ hself)
        · rw [hkeep q heq]
          exact hclear q hne hq
    · have hyes : isDir t (names done ++ [c]) = true := by
        rw [isDir, hdir]
        simp
      rw [if_pos hyes, ih hdone' hrest (hnames ▸ hdirs.concat hdir) (by rwa [hnames]), hnames]

/-- `create_directories` makes what is missing on the way. -/
theorem createDirectories_plain {p : Bytes} (hp : Plain p)
    (hclear : Clear t (names (splitPath p))) (cwd : List Bytes) :
    createDirectories t cwd p = some (addDirs t (names (splitPath p))) := by
  have hne : p ≠ [] := by
    rintro rfl
    cases hp.1
  have hnone : Dirs t (names []) := fun q hne hq => absurd (List.prefix_nil.mp hq) hne
  rw [createDirectories, if_neg hne, startOf, if_pos hp.1,
    makeDirs_plain (fun c hc => absurd hc List.not_mem_nil) hp.2 hnone hclear]
  rfl

/-! ### Texts of paths -/

/-- Equal paths have the same names. -/
theorem plain_of_pathEq {p q : Bytes} (h : pathEq p q = true) (hq : Plain q) :
    Plain p ∧ names (splitPath p) = names (splitPath q) := by
  rw [pathEq, beq_iff_eq, pathElements, pathElements, Prod.mk.injEq, Prod.mk.injEq] at h
  rcases h with ⟨hhead, hnames, -⟩
  refine ⟨⟨?_, fun c hc => ?_⟩, hnames⟩
  · have hslash : (q.head? == some slash) = true := beq_iff_eq.mpr hq.1
    rw [hslash] at hhead
    exact beq_iff_eq.mp hhead
  · by_cases hempty : c = []
    · exact .inl hempty
    · have hmem : c ∈ (splitPath p).filter (· ≠ []) :=
        List.mem_filter.mpr ⟨hc, by simpa using hempty⟩
      rw [hnames] at hmem
      exact hq.2 c (List.mem_filter.mp hmem).1

/-- A name behind a plain path. -/
theorem splitPath_pathAppend {p : Bytes} (hp : Plain p) (hslash : slash ∉ c) :
    ∃ cs, splitPath (pathAppend p c) = cs ++ [c] ∧ Undotted cs ∧
      names cs = names (splitPath p) ∧ (pathAppend p c).head? = some slash := by
  have hne : p ≠ [] := by
    rintro rfl
    cases hp.1
  have hhead : ∀ r : Bytes, (p ++ r).head? = some slash := by
    intro r
    cases p with
    | nil => exact absurd rfl hne
    | cons => exact hp.1
  rw [pathAppend]
  split
  next hlast =>
    have hlast : p.getLast? = some slash := hlast.resolve_left hne
    rcases List.eq_nil_or_concat p with hnil | ⟨r, b, hr⟩
    · exact absurd hnil hne
    rw [List.concat_eq_append] at hr
    rw [hr, List.getLast?_concat, Option.some.injEq] at hlast
    have hsplit : splitPath p = splitPath r ++ [[]] := by
      rw [hr, hlast]
      exact splitPath_append r []
    refine ⟨splitPath r, ?_, fun d hd => ?_, ?_, hhead c⟩
    · rw [hr, hlast, List.append_assoc, List.singleton_append, splitPath_append,
        splitPath_of_noSlash c hslash]
    · exact hp.2 d (hsplit ▸ List.mem_append_left _ hd)
    · rw [hsplit, names_append, names_empty, names_nil, List.append_nil]
  · exact ⟨splitPath p, by rw [splitPath_append, splitPath_of_noSlash c hslash], hp.2, rfl, hhead _⟩

theorem plain_pathAppend {p : Bytes} (hp : Plain p) (hc : Ordinary c) (hslash : slash ∉ c) :
    Plain (pathAppend p c) ∧ names (splitPath (pathAppend p c)) = names (splitPath p) ++ [c] := by
  rcases splitPath_pathAppend hp hslash with ⟨cs, hsplit, hcs, hnames, hhead⟩
  refine ⟨⟨hhead, ?_⟩, ?_⟩
  · rw [hsplit]
    exact List.forall_mem_append.mpr ⟨hcs, List.forall_mem_singleton.mpr (.inr hc)⟩
  · rw [hsplit, names_append, hnames, names_cons hc]
    rfl

/-- The place of a name behind a plain path to directories. -/
theorem linkPlace_pathAppend {p : Bytes} (hp : Plain p)
    (h : Dirs t (names (splitPath p))) (hc : Ordinary c) (hslash : slash ∉ c) (cwd : List Bytes) :
    linkPlace t cwd (pathAppend p c) = some (names (splitPath p) ++ [c]) := by
  rcases splitPath_pathAppend hp hslash with ⟨cs, hsplit, hcs, hnames, hhead⟩
  rw [linkPlace, startOf, if_pos hhead, hsplit, linkPlaceOf_dirs hcs (hnames ▸ h) hc, hnames]

/-- A link behind a plain path, to another plain path. -/
theorem place_pathAppend_link {p target : Bytes} (hp : Plain p)
    (h : Dirs t (names (splitPath p))) (hc : Ordinary c) (hslash : slash ∉ c)
    (hlink : t (names (splitPath p) ++ [c]) = some (.link target)) (htarget : Plain target)
    (hdirs : Dirs t (names (splitPath target))) (cwd : List Bytes) :
    place t cwd (pathAppend p c) = some (names (splitPath target)) := by
  rcases splitPath_pathAppend hp hslash with ⟨cs, hsplit, hcs, hnames, hhead⟩
  rw [place, startOf, if_pos hhead, hsplit, realPlace_dirs hcs (hnames ▸ h), hnames, maxLinks,
    realPlace_link hc hlink, realPlace_plain htarget hdirs]

/-! ### What stays as it is -/

/-- Directories have been made on the way to some places, and something may have happened
    at one place. -/
def Grown (mount : List Bytes → Prop) (l : List Bytes) (t t' : Tree) : Prop :=
  ∀ q, q ≠ l → t' q = t q ∨ (t' q = some .dir ∧ ∃ p, mount p ∧ q <+: p)

variable {mount : List Bytes → Prop} {l : List Bytes} {t t' : Tree}

theorem Grown.refl (mount : List Bytes → Prop) (l : List Bytes) (t : Tree) :
    Grown mount l t t := fun _ _ => .inl rfl

theorem grown_addDirs (hp : mount p) (l : List Bytes) (t : Tree) :
    Grown mount l t (addDirs t p) := by
  intro q _
  rw [addDirs]
  split
  next hq => exact .inr ⟨rfl, p, hp, hq.2⟩
  · exact .inl rfl

theorem Grown.update (h : Grown mount l t t') (node : Option Node) :
    Grown mount l t (update t' l node) := by
  intro q hq
  rw [update_of_ne hq]
  exact h q hq

theorem Grown.trans {t'' : Tree} (h : Grown mount l t t') (h' : Grown mount l t' t'') :
    Grown mount l t t'' := by
  intro q hq
  rcases h' q hq with heq | hdir
  · rw [heq]
    exact h q hq
  · exact .inr hdir

theorem Grown.clear (h : Grown mount l t t') (hl : ¬ l <+: p) (hp : Clear t p) : Clear t' p := by
  intro q hne hq
  rcases h q (fun heq => hl (heq ▸ hq)) with heq | hdir
  · rw [heq]
    exact hp q hne hq
  · exact .inr hdir.1

theorem Grown.dirs (h : Grown mount l t t') (hl : ¬ l <+: p) (hp : Dirs t p) : Dirs t' p := by
  intro q hne hq
  rcases h q (fun heq => hl (heq ▸ hq)) with heq | hdir
  · rw [heq]
    exact hp q hne hq
  · exact hdir.1

/-- What is not on the way anywhere stays. -/
theorem Grown.link (h : Grown mount l t t') {k : List Bytes} (hne : k ≠ l)
    (hk : ∀ p, mount p → ¬ k <+: p) : t' k = t k := by
  rcases h k hne with heq | ⟨-, p, hp, hpre⟩
  · exact heq
  · exact absurd hpre (hk p hp)

end Geminifs.LinkTree
