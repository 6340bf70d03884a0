import Geminifs.Library.Bytes

/-!
# Path Resolution

What file a path names, as far as its text decides it: the path is cut at
slashes, empty components and `.` are skipped, and `..` takes the last
component away. Links are not followed.

Resolution goes component by component, so a path that continues another
resolves by continuing from where the first one led (`resolve_append`). From
there a continuation can climb out of the directory it started in; what it
cannot do is put a component below it that it does not name itself
(`foldl_enter_eq_append`).

Where the directories are known, a path leads nowhere if it goes on from a place
that is not one of them (`follow`).

## Main definitions

* `splitPath`: The pieces of a path between slashes.
* `enter`: One component, from a directory.
* `resolve`: The components a path leads to.
* `follow`: Where a path leads among given directories.
* `ancestors`: The places on the way.

## Theorems

* `splitPath_append`: Pieces on both sides of a slash.
* `splitPath_of_noSlash`: A string without a slash is one piece.
* `exists_last_slash`: A path with a slash, cut at its last one.
* `resolve_append`: Continuing a path.
* `foldl_enter_eq_append`: A name directly below the start was named.
* `foldl_enter_last`: An ordinary last component is where the path leads.
* `follow_below`: A name in a directory.
-/

namespace Geminifs

/-- `'/'`. -/
def slash : UInt8 := 47

/-- The pieces of a path between slashes, empty ones included. -/
def splitPath : Bytes → List Bytes
  | [] => [[]]
  | b :: bs =>
    if b = slash then [] :: splitPath bs
    else
      match splitPath bs with
      | [] => [[b]]
      | piece :: pieces => (b :: piece) :: pieces

/-- A component that is neither empty nor `.` nor `..`. -/
def Ordinary (c : Bytes) : Prop := c ≠ [] ∧ c ≠ [46] ∧ c ≠ [46, 46]

/-- Follow one component from a directory. -/
def enter (dir : List Bytes) (c : Bytes) : List Bytes :=
  if c = [] ∨ c = [46] then dir
  else if c = [46, 46] then dir.dropLast
  else dir ++ [c]

/-- The components an absolute path leads to. -/
def resolve (p : Bytes) : List Bytes := (splitPath p).foldl enter []

variable (p c : Bytes) (dir cs : List Bytes) (isDir : List Bytes → Bool)

theorem splitPath_ne_nil : splitPath p ≠ [] := by
  cases p with
  | nil => simp [splitPath]
  | cons =>
    rw [splitPath]
    split
    · simp
    · split
      · simp
      · simp

theorem splitPath_append (a b : Bytes) :
    splitPath (a ++ slash :: b) = splitPath a ++ splitPath b := by
  induction a with
  | nil => simp [splitPath]
  | cons x a ih =>
    rw [List.cons_append, splitPath, splitPath]
    by_cases hx : x = slash
    · rw [if_pos hx, if_pos hx, ih, List.cons_append]
    · rw [if_neg hx, if_neg hx, ih]
      rcases hs : splitPath a with _ | ⟨piece, pieces⟩
      · exact absurd hs (splitPath_ne_nil a)
      · rfl

theorem splitPath_of_noSlash (h : slash ∉ p) : splitPath p = [p] := by
  induction p with
  | nil => rfl
  | cons b bs ih =>
    have hb : b ≠ slash := fun hb => h (hb ▸ List.mem_cons_self)
    rw [splitPath, if_neg hb, ih (fun hs => h (List.mem_cons_of_mem _ hs))]

/-- A piece has no slash, and is no longer than the path. A piece as long as
    the path is the path. -/
theorem piece_of_splitPath (hc : c ∈ splitPath p) :
    slash ∉ c ∧ (∀ b ∈ c, b ∈ p) ∧ c.length ≤ p.length ∧ (c.length = p.length → c = p) := by
  -- Induct on the path, for every piece and with a bound that the first piece needs.
  induction p generalizing c with
  | nil =>
    rw [splitPath, List.mem_singleton] at hc
    rw [hc]
    exact ⟨List.not_mem_nil, fun b hb => hb, Nat.le_refl _, fun _ => rfl⟩
  | cons b bs ih =>
    rw [splitPath] at hc
    have hlater : ∀ c ∈ splitPath bs, slash ∉ c ∧ (∀ x ∈ c, x ∈ b :: bs) ∧
        c.length ≤ (b :: bs).length ∧ (c.length = (b :: bs).length → c = b :: bs) := by
      intro c hc
      have h := ih c hc
      refine ⟨h.1, fun x hx => List.mem_cons_of_mem _ (h.2.1 x hx), ?_, fun hlen => ?_⟩
      · rw [List.length_cons]
        omega
      · rw [List.length_cons] at hlen
        omega
    by_cases hb : b = slash
    · rw [if_pos hb] at hc
      rcases List.mem_cons.mp hc with rfl | hc
      · exact ⟨List.not_mem_nil, nofun, Nat.zero_le _, nofun⟩
      · exact hlater c hc
    · rw [if_neg hb] at hc
      rcases hs : splitPath bs with _ | ⟨piece, pieces⟩
      · exact absurd hs (splitPath_ne_nil bs)
      rw [hs] at hc
      rcases List.mem_cons.mp hc with rfl | hc
      · have h := ih piece (hs ▸ List.mem_cons_self)
        refine ⟨?_, ?_, ?_, ?_⟩
        · exact List.not_mem_cons_of_ne_of_not_mem (Ne.symm hb) h.1
        · exact List.forall_mem_cons.mpr
            ⟨List.mem_cons_self, fun x hx => List.mem_cons_of_mem _ (h.2.1 x hx)⟩
        · rw [List.length_cons, List.length_cons]
          omega
        · intro hlen
          rw [List.length_cons, List.length_cons] at hlen
          rw [h.2.2.2 (by omega)]
      · exact hlater c (hs ▸ List.mem_cons_of_mem _ hc)

/-- A path with a slash, cut at its last one. -/
theorem exists_last_slash (h : slash ∈ p) : ∃ q x, p = q ++ slash :: x ∧ slash ∉ x := by
  have hrev : slash ∈ p.reverse := List.mem_reverse.mpr h
  rcases List.eq_append_cons_of_mem hrev with ⟨x, q, heq, hx⟩
  refine ⟨q.reverse, x.reverse, ?_, fun hmem => hx (List.mem_reverse.mp hmem)⟩
  have hback := congrArg List.reverse heq
  rw [List.reverse_reverse, List.reverse_append, List.reverse_cons, List.append_assoc] at hback
  exact hback

/-- Continuing a path continues from where it led. -/
theorem resolve_append (q : Bytes) :
    resolve (p ++ slash :: q) = (splitPath q).foldl enter (resolve p) := by
  unfold resolve
  rw [splitPath_append, List.foldl_append]

theorem enter_ordinary (c : Bytes) (h : Ordinary c) : enter dir c = dir ++ [c] := by
  unfold enter
  rw [if_neg (by rintro (h' | h'); exacts [h.1 h', h.2.1 h']), if_neg h.2.2]

/-- Wherever a path leads from a directory, it is some way up from it, and then
    down components that the path names. -/
theorem foldl_enter_shape (dir : List Bytes) :
    ∃ k ys, cs.foldl enter dir = dir.take k ++ ys ∧ ∀ y ∈ ys, y ∈ cs ∧ Ordinary y := by
  induction cs generalizing dir with
  | nil =>
    exact ⟨dir.length, [], by rw [List.foldl_nil, List.take_length, List.append_nil], nofun⟩
  | cons c cs ih =>
    rw [List.foldl_cons]
    rcases ih (enter dir c) with ⟨k, ys, heq, hys⟩
    have hlift : ∀ y ∈ ys, y ∈ c :: cs ∧ Ordinary y := fun y hy =>
      ⟨List.mem_cons_of_mem _ (hys y hy).1, (hys y hy).2⟩
    by_cases hskip : c = [] ∨ c = [46]
    · have henter : enter dir c = dir := if_pos hskip
      rw [henter] at heq ⊢
      exact ⟨k, ys, heq, hlift⟩
    by_cases hup : c = [46, 46]
    · have henter : enter dir c = dir.dropLast := by rw [enter, if_neg hskip, if_pos hup]
      rw [henter] at heq ⊢
      rw [heq, List.dropLast_eq_take, List.take_take]
      exact ⟨_, ys, rfl, hlift⟩
    · -- The component itself is kept or cut off again.
      have hord : Ordinary c := ⟨fun h => hskip (.inl h), fun h => hskip (.inr h), hup⟩
      rw [enter_ordinary dir c hord] at heq ⊢
      refine ⟨k, [c].take (k - dir.length) ++ ys, ?_, fun y hy => ?_⟩
      · rw [heq, List.take_append, List.append_assoc]
      · rcases List.mem_append.mp hy with hy | hy
        · rw [List.mem_singleton.mp (List.mem_of_mem_take hy)]
          exact ⟨List.mem_cons_self, hord⟩
        · exact hlift y hy

/-- A path that leads directly below its start names the component. -/
theorem foldl_enter_eq_append (dir : List Bytes) (leaf : Bytes)
    (h : cs.foldl enter dir = dir ++ [leaf]) : leaf ∈ cs ∧ Ordinary leaf := by
  rcases foldl_enter_shape cs dir with ⟨k, ys, heq, hys⟩
  rw [heq] at h
  rcases List.eq_nil_or_concat ys with rfl | ⟨zs, z, rfl⟩
  · -- Going only up cannot make the path longer.
    have hlen := congrArg List.length h
    rw [List.append_nil, List.length_take, List.length_append, List.length_singleton] at hlen
    omega
  · rw [List.concat_eq_append] at h hys
    have hlast := congrArg List.getLast? h
    rw [← List.append_assoc, List.getLast?_concat, List.getLast?_concat, Option.some.injEq] at hlast
    rw [← hlast]
    exact hys z (List.mem_append_right _ (List.mem_singleton_self z))

/-- An ordinary last component is where the path leads. -/
theorem foldl_enter_last (dir : List Bytes) (c : Bytes) (h : Ordinary c) :
    (cs ++ [c]).foldl enter dir = cs.foldl enter dir ++ [c] := by
  rw [List.foldl_append, List.foldl_cons, List.foldl_nil, enter_ordinary _ _ h]

/-! ### Following a path among directories -/

/-- Follow components from a place. Whatever comes next, also an empty component,
    needs a directory to go on from. -/
def walk (isDir : List Bytes → Bool) : List Bytes → List Bytes → Option (List Bytes)
  | dir, [] => some dir
  | dir, c :: cs => if isDir dir then walk isDir (enter dir c) cs else none

/-- The place a path leads to, if it leads anywhere. -/
def follow (isDir : List Bytes → Bool) (p : Bytes) : Option (List Bytes) :=
  walk isDir [] (splitPath p)

/-- The places on the way of a path. -/
def ancestors (p : Bytes) : List (List Bytes) := (splitPath p).scanl enter []

theorem walk_append (dir cs ds : List Bytes) :
    walk isDir dir (cs ++ ds) = (walk isDir dir cs).bind (fun d => walk isDir d ds) := by
  induction cs generalizing dir with
  | nil => rfl
  | cons c cs ih =>
    rw [List.cons_append, walk, walk]
    split
    · exact ih (enter dir c)
    · rfl

theorem walk_of_dirs (dir cs : List Bytes) (h : ∀ q ∈ cs.scanl enter dir, isDir q = true) :
    walk isDir dir cs = some (cs.foldl enter dir) := by
  induction cs generalizing dir with
  | nil => rfl
  | cons c cs ih =>
    rw [List.scanl_cons] at h
    rw [walk, if_pos (h dir List.mem_cons_self)]
    exact ih (enter dir c) (List.forall_mem_cons.mp h).2

theorem foldl_mem_scanl : cs.foldl enter dir ∈ cs.scanl enter dir := by
  induction cs generalizing dir with
  | nil => exact List.mem_singleton_self dir
  | cons c cs ih =>
    rw [List.scanl_cons]
    exact List.mem_cons_of_mem _ (ih (enter dir c))

/-- An ordinary name in a directory, once all the places on the way to the directory
    are directories. -/
theorem follow_below (p c : Bytes) (h : ∀ q ∈ ancestors p, isDir q = true) (hord : Ordinary c)
    (hslash : slash ∉ c) : follow isDir (p ++ slash :: c) = some (resolve p ++ [c]) := by
  rw [follow, splitPath_append, walk_append, walk_of_dirs isDir [] _ h, Option.bind_some,
    splitPath_of_noSlash c hslash, walk, if_pos (h _ (foldl_mem_scanl [] _)), walk,
    enter_ordinary _ _ hord, resolve]

end Geminifs
