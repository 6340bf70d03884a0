import Mathlib.Data.List.Basic

/-!
# The First Match of a List

A linked list that is searched for the first element with some property, which
is then changed in place or unlinked. One lemma says what all three do: the
list is split around the element, and the rest stays as it was.

## Main definitions

* `updateFirst`: Change the first match.

## Theorems

* `find_split`: Searching, changing and unlinking, in terms of one split.
* `mem_updateFirst`: What a changed list has in it.
* `map_updateFirst`, `find_updateFirst`, `find_eraseP`: What a change or an unlinking
  leaves alone.
* `find_updateFirst_self`: The same search after a change.
* `count_updateFirst`, `count_eraseP`: How often something occurs in what the
  elements hold, after a change and after an unlinking.
* `perm_updateFirst`, `perm_eraseP`: The same of all they hold at once.
* `perm_exchange`: An exchange inside an element that is exchanged.
-/

namespace Geminifs

variable {α : Type _}

/-- Change the first element that `p` holds of. -/
def updateFirst (p : α → Bool) (f : α → α) : List α → List α
  | [] => []
  | x :: xs => if p x then f x :: xs else x :: updateFirst p f xs

variable {p : α → Bool} {x : α} {f : α → α} (l : List α)

/-- A search that finds `x` splits the list around it; changing and unlinking
    the first match act on `x` alone. -/
theorem find_split (h : l.find? p = some x) : ∃ before after, l = before ++ x :: after ∧
      (∀ f, updateFirst p f l = before ++ f x :: after) ∧ l.eraseP p = before ++ after := by
  induction l with
  | nil => cases h
  | cons y ys ih =>
    -- The split is at the head, or that of the tail with one more in front.
    cases hy : p y with
    | true =>
      rw [List.find?_cons_of_pos hy, Option.some.injEq] at h
      refine ⟨[], ys, by rw [h]; rfl, fun f => ?_, ?_⟩
      · rw [updateFirst, if_pos hy, h]
        rfl
      · rw [List.eraseP_cons_of_pos hy]
        rfl
    | false =>
      have hneg : ¬ p y = true := by rw [hy]; simp
      rw [List.find?_cons_of_neg hneg] at h
      rcases ih h with ⟨before, after, hl, hupd, herase⟩
      refine ⟨y :: before, after, by rw [hl]; rfl, fun f => ?_, ?_⟩
      · rw [updateFirst, if_neg hneg, hupd f]
        rfl
      · rw [List.eraseP_cons_of_neg hneg, herase]
        rfl

/-- An element of a changed list is an old one or the one that was changed. -/
theorem mem_updateFirst {y : α} {l : List α} (h : l.find? p = some x) (hy : y ∈ updateFirst p f l) :
    y ∈ l ∨ y = f x := by
  rcases find_split l h with ⟨_, _, hl, hupd, -⟩
  rw [hupd f] at hy
  rw [hl]
  rcases List.mem_append.mp hy with hb | ha
  · exact .inl (List.mem_append_left _ hb)
  · rcases List.mem_cons.mp ha with heq | ha
    · exact .inr heq
    · exact .inl (List.mem_append_right _ (List.mem_cons_of_mem _ ha))

/-- A change that what is read off the elements cannot tell. -/
theorem map_updateFirst {β : Type _} {g : α → β}
    (h : ∀ x, p x = true → g (f x) = g x) (l : List α) :
    (updateFirst p f l).map g = l.map g := by
  induction l with
  | nil => rfl
  | cons x _ ih =>
    rw [updateFirst]
    split
    next hx => rw [List.map_cons, List.map_cons, h x hx]
    · rw [List.map_cons, List.map_cons, ih]

/-- The same search, if it still meets the changed element. -/
theorem find_updateFirst_self (h : ∀ x, p x = true → p (f x) = true) (l : List α) :
    (updateFirst p f l).find? p = (l.find? p).map f := by
  induction l with
  | nil => rfl
  | cons x _ ih =>
    rw [updateFirst]
    split
    next hx => rw [List.find?_cons_of_pos hx, List.find?_cons_of_pos (h x hx), Option.map_some]
    next hx => rw [List.find?_cons_of_neg hx, List.find?_cons_of_neg hx, ih]

/-- A search that the changed element does not meet, before or after the change. -/
theorem find_updateFirst {q : α → Bool} (h : ∀ x, p x = true → q x = false ∧ q (f x) = false)
    (l : List α) : (updateFirst p f l).find? q = l.find? q := by
  induction l with
  | nil => rfl
  | cons x _ ih =>
    rw [updateFirst]
    split
    next hx => rw [List.find?_cons, List.find?_cons, (h x hx).1, (h x hx).2]
    · rw [List.find?_cons, List.find?_cons, ih]

/-- A search that the unlinked element does not meet. -/
theorem find_eraseP {q : α → Bool} (h : ∀ x, p x = true → q x = false) (l : List α) :
    (l.eraseP p).find? q = l.find? q := by
  induction l with
  | nil => rfl
  | cons x _ ih =>
    cases hx : p x with
    | true => rw [List.eraseP_cons_of_pos hx, List.find?_cons, h x hx]
    | false =>
      rw [List.eraseP_cons_of_neg (by simp [hx]), List.find?_cons, List.find?_cons, ih]

variable {β : Type _} [DecidableEq β]

section

variable {l : List α} (h : l.find? p = some x)

include h

/-- Changing an element exchanges what it holds for what it then holds. -/
theorem count_updateFirst (f : α → α) (g : α → List β) (b : β) :
    ((updateFirst p f l).flatMap g).count b + (g x).count b =
      (l.flatMap g).count b + (g (f x)).count b := by
  rcases find_split l h with ⟨_, _, hl, hupd, -⟩
  rw [hupd f, hl]
  simp only [List.flatMap_append, List.flatMap_cons, List.count_append]
  omega

/-- Unlinking an element takes away what it holds. -/
theorem count_eraseP (g : α → List β) (b : β) :
    ((l.eraseP p).flatMap g).count b + (g x).count b = (l.flatMap g).count b := by
  rcases find_split l h with ⟨_, _, hl, -, herase⟩
  rw [herase, hl]
  simp only [List.flatMap_append, List.flatMap_cons, List.count_append]
  omega

/-- Changing an element exchanges what it holds, in any order. -/
theorem perm_updateFirst (f : α → α) (g : α → List β) :
    (g x ++ (updateFirst p f l).flatMap g).Perm (g (f x) ++ l.flatMap g) := by
  rw [List.perm_iff_count]
  intro b
  have hcount := count_updateFirst h f g b
  rw [List.count_append, List.count_append]
  omega

theorem perm_eraseP (g : α → List β) :
    (g x ++ (l.eraseP p).flatMap g).Perm (l.flatMap g) := by
  rw [List.perm_iff_count]
  intro b
  have hcount := count_eraseP h g b
  rw [List.count_append]
  omega

end

/-- An exchange inside one of the elements, seen from the outside: `o` becomes `o'`
    by exchanging `a` for `a'`, and the whole by exchanging `o` for `o'`. -/
theorem perm_exchange {a a' o o' t t' : List β} (houter : (o ++ t').Perm (o' ++ t))
    (hinner : (a ++ o').Perm (a' ++ o)) : (a ++ t').Perm (a' ++ t) := by
  rw [List.perm_iff_count] at houter hinner ⊢
  intro b
  have ho := houter b
  have hi := hinner b
  rw [List.count_append, List.count_append] at ho hi ⊢
  omega

end Geminifs
