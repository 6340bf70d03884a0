import Mathlib.Data.List.Nodup

/-!
# Maps Filled by Emplace

A hash map that is only ever filled by `emplace`, as the list of its pairs: the
first value given for a key stays, and later ones are dropped. What matters to
a user of the map is which keys it has and that its pairs are among those
offered; when the keys offered are distinct it is just the list.

## Main definitions

* `hasKey`: Whether a map has a key.
* `emplaceAll`: The map filled from a list of pairs.

## Theorems

* `hasKey_emplaceAll`: The keys are those that were offered.
* `mem_of_mem_emplaceAll`: The pairs are among those that were offered.
* `emplaceAll_of_nodup`: Distinct keys are all kept, in order.
-/

namespace Geminifs

variable {κ β : Type} [DecidableEq κ] (m : List (κ × β))

/-- Whether a map has a key. -/
def hasKey (key : κ) : Bool := m.any (fun kv => kv.1 == key)

/-- Insert a pair unless its key is there. -/
def emplace (kv : κ × β) : List (κ × β) :=
  if hasKey m kv.1 then m else m ++ [kv]

/-- The map filled from a list of pairs, in order. -/
def emplaceAll (kvs : List (κ × β)) : List (κ × β) := kvs.foldl emplace []

variable (m : List (κ × β)) (key : κ) (kvs : List (κ × β))

theorem hasKey_iff : hasKey m key = true ↔ ∃ v, (key, v) ∈ m := by
  unfold hasKey
  rw [List.any_eq_true]
  constructor
  · rintro ⟨⟨k, v⟩, hmem, hk⟩
    exact ⟨v, (beq_iff_eq.mp hk) ▸ hmem⟩
  · rintro ⟨v, hmem⟩
    exact ⟨(key, v), hmem, beq_iff_eq.mpr rfl⟩

theorem hasKey_emplace (kv : κ × β) (key : κ) :
    hasKey (emplace m kv) key = true ↔ hasKey m key = true ∨ key = kv.1 := by
  unfold emplace
  by_cases hk : hasKey m kv.1 = true
  · rw [if_pos hk]
    constructor
    · exact Or.inl
    · rintro (h | rfl)
      · exact h
      · exact hk
  · rw [if_neg hk, hasKey_iff, hasKey_iff]
    constructor
    · rintro ⟨v, hv⟩
      rcases List.mem_append.mp hv with hv | hv
      · exact .inl ⟨v, hv⟩
      · exact .inr (congrArg Prod.fst (List.mem_singleton.mp hv))
    · rintro (⟨v, hv⟩ | rfl)
      · exact ⟨v, List.mem_append_left _ hv⟩
      · exact ⟨kv.2, List.mem_append_right _ (List.mem_singleton_self kv)⟩

/-- The keys after filling a map further. -/
theorem hasKey_foldl_emplace (m : List (κ × β)) (key : κ) :
    hasKey (kvs.foldl emplace m) key = true ↔ hasKey m key = true ∨ ∃ v, (key, v) ∈ kvs := by
  induction kvs generalizing m with
  | nil => simp
  | cons kv kvs ih =>
    rw [List.foldl_cons, ih, hasKey_emplace]
    constructor
    · rintro ((h | rfl) | ⟨v, hv⟩)
      · exact .inl h
      · exact .inr ⟨kv.2, List.mem_cons_self⟩
      · exact .inr ⟨v, List.mem_cons_of_mem _ hv⟩
    · rintro (h | ⟨v, hv⟩)
      · exact .inl (.inl h)
      · rcases List.mem_cons.mp hv with rfl | hv
        · exact .inl (.inr rfl)
        · exact .inr ⟨v, hv⟩

/-- The keys of a filled map are those that were offered. -/
theorem hasKey_emplaceAll (key : κ) : hasKey (emplaceAll kvs) key = true ↔ ∃ v, (key, v) ∈ kvs := by
  unfold emplaceAll
  rw [hasKey_foldl_emplace]
  simp [hasKey]

/-- The pairs after filling a map further. -/
theorem mem_foldl_emplace (m : List (κ × β)) (x : κ × β) (hx : x ∈ kvs.foldl emplace m) :
    x ∈ m ∨ x ∈ kvs := by
  induction kvs generalizing m with
  | nil => exact .inl hx
  | cons kv kvs ih =>
    rcases ih (emplace m kv) hx with h | h
    · unfold emplace at h
      by_cases hk : hasKey m kv.1 = true
      · rw [if_pos hk] at h
        exact .inl h
      · rw [if_neg hk] at h
        rcases List.mem_append.mp h with h | h
        · exact .inl h
        · exact .inr (List.mem_singleton.mp h ▸ List.mem_cons_self)
    · exact .inr (List.mem_cons_of_mem _ h)

/-- The pairs of a filled map are among those that were offered. -/
theorem mem_of_mem_emplaceAll (x : κ × β) (hx : x ∈ emplaceAll kvs) : x ∈ kvs := by
  rcases mem_foldl_emplace kvs [] x hx with h | h
  · cases h
  · exact h

/-- Distinct keys are all kept, in order. -/
theorem emplaceAll_of_nodup (h : (kvs.map Prod.fst).Nodup) : emplaceAll kvs = kvs := by
  have hgeneral : ∀ (m : List (κ × β)), ((m ++ kvs).map Prod.fst).Nodup →
      kvs.foldl emplace m = m ++ kvs := by
    clear h
    induction kvs with
    | nil =>
      intro m _
      rw [List.foldl_nil, List.append_nil]
    | cons kv kvs ih =>
      intro m hm
      -- The key is new, so the pair is appended and the rest follow it.
      have hnew : ¬ hasKey m kv.1 = true := by
        rw [hasKey_iff]
        rintro ⟨v, hv⟩
        rw [List.map_append] at hm
        have hmem : kv.1 ∈ m.map Prod.fst := List.mem_map.mpr ⟨(kv.1, v), hv, rfl⟩
        exact (List.nodup_append.mp hm).2.2 kv.1 hmem kv.1 List.mem_cons_self rfl
      have hassoc : m ++ kv :: kvs = (m ++ [kv]) ++ kvs := by simp
      rw [List.foldl_cons, emplace, if_neg hnew, hassoc]
      exact ih (m ++ [kv]) (hassoc ▸ hm)
  have hall := hgeneral [] (by rwa [List.nil_append])
  rwa [List.nil_append] at hall

end Geminifs
