import Geminifs.Core.FileLog
import Geminifs.Library.Runs
import Mathlib.Data.Finset.Basic
import Mathlib.Data.List.Nodup

/-!
# The Directory as a Set of Entries

What the directory operations do to the set of entries, which is what every
later result talks about: order is not an invariant of the vector, since
`remove` moves the last entry.

Well-formedness carries these statements. The name index is only a cache of
the vector, and `index_of_positions` reduces keeping it to two facts: every
entry is found where it is, and a name without an entry is not found.

## Main definitions

* `Call`, `History`: Calls, and the ids that they drew and added.

## Theorems

* `findByName_eq_some`: The index finds exactly the entry of a name.
* `wellFormed_empty`, `wellFormed_nextFileId`, `wellFormed_add`,
  `wellFormed_remove`: The operations keep a directory well formed.
* `add_of_fresh`: When `add` succeeds and what it builds.
* `mem_remove`: `remove` takes out the entry with the id, and nothing else.
* `remove_add`: Removing what was just added gives the directory back.
* `log_indexed`: What all calls keep.
-/

namespace Geminifs.FileLog

open Function

variable {l : FileLog} (entries : List Entry) (index : Bytes → Option Nat)

/-- An index is right once it finds every entry where it is and finds nothing
    else. -/
theorem index_of_positions (hfound : ∀ i e, entries[i]? = some e → index e.name = some i)
    (habsent : ∀ name, (∀ e ∈ entries, e.name ≠ name) → index name = none) :
    ∀ name i, index name = some i ↔ (entries[i]?).map Entry.name = some name := by
  intro name i
  constructor
  · intro hi
    by_cases hmem : ∀ e ∈ entries, e.name ≠ name
    · rw [habsent name hmem] at hi
      cases hi
    · push Not at hmem
      rcases hmem with ⟨e, he, hname⟩
      rcases List.mem_iff_getElem?.mp he with ⟨j, hj⟩
      -- The entry's own position is the one the index gives.
      have hji := hfound j e hj
      rw [hname, hi, Option.some.injEq] at hji
      rw [hji, hj, Option.map_some, hname]
  · intro hi
    rcases Option.map_eq_some_iff.mp hi with ⟨e, he, rfl⟩
    exact hfound i e he

/-- A right index stays right when an entry of a new name is appended. -/
theorem index_append (e : Entry)
    (hindex : ∀ name i, index name = some i ↔ (entries[i]?).map Entry.name = some name)
    (hname : ∀ e' ∈ entries, e'.name ≠ e.name) :
    ∀ name i, update index e.name (some entries.length) name = some i ↔
      ((entries ++ [e])[i]?).map Entry.name = some name := by
  refine index_of_positions _ _ ?_ ?_
  · -- An old entry keeps its position; the new one is where the vector ended.
    intro i x hx
    by_cases hi : i < entries.length
    · rw [List.getElem?_append_left hi] at hx
      rw [update_of_ne (hname x (List.mem_of_getElem? hx))]
      exact (hindex x.name i).mpr (by rw [hx, Option.map_some])
    · have hlast := (List.getElem?_eq_some_iff.mp hx).1
      rw [List.length_append, List.length_singleton] at hlast
      have hi' : i = entries.length := by omega
      rw [hi'] at hx
      have hxe : x = e := by simpa using hx.symm
      rw [hxe, update_self, hi']
  · intro name habsent
    have hne : name ≠ e.name := fun h =>
      habsent e (List.mem_append_right _ (List.mem_singleton_self e)) h.symm
    rw [update_of_ne hne]
    rcases hi : index name with _ | i
    · rfl
    · rcases Option.map_eq_some_iff.mp ((hindex name i).mp hi) with ⟨x, hx, hxn⟩
      exact absurd hxn (habsent x (List.mem_append_left _ (List.mem_of_getElem? hx)))

variable {e e' : Entry}

section

variable (hl : l.Indexed)

include hl

/-- Two entries of one name at two positions are one position. -/
theorem position_unique {i j : Nat} (hi : l.entries[i]? = some e)
    (hj : l.entries[j]? = some e') (hname : e.name = e'.name) : i = j := by
  have hi' := (hl.index e.name i).mpr (by rw [hi, Option.map_some])
  have hj' := (hl.index e'.name j).mpr (by rw [hj, Option.map_some])
  rw [hname, hj', Option.some.injEq] at hi'
  exact hi'.symm

/-- Entries of a well-formed directory are told apart by their names. -/
theorem eq_of_name_eq (he : e ∈ l.entries) (he' : e' ∈ l.entries)
    (hname : e.name = e'.name) : e = e' :=
  List.inj_on_of_nodup_map hl.names he he' hname

/-- Entries of a well-formed directory are told apart by their ids. -/
theorem eq_of_fileId_eq (he : e ∈ l.entries) (he' : e' ∈ l.entries)
    (hid : e.fileId = e'.fileId) : e = e' :=
  List.inj_on_of_nodup_map hl.ids he he' hid

/-- The index finds exactly the entry of a name. -/
theorem findByName_eq_some (name : Bytes) (e : Entry) :
    l.findByName name = some e ↔ e ∈ l.entries ∧ e.name = name := by
  unfold findByName
  constructor
  · intro h
    rcases hi : l.nameToIndex name with _ | i
    · rw [hi] at h
      cases h
    rw [hi] at h
    simp only at h
    have hname := (hl.index name i).mp hi
    rw [h, Option.map_some, Option.some.injEq] at hname
    exact ⟨List.mem_of_getElem? h, hname⟩
  · rintro ⟨he, hname⟩
    rcases List.mem_iff_getElem?.mp he with ⟨i, hi⟩
    have hidx := (hl.index name i).mpr (by rw [hi, Option.map_some, hname])
    rw [hidx]
    exact hi

theorem findByName_eq_none (name : Bytes) :
    l.findByName name = none ↔ ∀ e ∈ l.entries, e.name ≠ name := by
  constructor
  · intro h e he hname
    rw [(findByName_eq_some hl name e).mpr ⟨he, hname⟩] at h
    cases h
  · intro h
    rcases hf : l.findByName name with _ | e
    · rfl
    · have hmem := (findByName_eq_some hl name e).mp hf
      exact absurd hmem.2 (h e hmem.1)

/-- A name is indexed exactly when it has an entry. -/
theorem nameToIndex_eq_none (name : Bytes) :
    l.nameToIndex name = none ↔ ∀ e ∈ l.entries, e.name ≠ name := by
  rw [← findByName_eq_none hl]
  unfold findByName
  rcases hi : l.nameToIndex name with _ | i
  · simp only
  · have hname := (hl.index name i).mp hi
    rcases Option.map_eq_some_iff.mp hname with ⟨e, he, -⟩
    simp only [he, reduceCtorEq]

end

theorem WellFormed.indexed (hl : l.WellFormed) : l.Indexed := ⟨hl.names, hl.ids, hl.index⟩

theorem wellFormed_empty : empty.WellFormed where
  names := List.nodup_nil
  ids := List.nodup_nil
  index := by
    simp [empty]
  below := nofun
  counter := Nat.one_pos
  short := nofun

theorem wellFormed_nextFileId (hl : l.WellFormed) : l.nextFileId.2.WellFormed where
  names := hl.names
  ids := hl.ids
  index := hl.index
  below := fun e he => Nat.lt_succ_of_lt (hl.below e he)
  counter := Nat.succ_pos _
  short := hl.short

/-- `add` refuses exactly the long names and the names present; the directory
    is then left as it was. -/
theorem add_cases (hl : l.Indexed) (e : Entry) : l.add e = (l, false) ∨
    e.name.length < kNameMax ∧ ∀ e' ∈ l.entries, e'.name ≠ e.name := by
  unfold add
  by_cases hlong : kNameMax ≤ e.name.length
  · exact .inl (if_pos hlong)
  rw [if_neg hlong]
  cases hindex : l.nameToIndex e.name with
  | some => exact .inl rfl
  | none => exact .inr ⟨by omega, (nameToIndex_eq_none hl e.name).mp hindex⟩

section

variable (hl : l.WellFormed) (e : Entry) (hshort : e.name.length < kNameMax)
  (hname : ∀ e' ∈ l.entries, e'.name ≠ e.name) (hid : e.fileId < l.nextId)

include hl hshort hname hid

/-- `add` succeeds on a short name without an entry, and appends the entry. An
    id that was drawn before leaves the counter alone. -/
theorem add_of_fresh : l.add e = ({ l with
      entries := l.entries ++ [e]
      nameToIndex := update l.nameToIndex e.name (some l.entries.length) }, true) := by
  have hnone := (nameToIndex_eq_none hl.indexed e.name).mpr hname
  unfold add
  rw [if_neg (by omega), hnone, if_neg (by simp), if_neg (by omega)]

theorem wellFormed_add (hfresh : ∀ e' ∈ l.entries, e'.fileId ≠ e.fileId) : (l.add e).1.WellFormed := by
  rw [add_of_fresh hl e hshort hname hid]
  refine ⟨?_, ?_, index_append _ _ e hl.index hname,
    List.forall_mem_append.mpr ⟨hl.below, List.forall_mem_singleton.mpr hid⟩, hl.counter,
    List.forall_mem_append.mpr ⟨hl.short, List.forall_mem_singleton.mpr hshort⟩⟩
  · rw [List.map_append]
    refine List.nodup_append.mpr ⟨hl.names, List.nodup_singleton _, ?_⟩
    rintro n hn m hm rfl
    rcases List.mem_map.mp hn with ⟨e', he', rfl⟩
    exact hname e' he' (List.mem_singleton.mp hm)
  · rw [List.map_append]
    refine List.nodup_append.mpr ⟨hl.ids, List.nodup_singleton _, ?_⟩
    rintro n hn m hm rfl
    rcases List.mem_map.mp hn with ⟨e', he', rfl⟩
    exact hfresh e' he' (List.mem_singleton.mp hm)

end

/-- The vector after taking out a position, in terms of its last entry. -/
theorem erasePosition_eq (l : FileLog) (i : Nat) (e : Entry) (hi : l.entries[i]? = some e) :
    ∃ es z, l.entries = es ++ [z] ∧ i ≤ es.length ∧ l.erasePosition i e =
      { l with
        entries := swapPop (es ++ [z]) i z
        nameToIndex :=
          if i ≠ es.length then update (update l.nameToIndex e.name none) z.name (some i)
          else update l.nameToIndex e.name none } := by
  rcases List.eq_nil_or_concat' l.entries with hnil | ⟨es, z, hes⟩
  · rw [hnil] at hi
    cases hi
  · have hlt := (List.getElem?_eq_some_iff.mp hi).1
    have hlen : (es ++ [z]).length - 1 = es.length := by simp
    rw [hes, List.length_append, List.length_singleton] at hlt
    refine ⟨es, z, hes, by omega, ?_⟩
    simp only [erasePosition, hes, List.getLast?_concat, hlen]

/-- The removed entry and the entries left make up the directory. -/
theorem erasePosition_perm (l : FileLog) (i : Nat) (e : Entry) (hi : l.entries[i]? = some e) :
    (e :: (l.erasePosition i e).entries).Perm l.entries := by
  rcases erasePosition_eq l i e hi with ⟨es, z, hes, -, heq⟩
  rw [hes] at hi
  rw [heq, hes]
  exact swapPop_perm hi

/-- Taking out a position removes its entry, told by its id, and nothing
    else. -/
theorem mem_erasePosition (hl : l.Indexed) (i : Nat) (e : Entry) (hi : l.entries[i]? = some e)
    (x : Entry) : x ∈ (l.erasePosition i e).entries ↔ x ∈ l.entries ∧ x.fileId ≠ e.fileId := by
  have hperm := erasePosition_perm l i e hi
  have hnodup : ((e :: (l.erasePosition i e).entries).map Entry.fileId).Nodup :=
    (hperm.map _).nodup_iff.mpr hl.ids
  rw [List.map_cons, List.nodup_cons] at hnodup
  constructor
  · intro hx
    refine ⟨hperm.subset (List.mem_cons_of_mem _ hx), fun hid => hnodup.1 ?_⟩
    rw [← hid]
    exact List.mem_map_of_mem hx
  · rintro ⟨hx, hid⟩
    rcases List.mem_cons.mp (hperm.symm.subset hx) with rfl | hx
    · exact absurd rfl hid
    · exact hx

theorem indexed_erasePosition (hl : l.Indexed) (i : Nat) (e : Entry)
    (hi : l.entries[i]? = some e) : (l.erasePosition i e).Indexed := by
  have hperm := erasePosition_perm l i e hi
  have hmem := mem_erasePosition hl i e hi
  have hnames : ((e :: (l.erasePosition i e).entries).map Entry.name).Nodup :=
    (hperm.map _).nodup_iff.mpr hl.names
  have hids : ((e :: (l.erasePosition i e).entries).map Entry.fileId).Nodup :=
    (hperm.map _).nodup_iff.mpr hl.ids
  rw [List.map_cons, List.nodup_cons] at hnames hids
  rcases erasePosition_eq l i e hi with ⟨es, z, hes, -, heq⟩
  have hlast : l.entries[es.length]? = some z := by
    rw [hes]
    exact List.getElem?_concat_length
  refine ⟨hnames.2, hids.2, index_of_positions _ _ ?_ ?_⟩
  · -- An entry left is the moved one, or it has not moved.
    intro j x hx
    rw [heq] at hx ⊢
    simp only [swapPop_concat] at hx ⊢
    have hj : j < es.length := by
      rw [← List.length_set]
      exact (List.getElem?_eq_some_iff.mp hx).1
    by_cases hij : i = j
    · subst hij
      rw [List.getElem?_set_self hj, Option.some.injEq] at hx
      rw [if_pos (by omega), hx, update_self]
    · rw [List.getElem?_set_ne hij] at hx
      have hxj : l.entries[j]? = some x := by rw [hes, List.getElem?_append_left hj, hx]
      have hindex := (hl.index x.name j).mpr (by rw [hxj, Option.map_some])
      have hne : x.name ≠ e.name := fun h => hij (position_unique hl hi hxj h.symm)
      have hnz : x.name ≠ z.name := fun h => by
        have := position_unique hl hxj hlast h
        omega
      split
      · rw [update_of_ne hnz, update_of_ne hne, hindex]
      · rw [update_of_ne hne, hindex]
  · intro name habsent
    -- A name left without an entry is the removed one, or never had one.
    have hbefore : name ≠ e.name → l.nameToIndex name = none := by
      intro hne
      refine (nameToIndex_eq_none hl name).mpr (fun x hx hxn => ?_)
      rcases List.mem_cons.mp (hperm.symm.subset hx) with rfl | hx
      · exact hne hxn.symm
      · exact habsent x hx hxn
    have hinner : update l.nameToIndex e.name none name = none := by
      by_cases hne : name = e.name
      · rw [hne, update_self]
      · rw [update_of_ne hne, hbefore hne]
    by_cases hil : i ≠ es.length
    · have hze : z ∈ (l.erasePosition i e).entries := by
        refine (hmem z).mpr ⟨List.mem_of_getElem? hlast, fun hid => hil ?_⟩
        have hzeq := eq_of_fileId_eq hl (List.mem_of_getElem? hlast) (List.mem_of_getElem? hi) hid
        exact position_unique hl hi hlast (by rw [hzeq])
      have hnz : name ≠ z.name := fun h => habsent z hze h.symm
      rw [heq]
      simp only
      rw [if_pos hil, update_of_ne hnz, hinner]
    · rw [heq]
      simp only
      rw [if_neg hil, hinner]

/-- `remove` takes out one position, or finds no entry with the id. -/
theorem remove_cases (l : FileLog) (fileId : Nat) :
    (l.remove fileId = (l, false) ∧ ∀ e ∈ l.entries, e.fileId ≠ fileId) ∨
      ∃ i e, l.entries[i]? = some e ∧ e.fileId = fileId ∧
        l.remove fileId = (l.erasePosition i e, true) := by
  rcases hf : l.entries.findIdx? (fun e => e.fileId == fileId) with _ | i
  · refine .inl ⟨by rw [remove, hf], fun e he hid => ?_⟩
    have hnot := List.findIdx?_eq_none_iff.mp hf e he
    rw [hid] at hnot
    exact absurd hnot (by simp)
  · rcases List.findIdx?_eq_some_iff_getElem.mp hf with ⟨hlt, hid, -⟩
    have hget := List.getElem?_eq_getElem hlt
    refine .inr ⟨i, _, hget, by simpa using hid, ?_⟩
    rw [remove, hf]
    simp only [hget]

theorem indexed_remove (hl : l.Indexed) (fileId : Nat) : (l.remove fileId).1.Indexed := by
  rcases remove_cases l fileId with ⟨heq, -⟩ | ⟨i, e, hi, -, heq⟩
  · rw [heq]
    exact hl
  · rw [heq]
    exact indexed_erasePosition hl i e hi

/-- `remove` takes out the entry with the id, and nothing else. -/
theorem mem_remove (hl : l.Indexed) (fileId : Nat) (x : Entry) :
    x ∈ (l.remove fileId).1.entries ↔ x ∈ l.entries ∧ x.fileId ≠ fileId := by
  rcases remove_cases l fileId with ⟨heq, hno⟩ | ⟨i, e, hi, rfl, heq⟩
  · rw [heq]
    exact ⟨fun hx => ⟨hx, hno x hx⟩, fun hx => hx.1⟩
  · rw [heq]
    exact mem_erasePosition hl i e hi x

/-- A removal from the last two places keeps the order of the others. -/
theorem remove_entries {fileId : Nat} (h : ∀ i,
      l.entries.findIdx? (fun e => e.fileId == fileId) = some i → l.entries.length ≤ i + 2) :
    (l.remove fileId).1.entries = l.entries.eraseP (fun e => e.fileId == fileId) := by
  rw [List.eraseP_eq_eraseIdx, remove]
  cases hi : l.entries.findIdx? (fun e => e.fileId == fileId) with
  | none => rfl
  | some i =>
    have hlt := (List.findIdx?_eq_some_iff_getElem.mp hi).1
    have hget := List.getElem?_eq_getElem hlt
    rcases erasePosition_eq l i _ hget with ⟨es, z, hes, hle, heq⟩
    have hlen := h i hi
    rw [hes, List.length_append, List.length_singleton] at hlen
    simp only [hget, heq]
    rw [hes]
    exact swapPop_eq_eraseIdx hle (by omega)

/-- Nothing is left under the name of the entry that was removed. -/
theorem name_ne_of_mem_remove (hl : l.Indexed) (he : e ∈ l.entries) :
    ∀ x ∈ (l.remove e.fileId).1.entries, x.name ≠ e.name := by
  intro x hx hname
  have hold := (mem_remove hl e.fileId x).mp hx
  exact hold.2 (congrArg Entry.fileId (eq_of_name_eq hl hold.1 he hname))

theorem remove_nextId (l : FileLog) (fileId : Nat) : (l.remove fileId).1.nextId = l.nextId := by
  rcases remove_cases l fileId with ⟨heq, -⟩ | ⟨i, e, hi, -, heq⟩
  · rw [heq]
  · rcases erasePosition_eq l i e hi with ⟨es, z, -, -, hz⟩
    rw [heq, hz]

/-- A directory that keeps the counter and has no new entries stays well formed. -/
theorem WellFormed.of_subset (hl : l.WellFormed) {l' : FileLog} (h : l'.Indexed)
    (hnext : l'.nextId = l.nextId) (hsub : ∀ e ∈ l'.entries, e ∈ l.entries) : l'.WellFormed :=
  ⟨h.names, h.ids, h.index, fun e he => hnext ▸ hl.below e (hsub e he), hnext ▸ hl.counter,
    fun e he => hl.short e (hsub e he)⟩

theorem wellFormed_remove (hl : l.WellFormed) (fileId : Nat) : (l.remove fileId).1.WellFormed :=
  hl.of_subset (indexed_remove hl.indexed fileId) (remove_nextId l fileId)
    (fun e he => ((mem_remove hl.indexed fileId e).mp he).1)

/-- Removing what was just added gives the directory back, position by
    position: the entry is the last one, so nothing moves. -/
theorem remove_add (hl : l.WellFormed) (e : Entry) (hshort : e.name.length < kNameMax)
    (hname : ∀ e' ∈ l.entries, e'.name ≠ e.name) (hid : e.fileId < l.nextId)
    (hfresh : ∀ e' ∈ l.entries, e'.fileId ≠ e.fileId) : ((l.add e).1.remove e.fileId).1 = l := by
  have hnone := (nameToIndex_eq_none hl.indexed e.name).mpr hname
  rw [add_of_fresh hl e hshort hname hid]
  rcases remove_cases { l with
      entries := l.entries ++ [e]
      nameToIndex := update l.nameToIndex e.name (some l.entries.length) } e.fileId with
    ⟨-, hno⟩ | ⟨i, x, hi, hx, heq⟩
  · exact absurd rfl (hno e (List.mem_append_right _ (List.mem_singleton_self e)))
  -- The entry with the id is the last one: no older entry has it.
  have hilast : i = l.entries.length := by
    by_contra hne
    have hlt := (List.getElem?_eq_some_iff.mp hi).1
    rw [List.length_append, List.length_singleton] at hlt
    rw [List.getElem?_append_left (by omega)] at hi
    exact hfresh x (List.mem_of_getElem? hi) hx
  have hxe : x = e := by
    rw [hilast] at hi
    simpa using hi.symm
  rw [heq, erasePosition]
  simp only [List.getLast?_concat, swapPop, hilast, hxe]
  rw [if_neg (by simp), if_neg (by simp), List.dropLast_concat, update_idem, ← hnone,
    update_eq_self]

/-! ### Histories -/

open Runs

/-- A call of the directory. -/
inductive Call where
  | nextFileId
  | add (e : Entry)
  | remove (fileId : Nat)
  deriving DecidableEq, Repr

/-- A directory, with the ids that were drawn and are not used yet, those that were added, and
    the number of calls. -/
structure History where
  log : FileLog
  drawn : Finset Nat
  added : Finset Nat
  calls : Nat

namespace History

/-- One call. -/
def step (h : History) : Call → History
  | .nextFileId =>
    ⟨h.log.nextFileId.2, insert h.log.nextFileId.1 h.drawn, h.added, h.calls + 1⟩
  | .add e =>
    ⟨(h.log.add e).1, h.drawn.erase e.fileId,
      if (h.log.add e).2 then insert e.fileId h.added else h.added, h.calls + 1⟩
  | .remove fileId => ⟨(h.log.remove fileId).1, h.drawn, h.added, h.calls + 1⟩

/-- An entry is added with an id that was drawn and is not used yet. -/
def Fresh (h : History) : Call → Prop
  | .add e => e.fileId ∈ h.drawn
  | _ => True

/-- The directory is well formed, and the ids that were drawn are new to it. -/
structure Ok (h : History) : Prop where
  wf : h.log.WellFormed
  drawn : ∀ id ∈ h.drawn, id < h.log.nextId ∧ ∀ e ∈ h.log.entries, e.fileId ≠ id
  added : ∀ id ∈ h.added, id < h.log.nextId ∧ h.log.nextId ≤ h.calls
  calls : h.log.nextId ≤ h.calls + 1

/-- A call keeps this. An entry that is refused changes nothing. -/
theorem ok_step (h : History) (c : Call) (hok : h.Ok) (hc : h.Fresh c) : (h.step c).Ok := by
  obtain ⟨hwf, hdrawn, hadded, hcalls⟩ := hok
  cases c with
  | nextFileId =>
    refine ⟨wellFormed_nextFileId hwf, fun id hid => ?_, fun id hid => ?_, ?_⟩
    · rcases Finset.mem_insert.mp hid with rfl | hid
      · exact ⟨Nat.lt_succ_self _, fun e he => Nat.ne_of_lt (hwf.below e he)⟩
      · exact ⟨Nat.lt_succ_of_lt (hdrawn id hid).1, (hdrawn id hid).2⟩
    · exact ⟨Nat.lt_succ_of_lt (hadded id hid).1, Nat.succ_le_succ (hadded id hid).2⟩
    · exact Nat.succ_le_succ hcalls
  | add e =>
    obtain ⟨hlt, hnew⟩ := hdrawn e.fileId hc
    have hdrawn' : ∀ id ∈ h.drawn.erase e.fileId, id < h.log.nextId ∧ e.fileId ≠ id ∧
        ∀ e' ∈ h.log.entries, e'.fileId ≠ id := by
      intro id hid
      obtain ⟨hne, hid⟩ := Finset.mem_erase.mp hid
      exact ⟨(hdrawn id hid).1, hne.symm, (hdrawn id hid).2⟩
    rcases add_cases hwf.indexed e with hadd | ⟨hshort, hname⟩
    · constructor <;> grind [step]
    · have hadd := add_of_fresh hwf e hshort hname hlt
      have hwf' := wellFormed_add hwf e hshort hname hlt hnew
      constructor <;> grind [step]
  | remove fileId =>
    have hmem := mem_remove hwf.indexed fileId
    have hnext := remove_nextId h.log fileId
    have hwf' := wellFormed_remove hwf fileId
    constructor <;> grind [step]

/-- Over all calls in which every id is used once, the names and ids of the entries are distinct,
    the index is that of their positions, and a name is found if it is there. The counter is above
    all ids that were added, and not above the number of calls. An id that is removed takes its
    entry with it, and no other. -/
theorem log_indexed (cs : List Call) (h : History)
    (hcs : Along step Fresh ⟨.empty, ∅, ∅, 0⟩ cs) (hrun : run step ⟨.empty, ∅, ∅, 0⟩ cs = h) :
    (h.log.entries.map Entry.name).Nodup ∧ (h.log.entries.map Entry.fileId).Nodup ∧
    (∀ name i, h.log.nameToIndex name = some i ↔ (h.log.entries[i]?).map Entry.name = some name) ∧
    (∀ name e, h.log.findByName name = some e ↔ e ∈ h.log.entries ∧ e.name = name) ∧
    (∀ id ∈ h.added, id < h.log.nextId ∧ h.log.nextId ≤ h.calls) ∧
    ∀ id e, e ∈ (h.log.remove id).1.entries ↔ e ∈ h.log.entries ∧ e.fileId ≠ id := by
  have hok : h.Ok := by
    rw [← hrun]
    exact run_invariant ok_step ⟨wellFormed_empty, by simp, by simp, Nat.le_refl 1⟩ hcs
  exact ⟨hok.wf.names, hok.wf.ids, hok.wf.index, findByName_eq_some hok.wf.indexed, hok.added,
    mem_remove hok.wf.indexed⟩

/-- Two entries, of which the first is removed. -/
theorem log_indexed_two : ∃ h : History, (h.log.entries.map Entry.name).Nodup ∧
    h.added = {2, 1} ∧ h.log.entries = [⟨2, [98], 512, []⟩] := by
  refine ⟨_, (log_indexed [.nextFileId, .add ⟨1, [97], 512, []⟩, .nextFileId,
    .add ⟨2, [98], 512, []⟩, .remove 1] _ ?_ rfl).1, ?_, ?_⟩
  · simp [Along, Fresh, step, nextFileId]
    decide
  · decide
  · decide

end History

end Geminifs.FileLog
