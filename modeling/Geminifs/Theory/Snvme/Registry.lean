import Geminifs.Theory.Snvme.Driver

/-!
# Files, Groups and Maps

What identifies what, in every run: a file descriptor belongs to one controller,
a group id to one group of all controllers, and a map that is linked to a group
to a live group of the descriptor it was registered through. The maps of a group
go when the group does, so no map is left linked to a group that is gone.

Group ids are the tokens of an allocator that all controllers share. A request
takes at most one and gives back those of the groups it destroys; `Renames` says
which, and everything about ids follows from it.

## Main definitions

* `State.groupKeys`: The groups of a controller, by descriptor and id.
* `Renames`: The descriptors and groups that come and go with a request.
* `Names`: Descriptors and group ids are unambiguous.
* `Regs`: Maps are distinct, and placed where their kind says.

## Theorems

* `move_turnover`: What each move does to descriptors, groups and maps.
* `names_step`, `regs_step`: Every request keeps both.
* `registry_run`, `registry_in_order`: So does every run, and a module starts with both.
-/

namespace Geminifs.Snvme

open Runs

variable {own : Owner} {r : Registered} {us : List Registered} (s : State)

/-- The groups of a controller, by descriptor and id. -/
def State.groupKeys : List (Nat × Nat) :=
  s.owners.flatMap (fun o => o.groups.map (fun g => (o.fd, g.groupId)))

/-- The ids of a controller's groups. -/
def State.groupIds : List Nat := s.groupKeys.map Prod.snd

theorem State.mem_groupKeys {s : State} {key : Nat × Nat} :
    key ∈ s.groupKeys ↔ ∃ o ∈ s.owners, o.fd = key.1 ∧ ∃ g ∈ o.groups, g.groupId = key.2 := by
  rw [State.groupKeys, List.mem_flatMap]
  constructor
  · rintro ⟨o, ho, hkey⟩
    rcases List.mem_map.mp hkey with ⟨g, hg, rfl⟩
    exact ⟨o, ho, rfl, g, hg, rfl⟩
  · rintro ⟨o, ho, hfd, g, hg, hid⟩
    exact ⟨o, ho, List.mem_map.mpr ⟨g, hg, Prod.ext hfd hid⟩⟩

/-- The descriptors and groups that come and go with a request: at most one
    descriptor is new, the groups in `gone` are given up, and those in `new` have
    ids that were free. -/
structure Renames (d : Driver) (req : Request) (new gone : List (Nat × Nat)) : Prop where
  fds : ((d.result req).state.owners.map Owner.fd).Sublist
    ((d.ctrls req.ctrl).owners.map Owner.fd ++ [d.next])
  keys : (gone ++ (d.result req).state.groupKeys).Perm (new ++ (d.ctrls req.ctrl).groupKeys)
  free : ∀ key ∈ new, key.2 ∉ d.groupIda ∧ key.2 ≠ 0
  once : (new.map Prod.snd).Nodup
  ida : ∀ k, k ∈ d.idaAfter req ↔ (k ∈ d.groupIda ∧ k ∉ gone.map Prod.snd) ∨ k ∈ new.map Prod.snd

variable {d : Driver} {req : Request}

/-- Nothing comes or goes, as far as descriptors and ids can tell. -/
theorem renames_refl
    (hfds : (d.result req).state.owners.map Owner.fd = (d.ctrls req.ctrl).owners.map Owner.fd)
    (hkeys : (d.result req).state.groupKeys = (d.ctrls req.ctrl).groupKeys)
    (hida : d.idaAfter req = d.groupIda) : Renames d req [] [] where
  fds := by
    rw [hfds]
    exact List.sublist_append_left _ _
  keys := by rw [hkeys]
  free := nofun
  once := List.nodup_nil
  ida := fun k => by simp [hida]

theorem renames_of_owners (howners : (d.result req).state.owners = (d.ctrls req.ctrl).owners)
    (hida : d.idaAfter req = d.groupIda) : Renames d req [] [] :=
  renames_refl (by rw [howners]) (by rw [State.groupKeys, State.groupKeys, howners]) hida

variable {fd : Nat} {g : QGroup} (regs : List Registered) (c : Nat)

theorem fds_of_updateOwner {os : List Owner} {s : State} {f : Owner → Owner}
    (howners : os = (s.updateOwner fd f).owners) (hf : ∀ o, (f o).fd = o.fd) :
    os.map Owner.fd = s.owners.map Owner.fd := by
  rw [howners]
  exact map_updateFirst (fun o _ => hf o) s.owners

/-- Putting a group in the place of one with its id changes no names. -/
theorem renames_putGroup (howners : (d.result req).state.owners =
      ((d.ctrls req.ctrl).updateOwner own.fd (Owner.putGroup g)).owners)
    (hida : d.idaAfter req = d.groupIda) : Renames d req [] [] := by
  refine renames_refl ?_ ?_ hida
  · exact fds_of_updateOwner howners fun o => rfl
  · rw [State.groupKeys, howners, List.flatMap_def]
    refine congrArg _ (map_updateFirst (fun o _ => ?_) _)
    -- The group that is replaced is found by the id of the new one.
    refine map_updateFirst (fun x hx => ?_) _
    rw [beq_iff_eq] at hx
    rw [hx]

theorem renames_grouped {groupId : Nat} (hown : (d.ctrls req.ctrl).findOwner own.fd = some own)
    (hfree : groupId ∉ d.groupIda) (hpos : groupId ≠ 0) (howners : (d.result req).state.owners =
      ((d.ctrls req.ctrl).updateOwner own.fd (Owner.addGroup groupId)).owners)
    (hida : d.idaAfter req = groupId :: d.groupIda) : Renames d req [(own.fd, groupId)] [] := by
  refine ⟨?_, ?_, fun _ hkey => ?_, List.nodup_singleton _, fun k => ?_⟩
  · rw [fds_of_updateOwner howners fun o => rfl]
    exact List.sublist_append_left _ _
  · -- The descriptor's keys are those it had and the new one.
    have hperm := perm_updateFirst hown (Owner.addGroup groupId)
      (fun o => o.groups.map (fun g => (o.fd, g.groupId)))
    rw [Owner.addGroup, List.map_append, List.append_assoc] at hperm
    have hkeys := (List.perm_append_left_iff _).mp hperm
    rw [State.groupKeys, howners]
    exact hkeys
  · rw [List.mem_singleton.mp hkey]
    exact ⟨hfree, hpos⟩
  · rw [hida]
    simp [or_comm]

theorem renames_dropped (hown : (d.ctrls req.ctrl).findOwner own.fd = some own)
    (hgroup : own.groups.find? (fun x => x.groupId == g.groupId) = some g)
    (howners : (d.result req).state.owners =
      ((d.ctrls req.ctrl).updateOwner own.fd (Owner.dropGroup g.groupId)).owners)
    (hida : d.idaAfter req = d.groupIda.filter (· ≠ g.groupId)) :
    Renames d req [] [(own.fd, g.groupId)] := by
  refine ⟨?_, ?_, nofun, List.nodup_nil, fun k => ?_⟩
  · rw [fds_of_updateOwner howners fun o => rfl]
    exact List.sublist_append_left _ _
  · have hperm := perm_updateFirst hown (Owner.dropGroup g.groupId)
      (fun o => o.groups.map (fun g => (o.fd, g.groupId)))
    have hinner : ([(own.fd, g.groupId)] ++ (Owner.dropGroup g.groupId own).groups.map
        (fun x => (own.fd, x.groupId))).Perm ([] ++ own.groups.map (fun x => (own.fd, x.groupId))) := by
      have hgroups := perm_eraseP hgroup (fun x => [(own.fd, x.groupId)])
      rw [← List.map_eq_flatMap, ← List.map_eq_flatMap] at hgroups
      exact hgroups
    -- The key that goes is exchanged inside its descriptor, and the descriptor inside the list.
    rw [State.groupKeys, howners]
    exact perm_exchange hperm hinner
  · rw [hida]
    simp

theorem renames_released (hown : (d.ctrls req.ctrl).findOwner own.fd = some own)
    (howners : (d.result req).state.owners =
      (d.ctrls req.ctrl).owners.eraseP (fun o => o.fd == own.fd))
    (hida : d.idaAfter req = d.groupIda.filter (fun k => own.groups.all (fun g => g.groupId ≠ k))) :
    Renames d req [] (own.groups.map (fun g => (own.fd, g.groupId))) := by
  refine ⟨?_, ?_, nofun, List.nodup_nil, fun k => ?_⟩
  · rw [howners]
    exact ((List.eraseP_sublist).map _).trans (List.sublist_append_left _ _)
  · rw [State.groupKeys, howners]
    exact perm_eraseP hown (fun o => o.groups.map (fun g => (o.fd, g.groupId)))
  · rw [hida]
    simp

/-! ### Maps that come and go -/

/-- The maps that are left when those in `us` are released. -/
def without (us regs : List Registered) : List Registered :=
  regs.filter (fun r => us.all (fun u => r.id ≠ u.id))

theorem mem_without {regs : List Registered} :
    r ∈ without us regs ↔ r ∈ regs ∧ ∀ u ∈ us, r.id ≠ u.id := by
  simp [without]

theorem without_nil : without [] regs = regs := by
  simp [without]

theorem without_append (us vs regs : List Registered) :
    without (us ++ vs) regs = without vs (without us regs) := by
  rw [without, without, without, List.filter_filter]
  refine List.filter_congr fun r _ => ?_
  rw [List.all_append, Bool.and_comm]

/-- The maps that come and go with a request: those in `us` are released, among
    them all that are linked to a group that is given up, and `fresh` is
    registered. -/
structure Turnover (d : Driver) (req : Request) (gone : List (Nat × Nat)) (us : List Registered)
    (fresh : Option Registered) : Prop where
  regs : (d.step req).regs = without us d.regs ++ fresh.toList
  held : ∀ u ∈ us, u ∈ d.regs
  gone : ∀ r ∈ d.regs, ∀ key ∈ gone, r.desc.link = .group key.1 key.2 → r ∈ us
  fresh : ∀ r ∈ fresh, r.id = d.next ∧ r.ctrl = req.ctrl ∧ r.desc.Placed r.fd ∧
    ∀ f groupId, r.desc.link = .group f groupId → (f, groupId) ∈ (d.result req).state.groupKeys

theorem step_regs (d : Driver) (req : Request) :
    (d.step req).regs = run onRegs d.regs (d.events req) := rfl

/-- Commands do not change the maps. -/
theorem run_onRegs_sent {es : List Event} (h : ∀ e ∈ es, e.isSent = true)
    (regs : List Registered) : run onRegs regs es = regs := by
  induction es with
  | nil => rfl
  | cons e _ ih =>
    have hrest := ih (List.forall_mem_cons.mp h).2
    have he := h e List.mem_cons_self
    cases e with
    | sent => exact hrest
    | registered | unmapped | restarted => exact absurd he Bool.false_ne_true

theorem run_onRegs_registered (f : MapDesc → Registered) (ms : List MapDesc)
    (regs : List Registered) :
    run onRegs regs (ms.map (fun m => .registered (f m))) = regs ++ ms.map f := by
  induction ms generalizing regs with
  | nil => exact (List.append_nil regs).symm
  | cons _ _ ih =>
    rw [List.map_cons, run, ih, onRegs, List.append_assoc]
    rfl

/-- Releasing maps one after the other. -/
theorem run_onRegs_unmapped (us regs : List Registered) :
    run onRegs regs (us.map .unmapped) = without us regs := by
  induction us generalizing regs with
  | nil => exact (without_nil regs).symm
  | cons _ _ ih =>
    rw [List.map_cons, run, ih, ← List.singleton_append, without_append]
    simp [onRegs, without]

theorem deleteEvents_isSent (cmds : List AdminCmd) :
    ∀ e ∈ deleteEvents c cmds, e.isSent = true := by
  intro e he
  rcases List.mem_map.mp he with ⟨_, -, rfl⟩
  rfl

theorem madeEvents_isSent (size : Nat) (items : List Item) :
    ∀ e ∈ items.flatMap (madeEvents c size), e.isSent = true := by
  intro e he
  rcases List.mem_flatMap.mp he with ⟨x, -, hx⟩
  rcases List.mem_cons.mp hx with rfl | hx
  · rfl
  · rw [List.mem_singleton.mp hx]
    rfl

/-- A batch sends commands and does nothing else. -/
theorem Sending.isSent {c size : Nat} {items : List Item} {made : Bool} {es : List Event}
    (h : Sending c size items made es) : ∀ e ∈ es, e.isSent = true := by
  cases h with
  | committed => exact madeEvents_isSent c size items
  | failed made _ _ back _ hstop =>
    intro e he
    rcases List.mem_append.mp he with he | he
    · rcases List.mem_append.mp he with he | he
      · exact madeEvents_isSent c size made e he
      · -- What stopped the loop is between what was made and what is taken back.
        cases hstop with
        | complete => cases he
        | cq =>
          rw [List.mem_singleton.mp he]
          rfl
        | sq =>
          simp only [List.mem_cons, List.not_mem_nil, or_false] at he
          rcases he with rfl | rfl | rfl <;> rfl
    · exact deleteEvents_isSent c _ e he

/-- No map comes or goes. -/
theorem turnover_refl (hregs : (d.step req).regs = d.regs) : Turnover d req [] [] none where
  regs := by simp [hregs, without_nil]
  held := nofun
  gone := nofun
  fresh := nofun

theorem turnover_of_sent (h : ∀ e ∈ d.events req, e.isSent = true) :
    Turnover d req [] [] none := turnover_refl (run_onRegs_sent h d.regs)

/-- A request that releases maps. -/
theorem turnover_of_without {gone : List (Nat × Nat)}
    (hregs : (d.step req).regs = without us d.regs) (hheld : ∀ u ∈ us, u ∈ d.regs)
    (hgone : ∀ r ∈ d.regs, ∀ key ∈ gone, r.desc.link = .group key.1 key.2 → r ∈ us) :
    Turnover d req gone us none where
  regs := by simp [hregs]
  held := hheld
  gone := hgone
  fresh := nofun

theorem mem_groupMaps {groupId : Nat} :
    r ∈ d.groupMaps fd groupId ↔ r ∈ d.regs ∧ r.desc.link = .group fd groupId := by
  simp [Driver.groupMaps]

theorem mem_purged :
    r ∈ d.purged own ↔ r ∈ d.regs ∧ (∀ g ∈ own.groups, r.desc.link ≠ .group own.fd g.groupId) ∧
      (r.desc.link = .data own.fd ∨ (r.desc.owner = own.task ∧ r.desc.groupId = 0)) := by
  simp only [Driver.purged, List.mem_append, List.mem_filter, List.all_eq_true, decide_eq_true_eq]
  constructor
  · rintro (((⟨⟨hmem, hno⟩, hdata⟩ | ⟨⟨⟨hmem, hno⟩, -, hold⟩, -⟩) |
      ⟨⟨⟨hmem, hno⟩, -, hold⟩, -⟩) | ⟨⟨⟨hmem, hno⟩, -, hold⟩, -⟩)
    · exact ⟨hmem, hno, .inl hdata⟩
    · exact ⟨hmem, hno, .inr hold⟩
    · exact ⟨hmem, hno, .inr hold⟩
    · exact ⟨hmem, hno, .inr hold⟩
  · rintro ⟨hmem, hno, hwhy⟩
    by_cases hdata : r.desc.link = .data own.fd
    · exact .inl (.inl (.inl ⟨⟨hmem, hno⟩, hdata⟩))
    · -- The three lists are purged in turn, and the map is on one of them.
      have hold := hwhy.resolve_left hdata
      cases r.desc.list with
      | host => exact .inl (.inl (.inr ⟨⟨⟨hmem, hno⟩, hdata, hold⟩, rfl⟩))
      | device => exact .inl (.inr ⟨⟨⟨hmem, hno⟩, hdata, hold⟩, rfl⟩)
      | deviceQueue => exact .inr ⟨⟨⟨hmem, hno⟩, hdata, hold⟩, rfl⟩

/-- The maps that a close releases, in the order it does. -/
def Driver.closed (d : Driver) (own : Owner) : List Registered :=
  own.groups.flatMap (fun g => d.groupMaps own.fd g.groupId) ++ d.purged own

/-- The maps that a close releases, in terms of what it looks at. -/
theorem mem_closed :
    r ∈ d.closed own ↔ r ∈ d.regs ∧ ((∃ g ∈ own.groups, r.desc.link = .group own.fd g.groupId) ∨
      r.desc.link = .data own.fd ∨ (r.desc.owner = own.task ∧ r.desc.groupId = 0)) := by
  rw [Driver.closed, List.mem_append, List.mem_flatMap, mem_purged]
  constructor
  · rintro (⟨g, hg, hr⟩ | ⟨hr, -, hrest⟩)
    · exact ⟨(mem_groupMaps.mp hr).1, .inl ⟨g, hg, (mem_groupMaps.mp hr).2⟩⟩
    · exact ⟨hr, .inr hrest⟩
  · rintro ⟨hr, hgroup | hrest⟩
    · rcases hgroup with ⟨g, hg, hlink⟩
      exact .inl ⟨g, hg, mem_groupMaps.mpr ⟨hr, hlink⟩⟩
    · by_cases hgroup : ∃ g ∈ own.groups, r.desc.link = .group own.fd g.groupId
      · rcases hgroup with ⟨g, hg, hlink⟩
        exact .inl ⟨g, hg, mem_groupMaps.mpr ⟨hr, hlink⟩⟩
      · exact .inr ⟨hr, fun g hg hlink => hgroup ⟨g, hg, hlink⟩, hrest⟩

/-- Destroying a group releases its maps. -/
theorem run_onRegs_dropGroup (d : Driver) (c fd : Nat) (g : QGroup) (regs : List Registered) :
    run onRegs regs (d.dropEvents c fd g) = without (d.groupMaps fd g.groupId) regs := by
  rw [Driver.dropEvents, run_append, run_onRegs_sent (deleteEvents_isSent c _), run_onRegs_unmapped]

theorem run_onRegs_dropEvents (d : Driver) (c fd : Nat) (gs : List QGroup)
    (regs : List Registered) :
    run onRegs regs (gs.flatMap (d.dropEvents c fd)) =
      without (gs.flatMap (fun g => d.groupMaps fd g.groupId)) regs := by
  induction gs generalizing regs with
  | nil => exact (without_nil regs).symm
  | cons _ _ ih =>
    rw [List.flatMap_cons, run_append, ih, run_onRegs_dropGroup, List.flatMap_cons, without_append]

/-- A close releases the maps that `Driver.closed` lists. -/
theorem run_onRegs_closeEvents (d : Driver) (c : Nat) (own : Owner) (regs : List Registered) :
    run onRegs regs (d.closeEvents c own) = without (d.closed own) regs := by
  rw [Driver.closeEvents, run_append, run_onRegs_dropEvents, run_onRegs_unmapped, ← without_append,
    Driver.closed]

/-- What each move does to descriptors and groups, and to the maps. -/
theorem move_turnover (h : Move d req) :
    ∃ new gone us fresh, Renames d req new gone ∧ Turnover d req gone us fresh := by
  have hstep := step_regs d req
  have hsilent : d.events req = [] → Turnover d req [] [] none := fun hevents =>
    turnover_refl (by rw [hstep, hevents]; rfl)
  cases h with
  | idle hstill hevents =>
    exact ⟨_, _, _, _, renames_of_owners hstill.owners hstill.ida, hsilent hevents⟩
  | registered own m hstill hown hm hevents =>
    refine ⟨_, _, [], some ⟨d.next, req.ctrl, own.fd, m⟩,
      renames_of_owners hstill.owners hstill.ida, ?_, by simp,
      by simp, fun r hr => ?_⟩
    · rw [hstep, hevents, without_nil]
      rfl
    · rw [← Option.some.inj hr]
      refine ⟨rfl, rfl, hm.placed, fun f groupId hlink => ?_⟩
      -- The group is one of the open file's.
      have hplaced := hm.placed
      rw [MapDesc.Placed, hlink] at hplaced
      rcases hm.live f groupId hlink with ⟨g, hg, hid⟩
      rw [State.mem_groupKeys, hstill.owners]
      exact ⟨own, List.mem_of_find?_eq_some hown, hplaced.1.symm, g, hg, hid⟩
  | unmapped r hstill _ hr hevents =>
    refine ⟨_, _, [r], none, renames_of_owners hstill.owners hstill.ida,
      turnover_of_without ?_ (fun u hu => ?_) (by simp)⟩
    · rw [hstep, hevents]
      exact run_onRegs_unmapped [r] d.regs
    · rw [List.mem_singleton.mp hu]
      exact hr
  | restarted _ howners hida hevents =>
    exact ⟨_, _, _, _, renames_of_owners howners hida, turnover_refl (by rw [hstep, hevents]; rfl)⟩
  | opened _ howners _ hida hevents =>
    -- A new descriptor has no groups.
    refine ⟨[], _, _, _, ⟨?_, ?_, by simp, List.nodup_nil, fun k => by simp [hida]⟩, hsilent hevents⟩
    · rw [howners, List.map_append]
      exact List.Sublist.refl _
    · rw [State.groupKeys, State.groupKeys, howners]
      simp
  | grouped _ _ hown hfree hpos howners _ hida hevents =>
    exact ⟨_, _, _, _, renames_grouped hown hfree hpos howners hida,
      { hsilent hevents with gone := by simp }⟩
  | dropped own g hown hgroup howners _ hida hevents =>
    refine ⟨_, _, d.groupMaps own.fd g.groupId, none, renames_dropped hown hgroup howners hida,
      turnover_of_without ?_ (fun u hu => (mem_groupMaps.mp hu).1) (fun r hr key hkey hlink => ?_)⟩
    · rw [hstep, hevents, run_onRegs_dropGroup]
    · rw [List.mem_singleton.mp hkey] at hlink
      exact mem_groupMaps.mpr ⟨hr, hlink⟩
  | released own hown howners _ hida hevents =>
    refine ⟨_, _, d.closed own, none, renames_released hown howners hida,
      turnover_of_without ?_ (fun u hu => (mem_closed.mp hu).1) (fun r hr _ hkey hlink => ?_)⟩
    · rw [hstep, hevents, run_onRegs_closeEvents]
    · rcases List.mem_map.mp hkey with ⟨g, hg, rfl⟩
      exact List.mem_append_left _ (List.mem_flatMap.mpr ⟨g, hg, mem_groupMaps.mpr ⟨hr, hlink⟩⟩)
  | committed _ _ _ _ _ _ _ _ _ howners _ hida hevents =>
    exact ⟨_, _, _, _, renames_putGroup howners hida, turnover_of_sent hevents.isSent⟩
  | failed _ _ _ _ _ _ _ _ _ howners _ hida hevents =>
    rcases howners with howners | howners
    · exact ⟨_, _, _, _, renames_of_owners howners hida, turnover_of_sent hevents.isSent⟩
    · exact ⟨_, _, _, _, renames_putGroup howners hida, turnover_of_sent hevents.isSent⟩

/-! ### Names -/

/-- The descriptors of a controller. -/
def State.fds : List Nat := s.owners.map Owner.fd

/-- A descriptor belongs to one controller and is known once there; a group id is
    in use, not 0, and belongs to one group of all controllers. -/
structure Names (d : Driver) : Prop where
  fd_lt : ∀ c, ∀ fd ∈ (d.ctrls c).fds, fd < d.next
  fd_nodup : ∀ c, (d.ctrls c).fds.Nodup
  fd_ctrl : ∀ c c' fd, fd ∈ (d.ctrls c).fds → fd ∈ (d.ctrls c').fds → c = c'
  id_used : ∀ c, ∀ k ∈ (d.ctrls c).groupIds, k ∈ d.groupIda ∧ k ≠ 0
  id_nodup : ∀ c, (d.ctrls c).groupIds.Nodup
  id_ctrl : ∀ c c' k, k ∈ (d.ctrls c).groupIds → k ∈ (d.ctrls c').groupIds → c = c'

theorem names_init : Names Driver.init where
  fd_lt := nofun
  fd_nodup := fun _ => List.nodup_nil
  fd_ctrl := nofun
  id_used := nofun
  id_nodup := fun _ => List.nodup_nil
  id_ctrl := nofun

theorem step_ctrls_self (d : Driver) (req : Request) :
    (d.step req).ctrls req.ctrl = (d.result req).state := Function.update_self _ _ _

theorem step_ctrls_ne (d : Driver) {c : Nat} (h : c ≠ req.ctrl) :
    (d.step req).ctrls c = d.ctrls c := Function.update_of_ne h _ _

variable {d : Driver} {req : Request} {new gone : List (Nat × Nat)}

section

variable (h : Renames d req new gone)

include h

/-- A descriptor after a request was there before, on the same controller, or is
    new. -/
theorem Renames.fd_cases {c : Nat} (hfd : fd ∈ ((d.step req).ctrls c).fds) :
    fd ∈ (d.ctrls c).fds ∨ (c = req.ctrl ∧ fd = d.next) := by
  by_cases hc : c = req.ctrl
  · subst hc
    rw [step_ctrls_self] at hfd
    rcases List.mem_append.mp (h.fds.subset hfd) with hold | hnew
    · exact .inl hold
    · exact .inr ⟨rfl, List.mem_singleton.mp hnew⟩
  · rw [step_ctrls_ne d hc] at hfd
    exact .inl hfd

/-- The ids after a request, up to their order. -/
theorem Renames.ids : (gone.map Prod.snd ++ (d.result req).state.groupIds).Perm
      (new.map Prod.snd ++ (d.ctrls req.ctrl).groupIds) := by
  have hids := h.keys.map Prod.snd
  rwa [List.map_append, List.map_append] at hids

theorem Renames.new_free {k : Nat} (hk : k ∈ new.map Prod.snd) : k ∉ d.groupIda ∧ k ≠ 0 := by
  rcases List.mem_map.mp hk with ⟨key, hkey, rfl⟩
  exact h.free key hkey

/-- What was given up and what is left was there before or is new, each once. -/
theorem Renames.ids_nodup (hn : Names d) :
    (gone.map Prod.snd ++ (d.result req).state.groupIds).Nodup := by
  rw [h.ids.nodup_iff, List.nodup_append']
  exact ⟨h.once, hn.id_nodup _, fun k hk hold => (h.new_free hk).1 (hn.id_used _ k hold).1⟩

/-- A group id after a request was there before, on the same controller and in a
    group that is not given up, or is new. -/
theorem Renames.id_cases (hn : Names d) {c k : Nat} (hk : k ∈ ((d.step req).ctrls c).groupIds) :
    (k ∈ (d.ctrls c).groupIds ∧ k ∉ gone.map Prod.snd) ∨ (c = req.ctrl ∧ k ∈ new.map Prod.snd) := by
  by_cases hc : c = req.ctrl
  · subst hc
    rw [step_ctrls_self] at hk
    rcases List.mem_append.mp (h.ids.subset (List.mem_append_right _ hk)) with hnew | hold
    · exact .inr ⟨rfl, hnew⟩
    · exact .inl ⟨hold, fun hgone => (List.disjoint_of_nodup_append (h.ids_nodup hn)) hgone hk⟩
  · -- What is given up was the other controller's.
    rw [step_ctrls_ne d hc] at hk
    refine .inl ⟨hk, fun hgone => ?_⟩
    rcases List.mem_append.mp (h.ids.subset (List.mem_append_left _ hgone)) with hnew | hold
    · exact (h.new_free hnew).1 (hn.id_used c k hk).1
    · exact hc (hn.id_ctrl c req.ctrl k hk hold)

end

/-- Every request keeps names unambiguous. -/
theorem names_step (d : Driver) (req : Request) (hn : Names d) : Names (d.step req) := by
  rcases move_turnover (d.move req) with ⟨new, _, -, -, h, -⟩
  have hida : ∀ k, k ∈ (d.step req).groupIda ↔ _ := h.ida
  refine ⟨fun c fd hfd => ?_, fun c => ?_, fun c c' fd hfd hfd' => ?_, fun c k hk => ?_, fun c => ?_,
    fun c c' k hk hk' => ?_⟩
  · rcases h.fd_cases hfd with hold | ⟨-, rfl⟩
    · exact Nat.lt_succ_of_lt (hn.fd_lt c fd hold)
    · exact Nat.lt_succ_self _
  · by_cases hc : c = req.ctrl
    · subst hc
      rw [step_ctrls_self]
      refine h.fds.nodup (List.nodup_append'.mpr ⟨hn.fd_nodup _, List.nodup_singleton _, ?_⟩)
      intro fd hfd hnew
      -- The new descriptor is above all that were given.
      have hlt := hn.fd_lt _ fd hfd
      rw [List.mem_singleton.mp hnew] at hlt
      exact Nat.lt_irrefl _ hlt
    · rw [step_ctrls_ne d hc]
      exact hn.fd_nodup c
  · -- Two controllers cannot share a descriptor: one is old and the other new, or both are old.
    rcases h.fd_cases hfd with hold | ⟨rfl, rfl⟩
    · rcases h.fd_cases hfd' with hold' | ⟨rfl, rfl⟩
      · exact hn.fd_ctrl c c' fd hold hold'
      · exact absurd (hn.fd_lt c _ hold) (Nat.lt_irrefl _)
    · rcases h.fd_cases hfd' with hold' | ⟨rfl, -⟩
      · exact absurd (hn.fd_lt c' _ hold') (Nat.lt_irrefl _)
      · rfl
  · -- An id that is kept stays in use, since only ids of groups that go are given back.
    rcases h.id_cases hn hk with ⟨hold, hkept⟩ | ⟨-, hnew⟩
    · have hused := hn.id_used c k hold
      exact ⟨(hida k).mpr (.inl ⟨hused.1, hkept⟩), hused.2⟩
    · exact ⟨(hida k).mpr (.inr hnew), (h.new_free hnew).2⟩
  · by_cases hc : c = req.ctrl
    · subst hc
      rw [step_ctrls_self]
      exact (List.nodup_append'.mp (h.ids_nodup hn)).2.1
    · rw [step_ctrls_ne d hc]
      exact hn.id_nodup c
  · rcases h.id_cases hn hk with ⟨hold, -⟩ | ⟨rfl, hnew⟩
    · rcases h.id_cases hn hk' with ⟨hold', -⟩ | ⟨rfl, hnew⟩
      · exact hn.id_ctrl c c' k hold hold'
      · exact absurd (hn.id_used c k hold).1 (h.new_free hnew).1
    · rcases h.id_cases hn hk' with ⟨hold', -⟩ | ⟨rfl, -⟩
      · exact absurd (hn.id_used c' k hold').1 (h.new_free hnew).1
      · rfl

/-! ### Maps -/

/-- The maps are distinct, each is placed where its kind says, and a group that
    one is linked to is alive. -/
structure Regs (d : Driver) : Prop where
  id_lt : ∀ r ∈ d.regs, r.id < d.next
  id_nodup : (d.regs.map Registered.id).Nodup
  placed : ∀ r ∈ d.regs, r.desc.Placed r.fd
  live : ∀ r ∈ d.regs, ∀ f groupId, r.desc.link = .group f groupId →
    (f, groupId) ∈ (d.ctrls r.ctrl).groupKeys

theorem regs_init : Regs Driver.init where
  id_lt := nofun
  id_nodup := List.nodup_nil
  placed := nofun
  live := nofun

/-- A map with the identity of another is that one. -/
theorem Regs.eq_of_id (hr : Regs d) {u : Registered} (h : r ∈ d.regs) (hu : u ∈ d.regs)
    (hid : r.id = u.id) : r = u := List.inj_on_of_nodup_map hr.id_nodup h hu hid

/-- Releasing maps by their identity releases these and no others. -/
theorem Regs.without_eq (hr : Regs d) (hheld : ∀ u ∈ us, u ∈ d.regs) :
    without us d.regs = d.regs.filter (fun r => r ∉ us) := by
  refine List.filter_congr fun r hmem => ?_
  rw [Bool.eq_iff_iff, List.all_eq_true, decide_eq_true_eq]
  constructor
  · exact fun hne hus => of_decide_eq_true (hne r hus) rfl
  · -- A map with the identity of one that goes is that one.
    intro hkept u hu
    refine decide_eq_true fun hid => hkept ?_
    rw [hr.eq_of_id hmem (hheld u hu) hid]
    exact hu

/-- A map after a request was there before and is not released, or is new. -/
theorem Turnover.mem_cases {fresh : Option Registered} (h : Turnover d req gone us fresh)
    (hr : r ∈ (d.step req).regs) : (r ∈ d.regs ∧ r ∉ us) ∨ r ∈ fresh := by
  rw [h.regs] at hr
  rcases List.mem_append.mp hr with hold | hnew
  · rw [mem_without] at hold
    exact .inl ⟨hold.1, fun hus => hold.2 r hus rfl⟩
  · exact .inr (Option.mem_toList.mp hnew)

/-- Every request keeps the maps in order. -/
theorem regs_step (d : Driver) (req : Request) (hr : Regs d) : Regs (d.step req) := by
  rcases move_turnover (d.move req) with ⟨new, _, _, fresh, hnames, h⟩
  refine ⟨fun r hmem => ?_, ?_, fun r hmem => ?_, fun r hmem f groupId hlink => ?_⟩
  · rcases h.mem_cases hmem with ⟨hold, -⟩ | hnew
    · exact Nat.lt_succ_of_lt (hr.id_lt r hold)
    · rw [(h.fresh r hnew).1]
      exact Nat.lt_succ_self _
  · rw [h.regs, List.map_append, List.nodup_append']
    refine ⟨(List.filter_sublist.map _).nodup hr.id_nodup, ?_, fun k hk hnew => ?_⟩
    · cases fresh with
      | none => exact List.nodup_nil
      | some => exact List.nodup_singleton _
    · -- The new map's identity was not given to any other.
      rcases List.mem_map.mp hk with ⟨r, hr', rfl⟩
      rcases List.mem_map.mp hnew with ⟨u, hu, hid⟩
      have hlt := hr.id_lt r (mem_without.mp hr').1
      rw [← hid, (h.fresh u (Option.mem_toList.mp hu)).1] at hlt
      exact Nat.lt_irrefl _ hlt
  · rcases h.mem_cases hmem with ⟨hold, -⟩ | hnew
    · exact hr.placed r hold
    · exact (h.fresh r hnew).2.2.1
  · rcases h.mem_cases hmem with ⟨hold, hkept⟩ | hnew
    · have hlive := hr.live r hold f groupId hlink
      by_cases hc : r.ctrl = req.ctrl
      · rw [hc] at hlive ⊢
        rw [step_ctrls_self]
        -- A group that is given up takes its maps along.
        rcases List.mem_append.mp (hnames.keys.symm.subset (List.mem_append_right _ hlive)) with
          hgone | hleft
        · exact absurd (h.gone r hold _ hgone hlink) hkept
        · exact hleft
      · rw [step_ctrls_ne d hc]
        exact hlive
    · rcases h.fresh r hnew with ⟨-, hc, -, hlive⟩
      rw [hc, step_ctrls_self]
      exact hlive f groupId hlink

/-- Names and maps are in order in every run. -/
theorem registry_run (reqs : List Request) (hn : Names d) (hr : Regs d) :
    Names (run Driver.step d reqs) ∧ Regs (run Driver.step d reqs) :=
  run_invariant (P := fun _ _ => True) (I := fun d => Names d ∧ Regs d)
    (fun d req h _ => ⟨names_step d req h.1, regs_step d req h.2⟩) ⟨hn, hr⟩
    (along_of_forall fun _ _ _ => trivial)

/-- However the requests of all processes are mixed: no file descriptor and no group is at
    two controllers, no id has two holders, and no map outlives the group it is linked to. -/
theorem registry_in_order (reqs : List Request) :
    Names (run Driver.step Driver.init reqs) ∧ Regs (run Driver.step Driver.init reqs) :=
  registry_run reqs names_init regs_init

end Geminifs.Snvme
