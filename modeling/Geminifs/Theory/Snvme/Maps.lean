import Geminifs.Theory.Snvme.Registry

/-!
# Kinds of Maps and Their Owners

A map is a ring of a group, data of a file descriptor, or of the old protocol,
and the three are kept apart in every run: rings are linked to a live group of
the descriptor they were registered through, data maps never are, and the
commands that make queues name rings of the right kind only.

Closing a descriptor is another matter. It releases its groups and its data maps,
and then everything without a group that its task has registered, through
whichever descriptor and on whichever controller. `close_releases_iff` says when
that is exactly what was registered through the descriptor.

## Main definitions

* `KindsSeparate`: What holds of the groups and maps of a state.
* `KindsRespected`: What holds of the maps that a request gives to the controller
  and releases.
* `OwnsAlone`: A descriptor's task and its maps go together.

## Theorems

* `sent_cases`: What the commands of a request are.
* `map_kinds_separate`: Kinds are kept apart in every run.
* `close_releases_iff`: When closing a descriptor releases what is its own.
* `close_releases_sibling`: A close that releases another descriptor's data.
-/

namespace Geminifs.Snvme

open Runs

variable {c : Nat} {d : Driver} {cmd : AdminCmd} {ring : Option Registered} {ok : Bool}

/-- The commands that a destruction sends are deletions. -/
def AdminCmd.deletes : AdminCmd → Bool
  | .deleteSq _ => true
  | .deleteCq _ => true
  | _ => false

/-- The first address of the ring that a command names. -/
def AdminCmd.prp1 : AdminCmd → Option Nat
  | .createCq _ prp1 _ => some prp1
  | .createSq _ prp1 _ => some prp1
  | _ => none

theorem deletePair_deletes {ks : List Nat} (h : cmd ∈ ks.flatMap deletePair) :
    cmd.deletes = true := by
  rcases List.mem_flatMap.mp h with ⟨q, -, hcmd⟩
  rcases List.mem_cons.mp hcmd with rfl | hcmd
  · rfl
  · rw [List.mem_singleton.mp hcmd]
    rfl

variable {c' : Nat} {own : Owner}

theorem mem_deleteEvents {cmds : List AdminCmd} (h : .sent c' cmd ring ok ∈ deleteEvents c cmds) :
    cmd ∈ cmds := by
  rcases List.mem_map.mp h with ⟨x, hx, heq⟩
  rw [← (Event.sent.inj heq).2.1]
  exact hx

/-- A command that makes a queue for a pair of the batch, with that pair's ring. -/
def Makes (items : List Item) (cmd : AdminCmd) (ring : Option Registered) : Prop :=
  ∃ x ∈ items, ∃ size, (cmd = .createCq x.1 x.2.2.desc.addr size ∧ ring = some x.2.2) ∨
      (cmd = .createSq x.1 x.2.1.desc.addr size ∧ ring = some x.2.1)

theorem makes_of_made {size : Nat} {items made : List Item} (hsub : ∀ x ∈ made, x ∈ items)
    (h : .sent c' cmd ring ok ∈ made.flatMap (madeEvents c size)) : Makes items cmd ring := by
  rcases List.mem_flatMap.mp h with ⟨x, hx, hev⟩
  rcases List.mem_cons.mp hev with heq | hev
  · rcases Event.sent.inj heq with ⟨-, rfl, rfl, -⟩
    exact ⟨x, hsub x hx, size, .inl ⟨rfl, rfl⟩⟩
  · rcases Event.sent.inj (List.mem_singleton.mp hev) with ⟨-, rfl, rfl, -⟩
    exact ⟨x, hsub x hx, size, .inr ⟨rfl, rfl⟩⟩

/-- The commands of a batch make queues of its pairs or delete queues. -/
theorem Sending.cases {size : Nat} {items : List Item} {made : Bool} {es : List Event}
    (h : Sending c size items made es) (he : .sent c' cmd ring ok ∈ es) :
    Makes items cmd ring ∨ cmd.deletes = true := by
  cases h with
  | committed => exact .inl (makes_of_made (fun x hx => hx) he)
  | failed made rest stop back hitems hstop =>
    rcases List.mem_append.mp he with he | he
    · rcases List.mem_append.mp he with he | he
      · refine .inl (makes_of_made (fun x hx => ?_) he)
        rw [hitems]
        exact List.mem_append_left _ hx
      · -- The pair that stopped the loop is one of the batch as well.
        cases hstop with
        | complete => cases he
        | cq x =>
          rcases Event.sent.inj (List.mem_singleton.mp he) with ⟨-, rfl, rfl, -⟩
          exact .inl ⟨x, by rw [hitems]; simp, size, .inl ⟨rfl, rfl⟩⟩
        | sq x =>
          have hx : x ∈ items := by rw [hitems]; simp
          simp only [List.mem_cons, List.not_mem_nil, or_false] at he
          rcases he with he | he | he
          · rcases Event.sent.inj he with ⟨-, rfl, rfl, -⟩
            exact .inl ⟨x, hx, size, .inl ⟨rfl, rfl⟩⟩
          · rcases Event.sent.inj he with ⟨-, rfl, rfl, -⟩
            exact .inl ⟨x, hx, size, .inr ⟨rfl, rfl⟩⟩
          · rcases Event.sent.inj he with ⟨-, rfl, -, -⟩
            exact .inr rfl
    · exact .inr (deletePair_deletes (mem_deleteEvents he))

theorem mem_dropEvents {fd : Nat} {g : QGroup} {e : Event} (h : e ∈ d.dropEvents c fd g) :
    (∃ cmd, e = .sent c cmd none true ∧ cmd.deletes = true) ∨
      ∃ r ∈ d.groupMaps fd g.groupId, e = .unmapped r := by
  rcases List.mem_append.mp h with h | h
  · rcases List.mem_map.mp h with ⟨cmd, hcmd, rfl⟩
    rw [destroyQgroup_eq] at hcmd
    refine .inl ⟨cmd, rfl, ?_⟩
    split at hcmd
    · exact deletePair_deletes hcmd
    · cases hcmd
  · rcases List.mem_map.mp h with ⟨r, hr, rfl⟩
    exact .inr ⟨r, hr, rfl⟩

/-- The events of a close: deletions, and the maps it releases. -/
theorem mem_closeEvents {e : Event} : e ∈ d.closeEvents c own →
      (∃ cmd, e = .sent c cmd none true ∧ cmd.deletes = true) ∨
        ∃ r ∈ d.closed own, e = .unmapped r := by
  intro h
  rcases List.mem_append.mp h with h | h
  · rcases List.mem_flatMap.mp h with ⟨g, hg, h⟩
    rcases mem_dropEvents h with hcmd | ⟨r, hr, rfl⟩
    · exact .inl hcmd
    · exact .inr ⟨r, List.mem_append_left _ (List.mem_flatMap.mpr ⟨g, hg, hr⟩), rfl⟩
  · rcases List.mem_map.mp h with ⟨r, hr, rfl⟩
    exact .inr ⟨r, List.mem_append_right _ hr, rfl⟩

/-- A command of a request makes a queue of a batch, from a ring of its group
    that fits, or deletes a queue. -/
theorem sent_cases {req : Request} (he : .sent c cmd ring ok ∈ d.events req) :
    (∃ own g pairs ndev p p' qids items, Batch d req.ctrl own g pairs ndev p p' qids items ∧
      Makes items cmd ring) ∨ cmd.deletes = true := by
  have hnot : ∀ {es : List Event}, d.events req = es → .sent c cmd ring ok ∈ es := fun h => by
    rw [← h]
    exact he
  -- Commands come from batches, and from groups that are destroyed.
  cases d.move req with
  | idle hstill hevents | opened task howners hndev hida hevents
  | grouped _ _ _ _ _ _ _ _ hevents =>
    exact absurd (hnot hevents) List.not_mem_nil
  | registered own m hstill hown hm hevents | unmapped r hstill hreq hr hevents
  | restarted _ _ _ hevents =>
    exact absurd (hnot hevents) (by simp)
  | dropped _ _ _ _ _ _ _ hevents =>
    rcases mem_dropEvents (hnot hevents) with ⟨x, heq, hx⟩ | ⟨r, -, heq⟩
    · rw [(Event.sent.inj heq).2.1]
      exact .inr hx
    · cases heq
  | released _ _ _ _ _ hevents =>
    rcases mem_closeEvents (hnot hevents) with ⟨x, heq, hx⟩ | ⟨r, -, heq⟩
    · rw [(Event.sent.inj heq).2.1]
      exact .inr hx
    · cases heq
  | committed own g pairs ndev p p' qids items h howners hndev hida hevents
  | failed own g pairs ndev p p' qids items h _ _ _ hevents =>
    exact (hevents.cases he).imp_left fun hm => ⟨own, g, pairs, ndev, p, p', qids, items, h, hm⟩

/-! ### Kinds -/

/-- The id of every group is not 0 and is that of no other group of any
    descriptor or controller; a ring is linked to one live group, of the
    descriptor it was registered through; and a data map is linked to none. -/
structure KindsSeparate (d : Driver) : Prop where
  nonzero : ∀ c, 0 ∉ (d.ctrls c).groupIds
  distinct : ∀ c, (d.ctrls c).groupIds.Nodup
  apart : ∀ c c', c ≠ c' → ∀ k ∈ (d.ctrls c).groupIds, k ∉ (d.ctrls c').groupIds
  ring : ∀ r ∈ d.regs, r.desc.kind = .ringSq ∨ r.desc.kind = .ringCq →
    ∃ o ∈ (d.ctrls r.ctrl).owners, o.fd = r.fd ∧ ∃ g ∈ o.groups,
      r.desc.link = .group o.fd g.groupId ∧
      ∀ c, ∀ o' ∈ (d.ctrls c).owners, ∀ g' ∈ o'.groups,
        r.desc.link = .group o'.fd g'.groupId → c = r.ctrl ∧ o' = o ∧ g' = g
  data : ∀ r ∈ d.regs, r.desc.kind = .data → ∀ fd groupId, r.desc.link ≠ .group fd groupId

/-- The maps whose first addresses a request gives to the controller are
    registered and of the right kind, and a destruction of a group releases no
    data map. -/
structure KindsRespected (d : Driver) (req : Request) : Prop where
  cq : ∀ c qid prp1 size ring ok, .sent c (.createCq qid prp1 size) ring ok ∈ d.events req →
    ∃ r ∈ d.regs, ring = some r ∧ r.desc.addr = prp1 ∧ r.desc.kind ≠ .data ∧ r.desc.kind ≠ .ringSq
  sq : ∀ c qid prp1 size ring ok, .sent c (.createSq qid prp1 size) ring ok ∈ d.events req →
    ∃ r ∈ d.regs, ring = some r ∧ r.desc.addr = prp1 ∧ r.desc.kind ≠ .data ∧ r.desc.kind ≠ .ringCq
  destroy : ∀ c fd task groupId ok, req = .ioctl c fd task (.destroyQueueGroup groupId ok) →
    ∀ r, .unmapped r ∈ d.events req → r.desc.kind ≠ .data

/-- The controller and the descriptor of a group are known by its id. -/
theorem Names.unique (hn : Names d) {o o' : Owner} {g g' : QGroup} (ho : o ∈ (d.ctrls c).owners)
    (hg : g ∈ o.groups) (ho' : o' ∈ (d.ctrls c').owners) (hg' : g' ∈ o'.groups)
    (hid : g.groupId = g'.groupId) : c = c' ∧ o = o' ∧ g = g' := by
  have hkey : (o.fd, g.groupId) ∈ (d.ctrls c).groupKeys :=
    State.mem_groupKeys.mpr ⟨o, ho, rfl, g, hg, rfl⟩
  have hkey' : (o'.fd, g'.groupId) ∈ (d.ctrls c').groupKeys :=
    State.mem_groupKeys.mpr ⟨o', ho', rfl, g', hg', rfl⟩
  have hc : c = c' := by
    refine hn.id_ctrl c c' g.groupId (List.mem_map_of_mem hkey) ?_
    rw [hid]
    exact List.mem_map_of_mem hkey'
  subst hc
  -- One key for the id, one descriptor for the key, and one group in it.
  have hsame := List.inj_on_of_nodup_map (hn.id_nodup c) hkey hkey' hid
  have hoo : o = o' :=
    List.inj_on_of_nodup_map (hn.fd_nodup c) ho ho' (congrArg Prod.fst hsame)
  subst hoo
  have hids := hn.id_nodup c
  rw [State.groupIds, State.groupKeys, List.map_flatMap, List.nodup_flatMap] at hids
  have hgroups := hids.1 o ho
  rw [List.map_map] at hgroups
  exact ⟨rfl, rfl, List.inj_on_of_nodup_map hgroups hg hg' hid⟩

theorem kindsSeparate (hn : Names d) (hr : Regs d) : KindsSeparate d := by
  refine ⟨fun c h => (hn.id_used c 0 h).2 rfl, hn.id_nodup,
    fun c c' hne k hk hk' => hne (hn.id_ctrl c c' k hk hk'), fun r hmem hkind => ?_,
    fun r hmem hkind _ groupId hlink => ?_⟩
  · have hplaced := hr.placed r hmem
    rw [MapDesc.Placed] at hplaced
    split at hplaced
    · -- A map of the old protocol has no kind.
      rw [hplaced.2] at hkind
      exact absurd hkind (by simp)
    next f groupId hlink =>
      rcases State.mem_groupKeys.mp (hr.live r hmem f groupId hlink) with ⟨o, ho, hfd, g, hg, hid⟩
      refine ⟨o, ho, hfd.trans hplaced.1, g, hg, ?_, fun c _ ho' g' hg' hlink' => ?_⟩
      · rw [hlink]
        exact congrArg₂ _ hfd.symm hid.symm
      · -- The group is known by its id, and with it the descriptor and the controller.
        rw [hlink] at hlink'
        have hids : g'.groupId = g.groupId := ((MapLink.group.inj hlink').2).symm.trans hid.symm
        exact hn.unique ho' hg' ho hg hids
    · rw [hplaced.2.2] at hkind
      exact absurd hkind (by simp)
  · have hplaced := hr.placed r hmem
    rw [MapDesc.Placed, hlink] at hplaced
    exact hplaced.2.2.2 hkind

theorem kindsRespected (hr : Regs d) (req : Request) : KindsRespected d req := by
  refine ⟨fun c qid prp1 size ring ok he => ?_, fun c qid prp1 size ring ok he => ?_,
    fun c fd task groupId ok hreq r he => ?_⟩
  · rcases sent_cases he with ⟨own, g, pairs, ndev, p, p', qids, items, hb, x, hx, n, hmake⟩ | hdel
    · rcases hmake with ⟨hcmd, hring⟩ | ⟨hcmd, -⟩
      · rcases hb.cq x hx with ⟨hmem, hkind⟩
        refine ⟨x.2.2, (mem_groupMaps.mp hmem).1, hring, ((AdminCmd.createCq.inj hcmd).2.1).symm, ?_⟩
        rcases hkind with hkind | hkind <;> rw [hkind] <;> exact ⟨by simp, by simp⟩
      · cases hcmd
    · exact absurd hdel Bool.false_ne_true
  · rcases sent_cases he with ⟨own, g, pairs, ndev, p, p', qids, items, hb, x, hx, n, hmake⟩ | hdel
    · rcases hmake with ⟨hcmd, -⟩ | ⟨hcmd, hring⟩
      · cases hcmd
      · rcases hb.sq x hx with ⟨hmem, hkind⟩
        refine ⟨x.2.1, (mem_groupMaps.mp hmem).1, hring, ((AdminCmd.createSq.inj hcmd).2.1).symm, ?_⟩
        rcases hkind with hkind | hkind <;> rw [hkind] <;> exact ⟨by simp, by simp⟩
    · exact absurd hdel Bool.false_ne_true
  · -- What a destruction releases is linked to the group.
    subst hreq
    rw [Driver.events] at he
    split at he
    next own hown =>
      rw [Driver.callEvents] at he
      split at he
      next g hg =>
        split at he
        · rcases mem_dropEvents he with ⟨cmd, heq, -⟩ | ⟨u, hu, heq⟩
          · cases heq
          · rcases Event.unmapped.inj heq with rfl
            have hplaced := hr.placed r (mem_groupMaps.mp hu).1
            rw [MapDesc.Placed, (mem_groupMaps.mp hu).2] at hplaced
            exact hplaced.2.2.2
        · cases he
      · cases he
    · cases he

/-- In every run, with any tasks, descriptors and controllers, any requests and
    any failures, kinds are kept apart, and every request that follows respects
    them. -/
theorem map_kinds_separate (reqs : List Request) :
    KindsSeparate (run Driver.step Driver.init reqs) ∧
      ∀ req, KindsRespected (run Driver.step Driver.init reqs) req := by
  have hrun := registry_run reqs names_init regs_init
  exact ⟨kindsSeparate hrun.1 hrun.2, kindsRespected hrun.2⟩

/-! ### Closing a descriptor -/

/-- What is registered without a group goes with the task that opened the
    descriptor: the descriptor's maps of the old protocol were all made by that
    task, and what other descriptors registered outside a group by others. -/
def OwnsAlone (d : Driver) (own : Owner) : Prop :=
  (∀ r ∈ d.regs, r.fd = own.fd → r.desc.link = .none → r.desc.owner = own.task) ∧
    ∀ r ∈ d.regs, r.fd ≠ own.fd → r.desc.groupId = 0 → r.desc.owner ≠ own.task

instance (d : Driver) (own : Owner) : Decidable (OwnsAlone d own) :=
  inferInstanceAs (Decidable (_ ∧ _))

/-- The maps that the events of a close release. -/
theorem unmapped_mem_close (hown : (d.ctrls c).findOwner own.fd = some own) (r : Registered) :
    .unmapped r ∈ d.events (.devRelease c own.fd) ↔ r ∈ d.closed own := by
  have hevents : d.events (.devRelease c own.fd) = d.closeEvents c own := by
    rw [Driver.events, hown]
  rw [hevents]
  constructor
  · intro he
    rcases mem_closeEvents he with ⟨_, heq, -⟩ | ⟨u, hu, heq⟩
    · cases heq
    · rw [Event.unmapped.inj heq]
      exact hu
  · intro hr
    -- The maps of the groups go with the groups, the others at the end.
    rcases List.mem_append.mp hr with hr | hr
    · rcases List.mem_flatMap.mp hr with ⟨g, hg, hr⟩
      refine List.mem_append_left _ (List.mem_flatMap.mpr ⟨g, hg, ?_⟩)
      exact List.mem_append_right _ (List.mem_map_of_mem hr)
    · exact List.mem_append_right _ (List.mem_map_of_mem hr)

/-- What a close releases of one map, by its link: a ring of the descriptor and
    nothing else linked to a group, and otherwise its own data maps and all that
    its task made. -/
theorem closed_iff (hn : Names d) (hr : Regs d) (hown : (d.ctrls c).findOwner own.fd = some own)
    {r : Registered} (hmem : r ∈ d.regs) :
    r ∈ d.closed own ↔ match r.desc.link with
      | .none => r.desc.owner = own.task
      | .group _ _ => r.fd = own.fd
      | .data _ => r.fd = own.fd ∨ r.desc.owner = own.task := by
  have hplaced := hr.placed r hmem
  rw [mem_closed]
  cases hlink : r.desc.link with
  | none =>
    rw [MapDesc.Placed, hlink] at hplaced
    simp [hmem, hplaced.1]
  | data =>
    rw [MapDesc.Placed, hlink] at hplaced
    simp [hmem, hplaced.1, hplaced.2.1]
  | group f groupId =>
    rw [MapDesc.Placed, hlink] at hplaced
    rcases hplaced with ⟨hfd, hid, hpos, -⟩
    simp only [hmem, true_and, reduceCtorEq, hid, hpos, and_false, or_false, MapLink.group.injEq]
    constructor
    · rintro ⟨g, -, heq, -⟩
      rw [← hfd, heq]
    · intro heq
      -- The group is alive, and it is this descriptor's.
      rcases State.mem_groupKeys.mp (hr.live r hmem f groupId hlink) with ⟨o, ho, hof, g, hg, hgid⟩
      have hmine := List.mem_of_find?_eq_some hown
      have hsame : o.fd = own.fd := hof.trans (hfd.trans heq)
      have hc : r.ctrl = c := by
        refine hn.fd_ctrl r.ctrl c own.fd ?_ (List.mem_map_of_mem hmine)
        rw [← hsame]
        exact List.mem_map_of_mem ho
      rw [hc] at ho
      have hoo : o = own := List.inj_on_of_nodup_map (hn.fd_nodup c) ho hmine hsame
      rw [hoo] at hg
      exact ⟨g, hg, hfd.trans heq, hgid.symm⟩

/-- In any state that a run reaches, closing an open descriptor releases exactly
    the maps registered through it if and only if what is registered without a
    group goes with its task. -/
theorem close_releases_iff (reqs : List Request) (c : Nat) (own : Owner)
    (hown : ((run Driver.step Driver.init reqs).ctrls c).findOwner own.fd = some own) :
    (∀ r ∈ (run Driver.step Driver.init reqs).regs,
      .unmapped r ∈ (run Driver.step Driver.init reqs).events (.devRelease c own.fd) ↔
        r.fd = own.fd) ↔
      OwnsAlone (run Driver.step Driver.init reqs) own := by
  have hrun := registry_run reqs names_init regs_init
  generalize run Driver.step Driver.init reqs = d at hown hrun ⊢
  have hone : ∀ r ∈ d.regs, (.unmapped r ∈ d.events (.devRelease c own.fd) ↔ _) :=
    fun r hr => (unmapped_mem_close hown r).trans (closed_iff hrun.1 hrun.2 hown hr)
  constructor
  · -- A map that stays or goes against its descriptor is one of two sorts.
    intro h
    refine ⟨fun r hr hfd hlink => ?_, fun r hr hfd hgroup howner => ?_⟩
    · have hgoes := (hone r hr).mp ((h r hr).mpr hfd)
      rwa [hlink] at hgoes
    · refine hfd ((h r hr).mp ((hone r hr).mpr ?_))
      have hplaced := hrun.2.placed r hr
      cases hlink : r.desc.link with
      | none => exact howner
      | data => exact .inr howner
      | group =>
        rw [MapDesc.Placed, hlink] at hplaced
        exact absurd (hplaced.2.1.symm.trans hgroup) hplaced.2.2.1
  · intro h r hr
    rw [hone r hr]
    have hplaced := hrun.2.placed r hr
    cases hlink : r.desc.link with
    | none =>
      rw [MapDesc.Placed, hlink] at hplaced
      exact ⟨fun howner => by_contra fun hfd => h.2 r hr hfd hplaced.1 howner,
        fun hfd => h.1 r hr hfd hlink⟩
    | group => exact Iff.rfl
    | data =>
      rw [MapDesc.Placed, hlink] at hplaced
      exact ⟨fun hor => hor.elim id fun howner =>
        by_contra fun hfd => h.2 r hr hfd hplaced.2.1 howner, .inl⟩

/-- Two tasks open the device file, as descriptors 1 and 2, and a task registers
    a page of data through the first. -/
def dataOfFirst (task₁ task₂ : Nat) : List Request :=
  [.devOpen 0 task₁ true, .devOpen 0 task₂ true,
    .ioctl 0 1 task₁ (.mapHost ⟨4096, 0, some .data, -1, -1, []⟩ ⟨true, .ok 40960, true⟩)]

/-- With two tasks, closing the second descriptor leaves the first's data. -/
theorem close_releases_iff_twoTasks :
    (run Driver.step Driver.init (dataOfFirst 10 11)).regs.length = 1 ∧
      ∀ r ∈ (run Driver.step Driver.init (dataOfFirst 10 11)).regs,
        .unmapped r ∈ (run Driver.step Driver.init (dataOfFirst 10 11)).events (.devRelease 0 2) ↔
          r.fd = 2 :=
  ⟨by decide, (close_releases_iff (dataOfFirst 10 11) 0 ⟨2, 11, [], 0⟩ rfl).mpr (by decide)⟩

/-- If both descriptors are one task's, closing the second releases the data that
    was registered through the first. -/
theorem close_releases_sibling :
    ∃ r ∈ (run Driver.step Driver.init (dataOfFirst 10 10)).regs, r.fd = 1 ∧
      .unmapped r ∈ (run Driver.step Driver.init (dataOfFirst 10 10)).events (.devRelease 0 2) := by
  decide

end Geminifs.Snvme
