import Geminifs.Core.Snvme.MapCounts
import Geminifs.Theory.Snvme.Registry

/-!
# A Failed Registration

An ioctl that registers memory puts the new map on its list before it knows that
it will succeed. What follows can fail in four ways, and each of them has a
rollback of its own. Here the registration is taken apart into linking and taking
back, and the rollback is shown to undo exactly what was done, with one
exception: the counter of a descriptor's data maps is lowered behind a guard, and
when it had wrapped around to 0 the guard leaves it there. The counter of a group
is lowered without one.

With that, `mapMemory`, which leaves the state as it was whenever it fails, is
what the ioctls do to everything but the counters.

## Main definitions

* `State.Fits`: The counters of the old protocol are 32-bit.
* `Attached`: A map that was linked and counted.
* `WrapsData`: The registration that fails after the counter wrapped around.

## Theorems

* `Attached.rollback`: What a rollback leaves.
* `maps_refine`: The ioctls do what the functions of `Core.Snvme.Maps` do.
* `map_failure_iff`: When a failed registration leaves no trace.
* `data_count_reached`: Any value of the counter can be reached.
-/

namespace Geminifs.Snvme

open Runs Function

variable {t : Tables} {req : MapReq} {route : Routing}

/-- The counters of the old protocol are 32-bit. -/
def State.Fits (s : State) : Prop := s.ioqMapNum < 4294967296 ∧ s.cqNum < 4294967296

theorem dec32_inc {n : Nat} (h : n < 4294967296) : dec32 (u32 (n + 1)) = n := by
  unfold dec32 u32
  omega

/-! ### Counters -/

variable {fd : Nat} {own : Owner} (counts : MapCounts) (link : MapLink) (next : Nat)

theorem MapCounts.dec_inc : (counts.inc link).dec link = counts := by
  simp [MapCounts.inc, MapCounts.dec]

/-- The guard keeps a counter that wrapped around at 0. -/
theorem MapCounts.guardedDec_inc : (counts.inc link).guardedDec link =
      if counts link = 4294967295 then counts.inc link else counts := by
  have hzero : 0 < (counts.inc link) link ↔ counts link ≠ 4294967295 := by
    rw [MapCounts.inc, update_self, UInt32.lt_iff_toNat_lt, ne_eq, ← UInt32.toNat_inj]
    have hlt := (counts link).toNat_lt
    simp only [UInt32.toNat_add, UInt32.reduceToNat]
    omega
  rw [MapCounts.guardedDec]
  split
  next hpos => rw [MapCounts.dec_inc, if_neg (hzero.mp hpos)]
  next hnot => rw [if_pos (not_not.mp fun h => hnot (hzero.mpr h))]

/-! ### The newest map -/

@[simp] theorem Tables.unmapAndRelease_listInsert (t : Tables) (m : MapDesc) :
    (t.listInsert m).unmapAndRelease = t := by
  simp [Tables.listInsert, Tables.unmapAndRelease]

@[simp] theorem Tables.setNewest_listInsert (t : Tables) (m m' : MapDesc) :
    (t.listInsert m).setNewest m' = t.listInsert m' := by
  simp [Tables.listInsert, Tables.setNewest]

/-- A new map that was linked and counted. -/
inductive Attached (t : Tables) (fd : Nat) (req : MapReq) (m : MapDesc) : Routing → Tables → Prop where
  | data (own : Owner) (hown : t.state.findOwner fd = some own) : Attached t fd req m .data
        { t.listInsert { m with link := .data fd } with counts := t.counts.inc (.data fd) }
  | group (own : Owner) (g : QGroup) (hown : t.state.findOwner fd = some own)
      (hgroup : own.findQgroup req.groupId = some g) :
      Attached t fd req m .group
        { t.listInsert { m with groupId := req.groupId, link := .group fd req.groupId } with
          counts := t.counts.inc (.group fd req.groupId) }
  | ring (hroom : ¬ t.state.ioqNum < u32 (t.state.ioqMapNum + 1)) : Attached t fd req m .ring
        (Tables.listInsert { t with state := t.state.countRing req.isCq }
          { m with ioqIdx := req.ioqIdx, isCq := req.isCq })
  | plain : Attached t fd req m .plain (t.listInsert m)

variable {m : MapDesc}

theorem attach_attached {t' : Tables} (h : (t.listInsert m).attach fd req m route = .ok t') :
    Attached t fd req m route t' := by
  have hfind : (t.listInsert m).state.findOwner fd = t.state.findOwner fd := rfl
  cases route with
  | data =>
    rw [Tables.attach, hfind, Tables.setNewest_listInsert] at h
    cases hown : t.state.findOwner fd with
    | none => simp [hown] at h
    | some own =>
      rw [hown] at h
      rw [← Except.ok.inj h]
      exact .data own hown
  | group =>
    rw [Tables.attach, hfind, Tables.setNewest_listInsert] at h
    cases hown : t.state.findOwner fd with
    | none => simp [hown] at h
    | some own =>
      rw [hown] at h
      cases hgroup : own.findQgroup req.groupId with
      | none => simp [hgroup] at h
      | some g =>
        simp only [hgroup] at h
        rw [← Except.ok.inj h]
        exact .group own g hown hgroup
  | ring =>
    rw [Tables.attach, Tables.setNewest_listInsert] at h
    split_ifs at h with hroom
    rw [← Except.ok.inj h]
    exact .ring hroom
  | plain =>
    rw [← Except.ok.inj h]
    exact .plain

/-- What a rollback leaves: everything as it was, up to the guard. -/
theorem Attached.rollback {t' : Tables} (h : Attached t fd req m route t') (hfits : t.state.Fits) :
    (t'.rollback fd req route).unmapAndRelease =
      if route = .data then { t with counts := (t.counts.inc (.data fd)).guardedDec (.data fd) }
      else t := by
  have hmap := dec32_inc hfits.1
  have hcq := dec32_inc hfits.2
  cases h with
  | data _ hown =>
    rw [State.findOwner] at hown
    simp [Tables.rollback, State.findOwner, Tables.listInsert, hown, Tables.unmapAndRelease]
  | group _ _ hown hgroup =>
    rw [State.findOwner] at hown
    simp [Tables.rollback, State.findOwner, Tables.listInsert, hown, hgroup,
      Tables.unmapAndRelease, MapCounts.dec_inc]
  | ring =>
    by_cases hreq : req.isCq = 0
    · simp [Tables.rollback, Tables.listInsert, Tables.unmapAndRelease, State.countRing, hreq, hmap]
    · simp [Tables.rollback, Tables.listInsert, Tables.unmapAndRelease, State.countRing, hreq, hmap,
        hcq]
  | plain => exact Tables.unmapAndRelease_listInsert t m

/-! ### Failures -/

/-- The request passes every check, and its memory is pinned. -/
structure Admits (req : MapReq) (env : MapEnv) (kind : MapKind) (addr : Nat) : Prop where
  copyIn : env.copyIn = true
  reserved : req.reserved.any (· ≠ 0) = false
  known : req.mapKind = some kind
  ring : ¬ ((kind = .ringSq ∨ kind = .ringCq) ∧ req.groupId = 0)
  pin : env.pin = .ok addr

/-- The new map of such a request. -/
def newMap (list : MapList) (page task : Nat) (req : MapReq) (kind : MapKind) (addr : Nat) :
    MapDesc :=
  { createDescriptor list page task req.vaddrStart addr with kind := kind }

section Registering

variable (list : MapList) (page : Nat) (rings : Bool) (t : Tables) (fd task : Nat) (req : MapReq)
  (env : MapEnv)

/-- A registration is refused before it changes anything, as in `mapMemory`, or
    comes as far as a new map. -/
theorem Tables.mapMemory_cases : (∃ rc, t.mapMemory list page rings fd task req env = (t, rc) ∧
      Snvme.mapMemory list page rings t.state fd task req env = (t.state, rc) ∧
      ∀ kind addr, ¬ Admits req env kind addr) ∨
    ∃ kind addr, Admits req env kind addr ∧ t.mapMemory list page rings fd task req env =
        t.register fd req (newMap list page task req kind addr) (req.routing rings kind)
          env.copyOut := by
  rw [Tables.mapMemory, Snvme.mapMemory]
  by_cases hin : env.copyIn = true
  · rw [if_neg (not_not.mpr hin), if_neg (not_not.mpr hin)]
    by_cases hres : req.reserved.any (· ≠ 0) = true
    · rw [if_pos hres, if_pos hres]
      exact .inl ⟨_, rfl, rfl, fun kind addr h => by
        rw [h.reserved] at hres
        exact Bool.false_ne_true hres⟩
    · rw [if_neg hres, if_neg hres]
      cases hkind : req.mapKind with
      | none =>
        refine .inl ⟨_, rfl, rfl, fun kind addr h => ?_⟩
        exact absurd (hkind.symm.trans h.known) (by simp)
      | some kind =>
        dsimp only
        by_cases hring : (kind = .ringSq ∨ kind = .ringCq) ∧ req.groupId = 0
        · rw [if_pos hring, if_pos hring]
          refine .inl ⟨_, rfl, rfl, fun kind' addr h => h.ring ?_⟩
          rw [Option.some.inj (h.known.symm.trans hkind)]
          exact hring
        · rw [if_neg hring, if_neg hring]
          cases hpin : env.pin with
          | error =>
            refine .inl ⟨_, rfl, rfl, fun _ addr h => ?_⟩
            exact absurd (hpin.symm.trans h.pin) (by simp)
          | ok addr =>
            exact .inr ⟨kind, addr, ⟨hin, Bool.eq_false_iff.mpr hres, hkind, hring, hpin⟩, rfl⟩
  · rw [if_pos hin, if_pos hin]
    exact .inl ⟨_, rfl, rfl, fun _ _ h => hin h.copyIn⟩

end Registering

/-- A data map that is counted, with which the counter wraps around, and whose
    addresses cannot be copied out. -/
structure WrapsData (t : Tables) (fd : Nat) (req : MapReq) (env : MapEnv) : Prop where
  admits : ∃ addr, Admits req env .data addr
  owner : (t.state.findOwner fd).isSome = true
  copyOut : env.copyOut = false
  count : t.counts (.data fd) = 4294967295

theorem MapCounts.inc_ne : counts.inc link ≠ counts := by
  intro h
  have hlink := congrFun h link
  rw [MapCounts.inc, update_self, ← UInt32.toNat_inj, UInt32.toNat_add] at hlink
  simp only [UInt32.reduceToNat] at hlink
  omega

/-- What is left when a new map is taken back. -/
theorem register_failed (hfits : t.state.Fits) {copyOut : Bool}
    (hfail : (t.register fd req m route copyOut).2 ≠ 0) :
    (t.register fd req m route copyOut).1 = t ↔
      ¬ (route = .data ∧ (t.state.findOwner fd).isSome = true ∧ copyOut = false ∧
        t.counts (.data fd) = 4294967295) := by
  rw [Tables.register] at hfail ⊢
  cases hattach : (t.listInsert m).attach fd req m route with
  | error =>
    -- The map was not linked, so nothing was counted.
    refine iff_of_true (Tables.unmapAndRelease_listInsert t m) ?_
    rintro ⟨rfl, howner, -⟩
    rcases Option.isSome_iff_exists.mp howner with ⟨own, hown⟩
    have hfind : (t.listInsert m).state.findOwner fd = some own := hown
    simp [Tables.attach, hfind] at hattach
  | ok =>
    have hback := (attach_attached hattach).rollback hfits
    rw [hattach] at hfail
    cases copyOut with
    | true => exact absurd rfl hfail
    | false =>
      dsimp only
      rw [hback]
      by_cases hdata : route = .data
      · subst hdata
        cases attach_attached hattach with
        | data _ hown =>
          rw [MapCounts.guardedDec_inc, hown]
          by_cases hcount : t.counts (.data fd) = 4294967295
          · rw [if_pos hcount]
            refine iff_of_false (fun h => ?_) (not_not.mpr ⟨rfl, rfl, rfl, hcount⟩)
            exact t.counts.inc_ne (.data fd) (congrArg Tables.counts h)
          · rw [if_neg hcount]
            exact iff_of_true rfl fun h => hcount h.2.2.2
      · rw [if_neg hdata]
        exact iff_of_true rfl fun h => hdata h.1

theorem routing_data {rings : Bool} {kind : MapKind} :
    req.routing rings kind = .data ↔ kind = .data := by
  rw [MapReq.routing]
  repeat' split
  all_goals simp_all

/-- What a failed registration leaves. -/
theorem mapMemory_failed (list : MapList) (page : Nat) (rings : Bool) (hfits : t.state.Fits)
    (fd task : Nat) (req : MapReq) (env : MapEnv)
    (hfail : (t.mapMemory list page rings fd task req env).2 ≠ 0) :
    (t.mapMemory list page rings fd task req env).1 = t ↔ ¬ WrapsData t fd req env := by
  rcases t.mapMemory_cases list page rings fd task req env with
    ⟨_, heq, -, hno⟩ | ⟨_, addr, hadmits, heq⟩
  · rw [heq]
    refine iff_of_true rfl fun hw => ?_
    rcases hw.admits with ⟨addr, h⟩
    exact hno _ _ h
  · rw [heq] at hfail ⊢
    rw [register_failed hfits hfail, routing_data]
    refine not_congr ⟨?_, fun hw => ?_⟩
    · rintro ⟨rfl, howner, hout, hcount⟩
      exact ⟨⟨addr, hadmits⟩, howner, hout, hcount⟩
    · rcases hw.admits with ⟨_, h⟩
      exact ⟨Option.some.inj (hadmits.known.symm.trans h.known), hw.owner, hw.copyOut, hw.count⟩

/-- A queue in device memory is refused before anything changes, as in
    `nvmMapDeviceQueueMemory`, or comes as far as a new map. -/
theorem Tables.mapDeviceQueueMemory_cases (t : Tables) (fd task : Nat) (req : MapReq)
    (env : MapEnv) :
    (∃ rc, t.mapDeviceQueueMemory fd task req env = (t, rc) ∧
      nvmMapDeviceQueueMemory t.state task req env = (t.state, rc)) ∨
    ∃ addr, env.copyIn = true ∧ 0 ≤ req.ioqIdx ∧ env.pin = .ok addr ∧
      t.mapDeviceQueueMemory fd task req env =
        t.register fd req (createDescriptor .deviceQueue gpuPageSize task req.vaddrStart addr)
          .ring env.copyOut := by
  rw [Tables.mapDeviceQueueMemory, nvmMapDeviceQueueMemory]
  by_cases hin : env.copyIn = true
  · rw [if_neg (not_not.mpr hin), if_neg (not_not.mpr hin)]
    by_cases hidx : req.ioqIdx < 0
    · rw [if_pos hidx, if_pos hidx]
      exact .inl ⟨_, rfl, rfl⟩
    · rw [if_neg hidx, if_neg hidx]
      cases hpin : env.pin with
      | error => exact .inl ⟨_, rfl, rfl⟩
      | ok addr => exact .inr ⟨addr, hin, Int.not_lt.mp hidx, rfl, rfl⟩
  · rw [if_pos hin, if_pos hin]
    exact .inl ⟨_, rfl, rfl⟩

/-- A failed registration leaves the maps, all lists and all counters as they
    were, unless it is of a data map whose descriptor's counter wrapped around
    with it. -/
theorem map_failure_iff (t : Tables) (hfits : t.state.Fits) (call : MapCall) (fd task : Nat)
    (req : MapReq) (env : MapEnv) (hfail : (t.mapCall call fd task req env).2 ≠ 0) :
    (t.mapCall call fd task req env).1 = t ↔ ¬ (call ≠ .deviceQueue ∧ WrapsData t fd req env) := by
  cases call with
  | host =>
    rw [not_and_or, or_iff_right (by simp)]
    exact mapMemory_failed .host pageSize true hfits fd task req env hfail
  | device =>
    rw [not_and_or, or_iff_right (by simp)]
    exact mapMemory_failed .device gpuPageSize false hfits fd task req env hfail
  | deviceQueue =>
    refine iff_of_true ?_ fun h => h.1 rfl
    rcases t.mapDeviceQueueMemory_cases fd task req env with ⟨_, heq, -⟩ | ⟨_, -, -, -, heq⟩
    · rw [Tables.mapCall, heq]
    · rw [Tables.mapCall, heq] at hfail ⊢
      exact (register_failed hfits hfail).mpr fun h => absurd h.1 (by simp)

/-! ### Everything but the counters -/

/-- The registration of a new map as `Core.Snvme.Maps` has it. -/
def State.registerAs (s : State) (own : Owner) (req : MapReq) (env : MapEnv) (m : MapDesc) :
    Routing → State × Int
  | .data => s.finishMap s { m with link := .data own.fd } env
  | .group =>
    match own.findQgroup req.groupId with
    | none => (s, enoent)
    | some _ =>
      s.finishMap s { m with groupId := req.groupId, link := .group own.fd req.groupId } env
  | .ring =>
    if s.ioqNum < u32 (s.ioqMapNum + 1) then (s, efault)
    else s.finishMap (s.countRing req.isCq) { m with ioqIdx := req.ioqIdx, isCq := req.isCq } env
  | .plain => s.finishMap s m env

/-- What the registration of a new map does to all but the counters. -/
theorem register_state (hfits : t.state.Fits) (hown : t.state.findOwner own.fd = some own)
    (req : MapReq) (m : MapDesc) (route : Routing) (env : MapEnv) :
    ((t.register own.fd req m route env.copyOut).1.state,
      (t.register own.fd req m route env.copyOut).2) = t.state.registerAs own req env m route := by
  have hfind : (t.listInsert m).state.findOwner own.fd = some own := hown
  rw [Tables.register]
  cases hattach : (t.listInsert m).attach own.fd req m route with
  | error =>
    rw [Tables.unmapAndRelease_listInsert]
    cases route with
    | data => simp [Tables.attach, hfind] at hattach
    | plain => simp [Tables.attach] at hattach
    | group =>
      cases hgroup : own.findQgroup req.groupId with
      | none =>
        simp only [Tables.attach, hfind, hgroup] at hattach
        simp [State.registerAs, hgroup, ← Except.error.inj hattach]
      | some => simp [Tables.attach, hfind, hgroup] at hattach
    | ring =>
      rw [Tables.attach] at hattach
      split at hattach
      next hfull =>
        have hfull : t.state.ioqNum < u32 (t.state.ioqMapNum + 1) := hfull
        rw [State.registerAs, if_pos hfull, ← Except.error.inj hattach]
      · cases hattach
  | ok t' =>
    -- Whatever was linked, taking it back leaves the state as it was.
    have hback : (t'.rollback own.fd req route).unmapAndRelease.state = t.state := by
      rw [(attach_attached hattach).rollback hfits]
      split <;> rfl
    have hdone : t.state.registerAs own req env m route =
        if env.copyOut then (t'.state, 0) else (t.state, efault) := by
      cases attach_attached hattach with
      | group own' g hown' hgroup =>
        rw [Option.some.inj (hown'.symm.trans hown)] at hgroup
        rw [State.registerAs, hgroup]
        rfl
      | ring hroom => exact if_neg hroom
      | _ => rfl
    rw [hdone]
    cases env.copyOut with
    | false => exact congrArg (·, efault) hback
    | true => rfl

/-- `NVM_MAP_HOST_MEMORY` and `NVM_MAP_DEVICE_MEMORY` of an open file do what
    `mapMemory` does. -/
theorem mapMemory_refines (list : MapList) (page : Nat) (rings : Bool) (hfits : t.state.Fits)
    (hown : t.state.findOwner own.fd = some own) (task : Nat) (req : MapReq) (env : MapEnv) :
    ((t.mapMemory list page rings own.fd task req env).1.state,
      (t.mapMemory list page rings own.fd task req env).2) =
      Snvme.mapMemory list page rings t.state own.fd task req env := by
  rcases t.mapMemory_cases list page rings own.fd task req env with
    ⟨rc, heq, hcoarse, -⟩ | ⟨kind, addr, hadmits, heq⟩
  · rw [heq, hcoarse]
  · have hres : ¬ req.reserved.any (· ≠ 0) = true := Bool.eq_false_iff.mp hadmits.reserved
    rw [heq, register_state hfits hown]
    conv_rhs =>
      rw [Snvme.mapMemory, if_neg (not_not.mpr hadmits.copyIn), if_neg hres, hadmits.known]
      dsimp only
      rw [if_neg hadmits.ring, hadmits.pin]
      rw [hown]
      dsimp only
    -- The routing asks the questions of the ioctl in the same order.
    rw [MapReq.routing]
    split_ifs with _ _ _ hfull
    · rfl
    · rfl
    · exact if_pos hfull
    · exact if_neg hfull
    · rfl

theorem mapDeviceQueueMemory_refines (hfits : t.state.Fits)
    (hown : t.state.findOwner own.fd = some own) (task : Nat) (req : MapReq) (env : MapEnv) :
    ((t.mapDeviceQueueMemory own.fd task req env).1.state,
      (t.mapDeviceQueueMemory own.fd task req env).2) =
      nvmMapDeviceQueueMemory t.state task req env := by
  rcases t.mapDeviceQueueMemory_cases own.fd task req env with
    ⟨_, heq, hcoarse⟩ | ⟨_, hin, hidx, hpin, heq⟩
  · rw [heq, hcoarse]
  · rw [heq, register_state hfits hown, nvmMapDeviceQueueMemory, if_neg (not_not.mpr hin),
      if_neg (Int.not_lt.mpr hidx), hpin]
    rfl

/-- With every write that they make and take back, the three ioctls leave the state that
    the functions of `Core.Snvme.Maps` leave, and return what they return. -/
theorem maps_refine (hfits : t.state.Fits) (hown : t.state.findOwner own.fd = some own)
    (task : Nat) (req : MapReq) (env : MapEnv) :
    Prod.map Tables.state id (t.mapHostMemory own.fd task req env) =
        nvmMapHostMemory t.state own.fd task req env ∧
      Prod.map Tables.state id (t.mapDeviceMemory own.fd task req env) =
        nvmMapDeviceMemory t.state own.fd task req env ∧
      Prod.map Tables.state id (t.mapDeviceQueueMemory own.fd task req env) =
        nvmMapDeviceQueueMemory t.state task req env :=
  ⟨mapMemory_refines .host pageSize true hfits hown task req env,
    mapMemory_refines .device gpuPageSize false hfits hown task req env,
    mapDeviceQueueMemory_refines hfits hown task req env⟩

/-- Data at one address, and whether its bus addresses can be copied out. -/
def mapData (copyOut : Bool) : MapReq × MapEnv :=
  (⟨4096, 0, some .data, -1, 0, []⟩, ⟨true, .ok 7, copyOut⟩)

/-- Data of an open file, whose addresses cannot be copied out. -/
theorem maps_refine_data :
    let t : Tables := ⟨{ State.init with owners := [⟨1, 10, [], 0⟩] }, fun _ => 0⟩
    let call := mapData false
    t.state.Fits ∧ Prod.map Tables.state id (t.mapHostMemory 1 10 call.1 call.2) =
      nvmMapHostMemory t.state 1 10 call.1 call.2 := by
  intro t _
  have hfits : t.state.Fits := ⟨by decide, by decide⟩
  exact ⟨hfits, (@maps_refine t ⟨1, 10, [], 0⟩ hfits rfl 10 _ _).1⟩

/-- A descriptor with data, which asks for a group that it does not have. -/
theorem map_failure_iff_noGroup : let s : State := { State.init with owners := [⟨1, 10, [], 0⟩] }
    let t : Tables := ⟨s, fun _ => 0⟩
    let req : MapReq := ⟨8192, 3, some .ringSq, -1, 0, []⟩
    s.Fits ∧ (t.mapCall .host 1 10 req ⟨true, .ok 7, true⟩).2 = enoent ∧
      ((t.mapCall .host 1 10 req ⟨true, .ok 7, true⟩).1 = t ↔
        ¬ (MapCall.host ≠ .deviceQueue ∧ WrapsData t 1 req ⟨true, .ok 7, true⟩)) := by
  have hfits : State.Fits { State.init with owners := [⟨1, 10, [], 0⟩] } := ⟨by decide, by decide⟩
  exact ⟨hfits, rfl, map_failure_iff _ hfits .host 1 10 _ _ (by decide)⟩

/-! ### Any count -/

/-- Two descriptors of one task, nothing registered, and a count of data maps at
    the first one. -/
def miscounted (next : Nat) (count : UInt32) : Ledger where
  driver :=
    { ctrls := update (fun _ => State.init) 0
        { State.init with owners := [⟨1, 10, [], 0⟩, ⟨2, 10, [], 0⟩] }
      regs := []
      groupIda := []
      next := next }
  counts := update (fun _ => 0) (.data 1) count

/-- Data that is registered through the first descriptor and released through the
    second. -/
def crossRound : List Request :=
  [.ioctl 0 1 10 (.mapHost (mapData true).1 (mapData true).2), .ioctl 0 2 10 (.unmapHost 4096 true)]

theorem Ledger.ext {l l' : Ledger} (hctrls : l.driver.ctrls = l'.driver.ctrls)
    (hregs : l.driver.regs = l'.driver.regs) (hida : l.driver.groupIda = l'.driver.groupIda)
    (hnext : l.driver.next = l'.driver.next) (hcounts : l.counts = l'.counts) : l = l' := by
  rcases l with ⟨⟨_, _, _, _⟩, _⟩
  simp_all

/-- The first descriptor's counter is one too high after each round. -/
theorem miscounted_round (count : UInt32) :
    run Ledger.step (miscounted next count) crossRound = miscounted (next + 2) (count + 1) := by
  refine Ledger.ext ?_ ?_ rfl rfl ?_
  · funext c
    by_cases h : c = 0
    · subst h
      rfl
    · simp [run, crossRound, Ledger.step, Driver.step, miscounted, Request.ctrl, h]
  · have hregs : (run Ledger.step (miscounted next count) crossRound).driver.regs =
        [(⟨next, 0, 1, { newMap .host pageSize 10 (mapData true).1 .data 7 with link := .data 1 }⟩ :
          Registered)].filter (fun x => x.id ≠ next) := rfl
    rw [hregs]
    simp [miscounted]
  · -- The second descriptor's counter is 0, and the guard leaves it there.
    have hcounts : (run Ledger.step (miscounted next count) crossRound).counts =
        ((miscounted next count).counts.inc (.data 1)).guardedDec (.data 2) := rfl
    rw [hcounts]
    simp [MapCounts.guardedDec, MapCounts.inc, miscounted]

theorem miscounted_run (n next : Nat) :
    run Ledger.step (miscounted next 0) (List.replicate n crossRound).flatten =
      miscounted (next + 2 * n) (UInt32.ofNat n) := by
  induction n with
  | zero => rfl
  | succ _ ih =>
    rw [List.replicate_succ', List.flatten_append, run_append, ih, List.flatten_singleton,
      miscounted_round, UInt32.ofNat_add]
    rfl

theorem miscounted_opened :
    run Ledger.step Ledger.init [.devOpen 0 10 true, .devOpen 0 10 true] = miscounted 3 0 := by
  refine Ledger.ext ?_ rfl rfl rfl ?_
  · funext c
    by_cases h : c = 0
    · subst h
      rfl
    · simp [run, Ledger.step, Ledger.init, Driver.init, Driver.step, miscounted, Request.ctrl, h]
  · simp [run, Ledger.step, Ledger.init, Driver.countsAfter, MapCounts.clear, miscounted]

/-- So any count can be reached, with nothing registered. -/
theorem data_count_reached (n : Nat) :
    ∃ reqs next, run Ledger.step Ledger.init reqs = miscounted next (UInt32.ofNat n) := by
  refine ⟨[.devOpen 0 10 true, .devOpen 0 10 true] ++ (List.replicate n crossRound).flatten,
    3 + 2 * n, ?_⟩
  rw [run_append, miscounted_opened, miscounted_run]

/-- A data map that cannot be copied out, whatever the count. -/
theorem miscounted_failed (count : UInt32) :
    let t : Tables := ⟨(miscounted next count).driver.view 0, (miscounted next count).counts⟩
    let r := t.mapCall .host 1 10 (mapData false).1 (mapData false).2
    r.2 = efault ∧ r.1.counts = (t.counts.inc (.data 1)).guardedDec (.data 1) := ⟨rfl, rfl⟩

/-- A failed registration of data takes the counter from its largest value to 0. -/
theorem failed_map_clears_count : ∃ reqs, let l := run Ledger.step Ledger.init reqs
    let t : Tables := ⟨l.driver.view 0, l.counts⟩
    let r := t.mapCall .host 1 10 (mapData false).1 (mapData false).2
    r.2 = efault ∧ t.counts (.data 1) = 4294967295 ∧ r.1.counts (.data 1) = 0 := by
  rcases data_count_reached 4294967295 with ⟨reqs, next, hrun⟩
  refine ⟨reqs, ?_⟩
  rw [hrun]
  have hfailed := miscounted_failed next (UInt32.ofNat 4294967295)
  have hcount : (miscounted next (UInt32.ofNat 4294967295)).counts (.data 1) = 4294967295 := rfl
  refine ⟨hfailed.1, hcount, ?_⟩
  rw [hfailed.2, MapCounts.guardedDec_inc]
  show (miscounted next (UInt32.ofNat 4294967295)).counts (.data 1) + 1 = 0
  rw [hcount]
  decide

end Geminifs.Snvme
