import Geminifs.Library.Runs
import Geminifs.Theory.NvmeService.Setup

/-!
# Leases

Someone who watches the service writes down what it is asked and what it answers: the
leases that it grants, when their clients were last heard of, and which of them have
ended. The table of the service says the same as this book, in any run.

A step of the service is given by what it answers and what is in the table afterwards, id
by id; the invariant is that the table has what is in force by the book. Times are in
order because the clock is steady. The reaper looks at the clock before it takes the lock,
so nothing is said about when that is.

## Main definitions

* `Call`, `Reply`: What is asked of the service, and what it answers.
* `Lease`, `Book`: What is written down.
* `World`: The service, the book and the clock.
* `Granted`: What a lease says when it is granted.
* `Call.Ends`: How a lease ends.

## Theorems

* `connect_spec`, `disconnect_spec`, `updateHeartbeat_spec`, `mem_toReap_iff`: The calls.
* `kept_step`: The table and the book agree after each call.
* `ended_iff`: A lease ends by its client or by the reaper.
* `leases_exact`: All of it, over a run.
-/

namespace Geminifs.NvmeService

open LinkTree Runs Function

/-! ### What the calls do -/

namespace ServiceState

/-- The keys of the table are the ids of the leases. -/
def Keyed (s : ServiceState) : Prop :=
  ∀ id a, s.allocations.lookup id = some a → a.allocationId = id

theorem toInt32_le (n : Nat) : toInt32 n ≤ n := by
  have hmod : (n : Int) % (2 ^ 32 : Nat) ≤ n := by
    exact_mod_cast Nat.mod_le n (2 ^ 32)
  have hbmod : (n : Int).bmod (2 ^ 32) ≤ (n : Int) % (2 ^ 32 : Nat) := by
    unfold Int.bmod
    simp only
    split
    · exact Int.le_refl _
    · exact Int.sub_le_self _ (by norm_num)
  exact Int.le_trans hbmod hmod

variable (s : ServiceState) (now : Nat)

/-- What is asked for is within the limits and the device is there, or nothing happens. -/
theorem connect_spec (deviceId cudaDevice numQueues : Int) (clientPid : Nat) (env : ConnectEnv) :
    (∃ e, s.connect deviceId cudaDevice numQueues clientPid env = (s, .error e)) ∨
    ∃ dev queues, 0 ≤ deviceId ∧ s.devices[deviceId.toNat]? = some dev ∧
      cudaDevice ∈ dev.allowedGpus ∧ 1 ≤ queues ∧ queues ≤ s.cfg.queuePool.maxPerClient ∧
      (dev.maxQueuesPerGroup ≠ 0 → queues ≤ dev.maxQueuesPerGroup) ∧
      ∃ a : Allocation, a = ⟨generateAllocationId env.hi env.lo, deviceId, cudaDevice, queues,
        clientPid, (readStarttimeImpl env.stat).getD 0, env.now⟩ ∧
      s.connect deviceId cudaDevice numQueues clientPid env =
        (s.emplace a, .ok (s.grantOf dev a)) := by
  rw [connect]
  split
  · exact .inl ⟨_, rfl⟩
  rename_i hrange
  split
  · exact .inl ⟨_, rfl⟩
  rename_i dev hdev
  split
  · exact .inl ⟨_, rfl⟩
  rename_i hgpu
  simp only
  split
  · exact .inl ⟨_, rfl⟩
  rename_i hpos
  -- The number of queues is within all the limits that there are.
  have hcast := toInt32_le dev.maxQueuesPerGroup
  refine .inr ⟨dev, _, by omega, hdev, not_not.mp hgpu, by omega, ?_, fun _ => ?_, _, rfl, rfl⟩
  · unfold wantedQueues
    simp only
    omega
  · unfold wantedQueues
    simp only
    omega

/-- A lease is given back by whoever has its id and the pid that is recorded. -/
theorem disconnect_spec (id : Bytes) (pid : Nat) :
    (∃ a s', s.allocations.lookup id = some a ∧ a.clientPid = pid ∧
      s.disconnect id pid = (s', .ok ()) ∧ s'.cfg = s.cfg ∧ s'.devices = s.devices ∧
      ∀ i, s'.allocations.lookup i = if i = id then none else s.allocations.lookup i) ∨
    ((∀ a, s.allocations.lookup id = some a → a.clientPid ≠ pid) ∧
      ∃ e, s.disconnect id pid = (s, .error e)) := by
  rw [disconnect]
  split
  next hnone => exact .inr ⟨fun a ha => absurd (hnone.symm.trans ha) (by simp), _, rfl⟩
  rename_i a ha
  split
  next hpid =>
    refine .inr ⟨fun b hb => ?_, _, rfl⟩
    rw [ha, Option.some.injEq] at hb
    exact hb ▸ hpid
  next hpid => exact .inl ⟨a, _, ha, not_not.mp hpid, rfl, rfl, rfl, fun i => lookup_erase_apply⟩

theorem updateHeartbeat_spec (id : Bytes) (now : Nat) :
    (∃ a s', s.allocations.lookup id = some a ∧ s.updateHeartbeat id now = (s', .ok ()) ∧
      s'.cfg = s.cfg ∧ s'.devices = s.devices ∧
      ∀ i, s'.allocations.lookup i =
        if i = id then some { a with lastHeartbeat := now } else s.allocations.lookup i) ∨
    (s.allocations.lookup id = none ∧ ∃ e, s.updateHeartbeat id now = (s, .error e)) := by
  rw [updateHeartbeat]
  split
  next hnone => exact .inr ⟨hnone, _, rfl⟩
  next a ha => exact .inl ⟨a, _, ha, rfl, rfl, rfl, fun i => lookup_insert_apply⟩

/-- The reaper drops what is both silent and dead by what is seen of its client. -/
theorem mem_toReap_iff {s : ServiceState} (hs : s.Keyed) (now : Nat) (probe : Bytes → Probe)
    (id : Bytes) :
    id ∈ s.toReap now probe ↔ ∃ a, s.allocations.lookup id = some a ∧ s.expired now a = true ∧
      isPidDead (probe id) a.clientPidStarttime = true := by
  have hentry : ∀ i a, s.allocations.lookup i = some a ↔ ⟨i, a⟩ ∈ s.allocations.entries :=
    fun i a => List.mem_dlookup_iff s.allocations.nodupKeys
  rw [toReap, List.mem_filterMap]
  constructor
  · rintro ⟨⟨i, a⟩, hmem, hif⟩
    have ha := (hentry i a).mpr hmem
    split at hif
    next hcond =>
      rw [Option.some.injEq] at hif
      rw [Bool.and_eq_true] at hcond
      have hi : i = id := (hs i a ha).symm.trans hif
      rw [hif] at hcond
      exact ⟨a, hi ▸ ha, hcond⟩
    · cases hif
  · rintro ⟨a, ha, hexpired, hdead⟩
    refine ⟨⟨id, a⟩, (hentry id a).mp ha, ?_⟩
    have hid := hs id a ha
    simp only [hid, hexpired, hdead, Bool.and_self, if_true]

/-- Erasing ids one by one erases all of them. -/
theorem lookup_foldl_erase (ids : List Bytes) (m : AList fun _ : Bytes => Allocation) (id : Bytes) :
    (ids.foldl (fun m id => m.erase id) m).lookup id = if id ∈ ids then none else m.lookup id := by
  induction ids generalizing m with
  | nil => simp
  | cons i ids ih =>
    rw [List.foldl_cons, ih (m.erase i)]
    by_cases hmem : id ∈ ids
    · rw [if_pos hmem, if_pos (List.mem_cons_of_mem i hmem)]
    by_cases hid : id = i
    · rw [if_neg hmem, if_pos (hid ▸ List.mem_cons_self), hid, AList.lookup_erase]
    · rw [if_neg hmem, if_neg (by simp [hid, hmem]), AList.lookup_erase_ne hid]

theorem expired_iff (a : Allocation) :
    s.expired now a = true ↔ a.lastHeartbeat + s.cfg.lease.timeoutSec * 10 ^ 9 < now := by
  simp only [expired, decide_eq_true_eq]
  omega

end ServiceState

/-! ### The book -/

/-- What the service is asked, and the rounds of its reaper. -/
inductive Call where
  | connect (deviceId cudaDevice numQueues : Int) (clientPid : Nat) (env : ConnectEnv)
  | disconnect (id : Bytes) (clientPid : Nat)
  | heartbeat (id : Bytes) (now : Nat)
  | reap (now : Nat) (probe : Bytes → Probe)

/-- What it answers, and the leases that the reaper says that it drops. -/
inductive Reply where
  | connect (r : Except Bytes ConnectGrant)
  | disconnect (r : Except Bytes Unit)
  | heartbeat (r : Except Bytes Unit)
  | reap (ids : List Bytes)

def Call.perform (s : ServiceState) : Call → ServiceState × Reply
  | .connect deviceId cudaDevice numQueues clientPid env =>
    (s.connect deviceId cudaDevice numQueues clientPid env).map id .connect
  | .disconnect allocationId clientPid =>
    (s.disconnect allocationId clientPid).map id .disconnect
  | .heartbeat allocationId now => (s.updateHeartbeat allocationId now).map id .heartbeat
  | .reap now probe => (s.reap now probe).map id .reap

/-- A lease: what was asked for and granted, what was seen of the client at that time,
    when it was heard of, the latest time first, and whether it has ended. -/
structure Lease where
  deviceId : Int
  cudaDevice : Int
  grantedQueues : Int
  clientPid : Nat
  stat : Option Bytes
  seen : List Nat
  ended : Bool

/-- The leases by their ids. -/
abbrev Book := Bytes → Option Lease

/-- A call and its answer are written down. -/
def Book.note (b : Book) : Call → Reply → Book
  | .connect deviceId cudaDevice _ clientPid env, .connect (.ok grant) =>
    update b grant.allocationId
      (some ⟨deviceId, cudaDevice, grant.grantedQueues, clientPid, env.stat, [env.now], false⟩)
  | .disconnect allocationId _, .disconnect (.ok ()) =>
    update b allocationId ((b allocationId).map ({ · with ended := true }))
  | .heartbeat allocationId now, .heartbeat (.ok ()) =>
    update b allocationId ((b allocationId).map fun l => { l with seen := now :: l.seen })
  | .reap _ _, .reap ids =>
    fun id => if id ∈ ids then (b id).map ({ · with ended := true }) else b id
  | _, _ => b

/-- What the table has for a lease, while it is in force. -/
def Lease.inForce (id : Bytes) (l : Lease) : Option Allocation :=
  if l.ended then none
  else some ⟨id, l.deviceId, l.cudaDevice, l.grantedQueues, l.clientPid,
    (readStarttimeImpl l.stat).getD 0, l.seen.headD 0⟩

structure World where
  service : ServiceState
  book : Book
  clock : Nat

namespace World

/-- A service that nobody has connected to. -/
def start (s : ServiceState) : World := ⟨s, fun _ => none, 0⟩

/-- The time at which a lease is granted or renewed. -/
def stamp : Call → Option Nat
  | .connect _ _ _ _ env => some env.now
  | .heartbeat _ now => some now
  | _ => none

def step (w : World) (call : Call) : World :=
  ⟨(call.perform w.service).1, w.book.note call (call.perform w.service).2,
    (stamp call).getD w.clock⟩

/-- The clock is steady, and the id that is drawn has not been drawn before. -/
def Fair (w : World) : Call → Prop
  | .connect _ _ _ _ env => w.clock ≤ env.now ∧ w.book (generateAllocationId env.hi env.lo) = none
  | .heartbeat _ now => w.clock ≤ now
  | .disconnect _ _ | .reap _ _ => True

instance (w : World) : (call : Call) → Decidable (w.Fair call)
  | .connect _ _ _ _ _ => inferInstanceAs (Decidable (_ ∧ _))
  | .heartbeat _ _ => inferInstanceAs (Decidable (_ ≤ _))
  | .disconnect _ _ | .reap _ _ => inferInstanceAs (Decidable True)

end World

/-- A lease is for a device and a GPU that may use it, and within the limits of the
    service and of the device. -/
def Granted (cfg : ServiceConfig) (env : InitEnv) (l : Lease) : Prop :=
  0 ≤ l.deviceId ∧ ∃ nvme ctrl, cfg.nvmes[l.deviceId.toNat]? = some nvme ∧
    env.controller nvme = .ok ctrl ∧ l.cudaDevice ∈ allowList cfg nvme ∧
    1 ≤ l.grantedQueues ∧ l.grantedQueues ≤ cfg.queuePool.maxPerClient ∧
    (ctrl.maxQueuesPerGroup ≠ 0 → l.grantedQueues ≤ ctrl.maxQueuesPerGroup)

/-- How a lease ends: it is given back with the pid of its client, or the reaper comes
    more than the timeout after every time that the client was heard of, and the client
    looks dead. -/
def Call.Ends (cfg : ServiceConfig) (id : Bytes) (l : Lease) : Call → Prop
  | .disconnect allocationId clientPid => allocationId = id ∧ clientPid = l.clientPid
  | .reap now probe =>
    (∀ t ∈ l.seen, t + cfg.lease.timeoutSec * 10 ^ 9 < now) ∧
      isPidDead (probe id) ((readStarttimeImpl l.stat).getD 0) = true
  | _ => False

/-! ### The table and the book -/

/-- The table has what is in force. -/
structure Kept (cfg : ServiceConfig) (env : InitEnv) (w : World) : Prop where
  table : ∀ id, w.service.allocations.lookup id = (w.book id).bind (Lease.inForce id)
  config : w.service.cfg = cfg
  devices : ∀ (k : Nat) dev, w.service.devices[k]? = some dev →
    ∃ nvme, cfg.nvmes[k]? = some nvme ∧ BroughtUp cfg env nvme k dev
  granted : ∀ id l, w.book id = some l → Granted cfg env l
  seen : ∀ id l, w.book id = some l → l.seen ≠ [] ∧ l.seen.Pairwise (· ≥ ·) ∧
    ∀ t ∈ l.seen, t ≤ w.clock

variable {cfg : ServiceConfig} {env : InitEnv} {w : World}

theorem Kept.keyed (hw : Kept cfg env w) : w.service.Keyed := by
  intro id a ha
  rw [hw.table id] at ha
  rcases Option.bind_eq_some_iff.mp ha with ⟨l, -, hl⟩
  rw [Lease.inForce] at hl
  split_ifs at hl
  cases hl
  rfl

variable {l : Lease}

/-- A lease that has not ended has an entry. -/
theorem Kept.lookup_of_lease (hw : Kept cfg env w) {id : Bytes} (hl : w.book id = some l)
    (hlive : l.ended = false) :
    w.service.allocations.lookup id = some ⟨id, l.deviceId, l.cudaDevice, l.grantedQueues,
      l.clientPid, (readStarttimeImpl l.stat).getD 0, l.seen.headD 0⟩ := by
  rw [hw.table id, hl, Option.bind_some, Lease.inForce, hlive]
  rfl

/-- The head is the latest time, so it decides for all of them. -/
theorem seen_before_iff {seen : List Nat} (hne : seen ≠ []) (hsorted : seen.Pairwise (· ≥ ·))
    (timeout now : Nat) : seen.headD 0 + timeout < now ↔ ∀ t ∈ seen, t + timeout < now := by
  cases seen with
  | nil => exact absurd rfl hne
  | cons t =>
    rw [List.pairwise_cons] at hsorted
    constructor
    · intro hlt u hu
      rcases List.mem_cons.mp hu with rfl | hu
      · exact hlt
      · have hle := hsorted.1 u hu
        have hhead : t + timeout < now := hlt
        omega
    · intro hall
      exact hall t List.mem_cons_self

/-- What the reaper drops, by the book. -/
theorem Kept.mem_reaped_iff (hw : Kept cfg env w) {id : Bytes} (hl : w.book id = some l)
    (hlive : l.ended = false) (now : Nat) (probe : Bytes → Probe) :
    id ∈ (w.service.reap now probe).2 ↔ (Call.reap now probe).Ends cfg id l := by
  have hseen := hw.seen id l hl
  have hlookup := hw.lookup_of_lease hl hlive
  show id ∈ w.service.toReap now probe ↔ _
  rw [ServiceState.mem_toReap_iff hw.keyed, Call.Ends,
    ← seen_before_iff hseen.1 hseen.2.1 (cfg.lease.timeoutSec * 10 ^ 9) now]
  constructor
  · rintro ⟨a, ha, hexpired, hdead⟩
    rw [hlookup, Option.some.injEq] at ha
    rw [ServiceState.expired_iff, hw.config] at hexpired
    rw [← ha] at hexpired hdead
    exact ⟨hexpired, hdead⟩
  · rintro ⟨hexpired, hdead⟩
    refine ⟨_, hlookup, ?_, hdead⟩
    rw [ServiceState.expired_iff, hw.config]
    exact hexpired

/-! ### One call -/

section

variable (hw : Kept cfg env w)

include hw

/-- Nothing changes but the clock. -/
theorem Kept.unchanged {clock : Nat} (hclock : w.clock ≤ clock) :
    Kept cfg env ⟨w.service, w.book, clock⟩ :=
  ⟨hw.table, hw.config, hw.devices, hw.granted, fun id l hl =>
    have h := hw.seen id l hl
    ⟨h.1, h.2.1, fun t ht => Nat.le_trans (h.2.2 t ht) hclock⟩⟩

theorem kept_connect {deviceId cudaDevice numQueues : Int} {clientPid : Nat} {cenv : ConnectEnv}
    (hfair : w.Fair (.connect deviceId cudaDevice numQueues clientPid cenv)) :
    Kept cfg env (w.step (.connect deviceId cudaDevice numQueues clientPid cenv)) := by
  rcases hfair with ⟨hclock, hfresh⟩
  rw [World.step, Call.perform]
  rcases w.service.connect_spec deviceId cudaDevice numQueues clientPid cenv with
    ⟨e, heq⟩ | ⟨dev, _, hpos, hdev, hgpu, hone, hmax, hlimit, a, ha, heq⟩
  · rw [heq]
    exact hw.unchanged hclock
  have hid : a.allocationId = generateAllocationId cenv.hi cenv.lo := by rw [ha]
  have hnone : w.service.allocations.lookup a.allocationId = none := by
    rw [hw.table, hid, hfresh]
    rfl
  have hemplace : w.service.emplace a =
      { w.service with allocations := w.service.allocations.insert a.allocationId a } := by
    rw [ServiceState.emplace, hnone]
    rfl
  rw [heq, hemplace]
  rcases hw.devices deviceId.toNat dev hdev with ⟨nvme, hnvme, hup⟩
  have hallowed := (hup.allowed cudaDevice).mp hgpu
  rcases hup with ⟨ctrl, _, hctrl, rfl⟩
  refine ⟨fun id => ?_, hw.config, hw.devices, fun id l hl => ?_, fun id l hl => ?_⟩
  · show (w.service.allocations.insert a.allocationId a).lookup id =
      (update w.book a.allocationId _ id).bind _
    rw [lookup_insert_apply, update_apply]
    split
    next hi =>
      rw [hi, ha]
      rfl
    · exact hw.table id
  · replace hl : update w.book a.allocationId _ id = some l := hl
    rw [update_apply] at hl
    split at hl
    · cases hl
      subst ha
      rw [hw.config] at hmax
      exact ⟨hpos, nvme, ctrl, hnvme, hctrl, hallowed, hone, hmax, hlimit⟩
    · exact hw.granted id l hl
  · replace hl : update w.book a.allocationId _ id = some l := hl
    rw [update_apply] at hl
    split at hl
    · cases hl
      refine ⟨by simp, List.pairwise_singleton _ _, fun t ht => ?_⟩
      rw [List.mem_singleton.mp ht]
      exact Nat.le_refl _
    · have h := hw.seen id l hl
      exact ⟨h.1, h.2.1, fun t ht => Nat.le_trans (h.2.2 t ht) hclock⟩

/-- A lease is said to have ended, and nothing else about it changes. -/
theorem Kept.of_ended {s : ServiceState} (hcfg : s.cfg = w.service.cfg)
    (hdevices : s.devices = w.service.devices) {book : Book} {gone : Bytes → Prop}
    [DecidablePred gone]
    (htable : ∀ i, s.allocations.lookup i = if gone i then none else w.service.allocations.lookup i)
    (hbook : ∀ i, book i = if gone i then (w.book i).map ({ · with ended := true }) else w.book i) :
    Kept cfg env ⟨s, book, w.clock⟩ := by
  have hold : ∀ i l, book i = some l → ∃ l₀, w.book i = some l₀ ∧ l = { l₀ with ended := l.ended } := by
    intro i l hl
    rw [hbook i] at hl
    split at hl
    · rcases Option.map_eq_some_iff.mp hl with ⟨l₀, hl₀, rfl⟩
      exact ⟨l₀, hl₀, rfl⟩
    · exact ⟨l, hl, rfl⟩
  refine ⟨fun i => ?_, hcfg.trans hw.config, fun k d hd => hw.devices k d (by rw [← hdevices]; exact hd),
    fun i l hl => ?_, fun i l hl => ?_⟩
  · show s.allocations.lookup i = (book i).bind _
    rw [htable i, hbook i]
    split
    · cases w.book i with
      | none | some => rfl
    · exact hw.table i
  · rcases hold i l hl with ⟨l₀, hl₀, heq⟩
    rw [heq]
    exact hw.granted i l₀ hl₀
  · rcases hold i l hl with ⟨l₀, hl₀, heq⟩
    rw [heq]
    exact hw.seen i l₀ hl₀

theorem kept_disconnect (allocationId : Bytes) (clientPid : Nat) :
    Kept cfg env (w.step (.disconnect allocationId clientPid)) := by
  rw [World.step, Call.perform]
  rcases w.service.disconnect_spec allocationId clientPid with
    ⟨a, _, -, -, heq, hcfg, hdevices, htable⟩ | ⟨-, e, heq⟩
  · rw [heq]
    refine hw.of_ended hcfg hdevices htable (fun i => ?_)
    show update w.book allocationId _ i = _
    rw [update_apply]
    split
    next hi => rw [hi]
    · rfl
  · rw [heq]
    exact hw

theorem kept_reap (now : Nat) (probe : Bytes → Probe) : Kept cfg env (w.step (.reap now probe)) :=
  @Kept.of_ended _ _ w hw (w.service.reap now probe).1 rfl rfl _
    (· ∈ (w.service.reap now probe).2) _
    (ServiceState.lookup_foldl_erase (w.service.toReap now probe) w.service.allocations)
    (fun _ => rfl)

theorem kept_heartbeat {allocationId : Bytes} {now : Nat}
    (hfair : w.Fair (.heartbeat allocationId now)) :
    Kept cfg env (w.step (.heartbeat allocationId now)) := by
  have hclock : w.clock ≤ now := hfair
  rw [World.step, Call.perform]
  rcases w.service.updateHeartbeat_spec allocationId now with
    ⟨a, s', ha, heq, hcfg, hdevices, htable⟩ | ⟨-, e, heq⟩
  · rw [heq]
    -- The entry of the table is a lease in force.
    rw [hw.table allocationId] at ha
    rcases Option.bind_eq_some_iff.mp ha with ⟨l, hl, hforce⟩
    have hlive : l.ended = false := by
      by_contra hended
      rw [Lease.inForce, if_pos (by simpa using hended)] at hforce
      cases hforce
    -- The book has a new time at the head of one lease.
    have hbook : ∀ i, update w.book allocationId
        ((w.book allocationId).map fun l => { l with seen := now :: l.seen }) i =
          if i = allocationId then some { l with seen := now :: l.seen } else w.book i := by
      intro i
      rw [update_apply, hl]
      rfl
    refine ⟨fun i => ?_, hcfg.trans hw.config,
      fun k d hd => hw.devices k d (by rw [← hdevices]; exact hd), fun i l' hl' => ?_,
      fun i l' hl' => ?_⟩
    · show s'.allocations.lookup i = (update w.book _ _ i).bind _
      rw [htable i, hbook i]
      split
      next hi =>
        rw [Lease.inForce, hlive] at hforce
        cases hforce
        rw [hlive, hi]
        rfl
      · exact hw.table i
    · have hl' := (hbook i).symm.trans hl'
      split at hl'
      · cases hl'
        exact hw.granted allocationId l hl
      · exact hw.granted i l' hl'
    · have hl' := (hbook i).symm.trans hl'
      split at hl'
      · cases hl'
        have h := hw.seen allocationId l hl
        have hold : ∀ t ∈ _, t ≤ _ := fun t ht => Nat.le_trans (h.2.2 t ht) hclock
        exact ⟨by simp, List.pairwise_cons.mpr ⟨hold, h.2.1⟩,
          List.forall_mem_cons.mpr ⟨Nat.le_refl _, hold⟩⟩
      · have h := hw.seen i l' hl'
        exact ⟨h.1, h.2.1, fun t ht => Nat.le_trans (h.2.2 t ht) hclock⟩
  · rw [heq]
    exact hw.unchanged hclock

theorem kept_step {call : Call} (hfair : w.Fair call) : Kept cfg env (w.step call) := by
  cases call with
  | connect => exact kept_connect hw hfair
  | disconnect allocationId clientPid => exact kept_disconnect hw allocationId clientPid
  | heartbeat => exact kept_heartbeat hw hfair
  | reap now probe => exact kept_reap hw now probe

/-- A lease in force ends by a call exactly if that is how it ends. -/
theorem ended_iff {call : Call} (hfair : w.Fair call) {id : Bytes}
    (hl : w.book id = some l) (hlive : l.ended = false) :
    ∃ l', (w.step call).book id = some l' ∧ (l'.ended = true ↔ call.Ends cfg id l) := by
  have hsame : l.ended = true ↔ False := by rw [hlive]; simp
  cases call with
  | connect deviceId cudaDevice numQueues clientPid cenv =>
    rw [World.step, Call.perform]
    rcases w.service.connect_spec deviceId cudaDevice numQueues clientPid cenv with
      ⟨e, heq⟩ | ⟨_, _, -, -, -, -, -, -, a, ha, heq⟩
    · rw [heq]
      exact ⟨l, hl, hsame⟩
    rw [heq]
    have hne : id ≠ a.allocationId := by
      intro hi
      rw [hi, ha, hfair.2] at hl
      cases hl
    exact ⟨l, (update_of_ne hne _ _).trans hl, hsame⟩
  | disconnect allocationId clientPid =>
    have hlookup := hw.lookup_of_lease hl hlive
    rw [World.step, Call.perform]
    rcases w.service.disconnect_spec allocationId clientPid with
      ⟨a, s', ha, hpid, heq, -⟩ | ⟨hother, e, heq⟩
    · rw [heq]
      by_cases hi : allocationId = id
      · rw [hi, hlookup, Option.some.injEq] at ha
        refine ⟨{ l with ended := true }, ?_, iff_of_true rfl ⟨hi, ?_⟩⟩
        · show update w.book allocationId _ id = _
          rw [hi, update_self, hl]
          rfl
        · rw [← hpid, ← ha]
      · exact ⟨l, (update_of_ne (Ne.symm hi) _ _).trans hl,
          hsame.trans ⟨False.elim, fun h => hi h.1⟩⟩
    · rw [heq]
      refine ⟨l, hl, hsame.trans ⟨False.elim, fun h => ?_⟩⟩
      exact hother _ (h.1 ▸ hlookup) h.2.symm
  | heartbeat allocationId now =>
    rw [World.step, Call.perform]
    rcases w.service.updateHeartbeat_spec allocationId now with ⟨a, _, -, heq, -⟩ | ⟨-, e, heq⟩
    · rw [heq]
      by_cases hi : allocationId = id
      · refine ⟨{ l with seen := now :: l.seen }, ?_, hsame⟩
        show update w.book allocationId _ id = _
        rw [hi, update_self, hl]
        rfl
      · exact ⟨l, (update_of_ne (Ne.symm hi) _ _).trans hl, hsame⟩
    · rw [heq]
      exact ⟨l, hl, hsame⟩
  | reap now probe =>
    have hiff := hw.mem_reaped_iff hl hlive now probe
    by_cases hmem : id ∈ (w.service.reap now probe).2
    · refine ⟨{ l with ended := true }, ?_, iff_of_true rfl (hiff.mp hmem)⟩
      show (if id ∈ (w.service.reap now probe).2 then _ else _) = _
      rw [if_pos hmem, hl]
      rfl
    · refine ⟨l, ?_, hsame.trans ⟨False.elim, fun h => hmem (hiff.mpr h)⟩⟩
      show (if id ∈ (w.service.reap now probe).2 then _ else _) = _
      rw [if_neg hmem, hl]

end

/-! ### Runs -/

/-- Nobody has a lease of a new service. -/
theorem kept_start {t t' : Tree} {s : ServiceState}
    (h : ServiceState.construct cfg env t = some (t', s)) : Kept cfg env (World.start s) := by
  rcases Option.map_eq_some_iff.mp h with ⟨⟨_, _⟩, hdevs, heq⟩
  cases heq
  refine ⟨fun id => rfl, rfl, fun k dev hdev => ?_, fun id l hl => absurd hl (by simp [World.start]),
    fun _ l hl => absurd hl (by simp [World.start])⟩
  have hspec := initDevices_spec hdevs k dev hdev
  rwa [Nat.zero_add] at hspec

theorem kept_run (hw : Kept cfg env w) {calls : List Call}
    (hfair : Runs.Along World.step World.Fair w calls) :
    Kept cfg env (run World.step w calls) :=
  run_invariant (I := Kept cfg env) (fun _ _ hs hp => kept_step hs hp) hw hfair

/-- In any run, the table has the leases that have been granted and have not ended, each of
    them is within its limits, and they end only as they should. -/
theorem leases_exact (cfg : ServiceConfig) (env : InitEnv) (t t' : Tree) (s : ServiceState)
    (calls : List Call) (hs : ServiceState.construct cfg env t = some (t', s))
    (hfair : Runs.Along World.step World.Fair (World.start s) calls) :
    (∀ id, (run World.step (World.start s) calls).service.allocations.lookup id =
      ((run World.step (World.start s) calls).book id).bind (Lease.inForce id)) ∧
    (∀ id l, (run World.step (World.start s) calls).book id = some l → Granted cfg env l) ∧
    Runs.Along World.step (fun w call => ∀ id l, w.book id = some l → l.ended = false →
      ∃ l', (w.step call).book id = some l' ∧ (l'.ended = true ↔ call.Ends cfg id l))
      (World.start s) calls := by
  have hend := kept_run (kept_start hs) hfair
  refine ⟨hend.table, hend.granted, ?_⟩
  exact along_of_invariant (I := Kept cfg env) (fun _ _ hw hp => kept_step hw hp)
    (fun _ _ hw hp _ _ hl hlive => ended_iff hw hp hl hlive) (kept_start hs) hfair

/-! ### A small service -/

/-- One GPU and one device. -/
def sampleConfig : ServiceConfig :=
  { gpus := [⟨0, text "/g"⟩]
    nvmes := [{ pciAddr := text "5", mountPath := text "/n" }] }

def sampleInit : InitEnv where
  controller := fun _ => .ok ⟨16384, 0, 64, 8, 4096, 1024, 512, text "snvme0n1"⟩
  iteration := ⟨id, fun _ => List.Perm.refl _⟩
  cwd := []

/-- The service, on an empty disk. -/
def sampled : Tree × ServiceState :=
  (ServiceState.construct sampleConfig sampleInit fun _ => none).get (by decide)

theorem construct_sampled :
    ServiceState.construct sampleConfig sampleInit (fun _ => none) = some sampled :=
  (Option.some_get _).symm

/-- What is in `/proc/<pid>/stat` of a process that was started at a time. -/
def sampleStat (starttime : Nat) : Bytes :=
  text "7 (sh) S 1 7 7 0 -1 4 0 0 0 0 0 0 0 0 20 0 1 0 " ++ decimal starttime ++ text " 0\n"

/-- A client connects, with the random numbers and the clock as given. -/
def sampleConnect (pid hi starttime now : Nat) : Call :=
  .connect 0 0 0 pid ⟨hi, 0, some (sampleStat starttime), now⟩

/-- Clients get leases; one is given back, and one is dropped because another process has
    the pid of its client. -/
theorem leases_exact_sampled : let calls := [sampleConnect 7 1 5 0, sampleConnect 8 2 6 1,
      .heartbeat (generateAllocationId 1 0) 10, .disconnect (generateAllocationId 2 0) 8,
      .reap (31 * 10 ^ 9) fun _ => ⟨.ok, some (sampleStat 9)⟩]
    ((run World.step (World.start sampled.2) calls).book (generateAllocationId 1 0)).map
      Lease.ended = some true ∧
    ∀ id l, (run World.step (World.start sampled.2) calls).book id = some l →
      Granted sampleConfig sampleInit l :=
  ⟨by decide, (leases_exact sampleConfig sampleInit _ sampled.1 sampled.2 _ construct_sampled
    (by decide)).2.1⟩

end Geminifs.NvmeService
