import Geminifs.Core.ServiceRegistry
import Geminifs.Theory.QueueGroup

/-!
# What Opening through the Service Leaves Behind

Every event of `Open` names the request that it is for, so what has become of a session
or a controller is a matter of counting. As long as the loop goes on, each request before
the current one has a session and a controller that nobody has given up. When it fails,
closing gives up those, and the request that failed has to look after its own.

It does so for the controller. The session is looked after by `sess` until the controller
is attached; afterwards it is in a slot that is dropped with it.

## Main definitions

* `Opened`: What holds before each round of the loop.

## Theorems

* `newQueueGroup_length_le`: A group has no more queues than it is asked for.
* `openOne_spec`: What one request leaves behind.
* `opened_next`: The loop.
* `open_leaves`: What `Open` leaves behind.
-/

namespace Geminifs

/-! ### The size of a group -/

namespace LibNvm

theorem buildPairs_length_le {s s' : Session} {c : NvmCtrl} {groupId maxQ numQueues queueDepth : Nat}
    {env : InitEnv} {qps : List GpuQueuePair}
    (h : buildPairs s c groupId maxQ numQueues queueDepth env = (s', .ok qps)) :
    qps.length ≤ numQueues := by
  unfold buildPairs at h
  dsimp only at h
  iterate 3
    split at h
    · cases congrArg Prod.snd h
  split at h
  · cases congrArg Prod.snd h
  rename_i built hbuilt
  have hlen := (newQueuePairs_built (fun qp hqp => absurd hqp List.not_mem_nil) hbuilt).1
  iterate 3
    split at h
    · cases congrArg Prod.snd h
  have hfinish := finishPairs_ok (congrArg Prod.snd h)
  rw [hfinish, List.length_map, List.length_zipIdx, hlen, List.length_nil]
  omega

/-- A group has no more queues than it is asked for. -/
theorem newQueueGroup_length_le {s : Session} {c : NvmCtrl} {blockSize numQueues queueDepth : Nat}
    {env : InitEnv} {g : QueueGroup}
    (h : (newQueueGroup s (some c) blockSize numQueues queueDepth env).2 = .ok g) :
    g.qps.length ≤ numQueues := by
  unfold newQueueGroup QueueGroup.init at h
  dsimp only at h
  split_ifs at h
  cases hcreate : (nvmCreateGroup s c env.group).2 with
  | error =>
    rw [hcreate] at h
    cases h
  | ok r =>
    rw [hcreate] at h
    dsimp only at h
    split_ifs at h
    split at h
    · cases h
    next qps hqps =>
      cases h
      exact buildPairs_length_le (Prod.ext rfl hqps)

end LibNvm

namespace ServiceRegistry

open NvmeService

variable {i : Nat} {env : Nat → OpenEnv} {slots : List LocalNvmeDevice} {events : List Event}

/-! ### One request -/

/-- The queues of a group are no more than the session was granted, if that is what is
    read through `sess`. -/
def WithinGrant (env : OpenEnv) (bp : LocalNvmeDevice) : Prop :=
  ∀ g, bp.queueGroup = some g → ∃ sess n, env.connect = some sess ∧ env.readNull = some n ∧
    (n = sess.grantedQueues → 0 < sess.grantedQueues → (g.qps.length : Int) ≤ sess.grantedQueues)

/-- The request got as far as attaching a controller. -/
def Attached (env : OpenEnv) : Prop := env.connect.isSome = true ∧ env.attach.isSome = true

theorem queuesFor_le (req : Request) {n : Int} (hn : 0 < n) :
    (queuesFor req (grantedOf req n) : Int) ≤ n := by
  have hgranted : (grantedOf req n : Int) ≤ n := by
    rw [grantedOf]
    omega
  rw [queuesFor]
  split
  · omega
  · exact hgranted

theorem buildGroup_within {req : Request} {sess : ConnectGrant} {ctrl : LibNvm.NvmCtrl} {n : Int}
    {env : OpenEnv} {bp : LocalNvmeDevice} (hsess : env.connect = some sess)
    (hread : env.readNull = some n)
    (h : buildGroup req (newDevice req i sess ctrl) n env = some bp) :
    bp.deviceId = i ∧ WithinGrant env bp := by
  rw [buildGroup] at h
  generalize (if 0 < req.queueDepth then req.queueDepth
    else (newDevice req i sess ctrl).queueDepth) = qd at h
  iterate 3
    split at h
    · cases h
  rename_i g hgroup
  cases h
  refine ⟨rfl, fun g' hg' => ⟨sess, n, hsess, hread, fun hn hpos => ?_⟩⟩
  cases hg'
  rw [← hn] at hpos ⊢
  have hlen := LibNvm.newQueueGroup_length_le hgroup
  have hle := queuesFor_le req hpos
  omega

/-- A request that fails has given up its controller, and its session unless a controller
    was attached. A request that does not fail has both. -/
theorem openOne_spec {req : Request} {env : OpenEnv} {new : List Event} {r : Option LocalNvmeDevice}
    (h : openOne req i env = some (new, r)) :
    (r = none ∧ ¬ Attached env ∧ (new = [] ∨ new = [.connect i, .disconnect i])) ∨
    (r = none ∧ Attached env ∧ new = [.connect i, .attach i, .free i]) ∨
    ∃ bp, r = some bp ∧ bp.deviceId = i ∧ WithinGrant env bp ∧ new = [.connect i, .attach i] := by
  rw [openOne] at h
  split at h
  next hconnect =>
    cases h
    exact .inl ⟨rfl, fun hat => by simp [Attached, hconnect] at hat, .inl rfl⟩
  rename_i sess hconnect
  split at h
  next hattach =>
    cases h
    exact .inl ⟨rfl, fun hat => by simp [Attached, hattach] at hat, .inr rfl⟩
  rename_i ctrl hattach
  have hat : Attached env := by simp [Attached, hconnect, hattach]
  dsimp only at h
  split at h
  · cases h
    exact .inr (.inr ⟨_, rfl, rfl, fun g hg => absurd hg (by simp [newDevice]), rfl⟩)
  split at h
  · cases h
  rename_i n hread
  split at h
  · cases h
    exact .inr (.inl ⟨rfl, hat, rfl⟩)
  next bp hbuild =>
    cases h
    have hbp := buildGroup_within hconnect hread hbuild
    exact .inr (.inr ⟨bp, rfl, hbp.1, hbp.2, rfl⟩)

/-! ### The loop -/

/-- How often things have happened to a request. -/
structure Tally (events : List Event) (i connect disconnect attach free : Nat) : Prop where
  connect : events.count (.connect i) = connect
  disconnect : events.count (.disconnect i) = disconnect
  attach : events.count (.attach i) = attach
  free : events.count (.free i) = free

theorem Tally.append {es fs : List Event} {c d a f c' d' a' f' : Nat} (h : Tally es i c d a f)
    (h' : Tally fs i c' d' a' f') : Tally (es ++ fs) i (c + c') (d + d') (a + a') (f + f') := by
  refine ⟨?_, ?_, ?_, ?_⟩
  · rw [List.count_append, h.connect, h'.connect]
  · rw [List.count_append, h.disconnect, h'.disconnect]
  · rw [List.count_append, h.attach, h'.attach]
  · rw [List.count_append, h.free, h'.free]

/-- Closing gives up what the slots have, once for each slot. -/
theorem closeSlots_tally (slots : List LocalNvmeDevice) (i : Nat) :
    Tally (closeSlots slots) i 0 ((slots.map LocalNvmeDevice.deviceId).count i) 0
      ((slots.map LocalNvmeDevice.deviceId).count i) := by
  have hcount : ∀ l : List LocalNvmeDevice,
      Tally (l.flatMap fun bp => [.free bp.deviceId, .disconnect bp.deviceId]) i 0
        ((l.map LocalNvmeDevice.deviceId).count i) 0 ((l.map LocalNvmeDevice.deviceId).count i) := by
    intro l
    induction l with
    | nil => exact ⟨rfl, rfl, rfl, rfl⟩
    | cons bp l ih =>
      refine ⟨?_, ?_, ?_, ?_⟩
      · rw [List.flatMap_cons, List.count_append, ih.connect]
        simp
      · rw [List.flatMap_cons, List.count_append, ih.disconnect]
        simp [List.count_cons, Nat.add_comm]
      · rw [List.flatMap_cons, List.count_append, ih.attach]
        simp
      · rw [List.flatMap_cons, List.count_append, ih.free]
        simp [List.count_cons, Nat.add_comm]
  have h := hcount slots.reverse
  rw [List.map_reverse, List.count_reverse] at h
  exact h

/-- Before the `i`-th request, all requests before it are open. -/
structure Opened (env : Nat → OpenEnv) (i : Nat) (slots : List LocalNvmeDevice)
    (events : List Event) : Prop where
  ids : slots.map LocalNvmeDevice.deviceId = List.range i
  tally : ∀ j, Tally events j (if j < i then 1 else 0) 0 (if j < i then 1 else 0) 0
  within : ∀ bp ∈ slots, WithinGrant (env bp.deviceId) bp

theorem opened_next (h : Opened env i slots events) {bp : LocalNvmeDevice} (hid : bp.deviceId = i)
    (hwithin : WithinGrant (env i) bp) :
    Opened env (i + 1) (slots ++ [bp]) (events ++ [.connect i, .attach i]) := by
  refine ⟨?_, fun j => ?_,
    List.forall_mem_append.mpr ⟨h.within, List.forall_mem_singleton.mpr (hid ▸ hwithin)⟩⟩
  · rw [List.map_append, h.ids, List.map_cons, List.map_nil, hid, List.range_succ]
  · have hj := h.tally j
    refine ⟨?_, ?_, ?_, ?_⟩
    · rw [List.count_append, hj.connect]
      by_cases heq : i = j
      · simp [heq]
      · have hlt : j < i + 1 ↔ j < i := by omega
        simp [heq, hlt]
    · rw [List.count_append, hj.disconnect]
      simp
    · rw [List.count_append, hj.attach]
      by_cases heq : i = j
      · simp [heq]
      · have hlt : j < i + 1 ↔ j < i := by omega
        simp [heq, hlt]
    · rw [List.count_append, hj.free]
      simp

/-- What is left behind when a request fails. -/
def LeftBehind (env : Nat → OpenEnv) (k : Nat) (events : List Event) : Prop :=
  ∀ i, events.count (.connect i) ≤ 1 ∧ events.count (.attach i) ≤ 1 ∧
    events.count (.free i) = events.count (.attach i) ∧
    (events.count (.disconnect i) = events.count (.connect i) ↔ ¬ (i = k ∧ Attached (env k)))

/-- The slots are closed, so it depends on the request that failed. -/
theorem leftBehind_of_failed {k : Nat} {new : List Event} (h : Opened env k slots events)
    (hnew : (¬ Attached (env k) ∧ (new = [] ∨ new = [.connect k, .disconnect k])) ∨
      (Attached (env k) ∧ new = [.connect k, .attach k, .free k])) :
    LeftBehind env k (events ++ new ++ closeSlots slots) := by
  intro i
  have hclose := closeSlots_tally slots i
  rw [h.ids, List.count_range] at hclose
  have hall : ∀ {c d a f}, Tally new i c d a f → Tally (events ++ new ++ closeSlots slots) i
      ((if i < k then 1 else 0) + c + 0) (0 + d + if i < k then 1 else 0)
      ((if i < k then 1 else 0) + a + 0) (0 + f + if i < k then 1 else 0) :=
    fun hn => ((h.tally i).append hn).append hclose
  -- The request that failed comes after all the slots.
  by_cases hik : i = k
  · rcases hnew with ⟨hnot, rfl | rfl⟩ | ⟨hat, rfl⟩
    · have t := hall (⟨rfl, rfl, rfl, rfl⟩ : Tally [] i 0 0 0 0)
      rw [t.connect, t.disconnect, t.attach, t.free]
      simp [hik, hnot]
    · have t := hall (⟨by simp [hik], by simp [hik], by simp, by simp⟩ :
        Tally [.connect k, .disconnect k] i 1 1 0 0)
      rw [t.connect, t.disconnect, t.attach, t.free]
      simp [hik, hnot]
    · have t := hall (⟨by simp [hik], by simp, by simp [hik], by simp [hik]⟩ :
        Tally [.connect k, .attach k, .free k] i 1 0 1 1)
      rw [t.connect, t.disconnect, t.attach, t.free]
      simp [hik, hat]
  · have hki : k ≠ i := Ne.symm hik
    have hnone : Tally new i 0 0 0 0 := by
      rcases hnew with ⟨-, rfl | rfl⟩ | ⟨-, rfl⟩
      · exact ⟨rfl, rfl, rfl, rfl⟩
      · exact ⟨by simp [hki], by simp [hki], by simp, by simp⟩
      · exact ⟨by simp [hki], by simp, by simp [hki], by simp [hki]⟩
    have t := hall hnone
    rw [t.connect, t.disconnect, t.attach, t.free]
    by_cases hlt : i < k
    · simp [hlt, hik]
    · simp [hlt, hik]

theorem openFrom_spec {reqs : List Request} {slots' : List LocalNvmeDevice} {events' : List Event}
    {ok : Bool} (h : Opened env i slots events)
    (hopen : openFrom env i reqs slots events = some (slots', events', ok)) :
    (ok = false ∧ slots' = [] ∧ ∃ k, i ≤ k ∧ k < i + reqs.length ∧ LeftBehind env k events') ∨
    (ok = true ∧ Opened env (i + reqs.length) slots' events') := by
  induction reqs generalizing i slots events with
  | nil =>
    cases hopen
    exact .inr ⟨rfl, h⟩
  | cons req reqs ih =>
    rw [openFrom] at hopen
    split at hopen
    · cases hopen
    next new hone =>
      cases hopen
      refine .inl ⟨rfl, rfl, i, Nat.le_refl i, by simp, ?_⟩
      rcases openOne_spec hone with ⟨-, hnot, hnew⟩ | ⟨-, hat, hnew⟩ | ⟨bp, hbp, -⟩
      · exact leftBehind_of_failed h (.inl ⟨hnot, hnew⟩)
      · exact leftBehind_of_failed h (.inr ⟨hat, hnew⟩)
      · cases hbp
    next new bp hone =>
      rcases openOne_spec hone with ⟨hr, -⟩ | ⟨hr, -⟩ | ⟨b, hb, hid, hwithin, rfl⟩
      · cases hr
      · cases hr
      cases hb
      have hlen : i + 1 + reqs.length = i + (req :: reqs).length := by
        rw [List.length_cons]
        omega
      rcases ih (opened_next h hid hwithin) hopen with ⟨hok, hnil, k, hle, hlt, hleft⟩ | ⟨hok, hend⟩
      · exact .inl ⟨hok, hnil, k, by omega, by omega, hleft⟩
      · exact .inr ⟨hok, hlen ▸ hend⟩

/-- A session with four queues. -/
def plainGrant : ConnectGrant :=
  { allocationId := [], deviceId := 0, pciAddr := text "5", snvmeDevPath := text "/dev/ssnvme0"
    bar0Size := 16384, dstrd := 0, grantedQueues := 4, namespaceId := 1, pageSize := 4096
    blkSize := 512, blkSizeLog := 9, queueDepth := 1024, mountPath := text "/g/ssnvme0"
    heartbeatIntervalSec := 10, leaseTimeoutSec := 30 }

/-- The daemon grants it, and a controller is attached or not. What the controller is able
    to do is not known to a client, so the depth of its queues is 0. -/
def plainOpen (attached : Bool) (readNull : Option Int) : OpenEnv where
  connect := some plainGrant
  attach := if attached then some (LibNvm.nvmCtrlInit 0 1 10 4096 0) else none
  readNull := readNull
  kernel := ⟨Runs.run Snvme.Driver.step Snvme.Driver.init LibNvm.bound, []⟩
  group := LibNvm.plainInit 0

end ServiceRegistry

end Geminifs
