import Geminifs.Core.NvmeService.Heartbeat
import Geminifs.Theory.NvmeService.Leases

/-!
# What a Round of Heartbeats Reaches

The daemon goes through the ids of a round one after the other. It renews the leases up to
the first id that it does not know, where it leaves the stream; the leases behind that one
are left as they are. The client forgets the id, so the next round gets further.

## Main definitions

* `Known`: The service has a lease with an id.
* `Round`, `strangers`: A round of a client, and its sessions without a lease.

## Theorems

* `heartbeat_batch`: What a stream does to the table, and its answers to the client.
* `heartbeat_reaches`: Which leases a round renews.
* `beat_forgets`: What a client forgets after a round.
* `rounds_end_strangers`: How many rounds it takes until every session has a lease.
-/

namespace Geminifs.NvmeService

/-- The service has a lease with an id. -/
def Known (s : ServiceState) (id : Bytes) : Prop := (s.allocations.lookup id).isSome = true

instance (s : ServiceState) (id : Bytes) : Decidable (Known s id) :=
  inferInstanceAs (Decidable (_ = true))

variable {id : Bytes} (s : ServiceState) (ids : List Bytes) (sent handled : Bytes → Nat)
  (c : Client)

/-- A message for a known id is answered and the stream goes on. -/
theorem heartbeat_known {s : ServiceState} {a : Allocation} (ha : s.allocations.lookup id = some a)
    (sent now : Nat) (rest : List (HeartbeatMsg × Nat)) :
    ∃ s' : ServiceState, (∀ i, s'.allocations.lookup i =
        if i = id then some { a with lastHeartbeat := now } else s.allocations.lookup i) ∧
      s.heartbeat ((⟨id, sent, none⟩, now) :: rest) =
        ((s'.heartbeat rest).1, ⟨id, sent, none⟩ :: (s'.heartbeat rest).2) := by
  rcases s.updateHeartbeat_spec id now with ⟨b, s', hb, heq, -, -, hlookup⟩ | ⟨hnone, -⟩
  · rw [ha, Option.some.injEq] at hb
    refine ⟨s', hb ▸ hlookup, ?_⟩
    rw [ServiceState.heartbeat, heq]
  · exact absurd (hnone.symm.trans ha) (by simp)

/-- Only the leases that a stream reaches are renewed, and the daemon has nothing to say
    against ids that it knows. -/
theorem heartbeat_batch :
    (∀ id, (s.heartbeat (Client.batch ids sent handled)).1.allocations.lookup id =
      (s.allocations.lookup id).map fun a =>
        if id ∈ ids.takeWhile (fun i => decide (Known s i)) then
          { a with lastHeartbeat := handled id }
        else a) ∧
    ((s.heartbeat (Client.batch ids sent handled)).2.foldl Client.readAnswer c).liveSessions =
      match ids.find? (fun i => ¬ Known s i) with
      | none => c.liveSessions
      | some i => c.liveSessions.erase i := by
  -- Induct on the ids; those that are known stay known as leases are renewed.
  induction ids generalizing s with
  | nil => simp [Client.batch, ServiceState.heartbeat]
  | cons i ids ih =>
    rw [Client.batch, List.map_cons]
    by_cases hknown : Known s i
    · rcases Option.isSome_iff_exists.mp hknown with ⟨a, ha⟩
      rcases heartbeat_known ha (sent i) (handled i)
        (ids.map fun id => (⟨id, sent id, none⟩, handled id)) with ⟨s', hlookup, heq⟩
      have hsame : ∀ i, Known s' i ↔ Known s i := by
        intro j
        unfold Known
        rw [hlookup j]
        split
        next hj =>
          rw [hj, ha]
          rfl
        · rfl
      have ih := ih s'
      simp only [Client.batch, hsame] at ih
      rw [heq, List.takeWhile_cons_of_pos (by simpa using hknown),
        List.find?_cons_of_neg (by simpa using hknown)]
      refine ⟨fun id => ?_, ih.2⟩
      rw [ih.1, hlookup id]
      by_cases hid : id = i
      · rw [hid, ha]
        simp
      · simp [hid]
    · -- At an id that is not known the stream ends.
      rcases s.updateHeartbeat_spec i (handled i) with ⟨b, s', hb, -⟩ | ⟨-, err, heq⟩
      · exact absurd (show Known s i by rw [Known, hb]; rfl) hknown
      rw [ServiceState.heartbeat, heq, List.takeWhile_cons_of_neg (by simpa using hknown),
        List.find?_cons_of_pos (by simpa using hknown)]
      exact ⟨by simp, rfl⟩

/-- The service is the one that a round of the client leads to. -/
theorem beat_service :
    (c.beat s ids sent handled).2 = (s.heartbeat (Client.batch ids sent handled)).1 := by
  rw [Client.beat]
  split
  next hempty =>
    rw [hempty]
    rfl
  · rfl

/-- What stands before an id in a list in which it stands once. -/
theorem mem_takeWhile_iff {ids pre post : List Bytes} (hnodup : ids.Nodup)
    (hids : ids = pre ++ id :: post) (p : Bytes → Bool) :
    id ∈ ids.takeWhile p ↔ p id = true ∧ ∀ i ∈ pre, p i = true := by
  induction pre generalizing ids with
  | nil =>
    rw [hids]
    by_cases hp : p id = true
    · simp [hp]
    · simp [hp]
  | cons i pre ih =>
    subst hids
    rw [List.cons_append, List.nodup_cons] at hnodup
    have hne : id ≠ i := by
      intro heq
      exact hnodup.1 (heq ▸ List.mem_append_right pre List.mem_cons_self)
    rw [List.cons_append]
    by_cases hp : p i = true
    · rw [List.takeWhile_cons_of_pos hp, List.mem_cons, ih hnodup.2 rfl]
      simp [hne, hp]
    · simp [hp]

/-- A round of the client, over the ids of its sessions in any order, renews a lease that
    exists exactly if no id before it is unknown. Otherwise its time stays what it was. -/
theorem heartbeat_reaches (c : Client) (s : ServiceState) (ids pre post : List Bytes)
    (hnodup : ids.Nodup) (sent handled : Bytes → Nat) (id : Bytes) (a : Allocation)
    (hid : ids = pre ++ id :: post) (ha : s.allocations.lookup id = some a) :
    (c.beat s ids sent handled).2.allocations.lookup id = some { a with
        lastHeartbeat := if ∀ i ∈ pre, Known s i then handled id else a.lastHeartbeat } := by
  have hknown : Known s id := by
    rw [Known, ha]
    rfl
  have hmem := mem_takeWhile_iff hnodup hid fun i => decide (Known s i)
  simp only [decide_eq_true_eq, hknown, true_and] at hmem
  rw [beat_service, (heartbeat_batch s ids sent handled c).1, ha, Option.map_some]
  by_cases hall : ∀ i ∈ pre, Known s i
  · rw [if_pos (hmem.mpr hall), if_pos hall]
  · rw [if_neg (fun h => hall (hmem.mp h)), if_neg hall]

/-- A client forgets the first session that the daemon does not know, so that one is not
    in the way of the others any more. -/
theorem beat_forgets :
    (c.beat s ids sent handled).1.liveSessions = match ids.find? (fun i => ¬ Known s i) with
      | none => c.liveSessions
      | some i => c.liveSessions.erase i := by
  rw [Client.beat]
  split
  next hempty =>
    rw [hempty]
    rfl
  · exact (heartbeat_batch s ids sent handled c).2

/-- A round: an order for the sessions, and the times at which they are sent and handled. -/
structure Round where
  order : List Bytes → List Bytes
  perm : ∀ ids, (order ids).Perm ids
  sent : Bytes → Nat
  handled : Bytes → Nat

/-- A round over all the sessions of a client. -/
def Round.beat (w : Client × ServiceState) (r : Round) : Client × ServiceState :=
  w.1.beat w.2 (r.order w.1.liveSessions.keys) r.sent r.handled

/-- How many sessions of the client the daemon does not know. -/
def strangers (w : Client × ServiceState) : Nat :=
  w.1.liveSessions.keys.countP fun i => ¬ Known w.2 i

theorem strangers_beat (w : Client × ServiceState) (r : Round) :
    strangers (Round.beat w r) = strangers w - 1 := by
  -- A lease is renewed or not, but it is there.
  have hknown : ∀ id, Known (Round.beat w r).2 id ↔ Known w.2 id := fun id => by
    rw [Known, Round.beat, beat_service, (heartbeat_batch _ _ _ _ w.1).1, Option.isSome_map, Known]
  have hperm := r.perm w.1.liveSessions.keys
  simp only [strangers, hknown]
  rw [Round.beat, beat_forgets]
  cases hfind : (r.order w.1.liveSessions.keys).find? (fun i => ¬ Known w.2 i) with
  | none =>
    have hall := List.countP_eq_zero.mpr (List.find?_eq_none.mp hfind)
    rw [hperm.countP_eq] at hall
    rw [hall]
  | some i =>
    have hi := And.intro (hperm.mem_iff.mp (List.mem_of_find?_eq_some hfind))
      (List.find?_some (p := fun i => ¬ Known w.2 i) hfind)
    rw [AList.keys_erase, @List.countP_erase _ instBEqOfDecidableEq, if_pos hi]

/-- Each round ends one of the sessions that the daemon does not know, in whatever order
    they come, until there are none and nothing is in the way of the others. -/
theorem rounds_end_strangers (w : Client × ServiceState) (rounds : List Round) :
    strangers (Runs.run Round.beat w rounds) = strangers w - rounds.length := by
  induction rounds generalizing w with
  | nil => rfl
  | cons r _ ih =>
    rw [Runs.run, ih, strangers_beat, List.length_cons]
    omega

/-- The service after a client has connected twice, and its first lease has ended. -/
def oneLeft : ServiceState :=
  (Runs.run World.step (World.start sampled.2) [sampleConnect 7 1 5 0, sampleConnect 7 2 5 0,
    .disconnect (generateAllocationId 1 0) 7]).service

/-- The client, with both of its sessions. -/
def twoSessions : Client :=
  ⟨((∅ : AList fun _ : Bytes => Nat).insert (generateAllocationId 1 0) 10).insert
    (generateAllocationId 2 0) 10, true⟩

/-- The lease that there is comes first. -/
theorem heartbeat_reaches_first :
    ((twoSessions.beat oneLeft [generateAllocationId 2 0, generateAllocationId 1 0] (fun _ => 9)
      (fun _ => 9)).2.allocations.lookup (generateAllocationId 2 0)).map Allocation.lastHeartbeat =
        some 9 := by
  have hknown : Known oneLeft (generateAllocationId 2 0) := by decide
  rcases Option.isSome_iff_exists.mp hknown with ⟨a, ha⟩
  rw [heartbeat_reaches twoSessions oneLeft [generateAllocationId 2 0, generateAllocationId 1 0] []
    [generateAllocationId 1 0] (by decide) _ _ _ a rfl ha]
  simp

/-- The lease that has ended comes first, and the other one is not renewed. -/
theorem heartbeat_stops_early :
    ((twoSessions.beat oneLeft [generateAllocationId 1 0, generateAllocationId 2 0] (fun _ => 9)
      (fun _ => 9)).2.allocations.lookup (generateAllocationId 2 0)).map Allocation.lastHeartbeat =
        some 0 := by
  decide

end Geminifs.NvmeService
