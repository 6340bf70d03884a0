import Geminifs.Core.Snvme.Driver
import Geminifs.Theory.Snvme.Effects

/-!
# What Adding Queues Sends

The commands of one `NVM_ADD_USER_QUEUE`, with the maps they name. The pairs of
the batch are made one after the other up to the first that fails; if one does,
or if the answer cannot be copied out, all that were made are deleted. What the
loop sends, what the command that stops it leaves behind and what is taken back
are the three parts of a `Sending`.

The search for rings is done twice, once on the maps of a controller and once on
the module's maps with their identity; `findRegs_desc` says that both find the
same.

## Main definitions

* `Item`: A pair of a batch with its id and its rings.
* `Stopped`: What the pair that ends the loop leaves behind.
* `Sending`: All the commands of a batch, and whether it is committed.
* `SqRing`, `CqRing`: A map that may serve as a ring.
* `firstRefusal`: The answer that stops the loop.
* `BatchEnd`: How a batch ends.

## Theorems

* `findRegs_desc`, `findRegs_induct`: The search for rings.
* `createPairs_sends`, `createPairs_failed`: The loop.
* `addPairs_ends`: The batch.
-/

namespace Geminifs.Snvme

/-- A pair of a batch: its id, and the rings of its submission and of its
    completion queue. -/
abbrev Item := Nat × Registered × Registered

def Item.untag (x : Item) : Nat × MapDesc × MapDesc := (x.1, x.2.1.desc, x.2.2.desc)

def Item.createCq (c size : Nat) (x : Item) (ok : Bool) : Event :=
  .sent c (.createCq x.1 x.2.2.desc.addr size) (some x.2.2) ok

def Item.createSq (c size : Nat) (x : Item) (ok : Bool) : Event :=
  .sent c (.createSq x.1 x.2.1.desc.addr size) (some x.2.1) ok

/-- A pair that was made. -/
def madeEvents (c size : Nat) (x : Item) : List Event :=
  [Item.createCq c size x true, Item.createSq c size x true]

/-- What the first of the pairs that were not made leaves behind, if there is
    one: a completion queue that was refused, or one that is deleted again. -/
inductive Stopped (c size : Nat) : List Item → List Event → Prop where
  | complete : Stopped c size [] []
  | cq (x : Item) (rest : List Item) : Stopped c size (x :: rest) [Item.createCq c size x false]
  | sq (x : Item) (rest : List Item) : Stopped c size (x :: rest)
      [Item.createCq c size x true, Item.createSq c size x false, .sent c (.deleteCq x.1) none true]

/-- The commands of a batch, and whether it is committed. If not, the pairs that
    were made are deleted, in some order. -/
inductive Sending (c size : Nat) (items : List Item) : Bool → List Event → Prop where
  | committed : Sending c size items true (items.flatMap (madeEvents c size))
  | failed (made rest : List Item) (stop : List Event) (back : List Nat)
      (hitems : items = made ++ rest) (hstop : Stopped c size rest stop)
      (hback : back.Perm (made.map Prod.fst)) :
      Sending c size items false
        (made.flatMap (madeEvents c size) ++ stop ++ deleteEvents c (back.flatMap deletePair))

/-- The map is on the list and may be the ring of a submission queue. -/
def SqRing (rs : List Registered) (r : Registered) : Prop :=
  r ∈ rs ∧ (r.desc.kind = .unspecified ∨ r.desc.kind = .ringSq)

/-- The map is on the list and may be the ring of a completion queue. -/
def CqRing (rs : List Registered) (r : Registered) : Prop :=
  r ∈ rs ∧ (r.desc.kind = .unspecified ∨ r.desc.kind = .ringCq)

/-! ### Searching rings -/

/-- The search sees a map's contents only. -/
theorem findRegs_desc (pr : QueuePair) (sq cq : Option Registered) (rs : List Registered) :
    (findRegs pr sq cq rs).map (fun x => (x.1.desc, x.2.desc)) =
      findRings pr (sq.map Registered.desc) (cq.map Registered.desc)
        (rs.map Registered.desc) := by
  induction rs generalizing sq cq with
  | nil => cases sq <;> cases cq <;> rfl
  | cons r rs ih =>
    by_cases hboth : sq.isSome ∧ cq.isSome
    · rcases Option.isSome_iff_exists.mp hboth.1 with ⟨a, rfl⟩
      rcases Option.isSome_iff_exists.mp hboth.2 with ⟨b, rfl⟩
      rfl
    · -- As long as a ring is missing, both look at the next map.
      rw [findRegs.eq_3 pr sq cq r rs (fun a b ha hb => hboth ⟨by rw [ha]; rfl, by rw [hb]; rfl⟩),
        List.map_cons, findRings.eq_3 pr _ _ r.desc (rs.map Registered.desc) (fun a b ha hb =>
          hboth ⟨by rw [← Option.isSome_map, ha]; rfl, by rw [← Option.isSome_map, hb]; rfl⟩)]
      split
      · exact ih sq cq
      · rw [ih, apply_ite (Option.map Registered.desc), apply_ite (Option.map Registered.desc)]
        rfl

/-- What holds of every map that fits one side of a pair holds of the ring found for it. -/
theorem findRegs_induct {pr : QueuePair} {P Q : Registered → Prop} {rs : List Registered}
    {sq cq : Option Registered} {x : Registered × Registered}
    (hP : ∀ r ∈ rs, r.desc.vaddr = pageOf r.desc.pageSize pr.sqVaddr ∧
      (r.desc.kind = .unspecified ∨ r.desc.kind = .ringSq) → P r)
    (hQ : ∀ r ∈ rs, r.desc.vaddr = pageOf r.desc.pageSize pr.cqVaddr ∧
      (r.desc.kind = .unspecified ∨ r.desc.kind = .ringCq) → Q r)
    (hsq : ∀ r ∈ sq, P r) (hcq : ∀ r ∈ cq, Q r) (h : findRegs pr sq cq rs = some x) :
    P x.1 ∧ Q x.2 := by
  induction rs generalizing sq cq with
  | nil =>
    cases sq with
    | none => cases h
    | some a =>
      cases cq with
      | none => cases h
      | some b =>
        rw [findRegs, Option.some.injEq] at h
        rw [← h]
        exact ⟨hsq a rfl, hcq b rfl⟩
  | cons r rs ih =>
    have hP' := (List.forall_mem_cons.mp hP).2
    have hQ' := (List.forall_mem_cons.mp hQ).2
    by_cases hboth : sq.isSome ∧ cq.isSome
    · -- The search is over; what it found is from earlier maps.
      rcases Option.isSome_iff_exists.mp hboth.1 with ⟨a, rfl⟩
      rcases Option.isSome_iff_exists.mp hboth.2 with ⟨b, rfl⟩
      rw [findRegs, Option.some.injEq] at h
      rw [← h]
      exact ⟨hsq a rfl, hcq b rfl⟩
    · rw [findRegs.eq_3 pr sq cq r rs (fun a b ha hb => hboth ⟨by rw [ha]; rfl, by rw [hb]; rfl⟩)] at h
      split at h
      · exact ih hP' hQ' hsq hcq h
      · refine ih hP' hQ' (fun y hy => ?_) (fun y hy => ?_) h
        · split at hy
          next hmatch =>
            rw [← Option.some.inj hy]
            exact hP r List.mem_cons_self hmatch
          · exact hsq y hy
        · split at hy
          next hmatch =>
            rw [← Option.some.inj hy]
            exact hQ r List.mem_cons_self hmatch
          · exact hcq y hy

/-- Searching the rings of all pairs, and forgetting which maps they are. -/
theorem mapM_findRegs (pairs : List QueuePair) (rs : List Registered) :
    (pairs.mapM (fun pr => findRegs pr none none rs)).map
        (List.map (fun x => (x.1.desc, x.2.desc))) =
      pairs.mapM (fun pr => findRings pr none none (rs.map Registered.desc)) := by
  induction pairs with
  | nil => rfl
  | cons pr pairs ih =>
    have hpr := findRegs_desc pr none none rs
    rw [List.mapM_cons, List.mapM_cons, ← ih]
    -- The search starts without rings on both sides.
    change _ = (findRings pr (Option.map Registered.desc none) (Option.map Registered.desc none)
      (rs.map Registered.desc)).bind _
    rw [← hpr]
    cases findRegs pr none none rs with
    | none => rfl
    | some =>
      cases pairs.mapM (fun pr => findRegs pr none none rs) with
      | none | some => rfl

variable {rings : List (Registered × Registered)}

/-- What every search for a pair gives, all pairs have, and each gets its own. -/
theorem forall_of_mapM {pairs : List QueuePair} {f : QueuePair → Option (Registered × Registered)}
    {P : Registered × Registered → Prop}
    (hP : ∀ pr x, f pr = some x → P x) (h : pairs.mapM f = some rings) :
    rings.length = pairs.length ∧ ∀ x ∈ rings, P x := by
  induction pairs generalizing rings with
  | nil =>
    rw [← Option.some.inj h]
    exact ⟨rfl, fun x hx => absurd hx List.not_mem_nil⟩
  | cons pr pairs ih =>
    rw [List.mapM_cons] at h
    -- All searches succeeded, the first one among them.
    rcases Option.bind_eq_some_iff.mp h with ⟨x, hx, h⟩
    rcases Option.bind_eq_some_iff.mp h with ⟨xs, hxs, h⟩
    have hrest := ih hxs
    rw [← Option.some.inj h]
    exact ⟨by rw [List.length_cons, List.length_cons, hrest.1],
      List.forall_mem_cons.mpr ⟨hP pr x hx, hrest.2⟩⟩

/-! ### The loop -/

/-- The loop makes pairs up to the one that stops it, whatever is deleted
    afterwards. -/
theorem createPairs_sends (c : Nat) (ndev : NvmeDev) (env : AddEnv) (items : List Item) (i : Nat)
    (cmds : List AdminCmd) (created : List Nat) :
    ∃ made rest stop sent, items = made ++ rest ∧ Stopped c (qsize ndev) rest stop ∧
      (createPairs ndev env i (items.map Item.untag) ⟨cmds, created, none⟩).created =
        created ++ made.map Prod.fst ∧
      ((createPairs ndev env i (items.map Item.untag) ⟨cmds, created, none⟩).failed = none ↔
        rest = []) ∧
      (createPairs ndev env i (items.map Item.untag) ⟨cmds, created, none⟩).cmds = cmds ++ sent ∧
      ∀ tail, addEvents c env i (items.map Prod.snd) (sent ++ tail) =
        made.flatMap (madeEvents c (qsize ndev)) ++ stop ++ deleteEvents c tail := by
  induction items generalizing i cmds created with
  | nil =>
    refine ⟨[], [], [], [], rfl, .complete, (List.append_nil _).symm, iff_of_true rfl rfl,
      (List.append_nil _).symm, fun tail => ?_⟩
    cases tail <;> rfl
  | cons x items ih =>
    rw [List.map_cons, Item.untag, createPairs]
    by_cases hcq : env.cqRet i = 0
    · by_cases hsq : env.sqRet i = 0
      · -- The pair is made, and the loop goes on.
        rcases ih (i + 1) (cmds ++ [.createCq x.1 x.2.2.desc.addr (qsize ndev)] ++
          [.createSq x.1 x.2.1.desc.addr (qsize ndev)]) (created ++ [x.1]) with
          ⟨made, rest, stop, sent, hitems, hstop, hmade, hfailed, hsent, hevents⟩
        rw [if_neg (not_not.mpr hcq), if_neg (not_not.mpr hsq)]
        refine ⟨x :: made, rest, stop, [.createCq x.1 x.2.2.desc.addr (qsize ndev),
          .createSq x.1 x.2.1.desc.addr (qsize ndev)] ++ sent, by rw [hitems]; rfl, hstop, ?_,
          hfailed, ?_, fun tail => ?_⟩
        · rw [hmade, List.map_cons, List.append_assoc]
          rfl
        · rw [hsent, List.append_assoc, List.append_assoc]
          rfl
        · rw [List.append_assoc, List.cons_append, List.cons_append, List.nil_append, List.map_cons]
          rw [addEvents, if_neg (not_not.mpr hcq), if_neg (not_not.mpr hsq), hevents tail,
            List.flatMap_cons, decide_eq_true hcq, decide_eq_true hsq]
          rfl
      · rw [if_neg (not_not.mpr hcq), if_pos hsq]
        refine ⟨[], x :: items, _, _, rfl, .sq x items, (List.append_nil _).symm,
          iff_of_false (by simp) (by simp), by rw [List.append_assoc, List.append_assoc],
          fun tail => ?_⟩
        show addEvents c env i ((x.2.1, x.2.2) :: items.map Prod.snd) (_ :: _ :: _) = _
        rw [addEvents, if_neg (not_not.mpr hcq), if_pos hsq, decide_eq_true hcq,
          decide_eq_false hsq]
        rfl
    · rw [if_pos hcq]
      refine ⟨[], x :: items, _, _, rfl, .cq x items, (List.append_nil _).symm,
        iff_of_false (by simp) (by simp), rfl, fun tail => ?_⟩
      show addEvents c env i ((x.2.1, x.2.2) :: items.map Prod.snd) (_ :: tail) = _
      cases tail with
      | nil =>
        rw [addEvents, decide_eq_false hcq]
        rfl
      | cons =>
        rw [addEvents, if_pos hcq, decide_eq_false hcq]
        rfl

/-! ### The batch -/

/-- The first answer of the controller that is not 0, with the answers for a
    pair in the order of its commands. -/
def firstRefusal (env : AddEnv) : Nat → Nat → Option Int
  | _, 0 => none
  | i, nr + 1 =>
    if env.cqRet i ≠ 0 then some (env.cqRet i)
    else if env.sqRet i ≠ 0 then some (env.sqRet i)
    else firstRefusal env (i + 1) nr

/-- The first answer that is not 0 stops the loop. -/
theorem createPairs_failed (ndev : NvmeDev) (env : AddEnv)
    (items : List (Nat × MapDesc × MapDesc)) (i : Nat) (cmds : List AdminCmd)
    (created : List Nat) :
    (createPairs ndev env i items ⟨cmds, created, none⟩).failed =
      firstRefusal env i items.length := by
  induction items generalizing i cmds created with
  | nil => rfl
  | cons x items ih =>
    rw [createPairs, List.length_cons, firstRefusal]
    split
    · rfl
    · split
      · rfl
      · exact ih (i + 1) _ _

theorem firstRefusal_ne_zero {env : AddEnv} {i nr : Nat} {rc : Int}
    (h : firstRefusal env i nr = some rc) : rc ≠ 0 := by
  induction nr generalizing i with
  | zero => cases h
  | succ nr ih =>
    rw [firstRefusal] at h
    split at h
    next hcq => rwa [← Option.some.inj h]
    · split at h
      next hsq => rwa [← Option.some.inj h]
      · exact ih h

/-- The group after its batch: the slots behind the counter are live. -/
def QGroup.commit (g : QGroup) (qids : List Nat) (pairs : List QueuePair) : QGroup :=
  { g with
    queues := writeSlots g.queues g.curQueues (slotsOf qids pairs true)
    curQueues := g.curQueues + qids.length }

/-- The group after a batch that was taken back: the slots behind the counter
    were written and are dead. -/
def QGroup.unwind (g : QGroup) (qids : List Nat) (pairs : List QueuePair) : QGroup :=
  { g with queues := writeSlots g.queues g.curQueues (slotsOf qids pairs false) }

/-- How a batch ends: committed with all its pairs made and their doorbells
    returned, or with the groups as they were, no pair left, and the first answer
    that is not 0 or a failed copy as its result. -/
inductive BatchEnd (c : Nat) (s : State) (own : Owner) (g : QGroup) (ndev : NvmeDev)
    (pairs : List QueuePair) (env : AddEnv) (qids : List Nat) (items : List Item) (r : Result)
    (es : List Event) : Prop where
  | committed
      (howners : r.state.owners =
        (s.updateOwner own.fd (Owner.putGroup (g.commit qids pairs))).owners)
      (hevents : Sending c (qsize ndev) items true es)
      (hreply : r.reply = .queues (qids.map (doorbells ndev)))
      (hanswers : firstRefusal env 0 qids.length = none)
  | failed (rc : Int)
      (howners : r.state.owners = s.owners ∨
        r.state.owners = (s.updateOwner own.fd (Owner.putGroup (g.unwind qids pairs))).owners)
      (hevents : Sending c (qsize ndev) items false es)
      (hreply : r.reply = .ret rc)
      (hanswers : firstRefusal env 0 qids.length = some rc ∨
        firstRefusal env 0 qids.length = none ∧ rc = efault)

/-- Every batch ends so. -/
theorem addPairs_ends (c : Nat) (s : State) (own : Owner) (g : QGroup) (ndev : NvmeDev)
    (p : UserQidPool) (req : AddReq) (env : AddEnv) {qids : List Nat}
    {r : Result} (hlen : qids.length = rings.length)
    (heq : r = addPairs s own g ndev p req qids (rings.map (fun x => (x.1.desc, x.2.desc))) env) :
    BatchEnd c s own g ndev req.pairs env qids (qids.zip rings) r
      (addEvents c env 0 rings r.cmds) := by
  have hrings : (qids.zip rings).map Prod.snd = rings := List.map_snd_zip (by omega)
  have hqids : (qids.zip rings).map Prod.fst = qids := List.map_fst_zip (by omega)
  have huntag : qids.zip (rings.map (fun x => (x.1.desc, x.2.desc))) =
      (qids.zip rings).map Item.untag := List.zip_map_right
  have hrefusal := createPairs_failed ndev env ((qids.zip rings).map Item.untag) 0 [] []
  rw [List.length_map, List.length_zip, ← hlen, Nat.min_self] at hrefusal
  rcases createPairs_sends c ndev env (qids.zip rings) 0 [] [] with
    ⟨made, rest, stop, sent, hitems, hstop, hmade, hfailed, hsent, hevents⟩
  rw [List.nil_append] at hmade hsent
  rw [hrings] at hevents
  unfold addPairs at heq
  dsimp only at heq
  rw [huntag] at heq
  generalize createPairs ndev env 0 ((qids.zip rings).map Item.untag) ⟨[], [], none⟩ = l at *
  split at heq
  next rc hrc =>
    -- A command failed: the pairs made are deleted, the last one first.
    subst heq
    refine .failed rc (.inl rfl) ?_ rfl (.inl (hrefusal.symm.trans hrc))
    rw [hsent, hmade, hevents]
    exact .failed made rest stop _ hitems hstop (List.reverse_perm _)
  next hrc =>
    have hrest := hfailed.mp hrc
    subst hrest
    cases hstop
    have hall : made = qids.zip rings := by rw [hitems, List.append_nil]
    split at heq
    · subst heq
      refine .committed rfl ?_ rfl (hrefusal.symm.trans hrc)
      have hjust := hevents []
      rw [List.append_nil, List.append_nil] at hjust
      rw [hsent, hjust, hall]
      show Sending _ _ _ _ (_ ++ [])
      rw [List.append_nil]
      exact .committed
    · subst heq
      refine .failed efault (.inr rfl) ?_ rfl (.inr ⟨hrefusal.symm.trans hrc, rfl⟩)
      rw [hsent, hevents]
      refine .failed made [] [] qids hitems .complete ?_
      rw [hall, hqids]

end Geminifs.Snvme
