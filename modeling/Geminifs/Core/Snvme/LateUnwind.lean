import Geminifs.Core.Snvme.UserQueues

/-!
# The Late Unwind

`NVM_ADD_USER_QUEUE` holds the lock of its descriptor's groups until its queues are
committed. It drops the lock to copy the answer out, and if that fails takes it
again to revert what it committed. Between the two sections any other call on the
descriptor can hold the lock.

## Main definitions

* `Pending`: A call between its two sections.
* `Window`: A descriptor's controller, with the calls that are pending.
* `Window.add`, `lateUnwind`: The two sections.
* `Window.step`: One section of some call.
-/

namespace Geminifs.Snvme

/-- A call whose answer could not be copied out: its group, `cur_queues` before it,
    the ids it committed, and whether the group was freed since. The code keeps
    a pointer to the group and the number of ids only. -/
structure Pending where
  groupId : Nat
  start : Nat
  qids : List Nat
  freed : Bool
  deriving DecidableEq, Repr

structure Window where
  state : State
  pending : List Pending

/-- What is done under the lock at once. -/
inductive Section where
  | add (req : AddReq) (env : AddEnv)
  | unwind (i : Nat)
  | destroy (groupId : Nat) (copyIn : Bool)

/-- The first section of `NVM_ADD_USER_QUEUE`. -/
def Window.add (w : Window) (fd : Nat) (req : AddReq) (env : AddEnv) : Window :=
  let r := nvmAddUserQueue w.state fd req { env with copyOut := true }
  match r.reply with
  | .queues out =>
    if env.copyOut then ⟨r.state, w.pending⟩
    else
      let start := ((w.state.qgroup fd req.groupId).map QGroup.curQueues).getD 0
      ⟨r.state, w.pending ++ [⟨req.groupId, start, out.map Prod.fst, false⟩]⟩
  | _ => ⟨r.state, w.pending⟩

/-- A group whose slots from an index on are dead, and not counted. -/
def QGroup.truncate (g : QGroup) (first nr : Nat) : QGroup :=
  { g with
    queues := fun i =>
      if first ≤ i ∧ i < first + nr then { g.queues i with alive := false } else g.queues i
    curQueues := first }

/-- The second section: the last slots are reverted, whosever they are. There is
    none if the group was freed, but the code does not check that. -/
def lateUnwind (s : State) (fd : Nat) (p : Pending) : Option (State × List AdminCmd) :=
  if p.freed then none
  else
    (s.qgroup fd p.groupId).map fun g =>
      let first := g.curQueues - p.qids.length
      let qids := (List.range p.qids.length).map fun i => (g.queues (first + i)).qid
      ({ s.updateOwner fd (fun o =>
          { o with
            groups := updateFirst (fun x => x.groupId == g.groupId)
              (fun _ => g.truncate first p.qids.length) o.groups }) with
        pool := s.pool.map (·.freeAll qids) }, qids.flatMap deletePair)

/-- The calls that point to a group when it is freed. -/
def freeGroup (groupId : Nat) (ps : List Pending) : List Pending :=
  ps.map fun p => if p.groupId = groupId then { p with freed := true } else p

def Window.step (fd : Nat) (w : Window) : Section → Window
  | .add req env => w.add fd req env
  | .unwind i =>
    match w.pending[i]? with
    | none => w
    | some p =>
      match lateUnwind w.state fd p with
      | some r => ⟨r.1, w.pending.eraseIdx i⟩
      -- Memory that was freed is read and written, which can do anything.
      | none => ⟨w.state, w.pending.eraseIdx i⟩
  | .destroy groupId copyIn =>
    let r := nvmDestroyQueueGroup w.state fd groupId copyIn
    ⟨r.state, if r.reply = .ret 0 then freeGroup groupId w.pending else w.pending⟩

end Geminifs.Snvme
