import Geminifs.Core.NvmeService.State

/-!
# Heartbeats

A client sends the ids of all its sessions on one stream, and reads the answers. The
daemon renews the leases in the order in which the messages come. At an id that it does
not know it says that the lease is revoked, and leaves the stream; the client then
forgets the session.

All the messages of a stream are delivered.

## Main definitions

* `HeartbeatMsg`: A message, with a notice on the way back.
* `ServiceState.heartbeat`: What the daemon does with a stream.
* `Client.beat`: One round of `heartbeat_loop`.
-/

namespace Geminifs.NvmeService

inductive NoticeKind where
  | none
  | leaseExpiring
  | leaseRevoked
  deriving DecidableEq, Repr

structure AdminNotice where
  kind : NoticeKind
  secondsRemaining : Nat := 0
  message : Bytes
  deriving DecidableEq, Repr

structure HeartbeatMsg where
  allocationId : Bytes
  timestampNs : Nat
  notice : Option AdminNotice := none
  deriving DecidableEq, Repr

/-- `Heartbeat`, of the messages with the times at which they are handled. -/
def ServiceState.heartbeat : ServiceState → List (HeartbeatMsg × Nat) →
    ServiceState × List HeartbeatMsg
  | s, [] => (s, [])
  | s, (msg, now) :: rest =>
    match s.updateHeartbeat msg.allocationId now with
    | (s, .error err) =>
      -- Whatever else is on the stream is not read.
      (s, [⟨msg.allocationId, msg.timestampNs, some ⟨.leaseRevoked, 0, err⟩⟩])
    | (s, .ok ()) =>
      let (s, answers) := heartbeat s rest
      (s, ⟨msg.allocationId, msg.timestampNs, none⟩ :: answers)

/-- `NvmeServiceClient`: the intervals of its sessions, and whether it sends heartbeats. -/
structure Client where
  liveSessions : AList fun _ : Bytes => Nat
  hbRunning : Bool

namespace Client

/-- An answer is read. -/
def readAnswer (c : Client) (answer : HeartbeatMsg) : Client :=
  match answer.notice with
  | some ⟨.leaseRevoked, _, _⟩ => { c with liveSessions := c.liveSessions.erase answer.allocationId }
  | _ => c

/-- How long the client sleeps after a round, in seconds. -/
def interval (c : Client) : Nat := c.liveSessions.entries.foldl (fun i e => min i e.2) 10

/-- The messages of a round, for the sessions in the order in which the client goes
    through them, with the times at which they are sent and handled. -/
def batch (ids : List Bytes) (sent handled : Bytes → Nat) : List (HeartbeatMsg × Nat) :=
  ids.map fun id => (⟨id, sent id, none⟩, handled id)

/-- One round of `heartbeat_loop`, in which the ids have been taken before. -/
def beat (c : Client) (s : ServiceState) (ids : List Bytes) (sent handled : Bytes → Nat) :
    Client × ServiceState :=
  if ids = [] then ({ c with hbRunning := false }, s)
  else
    let (s, answers) := s.heartbeat (batch ids sent handled)
    (answers.foldl readAnswer c, s)

end Client

end Geminifs.NvmeService
