/-
This file models the tasks of `handle_tcp_client`, which share one registry. A task stops at every lock, at every
await and before every use of a channel.
-/

import RepriseP2p.Foundation.Machine
import RepriseP2p.Tcp.State

namespace RepriseP2p.Tcp

inductive ToNatServerMsg where
  | announceAndCheck (announce : ClientAnnouncementData)
  | getClients (app : String)
  | connectionRequest (request : ConnectionRequest)
  deriving DecidableEq

inductive ToNatClientMsg where
  | clients (clients : List ClientAnnouncement)
  | remoteAddr (addr : SocketAddr)
  | startCountdown (duration : Duration)
  deriving DecidableEq

/-- The sender of a one-shot channel is held, was used, or was dropped without use. -/
inductive Sender where
  | held
  | used
  | dropped
  deriving DecidableEq

/-- A one-shot channel, with its sender and whether its receiver is still alive. -/
structure Channel where
  sender : Sender
  receiver : Bool
  deriving DecidableEq

/-- Where a task waits. -/
inductive Stage where
  | updating
  | receiving
  | confirming (incoming : IncomingConnection)
  | answering (messages : List ToNatClientMsg)
  | telling (session : UInt64) (rx : Nat) (dst : SocketAddr)
  | waiting (session : UInt64) (rx : Nat) (deadline : Instant)
  | starting (session : UInt64)
  | withdrawing (session : UInt64)
  | closed
  deriving DecidableEq

/-- What a task does next, or what its client does. -/
inductive TaskEvent where
  | update
  | received (message : ToNatServerMsg)
  | quiet
  | disconnected
  | confirm
  | sent
  | sendFailed
  | woken
  | withdraw
  deriving DecidableEq

/-- What a task did to the registry or sent to its client. -/
inductive Act where
  | updated (removed : List UInt64)
  | announced (task : Nat) (session : UInt64) (taken : Option IncomingConnection)
  | inserted (task : Nat) (session : UInt64) (tx : Nat)
  | withdrawn (task : Nat) (session : UInt64)
  | sent (task : Nat) (message : ToNatClientMsg)
  deriving DecidableEq

/-- The registry, the tasks, the channels that they opened, and what they did, oldest first. -/
structure Tasks where
  state : State
  stages : Nat → Stage
  channels : Nat → Channel
  opened : Nat
  acts : List Act
  clock : Instant

namespace Tasks

def start : Tasks := ⟨.new, fun _ => .updating, fun _ => ⟨.held, true⟩, 0, [], 0⟩

def moveTo (tasks : Tasks) (task : Nat) (stage : Stage) : Tasks :=
  { tasks with stages := Function.update tasks.stages task stage }

def setSender (tasks : Tasks) (tx : Nat) (sender : Sender) : Tasks :=
  { tasks with channels := Function.update tasks.channels tx { tasks.channels tx with sender := sender } }

def dropReceiver (tasks : Tasks) (rx : Nat) : Tasks :=
  { tasks with channels := Function.update tasks.channels rx { tasks.channels rx with receiver := false } }

/-- The requests that leave the table drop their senders. -/
def dropPending (tasks : Tasks) (sessions : List UInt64) : Tasks :=
  let dropped := sessions.filterMap fun session => (tasks.state.pending session).map IncomingConnection.tx
  dropped.foldl (fun tasks tx => tasks.setSender tx .dropped) tasks

def log (tasks : Tasks) (act : Act) : Tasks := { tasks with acts := tasks.acts ++ [act] }

variable (addrs : Nat → SocketAddr)

/-- The handling of a message of the client. -/
def receive (now : Instant) (task : Nat) (tasks : Tasks) : ToNatServerMsg → Tasks
  | .getClients app => tasks.moveTo task (.answering [.clients (tasks.state.getClients app now)])
  | .announceAndCheck announce =>
      let (state, taken) := tasks.state.announceCheck announce (addrs task) now
      let stage := match taken with
        | some incoming => .confirming incoming
        | none => .closed
      ({ tasks with state }.log (.announced task announce.session taken)).moveTo task stage
  | .connectionRequest request =>
      match tasks.state.insertConnectionRequest request (addrs task) tasks.opened now with
      | (state, some dst) =>
          ({ tasks.dropPending [request.session] with state, opened := tasks.opened + 1 }.log
            (.inserted task request.session tasks.opened)).moveTo task (.telling request.session tasks.opened dst)
      | (_, none) => tasks.moveTo task .closed

/-- The use of the sender that came with a pending request. -/
def confirm (task : Nat) (incoming : IncomingConnection) (tasks : Tasks) : Tasks :=
  if (tasks.channels incoming.tx).receiver then
    (tasks.setSender incoming.tx .used).moveTo task
      (.answering [.remoteAddr incoming.addr, .startCountdown (Duration.fromMillis scheduleConMs)])
  else (tasks.setSender incoming.tx .dropped).moveTo task .updating

/-- The end of the wait for a confirmation, if it ends. -/
def wake (now : Instant) (task : Nat) (session : UInt64) (rx : Nat) (deadline : Instant) (tasks : Tasks) : Tasks :=
  match (tasks.channels rx).sender with
  | .used => (tasks.dropReceiver rx).moveTo task (.starting session)
  | .dropped => (tasks.dropReceiver rx).moveTo task (.withdrawing session)
  | .held => if deadline ≤ now then (tasks.dropReceiver rx).moveTo task (.withdrawing session) else tasks

/-- One step of a task. An event that does not fit the stage has no effect. -/
def step (now : Instant) (task : Nat) (tasks : Tasks) (event : TaskEvent) : Tasks :=
  match tasks.stages task, event with
  | .updating, .update =>
      let removed := tasks.state.toRemove now
      ({ tasks.dropPending removed with state := tasks.state.pollUpdate now }.log (.updated removed)).moveTo task
        .receiving
  | .receiving, .received message => tasks.receive addrs now task message
  | .receiving, .quiet => tasks.moveTo task .updating
  | .receiving, .disconnected => tasks.moveTo task .closed
  | .confirming incoming, .confirm => tasks.confirm task incoming
  | .answering [message], .sent => (tasks.log (.sent task message)).moveTo task .updating
  | .answering (message :: messages), .sent => (tasks.log (.sent task message)).moveTo task (.answering messages)
  | .answering _, .sendFailed => tasks.moveTo task .closed
  | .telling session rx dst, .sent =>
      let deadline := now + Duration.fromMillis connectionRequestTimeoutMs
      (tasks.log (.sent task (.remoteAddr dst))).moveTo task (.waiting session rx deadline)
  | .telling _ rx _, .sendFailed => (tasks.dropReceiver rx).moveTo task .closed
  | .waiting session rx deadline, .woken => tasks.wake now task session rx deadline
  | .starting session, .sent =>
      (tasks.log (.sent task (.startCountdown (Duration.fromMillis scheduleConMs)))).moveTo task (.withdrawing session)
  | .starting _, .sendFailed => tasks.moveTo task .closed
  | .withdrawing session, .withdraw =>
      ({ tasks.dropPending [session] with state := tasks.state.removeConnectionRequest session }.log
        (.withdrawn task session)).moveTo task .updating
  | _, _ => tasks

section Fields

variable (tasks : Tasks)

@[simp] theorem moveTo_state (task : Nat) (stage : Stage) : (tasks.moveTo task stage).state = tasks.state := rfl
@[simp] theorem moveTo_acts (task : Nat) (stage : Stage) : (tasks.moveTo task stage).acts = tasks.acts := rfl
@[simp] theorem moveTo_opened (task : Nat) (stage : Stage) : (tasks.moveTo task stage).opened = tasks.opened := rfl
@[simp] theorem setSender_state (tx : Nat) (sender : Sender) : (tasks.setSender tx sender).state = tasks.state := rfl
@[simp] theorem setSender_acts (tx : Nat) (sender : Sender) : (tasks.setSender tx sender).acts = tasks.acts := rfl
@[simp] theorem setSender_opened (tx : Nat) (sender : Sender) : (tasks.setSender tx sender).opened = tasks.opened := rfl
@[simp] theorem dropReceiver_state (rx : Nat) : (tasks.dropReceiver rx).state = tasks.state := rfl
@[simp] theorem dropReceiver_acts (rx : Nat) : (tasks.dropReceiver rx).acts = tasks.acts := rfl
@[simp] theorem dropReceiver_opened (rx : Nat) : (tasks.dropReceiver rx).opened = tasks.opened := rfl
@[simp] theorem log_state (act : Act) : (tasks.log act).state = tasks.state := rfl
@[simp] theorem log_acts (act : Act) : (tasks.log act).acts = tasks.acts ++ [act] := rfl
@[simp] theorem log_opened (act : Act) : (tasks.log act).opened = tasks.opened := rfl

/-- Dropping senders changes only the channels. -/
theorem dropPending_fields (sessions : List UInt64) : (tasks.dropPending sessions).acts = tasks.acts ∧
    (tasks.dropPending sessions).opened = tasks.opened := by
  unfold dropPending
  generalize sessions.filterMap (fun session => (tasks.state.pending session).map IncomingConnection.tx) = dropped
  induction dropped generalizing tasks with
  | nil => exact ⟨rfl, rfl⟩
  | cons tx dropped ih => exact ih (tasks.setSender tx .dropped)

end Fields

/-- A step of one task at this time. -/
def next (tasks : Tasks) (event : Instant × Nat × TaskEvent) : Tasks :=
  { tasks.step addrs event.1 event.2.1 event.2.2 with clock := event.1 }

end Tasks

/-- The tasks take their steps in any order while the clock does not decrease. -/
def tasksMachine (addrs : Nat → SocketAddr) : Machine Tasks (Instant × Nat × TaskEvent) where
  initial tasks := tasks = .start
  allowed tasks event := tasks.clock ≤ event.1
  next := Tasks.next addrs

instance (addrs : Nat → SocketAddr) (tasks : Tasks) (event : Instant × Nat × TaskEvent) :
    Decidable ((tasksMachine addrs).allowed tasks event) :=
  inferInstanceAs (Decidable (_ ≤ _))

def sampleTaskAddr (task : Nat) : SocketAddr := .v4 ⟨#v[10, 0, 0, UInt8.ofNat task], 4000⟩

/-- Task 0 announces session 7 and leaves. -/
def sampleAnnouncement : List (Instant × Nat × TaskEvent) :=
  [(0, 0, .update), (0, 0, .received (.announceAndCheck ⟨7, "app", "user"⟩))]

/-- A connector asks for session 7 and waits. -/
def sampleConnector (task : Nat) : List (Instant × Nat × TaskEvent) :=
  [(0, task, .update), (0, task, .received (.connectionRequest ⟨7⟩)), (0, task, .sent)]

def sampleTasks (events : List (Instant × Nat × TaskEvent)) : Tasks :=
  events.foldl (Tasks.next sampleTaskAddr) .start

theorem sampleTasks_run {events : List (Instant × Nat × TaskEvent)}
    (checked : (tasksMachine sampleTaskAddr).valid .start events = true) :
    (tasksMachine sampleTaskAddr).Run .start events (sampleTasks events) :=
  Machine.run_of_valid .nil checked

end RepriseP2p.Tcp
