/-
This file gives the calls that connectors and services share, and proves when, where and from which port they dial.
-/

import RepriseP2p.Foundation.RetryLoop
import RepriseP2p.Tcp.Service

namespace RepriseP2p.Tcp

open RetryLoop

/-- The direct connection, which connectors and services make in the same way. -/
inductive DirectStage where
  | counting (remoteAddr : SocketAddr) (wakeUp : Instant)
  | dialling (remoteAddr : SocketAddr) (deadline timeout : Instant) (socket : BoundSocket)
  | resting (remoteAddr : SocketAddr) (deadline wakeUp : Instant)
  deriving DecidableEq

namespace DirectStage

def remoteAddr : DirectStage → SocketAddr
  | .counting addr _ | .dialling addr _ _ _ | .resting addr _ _ => addr

def phase : DirectStage → Phase
  | .counting _ wakeUp => .waiting wakeUp
  | .dialling _ deadline _ _ => .trying deadline
  | .resting _ deadline wakeUp => .resting deadline wakeUp

end DirectStage

def ConnectorStage.directStage : ConnectorStage → Option DirectStage
  | .counting addr wakeUp => some (.counting addr wakeUp)
  | .dialling addr deadline timeout socket => some (.dialling addr deadline timeout socket)
  | .resting addr deadline wakeUp => some (.resting addr deadline wakeUp)
  | _ => none

def ServiceStage.directStage : ServiceStage → Option DirectStage
  | .counting addr wakeUp => some (.counting addr wakeUp)
  | .dialling addr deadline timeout socket => some (.dialling addr deadline timeout socket)
  | .resting addr deadline wakeUp => some (.resting addr deadline wakeUp)
  | _ => none

/-- A client of the server that makes a call. -/
inductive TcpClient where
  | connector (run : ConnectorRun)
  | service (run : ServiceRun)
  deriving DecidableEq

namespace TcpClient

def step (windows : Bool) (now : Instant) (answers : SystemAnswers) (event : ConnectorEvent) : TcpClient → TcpClient
  | .connector run => .connector (run.step windows now answers event)
  | .service run => .service (run.step windows now answers (.answered event))

def parent : TcpClient → SocketAddrV4
  | .connector run => run.parentSocket.socket
  | .service run => run.parentSocket.socket

def directStage : TcpClient → Option DirectStage
  | .connector run => run.stage.directStage
  | .service run => run.stage.directStage

def phase (client : TcpClient) : Phase := client.directStage.elim .outside DirectStage.phase

/-- The call has returned, or it was dropped, or the program panicked. -/
def Over : TcpClient → Prop
  | .connector run => run.Idle ∨ run.stage = .panicked
  | .service run => run.Idle ∨ run.stage = .panicked

end TcpClient

/-- The events of one call: no other call begins. -/
def callMachine (windows : Bool) : Machine TcpClient (Instant × SystemAnswers × ConnectorEvent) where
  initial client := (∃ run call deadline, client = .connector run ∧ run.stage = .connecting call deadline) ∨
    ∃ run deadline, client = .service run ∧ run.stage = .connecting deadline
  allowed _ event := ∀ call, event.2.2 ≠ .call call
  next client event := client.step windows event.1 event.2.1 event.2.2

instance (windows : Bool) (client : TcpClient) (event : Instant × SystemAnswers × ConnectorEvent) :
    Decidable ((callMachine windows).allowed client event) :=
  match taken : event.2.2 with
  | .call call => .isFalse fun none => none call taken
  | .connected | .connectFailed | .sent | .sendFailed | .received _ | .channelFailed _ | .timedOut | .woken | .dialled
  | .dialFailed | .dropped => .isTrue fun call same => by cases taken.symm.trans same

/-- One connection attempt: when it starts, where it goes and from which socket. -/
structure Dial where
  tm : Instant
  remoteAddr : SocketAddr
  socket : BoundSocket
  deriving DecidableEq

/-- The attempt that starts between two stages. -/
def Dial.between (now : Instant) : Option DirectStage → Option DirectStage → Option Dial
  | some (.dialling _ _ _ _), _ => none
  | _, some (.dialling addr _ _ socket) => some ⟨now, addr, socket⟩
  | _, _ => none

/-- The attempt that starts in a step. -/
def TcpClient.dial (windows : Bool) (client : TcpClient) (event : Instant × SystemAnswers × ConnectorEvent) :
    Option Dial :=
  Dial.between event.1 client.directStage (client.step windows event.1 event.2.1 event.2.2).directStage

/-- The attempts of a run, oldest first. -/
def dials (windows : Bool) (start : TcpClient) (events : List (Instant × SystemAnswers × ConnectorEvent)) : List Dial :=
  (callMachine windows).notes (TcpClient.dial windows) start events

/-- What one step does to a direct connection, of a client with this port. -/
inductive DirectStep (port : UInt16) (now : Instant) : DirectStage → Option DirectStage → Prop where
  | ignored (stage : DirectStage) : DirectStep port now stage (some stage)
  | ended (stage : DirectStage) : DirectStep port now stage none
  | first (addr : SocketAddr) (wakeUp timeout : Instant) (socket : BoundSocket) (woken : wakeUp ≤ now)
      (own : socket.localAddr.port = port) : DirectStep port now (.counting addr wakeUp)
        (some (.dialling addr (now + Duration.fromMillis 500) timeout socket))
  | again (addr : SocketAddr) (deadline wakeUp timeout : Instant) (socket : BoundSocket) (woken : wakeUp ≤ now)
      (early : now < deadline) (own : socket.localAddr.port = port) : DirectStep port now
        (.resting addr deadline wakeUp) (some (.dialling addr deadline timeout socket))
  | failed (addr : SocketAddr) (deadline timeout : Instant) (socket : BoundSocket) : DirectStep port now
      (.dialling addr deadline timeout socket) (some (.resting addr deadline (now + Duration.fromMillis 20)))

namespace DirectStep

variable {port : UInt16} {now : Instant} {stage : DirectStage} {next : Option DirectStage}

theorem loops (moved : DirectStep port now stage next) :
    Step (Duration.fromMillis 500) (Duration.fromMillis 20) now stage.phase (next.elim .outside DirectStage.phase) := by
  cases moved with
  | ignored => exact .stay stage.phase
  | ended => exact .leave stage.phase
  | first addr wakeUp timeout socket woken own => exact .begin wakeUp woken
  | again addr deadline wakeUp timeout socket woken early own => exact .again deadline wakeUp woken early
  | failed addr deadline timeout socket => exact .fail deadline

theorem remoteAddr_eq (moved : DirectStep port now stage next) : ∀ after ∈ next, after.remoteAddr = stage.remoteAddr := by
  intro after reached
  cases moved with
  | ended => cases reached
  | _ =>
      cases reached
      rfl

/-- An attempt goes to the address of the direct connection, from the port of the client. -/
theorem dial (moved : DirectStep port now stage next) :
    (Dial.between now (some stage) next).map Dial.tm =
        attempt now stage.phase (next.elim .outside DirectStage.phase) ∧
      ∀ dial ∈ Dial.between now (some stage) next,
        dial.remoteAddr = stage.remoteAddr ∧ dial.socket.localAddr.port = port := by
  cases moved with
  | ignored => cases stage <;> exact ⟨rfl, by simp [Dial.between]⟩
  | ended => cases stage <;> exact ⟨rfl, by simp [Dial.between]⟩
  | first addr wakeUp timeout socket woken own =>
      refine ⟨rfl, ?_⟩
      intro dial started
      cases started
      exact ⟨rfl, own⟩
  | again addr deadline wakeUp timeout socket woken early own =>
      refine ⟨rfl, ?_⟩
      intro dial started
      cases started
      exact ⟨rfl, own⟩
  | failed => exact ⟨rfl, by simp [Dial.between]⟩

end DirectStep

section Steps

variable (windows : Bool) (now : Instant) (answers : SystemAnswers)

/-- The head of the loop starts an attempt before the deadline. Otherwise the call is over. -/
theorem ConnectorRun.dial_cases (run : ConnectorRun) (addr : SocketAddr) (deadline : Instant) :
    (now < deadline ∧ ∃ timeout socket, socket.localAddr.port = run.parentSocket.socket.port ∧
      (run.dial windows now answers addr deadline).stage = .dialling addr deadline timeout socket) ∨
      (run.dial windows now answers addr deadline).Idle ∨
        (run.dial windows now answers addr deadline).stage = .panicked := by
  unfold dial
  split_ifs with early
  · unfold cloned
    split
    · rename_i socket parentSocket happened
      exact .inl ⟨early, _, socket, ReusableTcpSocket.clone_port happened, rfl⟩
    · exact .inr (.inr rfl)
    · exact .inr (.inr rfl)
  · exact .inr (run.finish_stage _).symm

theorem ServiceRun.dial_cases (run : ServiceRun) (addr : SocketAddr) (deadline : Instant) :
    (now < deadline ∧ ∃ timeout socket, socket.localAddr.port = run.parentSocket.socket.port ∧
      (run.dial windows now answers addr deadline).stage = .dialling addr deadline timeout socket) ∨
      (run.dial windows now answers addr deadline).Idle ∨
        (run.dial windows now answers addr deadline).stage = .panicked := by
  unfold dial
  split_ifs with early
  · unfold cloned
    split
    · rename_i socket parentSocket happened
      exact .inl ⟨early, _, socket, ReusableTcpSocket.clone_port happened, rfl⟩
    · exact .inr (.inr rfl)
    · exact .inr (.inr rfl)
  · exact .inr (.inl ⟨_, rfl⟩)

namespace TcpClient

/-- What one step does to a client in its direct connection. Without the direct connection the call is over. -/
def Steps (now : Instant) (port : UInt16) (stage : DirectStage) (next : TcpClient) : Prop :=
  DirectStep port now stage next.directStage ∧ (next.directStage = none → next.Over)

theorem Over.directStage {client : TcpClient} (ended : client.Over) : client.directStage = none := by
  cases client with
  | connector run =>
      obtain ⟨result, stage⟩ | stage := ended
      · simp only [TcpClient.directStage, stage, ConnectorStage.directStage]
      · simp only [TcpClient.directStage, stage, ConnectorStage.directStage]
  | service run =>
      obtain ⟨result, stage⟩ | stage := ended
      · simp only [TcpClient.directStage, stage, ServiceStage.directStage]
      · simp only [TcpClient.directStage, stage, ServiceStage.directStage]

section Moves

variable {now} {port : UInt16} {stage after : DirectStage} {next : TcpClient}

theorem Steps.over (ended : next.Over) : Steps now port stage next :=
  ⟨ended.directStage ▸ .ended stage, fun _ => ended⟩

theorem Steps.kept (there : next.directStage = some after) (moved : DirectStep port now stage (some after)) :
    Steps now port stage next := by
  refine ⟨there ▸ moved, ?_⟩
  intro none
  cases there.symm.trans none

end Moves

/-- The head of the loop dials or ends the call. -/
theorem connector_dial (run : ConnectorRun) {stage : DirectStage} (addr : SocketAddr) (deadline : Instant)
    (moved : ∀ timeout socket, now < deadline → socket.localAddr.port = run.parentSocket.socket.port →
      DirectStep run.parentSocket.socket.port now stage (some (.dialling addr deadline timeout socket))) :
    Steps now run.parentSocket.socket.port stage (.connector (run.dial windows now answers addr deadline)) := by
  obtain ⟨early, timeout, socket, own, reached⟩ | ended := run.dial_cases windows now answers addr deadline
  · exact .kept (by simp only [directStage, reached, ConnectorStage.directStage]) (moved timeout socket early own)
  · exact .over ended

theorem service_dial (run : ServiceRun) {stage : DirectStage} (addr : SocketAddr) (deadline : Instant)
    (moved : ∀ timeout socket, now < deadline → socket.localAddr.port = run.parentSocket.socket.port →
      DirectStep run.parentSocket.socket.port now stage (some (.dialling addr deadline timeout socket))) :
    Steps now run.parentSocket.socket.port stage (.service (run.dial windows now answers addr deadline)) := by
  obtain ⟨early, timeout, socket, own, reached⟩ | ended := run.dial_cases windows now answers addr deadline
  · exact .kept (by simp only [directStage, reached, ServiceStage.directStage]) (moved timeout socket early own)
  · exact .over ended

theorem connector_connectDirectly (run : ConnectorRun) {stage : DirectStage}
    (inside : run.stage.directStage = some stage) (event : ConnectorEvent) :
    Steps now run.parentSocket.socket.port stage (.connector (run.connectDirectly windows now answers event)) := by
  have ignored : Steps now run.parentSocket.socket.port stage (.connector run) := .kept inside (.ignored stage)
  have here {other : ConnectorStage} (reached : run.stage = other) : other.directStage = some stage := reached ▸ inside
  unfold ConnectorRun.connectDirectly
  split
  · rename_i addr wakeUp reached
    cases here reached
    split_ifs with woken
    · exact connector_dial windows now answers run addr _ fun timeout socket _ own =>
        .first addr wakeUp timeout socket woken own
    · exact ignored
  · exact .over (run.finish_stage _).symm
  · rename_i addr deadline timeout socket reached
    cases here reached
    exact .kept rfl (.failed addr deadline timeout socket)
  · rename_i addr deadline timeout socket reached
    cases here reached
    split_ifs
    · exact .kept rfl (.failed addr deadline timeout socket)
    · exact ignored
  · rename_i addr deadline wakeUp reached
    cases here reached
    split_ifs with woken
    · exact connector_dial windows now answers run addr deadline (.again addr deadline wakeUp · · woken)
    · exact ignored
  · exact ignored

theorem service_connectDirectly (run : ServiceRun) {stage : DirectStage}
    (inside : run.stage.directStage = some stage) (event : ConnectorEvent) :
    Steps now run.parentSocket.socket.port stage (.service (run.connectDirectly windows now answers event)) := by
  have ignored : Steps now run.parentSocket.socket.port stage (.service run) := .kept inside (.ignored stage)
  have here {other : ServiceStage} (reached : run.stage = other) : other.directStage = some stage := reached ▸ inside
  unfold ServiceRun.connectDirectly
  split
  · rename_i addr wakeUp reached
    cases here reached
    split_ifs with woken
    · exact service_dial windows now answers run addr _ fun timeout socket _ own =>
        .first addr wakeUp timeout socket woken own
    · exact ignored
  · exact .over (.inl ⟨_, rfl⟩)
  · rename_i addr deadline timeout socket reached
    cases here reached
    exact .kept rfl (.failed addr deadline timeout socket)
  · rename_i addr deadline timeout socket reached
    cases here reached
    split_ifs
    · exact .kept rfl (.failed addr deadline timeout socket)
    · exact ignored
  · rename_i addr deadline wakeUp reached
    cases here reached
    split_ifs with woken
    · exact service_dial windows now answers run addr deadline (.again addr deadline wakeUp · · woken)
    · exact ignored
  · exact ignored

theorem connector_steps (run : ConnectorRun) {stage : DirectStage} (inside : run.stage.directStage = some stage)
    (event : ConnectorEvent) :
    Steps now run.parentSocket.socket.port stage (.connector (run.step windows now answers event)) := by
  unfold ConnectorRun.step
  split_ifs with dropped
  · unfold ConnectorRun.dropped
    split
    · exact .kept inside (.ignored stage)
    · exact .kept inside (.ignored stage)
    · exact .over (.inl ⟨none, rfl⟩)
  · have direct := connector_connectDirectly windows now answers run inside event
    cases reached : run.stage with
    | counting addr wakeUp => exact direct
    | dialling addr deadline timeout socket => exact direct
    | resting addr deadline wakeUp => exact direct
    | _ => simp [reached, ConnectorStage.directStage] at inside

/-- An answer of the world is for the call in progress. -/
theorem service_answered (run : ServiceRun) (event : ConnectorEvent) :
    run.step windows now answers (.answered event) = run.answered windows now answers event := by
  unfold ServiceRun.step
  cases run.stage <;> rfl

theorem service_steps (run : ServiceRun) {stage : DirectStage} (inside : run.stage.directStage = some stage)
    (event : ConnectorEvent) :
    Steps now run.parentSocket.socket.port stage (.service (run.step windows now answers (.answered event))) := by
  rw [service_answered]
  unfold ServiceRun.answered
  split_ifs with dropped
  · unfold ServiceRun.dropped
    split
    · exact .kept inside (.ignored stage)
    · exact .kept inside (.ignored stage)
    · exact .over (.inl ⟨none, rfl⟩)
  · have direct := service_connectDirectly windows now answers run inside event
    cases reached : run.stage with
    | counting addr wakeUp => exact direct
    | dialling addr deadline timeout socket => exact direct
    | resting addr deadline wakeUp => exact direct
    | _ => simp [reached, ServiceStage.directStage] at inside

/-- The step changes neither the port of the service nor its announcement. -/
def Keeps (run next : ServiceRun) : Prop :=
  next.parentSocket.socket = run.parentSocket.socket ∧ next.advData = run.advData

theorem Keeps.refl (run : ServiceRun) : Keeps run run := ⟨rfl, rfl⟩

theorem keeps_moveTo (run : ServiceRun) (stage : ServiceStage) : Keeps run (run.moveTo stage) := ⟨rfl, rfl⟩

theorem keeps_request (run : ServiceRun) (event : ConnectorEvent) : Keeps run (run.request now event) := by
  unfold ServiceRun.request
  split
  · exact keeps_moveTo run _
  · exact keeps_moveTo run _
  · split_ifs
    · exact keeps_moveTo run _
    · exact .refl run
  · exact keeps_moveTo run _
  · exact keeps_moveTo run _
  · exact .refl run

theorem keeps_await (run : ServiceRun) (event : ConnectorEvent) : Keeps run (run.await now event) := by
  unfold ServiceRun.await
  split
  · exact keeps_moveTo run _
  · exact keeps_moveTo run _
  · exact keeps_moveTo run _
  · split_ifs
    · exact keeps_moveTo run _
    · exact .refl run
  · exact keeps_moveTo run _
  · exact keeps_moveTo run _
  · split_ifs
    · exact keeps_moveTo run _
    · exact .refl run
  · exact .refl run

theorem keeps_dial (run : ServiceRun) (addr : SocketAddr) (deadline : Instant) :
    Keeps run (run.dial windows now answers addr deadline) := by
  unfold ServiceRun.dial
  split_ifs
  · unfold ServiceRun.cloned
    split
    · rename_i socket parentSocket happened
      exact ⟨ReusableTcpSocket.clone_socket happened, rfl⟩
    · exact keeps_moveTo run _
    · exact keeps_moveTo run _
  · exact keeps_moveTo run _

theorem keeps_connectDirectly (run : ServiceRun) (event : ConnectorEvent) :
    Keeps run (run.connectDirectly windows now answers event) := by
  unfold ServiceRun.connectDirectly
  split
  · split_ifs
    · exact keeps_dial windows now answers run _ _
    · exact .refl run
  · exact keeps_moveTo run _
  · exact keeps_moveTo run _
  · split_ifs
    · exact keeps_moveTo run _
    · exact .refl run
  · split_ifs
    · exact keeps_dial windows now answers run _ _
    · exact .refl run
  · exact .refl run

/-- No step of a call changes them. -/
theorem keeps_answered (run : ServiceRun) (event : ConnectorEvent) :
    Keeps run (run.answered windows now answers event) := by
  unfold ServiceRun.answered
  split_ifs
  · unfold ServiceRun.dropped
    split
    · exact .refl run
    · exact .refl run
    · exact keeps_moveTo run _
  · split
    · exact keeps_request now run event
    · exact keeps_request now run event
    · exact keeps_await now run event
    · exact keeps_await now run event
    · exact keeps_connectDirectly windows now answers run event
    · exact keeps_connectDirectly windows now answers run event
    · exact keeps_connectDirectly windows now answers run event
    · exact .refl run
    · exact .refl run

theorem step_parent (client : TcpClient) (event : ConnectorEvent) :
    (client.step windows now answers event).parent = client.parent := by
  cases client with
  | connector run => exact run.step_socket (now, answers, event)
  | service run =>
      change (run.step windows now answers (.answered event)).parentSocket.socket = run.parentSocket.socket
      rw [service_answered]
      exact (keeps_answered windows now answers run event).1

/-- A call that is over stays so until the next one. -/
theorem Over.step {client : TcpClient} (ended : client.Over) {event : ConnectorEvent}
    (none : ∀ call, event ≠ .call call) : client.step windows now answers event = client := by
  cases client with
  | connector run =>
      refine congrArg TcpClient.connector ?_
      obtain ⟨result, stage⟩ | stage := ended
      · cases event with
        | call call => exact absurd rfl (none call)
        | _ => simp [ConnectorRun.step, ConnectorRun.dropped, ConnectorRun.request, stage]
      · exact run.step_panicked event stage
  | service run =>
      refine congrArg TcpClient.service ((service_answered windows now answers run event).trans ?_)
      obtain ⟨result, stage⟩ | stage := ended
      · simp only [ServiceRun.answered, ServiceRun.dropped, stage, ite_self]
      · simp only [ServiceRun.answered, ServiceRun.dropped, stage, ite_self]

theorem steps (client : TcpClient) {stage : DirectStage} (inside : client.directStage = some stage)
    (event : ConnectorEvent) :
    Steps now client.parent.port stage (client.step windows now answers event) := by
  cases client with
  | connector run => exact connector_steps windows now answers run inside event
  | service run => exact service_steps windows now answers run inside event

end TcpClient

end Steps

/-- A client of this port in its direct connection to this address, or after it. -/
structure TcpClient.Directs (addr : SocketAddr) (port : UInt16) (client : TcpClient) : Prop where
  parent : client.parent.port = port
  stage : (∃ stage, client.directStage = some stage ∧ stage.remoteAddr = addr) ∨ client.Over

section Runs

variable {windows : Bool} {addr : SocketAddr} {port : UInt16} {client : TcpClient}
  {event : Instant × SystemAnswers × ConnectorEvent}

theorem TcpClient.Directs.step (directs : client.Directs addr port)
    (allowed : (callMachine windows).allowed client event) :
    ((callMachine windows).next client event).Directs addr port := by
  have parent := step_parent windows event.1 event.2.1 client event.2.2
  refine ⟨(congrArg SocketAddrV4.port parent).trans directs.parent, ?_⟩
  obtain ⟨stage, inside, same⟩ | ended := directs.stage
  · obtain ⟨moved, left⟩ := client.steps windows event.1 event.2.1 inside event.2.2
    cases after : (client.step windows event.1 event.2.1 event.2.2).directStage with
    | none => exact .inr (left after)
    | some reached => exact .inl ⟨reached, after, (moved.remoteAddr_eq reached after).trans same⟩
  · change _ ∨ (client.step windows event.1 event.2.1 event.2.2).Over
    rw [ended.step windows event.1 event.2.1 allowed]
    exact .inr ended

theorem TcpClient.Directs.loops (directs : client.Directs addr port)
    (allowed : (callMachine windows).allowed client event) :
    Step (Duration.fromMillis 500) (Duration.fromMillis 20) event.1 client.phase
        ((callMachine windows).next client event).phase ∧
      (client.dial windows event).map Dial.tm =
        attempt event.1 client.phase ((callMachine windows).next client event).phase ∧
      ∀ dial ∈ client.dial windows event, dial.remoteAddr = addr ∧ dial.socket.localAddr.port = port := by
  obtain ⟨stage, inside, same⟩ | ended := directs.stage
  · obtain ⟨moved, _⟩ := client.steps windows event.1 event.2.1 inside event.2.2
    rw [← same, ← directs.parent, dial, phase, phase, inside]
    exact ⟨moved.loops, moved.dial⟩
  · have same := ended.step windows event.1 event.2.1 allowed
    rw [show (callMachine windows).next client event = client from same, dial, same, phase, ended.directStage]
    exact ⟨.stay _, rfl, by simp [Dial.between]⟩

theorem TcpClient.Directs.run {start : TcpClient} {events : List (Instant × SystemAnswers × ConnectorEvent)}
    (ran : (callMachine windows).Run start events client) (directs : start.Directs addr port) :
    client.Directs addr port ∧
      (dials windows start events).map Dial.tm = attempts TcpClient.phase Prod.fst (callMachine windows) start events ∧
      ∀ dial ∈ dials windows start events, dial.remoteAddr = addr ∧ dial.socket.localAddr.port = port := by
  induction ran with
  | nil => exact ⟨directs, rfl, by simp [dials, Machine.notes]⟩
  | snoc event before allowed ih =>
      obtain ⟨still, times, good⟩ := ih
      obtain ⟨_, tm, last⟩ := still.loops allowed
      refine ⟨still.step allowed, ?_, ?_⟩
      · rw [dials, before.notes_snoc, attempts, before.notes_snoc, List.map_append, ← tm]
        congr 1
        exact Option.toList_map.symm
      · intro dial listed
        rw [dials, before.notes_snoc] at listed
        obtain old | new := List.mem_append.mp listed
        · exact good dial old
        · exact last dial (Option.mem_toList.mp new)

end Runs

/-- A call that counts down dials at most 25 times, whatever happens to it and whenever. No attempt is before the end of
the countdown, they are at least 20 ms apart and less than 500 ms after the first, and they all go from the port of the
client to the address that it was told. -/
theorem dials_bounded (windows : Bool) {start client : TcpClient}
    {events : List (Instant × SystemAnswers × ConnectorEvent)} {addr : SocketAddr} {wakeUp : Instant}
    (ran : (callMachine windows).Run start events client) (counting : start.directStage = some (.counting addr wakeUp))
    (ordered : events.Pairwise fun earlier later => earlier.1 ≤ later.1) :
    (dials windows start events).length ≤ 25 ∧
      Spaced (Duration.fromMillis 20) ((dials windows start events).map Dial.tm) ∧
      (∀ dial ∈ dials windows start events, wakeUp ≤ dial.tm ∧ dial.remoteAddr = addr ∧
        dial.socket.localAddr.port = start.parent.port) ∧
      ∀ first ∈ (dials windows start events).head?, ∀ dial ∈ dials windows start events,
        first.tm ≤ dial.tm ∧ dial.tm < first.tm + Duration.fromMillis 500 := by
  have directs : start.Directs addr start.parent.port := ⟨rfl, .inl ⟨_, counting, rfl⟩⟩
  obtain ⟨_, times, good⟩ := directs.run ran
  have spent : Spent (Duration.fromMillis 500) (Duration.fromMillis 20) wakeUp client.phase
      (attempts TcpClient.phase Prod.fst (callMachine windows) start events) (events.map Prod.fst) := by
    refine spent_of_run TcpClient.phase Prod.fst ran (by decide) ?_ ordered ?_
    · rw [TcpClient.phase, counting]
      rfl
    · intro earlier middle event before allowed
      exact ((directs.run before).1.loops allowed).1
  rw [← times] at spent
  have few := spent.length_lt (by decide)
  refine ⟨?_, spent.spaced, ?_, ?_⟩
  · rw [List.length_map] at few
    simp only [Duration.fromMillis] at few
    omega
  · intro dial listed
    exact ⟨spent.late dial.tm (List.mem_map_of_mem listed), good dial listed⟩
  · intro first head dial listed
    refine spent.early first.tm ?_ dial.tm (List.mem_map_of_mem listed)
    rw [List.head?_map, Option.mem_def.mp head]
    rfl

/-- A connector whose countdown is over. -/
def sampleCountdown : TcpClient := .connector ⟨⟨⟨unspecified, 5000⟩, some .new⟩, .counting (sampleTaskAddr 2) 0⟩

/-- Every attempt is refused at once. -/
def sampleDialling : List (Instant × SystemAnswers × ConnectorEvent) :=
  (List.range 26).flatMap fun attempt =>
    [.woken, .dialFailed].map fun event => (Duration.fromMillis (20 * attempt), sampleAnswers 5001, event)

/-- The bound is reached. -/
theorem dials_bounded_sample : (dials false sampleCountdown sampleDialling).length = 25 ∧
    (dials false sampleCountdown sampleDialling).length ≤ 25 := by
  have ran : (callMachine false).Run sampleCountdown ([] ++ sampleDialling) _ :=
    Machine.run_of_valid .nil (by decide +kernel)
  refine ⟨by decide +kernel, ?_⟩
  exact (dials_bounded false ran rfl (by decide +kernel)).1

end RepriseP2p.Tcp
