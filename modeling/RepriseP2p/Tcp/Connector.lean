/-
This file models the calls of `P2PTcpConnector`, which wait at every await, and proves when they use their own ports.
-/

import RepriseP2p.Sockets
import RepriseP2p.Tcp.Handlers

namespace RepriseP2p.Tcp

inductive ChannelError where
  | connectionClosed
  | other
  deriving DecidableEq

inductive IoError where
  | timedOut
  | other
  deriving DecidableEq

inductive RequestError where
  | p2pConnectionFailed
  | noSessionId
  | connectionFailed (error : IoError)
  | noResponse
  | channelError (error : ChannelError)
  | writeError
  deriving DecidableEq

inductive ConnectorCall where
  | scanConnections
  | connectClient (session : UInt64)
  deriving DecidableEq

/-- The message that the call sends to the server. -/
def ConnectorCall.message : ConnectorCall → ToNatServerMsg
  | .scanConnections => .getClients "test_app"
  | .connectClient session => .connectionRequest ⟨session⟩

/-- The result of a scan, or a stream to a client with its address. The socket stands for the stream. -/
inductive ConnectorResult where
  | clients (result : Except RequestError (List ClientAnnouncement))
  | client (result : Except RequestError (BoundSocket × SocketAddr))
  deriving DecidableEq

def ConnectorCall.failed (error : RequestError) : ConnectorCall → ConnectorResult
  | .scanConnections => .clients (.error error)
  | .connectClient _ => .client (.error error)

/-- Where a call waits. The loop of the direct connection dials a client and rests after a failure. -/
inductive ConnectorStage where
  | idle (result : Option ConnectorResult)
  | connecting (call : ConnectorCall) (deadline : Instant)
  | sending (call : ConnectorCall)
  | awaitingClients (deadline : Instant)
  | awaitingAddr (deadline : Instant)
  | awaitingCountdown (remoteAddr : SocketAddr) (deadline : Instant)
  | counting (remoteAddr : SocketAddr) (wakeUp : Instant)
  | dialling (remoteAddr : SocketAddr) (deadline timeout : Instant) (socket : BoundSocket)
  | resting (remoteAddr : SocketAddr) (deadline wakeUp : Instant)
  | panicked
  deriving DecidableEq

/-- The wait for the first answer to a call. -/
def ConnectorStage.awaiting (call : ConnectorCall) (deadline : Instant) : ConnectorStage :=
  match call with
  | .scanConnections => .awaitingClients deadline
  | .connectClient _ => .awaitingAddr deadline

/-- What the world answers at an await, or a call between two of them. -/
inductive ConnectorEvent where
  | call (call : ConnectorCall)
  | connected
  | connectFailed
  | sent
  | sendFailed
  | received (message : ToNatClientMsg)
  | channelFailed (error : ChannelError)
  | timedOut
  | woken
  | dialled
  | dialFailed
  | dropped
  deriving DecidableEq

/-- What the operating system answers when a step clones the parent socket or rotates its port. -/
structure SystemAnswers where
  interfaces : List Interface
  clone : CloneAnswers
  port : Option UInt16
  deriving DecidableEq

structure ConnectorRun where
  parentSocket : ReusableTcpSocket
  stage : ConnectorStage
  deriving DecidableEq

namespace ConnectorRun

variable (windows : Bool) (now : Instant) (answers : SystemAnswers)

def moveTo (run : ConnectorRun) (stage : ConnectorStage) : ConnectorRun := { run with stage }

/-- The step goes on with a clone of the parent socket. -/
def cloned (run : ConnectorRun) (stage : BoundSocket → ConnectorStage) : ConnectorRun :=
  match run.parentSocket.clone windows answers.interfaces answers.clone with
  | .ok (socket, parentSocket) => ⟨parentSocket, stage socket⟩
  | .err _ | .panic => run.moveTo .panicked

/-- The end of the direct connection. The socket that `rotate_port` returns is dropped. -/
def finish (run : ConnectorRun) (result : Except RequestError (BoundSocket × SocketAddr)) : ConnectorRun :=
  match run.parentSocket.rotatePort answers.port with
  | .ok (_, parentSocket) => ⟨parentSocket, .idle (some (.client result))⟩
  | .err _ | .panic => run.moveTo .panicked

/-- The head of the loop. -/
def dial (run : ConnectorRun) (remoteAddr : SocketAddr) (deadline : Instant) : ConnectorRun :=
  if now < deadline then run.cloned windows answers (.dialling remoteAddr deadline (now + Duration.fromSecs 1))
  else run.finish answers (.error .p2pConnectionFailed)

/-- The call connects to the server and sends its request. -/
def request (run : ConnectorRun) (event : ConnectorEvent) : ConnectorRun :=
  match run.stage, event with
  | .idle _, .call call => run.cloned windows answers fun _ => .connecting call (now + Duration.fromSecs 10)
  | .connecting call _, .connected => run.moveTo (.sending call)
  | .connecting call _, .connectFailed => run.moveTo (.idle (some (call.failed (.connectionFailed .other))))
  | .connecting call deadline, .timedOut =>
      if deadline ≤ now then run.moveTo (.idle (some (call.failed (.connectionFailed .timedOut)))) else run
  | .sending call, .sent => run.moveTo (.awaiting call (now + Duration.fromSecs 3))
  | .sending call, .sendFailed => run.moveTo (.idle (some (call.failed .writeError)))
  | _, _ => run

/-- The call waits for the messages of the server. A message that is not awaited has no effect. -/
def await (run : ConnectorRun) (event : ConnectorEvent) : ConnectorRun :=
  match run.stage, event with
  | .awaitingClients _, .received (.clients clients) => run.moveTo (.idle (some (.clients (.ok clients))))
  | .awaitingClients _, .channelFailed error => run.moveTo (.idle (some (.clients (.error (.channelError error)))))
  | .awaitingClients deadline, .timedOut =>
      if deadline ≤ now then run.moveTo (.idle (some (.clients (.error .noResponse)))) else run
  | .awaitingAddr _, .received (.remoteAddr addr) =>
      run.moveTo (.awaitingCountdown addr (now + Duration.fromSecs 3))
  | .awaitingAddr _, .channelFailed .connectionClosed => run.moveTo (.idle (some (.client (.error .noSessionId))))
  | .awaitingAddr _, .channelFailed error => run.moveTo (.idle (some (.client (.error (.channelError error)))))
  | .awaitingAddr deadline, .timedOut =>
      if deadline ≤ now then run.moveTo (.idle (some (.client (.error .noSessionId)))) else run
  | .awaitingCountdown addr _, .received (.startCountdown duration) =>
      run.moveTo (.counting addr (now + min duration (Duration.fromSecs 2)))
  | .awaitingCountdown _ _, .channelFailed error =>
      run.moveTo (.idle (some (.client (.error (.channelError error)))))
  | .awaitingCountdown _ deadline, .timedOut =>
      if deadline ≤ now then run.moveTo (.idle (some (.client (.error .noResponse)))) else run
  | _, _ => run

/-- The call sleeps through the countdown and connects to the client directly. -/
def connectDirectly (run : ConnectorRun) (event : ConnectorEvent) : ConnectorRun :=
  match run.stage, event with
  | .counting addr wakeUp, .woken =>
      if wakeUp ≤ now then run.dial windows now answers addr (now + Duration.fromMillis 500) else run
  | .dialling addr _ _ socket, .dialled => run.finish answers (.ok (socket, addr))
  | .dialling addr deadline _ _, .dialFailed =>
      run.moveTo (.resting addr deadline (now + Duration.fromMillis 20))
  | .dialling addr deadline timeout _, .timedOut =>
      if timeout ≤ now then run.moveTo (.resting addr deadline (now + Duration.fromMillis 20)) else run
  | .resting addr deadline wakeUp, .woken => if wakeUp ≤ now then run.dial windows now answers addr deadline else run
  | _, _ => run

/-- The caller drops the call. -/
def dropped (run : ConnectorRun) : ConnectorRun :=
  match run.stage with
  | .idle _ | .panicked => run
  | _ => run.moveTo (.idle none)

/-- One step of a call. An event that does not fit the stage has no effect, like a timer that is not over. -/
def step (run : ConnectorRun) (event : ConnectorEvent) : ConnectorRun :=
  if event = .dropped then run.dropped
  else
    match run.stage with
    | .idle _ | .connecting _ _ | .sending _ => run.request windows now answers event
    | .awaitingClients _ | .awaitingAddr _ | .awaitingCountdown _ _ => run.await now event
    | .counting _ _ | .dialling _ _ _ _ | .resting _ _ _ => run.connectDirectly windows now answers event
    | .panicked => run

/-- No call is in progress. -/
def Idle (run : ConnectorRun) : Prop := ∃ result, run.stage = .idle result

/-- The call has reached the direct connection, and its loop is not over. -/
def direct (run : ConnectorRun) : Bool :=
  match run.stage with
  | .dialling _ _ _ _ | .resting _ _ _ => true
  | _ => false

end ConnectorRun

/-- A connector takes any events at any times. The system gives an own port to each socket that asks for one, so the
port is not the one of the parent socket. -/
def connectorMachine (windows : Bool) : Machine ConnectorRun (Instant × SystemAnswers × ConnectorEvent) where
  initial run := ∃ port interfaces answers,
    ReusableTcpSocket.new windows port interfaces answers = .ok run.parentSocket ∧ run.stage = .idle none
  allowed run event := event.2.1.port ≠ some run.parentSocket.socket.port
  next run event := run.step windows event.1 event.2.1 event.2.2

instance (windows : Bool) (run : ConnectorRun) (event : Instant × SystemAnswers × ConnectorEvent) :
    Decidable ((connectorMachine windows).allowed run event) :=
  inferInstanceAs (Decidable (_ ≠ _))

/-- A call that reached the direct connection: the parent socket that it used, the socket that `rotate_port` bound at
its end, and the parent socket after it. -/
structure DirectCall where
  parent : SocketAddrV4
  rotated : Option SocketAddrV4
  after : SocketAddrV4
  deriving DecidableEq

namespace ConnectorRun

/-- The socket that a step binds when it ends the direct connection. -/
def rotated (run : ConnectorRun) (event : Instant × SystemAnswers × ConnectorEvent) : Option SocketAddrV4 :=
  if event.2.2 = .dropped then none
  else
    match run.parentSocket.rotatePort event.2.1.port with
    | .ok (new, _) => some new.socket
    | .err _ | .panic => none

/-- The direct call that ends in this step. -/
def observe (windows : Bool) (run : ConnectorRun) (event : Instant × SystemAnswers × ConnectorEvent) :
    Option DirectCall :=
  let next := run.step windows event.1 event.2.1 event.2.2
  match run.direct, next.stage with
  | true, .idle _ => some ⟨run.parentSocket.socket, run.rotated event, next.parentSocket.socket⟩
  | _, _ => none

end ConnectorRun

/-- The direct calls of a run, oldest first. -/
def directCalls (windows : Bool) (start : ConnectorRun) (events : List (Instant × SystemAnswers × ConnectorEvent)) :
    List DirectCall :=
  (connectorMachine windows).notes (ConnectorRun.observe windows) start events

namespace ConnectorRun

variable {windows : Bool} {now : Instant} {answers : SystemAnswers} (run : ConnectorRun)

theorem cloned_socket (stage : BoundSocket → ConnectorStage) :
    (run.cloned windows answers stage).parentSocket.socket = run.parentSocket.socket := by
  unfold cloned
  split
  · rename_i socket parentSocket happened
    rw [ReusableTcpSocket.clone_socket happened]
  · rfl
  · rfl

theorem finish_socket (result : Except RequestError (BoundSocket × SocketAddr)) :
    (run.finish answers result).parentSocket.socket = run.parentSocket.socket := by
  unfold finish
  split
  · rename_i new parentSocket happened
    rw [ReusableTcpSocket.rotatePort_socket happened]
  · rfl
  · rfl

theorem dial_socket (remoteAddr : SocketAddr) (deadline : Instant) :
    (run.dial windows now answers remoteAddr deadline).parentSocket.socket = run.parentSocket.socket := by
  unfold dial
  split_ifs
  · exact run.cloned_socket _
  · exact run.finish_socket _

/-- What a step does to the parent socket and to the direct connection. -/
inductive StepCase (windows : Bool) (event : Instant × SystemAnswers × ConnectorEvent) (run : ConnectorRun) :
    ConnectorRun → Prop where
  | ignored : StepCase windows event run run
  | called (call : ConnectorCall) (indirect : run.direct = false) : StepCase windows event run
      (run.cloned windows event.2.1 fun _ => .connecting call (event.1 + Duration.fromSecs 10))
  | moved (stage : ConnectorStage) (indirect : run.direct = false) (still : (run.moveTo stage).direct = false) :
      StepCase windows event run (run.moveTo stage)
  | dialled (remoteAddr : SocketAddr) (deadline : Instant) (woken : event.2.2 = .woken) :
      StepCase windows event run (run.dial windows event.1 event.2.1 remoteAddr deadline)
  | rested (remoteAddr : SocketAddr) (deadline wakeUp : Instant) (direct : run.direct = true) :
      StepCase windows event run (run.moveTo (.resting remoteAddr deadline wakeUp))
  | finished (result : Except RequestError (BoundSocket × SocketAddr)) (connected : event.2.2 = .dialled) :
      StepCase windows event run (run.finish event.2.1 result)
  | abandoned (dropped : event.2.2 = .dropped) : StepCase windows event run (run.moveTo (.idle none))

/-- A wait ends at its deadline. -/
theorem StepCase.expired {event : Instant × SystemAnswers × ConnectorEvent} {run : ConnectorRun} (deadline : Instant)
    (stage : ConnectorStage) (indirect : run.direct = false) (still : (run.moveTo stage).direct = false) :
    StepCase windows event run (if deadline ≤ event.1 then run.moveTo stage else run) := by
  split_ifs
  · exact .moved stage indirect still
  · exact .ignored

theorem request_case (windows : Bool) (event : Instant × SystemAnswers × ConnectorEvent) :
    run.StepCase windows event (run.request windows event.1 event.2.1 event.2.2) := by
  unfold request
  split
  · exact .called _ (by simp only [direct, *])
  · exact .moved _ (by simp only [direct, *]) rfl
  · exact .moved _ (by simp only [direct, *]) rfl
  · exact .expired _ _ (by simp only [direct, *]) rfl
  · rename_i call stage sent
    refine .moved _ (by simp only [direct, *]) ?_
    cases call with
    | scanConnections => rfl
    | connectClient session => rfl
  · exact .moved _ (by simp only [direct, *]) rfl
  · exact .ignored

theorem await_case (windows : Bool) (event : Instant × SystemAnswers × ConnectorEvent) :
    run.StepCase windows event (run.await event.1 event.2.2) := by
  unfold await
  split
  · exact .moved _ (by simp only [direct, *]) rfl
  · exact .moved _ (by simp only [direct, *]) rfl
  · exact .expired _ _ (by simp only [direct, *]) rfl
  · exact .moved _ (by simp only [direct, *]) rfl
  · exact .moved _ (by simp only [direct, *]) rfl
  · exact .moved _ (by simp only [direct, *]) rfl
  · exact .expired _ _ (by simp only [direct, *]) rfl
  · exact .moved _ (by simp only [direct, *]) rfl
  · exact .moved _ (by simp only [direct, *]) rfl
  · exact .expired _ _ (by simp only [direct, *]) rfl
  · exact .ignored

theorem connectDirectly_case (windows : Bool) (event : Instant × SystemAnswers × ConnectorEvent) :
    run.StepCase windows event (run.connectDirectly windows event.1 event.2.1 event.2.2) := by
  unfold connectDirectly
  split
  · split_ifs
    · exact .dialled _ _ ‹_›
    · exact .ignored
  · exact .finished _ ‹_›
  · exact .rested _ _ _ (by simp only [direct, *])
  · split_ifs
    · exact .rested _ _ _ (by simp only [direct, *])
    · exact .ignored
  · split_ifs
    · exact .dialled _ _ ‹_›
    · exact .ignored
  · exact .ignored

theorem step_case (windows : Bool) (event : Instant × SystemAnswers × ConnectorEvent) :
    run.StepCase windows event (run.step windows event.1 event.2.1 event.2.2) := by
  unfold step
  split_ifs with abandoned
  · unfold dropped
    split
    · exact .ignored
    · exact .ignored
    · exact .abandoned abandoned
  · cases run.stage with
    | idle result => exact run.request_case windows event
    | connecting call deadline => exact run.request_case windows event
    | sending call => exact run.request_case windows event
    | awaitingClients deadline => exact run.await_case windows event
    | awaitingAddr deadline => exact run.await_case windows event
    | awaitingCountdown addr deadline => exact run.await_case windows event
    | counting addr wakeUp => exact run.connectDirectly_case windows event
    | dialling addr deadline timeout socket => exact run.connectDirectly_case windows event
    | resting addr deadline wakeUp => exact run.connectDirectly_case windows event
    | panicked => exact .ignored

/-- No step changes the parent socket. -/
theorem step_socket (event : Instant × SystemAnswers × ConnectorEvent) :
    (run.step windows event.1 event.2.1 event.2.2).parentSocket.socket = run.parentSocket.socket := by
  have taken := run.step_case windows event
  generalize run.step windows event.1 event.2.1 event.2.2 = next at taken
  cases taken with
  | called call indirect => exact run.cloned_socket _
  | dialled remoteAddr deadline woken => exact run.dial_socket _ _
  | finished result connected => exact run.finish_socket _
  | _ => rfl

theorem finish_stage (result : Except RequestError (BoundSocket × SocketAddr)) :
    (run.finish answers result).stage = .panicked ∨ (run.finish answers result).Idle := by
  unfold finish
  split
  · exact .inr ⟨_, rfl⟩
  · exact .inl rfl
  · exact .inl rfl

/-- The direct connection goes on, or the program panics, or the call is over. -/
theorem step_direct (windows : Bool) (event : Instant × SystemAnswers × ConnectorEvent) (direct : run.direct = true) :
    (run.step windows event.1 event.2.1 event.2.2).direct = true ∨
      (run.step windows event.1 event.2.1 event.2.2).stage = .panicked ∨
      (run.step windows event.1 event.2.1 event.2.2).Idle := by
  have taken := run.step_case windows event
  generalize run.step windows event.1 event.2.1 event.2.2 = next at taken
  cases taken with
  | ignored => exact .inl direct
  | called call indirect => cases direct.symm.trans indirect
  | moved stage indirect still => cases direct.symm.trans indirect
  | dialled remoteAddr deadline woken =>
      unfold dial
      split_ifs
      · unfold cloned
        split
        · exact .inl rfl
        · exact .inr (.inl rfl)
        · exact .inr (.inl rfl)
      · exact .inr (run.finish_stage _)
  | rested remoteAddr deadline wakeUp direct => exact .inl rfl
  | finished result connected => exact .inr (run.finish_stage _)
  | abandoned dropped => exact .inr (.inr ⟨none, rfl⟩)

/-- A socket with an own port is not the parent socket. -/
theorem rotated_ne {event : Instant × SystemAnswers × ConnectorEvent}
    (own : event.2.1.port ≠ some run.parentSocket.socket.port) :
    run.rotated event ≠ some run.parentSocket.socket := by
  unfold rotated
  split_ifs
  · simp
  · cases answered : event.2.1.port with
    | none => simp [ReusableTcpSocket.rotatePort, ReusableTcpSocket.newInner]
    | some port =>
        simp only [ReusableTcpSocket.rotatePort, ReusableTcpSocket.newInner, Outcome.ok_bind, ne_eq,
          Option.some.injEq]
        intro same
        rw [answered, ← same] at own
        exact own rfl

theorem step_panicked (event : ConnectorEvent) (panicked : run.stage = .panicked) :
    run.step windows now answers event = run := by
  simp only [step, dropped, panicked, ite_self]

/-- The direct call that ends in a step did not change the parent socket to the new one. -/
theorem observe_ended {event : Instant × SystemAnswers × ConnectorEvent} (direct : run.direct = true)
    (own : event.2.1.port ≠ some run.parentSocket.socket.port)
    (ended : (run.step windows event.1 event.2.1 event.2.2).Idle) :
    ∃ call ∈ run.observe windows event, call.rotated ≠ some call.after := by
  obtain ⟨result, ended⟩ := ended
  refine ⟨⟨run.parentSocket.socket, run.rotated event, run.parentSocket.socket⟩, ?_, run.rotated_ne own⟩
  simp only [observe, direct, ended, run.step_socket event, Option.mem_def]

theorem observe_indirect (event : Instant × SystemAnswers × ConnectorEvent) (indirect : run.direct = false) :
    run.observe windows event = none := by
  simp only [observe, indirect]

end ConnectorRun

section Runs

variable {windows : Bool} {start run : ConnectorRun} {events : List (Instant × SystemAnswers × ConnectorEvent)}

/-- Some call of the run kept its parent socket, or the run is in the direct connection, or it panicked. -/
def Unrotated (windows : Bool) (start : ConnectorRun) (events : List (Instant × SystemAnswers × ConnectorEvent))
    (run : ConnectorRun) : Prop :=
  (∃ call ∈ directCalls windows start events, call.rotated ≠ some call.after) ∨ run.direct = true ∨
    run.stage = .panicked

/-- A step from the direct connection stays in it, or it panics, or it ends a call that kept its parent socket. -/
theorem unrotated_of_step {event : Instant × SystemAnswers × ConnectorEvent}
    (ran : (connectorMachine windows).Run start events run) (allowed : (connectorMachine windows).allowed run event)
    (direct : run.direct = true) :
    Unrotated windows start (events ++ [event]) ((connectorMachine windows).next run event) := by
  obtain again | panicked | ended := run.step_direct windows event direct
  · exact .inr (.inl again)
  · exact .inr (.inr panicked)
  · obtain ⟨call, observed, kept⟩ := run.observe_ended direct allowed ended
    refine .inl ⟨call, ?_, kept⟩
    rw [directCalls, ran.notes_snoc]
    exact List.mem_append_right _ (by simpa using observed)

theorem unrotated_of_direct (ran : (connectorMachine windows).Run start events run)
    (reached : ¬ (connectorMachine windows).Avoids start events fun run _ => run.direct = true) :
    Unrotated windows start events run := by
  refine ran.invariant_after reached (Unrotated windows start) ?_ ?_
  · intro events state event before allowed direct
    exact unrotated_of_step before allowed direct
  · rintro events state event before allowed (⟨call, listed, kept⟩ | direct | panicked)
    · refine .inl ⟨call, ?_, kept⟩
      rw [directCalls, before.notes_snoc]
      exact List.mem_append_left _ listed
    · exact unrotated_of_step before allowed direct
    · refine .inr (.inr ?_)
      rw [show (connectorMachine windows).next state event = state from state.step_panicked event.2.2 panicked]
      exact panicked

theorem directCalls_of_indirect (ran : (connectorMachine windows).Run start events run)
    (avoids : (connectorMachine windows).Avoids start events fun run _ => run.direct = true) :
    directCalls windows start events = [] := by
  induction ran with
  | nil => rfl
  | snoc event before allowed ih =>
      rename_i events state
      obtain ⟨earlier, indirect⟩ := before.avoids_snoc.mp avoids
      rw [directCalls, before.notes_snoc, state.observe_indirect event (Bool.eq_false_iff.mpr indirect),
        Option.toList_none, List.append_nil]
      exact ih earlier

end Runs

/-- Between two calls, every call that reached the direct connection has moved the parent socket to the new port, and
no two of them used the same parent socket, exactly when no call reached the direct connection. -/
theorem connector_rotates_iff (windows : Bool) {start run : ConnectorRun}
    {events : List (Instant × SystemAnswers × ConnectorEvent)}
    (ran : (connectorMachine windows).Run start events run) (idle : run.Idle) :
    ((∀ call ∈ directCalls windows start events, call.rotated = some call.after) ∧
        (directCalls windows start events).Pairwise fun first second => first.parent ≠ second.parent) ↔
      (connectorMachine windows).Avoids start events fun run _ => run.direct = true := by
  obtain ⟨result, stage⟩ := idle
  constructor
  · rintro ⟨rotated, _⟩
    by_contra reached
    obtain ⟨call, listed, kept⟩ | still | panicked := unrotated_of_direct ran reached
    · exact kept (rotated call listed)
    · simp only [ConnectorRun.direct, stage] at still
      cases still
    · cases stage.symm.trans panicked
  · intro avoids
    rw [directCalls_of_indirect ran avoids]
    exact ⟨by simp, .nil⟩

def sampleAnswers (port : UInt16) : SystemAnswers := ⟨[], ⟨true, true, true⟩, some port⟩

/-- A new connector with port 5000. -/
def sampleConnectorStart : ConnectorRun := ⟨⟨⟨unspecified, 5000⟩, some .new⟩, .idle none⟩

/-- A scan that finds no client. -/
def sampleScan : List (Instant × SystemAnswers × ConnectorEvent) :=
  [.call .scanConnections, .connected, .sent, .received (.clients [])].map fun event => (0, sampleAnswers 5001, event)

/-- A scan keeps the port. -/
theorem connector_rotates_sample :
    (∀ call ∈ directCalls false sampleConnectorStart sampleScan, call.rotated = some call.after) ∧
      (directCalls false sampleConnectorStart sampleScan).Pairwise fun first second =>
        first.parent ≠ second.parent :=
  (connector_rotates_iff false (Machine.run_of_valid .nil (by decide +kernel) :
    (connectorMachine false).Run sampleConnectorStart ([] ++ sampleScan) _)
      ⟨some (.clients (.ok [])), by decide +kernel⟩).mpr (Machine.avoids_of_checked (by decide +kernel))

/-- A call that connects with client 2 directly. The system offers this port when the connector rotates. -/
def sampleDirect (now : Instant) (port : UInt16) : List (Instant × SystemAnswers × ConnectorEvent) :=
  let countdown := Duration.fromMillis scheduleConMs
  [(now, .call (.connectClient 7)), (now, .connected), (now, .sent),
    (now, .received (.remoteAddr (sampleTaskAddr 2))), (now, .received (.startCountdown countdown)),
    (now + countdown, .woken), (now + countdown, .dialled)].map fun (now, event) => (now, sampleAnswers port, event)

/-- Two calls connect directly. Both use port 5000. -/
theorem connector_rotates_fails : ¬ ∀ start events run, (connectorMachine false).initial start →
    (connectorMachine false).Run start events run → run.Idle →
    (∀ call ∈ directCalls false start events, call.rotated = some call.after) ∧
      (directCalls false start events).Pairwise fun first second => first.parent ≠ second.parent := by
  intro claim
  have ran : (connectorMachine false).Run sampleConnectorStart
      ([] ++ (sampleDirect 0 5001 ++ sampleDirect (Duration.fromSecs 1) 5002)) _ :=
    Machine.run_of_valid .nil (by decide +kernel)
  obtain ⟨_, apart⟩ := claim _ _ _ ⟨some 5000, [], ⟨true, true, true⟩, by decide +kernel, rfl⟩ ran
    ⟨some (.client (.ok (⟨⟨unspecified, 5000⟩, none⟩, sampleTaskAddr 2))), by decide +kernel⟩
  revert apart
  decide +kernel

end RepriseP2p.Tcp
