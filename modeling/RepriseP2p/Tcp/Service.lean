/-
This file models the calls of `P2PTcpService`, which wait at every await.
-/

import RepriseP2p.Tcp.Connector

namespace RepriseP2p.Tcp

/-- The errors of a service. Only a service finds that there are no pending connections. -/
inductive ServiceError where
  | request (error : RequestError)
  | noPendingConnections
  deriving DecidableEq

/-- A stream to a client with its address. The socket stands for the stream. -/
abbrev ServiceResult := Except ServiceError (BoundSocket × SocketAddr)

/-- Where a call waits. The loop of the direct connection dials a client and rests after a failure. -/
inductive ServiceStage where
  | idle (result : Option ServiceResult)
  | connecting (deadline : Instant)
  | sending
  | awaitingAddr (deadline : Instant)
  | awaitingCountdown (remoteAddr : SocketAddr) (deadline : Instant)
  | counting (remoteAddr : SocketAddr) (wakeUp : Instant)
  | dialling (remoteAddr : SocketAddr) (deadline timeout : Instant) (socket : BoundSocket)
  | resting (remoteAddr : SocketAddr) (deadline wakeUp : Instant)
  | panicked
  deriving DecidableEq

/-- A call between two awaits, or what the world answers at an await, as it answers a connector. -/
inductive ServiceEvent where
  | pollAccept
  | setAdvData (data : ClientAnnouncementData)
  | answered (event : ConnectorEvent)
  deriving DecidableEq

structure ServiceRun where
  parentSocket : ReusableTcpSocket
  advData : ClientAnnouncementData
  stage : ServiceStage
  deriving DecidableEq

namespace ServiceRun

variable (windows : Bool) (now : Instant) (answers : SystemAnswers)

def moveTo (run : ServiceRun) (stage : ServiceStage) : ServiceRun := { run with stage }

def failed (run : ServiceRun) (error : RequestError) : ServiceRun := run.moveTo (.idle (some (.error (.request error))))

/-- The message that the call sends to the server. -/
def message (run : ServiceRun) : ToNatServerMsg := .announceAndCheck run.advData

/-- The step goes on with a clone of the parent socket. -/
def cloned (run : ServiceRun) (stage : BoundSocket → ServiceStage) : ServiceRun :=
  match run.parentSocket.clone windows answers.interfaces answers.clone with
  | .ok (socket, parentSocket) => { run with parentSocket, stage := stage socket }
  | .err _ | .panic => run.moveTo .panicked

/-- The head of the loop. A service keeps its port at the end. -/
def dial (run : ServiceRun) (remoteAddr : SocketAddr) (deadline : Instant) : ServiceRun :=
  if now < deadline then run.cloned windows answers (.dialling remoteAddr deadline (now + Duration.fromSecs 1))
  else run.failed .p2pConnectionFailed

/-- The call connects to the server and sends its announcement. -/
def request (run : ServiceRun) (event : ConnectorEvent) : ServiceRun :=
  match run.stage, event with
  | .connecting _, .connected => run.moveTo .sending
  | .connecting _, .connectFailed => run.failed (.connectionFailed .other)
  | .connecting deadline, .timedOut => if deadline ≤ now then run.failed (.connectionFailed .timedOut) else run
  | .sending, .sent => run.moveTo (.awaitingAddr (now + Duration.fromSecs 3))
  | .sending, .sendFailed => run.failed .writeError
  | _, _ => run

/-- The call waits for the messages of the server. A message that is not awaited has no effect. -/
def await (run : ServiceRun) (event : ConnectorEvent) : ServiceRun :=
  match run.stage, event with
  | .awaitingAddr _, .received (.remoteAddr addr) => run.moveTo (.awaitingCountdown addr (now + Duration.fromSecs 3))
  | .awaitingAddr _, .channelFailed .connectionClosed => run.moveTo (.idle (some (.error .noPendingConnections)))
  | .awaitingAddr _, .channelFailed error => run.failed (.channelError error)
  | .awaitingAddr deadline, .timedOut => if deadline ≤ now then run.failed .noResponse else run
  | .awaitingCountdown addr _, .received (.startCountdown duration) =>
      run.moveTo (.counting addr (now + min duration (Duration.fromSecs 2)))
  | .awaitingCountdown _ _, .channelFailed error => run.failed (.channelError error)
  | .awaitingCountdown _ deadline, .timedOut => if deadline ≤ now then run.failed .noResponse else run
  | _, _ => run

/-- The call sleeps through the countdown and connects to the client directly. -/
def connectDirectly (run : ServiceRun) (event : ConnectorEvent) : ServiceRun :=
  match run.stage, event with
  | .counting addr wakeUp, .woken =>
      if wakeUp ≤ now then run.dial windows now answers addr (now + Duration.fromMillis 500) else run
  | .dialling addr _ _ socket, .dialled => run.moveTo (.idle (some (.ok (socket, addr))))
  | .dialling addr deadline _ _, .dialFailed => run.moveTo (.resting addr deadline (now + Duration.fromMillis 20))
  | .dialling addr deadline timeout _, .timedOut =>
      if timeout ≤ now then run.moveTo (.resting addr deadline (now + Duration.fromMillis 20)) else run
  | .resting addr deadline wakeUp, .woken => if wakeUp ≤ now then run.dial windows now answers addr deadline else run
  | _, _ => run

/-- The caller drops the call. -/
def dropped (run : ServiceRun) : ServiceRun :=
  match run.stage with
  | .idle _ | .panicked => run
  | _ => run.moveTo (.idle none)

/-- What an answer of the world does to a call in progress. -/
def answered (run : ServiceRun) (event : ConnectorEvent) : ServiceRun :=
  if event = .dropped then run.dropped
  else
    match run.stage with
    | .connecting _ | .sending => run.request now event
    | .awaitingAddr _ | .awaitingCountdown _ _ => run.await now event
    | .counting _ _ | .dialling _ _ _ _ | .resting _ _ _ => run.connectDirectly windows now answers event
    | .idle _ | .panicked => run

/-- One step of a service. An event that does not fit the stage has no effect, like a timer that is not over. -/
def step (run : ServiceRun) (event : ServiceEvent) : ServiceRun :=
  match run.stage, event with
  | .idle _, .pollAccept => run.cloned windows answers fun _ => .connecting (now + Duration.fromSecs 10)
  | .idle _, .setAdvData data => { run with advData := data }
  | _, .answered event => run.answered windows now answers event
  | _, _ => run

/-- No call is in progress. -/
def Idle (run : ServiceRun) : Prop := ∃ result, run.stage = .idle result

end ServiceRun

/-- A service takes any events at any times. -/
def serviceMachine (windows : Bool) : Machine ServiceRun (Instant × SystemAnswers × ServiceEvent) where
  initial run := ∃ port interfaces answers,
    ReusableTcpSocket.new windows port interfaces answers = .ok run.parentSocket ∧ run.stage = .idle none
  allowed _ _ := True
  next run event := run.step windows event.1 event.2.1 event.2.2

instance (windows : Bool) (run : ServiceRun) (event : Instant × SystemAnswers × ServiceEvent) :
    Decidable ((serviceMachine windows).allowed run event) :=
  inferInstanceAs (Decidable True)

end RepriseP2p.Tcp
