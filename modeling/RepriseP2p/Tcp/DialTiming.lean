/-
This file runs the network against clocks whose timers and messages are late by bounded times. It proves that the two
calls of a match dial each other in one common window, unless one of them was over before.
-/

import RepriseP2p.Tcp.CallPairs

namespace RepriseP2p.Tcp

open RetryLoop

/-- The call ended without a connection, because its window was over. -/
def ConnectorStage.gaveUp : ConnectorStage → Bool
  | .idle (some (.client (.error .p2pConnectionFailed))) => true
  | _ => false

def ServiceStage.gaveUp : ServiceStage → Bool
  | .idle (some (.error (.request .p2pConnectionFailed))) => true
  | _ => false

/-- The wait of a connector for the countdown. -/
inductive CountdownWait where
  | absent
  | awaited (deadline : Instant)
  | unanswered

/-- The wait ends unanswered when the call returns `NoResponse`. -/
def ConnectorStage.countdownWait : ConnectorStage → CountdownWait
  | .awaitingCountdown _ deadline => .awaited deadline
  | .idle (some (.client (.error .noResponse))) => .unanswered
  | _ => .absent

def TcpClient.countdownWait : TcpClient → CountdownWait
  | .connector run => run.stage.countdownWait
  | .service _ => .absent

theorem ConnectorStage.countdownWait_of_direct {stage : ConnectorStage} {direct : DirectStage}
    (inside : stage.directStage = some direct) : stage.countdownWait = .absent := by
  cases stage with
  | counting | dialling | resting => rfl
  | _ => cases inside

/-- The wait begins with the address, and it stays unanswered only when its time is over. -/
inductive WaitStep (now : Instant) (event : ConnectorEvent) : CountdownWait → CountdownWait → Prop where
  | kept (wait : CountdownWait) : WaitStep now event wait wait
  | left (wait : CountdownWait) : WaitStep now event wait .absent
  | begins (wait : CountdownWait) (addr : SocketAddr) (told : event = .received (.remoteAddr addr)) :
      WaitStep now event wait (.awaited (now + Duration.fromSecs 3))
  | unanswered (deadline : Instant) (closed : deadline ≤ now) : WaitStep now event (.awaited deadline) .unanswered

/-- Where a call is, towards the other client. -/
inductive CallPlace where
  | outside
  | inside (stage : DirectStage)
  | gaveUp

def CallPlace.of (stage : Option DirectStage) (gaveUp : Bool) : CallPlace :=
  match stage with
  | some direct => .inside direct
  | none => if gaveUp then .gaveUp else .outside

def CallPlace.phase : CallPlace → RetryLoop.Phase
  | .inside stage => stage.phase
  | .outside | .gaveUp => .outside

namespace CallPlace

theorem inside_of {direct : Option DirectStage} {gaveUp : Bool} {stage : DirectStage}
    (inside : of direct gaveUp = .inside stage) : direct = some stage := by
  unfold of at inside
  split at inside
  · rw [CallPlace.inside.inj inside]
  · split_ifs at inside

theorem phase_of (direct : Option DirectStage) (gaveUp : Bool) :
    (of direct gaveUp).phase = direct.elim .outside DirectStage.phase := by
  cases direct with
  | none => cases gaveUp <;> rfl
  | some stage => rfl

end CallPlace

/-- A step enters the direct connection only with the countdown, and gives up only when the window is over after a
rest. -/
inductive PlaceStep (now : Instant) (event : ConnectorEvent) : CallPlace → CallPlace → Prop where
  | kept (place : CallPlace) : PlaceStep now event place place
  | left (place : CallPlace) : PlaceStep now event place .outside
  | enters (addr : SocketAddr) (duration : Duration) (told : event = .received (.startCountdown duration)) :
      PlaceStep now event .outside (.inside (.counting addr (now + min duration (Duration.fromSecs 2))))
  | goes (stage next : DirectStage) : PlaceStep now event (.inside stage) (.inside next)
  | gaveUp (addr : SocketAddr) (deadline wakeUp : Instant) (closed : deadline ≤ now) :
      PlaceStep now event (.inside (.resting addr deadline wakeUp)) .gaveUp

/-- What a step of a connector does to its stage, as far as its wait for the countdown and its place are concerned. -/
inductive ConnectorMove (now : Instant) (event : ConnectorEvent) : ConnectorStage → ConnectorStage → Prop where
  | kept (stage : ConnectorStage) : ConnectorMove now event stage stage
  | left (stage next : ConnectorStage)
      (outside : next.directStage = none ∧ next.gaveUp = false ∧ next.countdownWait = .absent) :
      ConnectorMove now event stage next
  | awaits (deadline : Instant) (addr : SocketAddr) (told : event = .received (.remoteAddr addr)) :
      ConnectorMove now event (.awaitingAddr deadline) (.awaitingCountdown addr (now + Duration.fromSecs 3))
  | unanswered (addr : SocketAddr) (deadline : Instant) (closed : deadline ≤ now) :
      ConnectorMove now event (.awaitingCountdown addr deadline) (.idle (some (.client (.error .noResponse))))
  | counts (addr : SocketAddr) (deadline : Instant) (duration : Duration)
      (told : event = .received (.startCountdown duration)) :
      ConnectorMove now event (.awaitingCountdown addr deadline)
        (.counting addr (now + min duration (Duration.fromSecs 2)))
  | goes (stage next : ConnectorStage) (direct other : DirectStage) (before : stage.directStage = some direct)
      (after : next.directStage = some other) : ConnectorMove now event stage next
  | gaveUp (addr : SocketAddr) (deadline wakeUp : Instant) (closed : deadline ≤ now) :
      ConnectorMove now event (.resting addr deadline wakeUp) (.idle (some (.client (.error .p2pConnectionFailed))))

namespace ConnectorMove

variable {now : Instant} {event : ConnectorEvent} {stage next : ConnectorStage}

theorem place (moves : ConnectorMove now event stage next) :
    PlaceStep now event (.of stage.directStage stage.gaveUp) (.of next.directStage next.gaveUp) := by
  cases moves with
  | kept => exact .kept _
  | left _ _ outside =>
      rw [outside.1, outside.2.1]
      exact .left _
  | awaits deadline addr told => exact .kept .outside
  | unanswered addr deadline closed => exact .kept .outside
  | counts addr deadline duration told => exact .enters addr duration told
  | goes _ _ direct other before after =>
      rw [before, after]
      exact .goes direct other
  | gaveUp addr deadline wakeUp closed => exact .gaveUp addr deadline wakeUp closed

theorem wait (moves : ConnectorMove now event stage next) :
    WaitStep now event stage.countdownWait next.countdownWait := by
  cases moves with
  | kept => exact .kept _
  | left _ _ outside =>
      rw [outside.2.2]
      exact .left _
  | awaits deadline addr told => exact .begins _ addr told
  | unanswered addr deadline closed => exact .unanswered deadline closed
  | counts addr deadline duration told => exact .left _
  | goes _ _ direct other before after =>
      rw [ConnectorStage.countdownWait_of_direct after]
      exact .left _
  | gaveUp addr deadline wakeUp closed => exact .left _

end ConnectorMove

def ConnectorRun.place (run : ConnectorRun) : CallPlace := .of run.stage.directStage run.stage.gaveUp

def ServiceRun.place (run : ServiceRun) : CallPlace := .of run.stage.directStage run.stage.gaveUp

namespace TcpClient

def place : TcpClient → CallPlace
  | .connector run => run.place
  | .service run => run.place

section Places

variable (windows : Bool) (now : Instant) (answers : SystemAnswers)

theorem connector_request_move (run : ConnectorRun) (event : ConnectorEvent) :
    ConnectorMove now event run.stage (run.request windows now answers event).stage := by
  unfold ConnectorRun.request
  split
  · unfold ConnectorRun.cloned
    split <;> exact .left _ _ ⟨rfl, rfl, rfl⟩
  · exact .left _ _ ⟨rfl, rfl, rfl⟩
  · rename_i call _ _
    cases call <;> exact .left _ _ ⟨rfl, rfl, rfl⟩
  · rename_i call deadline _
    split_ifs
    · cases call <;> exact .left _ _ ⟨rfl, rfl, rfl⟩
    · exact .kept _
  · rename_i call _
    cases call <;> exact .left _ _ ⟨rfl, rfl, rfl⟩
  · rename_i call _
    cases call <;> exact .left _ _ ⟨rfl, rfl, rfl⟩
  · exact .kept _

theorem connector_await_move (run : ConnectorRun) (event : ConnectorEvent) :
    ConnectorMove now event run.stage (run.await now event).stage := by
  unfold ConnectorRun.await
  split
  · exact .left _ _ ⟨rfl, rfl, rfl⟩
  · exact .left _ _ ⟨rfl, rfl, rfl⟩
  · split_ifs
    · exact .left _ _ ⟨rfl, rfl, rfl⟩
    · exact .kept _
  · rename_i deadline addr reached
    rw [reached]
    exact .awaits deadline addr rfl
  · exact .left _ _ ⟨rfl, rfl, rfl⟩
  · exact .left _ _ ⟨rfl, rfl, rfl⟩
  · split_ifs
    · exact .left _ _ ⟨rfl, rfl, rfl⟩
    · exact .kept _
  · rename_i addr deadline duration reached
    rw [reached]
    exact .counts addr deadline duration rfl
  · exact .left _ _ ⟨rfl, rfl, rfl⟩
  · rename_i addr deadline reached
    split_ifs with closed
    · rw [reached]
      exact .unanswered addr deadline closed
    · exact .kept _
  · exact .kept _

/-- The head of the loop dials, or it gives up when the window is over. -/
theorem connector_dial_move (run : ConnectorRun) {event : ConnectorEvent} {stage : ConnectorStage}
    {direct : DirectStage} (inside : stage.directStage = some direct) (addr : SocketAddr) (deadline : Instant)
    (failed : deadline ≤ now → ConnectorMove now event stage (.idle (some (.client (.error .p2pConnectionFailed))))) :
    ConnectorMove now event stage (run.dial windows now answers addr deadline).stage := by
  unfold ConnectorRun.dial
  split_ifs with early
  · unfold ConnectorRun.cloned
    split
    · exact .goes _ _ _ _ inside rfl
    · exact .left _ _ ⟨rfl, rfl, rfl⟩
    · exact .left _ _ ⟨rfl, rfl, rfl⟩
  · unfold ConnectorRun.finish
    split
    · exact failed (not_lt.mp early)
    · exact .left _ _ ⟨rfl, rfl, rfl⟩
    · exact .left _ _ ⟨rfl, rfl, rfl⟩

theorem connector_connectDirectly_move (run : ConnectorRun) (event : ConnectorEvent) :
    ConnectorMove now event run.stage (run.connectDirectly windows now answers event).stage := by
  unfold ConnectorRun.connectDirectly
  split
  · rename_i addr wakeUp reached
    split_ifs
    · rw [reached]
      refine connector_dial_move windows now answers run rfl addr _ fun closed => ?_
      exact absurd closed (Nat.not_le.mpr (Nat.lt_add_of_pos_right (by decide)))
    · exact .kept _
  · unfold ConnectorRun.finish
    split <;> exact .left _ _ ⟨rfl, rfl, rfl⟩
  · rename_i addr deadline timeout socket reached
    rw [reached]
    exact .goes _ _ _ _ rfl rfl
  · rename_i addr deadline timeout socket reached
    split_ifs
    · rw [reached]
      exact .goes _ _ _ _ rfl rfl
    · exact .kept _
  · rename_i addr deadline wakeUp reached
    split_ifs
    · rw [reached]
      exact connector_dial_move windows now answers run rfl addr deadline (.gaveUp addr deadline wakeUp)
    · exact .kept _
  · exact .kept _

/-- Every step of a connector is one of these. -/
theorem connector_step_move (run : ConnectorRun) (event : ConnectorEvent) :
    ConnectorMove now event run.stage (run.step windows now answers event).stage := by
  unfold ConnectorRun.step
  split_ifs
  · unfold ConnectorRun.dropped
    split
    · exact .kept _
    · exact .kept _
    · exact .left _ _ ⟨rfl, rfl, rfl⟩
  · split
    · exact connector_request_move windows now answers run event
    · exact connector_request_move windows now answers run event
    · exact connector_request_move windows now answers run event
    · exact connector_await_move now run event
    · exact connector_await_move now run event
    · exact connector_await_move now run event
    · exact connector_connectDirectly_move windows now answers run event
    · exact connector_connectDirectly_move windows now answers run event
    · exact connector_connectDirectly_move windows now answers run event
    · exact .kept _

theorem service_request_place (run : ServiceRun) (event : ConnectorEvent) :
    PlaceStep now event run.place (run.request now event).place := by
  unfold ServiceRun.request
  split
  · exact .left _
  · exact .left _
  · split_ifs
    · exact .left _
    · exact .kept _
  · exact .left _
  · exact .left _
  · exact .kept _

theorem service_await_place (run : ServiceRun) (event : ConnectorEvent) :
    PlaceStep now event run.place (run.await now event).place := by
  unfold ServiceRun.await
  split
  · exact .left _
  · exact .left _
  · exact .left _
  · split_ifs
    · exact .left _
    · exact .kept _
  · rename_i addr deadline duration stage
    rw [ServiceRun.place, stage]
    exact .enters addr duration rfl
  · exact .left _
  · split_ifs
    · exact .left _
    · exact .kept _
  · exact .kept _

theorem service_dial_place (run : ServiceRun) {event : ConnectorEvent} {stage : DirectStage} (addr : SocketAddr)
    (deadline : Instant) (failed : deadline ≤ now → PlaceStep now event (.inside stage) .gaveUp) :
    PlaceStep now event (.inside stage) (run.dial windows now answers addr deadline).place := by
  unfold ServiceRun.dial
  split_ifs with early
  · unfold ServiceRun.cloned
    split
    · exact .goes _ _
    · exact .left _
    · exact .left _
  · exact failed (not_lt.mp early)

theorem service_connectDirectly_place (run : ServiceRun) (event : ConnectorEvent) :
    PlaceStep now event run.place (run.connectDirectly windows now answers event).place := by
  have here {stage : ServiceStage} (reached : run.stage = stage) :
      run.place = .of stage.directStage stage.gaveUp := by
    rw [ServiceRun.place, reached]
  unfold ServiceRun.connectDirectly
  split
  · rename_i addr wakeUp reached
    split_ifs
    · rw [here reached]
      refine service_dial_place windows now answers run addr _ fun closed => ?_
      exact absurd closed (Nat.not_le.mpr (Nat.lt_add_of_pos_right (by decide)))
    · exact .kept _
  · exact .left _
  · rename_i addr deadline timeout socket reached
    rw [here reached]
    exact .goes _ _
  · rename_i addr deadline timeout socket reached
    split_ifs
    · rw [here reached]
      exact .goes _ _
    · exact .kept _
  · rename_i addr deadline wakeUp reached
    split_ifs
    · rw [here reached]
      exact service_dial_place windows now answers run addr deadline (.gaveUp addr deadline wakeUp)
    · exact .kept _
  · exact .kept _

/-- Every step of a call is one of these, for the wait of a connector. -/
theorem step_wait (client : TcpClient) (event : ConnectorEvent) :
    WaitStep now event client.countdownWait (client.step windows now answers event).countdownWait := by
  cases client with
  | service run => exact .kept .absent
  | connector run => exact (connector_step_move windows now answers run event).wait

/-- Every step of a call is one of these, towards the other client. -/
theorem step_place (client : TcpClient) (event : ConnectorEvent) :
    PlaceStep now event client.place (client.step windows now answers event).place := by
  cases client with
  | connector run => exact (connector_step_move windows now answers run event).place
  | service run =>
      change PlaceStep now event run.place (run.step windows now answers (.answered event)).place
      rw [service_answered]
      unfold ServiceRun.answered
      split_ifs
      · unfold ServiceRun.dropped
        split
        · exact .kept _
        · exact .kept _
        · exact .left _
      · split
        · exact service_request_place now run event
        · exact service_request_place now run event
        · exact service_await_place now run event
        · exact service_await_place now run event
        · exact service_connectDirectly_place windows now answers run event
        · exact service_connectDirectly_place windows now answers run event
        · exact service_connectDirectly_place windows now answers run event
        · exact .kept _
        · exact .kept _

theorem directStage_of_place {client : TcpClient} {stage : DirectStage} (inside : client.place = .inside stage) :
    client.directStage = some stage := by
  cases client with
  | connector run => exact CallPlace.inside_of inside
  | service run => exact CallPlace.inside_of inside

theorem phase_of_place (client : TcpClient) : client.phase = client.place.phase := by
  cases client with
  | connector run => exact (CallPlace.phase_of run.stage.directStage run.stage.gaveUp).symm
  | service run => exact (CallPlace.phase_of run.stage.directStage run.stage.gaveUp).symm

/-- Outside the direct connection, only the countdown leads into it. -/
theorem place_of_outside {client : TcpClient} (outside : client.place = .outside) (event : ConnectorEvent) :
    (client.step windows now answers event).place = .outside ∨ ∃ addr duration,
      event = .received (.startCountdown duration) ∧ (client.step windows now answers event).place =
        .inside (.counting addr (now + min duration (Duration.fromSecs 2))) := by
  have moved := client.step_place windows now answers event
  rw [outside] at moved
  generalize (client.step windows now answers event).place = next at moved
  cases moved with
  | kept => exact .inl rfl
  | left => exact .inl rfl
  | enters addr duration told => exact .inr ⟨addr, duration, told, rfl⟩

end Places

end TcpClient

/-- The countdown ends between these times, and the call gives up only after the window. -/
structure CallPlace.Dials (low high : Instant) (late : Duration) (clock : Instant) (place : CallPlace) : Prop where
  opens : place.phase.Opens (Duration.fromMillis 500) low high late
  gaveUp : place = .gaveUp → low + Duration.fromMillis 500 ≤ clock

/-- A call that dials in time goes on so. -/
theorem CallPlace.Dials.step {low high now clock : Instant} {late : Duration} {windows : Bool} {answers : SystemAnswers}
    {client : TcpClient} {event : ConnectorEvent} (dials : client.place.Dials low high late clock)
    (started : client.place ≠ .outside) (forward : clock ≤ now)
    (prompt : ∀ wake, client.place.phase = .waiting wake → now ≤ wake + late) :
    (client.step windows now answers event).place.Dials low high late now := by
  have moved := client.step_place windows now answers event
  have loops (stage : DirectStage) (inside : client.place = .inside stage) :=
    (client.steps windows now answers (TcpClient.directStage_of_place inside) event).1.loops
  generalize before : client.place = place at *
  generalize after : (client.step windows now answers event).place = next at *
  cases moved with
  | kept => exact ⟨dials.opens, fun gaveUp => (dials.gaveUp gaveUp).trans forward⟩
  | left => exact ⟨.outside, by simp⟩
  | enters => exact absurd rfl started
  | goes stage next =>
      have taken := loops stage rfl
      rw [TcpClient.directStage_of_place after] at taken
      exact ⟨dials.opens.step taken prompt, by simp⟩
  | gaveUp addr deadline wakeUp closed =>
      exact ⟨.outside, fun _ => (dials.opens.closes deadline rfl).1.trans closed⟩

namespace StageStep

variable {stage next : Stage} {deed : Option Deed}

/-- A task owes a countdown after its own confirmation, after the confirmation of its request, and while it sends what
comes before the countdown. -/
theorem owes (moves : StageStep stage deed next) (owed : .told countdown ∈ next.outstanding) :
    next = stage ∨ next ≠ stage ∧ ((∃ incoming, deed = some (.confirmed incoming) ∧ next.outstanding.length = 2) ∨
      (∃ session rx deadline, stage = .waiting session rx deadline ∧ deed = some (.ended session rx true) ∧
        next.outstanding.length = 1) ∨
      ∃ message, stage.outstanding = message :: next.outstanding) := by
  cases moves with
  | idle => exact .inl rfl
  | listed clients => simp [Stage.outstanding, countdown] at owed
  | inserted session tx dst => simp [Stage.outstanding, countdown] at owed
  | confirmed incoming => exact .inr ⟨by simp, .inl ⟨incoming, rfl, rfl⟩⟩
  | answering message next messages => exact .inr ⟨by simp, .inr (.inr ⟨.told message, rfl⟩)⟩
  | ended session rx deadline ok =>
      cases ok with
      | true => exact .inr ⟨by simp, .inr (.inl ⟨session, rx, deadline, rfl, rfl, rfl⟩)⟩
      | false => simp [Stage.outstanding] at owed
  | _ => simp [Stage.outstanding] at owed

/-- A task waits after it inserted its request and told the address. -/
theorem waits {session : UInt64} {rx : Nat} (moves : StageStep stage deed next) (awaits : next.Awaits session rx) :
    next = stage ∨ (∃ dst, deed = some (.inserted session rx dst)) ∨
      next ≠ stage ∧ stage.Awaits session rx ∧ stage.outstanding.length = 1 ∧ next.outstanding = [] := by
  cases moves with
  | idle => exact .inl rfl
  | inserted other channel dst =>
      obtain ⟨rfl, rfl⟩ := awaits
      exact .inr (.inl ⟨dst, rfl⟩)
  | told other channel dst deadline => exact .inr (.inr ⟨by simp, awaits, rfl, rfl⟩)
  | ended other channel deadline ok => cases ok <;> exact absurd awaits id
  | _ => exact absurd awaits id

/-- What a task tells is the first of its outstanding messages. -/
theorem tells {message : ToNatClientMsg} (moves : StageStep stage (some (.told message)) next) :
    stage.outstanding = .told message :: next.outstanding := by
  generalize did : some (Deed.told message) = deed at moves
  cases moves with
  | answered | answering | told | started =>
      cases did
      rfl
  | _ => cases did

end StageStep

theorem Stage.Awaits.outstanding_le {stage : Stage} {session : UInt64} {rx : Nat} (awaits : stage.Awaits session rx) :
    stage.outstanding.length ≤ 1 := by
  cases stage with
  | telling | waiting => simp [Stage.outstanding]
  | _ => exact absurd awaits id

/-- The network, when each task entered its stage, and what the tasks did, oldest first. -/
structure TimedNetwork where
  network : TcpNetwork
  entered : Nat → Instant
  log : List (Instant × Nat × Deed)

namespace TimedNetwork

def start (clients : Nat → TcpClient) : TimedNetwork := ⟨.start clients, fun _ => 0, []⟩

def next (addrs : Nat → SocketAddr) (windows : Nat → Bool) (state : TimedNetwork) (event : Instant × NetworkEvent) :
    TimedNetwork :=
  let network := state.network.next addrs windows event
  match event.2 with
  | .task task taken =>
      { network
        entered := if network.tasks.stages task = state.network.tasks.stages task then state.entered
          else Function.update state.entered task event.1
        log := state.log ++ noted event.1 task (state.network.tasks.deed addrs event.1 task taken) }
  | .client _ _ _ => { state with network }

/-- A task with messages to send takes its next step within the delay, like a task whose channel was used. -/
def taskOnTime (late : Duration) (state : TimedNetwork) (now : Instant) (task : Nat) : Prop :=
  match state.network.tasks.stages task with
  | .waiting _ rx _ => ∀ entry ∈ state.log, entry.2.2.key = some (.confirming, rx) →
      now ≤ max entry.1 (state.entered task) + late
  | stage => stage.outstanding ≠ [] → now ≤ state.entered task + late

/-- A message arrives within the latency. -/
def messageOnTime (latency : Duration) (state : TimedNetwork) (now : Instant) (client : Nat) : ConnectorEvent → Prop
  | .received message => ∀ entry ∈ state.log, entry.2 = (client, .told message) → now ≤ entry.1 + latency
  | _ => True

/-- A call that counts down wakes up within the delay. -/
def callOnTime (late : Duration) (now : Instant) (client : TcpClient) : Prop :=
  match client.phase with
  | .waiting wakeUp => now ≤ wakeUp + late
  | _ => True

def onTime (late latency : Duration) (state : TimedNetwork) (now : Instant) : NetworkEvent → Prop
  | .task task _ => state.taskOnTime late now task
  | .client client _ taken =>
      callOnTime late now (state.network.clients client) ∧ state.messageOnTime latency now client taken

instance (late : Duration) (state : TimedNetwork) (now : Instant) (task : Nat) :
    Decidable (state.taskOnTime late now task) := by
  unfold taskOnTime
  split <;> infer_instance

instance (latency : Duration) (state : TimedNetwork) (now : Instant) (client : Nat) (event : ConnectorEvent) :
    Decidable (state.messageOnTime latency now client event) := by
  unfold messageOnTime
  split <;> infer_instance

instance (late : Duration) (now : Instant) (client : TcpClient) : Decidable (callOnTime late now client) := by
  unfold callOnTime
  split <;> infer_instance

instance (late latency : Duration) (state : TimedNetwork) (now : Instant) (event : NetworkEvent) :
    Decidable (state.onTime late latency now event) := by
  unfold onTime
  split <;> infer_instance

end TimedNetwork

/-- The network runs as before, and no step is later than it may be. -/
def timedNetworkMachine (addrs : Nat → SocketAddr) (windows : Nat → Bool) (late latency : Duration) :
    Machine TimedNetwork (Instant × NetworkEvent) where
  initial state := ∃ clients, (∀ client, (callMachine (windows client)).initial (clients client)) ∧
    state = .start clients
  allowed state event := (networkMachine addrs windows).allowed state.network event ∧
    state.onTime late latency event.1 event.2
  next := TimedNetwork.next addrs windows

instance (addrs : Nat → SocketAddr) (windows : Nat → Bool) (late latency : Duration) (state : TimedNetwork)
    (event : Instant × NetworkEvent) :
    Decidable ((timedNetworkMachine addrs windows late latency).allowed state event) :=
  inferInstanceAs (Decidable (_ ∧ _))

/-- The task takes part in the match of this channel, which a service confirmed at this time. -/
def MatchedAt (log : List (Instant × Nat × Deed)) (task rx : Nat) (confirmed : Instant) : Prop :=
  ∃ service incoming, incoming.tx = rx ∧ (confirmed, service, .confirmed incoming) ∈ log ∧
    (service = task ∨ ∃ requested session dst, (requested, task, .inserted session rx dst) ∈ log)

/-- At this time the task has this many messages to send, the countdown of its match among them. The countdown is told
three delays after the confirmation at most. -/
def Due (late : Duration) (log : List (Instant × Nat × Deed)) (task : Nat) (now : Instant) (messages : Nat) : Prop :=
  ∃ rx confirmed, MatchedAt log task rx confirmed ∧ confirmed ≤ now ∧ now + late * messages ≤ confirmed + 3 * late

/-- The task told its client the address three seconds before this time. -/
def WaitedUntil (log : List (Instant × Nat × Deed)) (client : Nat) (ending : Instant) : Prop :=
  ∃ tm addr, (tm, client, .told (.remoteAddr addr)) ∈ log ∧ tm + Duration.fromSecs 3 ≤ ending

theorem WaitedUntil.mono {log longer : List (Instant × Nat × Deed)} {client : Nat} {ending later : Instant}
    (waited : WaitedUntil log client ending) (logged : log ⊆ longer) (forward : ending ≤ later) :
    WaitedUntil longer client later := by
  obtain ⟨tm, addr, told, bound⟩ := waited
  exact ⟨tm, addr, logged told, bound.trans forward⟩

/-- The wait of a connector ends three seconds after its request was inserted, or later. -/
theorem WaitedUntil.of_inserted {log : List (Instant × Nat × Deed)} {client tx : Nat} {requested ending : Instant}
    {session : UInt64} {dst : SocketAddr} {message : ToNatServerMsg} (waited : WaitedUntil log client ending)
    (ordered : log.Pairwise fun first second => first.1 ≤ second.1) (begins : Begins message (deedsOf client log))
    (inserted : (requested, client, .inserted session tx dst) ∈ log) : requested + Duration.fromSecs 3 ≤ ending := by
  obtain ⟨tm, addr, told, bound⟩ := waited
  obtain ⟨earlier, later, rfl⟩ := List.append_of_mem inserted
  obtain before | after := List.mem_append.mp told
  · -- The insertion is the first deed of its task.
    have split : deedsOf client (earlier ++ (requested, client, .inserted session tx dst) :: later) =
        deedsOf client earlier ++ .inserted session tx dst :: deedsOf client later := by
      rw [deedsOf_append]
      simp [deedsOf]
    have first := mem_deedsOf.mpr ⟨tm, before⟩
    rw [begins.opening split rfl] at first
    cases first
  · have order := (List.pairwise_cons.mp (List.pairwise_append.mp ordered).2.1).1
    obtain same | after := List.mem_cons.mp after
    · cases same
    · exact (Nat.add_le_add_right (order _ after) _).trans bound

theorem MatchedAt.mono {log : List (Instant × Nat × Deed)} {task rx : Nat} {confirmed : Instant}
    (matched : MatchedAt log task rx confirmed) (extra : List (Instant × Nat × Deed)) :
    MatchedAt (log ++ extra) task rx confirmed := by
  obtain ⟨service, incoming, same, happened, part⟩ := matched
  refine ⟨service, incoming, same, List.mem_append_left extra happened, ?_⟩
  exact part.imp_right fun ⟨requested, session, dst, inserted⟩ =>
    ⟨requested, session, dst, List.mem_append_left extra inserted⟩

theorem Due.mono {late : Duration} {log : List (Instant × Nat × Deed)} {task messages : Nat} {now : Instant}
    (due : Due late log task now messages) (extra : List (Instant × Nat × Deed)) :
    Due late (log ++ extra) task now messages := by
  obtain ⟨rx, confirmed, matched, bounds⟩ := due
  exact ⟨rx, confirmed, matched.mono extra, bounds⟩

namespace TimedNetwork

/-- How late the tasks are after the confirmation of their match. -/
structure Prompt (late : Duration) (state : TimedNetwork) : Prop where
  past : ∀ entry ∈ state.log, entry.1 ≤ state.network.clock
  ordered : state.log.Pairwise fun first second => first.1 ≤ second.1
  entered : ∀ task, state.entered task ≤ state.network.clock
  awaits : ∀ task session rx, (state.network.tasks.stages task).Awaits session rx → ∀ entry ∈ state.log,
    entry.2.2.key = some (.confirming, rx) →
      state.entered task + late * (state.network.tasks.stages task).outstanding.length ≤ entry.1 + late
  owes : ∀ task, .told countdown ∈ (state.network.tasks.stages task).outstanding →
    Due late state.log task (state.entered task) (state.network.tasks.stages task).outstanding.length
  told : ∀ tm task, (tm, task, .told countdown) ∈ state.log → Due late state.log task tm 0

variable {addrs : Nat → SocketAddr} {windows : Nat → Bool} {late latency : Duration} {state : TimedNetwork}
  {now : Instant} {task : Nat} {event : TaskEvent}

theorem prompt_start (clients : Nat → TcpClient) : (start clients).Prompt late where
  past _ member := by cases member
  ordered := .nil
  entered _ := le_rfl
  awaits _ _ _ awaits := absurd awaits id
  owes task owed := by simp [start, TcpNetwork.start, Tasks.start, Stage.outstanding] at owed
  told _ _ member := by cases member

/-- A task enters a stage when it changes its stage. -/
theorem next_entered (state : TimedNetwork) (other : Nat) :
    (state.next addrs windows (now, .task task event)).entered other =
      if other = task ∧ (state.network.tasks.step addrs now task event).stages task ≠ state.network.tasks.stages task
      then now else state.entered other := by
  change (if (state.network.tasks.step addrs now task event).stages task = state.network.tasks.stages task
    then state.entered else Function.update state.entered task now) other = _
  by_cases same : (state.network.tasks.step addrs now task event).stages task = state.network.tasks.stages task
  · simp [same]
  · by_cases own : other = task
    · subst own
      simp [same]
    · simp [same, own]

theorem sends_onTime (onTime : state.taskOnTime late now task)
    (sends : (state.network.tasks.stages task).outstanding ≠ []) : now ≤ state.entered task + late := by
  unfold taskOnTime at onTime
  split at onTime
  · rename_i stage
    exact absurd (by rw [stage]; rfl) sends
  · exact onTime sends

section Task

variable (prompt : state.Prompt late) (explained : state.network.tasks.Explained addrs state.log)
  (forward : state.network.clock ≤ now) (onTime : state.taskOnTime late now task)

include prompt forward onTime

/-- The last message before the countdown, or the countdown itself, takes one delay. -/
theorem Prompt.task_sends {message : Deed} {rest : List Deed}
    (outstanding : (state.network.tasks.stages task).outstanding = message :: rest)
    (owed : .told countdown ∈ (state.network.tasks.stages task).outstanding) :
    Due late state.log task now rest.length := by
  obtain ⟨rx, confirmed, matched, later, soon⟩ := prompt.owes task owed
  have sent := sends_onTime onTime (by simp [outstanding])
  rw [outstanding, List.length_cons, Nat.mul_succ] at soon
  exact ⟨rx, confirmed, matched, later.trans ((prompt.entered task).trans forward), by lia⟩

theorem Prompt.task_told {tm : Instant} {owner : Nat}
    (told : (tm, owner, .told countdown) ∈ (state.next addrs windows (now, .task task event)).log) :
    Due late (state.next addrs windows (now, .task task event)).log owner tm 0 := by
  obtain old | ⟨rfl, rfl, did⟩ := mem_append_noted.mp told
  · exact (prompt.told tm owner old).mono _
  · have moves := (state.network.tasks.step_stepped addrs tm owner event).moves
    rw [did] at moves
    have outstanding := moves.tells
    obtain ⟨rx, confirmed, matched, later, soon⟩ :=
      prompt.task_sends forward onTime outstanding (by simp [outstanding])
    exact ⟨rx, confirmed, matched.mono _, later, by lia⟩

include explained

/-- A wait ends with the confirmation of its match. -/
theorem Prompt.task_woken {session : UInt64} {rx : Nat} {deadline : Instant}
    (waiting : state.network.tasks.stages task = .waiting session rx deadline)
    (did : state.network.tasks.deed addrs now task event = some (.ended session rx true)) :
    Due late state.log task now 1 := by
  have stepped := state.network.tasks.step_stepped addrs now task event
  rw [did] at stepped
  have after := explained.step stepped
  have ended : (now, task, .ended session rx true) ∈ state.log ++ noted now task (some (.ended session rx true)) :=
    mem_append_noted.mpr (.inr ⟨rfl, rfl, rfl⟩)
  obtain ⟨⟨confirmed, service, deed⟩, member, key⟩ :=
    (after.used rx).mpr ((after.verdict now task session rx true ended).mp rfl)
  obtain ⟨incoming, rfl, rfl⟩ := Deed.key_confirming key
  have happened : (confirmed, service, .confirmed incoming) ∈ state.log := by
    obtain old | ⟨_, _, same⟩ := mem_append_noted.mp member
    · exact old
    · cases same
  have awaits : (state.network.tasks.stages task).Awaits session incoming.tx := by
    rw [waiting]
    exact ⟨rfl, rfl⟩
  obtain ⟨requested, dst, inserted⟩ := explained.inserted_of_awaits awaits
  have since : state.entered task ≤ confirmed + late := by
    simpa [waiting, Stage.outstanding] using prompt.awaits task session incoming.tx awaits _ happened key
  rw [taskOnTime, waiting] at onTime
  have woken : now ≤ max confirmed (state.entered task) + late := onTime _ happened key
  refine ⟨incoming.tx, confirmed, ⟨service, incoming, rfl, happened, .inr ⟨requested, session, dst, inserted⟩⟩, ?_, ?_⟩
  · exact (prompt.past _ happened).trans forward
  · lia

theorem Prompt.task_owes (other : Nat) (owed : .told countdown ∈
    ((state.network.tasks.step addrs now task event).stages other).outstanding) :
    Due late (state.next addrs windows (now, .task task event)).log other
      ((state.next addrs windows (now, .task task event)).entered other)
      ((state.network.tasks.step addrs now task event).stages other).outstanding.length := by
  have stepped := state.network.tasks.step_stepped addrs now task event
  rw [next_entered]
  by_cases own : other = task
  · subst own
    obtain same | ⟨changed, ⟨incoming, did, length⟩ | ⟨session, rx, deadline, waiting, did, length⟩ |
      ⟨message, outstanding⟩⟩ := stepped.moves.owes owed
    · rw [if_neg fun both => both.2 same, same]
      rw [same] at owed
      exact (prompt.owes other owed).mono _
    · rw [if_pos ⟨rfl, changed⟩, length]
      have happened : (now, other, Deed.confirmed incoming) ∈ (state.next addrs windows (now, .task other event)).log :=
        mem_append_noted.mpr (.inr ⟨rfl, rfl, did⟩)
      exact ⟨incoming.tx, now, ⟨other, incoming, rfl, happened, .inl rfl⟩, le_rfl, by lia⟩
    · rw [if_pos ⟨rfl, changed⟩, length]
      exact (prompt.task_woken explained forward onTime waiting did).mono _
    · rw [if_pos ⟨rfl, changed⟩]
      refine (prompt.task_sends forward onTime outstanding ?_).mono _
      rw [outstanding]
      exact List.mem_cons_of_mem message owed
  · have kept := stepped.others other own
    rw [if_neg fun both => own both.1, kept]
    rw [kept] at owed
    exact (prompt.owes other owed).mono _

theorem Prompt.task_awaits (other : Nat) {session : UInt64} {rx : Nat}
    (awaits : ((state.network.tasks.step addrs now task event).stages other).Awaits session rx)
    {entry : Instant × Nat × Deed} (member : entry ∈ (state.next addrs windows (now, .task task event)).log)
    (key : entry.2.2.key = some (.confirming, rx)) :
    (state.next addrs windows (now, .task task event)).entered other +
      late * ((state.network.tasks.step addrs now task event).stages other).outstanding.length ≤ entry.1 + late := by
  have stepped := state.network.tasks.step_stepped addrs now task event
  obtain ⟨tm, owner, deed⟩ := entry
  obtain old | ⟨rfl, rfl, did⟩ := mem_append_noted.mp member
  · rw [next_entered]
    by_cases own : other = task
    · subst own
      obtain same | ⟨dst, did⟩ | ⟨changed, before, one, nothing⟩ := stepped.moves.waits awaits
      · rw [if_neg fun both => both.2 same, same]
        exact prompt.awaits other session rx (same ▸ awaits) _ old key
      · -- The channel is new, so nobody confirmed on it.
        obtain ⟨incoming, rfl, rfl⟩ := Deed.key_confirming key
        obtain ⟨taken, asked, announced⟩ := explained.confirmed _ _ _ old
        obtain ⟨⟨requested, connector, before, inserted, _⟩, _⟩ := explained.taken _ _ _ _ announced
        exact absurd ⟨_, inserted, rfl⟩ (explained.key_fresh stepped did rfl).1
      · rw [if_pos ⟨rfl, changed⟩, nothing]
        have since := prompt.awaits other session rx before _ old key
        have sent := sends_onTime onTime (List.ne_nil_of_length_eq_add_one one)
        rw [one] at since
        simpa using sent.trans (by lia)
    · have kept := stepped.others other own
      rw [if_neg fun both => own both.1, kept]
      exact prompt.awaits other session rx (kept ▸ awaits) _ old key
  · have entered : (state.next addrs windows (tm, .task owner event)).entered other ≤ tm := by
      rw [next_entered]
      split_ifs
      · exact le_rfl
      · exact (prompt.entered other).trans forward
    exact Nat.add_le_add entered ((Nat.mul_le_mul_left late awaits.outstanding_le).trans_eq (Nat.mul_one late))

/-- Every step of a task keeps the tasks prompt. -/
theorem Prompt.taskStep : (state.next addrs windows (now, .task task event)).Prompt late where
  past := by
    rintro ⟨tm, owner, deed⟩ member
    obtain old | ⟨rfl, _⟩ := mem_append_noted.mp member
    · exact (prompt.past _ old).trans forward
    · exact le_rfl
  ordered := by
    refine List.pairwise_append.mpr ⟨prompt.ordered, ?_, fun first old second new => ?_⟩
    · cases state.network.tasks.deed addrs now task event with
      | none => exact .nil
      | some deed => exact List.pairwise_singleton _ _
    · obtain ⟨deed, _, rfl⟩ := Option.map_eq_some_iff.mp (Option.mem_toList.mp new)
      exact (prompt.past first old).trans forward
  entered := by
    intro other
    rw [next_entered]
    split_ifs
    · exact le_rfl
    · exact (prompt.entered other).trans forward
  awaits other _ _ awaits _ member key := prompt.task_awaits explained forward onTime other awaits member key
  owes other owed := prompt.task_owes explained forward onTime other owed
  told _ _ told := prompt.task_told forward onTime told

end Task

/-- A step of a call changes nothing for the tasks. -/
theorem Prompt.clientStep (prompt : state.Prompt late) (forward : state.network.clock ≤ now) (client : Nat)
    (answers : SystemAnswers) (taken : ConnectorEvent) :
    (state.next addrs windows (now, .client client answers taken)).Prompt late where
  past entry member := (prompt.past entry member).trans forward
  ordered := prompt.ordered
  entered other := (prompt.entered other).trans forward
  awaits := prompt.awaits
  owes := prompt.owes
  told := prompt.told

/-- The call dials in time after its task told the countdown, if it dials. -/
def Punctual (late latency : Duration) (state : TimedNetwork) (client : Nat) : Prop :=
  (state.network.clients client).place = .outside ∨ ∃ tm, (tm, client, .told countdown) ∈ state.log ∧
    (state.network.clients client).place.Dials (tm + Duration.fromMillis scheduleConMs)
      (tm + Duration.fromMillis scheduleConMs + latency) late state.network.clock

/-- A connector waits for the countdown for three seconds after its task told it the address. -/
structure Waited (state : TimedNetwork) (client : Nat) : Prop where
  awaited : ∀ deadline, (state.network.clients client).countdownWait = .awaited deadline →
    WaitedUntil state.log client deadline
  unanswered : (state.network.clients client).countdownWait = .unanswered →
    WaitedUntil state.log client state.network.clock

theorem Waited.later {next : TimedNetwork} {client : Nat} (waited : state.Waited client)
    (same : next.network.clients client = state.network.clients client)
    (forward : state.network.clock ≤ next.network.clock) (logged : state.log ⊆ next.log) : next.Waited client where
  awaited deadline waits := (waited.awaited deadline (same ▸ waits)).mono logged le_rfl
  unanswered vain := (waited.unanswered (same ▸ vain)).mono logged forward

theorem Punctual.later {next : TimedNetwork} {client : Nat} (punctual : state.Punctual late latency client)
    (same : next.network.clients client = state.network.clients client)
    (forward : state.network.clock ≤ next.network.clock) (logged : state.log ⊆ next.log) :
    next.Punctual late latency client := by
  rw [Punctual, same]
  obtain outside | ⟨tm, told, dials⟩ := punctual
  · exact .inl outside
  · exact .inr ⟨tm, logged told, dials.opens, fun gaveUp => (dials.gaveUp gaveUp).trans forward⟩

end TimedNetwork

/-- A task takes part in one match at most. -/
theorem MatchedAt.unique {addrs : Nat → SocketAddr} {tasks : Tasks} {log : List (Instant × Nat × Deed)} {side rx : Nat}
    {tm requested confirmed : Instant} {connector service : Nat} {session : UInt64} {dst : SocketAddr}
    {incoming : IncomingConnection} {message : ToNatServerMsg} (matched : MatchedAt log side rx tm)
    (explained : tasks.Explained addrs log) (begins : Begins message (deedsOf side log))
    (inserted : (requested, connector, .inserted session incoming.tx dst) ∈ log)
    (confirming : (confirmed, service, .confirmed incoming) ∈ log) (part : side = connector ∨ side = service) :
    tm = confirmed := by
  obtain ⟨owner, other, rfl, happened, own⟩ := matched
  obtain ⟨before, asked, announced⟩ := explained.confirmed _ _ _ confirming
  obtain ⟨earlier, again, taken⟩ := explained.confirmed _ _ _ happened
  -- The first deed of the task says which part it takes, and on which channel.
  have first {first second : Deed} {tm later : Instant} (there : (tm, side, first) ∈ log)
      (next : (later, side, second) ∈ log) (opens : first.opens = true) (opened : second.opens = true) :=
    begins.unique (mem_deedsOf.mpr ⟨tm, there⟩) (mem_deedsOf.mpr ⟨later, next⟩) opens opened
  have channel (same : other.tx = incoming.tx) : tm = confirmed :=
    congrArg Prod.fst (explained.once.eq happened confirming rfl (by rw [same]; rfl))
  obtain rfl | rfl := part
  · obtain rfl | ⟨_, _, _, repeated⟩ := own
    · cases first inserted taken rfl rfl
    · have same := first inserted repeated rfl rfl
      rw [Deed.inserted.injEq] at same
      exact channel same.2.1.symm
  · obtain rfl | ⟨_, _, _, repeated⟩ := own
    · have same := first announced taken rfl rfl
      rw [Deed.announced.injEq, Option.some.injEq] at same
      exact channel (congrArg IncomingConnection.tx same.2.symm)
    · cases first announced repeated rfl rfl

section Runs

variable {addrs : Nat → SocketAddr} {windows : Nat → Bool} {late latency : Duration} {clients : Nat → TcpClient}
  {events : List (Instant × NetworkEvent)} {state : TimedNetwork}

/-- The network of a timed run runs as before, and the log is its history. -/
theorem run_network (ran : (timedNetworkMachine addrs windows late latency).Run (.start clients) events state) :
    (networkMachine addrs windows).Run (.start clients) events state.network ∧
      state.log = history addrs (serverEvents events) := by
  induction ran with
  | nil => exact ⟨.nil, rfl⟩
  | @snoc events state event before allowed ih =>
      obtain ⟨ran, log⟩ := ih
      obtain ⟨now, event⟩ := event
      rw [serverEvents_snoc]
      cases event with
      | task task taken =>
          refine ⟨ran.snoc (now, .task task taken) allowed.1, ?_⟩
          have noted : history addrs (serverEvents events ++ serverEvents [(now, .task task taken)]) =
              history addrs (serverEvents events) ++
                noted now task (state.network.tasks.deed addrs now task taken) :=
            (run_tasks ran).1.notes_snoc (Tasks.observe addrs) (now, task, taken)
          rw [noted, ← log]
          rfl
      | client client answers taken =>
          refine ⟨ran.snoc (now, .client client answers taken) allowed.1, ?_⟩
          rw [show serverEvents [(now, NetworkEvent.client client answers taken)] = [] from rfl, List.append_nil]
          exact log

/-- A message that arrives was told before. -/
theorem answer_told (ran : (timedNetworkMachine addrs windows late latency).Run (.start clients) events state)
    (begins : ∀ client, (callMachine (windows client)).initial (clients client)) {client : Nat}
    {message : ToNatClientMsg} (first : (state.network.answers client).head? = some message) :
    ∃ tm, (tm, client, .told message) ∈ state.log := by
  obtain ⟨network, log⟩ := run_network ran
  obtain ⟨request, connecting⟩ := connecting_of_initial (begins client)
  obtain ⟨heard, told, _⟩ := (run_connected network connecting).1.heard
  have member : message ∈ toldMessages (deedsOf client (history addrs (serverEvents events))) := by
    rw [told]
    exact List.mem_append_right heard (List.mem_of_head? first)
  rw [log]
  exact mem_deedsOf.mp (mem_toldMessages.mp member)

/-- A countdown that arrives was told before, and it is the one of the server. -/
theorem countdown_told (ran : (timedNetworkMachine addrs windows late latency).Run (.start clients) events state)
    (begins : ∀ client, (callMachine (windows client)).initial (clients client)) {client : Nat} {duration : Duration}
    (first : (state.network.answers client).head? = some (.startCountdown duration)) :
    ∃ tm, duration = Duration.fromMillis scheduleConMs ∧ (tm, client, .told countdown) ∈ state.log := by
  obtain ⟨network, log⟩ := run_network ran
  obtain ⟨tm, told⟩ := answer_told ran begins first
  have same : ToNatClientMsg.startCountdown duration = countdown := told_countdown (run_tasks network).1 (log ▸ told)
  exact ⟨tm, ToNatClientMsg.startCountdown.inj same, same ▸ told⟩

/-- A connector begins its wait when it is told the address, and gives up at the end of it. -/
theorem waited_own (ran : (timedNetworkMachine addrs windows late latency).Run (.start clients) events state)
    (begins : ∀ client, (callMachine (windows client)).initial (clients client)) (prompt : state.Prompt late)
    {now : Instant} {client : Nat} {answers : SystemAnswers} {taken : ConnectorEvent} (waited : state.Waited client)
    (allowed : (timedNetworkMachine addrs windows late latency).allowed state (now, .client client answers taken)) :
    (state.next addrs windows (now, .client client answers taken)).Waited client := by
  obtain ⟨⟨forward, delivers⟩, _⟩ := allowed
  have own : (state.next addrs windows (now, .client client answers taken)).network.clients client =
      (state.network.clients client).step (windows client) now answers taken :=
    Function.update_self ..
  have moved := (state.network.clients client).step_wait (windows client) now answers taken
  rw [← own] at moved
  generalize before : (state.network.clients client).countdownWait = wait at moved
  generalize after : ((state.next addrs windows (now, .client client answers taken)).network.clients
    client).countdownWait = next at moved
  cases moved with
  | kept =>
      refine ⟨fun deadline waits => ?_, fun vain => ?_⟩
      · exact waited.awaited deadline (before.trans (after.symm.trans waits))
      · exact (waited.unanswered (before.trans (after.symm.trans vain))).mono (List.Subset.refl _) forward
  | left =>
      refine ⟨fun deadline waits => ?_, fun vain => ?_⟩
      · cases after.symm.trans waits
      · cases after.symm.trans vain
  | begins _ addr told =>
      subst told
      refine ⟨fun deadline waits => ?_, fun vain => ?_⟩
      · cases after.symm.trans waits
        obtain ⟨tm, told⟩ := answer_told ran begins delivers.2
        exact ⟨tm, addr, told, Nat.add_le_add_right ((prompt.past _ told).trans forward) _⟩
      · cases after.symm.trans vain
  | unanswered deadline closed =>
      refine ⟨fun other waits => ?_, fun _ => ?_⟩
      · cases after.symm.trans waits
      · exact (waited.awaited deadline before).mono (List.Subset.refl _) closed

/-- A call that is told the countdown in time goes on in time. -/
theorem punctual_own (ran : (timedNetworkMachine addrs windows late latency).Run (.start clients) events state)
    (begins : ∀ client, (callMachine (windows client)).initial (clients client)) (prompt : state.Prompt late)
    {now : Instant} {client : Nat} {answers : SystemAnswers} {taken : ConnectorEvent}
    (punctual : state.Punctual late latency client)
    (allowed : (timedNetworkMachine addrs windows late latency).allowed state (now, .client client answers taken)) :
    (state.next addrs windows (now, .client client answers taken)).Punctual late latency client := by
  obtain ⟨⟨forward, delivers⟩, awake, arrives⟩ := allowed
  have own : (state.next addrs windows (now, .client client answers taken)).network.clients client =
      (state.network.clients client).step (windows client) now answers taken :=
    Function.update_self ..
  rw [TimedNetwork.Punctual, own]
  by_cases outside : (state.network.clients client).place = .outside
  · obtain still | ⟨addr, duration, rfl, entered⟩ :=
      TcpClient.place_of_outside (windows client) now answers outside taken
    · exact .inl still
    · obtain ⟨tm, rfl, told⟩ := countdown_told ran begins delivers.2
      have early : tm ≤ now := (prompt.past _ told).trans forward
      have soon : now ≤ tm + latency := arrives _ told rfl
      rw [entered]
      refine .inr ⟨tm, told, ⟨?_, by simp [CallPlace.phase, DirectStage.phase, Phase.closes]⟩, by simp⟩
      intro wake waiting
      obtain rfl := Phase.waiting.inj waiting
      rw [Nat.min_eq_left (by decide)]
      lia
  · obtain nothing | ⟨tm, told, dials⟩ := punctual
    · exact absurd nothing outside
    · refine .inr ⟨tm, told, dials.step outside forward fun wake waiting => ?_⟩
      rwa [TimedNetwork.callOnTime, TcpClient.phase_of_place, waiting] at awake

theorem timed_prompt (ran : (timedNetworkMachine addrs windows late latency).Run (.start clients) events state)
    (begins : ∀ client, (callMachine (windows client)).initial (clients client)) :
    state.Prompt late ∧ ∀ client, state.Punctual late latency client ∧ state.Waited client := by
  induction ran with
  | nil =>
      refine ⟨TimedNetwork.prompt_start clients, fun client => ?_⟩
      have outside : (clients client).place = .outside ∧ (clients client).countdownWait = .absent := by
        obtain ⟨run, call, deadline, same, stage⟩ | ⟨run, deadline, same, stage⟩ := begins client
        · rw [same, TcpClient.place, ConnectorRun.place, TcpClient.countdownWait, stage]
          exact ⟨rfl, rfl⟩
        · rw [same, TcpClient.place, ServiceRun.place, stage]
          exact ⟨rfl, rfl⟩
      refine ⟨.inl outside.1, fun deadline waits => ?_, fun vain => ?_⟩
      · cases outside.2.symm.trans waits
      · cases outside.2.symm.trans vain
  | @snoc events state event before allowed ih =>
      obtain ⟨prompt, calls⟩ := ih
      obtain ⟨now, event⟩ := event
      cases event with
      | task task taken =>
          obtain ⟨network, log⟩ := run_network before
          have explained : state.network.tasks.Explained addrs state.log :=
            log ▸ (history_explained (run_tasks network).1).1
          refine ⟨prompt.taskStep explained allowed.1.1 allowed.2, fun client => ?_⟩
          exact ⟨(calls client).1.later rfl allowed.1.1 (List.subset_append_left _ _),
            (calls client).2.later rfl allowed.1.1 (List.subset_append_left _ _)⟩
      | client client answers taken =>
          refine ⟨prompt.clientStep allowed.1.1 client answers taken, fun other => ?_⟩
          by_cases own : other = client
          · subst own
            exact ⟨punctual_own before begins prompt (calls other).1 allowed,
              waited_own before begins prompt (calls other).2 allowed⟩
          · have same : (state.next addrs windows (now, .client client answers taken)).network.clients other =
                state.network.clients other := Function.update_of_ne own ..
            exact ⟨(calls other).1.later same allowed.1.1 fun _ => id,
              (calls other).2.later same allowed.1.1 fun _ => id⟩

end Runs

/-- The calls of a match that dial do so in one common window. A countdown ends within three delays and a latency after
the first possible time, a window that is open closes within four delays and a latency, and a call that found no
connection gave up only after its window. A connector that never counted down because it got no response waited until
three seconds after its request was inserted. -/
theorem dial_windows_overlap {addrs : Nat → SocketAddr} {windows : Nat → Bool} {late latency : Duration}
    {state : TimedNetwork} (reachable : (timedNetworkMachine addrs windows late latency).Reachable state)
    {requested confirmed : Instant} {connector service : Nat} {session : UInt64} {dst : SocketAddr}
    {incoming : IncomingConnection}
    (inserted : (requested, connector, .inserted session incoming.tx dst) ∈ state.log)
    (confirming : (confirmed, service, .confirmed incoming) ∈ state.log) :
    let ready := confirmed + Duration.fromMillis scheduleConMs
    let closing := ready + Duration.fromMillis 500
    (∀ side, side = connector ∨ side = service →
      (∀ wakeUp, (state.network.clients side).phase = .waiting wakeUp →
        ready ≤ wakeUp ∧ wakeUp ≤ ready + 3 * late + latency) ∧
      (∀ deadline, (state.network.clients side).phase.closes = some deadline →
        closing ≤ deadline ∧ deadline ≤ closing + 4 * late + latency) ∧
      ((state.network.clients side).place = .gaveUp → closing ≤ state.network.clock)) ∧
    (∀ first second, (state.network.clients connector).phase.closes = some first →
      (state.network.clients service).phase.closes = some second →
      first ≤ second + (4 * late + latency) ∧ second ≤ first + (4 * late + latency)) ∧
    ((state.network.clients connector).countdownWait = .unanswered →
      requested + Duration.fromSecs 3 ≤ state.network.clock) := by
  intro ready closing
  obtain ⟨_, events, ⟨clients, begins, rfl⟩, ran⟩ := reachable
  obtain ⟨network, log⟩ := run_network ran
  obtain ⟨prompt, calls⟩ := timed_prompt ran begins
  have explained : state.network.tasks.Explained addrs state.log :=
    log ▸ (history_explained (run_tasks network).1).1
  have opened (side : Nat) : ∃ message, Begins message (deedsOf side state.log) := by
    obtain ⟨message, connecting⟩ := connecting_of_initial (begins side)
    exact ⟨message, log ▸ (run_connected network connecting).1.phase.begins⟩
  have bounds (side : Nat) (part : side = connector ∨ side = service) :
      (state.network.clients side).phase.Opens (Duration.fromMillis 500) ready (ready + 3 * late + latency) late ∧
        ((state.network.clients side).place = .gaveUp → closing ≤ state.network.clock) := by
    obtain ⟨message, handles⟩ := opened side
    rw [TcpClient.phase_of_place]
    obtain outside | ⟨tm, told, dials⟩ := (calls side).1
    · rw [outside]
      exact ⟨.outside, by simp⟩
    · obtain ⟨rx, since, matched, later, soon⟩ := prompt.told tm side told
      obtain rfl := matched.unique explained handles inserted confirming part
      refine ⟨⟨fun wake waiting => ?_, fun deadline closes => ?_⟩, fun gaveUp => ?_⟩
      · have wakes := dials.opens.waits wake waiting
        lia
      · have closed := dials.opens.closes deadline closes
        lia
      · exact (by lia : closing ≤ _).trans (dials.gaveUp gaveUp)
  refine ⟨fun side part => ?_, fun first second closes again => ?_, fun vain => ?_⟩
  · obtain ⟨opens, gaveUp⟩ := bounds side part
    refine ⟨opens.waits, fun deadline closes => ?_, gaveUp⟩
    have closed := opens.closes deadline closes
    lia
  · have mine := (bounds connector (.inl rfl)).1.closes first closes
    have other := (bounds service (.inr rfl)).1.closes second again
    lia
  · obtain ⟨message, handles⟩ := opened connector
    exact ((calls connector).2.unanswered vain).of_inserted prompt.ordered handles inserted

/-- The pair of the sample wakes up after its countdowns, the connector a millisecond late. -/
def sampleWindows : TimedNetwork :=
  let woken (client : Nat) : NetworkEvent := .client client (sampleAnswers 5001) .woken
  (samplePairing ++ [(Duration.fromMillis 500, woken 2), (Duration.fromMillis 501, woken 1)]).foldl
    (TimedNetwork.next sampleTaskAddr fun _ => false) (.start sampleCalls)

theorem dial_windows_overlap_sample : ∃ first second,
    (sampleWindows.network.clients 1).phase.closes = some first ∧
      (sampleWindows.network.clients 2).phase.closes = some second ∧
      first ≤ second + (4 * Duration.fromMillis 1 + Duration.fromMillis 1) := by
  have initial : (timedNetworkMachine sampleTaskAddr (fun _ => false) (Duration.fromMillis 1)
      (Duration.fromMillis 1)).initial (.start sampleCalls) := ⟨sampleCalls, sampleCalls_begin, rfl⟩
  have reachable : (timedNetworkMachine sampleTaskAddr (fun _ => false) (Duration.fromMillis 1)
      (Duration.fromMillis 1)).Reachable sampleWindows := Machine.Reachable.of_valid initial (by decide +kernel)
  have inserted : (0, 1, .inserted 7 0 (sampleTaskAddr 0)) ∈ sampleWindows.log := by decide +kernel
  have confirming : (0, 2, .confirmed ⟨Duration.fromMillis 4500, sampleTaskAddr 1, 0⟩) ∈ sampleWindows.log := by
    decide +kernel
  have first : (sampleWindows.network.clients 1).phase.closes = some (Duration.fromMillis 1001) := by decide +kernel
  have second : (sampleWindows.network.clients 2).phase.closes = some (Duration.fromMillis 1000) := by decide +kernel
  exact ⟨_, _, first, second, ((dial_windows_overlap reachable inserted confirming).2.1 _ _ first second).1⟩

end RepriseP2p.Tcp
