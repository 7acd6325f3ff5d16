/-
This file runs connectors against the tasks of the server while every message arrives at once. It proves when a request
is handed to a service while its connector still waits.
-/

import RepriseP2p.Tcp.Connector
import RepriseP2p.Tcp.Pairing

namespace RepriseP2p.Tcp

/-- The tasks of the server, the client of each task, and when each task took its last step. A client that never places
a request has no call in progress. -/
structure TcpSystem where
  tasks : Tasks
  connectors : Nat → ConnectorRun
  touched : Nat → Instant
  clock : Instant

/-- A step of a task, or a step that a client takes on its own. -/
inductive TcpEvent where
  | task (task : Nat) (event : TaskEvent)
  | connector (client : Nat) (answers : SystemAnswers) (event : ConnectorEvent)

/-- The steps of a task, in order. -/
def taskEvents (events : List (Instant × TcpEvent)) : List (Instant × Nat × TaskEvent) :=
  events.filterMap fun
    | (now, .task task event) => some (now, task, event)
    | (_, .connector _ _ _) => none

/-- The connector has not given up: it waits for the address or for the countdown. -/
def ConnectorRun.waits (run : ConnectorRun) (now : Instant) : Bool :=
  match run.stage with
  | .awaitingAddr deadline | .awaitingCountdown _ deadline => now < deadline
  | _ => false

/-- What a deed of a task means for its client. -/
def Deed.arrival : Deed → Option ConnectorEvent
  | .told message => some (.received message)
  | _ => none

namespace ConnectorRun

variable {windows : Bool} {now deadline : Instant} {answers : SystemAnswers} {run : ConnectorRun}
  {event : ConnectorEvent}

/-- Without a message, a wait is over only at its deadline. -/
theorem step_awaiting
    (awaiting : run.stage = .awaitingAddr deadline ∨ ∃ addr, run.stage = .awaitingCountdown addr deadline)
    (alone : event = .timedOut ∨ event = .woken ∨ event = .dialled ∨ event = .dialFailed) :
    ((run.step windows now answers event).Idle ∧ deadline ≤ now) ∨ run.step windows now answers event = run := by
  have waits : run.step windows now answers event = run.await now event := by
    have kept : event ≠ .dropped := by
      rintro rfl
      simp at alone
    obtain awaiting | ⟨addr, awaiting⟩ := awaiting
    · simp only [step, kept, awaiting, if_false]
    · simp only [step, kept, awaiting, if_false]
  rw [waits]
  obtain awaiting | ⟨addr, awaiting⟩ := awaiting
  all_goals
    obtain rfl | rfl | rfl | rfl := alone
    · simp only [await, awaiting]
      split_ifs with late
      · exact .inl ⟨⟨_, rfl⟩, late⟩
      · exact .inr rfl
    · simp only [await, awaiting]
      exact .inr trivial
    · simp only [await, awaiting]
      exact .inr trivial
    · simp only [await, awaiting]
      exact .inr trivial

theorem step_idle (idle : run.Idle)
    (alone : event = .timedOut ∨ event = .woken ∨ event = .dialled ∨ event = .dialFailed) :
    run.step windows now answers event = run := by
  obtain ⟨result, idle⟩ := idle
  obtain rfl | rfl | rfl | rfl := alone
  all_goals simp only [step, request, idle, reduceCtorEq, if_false]

end ConnectorRun

namespace TcpSystem

variable (windows : Bool) (addrs : Nat → SocketAddr)

/-- What the client of a task notices of its step: that the request was sent, or a message. -/
def noticed (system : TcpSystem) (now : Instant) (task : Nat) (event : TaskEvent) : Option ConnectorEvent :=
  match event with
  | .received (.connectionRequest _) => some .sent
  | _ => (system.tasks.deed addrs now task event).bind Deed.arrival

/-- The client of a task after a step of the task. No message needs an answer of the operating system. -/
def notify (system : TcpSystem) (now : Instant) (task : Nat) (event : TaskEvent) : ConnectorRun :=
  match system.noticed addrs now task event with
  | some noticed => (system.connectors task).step windows now ⟨[], ⟨false, false, false⟩, none⟩ noticed
  | none => system.connectors task

def next (system : TcpSystem) (event : Instant × TcpEvent) : TcpSystem :=
  match event.2 with
  | .task task taken =>
      { tasks := system.tasks.next addrs (event.1, task, taken)
        connectors := Function.update system.connectors task (system.notify windows addrs event.1 task taken)
        touched := Function.update system.touched task event.1
        clock := event.1 }
  | .connector client answers taken =>
      { system with
        connectors := Function.update system.connectors client
          ((system.connectors client).step windows event.1 answers taken)
        clock := event.1 }

/-- A task sends the address directly after it inserted the request. -/
def hurries (system : TcpSystem) (now : Instant) (task : Nat) : Bool :=
  match system.tasks.stages task with
  | .telling _ _ _ => now = system.touched task
  | _ => true

/-- Messages arrive at once: a task receives the request that its client sends now, and nothing is lost. A client takes
a step on its own only when a timer is over, in the direct connection, or when its task has closed the connection. No
caller drops its call. -/
def prompt (system : TcpSystem) (event : Instant × TcpEvent) : Bool :=
  match event.2 with
  | .task task taken =>
      system.hurries event.1 task &&
        match taken with
        | .received (.connectionRequest request) => system.tasks.stages task = .receiving ∧
            (system.connectors task).stage = .sending (.connectClient request.session)
        | .sendFailed => false
        | _ => true
  | .connector client _ taken =>
      match taken with
      | .timedOut | .woken | .dialled | .dialFailed => true
      | .channelFailed error => error = .connectionClosed ∧ system.tasks.stages client = .closed
      | _ => false

end TcpSystem

/-- The clients are connectors that are about to send a request, or they place none. The clock does not decrease. -/
def tcpMachine (windows : Bool) (addrs : Nat → SocketAddr) : Machine TcpSystem (Instant × TcpEvent) where
  initial system := system.tasks = .start ∧
    ∀ client, (∃ session, (system.connectors client).stage = .sending (.connectClient session)) ∨
      (system.connectors client).Idle
  allowed system event := system.clock ≤ event.1 ∧ system.prompt event = true
  next := TcpSystem.next windows addrs

instance (windows : Bool) (addrs : Nat → SocketAddr) (system : TcpSystem) (event : Instant × TcpEvent) :
    Decidable ((tcpMachine windows addrs).allowed system event) :=
  inferInstanceAs (Decidable (_ ∧ _))

theorem taskEvents_task (events : List (Instant × TcpEvent)) (now : Instant) (task : Nat) (event : TaskEvent) :
    taskEvents (events ++ [(now, .task task event)]) = taskEvents events ++ [(now, task, event)] := by
  simp [taskEvents]

theorem taskEvents_connector (events : List (Instant × TcpEvent)) (now : Instant) (client : Nat)
    (answers : SystemAnswers) (event : ConnectorEvent) :
    taskEvents (events ++ [(now, .connector client answers event)]) = taskEvents events := by
  simp [taskEvents]

namespace TcpSystem

/-- A connector whose request was inserted at this time waits for the address or for the countdown, or it has given
up since. -/
inductive Patient (system : TcpSystem) (tm : Instant) (client : Nat) : Prop where
  | unaddressed (session : UInt64) (rx : Nat) (dst : SocketAddr)
      (telling : system.tasks.stages client = .telling session rx dst)
      (touched : system.touched client = tm)
      (awaiting : (system.connectors client).stage = .awaitingAddr (tm + Duration.fromSecs 3))
  | addressed (session : UInt64) (rx : Nat) (deadline : Instant) (addr : SocketAddr)
      (waiting : system.tasks.stages client = .waiting session rx deadline)
      (awaiting : (system.connectors client).stage = .awaitingCountdown addr (tm + Duration.fromSecs 3))
  | gaveUp (late : tm + Duration.fromSecs 3 ≤ system.clock) (idle : (system.connectors client).Idle)
      (touched : ∀ session rx dst, system.tasks.stages client = .telling session rx dst →
        system.touched client = tm)

/-- The tasks of a run are those of the server, nothing failed, and connectors are patient. -/
structure Sound (addrs : Nat → SocketAddr) (system : TcpSystem) (events : List (Instant × Nat × TaskEvent)) :
    Prop where
  ran : (tasksMachine addrs).Run .start events system.tasks
  clock : system.tasks.clock ≤ system.clock
  delivered : ∀ now task, (now, task, .failed) ∉ history addrs events
  patient : ∀ tm client session tx dst, (tm, client, .inserted session tx dst) ∈ history addrs events →
    (system.tasks.stages client).Awaits session tx → system.Patient tm client

section Steps

variable {windows : Bool} {addrs : Nat → SocketAddr} {system : TcpSystem} {tm now : Instant} {client : Nat}

/-- A step of another task changes nothing for a connector. -/
theorem Patient.of_other {task : Nat} (patient : system.Patient tm client) (apart : client ≠ task)
    (event : TaskEvent) (later : system.clock ≤ now) :
    (system.next windows addrs (now, .task task event)).Patient tm client := by
  have stage : (system.next windows addrs (now, .task task event)).tasks.stages client = system.tasks.stages client :=
    (system.tasks.step_stepped addrs now task event).others client apart
  have touched : (system.next windows addrs (now, .task task event)).touched client = system.touched client :=
    Function.update_of_ne apart _ _
  have connector : (system.next windows addrs (now, .task task event)).connectors client = system.connectors client :=
    Function.update_of_ne apart _ _
  cases patient with
  | unaddressed session rx dst telling before awaiting =>
      exact .unaddressed session rx dst (stage ▸ telling) (touched ▸ before) (connector ▸ awaiting)
  | addressed session rx deadline addr waiting awaiting =>
      exact .addressed session rx deadline addr (stage ▸ waiting) (connector ▸ awaiting)
  | gaveUp late idle before =>
      refine .gaveUp (late.trans later) (connector ▸ idle) ?_
      rw [stage, touched]
      exact before

/-- The client of a task that awaits a confirmation takes only such steps on its own. -/
theorem alone_of_awaits {answers : SystemAnswers} {event : ConnectorEvent} {session : UInt64} {rx : Nat}
    (awaits : (system.tasks.stages client).Awaits session rx)
    (prompt : system.prompt (now, .connector client answers event) = true) :
    event = .timedOut ∨ event = .woken ∨ event = .dialled ∨ event = .dialFailed := by
  cases event with
  | timedOut => exact .inl rfl
  | woken => exact .inr (.inl rfl)
  | dialled => exact .inr (.inr (.inl rfl))
  | dialFailed => exact .inr (.inr (.inr rfl))
  | channelFailed error =>
      have closed := (of_decide_eq_true prompt).2
      rw [closed] at awaits
      exact absurd awaits id
  | _ => cases prompt

/-- A connector gives up only when its wait is over. -/
theorem Patient.of_connector {other : Nat} {answers : SystemAnswers} {event : ConnectorEvent} {session : UInt64}
    {rx : Nat} (patient : system.Patient tm client) (awaits : (system.tasks.stages client).Awaits session rx)
    (later : system.clock ≤ now) (prompt : system.prompt (now, .connector other answers event) = true) :
    (system.next windows addrs (now, .connector other answers event)).Patient tm client := by
  by_cases apart : client = other
  · subst apart
    have alone := alone_of_awaits awaits prompt
    have connector : (system.next windows addrs (now, .connector client answers event)).connectors client =
        (system.connectors client).step windows now answers event := Function.update_self _ _ _
    cases patient with
    | unaddressed session rx dst telling before awaiting =>
        obtain ⟨idle, late⟩ | same := ConnectorRun.step_awaiting (.inl awaiting) alone
        · exact .gaveUp late (connector ▸ idle) fun _ _ _ _ => before
        · have kept := connector.trans same
          exact .unaddressed session rx dst telling before (kept ▸ awaiting)
    | addressed session rx deadline addr waiting awaiting =>
        obtain ⟨idle, late⟩ | same := ConnectorRun.step_awaiting (.inr ⟨addr, awaiting⟩) alone
        · refine .gaveUp late (connector ▸ idle) fun _ _ _ telling => ?_
          cases waiting.symm.trans telling
        · have kept := connector.trans same
          exact .addressed session rx deadline addr waiting (kept ▸ awaiting)
    | gaveUp late idle before =>
        rw [ConnectorRun.step_idle idle alone] at connector
        exact .gaveUp (late.trans later) (connector ▸ idle) before
  · have connector : (system.next windows addrs (now, .connector other answers event)).connectors client =
        system.connectors client := Function.update_of_ne apart _ _
    cases patient with
    | unaddressed session rx dst telling before awaiting =>
        exact .unaddressed session rx dst telling before (connector ▸ awaiting)
    | addressed session rx deadline addr waiting awaiting =>
        exact .addressed session rx deadline addr waiting (connector ▸ awaiting)
    | gaveUp late idle before => exact .gaveUp (late.trans later) (connector ▸ idle) before

theorem prompt_hurries {task : Nat} {event : TaskEvent} {session : UInt64} {rx : Nat} {dst : SocketAddr}
    (prompt : system.prompt (now, .task task event) = true)
    (telling : system.tasks.stages task = .telling session rx dst) : now = system.touched task := by
  simp only [TcpSystem.prompt, Bool.and_eq_true, hurries, telling, decide_eq_true_eq] at prompt
  exact prompt.1

/-- A task that awaits a confirmation receives no request. -/
theorem noticed_of_awaits {event : TaskEvent} {session : UInt64} {rx : Nat}
    (awaits : (system.tasks.stages client).Awaits session rx)
    (prompt : system.prompt (now, .task client event) = true) :
    system.noticed addrs now client event = (system.tasks.deed addrs now client event).bind Deed.arrival := by
  unfold noticed
  split
  · simp only [TcpSystem.prompt, Bool.and_eq_true, decide_eq_true_eq] at prompt
    rw [prompt.2.1] at awaits
    exact absurd awaits id
  · rfl

/-- While a task awaits a confirmation, its own step tells its connector the address, or it changes nothing. -/
theorem Patient.of_own {event : TaskEvent} {session : UInt64} {rx : Nat} (patient : system.Patient tm client)
    (awaits : (system.tasks.stages client).Awaits session rx)
    (still : ((system.next windows addrs (now, .task client event)).tasks.stages client).Awaits session rx)
    (later : system.clock ≤ now) (prompt : system.prompt (now, .task client event) = true) :
    (system.next windows addrs (now, .task client event)).Patient tm client := by
  have moves := (system.tasks.step_stepped addrs now client event).moves
  have noticed : system.noticed addrs now client event = _ := noticed_of_awaits awaits prompt
  have connector : (system.next windows addrs (now, .task client event)).connectors client =
      system.notify windows addrs now client event := Function.update_self _ _ _
  have touched : (system.next windows addrs (now, .task client event)).touched client = now :=
    Function.update_self _ _ _
  rw [notify, noticed] at connector
  generalize reached : (system.tasks.step addrs now client event).stages client = stage at moves
  have stages : (system.next windows addrs (now, .task client event)).tasks.stages client = stage := reached
  rw [stages] at still
  generalize system.tasks.deed addrs now client event = deed at moves connector
  generalize before : system.tasks.stages client = old at moves awaits
  cases moves with
  | idle =>
      cases patient with
      | unaddressed other channel dst telling earlier awaiting =>
          have instant := prompt_hurries prompt telling
          exact .unaddressed other channel dst (stages.trans (before.symm.trans telling))
            (touched.trans (instant.trans earlier)) (connector ▸ awaiting)
      | addressed other channel deadline addr waiting awaiting =>
          exact .addressed other channel deadline addr (stages.trans (before.symm.trans waiting))
            (connector ▸ awaiting)
      | gaveUp late idle earlier =>
          refine .gaveUp (late.trans later) (connector ▸ idle) ?_
          intro other channel dst telling
          have same := before.trans (stages.symm.trans telling)
          exact touched.trans ((prompt_hurries prompt same).trans (earlier other channel dst same))
  | told other channel dst deadline =>
      have instant := prompt_hurries prompt before
      cases patient with
      | unaddressed other channel addr telling earlier awaiting =>
          have same : now = tm := instant.trans earlier
          subst same
          refine .addressed _ _ deadline dst stages ?_
          rw [connector]
          simp only [ConnectorRun.step, ConnectorRun.await, awaiting]
          rfl
      | addressed other channel deadline addr waiting awaiting => cases before.symm.trans waiting
      | gaveUp late idle earlier =>
          have same : now = tm := instant.trans (earlier _ _ _ before)
          subst same
          have positive : 0 < Duration.fromSecs 3 := by decide
          exact absurd (late.trans later) (Nat.not_le.mpr (Nat.lt_add_of_pos_right positive))
  | ended other channel deadline ok =>
      cases ok with
      | true => exact absurd still id
      | false => exact absurd still id
  | failed => exact absurd still id
  | _ => exact absurd awaits id

/-- A connector whose request is inserted now waits for the address. -/
theorem patient_of_inserted {event : TaskEvent} {session : UInt64} {tx : Nat} {dst : SocketAddr}
    (inserted : system.tasks.deed addrs now client event = some (.inserted session tx dst))
    (prompt : system.prompt (now, .task client event) = true) :
    (system.next windows addrs (now, .task client event)).Patient now client := by
  have moves := (system.tasks.step_stepped addrs now client event).moves
  have connector : (system.next windows addrs (now, .task client event)).connectors client =
      system.notify windows addrs now client event := Function.update_self _ _ _
  have touched : (system.next windows addrs (now, .task client event)).touched client = now :=
    Function.update_self _ _ _
  rw [inserted] at moves
  generalize reached : (system.tasks.step addrs now client event).stages client = stage at moves
  generalize before : system.tasks.stages client = old at moves
  cases moves
  refine .unaddressed session tx dst reached touched ?_
  rw [connector, notify]
  cases event with
  | received message =>
      cases message with
      | connectionRequest request =>
          simp only [TcpSystem.prompt, Bool.and_eq_true, decide_eq_true_eq] at prompt
          simp only [noticed, ConnectorRun.step, ConnectorRun.request, prompt.2.2]
          rfl
      | _ => simp [Tasks.deed, before] at inserted
  | _ => simp [Tasks.deed, before] at inserted

/-- No message fails. -/
theorem deed_ne_failed {event : TaskEvent} (prompt : system.prompt (now, .task client event) = true) :
    system.tasks.deed addrs now client event ≠ some .failed := by
  intro failed
  have sent : event = .sendFailed := by
    unfold Tasks.deed at failed
    split at failed
    · cases failed
    · simp at failed
    · split_ifs at failed
      cases failed
    · cases failed
    · cases failed
    · split at failed
      · cases failed
      · cases failed
      · split_ifs at failed
        cases failed
    · cases failed
    · rfl
    · rfl
    · rfl
    · cases failed
  subst sent
  simp [TcpSystem.prompt] at prompt

theorem Sound.start (initial : (tcpMachine windows addrs).initial system) : system.Sound addrs [] := by
  obtain ⟨tasks, _⟩ := initial
  refine ⟨tasks ▸ .nil, tasks ▸ Nat.zero_le _, ?_, ?_⟩
  · intro now task failed
    cases failed
  · intro tm client session tx dst inserted
    cases inserted

theorem Sound.of_task {events : List (Instant × Nat × TaskEvent)} {task : Nat} {event : TaskEvent}
    (sound : system.Sound addrs events) (later : system.clock ≤ now)
    (prompt : system.prompt (now, .task task event) = true) :
    (system.next windows addrs (now, .task task event)).Sound addrs (events ++ [(now, task, event)]) := by
  have stepped := system.tasks.step_stepped addrs now task event
  have extended : history addrs (events ++ [(now, task, event)]) =
      history addrs events ++ noted now task (system.tasks.deed addrs now task event) := by
    rw [history, sound.ran.notes_snoc]
    rfl
  refine ⟨sound.ran.snoc (now, task, event) (sound.clock.trans later), Nat.le_refl now, ?_, ?_⟩
  · intro tm owner failed
    rw [extended, mem_append_noted] at failed
    obtain before | ⟨_, _, did⟩ := failed
    · exact sound.delivered tm owner before
    · exact deed_ne_failed prompt did
  · intro tm client session tx dst inserted awaits
    rw [extended, mem_append_noted] at inserted
    obtain before | ⟨rfl, rfl, did⟩ := inserted
    · by_cases apart : client = task
      · subst apart
        obtain ⟨waited, _⟩ | ⟨addr, again⟩ := stepped.moves.of_awaits awaits
        · exact (sound.patient tm client session tx dst before waited).of_own waited awaits later prompt
        · -- The channel of an earlier request is not opened again.
          have opened := (history_explained sound.ran).1.opened .opening tx ⟨_, before, rfl⟩
          rw [stepped.of_inserted again] at opened
          exact absurd opened (Nat.lt_irrefl _)
      · have waited : (system.tasks.stages client).Awaits session tx := stepped.others client apart ▸ awaits
        exact (sound.patient tm client session tx dst before waited).of_other apart event later
    · exact patient_of_inserted did prompt

theorem Sound.of_connector {events : List (Instant × Nat × TaskEvent)} {answers : SystemAnswers}
    {event : ConnectorEvent} (sound : system.Sound addrs events) (later : system.clock ≤ now)
    (prompt : system.prompt (now, .connector client answers event) = true) :
    (system.next windows addrs (now, .connector client answers event)).Sound addrs events := by
  refine ⟨sound.ran, sound.clock.trans later, sound.delivered, ?_⟩
  intro tm other session tx dst inserted awaits
  exact (sound.patient tm other session tx dst inserted awaits).of_connector awaits later prompt

theorem sound_of_run {start : TcpSystem} {events : List (Instant × TcpEvent)}
    (initial : (tcpMachine windows addrs).initial start) (ran : (tcpMachine windows addrs).Run start events system) :
    system.Sound addrs (taskEvents events) := by
  induction ran with
  | nil => exact .start initial
  | snoc event before allowed ih =>
      obtain ⟨now, event⟩ := event
      cases event with
      | task task taken =>
          rw [taskEvents_task]
          exact ih.of_task allowed.1 allowed.2
      | connector client answers taken =>
          rw [taskEvents_connector]
          exact ih.of_connector allowed.1 allowed.2

theorem Patient.waits_iff (patient : system.Patient tm client) (later : system.clock ≤ now) :
    (system.connectors client).waits now = true ↔ now < tm + Duration.fromSecs 3 := by
  cases patient with
  | unaddressed session rx dst telling touched awaiting => simp [ConnectorRun.waits, awaiting]
  | addressed session rx deadline addr waiting awaiting => simp [ConnectorRun.waits, awaiting]
  | gaveUp late idle touched =>
      obtain ⟨result, idle⟩ := idle
      simp only [ConnectorRun.waits, idle, Bool.false_eq_true, false_iff, Nat.not_lt]
      exact late.trans later

end Steps

end TcpSystem

/-- A service confirms a request that some connector placed. That connector still waits exactly when the request was
inserted less than three seconds before. -/
theorem handed_while_waiting_iff (windows : Bool) (addrs : Nat → SocketAddr) {start system : TcpSystem}
    {events : List (Instant × TcpEvent)} (initial : (tcpMachine windows addrs).initial start)
    (ran : (tcpMachine windows addrs).Run start events system) {now : Instant} {service : Nat}
    {incoming : IncomingConnection}
    (allowed : (tcpMachine windows addrs).allowed system (now, .task service .confirm))
    (handed : system.tasks.deed addrs now service .confirm = some (.confirmed incoming)) :
    (∃ tm connector session dst,
      (tm, connector, .inserted session incoming.tx dst) ∈ history addrs (taskEvents events)) ∧
    ∀ tm connector session dst,
      (tm, connector, .inserted session incoming.tx dst) ∈ history addrs (taskEvents events) →
      ((system.connectors connector).waits now = true ↔ now < tm + Duration.fromSecs 3) := by
  have sound := TcpSystem.sound_of_run initial ran
  obtain ⟨explained, _⟩ := history_explained sound.ran
  have stepped := system.tasks.step_stepped addrs now service .confirm
  rw [handed] at stepped
  have alive : (system.tasks.channels incoming.tx).receiver = true := by
    have effect := stepped.effect
    generalize system.tasks.step addrs now service .confirm = next at effect
    cases effect with
    | calm keyless pending channels opened =>
        have key := keyless _ rfl
        cases key
    | confirmed incoming alive pending channels opened => exact alive
  constructor
  · obtain ⟨before, session, taken⟩ := explained.took stepped.moves.of_confirmed
    obtain ⟨⟨tm, connector, dst, inserted, _, _⟩, _⟩ := explained.taken before service session incoming taken
    exact ⟨tm, connector, session, dst, inserted⟩
  · intro tm connector session dst inserted
    obtain awaits | ⟨ending, ok, ended⟩ | failed := explained.waits tm connector session incoming.tx dst inserted
    · exact (sound.patient tm connector session incoming.tx dst inserted awaits).waits_iff allowed.1
    · rw [explained.gone incoming.tx ⟨_, ended, rfl⟩] at alive
      cases alive
    · obtain ⟨failing, there⟩ := mem_deedsOf.mp failed
      exact absurd there (sound.delivered failing connector)

/-- Client 1 is a connector that is about to ask for session 7. -/
def sampleTcpStart : TcpSystem where
  tasks := .start
  connectors client :=
    { sampleConnectorStart with stage := if client = 1 then .sending (.connectClient 7) else .idle none }
  touched _ := 0
  clock := 0

theorem sampleTcpStart_initial (windows : Bool) (addrs : Nat → SocketAddr) :
    (tcpMachine windows addrs).initial sampleTcpStart := by
  refine ⟨rfl, fun client => ?_⟩
  by_cases first : client = 1
  · exact .inl ⟨7, if_pos first⟩
  · exact .inr ⟨none, if_neg first⟩

def sampleTcpSystem (events : List (Instant × TcpEvent)) : TcpSystem :=
  events.foldl (TcpSystem.next false sampleTaskAddr) sampleTcpStart

/-- Task 0 announces session 7, and the connector asks for it 10 ms later. -/
def sampleRequest : List (Instant × TcpEvent) :=
  let tm := Duration.fromMillis 10
  [(0, .task 0 .update), (0, .task 0 (.received (.announceAndCheck ⟨7, "app", "user"⟩))), (tm, .task 1 .update),
    (tm, .task 1 (.received (.connectionRequest ⟨7⟩))), (tm, .task 1 .sent)]

/-- The service polls again after one second. -/
def samplePromptPoll : List (Instant × TcpEvent) :=
  let now := Duration.fromMillis 1000
  sampleRequest ++
    [(now, .task 2 .update), (now, .task 2 (.received (.announceAndCheck ⟨7, "app", "user"⟩)))]

theorem handed_while_waiting_sample :
    ((sampleTcpSystem samplePromptPoll).connectors 1).waits (Duration.fromMillis 1000) = true := by
  have ran : (tcpMachine false sampleTaskAddr).Run sampleTcpStart ([] ++ samplePromptPoll)
      (sampleTcpSystem samplePromptPoll) := Machine.run_of_valid .nil (by decide +kernel)
  have allowed : (tcpMachine false sampleTaskAddr).allowed (sampleTcpSystem samplePromptPoll)
      (Duration.fromMillis 1000, .task 2 .confirm) := by decide +kernel
  have handed : (sampleTcpSystem samplePromptPoll).tasks.deed sampleTaskAddr (Duration.fromMillis 1000) 2 .confirm =
      some (.confirmed ⟨Duration.fromMillis 4510, sampleTaskAddr 1, 0⟩) := by decide +kernel
  obtain ⟨_, waits⟩ := handed_while_waiting_iff false sampleTaskAddr
    (sampleTcpStart_initial false sampleTaskAddr) ran allowed handed
  exact (waits (Duration.fromMillis 10) 1 7 (sampleTaskAddr 0) (by decide +kernel)).mpr (by decide)

/-- The service polls again after 2950 ms, in time to keep its announcement, and its message arrives after 3040 ms. -/
def sampleLatePoll : List (Instant × TcpEvent) :=
  sampleRequest ++ [(Duration.fromMillis 2950, .task 2 .update),
    (Duration.fromMillis 3010, .connector 1 ⟨[], ⟨true, true, true⟩, none⟩ .timedOut),
    (Duration.fromMillis 3040, .task 2 (.received (.announceAndCheck ⟨7, "app", "user"⟩)))]

/-- The connector gave up after 3010 ms, and the service confirms its request after 3040 ms. -/
theorem handed_while_waiting_fails : ¬ ∀ start events system now service incoming tm connector session dst,
    (tcpMachine false sampleTaskAddr).initial start → (tcpMachine false sampleTaskAddr).Run start events system →
    (tcpMachine false sampleTaskAddr).allowed system (now, .task service .confirm) →
    system.tasks.deed sampleTaskAddr now service .confirm = some (.confirmed incoming) →
    (tm, connector, .inserted session incoming.tx dst) ∈ history sampleTaskAddr (taskEvents events) →
    (system.connectors connector).waits now = true := by
  intro claim
  have ran : (tcpMachine false sampleTaskAddr).Run sampleTcpStart ([] ++ sampleLatePoll)
      (sampleTcpSystem sampleLatePoll) := Machine.run_of_valid .nil (by decide +kernel)
  have waits := claim sampleTcpStart _ _ (Duration.fromMillis 3040) 2
    ⟨Duration.fromMillis 4510, sampleTaskAddr 1, 0⟩ (Duration.fromMillis 10) 1 7 (sampleTaskAddr 0)
    (sampleTcpStart_initial false sampleTaskAddr) ran (by decide +kernel) (by decide +kernel) (by decide +kernel)
  revert waits
  decide +kernel

end RepriseP2p.Tcp
