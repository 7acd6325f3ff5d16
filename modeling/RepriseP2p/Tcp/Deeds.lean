/-
This file gives the deeds of the tasks, and what one step of a task does.
-/

import RepriseP2p.Tcp.Handlers
import RepriseP2p.Tcp.Registry

namespace RepriseP2p.Tcp

/-- What a task did, to the registry, to a channel or towards its client. -/
inductive Deed where
  | announced (session : UInt64) (taken : Option IncomingConnection)
  | confirmed (incoming : IncomingConnection)
  | inserted (session : UInt64) (tx : Nat) (dst : SocketAddr)
  | ended (session : UInt64) (rx : Nat) (ok : Bool)
  | told (message : ToNatClientMsg)
  | failed
  deriving DecidableEq

/-- What a deed does to a channel. Each of these happens to a channel at most once. -/
inductive DeedKind where
  | opening
  | taking
  | confirming
  | ending
  deriving DecidableEq

/-- The kind of a deed about a channel, and that channel. -/
def Deed.key : Deed → Option (DeedKind × Nat)
  | .announced _ taken => taken.map fun incoming => (.taking, incoming.tx)
  | .confirmed incoming => some (.confirming, incoming.tx)
  | .inserted _ tx _ => some (.opening, tx)
  | .ended _ rx _ => some (.ending, rx)
  | .told _ => none
  | .failed => none

theorem Deed.key_confirming {deed : Deed} {tx : Nat} (key : deed.key = some (.confirming, tx)) :
    ∃ incoming, deed = .confirmed incoming ∧ incoming.tx = tx := by
  cases deed with
  | announced session taken => cases taken <;> cases key
  | confirmed incoming =>
      cases key
      exact ⟨incoming, rfl, rfl⟩
  | _ => cases key

def countdown : ToNatClientMsg := .startCountdown (Duration.fromMillis scheduleConMs)

namespace Tasks

variable (addrs : Nat → SocketAddr)

/-- The deed of one step, if it is one. -/
def deed (now : Instant) (task : Nat) (tasks : Tasks) (event : TaskEvent) : Option Deed :=
  match tasks.stages task, event with
  | .receiving, .received (.announceAndCheck announce) =>
      some (.announced announce.session (tasks.state.announceCheck announce (addrs task) now).2)
  | .receiving, .received (.connectionRequest request) =>
      (tasks.state.insertConnectionRequest request (addrs task) tasks.opened now).2.map
        (.inserted request.session tasks.opened)
  | .confirming incoming, .confirm =>
      if (tasks.channels incoming.tx).receiver then some (.confirmed incoming) else none
  | .answering (message :: _), .sent => some (.told message)
  | .telling _ _ dst, .sent => some (.told (.remoteAddr dst))
  | .waiting session rx deadline, .woken =>
      match (tasks.channels rx).sender with
      | .used => some (.ended session rx true)
      | .dropped => some (.ended session rx false)
      | .held => if deadline ≤ now then some (.ended session rx false) else none
  | .starting _, .sent => some (.told countdown)
  | .answering _, .sendFailed => some .failed
  | .telling _ _ _, .sendFailed => some .failed
  | .starting _, .sendFailed => some .failed
  | _, _ => none

/-- The operation of one step on the registry, if it is one. -/
def registryOp (now : Instant) (task : Nat) (tasks : Tasks) (event : TaskEvent) : Option (Instant × RegistryOp) :=
  match tasks.stages task, event with
  | .updating, .update => some (now, .update)
  | .receiving, .received (.announceAndCheck announce) => some (now, .announce announce (addrs task))
  | .receiving, .received (.connectionRequest request) => some (now, .request request (addrs task) tasks.opened)
  | .withdrawing session, .withdraw => some (now, .withdraw session)
  | _, _ => none

/-- The deed of an event, with its time and its task. -/
def observe (tasks : Tasks) (event : Instant × Nat × TaskEvent) : Option (Instant × Nat × Deed) :=
  (tasks.deed addrs event.1 event.2.1 event.2.2).map fun deed => (event.1, event.2.1, deed)

end Tasks

/-- The deeds of all tasks in a run, oldest first. -/
def history (addrs : Nat → SocketAddr) (events : List (Instant × Nat × TaskEvent)) : List (Instant × Nat × Deed) :=
  (tasksMachine addrs).notes (Tasks.observe addrs) .start events

/-- The deeds of one task. -/
def deedsOf (task : Nat) (history : List (Instant × Nat × Deed)) : List Deed :=
  history.filterMap fun (_, owner, deed) => if owner = task then some deed else none

theorem mem_deedsOf {task : Nat} {history : List (Instant × Nat × Deed)} {deed : Deed} :
    deed ∈ deedsOf task history ↔ ∃ now, (now, task, deed) ∈ history := by
  simp only [deedsOf, List.mem_filterMap]
  constructor
  · intro listed
    obtain ⟨⟨now, owner, done⟩, member, same⟩ := listed
    dsimp only at same
    split_ifs at same with mine
    cases same
    exact ⟨now, mine ▸ member⟩
  · intro listed
    obtain ⟨now, member⟩ := listed
    exact ⟨_, member, if_pos rfl⟩

theorem deedsOf_append (task : Nat) (earlier later : List (Instant × Nat × Deed)) :
    deedsOf task (earlier ++ later) = deedsOf task earlier ++ deedsOf task later :=
  List.filterMap_append

/-- The entry of one step in the history. -/
def noted (now : Instant) (task : Nat) (deed : Option Deed) : List (Instant × Nat × Deed) :=
  (deed.map fun done => (now, task, done)).toList

theorem mem_append_noted {history : List (Instant × Nat × Deed)} {now tm : Instant} {task owner : Nat}
    {deed : Option Deed} {done : Deed} : (tm, owner, done) ∈ history ++ noted now task deed ↔
      (tm, owner, done) ∈ history ∨ (tm = now ∧ owner = task ∧ deed = some done) := by
  cases deed with
  | none => simp [noted]
  | some last => simp [noted, eq_comm]

theorem deedsOf_noted (task : Nat) (now : Instant) (owner : Nat) (deed : Option Deed) :
    deedsOf task (noted now owner deed) = if owner = task then deed.toList else [] := by
  cases deed with
  | none => simp [deedsOf, noted]
  | some done =>
      simp only [deedsOf, noted, Option.map_some, Option.toList_some, List.filterMap_cons, List.filterMap_nil]
      split_ifs <;> rfl

/-- A task that inserted a request waits for its confirmation, or is just about to. -/
def Stage.Awaits (session : UInt64) (rx : Nat) : Stage → Prop
  | .telling other channel _ => other = session ∧ channel = rx
  | .waiting other channel _ => other = session ∧ channel = rx
  | _ => False

/-- What the stage of a task says about its next deed, whatever the other tasks do. -/
inductive StageStep : Stage → Option Deed → Stage → Prop where
  | idle (stage : Stage) : StageStep stage none stage
  | update : StageStep .updating none .receiving
  | listed (clients : List ClientAnnouncement) : StageStep .receiving none (.answering [.clients clients])
  | quiet : StageStep .receiving none .updating
  | disconnected : StageStep .receiving none .closed
  | refused (session : UInt64) : StageStep .receiving (some (.announced session none)) .closed
  | taken (session : UInt64) (incoming : IncomingConnection) :
      StageStep .receiving (some (.announced session (some incoming))) (.confirming incoming)
  | inserted (session : UInt64) (tx : Nat) (dst : SocketAddr) :
      StageStep .receiving (some (.inserted session tx dst)) (.telling session tx dst)
  | confirmed (incoming : IncomingConnection) :
      StageStep (.confirming incoming) (some (.confirmed incoming)) (.answering [.remoteAddr incoming.addr, countdown])
  | unconfirmed (incoming : IncomingConnection) : StageStep (.confirming incoming) none .updating
  | answered (message : ToNatClientMsg) : StageStep (.answering [message]) (some (.told message)) .updating
  | answering (message next : ToNatClientMsg) (messages : List ToNatClientMsg) :
      StageStep (.answering (message :: next :: messages)) (some (.told message)) (.answering (next :: messages))
  | told (session : UInt64) (rx : Nat) (dst : SocketAddr) (deadline : Instant) :
      StageStep (.telling session rx dst) (some (.told (.remoteAddr dst))) (.waiting session rx deadline)
  | ended (session : UInt64) (rx : Nat) (deadline : Instant) (ok : Bool) :
      StageStep (.waiting session rx deadline) (some (.ended session rx ok))
        (if ok then .starting session else .withdrawing session)
  | started (session : UInt64) : StageStep (.starting session) (some (.told countdown)) (.withdrawing session)
  | withdrawn (session : UInt64) : StageStep (.withdrawing session) none .updating
  | failed (stage : Stage) : StageStep stage (some .failed) .closed

/-- The messages that the task is about to send. -/
def Stage.outstanding : Stage → List Deed
  | .answering messages => messages.map .told
  | .telling _ _ dst => [.told (.remoteAddr dst)]
  | .starting _ => [.told countdown]
  | _ => []

/-- The messages that follow a deed. -/
def Deed.demand : Deed → List Deed
  | .confirmed incoming => [.told (.remoteAddr incoming.addr), .told countdown]
  | .inserted _ _ dst => [.told (.remoteAddr dst)]
  | .ended _ _ ok => if ok then [.told countdown] else []
  | _ => []

/-- What the task did last when it is at this stage. -/
def Stage.Since (deeds : List Deed) : Stage → Prop
  | .confirming incoming => ∃ session, [.announced session (some incoming)] <:+ deeds
  | .answering messages => (∃ clients, messages = [.clients clients]) ∨ ∃ session incoming,
      ([.announced session (some incoming), .confirmed incoming] <:+ deeds ∧
        messages = [.remoteAddr incoming.addr, countdown]) ∨
      ([.announced session (some incoming), .confirmed incoming, .told (.remoteAddr incoming.addr)] <:+ deeds ∧
        messages = [countdown])
  | .telling session rx dst => [.inserted session rx dst] <:+ deeds
  | .waiting session rx _ => ∃ dst, [.inserted session rx dst, .told (.remoteAddr dst)] <:+ deeds
  | .starting session => ∃ rx dst,
      [.inserted session rx dst, .told (.remoteAddr dst), .ended session rx true] <:+ deeds
  | _ => True

namespace StageStep

variable {stage next : Stage} {deed : Option Deed}

/-- A step of the task sends the outstanding messages in order, or it fails to. -/
theorem outstanding (moves : StageStep stage deed next) : stage.outstanding = [] ∨
    stage.outstanding = deed.toList ++ next.outstanding ∨ deed = some .failed := by
  cases moves with
  | idle => exact .inr (.inl rfl)
  | answered message => exact .inr (.inl rfl)
  | answering message next messages => exact .inr (.inl rfl)
  | told session rx dst deadline => exact .inr (.inl rfl)
  | started session => exact .inr (.inl rfl)
  | failed => exact .inr (.inr rfl)
  | _ => exact .inl rfl

/-- The messages that follow a deed are outstanding directly after it. -/
theorem demand {done : Deed} (moves : StageStep stage (some done) next) : done.demand = next.outstanding ∨
    done.demand = [] := by
  cases moves with
  | confirmed incoming => exact .inl rfl
  | inserted session tx dst => exact .inl rfl
  | ended session rx deadline ok =>
      cases ok with
      | true => exact .inl rfl
      | false => exact .inl rfl
  | _ => exact .inr rfl

theorem since {deeds : List Deed} (moves : StageStep stage deed next) (before : stage.Since deeds) :
    next.Since (deeds ++ deed.toList) := by
  cases moves with
  | idle =>
      rw [Option.toList_none, List.append_nil]
      exact before
  | listed clients => exact .inl ⟨clients, rfl⟩
  | taken session incoming => exact ⟨session, List.suffix_append deeds _⟩
  | inserted session tx dst => exact List.suffix_append deeds _
  | confirmed incoming =>
      obtain ⟨session, earlier, rfl⟩ := before
      exact .inr ⟨session, incoming, .inl ⟨⟨earlier, by simp⟩, rfl⟩⟩
  | answering message next messages =>
      obtain ⟨clients, same⟩ | ⟨session, incoming, ⟨⟨earlier, rfl⟩, same⟩ | ⟨_, same⟩⟩ := before
      · cases same
      · cases same
        exact .inr ⟨session, incoming, .inr ⟨⟨earlier, by simp⟩, rfl⟩⟩
      · cases same
  | told session rx dst deadline =>
      obtain ⟨earlier, rfl⟩ := before
      exact ⟨dst, earlier, by simp⟩
  | ended session rx deadline ok =>
      cases ok with
      | false => exact trivial
      | true =>
          obtain ⟨dst, earlier, rfl⟩ := before
          exact ⟨rx, dst, earlier, by simp⟩
  | _ => exact trivial

/-- A task stops waiting only when its wait ends or its message fails. -/
theorem awaits {session : UInt64} {rx : Nat} (moves : StageStep stage deed next) (before : stage.Awaits session rx) :
    next.Awaits session rx ∨ (∃ ok, deed = some (.ended session rx ok)) ∨ deed = some .failed := by
  cases moves with
  | idle => exact .inl before
  | told other channel dst deadline => exact .inl before
  | ended other channel deadline ok =>
      obtain ⟨rfl, rfl⟩ := before
      exact .inr (.inl ⟨ok, rfl⟩)
  | failed => exact .inr (.inr rfl)
  | _ => exact absurd before id

/-- A task starts waiting only when it inserts a request. -/
theorem of_awaits {session : UInt64} {rx : Nat} (moves : StageStep stage deed next) (after : next.Awaits session rx) :
    (stage.Awaits session rx ∧ ∀ done ∈ deed, done.key = none) ∨ ∃ dst, deed = some (.inserted session rx dst) := by
  cases moves with
  | idle => exact .inl ⟨after, by simp⟩
  | told other channel dst deadline => exact .inl ⟨after, by simp [Deed.key]⟩
  | inserted other channel dst =>
      obtain ⟨rfl, rfl⟩ := after
      exact .inr ⟨dst, rfl⟩
  | ended other channel deadline ok =>
      cases ok with
      | true => exact absurd after id
      | false => exact absurd after id
  | _ => exact absurd after id

/-- A task starts confirming only when it takes a request. -/
theorem of_confirming {incoming : IncomingConnection} (moves : StageStep stage deed (.confirming incoming)) :
    (stage = .confirming incoming ∧ deed = none) ∨
      ∃ session, deed = some (.announced session (some incoming)) := by
  generalize target : Stage.confirming incoming = next at moves
  cases moves with
  | idle => exact .inl ⟨rfl, rfl⟩
  | taken session other =>
      cases target
      exact .inr ⟨session, rfl⟩
  | ended session rx deadline ok =>
      cases ok with
      | true => cases target
      | false => cases target
  | _ => cases target

theorem of_confirmed {incoming : IncomingConnection} (moves : StageStep stage (some (.confirmed incoming)) next) :
    stage = .confirming incoming := by
  cases moves
  rfl

/-- A task ends its own wait and does not wait again. -/
theorem of_ended {session : UInt64} {rx : Nat} {ok : Bool} (moves : StageStep stage (some (.ended session rx ok)) next) :
    stage.Awaits session rx ∧ ∀ other channel, ¬ next.Awaits other channel := by
  cases moves
  refine ⟨⟨rfl, rfl⟩, ?_⟩
  cases ok with
  | true => exact fun _ _ => id
  | false => exact fun _ _ => id

theorem of_inserted {session : UInt64} {tx : Nat} {dst : SocketAddr}
    (moves : StageStep stage (some (.inserted session tx dst)) next) : next.Awaits session tx := by
  cases moves
  exact ⟨rfl, rfl⟩

/-- A task starts the countdown only in the one place of a service or in the one place of a connector. -/
theorem of_countdown {deeds : List Deed} (moves : StageStep stage (some (.told countdown)) next)
    (before : stage.Since deeds) :
    (∃ session incoming, [.announced session (some incoming), .confirmed incoming,
        .told (.remoteAddr incoming.addr)] <:+ deeds) ∨
      ∃ session rx dst, [.inserted session rx dst, .told (.remoteAddr dst), .ended session rx true] <:+ deeds := by
  generalize message : countdown = told at moves
  cases moves with
  | answered =>
      obtain ⟨clients, same⟩ | ⟨session, incoming, ⟨_, same⟩ | ⟨done, _⟩⟩ := before
      · cases same
        cases message
      · cases same
      · exact .inl ⟨session, incoming, done⟩
  | answering _ next messages =>
      obtain ⟨clients, same⟩ | ⟨session, incoming, ⟨_, same⟩ | ⟨_, same⟩⟩ := before
      · cases same
      · cases same
        cases message
      · cases same
  | told session rx dst deadline => cases message
  | started session =>
      obtain ⟨rx, dst, done⟩ := before
      exact .inr ⟨session, rx, dst, done⟩

end StageStep

namespace Tasks

section Channels

variable (tasks : Tasks)

theorem setSender_channels (tx : Nat) (sender : Sender) (other : Nat) :
    (tasks.setSender tx sender).channels other =
      if other = tx then { tasks.channels other with sender := sender } else tasks.channels other := by
  simp only [setSender, Function.update_apply]
  split_ifs with same
  · rw [same]
  · rfl

theorem dropReceiver_channels (rx other : Nat) :
    (tasks.dropReceiver rx).channels other =
      if other = rx then { tasks.channels other with receiver := false } else tasks.channels other := by
  simp only [dropReceiver, Function.update_apply]
  split_ifs with same
  · rw [same]
  · rfl

/-- A request on this channel is pending for one of the sessions. -/
def PendingFor (tasks : Tasks) (sessions : List UInt64) (tx : Nat) : Prop :=
  ∃ session ∈ sessions, ∃ incoming, tasks.state.pending session = some incoming ∧ incoming.tx = tx

/-- The sender of every dropped request is dropped, and nothing else changes. -/
theorem dropPending_channels (sessions : List UInt64) : (tasks.dropPending sessions).stages = tasks.stages ∧
    ∀ tx, (tasks.PendingFor sessions tx →
        (tasks.dropPending sessions).channels tx = { tasks.channels tx with sender := .dropped }) ∧
      (¬ tasks.PendingFor sessions tx → (tasks.dropPending sessions).channels tx = tasks.channels tx) := by
  have listed (tx : Nat) : tasks.PendingFor sessions tx ↔
      tx ∈ sessions.filterMap fun session => (tasks.state.pending session).map IncomingConnection.tx := by
    simp [PendingFor, List.mem_filterMap]
  unfold dropPending
  simp only [listed]
  generalize sessions.filterMap (fun session => (tasks.state.pending session).map IncomingConnection.tx) = dropped
  clear listed
  induction dropped generalizing tasks with
  | nil => simp
  | cons first dropped ih =>
      obtain ⟨stages, channels⟩ := ih (tasks.setSender first .dropped)
      refine ⟨stages, ?_⟩
      intro tx
      obtain ⟨gone, kept⟩ := channels tx
      rw [setSender_channels] at gone kept
      rw [List.foldl_cons]
      constructor
      · intro member
        by_cases again : tx ∈ dropped
        · rw [gone again]
          split_ifs <;> rfl
        · obtain rfl : tx = first := by simpa [again] using member
          rw [kept again, if_pos rfl]
      · intro absent
        rw [List.mem_cons, not_or] at absent
        rw [kept absent.2, if_neg absent.1]

end Channels

/-- What a step does to the pending requests and to the channels. -/
inductive Effect (addrs : Nat → SocketAddr) (now : Instant) (task : Nat) (tasks : Tasks) :
    Option Deed → Tasks → Prop where
  | calm {deed : Option Deed} {next : Tasks} (keyless : ∀ done ∈ deed, done.key = none)
      (pending : ∀ session, next.state.pending session = tasks.state.pending session)
      (channels : next.channels = tasks.channels) (opened : next.opened = tasks.opened) :
      Effect addrs now task tasks deed next
  | cleared {next : Tasks} (sessions : List UInt64)
      (pending : ∀ session, next.state.pending session =
        if session ∈ sessions then none else tasks.state.pending session)
      (channels : next.channels = (tasks.dropPending sessions).channels) (opened : next.opened = tasks.opened) :
      Effect addrs now task tasks none next
  | taken {next : Tasks} (session : UInt64) (incoming : IncomingConnection)
      (found : tasks.state.pending session = some incoming) (live : now < incoming.tm)
      (pending : ∀ other, next.state.pending other = if session = other then none else tasks.state.pending other)
      (channels : next.channels = tasks.channels) (opened : next.opened = tasks.opened) :
      Effect addrs now task tasks (some (.announced session (some incoming))) next
  | inserted {next : Tasks} (session : UInt64) (dst : SocketAddr)
      (pending : ∀ other, next.state.pending other = if session = other then
        some ⟨now + Duration.fromMillis (connectionRequestTimeoutMs - 500), addrs task, tasks.opened⟩
        else tasks.state.pending other)
      (channels : next.channels = (tasks.dropPending [session]).channels) (opened : next.opened = tasks.opened + 1) :
      Effect addrs now task tasks (some (.inserted session tasks.opened dst)) next
  | confirmed {next : Tasks} (incoming : IncomingConnection) (alive : (tasks.channels incoming.tx).receiver = true)
      (pending : next.state = tasks.state) (channels : next.channels = (tasks.setSender incoming.tx .used).channels)
      (opened : next.opened = tasks.opened) : Effect addrs now task tasks (some (.confirmed incoming)) next
  | unconfirmed {next : Tasks} (incoming : IncomingConnection) (stage : tasks.stages task = .confirming incoming)
      (pending : next.state = tasks.state) (channels : next.channels = (tasks.setSender incoming.tx .dropped).channels)
      (opened : next.opened = tasks.opened) (moved : next.stages task = .updating) :
      Effect addrs now task tasks none next
  | ended {next : Tasks} (session : UInt64) (rx : Nat) (ok : Bool)
      (verdict : ok = true ↔ (tasks.channels rx).sender = .used) (pending : next.state = tasks.state)
      (channels : next.channels = (tasks.dropReceiver rx).channels) (opened : next.opened = tasks.opened) :
      Effect addrs now task tasks (some (.ended session rx ok)) next
  | failed {next : Tasks} (session : UInt64) (rx : Nat) (stage : (tasks.stages task).Awaits session rx)
      (pending : next.state = tasks.state) (channels : next.channels = (tasks.dropReceiver rx).channels)
      (opened : next.opened = tasks.opened) (moved : next.stages task = .closed) :
      Effect addrs now task tasks (some .failed) next

/-- A step announces a session in the registry exactly when that is its deed. -/
inductive Announced (addrs : Nat → SocketAddr) (now : Instant) (task : Nat) :
    Option Deed → Option (Instant × RegistryOp) → Prop where
  | announced (data : ClientAnnouncementData) (taken : Option IncomingConnection) :
      Announced addrs now task (some (.announced data.session taken)) (some (now, .announce data (addrs task)))
  | other {deed : Option Deed} {op : Option (Instant × RegistryOp)}
      (silent : ∀ session taken, deed ≠ some (.announced session taken))
      (unannounced : ∀ called ∈ op, ∀ session, RegistryOp.announces session called = false) :
      Announced addrs now task deed op

/-- What a step does to the stages, to the registry and to the channels. -/
structure Stepped (addrs : Nat → SocketAddr) (now : Instant) (task : Nat) (tasks : Tasks) (deed : Option Deed)
    (op : Option (Instant × RegistryOp)) (next : Tasks) : Prop where
  moves : StageStep (tasks.stages task) deed (next.stages task)
  others : ∀ other, other ≠ task → next.stages other = tasks.stages other
  effect : Effect addrs now task tasks deed next
  state : next.state = op.elim tasks.state tasks.state.apply
  announced : Announced addrs now task deed op

variable {addrs : Nat → SocketAddr} {now : Instant} {task : Nat} {tasks next : Tasks} {deed : Option Deed}
  {op : Option (Instant × RegistryOp)}

theorem Stepped.opened_le (stepped : Stepped addrs now task tasks deed op next) : tasks.opened ≤ next.opened := by
  cases stepped.effect with
  | inserted session dst pending channels opened =>
      rw [opened]
      exact Nat.le_succ _
  | _ => exact Nat.le_of_eq (Eq.symm (by assumption))

/-- Only the task that waits on a channel drops the receiver, when it stops waiting. -/
theorem Stepped.receiver_case (stepped : Stepped addrs now task tasks deed op next) (tx : Nat) :
    ((next.channels tx).receiver = (tasks.channels tx).receiver ∧
        ∀ done ∈ deed, done.key ≠ some (.ending, tx)) ∨
      ((next.channels tx).receiver = false ∧ (∃ session, (tasks.stages task).Awaits session tx) ∧
        ∀ session, ¬ (next.stages task).Awaits session tx) := by
  have dropped (sessions : List UInt64) (channels : next.channels = (tasks.dropPending sessions).channels) :
      (next.channels tx).receiver = (tasks.channels tx).receiver := by
    rw [channels]
    obtain ⟨gone, kept⟩ := (tasks.dropPending_channels sessions).2 tx
    by_cases pending : tasks.PendingFor sessions tx
    · rw [gone pending]
    · rw [kept pending]
  have moves := stepped.moves
  cases stepped.effect with
  | calm keyless pending channels opened =>
      rw [channels]
      refine .inl ⟨rfl, ?_⟩
      intro done did key
      rw [keyless done did] at key
      cases key
  | cleared sessions pending channels opened => exact .inl ⟨dropped sessions channels, by simp⟩
  | taken session incoming found live pending channels opened =>
      rw [channels]
      exact .inl ⟨rfl, by simp [Deed.key]⟩
  | inserted session dst pending channels opened => exact .inl ⟨dropped [session] channels, by simp [Deed.key]⟩
  | confirmed incoming alive pending channels opened =>
      rw [channels, setSender_channels]
      refine .inl ⟨?_, by simp [Deed.key]⟩
      split_ifs <;> rfl
  | unconfirmed incoming stage pending channels opened moved =>
      rw [channels, setSender_channels]
      refine .inl ⟨?_, by simp⟩
      split_ifs <;> rfl
  | ended session rx ok verdict pending channels opened =>
      rw [channels, dropReceiver_channels]
      split_ifs with same
      · subst same
        exact .inr ⟨rfl, ⟨session, moves.of_ended.1⟩, fun other => moves.of_ended.2 other tx⟩
      · exact .inl ⟨rfl, by simpa [Deed.key] using Ne.symm same⟩
  | failed session rx stage pending channels opened moved =>
      rw [channels, dropReceiver_channels]
      split_ifs with same
      · subst same
        exact .inr ⟨rfl, ⟨session, stage⟩, fun other => moved ▸ id⟩
      · exact .inl ⟨rfl, by simp [Deed.key]⟩

/-- A task takes only a pending request before its deadline. -/
theorem Stepped.of_taken {session : UInt64} {incoming : IncomingConnection}
    (stepped : Stepped addrs now task tasks deed op next) (taken : deed = some (.announced session (some incoming))) :
    tasks.state.pending session = some incoming ∧ now < incoming.tm ∧ next.channels = tasks.channels := by
  cases stepped.effect with
  | calm keyless pending channels opened =>
      have key := keyless _ taken
      cases key
  | taken other found there live pending channels opened =>
      cases taken
      exact ⟨there, live, channels⟩
  | _ => cases taken

/-- A request is inserted with a new channel. -/
theorem Stepped.of_inserted {session : UInt64} {tx : Nat} {dst : SocketAddr}
    (stepped : Stepped addrs now task tasks deed op next) (inserted : deed = some (.inserted session tx dst)) :
    tx = tasks.opened := by
  cases stepped.effect with
  | calm keyless pending channels opened =>
      have key := keyless _ inserted
      cases key
  | inserted other addr pending channels opened =>
      cases inserted
      rfl
  | _ => cases inserted

/-- A wait ends well exactly when the sender was used. -/
theorem Stepped.of_ended {session : UInt64} {rx : Nat} {ok : Bool}
    (stepped : Stepped addrs now task tasks deed op next) (ended : deed = some (.ended session rx ok)) :
    ok = true ↔ (next.channels rx).sender = .used := by
  cases stepped.effect with
  | calm keyless pending channels opened =>
      have key := keyless _ ended
      cases key
  | ended other channel result verdict pending channels opened =>
      cases ended
      rw [channels, dropReceiver_channels, if_pos rfl]
      exact verdict
  | _ => cases ended

/-- A step that leaves the registry alone announces nothing. -/
theorem Announced.quiet (silent : ∀ session taken, deed ≠ some (.announced session taken)) :
    Announced addrs now task deed none :=
  .other silent (by simp)

theorem Stepped.idle : Stepped addrs now task tasks none none tasks :=
  ⟨.idle _, fun _ _ => rfl, .calm (by simp) (fun _ => rfl) rfl rfl, rfl, .quiet (by simp)⟩

theorem Stepped.moveTo {middle : Tasks} {stage : Stage} (stages : middle.stages = tasks.stages)
    (state : middle.state = op.elim tasks.state tasks.state.apply)
    (moves : StageStep (tasks.stages task) deed stage) (announced : Announced addrs now task deed op)
    (effect : Effect addrs now task tasks deed (middle.moveTo task stage)) :
    Stepped addrs now task tasks deed op (middle.moveTo task stage) := by
  refine ⟨?_, ?_, effect, state, announced⟩
  · simpa [Tasks.moveTo] using moves
  · intro other different
    simp [Tasks.moveTo, stages, different]

/-- A step that touches neither the registry nor a channel. -/
theorem Stepped.calm {middle : Tasks} {stage : Stage} (keyless : ∀ done ∈ deed, done.key = none)
    (silent : ∀ session taken, deed ≠ some (.announced session taken)) (stages : middle.stages = tasks.stages)
    (state : middle.state = tasks.state) (channels : middle.channels = tasks.channels)
    (opened : middle.opened = tasks.opened) (moves : StageStep (tasks.stages task) deed stage) :
    Stepped addrs now task tasks deed none (middle.moveTo task stage) :=
  .moveTo stages state moves (.quiet silent) (.calm keyless (fun _ => by rw [moveTo_state, state]) channels opened)

theorem receive_stepped (receiving : tasks.stages task = .receiving) (message : ToNatServerMsg) :
    Stepped addrs now task tasks (tasks.deed addrs now task (.received message))
      (tasks.registryOp addrs now task (.received message)) (tasks.receive addrs now task message) := by
  cases message with
  | getClients app =>
      simp only [deed, registryOp, receiving]
      exact .calm (by simp) (by simp) rfl rfl rfl rfl (receiving ▸ .listed _)
  | announceAndCheck announce =>
      have pending := tasks.state.pending_announceCheck announce (addrs task) now
      have taken := tasks.state.announceCheck_taken announce (addrs task) now
      simp only [deed, registryOp, receiving, receive]
      have state : (tasks.state.announceCheck announce (addrs task) now).1 =
          tasks.state.apply (now, .announce announce (addrs task)) := rfl
      generalize tasks.state.announceCheck announce (addrs task) now = result at pending taken state ⊢
      obtain ⟨later, found⟩ := result
      dsimp only at pending taken state ⊢
      obtain left | ⟨incoming, there, moved⟩ := State.takeIf_cases now (tasks.state.pending announce.session)
      · rw [left] at taken
        subst taken
        have moves : StageStep (tasks.stages task) (some (.announced announce.session none)) .closed :=
          receiving ▸ .refused _
        refine .moveTo rfl state moves (.announced announce none) (.calm (by simp [Deed.key]) ?_ rfl rfl)
        intro session
        rw [moveTo_state, log_state, pending]
        split_ifs with same
        · rw [← same, left]
        · rfl
      · rw [moved] at taken
        subst taken
        have moves : StageStep (tasks.stages task) (some (.announced announce.session (some incoming)))
            (.confirming incoming) := receiving ▸ .taken _ _
        refine .moveTo rfl state moves (.announced announce (some incoming)) ?_
        refine .taken announce.session incoming there ?_ ?_ rfl rfl
        · by_contra late
          rw [there, State.takeIf, if_neg late] at moved
          cases moved
        · intro session
          rw [moveTo_state, log_state, pending]
          split_ifs with same
          · rw [← same, moved]
          · rfl
  | connectionRequest request =>
      have pending := tasks.state.pending_insertConnectionRequest request (addrs task) tasks.opened now
      simp only [deed, registryOp, receiving, receive]
      have state : (tasks.state.insertConnectionRequest request (addrs task) tasks.opened now).1 =
          tasks.state.apply (now, .request request (addrs task) tasks.opened) := rfl
      split
      · rename_i later dst result
        rw [result] at pending state ⊢
        obtain ⟨stages, _⟩ := tasks.dropPending_channels [request.session]
        refine .moveTo stages state (receiving ▸ .inserted _ _ _) (.other (by simp) (by simp [RegistryOp.announces])) ?_
        refine .inserted request.session dst ?_ rfl rfl
        intro other
        rw [moveTo_state, log_state, pending]
        simp
      · rename_i later result
        rw [result] at state ⊢
        have refused : later = tasks.state := tasks.state.insertConnectionRequest_refused request (addrs task) result
        refine .moveTo rfl (refused.symm.trans state) (receiving ▸ .disconnected)
          (.other (by simp) (by simp [RegistryOp.announces])) ?_
        exact .calm (by simp) (fun _ => rfl) rfl rfl

theorem confirm_stepped {incoming : IncomingConnection} (confirming : tasks.stages task = .confirming incoming) :
    Stepped addrs now task tasks (tasks.deed addrs now task .confirm) (tasks.registryOp addrs now task .confirm)
      (tasks.confirm task incoming) := by
  simp only [deed, registryOp, confirming, confirm]
  split_ifs with alive
  · refine .moveTo rfl rfl (confirming ▸ .confirmed incoming) (.quiet (by simp)) ?_
    exact .confirmed incoming alive rfl rfl rfl
  · refine .moveTo rfl rfl (confirming ▸ .unconfirmed incoming) (.quiet (by simp)) ?_
    exact .unconfirmed incoming confirming rfl rfl rfl (by simp [Tasks.moveTo])

/-- A task sends the next of its answers, if one is left. -/
theorem answer_stepped {messages : List ToNatClientMsg} (answering : tasks.stages task = .answering messages) :
    Stepped addrs now task tasks (tasks.deed addrs now task .sent) (tasks.registryOp addrs now task .sent)
      (tasks.step addrs now task .sent) := by
  cases messages with
  | nil =>
      simp only [deed, registryOp, step, answering]
      exact .idle
  | cons message messages =>
      cases messages with
      | nil =>
          simp only [deed, registryOp, step, answering]
          exact .calm (by simp [Deed.key]) (by simp) rfl rfl rfl rfl (answering ▸ .answered message)
      | cons next messages =>
          simp only [deed, registryOp, step, answering]
          exact .calm (by simp [Deed.key]) (by simp) rfl rfl rfl rfl (answering ▸ .answering message next messages)

theorem wake_stepped {session : UInt64} {rx : Nat} {deadline : Instant}
    (waiting : tasks.stages task = .waiting session rx deadline) :
    Stepped addrs now task tasks (tasks.deed addrs now task .woken) (tasks.registryOp addrs now task .woken)
      (tasks.wake now task session rx deadline) := by
  simp only [deed, registryOp, waiting, wake]
  cases sender : (tasks.channels rx).sender with
  | used =>
      refine .moveTo rfl rfl (waiting ▸ .ended session rx deadline true) (.quiet (by simp)) ?_
      exact .ended session rx true (by simp [sender]) rfl rfl rfl
  | dropped =>
      refine .moveTo rfl rfl (waiting ▸ .ended session rx deadline false) (.quiet (by simp)) ?_
      exact .ended session rx false (by simp [sender]) rfl rfl rfl
  | held =>
      dsimp only
      split_ifs with late
      · refine .moveTo rfl rfl (waiting ▸ .ended session rx deadline false) (.quiet (by simp)) ?_
        exact .ended session rx false (by simp [sender]) rfl rfl rfl
      · exact .idle

/-- Every step is one of these. -/
theorem step_stepped (addrs : Nat → SocketAddr) (now : Instant) (task : Nat) (tasks : Tasks) (event : TaskEvent) :
    Stepped addrs now task tasks (tasks.deed addrs now task event) (tasks.registryOp addrs now task event)
      (tasks.step addrs now task event) := by
  cases stage : tasks.stages task with
  | updating =>
      cases event with
      | update =>
          simp only [deed, registryOp, step, stage]
          obtain ⟨stages, _⟩ := tasks.dropPending_channels (tasks.state.toRemove now)
          refine .moveTo stages rfl (stage ▸ .update) (.other (by simp) (by simp [RegistryOp.announces])) ?_
          exact .cleared _ (tasks.state.pending_pollUpdate now) rfl (tasks.dropPending_fields _).2
      | _ =>
          simp only [deed, registryOp, step, stage]
          exact .idle
  | receiving =>
      cases event with
      | received message =>
          simp only [step, stage]
          exact receive_stepped stage message
      | quiet =>
          simp only [deed, registryOp, step, stage]
          exact .calm (by simp) (by simp) rfl rfl rfl rfl (stage ▸ .quiet)
      | disconnected =>
          simp only [deed, registryOp, step, stage]
          exact .calm (by simp) (by simp) rfl rfl rfl rfl (stage ▸ .disconnected)
      | _ =>
          simp only [deed, registryOp, step, stage]
          exact .idle
  | confirming incoming =>
      cases event with
      | confirm =>
          simp only [step, stage]
          exact confirm_stepped stage
      | _ =>
          simp only [deed, registryOp, step, stage]
          exact .idle
  | answering messages =>
      cases event with
      | sent => exact answer_stepped stage
      | sendFailed =>
          simp only [deed, registryOp, step, stage]
          exact .calm (by simp [Deed.key]) (by simp) rfl rfl rfl rfl (.failed _)
      | _ =>
          simp only [deed, registryOp, step, stage]
          exact .idle
  | telling session rx dst =>
      cases event with
      | sent =>
          simp only [deed, registryOp, step, stage]
          exact .calm (by simp [Deed.key]) (by simp) rfl rfl rfl rfl (stage ▸ .told session rx dst _)
      | sendFailed =>
          simp only [deed, registryOp, step, stage]
          refine .moveTo rfl rfl (.failed _) (.quiet (by simp)) ?_
          exact .failed session rx (stage ▸ ⟨rfl, rfl⟩) rfl rfl rfl (by simp [Tasks.moveTo])
      | _ =>
          simp only [deed, registryOp, step, stage]
          exact .idle
  | waiting session rx deadline =>
      cases event with
      | woken =>
          simp only [step, stage]
          exact wake_stepped stage
      | _ =>
          simp only [deed, registryOp, step, stage]
          exact .idle
  | starting session =>
      cases event with
      | sent =>
          simp only [deed, registryOp, step, stage]
          exact .calm (by simp [Deed.key]) (by simp) rfl rfl rfl rfl (stage ▸ .started session)
      | sendFailed =>
          simp only [deed, registryOp, step, stage]
          exact .calm (by simp [Deed.key]) (by simp) rfl rfl rfl rfl (.failed _)
      | _ =>
          simp only [deed, registryOp, step, stage]
          exact .idle
  | withdrawing session =>
      cases event with
      | withdraw =>
          simp only [deed, registryOp, step, stage]
          obtain ⟨stages, _⟩ := tasks.dropPending_channels [session]
          refine .moveTo stages rfl (stage ▸ .withdrawn session) (.other (by simp) (by simp [RegistryOp.announces])) ?_
          refine .cleared [session] ?_ rfl (tasks.dropPending_fields _).2
          intro other
          simp [State.pending_removeConnectionRequest, eq_comm]
      | _ =>
          simp only [deed, registryOp, step, stage]
          exact .idle
  | closed =>
      simp only [deed, registryOp, step, stage]
      exact .idle

end Tasks

end RepriseP2p.Tcp
