/-
This file composes the tasks of the server with the calls of its clients. Each call has a connection of its own, and the
messages in both directions arrive late and in order.
-/

import RepriseP2p.Tcp.Call
import RepriseP2p.Tcp.Pairing

namespace RepriseP2p.Tcp

open History

/-- What a call has learned from its task. -/
inductive Knowledge where
  | nothing
  | addr (remoteAddr : SocketAddr)
  | countdown (remoteAddr : SocketAddr)
  | listing (clients : List ClientAnnouncement)

/-- A call towards the server: it connects, then it sends its message, and then it learns from the answers. -/
inductive CallView where
  | connecting (message : ToNatServerMsg)
  | sending (message : ToNatServerMsg)
  | sent (known : Knowledge)

namespace CallView

/-- The message that the call has not sent yet. -/
def request : CallView → Option ToNatServerMsg
  | .connecting message | .sending message => some message
  | .sent _ => none

/-- The message that the call sends now. -/
def sends : CallView → Option ToNatServerMsg
  | .sending message => some message
  | _ => none

def known : CallView → Knowledge
  | .sent known => known
  | _ => .nothing

end CallView

namespace TcpClient

def view : TcpClient → CallView
  | .connector run =>
      match run.stage with
      | .connecting call _ => .connecting call.message
      | .sending call => .sending call.message
      | .awaitingCountdown addr _ => .sent (.addr addr)
      | .counting addr _ | .dialling addr _ _ _ | .resting addr _ _ => .sent (.countdown addr)
      | .idle (some (.client (.ok (_, addr)))) => .sent (.countdown addr)
      | .idle (some (.clients (.ok clients))) => .sent (.listing clients)
      | _ => .sent .nothing
  | .service run =>
      match run.stage with
      | .connecting _ => .connecting run.message
      | .sending => .sending run.message
      | .awaitingCountdown addr _ => .sent (.addr addr)
      | .counting addr _ | .dialling addr _ _ _ | .resting addr _ _ => .sent (.countdown addr)
      | .idle (some (.ok (_, addr))) => .sent (.countdown addr)
      | _ => .sent .nothing

/-- The call waits for messages of the server. -/
def reads : TcpClient → Bool
  | .connector run =>
      match run.stage with
      | .awaitingClients _ | .awaitingAddr _ | .awaitingCountdown _ _ => true
      | _ => false
  | .service run =>
      match run.stage with
      | .awaitingAddr _ | .awaitingCountdown _ _ => true
      | _ => false

end TcpClient

/-- The message that a task sends now. -/
def Stage.sends : Stage → Option ToNatClientMsg
  | .answering (message :: _) => some message
  | .telling _ _ dst => some (.remoteAddr dst)
  | .starting _ => some (.startCountdown (Duration.fromMillis scheduleConMs))
  | _ => none

/-- The tasks and the calls, one of each for every connection, and the messages on their way. -/
structure TcpNetwork where
  tasks : Tasks
  clients : Nat → TcpClient
  requests : Nat → List ToNatServerMsg
  answers : Nat → List ToNatClientMsg
  clock : Instant

inductive NetworkEvent where
  | task (task : Nat) (event : TaskEvent)
  | client (client : Nat) (answers : SystemAnswers) (event : ConnectorEvent)
  deriving DecidableEq

namespace TcpNetwork

def start (clients : Nat → TcpClient) : TcpNetwork := ⟨.start, clients, fun _ => [], fun _ => [], 0⟩

variable (addrs : Nat → SocketAddr) (windows : Nat → Bool)

/-- A task takes the first message of its client, and what it sends is on its way. -/
def taskStep (network : TcpNetwork) (now : Instant) (task : Nat) (event : TaskEvent) : TcpNetwork :=
  { network with
    tasks := network.tasks.next addrs (now, task, event)
    requests :=
      match event with
      | .received _ => Function.update network.requests task (network.requests task).tail
      | _ => network.requests
    answers :=
      match event with
      | .sent =>
          Function.update network.answers task
            (network.answers task ++ (network.tasks.stages task).sends.toList)
      | _ => network.answers
    clock := now }

/-- A call takes the first message of its task, and what it sends is on its way. -/
def clientStep (network : TcpNetwork) (now : Instant) (client : Nat) (answers : SystemAnswers)
    (event : ConnectorEvent) : TcpNetwork :=
  { network with
    clients := Function.update network.clients client
      ((network.clients client).step (windows client) now answers event)
    requests :=
      match event with
      | .sent =>
          Function.update network.requests client
            (network.requests client ++ (network.clients client).view.sends.toList)
      | _ => network.requests
    answers :=
      match event with
      | .received _ => Function.update network.answers client (network.answers client).tail
      | _ => network.answers
    clock := now }

def next (network : TcpNetwork) (event : Instant × NetworkEvent) : TcpNetwork :=
  match event.2 with
  | .task task taken => network.taskStep addrs event.1 task taken
  | .client client answers taken => network.clientStep windows event.1 client answers taken

/-- Only a message that is the first on its way is received, where one is awaited. -/
def delivers (network : TcpNetwork) : NetworkEvent → Prop
  | .task task (.received message) =>
      network.tasks.stages task = .receiving ∧ (network.requests task).head? = some message
  | .client client _ (.received message) =>
      (network.clients client).reads = true ∧ (network.answers client).head? = some message
  | .client _ _ (.call _) => False
  | _ => True

instance (network : TcpNetwork) (event : NetworkEvent) : Decidable (network.delivers event) := by
  unfold delivers
  split <;> infer_instance

end TcpNetwork

/-- The tasks and the calls take their steps in any order. At the start every call connects to the server. -/
def networkMachine (addrs : Nat → SocketAddr) (windows : Nat → Bool) : Machine TcpNetwork (Instant × NetworkEvent) where
  initial network := ∃ clients, (∀ client, (callMachine (windows client)).initial (clients client)) ∧
    network = .start clients
  allowed network event := network.clock ≤ event.1 ∧ network.delivers event.2
  next := TcpNetwork.next addrs windows

instance (addrs : Nat → SocketAddr) (windows : Nat → Bool) (network : TcpNetwork) (event : Instant × NetworkEvent) :
    Decidable ((networkMachine addrs windows).allowed network event) :=
  inferInstanceAs (Decidable (_ ∧ _))

/-- The steps of the tasks. -/
def serverEvents (events : List (Instant × NetworkEvent)) : List (Instant × Nat × TaskEvent) :=
  events.filterMap fun event =>
    match event.2 with
    | .task task taken => some (event.1, task, taken)
    | .client _ _ _ => none

theorem serverEvents_snoc (events : List (Instant × NetworkEvent)) (event : Instant × NetworkEvent) :
    serverEvents (events ++ [event]) = serverEvents events ++ serverEvents [event] :=
  List.filterMap_append

/-- The tasks of the network run as tasks. -/
theorem run_tasks {addrs : Nat → SocketAddr} {windows : Nat → Bool} {clients : Nat → TcpClient}
    {events : List (Instant × NetworkEvent)} {network : TcpNetwork}
    (ran : (networkMachine addrs windows).Run (.start clients) events network) :
    (tasksMachine addrs).Run .start (serverEvents events) network.tasks ∧ network.tasks.clock ≤ network.clock := by
  induction ran with
  | nil => exact ⟨.nil, Nat.le_refl 0⟩
  | snoc event before allowed ih =>
      obtain ⟨ran, earlier⟩ := ih
      obtain ⟨now, event⟩ := event
      rw [serverEvents_snoc]
      cases event with
      | task task taken => exact ⟨ran.snoc (now, task, taken) (Nat.le_trans earlier allowed.1), Nat.le_refl now⟩
      | client client answers taken =>
          refine ⟨?_, Nat.le_trans earlier allowed.1⟩
          rw [show serverEvents [(now, NetworkEvent.client client answers taken)] = [] from rfl, List.append_nil]
          exact ran

/-- A task in such a stage owes its client nothing. -/
def Stage.Fresh : Stage → Prop
  | .updating | .receiving | .closed => True
  | _ => False

/-- The deed opens the handling of a message. -/
def Deed.opens : Deed → Bool
  | .announced _ _ | .inserted _ _ _ => true
  | _ => false

/-- The deed is one for this message. -/
def Deed.Replies (message : ToNatServerMsg) : Deed → Prop
  | .announced session _ => ∃ data, message = .announceAndCheck data ∧ data.session = session
  | .inserted session _ _ => message = .connectionRequest ⟨session⟩
  | _ => True

/-- The messages that a task sent. -/
def toldMessages (deeds : List Deed) : List ToNatClientMsg :=
  deeds.filterMap fun deed =>
    match deed with
    | .told message => some message
    | _ => none

theorem toldMessages_append (earlier later : List Deed) :
    toldMessages (earlier ++ later) = toldMessages earlier ++ toldMessages later :=
  List.filterMap_append

theorem mem_toldMessages {deeds : List Deed} {message : ToNatClientMsg} :
    message ∈ toldMessages deeds ↔ .told message ∈ deeds := by
  rw [toldMessages, List.mem_filterMap]
  constructor
  · rintro ⟨deed, member, same⟩
    cases deed with
    | told other =>
        cases same
        exact member
    | _ => cases same
  · intro member
    exact ⟨_, member, rfl⟩

namespace Tasks

variable (addrs : Nat → SocketAddr) (now : Instant) (task : Nat) (tasks : Tasks)

/-- Only a message leads out of a fresh stage. -/
theorem step_fresh {event : TaskEvent} (fresh : (tasks.stages task).Fresh)
    (unread : ∀ message, event ≠ .received message) :
    tasks.deed addrs now task event = none ∧ ((tasks.step addrs now task event).stages task).Fresh := by
  have moves := (tasks.step_stepped addrs now task event).moves
  cases stage : tasks.stages task with
  | updating =>
      cases event with
      | received message => exact absurd rfl (unread message)
      | _ => simp [deed, step, stage, log, Tasks.moveTo, Stage.Fresh]
  | receiving =>
      cases event with
      | received message => exact absurd rfl (unread message)
      | _ => simp [deed, step, stage, Tasks.moveTo, Stage.Fresh]
  | closed =>
      cases event with
      | received message => exact absurd rfl (unread message)
      | _ => simp [deed, step, stage, Stage.Fresh]
  | _ =>
      rw [stage] at fresh
      exact absurd fresh id

/-- Only a message opens a handling. -/
theorem deed_opens {event : TaskEvent} {done : Deed} (did : tasks.deed addrs now task event = some done)
    (opens : done.opens = true) : ∃ message, event = .received message := by
  unfold deed at did
  split at did
  · exact ⟨_, rfl⟩
  · exact ⟨_, rfl⟩
  · split_ifs at did
    cases did
    cases opens
  · cases did
    cases opens
  · cases did
    cases opens
  · split at did
    · cases did
      cases opens
    · cases did
      cases opens
    · split_ifs at did
      cases did
      cases opens
  all_goals
    cases did
  all_goals
    cases opens

/-- The deed that a message leads to is one for it. -/
theorem deed_replies {message : ToNatServerMsg} {done : Deed}
    (did : tasks.deed addrs now task (.received message) = some done) : done.Replies message := by
  cases stage : tasks.stages task with
  | receiving =>
      simp only [deed, stage] at did
      cases message with
      | announceAndCheck announce =>
          cases did
          exact ⟨announce, rfl, rfl⟩
      | connectionRequest request =>
          obtain ⟨dst, found, rfl⟩ := Option.map_eq_some_iff.mp did
          rfl
      | getClients app => cases did
  | _ => simp [deed, stage] at did

/-- A step sends the message that its stage sends, or none. -/
theorem told_deed (event : TaskEvent) : toldMessages (tasks.deed addrs now task event).toList =
    if event = .sent then (tasks.stages task).sends.toList else [] := by
  unfold deed
  split
  · simp [toldMessages]
  · simp [toldMessages]
  · split_ifs <;> simp_all [toldMessages]
  · simp [toldMessages, Stage.sends, *]
  · simp [toldMessages, Stage.sends, *]
  · split
    · simp [toldMessages]
    · simp [toldMessages]
    · split_ifs <;> simp_all [toldMessages]
  · simp [toldMessages, Stage.sends, countdown, *]
  · simp [toldMessages]
  · simp [toldMessages]
  · simp [toldMessages]
  · split_ifs with sent
    · subst sent
      cases stage : tasks.stages task with
      | answering messages =>
          cases messages with
          | nil => rfl
          | cons message messages => simp_all
      | telling session rx dst => simp_all
      | starting session => simp_all
      | _ => rfl
    · rfl

end Tasks

/-- The deeds of a task that handles this one message: only the first of them opens a handling. -/
structure Begins (message : ToNatServerMsg) (deeds : List Deed) : Prop where
  replies : ∀ deed ∈ deeds, deed.Replies message
  once : ∀ deed ∈ deeds.tail, deed.opens = false

theorem begins_nil {message : ToNatServerMsg} : Begins message [] := ⟨by simp, by simp⟩

/-- Deeds that open nothing may follow. -/
theorem Begins.append {message : ToNatServerMsg} {deeds later : List Deed} (begins : Begins message deeds)
    (closed : ∀ deed ∈ later, deed.opens = false) : Begins message (deeds ++ later) := by
  constructor
  · intro deed member
    obtain old | new := List.mem_append.mp member
    · exact begins.replies deed old
    · have quiet := closed deed new
      cases deed with
      | announced session taken => cases quiet
      | inserted session tx dst => cases quiet
      | _ => exact trivial
  · intro deed member
    cases deeds with
    | nil => exact closed deed (List.mem_of_mem_tail member)
    | cons first deeds =>
        obtain old | new := List.mem_append.mp member
        · exact begins.once deed old
        · exact closed deed new

/-- An opening deed is the first one. -/
theorem Begins.opening {message : ToNatServerMsg} {deeds before after : List Deed} {deed : Deed}
    (begins : Begins message deeds) (split : deeds = before ++ deed :: after) (opens : deed.opens = true) :
    before = [] := by
  cases before with
  | nil => rfl
  | cons first before =>
      have closed := begins.once deed (by simp [split])
      rw [opens] at closed
      cases closed

/-- The message of a call is not sent yet, or it is on its way, or the call is over without it, or the task has it. -/
inductive Phase (message : ToNatServerMsg) : Option ToNatServerMsg → List ToNatServerMsg → List Deed → Stage → Prop where
  | unsent (stage : Stage) (fresh : stage.Fresh) : Phase message (some message) [] [] stage
  | inFlight (stage : Stage) (fresh : stage.Fresh) : Phase message none [message] [] stage
  | handled (deeds : List Deed) (stage : Stage) (begins : Begins message deeds) : Phase message none [] deeds stage

/-- The messages from which the call knows it. -/
def Knowledge.From (heard : List ToNatClientMsg) : Knowledge → Prop
  | .nothing => True
  | .addr remoteAddr => [.remoteAddr remoteAddr].Sublist heard
  | .countdown remoteAddr => ∃ duration, [.remoteAddr remoteAddr, .startCountdown duration].Sublist heard
  | .listing clients => .clients clients ∈ heard

/-- What one step does to a call, towards the server. -/
inductive ViewStep : ConnectorEvent → CallView → CallView → Prop where
  | kept (event : ConnectorEvent) (view : CallView) (unsent : event = .sent → view.sends = none) :
      ViewStep event view view
  | ended (event : ConnectorEvent) (view : CallView) : ViewStep event view (.sent .nothing)
  | connected (event : ConnectorEvent) (message : ToNatServerMsg) (unsent : event ≠ .sent) :
      ViewStep event (.connecting message) (.sending message)
  | listed (clients : List ClientAnnouncement) (known : Knowledge) :
      ViewStep (.received (.clients clients)) (.sent known) (.sent (.listing clients))
  | told (addr : SocketAddr) (known : Knowledge) :
      ViewStep (.received (.remoteAddr addr)) (.sent known) (.sent (.addr addr))
  | started (addr : SocketAddr) (duration : Duration) :
      ViewStep (.received (.startCountdown duration)) (.sent (.addr addr)) (.sent (.countdown addr))

theorem Knowledge.From.mono {heard : List ToNatClientMsg} {known : Knowledge} (hears : known.From heard)
    (message : ToNatClientMsg) : known.From (heard ++ [message]) := by
  cases known with
  | nothing => exact trivial
  | addr addr => exact hears.trans (List.sublist_append_left heard _)
  | countdown addr =>
      obtain ⟨duration, hears⟩ := hears
      exact ⟨duration, hears.trans (List.sublist_append_left heard _)⟩
  | listing clients => exact List.mem_append_left _ hears

namespace ViewStep

variable {event : ConnectorEvent} {view next : CallView}

/-- A call has its message until it sends it. -/
theorem request (moved : ViewStep event view next) {message : ToNatServerMsg} (unsent : next.request = some message) :
    view.request = some message ∧ (event = .sent → view.sends = none) := by
  cases moved with
  | kept _ _ quiet => exact ⟨unsent, quiet⟩
  | connected _ _ quiet => exact ⟨unsent, fun sent => absurd sent quiet⟩
  | _ => cases unsent

/-- A call knows only what it heard. -/
theorem hears (moved : ViewStep event view next) {heard : List ToNatClientMsg} (hears : view.known.From heard) :
    (∀ message, event = .received message → next.known.From (heard ++ [message])) ∧
      ((∀ message, event ≠ .received message) → next.known.From heard) := by
  cases moved with
  | kept => exact ⟨fun message _ => hears.mono message, fun _ => hears⟩
  | ended => exact ⟨fun _ _ => trivial, fun _ => trivial⟩
  | connected => exact ⟨fun _ _ => trivial, fun _ => trivial⟩
  | listed clients =>
      refine ⟨?_, fun none => absurd rfl (none _)⟩
      intro message same
      cases same
      exact List.mem_append_right heard (List.mem_singleton_self _)
  | told addr =>
      refine ⟨?_, fun none => absurd rfl (none _)⟩
      intro message same
      cases same
      exact List.sublist_append_right heard _
  | started addr duration =>
      refine ⟨?_, fun none => absurd rfl (none _)⟩
      intro message same
      cases same
      exact ⟨duration, hears.append (List.Sublist.refl _)⟩

end ViewStep

namespace TcpClient

variable (windows : Bool) (now : Instant) (answers : SystemAnswers)

/-- A call keeps its view unless it sends its message. -/
theorem connector_kept (run : ConnectorRun) (event : ConnectorEvent)
    (unsent : ∀ call, run.stage = .sending call → event ≠ .sent) :
    ViewStep event (connector run).view (connector run).view := by
  refine .kept _ _ ?_
  intro sent
  cases stage : run.stage with
  | sending call => exact absurd sent (unsent call stage)
  | idle result =>
      rcases result with _ | ⟨⟨_ | _⟩ | ⟨_ | _⟩⟩ <;> simp only [view, stage, CallView.sends]
  | _ => simp only [view, stage, CallView.sends]

theorem service_kept (run : ServiceRun) (event : ConnectorEvent) (unsent : run.stage = .sending → event ≠ .sent) :
    ViewStep event (service run).view (service run).view := by
  refine .kept _ _ ?_
  intro sent
  cases stage : run.stage with
  | sending => exact absurd sent (unsent stage)
  | idle result =>
      rcases result with _ | ⟨_ | _⟩ <;> simp only [view, stage, CallView.sends]
  | _ => simp only [view, stage, CallView.sends]

/-- The head of the loop goes on to know what it knows, or it knows nothing. -/
theorem connector_dial_view (run : ConnectorRun) (addr : SocketAddr) (deadline : Instant) (event : ConnectorEvent) :
    ViewStep event (.sent (.countdown addr)) (connector (run.dial windows now answers addr deadline)).view := by
  unfold ConnectorRun.dial
  split_ifs
  · unfold ConnectorRun.cloned
    split
    · exact .kept _ _ (by simp [CallView.sends])
    · exact .ended _ _
    · exact .ended _ _
  · unfold ConnectorRun.finish
    split <;> exact .ended _ _

theorem service_dial_view (run : ServiceRun) (addr : SocketAddr) (deadline : Instant) (event : ConnectorEvent) :
    ViewStep event (.sent (.countdown addr)) (service (run.dial windows now answers addr deadline)).view := by
  unfold ServiceRun.dial
  split_ifs
  · unfold ServiceRun.cloned
    split
    · exact .kept _ _ (by simp [CallView.sends])
    · exact .ended _ _
    · exact .ended _ _
  · exact .ended _ _

theorem connector_request_view (run : ConnectorRun) {event : ConnectorEvent} (going : ∀ call, event ≠ .call call) :
    ViewStep event (connector run).view (connector (run.request windows now answers event)).view := by
  unfold ConnectorRun.request
  split
  · exact absurd rfl (going _)
  · rename_i call deadline reached
    rw [show (connector run).view = .connecting call.message by rw [view, reached]]
    exact .connected _ _ (by simp)
  · rename_i call deadline reached
    cases call <;> exact .ended _ _
  · rename_i call deadline reached
    split_ifs
    · cases call <;> exact .ended _ _
    · exact connector_kept run _ (by simp)
  · rename_i call reached
    cases call <;> exact .ended _ _
  · rename_i call reached
    cases call <;> exact .ended _ _
  · rename_i idle connected failed expired sent sendFailed
    exact connector_kept run _ sent

theorem service_request_view (run : ServiceRun) (event : ConnectorEvent) :
    ViewStep event (service run).view (service (run.request now event)).view := by
  unfold ServiceRun.request
  split
  · rename_i deadline reached
    rw [show (service run).view = .connecting run.message by rw [view, reached]]
    exact .connected _ _ (by simp)
  · exact .ended _ _
  · split_ifs
    · exact .ended _ _
    · exact service_kept run _ (by simp)
  · exact .ended _ _
  · exact .ended _ _
  · rename_i connected failed expired sent sendFailed
    exact service_kept run _ sent

theorem connector_await_view (run : ConnectorRun) (event : ConnectorEvent)
    (asked : ∀ call, run.stage ≠ .sending call) :
    ViewStep event (connector run).view (connector (run.await now event)).view := by
  have ignored : ViewStep event (connector run).view (connector run).view :=
    connector_kept run event fun call sending => absurd sending (asked call)
  unfold ConnectorRun.await
  split
  · rename_i deadline clients reached
    rw [show (connector run).view = .sent .nothing by rw [view, reached]]
    exact .listed clients _
  · exact .ended _ _
  · split_ifs
    · exact .ended _ _
    · exact ignored
  · rename_i deadline addr reached
    rw [show (connector run).view = .sent .nothing by rw [view, reached]]
    exact .told addr _
  · exact .ended _ _
  · exact .ended _ _
  · split_ifs
    · exact .ended _ _
    · exact ignored
  · rename_i addr deadline duration reached
    rw [show (connector run).view = .sent (.addr addr) by rw [view, reached]]
    exact .started addr duration
  · exact .ended _ _
  · split_ifs
    · exact .ended _ _
    · exact ignored
  · exact ignored

theorem service_await_view (run : ServiceRun) (event : ConnectorEvent) (asked : run.stage ≠ .sending) :
    ViewStep event (service run).view (service (run.await now event)).view := by
  have ignored : ViewStep event (service run).view (service run).view :=
    service_kept run event fun sending => absurd sending asked
  unfold ServiceRun.await
  split
  · rename_i deadline addr reached
    rw [show (service run).view = .sent .nothing by rw [view, reached]]
    exact .told addr _
  · exact .ended _ _
  · exact .ended _ _
  · split_ifs
    · exact .ended _ _
    · exact ignored
  · rename_i addr deadline duration reached
    rw [show (service run).view = .sent (.addr addr) by rw [view, reached]]
    exact .started addr duration
  · exact .ended _ _
  · split_ifs
    · exact .ended _ _
    · exact ignored
  · exact ignored

theorem connector_connectDirectly_view (run : ConnectorRun) (event : ConnectorEvent)
    (asked : ∀ call, run.stage ≠ .sending call) :
    ViewStep event (connector run).view (connector (run.connectDirectly windows now answers event)).view := by
  have ignored : ViewStep event (connector run).view (connector run).view :=
    connector_kept run event fun call sending => absurd sending (asked call)
  have here {stage : ConnectorStage} (reached : run.stage = stage) :
      (connector run).view = (connector (run.moveTo stage)).view := by
    rw [view, reached]
    rfl
  unfold ConnectorRun.connectDirectly
  split
  · rename_i addr wakeUp reached
    split_ifs
    · rw [here reached]
      exact connector_dial_view windows now answers run addr _ _
    · exact ignored
  · rename_i addr deadline timeout socket reached
    rw [here reached]
    unfold ConnectorRun.finish
    split
    · exact .kept _ _ (by simp)
    · exact .ended _ _
    · exact .ended _ _
  · rename_i addr deadline timeout socket reached
    rw [here reached]
    exact .kept _ _ (by simp)
  · rename_i addr deadline timeout socket reached
    split_ifs
    · rw [here reached]
      exact .kept _ _ (by simp)
    · exact ignored
  · rename_i addr deadline wakeUp reached
    split_ifs
    · rw [here reached]
      exact connector_dial_view windows now answers run addr _ _
    · exact ignored
  · exact ignored

theorem service_connectDirectly_view (run : ServiceRun) (event : ConnectorEvent) (asked : run.stage ≠ .sending) :
    ViewStep event (service run).view (service (run.connectDirectly windows now answers event)).view := by
  have ignored : ViewStep event (service run).view (service run).view :=
    service_kept run event fun sending => absurd sending asked
  have here {stage : ServiceStage} (reached : run.stage = stage) :
      (service run).view = (service (run.moveTo stage)).view := by
    rw [view, reached]
    rfl
  unfold ServiceRun.connectDirectly
  split
  · rename_i addr wakeUp reached
    split_ifs
    · rw [here reached]
      exact service_dial_view windows now answers run addr _ _
    · exact ignored
  · rename_i addr deadline timeout socket reached
    rw [here reached]
    exact .kept _ _ (by simp)
  · rename_i addr deadline timeout socket reached
    rw [here reached]
    exact .kept _ _ (by simp)
  · rename_i addr deadline timeout socket reached
    split_ifs
    · rw [here reached]
      exact .kept _ _ (by simp)
    · exact ignored
  · rename_i addr deadline wakeUp reached
    split_ifs
    · rw [here reached]
      exact service_dial_view windows now answers run addr _ _
    · exact ignored
  · exact ignored

/-- Every step of a call is one of these, towards the server. -/
theorem step_view (client : TcpClient) {event : ConnectorEvent} (going : ∀ call, event ≠ .call call) :
    ViewStep event client.view (client.step windows now answers event).view := by
  cases client with
  | connector run =>
      change ViewStep event _ (connector (run.step windows now answers event)).view
      unfold ConnectorRun.step
      split_ifs with dropped
      · unfold ConnectorRun.dropped
        split
        · exact connector_kept run event (by simp [dropped])
        · exact connector_kept run event (by simp [dropped])
        · exact .ended _ _
      · cases stage : run.stage with
        | idle result => exact connector_request_view windows now answers run going
        | connecting call deadline => exact connector_request_view windows now answers run going
        | sending call => exact connector_request_view windows now answers run going
        | awaitingClients deadline => exact connector_await_view now run event (by simp [stage])
        | awaitingAddr deadline => exact connector_await_view now run event (by simp [stage])
        | awaitingCountdown addr deadline => exact connector_await_view now run event (by simp [stage])
        | counting addr wakeUp => exact connector_connectDirectly_view windows now answers run event (by simp [stage])
        | dialling addr deadline timeout socket =>
            exact connector_connectDirectly_view windows now answers run event (by simp [stage])
        | resting addr deadline wakeUp =>
            exact connector_connectDirectly_view windows now answers run event (by simp [stage])
        | panicked => exact connector_kept run event (by simp [stage])
  | service run =>
      change ViewStep event _ (service (run.step windows now answers (.answered event))).view
      rw [service_answered]
      unfold ServiceRun.answered
      split_ifs with dropped
      · unfold ServiceRun.dropped
        split
        · exact service_kept run event (by simp [dropped])
        · exact service_kept run event (by simp [dropped])
        · exact .ended _ _
      · cases stage : run.stage with
        | connecting deadline => exact service_request_view now run event
        | sending => exact service_request_view now run event
        | awaitingAddr deadline => exact service_await_view now run event (by simp [stage])
        | awaitingCountdown addr deadline => exact service_await_view now run event (by simp [stage])
        | counting addr wakeUp => exact service_connectDirectly_view windows now answers run event (by simp [stage])
        | dialling addr deadline timeout socket =>
            exact service_connectDirectly_view windows now answers run event (by simp [stage])
        | resting addr deadline wakeUp =>
            exact service_connectDirectly_view windows now answers run event (by simp [stage])
        | idle result => exact service_kept run event (by simp [stage])
        | panicked => exact service_kept run event (by simp [stage])

end TcpClient

theorem CallView.sends_request {view : CallView} {message : ToNatServerMsg} (sends : view.sends = some message) :
    view.request = some message := by
  cases view with
  | sending other => exact sends
  | _ => cases sends

/-- A step of the task that reads nothing. -/
theorem Phase.task {message : ToNatServerMsg} {request : Option ToNatServerMsg} {queue : List ToNatServerMsg}
    {deeds : List Deed} {stage next : Stage} {deed : Option Deed} (phase : Phase message request queue deeds stage)
    (fresh : stage.Fresh → deed = none ∧ next.Fresh) (closed : ∀ done ∈ deed, done.opens = false) :
    Phase message request queue (deeds ++ deed.toList) next := by
  cases phase with
  | unsent stage still =>
      obtain ⟨rfl, after⟩ := fresh still
      exact .unsent next after
  | inFlight stage still =>
      obtain ⟨rfl, after⟩ := fresh still
      exact .inFlight next after
  | handled deeds stage begins => exact .handled _ next (begins.append (by simpa using closed))

/-- A step of the call. -/
theorem Phase.client {message : ToNatServerMsg} {view next : CallView} {queue : List ToNatServerMsg}
    {deeds : List Deed} {stage : Stage} {event : ConnectorEvent}
    (phase : Phase message view.request queue deeds stage) (moved : ViewStep event view next) :
    Phase message next.request (queue ++ if event = .sent then view.sends.toList else []) deeds stage := by
  generalize before : view.request = request at phase
  -- A call without a message neither sends one nor gets one.
  have quiet (absent : view.request = none) : next.request = none ∧ view.sends = none := by
    constructor
    · cases after : next.request with
      | none => rfl
      | some other => cases absent.symm.trans (moved.request after).1
    · cases sends : view.sends with
      | none => rfl
      | some other => cases absent.symm.trans (CallView.sends_request sends)
  cases phase with
  | unsent stage fresh =>
      by_cases sending : event = .sent ∧ view.sends ≠ none
      · obtain ⟨rfl, sends⟩ := sending
        obtain ⟨other, sends⟩ := Option.ne_none_iff_exists'.mp sends
        cases before.symm.trans (CallView.sends_request sends)
        have gone : next.request = none := by
          cases after : next.request with
          | none => rfl
          | some other => cases sends.symm.trans ((moved.request after).2 rfl)
        rw [gone, sends]
        exact .inFlight stage fresh
      · have none : (if event = .sent then view.sends.toList else []) = [] := by
          split_ifs with sent
          · simpa [sent] using sending
          · rfl
        rw [none]
        cases after : next.request with
        | none => exact .handled [] stage begins_nil
        | some other =>
            cases before.symm.trans (moved.request after).1
            exact .unsent stage fresh
  | inFlight stage fresh =>
      obtain ⟨gone, silent⟩ := quiet before
      rw [gone, silent, Option.toList_none, ite_self, List.append_nil]
      exact .inFlight stage fresh
  | handled deeds stage begins =>
      obtain ⟨gone, silent⟩ := quiet before
      rw [gone, silent, Option.toList_none, ite_self, List.append_nil]
      exact .handled deeds stage begins

namespace TcpNetwork

/-- How far the message of this connection is, and what its call knows. -/
structure Connected (network : TcpNetwork) (history : List (Instant × Nat × Deed)) (message : ToNatServerMsg)
    (connection : Nat) : Prop where
  phase : Phase message (network.clients connection).view.request (network.requests connection)
    (deedsOf connection history) (network.tasks.stages connection)
  heard : ∃ heard, toldMessages (deedsOf connection history) = heard ++ network.answers connection ∧
    (network.clients connection).view.known.From heard

variable {addrs : Nat → SocketAddr} {windows : Nat → Bool} {network : TcpNetwork}
  {history : List (Instant × Nat × Deed)} {message : ToNatServerMsg} {connection : Nat} {now : Instant}

theorem Connected.other (connected : network.Connected history message connection) {task : Nat}
    (other : connection ≠ task) (event : TaskEvent) :
    (network.taskStep addrs now task event).Connected
      (history ++ noted now task (network.tasks.deed addrs now task event)) message connection := by
  have stage := (network.tasks.step_stepped addrs now task event).others connection other
  have deeds : deedsOf connection (history ++ noted now task (network.tasks.deed addrs now task event)) =
      deedsOf connection history := by
    rw [deedsOf_append, deedsOf_noted, if_neg other.symm, List.append_nil]
  have requests : (network.taskStep addrs now task event).requests connection = network.requests connection := by
    unfold taskStep
    cases event <;> simp [other]
  have answers : (network.taskStep addrs now task event).answers connection = network.answers connection := by
    unfold taskStep
    cases event <;> simp [other]
  constructor
  · rw [deeds, requests]
    change Phase message _ _ _ ((network.tasks.step addrs now task event).stages connection)
    rw [stage]
    exact connected.phase
  · rw [deeds, answers]
    exact connected.heard

theorem Connected.task (connected : network.Connected history message connection) {event : TaskEvent}
    (delivered : network.delivers (.task connection event)) :
    (network.taskStep addrs now connection event).Connected
      (history ++ noted now connection (network.tasks.deed addrs now connection event)) message connection := by
  have deeds : deedsOf connection (history ++ noted now connection (network.tasks.deed addrs now connection event)) =
      deedsOf connection history ++ (network.tasks.deed addrs now connection event).toList := by
    rw [deedsOf_append, deedsOf_noted, if_pos rfl]
  constructor
  · rw [deeds]
    change Phase message _ _ _ ((network.tasks.step addrs now connection event).stages connection)
    by_cases reading : ∃ read, event = .received read
    · -- Only a message on its way is read.
      obtain ⟨read, rfl⟩ := reading
      obtain ⟨_, first⟩ := delivered
      have requests : (network.taskStep addrs now connection (.received read)).requests connection =
          (network.requests connection).tail := by
        simp [taskStep]
      rw [requests]
      change Phase message (network.clients connection).view.request _ _ _
      have phase := connected.phase
      generalize (network.clients connection).view.request = request at phase ⊢
      generalize network.requests connection = queue at phase first ⊢
      generalize deedsOf connection history = before at phase ⊢
      generalize network.tasks.stages connection = stage at phase
      cases phase with
      | unsent => cases first
      | inFlight =>
          cases first
          refine .handled _ _ ⟨?_, ?_⟩
          · intro deed member
            rw [List.nil_append] at member
            exact network.tasks.deed_replies addrs now connection (Option.mem_toList.mp member)
          · cases network.tasks.deed addrs now connection (.received message) <;> simp
      | handled => cases first
    · have unread (read : ToNatServerMsg) : event ≠ .received read := fun same => reading ⟨read, same⟩
      have requests : (network.taskStep addrs now connection event).requests connection =
          network.requests connection := by
        cases event with
        | received read => exact absurd rfl (unread read)
        | _ => rfl
      rw [requests]
      refine connected.phase.task (fun fresh => network.tasks.step_fresh addrs now connection fresh unread) ?_
      intro done did
      rw [Bool.eq_false_iff]
      intro opens
      exact reading (network.tasks.deed_opens addrs now connection did opens)
  · obtain ⟨heard, told, known⟩ := connected.heard
    refine ⟨heard, ?_, known⟩
    rw [deeds, toldMessages_append, told, Tasks.told_deed, List.append_assoc]
    congr 1
    cases event <;> simp [taskStep]

/-- A step of the call on this connection. -/
theorem Connected.client (connected : network.Connected history message connection) {answers : SystemAnswers}
    {event : ConnectorEvent} (delivered : network.delivers (.client connection answers event)) :
    (network.clientStep windows now connection answers event).Connected history message connection := by
  have going (call : ConnectorCall) : event ≠ .call call := by
    rintro rfl
    exact delivered
  have moved := (network.clients connection).step_view (windows connection) now answers going
  have view : ((network.clientStep windows now connection answers event).clients connection).view =
      ((network.clients connection).step (windows connection) now answers event).view := by
    simp [clientStep]
  constructor
  · have requests : (network.clientStep windows now connection answers event).requests connection =
        network.requests connection ++ if event = .sent then (network.clients connection).view.sends.toList else [] := by
      cases event <;> simp [clientStep]
    rw [view, requests]
    exact connected.phase.client moved
  · obtain ⟨heard, told, known⟩ := connected.heard
    obtain ⟨hears, still⟩ := moved.hears known
    rw [view]
    by_cases reading : ∃ read, event = .received read
    · obtain ⟨read, rfl⟩ := reading
      obtain ⟨_, first⟩ := delivered
      refine ⟨heard ++ [read], ?_, hears read rfl⟩
      rw [told]
      have answers : (network.clientStep windows now connection answers (.received read)).answers connection =
          (network.answers connection).tail := by
        simp [clientStep]
      rw [answers, List.append_assoc, List.singleton_append, List.cons_head?_tail first]
    · have unread (read : ToNatClientMsg) : event ≠ .received read := fun same => reading ⟨read, same⟩
      refine ⟨heard, ?_, still unread⟩
      rw [told]
      cases event with
      | received read => exact absurd rfl (unread read)
      | _ => rfl

/-- A step of another call. -/
theorem Connected.otherClient (connected : network.Connected history message connection) {client : Nat}
    (other : connection ≠ client) (answers : SystemAnswers) (event : ConnectorEvent) :
    (network.clientStep windows now client answers event).Connected history message connection := by
  have clients : (network.clientStep windows now client answers event).clients connection =
      network.clients connection := by
    simp [clientStep, other]
  have requests : (network.clientStep windows now client answers event).requests connection =
      network.requests connection := by
    cases event <;> simp [clientStep, other]
  have same : (network.clientStep windows now client answers event).answers connection =
      network.answers connection := by
    cases event <;> simp [clientStep, other]
  constructor
  · rw [clients, requests]
    exact connected.phase
  · rw [clients, same]
    exact connected.heard

end TcpNetwork

/-- The call is one that sends this message. -/
def TcpClient.Asks (message : ToNatServerMsg) : TcpClient → Prop
  | .connector _ => ∃ call : ConnectorCall, call.message = message
  | .service run => run.message = message

theorem TcpClient.asks_of_view {client : TcpClient} {message : ToNatServerMsg}
    (connecting : client.view = .connecting message) : client.Asks message := by
  cases client with
  | connector run =>
      simp only [view] at connecting
      split at connecting
      · rename_i call deadline stage
        exact ⟨call, CallView.connecting.inj connecting⟩
      all_goals cases connecting
  | service run =>
      simp only [view] at connecting
      split at connecting
      · exact CallView.connecting.inj connecting
      all_goals cases connecting

theorem TcpClient.Asks.step {client : TcpClient} {message : ToNatServerMsg} (asks : client.Asks message)
    (windows : Bool) (now : Instant) (answers : SystemAnswers) (event : ConnectorEvent) :
    (client.step windows now answers event).Asks message := by
  cases client with
  | connector run => exact asks
  | service run =>
      change (run.step windows now answers (.answered event)).message = message
      rw [service_answered, ServiceRun.message, (keeps_answered windows now answers run event).2]
      exact asks

/-- A call that begins connects with its message. -/
theorem connecting_of_initial {windows : Bool} {client : TcpClient} (begins : (callMachine windows).initial client) :
    ∃ message, client.view = .connecting message := by
  obtain ⟨run, call, deadline, rfl, stage⟩ | ⟨run, deadline, rfl, stage⟩ := begins
  · exact ⟨call.message, by simp only [TcpClient.view, stage]⟩
  · exact ⟨run.message, by simp only [TcpClient.view, stage]⟩

theorem TcpNetwork.Connected.start {clients : Nat → TcpClient} {message : ToNatServerMsg} {connection : Nat}
    (connecting : (clients connection).view = .connecting message) :
    (TcpNetwork.start clients).Connected [] message connection := by
  constructor
  · change Phase message (clients connection).view.request [] [] .updating
    rw [connecting]
    exact .unsent _ trivial
  · refine ⟨[], rfl, ?_⟩
    change ((clients connection).view).known.From []
    rw [connecting]
    exact trivial

section Runs

variable {addrs : Nat → SocketAddr} {windows : Nat → Bool} {clients : Nat → TcpClient}
  {events : List (Instant × NetworkEvent)} {network : TcpNetwork}

/-- Every connection of a run. -/
theorem run_connected (ran : (networkMachine addrs windows).Run (.start clients) events network) {connection : Nat}
    {message : ToNatServerMsg} (connecting : (clients connection).view = .connecting message) :
    network.Connected (history addrs (serverEvents events)) message connection ∧
      (network.clients connection).Asks message := by
  induction ran with
  | nil => exact ⟨.start connecting, TcpClient.asks_of_view connecting⟩
  | @snoc events network event before allowed ih =>
      obtain ⟨connected, asks⟩ := ih
      obtain ⟨now, event⟩ := event
      rw [serverEvents_snoc]
      cases event with
      | task task taken =>
          have noted : history addrs (serverEvents events ++ serverEvents [(now, .task task taken)]) =
              history addrs (serverEvents events) ++
                noted now task (network.tasks.deed addrs now task taken) :=
            (run_tasks before).1.notes_snoc (Tasks.observe addrs) (now, task, taken)
          rw [noted]
          refine ⟨?_, asks⟩
          by_cases own : connection = task
          · subst own
            exact connected.task allowed.2
          · exact connected.other own taken
      | client client answers taken =>
          rw [show serverEvents [(now, NetworkEvent.client client answers taken)] = [] from rfl, List.append_nil]
          by_cases own : connection = client
          · subst own
            refine ⟨connected.client allowed.2, ?_⟩
            change (Function.update network.clients connection _ connection).Asks message
            rw [Function.update_self]
            exact asks.step (windows connection) now answers taken
          · refine ⟨connected.otherClient own answers taken, ?_⟩
            change (Function.update network.clients client _ connection).Asks message
            rw [Function.update_of_ne own]
            exact asks

end Runs

end RepriseP2p.Tcp
