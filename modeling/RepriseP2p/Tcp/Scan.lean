/-
This file proves what a scan returns: the announcements that lived when the server handled it.
-/

import RepriseP2p.Tcp.CallPairs
import RepriseP2p.Tcp.RegistryHistory

namespace RepriseP2p.Tcp

/-- The operations of the tasks on the registry. -/
def registryOps (addrs : Nat → SocketAddr) (events : List (Instant × Nat × TaskEvent)) : List (Instant × RegistryOp) :=
  (tasksMachine addrs).notes (fun tasks event => tasks.registryOp addrs event.1 event.2.1 event.2.2) .start events

/-- The task is about to send this list. -/
def Stage.Lists (clients : List ClientAnnouncement) (stage : Stage) : Prop := stage = .answering [.clients clients]

/-- Only the handling of a scan leads to a list. -/
theorem StageStep.of_lists {stage next : Stage} {deed : Option Deed} {deeds : List Deed}
    {clients : List ClientAnnouncement} (moves : StageStep stage deed next) (before : stage.Since deeds)
    (lists : next.Lists clients) : stage.Lists clients ∨ stage = .receiving := by
  cases moves with
  | idle => exact .inl lists
  | listed others => exact .inr rfl
  | confirmed incoming => cases lists
  | answering message next messages =>
      cases lists
      obtain ⟨others, same⟩ | ⟨session, incoming, ⟨_, same⟩ | ⟨_, same⟩⟩ := before <;> cases same
  | ended session rx deadline ok =>
      cases ok with
      | true => cases lists
      | false => cases lists
  | _ => cases lists

/-- A list that is sent is the only message left. -/
theorem StageStep.of_told_clients {stage next : Stage} {deeds : List Deed} {clients : List ClientAnnouncement}
    (moves : StageStep stage (some (.told (.clients clients))) next) (before : stage.Since deeds) :
    stage.Lists clients := by
  generalize message : ToNatClientMsg.clients clients = told at moves
  cases moves with
  | answered =>
      subst message
      rfl
  | answering _ next messages =>
      subst message
      obtain ⟨others, same⟩ | ⟨session, incoming, ⟨_, same⟩ | ⟨_, same⟩⟩ := before <;> cases same
  | told => cases message
  | started => cases message

/-- A scan lists the registry. -/
theorem Tasks.receive_lists {addrs : Nat → SocketAddr} {now : Instant} {task : Nat} {tasks : Tasks} {event : TaskEvent}
    {clients : List ClientAnnouncement} (receiving : tasks.stages task = .receiving)
    (lists : ((tasks.step addrs now task event).stages task).Lists clients) :
    ∃ app, event = .received (.getClients app) ∧ clients = tasks.state.getClients app now := by
  cases event with
  | received message =>
      simp only [step, receiving] at lists
      cases message with
      | getClients app =>
          simp only [receive, Tasks.moveTo, Function.update_self, Stage.Lists, Stage.answering.injEq, List.cons.injEq,
            ToNatClientMsg.clients.injEq, and_true] at lists
          exact ⟨app, rfl, lists.symm⟩
      | announceAndCheck announce =>
          simp only [receive, Tasks.moveTo, Function.update_self, Stage.Lists] at lists
          split at lists <;> cases lists
      | connectionRequest request =>
          simp only [receive] at lists
          split at lists <;> simp [Tasks.moveTo, Stage.Lists] at lists
  | _ => simp [step, receiving, Tasks.moveTo, Stage.Lists] at lists

/-- A list that a task sends or is about to send is of the registry when the task read a scan. -/
theorem listing_read {addrs : Nat → SocketAddr} {events : List (Instant × Nat × TaskEvent)} {tasks : Tasks}
    (ran : (tasksMachine addrs).Run .start events tasks) {task : Nat} {clients : List ClientAnnouncement}
    (lists : (tasks.stages task).Lists clients ∨ .told (.clients clients) ∈ deedsOf task (history addrs events)) :
    ∃ earlier later tm app, events = earlier ++ (tm, task, .received (.getClients app)) :: later ∧
      clients = (State.after (registryOps addrs earlier)).getClients app tm := by
  induction ran with
  | nil =>
      obtain lists | told := lists
      · cases lists
      · cases told
  | @snoc events tasks event before allowed ih =>
      obtain ⟨now, owner, event⟩ := event
      have moves := (tasks.step_stepped addrs now owner event).moves
      have since := (history_explained before).1.since owner
      have grown (found : ∃ earlier later tm app, events = earlier ++ (tm, task, .received (.getClients app)) :: later ∧
          clients = (State.after (registryOps addrs earlier)).getClients app tm) :
          ∃ earlier later tm app, events ++ [(now, owner, event)] =
            earlier ++ (tm, task, .received (.getClients app)) :: later ∧
              clients = (State.after (registryOps addrs earlier)).getClients app tm := by
        obtain ⟨earlier, later, tm, app, rfl, same⟩ := found
        exact ⟨earlier, later ++ [(now, owner, event)], tm, app, by simp, same⟩
      obtain lists | told := lists
      · by_cases own : task = owner
        · subst own
          obtain old | receiving := moves.of_lists since lists
          · exact grown (ih (.inl old))
          · obtain ⟨app, rfl, same⟩ := Tasks.receive_lists receiving lists
            exact ⟨events, [], now, app, rfl, same.trans (by rw [Tasks.state_eq_after before]; rfl)⟩
        · have others := (tasks.step_stepped addrs now owner event).others task own
          exact grown (ih (.inl (others ▸ lists)))
      · rw [history, before.notes_snoc, deedsOf_append] at told
        obtain old | new := List.mem_append.mp told
        · exact grown (ih (.inr old))
        · obtain ⟨tm, member⟩ := mem_deedsOf.mp new
          obtain ⟨deed, did, same⟩ := Option.map_eq_some_iff.mp (Option.mem_toList.mp member)
          cases same
          rw [did] at moves
          exact grown (ih (.inl (moves.of_told_clients since)))

/-- An announcement in the registry is one that a task read, with the address of its client. -/
theorem announcement_read {addrs : Nat → SocketAddr} {events : List (Instant × Nat × TaskEvent)} {tm : Instant}
    {data : ClientAnnouncementData} {addr : SocketAddr}
    (announced : (tm, .announce data addr) ∈ registryOps addrs events) :
    ∃ announcer, addrs announcer = addr ∧ (tm, announcer, .received (.announceAndCheck data)) ∈ events := by
  obtain ⟨⟨now, task, event⟩, member, tasks, observed⟩ := Machine.exists_of_mem_notes announced
  unfold Tasks.registryOp at observed
  split at observed
  · cases observed
  · rename_i announce _ taken
    simp only at taken
    cases observed
    exact ⟨task, rfl, taken ▸ member⟩
  all_goals cases observed

/-- The queue of a connection holds its message at most. -/
theorem Phase.queued {message read : ToNatServerMsg} {request : Option ToNatServerMsg} {queue : List ToNatServerMsg}
    {deeds : List Deed} {stage : Stage} (phase : Phase message request queue deeds stage)
    (first : queue.head? = some read) : read = message := by
  cases phase with
  | inFlight =>
      cases first
      rfl
  | _ => cases first

section Runs

variable {addrs : Nat → SocketAddr} {windows : Nat → Bool} {clients : Nat → TcpClient}
  {events : List (Instant × NetworkEvent)} {network : TcpNetwork}

/-- A task reads only the message of its call. -/
theorem read_own (ran : (networkMachine addrs windows).Run (.start clients) events network)
    (begins : ∀ client, (callMachine (windows client)).initial (clients client)) {tm : Instant} {task : Nat}
    {message : ToNatServerMsg} (read : (tm, task, .received message) ∈ serverEvents events) :
    (clients task).view = .connecting message := by
  induction ran with
  | nil => cases read
  | @snoc events network event before allowed ih =>
      rw [serverEvents_snoc] at read
      obtain old | new := List.mem_append.mp read
      · exact ih old
      · obtain ⟨now, event⟩ := event
        cases event with
        | client => cases new
        | task owner taken =>
            cases List.mem_singleton.mp new
            obtain ⟨asked, connecting⟩ := connecting_of_initial (begins task)
            obtain ⟨_, first⟩ := allowed.2
            rw [(run_connected before connecting).1.phase.queued first]
            exact connecting

/-- A scan returns exactly the announcements that lived when its task read it, each session once. Each of them was made by
a service at the listed address. -/
theorem scan_returns (ran : (networkMachine addrs windows).Run (.start clients) events network)
    (begins : ∀ client, (callMachine (windows client)).initial (clients client)) {connection : Nat} {run : ConnectorRun}
    {listing : List ClientAnnouncement} (calls : network.clients connection = .connector run)
    (returned : run.stage = .idle (some (.clients (.ok listing)))) :
    ∃ earlier later tm,
      serverEvents events = earlier ++ (tm, connection, .received (.getClients "test_app")) :: later ∧
      (∀ client, client ∈ listing ↔ ∃ announced, Lives (registryOps addrs earlier) announced client.data client.addr ∧
        client.tmAgo = tm.elapsed announced) ∧
      (listing.map fun client => client.data.session).Nodup ∧
      ∀ client ∈ listing, ∃ announcer, addrs announcer = client.addr ∧
        (clients announcer).view = .connecting (.announceAndCheck client.data) := by
  obtain ⟨message, connecting⟩ := connecting_of_initial (begins connection)
  obtain ⟨connected, asks⟩ := run_connected ran connecting
  obtain ⟨heard, told, known⟩ := connected.heard
  have listed : .clients listing ∈ heard := by
    rw [calls, TcpClient.view, returned] at known
    exact known
  have sent : .told (.clients listing) ∈ deedsOf connection (history addrs (serverEvents events)) := by
    rw [← mem_toldMessages, told]
    exact List.mem_append_left _ listed
  obtain ⟨earlier, later, tm, app, split, rfl⟩ := listing_read (run_tasks ran).1 (.inr sent)
  have asked : CallView.connecting message = .connecting (.getClients app) := by
    rw [← connecting]
    exact read_own ran begins (split ▸ List.mem_append_right earlier List.mem_cons_self)
  cases asked
  obtain rfl : app = "test_app" := by
    rw [calls] at asks
    obtain ⟨call, same⟩ := asks
    cases call <;> cases same
    rfl
  refine ⟨earlier, later, tm, split, ?_, ?_, ?_⟩
  · exact State.mem_getClients_after (registryOps addrs earlier) "test_app" tm
  · rw [State.getClients_sessions]
    exact Std.ExtTreeMap.nodup_keys
  · intro client member
    obtain ⟨announced, lives, _⟩ := (State.mem_getClients_after _ _ _ client).mp member
    obtain ⟨announcer, same, read⟩ := announcement_read lives.announced
    exact ⟨announcer, same, read_own ran begins (split ▸ List.mem_append_left _ read)⟩

end Runs

def sampleListing : List ClientAnnouncement := [⟨⟨7, "app", "user"⟩, sampleTaskAddr 0, 0⟩]

/-- Connection 1 is the call of a connector that scans. -/
def sampleScanCalls (connection : Nat) : TcpClient :=
  if connection = 1 then .connector ⟨sampleSocket, .connecting .scanConnections (Duration.fromSecs 10)⟩
  else sampleCalls connection

theorem sampleScanCalls_begin (connection : Nat) : (callMachine false).initial (sampleScanCalls connection) := by
  unfold sampleScanCalls
  split_ifs
  · exact .inl ⟨_, _, _, rfl, rfl⟩
  · exact sampleCalls_begin connection

/-- The service of connection 0 announces its session before the scan. -/
def sampleScanning : List (Instant × NetworkEvent) :=
  let client (connection : Nat) (event : ConnectorEvent) : NetworkEvent :=
    .client connection (sampleAnswers 5001) event
  [client 0 .connected, client 0 .sent, .task 0 .update, .task 0 (.received (.announceAndCheck ⟨7, "app", "user"⟩)),
    client 1 .connected, client 1 .sent, .task 1 .update, .task 1 (.received (.getClients "test_app")), .task 1 .sent,
    client 1 (.received (.clients sampleListing))].map fun event => (0, event)

/-- The scan lists the service, although its application is another one. -/
theorem scan_returns_sample : ∃ announcer, sampleTaskAddr announcer = sampleTaskAddr 0 ∧
    (sampleScanCalls announcer).view = .connecting (.announceAndCheck ⟨7, "app", "user"⟩) := by
  have ran : (networkMachine sampleTaskAddr fun _ => false).Run (.start sampleScanCalls) ([] ++ sampleScanning) _ :=
    Machine.run_of_valid .nil (by decide +kernel)
  have calls : (sampleScanning.foldl (TcpNetwork.next sampleTaskAddr fun _ => false)
      (.start sampleScanCalls)).clients 1 =
        .connector ⟨sampleSocket, .idle (some (.clients (.ok sampleListing)))⟩ := by
    decide +kernel
  obtain ⟨earlier, later, tm, _, _, _, made⟩ := scan_returns ran sampleScanCalls_begin calls rfl
  exact made ⟨⟨7, "app", "user"⟩, sampleTaskAddr 0, 0⟩ List.mem_cons_self

end RepriseP2p.Tcp
