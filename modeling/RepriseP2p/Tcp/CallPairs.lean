/-
This file proves that the calls that connect directly come in pairs of one connector and one service.
-/

import RepriseP2p.Tcp.Addresses
import RepriseP2p.Tcp.Network

namespace RepriseP2p.Tcp

open History

/-- The call counts down for this address, dials it, or has returned a stream to it. -/
def TcpClient.Reaches (addr : SocketAddr) (client : TcpClient) : Prop := client.view = .sent (.countdown addr)

/-- The service on one connection announced this session, and took and confirmed the request that the connector on the
other connection made for it. -/
def Matched (history : List (Instant × Nat × Deed)) (session : UInt64) (connector service : Nat) : Prop :=
  ∃ incoming requested dst taken confirmed, (requested, connector, .inserted session incoming.tx dst) ∈ history ∧
    (taken, service, .announced session (some incoming)) ∈ history ∧ (confirmed, service, .confirmed incoming) ∈ history

theorem deedsOf_split {history : List (Instant × Nat × Deed)} {task : Nat} {before after : List Deed} {deed : Deed}
    (split : deedsOf task history = before ++ deed :: after) :
    ∃ earlier now later, history = earlier ++ (now, task, deed) :: later ∧ deedsOf task earlier = before := by
  obtain ⟨earlier, rest, whole, front, back⟩ := List.filterMap_eq_append_iff.mp split
  obtain ⟨others, entry, later, rfl, none, found, _⟩ := List.filterMap_eq_cons_iff.mp back
  obtain ⟨now, owner, done⟩ := entry
  dsimp only at found
  split_ifs at found with own
  cases found
  refine ⟨earlier ++ others, now, later, by rw [whole, ← own, List.append_assoc], ?_⟩
  rw [deedsOf_append, show deedsOf task earlier = before from front, show deedsOf task others = [] from
    List.filterMap_eq_nil_iff.mpr none, List.append_nil]

/-- A task that sent two messages in this order sent the first before the second. -/
theorem told_split {deeds : List Deed} {first second : ToNatClientMsg}
    (told : [first, second].Sublist (toldMessages deeds)) :
    ∃ before after, deeds = before ++ .told second :: after ∧ .told first ∈ before := by
  obtain ⟨front, back, whole, early, late⟩ := List.cons_sublist_iff.mp told
  obtain ⟨earlier, later, rfl, rfl, rfl⟩ := List.filterMap_eq_append_iff.mp whole
  obtain ⟨between, after, rfl⟩ := List.append_of_mem (mem_toldMessages.mp (List.singleton_sublist.mp late))
  exact ⟨earlier ++ between, after, by simp, List.mem_append_left _ (mem_toldMessages.mp early)⟩

/-- Every countdown that a task starts is the same. -/
theorem StageStep.of_startCountdown {stage next : Stage} {deeds : List Deed} {duration : Duration}
    (moves : StageStep stage (some (.told (.startCountdown duration))) next) (before : stage.Since deeds) :
    .startCountdown duration = countdown := by
  generalize message : ToNatClientMsg.startCountdown duration = told at moves
  cases moves with
  | answered =>
      obtain ⟨clients, same⟩ | ⟨session, incoming, ⟨_, same⟩ | ⟨_, same⟩⟩ := before
      · cases same
        cases message
      · cases same
      · cases same
        rfl
  | answering _ next messages =>
      obtain ⟨clients, same⟩ | ⟨session, incoming, ⟨_, same⟩ | ⟨_, same⟩⟩ := before
      · cases same
      · cases same
        cases message
      · cases same
  | told => cases message
  | started => rfl

theorem told_countdown {addrs : Nat → SocketAddr} {events : List (Instant × Nat × TaskEvent)} {tasks : Tasks}
    (ran : (tasksMachine addrs).Run .start events tasks) {now : Instant} {task : Nat} {duration : Duration}
    (told : (now, task, .told (.startCountdown duration)) ∈ history addrs events) :
    .startCountdown duration = countdown := by
  induction ran with
  | nil => cases told
  | @snoc events tasks event before allowed ih =>
      rw [history, before.notes_snoc] at told
      obtain old | new := List.mem_append.mp told
      · exact ih old
      · have stepped := tasks.step_stepped addrs event.1 event.2.1 event.2.2
        obtain ⟨deed, did, same⟩ := Option.map_eq_some_iff.mp (Option.mem_toList.mp new)
        cases same
        have moves := stepped.moves
        rw [did] at moves
        exact moves.of_startCountdown ((history_explained before).1.since event.2.1)

theorem AnnouncedLast.announced {session : UInt64} {announcer : Nat} {history : List (Instant × Nat × Deed)}
    (last : AnnouncedLast session announcer history) :
    ∃ tm taken, (tm, announcer, .announced session taken) ∈ history := by
  obtain ⟨before, tm, taken, after, rfl, _⟩ := last
  exact ⟨tm, taken, List.mem_append_right before List.mem_cons_self⟩

/-- A task has one opening deed at most. -/
theorem Begins.unique {message : ToNatServerMsg} {deeds : List Deed} {first second : Deed}
    (begins : Begins message deeds) (there : first ∈ deeds) (again : second ∈ deeds) (firstOpens : first.opens = true)
    (secondOpens : second.opens = true) : first = second := by
  obtain ⟨before, after, split⟩ := List.append_of_mem there
  obtain ⟨other, rest, whole⟩ := List.append_of_mem again
  obtain rfl := begins.opening split firstOpens
  obtain rfl := begins.opening whole secondOpens
  exact (List.cons.inj (split.symm.trans whole)).1

theorem Phase.begins {message : ToNatServerMsg} {request : Option ToNatServerMsg} {queue : List ToNatServerMsg}
    {deeds : List Deed} {stage : Stage} (phase : Phase message request queue deeds stage) : Begins message deeds := by
  cases phase with
  | unsent => exact begins_nil
  | inFlight => exact begins_nil
  | handled deeds stage begins => exact begins

section Runs

variable {addrs : Nat → SocketAddr} {windows : Nat → Bool} {clients : Nat → TcpClient}
  {events : List (Instant × NetworkEvent)} {network : TcpNetwork}

/-- A call that may dial was told so by its task, which handled an announcement or a request. -/
theorem reaches_cases (ran : (networkMachine addrs windows).Run (.start clients) events network) {connection : Nat}
    {addr : SocketAddr} (reaches : (network.clients connection).Reaches addr) {message : ToNatServerMsg}
    (connecting : (clients connection).view = .connecting message) :
    (∃ data incoming, message = .announceAndCheck data ∧ incoming.addr = addr ∧
        .announced data.session (some incoming) ∈ deedsOf connection (history addrs (serverEvents events)) ∧
        .confirmed incoming ∈ deedsOf connection (history addrs (serverEvents events))) ∨
      ∃ session tx, message = .connectionRequest ⟨session⟩ ∧
        .inserted session tx addr ∈ deedsOf connection (history addrs (serverEvents events)) ∧
        .ended session tx true ∈ deedsOf connection (history addrs (serverEvents events)) := by
  obtain ⟨connected, _⟩ := run_connected ran connecting
  obtain ⟨tasksRan, _⟩ := run_tasks ran
  obtain ⟨heard, told, known⟩ := connected.heard
  rw [reaches] at known
  obtain ⟨duration, known⟩ := known
  obtain ⟨before, after, deeds, first⟩ := told_split (told ▸ known.trans (List.sublist_append_left heard _))
  obtain ⟨earlier, now, later, split, front⟩ := deedsOf_split deeds
  have begins := connected.phase.begins
  have started : ToNatClientMsg.startCountdown duration = countdown :=
    told_countdown tasksRan (split ▸ List.mem_append_right earlier List.mem_cons_self)
  rw [started] at split deeds
  obtain ⟨session, incoming, front', whole⟩ | ⟨session, rx, dst, front', whole⟩ :=
    (history_explained tasksRan).2.countdown earlier now connection later split
  · rw [front] at whole
    rw [← whole] at deeds first
    obtain rfl := begins.opening (deeds.trans (List.append_assoc _ _ _)) rfl
    obtain ⟨data, rfl, rfl⟩ := begins.replies (.announced session (some incoming)) (by simp [deeds])
    refine .inl ⟨data, incoming, rfl, ?_, by simp [deeds], by simp [deeds]⟩
    simpa [eq_comm] using first
  · rw [front] at whole
    rw [← whole] at deeds first
    obtain rfl := begins.opening (deeds.trans (List.append_assoc _ _ _)) rfl
    have asked : message = .connectionRequest ⟨session⟩ := begins.replies (.inserted session rx dst) (by simp [deeds])
    obtain rfl : addr = dst := by simpa using first
    exact .inr ⟨session, rx, asked, by simp [deeds], by simp [deeds]⟩

/-- A service that may dial was matched with one connector, whose call asked for its session, and it dials the address
of that connector. -/
theorem service_matched (ran : (networkMachine addrs windows).Run (.start clients) events network)
    (begins : ∀ client, (callMachine (windows client)).initial (clients client)) {service : Nat} {run : ServiceRun}
    {addr : SocketAddr} (calls : network.clients service = .service run)
    (reaches : (network.clients service).Reaches addr) :
    ∃ connector, addrs connector = addr ∧
      (clients connector).view = .connecting (.connectionRequest ⟨run.advData.session⟩) ∧
      Matched (history addrs (serverEvents events)) run.advData.session connector service ∧
      ∀ session other, Matched (history addrs (serverEvents events)) session other service → other = connector := by
  obtain ⟨message, connecting⟩ := connecting_of_initial (begins service)
  obtain ⟨connected, asks⟩ := run_connected ran connecting
  obtain ⟨explained, _⟩ := history_explained (run_tasks ran).1
  rw [calls] at asks
  obtain ⟨data, incoming, rfl, rfl, announced, confirmed⟩ | ⟨session, tx, rfl, _⟩ := reaches_cases ran reaches connecting
  · cases asks
    obtain ⟨taken, announced⟩ := mem_deedsOf.mp announced
    obtain ⟨confirming, confirmed⟩ := mem_deedsOf.mp confirmed
    obtain ⟨⟨tm, connector, dst, inserted, _, addr⟩, _⟩ := explained.taken _ _ _ _ announced
    refine ⟨connector, addr.symm, ?_, ⟨incoming, tm, dst, taken, confirming, inserted, announced, confirmed⟩, ?_⟩
    · obtain ⟨asked, view⟩ := connecting_of_initial (begins connector)
      have replies := (run_connected ran view).1.phase.begins.replies _ (mem_deedsOf.mpr ⟨tm, inserted⟩)
      rw [view, show asked = .connectionRequest ⟨run.advData.session⟩ from replies]
    · rintro session other ⟨rival, _, _, again, _, repeated, announcedAgain, _⟩
      have same := connected.phase.begins.unique (mem_deedsOf.mpr ⟨taken, announced⟩)
        (mem_deedsOf.mpr ⟨again, announcedAgain⟩) rfl rfl
      cases same
      exact congrArg (fun entry => entry.2.1) (explained.once.eq repeated inserted rfl rfl)
  · cases asks

/-- A connector that may dial was matched with one service of the session that it asked for. It dials the address where
that session was announced last before its request came, by a service too. -/
theorem connector_matched (ran : (networkMachine addrs windows).Run (.start clients) events network)
    (begins : ∀ client, (callMachine (windows client)).initial (clients client)) {connector : Nat} {run : ConnectorRun}
    {addr : SocketAddr} (calls : network.clients connector = .connector run)
    (reaches : (network.clients connector).Reaches addr) :
    ∃ session service partner, (clients connector).view = .connecting (.connectionRequest ⟨session⟩) ∧
      network.clients service = .service partner ∧ partner.advData.session = session ∧
      Matched (history addrs (serverEvents events)) session connector service ∧
      (∀ other rival, Matched (history addrs (serverEvents events)) other connector rival → rival = service) ∧
      ∃ earlier tm tx later announcer announcing,
        history addrs (serverEvents events) = earlier ++ (tm, connector, .inserted session tx addr) :: later ∧
        AnnouncedLast session announcer earlier ∧ addrs announcer = addr ∧
        network.clients announcer = .service announcing ∧ announcing.advData.session = session := by
  obtain ⟨message, connecting⟩ := connecting_of_initial (begins connector)
  obtain ⟨connected, asks⟩ := run_connected ran connecting
  obtain ⟨explained, _⟩ := history_explained (run_tasks ran).1
  rw [calls] at asks
  -- Only a service announces a session.
  have serves {task : Nat} {tm : Instant} {session : UInt64} {taken : Option IncomingConnection}
      (announced : (tm, task, .announced session taken) ∈ history addrs (serverEvents events)) :
      ∃ partner, network.clients task = .service partner ∧ partner.advData.session = session := by
    obtain ⟨asked, view⟩ := connecting_of_initial (begins task)
    obtain ⟨same, sends⟩ := run_connected ran view
    obtain ⟨data, rfl, rfl⟩ := same.phase.begins.replies _ (mem_deedsOf.mpr ⟨tm, announced⟩)
    cases client : network.clients task with
    | connector other =>
        rw [client] at sends
        obtain ⟨call, absurd⟩ := sends
        cases call <;> cases absurd
    | service partner =>
        rw [client] at sends
        cases sends
        exact ⟨partner, rfl, rfl⟩
  obtain ⟨data, incoming, rfl, _⟩ | ⟨session, tx, rfl, inserted, ended⟩ := reaches_cases ran reaches connecting
  · obtain ⟨call, absurd⟩ := asks
    cases call <;> cases absurd
  · obtain ⟨tm, inserted⟩ := mem_deedsOf.mp inserted
    obtain ⟨ending, ended⟩ := mem_deedsOf.mp ended
    have used := (explained.verdict _ _ _ _ _ ended).mp rfl
    obtain ⟨⟨confirming, service, deed⟩, confirmed, key⟩ := (explained.used tx).mpr used
    obtain ⟨incoming, rfl, rfl⟩ := Deed.key_confirming key
    obtain ⟨taking, other, taken⟩ := explained.confirmed _ _ _ confirmed
    obtain ⟨⟨_, _, _, again, _⟩, _⟩ := explained.taken _ _ _ _ taken
    cases explained.once.eq again inserted rfl rfl
    obtain ⟨partner, client, own⟩ := serves taken
    refine ⟨session, service, partner, connecting, client, own,
      ⟨incoming, tm, addr, taking, confirming, inserted, taken, confirmed⟩, ?_, ?_⟩
    · rintro other rival ⟨another, requested, _, _, _, repeated, _, confirmedAgain⟩
      have same := connected.phase.begins.unique (mem_deedsOf.mpr ⟨tm, inserted⟩)
        (mem_deedsOf.mpr ⟨requested, repeated⟩) rfl rfl
      simp only [Deed.inserted.injEq] at same
      exact congrArg (fun entry => entry.2.1)
        (explained.once.eq confirmedAgain confirmed rfl (by rw [← same.2.1]; rfl))
    · obtain ⟨earlier, later, split⟩ := List.append_of_mem inserted
      obtain ⟨announcer, last, same⟩ := (history_located (run_tasks ran).1).inserted _ _ _ _ _ _ _ split
      obtain ⟨announcedAt, latest, announced⟩ := last.announced
      obtain ⟨announcing, serving, named⟩ := serves (split ▸ List.mem_append_left _ announced)
      exact ⟨earlier, tm, incoming.tx, later, announcer, announcing, split, last, same, serving, named⟩

end Runs

def sampleSocket : ReusableTcpSocket := ⟨⟨unspecified, 5000⟩, some .new⟩

/-- Connection 1 is the call of a connector that asks for session 7. The others are calls of services with that session. -/
def sampleCalls (connection : Nat) : TcpClient :=
  if connection = 1 then .connector ⟨sampleSocket, .connecting (.connectClient 7) (Duration.fromSecs 10)⟩
  else .service ⟨sampleSocket, ⟨7, "app", "user"⟩, .connecting (Duration.fromSecs 10)⟩

theorem sampleCalls_begin (connection : Nat) : (callMachine false).initial (sampleCalls connection) := by
  unfold sampleCalls
  split_ifs
  · exact .inl ⟨_, _, _, rfl, rfl⟩
  · exact .inr ⟨_, _, rfl, rfl⟩

/-- The service of connection 0 announces its session. The connector of connection 1 asks for it. The service of
connection 2 announces it again and confirms, and both are told to start. -/
def samplePairing : List (Instant × NetworkEvent) :=
  let client (connection : Nat) (event : ConnectorEvent) : NetworkEvent :=
    .client connection (sampleAnswers 5001) event
  [client 0 .connected, client 0 .sent, .task 0 .update, .task 0 (.received (.announceAndCheck ⟨7, "app", "user"⟩)),
    client 1 .connected, client 1 .sent, .task 1 .update, .task 1 (.received (.connectionRequest ⟨7⟩)), .task 1 .sent,
    client 1 (.received (.remoteAddr (sampleTaskAddr 0))), client 2 .connected, client 2 .sent, .task 2 .update,
    .task 2 (.received (.announceAndCheck ⟨7, "app", "user"⟩)), .task 2 .confirm, .task 2 .sent, .task 2 .sent,
    client 2 (.received (.remoteAddr (sampleTaskAddr 1))), client 2 (.received countdown), .task 1 .woken,
    .task 1 .sent, client 1 (.received countdown)].map fun event => (0, event)

def sampleNetwork : TcpNetwork :=
  samplePairing.foldl (TcpNetwork.next sampleTaskAddr fun _ => false) (.start sampleCalls)

theorem sampleNetwork_run : (networkMachine sampleTaskAddr fun _ => false).Run (.start sampleCalls)
    ([] ++ samplePairing) sampleNetwork :=
  Machine.run_of_valid .nil (by decide +kernel)

theorem sampleNetwork_service : sampleNetwork.clients 2 = .service ⟨sampleSocket, ⟨7, "app", "user"⟩,
    .counting (sampleTaskAddr 1) (Duration.fromMillis scheduleConMs)⟩ := by
  decide +kernel

theorem sampleNetwork_connector : sampleNetwork.clients 1 = .connector ⟨sampleSocket,
    .counting (sampleTaskAddr 0) (Duration.fromMillis scheduleConMs)⟩ := by
  decide +kernel

/-- The service of connection 2 counts down for the address of the connector. -/
theorem service_matched_sample : ∃ connector, sampleTaskAddr connector = sampleTaskAddr 1 ∧
    (sampleCalls connector).view = .connecting (.connectionRequest ⟨7⟩) := by
  have reaches : (sampleNetwork.clients 2).Reaches (sampleTaskAddr 1) := by
    rw [sampleNetwork_service]
    rfl
  obtain ⟨connector, same, view, _⟩ :=
    service_matched sampleNetwork_run sampleCalls_begin sampleNetwork_service reaches
  exact ⟨connector, same, view⟩

/-- The connector counts down for the address of connection 0, although connection 2 confirmed. -/
theorem connector_matched_sample : ∃ session service partner,
    (sampleCalls 1).view = .connecting (.connectionRequest ⟨session⟩) ∧
      sampleNetwork.clients service = .service partner ∧ partner.advData.session = session := by
  have reaches : (sampleNetwork.clients 1).Reaches (sampleTaskAddr 0) := by
    rw [sampleNetwork_connector]
    rfl
  obtain ⟨session, service, partner, view, serves, own, _⟩ :=
    connector_matched sampleNetwork_run sampleCalls_begin sampleNetwork_connector reaches
  exact ⟨session, service, partner, view, serves, own⟩

end RepriseP2p.Tcp
