/-
This file models `UdpQuicConnectionEstablisher`, which sets up a QUIC connection over each punched hole, and proves
which calls leave a peer active without a connection.
-/

import RepriseP2p.Udp.ClientAttempts

namespace RepriseP2p.Udp

variable {SigningKey DateTime Connection : Type}

inductive QuicError where
  | polling (error : PollError)
  | endpoint
  | handshake (isListener : Bool)
  deriving DecidableEq

structure QuicP2pConnection (Connection : Type) where
  quicConnection : Connection
  remotePubkey : PublicKey
  remoteAddr : SocketAddr
  deriving DecidableEq

abbrev QuicResult (Connection : Type) := Option (Except QuicError (QuicP2pConnection Connection))

/-- Where the wrapper waits. It makes an endpoint for the punched hole, and then it shakes hands. -/
inductive QuicStage (Connection : Type) where
  | idle (result : QuicResult Connection)
  | polling
  | making (conn : NewP2pConnection)
  | shaking (conn : NewP2pConnection)
  | panicked
  deriving DecidableEq

/-- What the world answers at an await of the wrapper, or a call between two of them. -/
inductive QuicEvent (DateTime Connection : Type) where
  | call (call : UdpConnectionEstablisher.Call)
  | pollAccept (interface : Option String) (utcNow : DateTime)
  | inner (event : ClientEvent DateTime)
  | intoStdFailed
  | made (ok : Bool)
  | shaken (connection : Option Connection)
  | dropped

structure QuicRun (SigningKey DateTime Connection : Type) where
  inner : ClientRun SigningKey DateTime
  stage : QuicStage Connection

namespace QuicRun

variable (crates : Crates SigningKey DateTime)

def start (establisher : UdpConnectionEstablisher SigningKey) : QuicRun SigningKey DateTime Connection :=
  ⟨.start establisher, .idle none⟩

/-- The wrapper goes on when the inner `poll_accept` has ended. -/
def settle (inner : ClientRun SigningKey DateTime) : QuicRun SigningKey DateTime Connection :=
  match inner.stage with
  | .idle none => ⟨inner, .idle none⟩
  | .idle (some (.error error)) => ⟨inner, .idle (some (.error (.polling error)))⟩
  | .idle (some (.ok conn)) => ⟨inner, .making conn⟩
  | .panicked => ⟨inner, .panicked⟩
  | _ => ⟨inner, .polling⟩

/-- The end of a set-up that failed. -/
def giveUp (now : Instant) (run : QuicRun SigningKey DateTime Connection) (conn : NewP2pConnection)
    (error : QuicError) : QuicRun SigningKey DateTime Connection :=
  ⟨run.inner.step crates now (.call (.onConnectionClosed conn.pubkey)), .idle (some (.error error))⟩

/-- One step of the wrapper. An event that does not fit the stage has no effect. -/
def step (now : Instant) (run : QuicRun SigningKey DateTime Connection) (event : QuicEvent DateTime Connection) :
    QuicRun SigningKey DateTime Connection :=
  match run.stage, event with
  | .idle _, .call call => { run with inner := run.inner.step crates now (.call call) }
  | .idle _, .pollAccept interface utcNow => settle (run.inner.step crates now (.pollAccept interface utcNow))
  | .polling, .inner event => settle (run.inner.step crates now event)
  | .polling, .dropped => ⟨run.inner.step crates now .dropped, .idle none⟩
  | .making _, .intoStdFailed => { run with stage := .panicked }
  | .making conn, .made true => { run with stage := .shaking conn }
  | .making conn, .made false => run.giveUp crates now conn .endpoint
  | .shaking conn, .shaken (some connection) =>
      { run with stage := .idle (some (.ok ⟨connection, conn.pubkey, conn.remoteAddr⟩)) }
  | .shaking conn, .shaken none => run.giveUp crates now conn (.handshake conn.isListener)
  | .making _, .dropped | .shaking _, .dropped => { run with stage := .idle none }
  | _, _ => run

/-- No call is in progress. -/
def Idle (run : QuicRun SigningKey DateTime Connection) : Prop := ∃ result, run.stage = .idle result

instance (run : QuicRun SigningKey DateTime Connection) : Decidable run.Idle :=
  match stage : run.stage with
  | .idle result => .isTrue ⟨result, stage⟩
  | .polling | .making _ | .shaking _ | .panicked => .isFalse fun ⟨_, idle⟩ => by cases stage.symm.trans idle

/-- The hole is punched, and the set-up of the QUIC connection is not finished. -/
def Connected (run : QuicRun SigningKey DateTime Connection) : Prop :=
  ∃ conn, run.stage = .making conn ∨ run.stage = .shaking conn

end QuicRun

/-- A wrapper takes any events at any times. -/
def quicMachine (crates : Crates SigningKey DateTime) :
    Machine (QuicRun SigningKey DateTime Connection) (Instant × QuicEvent DateTime Connection) where
  initial run := ∃ inner, (clientMachine crates).initial inner ∧ run = ⟨inner, .idle none⟩
  allowed _ _ := True
  next run event := run.step crates event.1 event.2

theorem quicMachine_run (crates : Crates SigningKey DateTime) (start : QuicRun SigningKey DateTime Connection)
    (events : List (Instant × QuicEvent DateTime Connection)) :
    (quicMachine crates).Run start events (events.foldl (quicMachine crates).next start) :=
  Machine.run_of_free (fun _ _ => trivial) _ _

/-- The client believes that it has a connection with the peer. -/
def ClientRun.Active (run : ClientRun SigningKey DateTime) (peer : PublicKey) : Prop :=
  ∃ state, run.establisher.trustedRemotes[peer]? = some state ∧ state.stateKind = .connectionActive

instance (run : ClientRun SigningKey DateTime) (peer : PublicKey) : Decidable (run.Active peer) :=
  decidable_of_iff (run.establisher.trustedRemotes[peer]?.any (·.stateKind = .connectionActive) = true)
    (by simp [ClientRun.Active, Option.any_eq_true])

section Active

variable {crates : Crates SigningKey DateTime} {run : ClientRun SigningKey DateTime} {peer : PublicKey}

theorem ClientRun.active_congr {other : ClientRun SigningKey DateTime}
    (same : other.establisher.trustedRemotes = run.establisher.trustedRemotes) :
    other.Active peer ↔ run.Active peer := by
  rw [Active, Active, same]

/-- No call makes a peer active, and feedback makes its peer inactive. -/
theorem ClientRun.active_of_call {call : UdpConnectionEstablisher.Call} {state : PeerState}
    (found : (run.establisher.call call).trustedRemotes[peer]? = some state)
    (active : state.stateKind = .connectionActive) : run.Active peer ∧ call ≠ .onConnectionClosed peer := by
  cases call with
  | addTrustedRemote key =>
      rw [UdpConnectionEstablisher.call, UdpConnectionEstablisher.addTrustedRemote_getElem?] at found
      refine ⟨?_, by simp⟩
      split_ifs at found with same
      · subst same
        cases before : run.establisher.trustedRemotes[key]? with
        | none =>
            rw [before] at found
            cases found
            cases active
        | some old =>
            rw [before] at found
            cases found
            exact ⟨_, before, active⟩
      · exact ⟨state, found, active⟩
  | removeTrustedRemote key =>
      rw [UdpConnectionEstablisher.call, UdpConnectionEstablisher.removeTrustedRemote_getElem?] at found
      split_ifs at found
      exact ⟨⟨state, found, active⟩, by simp⟩
  | setTrustedRemoteList keys =>
      rw [UdpConnectionEstablisher.call, UdpConnectionEstablisher.setTrustedRemoteList_getElem?] at found
      refine ⟨?_, by simp⟩
      split_ifs at found
      cases before : run.establisher.trustedRemotes[peer]? with
      | none =>
          rw [before] at found
          cases found
          cases active
      | some old =>
          rw [before] at found
          cases found
          exact ⟨_, before, active⟩
  | onConnectionClosed key =>
      rw [UdpConnectionEstablisher.call, UdpConnectionEstablisher.onConnectionClosed_getElem?] at found
      split_ifs at found with same
      · cases found
        cases active
      · refine ⟨⟨state, found, active⟩, ?_⟩
        intro closed
        cases closed
        exact same rfl

theorem ClientRun.active_of_punching {event : Instant × ClientEvent DateTime} {notification : Notification}
    {socket : UdpSocket} (punching : run.stage = .punching notification socket)
    (active : (run.step crates event.1 event.2).Active peer) : run.Active peer ∨ run.Returns crates peer event := by
  cases happened : event.2 with
  | punched outcome =>
      have finished := @step_punched _ _ crates run event _ _ _ punching happened
      rw [finished] at active
      obtain ⟨state, found, kind⟩ := active
      cases outcome with
      | ok addr =>
          simp only [finish, Std.ExtTreeMap.getElem?_modify, Std.LawfulEqCmp.compare_eq_iff_eq] at found
          split_ifs at found with same
          · refine .inr ⟨?_, ⟨notification.peerPubkey, addr, socket, notification.isListener⟩, ?_, same⟩
            · intro result idle
              rw [punching] at idle
              cases idle
            · rw [finished]
              rfl
          · exact .inl ⟨state, found, kind⟩
      | error error =>
          simp only [finish, Std.ExtTreeMap.getElem?_modify, Std.LawfulEqCmp.compare_eq_iff_eq] at found
          split_ifs at found
          · obtain ⟨old, _, rfl⟩ := Option.map_eq_some_iff.mp found
            cases kind
          · exact .inl ⟨state, found, kind⟩
  | _ =>
      simp only [step, punching, happened] at active
      exact .inl active

/-- Only the return of a connection makes a peer active. -/
theorem ClientRun.active_of_step {event : Instant × ClientEvent DateTime}
    (active : (run.step crates event.1 event.2).Active peer) :
    run.Active peer ∨ run.Returns crates peer event := by
  have taken := run.step_case crates event.1 event.2
  generalize outcome : run.step crates event.1 event.2 = next at taken active
  cases taken with
  | ignored => exact .inl active
  | called result call idle taken =>
      obtain ⟨state, found, kind⟩ := active
      exact .inl (active_of_call found kind).1
  | requested establisher utcNow peerPubkeys payload sameRemotes sameKey sameServer trusted encoded =>
      exact .inl ((active_congr sameRemotes).mp active)
  | quiet establisher stage sameRemotes sameKey sameServer calm => exact .inl ((active_congr sameRemotes).mp active)
  | sent payload sending => exact .inl active
  | accepted bytes random notification old receiving received parsed trusted enabled unseen =>
      obtain ⟨state, found, kind⟩ := active
      simp only [accept, Std.ExtTreeMap.getElem?_insert, Std.LawfulEqCmp.compare_eq_iff_eq] at found
      split_ifs at found with same
      · cases found
        exact .inl ⟨old, same ▸ trusted, kind⟩
      · exact .inl ⟨state, found, kind⟩
  | swapped notification socket random swapping => exact .inl active
  | finished notification socket result change punching keeps =>
      rw [← outcome] at active
      exact active_of_punching punching active

/-- The client attempts a peer that it attempted before, or one that is not active. -/
theorem ClientRun.attempts_of_step {event : Instant × ClientEvent DateTime}
    (attempts : (run.step crates event.1 event.2).stage.Attempts peer) :
    run.stage.Attempts peer ∨ ¬ run.Active peer := by
  have taken := run.step_case crates event.1 event.2
  generalize run.step crates event.1 event.2 = next at taken attempts
  obtain ⟨notification, about, stage⟩ := attempts
  cases taken with
  | ignored => exact .inl ⟨notification, about, stage⟩
  | called result call idle taken => exact .inl ⟨notification, about, stage⟩
  | requested establisher utcNow peerPubkeys payload sameRemotes sameKey sameServer trusted encoded =>
      obtain swapping | ⟨socket, punching⟩ := stage
      · cases swapping
      · cases punching
  | quiet establisher next sameRemotes sameKey sameServer calm =>
      obtain swapping | ⟨socket, punching⟩ := stage
      · exact absurd swapping (calm notification run.establisher.socket []).1
      · exact absurd punching (calm notification socket []).2.1
  | sent payload sending =>
      obtain swapping | ⟨socket, punching⟩ := stage
      · cases swapping
      · cases punching
  | accepted bytes random other state receiving received parsed trusted enabled unseen =>
      obtain swapping | ⟨socket, punching⟩ := stage
      · cases swapping
        refine .inr ?_
        rintro ⟨old, found, active⟩
        rw [← about, trusted] at found
        cases found
        have blocks : PeerStateKind.connectionActive.Blocks event.1 := trivial
        rw [blocks.not_enabled active] at enabled
        cases enabled
      · cases punching
  | swapped other socket random swapping =>
      obtain swapped | ⟨old, punching⟩ := stage
      · cases swapped
      · cases punching
        exact .inl ⟨notification, about, .inl swapping⟩
  | finished other socket result change punching keeps =>
      obtain swapping | ⟨old, punched⟩ := stage
      · cases swapping
      · cases punched

/-- A peer stays active that the client does not attempt and that the event does not free. -/
theorem ClientRun.Active.step {event : Instant × ClientEvent DateTime} (active : run.Active peer)
    (unattempted : ¬ run.stage.Attempts peer) (kept : ¬ run.Frees peer event) :
    (run.step crates event.1 event.2).Active peer := by
  have held : run.Held peer .connectionActive := ⟨active, unattempted⟩
  exact (@Held.step _ _ crates peer run event _ held trivial kept).kind

/-- A poll that started with these active peers has returned a connection with another peer, or it has made no peer
active and attempts no active peer. -/
def ClientRun.Polled (run : ClientRun SigningKey DateTime) (active : PublicKey → Prop) : Prop :=
  (∃ conn, run.stage = .idle (some (.ok conn)) ∧ ¬ active conn.pubkey ∧
    ∀ peer, run.Active peer ↔ active peer ∨ peer = conn.pubkey) ∨
  ((∀ conn, run.stage ≠ .idle (some (.ok conn))) ∧ (∀ peer, run.Active peer ↔ active peer) ∧
    ∀ peer, run.stage.Attempts peer → ¬ active peer)

theorem ClientRun.Polled.unreturned {active : PublicKey → Prop} (polled : run.Polled active)
    (other : ∀ conn, run.stage ≠ .idle (some (.ok conn))) (peer : PublicKey) : run.Active peer ↔ active peer := by
  obtain ⟨conn, idle, _⟩ | ⟨_, same, _⟩ := polled
  · exact absurd idle (other conn)
  · exact same peer

theorem ClientRun.polled_start (idle : ∃ result, run.stage = .idle result) (now : Instant)
    (interface : Option String) (utcNow : DateTime) :
    (run.step crates now (.pollAccept interface utcNow)).Polled run.Active ∧
      ∀ result, (run.step crates now (.pollAccept interface utcNow)).stage ≠ .idle result := by
  obtain ⟨old, idle⟩ := idle
  have unattempted (peer : PublicKey) : ¬ run.stage.Attempts peer := by
    rintro ⟨notification, _, swapping | ⟨socket, punching⟩⟩
    · cases idle.symm.trans swapping
    · cases idle.symm.trans punching
  have busy (result : PollResult) : (run.step crates now (.pollAccept interface utcNow)).stage ≠ .idle result := by
    simp only [step, idle]
    split_ifs
    · simp
    · exact placeRequests_busy crates now utcNow run result
  refine ⟨.inr ⟨fun conn => busy _, ?_, ?_⟩, busy⟩
  · intro peer
    constructor
    · intro active
      obtain before | ⟨running, _⟩ := @active_of_step _ _ crates run peer (now, .pollAccept interface utcNow) active
      · exact before
      · exact absurd idle (running old)
    · intro before
      refine @Active.step _ _ crates run peer (now, .pollAccept interface utcNow) before (unattempted peer) ?_
      rintro (⟨_, taken⟩ | ⟨_, taken⟩ | ⟨_, ⟨_, taken⟩, _⟩)
      all_goals cases taken
  · intro peer attempts
    exact (@attempts_of_step _ _ crates run peer (now, .pollAccept interface utcNow) attempts).resolve_left
      (unattempted peer)

theorem ClientRun.Polled.step {event : Instant × ClientEvent DateTime} {active : PublicKey → Prop}
    (polled : run.Polled active) (busy : ∀ result, run.stage ≠ .idle result) (trusts : run.AttemptsTrusted) :
    (run.step crates event.1 event.2).Polled active := by
  obtain ⟨conn, idle, _⟩ | ⟨_, same, fresh⟩ := polled
  · exact absurd idle (busy _)
  have kept (peer : PublicKey) (before : active peer) : (run.step crates event.1 event.2).Active peer := by
    refine Active.step ((same peer).mpr before) (fun attempts => fresh peer attempts before) ?_
    rintro (⟨⟨result, idle⟩, _⟩ | ⟨⟨result, idle⟩, _⟩ | ⟨_, ⟨⟨result, idle⟩, _⟩, _⟩)
    all_goals exact busy result idle
  by_cases returned : ∃ conn, (run.step crates event.1 event.2).stage = .idle (some (.ok conn))
  · obtain ⟨conn, ended⟩ := returned
    have returns : run.Returns crates conn.pubkey event := ⟨busy, conn, ended, rfl⟩
    obtain ⟨notification, socket, addr, punching, about, _⟩ := returns.punching
    refine .inl ⟨conn, ended, fresh _ ⟨notification, about, .inr ⟨socket, punching⟩⟩, ?_⟩
    intro peer
    constructor
    · intro now
      obtain before | ⟨_, other, again, rfl⟩ := active_of_step now
      · exact .inl ((same peer).mp before)
      · cases ended.symm.trans again
        exact .inr rfl
    · rintro (before | rfl)
      · exact kept peer before
      · exact (returns.held trusts).kind
  · rw [not_exists] at returned
    refine .inr ⟨returned, ?_, ?_⟩
    · intro peer
      constructor
      · intro now
        obtain before | ⟨_, conn, ended, _⟩ := active_of_step now
        · exact (same peer).mp before
        · exact absurd ended (returned conn)
      · exact kept peer
    · intro peer attempts
      obtain before | inactive := attempts_of_step attempts
      · exact fresh peer before
      · exact fun before => inactive ((same peer).mpr before)

end Active

namespace QuicRun

variable {crates : Crates SigningKey DateTime} {before run : QuicRun SigningKey DateTime Connection}

theorem settle_inner (inner : ClientRun SigningKey DateTime) :
    (settle inner : QuicRun SigningKey DateTime Connection).inner = inner := by
  unfold settle
  split <;> rfl

/-- The inner establisher of a run is one of a reachable client, and it runs exactly while the wrapper polls. -/
structure Sound (crates : Crates SigningKey DateTime) (run : QuicRun SigningKey DateTime Connection) : Prop where
  reachable : (clientMachine crates).Reachable run.inner
  busy : run.stage = .polling → ∀ result, run.inner.stage ≠ .idle result
  awake : run.stage = .polling → run.inner.stage ≠ .panicked
  quiet : run.stage ≠ .polling → run.stage ≠ .panicked → ∃ result, run.inner.stage = .idle result

theorem sound_of_idle {inner : ClientRun SigningKey DateTime} {stage : QuicStage Connection}
    (reachable : (clientMachine crates).Reachable inner) (idle : ∃ result, inner.stage = .idle result)
    (unpolled : stage ≠ .polling) : Sound crates ⟨inner, stage⟩ :=
  ⟨reachable, fun polling => absurd polling unpolled, fun polling => absurd polling unpolled, fun _ _ => idle⟩

theorem sound_settle {inner : ClientRun SigningKey DateTime} (reachable : (clientMachine crates).Reachable inner) :
    (settle inner : QuicRun SigningKey DateTime Connection).Sound crates := by
  refine ⟨by rwa [settle_inner], ?_, ?_, ?_⟩
  · intro polling result idle
    rw [settle_inner] at idle
    rcases result with _ | error | conn
    all_goals
      simp only [settle, idle] at polling
      cases polling
  · intro polling panicked
    rw [settle_inner] at panicked
    simp only [settle, panicked] at polling
    cases polling
  · intro unpolled unpanicked
    rw [settle_inner]
    cases stage : inner.stage with
    | idle result => exact ⟨result, rfl⟩
    | panicked => exact absurd (by simp only [settle, stage]) unpanicked
    | _ => exact absurd (by simp only [settle, stage]) unpolled

/-- Each peer that became active has a connection, and the call returned it. -/
def Backed (before after : QuicRun SigningKey DateTime Connection) : Prop :=
  ∀ peer, after.inner.Active peer → ¬ before.inner.Active peer →
    ∃ connection, after.stage = .idle (some (.ok connection)) ∧ connection.remotePubkey = peer

/-- What holds while a call is in progress that started in `before`. -/
def During (before run : QuicRun SigningKey DateTime Connection) : Prop :=
  match run.stage with
  | .polling => run.inner.Polled before.inner.Active
  | .making conn | .shaking conn => ¬ before.inner.Active conn.pubkey ∧
      ∀ peer, run.inner.Active peer ↔ before.inner.Active peer ∨ peer = conn.pubkey
  | .idle _ | .panicked => True

theorem during_settle {inner : ClientRun SigningKey DateTime} (polled : inner.Polled before.inner.Active) :
    before.During (settle inner) := by
  unfold settle
  split
  · trivial
  · trivial
  · rename_i conn idle
    obtain ⟨other, again, fresh⟩ | ⟨other, _⟩ := polled
    · cases idle.symm.trans again
      exact fresh
    · exact absurd idle (other conn)
  · trivial
  · exact polled

/-- A step is one of the inner establisher, or it leaves the inner establisher alone, or it gives up a connection. -/
inductive StepCase (crates : Crates SigningKey DateTime) (run : QuicRun SigningKey DateTime Connection)
    (event : Instant × QuicEvent DateTime Connection) : QuicRun SigningKey DateTime Connection → Prop where
  | ignored : StepCase crates run event run
  | called (result : QuicResult Connection) (call : UdpConnectionEstablisher.Call) (idle : run.stage = .idle result) :
      StepCase crates run event ⟨run.inner.step crates event.1 (.call call), run.stage⟩
  | started (result : QuicResult Connection) (interface : Option String) (utcNow : DateTime)
      (idle : run.stage = .idle result) :
      StepCase crates run event (settle (run.inner.step crates event.1 (.pollAccept interface utcNow)))
  | polled (taken : ClientEvent DateTime) (polling : run.stage = .polling) :
      StepCase crates run event (settle (run.inner.step crates event.1 taken))
  | cancelled (polling : run.stage = .polling) :
      StepCase crates run event ⟨run.inner.step crates event.1 .dropped, .idle none⟩
  | panicked (conn : NewP2pConnection) (making : run.stage = .making conn) :
      StepCase crates run event ⟨run.inner, .panicked⟩
  | made (conn : NewP2pConnection) (making : run.stage = .making conn) :
      StepCase crates run event ⟨run.inner, .shaking conn⟩
  | gaveUp (conn : NewP2pConnection) (error : QuicError)
      (connected : run.stage = .making conn ∨ run.stage = .shaking conn)
      (kept : event.2 ≠ .dropped) : StepCase crates run event (run.giveUp crates event.1 conn error)
  | established (conn : NewP2pConnection) (connection : Connection) (shaking : run.stage = .shaking conn)
      (kept : event.2 ≠ .dropped) :
      StepCase crates run event ⟨run.inner, .idle (some (.ok ⟨connection, conn.pubkey, conn.remoteAddr⟩))⟩
  | abandoned (conn : NewP2pConnection) (connected : run.stage = .making conn ∨ run.stage = .shaking conn)
      (dropped : event.2 = .dropped) : StepCase crates run event ⟨run.inner, .idle none⟩

theorem step_case (crates : Crates SigningKey DateTime) (run : QuicRun SigningKey DateTime Connection)
    (event : Instant × QuicEvent DateTime Connection) :
    run.StepCase crates event (run.step crates event.1 event.2) := by
  unfold step
  split
  · exact .called _ _ ‹_›
  · exact .started _ _ _ ‹_›
  · exact .polled _ ‹_›
  · exact .cancelled ‹_›
  · exact .panicked _ ‹_›
  · exact .made _ ‹_›
  · rename_i conn making failed
    exact .gaveUp conn _ (.inl making) (by simp [failed])
  · rename_i conn connection shaking shaken
    exact .established conn connection shaking (by simp [shaken])
  · rename_i conn shaking failed
    exact .gaveUp conn _ (.inr shaking) (by simp [failed])
  · exact .abandoned _ (.inl ‹_›) ‹_›
  · exact .abandoned _ (.inr ‹_›) ‹_›
  · exact .ignored

theorem Sound.idle (sound : run.Sound crates) (quiet : run.Idle ∨ run.Connected) :
    ∃ result, run.inner.stage = .idle result := by
  obtain ⟨result, idle⟩ | ⟨conn, making | shaking⟩ := quiet
  · exact sound.quiet (by simp [idle]) (by simp [idle])
  · exact sound.quiet (by simp [making]) (by simp [making])
  · exact sound.quiet (by simp [shaking]) (by simp [shaking])

theorem Sound.cancelled (sound : run.Sound crates) (polling : run.stage = .polling) (now : Instant) :
    (run.inner.step crates now .dropped).stage = .idle none := by
  have busy := sound.busy polling
  have awake := sound.awake polling
  cases stage : run.inner.stage with
  | idle result => exact absurd stage (busy result)
  | panicked => exact absurd stage awake
  | _ => simp only [ClientRun.step, stage]

theorem Sound.step (sound : run.Sound crates) (event : Instant × QuicEvent DateTime Connection) :
    (run.step crates event.1 event.2).Sound crates := by
  have next (taken : ClientEvent DateTime) :
      (clientMachine crates).Reachable (run.inner.step crates event.1 taken) :=
    @Machine.Reachable.next _ _ _ _ sound.reachable (event.1, taken) trivial
  have taken := run.step_case crates event
  generalize run.step crates event.1 event.2 = after at taken
  cases taken with
  | ignored => exact sound
  | called result call idle =>
      obtain ⟨old, quiet⟩ := sound.idle (.inl ⟨result, idle⟩)
      exact sound_of_idle (next _) ⟨old, by simp only [ClientRun.step, quiet]⟩ (by simp [idle])
  | started result interface utcNow idle => exact sound_settle (next _)
  | polled taken polling => exact sound_settle (next _)
  | cancelled polling => exact sound_of_idle (next _) ⟨none, sound.cancelled polling event.1⟩ (by simp)
  | panicked conn making => exact ⟨sound.reachable, by simp, by simp, fun _ again => absurd rfl again⟩
  | made conn making => exact sound_of_idle sound.reachable (sound.idle (.inr ⟨conn, .inl making⟩)) (by simp)
  | gaveUp conn error connected kept =>
      obtain ⟨old, quiet⟩ := sound.idle (.inr ⟨conn, connected⟩)
      exact sound_of_idle (next _) ⟨old, by simp only [ClientRun.step, quiet]⟩ (by simp)
  | established conn connection shaking kept =>
      exact sound_of_idle sound.reachable (sound.idle (.inr ⟨conn, .inr shaking⟩)) (by simp)
  | abandoned conn connected dropped =>
      exact sound_of_idle sound.reachable (sound.idle (.inr ⟨conn, connected⟩)) (by simp)

theorem sound_of_reachable (reachable : (quicMachine crates).Reachable run) : run.Sound crates := by
  apply reachable.invariant (Sound crates)
  · rintro start ⟨inner, initial, rfl⟩
    obtain ⟨_, _, _, _, _, _, rfl⟩ := initial
    exact sound_of_idle (.start ⟨_, _, _, _, _, _, rfl⟩) ⟨none, rfl⟩ (by simp)
  · intro run event _ sound _
    exact sound.step event

/-- A step within a call keeps what holds during the call. -/
theorem During.step {event : Instant × QuicEvent DateTime Connection} (during : before.During run)
    (sound : run.Sound crates) (busy : ¬ run.Idle) : before.During (run.step crates event.1 event.2) := by
  have taken := run.step_case crates event
  generalize run.step crates event.1 event.2 = after at taken
  cases taken with
  | ignored => exact during
  | called result call idle => exact absurd ⟨result, idle⟩ busy
  | started result interface utcNow idle => exact absurd ⟨result, idle⟩ busy
  | polled taken polling =>
      simp only [During, polling] at during
      apply during_settle
      exact @ClientRun.Polled.step _ _ crates run.inner (event.1, taken) _ during (sound.busy polling)
        (client_attemptsTrusted sound.reachable)
  | cancelled polling => trivial
  | panicked conn making => trivial
  | made conn making =>
      simp only [During, making] at during
      exact during
  | gaveUp conn error connected kept => trivial
  | established conn connection shaking kept => trivial
  | abandoned conn connected dropped => trivial

theorem during_of_run {mid : QuicRun SigningKey DateTime Connection}
    {events : List (Instant × QuicEvent DateTime Connection)} (ran : (quicMachine crates).Run run events mid)
    (inside : (quicMachine crates).Avoids run events fun state _ => state.Idle) (during : before.During run)
    (sound : run.Sound crates) : before.During mid ∧ mid.Sound crates := by
  apply ran.invariant_avoiding inside (fun state => before.During state ∧ state.Sound crates) ⟨during, sound⟩
  rintro state event ⟨during, sound⟩ busy
  exact ⟨during.step sound busy, sound.step event⟩

/-- A settled poll ends the call only when the poll returned no connection. -/
theorem settle_ended {inner : ClientRun SigningKey DateTime}
    (ended : (settle inner : QuicRun SigningKey DateTime Connection).Idle) (conn : NewP2pConnection) :
    inner.stage ≠ .idle (some (.ok conn)) := by
  intro idle
  obtain ⟨result, ended⟩ := ended
  simp only [settle, idle] at ended
  cases ended

/-- A set-up that failed makes its peer inactive again. -/
theorem giveUp_active {conn : NewP2pConnection} {now : Instant} {error : QuicError}
    (idle : ∃ result, run.inner.stage = .idle result)
    (fresh : ∀ peer, run.inner.Active peer ↔ before.inner.Active peer ∨ peer = conn.pubkey) {peer : PublicKey}
    (active : (run.giveUp crates now conn error).inner.Active peer) : before.inner.Active peer := by
  obtain ⟨result, idle⟩ := idle
  obtain ⟨state, found, kind⟩ := active
  simp only [giveUp, ClientRun.step, idle] at found
  obtain ⟨still, other⟩ := ClientRun.active_of_call found kind
  refine ((fresh peer).mp still).resolve_right ?_
  rintro rfl
  exact other rfl

theorem step_abandoned {event : Instant × QuicEvent DateTime Connection} (connected : run.Connected)
    (dropped : event.2 = .dropped) : run.step crates event.1 event.2 = ⟨run.inner, .idle none⟩ := by
  obtain ⟨conn, making | shaking⟩ := connected
  · simp only [step, making, dropped]
  · simp only [step, shaking, dropped]

theorem During.connected {conn : NewP2pConnection} (during : before.During run)
    (connected : run.stage = .making conn ∨ run.stage = .shaking conn) : ¬ before.inner.Active conn.pubkey ∧
      ∀ peer, run.inner.Active peer ↔ before.inner.Active peer ∨ peer = conn.pubkey := by
  obtain making | shaking := connected
  · simpa only [During, making] using during
  · simpa only [During, shaking] using during

/-- A call that is not abandoned makes a peer active only when it returns a connection with it. -/
theorem During.ended {event : Instant × QuicEvent DateTime Connection} (during : before.During run)
    (sound : run.Sound crates) (busy : ¬ run.Idle) (ended : (run.step crates event.1 event.2).Idle)
    (kept : ¬ (run.Connected ∧ event.2 = .dropped)) : before.Backed (run.step crates event.1 event.2) := by
  intro peer active fresh
  have polled (polling : run.stage = .polling) (taken : ClientEvent DateTime) :
      (run.inner.step crates event.1 taken).Polled before.inner.Active := by
    simp only [During, polling] at during
    exact @ClientRun.Polled.step _ _ crates run.inner (event.1, taken) _ during (sound.busy polling)
      (client_attemptsTrusted sound.reachable)
  have taken := run.step_case crates event
  generalize run.step crates event.1 event.2 = after at taken ended active
  cases taken with
  | ignored => exact absurd ended busy
  | called result call idle => exact absurd ⟨result, idle⟩ busy
  | started result interface utcNow idle => exact absurd ⟨result, idle⟩ busy
  | polled taken polling =>
      rw [settle_inner] at active
      exact absurd (((polled polling taken).unreturned (settle_ended ended) peer).mp active) fresh
  | cancelled polling =>
      have cancelled := sound.cancelled polling event.1
      exact absurd (((polled polling .dropped).unreturned (by simp [cancelled]) peer).mp active) fresh
  | panicked conn making =>
      obtain ⟨result, ended⟩ := ended
      cases ended
  | made conn making =>
      obtain ⟨result, ended⟩ := ended
      cases ended
  | gaveUp conn error connected kept =>
      exact absurd (giveUp_active (sound.idle (.inr ⟨conn, connected⟩)) (during.connected connected).2 active) fresh
  | established conn connection shaking kept =>
      obtain before | rfl := ((during.connected (.inr shaking)).2 peer).mp active
      · exact absurd before fresh
      · exact ⟨_, rfl, rfl⟩
  | abandoned conn connected dropped => exact absurd ⟨⟨conn, connected⟩, dropped⟩ kept

end QuicRun

/-- A call makes a peer active only together with its connection, exactly when the caller does not drop the call after
the hole punch and before the QUIC connection is set up. -/
theorem quic_no_lockout_iff (crates : Crates SigningKey DateTime)
    {before mid : QuicRun SigningKey DateTime Connection} (reachable : (quicMachine crates).Reachable before)
    (idle : before.Idle) (now : Instant) (interface : Option String) (utcNow : DateTime)
    {events : List (Instant × QuicEvent DateTime Connection)}
    (ran : (quicMachine crates).Run (before.step crates now (.pollAccept interface utcNow)) events mid)
    (inside : (quicMachine crates).Avoids (before.step crates now (.pollAccept interface utcNow)) events
      fun state _ => state.Idle)
    (busy : ¬ mid.Idle) (event : Instant × QuicEvent DateTime Connection)
    (ended : (mid.step crates event.1 event.2).Idle) :
    before.Backed (mid.step crates event.1 event.2) ↔ ¬ (mid.Connected ∧ event.2 = .dropped) := by
  have sound := QuicRun.sound_of_reachable reachable
  have started : before.During (before.step crates now (.pollAccept interface utcNow)) := by
    obtain ⟨result, stage⟩ := idle
    simp only [QuicRun.step, stage]
    exact QuicRun.during_settle (ClientRun.polled_start (sound.idle (.inl ⟨result, stage⟩)) now interface utcNow).1
  obtain ⟨during, soundMid⟩ := QuicRun.during_of_run ran inside started
    (sound.step (now, .pollAccept interface utcNow))
  constructor
  · rintro backed ⟨connected, dropped⟩
    rw [QuicRun.step_abandoned connected dropped] at backed
    obtain ⟨conn, connected⟩ := connected
    obtain ⟨inactive, active⟩ := during.connected connected
    obtain ⟨connection, returned, _⟩ := backed conn.pubkey ((active _).mpr (.inr rfl)) inactive
    cases returned
  · exact during.ended soundMid busy ended

/-- The wrapper of client 1 trusts client 2. -/
def sampleQuicIdle : QuicRun PublicKey UtcNanos Unit :=
  QuicRun.step plainCrates 0 ⟨sampleClient 1 11, .idle none⟩ (.call (.addTrustedRemote (sampleKey 2)))

theorem sampleQuicIdle_reachable : (quicMachine plainCrates).Reachable sampleQuicIdle :=
  ⟨_, _, ⟨sampleClient 1 11, ⟨_, _, _, _, _, _, rfl⟩, rfl⟩,
    quicMachine_run plainCrates ⟨sampleClient 1 11, .idle none⟩ [(0, .call (.addTrustedRemote (sampleKey 2)))]⟩

/-- Client 1 punches a hole to client 2 and makes its endpoint. -/
def sampleQuicSetUp : List (Instant × QuicEvent UtcNanos Unit) :=
  ((sampleConnection.drop 2).map fun event => (event.1, .inner event.2)) ++ [(0, .made true)]

/-- The wrapper shakes hands with client 2. -/
def sampleQuicShaking : QuicRun PublicKey UtcNanos Unit :=
  sampleQuicSetUp.foldl (quicMachine plainCrates).next
    (sampleQuicIdle.step plainCrates 0 (.pollAccept none (sampleUtc 0)))

/-- A handshake that fails leaves no peer active. -/
theorem quic_no_lockout_sample :
    sampleQuicIdle.Backed (sampleQuicShaking.step plainCrates 0 (.shaken none)) := by
  have ran := quicMachine_run plainCrates (sampleQuicIdle.step plainCrates 0 (.pollAccept none (sampleUtc 0)))
    sampleQuicSetUp
  apply (quic_no_lockout_iff plainCrates sampleQuicIdle_reachable (by decide +kernel) 0 none (sampleUtc 0) ran
    (Machine.avoids_of_checked (by decide +kernel)) (by decide +kernel) (0, .shaken none) (by decide +kernel)).mpr
  simp

/-- The caller drops the handshake. Client 2 stays active without a connection. -/
theorem quic_no_lockout_fails : ¬ ∀ (before mid : QuicRun PublicKey UtcNanos Unit) events event,
    (quicMachine plainCrates).Reachable before → before.Idle →
    (quicMachine plainCrates).Run (before.step plainCrates 0 (.pollAccept none (sampleUtc 0))) events mid →
    (quicMachine plainCrates).Avoids (before.step plainCrates 0 (.pollAccept none (sampleUtc 0))) events
      (fun state _ => state.Idle) →
    ¬ mid.Idle → (mid.step plainCrates 0 event).Idle → before.Backed (mid.step plainCrates 0 event) := by
  intro claim
  have backed := claim sampleQuicIdle sampleQuicShaking sampleQuicSetUp .dropped sampleQuicIdle_reachable
    (by decide +kernel) (quicMachine_run plainCrates _ sampleQuicSetUp)
    (Machine.avoids_of_checked (by decide +kernel)) (by decide +kernel) (by decide +kernel)
  obtain ⟨connection, returned, _⟩ := backed (sampleKey 2) (by decide +kernel) (by decide +kernel)
  have stage : (sampleQuicShaking.step plainCrates 0 .dropped).stage = .idle none := by decide +kernel
  cases stage.symm.trans returned

end RepriseP2p.Udp
