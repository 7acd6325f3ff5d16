/-
This file gives the state of a peer by what happened to the peer, and the times of its next attempts.
-/

import RepriseP2p.Udp.ClientTrust

namespace RepriseP2p.Udp

variable {SigningKey DateTime : Type}

/-- What happens to a peer of a client. -/
inductive PeerEvent where
  | trusted
  | removed
  | closed
  | accepted (remoteSessionId : UInt32)
  | connected
  | failed (now : Instant)
  deriving DecidableEq

def UdpConnectionEstablisher.Call.peerEvent (peer : PublicKey) : UdpConnectionEstablisher.Call → Option PeerEvent
  | .addTrustedRemote key => if key = peer then some .trusted else none
  | .removeTrustedRemote key => if key = peer then some .removed else none
  | .setTrustedRemoteList newTrustedRemotes =>
      some (if newTrustedRemotes.contains peer then .trusted else .removed)
  | .onConnectionClosed key => if key = peer then some .closed else none

/-- What a step of the client does to this peer. -/
def ClientRun.peerEvent (peer : PublicKey) (run : ClientRun SigningKey DateTime)
    (event : Instant × ClientEvent DateTime) : Option PeerEvent :=
  match run.stage, event.2 with
  | .idle _, .call call => call.peerEvent peer
  | .receiving, .received src bytes random =>
      match (run.receive event.1 src bytes random).stage with
      | .swapping notification =>
          if notification.peerPubkey = peer then some (.accepted notification.remoteSessionId) else none
      | _ => none
  | .punching notification _, .punched (.ok _) => if notification.peerPubkey = peer then some .connected else none
  | .punching notification _, .punched (.error _) =>
      if notification.peerPubkey = peer then some (.failed event.1) else none
  | _, _ => none

/-- The outcome of the last attempt, unless it is settled. -/
inductive PeerStanding where
  | waiting
  | connected
  | failed (tm : Instant)
  deriving DecidableEq

/-- What counts of the past of a peer: its standing, its failures in a row and the session that was accepted last. -/
structure PeerRecord where
  standing : PeerStanding
  failures : Nat
  session : Option UInt32
  deriving DecidableEq

/-- The milliseconds of the pause after this many earlier failures in a row. They double four times, and then they grow
by a second. -/
def retryPauseMs (failures : Nat) : Nat :=
  if failures ≤ 4 then 100 * 2 ^ failures else min 5000 (1600 + 1000 * (failures - 4))

def retryPause (failures : Nat) : Duration := Duration.fromMillis (retryPauseMs failures)

namespace PeerRecord

def new : PeerRecord := ⟨.waiting, 0, none⟩

/-- One more event in the past of a peer. A peer that is not trusted has no record. -/
def next (record : Option PeerRecord) : PeerEvent → Option PeerRecord
  | .trusted => some (record.getD new)
  | .removed => none
  | .closed => some { record.getD new with standing := .waiting }
  | .accepted remoteSessionId => record.map fun past => { past with session := some remoteSessionId }
  | .connected => record.map fun past => { past with standing := .connected, failures := 0 }
  | .failed tm => record.map fun past => { past with standing := .failed tm, failures := past.failures + 1 }

def ofEvents (events : List PeerEvent) : Option PeerRecord := events.foldl next none

/-- A pause after a failure is over, and there is no connection. -/
def Ready (record : PeerRecord) (now : Instant) : Prop :=
  match record.standing with
  | .waiting => True
  | .connected => False
  | .failed tm => tm + retryPause (record.failures - 1) < now

/-- The stored state of a peer with this past. -/
def state (record : PeerRecord) : PeerState where
  stateKind :=
    match record.standing with
    | .waiting => .enabled
    | .connected => .connectionActive
    | .failed tm => .disabledUntil (tm + retryPause (record.failures - 1))
  failureRetryTimeout := retryPause record.failures
  lastAcceptedSessionId := record.session

theorem ready_iff (record : PeerRecord) (now : Instant) :
    record.Ready now ↔ record.state.isDiscoveryEnabled now = true := by
  cases record with
  | mk standing failures session => cases standing <;> simp [Ready, state, PeerState.isDiscoveryEnabled]

theorem state_getD (record : Option PeerRecord) :
    (record.getD new).state = (record.map state).getD .default := by
  cases record <;> rfl

end PeerRecord

theorem retryPauseMs_succ (failures : Nat) :
    min (retryPauseMs failures + min (retryPauseMs failures) 1000) 5000 = retryPauseMs (failures + 1) := by
  by_cases few : failures ≤ 4
  · interval_cases failures <;> decide
  · have more : ¬ failures + 1 ≤ 4 := by omega
    rw [retryPauseMs, retryPauseMs, if_neg few, if_neg more]
    omega

/-- The stored timeout follows the pauses. -/
theorem retryPause_succ (failures : Nat) :
    min (retryPause failures + min (retryPause failures) (Duration.fromSecs 1))
      (Duration.fromMillis holePunchFailedMaxTimeoutMs) = retryPause (failures + 1) := by
  have grown := congrArg Duration.fromMillis (retryPauseMs_succ failures)
  simp only [Duration.fromMillis, ← Nat.mul_min_mul_right, Nat.add_mul] at grown
  exact grown

/-- No pause is longer than five seconds. -/
theorem retryPause_le (failures : Nat) : retryPause failures ≤ Duration.fromMillis holePunchFailedMaxTimeoutMs := by
  refine Nat.mul_le_mul_right _ ?_
  by_cases few : failures ≤ 4
  · interval_cases failures <;> decide
  · rw [retryPauseMs, if_neg few]
    exact Nat.min_le_left _ _

/-- Before every failure the pause is one step further. -/
theorem PeerRecord.state_failed (record : PeerRecord) (now : Instant) :
    PeerRecord.state { record with standing := .failed now, failures := record.failures + 1 } =
      record.state.failed now := by
  simp only [PeerRecord.state, PeerState.failed, retryPause_succ, Nat.add_sub_cancel]

section Step

variable {peer : PublicKey} {record : Option PeerRecord}

/-- The stored state of the peer is the one of its past. -/
def UdpConnectionEstablisher.Remembers (establisher : UdpConnectionEstablisher SigningKey) (peer : PublicKey)
    (record : Option PeerRecord) : Prop :=
  establisher.trustedRemotes[peer]? = record.map PeerRecord.state

theorem UdpConnectionEstablisher.Remembers.called {establisher : UdpConnectionEstablisher SigningKey}
    (remembers : establisher.Remembers peer record) (call : UdpConnectionEstablisher.Call) :
    (establisher.call call).Remembers peer ((call.peerEvent peer).elim record (PeerRecord.next record)) := by
  unfold Remembers at *
  cases call with
  | addTrustedRemote key =>
      rw [UdpConnectionEstablisher.call, addTrustedRemote_getElem?, Call.peerEvent]
      split_ifs with same
      · subst same
        simp [PeerRecord.next, PeerRecord.state_getD, remembers]
      · exact remembers
  | removeTrustedRemote key =>
      rw [UdpConnectionEstablisher.call, removeTrustedRemote_getElem?, Call.peerEvent]
      split_ifs with same
      · rfl
      · exact remembers
  | setTrustedRemoteList keys =>
      rw [UdpConnectionEstablisher.call, setTrustedRemoteList_getElem?, Call.peerEvent]
      simp only [List.contains_iff_mem]
      split_ifs with listed
      · simp [PeerRecord.next, PeerRecord.state_getD, remembers]
      · rfl
  | onConnectionClosed key =>
      rw [UdpConnectionEstablisher.call, onConnectionClosed_getElem?, Call.peerEvent]
      split_ifs with same
      · subst same
        rw [remembers, ← PeerRecord.state_getD]
        rfl
      · exact remembers

/-- A request changes no peer. -/
theorem ClientRun.placeRequests_remotes (crates : Crates SigningKey DateTime) (now : Instant) (utcNow : DateTime)
    (run : ClientRun SigningKey DateTime) :
    (run.placeRequests crates now utcNow).establisher.trustedRemotes = run.establisher.trustedRemotes := by
  obtain ⟨offset, list⟩ := run.establisher.newAvailableRemotesList_eq now
  simp only [ClientRun.placeRequests, list]
  split_ifs
  · rfl
  · split <;> rfl
  · rfl

/-- A datagram changes the peer that it is accepted for. -/
theorem ClientRun.receive_remembers (now : Instant) (src : SocketAddr) (bytes : List UInt8) (random : UInt32)
    {run : ClientRun SigningKey DateTime} (remembers : run.establisher.Remembers peer record)
    (receiving : run.stage = .receiving) :
    (run.receive now src bytes random).establisher.Remembers peer
      ((run.peerEvent peer (now, .received src bytes random)).elim record (PeerRecord.next record)) := by
  simp only [ClientRun.peerEvent, receiving]
  unfold UdpConnectionEstablisher.Remembers at *
  unfold ClientRun.receive
  split_ifs
  · exact remembers
  · split
    · rename_i peerPubkey peerAddress remoteSessionId isListener parsed
      simp only [ClientRun.initiate]
      cases trusted : run.establisher.trustedRemotes[peerPubkey]? with
      | none => exact remembers
      | some state =>
          dsimp only
          split_ifs with disabled repeated
          · exact remembers
          · exact remembers
          · by_cases same : peerPubkey = peer
            · subst same
              rw [trusted] at remembers
              obtain ⟨past, rfl, rfl⟩ := Option.map_eq_some_iff.mp remembers.symm
              simp [PeerRecord.next, PeerRecord.state]
            · simpa [Std.ExtTreeMap.getElem?_insert, same] using remembers
    · exact remembers
    · exact remembers
    · exact remembers

/-- The end of a hole punch changes the peer that it was for. -/
theorem ClientRun.finish_remembers (now : Instant) (notification : Notification) (socket : UdpSocket)
    (outcome : Except HolePunchError SocketAddr) {run : ClientRun SigningKey DateTime}
    (remembers : run.establisher.Remembers peer record) (punching : run.stage = .punching notification socket) :
    (run.finish now notification socket outcome).establisher.Remembers peer
      ((run.peerEvent peer (now, .punched outcome)).elim record (PeerRecord.next record)) := by
  unfold UdpConnectionEstablisher.Remembers at *
  cases outcome with
  | ok addr =>
      simp only [ClientRun.finish, ClientRun.peerEvent, punching, Std.ExtTreeMap.getElem?_modify,
        Std.LawfulEqCmp.compare_eq_iff_eq]
      split_ifs with same
      · subst same
        rw [remembers]
        cases record with
        | none => rfl
        | some past => rfl
      · exact remembers
  | error error =>
      simp only [ClientRun.finish, ClientRun.peerEvent, punching, Std.ExtTreeMap.getElem?_modify,
        Std.LawfulEqCmp.compare_eq_iff_eq]
      split_ifs with same
      · subst same
        rw [remembers]
        cases record with
        | none => rfl
        | some past => simp [PeerRecord.next, PeerRecord.state_failed]
      · exact remembers

/-- Every step changes the stored state of a peer as it changes its past. -/
theorem ClientRun.step_remembers (crates : Crates SigningKey DateTime) {run : ClientRun SigningKey DateTime}
    (remembers : run.establisher.Remembers peer record) (event : Instant × ClientEvent DateTime) :
    (run.step crates event.1 event.2).establisher.Remembers peer
      ((run.peerEvent peer event).elim record (PeerRecord.next record)) := by
  obtain ⟨now, taken⟩ := event
  cases stage : run.stage with
  | idle result =>
      cases taken with
      | call call => simpa only [ClientRun.step, ClientRun.peerEvent, stage] using remembers.called call
      | pollAccept interface utcNow =>
          simp only [ClientRun.step, ClientRun.peerEvent, stage]
          split_ifs
          · exact remembers
          · exact (congrArg (·[peer]?) (placeRequests_remotes crates now utcNow run)).trans remembers
      | _ => simpa only [ClientRun.step, ClientRun.peerEvent, stage, Option.elim_none] using remembers
  | rebinding interface =>
      cases taken with
      | rebound addr utcNow =>
          simp only [ClientRun.step, ClientRun.peerEvent, stage]
          exact (congrArg (·[peer]?) (placeRequests_remotes crates now utcNow _)).trans remembers
      | _ => simpa only [ClientRun.step, ClientRun.peerEvent, stage, Option.elim_none] using remembers
  | receiving =>
      cases taken with
      | received src bytes random =>
          have received := receive_remembers now src bytes random remembers stage
          simpa only [ClientRun.step, stage] using received
      | _ => simpa only [ClientRun.step, ClientRun.peerEvent, stage, Option.elim_none] using remembers
  | punching notification socket =>
      cases taken with
      | punched outcome =>
          have finished := finish_remembers now notification socket outcome remembers stage
          simpa only [ClientRun.step, stage] using finished
      | _ => simpa only [ClientRun.step, ClientRun.peerEvent, stage, Option.elim_none] using remembers
  | _ =>
      unfold UdpConnectionEstablisher.Remembers at *
      cases taken <;> simpa only [ClientRun.step, ClientRun.peerEvent, stage, Option.elim_none] using remembers

/-- A step that requests or accepts the peer finds it ready. -/
theorem ClientRun.ready_of_names (crates : Crates SigningKey DateTime) {run : ClientRun SigningKey DateTime}
    (remembers : run.establisher.Remembers peer record) {now : Instant} {event : ClientEvent DateTime}
    {act : ClientAct DateTime} (added : (run.step crates now event).acts = run.acts ++ [act]) (named : act.Names peer) :
    ∃ past, record = some past ∧ past.Ready now := by
  have enabled : ∃ state, run.establisher.trustedRemotes[peer]? = some state ∧ state.isDiscoveryEnabled now = true := by
    cases act with
    | called call => exact named.elim
    | requested timestamp message =>
        cases message with
        | connectionRequest peerPubkeys sessionId => exact step_requested_enabled crates now run event added named
    | sent src payload => exact named.elim
    | accepted notification =>
        obtain ⟨state, trusted, enabled, _⟩ := (step_case crates now run event).of_accepted added
        exact ⟨state, named ▸ trusted, enabled⟩
  obtain ⟨state, trusted, enabled⟩ := enabled
  obtain ⟨past, known, rfl⟩ := Option.map_eq_some_iff.mp (remembers.symm.trans trusted)
  exact ⟨past, known, (past.ready_iff now).mpr enabled⟩

end Step

theorem PeerRecord.ofEvents_append (events : List PeerEvent) (event : Option PeerEvent) :
    ofEvents (events ++ event.toList) = event.elim (ofEvents events) (next (ofEvents events)) := by
  cases event <;> simp [ofEvents]

theorem remembers_of_run {crates : Crates SigningKey DateTime} {start run : ClientRun SigningKey DateTime}
    {events : List (Instant × ClientEvent DateTime)} (initial : (clientMachine crates).initial start)
    (ran : (clientMachine crates).Run start events run) (peer : PublicKey) : run.establisher.Remembers peer
      (PeerRecord.ofEvents ((clientMachine crates).notes (ClientRun.peerEvent peer) start events)) := by
  refine ran.invariant_noted (fun run past => run.establisher.Remembers peer (PeerRecord.ofEvents past)) ?_ ?_
  · obtain ⟨key, p2pServerAddr, sessionId, addr, socketInterface, curInterface, rfl⟩ := initial
    exact Std.ExtTreeMap.getElem?_empty
  · intro run past event remembers allowed
    rw [PeerRecord.ofEvents_append]
    exact ClientRun.step_remembers crates remembers event

/-- In every run the stored state of a peer is the one of its own past: its failures in a row give the pause, and no
other peer matters. A client requests and accepts a peer only when the pause after its last failure is over and there
is no connection with it. -/
theorem peer_history (crates : Crates SigningKey DateTime) {start run : ClientRun SigningKey DateTime}
    {events : List (Instant × ClientEvent DateTime)} (initial : (clientMachine crates).initial start)
    (ran : (clientMachine crates).Run start events run) (peer : PublicKey) :
    ∃ past, past = PeerRecord.ofEvents ((clientMachine crates).notes (ClientRun.peerEvent peer) start events) ∧
      run.establisher.trustedRemotes[peer]? = past.map PeerRecord.state ∧
      ∀ now event act, (run.step crates now event).acts = run.acts ++ [act] → act.Names peer →
        ∃ record, past = some record ∧ record.Ready now := by
  have remembers := remembers_of_run initial ran peer
  exact ⟨_, rfl, remembers, fun now event act added named => ClientRun.ready_of_names crates remembers added named⟩

/-- Two hole punches with client 2 fail. -/
def sampleFailures : List (Instant × ClientEvent UtcNanos) :=
  let failed (tm : Instant) (session : UInt32) : List (Instant × ClientEvent UtcNanos) :=
    [(tm, .pollAccept none (sampleUtc 0)), (tm, .sent),
      (tm, .received (.v4 sampleServerAddr) (Notification.message ⟨sampleKey 2, sampleAddr 2, session, true⟩).toBytes 0),
      (tm, .swapped none (sampleAddr 3) 12), (tm, .punched (.error ⟨true, false⟩))]
  (0, .call (.addTrustedRemote (sampleKey 2))) :: failed 0 21 ++ failed (Duration.fromMillis 101) 22

theorem peer_history_sample : (sampleClientRun sampleFailures).establisher.trustedRemotes[sampleKey 2]? =
    some ⟨.disabledUntil (Duration.fromMillis 301), Duration.fromMillis 400, some 22⟩ := by
  obtain ⟨past, known, stored, _⟩ :=
    peer_history plainCrates ⟨_, _, _, _, _, _, rfl⟩ (sampleClientRun_run sampleFailures) (sampleKey 2)
  have failed : past = some ⟨.failed (Duration.fromMillis 101), 2, some 22⟩ := by
    rw [known]
    decide +kernel
  rw [stored, failed]
  rfl

end RepriseP2p.Udp
