/-
This file proves that a client keeps at most one connection with a peer, waits after a failed hole punch, and accepts
no session of a peer twice in a row.
-/

import RepriseP2p.Udp.ClientTrust

namespace RepriseP2p.Udp

variable {SigningKey DateTime : Type}

/-- The event is a call between two polls. -/
def ClientRun.Calls (run : ClientRun SigningKey DateTime) (event : Instant × ClientEvent DateTime)
    (call : UdpConnectionEstablisher.Call) : Prop :=
  (∃ result, run.stage = .idle result) ∧ event.2 = .call call

/-- The event takes the peer off the trusted list. -/
def ClientRun.Removes (peer : PublicKey) (run : ClientRun SigningKey DateTime)
    (event : Instant × ClientEvent DateTime) : Prop :=
  run.Calls event (.removeTrustedRemote peer) ∨
    ∃ newTrustedRemotes, run.Calls event (.setTrustedRemoteList newTrustedRemotes) ∧ peer ∉ newTrustedRemotes

/-- The event allows a new attempt with the peer: its connection closed, or it was taken off the trusted list. -/
def ClientRun.Frees (peer : PublicKey) (run : ClientRun SigningKey DateTime)
    (event : Instant × ClientEvent DateTime) : Prop :=
  run.Calls event (.onConnectionClosed peer) ∨ run.Removes peer event

section Attempts

variable (crates : Crates SigningKey DateTime) (peer : PublicKey) (run : ClientRun SigningKey DateTime)
  (event : Instant × ClientEvent DateTime)

/-- The event ends a poll, and its result is a connection with the peer. -/
def ClientRun.Returns : Prop :=
  (∀ result, run.stage ≠ .idle result) ∧
    ∃ connection, (run.step crates event.1 event.2).stage = .idle (some (.ok connection)) ∧ connection.pubkey = peer

/-- The event is the end of a failed hole punch with the peer. -/
def ClientRun.Fails : Prop :=
  ∃ notification socket error, run.stage = .punching notification socket ∧ notification.peerPubkey = peer ∧
    event.2 = .punched (.error error)

/-- The event makes the client accept a notification about the peer. -/
def ClientRun.Accepts (notification : Notification) : Prop :=
  notification.peerPubkey = peer ∧ (run.step crates event.1 event.2).acts = run.acts ++ [.accepted notification]

/-- The event places a request that lists the peer, accepts a notification about it, starts a hole punch with it, or
returns a connection with it. -/
def ClientRun.Engages : Prop :=
  (∃ act, (run.step crates event.1 event.2).acts = run.acts ++ [act] ∧ act.Names peer) ∨
    (∃ notification socket, run.stage = .swapping notification ∧ notification.peerPubkey = peer ∧
      (run.step crates event.1 event.2).stage = .punching notification socket) ∨
    run.Returns crates peer event

end Attempts

/-- The client talks with the peer: it swaps the socket or punches a hole. -/
def Stage.Attempts (stage : Stage) (peer : PublicKey) : Prop :=
  ∃ notification, notification.peerPubkey = peer ∧
    (stage = .swapping notification ∨ ∃ socket, stage = .punching notification socket)

/-- The peer is trusted and not attempted, and its state is of this kind. -/
structure ClientRun.Held (run : ClientRun SigningKey DateTime) (peer : PublicKey) (kind : PeerStateKind) : Prop where
  kind : ∃ state, run.establisher.trustedRemotes[peer]? = some state ∧ state.stateKind = kind
  unattempted : ¬ run.stage.Attempts peer

/-- A kind of state in which the peer is not enabled at this time. -/
def PeerStateKind.Blocks (kind : PeerStateKind) (now : Instant) : Prop :=
  match kind with
  | .connectionActive => True
  | .enabled => False
  | .disabledUntil time => now ≤ time

theorem PeerStateKind.Blocks.not_enabled {kind : PeerStateKind} {now : Instant} (blocks : kind.Blocks now)
    {state : PeerState} (same : state.stateKind = kind) : state.isDiscoveryEnabled now = false := by
  subst same
  rw [PeerState.isDiscoveryEnabled]
  cases kind : state.stateKind with
  | connectionActive => rfl
  | enabled =>
      rw [kind] at blocks
      exact blocks.elim
  | disabledUntil time =>
      rw [kind] at blocks
      exact decide_eq_false (Nat.not_lt.mpr blocks)

/-- Placing a request does not end the poll. -/
theorem ClientRun.placeRequests_busy (crates : Crates SigningKey DateTime) (now : Instant) (utcNow : DateTime)
    (run : ClientRun SigningKey DateTime) (result : PollResult) :
    (run.placeRequests crates now utcNow).stage ≠ .idle result := by
  unfold placeRequests
  split_ifs
  · dsimp only
    split_ifs
    · simp
    · split <;> simp
  · simp

/-- A datagram does not end the poll with a connection. -/
theorem ClientRun.receive_not_returned (now : Instant) (src : SocketAddr) (bytes : List UInt8) (random : UInt32)
    (run : ClientRun SigningKey DateTime) (connection : NewP2pConnection) :
    (run.receive now src bytes random).stage ≠ .idle (some (.ok connection)) := by
  unfold receive
  split_ifs
  · simp
  · split
    · simp only [initiate]
      split
      · simp
      · split_ifs <;> simp
    · simp
    · simp
    · simp

/-- Only a hole punch that succeeds returns a connection. -/
theorem ClientRun.Returns.punching {crates : Crates SigningKey DateTime} {peer : PublicKey}
    {run : ClientRun SigningKey DateTime} {event : Instant × ClientEvent DateTime}
    (returned : run.Returns crates peer event) :
    ∃ notification socket addr, run.stage = .punching notification socket ∧ notification.peerPubkey = peer ∧
      event.2 = .punched (.ok addr) := by
  obtain ⟨busy, connection, ended, same⟩ := returned
  unfold step at ended
  split at ended
  · rename_i result call idle _
    exact absurd idle (busy result)
  · rename_i result _ _ idle _
    exact absurd idle (busy result)
  · exact absurd ended (placeRequests_busy _ _ _ _ _)
  · simp at ended
  · simp at ended
  · exact absurd ended (receive_not_returned _ _ _ _ _ _)
  · simp at ended
  · simp at ended
  · simp at ended
  · rename_i notification socket outcome punching taken
    cases outcome with
    | ok addr =>
        simp only [finish, Stage.idle.injEq, Option.some.injEq, Except.ok.injEq] at ended
        rw [← ended] at same
        exact ⟨notification, socket, addr, punching, same, taken⟩
    | error error => simp [finish] at ended
  · rename_i result idle _
    exact absurd idle (busy result)
  · rename_i panicked _
    rw [panicked] at ended
    cases ended
  · simp at ended
  · rw [ended] at busy
    exact absurd rfl (busy _)

/-- A call that does not free the peer keeps its state. -/
theorem ClientRun.call_keeps_state {peer : PublicKey} {run : ClientRun SigningKey DateTime}
    {event : Instant × ClientEvent DateTime} {call : UdpConnectionEstablisher.Call} {state : PeerState}
    (calls : run.Calls event call) (kept : ¬ run.Frees peer event)
    (found : run.establisher.trustedRemotes[peer]? = some state) :
    (run.establisher.call call).trustedRemotes[peer]? = some state := by
  cases call with
  | addTrustedRemote key =>
      rw [UdpConnectionEstablisher.call, UdpConnectionEstablisher.addTrustedRemote_getElem?]
      split_ifs with same
      · rw [same, found]
        rfl
      · exact found
  | removeTrustedRemote key =>
      have other : key ≠ peer := fun same => kept (.inr (.inl (same ▸ calls)))
      rw [UdpConnectionEstablisher.call, UdpConnectionEstablisher.removeTrustedRemote_getElem?, if_neg other, found]
  | setTrustedRemoteList keys =>
      have listed : peer ∈ keys := by
        by_contra unlisted
        exact kept (.inr (.inr ⟨keys, calls, unlisted⟩))
      rw [UdpConnectionEstablisher.call, UdpConnectionEstablisher.setTrustedRemoteList_getElem?, if_pos listed, found]
      rfl
  | onConnectionClosed key =>
      have other : key ≠ peer := fun same => kept (.inl (same ▸ calls))
      rw [UdpConnectionEstablisher.call, UdpConnectionEstablisher.onConnectionClosed_getElem?, if_neg other, found]

section Held

variable {crates : Crates SigningKey DateTime} {peer : PublicKey} {run : ClientRun SigningKey DateTime}
  {event : Instant × ClientEvent DateTime} {kind : PeerStateKind}

/-- An event that does not free the peer keeps it held. -/
theorem ClientRun.Held.step (held : run.Held peer kind) (blocks : kind.Blocks event.1) (kept : ¬ run.Frees peer event) :
    (run.step crates event.1 event.2).Held peer kind := by
  obtain ⟨⟨state, found, same⟩, unattempted⟩ := held
  have taken := run.step_case crates event.1 event.2
  generalize run.step crates event.1 event.2 = next at taken
  cases taken with
  | ignored => exact ⟨⟨state, found, same⟩, unattempted⟩
  | called result call idle taken =>
      exact ⟨⟨state, call_keeps_state ⟨⟨result, idle⟩, taken⟩ kept found, same⟩, unattempted⟩
  | requested establisher utcNow peerPubkeys payload sameRemotes sameKey sameServer trusted encoded =>
      refine ⟨⟨state, sameRemotes ▸ found, same⟩, ?_⟩
      rintro ⟨notification, _, swapping | ⟨socket, punching⟩⟩
      · cases swapping
      · cases punching
  | quiet establisher stage sameRemotes sameKey sameServer calm =>
      refine ⟨⟨state, sameRemotes ▸ found, same⟩, ?_⟩
      rintro ⟨notification, _, swapping | ⟨socket, punching⟩⟩
      · exact (calm notification run.establisher.socket []).1 swapping
      · exact (calm notification socket []).2.1 punching
  | sent payload sending =>
      refine ⟨⟨state, found, same⟩, ?_⟩
      rintro ⟨notification, _, swapping | ⟨socket, punching⟩⟩
      · cases swapping
      · cases punching
  | accepted bytes random notification other receiving received parsed trusted enabled unseen =>
      -- The notification is about another peer, because this one is not enabled.
      have differ : notification.peerPubkey ≠ peer := by
        intro equal
        rw [equal, found] at trusted
        cases trusted
        rw [blocks.not_enabled same] at enabled
        cases enabled
      refine ⟨⟨state, ?_, same⟩, ?_⟩
      · simp only [accept, Std.ExtTreeMap.getElem?_insert, Std.LawfulEqCmp.compare_eq_iff_eq, if_neg differ, found]
      · rintro ⟨attempted, about, swapping | ⟨socket, punching⟩⟩
        · cases swapping
          exact differ about
        · cases punching
  | swapped notification socket random swapping =>
      refine ⟨⟨state, found, same⟩, ?_⟩
      rintro ⟨attempted, about, swapped | ⟨other, punching⟩⟩
      · cases swapped
      · cases punching
        exact unattempted ⟨notification, about, .inl swapping⟩
  | finished notification socket result change punching keeps =>
      have differ : notification.peerPubkey ≠ peer :=
        fun about => unattempted ⟨notification, about, .inr ⟨socket, punching⟩⟩
      refine ⟨⟨state, ?_, same⟩, ?_⟩
      · simp only [Std.ExtTreeMap.getElem?_modify, Std.LawfulEqCmp.compare_eq_iff_eq, if_neg differ, found]
      · rintro ⟨attempted, _, swapping | ⟨other, stage⟩⟩
        · cases swapping
        · cases stage

/-- No event engages a peer that is held in a blocking state. -/
theorem ClientRun.Held.not_engages (held : run.Held peer kind) (blocks : kind.Blocks event.1) :
    ¬ run.Engages crates peer event := by
  obtain ⟨⟨state, found, same⟩, unattempted⟩ := held
  have disabled := blocks.not_enabled same
  rintro (⟨act, added, names⟩ | ⟨notification, socket, swapping, about, _⟩ | returned)
  · cases act with
    | called call => exact names
    | sent src payload => exact names
    | requested timestamp message =>
        obtain ⟨peerPubkeys, sessionId⟩ := message
        obtain ⟨other, there, enabled⟩ := step_requested_enabled crates event.1 run event.2 added names
        rw [found] at there
        cases there
        rw [disabled] at enabled
        cases enabled
    | accepted notification =>
        obtain ⟨other, there, enabled, _⟩ := (run.step_case crates event.1 event.2).of_accepted added
        rw [show notification.peerPubkey = peer from names, found] at there
        cases there
        rw [disabled] at enabled
        cases enabled
  · exact unattempted ⟨notification, about, .inl swapping⟩
  · obtain ⟨notification, socket, _, punching, about, _⟩ := returned.punching
    exact unattempted ⟨notification, about, .inr ⟨socket, punching⟩⟩

end Held

/-- The client attempts only peers that it trusts. -/
def ClientRun.AttemptsTrusted (run : ClientRun SigningKey DateTime) : Prop :=
  ∀ peer, run.stage.Attempts peer → peer ∈ run.establisher.trustedRemotes

theorem ClientRun.AttemptsTrusted.step {crates : Crates SigningKey DateTime} {now : Instant}
    {run next : ClientRun SigningKey DateTime} {event : ClientEvent DateTime} (trusts : run.AttemptsTrusted)
    (taken : run.StepCase crates now event next) : next.AttemptsTrusted := by
  intro peer
  rintro ⟨notification, about, stage⟩
  cases taken with
  | ignored => exact trusts peer ⟨notification, about, stage⟩
  | called result call idle taken =>
      obtain swapping | ⟨socket, punching⟩ := stage
      · cases idle.symm.trans swapping
      · cases idle.symm.trans punching
  | requested establisher utcNow peerPubkeys payload sameRemotes sameKey sameServer trusted encoded =>
      obtain swapping | ⟨socket, punching⟩ := stage
      · cases swapping
      · cases punching
  | quiet establisher next sameRemotes sameKey sameServer calm =>
      obtain swapping | ⟨socket, punching⟩ := stage
      · exact absurd swapping (calm notification run.establisher.socket []).1
      · exact absurd punching (calm notification socket []).2.1
  | sent payload sending =>
      obtain swapping | ⟨socket, punching⟩ := stage
      · cases swapping
      · cases punching
  | accepted bytes random other state receiving received parsed trusted enabled unseen =>
      obtain swapping | ⟨socket, punching⟩ := stage
      · cases swapping
        rw [accept, Std.ExtTreeMap.mem_insert, Std.LawfulEqCmp.compare_eq_iff_eq]
        exact .inl about
      · cases punching
  | swapped other socket random swapping =>
      obtain swapped | ⟨old, punching⟩ := stage
      · cases swapped
      · cases punching
        exact trusts peer ⟨notification, about, .inl swapping⟩
  | finished other socket result change punching keeps =>
      obtain swapping | ⟨old, punched⟩ := stage
      · cases swapping
      · cases punched

theorem client_attemptsTrusted {crates : Crates SigningKey DateTime} {run : ClientRun SigningKey DateTime}
    (reachable : (clientMachine crates).Reachable run) : run.AttemptsTrusted := by
  apply reachable.invariant ClientRun.AttemptsTrusted
  · rintro start ⟨key, p2pServerAddr, sessionId, addr, socketInterface, curInterface, rfl⟩ peer
    rintro ⟨notification, _, swapping | ⟨socket, punching⟩⟩
    · cases swapping
    · cases punching
  · intro run event _ trusts _
    exact trusts.step (run.step_case crates event.1 event.2)

section Ends

variable {crates : Crates SigningKey DateTime} {peer : PublicKey} {run : ClientRun SigningKey DateTime}
  {event : Instant × ClientEvent DateTime}

/-- The end of a hole punch changes only the state of its peer. -/
theorem ClientRun.finish_held {now : Instant} {notification : Notification} {socket : UdpSocket}
    {outcome : Except HolePunchError SocketAddr} {state : PeerState}
    (found : run.establisher.trustedRemotes[notification.peerPubkey]? = some state) :
    (run.finish now notification socket outcome).Held notification.peerPubkey
      (match outcome with
        | .ok _ => .connectionActive
        | .error _ => .disabledUntil (now + state.failureRetryTimeout)) := by
  have idle (result : PollResult) : ¬ (Stage.idle result).Attempts notification.peerPubkey := by
    rintro ⟨other, _, swapping | ⟨socket, punching⟩⟩
    · cases swapping
    · cases punching
  cases outcome with
  | ok addr =>
      refine ⟨⟨state.connected, ?_, rfl⟩, idle _⟩
      simp only [finish, Std.ExtTreeMap.getElem?_modify_self, found, Option.map_some]
  | error error =>
      refine ⟨⟨state.failed now, ?_, rfl⟩, idle _⟩
      simp only [finish, Std.ExtTreeMap.getElem?_modify_self, found, Option.map_some]

theorem ClientRun.step_punched {notification : Notification} {socket : UdpSocket}
    {outcome : Except HolePunchError SocketAddr} (punching : run.stage = .punching notification socket)
    (ended : event.2 = .punched outcome) :
    run.step crates event.1 event.2 = run.finish event.1 notification socket outcome := by
  rw [ended]
  simp only [step, punching]

/-- A returned connection holds its peer. -/
theorem ClientRun.Returns.held (returned : run.Returns crates peer event) (trusts : run.AttemptsTrusted) :
    (run.step crates event.1 event.2).Held peer .connectionActive := by
  obtain ⟨notification, socket, addr, punching, rfl, ended⟩ := returned.punching
  obtain ⟨state, found⟩ := Option.isSome_iff_exists.mp
    (Std.ExtTreeMap.mem_iff_isSome_getElem?.mp (trusts _ ⟨notification, rfl, .inr ⟨socket, punching⟩⟩))
  rw [step_punched punching ended]
  exact finish_held found

/-- A failed hole punch holds its peer until the retry timeout is over. -/
theorem ClientRun.Fails.held (failed : run.Fails peer event) (trusts : run.AttemptsTrusted) :
    ∃ state, run.establisher.trustedRemotes[peer]? = some state ∧
      (run.step crates event.1 event.2).Held peer (.disabledUntil (event.1 + state.failureRetryTimeout)) := by
  obtain ⟨notification, socket, error, punching, rfl, ended⟩ := failed
  obtain ⟨state, found⟩ := Option.isSome_iff_exists.mp
    (Std.ExtTreeMap.mem_iff_isSome_getElem?.mp (trusts _ ⟨notification, rfl, .inr ⟨socket, punching⟩⟩))
  rw [step_punched punching ended]
  exact ⟨state, found, finish_held found⟩

/-- The stored session of a trusted peer changes only when a notification about it is accepted. -/
theorem ClientRun.lastSession_step (trusted : ¬ run.Removes peer event)
    (unaccepted : ∀ notification, ¬ run.Accepts crates peer event notification) :
    (run.step crates event.1 event.2).establisher.lastSession peer = run.establisher.lastSession peer := by
  unfold Accepts at unaccepted
  have taken := run.step_case crates event.1 event.2
  generalize run.step crates event.1 event.2 = next at taken unaccepted
  cases taken with
  | ignored => rfl
  | called result call idle taken =>
      rw [run.establisher.lastSession_call call peer]
      cases call with
      | addTrustedRemote key => rfl
      | onConnectionClosed key => rfl
      | removeTrustedRemote key =>
          have other : key ≠ peer := fun same => trusted (.inl (same ▸ ⟨⟨result, idle⟩, taken⟩))
          exact if_neg other
      | setTrustedRemoteList keys =>
          have listed : peer ∈ keys := by
            by_contra unlisted
            exact trusted (.inr ⟨keys, ⟨⟨result, idle⟩, taken⟩, unlisted⟩)
          exact if_pos listed
  | requested establisher utcNow peerPubkeys payload sameRemotes sameKey sameServer trusted encoded =>
      rw [UdpConnectionEstablisher.lastSession, sameRemotes]
      rfl
  | quiet establisher stage sameRemotes sameKey sameServer calm =>
      rw [UdpConnectionEstablisher.lastSession, sameRemotes]
      rfl
  | sent payload sending => rfl
  | accepted bytes random notification state receiving received parsed trusted enabled unseen =>
      have differ : notification.peerPubkey ≠ peer := fun about => unaccepted notification ⟨about, rfl⟩
      simp only [UdpConnectionEstablisher.lastSession, accept, Std.ExtTreeMap.getElem?_insert,
        Std.LawfulEqCmp.compare_eq_iff_eq, if_neg differ]
  | swapped notification socket random swapping => rfl
  | finished notification socket result change punching keeps =>
      simp only [UdpConnectionEstablisher.lastSession, Std.ExtTreeMap.getElem?_modify]
      split_ifs with equal
      · rw [Std.LawfulEqCmp.compare_eq_iff_eq] at equal
        rw [equal, Option.bind_map]
        congr 1
        funext state
        exact keeps state
      · rfl

/-- Accepting a notification stores its session, which was not stored before. -/
theorem ClientRun.Accepts.lastSession {notification : Notification}
    (accepted : run.Accepts crates peer event notification) :
    run.establisher.lastSession peer ≠ some notification.remoteSessionId ∧
      (run.step crates event.1 event.2).establisher.lastSession peer = some notification.remoteSessionId := by
  obtain ⟨rfl, added⟩ := accepted
  obtain ⟨state, found, _, unseen, same⟩ := (run.step_case crates event.1 event.2).of_accepted added
  rw [same]
  constructor
  · rw [UdpConnectionEstablisher.lastSession, found]
    exact unseen
  · simp [UdpConnectionEstablisher.lastSession, accept]

end Ends

/-- A peer that the client returned a connection for is not engaged again before it is freed. A peer whose hole punch
failed is not engaged within its retry timeout unless it is freed. Two consecutive accepted notifications about a
peer that stays trusted carry different sessions. -/
theorem client_one_attempt (crates : Crates SigningKey DateTime) {run : ClientRun SigningKey DateTime}
    (reachable : (clientMachine crates).Reachable run) (peer : PublicKey) (event : Instant × ClientEvent DateTime) :
    let machine := clientMachine crates
    let next := machine.next run event
    (run.Returns crates peer event → ∀ events later, machine.Run next events later →
      machine.Avoids next events (ClientRun.Frees peer) → ∀ last, ¬ later.Engages crates peer last) ∧
    (run.Fails peer event → ∃ state, run.establisher.trustedRemotes[peer]? = some state ∧
      ∀ events later, machine.Run next events later →
        machine.Avoids next events (fun run between =>
          run.Frees peer between ∨ event.1 + state.failureRetryTimeout < between.1) →
        ∀ last, last.1 ≤ event.1 + state.failureRetryTimeout → ¬ later.Engages crates peer last) ∧
    ∀ notification, run.Accepts crates peer event notification → ∀ events later, machine.Run next events later →
      machine.Avoids next events (fun run between =>
        run.Removes peer between ∨ ∃ other, run.Accepts crates peer between other) →
      ∀ last other, later.Accepts crates peer last other → other.remoteSessionId ≠ notification.remoteSessionId := by
  have trusts := client_attemptsTrusted reachable
  refine ⟨?_, ?_, ?_⟩
  · intro returned events later ran avoids last
    have held : later.Held peer .connectionActive := by
      apply ran.invariant_avoiding avoids
      · exact returned.held trusts
      · intro state between held kept
        exact held.step trivial kept
    exact held.not_engages trivial
  · intro failed
    obtain ⟨state, found, start⟩ := @ClientRun.Fails.held _ _ crates _ _ _ failed trusts
    refine ⟨state, found, ?_⟩
    intro events later ran avoids last early
    have held : later.Held peer (.disabledUntil (event.1 + state.failureRetryTimeout)) := by
      apply ran.invariant_avoiding avoids
      · exact start
      · intro state between held kept
        obtain ⟨unfreed, inside⟩ := not_or.mp kept
        exact held.step (Nat.le_of_not_lt inside) unfreed
    exact held.not_engages early
  · intro notification accepted events later ran avoids last other again
    have kept : later.establisher.lastSession peer = some notification.remoteSessionId := by
      apply ran.invariant_avoiding avoids
      · exact accepted.lastSession.2
      · intro state between same good
        obtain ⟨trusted, unaccepted⟩ := not_or.mp good
        exact (ClientRun.lastSession_step trusted (not_exists.mp unaccepted)).trans same
    intro equal
    rw [← equal] at kept
    exact again.lastSession.1 kept

/-- The client has a connection with client 2, and three seconds later it polls again. -/
theorem client_one_attempt_sample :
    let run := sampleClientRun (sampleConnection.take 5)
    let event : Instant × ClientEvent UtcNanos := (0, .punched (.ok (.v4 (sampleAddr 2))))
    run.Returns plainCrates (sampleKey 2) event ∧
      ¬ ((clientMachine plainCrates).next run event).Engages plainCrates (sampleKey 2)
        (Duration.fromSecs 3, .pollAccept none (sampleUtc 3)) := by
  intro run event
  have punching : run.stage = .punching ⟨sampleKey 2, sampleAddr 2, 21, true⟩ ⟨sampleAddr 1, none⟩ := by
    decide +kernel
  have returned : run.Returns plainCrates (sampleKey 2) event := by
    refine ⟨?_, ⟨sampleKey 2, .v4 (sampleAddr 2), ⟨sampleAddr 1, none⟩, true⟩, ?_, rfl⟩
    · intro result idle
      cases punching.symm.trans idle
    · rw [ClientRun.step_punched punching rfl]
      rfl
  have reachable : (clientMachine plainCrates).Reachable run :=
    ⟨_, _, ⟨_, _, _, _, _, _, rfl⟩, sampleClientRun_run (sampleConnection.take 5)⟩
  refine ⟨returned, ?_⟩
  exact (client_one_attempt plainCrates reachable (sampleKey 2) event).1 returned [] _ .nil
    Machine.avoids_nil _

end RepriseP2p.Udp
