/-
This file lists what one step of a client can do.
-/

import RepriseP2p.Udp.Poll
import RepriseP2p.Udp.RequestGrammar

namespace RepriseP2p.Udp

namespace ClientRun

variable {SigningKey DateTime : Type} (crates : Crates SigningKey DateTime)

/-- The client after it accepted a notification about a trusted peer. -/
def accept (run : ClientRun SigningKey DateTime) (notification : Notification) (state : PeerState) :
    ClientRun SigningKey DateTime where
  establisher :=
    let state := { state with lastAcceptedSessionId := some notification.remoteSessionId }
    { run.establisher with
      trustedRemotes := run.establisher.trustedRemotes.insert notification.peerPubkey state }
  stage := .swapping notification
  acts := run.acts ++ [.accepted notification]

/-- The outcomes of one step. Most of them leave the trusted peers, the key and the history alone. -/
inductive StepCase (now : Instant) (run : ClientRun SigningKey DateTime) (event : ClientEvent DateTime) :
    ClientRun SigningKey DateTime → Prop where
  | ignored : StepCase now run event run
  | called (result : PollResult) (call : UdpConnectionEstablisher.Call) (idle : run.stage = .idle result)
      (taken : event = .call call) :
      StepCase now run event
        { run with establisher := run.establisher.call call, acts := run.acts ++ [.called call] }
  | requested (establisher : UdpConnectionEstablisher SigningKey) (utcNow : DateTime) (peerPubkeys : List PublicKey)
      (payload : List UInt8) (sameRemotes : establisher.trustedRemotes = run.establisher.trustedRemotes)
      (sameKey : establisher.key = run.establisher.key)
      (sameServer : establisher.p2pServerAddr = run.establisher.p2pServerAddr)
      (trusted : ∀ peer ∈ peerPubkeys, peer ∈ run.establisher.trustedRemotes)
      (encoded : (ToServerSignedMessage.connectionRequest peerPubkeys establisher.sessionId).toBytes crates
        establisher.key utcNow = .ok payload) :
      StepCase now run event ⟨establisher, .sending payload,
        run.acts ++ [.requested utcNow (.connectionRequest peerPubkeys establisher.sessionId)]⟩
  | quiet (establisher : UdpConnectionEstablisher SigningKey) (stage : Stage)
      (sameRemotes : establisher.trustedRemotes = run.establisher.trustedRemotes)
      (sameKey : establisher.key = run.establisher.key)
      (sameServer : establisher.p2pServerAddr = run.establisher.p2pServerAddr)
      (calm : ∀ notification socket payload, stage ≠ .swapping notification ∧
        stage ≠ .punching notification socket ∧ stage ≠ .sending payload) :
      StepCase now run event ⟨establisher, stage, run.acts⟩
  | sent (payload : List UInt8) (sending : run.stage = .sending payload) :
      StepCase now run event ⟨{ run.establisher with lastRequestTm := some now }, .receiving,
        run.acts ++ [.sent run.establisher.socket.addr payload]⟩
  | accepted (bytes : List UInt8) (random : UInt32) (notification : Notification) (state : PeerState)
      (receiving : run.stage = .receiving)
      (received : event = .received (.v4 run.establisher.p2pServerAddr) bytes random)
      (parsed : FromServerMessage.tryParse bytes = .ok notification.message)
      (trusted : run.establisher.trustedRemotes[notification.peerPubkey]? = some state)
      (enabled : state.isDiscoveryEnabled now = true)
      (unseen : state.lastAcceptedSessionId ≠ some notification.remoteSessionId) :
      StepCase now run event (run.accept notification state)
  | swapped (notification : Notification) (socket : UdpSocket) (random : UInt32)
      (swapping : run.stage = .swapping notification) :
      StepCase now run event ⟨{ run.establisher with socket := socket, sessionId := random },
        .punching notification run.establisher.socket, run.acts⟩
  | finished (notification : Notification) (socket : UdpSocket) (result : PollResult) (change : PeerState → PeerState)
      (punching : run.stage = .punching notification socket)
      (keeps : ∀ state, (change state).lastAcceptedSessionId = state.lastAcceptedSessionId) :
      StepCase now run event ⟨{ run.establisher with
          trustedRemotes := run.establisher.trustedRemotes.modify notification.peerPubkey change
          lastRequestTm := none }, .idle result, run.acts⟩

/-- Signing a request or finding no reason for one. -/
theorem placeRequests_case (now : Instant) (utcNow : DateTime) (run base : ClientRun SigningKey DateTime)
    (event : ClientEvent DateTime) (sameActs : base.acts = run.acts)
    (sameRemotes : base.establisher.trustedRemotes = run.establisher.trustedRemotes)
    (sameKey : base.establisher.key = run.establisher.key)
    (sameServer : base.establisher.p2pServerAddr = run.establisher.p2pServerAddr) :
    StepCase crates now run event (base.placeRequests crates now utcNow) := by
  obtain ⟨offset, list⟩ := base.establisher.newAvailableRemotesList_eq now
  simp only [placeRequests, list]
  rw [sameActs]
  split_ifs
  · exact .quiet _ _ sameRemotes sameKey sameServer (by simp)
  · split
    · rename_i payload encoded
      refine .requested _ utcNow _ payload sameRemotes sameKey sameServer (fun peer member => ?_) encoded
      rw [← sameRemotes]
      exact (base.establisher.availableRemotes_trusted now).2 peer member
    · exact .quiet _ _ sameRemotes sameKey sameServer (by simp)
  · exact .quiet _ _ sameRemotes sameKey sameServer (by simp)

/-- Accepting a datagram or dropping it. -/
theorem receive_case (now : Instant) (src : SocketAddr) (bytes : List UInt8) (random : UInt32)
    (run : ClientRun SigningKey DateTime) (receiving : run.stage = .receiving) :
    StepCase crates now run (.received src bytes random) (run.receive now src bytes random) := by
  unfold receive
  split_ifs with foreign
  · exact .quiet _ _ rfl rfl rfl (by simp)
  · rw [not_not] at foreign
    subst foreign
    split
    · rename_i peerPubkey peerAddress remoteSessionId isListener parsed
      simp only [initiate]
      split
      · exact .quiet _ _ rfl rfl rfl (by simp)
      · rename_i state trusted
        split_ifs with disabled repeated
        · exact .quiet _ _ rfl rfl rfl (by simp)
        · exact .quiet _ _ rfl rfl rfl (by simp)
        · exact .accepted bytes random ⟨peerPubkey, peerAddress, remoteSessionId, isListener⟩ state receiving rfl
            parsed trusted (by simpa using disabled) repeated
    · exact .quiet _ _ rfl rfl rfl (by simp)
    · exact .quiet _ _ rfl rfl rfl (by simp)
    · exact .quiet _ _ rfl rfl rfl (by simp)

theorem finish_case (now : Instant) (notification : Notification) (socket : UdpSocket)
    (outcome : Except HolePunchError SocketAddr) (run : ClientRun SigningKey DateTime) (event : ClientEvent DateTime)
    (punching : run.stage = .punching notification socket) :
    StepCase crates now run event (run.finish now notification socket outcome) := by
  cases outcome with
  | ok addr => exact .finished notification socket _ _ punching fun _ => rfl
  | error error => exact .finished notification socket _ _ punching fun _ => rfl

/-- Every step is one of the listed outcomes. -/
theorem step_case (now : Instant) (run : ClientRun SigningKey DateTime) (event : ClientEvent DateTime) :
    StepCase crates now run event (run.step crates now event) := by
  unfold step
  split
  · rename_i result call idle
    exact .called result call idle rfl
  · split_ifs
    · exact .quiet _ _ rfl rfl rfl (by simp)
    · exact placeRequests_case crates now _ run run _ rfl rfl rfl rfl
  · exact placeRequests_case crates now _ run _ _ rfl rfl rfl rfl
  · exact .quiet _ _ rfl rfl rfl (by simp)
  · rename_i payload sending
    exact .sent payload sending
  · rename_i src bytes random receiving
    exact receive_case crates now src bytes random run receiving
  · exact .quiet _ _ rfl rfl rfl (by simp)
  · exact .quiet _ _ rfl rfl rfl (by simp)
  · rename_i notification interface addr random swapping
    exact .swapped notification ⟨addr, interface⟩ random swapping
  · rename_i notification socket outcome punching
    exact finish_case crates now notification socket outcome run _ punching
  · exact .ignored
  · exact .ignored
  · exact .quiet _ _ rfl rfl rfl (by simp)
  · exact .ignored

/-- What a client did just before it recorded this act. -/
def Caused (run : ClientRun SigningKey DateTime) (event : ClientEvent DateTime) : ClientAct DateTime → Prop
  | .called call => event = .call call
  | .requested utcNow message => ∃ payload, message.toBytes crates run.establisher.key utcNow = .ok payload
  | .sent src payload => src = run.establisher.socket.addr ∧ run.stage = .sending payload
  | .accepted notification => ∃ bytes random, event = .received (.v4 run.establisher.p2pServerAddr) bytes random ∧
      FromServerMessage.tryParse bytes = .ok notification.message

/-- A step adds at most one act. -/
theorem StepCase.acts_snoc {crates : Crates SigningKey DateTime} {now : Instant}
    {run next : ClientRun SigningKey DateTime} {event : ClientEvent DateTime}
    (taken : StepCase crates now run event next) :
    next.acts = run.acts ∨ ∃ act, next.acts = run.acts ++ [act] ∧ run.Caused crates event act := by
  cases taken with
  | ignored => exact .inl rfl
  | called result call idle taken => exact .inr ⟨_, rfl, taken⟩
  | requested establisher utcNow peerPubkeys payload sameRemotes sameKey sameServer trusted encoded =>
      refine .inr ⟨_, rfl, payload, ?_⟩
      rw [← sameKey]
      exact encoded
  | quiet establisher stage sameRemotes sameKey sameServer calm => exact .inl rfl
  | sent payload sending => exact .inr ⟨_, rfl, rfl, sending⟩
  | accepted bytes random notification state receiving received parsed trusted enabled unseen =>
      exact .inr ⟨_, rfl, bytes, random, received, parsed⟩
  | swapped notification socket random swapping => exact .inl rfl
  | finished notification socket result change punching keeps => exact .inl rfl

theorem StepCase.acts_prefix {crates : Crates SigningKey DateTime} {now : Instant}
    {run next : ClientRun SigningKey DateTime} {event : ClientEvent DateTime}
    (taken : StepCase crates now run event next) : run.acts <+: next.acts := by
  rcases taken.acts_snoc with same | ⟨act, added, _⟩
  · rw [same]
  · rw [added]
    exact List.prefix_append _ _

theorem StepCase.mem_acts {crates : Crates SigningKey DateTime} {now : Instant}
    {run next : ClientRun SigningKey DateTime} {event : ClientEvent DateTime}
    (taken : StepCase crates now run event next) {act : ClientAct DateTime} (member : act ∈ next.acts) :
    act ∈ run.acts ∨ run.Caused crates event act := by
  rcases taken.acts_snoc with same | ⟨last, added, caused⟩
  · exact .inl (same ▸ member)
  · rw [added] at member
    rcases List.mem_append.mp member with old | new
    · exact .inl old
    · rw [List.mem_singleton.mp new]
      exact .inr caused

/-- A step that records an accepted notification accepts it from a trusted and enabled peer. -/
theorem StepCase.of_accepted {crates : Crates SigningKey DateTime} {now : Instant}
    {run next : ClientRun SigningKey DateTime} {event : ClientEvent DateTime} {notification : Notification}
    (taken : StepCase crates now run event next) (added : next.acts = run.acts ++ [.accepted notification]) :
    ∃ state, run.establisher.trustedRemotes[notification.peerPubkey]? = some state ∧
      state.isDiscoveryEnabled now = true ∧ state.lastAcceptedSessionId ≠ some notification.remoteSessionId ∧
      next = run.accept notification state := by
  cases taken with
  | ignored => simp at added
  | called result call idle taken => simp at added
  | requested establisher utcNow peerPubkeys payload sameRemotes sameKey sameServer trusted encoded => simp at added
  | quiet establisher stage sameRemotes sameKey sameServer calm => simp at added
  | sent payload sending => simp at added
  | accepted bytes random other state receiving received parsed trusted enabled unseen =>
      simp only [accept, List.append_cancel_left_eq, List.cons.injEq, ClientAct.accepted.injEq, and_true] at added
      subst added
      exact ⟨state, trusted, enabled, unseen, rfl⟩
  | swapped other socket random swapping => simp at added
  | finished other socket result change punching keeps => simp at added

/-- No step changes the key. -/
theorem StepCase.key_eq {crates : Crates SigningKey DateTime} {now : Instant}
    {run next : ClientRun SigningKey DateTime} {event : ClientEvent DateTime}
    (taken : StepCase crates now run event next) : next.establisher.key = run.establisher.key := by
  cases taken with
  | called result call idle taken => cases call <;> rfl
  | requested establisher utcNow peerPubkeys payload sameRemotes sameKey sameServer trusted encoded => exact sameKey
  | quiet establisher stage sameRemotes sameKey sameServer calm => exact sameKey
  | _ => rfl

/-- A request is placed for the available remotes, if there are any. -/
theorem placeRequests_requested (now : Instant) (utcNow timestamp : DateTime) (run : ClientRun SigningKey DateTime)
    {peerPubkeys : List PublicKey} {sessionId : UInt32}
    (placed : (run.placeRequests crates now utcNow).acts =
      run.acts ++ [.requested timestamp (.connectionRequest peerPubkeys sessionId)]) :
    peerPubkeys = run.establisher.availableRemotes now ∧ peerPubkeys ≠ [] := by
  obtain ⟨offset, list⟩ := run.establisher.newAvailableRemotesList_eq now
  simp only [placeRequests, list] at placed
  split_ifs at placed with due empty
  · simp at placed
  · split at placed
    · simp only [List.append_cancel_left_eq, List.cons.injEq, ClientAct.requested.injEq,
        ToServerSignedMessage.connectionRequest.injEq] at placed
      rw [← placed.1.2.1]
      exact ⟨rfl, by simpa using empty⟩
    · simp at placed
  · simp at placed

/-- A datagram makes the client accept a notification or do nothing. -/
theorem receive_acts (now : Instant) (src : SocketAddr) (bytes : List UInt8) (random : UInt32)
    (run : ClientRun SigningKey DateTime) :
    (run.receive now src bytes random).acts = run.acts ∨
      ∃ notification, (run.receive now src bytes random).acts = run.acts ++ [.accepted notification] := by
  unfold receive
  split_ifs
  · exact .inl rfl
  · split
    · simp only [initiate]
      split
      · exact .inl rfl
      · split_ifs
        · exact .inl rfl
        · exact .inl rfl
        · exact .inr ⟨_, rfl⟩
    · exact .inl rfl
    · exact .inl rfl
    · exact .inl rfl

/-- A step that requests a connection lists the available remotes at its time. -/
theorem step_requested (now : Instant) (run : ClientRun SigningKey DateTime) (event : ClientEvent DateTime)
    {timestamp : DateTime} {peerPubkeys : List PublicKey} {sessionId : UInt32}
    (placed : (run.step crates now event).acts =
      run.acts ++ [.requested timestamp (.connectionRequest peerPubkeys sessionId)]) :
    peerPubkeys = run.establisher.availableRemotes now ∧ peerPubkeys ≠ [] := by
  revert placed
  unfold step
  split
  · simp
  · split_ifs
    · simp
    · intro placed
      exact placeRequests_requested crates now _ timestamp run placed
  · rename_i interface addr utcNow rebinding
    intro placed
    exact placeRequests_requested crates now utcNow timestamp
      { run with establisher := { run.establisher with socket := ⟨addr, interface⟩, curInterface := interface } }
      placed
  · simp
  · simp
  · rename_i src bytes random receiving
    intro placed
    obtain same | ⟨notification, added⟩ := receive_acts now src bytes random run
    · simp [same] at placed
    · simp [added] at placed
  · simp
  · simp
  · simp
  · rename_i notification socket outcome punching
    intro placed
    cases outcome <;> simp [finish] at placed
  · simp
  · simp
  · simp
  · simp

/-- A step requests a connection only with peers that are enabled at its time. -/
theorem step_requested_enabled (now : Instant) (run : ClientRun SigningKey DateTime) (event : ClientEvent DateTime)
    {timestamp : DateTime} {peerPubkeys : List PublicKey} {sessionId : UInt32}
    (placed : (run.step crates now event).acts =
      run.acts ++ [.requested timestamp (.connectionRequest peerPubkeys sessionId)])
    {peer : PublicKey} (listed : peer ∈ peerPubkeys) :
    ∃ state, run.establisher.trustedRemotes[peer]? = some state ∧ state.isDiscoveryEnabled now = true := by
  rw [(step_requested crates now run event placed).1] at listed
  exact run.establisher.availableRemotes_enabled now listed

end ClientRun

end RepriseP2p.Udp
