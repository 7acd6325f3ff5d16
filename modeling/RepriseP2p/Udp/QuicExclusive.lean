/-
This file proves that the QUIC wrapper keeps at most one connection with a peer, until the caller frees the peer.
-/

import RepriseP2p.Udp.Quic

namespace RepriseP2p.Udp

variable {SigningKey DateTime Connection : Type}

/-- The call reports the connection with the peer as closed, or it takes the peer off the trusted list. -/
def UdpConnectionEstablisher.Call.Frees (call : UdpConnectionEstablisher.Call) (peer : PublicKey) : Prop :=
  match call with
  | .addTrustedRemote _ => False
  | .removeTrustedRemote key | .onConnectionClosed key => key = peer
  | .setTrustedRemoteList newTrustedRemotes => peer ∉ newTrustedRemotes

instance (call : UdpConnectionEstablisher.Call) (peer : PublicKey) : Decidable (call.Frees peer) :=
  match call with
  | .addTrustedRemote _ => inferInstanceAs (Decidable False)
  | .removeTrustedRemote key | .onConnectionClosed key => inferInstanceAs (Decidable (key = peer))
  | .setTrustedRemoteList newTrustedRemotes => inferInstanceAs (Decidable (peer ∉ newTrustedRemotes))

theorem ClientRun.frees_iff {run : ClientRun SigningKey DateTime} {peer : PublicKey}
    {event : Instant × ClientEvent DateTime} : run.Frees peer event ↔
      (∃ result, run.stage = .idle result) ∧ ∃ call, event.2 = .call call ∧ call.Frees peer := by
  constructor
  · rintro (⟨idle, taken⟩ | ⟨idle, taken⟩ | ⟨keys, ⟨idle, taken⟩, unlisted⟩)
    · exact ⟨idle, _, taken, rfl⟩
    · exact ⟨idle, _, taken, rfl⟩
    · exact ⟨idle, _, taken, unlisted⟩
  · rintro ⟨idle, call, taken, frees⟩
    cases call with
    | addTrustedRemote key => exact frees.elim
    | removeTrustedRemote key => exact .inr (.inl ⟨idle, frees ▸ taken⟩)
    | setTrustedRemoteList keys => exact .inr (.inr ⟨keys, ⟨idle, taken⟩, frees⟩)
    | onConnectionClosed key => exact .inl ⟨idle, frees ▸ taken⟩

namespace QuicRun

/-- Between two polls the caller frees the peer. -/
def Frees (peer : PublicKey) (run : QuicRun SigningKey DateTime Connection)
    (event : Instant × QuicEvent DateTime Connection) : Prop :=
  run.Idle ∧ ∃ call, event.2 = .call call ∧ call.Frees peer

instance (peer : PublicKey) (run : QuicRun SigningKey DateTime Connection)
    (event : Instant × QuicEvent DateTime Connection) : Decidable (run.Frees peer event) :=
  match taken : event.2 with
  | .call call => decidable_of_iff (run.Idle ∧ call.Frees peer) (by simp [Frees, taken])
  | .pollAccept _ _ | .inner _ | .intoStdFailed | .made _ | .shaken _ | .dropped => .isFalse (by simp [Frees, taken])

/-- The event ends a call, and the call returns a QUIC connection with the peer. -/
def Returns (crates : Crates SigningKey DateTime) (peer : PublicKey) (run : QuicRun SigningKey DateTime Connection)
    (event : Instant × QuicEvent DateTime Connection) : Prop :=
  ¬ run.Idle ∧ ∃ connection, (run.step crates event.1 event.2).stage = .idle (some (.ok connection)) ∧
    connection.remotePubkey = peer

/-- The wrapper works on a connection with the peer: it swaps the socket, punches the hole or sets QUIC up. -/
def Attempts (run : QuicRun SigningKey DateTime Connection) (peer : PublicKey) : Prop :=
  run.inner.stage.Attempts peer ∨ ∃ conn, conn.pubkey = peer ∧ (run.stage = .making conn ∨ run.stage = .shaking conn)

/-- The event makes the wrapper place a request that lists the peer, or accept a notification about it. -/
def Names (crates : Crates SigningKey DateTime) (peer : PublicKey) (run : QuicRun SigningKey DateTime Connection)
    (event : Instant × QuicEvent DateTime Connection) : Prop :=
  ∃ act, (run.step crates event.1 event.2).inner.acts = run.inner.acts ++ [act] ∧ act.Names peer

/-- The set-up in progress is for a peer that the inner establisher believes to be connected. -/
def SetUpHeld (run : QuicRun SigningKey DateTime Connection) : Prop :=
  ∀ conn, run.stage = .making conn ∨ run.stage = .shaking conn → run.inner.Held conn.pubkey .connectionActive

/-- The peer has a connection, and the wrapper does not work on another one. -/
structure Taken (run : QuicRun SigningKey DateTime Connection) (peer : PublicKey) : Prop where
  held : run.inner.Held peer .connectionActive
  other : ∀ conn, run.stage = .making conn ∨ run.stage = .shaking conn → conn.pubkey ≠ peer

section Steps

variable {crates : Crates SigningKey DateTime} {run : QuicRun SigningKey DateTime Connection} {peer : PublicKey}
  {event : Instant × QuicEvent DateTime Connection}

/-- A settled poll starts a set-up exactly for the hole that the poll returned. -/
theorem settle_connected {inner : ClientRun SigningKey DateTime} {conn : NewP2pConnection}
    (connected : (settle inner : QuicRun SigningKey DateTime Connection).stage = .making conn ∨
      (settle inner : QuicRun SigningKey DateTime Connection).stage = .shaking conn) :
    inner.stage = .idle (some (.ok conn)) := by
  cases stage : inner.stage with
  | idle result =>
      rcases result with _ | error | punched
      · simp [settle, stage] at connected
      · simp [settle, stage] at connected
      · simp only [settle, stage, QuicStage.making.injEq, reduceCtorEq, or_false] at connected
        rw [connected]
  | _ => simp [settle, stage] at connected

/-- A settled poll returns no QUIC connection. -/
theorem settle_unreturned (inner : ClientRun SigningKey DateTime) (connection : QuicP2pConnection Connection) :
    (settle inner).stage ≠ .idle (some (.ok connection)) := by
  unfold settle
  split <;> simp

/-- The poll that returns a hole holds its peer. -/
theorem Sound.returned_held (sound : run.Sound crates) (polling : run.stage = .polling) {now : Instant}
    {taken : ClientEvent DateTime} {conn : NewP2pConnection}
    (returned : (run.inner.step crates now taken).stage = .idle (some (.ok conn))) :
    (run.inner.step crates now taken).Held conn.pubkey .connectionActive := by
  have returns : run.inner.Returns crates conn.pubkey (now, taken) := ⟨sound.busy polling, conn, returned, rfl⟩
  exact returns.held (client_attemptsTrusted sound.reachable)

theorem Sound.started_busy (sound : run.Sound crates) (idle : run.Idle) (now : Instant) (interface : Option String)
    (utcNow : DateTime) (result : PollResult) :
    (run.inner.step crates now (.pollAccept interface utcNow)).stage ≠ .idle result :=
  (ClientRun.polled_start (sound.idle (.inl idle)) now interface utcNow).2 result

theorem SetUpHeld.step (setUp : run.SetUpHeld) (sound : run.Sound crates) :
    (run.step crates event.1 event.2).SetUpHeld := by
  have taken := run.step_case crates event
  generalize run.step crates event.1 event.2 = after at taken
  intro conn connected
  cases taken with
  | ignored => exact setUp conn connected
  | called result call idle => simp [idle] at connected
  | started result interface utcNow idle =>
      exact absurd (settle_connected connected) (sound.started_busy ⟨result, idle⟩ event.1 interface utcNow _)
  | polled taken polling =>
      rw [settle_inner]
      exact sound.returned_held polling (settle_connected connected)
  | cancelled polling => simp at connected
  | panicked other making => simp at connected
  | made other making =>
      simp only [reduceCtorEq, QuicStage.shaking.injEq, false_or] at connected
      exact connected ▸ setUp other (.inl making)
  | gaveUp other error before kept => simp [giveUp] at connected
  | established other connection shaking kept => simp at connected
  | abandoned other before dropped => simp at connected

theorem setUpHeld_of_reachable (reachable : (quicMachine crates).Reachable run) : run.SetUpHeld := by
  apply reachable.invariant SetUpHeld
  · rintro start ⟨inner, initial, rfl⟩ conn connected
    simp at connected
  · intro run event before setUp _
    exact setUp.step (sound_of_reachable before)

/-- Only a handshake that succeeds returns a QUIC connection. -/
theorem Returns.shaken (returned : run.Returns crates peer event) : ∃ conn connection, run.stage = .shaking conn ∧
    conn.pubkey = peer ∧ run.step crates event.1 event.2 =
      ⟨run.inner, .idle (some (.ok ⟨connection, conn.pubkey, conn.remoteAddr⟩))⟩ := by
  obtain ⟨busy, connection, ended, about⟩ := returned
  have taken := run.step_case crates event
  generalize run.step crates event.1 event.2 = after at taken ended
  cases taken with
  | ignored => exact absurd ⟨_, ended⟩ busy
  | called result call idle => exact absurd ⟨result, idle⟩ busy
  | started result interface utcNow idle => exact absurd ⟨result, idle⟩ busy
  | polled taken polling => exact absurd ended (settle_unreturned _ connection)
  | established conn made shaking kept =>
      simp only [QuicStage.idle.injEq, Option.some.injEq, Except.ok.injEq] at ended
      subst ended
      exact ⟨conn, made, shaking, about, rfl⟩
  | gaveUp conn error connected kept => simp [giveUp] at ended
  | _ => simp at ended

/-- The call that returns a QUIC connection leaves its peer taken. -/
theorem Returns.taken (returned : run.Returns crates peer event) (setUp : run.SetUpHeld) :
    (run.step crates event.1 event.2).Taken peer := by
  obtain ⟨conn, connection, shaking, rfl, after⟩ := returned.shaken
  rw [after]
  exact ⟨setUp conn (.inr shaking), by simp⟩

theorem Taken.inner_step (taken : run.Taken peer) {now : Instant} {other : ClientEvent DateTime}
    (kept : ¬ run.inner.Frees peer (now, other)) : (run.inner.step crates now other).Held peer .connectionActive :=
  @ClientRun.Held.step _ _ crates peer run.inner (now, other) _ taken.held trivial kept

/-- Between two polls a peer stays taken that the caller does not free. -/
theorem Taken.step_idle (taken : run.Taken peer) (sound : run.Sound crates) (idle : run.Idle)
    (kept : ¬ run.Frees peer event) : (run.step crates event.1 event.2).Taken peer := by
  obtain ⟨result, stage⟩ := idle
  cases same : event.2 with
  | call call =>
      simp only [QuicRun.step, stage]
      refine ⟨taken.inner_step ?_, by simp⟩
      rw [ClientRun.frees_iff]
      rintro ⟨_, other, called, frees⟩
      cases called
      exact kept ⟨⟨result, stage⟩, call, same, frees⟩
  | pollAccept interface utcNow =>
      simp only [QuicRun.step, stage]
      refine ⟨?_, ?_⟩
      · rw [settle_inner]
        apply taken.inner_step
        rw [ClientRun.frees_iff]
        rintro ⟨_, call, called, _⟩
        cases called
      · intro conn connected
        exact absurd (settle_connected connected) (sound.started_busy ⟨result, stage⟩ event.1 interface utcNow _)
  | _ =>
      simp only [QuicRun.step, stage]
      exact taken

/-- An event that does not free the peer keeps it taken. -/
theorem Taken.step (taken : run.Taken peer) (sound : run.Sound crates) (kept : ¬ run.Frees peer event) :
    (run.step crates event.1 event.2).Taken peer := by
  by_cases idle : run.Idle
  · exact taken.step_idle sound idle kept
  -- A poll in progress frees no peer, because its inner establisher is not idle.
  have polled (polling : run.stage = .polling) (other : ClientEvent DateTime) :
      (run.inner.step crates event.1 other).Held peer .connectionActive := by
    apply taken.inner_step
    rw [ClientRun.frees_iff]
    rintro ⟨⟨result, quiet⟩, _⟩
    exact sound.busy polling result quiet
  have happened := run.step_case crates event
  generalize run.step crates event.1 event.2 = after at happened
  cases happened with
  | ignored => exact taken
  | called result call stage => exact absurd ⟨result, stage⟩ idle
  | started result interface utcNow stage => exact absurd ⟨result, stage⟩ idle
  | polled other polling =>
      refine ⟨?_, ?_⟩
      · rw [settle_inner]
        exact polled polling other
      · rintro conn connected rfl
        have returns : run.inner.Returns crates conn.pubkey (event.1, other) :=
          ⟨sound.busy polling, conn, settle_connected connected, rfl⟩
        exact taken.held.not_engages trivial (.inr (.inr returns))
  | cancelled polling => exact ⟨polled polling .dropped, by simp⟩
  | panicked conn making => exact ⟨taken.held, by simp⟩
  | made conn making =>
      refine ⟨taken.held, ?_⟩
      intro other shaking
      simp only [reduceCtorEq, QuicStage.shaking.injEq, false_or] at shaking
      exact shaking ▸ taken.other conn (.inl making)
  | gaveUp conn error connected _ =>
      refine ⟨taken.inner_step ?_, by simp [giveUp]⟩
      rw [ClientRun.frees_iff]
      rintro ⟨_, call, called, frees⟩
      cases called
      exact taken.other conn connected frees
  | established conn connection shaking _ => exact ⟨taken.held, by simp⟩
  | abandoned conn connected dropped => exact ⟨taken.held, by simp⟩

theorem Taken.not_attempts (taken : run.Taken peer) : ¬ run.Attempts peer := by
  rintro (inner | ⟨conn, about, connected⟩)
  · exact taken.held.unattempted inner
  · exact taken.other conn connected about

/-- A taken peer is in no request and in no accepted notification. -/
theorem Taken.not_names (taken : run.Taken peer) : ¬ run.Names crates peer event := by
  have unnamed {now : Instant} {other : ClientEvent DateTime} {act : ClientAct DateTime}
      (added : (run.inner.step crates now other).acts = run.inner.acts ++ [act]) : ¬ act.Names peer := by
    intro names
    exact @ClientRun.Held.not_engages _ _ crates peer run.inner (now, other) _ taken.held trivial
      (.inl ⟨act, added, names⟩)
  rintro ⟨act, added, names⟩
  have happened := run.step_case crates event
  generalize run.step crates event.1 event.2 = after at happened added
  cases happened with
  | called result call stage => exact unnamed added names
  | started result interface utcNow stage =>
      rw [settle_inner] at added
      exact unnamed added names
  | polled other polling =>
      rw [settle_inner] at added
      exact unnamed added names
  | cancelled polling => exact unnamed added names
  | gaveUp conn error connected _ => exact unnamed added names
  | _ => simp at added

/-- The call that returns a QUIC connection was setting it up. -/
theorem Returns.attempts (returned : run.Returns crates peer event) : run.Attempts peer := by
  obtain ⟨conn, connection, shaking, about, _⟩ := returned.shaken
  exact .inr ⟨conn, about, .inr shaking⟩

end Steps

end QuicRun

/-- A peer whose QUIC connection the wrapper returned is not requested, accepted, attempted or returned again before the
caller frees it. -/
theorem quic_one_connection (crates : Crates SigningKey DateTime) {run : QuicRun SigningKey DateTime Connection}
    (reachable : (quicMachine crates).Reachable run) (peer : PublicKey)
    {event : Instant × QuicEvent DateTime Connection} (returned : run.Returns crates peer event)
    {events : List (Instant × QuicEvent DateTime Connection)}
    {later : QuicRun SigningKey DateTime Connection}
    (ran : (quicMachine crates).Run ((quicMachine crates).next run event) events later)
    (avoids : (quicMachine crates).Avoids ((quicMachine crates).next run event) events (QuicRun.Frees peer)) :
    ¬ later.Attempts peer ∧ ∀ last, ¬ later.Names crates peer last ∧ ¬ later.Returns crates peer last := by
  have sound := QuicRun.sound_of_reachable reachable
  have taken : later.Taken peer ∧ later.Sound crates := by
    apply ran.invariant_avoiding avoids (fun state => state.Taken peer ∧ state.Sound crates)
    · exact ⟨returned.taken (QuicRun.setUpHeld_of_reachable reachable), sound.step event⟩
    · rintro state between ⟨taken, sound⟩ kept
      exact ⟨taken.step sound kept, sound.step between⟩
  refine ⟨taken.1.not_attempts, fun last => ⟨taken.1.not_names, ?_⟩⟩
  intro again
  exact taken.1.not_attempts again.attempts

/-- The wrapper returned a connection with client 2. The caller lists client 2 again and polls, three seconds later. -/
theorem quic_one_connection_sample :
    let events : List (Instant × QuicEvent UtcNanos Unit) :=
      [(0, .call (.setTrustedRemoteList [sampleKey 2, sampleKey 3])),
        (Duration.fromSecs 3, .pollAccept none (sampleUtc 3))]
    let later := events.foldl (quicMachine plainCrates).next (sampleQuicShaking.step plainCrates 0 (.shaken (some ())))
    ¬ later.Attempts (sampleKey 2) ∧
      ∀ last, ¬ later.Names plainCrates (sampleKey 2) last ∧ ¬ later.Returns plainCrates (sampleKey 2) last := by
  intro events later
  have reachable : (quicMachine plainCrates).Reachable sampleQuicShaking :=
    ⟨_, _, ⟨sampleClient 1 11, ⟨_, _, _, _, _, _, rfl⟩, rfl⟩,
      quicMachine_run plainCrates ⟨sampleClient 1 11, .idle none⟩
        ((0, .call (.addTrustedRemote (sampleKey 2))) :: (0, .pollAccept none (sampleUtc 0)) :: sampleQuicSetUp)⟩
  have returned : sampleQuicShaking.Returns plainCrates (sampleKey 2) (0, .shaken (some ())) := by
    refine ⟨by decide +kernel, ⟨(), sampleKey 2, .v4 (sampleAddr 2)⟩, ?_, rfl⟩
    decide +kernel
  exact quic_one_connection plainCrates reachable (sampleKey 2) returned (quicMachine_run plainCrates _ events)
    (Machine.avoids_of_checked (by decide +kernel))

end RepriseP2p.Udp
