/-
This file proves what a client requests: the next enabled peers in the cyclic order of the keys. The encoder accepts
every such list.
-/

import RepriseP2p.Udp.PollStep
import RepriseP2p.Udp.Rotation
import RepriseP2p.Udp.ServerReply
import RepriseP2p.Udp.SignedRequest

namespace RepriseP2p.Udp

open CyclicScan

variable {SigningKey DateTime : Type}

/-- The trusted peers that are enabled at this time. -/
def enabledPeers (remotes : TrustedRemotes) (now : Instant) : Set PublicKey :=
  {peer | ∃ state, remotes[peer]? = some state ∧ state.isDiscoveryEnabled now = true}

namespace UdpConnectionEstablisher

variable (establisher : UdpConnectionEstablisher SigningKey) (now : Instant)

theorem availableRemotes_leading :
    @Leading PublicKey keyOrder 10 establisher.lastTrustedPeerOffset (enabledPeers establisher.trustedRemotes now)
      (establisher.availableRemotes now) := by
  let := keyOrder
  have enabled : enabledPeers establisher.trustedRemotes now =
      {key | key ∈ enabledKeys establisher.trustedRemotes now} := by
    ext peer
    exact mem_enabledKeys.symm
  rw [enabled, availableRemotes_eq]
  exact window_leading (enabledKeys_sorted establisher.trustedRemotes now)

/-- A list that is not empty fits into one message. -/
theorem availableRemotes_bounds (some : establisher.availableRemotes now ≠ []) :
    1 ≤ (establisher.availableRemotes now).length ∧ (establisher.availableRemotes now).length ≤ 10 :=
  ⟨List.length_pos_iff.mpr some, (establisher.availableRemotes_trusted now).1⟩

end UdpConnectionEstablisher

namespace ClientRun

variable (crates : Crates SigningKey DateTime) (now : Instant) (run : ClientRun SigningKey DateTime)

/-- The encoder accepts what it gets. -/
theorem placeRequests_ne_panicked (utcNow : DateTime) : (run.placeRequests crates now utcNow).stage ≠ .panicked := by
  obtain ⟨offset, list⟩ := run.establisher.newAvailableRemotesList_eq now
  simp only [placeRequests, list]
  split_ifs with due empty
  · simp
  · have bounds := run.establisher.availableRemotes_bounds now (by simpa using empty)
    have fits := (ToServerSignedMessage.encodable_iff _ run.establisher.sessionId).mpr bounds
    rw [ToServerSignedMessage.toBytes_eq crates _ _ _ fits]
    simp
  · simp

/-- The parser refuses a malformed datagram with an error. -/
theorem receive_ne_panicked (src : SocketAddr) (bytes : List UInt8) (random : UInt32) :
    (run.receive now src bytes random).stage ≠ .panicked := by
  unfold receive
  split_ifs
  · simp
  · split
    · simp only [initiate]
      split
      · simp
      · split_ifs <;> simp
    · simp
    · simp
    · rename_i panicked
      exact absurd panicked (FromServerMessage.tryParse_ne_panic bytes)

/-- No step of a client panics. -/
theorem step_ne_panicked (event : ClientEvent DateTime) (awake : run.stage ≠ .panicked) :
    (run.step crates now event).stage ≠ .panicked := by
  unfold step
  split
  · exact awake
  · split_ifs
    · simp
    · exact placeRequests_ne_panicked crates now run _
  · exact placeRequests_ne_panicked crates now _ _
  · simp
  · simp
  · exact receive_ne_panicked now run _ _ _
  · simp
  · simp
  · simp
  · rename_i notification socket outcome punching
    cases outcome <;> simp [finish]
  · exact awake
  · exact awake
  · simp
  · exact awake

end ClientRun

/-- The call returns exactly the first ten enabled peers from the offset on, and it leaves the trusted peers alone.
Hence every request of a client lists one to ten keys, and no step of a client panics. -/
theorem request_list_exact (crates : Crates SigningKey DateTime) (run : ClientRun SigningKey DateTime)
    (now : Instant) :
    let establisher := run.establisher
    let called := establisher.newAvailableRemotesList now
    let enabled := enabledPeers establisher.trustedRemotes now
    (∀ list, called.1 = list ↔
      @Leading PublicKey keyOrder 10 establisher.lastTrustedPeerOffset enabled list) ∧
    called.1.Nodup ∧
    called.2.trustedRemotes = establisher.trustedRemotes ∧
    ∀ event, (run.stage ≠ .panicked → (run.step crates now event).stage ≠ .panicked) ∧
      ∀ timestamp peerPubkeys sessionId,
        (run.step crates now event).acts =
          run.acts ++ [.requested timestamp (.connectionRequest peerPubkeys sessionId)] →
        peerPubkeys = called.1 ∧ 1 ≤ peerPubkeys.length ∧ peerPubkeys.length ≤ 10 := by
  intro establisher called enabled
  obtain ⟨offset, list⟩ := establisher.newAvailableRemotesList_eq now
  have same : called = _ := list
  rw [same]
  let := keyOrder
  have leading := establisher.availableRemotes_leading now
  refine ⟨?_, leading.nodup, rfl, ?_⟩
  · intro other
    constructor
    · rintro rfl
      exact leading
    · intro again
      exact leading.unique again
  · intro event
    refine ⟨run.step_ne_panicked crates now event, ?_⟩
    intro timestamp peerPubkeys sessionId placed
    obtain ⟨rfl, some⟩ := run.step_requested crates now event placed
    exact ⟨rfl, establisher.availableRemotes_bounds now some⟩

/-- The offset is key 6, which is not trusted. -/
example :
    let establisher := { sampleEstablisher 1 [2, 3, 7, 9] with lastTrustedPeerOffset := sampleKey 6 }
    (establisher.newAvailableRemotesList 0).1 = [7, 9, 2, 3].map sampleKey := by
  decide +kernel

end RepriseP2p.Udp
