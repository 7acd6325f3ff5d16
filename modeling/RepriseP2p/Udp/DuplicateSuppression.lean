/-
This file proves when a client drops the notification of a match as a duplicate.
-/

import RepriseP2p.Udp.SystemStep

namespace RepriseP2p.Udp

variable {SigningKey DateTime : Type} {n : Nat}

/-- The last accepted notification about a peer, after one more act. It is forgotten with the trust. -/
def ClientAct.notificationAfter (peer : PublicKey) (last : Option Notification) :
    ClientAct DateTime → Option Notification
  | .accepted notification => if notification.peerPubkey = peer then some notification else last
  | .called (.removeTrustedRemote key) => if key = peer then none else last
  | .called (.setTrustedRemoteList keys) => if peer ∈ keys then last else none
  | _ => last

/-- The last notification about a peer that the client accepted since it trusts the peer. -/
def lastNotification (peer : PublicKey) (acts : List (ClientAct DateTime)) : Option Notification :=
  acts.foldl (ClientAct.notificationAfter peer) none

theorem lastNotification_snoc (peer : PublicKey) (acts : List (ClientAct DateTime)) (act : ClientAct DateTime) :
    lastNotification peer (acts ++ [act]) = act.notificationAfter peer (lastNotification peer acts) := by
  simp [lastNotification]

theorem lastNotification_accepted {peer : PublicKey} {acts : List (ClientAct DateTime)} {last : Notification}
    (found : lastNotification peer acts = some last) : .accepted last ∈ acts ∧ last.peerPubkey = peer := by
  induction acts using List.reverseRecOn with
  | nil => cases found
  | append_singleton acts act ih =>
      rw [lastNotification_snoc] at found
      have before (same : lastNotification peer acts = some last) :
          .accepted last ∈ acts ++ [act] ∧ last.peerPubkey = peer :=
        (ih same).imp_left (List.mem_append_left _)
      cases act with
      | accepted notification =>
          rw [ClientAct.notificationAfter] at found
          split_ifs at found with same
          · cases found
            exact ⟨by simp, same⟩
          · exact before found
      | called call =>
          cases call with
          | removeTrustedRemote key =>
              rw [ClientAct.notificationAfter] at found
              split_ifs at found
              exact before found
          | setTrustedRemoteList keys =>
              rw [ClientAct.notificationAfter] at found
              split_ifs at found
              exact before found
          | addTrustedRemote key => exact before found
          | onConnectionClosed key => exact before found
      | requested timestamp message => exact before found
      | sent src payload => exact before found

/-- The stored session of a peer is the one of the last notification that was accepted about it. -/
def ClientRun.SessionsKept (run : ClientRun SigningKey DateTime) : Prop :=
  ∀ peer, run.establisher.lastSession peer = (lastNotification peer run.acts).map Notification.remoteSessionId

theorem ClientRun.SessionsKept.step {crates : Crates SigningKey DateTime} {run next : ClientRun SigningKey DateTime}
    {now : Instant} {event : ClientEvent DateTime} (kept : run.SessionsKept)
    (taken : run.StepCase crates now event next) : next.SessionsKept := by
  intro peer
  have same := kept peer
  cases taken with
  | ignored => exact same
  | called result call idle taken =>
      rw [lastNotification_snoc, run.establisher.lastSession_call call peer, same]
      cases call with
      | addTrustedRemote key => rfl
      | onConnectionClosed key => rfl
      | removeTrustedRemote key =>
          simp only [ClientAct.notificationAfter]
          split_ifs <;> rfl
      | setTrustedRemoteList keys =>
          simp only [ClientAct.notificationAfter]
          split_ifs <;> rfl
  | requested establisher utcNow peerPubkeys payload sameRemotes sameKey sameServer trusted encoded =>
      rw [lastNotification_snoc, UdpConnectionEstablisher.lastSession, sameRemotes]
      exact same
  | quiet establisher stage sameRemotes sameKey sameServer calm =>
      rw [UdpConnectionEstablisher.lastSession, sameRemotes]
      exact same
  | sent payload sending =>
      rw [lastNotification_snoc]
      exact same
  | accepted bytes random notification state receiving received parsed trusted enabled unseen =>
      rw [ClientRun.accept, lastNotification_snoc, UdpConnectionEstablisher.lastSession,
        Std.ExtTreeMap.getElem?_insert, ClientAct.notificationAfter]
      simp only [Std.LawfulEqCmp.compare_eq_iff_eq]
      split_ifs
      · rfl
      · exact same
  | swapped notification socket random swapping => exact same
  | finished notification socket result change punching keeps =>
      rw [UdpConnectionEstablisher.lastSession, Std.ExtTreeMap.getElem?_modify]
      rw [UdpConnectionEstablisher.lastSession] at same
      split_ifs with equal
      · rw [Std.LawfulEqCmp.compare_eq_iff_eq] at equal
        subst equal
        rw [Option.bind_map, ← same]
        congr 1
        funext state
        exact keeps state
      · exact same

namespace System

/-- The stored sessions belong to notifications that the server sent and the client processed. -/
structure SessionsTraced (system : System SigningKey DateTime n) : Prop where
  kept : ∀ index, (system.clients index).SessionsKept
  accepted : ∀ index notification, .accepted notification ∈ (system.clients index).acts →
    ∃ place dst, (index, place) ∈ system.processed ∧ system.emitted[place]? = some ⟨dst, notification.message⟩

theorem sessionsTraced_start {crates : Crates SigningKey DateTime} {clients : Fin n → ClientRun SigningKey DateTime}
    (initial : ∀ index, (clientMachine crates).initial (clients index)) :
    (System.start clients).SessionsTraced := by
  constructor
  · intro index peer
    obtain ⟨_, _, _, _, _, _, fresh⟩ := initial index
    simp [System.start, fresh, ClientRun.start, UdpConnectionEstablisher.new, UdpConnectionEstablisher.lastSession,
      lastNotification]
  · intro index notification member
    obtain ⟨_, _, _, _, _, _, fresh⟩ := initial index
    simp [System.start, fresh, ClientRun.start] at member

theorem SessionsTraced.next {crates : Crates SigningKey DateTime} {system : System SigningKey DateTime n}
    (traced : system.SessionsTraced) (event : Instant × SystemEvent DateTime n)
    (delivered : system.delivers event.2 = true) : (system.next crates event).SessionsTraced := by
  constructor
  · intro index
    obtain ⟨clientEvent, taken, _⟩ := system.next_client crates event delivered index
    exact (traced.kept index).step taken
  · intro index notification member
    obtain ⟨clientEvent, taken, arrives⟩ := system.next_client crates event delivered index
    have stays {place : Nat} {datagram : Datagram} (found : system.emitted[place]? = some datagram) :
        (system.next crates event).emitted[place]? = some datagram := by
      obtain ⟨later, same⟩ := system.emitted_next crates event
      rw [← same, List.getElem?_append_left (List.getElem?_eq_some_iff.mp found).1, found]
    rcases taken.mem_acts member with old | ⟨bytes, random, received, parsed⟩
    · obtain ⟨place, dst, processed, found⟩ := traced.accepted index notification old
      exact ⟨place, dst, (system.processed_next crates event).1.mem processed, stays found⟩
    · obtain ⟨place, drawn, ⟨dst, message⟩, notifies, found, _, rfl⟩ := arrives bytes random received
      have whole := message.tryParse_toBytes []
      rw [List.append_nil, parsed, Outcome.ok.injEq] at whole
      subst whole
      exact ⟨place, dst, (system.processed_next crates event).2 index place drawn _ notifies found, stays found⟩

theorem sessionsTraced_of_reachable {crates : Crates SigningKey DateTime} {system : System SigningKey DateTime n}
    (reachable : (faultyMachine crates).Reachable system) : system.SessionsTraced := by
  refine reachable.invariant SessionsTraced ?_ fun _ event _ traced allowed => traced.next event allowed.2.1
  rintro system ⟨clients, initial, rfl, _⟩
  exact sessionsTraced_start initial

variable (crates : Crates SigningKey DateTime) (system : System SigningKey DateTime n)

/-- The client accepts the notification, and as soon as its new socket is bound it punches from the old one. -/
def Accepts (now : Instant) (index : Fin n) (place : Nat) (random : UInt32) (notification : Notification) : Prop :=
  let client := (system.next crates (now, .notify index place random)).clients index
  client.stage = .swapping notification ∧ ∀ later interface addr drawn,
    (client.step crates later (.swapped interface addr drawn)).stage =
      .punching notification (system.clients index).establisher.socket

/-- The client has processed another notification about the peer with the same session, and of all notifications about
the peer since it trusts the peer it accepted this one last. -/
def Rematched (index : Fin n) (place : Nat) (notification : Notification) : Prop :=
  ∃ earlier dst last, earlier ≠ place ∧ (index, earlier) ∈ system.processed ∧
    system.emitted[earlier]? = some ⟨dst, last.message⟩ ∧
    lastNotification notification.peerPubkey (system.clients index).acts = some last ∧
    last.remoteSessionId = notification.remoteSessionId

end System

/-- The checks of a trusted and enabled peer leave only the comparison of the sessions. -/
theorem ClientRun.initiate_eq (run : ClientRun SigningKey DateTime) (now : Instant) (notification : Notification)
    {state : PeerState} (trusted : run.establisher.trustedRemotes[notification.peerPubkey]? = some state)
    (enabled : state.isDiscoveryEnabled now = true) :
    run.initiate now notification =
      if run.establisher.lastSession notification.peerPubkey = some notification.remoteSessionId then
        { run with stage := .idle none }
      else run.accept notification state := by
  simp only [initiate, trusted, enabled, UdpConnectionEstablisher.lastSession, Option.bind_some, accept]
  rfl

/-- The arrival of a notification at a client that waits for it. -/
theorem System.notify_client (crates : Crates SigningKey DateTime) (system : System SigningKey DateTime n)
    {now : Instant} {index : Fin n} {place : Nat} {random : UInt32} {dst : SocketAddrV4} {notification : Notification}
    (delivered : system.delivers (.notify index place random) = true)
    (found : system.emitted[place]? = some ⟨dst, notification.message⟩) :
    (system.next crates (now, .notify index place random)).clients index =
      (system.clients index).initiate now notification := by
  have receiving : (system.clients index).stage = .receiving := by
    simp only [delivers, Bool.and_eq_true, decide_eq_true_eq] at delivered
    exact delivered.1
  have parsed := notification.message.tryParse_toBytes []
  rw [List.append_nil] at parsed
  simp only [next, found, advance_clients, if_pos, arrival, ClientRun.step, receiving, ClientRun.receive, serverAddr,
    ne_eq, not_true_eq_false, if_false, parsed]
  rfl

/-- A client accepts a new notification about an enabled peer, exactly when the last one that it accepted about the
peer does not come from another match with the same session of the peer. -/
theorem notification_accepted_iff (crates : Crates SigningKey DateTime) {system : System SigningKey DateTime n}
    (reachable : (faultyMachine crates).Reachable system) {now : Instant} {index : Fin n} {place : Nat}
    {random : UInt32} (allowed : (faultyMachine crates).allowed system (now, .notify index place random))
    {dst : SocketAddrV4} {notification : Notification}
    (sent : system.emitted[place]? = some ⟨dst, notification.message⟩) {state : PeerState}
    (trusted : (system.clients index).establisher.trustedRemotes[notification.peerPubkey]? = some state)
    (enabled : state.isDiscoveryEnabled now = true) (unprocessed : (index, place) ∉ system.processed) :
    system.Accepts crates now index place random notification ↔ ¬ system.Rematched index place notification := by
  have traced := System.sessionsTraced_of_reachable reachable
  have kept := traced.kept index notification.peerPubkey
  rw [System.Accepts, system.notify_client crates allowed.2.1 sent,
    (system.clients index).initiate_eq now notification trusted enabled, kept]
  cases known : lastNotification notification.peerPubkey (system.clients index).acts with
  | none =>
      rw [if_neg (by simp)]
      refine ⟨fun _ => ?_, fun _ => ⟨rfl, fun _ _ _ _ => rfl⟩⟩
      rintro ⟨_, _, last, _, _, _, found, _⟩
      rw [known] at found
      cases found
  | some last =>
      have accepted := (lastNotification_accepted known).1
      obtain ⟨earlier, address, processed, found⟩ := traced.accepted index last accepted
      have other : earlier ≠ place := by
        rintro rfl
        exact unprocessed processed
      by_cases same : last.remoteSessionId = notification.remoteSessionId
      · rw [if_pos (by simp [same])]
        refine ⟨fun accepts => absurd accepts.1 (by simp), fun single => absurd ?_ single⟩
        exact ⟨earlier, address, last, other, processed, found, known, same⟩
      · rw [if_neg (by simp [same])]
        refine ⟨fun _ => ?_, fun _ => ⟨rfl, fun _ _ _ _ => rfl⟩⟩
        rintro ⟨_, _, again, _, _, _, knownAgain, sameAgain⟩
        rw [known] at knownAgain
        cases knownAgain
        exact same sameAgain

/-- The clients 1 and 2 trust each other. Client 1 asks for client 2, and then client 2 asks for client 1. -/
def sampleMatching : List (Instant × SystemEvent UtcNanos 2) :=
  [(0, .client 0 (.call (.addTrustedRemote (sampleKey 2)))), (0, .client 0 (.pollAccept none (sampleUtc 0))),
    (0, .client 0 .sent), (0, .client 1 (.call (.addTrustedRemote (sampleKey 1)))),
    (0, .client 1 (.pollAccept none (sampleUtc 0))), (0, .client 1 .sent),
    (0, .serve (sampleAddr 1) (sampleDatagram 1 11 2 (sampleUtc 0)) (sampleUtc 0)),
    (0, .serve (sampleAddr 2) (sampleDatagram 2 12 1 (sampleUtc 0)) (sampleUtc 0))]

/-- Client 2 accepts the match, its hole punch fails after half a second, and client 1 is never told. After three
seconds client 1 repeats its request in its old session, and client 2 asks for client 1 in a new one. -/
def sampleRetry : List (Instant × SystemEvent UtcNanos 2) :=
  [(0, .notify 1 1 0), (0, .client 1 (.swapped none (sampleAddr 3) 13)),
    (Duration.fromMillis 500, .client 1 (.punched (.error ⟨false, false⟩))),
    (Duration.fromSecs 1, .client 0 .timedOut),
    (Duration.fromSecs 3, .client 0 (.pollAccept none (sampleUtc 3))), (Duration.fromSecs 3, .client 0 .sent),
    (Duration.fromSecs 3, .serve (sampleAddr 1) (sampleDatagram 1 11 2 (sampleUtc 3)) (sampleUtc 3)),
    (Duration.fromSecs 3, .client 1 (.pollAccept none (sampleUtc 3))), (Duration.fromSecs 3, .client 1 .sent),
    (Duration.fromSecs 3, .serve (sampleAddr 3) (sampleDatagram 2 13 1 (sampleUtc 3)) (sampleUtc 3))]

def sampleSystemRun (events : List (Instant × SystemEvent UtcNanos 2)) : System PublicKey UtcNanos 2 :=
  events.foldl (System.next plainCrates) (sampleSystem 2)

theorem sampleSystemRun_reachable {events : List (Instant × SystemEvent UtcNanos 2)}
    (checked : (faultyMachine plainCrates).valid (sampleSystem 2) events = true) :
    (faultyMachine plainCrates).Reachable (sampleSystemRun events) := by
  have initial : (faultyMachine plainCrates).initial (sampleSystem 2) :=
    ⟨_, fun _ => ⟨_, _, _, _, _, _, rfl⟩, rfl, by decide⟩
  exact .of_valid initial checked

/-- The notification of client 2 about client 1. -/
def sampleNotification : Notification := ⟨sampleKey 1, sampleAddr 1, 11, true⟩

/-- Client 2 accepts the first match. -/
theorem notification_accepted_sample :
    (sampleSystemRun sampleMatching).Accepts plainCrates 0 1 1 0 sampleNotification := by
  have checked : (faultyMachine plainCrates).valid (sampleSystem 2) sampleMatching = true ∧
      (faultyMachine plainCrates).allowed (sampleSystemRun sampleMatching) (0, .notify 1 1 0) ∧
      (sampleSystemRun sampleMatching).emitted[1]? = some ⟨sampleAddr 2, sampleNotification.message⟩ ∧
      ((sampleSystemRun sampleMatching).clients 1).establisher.trustedRemotes[sampleKey 1]? = some .default ∧
      (sampleSystemRun sampleMatching).processed = [] := by
    decide +kernel
  obtain ⟨valid, allowed, sent, trusted, unprocessed⟩ := checked
  refine (notification_accepted_iff plainCrates (sampleSystemRun_reachable valid) allowed sent trusted rfl
    (by simp [unprocessed])).mpr ?_
  rintro ⟨earlier, _, _, _, processed, _⟩
  rw [unprocessed] at processed
  cases processed

/-- Client 2 drops the second match, because client 1 is still in the session of the first. -/
theorem notification_accepted_fails : ¬ ∀ (n : Nat) (system : System PublicKey UtcNanos n) (now : Instant)
    (index : Fin n) (place : Nat) (random : UInt32) (dst : SocketAddrV4) (notification : Notification)
    (state : PeerState), (faultyMachine plainCrates).Reachable system →
    (faultyMachine plainCrates).allowed system (now, .notify index place random) →
    system.emitted[place]? = some ⟨dst, notification.message⟩ →
    (system.clients index).establisher.trustedRemotes[notification.peerPubkey]? = some state →
    state.isDiscoveryEnabled now = true → (index, place) ∉ system.processed →
    system.Accepts plainCrates now index place random notification := by
  intro claim
  have checked : (faultyMachine plainCrates).valid (sampleSystem 2) (sampleMatching ++ sampleRetry) = true ∧
      (faultyMachine plainCrates).allowed (sampleSystemRun (sampleMatching ++ sampleRetry))
        (Duration.fromSecs 3, .notify 1 3 0) ∧
      (sampleSystemRun (sampleMatching ++ sampleRetry)).emitted[3]? =
        some ⟨sampleAddr 3, sampleNotification.message⟩ ∧
      ((sampleSystemRun (sampleMatching ++ sampleRetry)).clients 1).establisher.trustedRemotes[sampleKey 1]? =
        some ⟨.disabledUntil (Duration.fromMillis 600), Duration.fromMillis 200, some 11⟩ ∧
      (sampleSystemRun (sampleMatching ++ sampleRetry)).processed = [(1, 1)] ∧
      ((System.next plainCrates (sampleSystemRun (sampleMatching ++ sampleRetry))
        (Duration.fromSecs 3, .notify 1 3 0)).clients 1).stage = .idle none := by
    decide +kernel
  obtain ⟨valid, allowed, sent, trusted, processed, dropped⟩ := checked
  have accepts := claim 2 _ _ 1 3 0 _ sampleNotification _ (sampleSystemRun_reachable valid) allowed sent trusted
    (by decide) (by simp [processed])
  have stage := accepts.1
  rw [dropped] at stage
  cases stage

end RepriseP2p.Udp
