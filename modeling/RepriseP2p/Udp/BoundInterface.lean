/-
This file proves when the socket of a client belongs to the interface that the client has recorded.
-/

import RepriseP2p.Udp.ClientTrust

namespace RepriseP2p.Udp

variable {SigningKey DateTime : Type}

namespace ClientRun

/-- The socket was created for the recorded interface. -/
def Recorded (run : ClientRun SigningKey DateTime) : Prop :=
  run.establisher.socket.interface = run.establisher.curInterface

/-- No call is in progress. -/
def Idle (run : ClientRun SigningKey DateTime) : Prop := ∃ result, run.stage = .idle result

/-- The new socket of an accepted notification is created for another interface than the recorded one. -/
def swapsOther (run : ClientRun SigningKey DateTime) (event : Instant × ClientEvent DateTime) : Bool :=
  match run.stage, event.2 with
  | .swapping _, .swapped interface _ _ => interface ≠ run.establisher.curInterface
  | _, _ => false

/-- What a step does to the socket and to the recorded interface. -/
inductive SocketCase (run : ClientRun SigningKey DateTime) (event : ClientEvent DateTime)
    (next : ClientRun SigningKey DateTime) : Prop where
  | kept (socket : next.establisher.socket = run.establisher.socket)
      (curInterface : next.establisher.curInterface = run.establisher.curInterface)
  | rebound (recorded : next.Recorded)
  | swapped (notification : Notification) (interface : Option String) (addr : SocketAddrV4) (random : UInt32)
      (swapping : run.stage = .swapping notification) (taken : event = .swapped interface addr random)
      (socket : next.establisher.socket = ⟨addr, interface⟩)
      (curInterface : next.establisher.curInterface = run.establisher.curInterface)
      (punching : next.stage = .punching notification run.establisher.socket)

variable (crates : Crates SigningKey DateTime) (run : ClientRun SigningKey DateTime)

theorem placeRequests_socket (now : Instant) (utcNow : DateTime) :
    (run.placeRequests crates now utcNow).establisher.socket = run.establisher.socket ∧
      (run.placeRequests crates now utcNow).establisher.curInterface = run.establisher.curInterface := by
  obtain ⟨offset, list⟩ := run.establisher.newAvailableRemotesList_eq now
  simp only [placeRequests, list]
  split_ifs
  · exact ⟨rfl, rfl⟩
  · split <;> exact ⟨rfl, rfl⟩
  · exact ⟨rfl, rfl⟩

theorem receive_socket (now : Instant) (src : SocketAddr) (bytes : List UInt8) (random : UInt32) :
    (run.receive now src bytes random).establisher.socket = run.establisher.socket ∧
      (run.receive now src bytes random).establisher.curInterface = run.establisher.curInterface := by
  unfold receive
  split_ifs
  · exact ⟨rfl, rfl⟩
  · split
    · simp only [initiate]
      split
      · exact ⟨rfl, rfl⟩
      · split_ifs <;> exact ⟨rfl, rfl⟩
    · exact ⟨rfl, rfl⟩
    · exact ⟨rfl, rfl⟩
    · exact ⟨rfl, rfl⟩

/-- A step keeps the socket and the record, sets both, or swaps the socket alone. -/
theorem step_socket (now : Instant) (event : ClientEvent DateTime) :
    run.SocketCase event (run.step crates now event) := by
  unfold step
  split
  · rename_i result call idle
    cases call <;> exact .kept rfl rfl
  · rename_i interface utcNow idle
    split_ifs
    · exact .kept rfl rfl
    · obtain ⟨socket, curInterface⟩ := run.placeRequests_socket crates now utcNow
      exact .kept socket curInterface
  · rename_i interface addr utcNow rebinding
    obtain ⟨socket, curInterface⟩ := placeRequests_socket crates
      { run with establisher := { run.establisher with socket := ⟨addr, interface⟩, curInterface := interface } }
      now utcNow
    refine .rebound ?_
    rw [Recorded, socket, curInterface]
  · exact .kept rfl rfl
  · exact .kept rfl rfl
  · rename_i src bytes random receiving
    obtain ⟨socket, curInterface⟩ := run.receive_socket now src bytes random
    exact .kept socket curInterface
  · exact .kept rfl rfl
  · exact .kept rfl rfl
  · rename_i notification interface addr random swapping
    exact .swapped notification interface addr random swapping rfl rfl rfl rfl
  · rename_i notification socket outcome punching
    cases outcome <;> exact .kept rfl rfl
  · exact .kept rfl rfl
  · exact .kept rfl rfl
  · exact .kept rfl rfl
  · exact .kept rfl rfl

/-- A call that punches a hole goes on punching, or it ends with the same socket and the same record. -/
theorem step_punching (now : Instant) (event : ClientEvent DateTime) {notification : Notification}
    {socket : UdpSocket} (punching : run.stage = .punching notification socket) :
    run.step crates now event = run ∨
      ((run.step crates now event).Idle ∧ ((run.step crates now event).Recorded ↔ run.Recorded)) := by
  cases event with
  | punched outcome =>
      simp only [step, punching]
      cases outcome with
      | ok addr => exact .inr ⟨⟨_, rfl⟩, Iff.rfl⟩
      | error error => exact .inr ⟨⟨_, rfl⟩, Iff.rfl⟩
  | dropped =>
      simp only [step, punching]
      exact .inr ⟨⟨_, rfl⟩, Iff.rfl⟩
  | _ =>
      simp only [step, punching]
      exact .inl trivial

theorem Recorded.step {run : ClientRun SigningKey DateTime} (recorded : run.Recorded)
    {event : Instant × ClientEvent DateTime} (same : ¬ run.swapsOther event = true) :
    (run.step crates event.1 event.2).Recorded := by
  cases run.step_socket crates event.1 event.2 with
  | kept socket curInterface =>
      rw [Recorded, socket, curInterface]
      exact recorded
  | rebound recorded => exact recorded
  | swapped notification interface addr random swapping taken socket curInterface punching =>
      rw [Recorded, socket, curInterface]
      by_contra other
      simp only [swapsOther, swapping, taken, decide_eq_true_eq, not_not] at same
      exact other same

theorem step_swapsOther {run : ClientRun SigningKey DateTime} {event : Instant × ClientEvent DateTime}
    (swaps : run.swapsOther event = true) : ¬ (run.step crates event.1 event.2).Recorded ∧
      ∃ notification socket, (run.step crates event.1 event.2).stage = .punching notification socket := by
  unfold swapsOther at swaps
  split at swaps
  · rename_i notification interface addr random swapping taken
    have other : interface ≠ run.establisher.curInterface := of_decide_eq_true swaps
    simp only [ClientRun.step, taken, swapping]
    exact ⟨other, notification, _, rfl⟩
  · cases swaps

/-- After a swap for another interface, the record is wrong whenever the call has ended. -/
theorem wrong_of_swaps {start : ClientRun SigningKey DateTime} {events : List (Instant × ClientEvent DateTime)}
    {run : ClientRun SigningKey DateTime} (ran : (clientMachine crates).Run start events run)
    (swaps : ¬ (clientMachine crates).Avoids start events fun run event => run.swapsOther event = true) :
    (∃ middle, (clientMachine crates).Passes start events middle ∧ middle.Idle ∧ ¬ middle.Recorded) ∨
      (¬ run.Recorded ∧ ∃ notification socket, run.stage = .punching notification socket) := by
  refine ran.invariant_after swaps (fun events run =>
    (∃ middle, (clientMachine crates).Passes start events middle ∧ middle.Idle ∧ ¬ middle.Recorded) ∨
      (¬ run.Recorded ∧ ∃ notification socket, run.stage = .punching notification socket)) ?_ ?_
  · intro events state event _ _ last
    exact .inr (step_swapsOther crates last)
  · rintro events state event before allowed (⟨middle, passed, idle, wrong⟩ | ⟨wrong, notification, socket, punching⟩)
    · exact .inl ⟨middle, (before.passes_snoc allowed).mpr (.inl passed), idle, wrong⟩
    · obtain same | ⟨idle, kept⟩ := state.step_punching crates event.1 event.2 punching
      · refine .inr ?_
        rw [show (clientMachine crates).next state event = state from same]
        exact ⟨wrong, notification, socket, punching⟩
      · exact .inl ⟨_, (before.passes_snoc allowed).mpr (.inr rfl), idle, fun right => wrong (kept.mp right)⟩

/-- With a right record the next call binds a new socket whenever the interface differs from that of the socket. -/
theorem Recorded.rebinds {run : ClientRun SigningKey DateTime} (recorded : run.Recorded) (idle : run.Idle)
    (now : Instant) (utcNow : DateTime) {interface : Option String}
    (needed : interface ≠ run.establisher.socket.interface) :
    (run.step crates now (.pollAccept interface utcNow)).stage = .rebinding interface := by
  obtain ⟨result, stage⟩ := idle
  rw [recorded] at needed
  simp only [ClientRun.step, stage, if_pos needed]

end ClientRun

/-- Between any two calls of a run the socket belongs to the recorded interface exactly when both answers of the
tracker agreed at the start, and no call has swapped the socket for another interface than the recorded one. -/
theorem client_socket_recorded_iff (crates : Crates SigningKey DateTime) {start run : ClientRun SigningKey DateTime}
    {events : List (Instant × ClientEvent DateTime)} (initial : (clientMachine crates).initial start)
    (ran : (clientMachine crates).Run start events run) (ended : run.Idle) :
    (∀ middle, (clientMachine crates).Passes start events middle → middle.Idle → middle.Recorded) ↔
      start.Recorded ∧ (clientMachine crates).Avoids start events fun run event => run.swapsOther event = true := by
  constructor
  · intro recorded
    constructor
    · obtain ⟨_, _, _, _, _, _, rfl⟩ := initial
      exact recorded _ ⟨[], events, rfl, .nil⟩ ⟨none, rfl⟩
    · by_contra swaps
      obtain ⟨middle, passed, idle, wrong⟩ | ⟨_, notification, socket, punching⟩ :=
        ClientRun.wrong_of_swaps crates ran swaps
      · exact wrong (recorded middle passed idle)
      · obtain ⟨result, idle⟩ := ended
        rw [idle] at punching
        cases punching
  · rintro ⟨right, avoids⟩ middle ⟨earlier, later, rfl, before⟩ _
    apply before.invariant_avoiding avoids.of_append ClientRun.Recorded right
    intro state event recorded good
    exact recorded.step crates good

/-- Client 1 connects with client 2 while the interface stays the same. -/
theorem client_socket_recorded_sample : (sampleClientRun sampleConnection).Recorded := by
  have ran := sampleClientRun_run sampleConnection
  have idle : (sampleClientRun sampleConnection).Idle := by
    refine ⟨some (.ok ⟨sampleKey 2, .v4 (sampleAddr 2), ⟨sampleAddr 1, none⟩, true⟩), ?_⟩
    decide +kernel
  apply (client_socket_recorded_iff plainCrates ⟨_, _, _, _, _, _, rfl⟩ ran idle).mpr ?_ _ ran.passes_end idle
  exact ⟨rfl, Machine.avoids_of_checked (by decide +kernel)⟩

/-- The interface changes to `wlan0` while client 1 swaps its socket. The record stays, and so does the socket. -/
theorem client_socket_recorded_fails : ¬ ∀ start events middle, sampleClientMachine.initial start →
    sampleClientMachine.Passes start events middle → middle.Idle → middle.Recorded := by
  intro claim
  have ran := sampleClientRun_run (sampleConnection.take 4 ++
    [(0, .swapped (some "wlan0") (sampleAddr 3) 12), (0, .punched (.ok (.v4 (sampleAddr 2))))])
  have recorded := claim _ _ _ ⟨_, _, _, _, _, _, rfl⟩ ran.passes_end
    ⟨some (.ok ⟨sampleKey 2, .v4 (sampleAddr 2), ⟨sampleAddr 1, none⟩, true⟩), by decide +kernel⟩
  revert recorded
  unfold ClientRun.Recorded
  decide +kernel

end RepriseP2p.Udp
