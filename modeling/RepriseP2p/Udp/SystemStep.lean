/-
This file lists what one step of the system changes at each client, at the server and on the wire.
-/

import RepriseP2p.Udp.System

namespace RepriseP2p.Udp

namespace System

variable {SigningKey DateTime : Type} {n : Nat} (system : System SigningKey DateTime n)
  (crates : Crates SigningKey DateTime)

/-- The client receives the datagram of the server at this place. -/
def Arrives (system : System SigningKey DateTime n) (event : SystemEvent DateTime n) (index : Fin n)
    (bytes : List UInt8) : Prop :=
  ∃ place random datagram, event = .notify index place random ∧ system.emitted[place]? = some datagram ∧
    datagram.dst = (system.clients index).establisher.socket.addr ∧ bytes = datagram.message.toBytes

theorem advance_clients (now : Instant) (index other : Fin n) (event : ClientEvent DateTime) :
    (system.advance crates now index event).clients other =
      if other = index then (system.clients index).step crates now event else system.clients other :=
  Function.update_apply _ _ _ _

/-- Every client takes a step of its own, and it hears from the server only what the server sent to its socket. -/
theorem next_client (event : Instant × SystemEvent DateTime n) (delivered : system.delivers event.2 = true)
    (index : Fin n) : ∃ clientEvent,
      (system.clients index).StepCase crates event.1 clientEvent ((system.next crates event).clients index) ∧
      ∀ bytes random, clientEvent = .received (system.serverAddr index) bytes random →
        system.Arrives event.2 index bytes := by
  have idle : (system.clients index).StepCase crates event.1 .dropped (system.clients index) := .ignored
  obtain ⟨now, event⟩ := event
  cases event with
  | client moved clientEvent =>
      simp only [next, advance_clients]
      split_ifs with same
      · subst same
        refine ⟨clientEvent, ClientRun.step_case crates now _ clientEvent, ?_⟩
        rintro bytes random rfl
        simp [delivers] at delivered
      · exact ⟨.dropped, idle, fun _ _ => nofun⟩
  | notify moved place random =>
      simp only [next]
      cases found : system.emitted[place]? with
      | none => exact ⟨.dropped, idle, fun _ _ => nofun⟩
      | some datagram =>
          simp only [advance_clients]
          split_ifs with same
          · subst same
            refine ⟨_, ClientRun.step_case crates now _ _, ?_⟩
            intro bytes other equal
            cases equal
            simp only [delivers, found, Option.any_some, Bool.and_eq_true, decide_eq_true_eq] at delivered
            exact ⟨place, random, datagram, rfl, found, delivered.2, rfl⟩
          · exact ⟨.dropped, idle, fun _ _ => nofun⟩
  | serve src bytes utcNow => exact ⟨.dropped, idle, fun _ _ => nofun⟩

/-- The server handles at most the request that arrives. -/
theorem next_server (event : Instant × SystemEvent DateTime n) :
    (system.next crates event).server = system.server ∨
      ∃ src bytes utcNow request, event.2 = .serve src bytes utcNow ∧
        acceptDatagram crates src bytes utcNow event.1 = some request ∧
        (system.next crates event).server = system.server.receive request := by
  obtain ⟨now, event⟩ := event
  cases event with
  | client moved clientEvent => exact .inl rfl
  | notify moved place random =>
      simp only [next]
      split <;> exact .inl rfl
  | serve src bytes utcNow =>
      simp only [next]
      cases accepted : acceptDatagram crates src bytes utcNow now with
      | none => exact .inl rfl
      | some request => exact .inr ⟨src, bytes, utcNow, request, rfl, accepted, rfl⟩

theorem next_received (event : Instant × SystemEvent DateTime n) :
    (system.next crates event).received = system.received ∨
      ∃ src bytes utcNow, event.2 = .serve src bytes utcNow ∧
        (system.next crates event).received = system.received ++ [(src, bytes)] := by
  obtain ⟨now, event⟩ := event
  cases event with
  | client moved clientEvent => exact .inl rfl
  | notify moved place random =>
      simp only [next]
      split <;> exact .inl rfl
  | serve src bytes utcNow => exact .inr ⟨src, bytes, utcNow, rfl, rfl⟩

theorem next_clock (event : Instant × SystemEvent DateTime n) (ordered : system.clock ≤ event.1) :
    system.clock ≤ (system.next crates event).clock ∧ (system.next crates event).clock ≤ event.1 := by
  obtain ⟨now, event⟩ := event
  cases event with
  | client moved clientEvent => exact ⟨ordered, Nat.le_refl _⟩
  | notify moved place random =>
      simp only [next]
      split
      · exact ⟨Nat.le_refl _, ordered⟩
      · exact ⟨ordered, Nat.le_refl _⟩
  | serve src bytes utcNow => exact ⟨ordered, Nat.le_refl _⟩

/-- A client that takes a datagram from the server has processed it. -/
theorem processed_next (event : Instant × SystemEvent DateTime n) :
    system.processed <+: (system.next crates event).processed ∧
      ∀ index place random datagram, event.2 = .notify index place random →
        system.emitted[place]? = some datagram → (index, place) ∈ (system.next crates event).processed := by
  obtain ⟨now, event⟩ := event
  cases event with
  | client moved clientEvent => exact ⟨List.prefix_refl _, fun _ _ _ _ => nofun⟩
  | notify moved place random =>
      simp only [next]
      cases found : system.emitted[place]? with
      | none =>
          refine ⟨List.prefix_refl _, ?_⟩
          intro index other again datagram same present
          cases same
          rw [found] at present
          cases present
      | some datagram =>
          refine ⟨List.prefix_append _ _, ?_⟩
          intro index other again repeated same _
          cases same
          simp
  | serve src bytes utcNow => exact ⟨List.prefix_refl _, fun _ _ _ _ => nofun⟩

/-- What the server sent stays in its place. -/
theorem emitted_next (event : Instant × SystemEvent DateTime n) :
    system.emitted <+: (system.next crates event).emitted := by
  unfold emitted
  rcases system.next_server crates event with same | ⟨_, _, _, request, _, _, received⟩
  · rw [same]
  · rw [received, ServerRun.receive, List.flatMap_append]
    exact List.prefix_append _ _

theorem acts_next (event : Instant × SystemEvent DateTime n) (delivered : system.delivers event.2 = true)
    (index : Fin n) : (system.clients index).acts <+: ((system.next crates event).clients index).acts := by
  obtain ⟨clientEvent, taken, _⟩ := system.next_client crates event delivered index
  exact taken.acts_prefix

theorem pubkey_next (event : Instant × SystemEvent DateTime n) (delivered : system.delivers event.2 = true)
    (index : Fin n) : (system.next crates event).pubkey crates index = system.pubkey crates index := by
  obtain ⟨clientEvent, taken, _⟩ := system.next_client crates event delivered index
  rw [pubkey, pubkey, taken.key_eq]

end System

end RepriseP2p.Udp
