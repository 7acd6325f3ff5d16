/-
This file proves that the registry is determined by the history of its announcements and cleanups.
-/

import RepriseP2p.Tcp.Directory

namespace RepriseP2p.Tcp

/-- The latest announcement of a session in a run, and the operations after it. -/
def Latest (ops : List (Instant × RegistryOp)) (session : UInt64) (tm : Instant) (data : ClientAnnouncementData)
    (addr : SocketAddr) (later : List (Instant × RegistryOp)) : Prop :=
  ∃ before, ops = before ++ (tm, .announce data addr) :: later ∧ data.session = session ∧
    ∀ op ∈ later, RegistryOp.announces session op = false

/-- An announcement lives when it is the latest of its session and every cleanup after it came in time. -/
theorem lives_iff_latest {ops : List (Instant × RegistryOp)} {tm : Instant} {data : ClientAnnouncementData}
    {addr : SocketAddr} : Lives ops tm data addr ↔ ∃ later, Latest ops data.session tm data addr later ∧
      ∀ now, (now, .update) ∈ later → now.elapsed tm ≤ Duration.fromMillis announcementDurationMs := by
  constructor
  · rintro ⟨before, later, split, unended⟩
    refine ⟨later, ⟨before, split, rfl, ?_⟩, ?_⟩
    · rintro ⟨now, op⟩ member
      cases op with
      | announce other origin =>
          have differ : other.session ≠ data.session := unended _ member
          simpa [RegistryOp.announces] using differ
      | _ => rfl
    · intro now member
      exact Nat.le_of_not_lt (unended _ member)
  · rintro ⟨later, ⟨before, split, _, unannounced⟩, young⟩
    refine ⟨before, later, split, ?_⟩
    rintro ⟨now, op⟩ member
    cases op with
    | announce other origin =>
        have differ := unannounced _ member
        rw [RegistryOp.announces, decide_eq_false_iff_not] at differ
        exact differ
    | update => exact Nat.not_lt.mpr (young now member)
    | _ => exact id

namespace State

/-- A registered client is stored with its latest announcement. -/
theorem after_latest {ops : List (Instant × RegistryOp)} {session : UInt64} {client : KnownClient}
    (found : (after ops).clients[session]? = some client) : client.data.session = session ∧
      ∃ later, Latest ops session client.lastAnnouncement client.data client.addr later ∧
        ∀ now, (now, .update) ∈ later →
          now.elapsed client.lastAnnouncement ≤ Duration.fromMillis announcementDurationMs := by
  obtain ⟨own, lives⟩ := (registered_iff ops session client.lastAnnouncement client.data client.addr).mp
    ⟨client, found, rfl, rfl, rfl⟩
  exact ⟨own, own ▸ lives_iff_latest.mp lives⟩

theorem mem_after_iff (ops : List (Instant × RegistryOp)) (session : UInt64) : session ∈ (after ops).clients ↔
    ∃ tm data addr later, Latest ops session tm data addr later ∧
      ∀ now, (now, .update) ∈ later → now.elapsed tm ≤ Duration.fromMillis announcementDurationMs := by
  rw [Std.ExtTreeMap.mem_iff_isSome_getElem?, Option.isSome_iff_exists]
  constructor
  · rintro ⟨client, found⟩
    obtain ⟨_, later, latest, young⟩ := after_latest found
    exact ⟨_, _, _, later, latest, young⟩
  · rintro ⟨tm, data, addr, later, latest, young⟩
    obtain rfl : data.session = session := latest.choose_spec.2.1
    obtain ⟨client, found, _⟩ :=
      (registered_iff ops _ tm data addr).mpr ⟨rfl, lives_iff_latest.mpr ⟨later, latest, young⟩⟩
    exact ⟨client, found⟩

/-- The listed sessions are the keys of the registry. -/
theorem getClients_sessions (state : State) (app : String) (now : Instant) :
    (state.getClients app now).map (fun client => client.data.session) = state.clients.keys := by
  rw [getClients, List.map_map, ← Std.ExtTreeMap.map_fst_toList_eq_keys]
  apply List.map_congr_left
  rintro ⟨session, client⟩ member
  exact state.keyed session client (Std.ExtTreeMap.mem_toList_iff_getElem?_eq_some.mp member)

/-- The list of clients names every registered session once. -/
theorem count_getClients (state : State) (app : String) (now : Instant) (session : UInt64) :
    ((state.getClients app now).map fun client => client.data.session).count session =
      if session ∈ state.clients then 1 else 0 := by
  rw [getClients_sessions]
  split_ifs with registered
  · exact List.count_eq_one_of_mem state.clients.nodup_keys (Std.ExtTreeMap.mem_keys.mpr registered)
  · exact List.count_eq_zero_of_not_mem fun member => registered (Std.ExtTreeMap.mem_keys.mp member)

end State

/-- After any operations a session is registered exactly when every cleanup after its latest announcement came within
three seconds of it, and then under its own key and with the data, the address and the time of that announcement. The
clients are listed once each. A cleanup removes the entries that are older than three seconds and changes no other. -/
theorem registry_history (ops : List (Instant × RegistryOp)) :
    (∀ session, session ∈ (State.after ops).clients ↔ ∃ tm data addr later, Latest ops session tm data addr later ∧
      ∀ now, (now, .update) ∈ later → now.elapsed tm ≤ Duration.fromMillis announcementDurationMs) ∧
    (∀ session client, (State.after ops).clients[session]? = some client → client.data.session = session ∧
      ∃ later, Latest ops session client.lastAnnouncement client.data client.addr later) ∧
    (∀ app now session, (((State.after ops).getClients app now).map fun client => client.data.session).count session =
      if session ∈ (State.after ops).clients then 1 else 0) ∧
    ∀ (now : Instant) (session : UInt64), (State.after (ops ++ [(now, .update)])).clients[session]? =
      (State.after ops).clients[session]?.filter fun (client : KnownClient) =>
        now.elapsed client.lastAnnouncement ≤ Duration.fromMillis announcementDurationMs := by
  refine ⟨State.mem_after_iff ops, ?_, (State.after ops).count_getClients, ?_⟩
  · intro session client found
    obtain ⟨own, later, latest, _⟩ := State.after_latest found
    exact ⟨own, later, latest⟩
  · intro now session
    rw [State.after, List.foldl_append]
    change ((State.after ops).apply (now, .update)).clients[session]? = _
    rw [State.apply_getElem?, RegistryOp.entry]
    congr 1
    funext client
    rw [State.expired, ← decide_not]
    exact decide_eq_decide.mpr Nat.not_lt

end RepriseP2p.Tcp
