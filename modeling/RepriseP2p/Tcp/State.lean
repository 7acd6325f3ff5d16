/-
This file models the registry of the TCP server and its five operations. Each of them runs under one lock, and one
clock reading stands for it.
-/

import RepriseP2p.Foundation.SocketAddr
import RepriseP2p.Foundation.Time

namespace RepriseP2p.Tcp

def scheduleConMs : Nat := 500
def connectionRequestTimeoutMs : Nat := 5000
def announcementDurationMs : Nat := 3000

structure ClientAnnouncementData where
  session : UInt64
  app : String
  username : String
  deriving DecidableEq

structure ClientAnnouncement where
  data : ClientAnnouncementData
  addr : SocketAddr
  tmAgo : Duration
  deriving DecidableEq

structure ConnectionRequest where
  session : UInt64
  deriving DecidableEq

/-- A pending request. The number `tx` names the channel whose sender it holds. -/
structure IncomingConnection where
  tm : Instant
  addr : SocketAddr
  tx : Nat
  deriving DecidableEq

structure KnownClient where
  lastAnnouncement : Instant
  data : ClientAnnouncementData
  addr : SocketAddr
  pendingConnection : Option IncomingConnection
  deriving DecidableEq

/-- The registered clients. Each is stored under its own session. -/
structure State where
  clients : Std.ExtTreeMap UInt64 KnownClient compare
  keyed : ∀ (session : UInt64) (client : KnownClient), clients[session]? = some client → client.data.session = session

namespace State

def new : State := ⟨∅, by simp⟩

/-- The registry with this client under its own session. -/
def put (state : State) (client : KnownClient) : State where
  clients := state.clients.insert client.data.session client
  keyed session other found := by
    rw [Std.ExtTreeMap.getElem?_insert] at found
    split_ifs at found with same
    · cases found
      exact Std.LawfulEqCmp.compare_eq_iff_eq.mp same
    · exact state.keyed session other found

theorem put_getElem? (state : State) (client : KnownClient) (session : UInt64) :
    (state.put client).clients[session]? =
      if client.data.session = session then some client else state.clients[session]? := by
  simp [put, Std.ExtTreeMap.getElem?_insert]

/-- The registry without this session. -/
def remove (state : State) (session : UInt64) : State where
  clients := state.clients.erase session
  keyed other client found := by
    rw [Std.ExtTreeMap.getElem?_erase] at found
    split_ifs at found
    exact state.keyed other client found

theorem remove_getElem? (state : State) (removed session : UInt64) :
    (state.remove removed).clients[session]? = if removed = session then none else state.clients[session]? := by
  simp [remove, Std.ExtTreeMap.getElem?_erase]

/-- The entry of an announced client after the update. -/
def announced (state : State) (announce : ClientAnnouncementData) (addr : SocketAddr) (now : Instant) : KnownClient :=
  match state.clients[announce.session]? with
  | some client => { client with lastAnnouncement := now, addr := addr, data := announce }
  | none => ⟨now, announce, addr, none⟩

/-- What `take_if` takes and what it leaves. An expired request stays. -/
def takeIf (now : Instant) : Option IncomingConnection → Option IncomingConnection × Option IncomingConnection
  | some incoming => if now < incoming.tm then (some incoming, none) else (none, some incoming)
  | none => (none, none)

def announceCheck (state : State) (announce : ClientAnnouncementData) (addr : SocketAddr) (now : Instant) :
    State × Option IncomingConnection :=
  let entry := state.announced announce addr now
  let (taken, left) := takeIf now entry.pendingConnection
  (state.put { entry with pendingConnection := left }, taken)

/-- All clients, of whatever application. -/
def getClients (state : State) (_app : String) (now : Instant) : List ClientAnnouncement :=
  state.clients.toList.map fun (_, client) => ⟨client.data, client.addr, now.elapsed client.lastAnnouncement⟩

/-- The new request replaces the old one. The result is the address of the announced client. -/
def insertConnectionRequest (state : State) (request : ConnectionRequest) (addr : SocketAddr) (tx : Nat)
    (now : Instant) : State × Option SocketAddr :=
  match state.clients[request.session]? with
  | some client =>
      let incoming : IncomingConnection :=
        ⟨now + Duration.fromMillis (connectionRequestTimeoutMs - 500), addr, tx⟩
      (state.put { client with pendingConnection := some incoming }, some client.addr)
  | none => (state, none)

def removeConnectionRequest (state : State) (session : UInt64) : State :=
  match state.clients[session]? with
  | some client => state.put { client with pendingConnection := none }
  | none => state

/-- The announcement is older than its duration. -/
def expired (client : KnownClient) (now : Instant) : Bool :=
  Duration.fromMillis announcementDurationMs < now.elapsed client.lastAnnouncement

/-- The sessions that a cleanup removes. -/
def toRemove (state : State) (now : Instant) : List UInt64 :=
  (state.clients.toList.filter fun (_, client) => expired client now).map fun (_, client) => client.data.session

def pollUpdate (state : State) (now : Instant) : State := (state.toRemove now).foldl remove state

/-- The pending request of a session. -/
def pending (state : State) (session : UInt64) : Option IncomingConnection :=
  state.clients[session]?.bind KnownClient.pendingConnection

variable (state : State)

theorem pending_put (client : KnownClient) (session : UInt64) :
    (state.put client).pending session =
      if client.data.session = session then client.pendingConnection else state.pending session := by
  rw [pending, put_getElem?]
  split_ifs <;> rfl

theorem pending_remove (removed session : UInt64) :
    (state.remove removed).pending session = if removed = session then none else state.pending session := by
  rw [pending, remove_getElem?]
  split_ifs <;> rfl

theorem announced_eq (announce : ClientAnnouncementData) (addr : SocketAddr) (now : Instant) :
    state.announced announce addr now = ⟨now, announce, addr, state.pending announce.session⟩ := by
  unfold announced pending
  cases state.clients[announce.session]? <;> rfl

/-- Announcing touches only the pending request of its own session. -/
theorem pending_announceCheck (announce : ClientAnnouncementData) (addr : SocketAddr) (now : Instant)
    (session : UInt64) : (state.announceCheck announce addr now).1.pending session =
      if announce.session = session then (takeIf now (state.pending session)).2 else state.pending session := by
  rw [announceCheck, announced_eq, pending_put]
  split_ifs with same
  · rw [same]
  · rfl

theorem announceCheck_taken (announce : ClientAnnouncementData) (addr : SocketAddr) (now : Instant) :
    (state.announceCheck announce addr now).2 = (takeIf now (state.pending announce.session)).1 := by
  rw [announceCheck, announced_eq]

/-- Nothing is taken or nothing is left. -/
theorem takeIf_cases (now : Instant) (slot : Option IncomingConnection) :
    takeIf now slot = (none, slot) ∨ ∃ incoming, slot = some incoming ∧ takeIf now slot = (some incoming, none) := by
  cases slot with
  | none => exact .inl rfl
  | some incoming =>
      by_cases live : now < incoming.tm
      · exact .inr ⟨incoming, rfl, if_pos live⟩
      · exact .inl (if_neg live)

/-- An insertion needs an announced session, and it replaces the pending request there. -/
theorem pending_insertConnectionRequest (request : ConnectionRequest) (addr : SocketAddr) (tx : Nat) (now : Instant)
    (session : UInt64) : (state.insertConnectionRequest request addr tx now).1.pending session =
      if request.session = session ∧ (state.insertConnectionRequest request addr tx now).2.isSome then
        some ⟨now + Duration.fromMillis (connectionRequestTimeoutMs - 500), addr, tx⟩
      else state.pending session := by
  unfold insertConnectionRequest
  cases found : state.clients[request.session]? with
  | none => simp
  | some client => simp [pending_put, state.keyed _ _ found]

/-- A removal clears the request of its session, whoever inserted it. -/
theorem pending_removeConnectionRequest (removed session : UInt64) :
    (state.removeConnectionRequest removed).pending session =
      if removed = session then none else state.pending session := by
  unfold removeConnectionRequest
  cases found : state.clients[removed]? with
  | none =>
      split_ifs with same
      · rw [← same, pending, found]
        rfl
      · rfl
  | some client => simp [pending_put, state.keyed _ _ found]

theorem pending_foldl_remove (sessions : List UInt64) (session : UInt64) :
    (sessions.foldl remove state).pending session = if session ∈ sessions then none else state.pending session := by
  induction sessions generalizing state with
  | nil => simp
  | cons removed sessions ih =>
      rw [List.foldl_cons, ih, pending_remove]
      by_cases same : removed = session
      · simp [same]
      · simp [same, Ne.symm same]

/-- A cleanup drops the pending requests of the sessions with an expired announcement. -/
theorem pending_pollUpdate (now : Instant) (session : UInt64) : (state.pollUpdate now).pending session =
    if session ∈ state.toRemove now then none else state.pending session :=
  state.pending_foldl_remove _ _

/-- The address of a registered session. -/
def addrOf (session : UInt64) : Option SocketAddr := state.clients[session]?.map KnownClient.addr

/-- The connector gets the address of the registered session. -/
theorem insertConnectionRequest_dst (request : ConnectionRequest) (addr : SocketAddr) (tx : Nat) (now : Instant) :
    (state.insertConnectionRequest request addr tx now).2 = state.addrOf request.session := by
  unfold insertConnectionRequest addrOf
  cases state.clients[request.session]? <;> rfl

/-- A refused request changes nothing. -/
theorem insertConnectionRequest_refused (request : ConnectionRequest) (addr : SocketAddr) {tx : Nat} {now : Instant}
    {later : State} (refused : state.insertConnectionRequest request addr tx now = (later, none)) : later = state := by
  unfold insertConnectionRequest at refused
  split at refused
  · cases refused
  · cases refused
    rfl

/-- The removed sessions are those whose own announcement is expired. -/
theorem mem_toRemove (now : Instant) (session : UInt64) :
    session ∈ state.toRemove now ↔ ∃ client, state.clients[session]? = some client ∧ expired client now = true := by
  simp only [toRemove, List.mem_map, List.mem_filter]
  constructor
  · rintro ⟨⟨key, client⟩, ⟨listed, old⟩, rfl⟩
    have found := Std.ExtTreeMap.mem_toList_iff_getElem?_eq_some.mp listed
    exact ⟨client, state.keyed key client found ▸ found, old⟩
  · rintro ⟨client, found, old⟩
    exact ⟨(session, client), ⟨Std.ExtTreeMap.mem_toList_iff_getElem?_eq_some.mpr found, old⟩,
      state.keyed session client found⟩

end State

end RepriseP2p.Tcp
