/-
This file gives the operations of the registry as data. Each of them acts on the entries one by one.
-/

import RepriseP2p.Tcp.State

namespace RepriseP2p.Tcp

/-- The operations that change the registry. -/
inductive RegistryOp where
  | announce (announce : ClientAnnouncementData) (addr : SocketAddr)
  | request (request : ConnectionRequest) (addr : SocketAddr) (tx : Nat)
  | withdraw (session : UInt64)
  | update
  deriving DecidableEq

namespace State

def apply (state : State) : Instant × RegistryOp → State
  | (now, .announce announce addr) => (state.announceCheck announce addr now).1
  | (now, .request request addr tx) => (state.insertConnectionRequest request addr tx now).1
  | (_, .withdraw session) => state.removeConnectionRequest session
  | (now, .update) => state.pollUpdate now

/-- The registry after some operations, oldest first. -/
def after (ops : List (Instant × RegistryOp)) : State := ops.foldl apply new

end State

/-- What an operation does to the entry of one session, whatever the other entries are. -/
def RegistryOp.entry (session : UInt64) (entry : Option KnownClient) : Instant × RegistryOp → Option KnownClient
  | (now, .announce data addr) =>
      if data.session = session then
        some ⟨now, data, addr, (State.takeIf now (entry.bind KnownClient.pendingConnection)).2⟩
      else entry
  | (now, .request asked addr tx) =>
      if asked.session = session then
        entry.map fun client => { client with
          pendingConnection := some ⟨now + Duration.fromMillis (connectionRequestTimeoutMs - 500), addr, tx⟩ }
      else entry
  | (_, .withdraw removed) =>
      if removed = session then entry.map fun client => { client with pendingConnection := none } else entry
  | (now, .update) => entry.filter fun client => !State.expired client now

namespace State

theorem foldl_remove_getElem? (state : State) (sessions : List UInt64) (session : UInt64) :
    (sessions.foldl remove state).clients[session]? = if session ∈ sessions then none else state.clients[session]? := by
  induction sessions generalizing state with
  | nil => simp
  | cons removed sessions ih =>
      rw [List.foldl_cons, ih, remove_getElem?]
      by_cases same : removed = session
      · simp [same]
      · simp [same, Ne.symm same]

/-- Only the entry of the session gets the new request. -/
theorem put_pending_getElem? (state : State) {asked : UInt64} {client : KnownClient}
    (found : state.clients[asked]? = some client) (slot : Option IncomingConnection) (session : UInt64) :
    (state.put { client with pendingConnection := slot }).clients[session]? =
      if asked = session then
        state.clients[session]?.map fun known => { known with pendingConnection := slot }
      else state.clients[session]? := by
  rw [put_getElem?, state.keyed _ _ found]
  split_ifs with same
  · rw [← same, found]
    rfl
  · rfl

/-- There is no entry to change. -/
theorem absent_getElem? (state : State) {asked : UInt64} (absent : state.clients[asked]? = none)
    (change : KnownClient → KnownClient) (session : UInt64) :
    state.clients[session]? =
      if asked = session then state.clients[session]?.map change else state.clients[session]? := by
  split_ifs with same
  · rw [← same, absent]
    rfl
  · rfl

/-- Every operation acts on the entries one by one. -/
theorem apply_getElem? (state : State) (op : Instant × RegistryOp) (session : UInt64) :
    (state.apply op).clients[session]? = RegistryOp.entry session state.clients[session]? op := by
  obtain ⟨now, op⟩ := op
  cases op with
  | announce announce addr =>
      rw [apply, announceCheck, announced_eq, put_getElem?, RegistryOp.entry]
      split_ifs with same
      · rw [← same]
        rfl
      · rfl
  | request request addr tx =>
      rw [apply, insertConnectionRequest, RegistryOp.entry]
      cases found : state.clients[request.session]? with
      | none => exact state.absent_getElem? found _ session
      | some client => exact state.put_pending_getElem? found _ session
  | withdraw removed =>
      rw [apply, removeConnectionRequest, RegistryOp.entry]
      cases found : state.clients[removed]? with
      | none => exact state.absent_getElem? found _ session
      | some client => exact state.put_pending_getElem? found _ session
  | update =>
      rw [apply, pollUpdate, foldl_remove_getElem?, RegistryOp.entry]
      simp only [mem_toRemove]
      cases state.clients[session]? with
      | none => simp
      | some client => cases old : expired client now <;> simp [Option.filter, old]

theorem after_getElem? (ops : List (Instant × RegistryOp)) (session : UInt64) :
    (after ops).clients[session]? = ops.foldl (RegistryOp.entry session) none := by
  induction ops using List.reverseRecOn with
  | nil => simp [after, new]
  | append_singleton ops op ih =>
      rw [after, List.foldl_append, List.foldl_append, ← ih]
      exact apply_getElem? (after ops) op session

end State

/-- The operation announces this session. -/
def RegistryOp.announces (session : UInt64) : Instant × RegistryOp → Bool
  | (_, .announce data _) => data.session = session
  | _ => false

/-- Only an announcement of the session changes its registered address, except that a cleanup removes it. -/
theorem State.addrOf_apply (state : State) {op : Instant × RegistryOp} {session : UInt64}
    (unannounced : RegistryOp.announces session op = false) : (state.apply op).addrOf session = none ∨
      (state.apply op).addrOf session = state.addrOf session := by
  rw [addrOf, apply_getElem?, addrOf]
  obtain ⟨now, op⟩ := op
  cases op with
  | announce data addr =>
      rw [RegistryOp.announces, decide_eq_false_iff_not] at unannounced
      rw [RegistryOp.entry, if_neg unannounced]
      exact .inr rfl
  | request asked addr tx =>
      rw [RegistryOp.entry]
      apply Or.inr
      split_ifs
      · rw [Option.map_map]
        rfl
      · rfl
  | withdraw removed =>
      rw [RegistryOp.entry]
      apply Or.inr
      split_ifs
      · rw [Option.map_map]
        rfl
      · rfl
  | update =>
      rw [RegistryOp.entry]
      cases state.clients[session]? with
      | none => exact .inr rfl
      | some client =>
          rw [Option.filter_some]
          split_ifs
          · exact .inr rfl
          · exact .inl rfl

/-- An announcement registers the address that it comes from. -/
theorem State.addrOf_announce (state : State) (now : Instant) (data : ClientAnnouncementData) (addr : SocketAddr) :
    (state.apply (now, .announce data addr)).addrOf data.session = some addr := by
  rw [addrOf, apply_getElem?, RegistryOp.entry, if_pos rfl]
  rfl

end RepriseP2p.Tcp
