/-
This file models the UDP client: the trusted peers, the requests that it places and `poll_accept`.
-/

import RepriseP2p.Foundation.Machine
import RepriseP2p.Foundation.Time
import RepriseP2p.Udp.Messages

namespace RepriseP2p.Udp

def holePunchFailedInitialTimeoutMs : Nat := 100
def holePunchFailedMaxTimeoutMs : Nat := 5000
def requestPlacementInterval : Nat := 2

inductive PeerStateKind where
  | connectionActive
  | enabled
  | disabledUntil (time : Instant)
  deriving DecidableEq

structure PeerState where
  stateKind : PeerStateKind
  failureRetryTimeout : Duration
  lastAcceptedSessionId : Option UInt32
  deriving DecidableEq

namespace PeerState

def isDiscoveryEnabled (state : PeerState) (now : Instant) : Bool :=
  match state.stateKind with
  | .connectionActive => false
  | .disabledUntil time => time < now
  | .enabled => true

def default : PeerState := ⟨.enabled, Duration.fromMillis holePunchFailedInitialTimeoutMs, none⟩

/-- The peer after a failed hole punch. -/
def failed (state : PeerState) (now : Instant) : PeerState :=
  let retried := state.failureRetryTimeout + min state.failureRetryTimeout (Duration.fromSecs 1)
  { state with
    stateKind := .disabledUntil (now + state.failureRetryTimeout)
    failureRetryTimeout := min retried (Duration.fromMillis holePunchFailedMaxTimeoutMs) }

/-- The peer after a successful hole punch. -/
def connected (state : PeerState) : PeerState :=
  { state with
    stateKind := .connectionActive
    failureRetryTimeout := Duration.fromMillis holePunchFailedInitialTimeoutMs }

end PeerState

/-- A socket, with the address that its datagrams come from and the interface that it was created for. -/
structure UdpSocket where
  addr : SocketAddrV4
  interface : Option String
  deriving DecidableEq

/-- The state of a client. Its interface tracker answers in the events. -/
structure UdpConnectionEstablisher (SigningKey : Type) where
  p2pServerAddr : SocketAddrV4
  trustedRemotes : Std.ExtTreeMap PublicKey PeerState compare
  lastRequestTm : Option Instant
  key : SigningKey
  sessionId : UInt32
  socket : UdpSocket
  curInterface : Option String
  lastTrustedPeerOffset : PublicKey

namespace UdpConnectionEstablisher

variable {SigningKey DateTime : Type}

/-- The interface tracker answers twice, once for the socket and once for the record of its interface. -/
def new (key : SigningKey) (p2pServerAddr : SocketAddrV4) (sessionId : UInt32) (addr : SocketAddrV4)
    (socketInterface curInterface : Option String) : UdpConnectionEstablisher SigningKey where
  p2pServerAddr := p2pServerAddr
  trustedRemotes := ∅
  lastRequestTm := none
  key := key
  sessionId := sessionId
  socket := ⟨addr, socketInterface⟩
  curInterface := curInterface
  lastTrustedPeerOffset := Vector.replicate 32 0

def addTrustedRemote (establisher : UdpConnectionEstablisher SigningKey) (key : PublicKey) :
    UdpConnectionEstablisher SigningKey :=
  { establisher with trustedRemotes := establisher.trustedRemotes.insertIfNew key .default }

def removeTrustedRemote (establisher : UdpConnectionEstablisher SigningKey) (key : PublicKey) :
    UdpConnectionEstablisher SigningKey :=
  { establisher with trustedRemotes := establisher.trustedRemotes.erase key }

def setTrustedRemoteList (establisher : UdpConnectionEstablisher SigningKey) (newTrustedRemotes : List PublicKey) :
    UdpConnectionEstablisher SigningKey :=
  let added := newTrustedRemotes.foldl (fun remotes trusted => remotes.insertIfNew trusted .default)
    establisher.trustedRemotes
  { establisher with trustedRemotes := added.filter fun key _ => newTrustedRemotes.contains key }

def onConnectionClosed (establisher : UdpConnectionEstablisher SigningKey) (key : PublicKey) :
    UdpConnectionEstablisher SigningKey :=
  let state := establisher.trustedRemotes.getD key .default
  { establisher with trustedRemotes := establisher.trustedRemotes.insert key { state with stateKind := .enabled } }

/-- The keys from the offset on, then the keys before it, and of these the first ten that are enabled. -/
def availableRemotes (establisher : UdpConnectionEstablisher SigningKey) (now : Instant) : List PublicKey :=
  let remotes := establisher.trustedRemotes.toList
  let offset := establisher.lastTrustedPeerOffset
  let iterForward := remotes.filter fun entry => (compare offset entry.1).isLE
  let iterWrap := remotes.filter fun entry => (compare entry.1 offset).isLT
  (((iterForward ++ iterWrap).filter fun entry => entry.2.isDiscoveryEnabled now).take 10).map Prod.fst

/-- The listed keys, and the client with the offset behind the last of them. One clock reading stands for the call. -/
def newAvailableRemotesList (establisher : UdpConnectionEstablisher SigningKey) (now : Instant) :
    List PublicKey × UdpConnectionEstablisher SigningKey :=
  let result := establisher.availableRemotes now
  match result.getLast? with
  | none => (result, establisher)
  | some lastKey =>
      let keys := establisher.trustedRemotes.keys
      let next := (keys.find? fun key => (compare lastKey key).isLT).getD (keys.head?.getD lastKey)
      (result, { establisher with lastTrustedPeerOffset := next })

/-- The interval since the last request is over. -/
def requestDue (establisher : UdpConnectionEstablisher SigningKey) (now : Instant) : Bool :=
  match establisher.lastRequestTm with
  | none => true
  | some time => requestPlacementInterval < (now.elapsed time).asSecs

/-- The call to a method that changes the trusted peers. -/
inductive Call where
  | addTrustedRemote (key : PublicKey)
  | removeTrustedRemote (key : PublicKey)
  | setTrustedRemoteList (newTrustedRemotes : List PublicKey)
  | onConnectionClosed (key : PublicKey)
  deriving DecidableEq

def call (establisher : UdpConnectionEstablisher SigningKey) : Call → UdpConnectionEstablisher SigningKey
  | .addTrustedRemote key => establisher.addTrustedRemote key
  | .removeTrustedRemote key => establisher.removeTrustedRemote key
  | .setTrustedRemoteList newTrustedRemotes => establisher.setTrustedRemoteList newTrustedRemotes
  | .onConnectionClosed key => establisher.onConnectionClosed key

section Lookup

variable (establisher : UdpConnectionEstablisher SigningKey)

/-- `entry(key).or_default()` finds the old state of the peer or the new one. -/
theorem insertIfNew_getElem? (remotes : Std.ExtTreeMap PublicKey PeerState compare) (key peer : PublicKey)
    (state : PeerState) : (remotes.insertIfNew key state)[peer]? =
      if key = peer then some (remotes[key]?.getD state) else remotes[peer]? := by
  simp only [Std.ExtTreeMap.getElem?_insertIfNew, Std.LawfulEqCmp.compare_eq_iff_eq]
  by_cases same : key = peer
  · subst same
    by_cases present : key ∈ remotes
    · simp [present]
    · simp [present]
  · simp [same]

theorem foldl_insertIfNew_getElem? (keys : List PublicKey) (remotes : Std.ExtTreeMap PublicKey PeerState compare)
    (peer : PublicKey) (state : PeerState) :
    (keys.foldl (fun remotes trusted => remotes.insertIfNew trusted state) remotes)[peer]? =
      if peer ∈ keys then some (remotes[peer]?.getD state) else remotes[peer]? := by
  induction keys generalizing remotes with
  | nil => simp
  | cons key keys ih =>
      rw [List.foldl_cons, ih, insertIfNew_getElem?]
      by_cases same : key = peer
      · subst same
        simp
      · simp [same, Ne.symm same]

theorem addTrustedRemote_getElem? (key peer : PublicKey) :
    (establisher.addTrustedRemote key).trustedRemotes[peer]? =
      if key = peer then some (establisher.trustedRemotes[key]?.getD .default)
      else establisher.trustedRemotes[peer]? :=
  insertIfNew_getElem? _ _ _ _

theorem removeTrustedRemote_getElem? (key peer : PublicKey) :
    (establisher.removeTrustedRemote key).trustedRemotes[peer]? =
      if key = peer then none else establisher.trustedRemotes[peer]? := by
  simp [removeTrustedRemote, Std.ExtTreeMap.getElem?_erase]

theorem setTrustedRemoteList_getElem? (keys : List PublicKey) (peer : PublicKey) :
    (establisher.setTrustedRemoteList keys).trustedRemotes[peer]? =
      if peer ∈ keys then some (establisher.trustedRemotes[peer]?.getD .default) else none := by
  rw [setTrustedRemoteList, Std.ExtTreeMap.getElem?_filter', foldl_insertIfNew_getElem?]
  by_cases listed : peer ∈ keys
  · simp [listed]
  · cases found : establisher.trustedRemotes[peer]? with
    | none => simp [listed]
    | some state => simp [listed]

theorem onConnectionClosed_getElem? (key peer : PublicKey) :
    (establisher.onConnectionClosed key).trustedRemotes[peer]? =
      if key = peer then some { establisher.trustedRemotes[key]?.getD .default with stateKind := .enabled }
      else establisher.trustedRemotes[peer]? := by
  simp [onConnectionClosed, Std.ExtTreeMap.getElem?_insert, Std.ExtTreeMap.getD_eq_getD_getElem?]

/-- Membership after a call: only the feedback method can add a key that no trust operation names. -/
theorem mem_call (call : Call) (peer : PublicKey) : peer ∈ (establisher.call call).trustedRemotes ↔
    match call with
    | .addTrustedRemote key | .onConnectionClosed key => key = peer ∨ peer ∈ establisher.trustedRemotes
    | .removeTrustedRemote key => key ≠ peer ∧ peer ∈ establisher.trustedRemotes
    | .setTrustedRemoteList keys => peer ∈ keys := by
  simp only [Std.ExtTreeMap.mem_iff_isSome_getElem?]
  cases call with
  | addTrustedRemote key =>
      rw [UdpConnectionEstablisher.call, addTrustedRemote_getElem?]
      split_ifs with same <;> simp [same]
  | removeTrustedRemote key =>
      rw [UdpConnectionEstablisher.call, removeTrustedRemote_getElem?]
      split_ifs with same <;> simp [same]
  | setTrustedRemoteList keys =>
      rw [UdpConnectionEstablisher.call, setTrustedRemoteList_getElem?]
      split_ifs with listed <;> simp [listed]
  | onConnectionClosed key =>
      rw [UdpConnectionEstablisher.call, onConnectionClosed_getElem?]
      split_ifs with same <;> simp [same]

/-- The session that was accepted last for a peer. It is lost with the entry of the peer. -/
def lastSession (peer : PublicKey) : Option UInt32 :=
  establisher.trustedRemotes[peer]?.bind PeerState.lastAcceptedSessionId

theorem lastSession_call (call : Call) (peer : PublicKey) : (establisher.call call).lastSession peer =
    match call with
    | .addTrustedRemote _ | .onConnectionClosed _ => establisher.lastSession peer
    | .removeTrustedRemote key => if key = peer then none else establisher.lastSession peer
    | .setTrustedRemoteList keys => if peer ∈ keys then establisher.lastSession peer else none := by
  unfold lastSession
  cases call with
  | addTrustedRemote key =>
      rw [UdpConnectionEstablisher.call, addTrustedRemote_getElem?]
      by_cases same : key = peer
      · subst same
        cases establisher.trustedRemotes[key]? <;> simp [PeerState.default]
      · simp [same]
  | removeTrustedRemote key =>
      rw [UdpConnectionEstablisher.call, removeTrustedRemote_getElem?]
      by_cases same : key = peer <;> simp [same]
  | setTrustedRemoteList keys =>
      rw [UdpConnectionEstablisher.call, setTrustedRemoteList_getElem?]
      by_cases listed : peer ∈ keys
      · cases establisher.trustedRemotes[peer]? <;> simp [listed, PeerState.default]
      · simp [listed]
  | onConnectionClosed key =>
      rw [UdpConnectionEstablisher.call, onConnectionClosed_getElem?]
      by_cases same : key = peer
      · subst same
        cases establisher.trustedRemotes[key]? <;> simp [PeerState.default]
      · simp [same]

/-- The requested keys are enabled. -/
theorem availableRemotes_enabled (now : Instant) {peer : PublicKey} (listed : peer ∈ establisher.availableRemotes now) :
    ∃ state, establisher.trustedRemotes[peer]? = some state ∧ state.isDiscoveryEnabled now = true := by
  simp only [availableRemotes, List.mem_map] at listed
  obtain ⟨entry, taken, rfl⟩ := listed
  obtain ⟨scanned, enabled⟩ := List.mem_filter.mp (List.mem_of_mem_take taken)
  have member : entry ∈ establisher.trustedRemotes.toList := by
    obtain forward | wrapped := List.mem_append.mp scanned
    · exact List.mem_of_mem_filter forward
    · exact List.mem_of_mem_filter wrapped
  exact ⟨entry.2, Std.ExtTreeMap.mem_toList_iff_getElem?_eq_some.mp member, enabled⟩

/-- The requested keys are trusted, and they are at most ten. -/
theorem availableRemotes_trusted (now : Instant) :
    (establisher.availableRemotes now).length ≤ 10 ∧
      ∀ peer ∈ establisher.availableRemotes now, peer ∈ establisher.trustedRemotes := by
  constructor
  · simp only [availableRemotes, List.length_map, List.length_take]
    exact Nat.min_le_left _ _
  · intro peer listed
    obtain ⟨state, found, _⟩ := establisher.availableRemotes_enabled now listed
    rw [Std.ExtTreeMap.mem_iff_isSome_getElem?, found]
    rfl

/-- The new list changes nothing but the offset. -/
theorem newAvailableRemotesList_eq (now : Instant) : ∃ offset,
    establisher.newAvailableRemotesList now =
      (establisher.availableRemotes now, { establisher with lastTrustedPeerOffset := offset }) := by
  simp only [newAvailableRemotesList]
  split
  · exact ⟨establisher.lastTrustedPeerOffset, rfl⟩
  · exact ⟨_, rfl⟩

end Lookup

end UdpConnectionEstablisher

end RepriseP2p.Udp
