/-
This file proves when the server matches two clients that place their rotating lists in turns.
-/

import RepriseP2p.Udp.Rotation
import RepriseP2p.Udp.ServerStep
import RepriseP2p.Udp.SignedRequest

namespace RepriseP2p.Udp

open CyclicScan

variable {SigningKey DateTime : Type}

/-- The clock readings of one turn: of the client for its list and its signature, and of the server. -/
structure Turn (DateTime : Type) where
  listTm : Instant
  signedAt : DateTime
  utcNow : DateTime
  now : Instant

/-- The server and two clients. The mover places the next request. -/
structure Duo (SigningKey : Type) where
  server : UdpState
  mover : UdpConnectionEstablisher SigningKey
  waiter : UdpConnectionEstablisher SigningKey

namespace Duo

variable (crates : Crates SigningKey DateTime)

/-- The mover places a request with its next list, the server handles it, and the clients change roles. -/
def next (duo : Duo SigningKey) (turn : Turn DateTime) : Duo SigningKey × List Datagram :=
  let (peerPubkeys, mover) := duo.mover.newAvailableRemotesList turn.listTm
  match (ToServerSignedMessage.connectionRequest peerPubkeys mover.sessionId).toBytes crates mover.key turn.signedAt with
  | .ok bytes =>
      let (server, replies) := duo.server.receive crates ⟨.v4 mover.socket.addr, bytes, turn.utcNow, turn.now⟩
      (⟨server, duo.waiter, mover⟩, replies)
  -- An empty list is not placed.
  | .panic => (⟨duo.server, duo.waiter, mover⟩, [])

/-- What the server answers in each turn. -/
def answers : Duo SigningKey → List (Turn DateTime) → List (List Datagram)
  | _, [] => []
  | duo, turn :: turns => (duo.next crates turn).2 :: (duo.next crates turn).1.answers turns

/-- The lists of the turns, of the mover and of the waiter in turns. -/
def lists (mover waiter : UdpConnectionEstablisher SigningKey) : List (Turn DateTime) → List (List PublicKey)
  | [] => []
  | turn :: turns =>
      let (peerPubkeys, mover) := mover.newAvailableRemotesList turn.listTm
      peerPubkeys :: lists waiter mover turns

end Duo

/-- The answer tells somebody to connect with the first client and somebody to connect with the second one. -/
def Matches (replies : List Datagram) (first second : PublicKey) : Prop :=
  ∀ peer ∈ [first, second], ∃ dst addr sessionId isListener,
    ⟨dst, .initiateConnectionRequest peer addr sessionId isListener⟩ ∈ replies

/-- Some list names the other client, and the list directly before it named its own client. -/
def Meets {κ : Type} (mover waiter : κ) (previous : List κ) : List (List κ) → Prop
  | [] => False
  | current :: rest => (waiter ∈ current ∧ mover ∈ previous) ∨ Meets waiter mover current rest

theorem matches_comm {replies : List Datagram} {first second : PublicKey} :
    Matches replies first second ↔ Matches replies second first := by
  simp only [Matches, List.mem_cons, List.not_mem_nil, or_false, forall_eq_or_imp, forall_eq]
  exact and_comm

theorem not_matches_nil {first second : PublicKey} : ¬ Matches [] first second := by
  intro matched
  obtain ⟨_, _, _, _, sent⟩ := matched first List.mem_cons_self
  cases sent

def decideMeets {κ : Type} [DecidableEq κ] (mover waiter : κ) (previous : List κ) :
    (lists : List (List κ)) → Decidable (Meets mover waiter previous lists)
  | [] => inferInstanceAs (Decidable False)
  | current :: rest =>
      have := decideMeets waiter mover current rest
      inferInstanceAs (Decidable (_ ∨ _))

instance {κ : Type} [DecidableEq κ] (mover waiter : κ) (previous : List κ) (lists : List (List κ)) :
    Decidable (Meets mover waiter previous lists) :=
  decideMeets mover waiter previous lists

/-- Renaming the clients does not matter. -/
theorem meets_map {κ ι : Type} {name : ι → κ} (injective : Function.Injective name) (mover waiter : ι)
    (previous : List ι) (lists : List (List ι)) :
    Meets (name mover) (name waiter) (previous.map name) (lists.map (List.map name)) ↔
      Meets mover waiter previous lists := by
  induction lists generalizing mover waiter previous with
  | nil => rfl
  | cons current rest ih =>
      rw [List.map_cons, Meets, Meets, ih, List.mem_map_of_injective injective, List.mem_map_of_injective injective]

/-- Two directly consecutive lists that name each other's client meet. -/
theorem meets_of_index {mover waiter : PublicKey} {previous earlier later : List PublicKey}
    {lists : List (List PublicKey)} {index : Nat} (first : lists[index]? = some earlier)
    (second : lists[index + 1]? = some later)
    (names : if index % 2 = 0 then waiter ∈ earlier ∧ mover ∈ later else mover ∈ earlier ∧ waiter ∈ later) :
    Meets mover waiter previous lists := by
  induction index generalizing mover waiter previous lists with
  | zero =>
      match lists, first, second with
      | _ :: _ :: _, rfl, rfl => exact .inr (.inl ⟨names.2, names.1⟩)
  | succ index ih =>
      cases lists with
      | nil => simp at first
      | cons head tail =>
          apply Or.inr
          apply ih first second
          by_cases even : index % 2 = 0
          · rw [if_neg (by omega)] at names
            rw [if_pos even]
            exact names
          · rw [if_pos (by omega)] at names
            rw [if_neg even]
            exact names

/-- Of all slots, only the waiter's may hold an entry for the mover, as its last list says, and only the mover's may
hold one for the waiter. -/
structure Facing (state : UdpState) (mover waiter : PublicKey) (last : List PublicKey) (tm : Instant) : Prop where
  alone : ∀ requester, requester ≠ waiter → state.pending requester mover = none
  waiterAlone : ∀ requester, requester ≠ mover → state.pending requester waiter = none
  listed : mover ∈ last → ∃ pending, state.pending waiter mover = some pending ∧ pending.tm = tm ∧
    pending.requesterPubkey = waiter
  unlisted : mover ∉ last → state.pending waiter mover = none

/-- An entry of less than three seconds is fresh. -/
theorem fresh_of_soon {now : Instant} {pending : PendingRequest} (soon : now < pending.tm + Duration.fromSecs 3) :
    Fresh now pending := by
  have bound (late early : Nat) (close : late < early + 3 * 1000000000) : late - early < 10 * 1000000000 := by omega
  exact bound now pending.tm soon

/-- The server matches the mover with the waiter exactly when both lists name the other client. Otherwise it answers
nothing, and the new slot faces the waiter. -/
theorem Facing.handle {state : UdpState} {request : AcceptedRequest} {waiter : PublicKey} {last : List PublicKey}
    {tm : Instant} (facing : Facing state request.senderPubkey waiter last tm)
    (differ : waiter ≠ request.senderPubkey) (others : request.senderPubkey ∉ request.peerPubkeys)
    (notLost : ¬ state.lost request)
    (soon : request.senderPubkey ∈ last → request.now < tm + Duration.fromSecs 3) :
    if waiter ∈ request.peerPubkeys ∧ request.senderPubkey ∈ last then
      Matches (state.handle request).2 request.senderPubkey waiter
    else (state.handle request).2 = [] ∧
      (state.handle request).1.lastSessionIds = state.lastSessionIds ∧
      Facing (state.handle request).1 waiter request.senderPubkey request.peerPubkeys request.now := by
  generalize outcome : state.handle request = result
  have handled := state.handle_case request
  rw [outcome] at handled
  cases handled with
  | lost activeSession stored same => exact absurd ⟨activeSession, stored, same⟩ notLost
  | matched before after peerPubkey pending notLost listed absent present =>
      have found := ((state.cleanup_pending_eq_some _ _ _ _).mp present).1
      obtain rfl : peerPubkey = waiter := by
        by_contra other
        rw [facing.alone peerPubkey other] at found
        cases found
      have named : request.senderPubkey ∈ last := by
        by_contra unnamed
        rw [facing.unlisted unnamed] at found
        cases found
      obtain ⟨stored, there, _, owner⟩ := facing.listed named
      rw [there] at found
      cases found
      rw [if_pos ⟨by simp [listed], named⟩]
      intro peer member
      simp only [List.mem_cons, List.not_mem_nil, or_false] at member
      obtain rfl | rfl := member
      · exact ⟨_, _, _, _, List.mem_cons_self⟩
      · exact ⟨_, _, _, _, by rw [← owner]; exact List.mem_cons_of_mem _ List.mem_cons_self⟩
  | placed notLost absent =>
      have unmatched : ¬ (waiter ∈ request.peerPubkeys ∧ request.senderPubkey ∈ last) := by
        rintro ⟨listed, named⟩
        obtain ⟨pending, found, time, _⟩ := facing.listed named
        have kept := (state.cleanup_pending_eq_some request.now _ _ _).mpr
          ⟨found, fresh_of_soon (time.symm ▸ soon named)⟩
        rw [absent waiter listed] at kept
        cases kept
      rw [if_neg unmatched]
      refine ⟨rfl, rfl, ?_, ?_, ?_, ?_⟩
      · intro requester other
        rw [UdpState.placed_pending, if_neg other, UdpState.cleanup_pending, facing.waiterAlone requester other]
        rfl
      · intro requester other
        rw [UdpState.placed_pending]
        split_ifs
        · rfl
        · rw [UdpState.cleanup_pending, facing.alone requester other]
          rfl
      · intro named
        refine ⟨UdpState.pendingOf request, ?_, rfl, rfl⟩
        rw [UdpState.placed_pending, if_pos rfl, if_pos named]
      · intro unnamed
        rw [UdpState.placed_pending, if_pos rfl, if_neg unnamed]

/-- The client trusts the peer and not itself, and all its peers are enabled in these turns. -/
structure UdpConnectionEstablisher.Seeks (establisher : UdpConnectionEstablisher SigningKey) (own peer : PublicKey)
    (turns : List (Turn DateTime)) : Prop where
  trusts : peer ∈ establisher.trustedRemotes
  others : own ∉ establisher.trustedRemotes
  enabled : ∀ turn ∈ turns, ∀ (key : PublicKey) (state : PeerState), establisher.trustedRemotes[key]? = some state →
    state.isDiscoveryEnabled turn.listTm = true

section Lists

variable {establisher : UdpConnectionEstablisher SigningKey} {own peer : PublicKey} {turn : Turn DateTime}
  {turns : List (Turn DateTime)}

theorem UdpConnectionEstablisher.Seeks.later (seeks : establisher.Seeks own peer (turn :: turns)) :
    establisher.Seeks own peer turns :=
  ⟨seeks.trusts, seeks.others, fun later member => seeks.enabled later (List.mem_cons_of_mem _ member)⟩

/-- While all peers are enabled, the enabled keys are all keys. -/
theorem UdpConnectionEstablisher.Seeks.enabledKeys_eq (seeks : establisher.Seeks own peer (turn :: turns)) :
    enabledKeys establisher.trustedRemotes turn.listTm = establisher.trustedRemotes.keys := by
  rw [enabledKeys, List.filter_eq_self.mpr]
  · exact Std.ExtTreeMap.map_fst_toList_eq_keys
  · intro entry member
    exact seeks.enabled turn List.mem_cons_self entry.1 entry.2 (Std.ExtTreeMap.mem_toList_iff_getElem?_eq_some.mp member)

/-- The list number `index` of a client whose peers are all enabled. -/
def UdpConnectionEstablisher.listAt (establisher : UdpConnectionEstablisher SigningKey) (index : Nat) : List PublicKey :=
  @windowAt PublicKey keyOrder 10 establisher.trustedRemotes.keys establisher.lastTrustedPeerOffset index

/-- The next list, and the client whose lists are the later ones. -/
theorem UdpConnectionEstablisher.Seeks.next (seeks : establisher.Seeks own peer (turn :: turns)) :
    ∃ rotated, establisher.newAvailableRemotesList turn.listTm = (establisher.listAt 0, rotated) ∧
      (∃ offset, rotated = { establisher with lastTrustedPeerOffset := offset }) ∧
      rotated.Seeks own peer turns ∧ ∀ index, rotated.listAt index = establisher.listAt (index + 1) := by
  have list := establisher.newAvailableRemotesList_eq_window turn.listTm
  rw [seeks.enabledKeys_eq] at list
  refine ⟨_, list, ⟨_, rfl⟩, ?_, fun index => rfl⟩
  exact ⟨seeks.later.trusts, seeks.later.others, seeks.later.enabled⟩

/-- A list holds one to ten keys, and not the client's own one. -/
theorem UdpConnectionEstablisher.Seeks.listAt_bounds (seeks : establisher.Seeks own peer turns) (index : Nat) :
    (1 ≤ (establisher.listAt index).length ∧ (establisher.listAt index).length ≤ 10) ∧
      own ∉ establisher.listAt index := by
  let := keyOrder
  refine ⟨⟨?_, ?_⟩, ?_⟩
  · exact List.length_pos_iff.mpr (window_ne_nil (by decide) (Std.ExtTreeMap.mem_keys.mpr seeks.trusts))
  · exact (List.length_take_le _ _)
  · intro listed
    exact seeks.others (Std.ExtTreeMap.mem_keys.mp (mem_of_mem_window listed))

/-- A client lists each of its peers once in as many consecutive lists as it takes to list them all. -/
theorem UdpConnectionEstablisher.listAt_reach (trusts : peer ∈ establisher.trustedRemotes) (start : Nat) :
    ∃ index, start ≤ index ∧ index < start + (establisher.trustedRemotes.size + 9) / 10 ∧
      peer ∈ establisher.listAt index := by
  let := keyOrder
  apply windowAt_reach (by decide) (keys_sorted establisher.trustedRemotes) (Std.ExtTreeMap.mem_keys.mpr trusts)
  rw [Std.ExtTreeMap.length_keys]
  omega

end Lists

/-- The timestamps are fresh at the server, and directly consecutive requests reach it less than three seconds apart. -/
def Timely (crates : Crates SigningKey DateTime) (turns : List (Turn DateTime)) : Prop :=
  (∀ turn ∈ turns, (crates.numSeconds turn.utcNow (crates.truncated turn.signedAt)).natAbs ≤ signedMsgValidS) ∧
    turns.IsChain fun earlier later => later.now < earlier.now + Duration.fromSecs 3

/-- The stored session of the client is not the one that it uses. -/
def UdpState.SessionUnused (state : UdpState) (client : PublicKey) (sessionId : UInt32) : Prop :=
  ∀ activeSession, state.lastSessionIds[client]? = some activeSession → activeSession.sessionId ≠ sessionId

namespace Duo

variable (crates : Crates SigningKey DateTime)

def moverKey (duo : Duo SigningKey) : PublicKey := crates.verifyingKey duo.mover.key

def waiterKey (duo : Duo SigningKey) : PublicKey := crates.verifyingKey duo.waiter.key

/-- Both clients seek each other, no slot names one of them, and no stored session is one that they use. -/
structure Starts (duo : Duo SigningKey) (turns : List (Turn DateTime)) : Prop where
  mover : duo.mover.Seeks (duo.moverKey crates) (duo.waiterKey crates) turns
  waiter : duo.waiter.Seeks (duo.waiterKey crates) (duo.moverKey crates) turns
  unnamed : ∀ requester, duo.server.pending requester (duo.moverKey crates) = none ∧
    duo.server.pending requester (duo.waiterKey crates) = none
  moverSession : duo.server.SessionUnused (duo.moverKey crates) duo.mover.sessionId
  waiterSession : duo.server.SessionUnused (duo.waiterKey crates) duo.waiter.sessionId

/-- The situation before a turn, where the waiter's last list reached the server at `tm`. -/
structure Waits (duo : Duo SigningKey) (turns : List (Turn DateTime)) (last : List PublicKey) (tm : Instant) : Prop where
  mover : duo.mover.Seeks (duo.moverKey crates) (duo.waiterKey crates) turns
  waiter : duo.waiter.Seeks (duo.waiterKey crates) (duo.moverKey crates) turns
  facing : Facing duo.server (duo.moverKey crates) (duo.waiterKey crates) last tm
  moverSession : duo.server.SessionUnused (duo.moverKey crates) duo.mover.sessionId
  waiterSession : duo.server.SessionUnused (duo.waiterKey crates) duo.waiter.sessionId
  timely : Timely crates turns
  soon : duo.moverKey crates ∈ last → ∀ turn ∈ turns.head?, turn.now < tm + Duration.fromSecs 3

variable {crates}

theorem Starts.waits {duo : Duo SigningKey} {turns : List (Turn DateTime)} (starts : duo.Starts crates turns)
    (timely : Timely crates turns) : duo.Waits crates turns [] 0 where
  mover := starts.mover
  waiter := starts.waiter
  facing := by
    refine ⟨fun requester _ => (starts.unnamed requester).1, fun requester _ => (starts.unnamed requester).2, ?_, ?_⟩
    · intro named
      simp at named
    · intro _
      exact (starts.unnamed _).1
  moverSession := starts.moverSession
  waiterSession := starts.waiterSession
  timely := timely
  soon named := by simp at named

variable (exact : crates.MillisExact) (representable : crates.MillisRepresentable) (verify : crates.SignaturesVerify)

include exact representable verify

/-- A turn hands the next list of the mover to the server. -/
theorem next_eq {duo : Duo SigningKey} {turn : Turn DateTime} {turns : List (Turn DateTime)}
    (seeks : duo.mover.Seeks (duo.moverKey crates) (duo.waiterKey crates) (turn :: turns))
    (fresh : (crates.numSeconds turn.utcNow (crates.truncated turn.signedAt)).natAbs ≤ signedMsgValidS)
    {rotated : UdpConnectionEstablisher SigningKey} {offset : PublicKey}
    (list : duo.mover.newAvailableRemotesList turn.listTm = (duo.mover.listAt 0, rotated))
    (same : rotated = { duo.mover with lastTrustedPeerOffset := offset }) :
    ∃ request : AcceptedRequest, request.senderPubkey = duo.moverKey crates ∧
      request.sessionId = duo.mover.sessionId ∧ request.peerPubkeys = duo.mover.listAt 0 ∧ request.now = turn.now ∧
      duo.next crates turn = (⟨(duo.server.handle request).1, duo.waiter, rotated⟩, (duo.server.handle request).2) := by
  have fits := (ToServerSignedMessage.encodable_iff (duo.mover.listAt 0) duo.mover.sessionId).mpr
    (seeks.listAt_bounds 0).1
  obtain ⟨bytes, encoded⟩ : ∃ bytes, (ToServerSignedMessage.connectionRequest (duo.mover.listAt 0)
      duo.mover.sessionId).toBytes crates duo.mover.key turn.signedAt = .ok bytes :=
    ⟨_, ToServerSignedMessage.toBytes_eq crates duo.mover.key turn.signedAt _ fits⟩
  have parsed := ToServerSignedMessage.tryParse_toBytes crates exact representable verify _ _ _ fits _ encoded
  have accepted : acceptDatagram crates duo.mover.socket.addr bytes turn.utcNow turn.now = some _ :=
    acceptDatagram_of_parsed crates parsed fresh
  refine ⟨⟨duo.moverKey crates, duo.mover.socket.addr, duo.mover.sessionId, duo.mover.listAt 0,
    (seeks.listAt_bounds 0).1, turn.now⟩, rfl, rfl, rfl, rfl, ?_⟩
  rw [next, list]
  subst same
  dsimp only
  rw [encoded]
  dsimp only [UdpState.receive]
  rw [accepted]
  rfl

/-- The server matches the clients exactly when two directly consecutive lists name each other's client. -/
theorem Waits.matched_iff {duo : Duo SigningKey} {turns : List (Turn DateTime)} {last : List PublicKey} {tm : Instant}
    (waits : duo.Waits crates turns last tm) :
    (∃ replies ∈ duo.answers crates turns, Matches replies (duo.moverKey crates) (duo.waiterKey crates)) ↔
      Meets (duo.moverKey crates) (duo.waiterKey crates) last (lists duo.mover duo.waiter turns) := by
  induction turns generalizing duo last tm with
  | nil => simp [answers, lists, Meets]
  | cons turn turns ih =>
      obtain ⟨rotated, list, ⟨offset, same⟩, seeks, _⟩ := waits.mover.next
      obtain ⟨request, sender, session, peers, now, step⟩ :=
        next_eq exact representable verify waits.mover (waits.timely.1 turn List.mem_cons_self) list same
      have moverKey : duo.moverKey crates = crates.verifyingKey rotated.key := by rw [same]; rfl
      have notLost : ¬ duo.server.lost request := by
        rintro ⟨activeSession, stored, equal⟩
        rw [sender] at stored
        rw [session] at equal
        exact waits.moverSession activeSession stored equal
      have differ : duo.waiterKey crates ≠ request.senderPubkey := by
        rw [sender]
        exact fun equal => waits.mover.others (equal ▸ waits.mover.trusts)
      have others : request.senderPubkey ∉ request.peerPubkeys := by
        rw [sender, peers]
        exact (waits.mover.listAt_bounds 0).2
      have soon : request.senderPubkey ∈ last → request.now < tm + Duration.fromSecs 3 := by
        rw [sender, now]
        exact fun named => waits.soon named turn rfl
      have handled := Facing.handle (sender ▸ waits.facing) differ others notLost soon
      rw [sender, peers, now] at handled
      rw [answers, step, lists, list]
      dsimp only
      rw [Meets]
      by_cases meets : duo.waiterKey crates ∈ duo.mover.listAt 0 ∧ duo.moverKey crates ∈ last
      · rw [if_pos meets] at handled
        exact ⟨fun _ => .inl meets, fun _ => ⟨_, List.mem_cons_self, handled⟩⟩
      · rw [if_neg meets] at handled
        obtain ⟨silent, sessions, facing⟩ := handled
        subst same
        have after : (⟨(duo.server.handle request).1, duo.waiter,
            { duo.mover with lastTrustedPeerOffset := offset }⟩ : Duo SigningKey).Waits crates turns
              (duo.mover.listAt 0) turn.now := by
          constructor
          · exact waits.waiter.later
          · exact seeks
          · exact facing
          · intro activeSession stored
            rw [sessions] at stored
            exact waits.waiterSession activeSession stored
          · intro activeSession stored
            rw [sessions] at stored
            exact waits.moverSession activeSession stored
          · exact ⟨fun later member => waits.timely.1 later (List.mem_cons_of_mem _ member),
              waits.timely.2.tail⟩
          · intro _ later first
            cases turns with
            | nil => cases first
            | cons head tail =>
                cases first
                exact (List.isChain_cons_cons.mp waits.timely.2).1
        have rest := ih after
        constructor
        · intro matched
          obtain ⟨replies, member, matched⟩ := matched
          obtain rfl | later := List.mem_cons.mp member
          · rw [silent] at matched
            exact absurd matched not_matches_nil
          · exact .inr (rest.mp ⟨replies, later, matches_comm.mp matched⟩)
        · intro met
          obtain ⟨replies, member, matched⟩ := rest.mpr (met.resolve_left meets)
          exact ⟨replies, List.mem_cons_of_mem _ member, matches_comm.mp matched⟩

omit exact representable verify in
/-- The lists of the turns are the lists of the two clients. -/
theorem lists_eq {mover waiter : UdpConnectionEstablisher SigningKey} {moverKey waiterKey : PublicKey}
    {turns : List (Turn DateTime)} (moverSeeks : mover.Seeks moverKey waiterKey turns)
    (waiterSeeks : waiter.Seeks waiterKey moverKey turns) :
    lists mover waiter turns = (List.range turns.length).map fun index =>
      if index % 2 = 0 then mover.listAt (index / 2) else waiter.listAt (index / 2) := by
  induction turns generalizing mover waiter moverKey waiterKey with
  | nil => rfl
  | cons turn turns ih =>
      obtain ⟨rotated, list, _, seeks, rest⟩ := moverSeeks.next
      rw [lists, list, List.length_cons, List.range_succ_eq_map, List.map_cons, List.map_map]
      dsimp only
      rw [ih waiterSeeks.later seeks]
      congr 2
      funext index
      rw [Function.comp_apply, rest, Nat.succ_eq_add_one]
      by_cases even : index % 2 = 0
      · rw [if_pos even, if_neg (by omega), show (index + 1) / 2 = index / 2 by omega]
      · rw [if_neg even, if_pos (by omega), show (index + 1) / 2 = index / 2 + 1 by omega]

omit exact representable verify in
theorem lists_getElem? {mover waiter : UdpConnectionEstablisher SigningKey} {moverKey waiterKey : PublicKey}
    {turns : List (Turn DateTime)} (moverSeeks : mover.Seeks moverKey waiterKey turns)
    (waiterSeeks : waiter.Seeks waiterKey moverKey turns) {index : Nat} (inside : index < turns.length) :
    (lists mover waiter turns)[index]? =
      some (if index % 2 = 0 then mover.listAt (index / 2) else waiter.listAt (index / 2)) := by
  rw [lists_eq moverSeeks waiterSeeks, List.getElem?_map, List.getElem?_range inside, Option.map_some]

omit exact representable verify in
/-- The clients meet in a round in which both name each other. -/
theorem meets_in_round {mover waiter : UdpConnectionEstablisher SigningKey} {moverKey waiterKey : PublicKey}
    {turns : List (Turn DateTime)} (moverSeeks : mover.Seeks moverKey waiterKey turns)
    (waiterSeeks : waiter.Seeks waiterKey moverKey turns) {round : Nat} (inside : 2 * round + 1 < turns.length)
    (named : waiterKey ∈ mover.listAt round) (answered : moverKey ∈ waiter.listAt round) :
    Meets moverKey waiterKey [] (lists mover waiter turns) := by
  have first := lists_getElem? moverSeeks waiterSeeks (show 2 * round < turns.length by omega)
  have second := lists_getElem? moverSeeks waiterSeeks inside
  rw [if_pos (by omega), show 2 * round / 2 = round by omega] at first
  rw [if_neg (by omega), show (2 * round + 1) / 2 = round by omega] at second
  apply meets_of_index first second
  rw [if_pos (by omega)]
  exact ⟨named, answered⟩

omit exact representable verify in
/-- The clients meet between two rounds when the second one names the first and is named in the next round. -/
theorem meets_between_rounds {mover waiter : UdpConnectionEstablisher SigningKey} {moverKey waiterKey : PublicKey}
    {turns : List (Turn DateTime)} (moverSeeks : mover.Seeks moverKey waiterKey turns)
    (waiterSeeks : waiter.Seeks waiterKey moverKey turns) {round : Nat} (inside : 2 * round + 2 < turns.length)
    (named : moverKey ∈ waiter.listAt round) (answered : waiterKey ∈ mover.listAt (round + 1)) :
    Meets moverKey waiterKey [] (lists mover waiter turns) := by
  have first := lists_getElem? moverSeeks waiterSeeks (show 2 * round + 1 < turns.length by omega)
  have second := lists_getElem? moverSeeks waiterSeeks inside
  rw [if_neg (by omega), show (2 * round + 1) / 2 = round by omega] at first
  rw [if_pos (by omega), show (2 * round + 2) / 2 = round + 1 by omega] at second
  apply meets_of_index first second
  rw [if_neg (by omega)]
  exact ⟨named, answered⟩

omit exact representable verify in
/-- Two clients meet within the product of the numbers of lists that they need, if one of them has at most twenty
peers. -/
theorem meets_within {mover waiter : UdpConnectionEstablisher SigningKey} {moverKey waiterKey : PublicKey}
    {turns : List (Turn DateTime)} (moverSeeks : mover.Seeks moverKey waiterKey turns)
    (waiterSeeks : waiter.Seeks waiterKey moverKey turns)
    (enough : turns.length = 2 * ((mover.trustedRemotes.size + 9) / 10 * ((waiter.trustedRemotes.size + 9) / 10)))
    (small : mover.trustedRemotes.size ≤ 20 ∨ waiter.trustedRemotes.size ≤ 20) :
    Meets moverKey waiterKey [] (lists mover waiter turns) := by
  have moverReach := mover.listAt_reach moverSeeks.trusts
  have waiterReach := waiter.listAt_reach waiterSeeks.trusts
  generalize moverLists : (mover.trustedRemotes.size + 9) / 10 = moverCount at enough moverReach
  generalize waiterLists : (waiter.trustedRemotes.size + 9) / 10 = waiterCount at enough waiterReach
  obtain few | few := small
  · -- The mover names the waiter in this round or the next one, whenever the waiter names the mover.
    obtain ⟨round, _, inside, answered⟩ := waiterReach 0
    obtain ⟨other, low, high, named⟩ := moverReach round
    obtain rfl | rfl : moverCount = 1 ∨ moverCount = 2 := by omega
    · obtain rfl : other = round := by omega
      exact meets_in_round moverSeeks waiterSeeks (by omega) named answered
    · obtain rfl | rfl : other = round ∨ other = round + 1 := by omega
      · exact meets_in_round moverSeeks waiterSeeks (by omega) named answered
      · exact meets_between_rounds moverSeeks waiterSeeks (by omega) answered named
  · obtain rfl | rfl : waiterCount = 1 ∨ waiterCount = 2 := by
      obtain ⟨round, low, high, _⟩ := waiterReach 0
      omega
    · obtain ⟨round, _, inside, named⟩ := moverReach 0
      obtain ⟨other, low, high, answered⟩ := waiterReach round
      obtain rfl : other = round := by omega
      exact meets_in_round moverSeeks waiterSeeks (by omega) named answered
    · -- The waiter names the mover in this round or the one before, whenever the mover names the waiter.
      obtain ⟨round, positive, inside, named⟩ := moverReach 1
      obtain ⟨other, low, high, answered⟩ := waiterReach (round - 1)
      obtain rfl | before : other = round ∨ round = other + 1 := by omega
      · exact meets_in_round moverSeeks waiterSeeks (by omega) named answered
      · rw [before] at named
        exact meets_between_rounds moverSeeks waiterSeeks (by omega) answered named

end Duo

/-- The server matches two clients that take turns exactly when two directly consecutive lists name each other's
client. If one of them has at most twenty peers, this happens within the product of the numbers of lists that they
need. -/
theorem duo_rendezvous (crates : Crates SigningKey DateTime) (exact : crates.MillisExact)
    (representable : crates.MillisRepresentable) (verify : crates.SignaturesVerify) {duo : Duo SigningKey}
    {turns : List (Turn DateTime)} (starts : duo.Starts crates turns) (timely : Timely crates turns) :
    ((∃ replies ∈ duo.answers crates turns, Matches replies (duo.moverKey crates) (duo.waiterKey crates)) ↔
        Meets (duo.moverKey crates) (duo.waiterKey crates) [] (Duo.lists duo.mover duo.waiter turns)) ∧
      (turns.length = 2 * ((duo.mover.trustedRemotes.size + 9) / 10 * ((duo.waiter.trustedRemotes.size + 9) / 10)) →
        duo.mover.trustedRemotes.size ≤ 20 ∨ duo.waiter.trustedRemotes.size ≤ 20 →
        ∃ replies ∈ duo.answers crates turns, Matches replies (duo.moverKey crates) (duo.waiterKey crates)) := by
  have exactly := (starts.waits timely).matched_iff exact representable verify
  refine ⟨exactly, ?_⟩
  intro enough small
  exact exactly.mpr (Duo.meets_within starts.mover starts.waiter enough small)

theorem sampleEstablisher_enabled {name : UInt8} {peers : List UInt8} {key : PublicKey} {state : PeerState}
    (found : (sampleEstablisher name peers).trustedRemotes[key]? = some state) (now : Instant) :
    state.isDiscoveryEnabled now = true := by
  rw [sampleEstablisher, UdpConnectionEstablisher.setTrustedRemoteList_getElem?] at found
  split_ifs at found
  cases found
  rfl

/-- Two new clients with these peers, at a new server. -/
def sampleDuo (mover : UInt8) (moverPeers : List UInt8) (waiter : UInt8) (waiterPeers : List UInt8) : Duo PublicKey :=
  ⟨.new, sampleEstablisher mover moverPeers, sampleEstablisher waiter waiterPeers⟩

/-- Turns every two seconds. -/
def sampleTurns (count : Nat) : List (Turn UtcNanos) :=
  (List.range count).map fun index => ⟨Duration.fromSecs (2 * index), sampleUtc (UInt8.ofNat (2 * index)),
    sampleUtc (UInt8.ofNat (2 * index)), Duration.fromSecs (2 * index)⟩

theorem sampleDuo_starts {mover waiter : UInt8} {moverPeers waiterPeers : List UInt8} {turns : List (Turn UtcNanos)}
    (moverTrusts : waiter ∈ moverPeers) (moverOthers : mover ∉ moverPeers) (waiterTrusts : mover ∈ waiterPeers)
    (waiterOthers : waiter ∉ waiterPeers) : (sampleDuo mover moverPeers waiter waiterPeers).Starts plainCrates turns := by
  let := keyOrder
  let := nameOrder
  have listed (name : UInt8) (peers : List UInt8) (peer : UInt8) :
      sampleKey peer ∈ (sampleEstablisher name peers).trustedRemotes ↔ peer ∈ peers := by
    rw [mem_sampleEstablisher, List.mem_map_of_injective sampleKey_strictMono.injective]
  constructor
  · exact ⟨(listed _ _ _).mpr moverTrusts, fun own => moverOthers ((listed _ _ _).mp own),
      fun turn _ key state found => sampleEstablisher_enabled found turn.listTm⟩
  · exact ⟨(listed _ _ _).mpr waiterTrusts, fun own => waiterOthers ((listed _ _ _).mp own),
      fun turn _ key state found => sampleEstablisher_enabled found turn.listTm⟩
  · intro requester
    simp [sampleDuo, UdpState.pending, UdpState.new]
  · intro activeSession stored
    simp [sampleDuo, UdpState.new] at stored
  · intro activeSession stored
    simp [sampleDuo, UdpState.new] at stored

theorem toNat_strictMono : @StrictMono UInt8 Nat nameOrder.toPreorder _ UInt8.toNat := by
  intro first second less
  have order := Ordering.isLT_iff_eq_lt.mp ((linearOrderOfOrd_lt first second).mp less)
  exact UInt8.lt_iff_toNat_lt.mp (Std.compare_eq_lt.mp order)

/-- The lists of a sample client, by the names of its peers. -/
theorem sampleEstablisher_listAt (name : UInt8) {peers : List UInt8} (sorted : peers.Pairwise nameOrder.lt) (index : Nat) :
    (sampleEstablisher name peers).listAt index =
      (@windowAt UInt8 nameOrder 10 peers 0 index).map sampleKey := by
  rw [UdpConnectionEstablisher.listAt, sampleEstablisher_keys name sorted]
  exact @windowAt_map PublicKey keyOrder UInt8 nameOrder sampleKey sampleKey_strictMono 10 peers 0 index

theorem sampleEstablisher_size (name : UInt8) {peers : List UInt8} (sorted : peers.Pairwise nameOrder.lt) :
    (sampleEstablisher name peers).trustedRemotes.size = peers.length := by
  rw [← Std.ExtTreeMap.length_keys, sampleEstablisher_keys name sorted, List.length_map]

/-- The lists of two clients with these peers, in turns. -/
def windowsInTurns {κ : Type} [LinearOrder κ] (moverPeers waiterPeers : List κ) (offset : κ) (count : Nat) :
    List (List κ) :=
  (List.range count).map fun index =>
    if index % 2 = 0 then windowAt 10 moverPeers offset (index / 2) else windowAt 10 waiterPeers offset (index / 2)

theorem windowsInTurns_map {κ ι : Type} [LinearOrder κ] [LinearOrder ι] {name : ι → κ} (mono : StrictMono name)
    (moverPeers waiterPeers : List ι) (offset : ι) (count : Nat) :
    windowsInTurns (moverPeers.map name) (waiterPeers.map name) (name offset) count =
      (windowsInTurns moverPeers waiterPeers offset count).map (List.map name) := by
  rw [windowsInTurns, windowsInTurns, List.map_map]
  apply List.map_congr_left
  intro index _
  rw [Function.comp_apply, apply_ite (List.map name), windowAt_map mono, windowAt_map mono]

/-- The sample clients meet as the numbers of their names do. -/
theorem sampleDuo_meets_iff {mover waiter : UInt8} {moverPeers waiterPeers : List UInt8}
    {turns : List (Turn UtcNanos)} (starts : (sampleDuo mover moverPeers waiter waiterPeers).Starts plainCrates turns)
    (moverSorted : moverPeers.Pairwise nameOrder.lt) (waiterSorted : waiterPeers.Pairwise nameOrder.lt) :
    Meets (sampleKey mover) (sampleKey waiter) []
        (Duo.lists (sampleEstablisher mover moverPeers) (sampleEstablisher waiter waiterPeers) turns) ↔
      Meets mover.toNat waiter.toNat []
        (windowsInTurns (moverPeers.map UInt8.toNat) (waiterPeers.map UInt8.toNat) 0 turns.length) := by
  let := keyOrder
  let := nameOrder
  have listed : Duo.lists (sampleEstablisher mover moverPeers) (sampleEstablisher waiter waiterPeers) turns =
      (windowsInTurns moverPeers waiterPeers 0 turns.length).map (List.map sampleKey) := by
    refine (Duo.lists_eq starts.mover starts.waiter).trans ?_
    rw [windowsInTurns, List.map_map]
    apply List.map_congr_left
    intro index _
    change (if index % 2 = 0 then (sampleEstablisher mover moverPeers).listAt (index / 2)
      else (sampleEstablisher waiter waiterPeers).listAt (index / 2)) = _
    rw [sampleEstablisher_listAt mover moverSorted, sampleEstablisher_listAt waiter waiterSorted, Function.comp_apply,
      apply_ite (List.map sampleKey)]
  have numbered := windowsInTurns_map toNat_strictMono moverPeers waiterPeers 0 turns.length
  rw [listed]
  change _ ↔ Meets mover.toNat waiter.toNat [] (windowsInTurns _ _ (UInt8.toNat 0) _)
  rw [numbered]
  exact (meets_map sampleKey_strictMono.injective mover waiter [] _).trans
    (meets_map toNat_strictMono.injective mover waiter [] _).symm

theorem sampleTurns_timely (count : Nat) (bound : count ≤ 18) : Timely plainCrates (sampleTurns count) := by
  have most : Timely plainCrates (sampleTurns 18) := by
    constructor
    · decide +kernel
    · decide +kernel
  have prefixed : sampleTurns count = (sampleTurns 18).take count := by
    rw [sampleTurns, sampleTurns, ← List.map_take, List.take_range, Nat.min_eq_left bound]
  rw [prefixed]
  exact ⟨fun turn member => most.1 turn (List.mem_of_mem_take member), most.2.take count⟩

/-- Thirty peers of client 15. The first one is client 1. -/
def samplePeersOf15 : List UInt8 := 1 :: (List.range 29).map fun index => UInt8.ofNat (index + 16)

/-- Thirty peers of client 1. The fourteenth one is client 15. -/
def samplePeersOf1 : List UInt8 := (List.range 30).map fun index => UInt8.ofNat (index + 2)

theorem samplePeers_sorted : samplePeersOf15.Pairwise nameOrder.lt ∧ samplePeersOf1.Pairwise nameOrder.lt := by
  decide +kernel

/-- Client 15 has twelve peers and client 1 has fifteen, so their lists rotate. They are matched within four rounds. -/
theorem duo_rendezvous_sample :
    ∃ replies ∈ (sampleDuo 15 (samplePeersOf15.take 12) 1 (samplePeersOf1.take 15)).answers plainCrates (sampleTurns 8),
      Matches replies (sampleKey 15) (sampleKey 1) := by
  obtain ⟨firstSorted, secondSorted⟩ := samplePeers_sorted
  have starts : (sampleDuo 15 (samplePeersOf15.take 12) 1 (samplePeersOf1.take 15)).Starts plainCrates
      (sampleTurns 8) :=
    sampleDuo_starts (by decide) (by decide) (by decide) (by decide)
  have moverSize := sampleEstablisher_size 15 (firstSorted.sublist (List.take_sublist 12 samplePeersOf15))
  have waiterSize := sampleEstablisher_size 1 (secondSorted.sublist (List.take_sublist 15 samplePeersOf1))
  refine (duo_rendezvous plainCrates (sampleCrates_millisExact _) (sampleCrates_millisRepresentable _)
    sampleCrates_signaturesVerify starts (sampleTurns_timely 8 (by decide))).2 ?_ (.inl ?_)
  · change 8 = 2 * (((sampleEstablisher 15 _).trustedRemotes.size + 9) / 10 *
      (((sampleEstablisher 1 _).trustedRemotes.size + 9) / 10))
    rw [moverSize, waiterSize]
    rfl
  · exact moverSize.trans_le (by decide)

/-- Client 15 lists client 1 in its first list of three, and client 1 lists client 15 in its second one. The server
forgets each list with the next one, so nine rounds do not match the clients. -/
theorem duo_rendezvous_fails : ¬ ∀ (duo : Duo PublicKey) (turns : List (Turn UtcNanos)), duo.server = .new →
    duo.mover.lastTrustedPeerOffset = Vector.replicate 32 0 →
    duo.waiter.lastTrustedPeerOffset = Vector.replicate 32 0 →
    duo.Starts plainCrates turns → Timely plainCrates turns →
    turns.length = 2 * ((duo.mover.trustedRemotes.size + 9) / 10 * ((duo.waiter.trustedRemotes.size + 9) / 10)) →
    ∃ replies ∈ duo.answers plainCrates turns,
      Matches replies (duo.moverKey plainCrates) (duo.waiterKey plainCrates) := by
  intro claim
  obtain ⟨firstSorted, secondSorted⟩ := samplePeers_sorted
  have starts : (sampleDuo 15 samplePeersOf15 1 samplePeersOf1).Starts plainCrates (sampleTurns 18) :=
    sampleDuo_starts (by decide) (by decide) (by decide) (by decide)
  have timely := sampleTurns_timely 18 (by decide)
  have moverSize : (sampleDuo 15 samplePeersOf15 1 samplePeersOf1).mover.trustedRemotes.size = 30 :=
    sampleEstablisher_size 15 firstSorted
  have waiterSize : (sampleDuo 15 samplePeersOf15 1 samplePeersOf1).waiter.trustedRemotes.size = 30 :=
    sampleEstablisher_size 1 secondSorted
  have matched := claim _ _ rfl rfl rfl starts timely (by rw [moverSize, waiterSize]; rfl)
  have met := ((starts.waits timely).matched_iff (sampleCrates_millisExact _) (sampleCrates_millisRepresentable _)
    sampleCrates_signaturesVerify).mp matched
  have names := (sampleDuo_meets_iff starts firstSorted secondSorted).mp met
  revert names
  decide +kernel

end RepriseP2p.Udp
