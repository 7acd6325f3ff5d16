/-
This file proves that the rotating request lists of a client reach every peer that stays enabled.
-/

import RepriseP2p.Foundation.CyclicScan
import RepriseP2p.Udp.Client

namespace RepriseP2p.Udp

open CyclicScan

variable {SigningKey : Type}

abbrev TrustedRemotes := Std.ExtTreeMap PublicKey PeerState compare

/-- The order in which the map stores its keys. -/
@[reducible] def keyOrder : LinearOrder PublicKey := linearOrderOfOrd PublicKey

/-- The keys that are enabled at this time, in the order of the map. -/
def enabledKeys (remotes : TrustedRemotes) (now : Instant) : List PublicKey :=
  (remotes.toList.filter fun entry => entry.2.isDiscoveryEnabled now).map Prod.fst

theorem mem_enabledKeys {remotes : TrustedRemotes} {now : Instant} {peer : PublicKey} :
    peer ∈ enabledKeys remotes now ↔ ∃ state, remotes[peer]? = some state ∧ state.isDiscoveryEnabled now = true := by
  simp only [enabledKeys, List.mem_map, List.mem_filter, Prod.exists, exists_and_right, exists_eq_right,
    Std.ExtTreeMap.mem_toList_iff_getElem?_eq_some]

theorem keys_sorted (remotes : TrustedRemotes) : remotes.keys.Pairwise keyOrder.lt := by
  apply Std.ExtTreeMap.ordered_keys.imp
  intro first second less
  rw [linearOrderOfOrd_lt, less]
  rfl

theorem enabledKeys_sorted (remotes : TrustedRemotes) (now : Instant) :
    (enabledKeys remotes now).Pairwise keyOrder.lt := by
  rw [enabledKeys, List.pairwise_map]
  apply (Std.ExtTreeMap.ordered_keys_toList.filter _).imp
  intro first second less
  rw [linearOrderOfOrd_lt, less]
  rfl

theorem decide_keyOrder_le (first second : PublicKey) :
    @decide (keyOrder.le first second) (keyOrder.toDecidableLE first second) = (compare first second).isLE := by
  rw [Bool.eq_iff_iff, decide_eq_true_iff, linearOrderOfOrd_le]

theorem decide_keyOrder_lt (first second : PublicKey) :
    @decide (keyOrder.lt first second) (keyOrder.toDecidableLT first second) = (compare first second).isLT := by
  rw [Bool.eq_iff_iff, decide_eq_true_iff, linearOrderOfOrd_lt]

namespace UdpConnectionEstablisher

/-- The listed keys are one window over the enabled keys. -/
theorem availableRemotes_eq (establisher : UdpConnectionEstablisher SigningKey) (now : Instant) :
    establisher.availableRemotes now = @window PublicKey keyOrder 10 establisher.lastTrustedPeerOffset
      (enabledKeys establisher.trustedRemotes now) := by
  simp only [availableRemotes, window, scan, enabledKeys, decide_keyOrder_le, decide_keyOrder_lt, List.filter_append,
    List.filter_filter, List.filter_map, List.map_take, List.map_append, Function.comp_def, Bool.and_comm]

theorem newAvailableRemotesList_eq_window (establisher : UdpConnectionEstablisher SigningKey) (now : Instant) :
    let shown := @window PublicKey keyOrder 10 establisher.lastTrustedPeerOffset
      (enabledKeys establisher.trustedRemotes now)
    establisher.newAvailableRemotesList now = (shown, { establisher with
      lastTrustedPeerOffset := @advance PublicKey keyOrder establisher.lastTrustedPeerOffset
        establisher.trustedRemotes.keys shown }) := by
  intro shown
  simp only [newAvailableRemotesList, advance, successor, decide_keyOrder_lt]
  rw [availableRemotes_eq]
  cases (@window PublicKey keyOrder 10 establisher.lastTrustedPeerOffset
    (enabledKeys establisher.trustedRemotes now)).getLast? with
  | none => rfl
  | some lastKey => rfl

/-- The results of successive calls. Before each of them the trusted peers may have changed in any way. -/
def lists (establisher : UdpConnectionEstablisher SigningKey) : List (TrustedRemotes × Instant) → List (List PublicKey)
  | [] => []
  | (remotes, now) :: calls =>
      let called := { establisher with trustedRemotes := remotes }.newAvailableRemotesList now
      called.1 :: called.2.lists calls

/-- No operation on the trusted peers moves the offset. -/
theorem call_offset (establisher : UdpConnectionEstablisher SigningKey) (call : Call) :
    (establisher.call call).lastTrustedPeerOffset = establisher.lastTrustedPeerOffset := by
  cases call <;> rfl

/-- All keys and the enabled keys of each call. -/
def rounds (calls : List (TrustedRemotes × Instant)) : List (List PublicKey × List PublicKey) :=
  calls.map fun call => (call.1.keys, enabledKeys call.1 call.2)

/-- The results of successive calls are successive windows over the enabled keys. -/
theorem lists_eq (establisher : UdpConnectionEstablisher SigningKey) (calls : List (TrustedRemotes × Instant)) :
    establisher.lists calls = @windows PublicKey keyOrder 10 establisher.lastTrustedPeerOffset (rounds calls) := by
  induction calls generalizing establisher with
  | nil => rfl
  | cons call calls ih =>
      rw [lists, newAvailableRemotesList_eq_window, ih]
      rfl

end UdpConnectionEstablisher

/-- The peer is trusted and enabled in every call. -/
def StaysEnabled (peer : PublicKey) (calls : List (TrustedRemotes × Instant)) : Prop :=
  ∀ call ∈ calls, peer ∈ enabledKeys call.1 call.2

theorem StaysEnabled.stays {peer : PublicKey} {calls : List (TrustedRemotes × Instant)}
    (enabled : StaysEnabled peer calls) :
    @Stays PublicKey keyOrder peer (UdpConnectionEstablisher.rounds calls) := by
  intro keys listed member
  obtain ⟨call, called, same⟩ := List.mem_map.mp member
  cases same
  have there := enabled call called
  obtain ⟨state, found, _⟩ := mem_enabledKeys.mp there
  refine ⟨keys_sorted call.1, enabledKeys_sorted call.1 call.2, ?_, there⟩
  rw [Std.ExtTreeMap.mem_keys, Std.ExtTreeMap.mem_iff_isSome_getElem?, found]
  rfl

/-- Consecutive lists that miss an enabled peer hold ten keys each and no key twice. Lists over the same enabled
peers reach each of them within as many calls as it takes to list them all. -/
theorem client_rotation (establisher : UdpConnectionEstablisher SigningKey) (calls : List (TrustedRemotes × Instant))
    (peer : PublicKey) (stays : StaysEnabled peer calls) (before between after : List (List PublicKey))
    (split : establisher.lists calls = before ++ between ++ after) :
    ((∀ result ∈ between, peer ∉ result) → (∀ result ∈ between, result.length = 10) ∧ between.flatten.Nodup) ∧
      ∀ enabled : Finset PublicKey, peer ∈ enabled →
        (∀ call ∈ calls, ∀ key, key ∈ enabledKeys call.1 call.2 ↔ key ∈ enabled) →
        between.length = (enabled.card + 9) / 10 → ∃ result ∈ between, peer ∈ result := by
  let := keyOrder
  rw [UdpConnectionEstablisher.lists_eq] at split
  obtain ⟨offset, same⟩ := windows_stretch split
  have count := congrArg List.length same
  rw [windows_length] at count
  generalize inside : ((UdpConnectionEstablisher.rounds calls).drop before.length).take between.length = middle at same count
  have taken (round : List PublicKey × List PublicKey) (member : round ∈ middle) :
      round ∈ UdpConnectionEstablisher.rounds calls := by
    rw [← inside] at member
    exact List.mem_of_mem_drop (List.mem_of_mem_take member)
  have kept : Stays peer middle := fun keys listed member => stays.stays keys listed (taken _ member)
  constructor
  · intro missed
    rw [same] at missed ⊢
    obtain ⟨full, distinct, _⟩ := windows_missing (by decide) kept missed
    exact ⟨full, distinct⟩
  · intro enabled member fixed enough
    have width : enabled.card ≤ 10 * middle.length := by
      omega
    rw [same]
    apply windows_reach (by decide) kept member
    · intro keys listed round key shown
      obtain ⟨call, called, equal⟩ := List.mem_map.mp (taken _ round)
      cases equal
      exact (fixed call called key).mp shown
    · exact width

/-- A new client that trusts the peers with these names. -/
def sampleEstablisher (name : UInt8) (peers : List UInt8) : UdpConnectionEstablisher PublicKey :=
  (UdpConnectionEstablisher.new (sampleKey name) (sampleAddr 100) name.toUInt32 (sampleAddr name) none
    none).setTrustedRemoteList (peers.map sampleKey)

/-- The order of the names. -/
@[reducible] def nameOrder : LinearOrder UInt8 := linearOrderOfOrd UInt8

/-- The sample keys are ordered like their names. -/
theorem sampleKey_strictMono : @StrictMono UInt8 PublicKey nameOrder.toPreorder keyOrder.toPreorder sampleKey := by
  intro first second less
  have order := Ordering.isLT_iff_eq_lt.mp ((linearOrderOfOrd_lt first second).mp less)
  apply (linearOrderOfOrd_lt _ _).mpr
  rw [Vector.compare_eq_compare_toList, sampleKey, sampleKey, Vector.toList_replicate, Vector.toList_replicate]
  change (List.compareLex compare (first :: List.replicate 31 first) (second :: List.replicate 31 second)).isLT = true
  rw [List.compareLex_cons_cons, order]
  rfl

theorem mem_sampleEstablisher (name : UInt8) (peers : List UInt8) (peer : PublicKey) :
    peer ∈ (sampleEstablisher name peers).trustedRemotes ↔ peer ∈ peers.map sampleKey := by
  rw [Std.ExtTreeMap.mem_iff_isSome_getElem?, sampleEstablisher,
    UdpConnectionEstablisher.setTrustedRemoteList_getElem?]
  split_ifs with listed
  · simp [listed]
  · simp [listed]

/-- The map stores the peers in the order of their names. -/
theorem sampleEstablisher_keys (name : UInt8) {peers : List UInt8} (sorted : peers.Pairwise nameOrder.lt) :
    (sampleEstablisher name peers).trustedRemotes.keys = peers.map sampleKey := by
  let := keyOrder
  have stored := keys_sorted (sampleEstablisher name peers).trustedRemotes
  have listed : (peers.map sampleKey).Pairwise keyOrder.lt := by
    rw [List.pairwise_map]
    exact sorted.imp fun less => sampleKey_strictMono less
  have same : (sampleEstablisher name peers).trustedRemotes.keys.Perm (peers.map sampleKey) := by
    rw [List.perm_ext_iff_of_nodup (stored.imp fun less => less.ne) (listed.imp fun less => less.ne)]
    intro peer
    rw [Std.ExtTreeMap.mem_keys, mem_sampleEstablisher]
  apply same.eq_of_pairwise _ stored listed
  intro first second _ _ less more
  exact absurd less (lt_asymm more)

/-- Of twelve peers, the last one is missing in the first list. -/
theorem client_rotation_sample :
    let establisher := sampleEstablisher 1 [2, 3, 4, 5, 6, 7, 8, 9, 10, 11, 12, 13]
    let first := (establisher.newAvailableRemotesList 0).1
    (∀ result ∈ [first], result.length = 10) ∧ [first].flatten.Nodup := by
  intro establisher first
  have stays : StaysEnabled (sampleKey 13) [(establisher.trustedRemotes, 0)] := by
    unfold StaysEnabled
    decide +kernel
  exact (client_rotation establisher _ (sampleKey 13) stays [] [first] [] rfl).1 (by decide +kernel)

end RepriseP2p.Udp
