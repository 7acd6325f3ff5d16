/-
This file proves how large the two tables of the UDP server become.
-/

import RepriseP2p.Udp.ServerSessions
import RepriseP2p.Udp.ServerTables

namespace RepriseP2p.Udp

open NestedMap

/-- The number of pending requests in all rows. -/
def UdpState.entries (state : UdpState) : Nat := (state.requests.toList.map fun row => row.2.size).sum

/-- The requests that the server received within the timeout before this time. -/
def ServerRun.recent (run : ServerRun) (now : Instant) : List Handled :=
  run.handled.filter fun handled => decide (Fresh now (UdpState.pendingOf handled.request))

/-- The session table has one entry for each client that ever completed a match. -/
def SessionKeysRefine (run : ServerRun) : Prop :=
  ∀ client, client ∈ run.state.lastSessionIds ↔ ∃ handled ∈ run.handled, handled.CompletedBy client

/-- A request adds its sender to the session table exactly when it completes a match. -/
theorem SessionKeysRefine.receive {run : ServerRun} (refines : SessionKeysRefine run) (request : AcceptedRequest) :
    SessionKeysRefine (run.receive request) := by
  intro client
  rw [ServerRun.receive]
  generalize outcome : run.state.handle request = result
  have handled := run.state.handle_case request
  rw [outcome] at handled
  -- Only a match completes something, and only it changes the table.
  have incomplete {replies : List Datagram} (quiet : ∀ peer addr sessionId,
      ¬ (⟨request, replies⟩ : Handled).ToNew peer addr sessionId) :
      client ∈ run.state.lastSessionIds ↔
        ∃ handled ∈ run.handled ++ [⟨request, replies⟩], handled.CompletedBy client := by
    rw [refines client]
    simp only [List.mem_append, List.mem_singleton, or_and_right, exists_or, exists_eq_left]
    refine (or_iff_left ?_).symm
    rintro ⟨_, peer, addr, sessionId, toNew⟩
    exact quiet peer addr sessionId toNew
  cases handled with
  | lost activeSession stored same => exact incomplete fun _ _ _ => lostReply_not_toNew request _ _ _ _ _
  | placed notLost absent => exact incomplete fun _ _ _ => noReply_not_toNew request _ _ _
  | matched before after peerPubkey pending notLost listed absent present =>
      have completes : (⟨request, UdpState.matchReplies request pending⟩ : Handled).CompletedBy client ↔
          request.senderPubkey = client := by
        simp only [Handled.CompletedBy, matchReplies_matchedWith, exists_eq', and_true]
      dsimp only
      rw [UdpState.consumed, UdpState.cleanup_lastSessionIds, Std.ExtTreeMap.mem_insert,
        Std.LawfulEqCmp.compare_eq_iff_eq, refines client]
      simp only [List.mem_append, List.mem_singleton, or_and_right, exists_or, exists_eq_left, completes]
      exact or_comm

theorem serverRun_sessionKeys {run : ServerRun} (reachable : serverMachine.Reachable run) : SessionKeysRefine run := by
  apply reachable.invariant SessionKeysRefine
  · rintro run rfl client
    simp [ServerRun.start, UdpState.new]
  · intro run request _ refines _
    exact refines.receive request

theorem serverRun_noEmptyRow {run : ServerRun} (reachable : serverMachine.Reachable run) :
    NoEmptyRow run.state.requests := by
  apply reachable.invariant fun run => NoEmptyRow run.state.requests
  · rintro run rfl outer row found
    simp [ServerRun.start, UdpState.new] at found
  · intro run request _ _ _
    change NoEmptyRow (run.state.handle request).1.requests
    rw [run.state.handle_eq request]
    exact ((run.state.cleanup_settled request.now).apply rfl _).noEmptyRow

/-- Every row belongs to a request of its owner that was recent when the last request came, and that listed all its
keys. -/
theorem serverRun_row {run : ServerRun} (reachable : serverMachine.Reachable run) {requester : PublicKey}
    {row : Std.ExtTreeMap PublicKey PendingRequest compare} (found : run.state.requests[requester]? = some row) :
    ∃ origin ∈ run.recent run.clock, origin.request.senderPubkey = requester ∧
      row.size ≤ origin.request.peerPubkeys.length := by
  have refines := serverRun_tableRefines reachable
  obtain ⟨target, pending, inside⟩ := (serverRun_noEmptyRow reachable).exists_entry found
  obtain ⟨index, origin, waiting, rfl⟩ := (refines requester target pending).mp inside
  refine ⟨origin, ?_, waiting.latest.2.2.1.1, ?_⟩
  · rw [ServerRun.recent, List.mem_filter, decide_eq_true_eq]
    exact ⟨List.mem_of_getElem? waiting.latest.2.1, waiting.fresh⟩
  · apply size_le_length
    intro other value here
    obtain ⟨again, same, waits, _⟩ := (refines requester other value).mp ((entry_of_row found other).trans here)
    obtain ⟨rfl, rfl⟩ := waiting.latest.unique waits.latest
    exact waits.listed

theorem serverRun_rows_le {run : ServerRun} (reachable : serverMachine.Reachable run) :
    run.state.requests.size ≤ (run.recent run.clock).length := by
  have listed : run.state.requests.size ≤
      ((run.recent run.clock).map fun handled => handled.request.senderPubkey).length := by
    apply size_le_length
    intro requester row found
    obtain ⟨origin, recent, sender, _⟩ := serverRun_row reachable found
    exact List.mem_map.mpr ⟨origin, recent, sender⟩
  rwa [List.length_map] at listed

theorem serverRun_entries_le {run : ServerRun} (reachable : serverMachine.Reachable run) :
    run.state.entries ≤ 10 * (run.recent run.clock).length := by
  have small : ∀ size ∈ run.state.requests.toList.map fun row => row.2.size, size ≤ 10 := by
    rintro size member
    obtain ⟨⟨requester, row⟩, inside, rfl⟩ := List.mem_map.mp member
    obtain ⟨origin, _, _, fits⟩ := serverRun_row reachable (Std.ExtTreeMap.mem_toList_iff_getElem?_eq_some.mp inside)
    exact fits.trans origin.request.listed.2
  have total := List.sum_le_card_nsmul _ 10 small
  rw [List.length_map, Std.ExtTreeMap.length_toList, smul_eq_mul] at total
  have rows := serverRun_rows_le reachable
  unfold UdpState.entries
  omega

/-- Directly after an accepted request the pending table has at most one row for each request of the last ten seconds,
and at most ten entries in a row. The server cleans up for accepted requests only, so an idle server keeps older rows.
The session table has an entry for exactly the clients that ever completed a match, and it keeps them for ever. -/
theorem server_memory {run : ServerRun} (reachable : serverMachine.Reachable run) :
    (∀ request : AcceptedRequest, run.clock ≤ request.now →
      (run.receive request).state.requests.size ≤ ((run.receive request).recent request.now).length ∧
        (run.receive request).state.entries ≤ 10 * ((run.receive request).recent request.now).length) ∧
    (∀ client, client ∈ run.state.lastSessionIds ↔ ∃ handled ∈ run.handled, handled.CompletedBy client) ∧
    ∀ requests later, serverMachine.Run run requests later →
      ∀ client ∈ run.state.lastSessionIds, client ∈ later.state.lastSessionIds := by
  refine ⟨fun request ordered => ?_, serverRun_sessionKeys reachable, ?_⟩
  · have after : serverMachine.Reachable (run.receive request) := reachable.next ordered
    exact ⟨serverRun_rows_le after, serverRun_entries_le after⟩
  · intro requests later ran client member
    have kept : SessionKeysRefine later ∧ client ∈ later.state.lastSessionIds := by
      apply ran.invariant fun run => SessionKeysRefine run ∧ client ∈ run.state.lastSessionIds
      · exact ⟨serverRun_sessionKeys reachable, member⟩
      · rintro run request ⟨refines, there⟩ _
        obtain ⟨handled, earlier, completed⟩ := (refines client).mp there
        have refinesNext := refines.receive request
        exact ⟨refinesNext, (refinesNext client).mpr ⟨handled, List.mem_append_left _ earlier, completed⟩⟩
    exact kept.2

/-- Twenty seconds after the match one client waits, and the session of client 2 is still stored. -/
theorem server_memory_sample :
    let run := sampleRun [sampleFirst, sampleRequest 2 12 1 none 1]
    let last := run.receive (sampleRequest 3 13 4 none 20)
    (last.state.requests.size ≤ 1 ∧ last.state.entries ≤ 10) ∧ sampleKey 2 ∈ last.state.lastSessionIds := by
  intro run last
  have reachable : serverMachine.Reachable run := sampleRun_reachable _ (by decide)
  have ordered : run.clock ≤ (sampleRequest 3 13 4 none 20).now := by decide
  obtain ⟨sizes, keys, kept⟩ := server_memory reachable
  constructor
  · have recent : (last.recent (sampleRequest 3 13 4 none 20).now).length = 1 := by decide +kernel
    have small := sizes _ ordered
    rwa [recent] at small
  · have stored : sampleKey 2 ∈ run.state.lastSessionIds :=
      (keys _).mpr ⟨sampleAnswer 12, by decide +kernel, rfl, _, _, _, sampleAnswer_toNew 12⟩
    exact kept [sampleRequest 3 13 4 none 20] last (Machine.Run.nil.snoc _ ordered) _ stored

end RepriseP2p.Udp
