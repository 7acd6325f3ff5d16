/-
This file relates the trusted peers of a client to the calls that decide about trust.
-/

import RepriseP2p.Foundation.History
import RepriseP2p.Udp.PollStep

namespace RepriseP2p.Udp

open History

variable {SigningKey DateTime : Type}

/-- The trusted keys after a call, by the meaning of the three trust operations. Feedback decides nothing. -/
def UdpConnectionEstablisher.Call.trustAfter (trusted : Set PublicKey) : UdpConnectionEstablisher.Call → Set PublicKey
  | .addTrustedRemote key => insert key trusted
  | .removeTrustedRemote key => trusted \ {key}
  | .setTrustedRemoteList newTrustedRemotes => {key | key ∈ newTrustedRemotes}
  | .onConnectionClosed _ => trusted

def ClientAct.trustAfter (trusted : Set PublicKey) : ClientAct DateTime → Set PublicKey
  | .called call => call.trustAfter trusted
  | _ => trusted

/-- The keys that the calls of a client have made trusted. -/
def trustOf (acts : List (ClientAct DateTime)) : Set PublicKey := acts.foldl ClientAct.trustAfter ∅

theorem trustOf_snoc (acts : List (ClientAct DateTime)) (act : ClientAct DateTime) :
    trustOf (acts ++ [act]) = act.trustAfter (trustOf acts) := by
  simp [trustOf]

/-- The act requests a connection with this peer or accepts one. -/
def ClientAct.Names (act : ClientAct DateTime) (peer : PublicKey) : Prop :=
  match act with
  | .requested _ (.connectionRequest peerPubkeys _) => peer ∈ peerPubkeys
  | .accepted notification => notification.peerPubkey = peer
  | _ => False

instance (act : ClientAct DateTime) (peer : PublicKey) : Decidable (act.Names peer) :=
  match act with
  | .called _ | .sent _ _ => inferInstanceAs (Decidable False)
  | .requested _ (.connectionRequest peerPubkeys _) => inferInstanceAs (Decidable (peer ∈ peerPubkeys))
  | .accepted notification => inferInstanceAs (Decidable (notification.peerPubkey = peer))

/-- The client trusts exactly the keys of its trust operations, and it never requested or accepted another key. -/
def ClientRun.TrustKept (run : ClientRun SigningKey DateTime) : Prop :=
  (∀ peer, peer ∈ run.establisher.trustedRemotes ↔ peer ∈ trustOf run.acts) ∧
    EachAfter run.acts fun earlier act => ∀ peer, act.Names peer → peer ∈ trustOf earlier

/-- The feedback is about a peer that is still trusted. -/
def ClientAct.FeedbackTrusted (earlier : List (ClientAct DateTime)) (act : ClientAct DateTime) : Prop :=
  ∀ peer, act = .called (.onConnectionClosed peer) → peer ∈ trustOf earlier

/-- A client takes any events at any times. -/
def clientMachine (crates : Crates SigningKey DateTime) :
    Machine (ClientRun SigningKey DateTime) (Instant × ClientEvent DateTime) where
  initial run := ∃ key p2pServerAddr sessionId addr socketInterface curInterface,
    run = .start (.new key p2pServerAddr sessionId addr socketInterface curInterface)
  allowed _ _ := True
  next run event := run.step crates event.1 event.2

instance (crates : Crates SigningKey DateTime) (run : ClientRun SigningKey DateTime)
    (event : Instant × ClientEvent DateTime) : Decidable ((clientMachine crates).allowed run event) :=
  inferInstanceAs (Decidable True)

theorem ClientRun.trustKept_start (establisher : UdpConnectionEstablisher SigningKey)
    (empty : establisher.trustedRemotes = ∅) :
    (ClientRun.start establisher : ClientRun SigningKey DateTime).TrustKept := by
  refine ⟨fun peer => ?_, eachAfter_nil⟩
  rw [ClientRun.start, empty]
  simp [trustOf]

/-- An act that is no call keeps the trusted keys. -/
theorem ClientRun.TrustKept.snoc {run : ClientRun SigningKey DateTime} (kept : run.TrustKept)
    {establisher : UdpConnectionEstablisher SigningKey} {stage : Stage} {act : ClientAct DateTime}
    (sameRemotes : ∀ peer, peer ∈ establisher.trustedRemotes ↔ peer ∈ run.establisher.trustedRemotes)
    (sameTrust : act.trustAfter (trustOf run.acts) = trustOf run.acts)
    (names : ∀ peer, act.Names peer → peer ∈ run.establisher.trustedRemotes) :
    (⟨establisher, stage, run.acts ++ [act]⟩ : ClientRun SigningKey DateTime).TrustKept := by
  refine ⟨fun peer => ?_, eachAfter_snoc.mpr ⟨kept.2, fun peer named => (kept.1 peer).mp (names peer named)⟩⟩
  rw [trustOf_snoc, sameTrust, sameRemotes, kept.1]

/-- A call keeps the trusted keys when its feedback is about a trusted key. -/
theorem ClientRun.TrustKept.called {run : ClientRun SigningKey DateTime} (kept : run.TrustKept)
    (call : UdpConnectionEstablisher.Call) (feedback : ClientAct.FeedbackTrusted run.acts (.called call)) :
    ({ run with establisher := run.establisher.call call, acts := run.acts ++ [.called call] } :
      ClientRun SigningKey DateTime).TrustKept := by
  refine ⟨fun peer => ?_, eachAfter_snoc.mpr ⟨kept.2, fun peer named => named.elim⟩⟩
  rw [trustOf_snoc, run.establisher.mem_call call peer]
  have same := kept.1 peer
  cases call with
  | addTrustedRemote key => simp [ClientAct.trustAfter, UdpConnectionEstablisher.Call.trustAfter, same, eq_comm]
  | removeTrustedRemote key =>
      simp [ClientAct.trustAfter, UdpConnectionEstablisher.Call.trustAfter, same, eq_comm, and_comm]
  | setTrustedRemoteList keys => rfl
  | onConnectionClosed key =>
      have trusted := feedback key rfl
      simp only [ClientAct.trustAfter, UdpConnectionEstablisher.Call.trustAfter, same]
      exact ⟨fun either => either.elim (fun equal => equal ▸ trusted) id, .inr⟩

section Step

variable {crates : Crates SigningKey DateTime} {now : Instant} {run next : ClientRun SigningKey DateTime}
  {event : ClientEvent DateTime}

/-- Every step keeps the trusted keys while all feedback is about trusted keys. -/
theorem ClientRun.TrustKept.step (kept : run.TrustKept) (taken : run.StepCase crates now event next)
    (feedback : EachAfter next.acts ClientAct.FeedbackTrusted) : next.TrustKept := by
  cases taken with
  | ignored => exact kept
  | called result call idle taken => exact kept.called call (eachAfter_snoc.mp feedback).2
  | requested establisher utcNow peerPubkeys payload sameRemotes sameKey sameServer trusted encoded =>
      exact kept.snoc (fun peer => by rw [sameRemotes]) rfl trusted
  | quiet establisher stage sameRemotes sameKey sameServer calm =>
      refine ⟨fun peer => ?_, kept.2⟩
      rw [sameRemotes]
      exact kept.1 peer
  | sent payload sending => exact kept.snoc (fun peer => Iff.rfl) rfl fun peer named => named.elim
  | accepted bytes random notification state receiving received parsed trusted enabled unseen =>
      have present : notification.peerPubkey ∈ run.establisher.trustedRemotes := by
        rw [Std.ExtTreeMap.mem_iff_isSome_getElem?, trusted]
        rfl
      refine kept.snoc (fun peer => ?_) rfl fun peer named => named ▸ present
      rw [Std.ExtTreeMap.mem_insert, Std.LawfulEqCmp.compare_eq_iff_eq]
      exact ⟨fun either => either.elim (fun same => same ▸ present) id, .inr⟩
  | swapped notification socket random swapping => exact kept
  | finished notification socket result change punching keeps =>
      refine ⟨fun peer => ?_, kept.2⟩
      rw [Std.ExtTreeMap.mem_modify]
      exact kept.1 peer

/-- Feedback about a key that is not trusted puts the key back. -/
theorem ClientRun.StepCase.feedbackTrusted (taken : run.StepCase crates now event next)
    (earlier : EachAfter run.acts ClientAct.FeedbackTrusted) (kept : next.TrustKept) :
    EachAfter next.acts ClientAct.FeedbackTrusted := by
  have noCall {act : ClientAct DateTime} (other : ∀ call, act ≠ .called call) :
      EachAfter (run.acts ++ [act]) ClientAct.FeedbackTrusted :=
    eachAfter_snoc.mpr ⟨earlier, fun peer same => absurd same (other _)⟩
  cases taken with
  | ignored => exact earlier
  | called result call idle taken =>
      refine eachAfter_snoc.mpr ⟨earlier, fun peer same => ?_⟩
      cases same
      have present := (run.establisher.mem_call (.onConnectionClosed peer) peer).mpr (.inl rfl)
      have trusted := (kept.1 peer).mp present
      rwa [trustOf_snoc] at trusted
  | requested establisher utcNow peerPubkeys payload sameRemotes sameKey sameServer trusted encoded =>
      exact noCall fun _ => nofun
  | quiet establisher stage sameRemotes sameKey sameServer calm => exact earlier
  | sent payload sending => exact noCall fun _ => nofun
  | accepted bytes random notification state receiving received parsed trusted enabled unseen =>
      exact noCall fun _ => nofun
  | swapped notification socket random swapping => exact earlier
  | finished notification socket result change punching keeps => exact earlier

end Step

/-- The trust operations alone decide who is trusted in every state of a run, exactly when all feedback of the run is
about keys that these operations left trusted. -/
theorem client_trust_iff (crates : Crates SigningKey DateTime) {start run : ClientRun SigningKey DateTime}
    {events : List (Instant × ClientEvent DateTime)} (initial : (clientMachine crates).initial start)
    (ran : (clientMachine crates).Run start events run) :
    (∀ middle, (clientMachine crates).Passes start events middle → middle.TrustKept) ↔
      EachAfter run.acts ClientAct.FeedbackTrusted := by
  induction ran with
  | nil =>
      obtain ⟨key, p2pServerAddr, sessionId, addr, socketInterface, curInterface, rfl⟩ := initial
      refine ⟨fun _ => eachAfter_nil, fun _ middle passed => ?_⟩
      rw [Machine.passes_nil.mp passed]
      exact ClientRun.trustKept_start _ rfl
  | @snoc events before event ran allowed ih =>
      have taken := before.step_case crates event.1 event.2
      constructor
      · intro kept
        have earlier := ih.mp fun middle passed => kept middle ((ran.passes_snoc allowed).mpr (.inl passed))
        exact taken.feedbackTrusted earlier (kept _ ((ran.passes_snoc allowed).mpr (.inr rfl)))
      · intro feedback middle passed
        have earlier := ih.mpr (feedback.of_prefix taken.acts_prefix)
        rcases (ran.passes_snoc allowed).mp passed with inside | rfl
        · exact earlier middle inside
        · exact (earlier before ran.passes_end).step taken feedback

def sampleServerAddr : SocketAddrV4 := ⟨#v[10, 0, 0, 100], 3000⟩

/-- A new client at its own address. -/
def sampleClient (name : UInt8) (sessionId : UInt32) : ClientRun PublicKey UtcNanos :=
  .start (.new (sampleKey name) sampleServerAddr sessionId (sampleAddr name) none none)

def sampleClientMachine : Machine (ClientRun PublicKey UtcNanos) (Instant × ClientEvent UtcNanos) :=
  clientMachine plainCrates

/-- Client 1 after these events. -/
def sampleClientRun (events : List (Instant × ClientEvent UtcNanos)) : ClientRun PublicKey UtcNanos :=
  events.foldl sampleClientMachine.next (sampleClient 1 11)

theorem sampleClientRun_run (events : List (Instant × ClientEvent UtcNanos)) :
    sampleClientMachine.Run (sampleClient 1 11) events (sampleClientRun events) :=
  Machine.run_of_free (fun _ _ => trivial) _ _

/-- Client 1 learns of client 2 and connects with it. -/
def sampleConnection : List (Instant × ClientEvent UtcNanos) :=
  [(0, .call (.addTrustedRemote (sampleKey 2))), (0, .pollAccept none (sampleUtc 0)), (0, .sent),
    (0, .received (.v4 sampleServerAddr) (Notification.message ⟨sampleKey 2, sampleAddr 2, 21, true⟩).toBytes 0),
    (0, .swapped none (sampleAddr 3) 12), (0, .punched (.ok (.v4 (sampleAddr 2))))]

/-- Feedback about a trusted peer keeps the trust. -/
theorem client_trust_sample : (sampleClientRun
    [(0, .call (.addTrustedRemote (sampleKey 2))), (0, .call (.onConnectionClosed (sampleKey 2)))]).TrustKept := by
  have ran := sampleClientRun_run
    [(0, .call (.addTrustedRemote (sampleKey 2))), (0, .call (.onConnectionClosed (sampleKey 2)))]
  refine (client_trust_iff _ ⟨_, _, _, _, _, _, rfl⟩ ran).mpr ?_ _ ran.passes_end
  have added : EachAfter ([.called (.addTrustedRemote (sampleKey 2))] : List (ClientAct UtcNanos))
      ClientAct.FeedbackTrusted :=
    eachAfter_snoc.mpr ⟨eachAfter_nil, fun peer => nofun⟩
  refine eachAfter_snoc.mpr ⟨added, fun peer same => ?_⟩
  cases same
  exact Set.mem_insert (sampleKey 2) ∅

/-- The connection with client 2 closes after client 2 was removed. This trusts client 2 again. -/
theorem client_trust_fails : ¬ ∀ start events middle, sampleClientMachine.initial start →
    sampleClientMachine.Passes start events middle → middle.TrustKept := by
  intro claim
  have ran := sampleClientRun_run (sampleConnection ++
    [(0, .call (.removeTrustedRemote (sampleKey 2))), (0, .call (.onConnectionClosed (sampleKey 2)))])
  have kept := claim _ _ _ ⟨_, _, _, _, _, _, rfl⟩ ran.passes_end
  have trusted := (kept.1 (sampleKey 2)).mp (by decide +kernel)
  have ending : (sampleClientRun (sampleConnection ++ [(0, .call (.removeTrustedRemote (sampleKey 2))),
      (0, .call (.onConnectionClosed (sampleKey 2)))])).acts.drop 4 =
      [.called (.removeTrustedRemote (sampleKey 2)), .called (.onConnectionClosed (sampleKey 2))] := by
    decide +kernel
  rw [← List.take_append_drop 4 (sampleClientRun _).acts, ending, trustOf, List.foldl_append] at trusted
  exact trusted.2 rfl

end RepriseP2p.Udp
