/-
This file bounds how many requests a client sends between two clock readings, by the time between them and by the
notifications that it accepted.
-/

import RepriseP2p.Udp.ClientTrust

namespace RepriseP2p.Udp

variable {SigningKey DateTime : Type}

def ClientAct.isAccepted : ClientAct DateTime → Bool
  | .accepted _ => true
  | _ => false

/-- The number of notifications that the client accepted. -/
def ClientRun.acceptances (run : ClientRun SigningKey DateTime) : Nat := run.acts.countP ClientAct.isAccepted

/-- The client works on a notification that it accepted. -/
def Stage.engaged : Stage → Nat
  | .swapping _ | .punching _ _ => 1
  | _ => 0

/-- The pause between two requests. -/
def requestPause : Duration := Duration.fromSecs (requestPlacementInterval + 1)

theorem requestDue_iff (establisher : UdpConnectionEstablisher SigningKey) (now : Instant) :
    establisher.requestDue now = true ↔ ∀ tm, establisher.lastRequestTm = some tm → requestPause ≤ now - tm := by
  cases last : establisher.lastRequestTm with
  | none => simp [UdpConnectionEstablisher.requestDue, last]
  | some tm =>
      have whole := Duration.asSecs_lt_iff (now.elapsed tm) (requestPlacementInterval + 1)
      simp only [UdpConnectionEstablisher.requestDue, last, decide_eq_true_eq, Option.some.injEq, forall_eq']
      rw [← Nat.succ_le_iff, ← not_lt, whole, not_lt]
      rfl

/-- This many requests were sent and this many notifications accepted at the first reading. The requests since then,
if any, are paid for by the time since then and by the notifications that were accepted since then. A request that waits
to be sent has waited long enough. -/
structure ClientRun.Paced (run : ClientRun SigningKey DateTime) (sends accepts : Nat) (since clock : Instant) :
    Prop where
  forward : since ≤ clock
  moreSent : sends ≤ run.outbox.length
  moreAccepted : accepts ≤ run.acceptances
  free : run.establisher.lastRequestTm = none → run.outbox.length = sends ∨
    since + requestPause * (run.outbox.length + accepts + run.stage.engaged) ≤
      clock + requestPause * (run.acceptances + sends)
  timed : ∀ tm, run.establisher.lastRequestTm = some tm → tm ≤ clock ∧ (run.outbox.length = sends ∨
    since + requestPause * (run.outbox.length + accepts + run.stage.engaged) ≤
      tm + requestPause * (run.acceptances + sends + 1))
  due : ∀ payload, run.stage = .sending payload → run.establisher.requestDue clock = true

section Step

variable {crates : Crates SigningKey DateTime} {run : ClientRun SigningKey DateTime} {sends accepts : Nat}
  {since clock now : Instant}

theorem ClientRun.Paced.later (paced : run.Paced sends accepts since clock) (forward : clock ≤ now) :
    run.Paced sends accepts since now where
  forward := paced.forward.trans forward
  moreSent := paced.moreSent
  moreAccepted := paced.moreAccepted
  free none := (paced.free none).imp_right fun paid => paid.trans (Nat.add_le_add_right forward _)
  timed tm last := ⟨(paced.timed tm last).1.trans forward, (paced.timed tm last).2⟩
  due payload sending := by
    rw [requestDue_iff]
    intro tm last
    exact ((requestDue_iff _ _).mp (paced.due payload sending) tm last).trans (Nat.sub_le_sub_right forward tm)

/-- Every reading of a paced run is a first reading too. -/
theorem ClientRun.Paced.restart (paced : run.Paced sends accepts since clock) :
    run.Paced run.outbox.length run.acceptances clock clock where
  forward := le_rfl
  moreSent := le_rfl
  moreAccepted := le_rfl
  free _ := .inl rfl
  timed tm last := ⟨(paced.timed tm last).1, .inl rfl⟩
  due := paced.due

/-- The client sends nothing, accepts nothing and keeps the time of its last request. -/
theorem ClientRun.Paced.quiet {next : ClientRun SigningKey DateTime} (paced : run.Paced sends accepts since clock)
    (sameTm : next.establisher.lastRequestTm = run.establisher.lastRequestTm)
    (sameOutbox : next.outbox = run.outbox) (sameAcceptances : next.acceptances = run.acceptances)
    (calm : next.stage.engaged ≤ run.stage.engaged)
    (due : ∀ payload, next.stage = .sending payload → next.establisher.requestDue clock = true) :
    next.Paced sends accepts since clock := by
  have fewer : requestPause * (run.outbox.length + accepts + next.stage.engaged) ≤
      requestPause * (run.outbox.length + accepts + run.stage.engaged) :=
    Nat.mul_le_mul_left _ (Nat.add_le_add_left calm _)
  constructor
  · exact paced.forward
  · exact sameOutbox ▸ paced.moreSent
  · exact sameAcceptances ▸ paced.moreAccepted
  · intro none
    rw [sameOutbox, sameAcceptances]
    exact (paced.free (sameTm ▸ none)).imp_right (Nat.add_le_add_left fewer since).trans
  · intro tm last
    rw [sameOutbox, sameAcceptances]
    obtain ⟨past, paid⟩ := paced.timed tm (sameTm ▸ last)
    exact ⟨past, paid.imp_right (Nat.add_le_add_left fewer since).trans⟩
  · exact due

/-- A request is signed only when it is due. -/
theorem ClientRun.Paced.placeRequests (paced : run.Paced sends accepts since now) (utcNow : DateTime) :
    (run.placeRequests crates now utcNow).Paced sends accepts since now := by
  obtain ⟨offset, list⟩ := run.establisher.newAvailableRemotesList_eq now
  simp only [ClientRun.placeRequests, list]
  split_ifs with due
  · exact paced.quiet rfl rfl rfl (by simp [Stage.engaged]) (by simp)
  · split
    · refine paced.quiet rfl ?_ ?_ (by simp [Stage.engaged]) fun payload sending => due
      · simp [ClientRun.outbox]
      · simp [ClientRun.acceptances, ClientAct.isAccepted]
    · exact paced.quiet rfl rfl rfl (by simp [Stage.engaged]) (by simp)
  · exact paced.quiet rfl rfl rfl (by simp [Stage.engaged]) (by simp)

/-- A request that is sent was due. -/
theorem ClientRun.Paced.sent (paced : run.Paced sends accepts since now) {payload : List UInt8}
    (sending : run.stage = .sending payload) :
    (⟨{ run.establisher with lastRequestTm := some now }, .receiving,
      run.acts ++ [.sent run.establisher.socket.addr payload]⟩ : ClientRun SigningKey DateTime).Paced sends accepts
      since now := by
  have paid : since + requestPause * (run.outbox.length + accepts) ≤
      now + requestPause * (run.acceptances + sends) := by
    -- The first request since the first reading needs no payment.
    have first (none : run.outbox.length = sends) : since + requestPause * (run.outbox.length + accepts) ≤
        now + requestPause * (run.acceptances + sends) := by
      rw [none, Nat.add_comm sends]
      exact Nat.add_le_add paced.forward (Nat.mul_le_mul_left _ (Nat.add_le_add_right paced.moreAccepted _))
    cases last : run.establisher.lastRequestTm with
    | none =>
        obtain none | paid := paced.free last
        · exact first none
        · simpa [sending, Stage.engaged] using paid
    | some tm =>
        obtain ⟨past, none | paid⟩ := paced.timed tm last
        · exact first none
        · have waited := (requestDue_iff _ _).mp (paced.due payload sending) tm last
          simp only [sending, Stage.engaged, Nat.add_zero, Nat.mul_succ] at paid
          lia
  refine ⟨paced.forward, ?_, ?_, by simp, fun tm last => ⟨?_, .inr ?_⟩, by simp⟩
  · exact paced.moreSent.trans (by simp [ClientRun.outbox])
  · exact paced.moreAccepted.trans (by simp [ClientRun.acceptances])
  · cases last
    exact le_rfl
  · cases last
    simp only [ClientRun.outbox, ClientRun.acceptances, List.filterMap_append, List.filterMap_cons, List.filterMap_nil,
      List.length_append, List.length_singleton, List.countP_append, List.countP_singleton, ClientAct.isAccepted,
      Stage.engaged, Nat.mul_succ, Nat.mul_add, Nat.add_zero, Bool.false_eq_true, if_false] at paid ⊢
    lia

/-- An accepted notification pays for one more request. -/
theorem ClientRun.Paced.accepted (paced : run.Paced sends accepts since now) (receiving : run.stage = .receiving)
    (notification : Notification) (state : PeerState) :
    (run.accept notification state).Paced sends accepts since now := by
  have sameOutbox : (run.accept notification state).outbox = run.outbox := by
    simp [ClientRun.accept, ClientRun.outbox]
  have more : (run.accept notification state).acceptances = run.acceptances + 1 := by
    simp [ClientRun.accept, ClientRun.acceptances, ClientAct.isAccepted]
  have engaged : (run.accept notification state).stage.engaged = 1 := rfl
  have free := paced.free
  have timed := paced.timed
  simp only [receiving, Stage.engaged, Nat.add_zero] at free timed
  constructor
  · exact paced.forward
  · exact sameOutbox ▸ paced.moreSent
  · rw [more]
    exact paced.moreAccepted.trans (Nat.le_succ _)
  · intro none
    rw [sameOutbox, more, engaged, Nat.add_right_comm run.acceptances, Nat.mul_succ, Nat.mul_succ, ← Nat.add_assoc,
      ← Nat.add_assoc]
    exact (free none).imp_right fun paid => Nat.add_le_add_right paid _
  · intro tm last
    obtain ⟨past, paid⟩ := timed tm last
    rw [sameOutbox, more, engaged, Nat.add_right_comm run.acceptances, Nat.mul_succ,
      Nat.mul_succ _ (run.acceptances + sends + 1), ← Nat.add_assoc, ← Nat.add_assoc]
    exact ⟨past, paid.imp_right fun paid => Nat.add_le_add_right paid _⟩
  · simp [ClientRun.accept]

/-- After a hole punch the next request is due at once, and the accepted notification has paid for it. -/
theorem ClientRun.Paced.finished (paced : run.Paced sends accepts since now) {notification : Notification}
    {socket : UdpSocket} (punching : run.stage = .punching notification socket)
    (remotes : Std.ExtTreeMap PublicKey PeerState compare) (result : PollResult) :
    (⟨{ run.establisher with trustedRemotes := remotes, lastRequestTm := none }, .idle result, run.acts⟩ :
      ClientRun SigningKey DateTime).Paced sends accepts since now := by
  refine ⟨paced.forward, paced.moreSent, paced.moreAccepted, fun _ => ?_, by simp, by simp⟩
  change run.outbox.length = sends ∨ since + requestPause * (run.outbox.length + accepts) ≤
    now + requestPause * (run.acceptances + sends)
  cases last : run.establisher.lastRequestTm with
  | none =>
      refine (paced.free last).imp_right fun paid => ?_
      rw [punching, Stage.engaged, Nat.mul_succ] at paid
      lia
  | some tm =>
      obtain ⟨past, paid⟩ := paced.timed tm last
      refine paid.imp_right fun paid => ?_
      rw [punching, Stage.engaged, Nat.mul_succ, Nat.mul_succ] at paid
      lia

/-- A datagram is accepted, or it leaves what the requests depend on. -/
theorem ClientRun.Paced.receive (paced : run.Paced sends accepts since now) (receiving : run.stage = .receiving)
    (src : SocketAddr) (bytes : List UInt8) (random : UInt32) :
    (run.receive now src bytes random).Paced sends accepts since now := by
  unfold ClientRun.receive
  split_ifs
  · exact paced.quiet rfl rfl rfl (Nat.zero_le _) (by simp)
  · split
    · rename_i peerPubkey peerAddress remoteSessionId isListener parsed
      simp only [ClientRun.initiate]
      split
      · exact paced.quiet rfl rfl rfl (Nat.zero_le _) (by simp)
      · rename_i state trusted
        split_ifs
        · exact paced.quiet rfl rfl rfl (Nat.zero_le _) (by simp)
        · exact paced.quiet rfl rfl rfl (Nat.zero_le _) (by simp)
        · exact paced.accepted receiving ⟨peerPubkey, peerAddress, remoteSessionId, isListener⟩ state
    · exact paced.quiet rfl rfl rfl (Nat.zero_le _) (by simp)
    · exact paced.quiet rfl rfl rfl (Nat.zero_le _) (by simp)
    · exact paced.quiet rfl rfl rfl (Nat.zero_le _) (by simp)

/-- Every step keeps the requests paid for. -/
theorem ClientRun.Paced.step (paced : run.Paced sends accepts since now) (event : ClientEvent DateTime) :
    (run.step crates now event).Paced sends accepts since now := by
  unfold ClientRun.step
  split
  · rename_i result call idle
    refine paced.quiet ?_ ?_ ?_ (le_of_eq rfl) fun payload sending => by simp [idle] at sending
    · cases call <;> rfl
    · simp [ClientRun.outbox]
    · simp [ClientRun.acceptances, ClientAct.isAccepted]
  · split_ifs
    · exact paced.quiet rfl rfl rfl (Nat.zero_le _) (by simp)
    · exact paced.placeRequests _
  · rename_i interface addr utcNow rebinding
    have rebound : (⟨{ run.establisher with socket := ⟨addr, interface⟩, curInterface := interface },
        run.stage, run.acts⟩ : ClientRun SigningKey DateTime).Paced sends accepts since now :=
      paced.quiet rfl rfl rfl le_rfl paced.due
    exact rebound.placeRequests utcNow
  · exact paced.quiet rfl rfl rfl (Nat.zero_le _) (by simp)
  · rename_i payload sending
    exact paced.sent sending
  · rename_i src bytes random receiving
    exact paced.receive receiving src bytes random
  · exact paced.quiet rfl rfl rfl (Nat.zero_le _) (by simp)
  · exact paced.quiet rfl rfl rfl (Nat.zero_le _) (by simp)
  · rename_i notification interface addr random swapping
    exact paced.quiet rfl rfl rfl (by simp [swapping, Stage.engaged]) (by simp)
  · rename_i notification socket outcome punching
    cases outcome with
    | ok addr => exact paced.finished punching _ _
    | error error => exact paced.finished punching _ _
  · exact paced
  · exact paced
  · exact paced.quiet rfl rfl rfl (Nat.zero_le _) (by simp)
  · exact paced

end Step

/-- A run keeps the requests paid for, up to the next reading. -/
theorem ClientRun.Paced.run {crates : Crates SigningKey DateTime} {start run : ClientRun SigningKey DateTime}
    {events : List (Instant × ClientEvent DateTime)} {sends accepts : Nat} {since clock ending : Instant}
    (paced : start.Paced sends accepts since clock) (ran : (clientMachine crates).Run start events run)
    (ordered : (clock :: events.map Prod.fst ++ [ending]).IsChain (· ≤ ·)) :
    run.Paced sends accepts since ending := by
  induction ran generalizing ending with
  | nil => exact paced.later (by simpa using ordered)
  | snoc event before allowed ih =>
      rw [List.map_append, List.map_singleton, ← List.cons_append, List.isChain_append] at ordered
      obtain ⟨earlier, _, last⟩ := ordered
      exact ((ih earlier).step event.2).later (last event.1 List.getLast?_concat ending rfl)

theorem ClientRun.paced_start (establisher : UdpConnectionEstablisher SigningKey)
    (fresh : establisher.lastRequestTm = none) (since : Instant) :
    (ClientRun.start establisher : ClientRun SigningKey DateTime).Paced 0 0 since since := by
  refine ⟨le_rfl, le_rfl, le_rfl, fun _ => .inl rfl, fun tm last => ?_, by simp [ClientRun.start]⟩
  rw [ClientRun.start, fresh] at last
  cases last

/-- The requests that are paid for are few. -/
theorem ClientRun.Paced.outbox_le {run : ClientRun SigningKey DateTime} {sends accepts : Nat} {since clock : Instant}
    (paced : run.Paced sends accepts since clock) :
    (run.outbox.length - sends) * requestPause ≤
      (clock - since) + (run.acceptances - accepts + 1) * requestPause := by
  obtain ⟨requests, more⟩ := Nat.exists_eq_add_of_le paced.moreSent
  obtain ⟨answers, grown⟩ := Nat.exists_eq_add_of_le paced.moreAccepted
  have paid : run.outbox.length = sends ∨ since + requestPause * (run.outbox.length + accepts) ≤
      clock + requestPause * (run.acceptances + sends + 1) := by
    have calm : requestPause * (run.outbox.length + accepts) ≤
        requestPause * (run.outbox.length + accepts + run.stage.engaged) :=
      Nat.mul_le_mul_left _ (Nat.le_add_right _ _)
    cases last : run.establisher.lastRequestTm with
    | none =>
        refine (paced.free last).imp_right fun paid => ?_
        rw [Nat.mul_succ]
        lia
    | some tm =>
        obtain ⟨past, paid⟩ := paced.timed tm last
        exact paid.imp_right fun paid => by lia
  rw [more, grown, Nat.add_sub_cancel_left, Nat.add_sub_cancel_left, Nat.mul_comm requests, Nat.mul_comm (answers + 1)]
  obtain none | paid := paid
  · obtain rfl : requests = 0 := by omega
    simp
  · rw [more, grown] at paid
    simp only [Nat.mul_add, Nat.mul_one] at paid ⊢
    have forward := paced.forward
    lia

theorem acts_prefix_of_run {crates : Crates SigningKey DateTime} {first last : ClientRun SigningKey DateTime}
    {events : List (Instant × ClientEvent DateTime)} (ran : (clientMachine crates).Run first events last) :
    first.acts <+: last.acts := by
  apply ran.invariant fun run => first.acts <+: run.acts
  · exact List.prefix_refl _
  · intro run event grown _
    have taken := run.step_case crates event.1 event.2
    exact grown.trans taken.acts_prefix

/-- Between two clock readings of a run a client sends at most one request for every three seconds, one more at the
start, and one more for every notification that it accepted between them. -/
theorem requests_bounded (crates : Crates SigningKey DateTime) {start first last : ClientRun SigningKey DateTime}
    {before between : List (Instant × ClientEvent DateTime)} (initial : (clientMachine crates).initial start)
    (earlier : (clientMachine crates).Run start before first) (ran : (clientMachine crates).Run first between last)
    {since ending : Instant}
    (ordered : (before.map Prod.fst ++ since :: between.map Prod.fst ++ [ending]).IsChain (· ≤ ·)) :
    ∃ acts sent, last.acts = first.acts ++ acts ∧ last.outbox = first.outbox ++ sent ∧
      sent.length * Duration.fromSecs 3 ≤
        (ending - since) + (acts.countP ClientAct.isAccepted + 1) * Duration.fromSecs 3 := by
  obtain ⟨key, p2pServerAddr, sessionId, addr, socketInterface, curInterface, rfl⟩ := initial
  -- The invariant runs up to the first reading, and starts again there.
  have fresh : (ClientRun.start (.new key p2pServerAddr sessionId addr socketInterface curInterface) :
      ClientRun SigningKey DateTime).Paced 0 0 0 0 := ClientRun.paced_start _ rfl 0
  rw [List.append_assoc] at ordered
  have opening : ((0 : Instant) :: before.map Prod.fst ++ [since]).IsChain (· ≤ ·) := by
    refine List.IsChain.cons ?_ fun tm _ => Nat.zero_le tm
    exact ordered.prefix ⟨between.map Prod.fst ++ [ending], by simp⟩
  have paced : last.Paced first.outbox.length first.acceptances since ending :=
    (fresh.run earlier opening).restart.run ran ordered.right_of_append
  obtain ⟨acts, grown⟩ := acts_prefix_of_run ran
  have few := paced.outbox_le
  rw [ClientRun.outbox, ClientRun.outbox, ClientRun.acceptances, ClientRun.acceptances, ← grown, List.filterMap_append,
    List.countP_append, List.length_append, Nat.add_sub_cancel_left, Nat.add_sub_cancel_left] at few
  refine ⟨acts, _, grown.symm, ?_, few⟩
  rw [ClientRun.outbox, ← grown, List.filterMap_append]
  rfl

/-- After its connection with client 2, the client asks for client 3 twice. -/
def samplePolls : List (Instant × ClientEvent UtcNanos) :=
  [(Duration.fromSecs 1, .call (.addTrustedRemote (sampleKey 3))),
    (Duration.fromSecs 1, .pollAccept none (sampleUtc 1)), (Duration.fromSecs 1, .sent),
    (Duration.fromSecs 4, .timedOut), (Duration.fromSecs 4, .pollAccept none (sampleUtc 4)),
    (Duration.fromSecs 4, .sent)]

/-- Both requests fall into the five seconds after the first one. -/
theorem requests_bounded_sample :
    let first := sampleClientRun sampleConnection
    let last := samplePolls.foldl sampleClientMachine.next first
    last.outbox.length = first.outbox.length + 2 ∧
      ∃ acts sent, last.acts = first.acts ++ acts ∧ last.outbox = first.outbox ++ sent ∧
        sent.length * Duration.fromSecs 3 ≤ (Duration.fromSecs 6 - Duration.fromSecs 1) +
          (acts.countP ClientAct.isAccepted + 1) * Duration.fromSecs 3 := by
  intro first last
  have ran : sampleClientMachine.Run first samplePolls last := Machine.run_of_free (fun _ _ => trivial) _ _
  have ordered : (sampleConnection.map Prod.fst ++ Duration.fromSecs 1 :: samplePolls.map Prod.fst ++
      [Duration.fromSecs 6]).IsChain (· ≤ ·) := by
    simp [sampleConnection, samplePolls, Duration.fromSecs]
  refine ⟨by decide +kernel, ?_⟩
  exact requests_bounded plainCrates ⟨_, _, _, _, _, _, rfl⟩ (sampleClientRun_run sampleConnection) ran ordered

end RepriseP2p.Udp
