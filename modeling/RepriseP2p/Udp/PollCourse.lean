/-
This file describes the course of one call of `poll_accept`: how many awaits it has and what it does between them.
-/

import RepriseP2p.Udp.BoundInterface

namespace RepriseP2p.Udp

variable {SigningKey DateTime : Type}

/-- The awaits that the call can still reach, with the present one. -/
def Stage.awaits : Stage → Nat
  | .idle _ | .panicked => 0
  | .pausing | .punching _ _ => 1
  | .swapping _ => 2
  | .receiving => 3
  | .sending _ => 4
  | .rebinding _ => 5

/-- The place of an act in a call of `poll_accept`. A call of another method has no place in it. -/
def ClientAct.place : ClientAct DateTime → Nat
  | .called _ => 0
  | .requested _ _ => 1
  | .sent _ _ => 2
  | .accepted _ => 3

/-- The place of the last act that a call can have done in this stage. -/
def Stage.reached (stage : Stage) : Nat := min 3 (5 - stage.awaits)

/-- The event answers the await of the client. -/
def ClientRun.answered (crates : Crates SigningKey DateTime) (run : ClientRun SigningKey DateTime)
    (event : Instant × ClientEvent DateTime) : Option Unit :=
  if (run.step crates event.1 event.2).stage = run.stage then none else some ()

namespace ClientRun

variable {run : ClientRun SigningKey DateTime}

instance (run : ClientRun SigningKey DateTime) : Decidable run.Idle :=
  match stage : run.stage with
  | .idle result => .isTrue ⟨result, stage⟩
  | .rebinding _ | .pausing | .sending _ | .receiving | .swapping _ | .punching _ _ | .panicked =>
      .isFalse fun ⟨_, idle⟩ => by cases stage.symm.trans idle

/-- A step stays at its await, or it goes on and does at most one act, which comes after all earlier ones. -/
inductive Course (run next : ClientRun SigningKey DateTime) : Prop where
  | stays (stage : next.stage = run.stage) (acts : next.acts = run.acts)
  | goes (fewer : next.stage.awaits < run.stage.awaits) (acts : next.acts = run.acts)
  | acts (act : ClientAct DateTime) (fewer : next.stage.awaits < run.stage.awaits)
      (after : run.stage.reached < act.place) (reached : act.place ≤ next.stage.reached)
      (acts : next.acts = run.acts ++ [act])

/-- The client goes on to its datagrams, to a pause, or to the sending of a request. -/
theorem placeRequests_course (crates : Crates SigningKey DateTime) (now : Instant) (utcNow : DateTime)
    {base : ClientRun SigningKey DateTime} {interface : Option String} (rebinding : run.stage = .rebinding interface)
    (acts : base.acts = run.acts) : run.Course (base.placeRequests crates now utcNow) := by
  obtain ⟨offset, list⟩ := base.establisher.newAvailableRemotesList_eq now
  simp only [placeRequests, list, acts]
  split_ifs
  · exact .goes (by simp [rebinding, Stage.awaits]) rfl
  · split
    · refine .acts _ (by simp [rebinding, Stage.awaits]) ?_ le_rfl rfl
      simp [rebinding, Stage.reached, Stage.awaits, ClientAct.place]
    · exact .goes (by simp [rebinding, Stage.awaits]) rfl
  · exact .goes (by simp [rebinding, Stage.awaits]) rfl

/-- A datagram ends the call, or it is accepted. -/
theorem receive_course (now : Instant) (src : SocketAddr) (bytes : List UInt8) (random : UInt32)
    (receiving : run.stage = .receiving) : run.Course (run.receive now src bytes random) := by
  unfold receive
  split_ifs
  · exact .goes (by simp [receiving, Stage.awaits]) rfl
  · split
    · simp only [initiate]
      split
      · exact .goes (by simp [receiving, Stage.awaits]) rfl
      · split_ifs
        · exact .goes (by simp [receiving, Stage.awaits]) rfl
        · exact .goes (by simp [receiving, Stage.awaits]) rfl
        · exact .acts _ (by simp [receiving, Stage.awaits])
            (by simp [receiving, Stage.reached, Stage.awaits, ClientAct.place]) le_rfl rfl
    · exact .goes (by simp [receiving, Stage.awaits]) rfl
    · exact .goes (by simp [receiving, Stage.awaits]) rfl
    · exact .goes (by simp [receiving, Stage.awaits]) rfl

/-- While a call is in progress, every step keeps to its course. -/
theorem step_course (crates : Crates SigningKey DateTime) (now : Instant) (event : ClientEvent DateTime)
    (busy : ¬ run.Idle) : run.Course (run.step crates now event) := by
  unfold step
  split
  · rename_i result call idle
    exact absurd ⟨result, idle⟩ busy
  · rename_i result interface utcNow idle
    exact absurd ⟨result, idle⟩ busy
  · rename_i interface addr utcNow rebinding
    exact placeRequests_course crates now utcNow rebinding rfl
  · rename_i pausing
    exact .goes (by simp [pausing, Stage.awaits]) rfl
  · rename_i payload sending
    exact .acts _ (by simp [sending, Stage.awaits]) (by simp [sending, Stage.reached, Stage.awaits, ClientAct.place])
      le_rfl rfl
  · rename_i src bytes random receiving
    exact receive_course now src bytes random receiving
  · rename_i receiving
    exact .goes (by simp [receiving, Stage.awaits]) rfl
  · rename_i receiving
    exact .goes (by simp [receiving, Stage.awaits]) rfl
  · rename_i notification interface addr random swapping
    exact .goes (by simp [swapping, Stage.awaits]) rfl
  · rename_i notification socket outcome punching
    cases outcome <;> exact .goes (by simp [finish, punching, Stage.awaits]) rfl
  · exact .stays rfl rfl
  · exact .stays rfl rfl
  · rename_i notIdle notPanicked
    refine .goes ?_ rfl
    cases stage : run.stage with
    | idle result => exact absurd ⟨result, stage⟩ busy
    | panicked => exact absurd stage notPanicked
    | _ => simp [Stage.awaits]
  · exact .stays rfl rfl

/-- A call starts its course at the rebinding of its socket or behind it. -/
theorem pollAccept_course (crates : Crates SigningKey DateTime) (now : Instant) (interface : Option String)
    (utcNow : DateTime) (idle : run.Idle) : Course { run with stage := .rebinding interface }
      (run.step crates now (.pollAccept interface utcNow)) := by
  obtain ⟨result, idle⟩ := idle
  simp only [step, idle]
  split_ifs
  · exact .stays rfl rfl
  · exact placeRequests_course crates now utcNow rfl rfl

/-- What the call has done so far, in the order of the places. -/
structure Along (start run : ClientRun SigningKey DateTime) (answers : Nat) : Prop where
  awaits : answers + run.stage.awaits ≤ start.stage.awaits
  acts : ∃ done, run.acts = start.acts ++ done ∧ (done.map ClientAct.place).Pairwise (· < ·) ∧
    ∀ act ∈ done, start.stage.reached < act.place ∧ act.place ≤ run.stage.reached

theorem along_start (run : ClientRun SigningKey DateTime) : run.Along run 0 :=
  ⟨(Nat.zero_add _).le, [], by simp, .nil, nofun⟩

theorem Along.step {start next : ClientRun SigningKey DateTime} {answers : Nat} (along : start.Along run answers)
    (course : run.Course next) : start.Along next (answers + if next.stage = run.stage then 0 else 1) := by
  obtain ⟨awaits, done, acts, sorted, bounds⟩ := along
  cases course with
  | stays stage same =>
      rw [if_pos stage]
      refine ⟨by rwa [stage], done, same.trans acts, sorted, fun act member => ?_⟩
      rw [stage]
      exact bounds act member
  | goes fewer same =>
      have moved : next.stage ≠ run.stage := fun equal => by simp [equal] at fewer
      rw [if_neg moved]
      refine ⟨by omega, done, same.trans acts, sorted, fun act member => ⟨(bounds act member).1, ?_⟩⟩
      have before := (bounds act member).2
      unfold Stage.reached at before ⊢
      omega
  | acts act fewer after reached added =>
      have moved : next.stage ≠ run.stage := fun equal => by simp [equal] at fewer
      rw [if_neg moved]
      refine ⟨by omega, done ++ [act], by rw [added, acts, List.append_assoc], ?_, ?_⟩
      · rw [List.map_append, List.map_singleton, List.pairwise_append]
        refine ⟨sorted, List.pairwise_singleton _ _, ?_⟩
        intro place earlier last member
        obtain ⟨other, listed, rfl⟩ := List.mem_map.mp earlier
        rw [List.mem_singleton.mp member]
        exact (bounds other listed).2.trans_lt after
      · intro other member
        obtain old | new := List.mem_append.mp member
        · have between := bounds other old
          unfold Stage.reached at between reached ⊢
          omega
        · rw [List.mem_singleton.mp new]
          unfold Stage.reached at after reached ⊢
          omega

end ClientRun

theorem ClientRun.answered_length (crates : Crates SigningKey DateTime) (run : ClientRun SigningKey DateTime)
    (event : Instant × ClientEvent DateTime) : (run.answered crates event).toList.length =
      if (run.step crates event.1 event.2).stage = run.stage then 0 else 1 := by
  unfold answered
  split_ifs <;> rfl

/-- Until it returns, a call of `poll_accept` goes through at most five awaits. It signs at most one request, then it sends
at most one datagram, and then it accepts at most one notification. -/
theorem poll_accept_course (crates : Crates SigningKey DateTime) {start run : ClientRun SigningKey DateTime}
    (idle : start.Idle) (now : Instant) (interface : Option String) (utcNow : DateTime)
    {events : List (Instant × ClientEvent DateTime)}
    (ran : (clientMachine crates).Run (start.step crates now (.pollAccept interface utcNow)) events run)
    (busy : (clientMachine crates).Avoids (start.step crates now (.pollAccept interface utcNow)) events
      fun middle _ => middle.Idle) :
    ((clientMachine crates).notes (ClientRun.answered crates) (start.step crates now (.pollAccept interface utcNow))
      events).length ≤ 5 ∧
      ∃ done, run.acts = start.acts ++ done ∧ (done.map ClientAct.place).Pairwise (· < ·) ∧
        ∀ act ∈ done, 1 ≤ act.place := by
  let begun : ClientRun SigningKey DateTime := { start with stage := .rebinding interface }
  have along : ∃ before, begun.Along run (before + ((clientMachine crates).notes (ClientRun.answered crates)
      (start.step crates now (.pollAccept interface utcNow)) events).length) := by
    induction ran with
    | nil => exact ⟨_, begun.along_start.step (ClientRun.pollAccept_course crates now interface utcNow idle)⟩
    | snoc event before allowed ih =>
        obtain ⟨earlier, last⟩ := before.avoids_snoc.mp busy
        obtain ⟨count, along⟩ := ih earlier
        refine ⟨count, ?_⟩
        rw [before.notes_snoc, List.length_append, ClientRun.answered_length, ← Nat.add_assoc]
        exact along.step (ClientRun.step_course crates event.1 event.2 last)
  obtain ⟨before, awaits, done, acts, sorted, bounds⟩ := along
  have five : begun.stage.awaits = 5 := rfl
  exact ⟨by omega, done, acts, sorted, fun act member => Nat.one_le_of_lt (bounds act member).1⟩

/-- The client of the sample has called `poll_accept`. -/
def sampleCalled : ClientRun PublicKey UtcNanos :=
  (sampleClientRun (sampleConnection.take 1)).step plainCrates 0 (.pollAccept none (sampleUtc 0))

theorem poll_accept_course_sample :
    (sampleClientMachine.notes (ClientRun.answered plainCrates) sampleCalled (sampleConnection.drop 2)).length ≤ 5 := by
  have idle : (sampleClientRun (sampleConnection.take 1)).Idle := ⟨none, by decide +kernel⟩
  have ran : sampleClientMachine.Run sampleCalled (sampleConnection.drop 2)
      ((sampleConnection.drop 2).foldl sampleClientMachine.next sampleCalled) :=
    Machine.run_of_free (fun _ _ => trivial) _ _
  have busy : sampleClientMachine.Avoids sampleCalled (sampleConnection.drop 2) fun middle _ => middle.Idle :=
    Machine.avoids_of_checked (by decide +kernel)
  exact (poll_accept_course plainCrates idle 0 none (sampleUtc 0) ran busy).1

end RepriseP2p.Udp
