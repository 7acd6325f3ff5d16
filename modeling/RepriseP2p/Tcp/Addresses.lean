/-
This file proves which address a connector is told when a service confirms its request.
-/

import RepriseP2p.Tcp.Pairing

namespace RepriseP2p.Tcp

open History

/-- The last announcement of the session was made by this task. -/
def AnnouncedLast (session : UInt64) (announcer : Nat) (history : List (Instant × Nat × Deed)) : Prop :=
  ∃ before now taken after, history = before ++ (now, announcer, .announced session taken) :: after ∧
    ∀ tm task other, (tm, task, .announced session other) ∉ after

theorem AnnouncedLast.noted {session : UInt64} {announcer : Nat} {history : List (Instant × Nat × Deed)} {now : Instant}
    {task : Nat} {deed : Option Deed} (last : AnnouncedLast session announcer history)
    (silent : ∀ taken, deed ≠ some (.announced session taken)) :
    AnnouncedLast session announcer (history ++ Tcp.noted now task deed) := by
  obtain ⟨before, tm, taken, after, rfl, none⟩ := last
  refine ⟨before, tm, taken, after ++ Tcp.noted now task deed, by simp, ?_⟩
  intro later owner other member
  obtain old | ⟨_, _, did⟩ := mem_append_noted.mp member
  · exact none later owner other old
  · exact silent other did

namespace Tasks

variable (addrs : Nat → SocketAddr) (now : Instant) (task : Nat) (tasks : Tasks)

/-- A connector is told the registered address. -/
theorem deed_inserted {event : TaskEvent} {session : UInt64} {tx : Nat} {dst : SocketAddr}
    (inserted : tasks.deed addrs now task event = some (.inserted session tx dst)) :
    tasks.state.addrOf session = some dst := by
  unfold deed at inserted
  split at inserted
  · cases inserted
  · obtain ⟨addr, found, same⟩ := Option.map_eq_some_iff.mp inserted
    cases same
    rw [← State.insertConnectionRequest_dst, found]
  · split_ifs at inserted
    cases inserted
  · cases inserted
  · cases inserted
  · split at inserted
    · cases inserted
    · cases inserted
    · split_ifs at inserted
      cases inserted
  all_goals cases inserted

/-- Each registered address is that of the last announcement, and each connector was told such an address. -/
structure Located (tasks : Tasks) (history : List (Instant × Nat × Deed)) : Prop where
  registered : ∀ session addr, tasks.state.addrOf session = some addr →
    ∃ announcer, AnnouncedLast session announcer history ∧ addrs announcer = addr
  inserted : ∀ before now connector session tx dst after,
    history = before ++ (now, connector, .inserted session tx dst) :: after →
    ∃ announcer, AnnouncedLast session announcer before ∧ addrs announcer = dst

variable {addrs now task tasks}

theorem Located.step {history : List (Instant × Nat × Deed)} (located : tasks.Located addrs history) (event : TaskEvent) :
    (tasks.step addrs now task event).Located addrs (history ++ noted now task (tasks.deed addrs now task event)) := by
  constructor
  · intro session addr found
    have stepped := tasks.step_stepped addrs now task event
    rw [stepped.state] at found
    -- An address that this step does not announce was registered before.
    have kept (silent : ∀ taken, tasks.deed addrs now task event ≠ some (.announced session taken))
        (old : tasks.state.addrOf session = some addr) : ∃ announcer,
          AnnouncedLast session announcer (history ++ noted now task (tasks.deed addrs now task event)) ∧
            addrs announcer = addr := by
      obtain ⟨announcer, last, equal⟩ := located.registered session addr old
      exact ⟨announcer, last.noted silent, equal⟩
    generalize tasks.deed addrs now task event = deed at stepped kept ⊢
    generalize tasks.registryOp addrs now task event = op at stepped found
    cases stepped.announced with
    | announced data taken =>
        by_cases own : data.session = session
        · subst own
          rw [Option.elim_some, State.addrOf_announce] at found
          cases found
          exact ⟨task, ⟨history, now, taken, [], rfl, by simp⟩, rfl⟩
        · have unannounced : RegistryOp.announces session (now, .announce data (addrs task)) = false :=
            decide_eq_false own
          obtain none | same := tasks.state.addrOf_apply unannounced
          · rw [Option.elim_some, none] at found
            cases found
          · rw [Option.elim_some, same] at found
            apply kept _ found
            intro other equal
            cases equal
            exact own rfl
    | other silent unannounced =>
        apply kept fun taken => silent session taken
        cases op with
        | none => exact found
        | some called =>
            obtain none | same := tasks.state.addrOf_apply (unannounced called rfl session)
            · rw [Option.elim_some, none] at found
              cases found
            · rw [Option.elim_some, same] at found
              exact found
  · intro before tm connector session tx dst after split
    obtain ⟨middle, _, old⟩ | ⟨_, _, _, did, old⟩ := Follows.noted_split split
    · exact located.inserted before tm connector session tx dst middle old
    · rw [← old]
      exact located.registered session dst (tasks.deed_inserted addrs now task did)

end Tasks

theorem history_located {addrs : Nat → SocketAddr} {events : List (Instant × Nat × TaskEvent)} {tasks : Tasks}
    (ran : (tasksMachine addrs).Run .start events tasks) : tasks.Located addrs (history addrs events) := by
  apply ran.invariant_noted fun tasks history => tasks.Located addrs history
  · constructor
    · intro session addr found
      simp [Tasks.start, State.new, State.addrOf] at found
    · intro before now connector session tx dst after empty
      simp at empty
  · intro tasks history event located _
    have stepped := @Tasks.Located.step addrs event.1 event.2.1 tasks history located event.2.2
    exact ⟨stepped.registered, stepped.inserted⟩

/-- A service that starts the countdown after it told the address of a connector confirmed the request of that
connector. The connector is told the address where the session was announced last before its request came, which is
the service's own address exactly when that announcement came from there. -/
theorem address_told (addrs : Nat → SocketAddr) {events : List (Instant × Nat × TaskEvent)} {tasks : Tasks}
    (ran : (tasksMachine addrs).Run .start events tasks) {before after : List (Instant × Nat × Deed)} {now : Instant}
    {service : Nat} {addr : SocketAddr} (split : history addrs events = before ++ (now, service, .told countdown) :: after)
    (told : [.told (.remoteAddr addr)] <:+ deedsOf service before) :
    ∃ session incoming, incoming.addr = addr ∧
      [.announced session (some incoming), .confirmed incoming, .told (.remoteAddr addr)] <:+ deedsOf service before ∧
      ∃ earlier tm connector dst later announcer,
        history addrs events = earlier ++ (tm, connector, .inserted session incoming.tx dst) :: later ∧
        addrs connector = addr ∧ AnnouncedLast session announcer earlier ∧ addrs announcer = dst ∧
        ([.told (.remoteAddr dst)] <+: deedsOf connector later ++ (tasks.stages connector).outstanding ∨
          [.failed] <+: deedsOf connector later) := by
  obtain ⟨explained, follows⟩ := history_explained ran
  have located := history_located ran
  have last (front : List Deed) (deed : Deed) (done : front ++ [deed] <:+ deedsOf service before) :
      deed = .told (.remoteAddr addr) := by
    obtain ⟨earlier, whole⟩ := done
    obtain ⟨before', same⟩ := told
    rw [← same, ← List.append_assoc] at whole
    cases (List.append_inj' whole rfl).2
    rfl
  obtain ⟨session, incoming, done⟩ | ⟨session, rx, dst, done⟩ := follows.countdown before now service after split
  · cases last [.announced session (some incoming), .confirmed incoming] _ done
    refine ⟨session, incoming, rfl, done, ?_⟩
    obtain ⟨taking, member⟩ := mem_deedsOf.mp (done.subset List.mem_cons_self)
    have taken : (taking, service, .announced session (some incoming)) ∈ history addrs events := by
      rw [split]
      exact List.mem_append_left _ member
    obtain ⟨⟨tm, connector, dst, inserted, _, addr⟩, _⟩ := explained.taken taking service session incoming taken
    obtain ⟨earlier, later, whole⟩ := List.append_of_mem inserted
    obtain ⟨announcer, latest, same⟩ := located.inserted _ _ _ _ _ _ _ whole
    refine ⟨earlier, tm, connector, dst, later, announcer, whole, addr.symm, latest, same, ?_⟩
    obtain demanded | ⟨sent, some, failed⟩ := follows.messages _ _ _ _ _ whole
    · exact .inl demanded
    · -- The only demanded message was sent, or it failed.
      obtain rfl | rfl : sent = [] ∨ sent = [.told (.remoteAddr dst)] := by
        simpa [Deed.demand, List.prefix_cons_iff] using some
      · exact .inr failed
      · exact .inl (((List.prefix_append _ _).trans failed).trans (List.prefix_append _ _))
  · cases last [.inserted session rx dst, .told (.remoteAddr dst)] _ done

theorem sampleConfirmation_split : history sampleTaskAddr sampleConfirmation =
    (history sampleTaskAddr sampleConfirmation).take 7 ++
      (0, 2, .told countdown) :: (history sampleTaskAddr sampleConfirmation).drop 8 := by
  decide +kernel

theorem sampleConfirmation_told : [.told (.remoteAddr (sampleTaskAddr 1))] <:+
    deedsOf 2 ((history sampleTaskAddr sampleConfirmation).take 7) := by
  decide +kernel

/-- Task 2 confirms the request of task 1. -/
theorem address_told_sample : ∃ session incoming, incoming.addr = sampleTaskAddr 1 ∧
    [.announced session (some incoming), .confirmed incoming, .told (.remoteAddr (sampleTaskAddr 1))] <:+
      deedsOf 2 ((history sampleTaskAddr sampleConfirmation).take 7) := by
  obtain ⟨session, incoming, same, done, _⟩ :=
    address_told sampleTaskAddr sampleConfirmation_run sampleConfirmation_split sampleConfirmation_told
  exact ⟨session, incoming, same, done⟩

/-- The connector asked when task 0 had announced the session, so nobody is told the address of task 2. -/
theorem address_agreement_fails : ¬ ∀ addrs events tasks, (tasksMachine addrs).Run .start events tasks →
    ∀ before now service after addr, history addrs events = before ++ (now, service, .told countdown) :: after →
      [.told (.remoteAddr addr)] <:+ deedsOf service before →
      ∃ tm connector, addrs connector = addr ∧
        (tm, connector, .told (.remoteAddr (addrs service))) ∈ history addrs events := by
  intro claim
  obtain ⟨tm, connector, _, told⟩ := claim _ _ _ sampleConfirmation_run _ _ _ _ _ sampleConfirmation_split
    sampleConfirmation_told
  have none : ∀ entry ∈ history sampleTaskAddr sampleConfirmation, entry.2.2 ≠ .told (.remoteAddr (sampleTaskAddr 2)) := by
    decide +kernel
  exact none _ told rfl

end RepriseP2p.Tcp
