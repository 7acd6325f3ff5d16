/-
This file proves when a connector withdraws only its own pending request.
-/

import RepriseP2p.Foundation.History
import RepriseP2p.Tcp.Handlers

namespace RepriseP2p.Tcp

open History

/-- The task and the channel of the request that is pending for a session, after one more act. -/
def Act.slotAfter (session : UInt64) (slot : Option (Nat × Nat)) : Act → Option (Nat × Nat)
  | .updated removed => if session ∈ removed then none else slot
  | .announced _ other taken => if other = session ∧ taken.isSome then none else slot
  | .inserted task other tx => if other = session then some (task, tx) else slot
  | .withdrawn _ other => if other = session then none else slot
  | .sent _ _ => slot

/-- The task and the channel of the request that the history leaves pending for a session. -/
def slotOf (session : UInt64) (acts : List Act) : Option (Nat × Nat) := acts.foldl (Act.slotAfter session) none

theorem slotOf_snoc (session : UInt64) (acts : List Act) (act : Act) :
    slotOf session (acts ++ [act]) = act.slotAfter session (slotOf session acts) := by
  simp [slotOf]

theorem slotOf_inserted {session : UInt64} {acts : List Act} {task tx : Nat}
    (found : slotOf session acts = some (task, tx)) : .inserted task session tx ∈ acts := by
  induction acts using List.reverseRecOn with
  | nil => cases found
  | append_singleton acts act ih =>
      rw [slotOf_snoc] at found
      have before (same : slotOf session acts = some (task, tx)) : .inserted task session tx ∈ acts ++ [act] :=
        List.mem_append_left _ (ih same)
      cases act with
      | updated removed =>
          rw [Act.slotAfter] at found
          split_ifs at found
          exact before found
      | announced owner other taken =>
          rw [Act.slotAfter] at found
          split_ifs at found
          exact before found
      | inserted owner other channel =>
          rw [Act.slotAfter] at found
          split_ifs at found with same
          · cases found
            simp [same]
          · exact before found
      | withdrawn owner other =>
          rw [Act.slotAfter] at found
          split_ifs at found
          exact before found
      | sent owner message => exact before found

namespace Tasks

variable (addrs : Nat → SocketAddr)

/-- What one step does to the registry. -/
inductive StepCase (now : Instant) (task : Nat) (tasks : Tasks) (event : TaskEvent) (next : Tasks) : Prop where
  | calm (sameState : next.state = tasks.state) (sameOpened : next.opened = tasks.opened)
      (sameActs : next.acts = tasks.acts)
  | sent (message : ToNatClientMsg) (sameState : next.state = tasks.state) (sameOpened : next.opened = tasks.opened)
      (acts : next.acts = tasks.acts ++ [.sent task message])
  | updated (taken : event = .update) (state : next.state = tasks.state.pollUpdate now)
      (sameOpened : next.opened = tasks.opened)
      (acts : next.acts = tasks.acts ++ [.updated (tasks.state.toRemove now)])
  | announced (announce : ClientAnnouncementData) (taken : event = .received (.announceAndCheck announce))
      (state : next.state = (tasks.state.announceCheck announce (addrs task) now).1)
      (sameOpened : next.opened = tasks.opened)
      (acts : next.acts = tasks.acts ++
        [.announced task announce.session (tasks.state.announceCheck announce (addrs task) now).2])
  | inserted (request : ConnectionRequest) (dst : SocketAddr) (taken : event = .received (.connectionRequest request))
      (result : tasks.state.insertConnectionRequest request (addrs task) tasks.opened now = (next.state, some dst))
      (opened : next.opened = tasks.opened + 1)
      (acts : next.acts = tasks.acts ++ [.inserted task request.session tasks.opened])
  | withdrawn (session : UInt64) (stage : tasks.stages task = .withdrawing session) (taken : event = .withdraw)
      (state : next.state = tasks.state.removeConnectionRequest session) (sameOpened : next.opened = tasks.opened)
      (acts : next.acts = tasks.acts ++ [.withdrawn task session])

/-- Every step is one of the listed outcomes. -/
theorem step_case (now : Instant) (task : Nat) (tasks : Tasks) (event : TaskEvent) :
    StepCase addrs now task tasks event (tasks.step addrs now task event) := by
  unfold step
  split
  · have fields := tasks.dropPending_fields (tasks.state.toRemove now)
    exact .updated rfl rfl fields.2 (by simp [fields.1])
  · rename_i message receiving
    cases message with
    | getClients app => exact .calm rfl rfl rfl
    | announceAndCheck announce => exact .announced announce rfl rfl rfl rfl
    | connectionRequest request =>
        simp only [receive]
        split
        · rename_i state dst found
          have fields := tasks.dropPending_fields [request.session]
          exact .inserted request dst rfl found rfl (by simp [fields.1])
        · exact .calm rfl rfl rfl
  · exact .calm rfl rfl rfl
  · exact .calm rfl rfl rfl
  · simp only [confirm]
    split_ifs <;> exact .calm rfl rfl rfl
  · exact .sent _ rfl rfl rfl
  · exact .sent _ rfl rfl rfl
  · exact .calm rfl rfl rfl
  · exact .sent _ rfl rfl rfl
  · exact .calm rfl rfl rfl
  · simp only [wake]
    split
    · exact .calm rfl rfl rfl
    · exact .calm rfl rfl rfl
    · split_ifs <;> exact .calm rfl rfl rfl
  · exact .sent _ rfl rfl rfl
  · exact .calm rfl rfl rfl
  · rename_i session withdrawing
    have fields := tasks.dropPending_fields [session]
    exact .withdrawn session withdrawing rfl rfl fields.2 (by simp [fields.1])
  · exact .calm rfl rfl rfl

variable {addrs}

/-- The history tells which task inserted each pending request, and no channel was opened twice. -/
structure SlotsRefine (tasks : Tasks) : Prop where
  slots : ∀ session, (tasks.state.pending session).map IncomingConnection.tx =
    (slotOf session tasks.acts).map Prod.snd
  opened : ∀ task session tx, .inserted task session tx ∈ tasks.acts → tx < tasks.opened
  single : ∀ first second session other tx, .inserted first session tx ∈ tasks.acts →
    .inserted second other tx ∈ tasks.acts → first = second

/-- An act that is no insertion adds no channel. -/
theorem SlotsRefine.snoc {tasks next : Tasks} (refines : tasks.SlotsRefine) {act : Act}
    (other : ∀ task session tx, act ≠ .inserted task session tx) (acts : next.acts = tasks.acts ++ [act])
    (sameOpened : next.opened = tasks.opened)
    (slots : ∀ session, (next.state.pending session).map IncomingConnection.tx =
      (act.slotAfter session (slotOf session tasks.acts)).map Prod.snd) : next.SlotsRefine := by
  have old {task : Nat} {session : UInt64} {tx : Nat} (member : .inserted task session tx ∈ next.acts) :
      .inserted task session tx ∈ tasks.acts := by
    rw [acts] at member
    rcases List.mem_append.mp member with before | last
    · exact before
    · exact absurd (List.mem_singleton.mp last).symm (other task session tx)
  refine ⟨fun session => ?_, fun task session tx member => ?_, fun first second session again tx member repeated => ?_⟩
  · rw [acts, slotOf_snoc, slots]
  · rw [sameOpened]
    exact refines.opened task session tx (old member)
  · exact refines.single first second session again tx (old member) (old repeated)

/-- Every step keeps the registry and the history together. -/
theorem SlotsRefine.step {now : Instant} {task : Nat} {tasks next : Tasks} {event : TaskEvent}
    (refines : tasks.SlotsRefine) (taken : StepCase addrs now task tasks event next) : next.SlotsRefine := by
  cases taken with
  | calm sameState sameOpened sameActs =>
      refine ⟨?_, ?_, ?_⟩
      · rw [sameState, sameActs]
        exact refines.slots
      · rw [sameOpened, sameActs]
        exact refines.opened
      · rw [sameActs]
        exact refines.single
  | sent message sameState sameOpened acts =>
      refine refines.snoc (fun _ _ _ => by simp) acts sameOpened fun session => ?_
      rw [sameState]
      exact refines.slots session
  | updated taken state sameOpened acts =>
      refine refines.snoc (fun _ _ _ => by simp) acts sameOpened fun session => ?_
      rw [state, State.pending_pollUpdate, Act.slotAfter]
      split_ifs
      · rfl
      · exact refines.slots session
  | announced announce taken state sameOpened acts =>
      refine refines.snoc (fun _ _ _ => by simp) acts sameOpened fun session => ?_
      have slots := refines.slots session
      rw [state, State.pending_announceCheck, State.announceCheck_taken, Act.slotAfter]
      by_cases same : announce.session = session
      · subst same
        rcases State.takeIf_cases now (tasks.state.pending announce.session) with left | ⟨incoming, _, moved⟩
        · simp [left, slots]
        · simp [moved]
      · simp [same, slots]
  | inserted request dst taken result opened acts =>
      have state : (tasks.state.insertConnectionRequest request (addrs task) tasks.opened now).1 = next.state := by
        rw [result]
      have found : (tasks.state.insertConnectionRequest request (addrs task) tasks.opened now).2.isSome = true := by
        rw [result]
        rfl
      refine ⟨fun session => ?_, fun owner session tx member => ?_, fun first second session other tx => ?_⟩
      · rw [acts, slotOf_snoc, Act.slotAfter, ← state, State.pending_insertConnectionRequest, found]
        by_cases same : request.session = session
        · simp [same]
        · simp [same, refines.slots session]
      · rw [opened]
        rw [acts] at member
        rcases List.mem_append.mp member with before | last
        · exact Nat.lt_succ_of_lt (refines.opened owner session tx before)
        · cases List.mem_singleton.mp last
          exact Nat.lt_succ_self _
      · rw [acts]
        intro member repeated
        rcases List.mem_append.mp member with before | last <;> rcases List.mem_append.mp repeated with earlier | newest
        · exact refines.single first second session other tx before earlier
        · cases List.mem_singleton.mp newest
          exact absurd (refines.opened _ _ _ before) (Nat.lt_irrefl _)
        · cases List.mem_singleton.mp last
          exact absurd (refines.opened _ _ _ earlier) (Nat.lt_irrefl _)
        · cases List.mem_singleton.mp last
          cases List.mem_singleton.mp newest
          rfl
  | withdrawn session stage taken state sameOpened acts =>
      refine refines.snoc (fun _ _ _ => by simp) acts sameOpened fun other => ?_
      rw [state, State.pending_removeConnectionRequest, Act.slotAfter]
      split_ifs
      · rfl
      · exact refines.slots other

theorem slotsRefine_of_run {events : List (Instant × Nat × TaskEvent)} {tasks : Tasks}
    (run : (tasksMachine addrs).Run .start events tasks) : tasks.SlotsRefine := by
  refine run.invariant SlotsRefine ⟨fun session => ?_, nofun, nofun⟩ fun before event refines _ => ?_
  · simp [start, State.new, State.pending, slotOf]
  · have stepped := refines.step (before.step_case addrs event.1 event.2.1 event.2.2)
    exact ⟨stepped.slots, stepped.opened, stepped.single⟩

variable (addrs)

/-- The events after which a request may no longer be pending: its service takes it, a later request replaces it, its
own task withdraws it when the wait is over, or the announcement of its session expired. -/
def Excused (tasks : Tasks) (event : Instant × Nat × TaskEvent) (session : UInt64) (request : IncomingConnection) :
    Prop :=
  (∃ announce, event.2.2 = .received (.announceAndCheck announce) ∧ announce.session = session ∧
    (tasks.state.announceCheck announce (addrs event.2.1) event.1).2 = some request) ∨
  (∃ connection, event.2.2 = .received (.connectionRequest connection) ∧ connection.session = session) ∨
  (event.2.2 = .withdraw ∧ tasks.stages event.2.1 = .withdrawing session ∧
    .inserted event.2.1 session request.tx ∈ tasks.acts) ∨
  event.2.2 = .update ∧ ∃ client, tasks.state.clients[session]? = some client ∧ State.expired client event.1 = true

/-- Every pending request stays pending, unless this event excuses its end. -/
def StaysPending (tasks : Tasks) (event : Instant × Nat × TaskEvent) : Prop :=
  ∀ session request, tasks.state.pending session = some request →
    (tasks.next addrs event).state.pending session = some request ∨ tasks.Excused addrs event session request

end Tasks

/-- A withdrawal finds no request of another task: the last thing that happened to the slot of its session was not the
insertion of another task. -/
def Act.WithdrawsOwn (earlier : List Act) (act : Act) : Prop :=
  ∀ task session other tx, act = .withdrawn task session → slotOf session earlier = some (other, tx) → other = task

namespace Tasks

variable {addrs : Nat → SocketAddr} {tasks next : Tasks} {event : Instant × Nat × TaskEvent}

theorem StepCase.acts_prefix {now : Instant} {task : Nat} {event : TaskEvent}
    (taken : StepCase addrs now task tasks event next) : tasks.acts <+: next.acts := by
  cases taken with
  | calm sameState sameOpened sameActs => rw [sameActs]
  | sent message sameState sameOpened acts => simp [acts]
  | updated taken state sameOpened acts => simp [acts]
  | announced announce taken state sameOpened acts => simp [acts]
  | inserted request dst taken result opened acts => simp [acts]
  | withdrawn session stage taken state sameOpened acts => simp [acts]

/-- The history names the task of a pending request. -/
theorem SlotsRefine.slotOf_eq {session : UInt64} {request : IncomingConnection} (refines : tasks.SlotsRefine)
    (pending : tasks.state.pending session = some request) :
    ∃ task, slotOf session tasks.acts = some (task, request.tx) := by
  have slots := refines.slots session
  rw [pending, Option.map_some] at slots
  obtain ⟨⟨task, tx⟩, found, rfl⟩ := Option.map_eq_some_iff.mp slots.symm
  exact ⟨task, found⟩

/-- A step that withdraws at most the task's own request lets every other request stay. -/
theorem SlotsRefine.staysPending (refines : tasks.SlotsRefine)
    (taken : StepCase addrs event.1 event.2.1 tasks event.2.2 (tasks.step addrs event.1 event.2.1 event.2.2))
    (own : EachAfter (tasks.next addrs event).acts Act.WithdrawsOwn) : tasks.StaysPending addrs event := by
  intro session request pending
  change EachAfter (tasks.step addrs event.1 event.2.1 event.2.2).acts Act.WithdrawsOwn at own
  change (tasks.step addrs event.1 event.2.1 event.2.2).state.pending session = some request ∨ _
  cases taken with
  | calm sameState sameOpened sameActs => exact .inl (by rw [sameState, pending])
  | sent message sameState sameOpened acts => exact .inl (by rw [sameState, pending])
  | updated update state sameOpened acts =>
      rw [state, State.pending_pollUpdate]
      split_ifs with removed
      · exact .inr (.inr (.inr (.inr ⟨update, (State.mem_toRemove _ _ _).mp removed⟩)))
      · exact .inl pending
  | announced announce received state sameOpened acts =>
      rw [state, State.pending_announceCheck]
      split_ifs with same
      · subst same
        have takes := tasks.state.announceCheck_taken announce (addrs event.2.1) event.1
        rw [pending] at takes ⊢
        rcases State.takeIf_cases event.1 (some request) with left | ⟨incoming, there, moved⟩
        · exact .inl (by rw [left])
        · cases there
          rw [moved] at takes
          exact .inr (.inl ⟨announce, received, rfl, takes⟩)
      · exact .inl pending
  | inserted request dst received result opened acts =>
      by_cases same : request.session = session
      · exact .inr (.inr (.inl ⟨request, received, same⟩))
      · have kept := tasks.state.pending_insertConnectionRequest request (addrs event.2.1) tasks.opened event.1 session
        rw [result, if_neg (fun both => same both.1)] at kept
        exact .inl (kept.trans pending)
  | withdrawn withdrawn stage withdraw state sameOpened acts =>
      rw [state, State.pending_removeConnectionRequest]
      split_ifs with same
      · subst same
        obtain ⟨task, slot⟩ := refines.slotOf_eq pending
        rw [acts] at own
        have owner := (eachAfter_snoc.mp own).2 _ _ _ _ rfl slot
        exact .inr (.inr (.inr (.inl ⟨withdraw, stage, owner ▸ slotOf_inserted slot⟩)))
      · exact .inl pending

/-- A step that lets all other requests stay withdraws at most the task's own request. -/
theorem SlotsRefine.withdrawsOwn (refines : tasks.SlotsRefine)
    (taken : StepCase addrs event.1 event.2.1 tasks event.2.2 (tasks.step addrs event.1 event.2.1 event.2.2))
    (earlier : EachAfter tasks.acts Act.WithdrawsOwn) (stays : tasks.StaysPending addrs event) :
    EachAfter (tasks.next addrs event).acts Act.WithdrawsOwn := by
  change EachAfter (tasks.step addrs event.1 event.2.1 event.2.2).acts Act.WithdrawsOwn
  have harmless {act : Act} (other : ∀ task session, act ≠ .withdrawn task session) :
      EachAfter (tasks.acts ++ [act]) Act.WithdrawsOwn :=
    eachAfter_snoc.mpr ⟨earlier, fun task session _ _ same => absurd same (other task session)⟩
  cases taken with
  | calm sameState sameOpened sameActs => exact sameActs ▸ earlier
  | sent message sameState sameOpened acts => exact acts ▸ harmless (by simp)
  | updated update state sameOpened acts => exact acts ▸ harmless (by simp)
  | announced announce received state sameOpened acts => exact acts ▸ harmless (by simp)
  | inserted request dst received result opened acts => exact acts ▸ harmless (by simp)
  | withdrawn session stage withdraw state sameOpened acts =>
      rw [acts]
      refine eachAfter_snoc.mpr ⟨earlier, fun task other owner tx same slot => ?_⟩
      cases same
      have slots := refines.slots session
      rw [slot] at slots
      obtain ⟨request, pending, rfl⟩ := Option.map_eq_some_iff.mp slots
      rcases stays session request pending with kept | excused
      · change (tasks.step addrs event.1 event.2.1 event.2.2).state.pending session = some request at kept
        rw [state, State.pending_removeConnectionRequest, if_pos rfl] at kept
        cases kept
      · rcases excused with ⟨_, other, _⟩ | ⟨_, other, _⟩ | ⟨_, _, mine⟩ | ⟨other, _⟩
        · rw [withdraw] at other
          cases other
        · rw [withdraw] at other
          cases other
        · exact refines.single _ _ _ _ _ (slotOf_inserted slot) mine
        · rw [withdraw] at other
          cases other

end Tasks

/-- In a run every pending request stays until its own end, exactly when no task withdraws after another task's later
insertion into the same slot. -/
theorem withdrawal_own_iff (addrs : Nat → SocketAddr) {events : List (Instant × Nat × TaskEvent)} {tasks : Tasks}
    (ran : (tasksMachine addrs).Run .start events tasks) :
    (∀ before event, (tasksMachine addrs).Takes .start events before event → before.StaysPending addrs event) ↔
      EachAfter tasks.acts Act.WithdrawsOwn := by
  induction ran with
  | nil => exact ⟨fun _ => eachAfter_nil, fun _ _ _ taken => absurd taken Machine.not_takes_nil⟩
  | @snoc events before event ran allowed ih =>
      have refines := Tasks.slotsRefine_of_run ran
      have taken := before.step_case addrs event.1 event.2.1 event.2.2
      constructor
      · intro stays
        have earlier := ih.mp fun middle other taken => stays middle other (ran.takes_snoc.mpr (.inl taken))
        exact refines.withdrawsOwn taken earlier (stays before event (ran.takes_snoc.mpr (.inr ⟨rfl, rfl⟩)))
      · intro own middle other step
        rcases ran.takes_snoc.mp step with inside | ⟨rfl, rfl⟩
        · exact ih.mpr (own.of_prefix taken.acts_prefix) middle other inside
        · exact refines.staysPending taken own

/-- Service 2 takes and confirms the request of connector 1. Then connector 3 asks for the same session, and it
withdraws its request before connector 1 withdraws. -/
def sampleWithdrawals : List (Instant × Nat × TaskEvent) :=
  sampleAnnouncement ++ sampleConnector 1 ++
    [(0, 2, .update), (0, 2, .received (.announceAndCheck ⟨7, "app", "user"⟩)), (0, 2, .confirm)] ++
    sampleConnector 3 ++
    [(Duration.fromSecs 5, 3, .woken), (Duration.fromSecs 5, 3, .withdraw), (Duration.fromSecs 5, 1, .woken),
      (Duration.fromSecs 5, 1, .sent), (Duration.fromSecs 5, 1, .withdraw)]

/-- The request of connector 3 is pending until connector 3 itself withdraws it. -/
theorem withdrawal_own_sample :
    let before := sampleTasks (sampleWithdrawals.take 12)
    slotOf 7 before.acts = some (3, 1) ∧ before.StaysPending sampleTaskAddr (Duration.fromSecs 5, 3, .withdraw) := by
  intro before
  have ran : (tasksMachine sampleTaskAddr).Run .start (sampleWithdrawals.take 12) before :=
    sampleTasks_run (by decide +kernel)
  have all : (tasksMachine sampleTaskAddr).Run .start sampleWithdrawals (sampleTasks sampleWithdrawals) :=
    sampleTasks_run (by decide +kernel)
  refine ⟨by decide +kernel, (withdrawal_own_iff sampleTaskAddr all).mpr ?_ _ _
    ⟨sampleWithdrawals.take 12, sampleWithdrawals.drop 13, rfl, ran⟩⟩
  let front : List Act := [.updated [], .announced 0 7 none, .updated [], .inserted 1 7 0,
    .sent 1 (.remoteAddr (sampleTaskAddr 0)), .updated [],
    .announced 2 7 (some ⟨Duration.fromMillis 4500, sampleTaskAddr 1, 0⟩), .updated [], .inserted 3 7 1,
    .sent 3 (.remoteAddr (sampleTaskAddr 2))]
  have acts : (sampleTasks sampleWithdrawals).acts =
      front ++ [.withdrawn 3 7] ++ [.sent 1 (.startCountdown (Duration.fromMillis scheduleConMs))] ++
        [.withdrawn 1 7] := by
    decide +kernel
  have own (earlier : List Act) (task : Nat) (slot : slotOf 7 earlier = some (task, 1) ∨ slotOf 7 earlier = none) :
      Act.WithdrawsOwn earlier (.withdrawn task 7) := by
    intro _ _ owner tx same found
    cases same
    obtain mine | nothing := slot
    · exact (Prod.mk.inj (Option.some.inj (mine.symm.trans found))).1.symm
    · cases nothing.symm.trans found
  rw [acts, eachAfter_snoc, eachAfter_snoc, eachAfter_snoc]
  refine ⟨⟨⟨?_, own front 3 (.inl rfl)⟩, by simp [Act.WithdrawsOwn]⟩, own _ 1 (.inr rfl)⟩
  rintro earlier act later whole task session other tx rfl _
  have member : .withdrawn task session ∈ front := by simp [whole]
  simp [front] at member

/-- The second connector replaces the request of the first. The first wakes up and withdraws the second's request. -/
theorem withdrawal_own_fails : ¬ ∀ addrs events tasks, (tasksMachine addrs).Run .start events tasks →
    ∀ before event, (tasksMachine addrs).Takes .start events before event → before.StaysPending addrs event := by
  intro claim
  have ran : (tasksMachine sampleTaskAddr).Run .start
      (sampleAnnouncement ++ sampleConnector 1 ++ sampleConnector 2 ++ [(0, 1, .woken)]) _ :=
    sampleTasks_run (by decide +kernel)
  have stays := claim _ _ _ (ran.snoc (0, 1, .withdraw) (by decide +kernel)) _ _ ⟨_, [], rfl, ran⟩ 7
    ⟨Duration.fromMillis 4500, sampleTaskAddr 2, 1⟩ (by decide +kernel)
  have gone : ((sampleTasks (sampleAnnouncement ++ sampleConnector 1 ++ sampleConnector 2 ++ [(0, 1, .woken)])).next
      sampleTaskAddr (0, 1, .withdraw)).state.pending 7 = none := by
    decide +kernel
  rcases stays with kept | ⟨_, other, _⟩ | ⟨_, other, _⟩ | ⟨_, _, mine⟩ | ⟨other, _⟩
  · rw [gone] at kept
    cases kept
  · cases other
  · cases other
  · revert mine
    decide +kernel
  · cases other

end RepriseP2p.Tcp
