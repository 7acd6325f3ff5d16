/-
This file proves that the confirmations of services and the waits of connectors pair up one to one.
-/

import RepriseP2p.Foundation.History
import RepriseP2p.Tcp.Deeds

namespace RepriseP2p.Tcp

open History

/-- Some deed in the history is of this kind, about this channel. -/
def Happened (history : List (Instant × Nat × Deed)) (kind : DeedKind) (tx : Nat) : Prop :=
  ∃ entry ∈ history, entry.2.2.key = some (kind, tx)

/-- No channel is opened, taken, confirmed or ended twice. -/
def Once (history : List (Instant × Nat × Deed)) : Prop := (history.filterMap fun entry => entry.2.2.key).Nodup

/-- This request was inserted for this session. -/
def Requested (addrs : Nat → SocketAddr) (history : List (Instant × Nat × Deed)) (session : UInt64)
    (incoming : IncomingConnection) : Prop :=
  ∃ tm connector dst, (tm, connector, .inserted session incoming.tx dst) ∈ history ∧
    incoming.tm = tm + Duration.fromMillis (connectionRequestTimeoutMs - 500) ∧ incoming.addr = addrs connector

section History

variable {addrs : Nat → SocketAddr} {history : List (Instant × Nat × Deed)} {now : Instant} {task : Nat}
  {deed : Option Deed} {kind : DeedKind} {tx : Nat}

theorem happened_noted : Happened (history ++ noted now task deed) kind tx ↔
    Happened history kind tx ∨ ∃ done ∈ deed, done.key = some (kind, tx) := by
  cases deed with
  | none => simp [Happened, noted]
  | some last => simp [Happened, noted, or_and_right, exists_or]

theorem Once.noted (once : Once history)
    (fresh : ∀ done ∈ deed, ∀ kind tx, done.key = some (kind, tx) → ¬ Happened history kind tx) :
    Once (history ++ noted now task deed) := by
  rw [Once, List.filterMap_append, List.nodup_append]
  refine ⟨once, ?_, ?_⟩
  · cases deed with
    | none => exact List.nodup_nil
    | some last =>
        simp only [Tcp.noted, Option.map_some, Option.toList_some, List.filterMap_cons, List.filterMap_nil]
        cases last.key <;> simp
  · intro earlier member other again same
    subst same
    obtain ⟨entry, there, equal⟩ := List.mem_filterMap.mp member
    obtain ⟨⟨tm, owner, done⟩, last, key⟩ := List.mem_filterMap.mp again
    have whole : (tm, owner, done) ∈ [] ++ Tcp.noted now task deed := last
    obtain nothing | ⟨_, _, found⟩ := mem_append_noted.mp whole
    · cases nothing
    · exact fresh done found earlier.1 earlier.2 key ⟨entry, there, equal⟩

/-- Two entries of the same kind about the same channel are one entry. -/
theorem Once.eq (once : Once history) {first second : Instant × Nat × Deed} (there : first ∈ history)
    (again : second ∈ history) (firstKey : first.2.2.key = some (kind, tx))
    (secondKey : second.2.2.key = some (kind, tx)) : first = second := by
  induction history with
  | nil => cases there
  | cons head tail ih =>
      have apart {entry : Instant × Nat × Deed} (later : entry ∈ tail) (key : entry.2.2.key = some (kind, tx))
          (headKey : head.2.2.key = some (kind, tx)) : False := by
        rw [Once, List.filterMap_cons, headKey] at once
        exact (List.nodup_cons.mp once).1 (List.mem_filterMap.mpr ⟨entry, later, key⟩)
      obtain rfl | firstLater := List.mem_cons.mp there
      · obtain rfl | secondLater := List.mem_cons.mp again
        · rfl
        · exact (apart secondLater secondKey firstKey).elim
      · obtain rfl | secondLater := List.mem_cons.mp again
        · exact (apart firstLater firstKey secondKey).elim
        · refine ih ?_ firstLater secondLater
          rw [Once, List.filterMap_cons] at once
          cases key : head.2.2.key with
          | none =>
              rw [key] at once
              exact once
          | some about =>
              rw [key] at once
              exact (List.nodup_cons.mp once).2

theorem Requested.mono {session : UInt64} {incoming : IncomingConnection}
    (requested : Requested addrs history session incoming) (extra : List (Instant × Nat × Deed)) :
    Requested addrs (history ++ extra) session incoming := by
  obtain ⟨tm, connector, dst, inserted, deadline, addr⟩ := requested
  exact ⟨tm, connector, dst, List.mem_append_left extra inserted, deadline, addr⟩

end History

/-- The history explains the registry, the channels and the stages of the tasks. -/
structure Tasks.Explained (addrs : Nat → SocketAddr) (tasks : Tasks) (history : List (Instant × Nat × Deed)) : Prop where
  since : ∀ task, (tasks.stages task).Since (deedsOf task history)
  once : Once history
  opened : ∀ kind tx, Happened history kind tx → tx < tasks.opened
  unopened : ∀ tx, tasks.opened ≤ tx → tasks.channels tx = ⟨.held, true⟩
  pending : ∀ session incoming, tasks.state.pending session = some incoming →
    Requested addrs history session incoming ∧ ¬ Happened history .taking incoming.tx ∧
      (tasks.channels incoming.tx).sender = .held
  confirming : ∀ task incoming, tasks.stages task = .confirming incoming →
    (tasks.channels incoming.tx).sender = .held
  used : ∀ tx, Happened history .confirming tx ↔ (tasks.channels tx).sender = .used
  gone : ∀ tx, Happened history .ending tx → (tasks.channels tx).receiver = false
  verdict : ∀ now task session rx ok, (now, task, .ended session rx ok) ∈ history →
    (ok = true ↔ (tasks.channels rx).sender = .used)
  waits : ∀ tm connector session tx dst, (tm, connector, .inserted session tx dst) ∈ history →
    (tasks.stages connector).Awaits session tx ∨ (∃ now ok, (now, connector, .ended session tx ok) ∈ history) ∨
      .failed ∈ deedsOf connector history
  alive : ∀ task session rx, (tasks.stages task).Awaits session rx → (tasks.channels rx).receiver = true
  taken : ∀ now task session incoming, (now, task, .announced session (some incoming)) ∈ history →
    Requested addrs history session incoming ∧ now < incoming.tm
  confirmed : ∀ now task incoming, (now, task, .confirmed incoming) ∈ history →
    ∃ before session, (before, task, .announced session (some incoming)) ∈ history
  ended : ∀ now task session rx ok, (now, task, .ended session rx ok) ∈ history →
    ∃ tm dst, (tm, task, .inserted session rx dst) ∈ history

/-- The step may drop the sender of this channel: its request is pending, or the task fails to confirm it. -/
def Tasks.Abandons (task : Nat) (tasks next : Tasks) (tx : Nat) : Prop :=
  (∃ session incoming, tasks.state.pending session = some incoming ∧ incoming.tx = tx) ∨
    ∃ incoming, tasks.stages task = .confirming incoming ∧ incoming.tx = tx ∧ next.stages task = .updating

namespace Tasks.Explained

variable {addrs : Nat → SocketAddr} {tasks next : Tasks} {history : List (Instant × Nat × Deed)}
  {now : Instant} {task : Nat}

theorem start : Explained addrs .start [] := by
  constructor
  · intro task
    exact trivial
  · exact List.nodup_nil
  · rintro kind tx ⟨entry, member, _⟩
    cases member
  · intro tx _
    rfl
  · intro session incoming found
    simp [Tasks.start, State.new, State.pending] at found
  · intro task incoming stage
    cases stage
  · intro tx
    constructor
    · rintro ⟨entry, member, _⟩
      cases member
    · intro used
      cases used
  · rintro tx ⟨entry, member, _⟩
    cases member
  · intro now task session rx ok member
    cases member
  · intro tm connector session tx dst member
    cases member
  · intro task session rx awaits
    exact absurd awaits id
  · intro now task session incoming member
    cases member
  · intro now task incoming member
    cases member
  · intro now task session rx ok member
    cases member

section Lookup

variable (explained : Explained addrs tasks history)

include explained

/-- A task that confirms a request took it. -/
theorem took {incoming : IncomingConnection} (stage : tasks.stages task = .confirming incoming) :
    ∃ before session, (before, task, .announced session (some incoming)) ∈ history := by
  have since := explained.since task
  rw [stage] at since
  obtain ⟨session, earlier, deeds⟩ := since
  obtain ⟨before, member⟩ := mem_deedsOf.mp (deeds ▸ List.mem_append_right earlier List.mem_cons_self)
  exact ⟨before, session, member⟩

theorem not_pending_of_took {incoming pending : IncomingConnection} {session : UInt64}
    (stage : tasks.stages task = .confirming incoming) (found : tasks.state.pending session = some pending) :
    pending.tx ≠ incoming.tx := by
  intro same
  obtain ⟨before, other, member⟩ := explained.took stage
  exact (explained.pending session pending found).2.1 ⟨_, member, by rw [same]; rfl⟩

/-- No two tasks confirm on the same channel. -/
theorem confirming_eq {incoming other : IncomingConnection} {rival : Nat}
    (stage : tasks.stages task = .confirming incoming) (rivalStage : tasks.stages rival = .confirming other)
    (same : other.tx = incoming.tx) : rival = task := by
  obtain ⟨_, session, member⟩ := explained.took stage
  obtain ⟨_, session', again⟩ := explained.took rivalStage
  have equal := explained.once.eq member again rfl (by rw [← same]; rfl)
  exact (congrArg (fun entry => entry.2.1) equal).symm

/-- A task that waits inserted the request. -/
theorem inserted_of_awaits {session : UInt64} {rx : Nat} (awaits : (tasks.stages task).Awaits session rx) :
    ∃ tm dst, (tm, task, .inserted session rx dst) ∈ history := by
  have since := explained.since task
  cases stage : tasks.stages task with
  | telling other channel dst =>
      rw [stage] at since awaits
      obtain ⟨rfl, rfl⟩ := awaits
      obtain ⟨earlier, deeds⟩ := since
      obtain ⟨tm, member⟩ := mem_deedsOf.mp (deeds ▸ List.mem_append_right earlier List.mem_cons_self)
      exact ⟨tm, dst, member⟩
  | waiting other channel deadline =>
      rw [stage] at since awaits
      obtain ⟨rfl, rfl⟩ := awaits
      obtain ⟨dst, earlier, deeds⟩ := since
      obtain ⟨tm, member⟩ := mem_deedsOf.mp (deeds ▸ List.mem_append_right earlier List.mem_cons_self)
      exact ⟨tm, dst, member⟩
  | _ =>
      rw [stage] at awaits
      exact absurd awaits id

/-- No two tasks wait on the same channel. -/
theorem awaits_eq {session other : UInt64} {rx rival : Nat} (awaits : (tasks.stages task).Awaits session rx)
    (rivalAwaits : (tasks.stages rival).Awaits other rx) : rival = task := by
  obtain ⟨_, _, member⟩ := explained.inserted_of_awaits awaits
  obtain ⟨_, _, again⟩ := explained.inserted_of_awaits rivalAwaits
  exact (congrArg (fun entry => entry.2.1) (explained.once.eq member again rfl rfl)).symm

/-- No two sessions have a pending request on the same channel. -/
theorem pending_eq {session other : UInt64} {incoming rival : IncomingConnection}
    (found : tasks.state.pending session = some incoming) (again : tasks.state.pending other = some rival)
    (same : rival.tx = incoming.tx) : other = session := by
  obtain ⟨⟨_, _, _, member, _⟩, _⟩ := explained.pending session incoming found
  obtain ⟨⟨_, _, _, repeated, _⟩, _⟩ := explained.pending other rival again
  have equal := explained.once.eq member repeated rfl (by rw [← same]; rfl)
  simp only [Prod.mk.injEq, Deed.inserted.injEq] at equal
  exact equal.2.2.1.symm

/-- Only requests of opened channels are abandoned. -/
theorem opened_of_abandons {tx : Nat} (abandons : Abandons task tasks next tx) : tx < tasks.opened := by
  obtain ⟨session, incoming, found, rfl⟩ | ⟨incoming, stage, rfl, _⟩ := abandons
  · obtain ⟨_, _, _, member, _⟩ := (explained.pending session incoming found).1
    exact explained.opened .opening _ ⟨_, member, rfl⟩
  · obtain ⟨_, session, member⟩ := explained.took stage
    exact explained.opened .taking _ ⟨_, member, rfl⟩

/-- No other task's request in hand is abandoned. -/
theorem not_abandons_of_confirming {other : Nat} {incoming : IncomingConnection}
    (stage : tasks.stages other = .confirming incoming) (after : next.stages other = .confirming incoming) :
    ¬ Abandons task tasks next incoming.tx := by
  intro abandons
  obtain ⟨session, pending, found, same⟩ | ⟨rival, own, same, moved⟩ := abandons
  · exact explained.not_pending_of_took stage found same
  · obtain rfl := explained.confirming_eq stage own same
    rw [moved] at after
    cases after

end Lookup

section Step

variable {deed : Option Deed} {op : Option (Instant × RegistryOp)} (explained : Explained addrs tasks history)
  (stepped : Stepped addrs now task tasks deed op next)

include explained stepped

/-- The deed of a step is the first of its kind on its channel. -/
theorem key_fresh {done : Deed} (did : done ∈ deed) {kind : DeedKind} {tx : Nat} (key : done.key = some (kind, tx)) :
    ¬ Happened history kind tx ∧ tx < next.opened := by
  have moves := stepped.moves
  cases stepped.effect with
  | calm keyless pending channels opened =>
      rw [keyless done did] at key
      cases key
  | cleared sessions pending channels opened => cases did
  | taken session incoming found live pending channels opened =>
      cases did
      cases key
      obtain ⟨⟨tm, connector, dst, member, _⟩, untaken, _⟩ := explained.pending session incoming found
      exact ⟨untaken, opened ▸ explained.opened .opening _ ⟨_, member, rfl⟩⟩
  | inserted session dst pending channels opened =>
      cases did
      cases key
      rw [opened]
      exact ⟨fun happened => absurd (explained.opened _ _ happened) (Nat.lt_irrefl _), Nat.lt_succ_self _⟩
  | confirmed incoming alive pending channels opened =>
      cases did
      cases key
      have stage := moves.of_confirmed
      obtain ⟨before, session, member⟩ := explained.took stage
      refine ⟨?_, opened ▸ explained.opened .taking _ ⟨_, member, rfl⟩⟩
      rw [explained.used, explained.confirming task incoming stage]
      decide
  | unconfirmed incoming stage pending channels opened moved => cases did
  | ended session rx ok verdict pending channels opened =>
      cases did
      cases key
      have awaits := moves.of_ended.1
      obtain ⟨tm, dst, member⟩ := explained.inserted_of_awaits awaits
      refine ⟨?_, opened ▸ explained.opened .opening _ ⟨_, member, rfl⟩⟩
      intro happened
      have gone := explained.gone _ happened
      rw [explained.alive task session _ awaits] at gone
      cases gone
  | failed session rx stage pending channels opened moved =>
      cases did
      cases key

/-- A sender stays as it is, is dropped unused, or is used in this step. -/
theorem sender_case (tx : Nat) :
    ((next.channels tx).sender = (tasks.channels tx).sender ∧ ∀ done ∈ deed, done.key ≠ some (.confirming, tx)) ∨
      ((tasks.channels tx).sender = .held ∧ (next.channels tx).sender = .dropped ∧
        (∀ done ∈ deed, done.key ≠ some (.confirming, tx)) ∧ Abandons task tasks next tx) ∨
      ((tasks.channels tx).sender = .held ∧ (next.channels tx).sender = .used ∧
        (tasks.channels tx).receiver = true ∧ ∃ done ∈ deed, done.key = some (.confirming, tx)) := by
  have dropped (sessions : List UInt64) (channels : next.channels = (tasks.dropPending sessions).channels) :
      (next.channels tx).sender = (tasks.channels tx).sender ∨
        (tasks.channels tx).sender = .held ∧ (next.channels tx).sender = .dropped ∧ Abandons task tasks next tx := by
    rw [channels]
    obtain ⟨gone, kept⟩ := (tasks.dropPending_channels sessions).2 tx
    by_cases pending : tasks.PendingFor sessions tx
    · rw [gone pending]
      obtain ⟨session, _, incoming, found, rfl⟩ := pending
      exact .inr ⟨(explained.pending session incoming found).2.2, rfl, .inl ⟨session, incoming, found, rfl⟩⟩
    · rw [kept pending]
      exact .inl rfl
  have moves := stepped.moves
  cases stepped.effect with
  | calm keyless pending channels opened =>
      rw [channels]
      refine .inl ⟨rfl, ?_⟩
      intro done did key
      rw [keyless done did] at key
      cases key
  | cleared sessions pending channels opened =>
      obtain same | ⟨held, gone, reason⟩ := dropped sessions channels
      · exact .inl ⟨same, by simp⟩
      · exact .inr (.inl ⟨held, gone, by simp, reason⟩)
  | taken session incoming found live pending channels opened =>
      rw [channels]
      exact .inl ⟨rfl, by simp [Deed.key]⟩
  | inserted session dst pending channels opened =>
      obtain same | ⟨held, gone, reason⟩ := dropped [session] channels
      · exact .inl ⟨same, by simp [Deed.key]⟩
      · exact .inr (.inl ⟨held, gone, by simp [Deed.key], reason⟩)
  | confirmed incoming alive pending channels opened =>
      have held := explained.confirming task incoming moves.of_confirmed
      rw [channels, setSender_channels]
      split_ifs with same
      · subst same
        exact .inr (.inr ⟨held, rfl, alive, _, rfl, rfl⟩)
      · exact .inl ⟨rfl, by simpa [Deed.key] using Ne.symm same⟩
  | unconfirmed incoming stage pending channels opened moved =>
      have held := explained.confirming task incoming stage
      rw [channels, setSender_channels]
      split_ifs with same
      · subst same
        exact .inr (.inl ⟨held, rfl, by simp, .inr ⟨incoming, stage, rfl, moved⟩⟩)
      · exact .inl ⟨rfl, by simp⟩
  | ended session rx ok verdict pending channels opened =>
      rw [channels, dropReceiver_channels]
      refine .inl ⟨?_, by simp [Deed.key]⟩
      split_ifs <;> rfl
  | failed session rx stage pending channels opened moved =>
      rw [channels, dropReceiver_channels]
      refine .inl ⟨?_, by simp [Deed.key]⟩
      split_ifs <;> rfl

/-- A request that is pending after the step was pending before, on an untouched channel, or is inserted by it. -/
theorem pending_case {session : UInt64} {incoming : IncomingConnection}
    (found : next.state.pending session = some incoming) :
    (tasks.state.pending session = some incoming ∧
        (next.channels incoming.tx).sender = (tasks.channels incoming.tx).sender ∧
        ∀ done ∈ deed, done.key ≠ some (.taking, incoming.tx)) ∨
      ((∃ dst, deed = some (.inserted session incoming.tx dst)) ∧ incoming.tx = tasks.opened ∧
        incoming.tm = now + Duration.fromMillis (connectionRequestTimeoutMs - 500) ∧ incoming.addr = addrs task ∧
        next.channels incoming.tx = tasks.channels incoming.tx) := by
  have kept (sessions : List UInt64) (channels : next.channels = (tasks.dropPending sessions).channels)
      (old : tasks.state.pending session = some incoming) (outside : session ∉ sessions) :
      (next.channels incoming.tx).sender = (tasks.channels incoming.tx).sender := by
    rw [channels, ((tasks.dropPending_channels sessions).2 incoming.tx).2]
    rintro ⟨other, inside, rival, there, same⟩
    exact outside (explained.pending_eq old there same ▸ inside)
  have moves := stepped.moves
  cases stepped.effect with
  | calm keyless pending channels opened =>
      rw [pending] at found
      refine .inl ⟨found, by rw [channels], ?_⟩
      intro done did key
      rw [keyless done did] at key
      cases key
  | cleared sessions pending channels opened =>
      rw [pending] at found
      split_ifs at found with outside
      exact .inl ⟨found, kept sessions channels found outside, by simp⟩
  | taken other taken there live pending channels opened =>
      rw [pending] at found
      split_ifs at found with different
      refine .inl ⟨found, by rw [channels], ?_⟩
      intro done did key
      cases did
      simp only [Deed.key, Option.map_some, Option.some.injEq, Prod.mk.injEq, true_and] at key
      exact different (explained.pending_eq found there key)
  | inserted other dst pending channels opened =>
      rw [pending] at found
      split_ifs at found with same
      · subst same
        cases found
        refine .inr ⟨⟨dst, rfl⟩, rfl, rfl, rfl, ?_⟩
        rw [channels, ((tasks.dropPending_channels [other]).2 tasks.opened).2]
        rintro ⟨_, _, incoming, there, new⟩
        obtain ⟨_, _, _, member, _⟩ := (explained.pending _ incoming there).1
        exact absurd (explained.opened .opening incoming.tx ⟨_, member, rfl⟩) (new ▸ Nat.lt_irrefl _)
      · exact .inl ⟨found, kept [other] channels found (by simpa using Ne.symm same), by simp [Deed.key]⟩
  | confirmed taken alive pending channels opened =>
      rw [pending] at found
      refine .inl ⟨found, ?_, by simp [Deed.key]⟩
      rw [channels, setSender_channels, if_neg (explained.not_pending_of_took moves.of_confirmed found)]
  | unconfirmed taken stage pending channels opened moved =>
      rw [pending] at found
      refine .inl ⟨found, ?_, by simp⟩
      rw [channels, setSender_channels, if_neg (explained.not_pending_of_took stage found)]
  | ended other rx ok verdict pending channels opened =>
      rw [pending] at found
      refine .inl ⟨found, ?_, by simp [Deed.key]⟩
      rw [channels, dropReceiver_channels]
      split_ifs <;> rfl
  | failed other rx stage pending channels opened moved =>
      rw [pending] at found
      refine .inl ⟨found, ?_, by simp [Deed.key]⟩
      rw [channels, dropReceiver_channels]
      split_ifs <;> rfl

theorem step_confirming (other : Nat) (incoming : IncomingConnection) (after : next.stages other = .confirming incoming) :
    (next.channels incoming.tx).sender = .held := by
  have kept (stage : tasks.stages other = .confirming incoming)
      (unused : ∀ done ∈ deed, done.key ≠ some (.confirming, incoming.tx)) :
      (next.channels incoming.tx).sender = .held := by
    obtain ⟨same, _⟩ | ⟨_, _, _, abandons⟩ | ⟨_, _, _, done, did, key⟩ := explained.sender_case stepped incoming.tx
    · rw [same]
      exact explained.confirming other incoming stage
    · exact absurd abandons (explained.not_abandons_of_confirming stage after)
    · exact absurd key (unused done did)
  by_cases own : other = task
  · subst own
    have moves := stepped.moves
    rw [after] at moves
    obtain ⟨stage, none⟩ | ⟨session, taken⟩ := moves.of_confirming
    · exact kept stage (by simp [none])
    · obtain ⟨found, _, channels⟩ := stepped.of_taken taken
      rw [channels]
      exact (explained.pending session incoming found).2.2
  · rw [stepped.others other own] at after
    apply kept after
    intro done did key
    obtain ⟨rival, rfl, same⟩ := Deed.key_confirming key
    have moves := stepped.moves
    rw [show deed = some (.confirmed rival) from did] at moves
    exact own (explained.confirming_eq after moves.of_confirmed same).symm

theorem step_used (tx : Nat) :
    Happened (history ++ noted now task deed) .confirming tx ↔ (next.channels tx).sender = .used := by
  rw [happened_noted, explained.used]
  obtain ⟨same, none⟩ | ⟨held, dropped, none, _⟩ | ⟨held, used, _, confirmed⟩ := explained.sender_case stepped tx
  · rw [same]
    constructor
    · intro either
      obtain before | ⟨done, did, key⟩ := either
      · exact before
      · exact absurd key (none done did)
    · exact .inl
  · rw [held, dropped]
    constructor
    · intro either
      obtain before | ⟨done, did, key⟩ := either
      · cases before
      · exact absurd key (none done did)
    · intro after
      cases after
  · exact ⟨fun _ => used, fun _ => .inr confirmed⟩

theorem step_verdict (tm : Instant) (owner : Nat) (session : UInt64) (rx : Nat) (ok : Bool)
    (member : (tm, owner, .ended session rx ok) ∈ history ++ noted now task deed) :
    ok = true ↔ (next.channels rx).sender = .used := by
  obtain old | ⟨rfl, rfl, ended⟩ := mem_append_noted.mp member
  · rw [explained.verdict tm owner session rx ok old]
    obtain ⟨same, _⟩ | ⟨held, dropped, _⟩ | ⟨_, _, alive, _⟩ := explained.sender_case stepped rx
    · rw [same]
    · rw [held, dropped]
      decide
    · have gone := explained.gone rx ⟨_, old, rfl⟩
      rw [alive] at gone
      cases gone
  · exact stepped.of_ended ended

theorem step_alive (other : Nat) (session : UInt64) (rx : Nat) (after : (next.stages other).Awaits session rx) :
    (next.channels rx).receiver = true := by
  obtain ⟨same, _⟩ | ⟨_, ⟨own, awaits⟩, stops⟩ := stepped.receiver_case rx
  · rw [same]
    by_cases own : other = task
    · subst own
      obtain ⟨awaits, _⟩ | ⟨dst, inserted⟩ := stepped.moves.of_awaits after
      · exact explained.alive other session rx awaits
      · rw [explained.unopened rx (Nat.le_of_eq (stepped.of_inserted inserted).symm)]
    · rw [stepped.others other own] at after
      exact explained.alive other session rx after
  · by_cases own : other = task
    · subst own
      exact absurd after (stops session)
    · rw [stepped.others other own] at after
      exact absurd (explained.awaits_eq awaits after) own

theorem step_gone (tx : Nat) (happened : Happened (history ++ noted now task deed) .ending tx) :
    (next.channels tx).receiver = false := by
  obtain ⟨same, none⟩ | ⟨gone, _⟩ := stepped.receiver_case tx
  · rw [same]
    obtain before | ⟨done, did, key⟩ := happened_noted.mp happened
    · exact explained.gone tx before
    · exact absurd key (none done did)
  · exact gone

theorem step_pending (session : UInt64) (incoming : IncomingConnection)
    (found : next.state.pending session = some incoming) :
    Requested addrs (history ++ noted now task deed) session incoming ∧
      ¬ Happened (history ++ noted now task deed) .taking incoming.tx ∧
      (next.channels incoming.tx).sender = .held := by
  rw [happened_noted]
  obtain ⟨before, same, untouched⟩ | ⟨⟨dst, inserted⟩, new, deadline, addr, same⟩ := explained.pending_case stepped found
  · obtain ⟨requested, untaken, held⟩ := explained.pending session incoming before
    refine ⟨requested.mono _, ?_, same.trans held⟩
    intro either
    obtain taken | ⟨done, did, key⟩ := either
    · exact untaken taken
    · exact untouched done did key
  · refine ⟨⟨now, task, dst, mem_append_noted.mpr (.inr ⟨rfl, rfl, inserted⟩), deadline, addr⟩, ?_, ?_⟩
    · intro either
      obtain taken | ⟨done, did, key⟩ := either
      · exact absurd (explained.opened _ _ taken) (new ▸ Nat.lt_irrefl _)
      · rw [inserted] at did
        cases did
        cases key
    · rw [same, explained.unopened incoming.tx (Nat.le_of_eq new.symm)]

theorem step_unopened (tx : Nat) (beyond : next.opened ≤ tx) : next.channels tx = ⟨.held, true⟩ := by
  have before := explained.unopened tx (Nat.le_trans stepped.opened_le beyond)
  have sender : (next.channels tx).sender = .held := by
    obtain ⟨same, _⟩ | ⟨_, _, _, abandons⟩ | ⟨_, _, _, done, did, key⟩ := explained.sender_case stepped tx
    · rw [same, before]
    · have inside := explained.opened_of_abandons abandons
      have more := stepped.opened_le
      omega
    · have inside := (explained.key_fresh stepped did key).2
      omega
  have receiver : (next.channels tx).receiver = true := by
    obtain ⟨same, _⟩ | ⟨_, ⟨session, awaits⟩, _⟩ := stepped.receiver_case tx
    · rw [same, before]
    · obtain ⟨_, _, member⟩ := explained.inserted_of_awaits awaits
      have inside := explained.opened .opening tx ⟨_, member, rfl⟩
      have more := stepped.opened_le
      omega
  exact congrArg₂ Channel.mk sender receiver

/-- Every step that sends successfully keeps the explanation. -/
theorem step : Explained addrs next (history ++ noted now task deed) := by
  constructor
  · intro other
    rw [deedsOf_append, deedsOf_noted]
    by_cases own : other = task
    · subst own
      rw [if_pos rfl]
      exact stepped.moves.since (explained.since other)
    · rw [if_neg (Ne.symm own), List.append_nil, stepped.others other own]
      exact explained.since other
  · exact explained.once.noted fun done did kind tx key => (explained.key_fresh stepped did key).1
  · intro kind tx happened
    obtain before | ⟨done, did, key⟩ := happened_noted.mp happened
    · exact Nat.lt_of_lt_of_le (explained.opened kind tx before) stepped.opened_le
    · exact (explained.key_fresh stepped did key).2
  · exact explained.step_unopened stepped
  · exact explained.step_pending stepped
  · exact explained.step_confirming stepped
  · exact explained.step_used stepped
  · exact explained.step_gone stepped
  · exact explained.step_verdict stepped
  · intro tm connector session tx dst member
    obtain old | ⟨rfl, rfl, inserted⟩ := mem_append_noted.mp member
    · obtain awaits | ⟨before, ok, ended⟩ | failed := explained.waits tm connector session tx dst old
      · by_cases own : connector = task
        · subst own
          obtain still | ⟨ok, ended⟩ | failed := stepped.moves.awaits awaits
          · exact .inl still
          · exact .inr (.inl ⟨now, ok, mem_append_noted.mpr (.inr ⟨rfl, rfl, ended⟩)⟩)
          · exact .inr (.inr (mem_deedsOf.mpr ⟨now, mem_append_noted.mpr (.inr ⟨rfl, rfl, failed⟩)⟩))
        · rw [stepped.others connector own]
          exact .inl awaits
      · exact .inr (.inl ⟨before, ok, List.mem_append_left _ ended⟩)
      · rw [deedsOf_append]
        exact .inr (.inr (List.mem_append_left _ failed))
    · have moves := stepped.moves
      rw [inserted] at moves
      exact .inl moves.of_inserted
  · exact explained.step_alive stepped
  · intro tm owner session incoming member
    obtain old | ⟨rfl, rfl, taken⟩ := mem_append_noted.mp member
    · obtain ⟨requested, live⟩ := explained.taken tm owner session incoming old
      exact ⟨requested.mono _, live⟩
    · obtain ⟨found, live, _⟩ := stepped.of_taken taken
      exact ⟨(explained.pending session incoming found).1.mono _, live⟩
  · intro tm owner incoming member
    obtain old | ⟨rfl, rfl, confirmed⟩ := mem_append_noted.mp member
    · obtain ⟨before, session, taken⟩ := explained.confirmed tm owner incoming old
      exact ⟨before, session, List.mem_append_left _ taken⟩
    · have moves := stepped.moves
      rw [confirmed] at moves
      obtain ⟨before, session, taken⟩ := explained.took moves.of_confirmed
      exact ⟨before, session, List.mem_append_left _ taken⟩
  · intro tm owner session rx ok member
    obtain old | ⟨rfl, rfl, ended⟩ := mem_append_noted.mp member
    · obtain ⟨before, dst, inserted⟩ := explained.ended tm owner session rx ok old
      exact ⟨before, dst, List.mem_append_left _ inserted⟩
    · have moves := stepped.moves
      rw [ended] at moves
      obtain ⟨before, dst, inserted⟩ := explained.inserted_of_awaits moves.of_ended.1
      exact ⟨before, dst, List.mem_append_left _ inserted⟩

end Step

end Tasks.Explained

/-- The messages that follow a deed were sent in order until one failed, or the task is about to send the rest of them.
A task starts the countdown only after it told its client the address of the request that it confirmed, or after its
wait ended well. -/
structure Tasks.Follows (tasks : Tasks) (history : List (Instant × Nat × Deed)) : Prop where
  messages : ∀ before now task deed after, history = before ++ (now, task, deed) :: after →
    deed.demand <+: deedsOf task after ++ (tasks.stages task).outstanding ∨
      ∃ sent, sent <+: deed.demand ∧ sent ++ [.failed] <+: deedsOf task after
  countdown : ∀ before now task after, history = before ++ (now, task, .told countdown) :: after →
    (∃ session incoming, [.announced session (some incoming), .confirmed incoming,
        .told (.remoteAddr incoming.addr)] <:+ deedsOf task before) ∨
      ∃ session rx dst, [.inserted session rx dst, .told (.remoteAddr dst), .ended session rx true] <:+
        deedsOf task before

namespace Tasks.Follows

variable {addrs : Nat → SocketAddr} {tasks next : Tasks} {history : List (Instant × Nat × Deed)}
  {now : Instant} {task : Nat} {deed : Option Deed} {op : Option (Instant × RegistryOp)}

/-- An entry after a step is an old one, and more may have followed it, or it is the step's own. -/
theorem noted_split {before after : List (Instant × Nat × Deed)} {tm : Instant} {owner : Nat} {done : Deed}
    (split : history ++ noted now task deed = before ++ (tm, owner, done) :: after) :
    (∃ middle, after = middle ++ noted now task deed ∧ history = before ++ (tm, owner, done) :: middle) ∨
      (after = [] ∧ tm = now ∧ owner = task ∧ deed = some done ∧ history = before) := by
  cases deed with
  | none => exact .inl ⟨after, by simp [noted], by simpa [noted] using split⟩
  | some last =>
      obtain ⟨middle, rfl, old⟩ | ⟨rfl, same, old⟩ := snoc_eq_split_iff.mp split
      · exact .inl ⟨middle, rfl, old⟩
      · cases same
        exact .inr ⟨rfl, rfl, rfl, rfl, old⟩

theorem step (follows : tasks.Follows history) (since : (tasks.stages task).Since (deedsOf task history))
    (stepped : Stepped addrs now task tasks deed op next) : next.Follows (history ++ noted now task deed) := by
  constructor
  · intro before tm owner done after split
    obtain ⟨middle, rfl, old⟩ | ⟨rfl, rfl, rfl, did, old⟩ := noted_split split
    · rw [deedsOf_append, deedsOf_noted]
      obtain demanded | ⟨sent, before, failed⟩ := follows.messages before tm owner done middle old
      · by_cases own : owner = task
        · subst own
          rw [if_pos rfl, List.append_assoc]
          obtain none | ordered | failed := stepped.moves.outstanding
          · rw [none, List.append_nil] at demanded
            exact .inl (demanded.trans (List.prefix_append _ _))
          · rw [← ordered]
            exact .inl demanded
          · -- The messages up to here are the demanded ones, or the first of them.
            rw [failed]
            obtain all | some := List.prefix_or_prefix_of_prefix demanded (List.prefix_append _ _)
            · exact .inl (all.trans (List.prefix_append _ _))
            · exact .inr ⟨_, some, List.prefix_rfl⟩
        · rw [if_neg (Ne.symm own), List.append_nil, stepped.others owner own]
          exact .inl demanded
      · exact .inr ⟨sent, before, failed.trans (List.prefix_append _ _)⟩
    · have moves := stepped.moves
      rw [did] at moves
      obtain same | none := moves.demand
      · rw [same]
        exact .inl List.prefix_rfl
      · rw [none]
        exact .inl List.nil_prefix
  · intro before tm owner after split
    obtain ⟨middle, rfl, old⟩ | ⟨rfl, rfl, rfl, did, old⟩ := noted_split split
    · exact follows.countdown before tm owner middle old
    · have moves := stepped.moves
      rw [did] at moves
      rw [← old]
      exact moves.of_countdown since

end Tasks.Follows

/-- The history of a run explains where the run ends. -/
theorem history_explained {addrs : Nat → SocketAddr} {events : List (Instant × Nat × TaskEvent)} {tasks : Tasks}
    (ran : (tasksMachine addrs).Run .start events tasks) :
    tasks.Explained addrs (history addrs events) ∧ tasks.Follows (history addrs events) := by
  apply ran.invariant_noted fun tasks history => tasks.Explained addrs history ∧ tasks.Follows history
  · refine ⟨.start, ?_, ?_⟩
    · intro before now task deed after empty
      simp at empty
    · intro before now task after empty
      simp at empty
  · intro tasks history event both _
    obtain ⟨explained, follows⟩ := both
    have stepped := tasks.step_stepped addrs event.1 event.2.1 event.2.2
    have ended := explained.step stepped
    exact ⟨⟨ended.since, ended.once, ended.opened, ended.unopened, ended.pending, ended.confirming, ended.used, ended.gone,
      ended.verdict, ended.waits, ended.alive, ended.taken, ended.confirmed, ended.ended⟩,
      ⟨(follows.step (explained.since _) stepped).messages, (follows.step (explained.since _) stepped).countdown⟩⟩

/-- The confirmations of services and the waits of connectors pair up, one to one. -/
structure Paired (addrs : Nat → SocketAddr) (tasks : Tasks) (history : List (Instant × Nat × Deed)) : Prop where
  /-- Each request is inserted once, and returned, confirmed and waited for at most once. -/
  once : Once history
  /-- A returned request was inserted for that session less than 4500 ms before. -/
  returned : ∀ now service session incoming, (now, service, .announced session (some incoming)) ∈ history →
    ∃ tm connector dst, (tm, connector, .inserted session incoming.tx dst) ∈ history ∧
      incoming.addr = addrs connector ∧ now < tm + Duration.fromMillis 4500
  /-- The service that confirms got the request from its announcement. The wait of the connector at its address ended
  well, or is still to end so. -/
  confirmed : ∀ now service incoming, (now, service, .confirmed incoming) ∈ history →
    ∃ before session tm connector dst, (before, service, .announced session (some incoming)) ∈ history ∧
      (tm, connector, .inserted session incoming.tx dst) ∈ history ∧ incoming.addr = addrs connector ∧
      ((∃ ending, (ending, connector, .ended session incoming.tx true) ∈ history) ∨
        (tasks.stages connector).Awaits session incoming.tx ∧ (tasks.channels incoming.tx).sender = .used)
  /-- The wait of a connector for its request ends well exactly when a service confirmed it. -/
  ended : ∀ now connector session rx ok, (now, connector, .ended session rx ok) ∈ history →
    (∃ tm dst, (tm, connector, .inserted session rx dst) ∈ history) ∧
      (ok = true ↔ ∃ tm service incoming, (tm, service, .confirmed incoming) ∈ history ∧ incoming.tx = rx)
  /-- Every confirmation leads to the two messages of its service, and every good end of a wait to the countdown of
  its connector. -/
  messages : ∀ before now task deed after, history = before ++ (now, task, deed) :: after →
    deed.demand <+: deedsOf task after ++ (tasks.stages task).outstanding
  /-- A service starts the countdown only for the request that it confirmed, and a connector only after a good end. -/
  countdown : ∀ before now task after, history = before ++ (now, task, .told countdown) :: after →
    (∃ session incoming, [.announced session (some incoming), .confirmed incoming,
        .told (.remoteAddr incoming.addr)] <:+ deedsOf task before) ∨
      ∃ session rx dst, [.inserted session rx dst, .told (.remoteAddr dst), .ended session rx true] <:+
        deedsOf task before

/-- In every run whose messages arrive, confirmations and waits pair up. -/
theorem confirmations_paired (addrs : Nat → SocketAddr) {events : List (Instant × Nat × TaskEvent)} {tasks : Tasks}
    (ran : (tasksMachine addrs).Run .start events tasks)
    (succeed : ∀ now task, (now, task, .failed) ∉ history addrs events) :
    Paired addrs tasks (history addrs events) := by
  obtain ⟨explained, follows⟩ := history_explained ran
  have used (rx : Nat) : (tasks.channels rx).sender = .used ↔
      ∃ tm service incoming, (tm, service, .confirmed incoming) ∈ history addrs events ∧ incoming.tx = rx := by
    rw [← explained.used]
    constructor
    · intro happened
      obtain ⟨⟨tm, service, deed⟩, member, key⟩ := happened
      obtain ⟨incoming, rfl, same⟩ := Deed.key_confirming key
      exact ⟨tm, service, incoming, member, same⟩
    · intro confirmed
      obtain ⟨tm, service, incoming, member, rfl⟩ := confirmed
      exact ⟨_, member, rfl⟩
  constructor
  · exact explained.once
  · intro now service session incoming returned
    obtain ⟨⟨tm, connector, dst, inserted, deadline, addr⟩, live⟩ := explained.taken now service session incoming returned
    rw [deadline] at live
    exact ⟨tm, connector, dst, inserted, addr, live⟩
  · intro now service incoming confirmed
    obtain ⟨before, session, taken⟩ := explained.confirmed now service incoming confirmed
    obtain ⟨⟨tm, connector, dst, inserted, _, addr⟩, _⟩ := explained.taken before service session incoming taken
    have sender := (used incoming.tx).mpr ⟨now, service, incoming, confirmed, rfl⟩
    refine ⟨before, session, tm, connector, dst, taken, inserted, addr, ?_⟩
    obtain awaits | ⟨ending, ok, ended⟩ | failed := explained.waits tm connector session incoming.tx dst inserted
    · exact .inr ⟨awaits, sender⟩
    · obtain rfl := (explained.verdict ending connector session incoming.tx ok ended).mpr sender
      exact .inl ⟨ending, ended⟩
    · obtain ⟨failing, member⟩ := mem_deedsOf.mp failed
      exact absurd member (succeed failing connector)
  · intro now connector session rx ok ended
    refine ⟨explained.ended now connector session rx ok ended, ?_⟩
    rw [explained.verdict now connector session rx ok ended, used]
  · intro before now task deed after split
    obtain demanded | ⟨sent, _, failed⟩ := follows.messages before now task deed after split
    · exact demanded
    · obtain ⟨failing, member⟩ := mem_deedsOf.mp (failed.subset (List.mem_append_right sent List.mem_cons_self))
      have there : (failing, task, .failed) ∈ history addrs events := by
        rw [split]
        exact List.mem_append_right before (List.mem_cons_of_mem _ member)
      exact absurd there (succeed failing task)
  · exact follows.countdown

/-- A connector asks for session 7 of task 0, which task 2 announces again. Task 2 confirms, and both are told to start. -/
def sampleConfirmation : List (Instant × Nat × TaskEvent) :=
  sampleAnnouncement ++ sampleConnector 1 ++
    [(0, 2, .update), (0, 2, .received (.announceAndCheck ⟨7, "app", "user"⟩)), (0, 2, .confirm), (0, 2, .sent),
      (0, 1, .woken), (0, 2, .sent), (0, 1, .sent)]

theorem sampleConfirmation_run :
    (tasksMachine sampleTaskAddr).Run .start sampleConfirmation (sampleTasks sampleConfirmation) :=
  sampleTasks_run (by decide +kernel)

/-- In the sample the wait of the connector ends well and a service confirmed it. -/
theorem confirmations_paired_sample :
    ∃ tm service incoming, (tm, service, .confirmed incoming) ∈ history sampleTaskAddr sampleConfirmation ∧
      incoming.tx = 0 := by
  have none : ∀ entry ∈ history sampleTaskAddr sampleConfirmation, entry.2.2 ≠ .failed := by decide +kernel
  have paired := confirmations_paired sampleTaskAddr sampleConfirmation_run fun now task failed => none _ failed rfl
  exact ((paired.ended 0 1 7 0 true (by decide +kernel)).2).mp rfl

end RepriseP2p.Tcp
