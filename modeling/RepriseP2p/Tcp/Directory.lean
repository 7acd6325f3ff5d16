/-
This file proves when the answer to `GetClients` depends on the clients of other applications.
-/

import RepriseP2p.Foundation.History
import RepriseP2p.Tcp.Deeds

namespace RepriseP2p.Tcp

/-- The registry of the tasks is the registry after the operations of their run. -/
theorem Tasks.state_eq_after {addrs : Nat → SocketAddr} {events : List (Instant × Nat × TaskEvent)} {tasks : Tasks}
    (ran : (tasksMachine addrs).Run .start events tasks) :
    tasks.state = State.after ((tasksMachine addrs).notes (fun tasks event =>
      tasks.registryOp addrs event.1 event.2.1 event.2.2) .start events) := by
  apply ran.invariant_noted fun tasks ops => tasks.state = State.after ops
  · rfl
  · intro tasks ops event same _
    have stepped := tasks.step_stepped addrs event.1 event.2.1 event.2.2
    change (tasks.step addrs event.1 event.2.1 event.2.2).state = _
    rw [stepped.state, same, State.after, State.after, List.foldl_append]
    cases tasks.registryOp addrs event.1 event.2.1 event.2.2 <;> rfl

/-- The operation announces one of these sessions, or it is no announcement. -/
def RegistryOp.visible (sessions : UInt64 → Bool) : Instant × RegistryOp → Bool
  | (_, .announce data _) => sessions data.session
  | _ => true

/-- The runs differ only in announcements of other applications, under sessions that this application does not use. -/
def AgreeFor (app : String) (first second : List (Instant × RegistryOp)) : Prop :=
  ∃ sessions : UInt64 → Bool,
    (∀ tm data addr, (tm, .announce data addr) ∈ first ++ second → data.app = app → sessions data.session = true) ∧
      first.filter (RegistryOp.visible sessions) = second.filter (RegistryOp.visible sessions)

/-- The operation ends an announcement: it announces the session again, or it is a cleanup more than three seconds
later. -/
def RegistryOp.Ends (tm : Instant) (data : ClientAnnouncementData) : Instant × RegistryOp → Prop
  | (_, .announce other _) => other.session = data.session
  | (now, .update) => Duration.fromMillis announcementDurationMs < now.elapsed tm
  | _ => False

/-- The run makes this announcement, and no later operation ends it. -/
def Lives (ops : List (Instant × RegistryOp)) (tm : Instant) (data : ClientAnnouncementData) (addr : SocketAddr) :
    Prop :=
  ∃ before after, ops = before ++ (tm, .announce data addr) :: after ∧ ∀ op ∈ after, ¬ RegistryOp.Ends tm data op

section Lives

variable {ops : List (Instant × RegistryOp)} {op : Instant × RegistryOp} {tm : Instant} {data : ClientAnnouncementData}
  {addr : SocketAddr}

theorem Lives.announced (lives : Lives ops tm data addr) : (tm, .announce data addr) ∈ ops := by
  obtain ⟨before, after, rfl, _⟩ := lives
  simp

theorem not_lives_nil : ¬ Lives [] tm data addr := by
  rintro ⟨before, after, empty, _⟩
  simp at empty

theorem lives_snoc : Lives (ops ++ [op]) tm data addr ↔
    op = (tm, .announce data addr) ∨ (Lives ops tm data addr ∧ ¬ RegistryOp.Ends tm data op) := by
  constructor
  · rintro ⟨before, after, split, unended⟩
    obtain ⟨between, rfl, old⟩ | ⟨_, same, _⟩ := History.snoc_eq_split_iff.mp split
    · exact .inr ⟨⟨before, between, old, fun later member => unended later (List.mem_append_left _ member)⟩,
        unended op (by simp)⟩
    · exact .inl same.symm
  · rintro (rfl | ⟨⟨before, after, rfl, unended⟩, kept⟩)
    · exact ⟨ops, [], rfl, by simp⟩
    · refine ⟨before, after ++ [op], by simp, ?_⟩
      intro later member
      obtain old | last := List.mem_append.mp member
      · exact unended later old
      · exact List.mem_singleton.mp last ▸ kept

end Lives

namespace State

/-- A session is registered with an announcement exactly when the announcement lives. -/
theorem registered_iff (ops : List (Instant × RegistryOp)) (session : UInt64) (tm : Instant)
    (data : ClientAnnouncementData) (addr : SocketAddr) :
    (∃ client, (after ops).clients[session]? = some client ∧ client.lastAnnouncement = tm ∧ client.data = data ∧
      client.addr = addr) ↔ data.session = session ∧ Lives ops tm data addr := by
  simp only [after_getElem?]
  induction ops using List.reverseRecOn with
  | nil => simp [not_lives_nil]
  | append_singleton ops op ih =>
      rw [List.foldl_append, lives_snoc, List.foldl_cons, List.foldl_nil]
      generalize ops.foldl (RegistryOp.entry session) none = entry at ih
      obtain ⟨now, op⟩ := op
      cases op with
      | announce other origin =>
          simp only [RegistryOp.entry, RegistryOp.Ends, Prod.mk.injEq, RegistryOp.announce.injEq]
          split_ifs with own
          · constructor
            · rintro ⟨client, same, rfl, rfl, rfl⟩
              cases same
              exact ⟨own, .inl ⟨rfl, rfl, rfl⟩⟩
            · rintro ⟨here, ⟨rfl, rfl, rfl⟩ | ⟨_, kept⟩⟩
              · exact ⟨_, rfl, rfl, rfl, rfl⟩
              · exact absurd (own.trans here.symm) kept
          · rw [ih]
            constructor
            · rintro ⟨here, lives⟩
              exact ⟨here, .inr ⟨lives, fun same => own (same.trans here)⟩⟩
            · rintro ⟨here, ⟨_, rfl, _⟩ | ⟨lives, _⟩⟩
              · exact absurd here own
              · exact ⟨here, lives⟩
      | request asked origin tx =>
          simp only [RegistryOp.entry, RegistryOp.Ends, Prod.mk.injEq, reduceCtorEq, and_false, false_or,
            not_false_eq_true, and_true]
          rw [← ih]
          split_ifs <;> simp
      | withdraw removed =>
          simp only [RegistryOp.entry, RegistryOp.Ends, Prod.mk.injEq, reduceCtorEq, and_false, false_or,
            not_false_eq_true, and_true]
          rw [← ih]
          split_ifs <;> simp
      | update =>
          simp only [RegistryOp.entry, RegistryOp.Ends, Prod.mk.injEq, reduceCtorEq, and_false, false_or]
          rw [← and_assoc, ← ih]
          constructor
          · rintro ⟨client, kept, rfl, rfl, rfl⟩
            obtain ⟨found, young⟩ := Option.filter_eq_some_iff.mp kept
            exact ⟨⟨client, found, rfl, rfl, rfl⟩, by simpa [expired] using young⟩
          · rintro ⟨⟨client, found, rfl, rfl, rfl⟩, young⟩
            exact ⟨client, Option.filter_eq_some_iff.mpr ⟨found, by simpa [expired] using young⟩, rfl, rfl, rfl⟩

/-- The answer lists the living announcements. -/
theorem mem_getClients_after (ops : List (Instant × RegistryOp)) (app : String) (now : Instant)
    (client : ClientAnnouncement) : client ∈ (after ops).getClients app now ↔
      ∃ tm, Lives ops tm client.data client.addr ∧ client.tmAgo = now.elapsed tm := by
  simp only [getClients, List.mem_map]
  constructor
  · intro listed
    obtain ⟨⟨session, known⟩, member, rfl⟩ := listed
    have found := Std.ExtTreeMap.mem_toList_iff_getElem?_eq_some.mp member
    exact ⟨known.lastAnnouncement,
      ((registered_iff ops session _ _ _).mp ⟨known, found, rfl, rfl, rfl⟩).2, rfl⟩
  · intro listed
    obtain ⟨tm, lives, ago⟩ := listed
    obtain ⟨known, found, rfl, data, addr⟩ := (registered_iff ops _ tm _ _).mpr ⟨rfl, lives⟩
    refine ⟨(client.data.session, known), Std.ExtTreeMap.mem_toList_iff_getElem?_eq_some.mpr found, ?_⟩
    rw [data, addr, ← ago]

/-- The runs agree on every entry of a session that the application uses. -/
theorem after_agrees {sessions : UInt64 → Bool} {first second : List (Instant × RegistryOp)}
    (same : first.filter (RegistryOp.visible sessions) = second.filter (RegistryOp.visible sessions))
    {session : UInt64} (used : sessions session = true) :
    (after first).clients[session]? = (after second).clients[session]? := by
  -- An operation that is not visible leaves the entry of the session as it is.
  have erased (ops : List (Instant × RegistryOp)) :
      ops.foldl (RegistryOp.entry session) none =
        (ops.filter (RegistryOp.visible sessions)).foldl (RegistryOp.entry session) none := by
    rw [List.foldl_filter]
    congr 1
    funext entry op
    split_ifs with visible
    · rfl
    · obtain ⟨now, op⟩ := op
      cases op with
      | announce data addr =>
          rw [RegistryOp.entry, if_neg]
          rintro rfl
          exact visible used
      | _ => exact absurd rfl visible
  rw [after_getElem?, after_getElem?, erased first, erased second, same]

end State

theorem AgreeFor.symm {app : String} {first second : List (Instant × RegistryOp)} (agree : AgreeFor app first second) :
    AgreeFor app second first := by
  obtain ⟨sessions, own, same⟩ := agree
  refine ⟨sessions, ?_, same.symm⟩
  intro tm data addr announced
  exact own tm data addr (List.mem_append.mpr (List.mem_append.mp announced).symm)

/-- The announcements of the application live in both runs or in none. -/
theorem AgreeFor.lives {app : String} {first second : List (Instant × RegistryOp)} (agree : AgreeFor app first second)
    {tm : Instant} {data : ClientAnnouncementData} {addr : SocketAddr} (own : data.app = app)
    (lives : Lives first tm data addr) : Lives second tm data addr := by
  obtain ⟨sessions, used, same⟩ := agree
  obtain ⟨client, found, registered⟩ := (State.registered_iff first _ tm data addr).mpr ⟨rfl, lives⟩
  have visible := used tm data addr (List.mem_append_left _ lives.announced) own
  rw [State.after_agrees same visible] at found
  exact ((State.registered_iff second _ tm data addr).mp ⟨client, found, registered⟩).2

/-- Both answers list the same clients, and all of them are of the application. -/
def Separated (app : String) (first second : List ClientAnnouncement) : Prop :=
  (∀ client, client ∈ first ↔ client ∈ second) ∧ (∀ client ∈ first, client.data.app = app) ∧
    ∀ client ∈ second, client.data.app = app

/-- Two runs that agree for an application get the same answer, with clients of that application only, exactly when no
announcement of another application lives in either run. -/
theorem applications_separated_iff (app : String) {first second : List (Instant × RegistryOp)}
    (agree : AgreeFor app first second) (now : Instant) :
    Separated app ((State.after first).getClients app now) ((State.after second).getClients app now) ↔
      ∀ tm data addr, Lives first tm data addr ∨ Lives second tm data addr → data.app = app := by
  constructor
  · rintro ⟨_, firstOwn, secondOwn⟩ tm data addr (lives | lives)
    · exact firstOwn ⟨data, addr, now.elapsed tm⟩ ((State.mem_getClients_after first app now _).mpr ⟨tm, lives, rfl⟩)
    · exact secondOwn ⟨data, addr, now.elapsed tm⟩ ((State.mem_getClients_after second app now _).mpr ⟨tm, lives, rfl⟩)
  · intro own
    refine ⟨?_, ?_, ?_⟩
    · intro client
      rw [State.mem_getClients_after, State.mem_getClients_after]
      constructor
      · intro listed
        obtain ⟨tm, lives, ago⟩ := listed
        exact ⟨tm, agree.lives (own tm _ _ (.inl lives)) lives, ago⟩
      · intro listed
        obtain ⟨tm, lives, ago⟩ := listed
        exact ⟨tm, agree.symm.lives (own tm _ _ (.inr lives)) lives, ago⟩
    · intro client listed
      obtain ⟨tm, lives, _⟩ := (State.mem_getClients_after first app now client).mp listed
      exact own tm _ _ (.inl lives)
    · intro client listed
      obtain ⟨tm, lives, _⟩ := (State.mem_getClients_after second app now client).mp listed
      exact own tm _ _ (.inr lives)

def sampleOtherRun : List (Instant × RegistryOp) := [(0, .announce ⟨8, "other", "user"⟩ (sampleTaskAddr 0))]

/-- A cleanup after four seconds, and a client of this application. -/
def sampleOwnRun : List (Instant × RegistryOp) :=
  [(Duration.fromSecs 4, .update), (Duration.fromSecs 4, .announce ⟨7, "app", "user"⟩ (sampleTaskAddr 0))]

/-- The other application's announcement is expired when the clients are listed. -/
theorem applications_separated_sample : Separated "app"
    ((State.after sampleOwnRun).getClients "app" (Duration.fromSecs 5))
    ((State.after (sampleOtherRun ++ sampleOwnRun)).getClients "app" (Duration.fromSecs 5)) := by
  have announced {tm : Instant} {data : ClientAnnouncementData} {addr : SocketAddr}
      (member : (tm, .announce data addr) ∈ sampleOtherRun ++ sampleOwnRun) :
      data = ⟨8, "other", "user"⟩ ∨ data = ⟨7, "app", "user"⟩ := by
    simp only [sampleOtherRun, sampleOwnRun, List.cons_append, List.nil_append, List.mem_cons, Prod.mk.injEq,
      RegistryOp.announce.injEq, reduceCtorEq, and_false, List.not_mem_nil, or_false, false_or] at member
    exact member.imp (fun first => first.2.1) (fun second => second.2.1)
  have agree : AgreeFor "app" sampleOwnRun (sampleOtherRun ++ sampleOwnRun) := by
    refine ⟨fun session => session = 7, ?_, by decide +kernel⟩
    intro tm data addr member own
    obtain rfl | rfl := announced ((List.mem_append.mp member).elim (List.mem_append_right _) id)
    · revert own
      decide
    · rfl
  have removed : (State.after sampleOwnRun).clients[(8 : UInt64)]? = none ∧
      (State.after (sampleOtherRun ++ sampleOwnRun)).clients[(8 : UInt64)]? = none := by
    decide +kernel
  have gone {ops : List (Instant × RegistryOp)} {tm : Instant} {data : ClientAnnouncementData} {addr : SocketAddr}
      (absent : (State.after ops).clients[(8 : UInt64)]? = none) (lives : Lives ops tm data addr) :
      data ≠ ⟨8, "other", "user"⟩ := by
    rintro rfl
    obtain ⟨client, found, _⟩ := (State.registered_iff ops 8 tm _ addr).mpr ⟨rfl, lives⟩
    rw [absent] at found
    cases found
  apply (applications_separated_iff "app" agree (Duration.fromSecs 5)).mpr
  rintro tm data addr (lives | lives)
  · obtain other | rfl := announced (List.mem_append_right _ lives.announced)
    · exact absurd other (gone removed.1 lives)
    · rfl
  · obtain other | rfl := announced lives.announced
    · exact absurd other (gone removed.2 lives)
    · rfl

/-- A client of another application is listed, although only one of the runs announces it. -/
theorem applications_separated_fails : ¬ ∀ app first second now, AgreeFor app first second →
    Separated app ((State.after first).getClients app now) ((State.after second).getClients app now) := by
  intro claim
  have agree : AgreeFor "app" [] sampleOtherRun := by
    refine ⟨fun session => session = 7, ?_, by decide +kernel⟩
    intro tm data addr announced own
    simp only [sampleOtherRun, List.nil_append, List.mem_singleton, Prod.mk.injEq, RegistryOp.announce.injEq] at announced
    obtain ⟨_, rfl, _⟩ := announced
    revert own
    decide
  have separated := claim "app" [] sampleOtherRun 0 agree
  have listed : ⟨⟨8, "other", "user"⟩, sampleTaskAddr 0, 0⟩ ∈ (State.after sampleOtherRun).getClients "app" 0 := by
    decide +kernel
  have own := separated.2.2 _ listed
  revert own
  decide

end RepriseP2p.Tcp
