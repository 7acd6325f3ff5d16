/-
This file models the shutdown signal, and the server whose two loops wait for it. It proves when the loops end.
-/

import RepriseP2p.Foundation.Machine

namespace RepriseP2p

structure ServerConfig where
  tcpHandlerPort : Option UInt16
  udpHandlerPort : Option UInt16
  deriving DecidableEq

namespace ServerConfig

def udpOnly : ServerConfig := ⟨none, some 47002⟩
def tcpOnly : ServerConfig := ⟨some 47002, none⟩
def default : ServerConfig := ⟨some 47002, some 47002⟩

end ServerConfig

/-- The tasks of `run_server`. -/
inductive Handler where
  | tcp
  | udp
  deriving DecidableEq

/-- Where the task of a server loop is. A task that is `deaf` waits only for the shutdown. -/
inductive LoopStage where
  | absent
  | binding
  | serving
  | deaf
  | ended
  | panicked
  deriving DecidableEq

/-- A task drops its listener when it ends. -/
def LoopStage.running : LoopStage → Bool
  | .binding | .serving | .deaf => true
  | .absent | .ended | .panicked => false

def LoopStage.spawned (port : Option UInt16) : LoopStage := if port.isSome then .binding else .absent

/-- A call of `run_server`, with its tasks, the clients that the TCP loop accepted and the datagrams that the UDP loop
received. -/
structure Server where
  listener : Bool
  stage : Handler → LoopStage
  accepted : Nat
  received : Nat
  returned : Bool

/-- What happens to the server: a socket is bound or not, a client is accepted or not, a datagram is received or not,
`wait` wakes a loop, and all tasks are joined. -/
inductive ServerEvent where
  | bound (handler : Handler) (ok : Bool)
  | accepted (ok : Bool)
  | received (ok : Bool)
  | woken (handler : Handler)
  | joined
  deriving DecidableEq

namespace Server

/-- The UDP task takes the listener. Without it `run_server` keeps the listener. -/
def run (cfg : ServerConfig) : Server where
  listener := cfg.udpHandlerPort.isNone
  stage
    | .tcp => .spawned cfg.tcpHandlerPort
    | .udp => .spawned cfg.udpHandlerPort
  accepted := 0
  received := 0
  returned := false

def moveTo (server : Server) (handler : Handler) (stage : LoopStage) : Server :=
  { server with stage := Function.update server.stage handler stage }

def receivers (server : Server) : Nat :=
  server.listener.toNat + (server.stage .tcp).running.toNat + (server.stage .udp).running.toNat

/-- One step of the server, where `ready` says whether `wait` returns. An event that does not fit has no effect. -/
def step (ready : Bool) (server : Server) : ServerEvent → Server
  | .bound handler ok =>
      if server.stage handler = .binding then server.moveTo handler (if ok then .serving else .panicked) else server
  | .accepted ok =>
      if server.stage .tcp = .serving then
        -- The pattern `Ok(..)` of the branch does not match an error, which disables the branch.
        if ok then { server with accepted := server.accepted + 1 } else server.moveTo .tcp .deaf
      else server
  | .received ok =>
      if server.stage .udp = .serving && ok then { server with received := server.received + 1 } else server
  | .woken handler =>
      if ready && (server.stage handler = .serving || server.stage handler = .deaf) then server.moveTo handler .ended
      else server
  | .joined =>
      if (server.stage .tcp).running || (server.stage .udp).running then server
      else { server with listener := false, returned := true }

end Server

/-- The shared flag and the watch channel, with the handles on them. The signals in `storing` are in `trigger`, between
its two statements. -/
structure Shutdown where
  flag : Bool
  value : Bool
  signals : Nat
  storing : Nat
  listeners : Nat
  panics : Nat
  server : Option Server

inductive ShutdownEvent where
  | cloneSignal
  | dropSignal
  | cloneListener
  | dropListener
  | store
  | send
  | runServer (cfg : ServerConfig)
  | server (event : ServerEvent)
  deriving DecidableEq

namespace Shutdown

def registerManual : Shutdown := ⟨false, false, 1, 0, 1, 0, none⟩

variable (shutdown : Shutdown)

def senders : Nat := shutdown.signals + shutdown.storing

def receivers : Nat := shutdown.listeners + shutdown.server.elim 0 Server.receivers

def isShutdown : Bool := shutdown.flag

/-- `wait` returns when the value is true, or when all senders are dropped. -/
def ready : Bool := shutdown.value || shutdown.senders = 0

/-- The second statement of `trigger`. It panics when nobody listens. -/
def send : Shutdown :=
  let sent := { shutdown with signals := shutdown.signals + 1, storing := shutdown.storing - 1 }
  if shutdown.receivers = 0 then { sent with panics := shutdown.panics + 1 } else { sent with value := true }

/-- One step of the program. An event that does not fit has no effect. -/
def step : ShutdownEvent → Shutdown
  | .cloneSignal => if shutdown.senders = 0 then shutdown else { shutdown with signals := shutdown.signals + 1 }
  | .dropSignal => { shutdown with signals := shutdown.signals - 1 }
  | .cloneListener =>
      if shutdown.listeners = 0 then shutdown else { shutdown with listeners := shutdown.listeners + 1 }
  | .dropListener => { shutdown with listeners := shutdown.listeners - 1 }
  | .store =>
      if shutdown.signals = 0 then shutdown
      else { shutdown with flag := true, signals := shutdown.signals - 1, storing := shutdown.storing + 1 }
  | .send => if shutdown.storing = 0 then shutdown else shutdown.send
  | .runServer cfg =>
      if shutdown.listeners = 0 || shutdown.server.isSome then shutdown
      else { shutdown with listeners := shutdown.listeners - 1, server := some (.run cfg) }
  | .server event => { shutdown with server := shutdown.server.map fun server => server.step shutdown.ready event }

end Shutdown

/-- The signals, the listeners and the server take their steps in any order. -/
def shutdownMachine : Machine Shutdown ShutdownEvent where
  initial shutdown := shutdown = .registerManual
  allowed _ _ := True
  next := Shutdown.step

/-- How the task of a loop goes on. -/
def LoopStage.Goes (ready : Bool) (stage next : LoopStage) : Prop :=
  match stage, next with
  | .binding, .serving | .binding, .panicked | .serving, .deaf => True
  | .serving, .ended | .deaf, .ended => ready = true
  | _, _ => False

theorem LoopStage.Goes.running {ready : Bool} {stage next : LoopStage} (goes : stage.Goes ready next) :
    stage.running = true := by
  cases stage with
  | binding | serving | deaf => rfl
  | absent | ended | panicked => exact goes.elim

namespace Server

variable {server : Server} {ready : Bool} {event : ServerEvent} {handler : Handler}

@[simp] theorem moveTo_stage (target : Handler) (stage : LoopStage) :
    (server.moveTo target stage).stage handler = if handler = target then stage else server.stage handler := by
  simp [moveTo, Function.update_apply]

/-- A step moves a task on, counts a client or a datagram, or ends the call. -/
inductive StepCase (ready : Bool) (server : Server) : Server → Prop where
  | ignored : StepCase ready server server
  | moved (handler : Handler) (stage : LoopStage) (goes : (server.stage handler).Goes ready stage) :
      StepCase ready server (server.moveTo handler stage)
  | accepted (serving : server.stage .tcp = .serving) :
      StepCase ready server { server with accepted := server.accepted + 1 }
  | received : StepCase ready server { server with received := server.received + 1 }
  | joined (done : ∀ handler, (server.stage handler).running = false) :
      StepCase ready server { server with listener := false, returned := true }

theorem step_case (ready : Bool) (server : Server) (event : ServerEvent) :
    StepCase ready server (server.step ready event) := by
  cases event with
  | bound handler ok =>
      simp only [step]
      split_ifs with binding
      · exact .moved handler .serving (by simp [binding, LoopStage.Goes])
      · exact .moved handler .panicked (by simp [binding, LoopStage.Goes])
      · exact .ignored
  | accepted ok =>
      simp only [step]
      split_ifs with serving
      · exact .accepted serving
      · exact .moved .tcp .deaf (by simp [serving, LoopStage.Goes])
      · exact .ignored
  | received ok =>
      simp only [step]
      split_ifs
      · exact .received
      · exact .ignored
  | woken handler =>
      simp only [step]
      split_ifs with woken
      · simp only [Bool.and_eq_true, Bool.or_eq_true, decide_eq_true_eq] at woken
        obtain ⟨ready, serving | deaf⟩ := woken
        · exact .moved handler .ended (by simp [serving, ready, LoopStage.Goes])
        · exact .moved handler .ended (by simp [deaf, ready, LoopStage.Goes])
      · exact .ignored
  | joined =>
      simp only [step]
      split_ifs with running
      · exact .ignored
      · simp only [Bool.or_eq_true, not_or, Bool.not_eq_true] at running
        refine .joined ?_
        rintro (_ | _)
        · exact running.1
        · exact running.2

/-- The server opens no listener. -/
theorem receivers_step_le : (server.step ready event).receivers ≤ server.receivers := by
  have taken := step_case ready server event
  generalize server.step ready event = next at taken
  cases taken with
  | ignored | accepted _ | received => exact le_rfl
  | moved handler stage goes =>
      have bound := Bool.toNat_le stage.running
      have running := goes.running
      have same : (server.moveTo handler stage).listener = server.listener := rfl
      cases handler <;> simp [receivers, same, running] <;> omega
  | joined done => simp [receivers]

/-- A loop ends only when `wait` returns. -/
theorem ended_step (ended : (server.step ready event).stage handler = .ended) :
    server.stage handler = .ended ∨ ready = true := by
  have taken := step_case ready server event
  generalize server.step ready event = next at taken ended
  cases taken with
  | ignored | accepted _ | received | joined _ => exact .inl ended
  | moved target stage goes =>
      rw [moveTo_stage] at ended
      split_ifs at ended with same
      · subst ended
        cases before : server.stage target <;> rw [before] at goes <;> first | exact goes.elim | exact .inr goes
      · exact .inl ended

end Server

namespace Shutdown

/-- What the flag, the channel and the loops say about each other. -/
structure Sound (shutdown : Shutdown) : Prop where
  flagged : shutdown.value = true ∨ shutdown.storing ≠ 0 → shutdown.flag = true
  delivered : shutdown.flag = true → shutdown.storing = 0 → shutdown.receivers ≠ 0 → shutdown.value = true
  ended : ∀ server handler, shutdown.server = some server → server.stage handler = .ended → shutdown.ready = true
  unheard : shutdown.panics ≠ 0 → shutdown.receivers = 0

variable {shutdown : Shutdown} {event : ShutdownEvent}

/-- A step changes the numbers of signals and listeners, or it is one statement of `trigger`, or it starts the server or
leads it on. -/
inductive StepCase (shutdown : Shutdown) : Shutdown → Prop where
  | ignored : StepCase shutdown shutdown
  | counted (signals listeners : Nat) (unsent : shutdown.senders = 0 → signals = 0)
      (unheard : shutdown.listeners = 0 → listeners = 0) : StepCase shutdown { shutdown with signals, listeners }
  | stored (held : shutdown.signals ≠ 0) :
      StepCase shutdown { shutdown with
        flag := true
        signals := shutdown.signals - 1
        storing := shutdown.storing + 1 }
  | sent (stored : shutdown.storing ≠ 0) : StepCase shutdown shutdown.send
  | started (cfg : ServerConfig) (heard : shutdown.listeners ≠ 0) (absent : shutdown.server = none) :
      StepCase shutdown { shutdown with
        listeners := shutdown.listeners - 1
        server := some (.run cfg) }
  | served (old : Server) (taken : ServerEvent) (running : shutdown.server = some old) :
      StepCase shutdown { shutdown with server := some (old.step shutdown.ready taken) }

theorem step_case (shutdown : Shutdown) (event : ShutdownEvent) : shutdown.StepCase (shutdown.step event) := by
  cases event with
  | cloneSignal =>
      simp only [step]
      split_ifs with unsent
      · exact .ignored
      · exact .counted _ _ (fun silent => absurd silent unsent) id
  | dropSignal => exact .counted _ _ (fun unsent => by simp only [senders] at unsent; omega) id
  | cloneListener =>
      simp only [step]
      split_ifs with unheard
      · exact .ignored
      · exact .counted _ _ (fun unsent => by simp only [senders] at unsent; omega) fun unowned => absurd unowned unheard
  | dropListener =>
      exact .counted _ _ (fun unsent => by simp only [senders] at unsent; omega) fun unowned => by simp [unowned]
  | store =>
      simp only [step]
      split_ifs with unsent
      · exact .ignored
      · exact .stored unsent
  | send =>
      simp only [step]
      split_ifs with idle
      · exact .ignored
      · exact .sent idle
  | runServer cfg =>
      simp only [step]
      split_ifs with refused
      · exact .ignored
      · simp only [Bool.or_eq_true, decide_eq_true_eq, not_or, Option.not_isSome_iff_eq_none] at refused
        exact .started cfg refused.1 refused.2
  | server taken =>
      cases running : shutdown.server with
      | none =>
          obtain ⟨⟩ := shutdown
          cases running
          exact .ignored
      | some old => simpa [step, running] using StepCase.served old taken running

/-- A send that fails leaves the value. -/
theorem send_spec : shutdown.send.flag = shutdown.flag ∧ shutdown.send.server = shutdown.server ∧
    shutdown.send.listeners = shutdown.listeners ∧
    shutdown.send.value = (shutdown.value || shutdown.receivers ≠ 0) := by
  unfold send
  split_ifs with unheard <;> simp [unheard]

/-- Without listeners there are no new ones. -/
theorem receivers_step (unheard : shutdown.receivers = 0) : (shutdown.step event).receivers = 0 := by
  have happened := shutdown.step_case event
  generalize shutdown.step event = after at happened
  simp only [receivers, Nat.add_eq_zero_iff] at unheard ⊢
  cases happened with
  | ignored | stored => exact unheard
  | counted signals listeners _ unowned => exact ⟨unowned unheard.1, unheard.2⟩
  | sent => rwa [send_spec.2.1, send_spec.2.2.1]
  | started cfg heard => exact absurd unheard.1 heard
  | served old taken running =>
      have fewer := @Server.receivers_step_le old shutdown.ready taken
      rw [running] at unheard
      exact ⟨unheard.1, Nat.le_zero.mp (fewer.trans_eq unheard.2)⟩

theorem ready_iff : shutdown.ready = true ↔ shutdown.value = true ∨ shutdown.senders = 0 := by
  simp [ready]

theorem value_step (value : shutdown.value = true) : (shutdown.step event).value = true := by
  have happened := shutdown.step_case event
  generalize shutdown.step event = after at happened
  cases happened with
  | sent => simp [send_spec.2.2.2, value]
  | _ => exact value

/-- Without signals there are no new ones. -/
theorem senders_step (unsent : shutdown.senders = 0) : (shutdown.step event).senders = 0 := by
  have happened := shutdown.step_case event
  generalize shutdown.step event = after at happened
  have both : shutdown.signals = 0 ∧ shutdown.storing = 0 := Nat.add_eq_zero_iff.mp unsent
  cases happened with
  | counted signals listeners silent => exact Nat.add_eq_zero_iff.mpr ⟨silent unsent, both.2⟩
  | stored held => exact absurd both.1 held
  | sent stored => exact absurd both.2 stored
  | _ => exact unsent

/-- A listener that would return from `wait` does so later, too. -/
theorem ready_step (ready : shutdown.ready = true) : (shutdown.step event).ready = true := by
  rw [ready_iff] at ready ⊢
  exact ready.imp value_step senders_step

theorem flag_step (flag : shutdown.flag = true) : (shutdown.step event).flag = true := by
  have happened := shutdown.step_case event
  generalize shutdown.step event = after at happened
  cases happened with
  | stored => rfl
  | sent => rwa [send_spec.1]
  | _ => exact flag

/-- A server that a step leaves is a new one, or the old one took the step. -/
theorem server_step {server : Server} (found : (shutdown.step event).server = some server) :
    (shutdown.server = none ∧ ∃ cfg, server = .run cfg) ∨ shutdown.server = some server ∨
      ∃ old taken, shutdown.server = some old ∧ server = old.step shutdown.ready taken := by
  have happened := shutdown.step_case event
  generalize shutdown.step event = after at happened found
  cases happened with
  | ignored | counted | stored => exact .inr (.inl found)
  | sent => exact .inr (.inl (send_spec.2.1 ▸ found))
  | started cfg _ absent => exact .inl ⟨absent, cfg, (Option.some.inj found).symm⟩
  | served old taken running => exact .inr (.inr ⟨old, taken, running, (Option.some.inj found).symm⟩)

theorem sound_registerManual : registerManual.Sound where
  flagged := by simp [registerManual]
  delivered := by simp [registerManual]
  ended := by simp [registerManual]
  unheard := by simp [registerManual]

theorem Sound.step_ended (sound : shutdown.Sound) {server : Server} {handler : Handler}
    (found : (shutdown.step event).server = some server) (ended : server.stage handler = .ended) :
    (shutdown.step event).ready = true := by
  apply ready_step
  obtain ⟨_, cfg, rfl⟩ | before | ⟨old, taken, before, rfl⟩ := server_step found
  · cases handler <;> simp only [Server.run, LoopStage.spawned] at ended <;> split_ifs at ended
  · exact sound.ended server handler before ended
  · obtain already | ready := Server.ended_step ended
    · exact sound.ended old handler before already
    · exact ready

/-- Only `trigger` starts a send or makes the value true. -/
theorem Sound.step_flagged (sound : shutdown.Sound)
    (sent : (shutdown.step event).value = true ∨ (shutdown.step event).storing ≠ 0) :
    (shutdown.step event).flag = true := by
  have happened := shutdown.step_case event
  generalize shutdown.step event = after at happened sent
  cases happened with
  | stored => rfl
  | sent stored =>
      rw [send_spec.1]
      exact sound.flagged (.inr stored)
  | _ => exact sound.flagged sent

/-- A flag that is set is delivered by the send after it, unless nobody listens. -/
theorem Sound.step_delivered (sound : shutdown.Sound) (flag : (shutdown.step event).flag = true)
    (done : (shutdown.step event).storing = 0) (heard : (shutdown.step event).receivers ≠ 0) :
    (shutdown.step event).value = true := by
  have heardBefore : shutdown.receivers ≠ 0 := fun unheard => heard (receivers_step unheard)
  have happened := shutdown.step_case event
  generalize shutdown.step event = after at happened flag done
  cases happened with
  | stored => cases done
  | sent => simp [send_spec.2.2.2, heardBefore]
  | _ => exact sound.delivered flag done heardBefore

/-- A trigger panics only when nobody listens. -/
theorem Sound.step_unheard (sound : shutdown.Sound) (panicked : (shutdown.step event).panics ≠ 0) :
    (shutdown.step event).receivers = 0 := by
  apply receivers_step
  have happened := shutdown.step_case event
  generalize shutdown.step event = after at happened panicked
  cases happened with
  | sent =>
      simp only [send] at panicked
      split_ifs at panicked with unheard
      · exact unheard
      · exact sound.unheard panicked
  | _ => exact sound.unheard panicked

theorem Sound.step (sound : shutdown.Sound) : (shutdown.step event).Sound where
  flagged := sound.step_flagged
  delivered := sound.step_delivered
  ended _ _ := sound.step_ended
  unheard := sound.step_unheard

theorem sound_of_reachable (reachable : shutdownMachine.Reachable shutdown) : shutdown.Sound := by
  apply reachable.invariant Sound
  · rintro start rfl
    exact sound_registerManual
  · intro shutdown event _ sound _
    exact sound.step

/-- The call of `run_server` stays until it returns, also afterwards. -/
theorem isSome_step (running : shutdown.server.isSome = true) : (shutdown.step event).server.isSome = true := by
  have happened := shutdown.step_case event
  generalize shutdown.step event = after at happened
  cases happened with
  | ignored | counted | stored => exact running
  | sent => rwa [send_spec.2.1]
  | started | served => rfl

/-- The task of the loop has ended, or there is none. -/
def Stopped (shutdown : Shutdown) (handler : Handler) : Prop :=
  ∃ server, shutdown.server = some server ∧ (server.stage handler).running = false

/-- The loop is past its bind, and `wait` gets its turn. -/
def Woken (handler : Handler) (shutdown : Shutdown) (event : ShutdownEvent) : Prop :=
  event = .server (.woken handler) ∧ ∃ server, shutdown.server = some server ∧ server.stage handler ≠ .binding

/-- A task that has ended does not start again. -/
theorem Stopped.step {handler : Handler} (stopped : shutdown.Stopped handler) :
    (shutdown.step event).Stopped handler := by
  obtain ⟨server, running, quiet⟩ := stopped
  have ⟨next, found⟩ := Option.isSome_iff_exists.mp
    (@isSome_step shutdown event (Option.isSome_iff_exists.mpr ⟨server, running⟩))
  refine ⟨next, found, ?_⟩
  obtain ⟨absent, _⟩ | same | ⟨old, taken, before, rfl⟩ := server_step found
  · cases running.symm.trans absent
  · cases running.symm.trans same
    exact quiet
  · cases running.symm.trans before
    have happened := Server.step_case shutdown.ready server taken
    generalize server.step shutdown.ready taken = after at happened
    cases happened with
    | ignored | accepted _ | received | joined _ => exact quiet
    | moved target stage goes =>
        rw [Server.moveTo_stage]
        split_ifs with same
        · subst same
          cases goes.running.symm.trans quiet
        · exact quiet

/-- A loop that is woken after the shutdown ends. -/
theorem Woken.stopped {handler : Handler} (woken : Woken handler shutdown event) (ready : shutdown.ready = true) :
    (shutdown.step event).Stopped handler := by
  obtain ⟨rfl, server, running, bound⟩ := woken
  refine ⟨server.step shutdown.ready (.woken handler), by simp [step, running], ?_⟩
  simp only [Server.step, ready, Bool.true_and]
  split_ifs with serving
  · simp [LoopStage.running]
  · cases stage : server.stage handler <;> simp [stage] at serving bound <;> rfl

/-- The TCP loop accepted this many clients, and it waits for the shutdown or has ended with it. -/
def Deaf (shutdown : Shutdown) (accepted : Nat) : Prop :=
  ∃ server, shutdown.server = some server ∧ server.accepted = accepted ∧
    (server.stage .tcp = .deaf ∨ server.stage .tcp = .ended ∧ shutdown.ready = true)

theorem deaf_of_failed {server : Server} (running : shutdown.server = some server)
    (serving : server.stage .tcp = .serving) : (shutdown.step (.server (.accepted false))).Deaf server.accepted := by
  refine ⟨server.moveTo .tcp .deaf, ?_, rfl, .inl (by simp)⟩
  simp [step, running, Server.step, serving]

/-- A deaf loop accepts nobody. -/
theorem Deaf.step {accepted : Nat} (deaf : shutdown.Deaf accepted) : (shutdown.step event).Deaf accepted := by
  obtain ⟨server, running, count, waits⟩ := deaf
  have ⟨next, found⟩ := Option.isSome_iff_exists.mp
    (@isSome_step shutdown event (Option.isSome_iff_exists.mpr ⟨server, running⟩))
  have waitsLater : server.stage .tcp = .deaf ∨
      server.stage .tcp = .ended ∧ (shutdown.step event).ready = true := by
    exact waits.imp_right fun ended => ⟨ended.1, ready_step ended.2⟩
  refine ⟨next, found, ?_⟩
  obtain ⟨absent, _⟩ | same | ⟨old, taken, before, rfl⟩ := server_step found
  · cases running.symm.trans absent
  · cases running.symm.trans same
    exact ⟨count, waitsLater⟩
  · cases running.symm.trans before
    have happened := Server.step_case shutdown.ready server taken
    generalize server.step shutdown.ready taken = after at happened
    cases happened with
    | ignored | received | joined _ => exact ⟨count, waitsLater⟩
    | accepted serving => simp [serving] at waits
    | moved target stage goes =>
        refine ⟨count, ?_⟩
        rw [Server.moveTo_stage]
        split_ifs with same
        · subst same
          obtain deaf | ⟨ended, _⟩ := waits
          · rw [deaf] at goes
            cases stage with
            | ended => exact .inr ⟨rfl, ready_step goes⟩
            | _ => exact goes.elim
          · rw [ended] at goes
            exact goes.elim
        · exact waitsLater

end Shutdown

/-- What happens in a program whose server runs both loops. -/
def sampleServing : List ShutdownEvent :=
  [.cloneListener, .runServer .default, .server (.bound .tcp true), .server (.bound .udp true),
    .server (.accepted true)]

def sampleShutdown (events : List ShutdownEvent) : Shutdown := events.foldl Shutdown.step .registerManual

theorem sampleShutdown_reachable (events : List ShutdownEvent) :
    shutdownMachine.Reachable (sampleShutdown events) :=
  ⟨.registerManual, events, rfl, Machine.run_of_free (fun _ _ => trivial) _ _⟩

/-- A loop ends only when `wait` returns, and `wait` returns only after a trigger or without signals. A trigger that is
over reaches every listener, and it panics only without listeners. Nothing takes a shutdown back. -/
theorem shutdown_agrees {shutdown : Shutdown} (reachable : shutdownMachine.Reachable shutdown) :
    (∀ server handler, shutdown.server = some server → server.stage handler = .ended → shutdown.ready = true) ∧
    (shutdown.ready = true → shutdown.isShutdown = true ∨ shutdown.senders = 0) ∧
    (shutdown.isShutdown = true → shutdown.storing = 0 → shutdown.receivers ≠ 0 → shutdown.ready = true) ∧
    (shutdown.panics ≠ 0 → shutdown.receivers = 0) ∧
    ∀ events later, shutdownMachine.Run shutdown events later →
      (shutdown.ready = true → later.ready = true) ∧ (shutdown.isShutdown = true → later.isShutdown = true) := by
  have sound := Shutdown.sound_of_reachable reachable
  refine ⟨sound.ended, ?_, ?_, sound.unheard, ?_⟩
  · intro ready
    rw [Shutdown.ready_iff] at ready
    exact ready.imp_left fun value => sound.flagged (.inl value)
  · intro flag done heard
    exact Shutdown.ready_iff.mpr (.inl (sound.delivered flag done heard))
  · intro events later ran
    refine ⟨fun ready => ?_, fun flag => ?_⟩
    · exact ran.invariant (fun state => state.ready = true) ready fun _ _ holds _ => Shutdown.ready_step holds
    · exact ran.invariant (fun state => state.flag = true) flag fun _ _ holds _ => Shutdown.flag_step holds

/-- The trigger is over, and the TCP loop has ended. -/
theorem shutdown_agrees_sample :
    (sampleShutdown (sampleServing ++ [.store, .send, .server (.woken .tcp), .dropSignal])).ready = true :=
  (shutdown_agrees (sampleShutdown_reachable _)).1 _ .tcp rfl rfl

/-- After a shutdown, `run_server` returns when its tasks are joined, once each loop that was still running was woken
after its bind. -/
theorem shutdown_stops {shutdown later : Shutdown} (ready : shutdown.ready = true) {events : List ShutdownEvent}
    (ran : shutdownMachine.Run shutdown events later)
    (woken : ∀ handler, shutdown.Stopped handler ∨
      ¬ shutdownMachine.Avoids shutdown events (Shutdown.Woken handler)) :
    ∃ server, (later.step (.server .joined)).server = some server ∧ server.returned = true ∧ server.receivers = 0 := by
  have stopped (handler : Handler) : later.Stopped handler := by
    obtain already | woken := woken handler
    · exact ran.invariant (fun state => state.Stopped handler) already fun _ _ stopped _ => stopped.step
    apply ran.invariant_after woken fun _ state => state.Stopped handler
    · intro earlier state event before _ woken
      apply woken.stopped
      exact before.invariant (fun state => state.ready = true) ready fun _ _ holds _ => Shutdown.ready_step holds
    · intro earlier state event _ _ stopped
      exact stopped.step
  obtain ⟨server, running, tcp⟩ := stopped .tcp
  obtain ⟨same, again, udp⟩ := stopped .udp
  cases running.symm.trans again
  refine ⟨server.step later.ready .joined, by simp [Shutdown.step, running], ?_, ?_⟩
  · simp [Server.step, tcp, udp]
  · simp [Server.step, Server.receivers, tcp, udp]

/-- A server with only the UDP loop receives one more datagram after the trigger, and then the loop gets its turn. -/
theorem shutdown_stops_sample :
    let shutdown := sampleShutdown [.runServer .udpOnly, .server (.bound .udp true), .store, .send]
    let events : List ShutdownEvent := [.server (.received true), .server (.woken .udp)]
    ∃ server, ((events.foldl Shutdown.step shutdown).step (.server .joined)).server = some server ∧
      server.returned = true ∧ server.receivers = 0 := by
  intro shutdown events
  have ran (taken : List ShutdownEvent) : shutdownMachine.Run shutdown taken (taken.foldl Shutdown.step shutdown) :=
    Machine.run_of_free (fun _ _ => trivial) shutdown taken
  apply shutdown_stops rfl (ran events)
  rintro (_ | _)
  · exact .inl ⟨_, rfl, rfl⟩
  · refine .inr fun avoids => avoids _ _ ⟨events.take 1, [], rfl, ran _⟩ ⟨rfl, _, rfl, ?_⟩
    decide

/-- After a failed `accept` the TCP loop accepts no client any more. It waits for the shutdown, and ends with it. -/
theorem failed_accept_deafens {shutdown later : Shutdown} {server : Server} (running : shutdown.server = some server)
    (serving : server.stage .tcp = .serving) {events : List ShutdownEvent}
    (ran : shutdownMachine.Run (shutdown.step (.server (.accepted false))) events later) :
    ∃ after, later.server = some after ∧ after.accepted = server.accepted ∧
      (after.stage .tcp = .deaf ∨ after.stage .tcp = .ended ∧ later.ready = true) :=
  ran.invariant (fun state => state.Deaf server.accepted) (Shutdown.deaf_of_failed running serving)
    fun _ _ deaf _ => deaf.step

/-- One client was accepted before the failure, and no client is accepted after it. -/
theorem failed_accept_deafens_sample :
    let shutdown := sampleShutdown [.runServer .tcpOnly, .server (.bound .tcp true), .server (.accepted true)]
    let later := (shutdown.step (.server (.accepted false))).step (.server (.accepted true))
    ∃ after, later.server = some after ∧ after.accepted = 1 ∧
      (after.stage .tcp = .deaf ∨ after.stage .tcp = .ended ∧ later.ready = true) := by
  intro shutdown later
  exact @failed_accept_deafens shutdown later _ rfl rfl [.server (.accepted true)] (.snoc _ .nil trivial)

end RepriseP2p
