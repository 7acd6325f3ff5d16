/-
This file models the sockets that are bound to the selected interface, and proves that the selection never leads to the
unreachable branches.
-/

import RepriseP2p.Foundation.Outcome
import RepriseP2p.InterfaceTracker

namespace RepriseP2p

/-- A bound socket, and the device to which it is bound. -/
structure BoundSocket where
  localAddr : SocketAddrV4
  device : Option String
  deriving DecidableEq

def unspecified : Vector UInt8 4 := #v[0, 0, 0, 0]

/-- The address for a new socket. The panic stands for `unreachable!()`. -/
def bindAddr (windows : Bool) (bestInterface : Option Interface) : Outcome Empty (Vector UInt8 4) :=
  match windows, bestInterface with
  | true, some i =>
      match i.addr.ip with
      | .v4 addr => .ok addr
      | .v6 _ => .panic
  | _, _ => .ok unspecified

/-- A new UDP socket. The system answers with the port, or it refuses the address; only then it is asked for the
fallback. A device that cannot be bound is a warning. -/
def newUdpSocket (windows : Bool) (bestInterface : Option Interface) (port fallback : Option UInt16)
    (deviceBound : Bool) : Outcome Empty BoundSocket :=
  bindAddr windows bestInterface >>= fun addr =>
    match port, fallback with
    | some port, _ =>
        .ok ⟨⟨addr, port⟩, if windows || !deviceBound then none else bestInterface.map Interface.name⟩
    | none, some port => .ok ⟨⟨unspecified, port⟩, none⟩
    | none, none => .panic

/-- The parent socket, and its tracker when that is not taken. -/
structure ReusableTcpSocket where
  socket : SocketAddrV4
  p2pInterfaceTracker : Option P2pInterfaceTracker
  deriving DecidableEq

/-- What the system answers to the calls of `clone`: it creates the socket, binds it, and binds it to the device. -/
structure CloneAnswers where
  created : Bool
  bound : Bool
  deviceBound : Bool
  deriving DecidableEq

namespace ReusableTcpSocket

/-- The system answers with an own port, or one of its calls fails. -/
def newInner (p2pInterfaceTracker : Option P2pInterfaceTracker) (port : Option UInt16) :
    Outcome Empty ReusableTcpSocket :=
  match port with
  | some port => .ok ⟨⟨unspecified, port⟩, some (p2pInterfaceTracker.getD .new)⟩
  | none => .panic

/-- The new socket, and what is left of the old one. -/
def rotatePort (self : ReusableTcpSocket) (port : Option UInt16) :
    Outcome Empty (ReusableTcpSocket × ReusableTcpSocket) :=
  newInner self.p2pInterfaceTracker port >>= fun new => .ok (new, { self with p2pInterfaceTracker := none })

/-- A socket with the port of the parent, and the parent with its tracker updated. -/
def clone (self : ReusableTcpSocket) (windows : Bool) (interfaces : List Interface) (answers : CloneAnswers) :
    Outcome Empty (BoundSocket × ReusableTcpSocket) :=
  if answers.created = false then .panic
  else
    let (bestInterface, tracker) := (self.p2pInterfaceTracker.getD .new).currentInterface interfaces
    bindAddr windows bestInterface >>= fun addr =>
      if answers.bound = false then .panic
      else if windows = false ∧ bestInterface.isSome = true ∧ answers.deviceBound = false then .panic
      else .ok (⟨⟨addr, self.socket.port⟩, if windows then none else bestInterface.map Interface.name⟩,
        { self with p2pInterfaceTracker := some tracker })

/-- The clone exists only to show a prompt of the firewall. -/
def new (windows : Bool) (port : Option UInt16) (interfaces : List Interface) (answers : CloneAnswers) :
    Outcome Empty ReusableTcpSocket :=
  newInner none port >>= fun socket => socket.clone windows interfaces answers >>= fun (_, socket) => .ok socket

/-- What is left of the old socket keeps its address. -/
theorem rotatePort_socket {self new left : ReusableTcpSocket} {port : Option UInt16}
    (happened : self.rotatePort port = .ok (new, left)) : left.socket = self.socket := by
  cases port with
  | some port =>
      cases happened
      rfl
  | none => cases happened

end ReusableTcpSocket

theorem bindAddr_ok {bestInterface : Option Interface}
    (selected : ∀ best, bestInterface = some best → best.addr.ip.isIpv6 = false) (windows : Bool) :
    ∃ addr, bindAddr windows bestInterface = .ok addr := by
  unfold bindAddr
  split
  · rename_i i
    have isIpv4 := selected i rfl
    cases address : i.addr.ip with
    | v4 addr => exact ⟨addr, rfl⟩
    | v6 addr =>
        rw [address] at isIpv4
        cases isIpv4
  · exact ⟨unspecified, rfl⟩

namespace P2pInterfaceTracker

variable (tracker : P2pInterfaceTracker) (interfaces : List Interface)

theorem currentInterface_none : (tracker.currentInterface interfaces).1 = none ↔
    ∀ i ∈ interfaces, i.isFiltered = true := by
  rw [currentInterface_eq, List.argmax_eq_none, List.filter_eq_nil_iff]
  simp

theorem currentInterface_some {best : Interface} (selected : (tracker.currentInterface interfaces).1 = some best) :
    best ∈ interfaces ∧ best.isFiltered = false ∧
      ∀ i ∈ interfaces, i.isFiltered = false → i.rank ≤ best.rank := by
  rw [currentInterface_eq] at selected
  obtain ⟨listed, unfiltered⟩ := List.mem_filter.mp (List.argmax_mem selected)
  refine ⟨listed, by simpa using unfiltered, ?_⟩
  intro i there other
  exact List.le_of_mem_argmax (List.mem_filter.mpr ⟨there, by simp [other]⟩) selected

theorem currentInterface_isIpv4 (best : Interface) (selected : (tracker.currentInterface interfaces).1 = some best) :
    best.addr.ip.isIpv6 = false :=
  Interface.isIpv6_of_unfiltered (tracker.currentInterface_some interfaces selected).2.1

theorem currentInterface_perm (other : P2pInterfaceTracker) {reordered : List Interface}
    (perm : interfaces.Perm reordered)
    (differ : (interfaces.filter fun i => !i.isFiltered).Pairwise
      fun first second => first.addr.ip ≠ second.addr.ip) :
    (other.currentInterface reordered).1 = (tracker.currentInterface interfaces).1 := by
  rw [currentInterface_eq, currentInterface_eq]
  refine argmax_eq_of_perm (perm.filter _) ?_
  intro first fromFirst second fromSecond same
  by_contra distinct
  have addresses : first.addr.ip = second.addr.ip := congrArg (fun rank => (ofLex rank).2) same
  have symmetric : Std.Symm fun first second : Interface => first.addr.ip ≠ second.addr.ip :=
    ⟨fun _ _ => Ne.symm⟩
  exact differ.forall fromFirst fromSecond distinct addresses

end P2pInterfaceTracker

/-- A selected interface never leads to `unreachable!()`. A UDP socket panics only when the system refuses both
addresses. -/
theorem newUdpSocket_panic {bestInterface : Option Interface}
    (selected : ∀ best, bestInterface = some best → best.addr.ip.isIpv6 = false) (windows : Bool)
    (port fallback : Option UInt16) (deviceBound : Bool) :
    newUdpSocket windows bestInterface port fallback deviceBound = .panic ↔ port = none ∧ fallback = none := by
  obtain ⟨addr, bound⟩ := bindAddr_ok selected windows
  rw [newUdpSocket, bound, Outcome.ok_bind]
  cases port with
  | some port => simp
  | none => cases fallback <;> simp

theorem ReusableTcpSocket.clone_socket {self left : ReusableTcpSocket} {windows : Bool} {interfaces : List Interface}
    {answers : CloneAnswers} {socket : BoundSocket}
    (happened : self.clone windows interfaces answers = .ok (socket, left)) : left.socket = self.socket := by
  obtain ⟨addr, bound⟩ := bindAddr_ok ((self.p2pInterfaceTracker.getD .new).currentInterface_isIpv4 interfaces)
    windows
  simp only [clone, bound, Outcome.ok_bind] at happened
  split_ifs at happened
  all_goals
    cases happened
    rfl

/-- A cloned socket has the port of its parent. -/
theorem ReusableTcpSocket.clone_port {self left : ReusableTcpSocket} {windows : Bool} {interfaces : List Interface}
    {answers : CloneAnswers} {socket : BoundSocket}
    (happened : self.clone windows interfaces answers = .ok (socket, left)) :
    socket.localAddr.port = self.socket.port := by
  obtain ⟨addr, bound⟩ := bindAddr_ok ((self.p2pInterfaceTracker.getD .new).currentInterface_isIpv4 interfaces)
    windows
  simp only [clone, bound, Outcome.ok_bind] at happened
  split_ifs at happened
  all_goals
    cases happened
    rfl

/-- A clone panics only when the system refuses a call. -/
theorem ReusableTcpSocket.clone_panic (socket : ReusableTcpSocket) (windows : Bool) (interfaces : List Interface)
    (answers : CloneAnswers) (panicked : socket.clone windows interfaces answers = .panic) :
    answers.created = false ∨ answers.bound = false ∨ answers.deviceBound = false := by
  obtain ⟨addr, bound⟩ := bindAddr_ok ((socket.p2pInterfaceTracker.getD .new).currentInterface_isIpv4 interfaces)
    windows
  simp only [clone, bound, Outcome.ok_bind] at panicked
  split_ifs at panicked with created refused device
  · exact .inl created
  · exact .inr (.inl refused)
  · exact .inr (.inr device.2.2)

/-- The tracker selects nothing exactly when every interface is filtered. Otherwise it selects an interface with the
highest priority and then the highest address. The order of the list decides nothing when the addresses differ, and the
sockets never meet an IPv6 address. -/
theorem current_interface_best (tracker : P2pInterfaceTracker) (interfaces : List Interface) :
    ((tracker.currentInterface interfaces).1 = none ↔ ∀ i ∈ interfaces, i.isFiltered = true) ∧
    (∀ best, (tracker.currentInterface interfaces).1 = some best →
      (best ∈ interfaces ∧ best.isFiltered = false ∧
        ∀ i ∈ interfaces, i.isFiltered = false → i.rank ≤ best.rank) ∧
      best.addr.ip.isIpv6 = false) ∧
    (∀ (other : P2pInterfaceTracker) (reordered : List Interface), interfaces.Perm reordered →
      ((interfaces.filter fun i => !i.isFiltered).Pairwise fun first second => first.addr.ip ≠ second.addr.ip) →
      (other.currentInterface reordered).1 = (tracker.currentInterface interfaces).1) ∧
    (∀ windows, bindAddr windows (tracker.currentInterface interfaces).1 ≠ .panic) ∧
    (∀ windows port fallback deviceBound,
      newUdpSocket windows (tracker.currentInterface interfaces).1 port fallback deviceBound = .panic →
        port = none ∧ fallback = none) ∧
    ∀ socket windows answers, ReusableTcpSocket.clone socket windows interfaces answers = .panic →
      answers.created = false ∨ answers.bound = false ∨ answers.deviceBound = false := by
  have selected := tracker.currentInterface_isIpv4 interfaces
  refine ⟨tracker.currentInterface_none interfaces, ?_, ?_, ?_, ?_, ?_⟩
  · intro best chosen
    exact ⟨tracker.currentInterface_some interfaces chosen, selected best chosen⟩
  · intro other reordered perm differ
    exact tracker.currentInterface_perm interfaces other perm differ
  · intro windows panicked
    obtain ⟨addr, bound⟩ := bindAddr_ok selected windows
    cases panicked.symm.trans bound
  · intro windows port fallback deviceBound
    exact (newUdpSocket_panic selected windows port fallback deviceBound).mp
  · intro socket windows answers
    exact socket.clone_panic windows interfaces answers

/-- Both rules fire for the last interface: it is wired, and it is compared with itself. -/
example : (P2pInterfaceTracker.new.currentInterface
    [⟨"lo", .v4 #v[127, 0, 0, 1] 8, false⟩, ⟨"wlan0", .v4 #v[192, 168, 0, 9] 24, false⟩,
      ⟨"eth0", .v4 #v[10, 0, 0, 2] 24, false⟩]).1 = some ⟨"eth0", .v4 #v[10, 0, 0, 2] 24, false⟩ := by
  decide +kernel

end RepriseP2p
