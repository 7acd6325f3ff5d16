/-
This file models `P2pInterfaceTracker` and proves that it selects the best interface, in every order of the list.
-/

import Mathlib.Data.List.MinMax
import RepriseP2p.Foundation.SocketAddr

namespace RepriseP2p

inductive IfAddr where
  | v4 (ip : Vector UInt8 4) (prefixlen : UInt8)
  | v6 (ip : Vector UInt8 16)
  deriving DecidableEq

def IfAddr.ip : IfAddr → IpAddr
  | .v4 ip _ => .v4 ip
  | .v6 ip => .v6 ip

structure Interface where
  name : String
  addr : IfAddr
  isP2p : Bool
  deriving DecidableEq

namespace Interface

/-- The hard filter: virtual, local and VPN interfaces. -/
def isFiltered (i : Interface) : Bool :=
  i.isP2p || i.addr.ip.isIpv6 || (match i.addr with | .v4 _ 32 => true | _ => false) ||
    i.name.startsWith "lo" || i.name.startsWith "docker" || i.name.startsWith "br-" || i.name.startsWith "veth" ||
    i.name.startsWith "tun" || i.name.startsWith "tap" || i.name.startsWith "wg" || i.name.startsWith "tailscale" ||
    i.name.startsWith "amn" ||
    -- These are names of Windows adapters.
    i.name.startsWith "AmneziaVPN" || i.name.startsWith "Tailscale" || i.name.startsWith "ZeroTier" ||
    i.name.startsWith "outline"

/-- Wired interfaces come before wireless ones, and unknown ones come last. -/
def currentPriority (i : Interface) : Nat :=
  if i.name.startsWith "en" || i.name.startsWith "eth" || i.name.startsWith "Ethernet" then 3
  else if i.name.startsWith "wl" || i.name.startsWith "Wireless" then 2
  else 1

/-- The priority class and then the address, in lexicographic order. -/
def rank (i : Interface) : Nat ×ₗ IpAddr := toLex (i.currentPriority, i.addr.ip)

theorem currentPriority_pos (i : Interface) : 0 < i.currentPriority := by
  unfold currentPriority
  split_ifs <;> decide

theorem rank_lt {first second : Interface} : first.rank < second.rank ↔
    first.currentPriority < second.currentPriority ∨
      first.currentPriority = second.currentPriority ∧ first.addr.ip < second.addr.ip :=
  Prod.Lex.toLex_lt_toLex

theorem isIpv6_of_unfiltered {i : Interface} (unfiltered : i.isFiltered = false) : i.addr.ip.isIpv6 = false := by
  simp only [isFiltered, Bool.or_eq_false_iff] at unfiltered
  tauto

end Interface

/-- What the loop keeps. -/
structure Selection where
  bestInterface : Option Interface
  highestPriority : Nat

namespace Selection

/-- Both update rules of the loop. The second one reads what the first one wrote. -/
def keepBest (selection : Selection) (i : Interface) : Selection :=
  let selection :=
    if i.currentPriority > selection.highestPriority then ⟨some i, i.currentPriority⟩ else selection
  if i.currentPriority = selection.highestPriority then
    match selection.bestInterface with
    | some prevBest => if i.addr.ip > prevBest.addr.ip then { selection with bestInterface := some i } else selection
    | none => selection
  else selection

/-- One iteration of the loop. -/
def consider (selection : Selection) (i : Interface) : Selection :=
  if i.isFiltered then selection else selection.keepBest i

/-- The priority belongs to the best interface. -/
def of (best : Option Interface) : Selection := ⟨best, best.elim 0 Interface.currentPriority⟩

theorem keepBest_none (i : Interface) : (of none).keepBest i = of (some i) := by
  have positive := i.currentPriority_pos
  simp [keepBest, of, positive]

theorem keepBest_some (best i : Interface) :
    (of (some best)).keepBest i = of (if best.rank < i.rank then some i else some best) := by
  simp only [keepBest, of, Option.elim_some, Interface.rank_lt]
  rcases lt_trichotomy best.currentPriority i.currentPriority with less | same | greater
  · simp [less]
  · by_cases better : best.addr.ip < i.addr.ip
    · simp [same, better]
    · simp [same, better]
  · have differ : i.currentPriority ≠ best.currentPriority := greater.ne
    simp [greater.not_gt, differ, differ.symm]

/-- The loop computes a maximum of the ranks of the interfaces that are not filtered. -/
theorem foldl_consider (interfaces : List Interface) : interfaces.foldl consider (of none) =
    of ((interfaces.filter fun i => !i.isFiltered).argmax Interface.rank) := by
  induction interfaces using List.reverseRecOn with
  | nil => rfl
  | append_singleton interfaces i ih =>
      rw [List.foldl_append, List.foldl_cons, List.foldl_nil, ih, consider, List.filter_append]
      by_cases filtered : i.isFiltered = true
      · simp [filtered]
      · simp only [filtered, List.filter_cons, List.filter_nil]
        rw [if_neg (by simp), if_pos (by simp), List.argmax_concat]
        cases (interfaces.filter fun i => !i.isFiltered).argmax Interface.rank with
        | none => exact keepBest_none i
        | some best => exact keepBest_some best i

end Selection

structure P2pInterfaceTracker where
  prevInterface : String
  deriving DecidableEq

namespace P2pInterfaceTracker

def new : P2pInterfaceTracker := ⟨""⟩

/-- The interfaces are those that the tracker library yields in this call. -/
def currentInterface (tracker : P2pInterfaceTracker) (interfaces : List Interface) :
    Option Interface × P2pInterfaceTracker :=
  let best := (interfaces.foldl Selection.consider ⟨none, 0⟩).bestInterface
  match best with
  | some i => (best, ⟨i.name⟩)
  | none => (best, tracker)

theorem currentInterface_eq (tracker : P2pInterfaceTracker) (interfaces : List Interface) :
    (tracker.currentInterface interfaces).1 =
      (interfaces.filter fun i => !i.isFiltered).argmax Interface.rank := by
  have loop := Selection.foldl_consider interfaces
  rw [Selection.of, Option.elim_none] at loop
  simp only [currentInterface, loop, Selection.of]
  split <;> rfl

end P2pInterfaceTracker

/-- A maximum by an injective rank does not depend on the order of the list. -/
theorem argmax_eq_of_perm {α β : Type} [LinearOrder β] {rank : α → β} {first second : List α}
    (perm : first.Perm second) (injective : Set.InjOn rank {i | i ∈ first}) :
    second.argmax rank = first.argmax rank := by
  cases best : first.argmax rank with
  | none =>
      rw [List.argmax_eq_none] at best ⊢
      subst best
      exact List.nil_perm.mp perm
  | some i =>
      cases other : second.argmax rank with
      | none =>
          rw [List.argmax_eq_none] at other
          subst other
          rw [List.perm_nil.mp perm] at best
          cases best
      | some j =>
          have fromFirst := List.argmax_mem best
          have fromSecond := perm.mem_iff.mpr (List.argmax_mem other)
          have same : rank j = rank i := le_antisymm (List.le_of_mem_argmax fromSecond best)
            (List.le_of_mem_argmax (perm.mem_iff.mp fromFirst) other)
          rw [injective fromSecond fromFirst same]

end RepriseP2p
