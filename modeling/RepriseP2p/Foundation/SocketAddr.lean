/-
This file gives the addresses of both internet protocols, with their order, and the socket addresses.
-/

import Mathlib.Data.List.Lex
import Mathlib.Data.Prod.Lex
import Mathlib.Tactic

inductive IpAddr where
  | v4 (octets : Vector UInt8 4)
  | v6 (octets : Vector UInt8 16)
  deriving DecidableEq

namespace IpAddr

def isIpv6 : IpAddr → Bool
  | .v4 _ => false
  | .v6 _ => true

/-- The version of the protocol and then the octets, compared from the left. -/
def key : IpAddr → ℕ ×ₗ List ℕ
  | .v4 octets => toLex (4, octets.toList.map UInt8.toNat)
  | .v6 octets => toLex (6, octets.toList.map UInt8.toNat)

theorem key_injective : Function.Injective key := by
  have octets {n : ℕ} {first second : Vector UInt8 n}
      (same : first.toList.map UInt8.toNat = second.toList.map UInt8.toNat) : first = second := by
    have injective : Function.Injective UInt8.toNat := fun _ _ => UInt8.toNat_inj.mp
    exact Vector.toList_inj.mp (injective.list_map same)
  intro first second same
  cases first with
  | v4 one =>
      cases second with
      | v4 other => rw [octets (congrArg (fun key => (ofLex key).2) same)]
      | v6 other => simp [key] at same
  | v6 one =>
      cases second with
      | v4 other => simp [key] at same
      | v6 other => rw [octets (congrArg (fun key => (ofLex key).2) same)]

instance : LinearOrder IpAddr := LinearOrder.lift' key key_injective

end IpAddr

/-- An IPv4 address and a port. -/
structure SocketAddrV4 where
  ip : Vector UInt8 4
  port : UInt16
  deriving DecidableEq

structure SocketAddrV6 where
  ip : Vector UInt8 16
  port : UInt16
  flowinfo : UInt32
  scopeId : UInt32
  deriving DecidableEq

inductive SocketAddr where
  | v4 (addr : SocketAddrV4)
  | v6 (addr : SocketAddrV6)
  deriving DecidableEq
