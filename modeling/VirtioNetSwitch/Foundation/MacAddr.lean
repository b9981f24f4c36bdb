import Mathlib.Algebra.Order.Ring.Nat
import Mathlib.Data.List.GetD
import Mathlib.Data.List.Nodup
import Mathlib.Data.List.Perm.Subperm
import Mathlib.Data.List.Rotate

/-!
# MAC addresses

`mac_addr.h` is not among the sources.  An address is modelled from the spec as six
octets in wire order, with the all-zero address as `Addr_unknown` and the all-ones address
as the broadcast address.
-/

namespace VirtioNetSwitch

/-- Modelled from the spec: `Mac_addr` of `mac_addr.h`, a six-octet identifier. -/
structure MacAddr where
  octets : List UInt8
  length_eq : octets.length = 6
  deriving DecidableEq, Repr

namespace MacAddr

def addrLength : Nat := 6

/-- Modelled from the spec: `Mac_addr::Addr_unknown`, the all-zero address. -/
def addrUnknown : MacAddr := ⟨List.replicate 6 0, rfl⟩

/-- Modelled from the spec: an address is a broadcast address when all octets are ones. -/
def isBroadcast (m : MacAddr) : Bool := m.octets.all (· == 0xff)

def isUnknown (m : MacAddr) : Bool := m == addrUnknown

/-- `Mac_addr(char const *)`: the six octets a buffer starts with. -/
def ofBytes (b : List UInt8) : MacAddr :=
  ⟨(b ++ List.replicate 6 0).take 6, by simp⟩

theorem ofBytes_append {b : List UInt8} (c : List UInt8) (h : 6 ≤ b.length) :
    ofBytes (b ++ c) = ofBytes b := by
  simp only [ofBytes, mk.injEq, List.append_assoc, List.take_append_of_le_length h]

end MacAddr

end VirtioNetSwitch
