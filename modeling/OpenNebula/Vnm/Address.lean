import Mathlib.Algebra.Order.Ring.Nat
import Mathlib.Data.Nat.Bitwise

namespace OpenNebula.Vnm

/-! # Address ranges as networks (`VNMNetwork::to_nets`) -/

inductive Family where
  | inet
  | inet6
deriving DecidableEq

/-- `ip_length` -/
def Family.bits : Family → Nat
  | .inet => 32
  | .inet6 => 128

structure IPAddr where
  family : Family
  value : Nat
  bound : value < 2 ^ family.bits
deriving DecidableEq

/-- `IPAddr.new` of a number, which raises an error when it is too large. -/
def IPAddr.ofNat (family : Family) (value : Nat) : Option IPAddr :=
  if bound : value < 2 ^ family.bits then some ⟨family, value, bound⟩ else none

/-- A network in CIDR notation -/
structure Net where
  address : IPAddr
  prefixLength : Nat
deriving DecidableEq

/-- `lblock += 1 while ip_i[lblock] == 0 && lblock < ip_length` -/
def nextBlock (bits ip : Nat) : Nat → Nat → Nat
  | 0, lblock => lblock
  | turns + 1, lblock =>
    if ip.testBit lblock = false ∧ lblock < bits then nextBlock bits ip turns (lblock + 1) else lblock

def wholeBlocks (family : Family) : Nat → Nat → Nat → Nat → Option (List Net × Nat × Nat)
  | 0, _, ip, size => some ([], ip, size)
  | turns + 1, lblock, ip, size =>
    if 2 ^ lblock ≤ size then
      match IPAddr.ofNat family ip with
      | none => none
      | some address =>
        let next := ip + 2 ^ lblock
        match wholeBlocks family turns (nextBlock family.bits next family.bits lblock) next
            (size - 2 ^ lblock) with
        | none => none
        | some (nets, rest) => some (⟨address, family.bits - lblock⟩ :: nets, rest)
    else some ([], ip, size)

def remainingBlocks (family : Family) (size : Nat) : Nat → Nat → Option (List Net)
  | 0, _ => some []
  | bit + 1, ip =>
    if size.testBit bit then
      match IPAddr.ofNat family ip with
      | none => none
      | some address =>
        (remainingBlocks family size bit (ip + 2 ^ bit)).map (⟨address, family.bits - bit⟩ :: ·)
    else remainingBlocks family size bit ip

/-- A whole block takes one address or more: there are at most `size` of them. -/
def toNets (start : IPAddr) (size : Nat) : Option (List Net) :=
  let family := start.family
  let lblock := nextBlock family.bits start.value family.bits 0
  match wholeBlocks family size lblock start.value size with
  | none => none
  | some (nets, ip, left) => (remainingBlocks family left (family.bits + 1) ip).map (nets ++ ·)

end OpenNebula.Vnm
