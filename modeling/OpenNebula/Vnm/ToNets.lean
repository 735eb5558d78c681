import Mathlib.Data.List.Perm.Subperm
import OpenNebula.Vnm.Address

namespace OpenNebula.Vnm

/-! # The networks of an address range

A block is aligned when its size divides its start.  The networks of a range are the largest aligned
blocks that fit in it, one after the other, and no list of aligned blocks is shorter.
-/

structure Block where
  start : Nat
  exponent : Nat

namespace Block

def Has (block : Block) (address : Nat) : Prop :=
  block.start ≤ address ∧ address < block.start + 2 ^ block.exponent

def Aligned (block : Block) : Prop := 2 ^ block.exponent ∣ block.start

/-- The blocks follow each other from the first address to the last. -/
def Fills (first : Nat) : List Block → Nat → Prop
  | [], last => first = last
  | block :: rest, last => block.start = first ∧ Fills (first + 2 ^ block.exponent) rest last

def Covers (first last : Nat) (blocks : List Block) : Prop :=
  ∀ address, (∃ block ∈ blocks, block.Has address) ↔ first ≤ address ∧ address < last

/-- No larger aligned block of the range has the start of this one. -/
def Largest (first last : Nat) (block : Block) : Prop :=
  ∀ other : Block, other.Aligned → first ≤ other.start → other.start + 2 ^ other.exponent ≤ last →
    other.Has block.start → other.exponent ≤ block.exponent

variable {first last : Nat} {block : Block} {blocks others : List Block}

theorem mod_two_pow_succ (number bit : Nat) :
    number % 2 ^ (bit + 1) = (if number.testBit bit then 2 ^ bit else 0) + number % 2 ^ bit := by
  rw [Nat.mod_pow_succ, Nat.testBit_eq_decide_div_mod_eq]
  rcases Nat.mod_two_eq_zero_or_one (number / 2 ^ bit) with isZero | isOne
  · simp [isZero]
  · simp [isOne, Nat.add_comm]

theorem testBit_of_dvd {number bit : Nat} (divides : 2 ^ (bit + 1) ∣ number) : number.testBit bit = false := by
  have halves := mod_two_pow_succ number bit
  rw [Nat.mod_eq_zero_of_dvd divides] at halves
  have positive := Nat.two_pow_pos bit
  cases isSet : number.testBit bit with
  | false => rfl
  | true =>
    rw [if_pos isSet] at halves
    omega

theorem dvd_add_of_testBit {number bit : Nat} (aligned : 2 ^ bit ∣ number) (isSet : number.testBit bit = true) :
    2 ^ (bit + 1) ∣ number + 2 ^ bit := by
  have halves := mod_two_pow_succ number bit
  rw [if_pos isSet, Nat.mod_eq_zero_of_dvd aligned] at halves
  have divided := Nat.div_add_mod number (2 ^ (bit + 1))
  refine ⟨number / 2 ^ (bit + 1) + 1, ?_⟩
  rw [Nat.mul_add, Nat.mul_one]
  have doubled : 2 ^ (bit + 1) = 2 ^ bit * 2 := pow_succ 2 bit
  omega

theorem add_le_of_dvd {unit low high : Nat} (dividesLow : unit ∣ low) (dividesHigh : unit ∣ high)
    (below : low < high) : low + unit ≤ high := by
  have apart := Nat.le_of_dvd (Nat.sub_pos_of_lt below) (Nat.dvd_sub dividesHigh dividesLow)
  omega

theorem Fills.le (fills : Fills first blocks last) : first ≤ last := by
  induction blocks generalizing first with
  | nil => exact le_of_eq fills
  | cons block rest ih => exact (Nat.le_add_right _ _).trans (ih fills.2)

theorem Fills.append {middle : Nat} (fills : Fills first blocks middle) (rest : Fills middle others last) :
    Fills first (blocks ++ others) last := by
  induction blocks generalizing first with
  | nil =>
    cases fills
    exact rest
  | cons block more ih => exact ⟨fills.1, ih fills.2⟩

theorem Fills.start_ge (fills : Fills first blocks last) (member : block ∈ blocks) : first ≤ block.start := by
  induction blocks generalizing first with
  | nil => cases member
  | cons head rest ih =>
    rcases List.mem_cons.mp member with rfl | later
    · exact le_of_eq fills.1.symm
    · exact (Nat.le_add_right _ _).trans (ih fills.2 later)

theorem Fills.increasing (fills : Fills first blocks last) :
    blocks.Pairwise fun block other => block.start + 2 ^ block.exponent ≤ other.start := by
  induction blocks generalizing first with
  | nil => exact List.Pairwise.nil
  | cons block rest ih =>
    refine List.pairwise_cons.mpr ⟨fun other member => ?_, ih fills.2⟩
    rw [fills.1]
    exact fills.2.start_ge member

theorem Fills.covers (fills : Fills first blocks last) : Covers first last blocks := by
  induction blocks generalizing first with
  | nil =>
    intro address
    have same : first = last := fills
    simp only [List.not_mem_nil, false_and, exists_false, false_iff]
    omega
  | cons block rest ih =>
    intro address
    have after := fills.2.le
    have positive := Nat.two_pow_pos block.exponent
    rw [List.exists_mem_cons_iff, ih fills.2 address, Has, fills.1]
    omega

/-- A block that has the start of a largest block begins there. -/
theorem Largest.start_mem (largest : block.Largest first last) (aligned : block.Aligned)
    (inside : first ≤ block.start ∧ block.start < last) (covers : Covers first last others)
    (allAligned : ∀ other ∈ others, other.Aligned) : block.start ∈ others.map Block.start := by
  obtain ⟨other, member, has⟩ := (covers block.start).mpr inside
  have begins := ((covers other.start).mp ⟨other, member, le_refl _, by have := Nat.two_pow_pos other.exponent; omega⟩).1
  have positive := Nat.two_pow_pos other.exponent
  have ends := ((covers (other.start + 2 ^ other.exponent - 1)).mp ⟨other, member, by omega, by omega⟩).2
  have smaller := largest other (allAligned other member) begins (by omega) has
  have divides : 2 ^ other.exponent ∣ block.start := (Nat.pow_dvd_pow 2 smaller).trans aligned
  refine List.mem_map.mpr ⟨other, member, ?_⟩
  rcases has.1.lt_or_eq with before | same
  · have apart := add_le_of_dvd (allAligned other member) divides before
    have within := has.2
    omega
  · exact same

theorem length_le (fills : Fills first blocks last) (aligned : ∀ block ∈ blocks, block.Aligned)
    (largest : ∀ block ∈ blocks, block.Largest first last) (covers : Covers first last others)
    (allAligned : ∀ other ∈ others, other.Aligned) : blocks.length ≤ others.length := by
  have differ : (blocks.map Block.start).Nodup := by
    refine List.pairwise_map.mpr (fills.increasing.imp fun {block other} apart => ?_)
    have positive := Nat.two_pow_pos block.exponent
    omega
  have included : blocks.map Block.start ⊆ others.map Block.start := by
    intro start member
    obtain ⟨block, isBlock, rfl⟩ := List.mem_map.mp member
    refine (largest block isBlock).start_mem (aligned block isBlock) ?_ covers allAligned
    exact (fills.covers block.start).mp
      ⟨block, isBlock, le_refl _, by have := Nat.two_pow_pos block.exponent; omega⟩
  simpa only [List.length_map] using (differ.subperm included).length_le

theorem largest_whole {start exponent bits : Nat} (aligned : 2 ^ exponent ∣ start) (near : start < first + 2 ^ exponent)
    (stops : exponent = bits ∨ start.testBit exponent = true) (inside : last ≤ 2 ^ bits) :
    Largest first last ⟨start, exponent⟩ := by
  intro other otherAligned begins ends has
  by_contra larger
  simp only [Has] at has larger
  rcases stops with rfl | isSet
  · have tooLarge := Nat.pow_lt_pow_right (by omega : 1 < 2) (not_le.mp larger)
    omega
  · have divides : 2 ^ (exponent + 1) ∣ other.start := (Nat.pow_dvd_pow 2 (not_le.mp larger)).trans otherAligned
    rcases has.1.lt_or_eq with before | same
    · have apart := add_le_of_dvd ((Nat.pow_dvd_pow 2 (Nat.le_succ _)).trans divides) aligned before
      omega
    · rw [same] at divides
      rw [testBit_of_dvd divides] at isSet
      contradiction

theorem largest_rest {start exponent : Nat} (aligned : 2 ^ (exponent + 1) ∣ start)
    (ends : last < start + 2 ^ (exponent + 1)) : Largest first last ⟨start, exponent⟩ := by
  intro other otherAligned _ inside has
  by_contra larger
  have unit := Nat.pow_dvd_pow 2 (not_le.mp larger)
  have apart := add_le_of_dvd aligned (Nat.dvd_add (unit.trans otherAligned) unit) has.2
  omega

end Block

variable {family : Family} {first last : Nat}

def Net.block (net : Net) : Block := ⟨net.address.value, net.address.family.bits - net.prefixLength⟩

structure Net.Valid (family : Family) (net : Net) : Prop where
  prefixLength : net.prefixLength ≤ family.bits
  sameFamily : net.address.family = family
  aligned : net.block.Aligned

/-- The networks have the addresses of the range, and no others. -/
structure Covers (start : IPAddr) (size : Nat) (nets : List Net) : Prop where
  valid : ∀ net ∈ nets, net.Valid start.family
  exactly : Block.Covers start.value (start.value + size) (nets.map Net.block)

/-- What the loops return for the addresses from `ip` on -/
structure Taken (family : Family) (first last ip next : Nat) (nets : List Net) : Prop where
  valid : ∀ net ∈ nets, net.Valid family
  fills : Block.Fills ip (nets.map Net.block) next
  largest : ∀ net ∈ nets, net.block.Largest first last

theorem Taken.nil (ip : Nat) : Taken family first last ip ip [] where
  valid _ member := nomatch member
  fills := rfl
  largest _ member := nomatch member

theorem Taken.cons {ip next exponent : Nat} {address : IPAddr} {nets : List Net}
    (isAddress : IPAddr.ofNat family ip = some address) (fits : exponent ≤ family.bits)
    (aligned : 2 ^ exponent ∣ ip) (largest : Block.Largest first last ⟨ip, exponent⟩)
    (taken : Taken family first last (ip + 2 ^ exponent) next nets) :
    Taken family first last ip next (⟨address, family.bits - exponent⟩ :: nets) := by
  unfold IPAddr.ofNat at isAddress
  split at isAddress
  · cases isAddress
    have isBlock : Net.block ⟨⟨family, ip, ‹_›⟩, family.bits - exponent⟩ = ⟨ip, exponent⟩ := by
      simp only [Net.block, Nat.sub_sub_self fits]
    refine ⟨List.forall_mem_cons.mpr ⟨⟨Nat.sub_le _ _, rfl, ?_⟩, taken.valid⟩, ?_,
      List.forall_mem_cons.mpr ⟨?_, taken.largest⟩⟩
    · rw [isBlock]
      exact aligned
    · rw [List.map_cons, isBlock]
      exact ⟨rfl, taken.fills⟩
    · rw [isBlock]
      exact largest
  · contradiction

theorem ofNat_isSome (family : Family) (ip : Nat) (inside : ip < 2 ^ family.bits) :
    ∃ address, IPAddr.ofNat family ip = some address :=
  ⟨⟨family, ip, inside⟩, dif_pos inside⟩

structure IsNextBlock (bits ip lblock : Nat) : Prop where
  fits : lblock ≤ bits
  aligned : 2 ^ lblock ∣ ip
  stops : lblock = bits ∨ ip.testBit lblock = true

theorem nextBlock_spec {bits ip lblock : Nat} (turns : Nat) (enough : bits ≤ lblock + turns) (fits : lblock ≤ bits)
    (aligned : 2 ^ lblock ∣ ip) :
    IsNextBlock bits ip (nextBlock bits ip turns lblock) ∧ lblock ≤ nextBlock bits ip turns lblock := by
  induction turns generalizing lblock with
  | zero =>
    rw [nextBlock]
    exact ⟨⟨fits, aligned, .inl (by omega)⟩, le_refl _⟩
  | succ turns ih =>
    rw [nextBlock]
    split
    · rename_i clear
      have doubled : 2 ^ (lblock + 1) ∣ ip := by
        refine Nat.dvd_of_mod_eq_zero ?_
        rw [Block.mod_two_pow_succ, clear.1, Nat.mod_eq_zero_of_dvd aligned]
        rfl
      obtain ⟨isNext, more⟩ := ih (by omega) (by omega) doubled
      exact ⟨isNext, by omega⟩
    · rename_i stops
      refine ⟨⟨fits, aligned, ?_⟩, le_refl _⟩
      rcases fits.lt_or_eq with within | same
      · exact .inr (by simpa [within] using stops)
      · exact .inl same

theorem wholeBlocks_spec {turns lblock ip size : Nat} (isNext : IsNextBlock family.bits ip lblock)
    (enough : size ≤ turns) (near : size = 0 ∨ ip < first + 2 ^ lblock) (isLast : ip + size = last)
    (inside : last ≤ 2 ^ family.bits) :
    ∃ nets next left, wholeBlocks family turns lblock ip size = some (nets, next, left) ∧
      Taken family first last ip next nets ∧ next + left = last ∧
      ∃ exponent, 2 ^ exponent ∣ next ∧ left < 2 ^ exponent := by
  induction turns generalizing lblock ip size with
  | zero => exact ⟨[], ip, size, rfl, Taken.nil ip, isLast, lblock, isNext.aligned, by have := Nat.two_pow_pos lblock; omega⟩
  | succ turns ih =>
    rw [wholeBlocks]
    by_cases whole : 2 ^ lblock ≤ size
    · have positive := Nat.two_pow_pos lblock
      obtain ⟨address, isAddress⟩ := ofNat_isSome family ip (by omega)
      obtain ⟨isAfter, grows⟩ := nextBlock_spec family.bits (by omega) isNext.fits
        (Nat.dvd_add isNext.aligned (dvd_refl _))
      have isNear : ip < first + 2 ^ lblock := by omega
      have farther : size - 2 ^ lblock = 0 ∨ ip + 2 ^ lblock <
          first + 2 ^ nextBlock family.bits (ip + 2 ^ lblock) family.bits lblock := by
        rcases isNext.stops with rfl | isSet
        · omega
        · right
          have larger : lblock + 1 ≤ nextBlock family.bits (ip + 2 ^ lblock) family.bits lblock := by
            by_contra stays
            have same : nextBlock family.bits (ip + 2 ^ lblock) family.bits lblock = lblock := by omega
            rw [same] at isAfter
            have clear := Block.testBit_of_dvd (Block.dvd_add_of_testBit isNext.aligned isSet)
            rcases isAfter.stops with rfl | set
            · rw [Nat.testBit_lt_two_pow (by omega)] at isSet
              contradiction
            · rw [clear] at set
              contradiction
          have doubled := Nat.pow_le_pow_right (by omega : 0 < 2) larger
          rw [Nat.pow_succ] at doubled
          omega
      obtain ⟨nets, next, left, taken, isTaken, rest⟩ := ih isAfter (by omega) farther (by omega)
      refine ⟨_, next, left, ?_, Taken.cons isAddress isNext.fits isNext.aligned
        (Block.largest_whole isNext.aligned isNear isNext.stops inside) isTaken, rest⟩
      simp only [if_pos whole, isAddress, taken]
    · rw [if_neg whole]
      exact ⟨[], ip, size, rfl, Taken.nil ip, isLast, lblock, isNext.aligned, not_le.mp whole⟩

theorem remainingBlocks_spec {size bit ip exponent : Nat} (fits : bit ≤ family.bits + 1) (aligned : 2 ^ exponent ∣ ip)
    (small : size % 2 ^ bit < 2 ^ exponent) (isLast : ip + size % 2 ^ bit = last) (inside : last ≤ 2 ^ family.bits) :
    ∃ nets, remainingBlocks family size bit ip = some nets ∧ Taken family first last ip last nets := by
  induction bit generalizing ip exponent with
  | zero =>
    rw [pow_zero, Nat.mod_one, Nat.add_zero] at isLast
    cases isLast
    exact ⟨[], rfl, Taken.nil _⟩
  | succ bit ih =>
    rw [Block.mod_two_pow_succ] at small isLast
    have below := Nat.mod_lt size (Nat.two_pow_pos bit)
    rw [remainingBlocks]
    cases isSet : size.testBit bit with
    | false =>
      rw [isSet] at small isLast
      simp only [Bool.false_eq_true, if_false, Nat.zero_add] at small isLast ⊢
      exact ih (by omega) aligned small isLast
    | true =>
      rw [isSet] at small isLast
      simp only [if_true] at small isLast ⊢
      have larger : bit < exponent := (Nat.pow_lt_pow_iff_right (by omega)).mp (by omega : 2 ^ bit < 2 ^ exponent)
      have doubled := (Nat.pow_dvd_pow 2 larger).trans aligned
      have single := (Nat.pow_dvd_pow 2 larger.le).trans aligned
      obtain ⟨address, isAddress⟩ := ofNat_isSome family ip (by omega)
      obtain ⟨nets, rest, taken⟩ := @ih (ip + 2 ^ bit) bit (by omega) (Nat.dvd_add single (dvd_refl _)) below (by omega)
      have inFamily : bit ≤ family.bits := by omega
      refine ⟨_, ?_, Taken.cons isAddress inFamily single (Block.largest_rest doubled (by omega)) taken⟩
      simp only [isAddress, rest, Option.map_some]

/-- The networks of a range cover it, in order and without a common address, and no list of networks
that covers it is shorter. -/
theorem toNets_covers (start : IPAddr) (size : Nat) (inside : start.value + size ≤ 2 ^ start.family.bits) :
    ∃ nets, toNets start size = some nets ∧ Covers start size nets ∧
      (nets.Pairwise fun net other => net.block.start + 2 ^ net.block.exponent ≤ other.block.start) ∧
      ∀ others, Covers start size others → nets.length ≤ others.length := by
  obtain ⟨isNext, -⟩ := @nextBlock_spec start.family.bits start.value 0 start.family.bits (by omega) (by omega) (one_dvd _)
  have positive := Nat.two_pow_pos (nextBlock start.family.bits start.value start.family.bits 0)
  obtain ⟨whole, next, left, taken, isWhole, isLeft, exponent, aligned, small⟩ :=
    @wholeBlocks_spec start.family start.value _ _ _ _ _ isNext (le_refl size) (by omega) rfl inside
  have fits : left % 2 ^ (start.family.bits + 1) = left := by
    refine Nat.mod_eq_of_lt ?_
    rw [Nat.pow_succ]
    have positive := Nat.two_pow_pos start.family.bits
    omega
  obtain ⟨rest, isRest, taken'⟩ := @remainingBlocks_spec start.family start.value _ left _ next exponent (le_refl _)
    aligned (by rwa [fits]) (by rwa [fits]) inside
  have valid : ∀ net ∈ whole ++ rest, net.Valid start.family :=
    List.forall_mem_append.mpr ⟨isWhole.valid, taken'.valid⟩
  have largest : ∀ net ∈ whole ++ rest, net.block.Largest start.value (start.value + size) :=
    List.forall_mem_append.mpr ⟨isWhole.largest, taken'.largest⟩
  have fills : Block.Fills start.value ((whole ++ rest).map Net.block) (start.value + size) := by
    rw [List.map_append]
    exact isWhole.fills.append taken'.fills
  refine ⟨whole ++ rest, ?_, ⟨valid, fills.covers⟩, List.pairwise_map.mp fills.increasing, fun others covers => ?_⟩
  · simp only [toNets, taken, isRest, Option.map_some]
  · have fewest : ((whole ++ rest).map Net.block).length ≤ (others.map Net.block).length := by
      refine Block.length_le fills ?_ ?_ covers.exactly ?_
      · exact List.forall_mem_map.mpr fun net member => (valid net member).aligned
      · exact List.forall_mem_map.mpr largest
      · exact List.forall_mem_map.mpr fun net member => (covers.valid net member).aligned
    simpa only [List.length_map] using fewest

theorem toNets_covers_three : ∃ nets, toNets ⟨.inet, 3232235521, by decide⟩ 3 = some nets ∧
    Covers ⟨.inet, 3232235521, by decide⟩ 3 nets ∧
      (nets.Pairwise fun net other => net.block.start + 2 ^ net.block.exponent ≤ other.block.start) ∧
      ∀ others, Covers ⟨.inet, 3232235521, by decide⟩ 3 others → nets.length ≤ others.length :=
  toNets_covers ⟨.inet, 3232235521, by decide⟩ 3 (by decide)

end OpenNebula.Vnm
