import OpenNebula.Common.VectorAttribute

namespace OpenNebula.Network

open Library

/-! # Addresses

Conversions between the texts of MAC, IPv4 and IPv6 addresses and the 32-bit words
that an address range keeps.
-/

structure Mac where
  low : Nat
  high : Nat

/-- `unsigned int ip6[4]`, the least significant word first -/
structure Ip6 where
  word0 : Nat
  word1 : Nat
  word2 : Nat
  word3 : Nat
deriving DecidableEq

/-- The higher half of an IPv6 address: `global6` and `ula6` -/
structure Prefix6 where
  low : Nat
  high : Nat
deriving DecidableEq

def shiftByte (value byte : Nat) : Nat := (value * 256 % 2 ^ 32 + byte) % 2 ^ 32

def blanked (separator : Char) (text : String) : List Char :=
  text.toList.map fun char => if char = separator then ' ' else char

def readLowBytes : Nat → Stream → Nat → Nat → Nat
  | 0, _, _, low => low
  | count + 1, stream, tmp, low =>
    let (tmp, stream) := stream.readUnsigned 16 tmp
    readLowBytes count stream tmp (shiftByte low tmp)

/-- A byte that cannot be read is not noticed: `tmp` keeps what it held, at first
whatever was in memory. -/
def macToI (text : String) (held : Mac) (tmp : Nat) : Mac × Bool :=
  if text.toList.count ':' ≠ 5 then (held, false)
  else
    let (high, stream) := (Stream.mk (blanked ':' text) false).readUnsigned 16 0
    let (tmp, stream) := stream.readUnsigned 16 tmp
    (⟨readLowBytes 4 stream tmp 0, shiftByte high tmp⟩, true)

def byteOf (value index : Nat) : Nat := value / 256 ^ index % 256

def macToS (mac : Mac) : String :=
  ":".intercalate <|
    [byteOf mac.high 1, byteOf mac.high 0, byteOf mac.low 3, byteOf mac.low 2, byteOf mac.low 1,
      byteOf mac.low 0].map fun byte => padded 2 (hexText byte)

def readIpBytes : Nat → Stream → Nat → Nat → Nat × Bool
  | 0, _, _, ip => (ip, true)
  | count + 1, stream, tmp, ip =>
    let (tmp, stream) := stream.readUnsigned 10 tmp
    if tmp > 255 ∨ stream.failed then (ip, false)
    else readIpBytes count stream tmp (shiftByte ip tmp)

/-- The variable afterwards, and whether the text was an address -/
def ipToI (text : String) (held : Nat) : Nat × Bool :=
  if text.toList.any fun char => char ∉ "0123456789.".toList then (held, false)
  else if text.toList.count '.' ≠ 3 then (held, false)
  else readIpBytes 4 ⟨blanked '.' text, false⟩ 0 0

def ipToS (ip : Nat) : String :=
  ".".intercalate <| [byteOf ip 3, byteOf ip 2, byteOf ip 1, byteOf ip 0].map toString

def eui64 (network : Prefix6) (mac : Mac) : Ip6 where
  word0 := (4261412864 + mac.low % 2 ^ 24) % 2 ^ 32
  word1 := ((mac.high ^^^ 0x0200) * 2 ^ 16 % 2 ^ 32 + mac.low / 2 ^ 24 * 2 ^ 8 + 0xFF) % 2 ^ 32
  word2 := network.low
  word3 := network.high

theorem byteOf_lt (value index : Nat) : byteOf value index < 256 := Nat.mod_lt _ (by decide)

theorem hexByte_spells {byte : Nat} (small : byte < 256) :
    Spells 16 byte (padded 2 (hexText byte)).toList ∧ ':' ∉ (padded 2 (hexText byte)).toList := by
  have all : ∀ high < 16, ∀ low < 16,
      let byte := 16 * high + low
      Spells 16 byte (List.replicate (2 - (Nat.toDigits 16 byte).length) '0' ++ Nat.toDigits 16 byte) ∧
        ':' ∉ List.replicate (2 - (Nat.toDigits 16 byte).length) '0' ++ Nat.toDigits 16 byte := by
    decide +kernel
  have digits := all (byte / 16) (by omega) (byte % 16) (by omega)
  simp only [Nat.div_add_mod] at digits
  rw [padded_hexText]
  exact digits

theorem decimalByte_spells {byte : Nat} (small : byte < 256) : Spells 10 byte (toString byte).toList ∧
      ∀ char ∈ (toString byte).toList, char ∈ "0123456789.".toList ∧ char ≠ '.' := by
  have all : ∀ high < 16, ∀ low < 16,
      let byte := 16 * high + low
      Spells 10 byte (Nat.toDigits 10 byte) ∧
        ((Nat.toDigits 10 byte).all fun char => char ∈ "0123456789.".toList ∧ char ≠ '.') = true := by
    decide +kernel
  have digits := all (byte / 16) (by omega) (byte % 16) (by omega)
  simp only [Nat.div_add_mod, List.all_eq_true, decide_eq_true_eq] at digits
  have chars : (toString byte).toList = Nat.toDigits 10 byte := Nat.toList_repr
  rw [chars]
  exact digits

theorem map_intercalate {separator : Char} {pieces : List (List Char)} (apart : ∀ piece ∈ pieces, separator ∉ piece) :
    ([separator].intercalate pieces).map (fun char => if char = separator then ' ' else char) =
      [' '].intercalate pieces := by
  have kept : ∀ piece ∈ pieces,
      piece.map (fun char => if char = separator then ' ' else char) = piece := by
    intro piece member
    refine (List.map_congr_left fun char inside => ?_).trans (List.map_id piece)
    refine if_neg fun same => ?_
    exact apart piece member (same ▸ inside)
  induction pieces with
  | nil => rfl
  | cons piece rest ih =>
    cases rest with
    | nil => simpa using kept piece List.mem_cons_self
    | cons next more =>
      rw [List.intercalate_cons_cons, List.intercalate_cons_cons, List.map_append,
        List.map_append, kept piece List.mem_cons_self,
        ih (fun other later => apart other (List.mem_cons_of_mem _ later))
          fun other later => kept other (List.mem_cons_of_mem _ later)]
      simp

theorem count_intercalate {separator : Char} {pieces : List (List Char)} (nonempty : pieces ≠ [])
    (apart : ∀ piece ∈ pieces, separator ∉ piece) :
    ([separator].intercalate pieces).count separator + 1 = pieces.length := by
  induction pieces with
  | nil => exact absurd rfl nonempty
  | cons piece rest ih =>
    have none : piece.count separator = 0 := List.count_eq_zero.2 (apart piece List.mem_cons_self)
    cases rest with
    | nil => simpa using none
    | cons next more =>
      have counted := ih (List.cons_ne_nil _ _)
        fun other later => apart other (List.mem_cons_of_mem _ later)
      rw [List.intercalate_cons_cons, List.count_append, List.count_append, none]
      simp only [List.length_cons] at counted ⊢
      simp only [List.count_singleton_self]
      omega

theorem readUnsigned_piece {base byte : Nat} {lead piece : List Char} {rest : List (List Char)}
    (spells : Spells base byte piece) (small : byte < 256)
    (blanks : ∀ char ∈ lead, isBlank char = true) (held : Nat) :
    ∃ blank : List Char, (∀ char ∈ blank, isBlank char = true) ∧
      (Stream.mk (lead ++ [' '].intercalate (piece :: rest)) false).readUnsigned base held =
        (byte, ⟨blank ++ [' '].intercalate rest, false⟩) := by
  have fits : byte < 2 ^ 32 := by omega
  cases rest with
  | nil =>
    refine ⟨[], by simp, ?_⟩
    have read := @Stream.readUnsigned_spelled base byte lead piece [] spells fits blanks
      (by simp) held
    simpa using read
  | cons next more =>
    refine ⟨[' '], List.forall_mem_singleton.2 rfl, ?_⟩
    rw [List.intercalate_cons_cons, List.append_assoc]
    exact Stream.readUnsigned_spelled spells fits blanks (by simp) held

def SpellBytes (base : Nat) (separator : Char) (bytes : List Nat) (pieces : List (List Char)) : Prop :=
  List.Forall₂ (fun byte piece => Spells base byte piece ∧ byte < 256 ∧ separator ∉ piece) bytes
    pieces

variable {base : Nat} {separator : Char} {bytes : List Nat} {pieces : List (List Char)}
  {lead : List Char}

theorem SpellBytes.apart (spells : SpellBytes base separator bytes pieces) : ∀ piece ∈ pieces, separator ∉ piece := by
  induction spells with
  | nil => simp
  | cons isByte _ ih => exact List.forall_mem_cons.2 ⟨isByte.2.2, ih⟩

theorem SpellBytes.map {text : Nat → List Char}
    (spells : ∀ byte < 256, Spells base byte (text byte) ∧ separator ∉ text byte)
    (small : ∀ byte ∈ bytes, byte < 256) : SpellBytes base separator bytes (bytes.map text) := by
  induction bytes with
  | nil => exact .nil
  | cons byte rest ih =>
    obtain ⟨isByte, others⟩ := List.forall_mem_cons.1 small
    exact .cons ⟨(spells byte isByte).1, isByte, (spells byte isByte).2⟩ (ih others)

theorem readLowBytes_spelled (spells : SpellBytes 16 separator bytes pieces)
    (blanks : ∀ char ∈ lead, isBlank char = true) (tmp low : Nat) :
    readLowBytes bytes.length ⟨lead ++ [' '].intercalate pieces, false⟩ tmp low = bytes.foldl shiftByte low := by
  induction spells generalizing lead tmp low with
  | nil => rfl
  | cons isByte _ ih =>
    obtain ⟨blank, isBlank, read⟩ := readUnsigned_piece isByte.1 isByte.2.1 blanks tmp
    simp only [List.length_cons, readLowBytes, List.foldl_cons]
    rw [read]
    exact ih isBlank _ _

theorem readIpBytes_spelled (spells : SpellBytes 10 separator bytes pieces)
    (blanks : ∀ char ∈ lead, isBlank char = true) (tmp ip : Nat) :
    readIpBytes bytes.length ⟨lead ++ [' '].intercalate pieces, false⟩ tmp ip = (bytes.foldl shiftByte ip, true) := by
  induction spells generalizing lead tmp ip with
  | nil => rfl
  | @cons byte piece bytes pieces isByte _ ih =>
    obtain ⟨blank, isBlank, read⟩ := readUnsigned_piece isByte.1 isByte.2.1 blanks tmp
    have small : ¬byte > 255 := Nat.not_lt.2 (Nat.le_of_lt_succ isByte.2.1)
    simp only [List.length_cons, readIpBytes, List.foldl_cons]
    rw [read]
    simp only [small, Bool.false_eq_true, or_self, if_false]
    exact ih isBlank _ _

theorem foldl_shiftByte {value : Nat} (word : value < 2 ^ 32) :
    [byteOf value 3, byteOf value 2, byteOf value 1, byteOf value 0].foldl shiftByte 0 = value := by
  simp only [List.foldl, shiftByte, byteOf]
  omega

theorem macToI_spelled {text : String} {first second : Nat}
    (spells : SpellBytes 16 ':' (first :: second :: bytes) pieces) (four : bytes.length = 4)
    (chars : text.toList = [':'].intercalate pieces) (held : Mac) (tmp : Nat) :
    macToI text held tmp = (⟨bytes.foldl shiftByte 0, shiftByte first second⟩, true) := by
  have five : text.toList.count ':' = 5 := by
    have some : pieces ≠ [] := by
      rintro rfl
      cases spells
    have counted := count_intercalate some spells.apart
    rw [← List.Forall₂.length_eq spells, List.length_cons, List.length_cons, four] at counted
    rw [chars]
    exact Nat.succ.inj counted
  have isBlanked : blanked ':' text = [] ++ [' '].intercalate pieces := by
    rw [blanked, chars, map_intercalate spells.apart, List.nil_append]
  simp only [macToI, five, ne_eq, not_true, if_false, isBlanked]
  cases spells with
  | cons isFirst others =>
    cases others with
    | cons isSecond rest =>
      obtain ⟨blank, blanks, readFirst⟩ := readUnsigned_piece isFirst.1 isFirst.2.1 (List.forall_mem_nil _) 0
      obtain ⟨later, laterBlanks, readSecond⟩ := readUnsigned_piece isSecond.1 isSecond.2.1 blanks tmp
      rw [readFirst, readSecond, ← four]
      simp only [readLowBytes_spelled rest laterBlanks _ _]

theorem macToI_written {mac : Mac} (word : mac.low < 2 ^ 32) (held : Mac) (tmp : Nat) :
    macToI (macToS mac) held tmp = (⟨mac.low, mac.high % 2 ^ 16⟩, true) := by
  have chars : (macToS mac).toList = [':'].intercalate _ :=
    String.toList_intercalate.trans (congrArg _ (List.map_map ..))
  have high : shiftByte (byteOf mac.high 1) (byteOf mac.high 0) = mac.high % 2 ^ 16 := by
    simp only [shiftByte, byteOf]
    omega
  rw [macToI_spelled (SpellBytes.map (fun byte => hexByte_spells) ?_) rfl chars, foldl_shiftByte word, high]
  simp only [List.forall_mem_cons, byteOf_lt, List.not_mem_nil, false_imp_iff, implies_true, and_self]

theorem macToI_macToS {mac : Mac} (word : mac.low < 2 ^ 32) (held : Mac) (tmp : Nat) :
    (macToI (macToS mac) held tmp).1.low = mac.low := by
  rw [macToI_written word]

theorem mem_intercalate {char : Char} (member : char ∈ [separator].intercalate pieces) :
    char = separator ∨ ∃ piece ∈ pieces, char ∈ piece := by
  induction pieces with
  | nil => simp at member
  | cons piece rest ih =>
    cases rest with
    | nil => exact .inr ⟨piece, List.mem_cons_self, by simpa using member⟩
    | cons next more =>
      rw [List.intercalate_cons_cons, List.mem_append, List.mem_append, List.mem_singleton] at member
      rcases member with (here | isSeparator) | later
      · exact .inr ⟨piece, List.mem_cons_self, here⟩
      · exact .inl isSeparator
      · rcases ih later with isSeparator | ⟨other, among, inside⟩
        · exact .inl isSeparator
        · exact .inr ⟨other, List.mem_cons_of_mem _ among, inside⟩

theorem ipToI_spelled {text : String} (spells : SpellBytes 10 '.' bytes pieces)
    (four : bytes.length = 4) (chars : text.toList = ['.'].intercalate pieces)
    (digits : ∀ piece ∈ pieces, ∀ char ∈ piece, char ∈ "0123456789.".toList) (held : Nat) :
    ipToI text held = (bytes.foldl shiftByte 0, true) := by
  have allowed : ¬(text.toList.any fun char => char ∉ "0123456789.".toList) = true := by
    rw [List.any_eq_true]
    rintro ⟨char, member, notAllowed⟩
    refine of_decide_eq_true notAllowed ?_
    rcases mem_intercalate (chars ▸ member) with rfl | ⟨piece, among, inside⟩
    · decide
    · exact digits piece among char inside
  have three : text.toList.count '.' = 3 := by
    have some : pieces ≠ [] := by
      rintro rfl
      cases spells
      cases four
    have counted := count_intercalate some spells.apart
    rw [← List.Forall₂.length_eq spells, four] at counted
    rw [chars]
    exact Nat.succ.inj counted
  have isBlanked : blanked '.' text = [] ++ [' '].intercalate pieces := by
    rw [blanked, chars, map_intercalate spells.apart, List.nil_append]
  rw [ipToI, if_neg allowed, three, if_neg (not_not_intro rfl), isBlanked, ← four]
  exact readIpBytes_spelled spells (List.forall_mem_nil _) 0 0

theorem ipToI_ipToS {ip : Nat} (word : ip < 2 ^ 32) (held : Nat) : ipToI (ipToS ip) held = (ip, true) := by
  have chars : (ipToS ip).toList = ['.'].intercalate _ :=
    String.toList_intercalate.trans (congrArg _ (List.map_map ..))
  have small : ∀ byte ∈ [byteOf ip 3, byteOf ip 2, byteOf ip 1, byteOf ip 0], byte < 256 := by
    simp only [List.forall_mem_cons, byteOf_lt, List.not_mem_nil, false_imp_iff, implies_true, and_self]
  have spells : ∀ byte < 256, Spells 10 byte (toString byte).toList ∧ '.' ∉ (toString byte).toList :=
    fun byte isByte => ⟨(decimalByte_spells isByte).1, fun member => ((decimalByte_spells isByte).2 '.' member).2 rfl⟩
  rw [ipToI_spelled (.map spells small) rfl chars, foldl_shiftByte word]
  intro piece member char inside
  obtain ⟨byte, isByte, rfl⟩ := List.mem_map.1 member
  exact ((decimalByte_spells (small byte isByte)).2 char inside).1

end OpenNebula.Network
