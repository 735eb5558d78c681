import OpenNebula.Network.Persistence

namespace OpenNebula.Network

open Common
open Library

/-! # The addresses of an index

The index is added to the lowest word of the first address.  The address is found again from its
text as long as the word does not overflow; an address with a part made from the MAC is found by
its MAC only.
-/

def Mac.number (mac : Mac) : Nat := mac.high * 2 ^ 32 + mac.low

def Ip6.number (ip6 : Ip6) : Nat :=
  ip6.word3 * 2 ^ 96 + ip6.word2 * 2 ^ 64 + ip6.word1 * 2 ^ 32 + ip6.word0

structure Ip6.Words (ip6 : Ip6) : Prop where
  word0 : ip6.word0 < 2 ^ 32
  word1 : ip6.word1 < 2 ^ 32
  word2 : ip6.word2 < 2 ^ 32
  word3 : ip6.word3 < 2 ^ 32

structure Prefix6.Words (network : Prefix6) : Prop where
  low : network.low < 2 ^ 32
  high : network.high < 2 ^ 32

/-- `inet_pton` reads what `inet_ntop` writes. -/
def Environment.ReadsBack (env : Environment) : Prop :=
  ∀ ip6 : Ip6, ip6.Words → env.inetNtop ip6 ≠ "" ∧ env.inetPton (env.inetNtop ip6) = some ip6

namespace AddressRange

variable (env : Environment) (ar : AddressRange)

/-- The words of a range are of `unsigned int`, its MAC has 48 bits, and its size 64. -/
structure Words : Prop where
  macLow : ar.mac.low < 2 ^ 32
  macHigh : ar.mac.high < 2 ^ 16
  ip : ar.ip < 2 ^ 32
  ip6 : ar.ip6.Words
  global6 : ar.global6.Words
  ula6 : ar.ula6.Words
  size : ar.size < 2 ^ 64

def lastIndex : Nat := (ar.size + 2 ^ 64 - 1) % 2 ^ 64

def macEnd : Mac := { ar.mac with low := (ar.mac.low + ar.lastIndex) % 2 ^ 32 }

def ip6End : Ip6 :=
  { ar.ip6 with
    word1 := (ar.ip6.word1 + ar.lastIndex / 2 ^ 32) % 2 ^ 32
    word0 := (ar.ip6.word0 + ar.lastIndex) % 2 ^ 32 }

/-- The first and the last address with a prefix that is set -/
def prefixAttributes (name : String) (network : Prefix6) : List (String × String) :=
  if network = ⟨0, 0⟩ then []
  else
    [(name, env.inetNtop (eui64 network ar.mac)), (name ++ "_END", env.inetNtop (eui64 network ar.macEnd))]

def ipAttributes : List (String × String) :=
  if ar.isIpv4 then
    match ipToI (ar.attr.vectorValue "IP") env.unset with
    | (ip, true) => [("IP_END", ipToS ((ip + ar.lastIndex) % 2 ^ 32))]
    | (_, false) => []
  else []

def staticAttributes : List (String × String) :=
  if ar.isIpv6Static then [("IP6_END", env.inetNtop ar.ip6End)] else []

def addressAttributes : List (String × String) :=
  ("MAC_END", macToS ar.macEnd) ::
    (ar.ipAttributes env ++ (if ar.isIpv6 then
          ar.prefixAttributes env "IP6_ULA" ar.ula6 ++ ar.prefixAttributes env "IP6_GLOBAL" ar.global6
        else []) ++
      ar.staticAttributes env)

def printed (name : String) : Option String := (ar.addressAttributes env).lookup name

structure Asked (index : Nat) (checkFree : Bool) : Prop where
  word : index < 2 ^ 32
  inside : index < ar.size
  free : checkFree = true → index ∉ ar.allocated

def text (write : Nat → VectorAttribute → VectorAttribute) (name : String) (index : Nat) : String :=
  (write index ∅).vectorValue name

/-- Different indices have different texts. -/
def Apart (write : Nat → VectorAttribute → VectorAttribute) (name : String) : Prop :=
  ∀ first second, first < 2 ^ 32 → second < 2 ^ 32 →
    text write name first = text write name second → first = second

/-- The texts of the addresses of a range and the functions that read them -/
structure AddressesAgree : Prop where
  mac : ∀ index checkFree, ar.Asked index checkFree → ar.mac.low + index < 2 ^ 32 →
    ar.isValidMac env (text ar.setMac "MAC" index) checkFree = some index
  ip : ar.isIpv4 = true → ∀ index checkFree, ar.Asked index checkFree → ar.ip + index < 2 ^ 32 →
    ar.isValidIp env (text ar.setIp "IP" index) checkFree = some index
  ip6 : ar.isIpv6Static = true → ∀ index checkFree, ar.Asked index checkFree →
    ar.ip6.word0 + index < 2 ^ 32 →
      ar.isValidIp6 env (text (ar.setIp6Static env) "IP6" index) checkFree = some index
  generated : ar.isIpv6Static = false → ∀ text checkFree, ar.isValidIp6 env text checkFree = none
  macApart : Apart ar.setMac "MAC"
  ipApart : Apart ar.setIp "IP"
  ip6Apart : Apart (ar.setIp6Static env) "IP6"
  linkApart : Apart (ar.setIp6 env) "IP6_LINK"
  ulaApart : ar.ula6 ≠ ⟨0, 0⟩ → Apart (ar.setIp6 env) "IP6_ULA"
  globalApart : ar.global6 ≠ ⟨0, 0⟩ → Apart (ar.setIp6 env) "IP6_GLOBAL"
  macEnd : 0 < ar.size → ar.printed env "MAC_END" = some (text ar.setMac "MAC" (ar.size - 1)) ∧
    (ar.mac.low + (ar.size - 1) < 2 ^ 32 →
      (ar.newMac (ar.size - 1)).number = (ar.mac.number + (ar.size - 1)) % 2 ^ 48)
  ipEnd : ar.isIpv4 = true → 0 < ar.size →
    ar.printed env "IP_END" = some (ipToS ((ar.ip + (ar.size - 1)) % 2 ^ 32))
  ulaEnd : ar.isIpv6 = true → ar.ula6 ≠ ⟨0, 0⟩ → 0 < ar.size →
    ar.printed env "IP6_ULA_END" = some (text (ar.setIp6 env) "IP6_ULA" (ar.size - 1))
  globalEnd : ar.isIpv6 = true → ar.global6 ≠ ⟨0, 0⟩ → 0 < ar.size →
    ar.printed env "IP6_GLOBAL_END" = some (text (ar.setIp6 env) "IP6_GLOBAL" (ar.size - 1))
  staticEnd : ar.isIpv6Static = true → 0 < ar.size → ar.size ≤ 2 ^ 32 →
    ar.printed env "IP6_END" = some (text (ar.setIp6Static env) "IP6" (ar.size - 1))
  ip6End : ar.isIpv6Static = true → 0 < ar.size → ar.ip6.word0 + (ar.size - 1) % 2 ^ 32 < 2 ^ 32 →
    ar.ip6.word1 + (ar.size - 1) / 2 ^ 32 < 2 ^ 32 →
      ∃ last : Ip6, ar.printed env "IP6_END" = some (env.inetNtop last) ∧
        last.number = (ar.ip6.number + (ar.size - 1)) % 2 ^ 128

variable {env ar}

theorem text_setMac (ar : AddressRange) (index : Nat) : text ar.setMac "MAC" index = macToS (ar.newMac index) := by
  simp [text, setMac]

theorem text_setIp (ar : AddressRange) (index : Nat) :
    text ar.setIp "IP" index = ipToS ((ar.ip + index) % 2 ^ 32) := by
  simp [text, setIp]

section

variable (env : Environment)

theorem text_setIp6Static (ar : AddressRange) (index : Nat) :
    text (ar.setIp6Static env) "IP6" index =
      env.inetNtop { ar.ip6 with word0 := (ar.ip6.word0 + index) % 2 ^ 32 } := by
  simp [text, setIp6Static]

theorem text_link (ar : AddressRange) (index : Nat) :
    text (ar.setIp6 env) "IP6_LINK" index = env.inetNtop (eui64 ⟨0, 0xfe800000⟩ (ar.newMac index)) := by
  simp only [text, setIp6]
  split <;> split <;> simp

theorem text_ula (isSet : ar.ula6 ≠ ⟨0, 0⟩) (index : Nat) :
    text (ar.setIp6 env) "IP6_ULA" index = env.inetNtop (eui64 ar.ula6 (ar.newMac index)) := by
  simp only [text, setIp6, if_pos isSet]
  split <;> simp

theorem text_global (isSet : ar.global6 ≠ ⟨0, 0⟩) (index : Nat) :
    text (ar.setIp6 env) "IP6_GLOBAL" index = env.inetNtop (eui64 ar.global6 (ar.newMac index)) := by
  simp [text, setIp6, if_pos isSet]

end

theorem newMac_low (ar : AddressRange) (index : Nat) : (ar.newMac index).low < 2 ^ 32 :=
  Nat.mod_lt _ (by decide)

variable {index : Nat} {checkFree : Bool} {network : Prefix6} {name : String}

theorem isValidIndex_asked (asked : ar.Asked index checkFree) : ar.isValidIndex index checkFree = some index := by
  have inside := asked.inside
  have small : index % 2 ^ 32 = index := Nat.mod_eq_of_lt asked.word
  have refused : ¬((checkFree = true ∧ index ∈ ar.allocated) ∨ ar.size ≤ index) := by
    rintro (⟨checks, taken⟩ | outside)
    · exact asked.free checks taken
    · omega
  simp only [isValidIndex, small, if_neg refused]

theorem isValidMac_text (words : ar.Words) (asked : ar.Asked index checkFree)
    (noCarry : ar.mac.low + index < 2 ^ 32) :
    ar.isValidMac env (text ar.setMac "MAC" index) checkFree = some index := by
  have low : (ar.mac.low + index) % 2 ^ 32 = ar.mac.low + index := Nat.mod_eq_of_lt noCarry
  have notBefore : ¬ar.mac.low + index < ar.mac.low := by omega
  rw [isValidMac, text_setMac, macToI_written (newMac_low ar index)]
  simp only [newMac, low, Nat.mod_eq_of_lt words.macHigh, ne_eq, not_true, notBefore, or_self, if_false,
    Nat.add_sub_cancel_left]
  exact isValidIndex_asked asked

theorem isValidIp_text (isIpv4 : ar.isIpv4 = true) (asked : ar.Asked index checkFree)
    (noCarry : ar.ip + index < 2 ^ 32) : ar.isValidIp env (text ar.setIp "IP" index) checkFree = some index := by
  have notBefore : ¬ar.ip + index < ar.ip := by omega
  rw [isValidIp, text_setIp, Nat.mod_eq_of_lt noCarry, ipToI_ipToS noCarry, isIpv4]
  simp only [Bool.not_true, Bool.false_eq_true, if_false, notBefore, Nat.add_sub_cancel_left]
  exact isValidIndex_asked asked

theorem isValidIp6_text (library : env.ReadsBack) (words : ar.Words) (isStatic : ar.isIpv6Static = true)
    (asked : ar.Asked index checkFree) (noCarry : ar.ip6.word0 + index < 2 ^ 32) :
    ar.isValidIp6 env (text (ar.setIp6Static env) "IP6" index) checkFree = some index := by
  have notBefore : ¬ar.ip6.word0 + index < ar.ip6.word0 := by omega
  obtain ⟨filled, isRead⟩ := library { ar.ip6 with word0 := ar.ip6.word0 + index }
    ⟨noCarry, words.ip6.word1, words.ip6.word2, words.ip6.word3⟩
  rw [isValidIp6, text_setIp6Static, Nat.mod_eq_of_lt noCarry, ip6ToI, if_neg filled, isRead, isStatic]
  simp only [Bool.not_true, Bool.false_eq_true, if_false, ne_eq, not_true, notBefore, or_self,
    Nat.add_sub_cancel_left]
  exact isValidIndex_asked asked

theorem apart_of_injective {write : Nat → VectorAttribute → VectorAttribute} {name : String} {word : Nat}
    (injective : ∀ first second, text write name first = text write name second →
      (word + first) % 2 ^ 32 = (word + second) % 2 ^ 32) : Apart write name := by
  intro first second isFirst isSecond same
  have sameWord := injective first second same
  omega

theorem macToS_injective {first second : Mac} (isFirst : first.low < 2 ^ 32) (isSecond : second.low < 2 ^ 32)
    (same : macToS first = macToS second) : first.low = second.low := by
  have readFirst := macToI_macToS isFirst ⟨0, 0⟩ 0
  have readSecond := macToI_macToS isSecond ⟨0, 0⟩ 0
  rw [← readFirst, ← readSecond, same]

theorem ipToS_injective {first second : Nat} (isFirst : first < 2 ^ 32) (isSecond : second < 2 ^ 32)
    (same : ipToS first = ipToS second) : first = second := by
  have isRead := ipToI_ipToS isFirst 0
  rw [same, ipToI_ipToS isSecond 0] at isRead
  exact (Prod.mk.inj isRead).1.symm

theorem inetNtop_injective (library : env.ReadsBack) {first second : Ip6} (isFirst : first.Words)
    (isSecond : second.Words) (same : env.inetNtop first = env.inetNtop second) : first = second := by
  have isRead := (library first isFirst).2
  rw [same, (library second isSecond).2] at isRead
  exact (Option.some.inj isRead).symm

theorem static_words (words : ar.Words) (index : Nat) :
    ({ ar.ip6 with word0 := (ar.ip6.word0 + index) % 2 ^ 32 } : Ip6).Words :=
  ⟨Nat.mod_lt _ (by decide), words.ip6.word1, words.ip6.word2, words.ip6.word3⟩

theorem eui64_words (words : network.Words) (mac : Mac) : (eui64 network mac).Words :=
  ⟨Nat.mod_lt _ (by decide), Nat.mod_lt _ (by decide), words.low, words.high⟩

theorem eui64_injective {first second : Mac} (isFirst : first.low < 2 ^ 32) (isSecond : second.low < 2 ^ 32)
    (sameHigh : first.high = second.high) (same : eui64 network first = eui64 network second) :
    first.low = second.low := by
  have lowBits := congrArg Ip6.word0 same
  have highBits := congrArg Ip6.word1 same
  simp only [eui64, sameHigh] at lowBits highBits
  generalize second.high ^^^ 0x0200 = high at highBits
  omega

theorem generated_apart (library : env.ReadsBack) {network : Prefix6} (isNetwork : network.Words) {name : String}
    (isText : ∀ index, text (ar.setIp6 env) name index = env.inetNtop (eui64 network (ar.newMac index))) :
    Apart (ar.setIp6 env) name := by
  refine @apart_of_injective _ _ ar.mac.low fun first second same => ?_
  rw [isText, isText] at same
  have sameWords := inetNtop_injective library (eui64_words isNetwork _) (eui64_words isNetwork _) same
  exact eui64_injective (newMac_low ar first) (newMac_low ar second) rfl sameWords

theorem lastIndex_eq (words : ar.Words) (filled : 0 < ar.size) : ar.lastIndex = ar.size - 1 := by
  have size := words.size
  rw [lastIndex]
  omega

theorem macEnd_eq (words : ar.Words) (filled : 0 < ar.size) : ar.macEnd = ar.newMac (ar.size - 1) := by
  rw [AddressRange.macEnd, newMac, lastIndex_eq words filled]

theorem lookup_prefixAttributes (network : Prefix6) {other : String} (apart : name ≠ other)
    (apartEnd : name ≠ other ++ "_END") : (ar.prefixAttributes env other network).lookup name = none := by
  rw [prefixAttributes]
  split
  · rfl
  · have first : (name == other) = false := beq_eq_false_iff_ne.2 apart
    have second : (name == other ++ "_END") = false := beq_eq_false_iff_ne.2 apartEnd
    simp only [List.lookup_cons, List.lookup_nil, first, second]

theorem lookup_prefixEnd (isSet : network ≠ ⟨0, 0⟩) {other : String} (isEnd : name = other ++ "_END")
    (apart : name ≠ other) :
    (ar.prefixAttributes env other network).lookup name = some (env.inetNtop (eui64 network ar.macEnd)) := by
  have first : (name == other) = false := beq_eq_false_iff_ne.2 apart
  have second : (name == other ++ "_END") = true := beq_iff_eq.2 isEnd
  simp only [prefixAttributes, if_neg isSet, List.lookup_cons, first, second]

theorem lookup_ipAttributes (apart : name ≠ "IP_END") : (ar.ipAttributes env).lookup name = none := by
  have other : (name == "IP_END") = false := beq_eq_false_iff_ne.2 apart
  rw [ipAttributes]
  split
  · split <;> simp [List.lookup_cons, other]
  · rfl

theorem printed_eq (env : Environment) (ar : AddressRange) (apart : name ≠ "MAC_END") : ar.printed env name =
      ((ar.ipAttributes env).lookup name).or ((if ar.isIpv6 then
        ((ar.prefixAttributes env "IP6_ULA" ar.ula6).lookup name).or
          ((ar.prefixAttributes env "IP6_GLOBAL" ar.global6).lookup name) else none).or
        ((ar.staticAttributes env).lookup name)) := by
  have other : (name == "MAC_END") = false := beq_eq_false_iff_ne.2 apart
  simp only [printed, addressAttributes, List.lookup_cons, other, List.lookup_append, Option.or_assoc]
  cases ar.isIpv6 with
  | true => simp only [if_true, List.lookup_append]
  | false => rfl

theorem printed_ip (reads : ar.ReadsIp) (isIpv4 : ar.isIpv4 = true) (words : ar.Words) (filled : 0 < ar.size) :
    ar.printed env "IP_END" = some (ipToS ((ar.ip + (ar.size - 1)) % 2 ^ 32)) := by
  rw [printed_eq env ar (by decide), ipAttributes, if_pos isIpv4, reads isIpv4, lastIndex_eq words filled]
  rfl

theorem printed_ula (isIpv6 : ar.isIpv6 = true) (isSet : ar.ula6 ≠ ⟨0, 0⟩) (words : ar.Words) (filled : 0 < ar.size) :
    ar.printed env "IP6_ULA_END" = some (text (ar.setIp6 env) "IP6_ULA" (ar.size - 1)) := by
  rw [printed_eq env ar (by decide), lookup_ipAttributes (by decide), if_pos isIpv6,
    lookup_prefixEnd isSet (by decide) (by decide), text_ula env isSet, macEnd_eq words filled]
  rfl

theorem printed_global (isIpv6 : ar.isIpv6 = true) (isSet : ar.global6 ≠ ⟨0, 0⟩) (words : ar.Words)
    (filled : 0 < ar.size) :
    ar.printed env "IP6_GLOBAL_END" = some (text (ar.setIp6 env) "IP6_GLOBAL" (ar.size - 1)) := by
  rw [printed_eq env ar (by decide), lookup_ipAttributes (by decide), if_pos isIpv6,
    lookup_prefixAttributes _ (by decide) (by decide), lookup_prefixEnd isSet (by decide) (by decide),
    text_global env isSet, macEnd_eq words filled]
  rfl

theorem printed_ip6 (isStatic : ar.isIpv6Static = true) :
    ar.printed env "IP6_END" = some (env.inetNtop ar.ip6End) := by
  have notBoth : ar.isIpv6 = false := by
    revert isStatic
    rw [isIpv6Static, isIpv6]
    cases ar.type <;> decide
  rw [printed_eq env ar (by decide), lookup_ipAttributes (by decide), notBoth, staticAttributes, if_pos isStatic]
  rfl

theorem ip6End_number (words : ar.Words) (filled : 0 < ar.size)
    (noCarry0 : ar.ip6.word0 + (ar.size - 1) % 2 ^ 32 < 2 ^ 32)
    (noCarry1 : ar.ip6.word1 + (ar.size - 1) / 2 ^ 32 < 2 ^ 32) :
    ar.ip6End.number = (ar.ip6.number + (ar.size - 1)) % 2 ^ 128 := by
  obtain ⟨isWord0, isWord1, isWord2, isWord3⟩ := words.ip6
  have size := words.size
  simp only [Ip6.number, AddressRange.ip6End, lastIndex_eq words filled]
  omega

theorem newMac_number (words : ar.Words) (noCarry : ar.mac.low + index < 2 ^ 32) :
    (ar.newMac index).number = (ar.mac.number + index) % 2 ^ 48 := by
  have high := words.macHigh
  simp only [Mac.number, newMac]
  omega

theorem addresses_agree (library : env.ReadsBack) (words : ar.Words) (reads : ar.ReadsIp) :
    ar.AddressesAgree env where
  mac _ _ asked noCarry := isValidMac_text words asked noCarry
  ip isIpv4 _ _ asked noCarry := isValidIp_text isIpv4 asked noCarry
  ip6 isStatic _ _ asked noCarry := isValidIp6_text library words isStatic asked noCarry
  generated notStatic _ _ := by
    rw [isValidIp6, notStatic]
    rfl
  macApart := by
    refine @apart_of_injective _ _ ar.mac.low fun first second same => ?_
    rw [text_setMac, text_setMac] at same
    exact macToS_injective (newMac_low ar first) (newMac_low ar second) same
  ipApart := by
    refine @apart_of_injective _ _ ar.ip fun first second same => ?_
    rw [text_setIp, text_setIp] at same
    exact ipToS_injective (Nat.mod_lt _ (by decide)) (Nat.mod_lt _ (by decide)) same
  ip6Apart := by
    refine @apart_of_injective _ _ ar.ip6.word0 fun first second same => ?_
    rw [text_setIp6Static, text_setIp6Static] at same
    have sameWords := inetNtop_injective library (static_words words first) (static_words words second) same
    exact congrArg Ip6.word0 sameWords
  linkApart := generated_apart library ⟨by decide, by decide⟩ (text_link env ar)
  ulaApart isSet := generated_apart library words.ula6 (text_ula env isSet)
  globalApart isSet := generated_apart library words.global6 (text_global env isSet)
  macEnd filled := by
    refine ⟨?_, newMac_number words⟩
    rw [text_setMac, ← macEnd_eq words filled]
    rfl
  ipEnd isIpv4 filled := printed_ip reads isIpv4 words filled
  ulaEnd isIpv6 isSet filled := printed_ula isIpv6 isSet words filled
  globalEnd isIpv6 isSet filled := printed_global isIpv6 isSet words filled
  staticEnd isStatic filled short := by
    have high : (ar.size - 1) / 2 ^ 32 = 0 := Nat.div_eq_of_lt (by omega)
    rw [printed_ip6 isStatic, text_setIp6Static, AddressRange.ip6End, lastIndex_eq words filled, high, Nat.add_zero,
      Nat.mod_eq_of_lt words.ip6.word1]
  ip6End isStatic filled noCarry0 noCarry1 :=
    ⟨ar.ip6End, printed_ip6 isStatic, ip6End_number words filled noCarry0 noCarry1⟩

def ip6OfNumber (number : Nat) : Ip6 :=
  ⟨number % 2 ^ 32, number / 2 ^ 32 % 2 ^ 32, number / 2 ^ 64 % 2 ^ 32, number / 2 ^ 96⟩

def documented (host : Nat) : Ip6 := ⟨host, 0, 0, 0x20010DB8⟩

def documentedLibrary : Environment :=
  { Networks.plainEnvironment with
    inetNtop := fun ip6 =>
      if ip6 = documented 1 then "2001:db8::1"
      else if ip6 = documented 2 then "2001:db8::2"
      else toString ip6.number
    inetPton := fun text =>
      if text = "2001:db8::1" then some (documented 1)
      else if text = "2001:db8::2" then some (documented 2)
      else (readDigits 10 text.toList none).1.map ip6OfNumber }

theorem toString_ne {number : Nat} {text : String} (colon : ':' ∈ text.toList) : toString number ≠ text := by
  rintro rfl
  rw [show (toString number).toList = Nat.toDigits 10 number from Nat.toList_repr] at colon
  exact absurd (Nat.isDigit_of_mem_toDigits (by decide) (by decide) colon) (by decide)

theorem ip6OfNumber_number {ip6 : Ip6} (words : ip6.Words) : ip6OfNumber ip6.number = ip6 := by
  obtain ⟨word0, word1, word2, word3⟩ := ip6
  obtain ⟨isWord0, isWord1, isWord2, isWord3⟩ := words
  simp only at isWord0 isWord1 isWord2 isWord3
  simp only [ip6OfNumber, Ip6.number, Ip6.mk.injEq]
  omega

theorem documentedLibrary_readsBack : documentedLibrary.ReadsBack := by
  intro ip6 words
  simp only [documentedLibrary]
  by_cases isFirst : ip6 = documented 1
  · rw [if_pos isFirst, isFirst]
    exact ⟨by decide, rfl⟩
  · by_cases isSecond : ip6 = documented 2
    · rw [if_neg isFirst, if_pos isSecond, isSecond]
      exact ⟨by decide, by decide⟩
    · rw [if_neg isFirst, if_neg isSecond]
      have digits : (toString ip6.number).toList = Nat.toDigits 10 ip6.number := Nat.toList_repr
      have filled : toString ip6.number ≠ "" := by
        intro empty
        obtain ⟨digit, rest, -, isText⟩ := toDigits_cons ip6.number
        rw [empty, isText] at digits
        cases digits
      refine ⟨filled, ?_⟩
      rw [if_neg (toString_ne (by decide)), if_neg (toString_ne (by decide)), digits, readDigits_toDigits,
        Option.map_some, ip6OfNumber_number words]

/-- `AR = [ TYPE = "IP4_6_STATIC", IP = "10.0.0.1", IP6 = "2001:db8::1", SIZE = "2" ]` -/
def dualStack : AddressRange :=
  { id := 0, manager := .internal 0, type := .ip46Static, size := 2, ip := 0x0A000001,
    mac := ⟨0x0A000001, 0x0200⟩, ip6 := documented 1, attr := (∅ : VectorAttribute).replace "IP" "10.0.0.1" }

/-- The second address of each kind is found, and is the last one. -/
theorem addresses_agree_second : dualStack.isValidMac documentedLibrary "02:00:0a:00:00:02" true = some 1 ∧
      dualStack.isValidIp documentedLibrary "10.0.0.2" true = some 1 ∧
      dualStack.isValidIp6 documentedLibrary "2001:db8::2" true = some 1 ∧
      dualStack.printed documentedLibrary "IP_END" = some "10.0.0.2" ∧
      dualStack.printed documentedLibrary "IP6_END" = some "2001:db8::2" := by
  have words : dualStack.Words := by
    constructor <;> first | decide | constructor <;> decide
  have reads : dualStack.ReadsIp := fun _ => ipToI_held (show ipToI "10.0.0.1" 0 = (0x0A000001, true) by decide)
  have agree := addresses_agree documentedLibrary_readsBack words reads
  have asked : dualStack.Asked 1 true := ⟨by decide, by decide, fun _ => AList.notMem_empty 1⟩
  have ip := agree.ipEnd (by decide) (by decide)
  have ip6 := agree.staticEnd (by decide) (by decide) (by decide)
  exact ⟨agree.mac 1 true asked (by decide), agree.ip (by decide) 1 true asked (by decide),
    agree.ip6 (by decide) 1 true asked (by decide), ip, ip6⟩

/-- `AR = [ TYPE = "IP6", ULA_PREFIX = "fd00::", SIZE = "1" ]` -/
def uniqueLocal : AddressRange :=
  { id := 0, manager := .internal 0, type := .ip6, size := 1, mac := ⟨1, 0x0200⟩, ula6 := ⟨0, 0xfd000000⟩ }

/-- The address that is generated from the MAC is not found by its text. -/
theorem generated_not_found :
    ¬∀ (env : Environment) (ar : AddressRange) (index : Nat), env.ReadsBack → ar.Words → ar.isIpv6 = true →
      ar.ula6 ≠ ⟨0, 0⟩ → ar.Asked index false →
        ar.isValidIp6 env (text (ar.setIp6 env) "IP6_ULA" index) false = some index := by
  intro always
  have words : uniqueLocal.Words := by
    constructor <;> first | decide | constructor <;> decide
  have found := always documentedLibrary uniqueLocal 0 documentedLibrary_readsBack words (by decide) (by decide)
    ⟨by decide, by decide, fun checks => by cases checks⟩
  cases found

end AddressRange

end OpenNebula.Network
