import OpenNebula.Network.Accounting
import OpenNebula.Network.FreeRange
import OpenNebula.Network.Resize

namespace OpenNebula.Network

open Common
open Library

/-! # Ranges that are stored and loaded (`from_vattr_db`)

The database keeps the attribute of a range, and a range is loaded from it alone.  What the range
holds besides has to be what the loader reads there, after every operation.
-/

namespace AddressRange

structure SameAddresses (loaded ar : AddressRange) : Prop where
  type : loaded.type = ar.type
  size : loaded.size = ar.size
  mac : loaded.mac = ar.mac
  ip : ar.isIpv4 = true → loaded.ip = ar.ip
  ip6 : ar.isIpv6Static = true → loaded.ip6 = ar.ip6
  global6 : loaded.global6 = ar.global6
  ula6 : loaded.ula6 = ar.ula6
  allocated : ∀ index, loaded.allocated.lookup index = ar.allocated.lookup index

section

variable (inetPton : String → Option Ip6)

def withLibrary (env : Environment) : Environment :=
  { env with inetPton }

/-- The attribute is loaded into a new range, and gives the same one. -/
def Persists (ar : AddressRange) : Prop :=
  ∀ env ipamMad, ∃ loaded,
    (AddressRangePool.newRange ipamMad 0).fromVattrDb (withLibrary inetPton env) ar.attr = some loaded ∧
      loaded.SameAddresses ar

inductive RangeEvent where
  | create (ipamMad : String) (id : Nat) (attr : VectorAttribute)
  | update (keepRestricted : Bool) (vup : VectorAttribute)
  | allocate (ot : ObjectType) (obid : Int) (inherit : List String) (nic : VectorAttribute)
  | allocateBy (address : Address) (ot : ObjectType) (obid : Int) (inherit : List String)
      (nic : VectorAttribute)
  | hold (address : Address)
  | free (address : Address) (ot : ObjectType) (obid : Int)
  | freeByOwner (ot : ObjectType) (obid : Int)
  | freeByRange (ot : ObjectType) (obid : Int) (mac : String) (rsize : Nat)
  | reserve (vid : Int) (rsize : Nat) (rar : AddressRange)
  | reserveBy (address : Address) (vid : Int) (rsize : Nat) (rar : AddressRange)

/-- The range is made once, with an identifier of 32 bits. -/
def RangeEvent.step (env : Environment) : RangeEvent → Option AddressRange → Option (Option AddressRange)
  | .create ipamMad id attr, none =>
    match (AddressRangePool.newRange ipamMad (id % 2 ^ 32)).fromAttr env attr with
    | (ar, none) => some (some ar)
    | (_, some _) => none
  | .update keepRestricted vup, some ar => some (some (ar.updateAttributes env vup keepRestricted).1)
  | .allocate ot obid inherit nic, some ar => some (some (ar.allocateAddr env ot obid inherit nic).1)
  | .allocateBy address ot obid inherit nic, some ar =>
    some (some (ar.allocateBy env address ot obid inherit nic).1)
  | .hold address, some ar => some (some (ar.holdBy env address).1)
  | .free address ot obid, some ar => some (some (ar.freeAddr env address ot obid).1)
  | .freeByOwner ot obid, some ar => some (some (ar.freeAddrByOwner env ot obid).1)
  | .freeByRange ot obid mac rsize, some ar => some (some (ar.freeAddrByRange env ot obid mac rsize).1)
  | .reserve vid rsize rar, some ar => some (some (ar.reserveAddr env vid rsize rar).1)
  | .reserveBy address vid rsize rar, some ar =>
    some (some (ar.reserveAddrBy env address vid rsize rar).1)
  | _, _ => none

def ranges : System (Option AddressRange) (Environment × RangeEvent) where
  initial ar := ar = none
  step ar event := event.2.step (withLibrary inetPton event.1) ar

end

/-- The words of the MAC do not come from variables that are not set. -/
def MacIsRead (text : String) : Prop :=
  ∀ held tmp held' tmp', macToI text held tmp = macToI text held' tmp'

/-- The MAC can be read, an update that fails has not changed the prefixes, and there are not
more leases than addresses. -/
def RangeEvent.Loadable (env : Environment) (ar : Option AddressRange) : RangeEvent → Prop
  | .create _ _ attr =>
    if attr.vectorValue "MAC" = "" then env.macPrefix < 2 ^ 16 else MacIsRead (attr.vectorValue "MAC")
  | .update keepRestricted vup =>
    ∀ range ∈ ar, range.KeepsPrefixes env (range.permitted env keepRestricted vup)
  | .allocateBy address .. | .hold address =>
    ∀ range ∈ ar, ∀ index ∈ range.isValid env address true, range.takeAddr env index 1 = true →
      range.getUsedAddr < range.size
  | .reserveBy address _ rsize _ =>
    ∀ range ∈ ar, ∀ sindex ∈ range.isValid env address false, range.takeAddr env sindex rsize = true →
        (∀ index ∈ indexBlock sindex rsize, index ∉ range.allocated) →
          range.getUsedAddr + (indexBlock sindex rsize).length ≤ range.size
  | .allocate .. | .free .. | .freeByOwner .. | .freeByRange .. | .reserve .. => True

def leaseText (lease : Σ _ : Nat, Nat) : List Char :=
  ' ' :: (Nat.toDigits 10 lease.1 ++ ' ' :: Nat.toDigits 10 lease.2)

def leasesText (ar : AddressRange) : String :=
  String.join (ar.leases.map fun lease => s!" {lease.1} {lease.2}")

/-- Indices are `unsigned int` and owners are positive `long long`. -/
def Storable (lease : Σ _ : Nat, Nat) : Prop := lease.1 < 2 ^ 32 ∧ lease.2 < 2 ^ 63

theorem leaseText_eq (lease : Σ _ : Nat, Nat) : (s!" {lease.1} {lease.2}").toList = leaseText lease := by
  have digits : ∀ number : Nat, (toString number).toList = Nat.toDigits 10 number := fun _ => Nat.toList_repr
  have blank : (toString " ").toList = [' '] := rfl
  simp only [String.toList_append, digits, blank, leaseText, List.append_assoc, List.nil_append, List.cons_append]

theorem leasesText_toList (ar : AddressRange) : ar.leasesText.toList = ar.leases.flatMap leaseText := by
  rw [leasesText, String.toList_join, List.flatMap_map]
  exact congrArg (ar.leases.flatMap ·) (funext leaseText_eq)

theorem head_flatMap_leaseText (leases : List (Σ _ : Nat, Nat)) :
    ∀ char ∈ (leases.flatMap leaseText).head?, char = ' ' := by
  cases leases with
  | nil => simp
  | cons lease rest => simp [leaseText]

theorem readLeases_lease {lease : Σ _ : Nat, Nat} (storable : Storable lease) (rest : List (Σ _ : Nat, Nat))
    (turns : Nat) (allocated : Map Nat Nat) :
    readLeases (turns + 1) ⟨(lease :: rest).flatMap leaseText, false⟩ allocated =
      if rest.flatMap leaseText = [] then some (allocated.insertNew lease.1 lease.2)
      else readLeases turns ⟨rest.flatMap leaseText, false⟩ (allocated.insertNew lease.1 lease.2) := by
  have index := @Stream.readUnsigned_spelled 10 lease.1 [' '] (Nat.toDigits 10 lease.1)
    (' ' :: (Nat.toDigits 10 lease.2 ++ rest.flatMap leaseText)) (spells_toDigits _) storable.1
    (by simp [isBlank]) (by simp) 0
  have owner := @Stream.readLong_spelled 10 lease.2 [' '] (Nat.toDigits 10 lease.2)
    (rest.flatMap leaseText) (spells_toDigits _) storable.2 (by simp [isBlank])
    (head_flatMap_leaseText rest) 0
  have whole : (lease :: rest).flatMap leaseText = [' '] ++ (Nat.toDigits 10 lease.1 ++
      (' ' :: (Nat.toDigits 10 lease.2 ++ rest.flatMap leaseText))) := by
    simp [leaseText]
  rw [List.singleton_append] at owner
  simp only [readLeases, whole, index, owner, Bool.false_eq_true, if_false, Int.toNat_natCast]

theorem readLeases_text {lease : Σ _ : Nat, Nat} {leases : List (Σ _ : Nat, Nat)}
    (storable : ∀ other ∈ lease :: leases, Storable other) {turns : Nat} (enough : leases.length < turns)
    (allocated : Map Nat Nat) : readLeases turns ⟨(lease :: leases).flatMap leaseText, false⟩ allocated =
      some ((lease :: leases).foldl (fun rows lease => rows.insertNew lease.1 lease.2) allocated) := by
  induction leases generalizing lease turns allocated with
  | nil =>
    obtain ⟨turns, rfl⟩ := Nat.exists_eq_succ_of_ne_zero (Nat.ne_zero_of_lt enough)
    rw [readLeases_lease (storable lease List.mem_cons_self) [] turns]
    rfl
  | cons next rest ih =>
    obtain ⟨turns, rfl⟩ := Nat.exists_eq_succ_of_ne_zero (Nat.ne_zero_of_lt enough)
    have filled : (next :: rest).flatMap leaseText ≠ [] := by simp [leaseText]
    rw [readLeases_lease (storable lease List.mem_cons_self) (next :: rest) turns, if_neg filled]
    exact ih (fun other member => storable other (List.mem_cons_of_mem _ member))
      (Nat.lt_of_succ_lt_succ enough) _

theorem length_le_leasesText (leases : List (Σ _ : Nat, Nat)) :
    leases.length ≤ (leases.flatMap leaseText).length := by
  induction leases with
  | nil => exact le_refl _
  | cons lease rest ih =>
    rw [List.flatMap_cons, List.length_append, List.length_cons, leaseText, List.length_cons]
    omega

theorem attrToAllocated_leasesText {ar : AddressRange}
    (storable : ∀ lease ∈ ar.allocated.entries, Storable lease) {size : Nat} (fits : ar.getUsedAddr ≤ size) :
    ∃ loaded, attrToAllocated size ar.leasesText = some loaded ∧
      ∀ index, loaded.lookup index = ar.allocated.lookup index := by
  have perm : ar.leases.Perm ar.allocated.entries := List.perm_insertionSort _ _
  have nodup : ar.leases.NodupKeys := (List.perm_nodupKeys perm).2 ar.allocated.nodupKeys
  have same : ∀ index, (ar.leases.foldl (fun rows lease => Map.insertNew lease.1 lease.2 rows)
      (∅ : Map Nat Nat)).lookup index = ar.allocated.lookup index := by
    intro index
    rw [Map.lookup_foldl_insertNew, AList.lookup_empty, Option.none_or]
    exact List.perm_dlookup index nodup perm
  cases isLeases : ar.leases with
  | nil =>
    refine ⟨∅, ?_, fun index => ?_⟩
    · have empty : ar.leasesText = "" := by
        rw [leasesText, isLeases]
        rfl
      rw [empty]
      rfl
    · rw [← same index, isLeases]
      rfl
  | cons lease rest =>
    have filled : ar.leasesText ≠ "" := by
      intro empty
      have text := leasesText_toList ar
      rw [empty, isLeases] at text
      cases text
    have turns : rest.length < ar.leasesText.length := by
      rw [← String.length_toList, leasesText_toList, isLeases]
      exact length_le_leasesText (lease :: rest)
    have count := @Map.length_foldl_insertNew _ _ _ _ ∅ nodup fun lease _ => AList.notMem_empty lease.1
    have small : ¬ar.leases.length > size := by
      rw [perm.length_eq]
      exact Nat.not_lt.2 fits
    refine ⟨_, ?_, same⟩
    rw [attrToAllocated, if_neg filled, leasesText_toList, isLeases,
      readLeases_text (fun other member => storable other (perm.mem_iff.1 (isLeases ▸ member))) turns]
    rw [isLeases] at count small
    simp only [count, AList.empty_entries, List.length_nil, Nat.zero_add, small, if_false]

variable {inetPton : String → Option Ip6} {env : Environment} {ar : AddressRange}

def ReadsType (ar : AddressRange) : Prop :=
  strToType (ar.attr.vectorValue "TYPE") = ar.type ∧ ar.type ≠ .none

def ReadsIp (ar : AddressRange) : Prop :=
  ar.isIpv4 = true → ∀ held, ipToI (ar.attr.vectorValue "IP") held = (ar.ip, true)

section

variable (inetPton : String → Option Ip6)

section

variable (ar : AddressRange)

def ReadsIp6 : Prop :=
  ar.isIpv6Static = true →
    ∀ env, ip6ToI (withLibrary inetPton env) (ar.attr.vectorValue "IP6") = some ar.ip6

def ReadsMac : Prop :=
  ∀ held tmp, macToI (ar.attr.vectorValue "MAC") held tmp = (ar.mac, true)

def ReadsPrefix (name : String) (network : Prefix6) : Prop :=
  (∀ env held, prefixToI (withLibrary inetPton env) (ar.attr.vectorValue name) held = (network, true)) ∧
    (ar.isIpv6 = false → network = ⟨0, 0⟩)

def ReadsPrefixes : Prop :=
  ar.ReadsPrefix inetPton "GLOBAL_PREFIX" ar.global6 ∧ ar.ReadsPrefix inetPton "ULA_PREFIX" ar.ula6

end

end

structure Stored (inetPton : String → Option Ip6) (ar : AddressRange) : Prop where
  id : ar.attr.unsignedValue "AR_ID" = some ar.id
  size : ar.attr.unsignedLongValue "SIZE" = some ar.size
  sizeWord : ar.size < 2 ^ 64
  type : ar.ReadsType
  mac : ar.ReadsMac
  ip : ar.ReadsIp
  ip6 : ar.ReadsIp6 inetPton
  prefixes : ar.ReadsPrefixes inetPton
  allocated : ar.attr.vectorValue "ALLOCATED" = ar.leasesText
  storable : ∀ lease ∈ ar.allocated.entries, Storable lease
  used : ar.getUsedAddr ≤ ar.size
  next : ar.NextFits

theorem ReadsIp.load (reads : ar.ReadsIp) {new : AddressRange} (sameType : new.type = ar.type) :
    ∃ ip, new.ipFromDb ar.attr = some ip ∧ (ar.isIpv4 = true → ip = ar.ip) := by
  have sameIpv4 : new.isIpv4 = ar.isIpv4 := by rw [isIpv4, isIpv4, sameType]
  rw [ipFromDb, sameIpv4]
  split
  · rename_i isIpv4
    rw [reads isIpv4]
    exact ⟨ar.ip, rfl, fun _ => rfl⟩
  · rename_i notIpv4
    exact ⟨new.ip, rfl, fun isIpv4 => absurd isIpv4 notIpv4⟩

theorem ReadsIp6.load (reads : ar.ReadsIp6 inetPton) (env : Environment) {new : AddressRange}
    (sameType : new.type = ar.type) : ∃ ip6, new.ip6FromDb (withLibrary inetPton env) ar.attr = some ip6 ∧
      (ar.isIpv6Static = true → ip6 = ar.ip6) := by
  have sameStatic : new.isIpv6Static = ar.isIpv6Static := by rw [isIpv6Static, isIpv6Static, sameType]
  rw [ip6FromDb, sameStatic]
  split
  · rename_i isStatic
    exact ⟨ar.ip6, reads isStatic env, fun _ => rfl⟩
  · rename_i notStatic
    exact ⟨new.ip6, rfl, fun isStatic => absurd isStatic notStatic⟩

theorem Stored.persists (stored : ar.Stored inetPton) : ar.Persists inetPton := by
  intro env ipamMad
  obtain ⟨allocated, isRead, same⟩ := attrToAllocated_leasesText stored.storable stored.used
  generalize AddressRangePool.newRange ipamMad 0 = new
  obtain ⟨ip, isIp, sameIp⟩ := @ReadsIp.load ar stored.ip { new with attr := ar.attr, type := ar.type } rfl
  obtain ⟨ip6, isIp6, sameIp6⟩ :=
    @ReadsIp6.load inetPton ar stored.ip6 env { new with attr := ar.attr, type := ar.type } rfl
  simp only [fromVattrDb, stored.type.1, stored.id, stored.size, stored.mac new.mac, accepted, isIp, isIp6,
    stored.prefixes.1.1 env, stored.prefixes.2.1 env, stored.allocated, isRead, stored.type.2,
    Option.bind_eq_bind, Option.bind_some, if_true, if_false]
  exact ⟨_, rfl, rfl, rfl, rfl, sameIp, sameIp6, rfl, rfl, same⟩

section Same

variable {before after : AddressRange}

theorem ReadsType.congr (reads : before.ReadsType) (type : after.type = before.type)
    (value : after.attr.vectorValue "TYPE" = before.attr.vectorValue "TYPE") : after.ReadsType := by
  rw [ReadsType, type, value]
  exact reads

theorem ReadsMac.congr (reads : before.ReadsMac) (mac : after.mac = before.mac)
    (value : after.attr.vectorValue "MAC" = before.attr.vectorValue "MAC") : after.ReadsMac := by
  rw [ReadsMac, mac, value]
  exact reads

theorem ReadsIp.congr (reads : before.ReadsIp) (type : after.type = before.type) (ip : after.ip = before.ip)
    (value : before.isIpv4 = true → after.attr.vectorValue "IP" = before.attr.vectorValue "IP") : after.ReadsIp := by
  intro isIpv4
  have wasIpv4 : before.isIpv4 = true := by
    rw [AddressRange.isIpv4, ← type]
    exact isIpv4
  rw [ip, value wasIpv4]
  exact reads wasIpv4

theorem ReadsIp6.congr (reads : before.ReadsIp6 inetPton) (type : after.type = before.type)
    (ip6 : after.ip6 = before.ip6)
    (value : before.isIpv6Static = true → after.attr.vectorValue "IP6" = before.attr.vectorValue "IP6") :
    after.ReadsIp6 inetPton := by
  intro isStatic
  have wasStatic : before.isIpv6Static = true := by
    rw [AddressRange.isIpv6Static, ← type]
    exact isStatic
  rw [ip6, value wasStatic]
  exact reads wasStatic

theorem ReadsPrefix.congr {name : String} {network : Prefix6} (reads : before.ReadsPrefix inetPton name network)
    (type : after.type = before.type) (value : after.attr.vectorValue name = before.attr.vectorValue name) :
    after.ReadsPrefix inetPton name network := by
  rw [ReadsPrefix, isIpv6, type, value]
  exact reads

end Same

variable {after : AddressRange} {text name : String} {address : Address}

theorem andThen_ok {first : AddressRange × Option String}
    {second : AddressRange → AddressRange × Option String} (ok : andThen first second = (after, none)) :
    ∃ middle, first = (middle, none) ∧ second middle = (after, none) := by
  obtain ⟨middle, outcome⟩ := first
  cases outcome with
  | none => exact ⟨middle, rfl, ok⟩
  | some message => cases ok

theorem ipToI_held {held ip : Nat} (read : ipToI text held = (ip, true)) (other : Nat) :
    ipToI text other = (ip, true) := by
  rw [ipToI] at read ⊢
  split
  · rename_i strange
    rw [if_pos strange] at read
    cases read
  · rename_i plain
    rw [if_neg plain] at read
    split
    · rename_i short
      rw [if_pos short] at read
      cases read
    · rename_i four
      rw [if_neg four] at read
      exact read

theorem readIpBytes_lt {count : Nat} {stream : Stream} {tmp ip read : Nat} (small : ip < 2 ^ 32)
    (isRead : readIpBytes count stream tmp ip = (read, true)) : read < 2 ^ 32 := by
  induction count generalizing stream tmp ip with
  | zero => exact (Prod.mk.inj isRead).1 ▸ small
  | succ count ih =>
    simp only [readIpBytes] at isRead
    split at isRead
    · cases isRead
    · exact ih (Nat.mod_lt _ (by decide)) isRead

theorem ipToI_lt {held ip : Nat} (read : ipToI text held = (ip, true)) : ip < 2 ^ 32 := by
  simp only [ipToI] at read
  split at read
  · cases read
  · split at read
    · cases read
    · exact readIpBytes_lt (by decide) read

theorem prefixToI_held {held network : Prefix6}
    (read : prefixToI (withLibrary inetPton env) text held = (network, true)) (other : Environment)
    (otherHeld : Prefix6) : prefixToI (withLibrary inetPton other) text otherHeld = (network, true) := by
  rw [prefixToI] at read ⊢
  split
  · rename_i empty
    rw [if_pos empty] at read
    exact read
  · rename_i given
    rw [if_neg given] at read
    simp only [withLibrary] at read ⊢
    cases found : inetPton text with
    | none =>
      rw [found] at read
      cases read
    | some words =>
      rw [found] at read
      exact read

theorem initIpv4_ok (ok : ar.initIpv4 = (after, none)) : ∃ ip attr, after = { ar with ip, attr } ∧
      (∀ name ≠ "IP", attr.vectorValue name = ar.attr.vectorValue name) ∧ after.ReadsIp ∧
        (ar.isIpv4 = true → ip < 2 ^ 32) := by
  rcases outcome : ipToI (ar.attr.vectorValue "IP") ar.ip with ⟨ip, good⟩
  simp only [initIpv4, outcome] at ok
  split at ok
  · rename_i notIpv4
    obtain rfl := (Prod.mk.inj ok).1
    have noIpv4 : ¬ar.isIpv4 = true := by simpa using notIpv4
    exact ⟨ar.ip, ar.attr.remove "IP", rfl, fun name apart => by simp [apart],
      fun isIpv4 => absurd isIpv4 noIpv4, fun isIpv4 => absurd isIpv4 noIpv4⟩
  · split at ok
    · cases ok
    · cases good with
      | false => cases ok
      | true =>
        obtain rfl := (Prod.mk.inj ok).1
        exact ⟨ip, ar.attr, rfl, fun _ _ => rfl, fun _ => ipToI_held outcome, fun _ => ipToI_lt outcome⟩

theorem initIpv6_ok (ok : ar.initIpv6 (withLibrary inetPton env) = (after, none))
    (blankGlobal : ar.global6 = ⟨0, 0⟩) (blankUla : ar.ula6 = ⟨0, 0⟩) :
    ∃ global6 ula6 attr, after = { ar with global6, ula6, attr } ∧
      (∀ name, name ≠ "GLOBAL_PREFIX" → name ≠ "ULA_PREFIX" → attr.vectorValue name = ar.attr.vectorValue name) ∧
        after.ReadsPrefixes inetPton := by
  rw [initIpv6] at ok
  split at ok
  · obtain rfl := (Prod.mk.inj ok).1
    refine ⟨ar.global6, ar.ula6, (ar.attr.remove "GLOBAL_PREFIX").remove "ULA_PREFIX", rfl, ?_, ?_⟩
    · exact fun name first second => by simp [first, second]
    · refine ⟨⟨fun env held => ?_, fun _ => blankGlobal⟩, ⟨fun env held => ?_, fun _ => blankUla⟩⟩
      · simp [prefixToI, blankGlobal]
      · simp [prefixToI, blankUla]
  · rename_i isIpv6
    generalize isGlobal : prefixToI (withLibrary inetPton env) (ar.attr.vectorValue "GLOBAL_PREFIX") ar.global6 =
      global6 at ok
    generalize isUla : prefixToI (withLibrary inetPton env) (ar.attr.vectorValue "ULA_PREFIX") ar.ula6 =
      ula6 at ok
    obtain ⟨global6, goodGlobal⟩ := global6
    obtain ⟨ula6, goodUla⟩ := ula6
    cases goodGlobal with
    | false => cases ok
    | true =>
      cases goodUla with
      | false => cases ok
      | true =>
        obtain rfl := (Prod.mk.inj ok).1
        have notPlain : ¬ar.isIpv6 = false := by simpa using isIpv6
        exact ⟨global6, ula6, ar.attr, rfl, fun _ _ _ => rfl,
          ⟨prefixToI_held isGlobal, fun plain => absurd plain notPlain⟩,
          ⟨prefixToI_held isUla, fun plain => absurd plain notPlain⟩⟩

theorem initIpv6Static_ok (ok : ar.initIpv6Static (withLibrary inetPton env) = (after, none)) :
    ∃ ip6 attr, after = { ar with ip6, attr } ∧
      (∀ name, name ≠ "IP6" → name ≠ "SIZE" → attr.vectorValue name = ar.attr.vectorValue name) ∧
        after.ReadsIp6 inetPton := by
  simp only [initIpv6Static] at ok
  split at ok
  · rename_i notStatic
    obtain rfl := (Prod.mk.inj ok).1
    have noStatic : ¬ar.isIpv6Static = true := by simpa using notStatic
    exact ⟨ar.ip6, ar.attr.remove "IP6", rfl, fun name apart _ => by simp [apart],
      fun isStatic => absurd isStatic noStatic⟩
  · split at ok
    · cases ok
    · rename_i ip6 isIp6
      split at ok
      · cases ok
      · split at ok
        · obtain rfl := (Prod.mk.inj ok).1
          refine ⟨ip6, _, rfl, fun name _ apart => by simp [apart], fun _ other => ?_⟩
          rw [VectorAttribute.vectorValue_replace, if_neg (by decide)]
          exact isIp6
        · obtain rfl := (Prod.mk.inj ok).1
          exact ⟨ip6, ar.attr, rfl, fun _ _ _ => rfl, fun _ other => isIp6⟩

theorem initMac_ok (ok : ar.initMac env = (after, none)) (ipWord : ar.isIpv4 = true → ar.ip < 2 ^ 32)
    (isRead : if ar.attr.vectorValue "MAC" = "" then env.macPrefix < 2 ^ 16 else MacIsRead (ar.attr.vectorValue "MAC")) :
    ∃ mac attr, after = { ar with mac, attr } ∧
      (∀ name ≠ "MAC", attr.vectorValue name = ar.attr.vectorValue name) ∧ after.ReadsMac := by
  simp only [initMac] at ok
  split at ok
  · rename_i empty
    rw [if_pos empty] at isRead
    obtain rfl := (Prod.mk.inj ok).1
    refine ⟨_, _, rfl, fun name apart => by simp [setMac, apart], fun held tmp => ?_⟩
    have word : (if ar.isIpv4 = true then ar.ip else env.random % 2 ^ 32) < 2 ^ 32 := by
      split
      · rename_i isIpv4
        exact ipWord isIpv4
      · exact Nat.mod_lt _ (by decide)
    simp only [setMac, VectorAttribute.vectorValue_replace, if_true, newMac, Nat.add_zero, Nat.mod_eq_of_lt word]
    rw [macToI_written word, Nat.mod_eq_of_lt isRead]
  · rename_i given
    rw [if_neg given] at isRead
    rcases outcome : macToI (ar.attr.vectorValue "MAC") ar.mac env.unset with ⟨mac, good⟩
    simp only [outcome] at ok
    cases good with
    | false => cases ok
    | true =>
      obtain rfl := (Prod.mk.inj ok).1
      exact ⟨mac, ar.attr, rfl, fun _ _ => rfl, fun held tmp => (isRead _ _ _ _).trans outcome⟩

theorem unsignedLongValue_lt {attr : VectorAttribute} {number : Nat}
    (isRead : attr.unsignedLongValue name = some number) : number < 2 ^ 64 := by
  have stored : ∀ negative magnitude, (storeUnsigned 64 negative magnitude).1.toNat < 2 ^ 64 := by
    intro negative magnitude
    simp only [storeUnsigned]
    split
    · split
      · rw [Int.toNat_natCast]
        exact Nat.mod_lt _ (by decide)
      · rename_i fits _
        rw [Int.toNat_natCast]
        exact fits
    · decide
  simp only [VectorAttribute.unsignedLongValue, VectorAttribute.naturalValue] at isRead
  split at isRead
  · cases isRead
  · split at isRead
    · obtain ⟨value, isValue, rfl⟩ := Option.map_eq_some_iff.1 isRead
      simp only [readNumber] at isValue
      split at isValue
      · cases isValue
      · split at isValue
        · exact Option.some.inj isValue ▸ by decide
        · exact Option.some.inj isValue ▸ stored _ _
    · cases isRead

/-- The attributes that a new range does not take from its author -/
def removedAttributes : List String :=
  ["AR_ID", "ALLOCATED", "USED_LEASES", "LEASES", "PARENT_NETWORK_AR_ID", "PARENT_NETWORK"]

theorem initSize_ok (ok : ar.initSize = (after, none)) :
    ∃ size attr portStart portSize, after = { ar with size, attr, portStart, portSize } ∧
      (∀ name ∉ removedAttributes, attr.vectorValue name = ar.attr.vectorValue name) ∧
        attr.vectorValue "AR_ID" = toString ar.id ∧ attr.vectorValue "ALLOCATED" = "" ∧
          attr.unsignedLongValue "SIZE" = some size ∧ size < 2 ^ 64 := by
  simp only [initSize] at ok
  split at ok
  · cases ok
  · rename_i size isSize
    obtain rfl := (Prod.mk.inj ok).1
    refine ⟨size, _, _, _, rfl, ?_, ?_, ?_, ?_, unsignedLongValue_lt isSize⟩
    · intro name isFree
      simp only [removedAttributes, List.mem_cons, List.not_mem_nil, or_false, not_or] at isFree
      simp [isFree]
    · simp
    · simp
    · rw [← isSize]
      simp [VectorAttribute.unsignedLongValue, VectorAttribute.naturalValue]

theorem fromAttr_stored {ipamMad : String} {id : Nat} {attr : VectorAttribute} (small : id < 2 ^ 32)
    (created : (AddressRangePool.newRange ipamMad id).fromAttr (withLibrary inetPton env) attr = (ar, none))
    (isRead : if attr.vectorValue "MAC" = "" then env.macPrefix < 2 ^ 16
      else MacIsRead (attr.vectorValue "MAC")) : ar.Stored inetPton := by
  obtain ⟨manager, isNew, next⟩ : ∃ manager, AddressRangePool.newRange ipamMad id = { id, manager } ∧
      ∀ next, manager = .internal next → next = 0 := by
    rw [AddressRangePool.newRange]
    split
    · exact ⟨.internal 0, rfl, fun next same => (Manager.internal.inj same).symm⟩
    · exact ⟨.ipam, rfl, fun next same => by cases same⟩
  rw [isNew] at created
  simp only [fromAttr] at created
  split at created
  · cases created
  · rename_i isType
    obtain ⟨first, isFirst, created⟩ := andThen_ok created
    obtain ⟨second, isSecond, created⟩ := andThen_ok created
    obtain ⟨third, isThird, created⟩ := andThen_ok created
    obtain ⟨fourth, isFourth, created⟩ := andThen_ok created
    obtain ⟨ip, attr1, rfl, same1, readsIp, ipWord⟩ := initIpv4_ok isFirst
    obtain ⟨global6, ula6, attr2, rfl, same2, readsPrefixes⟩ := initIpv6_ok isSecond rfl rfl
    obtain ⟨ip6, attr3, rfl, same3, readsIp6⟩ := initIpv6Static_ok isThird
    have sameMac : attr3.vectorValue "MAC" = attr.vectorValue "MAC" :=
      (same3 "MAC" (by decide) (by decide)).trans
        ((same2 "MAC" (by decide) (by decide)).trans (same1 "MAC" (by decide)))
    rw [← sameMac] at isRead
    obtain ⟨mac, attr4, rfl, same4, readsMac⟩ := initMac_ok isFourth ipWord isRead
    obtain ⟨size, attr5, portStart, portSize, rfl, same5, isId, isAllocated, isSize, sizeWord⟩ := initSize_ok created
    have sameType : attr5.vectorValue "TYPE" = attr.vectorValue "TYPE" := by
      rw [same5 _ (by decide), same4 _ (by decide), same3 _ (by decide) (by decide),
        same2 _ (by decide) (by decide), same1 _ (by decide)]
    exact {
      id := VectorAttribute.unsignedValue_stored isId small
      size := isSize
      sizeWord := sizeWord
      type := ⟨congrArg strToType sameType, isType⟩
      mac := readsMac.congr rfl (same5 _ (by decide))
      ip := by
        refine readsIp.congr rfl rfl fun _ => ?_
        exact (same5 _ (by decide)).trans ((same4 _ (by decide)).trans
          ((same3 _ (by decide) (by decide)).trans (same2 _ (by decide) (by decide))))
      ip6 := readsIp6.congr rfl rfl fun _ => (same5 _ (by decide)).trans (same4 _ (by decide))
      prefixes := by
        refine ⟨readsPrefixes.1.congr rfl ?_, readsPrefixes.2.congr rfl ?_⟩
        · exact (same5 _ (by decide)).trans ((same4 _ (by decide)).trans (same3 _ (by decide) (by decide)))
        · exact (same5 _ (by decide)).trans ((same4 _ (by decide)).trans (same3 _ (by decide) (by decide)))
      allocated := isAllocated
      storable := fun lease member => absurd member List.not_mem_nil
      used := Nat.zero_le _
      next := fun value same => by rw [next value same]; decide }

theorem packOwner_lt (ot : ObjectType) (obid : Int) : packOwner ot obid < 2 ^ 63 := by
  have low : (obid % 2 ^ 32).toNat < 2 ^ 63 := by omega
  refine Nat.or_lt_two_pow ?_ low
  cases ot <;> decide

theorem Stored.withLeases (stored : ar.Stored inetPton) {allocated : Map Nat Nat}
    (storable : ∀ lease ∈ allocated.entries, Storable lease) (used : allocated.entries.length ≤ ar.size) :
    (allocatedToAttr { ar with allocated }).Stored inetPton := by
  have values : ∀ name ≠ "ALLOCATED",
      (allocatedToAttr { ar with allocated }).attr.vectorValue name = ar.attr.vectorValue name := by
    intro name apart
    simp [allocatedToAttr, apart]
  exact {
    id := by
      rw [VectorAttribute.unsignedValue, VectorAttribute.naturalValue, values _ (by decide)]
      exact stored.id
    size := by
      rw [VectorAttribute.unsignedLongValue, VectorAttribute.naturalValue, values _ (by decide)]
      exact stored.size
    sizeWord := stored.sizeWord
    type := stored.type.congr rfl (values _ (by decide))
    mac := stored.mac.congr rfl (values _ (by decide))
    ip := stored.ip.congr rfl rfl fun _ => values _ (by decide)
    ip6 := stored.ip6.congr rfl rfl fun _ => values _ (by decide)
    prefixes := ⟨stored.prefixes.1.congr rfl (values _ (by decide)),
      stored.prefixes.2.congr rfl (values _ (by decide))⟩
    allocated := by
      simp only [allocatedToAttr, VectorAttribute.vectorValue_replace, if_true]
      rfl
    storable := storable
    used := used
    next := stored.next }

theorem Stored.withManager (stored : ar.Stored inetPton) {manager : Manager}
    (next : ∀ next, manager = .internal next → next < 2 ^ 32) :
    ({ ar with manager } : AddressRange).Stored inetPton :=
  { stored with next }

theorem Stored.setAllocatedAddr (stored : ar.Stored inetPton) (ot : ObjectType) (obid : Int) {index : Nat}
    (word : index < 2 ^ 32) (fits : ar.getUsedAddr < ar.size) :
    (ar.setAllocatedAddr ot obid index).Stored inetPton := by
  by_cases taken : index ∈ ar.allocated
  · have same : ar.allocated.insertNew index (packOwner ot obid) = ar.allocated := if_pos taken
    rw [AddressRange.setAllocatedAddr, same]
    exact stored.withLeases stored.storable stored.used
  · refine stored.withLeases (fun lease member => ?_) ?_
    · rw [Map.mem_entries_iff] at member
      by_cases isNew : lease.1 = index
      · rw [isNew, Map.lookup_insertNew_self, AList.lookup_eq_none.2 taken] at member
        have isOwner : packOwner ot obid = lease.2 := Option.some.inj member
        exact ⟨isNew ▸ word, isOwner ▸ packOwner_lt ot obid⟩
      · rw [Map.lookup_insertNew_ne isNew] at member
        exact stored.storable lease (Map.mem_entries_iff.2 member)
    · rw [Map.length_insertNew taken]
      exact fits

theorem getUsedAddr_setAllocatedAddr (ar : AddressRange) (ot : ObjectType) (obid : Int) (index : Nat) :
    (ar.setAllocatedAddr ot obid index).getUsedAddr ≤ ar.getUsedAddr + 1 := by
  change (ar.allocated.insertNew index (packOwner ot obid)).entries.length ≤ ar.allocated.entries.length + 1
  by_cases taken : index ∈ ar.allocated
  · rw [show ar.allocated.insertNew index (packOwner ot obid) = ar.allocated from if_pos taken]
    omega
  · rw [Map.length_insertNew taken]

theorem Stored.setAllocatedBlock (ot : ObjectType) (obid : Int) {block : List Nat} (stored : ar.Stored inetPton)
    (words : ∀ index ∈ block, index < 2 ^ 32) (fits : ar.getUsedAddr + block.length ≤ ar.size) :
    (ar.setAllocatedBlock ot obid block).Stored inetPton := by
  induction block generalizing ar with
  | nil => exact stored
  | cons index rest ih =>
    rw [List.length_cons] at fits
    have used := getUsedAddr_setAllocatedAddr ar ot obid index
    have next := stored.setAllocatedAddr ot obid (words index List.mem_cons_self) (by omega)
    refine ih next (fun other member => words other (List.mem_cons_of_mem _ member)) ?_
    change (ar.setAllocatedAddr ot obid index).getUsedAddr + rest.length ≤ ar.size
    omega

theorem Stored.filter (stored : ar.Stored inetPton) (keep : Nat → Nat → Bool) :
    (allocatedToAttr { ar with allocated := ar.allocated.filter keep }).Stored inetPton := by
  have fewer : (ar.allocated.filter keep).entries.Sublist ar.allocated.entries := List.filter_sublist
  exact stored.withLeases (fun lease member => stored.storable lease (fewer.subset member))
    (Nat.le_trans fewer.length_le stored.used)

theorem Stored.freeAllocatedAddr (stored : ar.Stored inetPton) (ot : ObjectType) (obid : Int) (index : Nat) :
    (ar.freeAllocatedAddr ot obid index).1.Stored inetPton := by
  rw [AddressRange.freeAllocatedAddr]
  split
  · have fewer : (ar.allocated.erase index).entries.Sublist ar.allocated.entries := List.kerase_sublist _ _
    exact stored.withLeases (fun lease member => stored.storable lease (fewer.subset member))
      (Nat.le_trans fewer.length_le stored.used)
  · exact stored

theorem getAddr_word (env : Environment) (rsize : Nat) (next : ar.NextFits) :
    ∃ manager, (ar.getAddr env rsize).1 = { ar with manager } ∧ (∀ next, manager = .internal next → next < 2 ^ 32) ∧
        ∀ index ∈ (ar.getAddr env rsize).2, index < 2 ^ 32 := by
  cases isManager : ar.manager with
  | internal start =>
    have word := @singleLoop_word ar.allocated ar.arSize ar.arSize start (next start isManager)
    simp only [getAddr, isManager]
    split
    · exact ⟨_, rfl, fun value same => Manager.internal.inj same ▸ word,
        fun index found => singleLoop_next found ▸ word⟩
    · refine ⟨ar.manager, rfl, next, fun index found => ?_⟩
      have inside := rangeLoop_found (Option.join_eq_some_iff.1 found)
      have small : ar.arSize < 2 ^ 32 := Nat.mod_lt _ (by decide)
      omega
  | ipam =>
    simp only [getAddr, isManager]
    split
    · exact ⟨ar.manager, rfl, next, fun index found => by cases found⟩
    · rename_i index answered
      obtain ⟨ip, -, isValid⟩ := Option.bind_eq_some_iff.1 answered
      have word := (isValid_found (.ip ip) isValid).2
      split
      · exact ⟨ar.manager, rfl, next, fun index found => by cases found⟩
      · exact ⟨ar.manager, rfl, next, fun index found => Option.some.inj found ▸ word⟩

def Keeps (ar : AddressRange) (name : String) : Prop :=
  name = "TYPE" ∨ name = "MAC" ∨ name = "AR_ID" ∨ name = "ALLOCATED" ∨
    (name = "IP" ∧ ar.isIpv4 = true) ∨ (name = "IP6" ∧ ar.isIpv6Static = true)

theorem restricted_value (env : Environment) (attr : VectorAttribute) (name : String) :
    ∀ row ∈ (removeAllExceptRestricted env attr).entries, row.1 = name → row.2 = attr.vectorValue name := by
  rintro row member rfl
  have isValue := Map.mem_entries_iff.1 ((show List.Sublist _ attr.entries from List.filter_sublist).subset member)
  rw [VectorAttribute.vectorValue, isValue, Option.getD_some]

theorem keepAttributes_keeps (keepRestricted : Bool) (vup : VectorAttribute) (keeps : ar.Keeps name) :
    (ar.keepAttributes env keepRestricted vup).vectorValue name = ar.attr.vectorValue name := by
  have choose {chosen : Prop} [Decidable chosen] (left right : VectorAttribute) (name : String) :
      (if chosen then left else right).vectorValue name =
        if chosen then left.vectorValue name else right.vectorValue name :=
    apply_ite (fun attr : VectorAttribute => attr.vectorValue name) ..
  have merged : ∀ {left : VectorAttribute}, left.vectorValue name = ar.attr.vectorValue name →
      (left.merge (removeAllExceptRestricted env ar.attr)).vectorValue name = ar.attr.vectorValue name :=
    VectorAttribute.merge_value (restricted_value env ar.attr name)
  simp only [keepAttributes, keepValue, List.foldl]
  cases keepRestricted && env.restricted.isSome with
  | false =>
    rcases keeps with rfl | rfl | rfl | rfl | ⟨rfl, isIpv4⟩ | ⟨rfl, isStatic⟩ <;>
      simp [*]
  | true =>
    simp only [if_true]
    rcases keeps with rfl | rfl | rfl | rfl | ⟨rfl, isIpv4⟩ | ⟨rfl, isStatic⟩ <;>
      simp only [choose, VectorAttribute.vectorValue_replace, VectorAttribute.vectorValue_remove] <;>
      rw [merged] <;> simp [*]

theorem updatePrefixes_ok {vup read : VectorAttribute} {changed : AddressRange}
    (plain : ar.isIpv6 = false → ar.global6 = ⟨0, 0⟩ ∧ ar.ula6 = ⟨0, 0⟩)
    (isRead : ar.updatePrefixes (withLibrary inetPton env) vup = (changed, .ok read)) :
    ∃ global6 ula6, changed = { ar with global6, ula6 } ∧
      (∀ name, name ≠ "GLOBAL_PREFIX" → name ≠ "ULA_PREFIX" → read.vectorValue name = vup.vectorValue name) ∧
        ({ changed with attr := read } : AddressRange).ReadsPrefixes inetPton := by
  simp only [updatePrefixes] at isRead
  split at isRead
  · rename_i notIpv6
    obtain ⟨noGlobal, noUla⟩ := plain (by simpa using notIpv6)
    obtain ⟨rfl, sameRead⟩ := Prod.mk.inj isRead
    obtain rfl := Except.ok.inj sameRead
    refine ⟨ar.global6, ar.ula6, rfl, fun name first second => by simp [first, second], ?_⟩
    refine ⟨⟨fun env held => ?_, fun _ => noGlobal⟩, ⟨fun env held => ?_, fun _ => noUla⟩⟩
    · simp [prefixToI, noGlobal]
    · simp [prefixToI, noUla]
  · rename_i isIpv6
    rcases isGlobal : prefixToI (withLibrary inetPton env) (vup.vectorValue "GLOBAL_PREFIX") ar.global6 with
      ⟨global6, goodGlobal⟩
    rcases isUla : prefixToI (withLibrary inetPton env) (vup.vectorValue "ULA_PREFIX") ar.ula6 with
      ⟨ula6, goodUla⟩
    simp only [isGlobal, isUla] at isRead
    cases goodGlobal with
    | false => cases isRead
    | true =>
      cases goodUla with
      | false => cases isRead
      | true =>
        obtain ⟨rfl, sameRead⟩ := Prod.mk.inj isRead
        obtain rfl := Except.ok.inj sameRead
        have notPlain : ¬ar.isIpv6 = false := by simpa using isIpv6
        refine ⟨global6, ula6, rfl, fun name first second => by simp [first, second], ?_⟩
        refine ⟨⟨fun env held => ?_, fun isPlain => absurd isPlain notPlain⟩,
          ⟨fun env held => ?_, fun isPlain => absurd isPlain notPlain⟩⟩
        · simpa using prefixToI_held isGlobal env held
        · simpa using prefixToI_held isUla env held

theorem entries_length_le {allocated : Map Nat Nat} {size : Nat} (inside : ∀ index ∈ allocated, index < size) :
    allocated.entries.length ≤ size := by
  have distinct : (allocated.entries.map Sigma.fst).Nodup := allocated.nodupKeys
  have fewer : allocated.entries.map Sigma.fst ⊆ List.range size := by
    intro index member
    exact List.mem_range.2 (inside index member)
  have length := (distinct.subperm fewer).length_le
  rw [List.length_map, List.length_range] at length
  exact length

theorem newSize_word {vup : VectorAttribute} {size : Nat} (word : ar.size < 2 ^ 64)
    (accepted : ar.newSize vup = .ok size) : size < 2 ^ 64 := by
  rw [newSize] at accepted
  split at accepted
  · exact Except.ok.inj accepted ▸ word
  · split at accepted
    · cases accepted
    · rename_i given isRead
      split at accepted
      · cases accepted
      · split at accepted
        · exact Except.ok.inj accepted ▸ unsignedLongValue_lt isRead
        · cases accepted

theorem newSize_used {vup : VectorAttribute} {size : Nat} (used : ar.getUsedAddr ≤ ar.size)
    (accepted : ar.newSize vup = .ok size) : ar.getUsedAddr ≤ size := by
  by_cases given : vup.vectorValue "SIZE" = ""
  · rw [newSize, if_pos given] at accepted
    exact Except.ok.inj accepted ▸ used
  · exact entries_length_le (newSize_given given accepted)

theorem storeUpdate_ok (env : Environment) (ar : AddressRange) (size : Nat) (vup : VectorAttribute) :
    ∃ attr portStart portSize, (ar.storeUpdate env size vup).1 = { ar with size, portStart, portSize, attr } ∧
        attr.vectorValue "SIZE" = toString size ∧ ∀ name, name ≠ "SIZE" → name ≠ "PORT_START" → name ≠ "PORT_SIZE" →
            attr.vectorValue name = vup.vectorValue name := by
  have choose {chosen : Prop} [Decidable chosen] (left right : VectorAttribute) (name : String) :
      (if chosen then left else right).vectorValue name =
        if chosen then left.vectorValue name else right.vectorValue name :=
    apply_ite (fun attr : VectorAttribute => attr.vectorValue name) ..
  refine ⟨_, _, _, rfl, ?_, fun name notSize notStart notPorts => ?_⟩
  · simp [choose]
  · simp [choose, notSize, notStart, notPorts]

/-- What an update takes from its author and the range reads -/
def givenAttributes : List String := ["GLOBAL_PREFIX", "ULA_PREFIX", "SIZE", "PORT_START", "PORT_SIZE"]

section

variable (stored : ar.Stored inetPton)
include stored

theorem Stored.update {keepRestricted : Bool} {vup : VectorAttribute}
    (keeps : ar.KeepsPrefixes (withLibrary inetPton env) (ar.permitted (withLibrary inetPton env) keepRestricted vup)) :
    (ar.updateAttributes (withLibrary inetPton env) vup keepRestricted).1.Stored inetPton := by
  rcases outcome : ar.updateAttributes (withLibrary inetPton env) vup keepRestricted with ⟨after, result⟩
  cases result with
  | error message =>
    have unchanged := failed_unchanged_iff.2 keeps message (congrArg Prod.snd outcome)
    rw [outcome] at unchanged
    exact (show after = ar from unchanged) ▸ stored
  | ok told =>
    rw [updateAttributes] at outcome
    split at outcome
    · cases outcome
    · rename_i changed read isRead
      split at outcome
      · cases outcome
      · rename_i size isSize
        obtain ⟨global6, ula6, rfl, values, readsPrefixes⟩ :=
          updatePrefixes_ok (fun isPlain => ⟨stored.prefixes.1.2 isPlain, stored.prefixes.2.2 isPlain⟩) isRead
        obtain ⟨attr, portStart, portSize, isStored, sizeText, same⟩ := storeUpdate_ok
          (withLibrary inetPton env) { ar with global6, ula6 } size read
        obtain rfl : _ = after := isStored.symm.trans (congrArg Prod.fst outcome)
        have kept : ∀ {name}, ar.Keeps name → name ∉ givenAttributes →
            attr.vectorValue name = ar.attr.vectorValue name := by
          intro name keeps notGiven
          simp only [givenAttributes, List.mem_cons, List.not_mem_nil, or_false, not_or] at notGiven
          obtain ⟨notGlobal, notUla, notSize, notStart, notPorts⟩ := notGiven
          exact (same name notSize notStart notPorts).trans
            ((values name notGlobal notUla).trans (keepAttributes_keeps keepRestricted vup keeps))
        exact {
          id := by
            rw [VectorAttribute.unsignedValue, VectorAttribute.naturalValue,
              kept (.inr (.inr (.inl rfl))) (by decide)]
            exact stored.id
          size := VectorAttribute.unsignedLongValue_stored sizeText (newSize_word stored.sizeWord isSize)
          sizeWord := newSize_word stored.sizeWord isSize
          type := stored.type.congr rfl (kept (.inl rfl) (by decide))
          mac := stored.mac.congr rfl (kept (.inr (.inl rfl)) (by decide))
          ip := stored.ip.congr rfl rfl fun isIpv4 =>
            kept (.inr (.inr (.inr (.inr (.inl ⟨rfl, isIpv4⟩))))) (by decide)
          ip6 := stored.ip6.congr rfl rfl fun isStatic =>
            kept (.inr (.inr (.inr (.inr (.inr ⟨rfl, isStatic⟩))))) (by decide)
          prefixes := ⟨readsPrefixes.1.congr rfl (same _ (by decide) (by decide) (by decide)),
            readsPrefixes.2.congr rfl (same _ (by decide) (by decide) (by decide))⟩
          allocated := (kept (.inr (.inr (.inr (.inl rfl)))) (by decide)).trans stored.allocated
          storable := stored.storable
          used := @newSize_used { ar with global6, ula6 } _ _ stored.used isSize
          next := stored.next }

theorem Stored.getAddr (env : Environment) (rsize : Nat) :
    (ar.getAddr env rsize).1.Stored inetPton ∧ ∀ index ∈ (ar.getAddr env rsize).2, index < 2 ^ 32 := by
  obtain ⟨manager, moved, next, words⟩ := getAddr_word env rsize stored.next
  rw [moved]
  exact ⟨stored.withManager next, words⟩

theorem Stored.allocateAddr (env : Environment) (ot : ObjectType) (obid : Int)
    (inherit : List String) (nic : VectorAttribute) :
    (ar.allocateAddr env ot obid inherit nic).1.Stored inetPton := by
  simp only [AddressRange.allocateAddr]
  split
  · exact stored
  · rename_i hasFree
    obtain ⟨moved, words⟩ := stored.getAddr env 1
    obtain ⟨sameLeases, sameSize⟩ := getAddr_keeps env ar 1
    split
    · rename_i isResult
      rw [isResult] at moved
      exact moved
    · rename_i index isResult
      rw [isResult] at moved words sameLeases sameSize
      refine moved.setAllocatedAddr ot obid (words index rfl) ?_
      rw [getUsedAddr, sameLeases, sameSize]
      exact Nat.lt_of_not_le hasFree

theorem Stored.allocateBy {env : Environment}
    (fits : ∀ index ∈ ar.isValid env address true, ar.takeAddr env index 1 = true → ar.getUsedAddr < ar.size)
    (ot : ObjectType) (obid : Int) (inherit : List String) (nic : VectorAttribute) :
    (ar.allocateBy env address ot obid inherit nic).1.Stored inetPton := by
  simp only [AddressRange.allocateBy]
  split
  · exact stored
  · rename_i index found
    split
    · rename_i taken
      exact stored.setAllocatedAddr ot obid (isValid_found address found).2 (fits index found taken)
    · exact stored

theorem Stored.holdBy {env : Environment}
    (fits : ∀ index ∈ ar.isValid env address true, ar.takeAddr env index 1 = true → ar.getUsedAddr < ar.size) :
    (ar.holdBy env address).1.Stored inetPton := by
  simp only [AddressRange.holdBy]
  split
  · exact stored
  · rename_i index found
    split
    · rename_i taken
      exact stored.setAllocatedAddr .vm (-1) (isValid_found address found).2 (fits index found taken)
    · exact stored

theorem Stored.freeAddr (env : Environment) (address : Address)
    (ot : ObjectType) (obid : Int) : (ar.freeAddr env address ot obid).1.Stored inetPton := by
  simp only [AddressRange.freeAddr]
  split
  · exact stored
  · split
    · exact stored.freeAllocatedAddr ot obid _
    · exact stored

theorem Stored.freeAddrByRange (env : Environment) (ot : ObjectType) (obid : Int) (mac : String) (rsize : Nat) :
    (ar.freeAddrByRange env ot obid mac rsize).1.Stored inetPton := by
  simp only [AddressRange.freeAddrByRange]
  split
  · exact stored
  · split
    · exact stored.filter _
    · exact stored

theorem Stored.reserveAddr (env : Environment) (vid : Int) (rsize : Nat)
    (rar : AddressRange) : (ar.reserveAddr env vid rsize rar).1.Stored inetPton := by
  simp only [AddressRange.reserveAddr]
  split
  · exact stored
  · rename_i hasFree
    obtain ⟨moved, -⟩ := stored.getAddr env rsize
    obtain ⟨sameLeases, sameSize⟩ := getAddr_keeps env ar rsize
    split
    · rename_i isResult
      rw [isResult] at moved
      exact moved
    · rename_i isResult
      rw [isResult] at moved sameLeases sameSize
      refine moved.setAllocatedBlock .net vid (fun index member => ?_) ?_
      · obtain ⟨offset, -, rfl⟩ := mem_wrappedBlock.1 member
        exact Nat.mod_lt _ (by decide)
      · have used := stored.used
        have word := stored.sizeWord
        rw [getUsedAddr, sameLeases, sameSize, wrappedBlock, List.length_map, List.length_range]
        rw [getFreeAddr] at hasFree
        change ar.getUsedAddr + rsize ≤ ar.size
        omega

theorem Stored.reserveAddrBy {env : Environment} {rsize : Nat}
    (fits : ∀ sindex ∈ ar.isValid env address false, ar.takeAddr env sindex rsize = true →
      (∀ index ∈ indexBlock sindex rsize, index ∉ ar.allocated) →
      ar.getUsedAddr + (indexBlock sindex rsize).length ≤ ar.size)
    (vid : Int) (rar : AddressRange) : (ar.reserveAddrBy env address vid rsize rar).1.Stored inetPton := by
  simp only [AddressRange.reserveAddrBy]
  split
  · exact stored
  · rename_i sindex found
    simp only [reserveAddrByIndex]
    split
    · exact stored
    · rename_i isFree
      split
      · exact stored
      · rename_i taken
        refine stored.setAllocatedBlock .net vid (fun index member => ?_) ?_
        · rw [indexBlock, List.mem_range'_1] at member
          have small := (isValid_found address found).2
          have word : (sindex + rsize) % 2 ^ 32 < 2 ^ 32 := Nat.mod_lt _ (by decide)
          omega
        · exact fits sindex found (by simpa using taken) fun index member inUse =>
            isFree (List.any_eq_true.2 ⟨index, member, decide_eq_true inUse⟩)

end

theorem step_stored {before after : Option AddressRange} {event : RangeEvent}
    (stored : ∀ ar ∈ before, ar.Stored inetPton) (loadable : event.Loadable (withLibrary inetPton env) before)
    (stepped : event.step (withLibrary inetPton env) before = some after) : ∀ ar ∈ after, ar.Stored inetPton := by
  cases before with
  | none =>
    cases event with
    | create ipamMad id attr =>
      simp only [RangeEvent.step] at stepped
      split at stepped
      · rename_i ar created
        obtain rfl := Option.some.inj stepped
        exact fun other same => Option.some.inj same ▸
          fromAttr_stored (Nat.mod_lt _ (by decide)) created loadable
      · cases stepped
    | _ => cases stepped
  | some ar =>
    have isStored := stored ar rfl
    rintro next isNext
    cases event with
    | create ipamMad id attr => cases stepped
    | update keepRestricted vup =>
      cases stepped
      cases isNext
      exact isStored.update (loadable ar rfl)
    | allocate ot obid inherit nic =>
      cases stepped
      cases isNext
      exact isStored.allocateAddr _ ot obid inherit nic
    | allocateBy address ot obid inherit nic =>
      cases stepped
      cases isNext
      exact isStored.allocateBy (loadable ar rfl) ot obid inherit nic
    | hold address =>
      cases stepped
      cases isNext
      exact isStored.holdBy (loadable ar rfl)
    | free address ot obid =>
      cases stepped
      cases isNext
      exact isStored.freeAddr _ address ot obid
    | freeByOwner ot obid =>
      cases stepped
      cases isNext
      exact isStored.filter _
    | freeByRange ot obid mac rsize =>
      cases stepped
      cases isNext
      exact isStored.freeAddrByRange _ ot obid mac rsize
    | reserve vid rsize rar =>
      cases stepped
      cases isNext
      exact isStored.reserveAddr _ vid rsize rar
    | reserveBy address vid rsize rar =>
      cases stepped
      cases isNext
      exact isStored.reserveAddrBy (loadable ar rfl) vid rar

/-- A range loads as it was, in a run whose steps meet the condition. -/
theorem range_persists (reached : (ranges inetPton).Reachable
      (fun ar event => event.2.Loadable (withLibrary inetPton event.1) ar) (some ar)) : ar.Persists inetPton := by
  have stored := @System.Reachable.invariant _ _ (ranges inetPton) _
    (fun range => ∀ ar ∈ range, ar.Stored inetPton) _ reached ?_ ?_
  · exact (stored ar rfl).persists
  · rintro start rfl ar isRange
    cases isRange
  · intro before event after stored loadable stepped
    exact step_stored stored loadable stepped

/-- The library of a system without IPv6 addresses -/
def noLibrary : String → Option Ip6 := fun _ => none

def createTwo : RangeEvent := .create "" 0 Networks.twoAddresses

def leaseOne : RangeEvent := .allocate .vm 7 [] ∅

/-- The lease of a virtual machine is loaded again. -/
theorem range_persists_lease :
    ∃ ar : AddressRange, ar.allocated.lookup 0 = some (packOwner .vm 7) ∧ ar.Persists noLibrary := by
  let env := withLibrary noLibrary Networks.plainEnvironment
  have run : ((createTwo.step env none).bind fun range => range.map fun ar =>
      (ar.allocateAddr env .vm 7 [] ∅).1.allocated.lookup 0) = some (some (packOwner .vm 7)) := by
    decide +kernel
  obtain ⟨range, created, isRange⟩ := Option.bind_eq_some_iff.mp run
  obtain ⟨ar, rfl, leased⟩ := Option.map_eq_some_iff.mp isRange
  refine ⟨(ar.allocateAddr env .vm 7 [] ∅).1, leased, range_persists ⟨none, rfl, ?_⟩⟩
  have first : (ranges noLibrary).Path
      (fun ar event => event.2.Loadable (withLibrary noLibrary event.1) ar) none (some ar) := by
    refine .snoc .refl ?_ (show (ranges noLibrary).step none (Networks.plainEnvironment, createTwo) = _ from created)
    have empty : Networks.twoAddresses.vectorValue "MAC" = "" := by decide +kernel
    have short : Networks.plainEnvironment.macPrefix < 2 ^ 16 := by decide
    simp only [createTwo, RangeEvent.Loadable, empty, if_true]
    exact short
  exact first.snoc (show leaseOne.Loadable env (some ar) from trivial)
    (show (ranges noLibrary).step (some ar) (Networks.plainEnvironment, leaseOne) = _ from rfl)

/-- `AR = [ TYPE = "IP6", MAC = "02:00:00:00:00:01", SIZE = "6" ]` -/
def sixWithoutPrefix : VectorAttribute :=
  (((∅ : VectorAttribute).replace "TYPE" "IP6").replace "MAC" "02:00:00:00:00:01").replace "SIZE" "6"

def prefixAndBadSize : VectorAttribute :=
  ((∅ : VectorAttribute).replace "GLOBAL_PREFIX" "2001:db8::").replace "SIZE" "six"

/-- The update fails, and the prefix that it left is not the one that is stored. -/
theorem failed_update_not_persistent : ¬∀ (inetPton : String → Option Ip6) (ar : AddressRange),
      (ranges inetPton).Reachable System.anyStep (some ar) → ar.Persists inetPton := by
  intro always
  let inetPton := documentationPrefix.inetPton
  let loads (ar : AddressRange) : Option Prefix6 :=
    ((AddressRangePool.newRange "" 0).fromVattrDb (withLibrary inetPton documentationPrefix) ar.attr).map
      AddressRange.global6
  have run : (((ranges inetPton).exec System.anyStep none [(documentationPrefix, .create "" 0 sixWithoutPrefix),
        (documentationPrefix, .update false prefixAndBadSize)]).bind fun range => range.map fun ar =>
          (ar.global6, loads ar)) = some (⟨0, 0x20010DB8⟩, some ⟨0, 0⟩) := by
    decide +kernel
  obtain ⟨range, ran, isRange⟩ := Option.bind_eq_some_iff.mp run
  obtain ⟨ar, rfl, held⟩ := Option.map_eq_some_iff.mp isRange
  obtain ⟨isHeld, isLoaded⟩ := Prod.mk.inj held
  obtain ⟨loaded, isStored, same⟩ := always inetPton ar (System.reachable_of_exec rfl ran) documentationPrefix ""
  rw [show loads ar = _ from congrArg (Option.map AddressRange.global6) isStored, Option.map_some, same.global6,
    isHeld] at isLoaded
  exact absurd isLoaded (by decide)

end AddressRange

end OpenNebula.Network
