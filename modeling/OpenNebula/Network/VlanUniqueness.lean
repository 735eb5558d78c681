import Mathlib.Data.Finset.Insert
import OpenNebula.Network.VirtualNetworkPool

namespace OpenNebula.Network

open Common
open Library

/-! # VLAN identifiers are unique

An identifier that comes from the bitmap stays marked until its network is deleted, and
no other network gets it.  Which networks have such an identifier depends on the driver
at their creation, which the networks do not keep: it is recorded beside the pool.
-/

namespace VirtualNetwork

def Holds (vn : VirtualNetwork) : Prop := vn.vlanIdAutomatic = true ∧ vn.vlanId ≠ ""

instance (vn : VirtualNetwork) : Decidable vn.Holds := inferInstanceAs (Decidable (_ ∧ _))

def is8021Q (vn : VirtualNetwork) : Bool := (strToDriver vn.vnMad).is8021Q

end VirtualNetwork

structure TrackedPool where
  pool : VirtualNetworkPool := {}
  created : Finset Nat := ∅

namespace TrackedPool

open VirtualNetworkPool (Event)

variable {conf : VlanConf} {tracked : TrackedPool}

def track (tracked : TrackedPool) : Event → Finset Nat
  | .allocate _ oid template =>
    if oid ∈ tracked.pool.networks then tracked.created
    else if (strToDriver (template.vectorValue "VN_MAD")).is8021Q then insert oid tracked.created
    else tracked.created.erase oid
  | .updateTemplate .. | .drop .. => tracked.created

def step (conf : VlanConf) (tracked : TrackedPool) (event : Event) : Option TrackedPool :=
  (tracked.pool.step conf event).map fun pool => ⟨pool, tracked.track event⟩

def system (conf : VlanConf) : System TrackedPool Event where
  initial tracked := tracked = {}
  step := step conf

/-- The statements succeed that keep the bitmap and the networks together, and a driver of the
802.1Q type is not given to a network with an identifier that was assigned by another one. -/
def Kept (conf : VlanConf) (tracked : TrackedPool) : Event → Prop
  | .allocate db oid template => ∀ vn ∈ VirtualNetwork.insert conf oid template,
      vn.is8021Q = true → vn.vlanIdAutomatic = true → db.updates = true → db.saves = true
  | .updateTemplate _ oid append template => ∀ vn ∈ tracked.pool.networks.lookup oid,
      vn.Holds → oid ∉ tracked.created →
        (strToDriver ((if append then vn.template.merge template else template).vectorValue
          "VN_MAD")).is8021Q = false
  | .drop db oid => ∀ vn ∈ tracked.pool.networks.lookup oid,
      vn.Holds → vn.is8021Q = true → db.selects = true → db.saves = true → db.drops = true

instance (conf : VlanConf) (tracked : TrackedPool) : (event : Event) → Decidable (Kept conf tracked event)
  | .allocate _ oid template =>
    inferInstanceAs (Decidable (∀ vn ∈ VirtualNetwork.insert conf oid template, _))
  | .updateTemplate _ oid _ _ =>
    inferInstanceAs (Decidable (∀ vn ∈ tracked.pool.networks.lookup oid, _))
  | .drop _ oid => inferInstanceAs (Decidable (∀ vn ∈ tracked.pool.networks.lookup oid, _))

/-- The identifiers that come from the bitmap are marked and different, and only networks with
such an identifier are served by a driver of the 802.1Q type. -/
structure Distinct (tracked : TrackedPool) : Prop where
  marked : ∀ oid vn, tracked.pool.networks.lookup oid = some vn → vn.Holds → oid ∈ tracked.created →
    ∃ id ∈ tracked.pool.bitmap, id < 4096 ∧ vn.vlanId = toString id
  apart : ∀ oid vn other held, tracked.pool.networks.lookup oid = some vn →
    tracked.pool.networks.lookup other = some held → vn.Holds → held.Holds →
    oid ∈ tracked.created → other ∈ tracked.created → oid ≠ other → vn.vlanId ≠ held.vlanId
  drawn : ∀ oid vn, tracked.pool.networks.lookup oid = some vn → vn.Holds → vn.is8021Q = true →
    oid ∈ tracked.created

end TrackedPool

theorem BitMap.get_free {conf : VlanConf} {bits : Finset Nat} {hint bit : Nat}
    (small : hint < 4096) (found : BitMap.get conf bits hint = some bit) : bit ∉ bits ∧ bit < 4096 := by
  simp only [BitMap.get] at found
  split at found
  · rename_i isFree
    obtain rfl := Option.some.inj found
    exact ⟨isFree.2.1, small⟩
  · have inside := List.mem_range'_1.1 (List.mem_of_find?_eq_some found)
    have isFree : bit ∉ bits ∧ bit ∉ conf.reserved := by simpa using List.find?_some found
    exact ⟨isFree.1, by omega⟩

namespace VirtualNetwork

variable {conf : VlanConf} {vn after : VirtualNetwork} {template : Template}

theorem insert_unassigned {oid : Nat} (inserted : insert conf oid template = some vn) :
    vn.vnMad = template.vectorValue "VN_MAD" ∧ ¬vn.Holds := by
  simp only [insert] at inserted
  split at inserted
  · cases inserted
  · split at inserted
    · cases inserted
    · split at inserted
      · cases inserted
      · obtain rfl := Option.some.inj inserted
        refine ⟨rfl, ?_⟩
        rintro ⟨automatic, isSet⟩
        simp only [parseVlanId] at automatic isSet
        split at automatic
        · cases automatic
        · rename_i isEmpty
          rw [if_neg isEmpty] at isSet
          exact isSet rfl

theorem postUpdateTemplate_keeps (updated : vn.postUpdateTemplate conf template = some after) :
    after.vnMad = template.vectorValue "VN_MAD" ∧ (after.Holds → vn.Holds ∧ after.vlanId = vn.vlanId) := by
  simp only [postUpdateTemplate] at updated
  split at updated
  · cases updated
  · obtain rfl := Option.some.inj updated
    refine ⟨rfl, ?_⟩
    rintro ⟨automatic, isSet⟩
    have same : vn.vlanIdAutomatic = true := automatic
    simp only [updateVlanId, same, if_true] at isSet ⊢
    exact ⟨⟨same, isSet⟩, trivial⟩

end VirtualNetwork

namespace VirtualNetworkPool

variable {conf : VlanConf} {db : Database} {pool after : VirtualNetworkPool} {oid : Nat}
  {vn : VirtualNetwork}

/-- An identifier comes from a bit that was free. -/
def Drawn (db : Database) (before after : Finset Nat) (vlanId : String) : Prop :=
  ∃ id < 4096, id ∉ before ∧ vlanId = toString id ∧ (db.saves = true → id ∈ after)

variable {bitmap : Finset Nat}

theorem set8021QId_draws {bits : Finset Nat} {vnid rc : Nat} {vlanVar vlanId : String} {autoVar : Bool}
    (assigned : set8021QId conf db bits vnid vlanVar autoVar = .returned (rc, bitmap, vlanId)) : bits ⊆ bitmap ∧
      ((vlanVar ≠ "" ∨ autoVar = false) ∧ vlanId = vlanVar ∨ Drawn db bits bitmap vlanId) := by
  simp only [set8021QId] at assigned
  split at assigned
  · rename_i unneeded
    cases assigned
    exact ⟨subset_rfl, .inl ⟨by simpa using unneeded, rfl⟩⟩
  · split at assigned
    · cases assigned
    · split at assigned
      · cases assigned
      · split at assigned
        · cases assigned
        · rename_i small
          split at assigned
          · cases assigned
          · rename_i found
            obtain ⟨isFree, inside⟩ := BitMap.get_free (Nat.not_le.1 small) found
            cases assigned
            refine ⟨?_, .inr ⟨_, inside, isFree, rfl, fun saves => ?_⟩⟩
            · split
              · exact Finset.subset_insert _ _
              · exact subset_rfl
            · rw [if_pos saves]
              exact Finset.mem_insert_self _ _

/-- What happens to a network without an identifier: it stays as it is or it is stored with
one, which is free when the driver has the 802.1Q type. -/
def Assigns (db : Database) (pool : VirtualNetworkPool) (oid : Nat) (vn : VirtualNetwork)
    (after : VirtualNetworkPool) : Prop :=
  pool.bitmap ⊆ after.bitmap ∧
    (after.networks = pool.networks ∨ ∃ stored, after.networks = pool.networks.insert oid stored ∧ db.updates = true ∧
        stored.vnMad = vn.vnMad ∧ stored.vlanIdAutomatic = vn.vlanIdAutomatic ∧
        (vn.is8021Q = true → stored.Holds → Drawn db pool.bitmap after.bitmap stored.vlanId))

theorem update_assigns {stored : VirtualNetwork} (more : pool.bitmap ⊆ bitmap)
    (sameDriver : stored.vnMad = vn.vnMad) (sameFlag : stored.vlanIdAutomatic = vn.vlanIdAutomatic)
    (draws : vn.is8021Q = true → stored.Holds → Drawn db pool.bitmap bitmap stored.vlanId) :
    Assigns db pool oid vn (VirtualNetworkPool.update db { pool with bitmap } oid stored) := by
  simp only [update]
  split
  · rename_i updates
    exact ⟨more, .inr ⟨stored, rfl, updates, sameDriver, sameFlag, draws⟩⟩
  · exact ⟨more, .inl rfl⟩

theorem set8021QId_assigns (unassigned : ¬vn.Holds) {rc : Nat} {vlanId : String} {stored : VirtualNetwork}
    {changed : Prop} [Decidable changed]
    (assigned : set8021QId conf db pool.bitmap oid vn.vlanId vn.vlanIdAutomatic = .returned (rc, bitmap, vlanId))
    (sameDriver : stored.vnMad = vn.vnMad) (sameFlag : stored.vlanIdAutomatic = vn.vlanIdAutomatic)
    (isId : stored.vlanId = vlanId) : Assigns db pool oid vn (if changed then
      VirtualNetworkPool.update db { pool with bitmap } oid stored else { pool with bitmap }) := by
  obtain ⟨more, draws⟩ := set8021QId_draws assigned
  split
  · refine update_assigns more sameDriver sameFlag fun _ holds => ?_
    rcases draws with ⟨unneeded, same⟩ | drawn
    · refine absurd ⟨sameFlag ▸ holds.1, ?_⟩ unassigned
      exact same ▸ isId ▸ holds.2
    · exact isId ▸ drawn
  · exact ⟨more, .inl rfl⟩

theorem setVlanId_assigns (unassigned : ¬vn.Holds)
    (assigned : pool.setVlanId conf db oid vn = .returned after) : Assigns db pool oid vn after := by
  cases isDriver : strToDriver vn.vnMad with
  | ovswitchVxlan | vlan | ovswitch =>
    simp only [setVlanId, isDriver] at assigned
    split at assigned
    · cases assigned
    · cases assigned
    · rename_i isAssigned
      cases assigned
      exact set8021QId_assigns unassigned isAssigned rfl rfl rfl
  | vxlan =>
    simp only [setVlanId, isDriver] at assigned
    cases assigned
    split
    · refine update_assigns subset_rfl rfl rfl fun isOther => ?_
      simp [VirtualNetwork.is8021Q, isDriver, Driver.is8021Q] at isOther
    · exact ⟨subset_rfl, .inl rfl⟩
  | none | dummy | bridge | fw =>
    simp only [setVlanId, isDriver] at assigned
    cases assigned
    exact ⟨subset_rfl, .inl rfl⟩

theorem toString_ne {id other : Nat} (small : id < 4096) (otherSmall : other < 4096)
    (apart : id ≠ other) : toString id ≠ toString other := by
  intro same
  have read := @Stream.readUnsigned_toString id (by omega) 0
  rw [same, @Stream.readUnsigned_toString other (by omega) 0] at read
  exact apart read.symm

end VirtualNetworkPool

namespace TrackedPool

variable {conf : VlanConf} {db : Database} {tracked : TrackedPool} {pool : VirtualNetworkPool}
  {created : Finset Nat} {oid : Nat} {vn : VirtualNetwork}

open VirtualNetworkPool (Event)

variable {bitmap : Finset Nat}

section

variable (distinct : tracked.Distinct)
include distinct

theorem Distinct.store {networks : Map Nat VirtualNetwork}
    (others : ∀ other, other ≠ oid → networks.lookup other = tracked.pool.networks.lookup other)
    (here : networks.lookup oid = some vn) (more : tracked.pool.bitmap ⊆ bitmap)
    (sameOthers : ∀ other, other ≠ oid → (other ∈ created ↔ other ∈ tracked.created))
    (isMarked : vn.Holds → oid ∈ created → ∃ id ∈ bitmap, id < 4096 ∧ vn.vlanId = toString id)
    (isApart : vn.Holds → oid ∈ created → ∀ other held, other ≠ oid →
      tracked.pool.networks.lookup other = some held → held.Holds → other ∈ tracked.created → held.vlanId ≠ vn.vlanId)
    (isDrawn : vn.Holds → vn.is8021Q = true → oid ∈ created) : Distinct ⟨⟨networks, bitmap⟩, created⟩ := by
  refine ⟨fun other held found holds isCreated => ?_,
    fun left leftHeld right rightHeld foundLeft foundRight leftHolds rightHolds isLeft isRight
      apart => ?_, fun other held found holds served => ?_⟩
  · by_cases same : other = oid
    · subst same
      obtain rfl := Option.some.inj (here.symm.trans found)
      exact isMarked holds isCreated
    · obtain ⟨id, inside, small, isId⟩ := distinct.marked other held (others other same ▸ found) holds
        ((sameOthers other same).1 isCreated)
      exact ⟨id, more inside, small, isId⟩
  · by_cases leftHere : left = oid
    · subst leftHere
      obtain rfl := Option.some.inj (here.symm.trans foundLeft)
      have notHere : right ≠ left := fun same => apart same.symm
      exact (isApart leftHolds isLeft right rightHeld notHere
        (others right notHere ▸ foundRight) rightHolds ((sameOthers right notHere).1 isRight)).symm
    · by_cases rightHere : right = oid
      · subst rightHere
        obtain rfl := Option.some.inj (here.symm.trans foundRight)
        exact isApart rightHolds isRight left leftHeld leftHere (others left leftHere ▸ foundLeft)
          leftHolds ((sameOthers left leftHere).1 isLeft)
      · exact distinct.apart left leftHeld right rightHeld (others left leftHere ▸ foundLeft)
          (others right rightHere ▸ foundRight) leftHolds rightHolds
          ((sameOthers left leftHere).1 isLeft) ((sameOthers right rightHere).1 isRight) apart
  · by_cases same : other = oid
    · subst same
      obtain rfl := Option.some.inj (here.symm.trans found)
      exact isDrawn holds served
    · exact (sameOthers other same).2
        (distinct.drawn other held (others other same ▸ found) holds served)

theorem Distinct.storeUnassigned (unassigned : ¬vn.Holds)
    (sameOthers : ∀ other, other ≠ oid → (other ∈ created ↔ other ∈ tracked.created)) :
    Distinct ⟨{ tracked.pool with networks := tracked.pool.networks.insert oid vn }, created⟩ :=
  distinct.store (fun _ apart => AList.lookup_insert_ne apart) (AList.lookup_insert _) subset_rfl
    sameOthers (fun holds => absurd holds unassigned) (fun holds => absurd holds unassigned)
    fun holds => absurd holds unassigned

theorem Distinct.drawn_apart {vlanId : String}
    (draws : VirtualNetworkPool.Drawn db tracked.pool.bitmap bitmap vlanId) {other : Nat}
    {held : VirtualNetwork} (found : tracked.pool.networks.lookup other = some held) (holds : held.Holds)
    (isCreated : other ∈ tracked.created) : held.vlanId ≠ vlanId := by
  obtain ⟨id, small, isFree, rfl, -⟩ := draws
  obtain ⟨taken, isTaken, takenSmall, isId⟩ := distinct.marked other held found holds isCreated
  rw [isId]
  exact VirtualNetworkPool.toString_ne takenSmall small fun same => isFree (same ▸ isTaken)

/-- What `set_vlan_id` does to a new network keeps the identifiers apart. -/
theorem Distinct.assign {after : VirtualNetworkPool}
    (assigns : VirtualNetworkPool.Assigns db tracked.pool oid vn after)
    (isCreated : oid ∈ tracked.created ↔ vn.is8021Q = true)
    (saved : vn.is8021Q = true → vn.vlanIdAutomatic = true → db.updates = true → db.saves = true) :
    Distinct ⟨after, tracked.created⟩ := by
  obtain ⟨more, same | ⟨stored, isStored, updates, sameDriver, sameFlag, draws⟩⟩ := assigns
  · refine ⟨fun other held found holds among => ?_, ?_, ?_⟩
    · obtain ⟨id, inside, isId⟩ := distinct.marked other held (same ▸ found) holds among
      exact ⟨id, more inside, isId⟩
    · rw [same]
      exact distinct.apart
    · rw [same]
      exact distinct.drawn
  · have sameKind : stored.is8021Q = vn.is8021Q := by
      rw [VirtualNetwork.is8021Q, sameDriver, VirtualNetwork.is8021Q]
    refine distinct.store (fun other apart => ?_) (isStored ▸ AList.lookup_insert _) more
      (fun _ _ => Iff.rfl) (fun holds among => ?_) (fun holds among other held _ found isHeld => ?_)
      fun _ served => ?_
    · rw [isStored]
      exact AList.lookup_insert_ne apart
    · have served := isCreated.1 among
      obtain ⟨id, small, -, isId, marks⟩ := draws served holds
      exact ⟨id, marks (saved served (sameFlag ▸ holds.1) updates), small, isId⟩
    · exact distinct.drawn_apart (draws (isCreated.1 among) holds) found isHeld
    · exact isCreated.2 (sameKind ▸ served)

theorem Distinct.retrack (same : ∀ other ∈ tracked.pool.networks, other ∈ created ↔ other ∈ tracked.created) :
    Distinct ⟨tracked.pool, created⟩ := by
  have isThere : ∀ {other held}, tracked.pool.networks.lookup other = some held →
      other ∈ tracked.pool.networks :=
    fun found => AList.lookup_isSome.1 (Option.isSome_of_eq_some found)
  refine ⟨fun other held found holds among => ?_,
    fun left leftHeld right rightHeld foundLeft foundRight leftHolds rightHolds isLeft isRight => ?_,
    fun other held found holds served => ?_⟩
  · exact distinct.marked other held found holds ((same other (isThere found)).1 among)
  · exact distinct.apart left leftHeld right rightHeld foundLeft foundRight leftHolds rightHolds
      ((same left (isThere foundLeft)).1 isLeft) ((same right (isThere foundRight)).1 isRight)
  · exact (same other (isThere found)).2 (distinct.drawn other held found holds served)

theorem Distinct.erase
    (stays : ∀ other held, other ≠ oid → tracked.pool.networks.lookup other = some held → held.Holds →
      other ∈ tracked.created → ∀ id ∈ tracked.pool.bitmap, held.vlanId = toString id → id ∈ bitmap) :
    Distinct ⟨⟨tracked.pool.networks.erase oid, bitmap⟩, tracked.created⟩ := by
  have before : ∀ {other held}, (tracked.pool.networks.erase oid).lookup other = some held →
      other ≠ oid ∧ tracked.pool.networks.lookup other = some held := by
    intro other held found
    rw [Map.lookup_erase_eq] at found
    split at found
    · cases found
    · rename_i apart
      exact ⟨apart, found⟩
  refine ⟨fun other held found holds among => ?_,
    fun left leftHeld right rightHeld foundLeft foundRight => ?_, fun other held found => ?_⟩
  · obtain ⟨apart, wasThere⟩ := before found
    obtain ⟨id, inside, small, isId⟩ := distinct.marked other held wasThere holds among
    exact ⟨id, stays other held apart wasThere holds among id inside isId, small, isId⟩
  · exact distinct.apart left leftHeld right rightHeld (before foundLeft).2 (before foundRight).2
  · exact distinct.drawn other held (before found).2

theorem Distinct.drop (found : tracked.pool.networks.lookup oid = some vn)
    (deleted : vn.Holds → vn.is8021Q = true → db.selects = true → db.saves = true → db.drops = true) :
    Distinct ⟨tracked.pool.drop db oid vn, tracked.created⟩ := by
  by_cases released : vn.vlanIdAutomatic ∧ vn.vlanId ≠ "" ∧ (strToDriver vn.vnMad).is8021Q ∧
      db.selects ∧ db.saves
  · have isReleased : tracked.pool.releaseVlanId db vn = _ := if_pos released
    obtain ⟨automatic, isSet, served, selects, saves⟩ := released
    have holds : vn.Holds := ⟨automatic, isSet⟩
    simp only [VirtualNetworkPool.drop, isReleased, deleted holds served selects saves, if_true]
    have isCreated := distinct.drawn oid vn found holds served
    obtain ⟨id, -, small, isId⟩ := distinct.marked oid vn found holds isCreated
    refine distinct.erase fun other held apart isHeld otherHolds among taken inside isTaken => ?_
    have reads : ((Stream.mk vn.vlanId.toList false).readUnsigned 10 0).1 = id := by
      rw [isId]
      exact Stream.readUnsigned_toString (by omega) 0
    rw [reads, Finset.mem_erase]
    refine ⟨fun same => ?_, inside⟩
    exact distinct.apart other held oid vn isHeld found otherHolds holds among isCreated apart
      (by rw [isTaken, isId, same])
  · have isKept : tracked.pool.releaseVlanId db vn = tracked.pool := if_neg released
    simp only [VirtualNetworkPool.drop, isKept]
    split
    · exact distinct.erase fun _ _ _ _ _ _ _ inside _ => inside
    · exact distinct

theorem Distinct.allocate {template : Template} (kept : tracked.Kept conf (.allocate db oid template)) :
    Distinct ⟨tracked.pool.allocate conf db oid template, tracked.track (.allocate db oid template)⟩ := by
  have sameOthers : ∀ other, other ≠ oid →
      (other ∈ tracked.track (.allocate db oid template) ↔ other ∈ tracked.created) := by
    intro other apart
    simp only [track]
    split
    · rfl
    · split <;> simp [apart]
  have unchanged : Distinct ⟨tracked.pool, tracked.track (.allocate db oid template)⟩ := by
    refine distinct.retrack fun other isThere => ?_
    by_cases same : other = oid
    · subst same
      simp only [track, if_pos isThere]
    · exact sameOthers other same
  simp only [VirtualNetworkPool.allocate]
  split
  · exact unchanged
  · rename_i vn inserted
    obtain ⟨isDriver, unassigned⟩ := VirtualNetwork.insert_unassigned inserted
    split
    · exact unchanged
    · rename_i isNew
      have stored := distinct.storeUnassigned unassigned sameOthers
      split
      · exact stored
      · split
        · exact stored
        · exact stored.drop (AList.lookup_insert _) fun holds => absurd holds unassigned
        · rename_i assigned
          refine stored.assign (VirtualNetworkPool.setVlanId_assigns unassigned assigned) ?_
            (kept vn inserted)
          have absent : oid ∉ tracked.pool.networks := fun isThere => isNew (.inr isThere)
          simp only [track, if_neg absent, VirtualNetwork.is8021Q, isDriver]
          split <;> simp [*]

theorem Distinct.updateTemplate {append : Bool} {template : Template}
    (kept : tracked.Kept conf (.updateTemplate db oid append template)) :
    Distinct ⟨tracked.pool.updateTemplate conf db oid append template, tracked.created⟩ := by
  simp only [VirtualNetworkPool.updateTemplate]
  split
  · exact distinct
  · rename_i vn found
    split
    · exact distinct
    · rename_i after updated
      obtain ⟨isDriver, sameId⟩ := VirtualNetwork.postUpdateTemplate_keeps updated
      simp only [VirtualNetworkPool.update]
      split
      · refine distinct.store (fun _ apart => AList.lookup_insert_ne apart) (AList.lookup_insert _)
          subset_rfl (fun _ _ => Iff.rfl) (fun holds among => ?_)
          (fun holds among other held apart isHeld otherHolds otherAmong => ?_) fun holds served => ?_
        · obtain ⟨held, same⟩ := sameId holds
          exact same ▸ distinct.marked oid vn found held among
        · obtain ⟨held, same⟩ := sameId holds
          exact same ▸ distinct.apart other _ oid vn isHeld found otherHolds held otherAmong among apart
        · by_contra notCreated
          have other := kept vn found (sameId holds).1 notCreated
          rw [VirtualNetwork.is8021Q, isDriver, other] at served
          cases served
      · exact distinct

theorem step_distinct {event : Event} {after : TrackedPool}
    (kept : tracked.Kept conf event) (stepped : tracked.step conf event = some after) : after.Distinct := by
  obtain ⟨pool, isPool, rfl⟩ := Option.map_eq_some_iff.1 stepped
  cases event with
  | allocate db oid template =>
    obtain rfl := Option.some.inj isPool
    exact distinct.allocate kept
  | updateTemplate db oid append template =>
    obtain rfl := Option.some.inj isPool
    exact distinct.updateTemplate kept
  | drop db oid =>
    obtain ⟨vn, found, rfl⟩ := Option.map_eq_some_iff.1 isPool
    exact distinct.drop found (kept vn found)

end

/-- In a run where the bitmap and the networks are stored together, and where no network whose
identifier was assigned by another driver gets one of the 802.1Q type, the identifiers of the
networks of that type are different and marked; the identifiers that come from the bitmap stay
marked whatever the driver is now. -/
theorem vlan_uniqueness (reached : (system conf).Reachable (Kept conf) tracked) :
    (∀ oid vn other held, tracked.pool.networks.lookup oid = some vn →
      tracked.pool.networks.lookup other = some held → vn.Holds → held.Holds →
      vn.is8021Q = true → held.is8021Q = true → oid ≠ other → vn.vlanId ≠ held.vlanId) ∧
    ∀ oid vn, tracked.pool.networks.lookup oid = some vn → vn.Holds → vn.is8021Q = true ∨ oid ∈ tracked.created →
        ∃ id ∈ tracked.pool.bitmap, vn.vlanId = toString id := by
  have distinct : tracked.Distinct := by
    refine @System.Reachable.invariant _ _ _ _ (fun tracked => tracked.Distinct) _ reached ?_ ?_
    · rintro start rfl
      exact ⟨fun _ _ found => absurd found (by simp), fun _ _ _ _ found => absurd found (by simp),
        fun _ _ found => absurd found (by simp)⟩
    · intro before event after isDistinct kept stepped
      exact step_distinct isDistinct kept stepped
  refine ⟨fun oid vn other held found isHeld holds otherHolds served otherServed => ?_,
    fun oid vn found holds served => ?_⟩
  · exact distinct.apart oid vn other held found isHeld holds otherHolds
      (distinct.drawn oid vn found holds served)
      (distinct.drawn other held isHeld otherHolds otherServed)
  · have isCreated := served.elim (distinct.drawn oid vn found holds) fun among => among
    obtain ⟨id, inside, -, isId⟩ := distinct.marked oid vn found holds isCreated
    exact ⟨id, inside, isId⟩

/-- `VLAN_IDS = [ START = "2", RESERVED = "0, 1, 3, 4095" ]` and `VXLAN_IDS = [ START = "2" ]` -/
def plainConf : VlanConf where
  start := 2
  reserved := {0, 1, 3, 4095}
  vxlanStart := 2
  bridgeType _ := some "linux"

def automatic (vnMad : String) : Template :=
  (((∅ : Template).replace "VN_MAD" vnMad).replace "PHYDEV" "eth0").replace "AUTOMATIC_VLAN_ID" "YES"

def identifiers (pool : VirtualNetworkPool) (oid : Nat) : Option (String × Bool × String) :=
  (pool.networks.lookup oid).map fun vn => (vn.vnMad, vn.vlanIdAutomatic, vn.vlanId)

/-- Two networks of the 802.1Q type, one of them by way of a bridge -/
theorem vlan_uniqueness_bridge : ∃ tracked : TrackedPool, (system plainConf).Reachable (Kept plainConf) tracked ∧
      identifiers tracked.pool 0 = some ("802.1Q", true, "2") ∧ ∃ vn held, tracked.pool.networks.lookup 0 = some vn ∧
        tracked.pool.networks.lookup 1 = some held ∧ held.Holds ∧ vn.vlanId ≠ held.vlanId := by
  have ran : ((system plainConf).exec (Kept plainConf) {} [.allocate {} 0 (automatic "802.1Q"),
        .updateTemplate {} 0 true ((∅ : Template).replace "VN_MAD" "bridge"),
        .allocate {} 1 (automatic "802.1Q"),
        .updateTemplate {} 0 true ((∅ : Template).replace "VN_MAD" "802.1Q")]).map
        (fun tracked => (identifiers tracked.pool 0, identifiers tracked.pool 1)) =
      some (some ("802.1Q", true, "2"), some ("802.1Q", true, "4")) := by
    decide +kernel
  obtain ⟨tracked, isRun, isIds⟩ := Option.map_eq_some_iff.mp ran
  obtain ⟨isFirst, isSecond⟩ := Prod.mk.inj isIds
  have reached := System.reachable_of_exec rfl isRun
  obtain ⟨vn, found, isVn⟩ := Option.map_eq_some_iff.mp isFirst
  obtain ⟨held, isHeld, isOther⟩ := Option.map_eq_some_iff.mp isSecond
  simp only [Prod.mk.injEq] at isVn isOther
  have holds : vn.Holds := ⟨isVn.2.1, by rw [isVn.2.2]; decide⟩
  have otherHolds : held.Holds := ⟨isOther.2.1, by rw [isOther.2.2]; decide⟩
  have apart := (vlan_uniqueness reached).1 0 vn 1 held found isHeld holds otherHolds
    (by rw [VirtualNetwork.is8021Q, isVn.1]; decide) (by rw [VirtualNetwork.is8021Q, isOther.1]; decide)
    (by decide)
  exact ⟨tracked, reached, isFirst, vn, held, found, isHeld, otherHolds, apart⟩

/-- The identifier of a VXLAN network is not in the bitmap, and stays when the driver changes:
the next network gets it again. -/
theorem vlan_uniqueness_vxlan : ¬∀ conf pool, (VirtualNetworkPool.system conf).Reachable System.anyStep pool →
      ∀ oid vn other held, pool.networks.lookup oid = some vn →
        pool.networks.lookup other = some held → vn.Holds → held.Holds →
        vn.is8021Q = true → held.is8021Q = true → oid ≠ other → vn.vlanId ≠ held.vlanId := by
  intro always
  have ran : ((VirtualNetworkPool.system plainConf).exec System.anyStep {} [.allocate {} 0 (automatic "vxlan"),
        .updateTemplate {} 0 true ((∅ : Template).replace "VN_MAD" "802.1Q"),
        .allocate {} 1 (automatic "802.1Q")]).map
        (fun pool => (identifiers pool 0, identifiers pool 1)) =
      some (some ("802.1Q", true, "2"), some ("802.1Q", true, "2")) := by
    decide +kernel
  obtain ⟨pool, isRun, isIds⟩ := Option.map_eq_some_iff.mp ran
  obtain ⟨isFirst, isSecond⟩ := Prod.mk.inj isIds
  obtain ⟨vn, found, isVn⟩ := Option.map_eq_some_iff.mp isFirst
  obtain ⟨held, isHeld, isOther⟩ := Option.map_eq_some_iff.mp isSecond
  simp only [Prod.mk.injEq] at isVn isOther
  have holds : vn.Holds := ⟨isVn.2.1, by rw [isVn.2.2]; decide⟩
  have otherHolds : held.Holds := ⟨isOther.2.1, by rw [isOther.2.2]; decide⟩
  exact always plainConf pool (System.reachable_of_exec rfl isRun) 0 vn 1 held found isHeld holds
    otherHolds (by rw [VirtualNetwork.is8021Q, isVn.1]; decide)
    (by rw [VirtualNetwork.is8021Q, isOther.1]; decide) (by decide)
    (isVn.2.2.trans isOther.2.2.symm)

end TrackedPool

end OpenNebula.Network
