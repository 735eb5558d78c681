import OpenNebula.Quota.Quotas

namespace OpenNebula.Quota

open Library

/-! # A template is charged to a user and to a group

`Quotas::quota_check` charges the user and stores his quotas before it looks at the group,
and it does not give the usage back when the group refuses.
-/

structure Pools (F : Type) where
  users : Map Int (Quotas F)
  groups : Map Int (Quotas F)
  defaultUserQuota : Quotas F
  defaultGroupQuota : Quotas F

def getQuotas {F : Type} (pool : Map Int (Quotas F)) (oid : Int) : Option (Quotas F) :=
  if oid < 0 then none else pool.lookup oid

def oneadminId : Int := 0

variable {F : Type}

def Holder (pool : Map Int (Quotas F)) (oid : Int) (quotas : Quotas F) : Prop :=
  oid ≠ oneadminId ∧ getQuotas pool oid = some quotas

variable {oid : Int} {quotas : Quotas F} {pool : Map Int (Quotas F)}

theorem Holder.unique {other : Quotas F} (isHolder : Holder pool oid quotas)
    (isOther : Holder pool oid other) : quotas = other :=
  Option.some.inj (isHolder.2.symm.trans isOther.2)

theorem getQuotas_insert (found : getQuotas pool oid = some quotas) (charged : Quotas F) :
    getQuotas (pool.insert oid charged) oid = some charged := by
  rw [getQuotas] at found ⊢
  split at found
  · cases found
  · rw [if_neg ‹_›, AList.lookup_insert]

theorem getQuotas_insert_ne {other : Int} (apart : other ≠ oid) (charged : Quotas F) :
    getQuotas (pool.insert oid charged) other = getQuotas pool other := by
  rw [getQuotas, getQuotas, AList.lookup_insert_ne apart]

section Usage

variable [Zero F] [IntCast F]

/-- The usage that is stored, 0 when there is no such user or group -/
def usageOf (pool : Map Int (Quotas F)) (oid : Int) (kind : Kind) (id metric : String) : F :=
  (getQuotas pool oid).elim 0 fun quotas => quotas.usage kind id metric

theorem usageOf_insert (found : getQuotas pool oid = some quotas) (charged : Quotas F) (kind : Kind)
    (id metric : String) : usageOf (pool.insert oid charged) oid kind id metric = charged.usage kind id metric := by
  rw [usageOf, getQuotas_insert found, Option.elim_some]

theorem usageOf_eq (found : getQuotas pool oid = some quotas) (kind : Kind) (id metric : String) :
    usageOf pool oid kind id metric = quotas.usage kind id metric := by
  rw [usageOf, found, Option.elim_some]

end Usage

variable [Zero F] [IntCast F] [Add F] [Neg F] [LE F] [DecidableLE F] [LT F] [DecidableLT F]
  [DecidableEq F] [ToString F]

/-- The part of `quota_check` for the user, and for the group.  Nothing is stored for the
administrator, and for a user or a group that does not exist. -/
def checkHolder (setup : Setup F) (name : String) (type : QuotaType) (oid : Int)
    (tmpl : QuotaTemplate F) (defaults : Quotas F) (pool : Map Int (Quotas F)) : Except String (Map Int (Quotas F)) :=
  if oid = oneadminId then .ok pool
  else
    match getQuotas pool oid with
    | none => .ok pool
    | some quotas =>
      match Quotas.quotaCheck setup type tmpl defaults quotas with
      | (_, .error message) => .error s!"{name} [{oid}] {message}"
      | (charged, .ok _) => .ok (pool.insert oid charged)

namespace Pools

def quotaCheck (setup : Setup F) (type : QuotaType) (uid gid : Int) (tmpl : QuotaTemplate F)
    (pools : Pools F) : Pools F × Except String Unit :=
  match checkHolder setup "User" type uid tmpl pools.defaultUserQuota pools.users with
  | .error message => (pools, .error message)
  | .ok users =>
    match checkHolder setup "Group" type gid tmpl pools.defaultGroupQuota pools.groups with
    | .error message => ({ pools with users }, .error message)
    | .ok groups => ({ pools with users, groups }, .ok ())

end Pools

def Grown (setup : Setup F) (type : QuotaType) (tmpl : QuotaTemplate F) (oid : Int)
    (before after : Map Int (Quotas F)) : Prop :=
  ∀ quotas, Holder before oid quotas → ∀ kind id metric, usageOf after oid kind id metric =
    grown setup (usageOf before oid kind id metric)
      (Quotas.amountsOf setup (quotas.requests type tmpl) kind id metric)

/-- Nothing is stored when the template is refused, and everything when it is accepted. -/
def Atomic (setup : Setup F) (type : QuotaType) (uid gid : Int) (tmpl : QuotaTemplate F) (pools : Pools F) : Prop :=
  let result := pools.quotaCheck setup type uid gid tmpl
  (result.2 ≠ .ok () → ∀ kind id metric,
      usageOf result.1.users uid kind id metric = usageOf pools.users uid kind id metric ∧
        usageOf result.1.groups gid kind id metric = usageOf pools.groups gid kind id metric) ∧
    (result.2 = .ok () → Grown setup type tmpl uid pools.users result.1.users ∧
      Grown setup type tmpl gid pools.groups result.1.groups)

def Counts (setup : Setup F) (type : QuotaType) (tmpl : QuotaTemplate F) (quotas : Quotas F) : Prop :=
  ∃ kind id metric, grown setup (quotas.usage kind id metric)
    (Quotas.amountsOf setup (quotas.requests type tmpl) kind id metric) ≠ quotas.usage kind id metric

variable {setup : Setup F} {name : String} {type : QuotaType} {tmpl : QuotaTemplate F}
  {defaults : Quotas F} {after : Map Int (Quotas F)}

theorem checkHolder_ok (accepted : checkHolder setup name type oid tmpl defaults pool = .ok after) :
    ((∀ quotas, ¬Holder pool oid quotas) ∧ after = pool) ∨
      ∃ quotas, Holder pool oid quotas ∧ (Quotas.quotaCheck setup type tmpl defaults quotas).2 = .ok () ∧
        after = pool.insert oid (Quotas.charge setup (quotas.requests type tmpl) quotas) := by
  rw [checkHolder] at accepted
  split at accepted
  · rename_i isAdmin
    exact .inl ⟨fun quotas isHolder => isHolder.1 isAdmin, (Except.ok.inj accepted).symm⟩
  · rename_i notAdmin
    split at accepted
    · rename_i missing
      refine .inl ⟨fun quotas isHolder => ?_, (Except.ok.inj accepted).symm⟩
      rw [isHolder.2] at missing
      cases missing
    · rename_i quotas found
      split at accepted
      · cases accepted
      · rename_i charged _ checked
        have isOk := congrArg Prod.snd checked
        have isCharged := Quotas.quotaCheck_ok isOk
        simp only [checked] at isCharged
        exact .inr ⟨quotas, ⟨notAdmin, found⟩, isOk, isCharged ▸ (Except.ok.inj accepted).symm⟩

theorem checkHolder_error {message : String}
    (refused : checkHolder setup name type oid tmpl defaults pool = .error message) :
    ∃ quotas, Holder pool oid quotas ∧ (Quotas.quotaCheck setup type tmpl defaults quotas).2 ≠ .ok () := by
  rw [checkHolder] at refused
  split at refused
  · cases refused
  · rename_i notAdmin
    split at refused
    · cases refused
    · rename_i quotas found
      split at refused
      · rename_i checked
        refine ⟨quotas, ⟨notAdmin, found⟩, fun isOk => ?_⟩
        rw [checked] at isOk
        cases isOk
      · cases refused

theorem grown_of_ok (accepted : checkHolder setup name type oid tmpl defaults pool = .ok after) :
    Grown setup type tmpl oid pool after := by
  intro quotas isHolder kind id metric
  obtain ⟨nobody, -⟩ | ⟨charged, isCharged, -, rfl⟩ := checkHolder_ok accepted
  · exact absurd isHolder (nobody quotas)
  · obtain rfl := isHolder.unique isCharged
    rw [usageOf_insert isCharged.2, usageOf_eq isCharged.2, Quotas.charge_usage]

variable {uid gid : Int} {pools : Pools F}

/-- A check is atomic unless the template counts for a user who has room for it and his group
does not. -/
theorem quota_atomicity : Atomic setup type uid gid tmpl pools ↔
      ¬∃ user group, Holder pools.users uid user ∧ Holder pools.groups gid group ∧
        (Quotas.quotaCheck setup type tmpl pools.defaultUserQuota user).2 = .ok () ∧ Counts setup type tmpl user ∧
        (Quotas.quotaCheck setup type tmpl pools.defaultGroupQuota group).2 ≠ .ok () := by
  cases checkedUser : checkHolder setup "User" type uid tmpl pools.defaultUserQuota pools.users with
  | error message =>
    have isResult : pools.quotaCheck setup type uid gid tmpl = (pools, .error message) := by
      rw [Pools.quotaCheck, checkedUser]
    refine iff_of_true ?_ ?_
    · rw [Atomic, isResult]
      exact ⟨fun _ _ _ _ => ⟨rfl, rfl⟩, fun accepted => absurd accepted (by simp)⟩
    · rintro ⟨user, -, isUser, -, accepted, -⟩
      obtain ⟨other, isOther, refused⟩ := checkHolder_error checkedUser
      exact refused (isUser.unique isOther ▸ accepted)
  | ok users =>
    cases checkedGroup : checkHolder setup "Group" type gid tmpl pools.defaultGroupQuota
        pools.groups with
    | ok groups =>
      have isResult : pools.quotaCheck setup type uid gid tmpl =
          ({ pools with users, groups }, .ok ()) := by
        rw [Pools.quotaCheck, checkedUser]
        simp only [checkedGroup]
      refine iff_of_true ?_ ?_
      · rw [Atomic, isResult]
        exact ⟨fun refused => absurd rfl refused, fun _ => ⟨grown_of_ok checkedUser, grown_of_ok checkedGroup⟩⟩
      · rintro ⟨-, group, -, isGroup, -, -, refused⟩
        obtain ⟨nobody, -⟩ | ⟨other, isOther, accepted, -⟩ := checkHolder_ok checkedGroup
        · exact nobody group isGroup
        · exact refused (isGroup.unique isOther ▸ accepted)
    | error message =>
      have isResult : pools.quotaCheck setup type uid gid tmpl =
          ({ pools with users }, .error message) := by
        rw [Pools.quotaCheck, checkedUser]
        simp only [checkedGroup]
      obtain ⟨group, isGroup, refused⟩ := checkHolder_error checkedGroup
      -- Only the usage of the user may have changed.
      have unchanged : Atomic setup type uid gid tmpl pools ↔ ∀ kind id metric,
          usageOf users uid kind id metric = usageOf pools.users uid kind id metric := by
        rw [Atomic, isResult]
        constructor
        · rintro ⟨same, -⟩ kind id metric
          exact (same (by simp) kind id metric).1
        · intro same
          exact ⟨fun _ kind id metric => ⟨same kind id metric, rfl⟩, fun accepted => absurd accepted (by simp)⟩
      rw [unchanged]
      obtain ⟨nobody, rfl⟩ | ⟨user, isUser, accepted, rfl⟩ := checkHolder_ok checkedUser
      · refine iff_of_true (fun _ _ _ => rfl) ?_
        rintro ⟨user, -, isUser, -⟩
        exact nobody user isUser
      · simp only [usageOf_insert isUser.2, usageOf_eq isUser.2, Quotas.charge_usage]
        constructor
        · rintro same ⟨other, -, isOther, -, -, ⟨kind, id, metric, counts⟩, -⟩
          obtain rfl := isUser.unique isOther
          exact counts (same kind id metric)
        · intro never kind id metric
          by_contra counts
          exact never ⟨user, group, isUser, isGroup, accepted, ⟨kind, id, metric, counts⟩, refused⟩

def wholeSetup : Setup Int := ⟨id, []⟩

def smallGroup : Pools Int where
  users := (∅ : Map Int (Quotas Int)).insert 5 fun _ => ∅
  groups := (∅ : Map Int (Quotas Int)).insert 100
    (Function.update (fun _ => ∅) .datastore
      ((∅ : Rows Int).insert "1" ⟨[], fun metric => if metric = "SIZE" then 5 else unlimited, fun _ => 0⟩))
  defaultUserQuota := fun _ => ∅
  defaultGroupQuota := fun _ => ∅

/-- An image of 10 megabytes is refused, and counts for the user. -/
theorem quota_atomicity_small_group :
    ¬∀ (setup : Setup Int) (type : QuotaType) (uid gid : Int) (tmpl : QuotaTemplate Int)
      (pools : Pools Int), Atomic setup type uid gid tmpl pools := by
  intro always
  let image : QuotaTemplate Int := { datastore := "1", size := some 10, systemDiskSize := 0 }
  have refused : (smallGroup.quotaCheck wholeSetup .datastore 5 100 image).2.isOk = false := by
    decide
  have usedBefore : usageOf smallGroup.users 5 .datastore "1" "SIZE" = 0 := by decide
  have usedAfter : usageOf (smallGroup.quotaCheck wholeSetup .datastore 5 100 image).1.users 5 .datastore
      "1" "SIZE" = 10 := by
    decide
  have atomic := always wholeSetup .datastore 5 100 image smallGroup
  have same := (atomic.1 (fun accepted => by simp [accepted, Except.isOk, Except.toBool] at refused)
    .datastore "1" "SIZE").1
  rw [usedBefore, usedAfter] at same
  exact absurd same (by decide)

end OpenNebula.Quota
