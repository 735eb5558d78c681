import OpenNebula.Users.AdminRules
import OpenNebula.Users.UserAPI

namespace OpenNebula.Users

open Acl Library

/-! # The rights of the administrators of groups

The rules of an administrator are added and deleted with the role, whatever the order of the
requests.  One of them is the same for all the groups of a user: it is lost when he stops to
administer one of several groups.
-/

namespace Directory

variable {directory : Directory} {uid gid : Oid}

section

variable (directory : Directory)

def Administers (uid gid : Oid) : Prop :=
  ∃ group, directory.groups.lookup gid = some group ∧ uid ∈ group.admins

/-- The administrators are users of their groups and have the rules that they are to have. -/
structure AdminRights (directory : Directory) : Prop where
  members : ∀ gid group, directory.groups.lookup gid = some group → group.admins ⊆ group.users
  userRule : ∀ uid gid, Held directory.acl (userRule uid gid) ↔ directory.Administers uid gid
  objectRule : ∀ uid gid, Held directory.acl (objectRule uid gid) ↔ directory.Administers uid gid
  groupRule : ∀ uid gid, Held directory.acl (groupRule uid gid) ↔ directory.Administers uid gid
  routerRule : ∀ uid, Held directory.acl (routerRule uid) ↔ ∃ gid, directory.Administers uid gid

def ends (uid gid : Oid) : Bool :=
  (directory.groups.lookup gid).any fun group => uid ∈ group.admins

def begins (uid gid : Oid) : Bool :=
  (directory.groups.lookup gid).any fun group => uid ∈ group.users && uid ∉ group.admins

/-- The user administers another group. -/
def elsewhere (uid gid : Oid) : Bool :=
  directory.groups.entries.any fun row => row.1 ≠ gid && uid ∈ row.2.admins

/-- The database accepts the rules of a new administrator.  The rules of deleted users are not
looked at. -/
def Writes : Operation → Prop
  | .addAdmin gid uid => directory.begins uid gid = true → Accepted (adminRules uid gid) directory.acl
  | .delUidRules _ => False
  | .addUser .. | .delUser .. | .delAdmin .. | .leaveGroup .. => True

/-- And the operation ends no role of a user who administers another group. -/
def Spares (operation : Operation) : Prop :=
  directory.Writes operation ∧
    match operation with
    | .delAdmin gid uid | .delUser gid uid =>
      directory.ends uid gid = true → directory.elsewhere uid gid = false
    | .addUser .. | .addAdmin .. | .leaveGroup .. | .delUidRules _ => True

end

instance (directory : Directory) : (operation : Operation) → Decidable (directory.Writes operation)
  | .addAdmin .. => inferInstanceAs (Decidable (_ → _))
  | .delUidRules _ => isFalse id
  | .addUser .. | .delUser .. | .delAdmin .. | .leaveGroup .. => isTrue trivial

instance (directory : Directory) : (operation : Operation) → Decidable (directory.Spares operation)
  | .delAdmin .. | .delUser .. => inferInstanceAs (Decidable (_ ∧ (_ → _)))
  | .addUser .. | .addAdmin .. | .leaveGroup .. | .delUidRules _ => inferInstanceAs (Decidable (_ ∧ True))

variable {group changed : Group} {acl : AclManager}

theorem administers_withGroup (found : directory.groups.lookup gid = some group) {other user : Oid} :
    (directory.withGroup gid changed acl).Administers user other ↔
      if other = gid then user ∈ changed.admins else directory.Administers user other := by
  rw [Administers, lookup_withGroup found]
  split
  · simp
  · rfl

theorem administers_iff (found : directory.groups.lookup gid = some group) :
    directory.Administers uid gid ↔ uid ∈ group.admins := by
  simp [Administers, found]

section

variable (rights : directory.AdminRights)
include rights

section

variable (found : directory.groups.lookup gid = some group)
include found

theorem members_withGroup
    (members : changed.admins ⊆ changed.users)
    (other : Oid) (held : Group) (isHeld : (directory.withGroup gid changed acl).groups.lookup other = some held) :
    held.admins ⊆ held.users := by
  rw [lookup_withGroup found] at isHeld
  split at isHeld
  · rwa [← Option.some.inj isHeld]
  · exact rights.members other held isHeld

theorem AdminRights.unchanged
    (members : changed.admins ⊆ changed.users)
    (sameAdmins : changed.admins = group.admins) : (directory.withGroup gid changed directory.acl).AdminRights := by
  have same : ∀ user other, (directory.withGroup gid changed directory.acl).Administers user other ↔
      directory.Administers user other := by
    intro user other
    rw [administers_withGroup found]
    split
    · rename_i isGroup
      rw [isGroup, administers_iff found, sameAdmins]
    · rfl
  refine ⟨members_withGroup rights found members, ?_, ?_, ?_, fun user => ?_⟩
  · exact fun user other => (rights.userRule user other).trans (same user other).symm
  · exact fun user other => (rights.objectRule user other).trans (same user other).symm
  · exact fun user other => (rights.groupRule user other).trans (same user other).symm
  · exact (rights.routerRule user).trans (exists_congr fun other => (same user other).symm)

theorem AdminRights.granted
    (members : changed.admins ⊆ changed.users)
    (added : changed.admins = insert uid group.admins)
    (held : ∀ rule, Held acl rule ↔ Held directory.acl rule ∨ Granted uid gid rule) :
    (directory.withGroup gid changed acl).AdminRights := by
  have more : ∀ user other, (directory.withGroup gid changed acl).Administers user other ↔
      directory.Administers user other ∨ uid = user ∧ gid = other := by
    intro user other
    rw [administers_withGroup found]
    split
    · rename_i isGroup
      subst isGroup
      rw [administers_iff found, added, Finset.mem_insert, or_comm, eq_comm, and_iff_left rfl]
    · rename_i isOther
      rw [or_iff_left fun same => isOther same.2.symm]
  refine ⟨members_withGroup rights found members, ?_, ?_, ?_, ?_⟩
  · intro user other
    rw [more, ← granted_userRule, ← rights.userRule]
    exact held (Users.userRule user other)
  · intro user other
    rw [more, ← granted_objectRule, ← rights.objectRule]
    exact held (Users.objectRule user other)
  · intro user other
    rw [more, ← granted_groupRule, ← rights.groupRule]
    exact held (Users.groupRule user other)
  · intro user
    rw [show Held (directory.withGroup gid changed acl).acl (Users.routerRule user) ↔ _ from
      held (Users.routerRule user), rights.routerRule, granted_routerRule]
    simp only [more, exists_or, exists_and_left, exists_eq', and_true]

theorem AdminRights.revoked
    (members : changed.admins ⊆ changed.users)
    (removed : changed.admins = group.admins.erase uid)
    (onlyHere : ∀ other, directory.Administers uid other → other = gid)
    (held : ∀ rule, Held acl rule ↔ Held directory.acl rule ∧ ¬Granted uid gid rule) :
    (directory.withGroup gid changed acl).AdminRights := by
  have fewer : ∀ user other, (directory.withGroup gid changed acl).Administers user other ↔
      directory.Administers user other ∧ ¬(uid = user ∧ gid = other) := by
    intro user other
    rw [administers_withGroup found]
    split
    · rename_i isGroup
      subst isGroup
      rw [administers_iff found, removed, Finset.mem_erase, and_iff_left rfl, and_comm, ne_comm]
    · rename_i isOther
      rw [and_iff_left fun same => isOther same.2.symm]
  refine ⟨members_withGroup rights found members, ?_, ?_, ?_, ?_⟩
  · intro user other
    rw [fewer, ← granted_userRule, ← rights.userRule]
    exact held (Users.userRule user other)
  · intro user other
    rw [fewer, ← granted_objectRule, ← rights.objectRule]
    exact held (Users.objectRule user other)
  · intro user other
    rw [fewer, ← granted_groupRule, ← rights.groupRule]
    exact held (Users.groupRule user other)
  · intro user
    rw [show Held (directory.withGroup gid changed acl).acl (Users.routerRule user) ↔ _ from
      held (Users.routerRule user), rights.routerRule, granted_routerRule]
    simp only [fewer]
    constructor
    · rintro ⟨⟨other, administers⟩, notUser⟩
      exact ⟨other, administers, fun same => notUser same.1⟩
    · rintro ⟨other, administers, notHere⟩
      refine ⟨⟨other, administers⟩, ?_⟩
      rintro rfl
      exact notHere ⟨rfl, (onlyHere other administers).symm⟩

end

end

theorem elsewhere_false (alone : directory.elsewhere uid gid = false) (other : Oid)
    (administers : directory.Administers uid other) : other = gid := by
  obtain ⟨group, found, isAdmin⟩ := administers
  by_contra apart
  have listed := List.any_eq_false.1 alone ⟨other, group⟩ (Map.mem_entries_iff.2 found)
  simp [apart, isAdmin] at listed

/-- The store can be written, and the administrators have their rights. -/
structure Sound (directory : Directory) : Prop where
  ready : Ready directory.acl
  rights : directory.AdminRights

section

variable (sound : directory.Sound)
include sound

section

variable (found : directory.groups.lookup gid = some group)
include found

theorem Sound.addAdmin
    (accepted : directory.begins uid gid = true → Accepted (adminRules uid gid) directory.acl) :
    (directory.apply (.addAdmin gid uid)).Sound := by
  rw [Directory.apply, editGroup_eq found, Group.addAdmin]
  have members := sound.rights.members gid group found
  by_cases isUser : uid ∈ group.users
  · by_cases isAdmin : uid ∈ group.admins
    · rw [if_neg (not_not.2 isUser), if_pos isAdmin]
      exact ⟨sound.ready, sound.rights.unchanged found members rfl⟩
    · rw [if_neg (not_not.2 isUser), if_neg isAdmin]
      have begins : directory.begins uid gid = true := by simp [Directory.begins, found, isUser, isAdmin]
      obtain ⟨ready, held⟩ := addAdminRules_spec sound.ready (accepted begins)
      exact ⟨ready, sound.rights.granted found (Finset.insert_subset isUser members) rfl held⟩
  · rw [if_pos isUser]
    exact ⟨sound.ready, sound.rights.unchanged found members rfl⟩

theorem Sound.revoke (isAdmin : uid ∈ group.admins)
    (spares : directory.ends uid gid = true → directory.elsewhere uid gid = false)
    {changed : Group} (members : changed.admins ⊆ changed.users) (removed : changed.admins = group.admins.erase uid) :
    (directory.withGroup gid changed (delAdminRules directory.acl uid gid)).Sound := by
  have ends : directory.ends uid gid = true := by simp [Directory.ends, found, isAdmin]
  obtain ⟨ready, held⟩ := @delAdminRules_spec directory.acl uid gid sound.ready
  exact ⟨ready, sound.rights.revoked found members removed (elsewhere_false (spares ends)) held⟩

theorem Sound.delAdmin
    (spares : directory.ends uid gid = true → directory.elsewhere uid gid = false) :
    (directory.apply (.delAdmin gid uid)).Sound := by
  rw [Directory.apply, editGroup_eq found, Group.delAdmin]
  have members := sound.rights.members gid group found
  split
  · rename_i isAdmin
    exact sound.revoke found isAdmin spares ((Finset.erase_subset uid _).trans members) rfl
  · exact ⟨sound.ready, sound.rights.unchanged found members rfl⟩

theorem Sound.delUser
    (spares : directory.ends uid gid = true → directory.elsewhere uid gid = false) :
    (directory.apply (.delUser gid uid)).Sound := by
  rw [Directory.apply, editGroup_eq found, Group.delUser, Group.delAdmin]
  have members := sound.rights.members gid group found
  by_cases isAdmin : uid ∈ group.admins
  · rw [if_pos isAdmin, if_pos isAdmin]
    exact sound.revoke found isAdmin spares (Finset.erase_subset_erase uid members) rfl
  · rw [if_neg isAdmin]
    refine ⟨sound.ready, sound.rights.unchanged found ?_ rfl⟩
    exact Finset.subset_erase.2 ⟨members, isAdmin⟩

theorem Sound.addUser :
    (directory.apply (.addUser gid uid)).Sound := by
  rw [Directory.apply, editGroup_eq found]
  have members := sound.rights.members gid group found
  exact ⟨sound.ready, sound.rights.unchanged found (members.trans (Finset.subset_insert uid _)) rfl⟩

end

theorem Sound.withUsers (users : Map Oid User) : Sound { directory with users } :=
  ⟨sound.ready, sound.rights.members, sound.rights.userRule, sound.rights.objectRule,
    sound.rights.groupRule, sound.rights.routerRule⟩

theorem Sound.apply {operation : Operation}
    (spares : directory.Spares operation) : (directory.apply operation).Sound := by
  cases operation with
  | addUser gid uid =>
    cases found : directory.groups.lookup gid with
    | none => rwa [Directory.apply, editGroup_missing found]
    | some group => exact sound.addUser found
  | delUser gid uid =>
    cases found : directory.groups.lookup gid with
    | none => rwa [Directory.apply, editGroup_missing found]
    | some group => exact sound.delUser found spares.2
  | addAdmin gid uid =>
    cases found : directory.groups.lookup gid with
    | none => rwa [Directory.apply, editGroup_missing found]
    | some group => exact sound.addAdmin found spares.1
  | delAdmin gid uid =>
    cases found : directory.groups.lookup gid with
    | none => rwa [Directory.apply, editGroup_missing found]
    | some group => exact sound.delAdmin found spares.2
  | leaveGroup uid gid => exact sound.withUsers _
  | delUidRules uid => exact spares.1.elim

end

theorem login_users (directory : Directory) (userId : Oid) (answer : DriverAnswer) :
    ∃ users, (directory.login userId answer).1 = { directory with users } := by
  rw [Directory.login]
  split
  · exact directory.updateUser_users userId _
  · exact ⟨_, rfl⟩

end Directory

namespace Server

variable {server : Server}

def Thread.operation? : Thread → Option Operation
  | .checked _ => none
  | .updated operation _ _ => some operation

def Along (ok : Directory → Operation → Prop) (server : Server) : Event → Prop
  | .run index => ∀ operation ∈ server.threads[index]?.bind Thread.operation?, ok server.directory operation
  | .start .. | .login .. => True

instance (ok : Directory → Operation → Prop) [∀ directory operation, Decidable (ok directory operation)]
    (server : Server) : (event : Event) → Decidable (server.Along ok event)
  | .run index =>
    inferInstanceAs (Decidable (∀ operation ∈ server.threads[index]?.bind Thread.operation?, _))
  | .start .. | .login .. => isTrue trivial

/-- Nobody administers a group, and the store has none of the rules of administrators. -/
def adminSystem : System Server Event where
  initial server :=
    server.threads = [] ∧
      (∃ acl, AclManager.system.Reachable (fun acl event => event.Reads acl) acl ∧
        server.directory.acl = acl ∧ acl.isFederationSlave = false) ∧
      (∀ gid group, server.directory.groups.lookup gid = some group → group.admins = ∅) ∧
      ∀ uid gid, ∀ rule ∈ adminRules uid gid, ¬Held server.directory.acl rule
  step server event := server.step event

theorem step_sound {event : Event} {next : Server} (sound : server.directory.Sound)
    (spares : server.Along Directory.Spares event) (stepped : server.step event = some next) :
    next.directory.Sound := by
  cases event with
  | start request allowed =>
    obtain rfl := Option.some.inj stepped
    split
    · exact sound
    · exact sound
  | login userId answer =>
    obtain rfl := Option.some.inj stepped
    obtain ⟨users, changed⟩ := server.directory.login_users userId answer
    exact changed ▸ sound.withUsers users
  | run index =>
    rw [step] at stepped
    cases found : server.threads[index]? with
    | none =>
      rw [found] at stepped
      cases stepped
    | some thread =>
      rw [found] at stepped
      obtain rfl := Option.some.inj stepped
      cases thread with
      | checked request =>
        obtain ⟨users, changed⟩ := server.directory.change_users request
        exact changed ▸ sound.withUsers users
      | updated operation later missing => exact sound.apply (spares operation (by rw [found]; rfl))

/-- In a run in which no role ends of a user who administers another group, the administrators
of a group are users of it, and the rules in the store are those of the administrators. -/
theorem group_admins (reached : adminSystem.Reachable (Along Directory.Spares) server) :
    server.directory.AdminRights := by
  have sound : server.directory.Sound := by
    refine @System.Reachable.invariant _ _ _ _ (fun server => server.directory.Sound) _ reached ?_ ?_
    · rintro start ⟨-, ⟨acl, reachedAcl, isAcl, master⟩, noAdmins, noRules⟩
      have nobody : ∀ uid gid, ¬start.directory.Administers uid gid := by
        rintro uid gid ⟨group, found, isAdmin⟩
        rw [noAdmins gid group found] at isAdmin
        exact absurd isAdmin (Finset.notMem_empty uid)
      refine ⟨isAcl ▸ ready_of_reachable reachedAcl master, ?_, ?_, ?_, ?_, ?_⟩
      · intro gid group found
        rw [noAdmins gid group found]
        exact Finset.empty_subset _
      · exact fun uid gid => iff_of_false (noRules uid gid _ (by simp [adminRules])) (nobody uid gid)
      · exact fun uid gid => iff_of_false (noRules uid gid _ (by simp [adminRules])) (nobody uid gid)
      · exact fun uid gid => iff_of_false (noRules uid gid _ (by simp [adminRules])) (nobody uid gid)
      · intro uid
        refine iff_of_false (noRules uid uid _ (by simp [adminRules])) ?_
        rintro ⟨gid, administers⟩
        exact nobody uid gid administers
    · exact fun before event next sound spares stepped => step_sound sound spares stepped
  exact sound.rights

def whole (request : Request) (updates : Nat) : List Event :=
  .start request true :: List.replicate updates (.run 0)

def twoGroups : Server where
  directory := {
    users := (∅ : Map Oid User).insert (Oid.ofNat 7) ⟨Oid.ofNat 1, {Oid.ofNat 1}⟩
    groups := ((∅ : Map Oid Group).insert (Oid.ofNat 2) {}).insert (Oid.ofNat 1) { users := {Oid.ofNat 7} } }

theorem twoGroups_initial : adminSystem.initial twoGroups := by
  refine ⟨rfl, ⟨{}, ⟨{}, AclManager.initial_empty, Relation.ReflTransGen.refl⟩, rfl, rfl⟩, ?_, ?_⟩
  · intro gid group found
    rw [twoGroups, Map.lookup_insert_eq, Map.lookup_insert_eq] at found
    split at found
    · rw [← Option.some.inj found]
    · split at found
      · rw [← Option.some.inj found]
      · cases found
  · rintro uid gid rule - ⟨found, listed, -⟩
    exact absurd listed List.not_mem_nil

/-- The rule for virtual routers is in the store, and the user administers this group. -/
def rightsIn (server : Server) (uid gid : Oid) : Bool × Bool :=
  (server.directory.acl.aclRules.any fun found => found.sameAs (routerRule uid), server.directory.ends uid gid)

/-- The role moves from one group to another one. -/
theorem group_admins_run : ∃ server : Server, adminSystem.Reachable (Along Directory.Spares) server ∧
      server.rightsIn (Oid.ofNat 7) (Oid.ofNat 2) = (true, true) ∧ server.directory.AdminRights := by
  have ran : (adminSystem.exec (Along Directory.Spares) twoGroups
      (whole (.addAdmin (Oid.ofNat 1) (Oid.ofNat 7)) 2 ++ whole (.addGroup (Oid.ofNat 7) (Oid.ofNat 2)) 2 ++
        whole (.delAdmin (Oid.ofNat 1) (Oid.ofNat 7)) 2 ++
        whole (.addAdmin (Oid.ofNat 2) (Oid.ofNat 7)) 2)).map
      (fun server => server.rightsIn (Oid.ofNat 7) (Oid.ofNat 2)) = some (true, true) := by
    decide
  obtain ⟨server, isRun, hasRights⟩ := Option.map_eq_some_iff.mp ran
  have reached := System.reachable_of_exec twoGroups_initial isRun
  exact ⟨server, reached, hasRights, group_admins reached⟩

/-- The role ends in one of two groups, and with it the rule for virtual routers. -/
theorem group_admins_lost : ¬∀ server : Server, adminSystem.Reachable (Along Directory.Writes) server →
      server.directory.AdminRights := by
  intro always
  have ran : (adminSystem.exec (Along Directory.Writes) twoGroups
      (whole (.addAdmin (Oid.ofNat 1) (Oid.ofNat 7)) 2 ++ whole (.addGroup (Oid.ofNat 7) (Oid.ofNat 2)) 2 ++
        whole (.addAdmin (Oid.ofNat 2) (Oid.ofNat 7)) 2 ++
        whole (.delAdmin (Oid.ofNat 1) (Oid.ofNat 7)) 2)).map
      (fun server => server.rightsIn (Oid.ofNat 7) (Oid.ofNat 2)) = some (false, true) := by
    decide
  obtain ⟨server, isRun, hasRights⟩ := Option.map_eq_some_iff.mp ran
  obtain ⟨notHeld, administers⟩ := Prod.mk.inj hasRights
  have rights := always server (System.reachable_of_exec twoGroups_initial isRun)
  have isAdmin : server.directory.Administers (Oid.ofNat 7) (Oid.ofNat 2) := by
    cases found : server.directory.groups.lookup (Oid.ofNat 2) with
    | none => simp [Directory.ends, found] at administers
    | some group => exact ⟨group, found, by simpa [Directory.ends, found] using administers⟩
  obtain ⟨found, listed, same⟩ := (rights.routerRule (Oid.ofNat 7)).mpr ⟨Oid.ofNat 2, isAdmin⟩
  exact absurd same (List.any_eq_false.mp notHeld found listed)

end Server

end OpenNebula.Users
