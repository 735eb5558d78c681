import OpenNebula.Users.UserAPI

namespace OpenNebula.Users

open Acl Library

/-! # Users and groups list each other

A request changes the user first and the groups later.  In between the two objects disagree,
and the operations that are still to come say how.  They are right in any order as long as no
request undoes, for the same user and group, what another one has not finished.
-/

namespace Directory

variable {directory : Directory} {uid gid : Oid}

section

variable (directory : Directory)

def Lists (uid gid : Oid) : Prop :=
  ∃ user, directory.users.lookup uid = some user ∧ gid ∈ user.groups

def Listed (uid gid : Oid) : Prop :=
  ∃ group, directory.groups.lookup gid = some group ∧ uid ∈ group.users

structure Symmetric (directory : Directory) : Prop where
  same : ∀ uid gid, directory.Lists uid gid ↔ directory.Listed uid gid
  primary : ∀ uid user, directory.users.lookup uid = some user → user.gid ∈ user.groups

def joins : Request → List (Oid × Oid)
  | .chown oid groupId | .addGroup oid groupId =>
    if oid ∈ directory.users then [(oid, groupId)] else []
  | .delGroup .. | .drop .. | .addAdmin .. | .delAdmin .. => []

def leaves : Request → List (Oid × Oid)
  | .chown oid newGid =>
    match directory.users.lookup oid with
    | none => []
    | some user => if newGid ∈ user.groups then [] else [(oid, user.gid)]
  | .delGroup oid groupId =>
    match directory.users.lookup oid with
    | none => []
    | some user => if groupId = user.gid then [] else [(oid, groupId)]
  | .drop oid =>
    match directory.users.lookup oid with
    | none => []
    | some user =>
      if oid = oneadminId then [] else (ascending user.groups).map fun gid => (oid, gid)
  | .addGroup .. | .addAdmin .. | .delAdmin .. => []

end

structure Agrees (directory : Directory) (pending : List Operation) : Prop where
  added : ∀ gid uid, .addUser gid uid ∈ pending → directory.Lists uid gid ∧ gid ∈ directory.groups
  removed : ∀ gid uid, .delUser gid uid ∈ pending → ¬directory.Lists uid gid
  settled : ∀ gid uid, .addUser gid uid ∉ pending → .delUser gid uid ∉ pending →
    (directory.Lists uid gid ↔ directory.Listed uid gid)
  kept : ∀ gid uid, .leaveGroup uid gid ∉ pending
  primary : ∀ uid user, directory.users.lookup uid = some user → user.gid ∈ user.groups

theorem Agrees.symmetric (agrees : directory.Agrees []) : directory.Symmetric :=
  ⟨fun uid gid => agrees.settled gid uid List.not_mem_nil List.not_mem_nil, agrees.primary⟩

theorem Agrees.congr {pending others : List Operation} (agrees : directory.Agrees pending)
    (same : ∀ operation, operation ∈ others ↔ operation ∈ pending) : directory.Agrees others := by
  refine ⟨?_, ?_, ?_, ?_, agrees.primary⟩
  · exact fun gid uid member => agrees.added gid uid ((same _).1 member)
  · exact fun gid uid member => agrees.removed gid uid ((same _).1 member)
  · intro gid uid notAdded notRemoved
    rw [same] at notAdded notRemoved
    exact agrees.settled gid uid notAdded notRemoved
  · exact fun gid uid member => agrees.kept gid uid ((same _).1 member)

theorem listed_editGroup {change : Group → AclManager → Group × AclManager} (users : Finset Oid → Finset Oid)
    (isUsers : ∀ group acl, (change group acl).1.users = users group.users) (user other : Oid) :
    (directory.editGroup gid change).Listed user other ↔
      if other = gid then ∃ group, directory.groups.lookup gid = some group ∧ user ∈ users group.users
      else directory.Listed user other := by
  cases found : directory.groups.lookup gid with
  | none =>
    rw [editGroup_missing found]
    split
    · rename_i same
      subst same
      simp [Listed, found]
    · rfl
  | some group =>
    rw [editGroup_eq found, Listed, lookup_withGroup found]
    split
    · simp [isUsers]
    · rfl

theorem users_editGroup (change : Group → AclManager → Group × AclManager) :
    (directory.editGroup gid change).users = directory.users := by
  unfold editGroup
  split <;> rfl

theorem mem_editGroup (change : Group → AclManager → Group × AclManager) (other : Oid) :
    other ∈ (directory.editGroup gid change).groups ↔ other ∈ directory.groups := by
  unfold editGroup
  split
  · rfl
  · exact Map.mem_modify

theorem listed_addUser (inside : gid ∈ directory.groups) (user other : Oid) :
    (directory.apply (.addUser gid uid)).Listed user other ↔
      directory.Listed user other ∨ (other = gid ∧ user = uid) := by
  obtain ⟨group, found⟩ := Option.isSome_iff_exists.1 (AList.lookup_isSome.2 inside)
  rw [apply, listed_editGroup (insert uid) fun _ _ => rfl]
  split
  · rename_i same
    subst same
    simp [Listed, found, or_comm]
  · rename_i apart
    simp [apart]

theorem delUser_users (group : Group) (acl : AclManager) (oid userId : Oid) :
    (group.delUser acl oid userId).1.users = group.users.erase userId := by
  by_cases isAdmin : userId ∈ group.admins
  · simp only [Group.delUser, Group.delAdmin, if_pos isAdmin, Group.after]
  · simp only [Group.delUser, if_neg isAdmin]

theorem listed_delUser (user other : Oid) : (directory.apply (.delUser gid uid)).Listed user other ↔
      directory.Listed user other ∧ ¬(other = gid ∧ user = uid) := by
  rw [apply, listed_editGroup (Finset.erase · uid) fun group acl => delUser_users group acl gid uid]
  split
  · rename_i same
    subst same
    constructor
    · rintro ⟨group, found, isUser⟩
      obtain ⟨apart, isUser⟩ := Finset.mem_erase.1 isUser
      exact ⟨⟨group, found, isUser⟩, fun here => apart here.2⟩
    · rintro ⟨⟨group, found, isUser⟩, apart⟩
      exact ⟨group, found, Finset.mem_erase.2 ⟨fun here => apart ⟨rfl, here⟩, isUser⟩⟩
  · rename_i apart
    simp [apart]

theorem addAdmin_users (group : Group) (acl : AclManager) (oid userId : Oid) :
    (group.after acl (group.addAdmin acl oid userId)).1.users = group.users := by
  rw [Group.addAdmin]
  split
  · rfl
  · split <;> rfl

theorem delAdmin_users (group : Group) (acl : AclManager) (oid userId : Oid) :
    (group.after acl (group.delAdmin acl oid userId)).1.users = group.users := by
  rw [Group.delAdmin]
  split <;> rfl

theorem listed_unchanged {change : Group → AclManager → Group × AclManager}
    (sameUsers : ∀ group acl, (change group acl).1.users = group.users) (user other : Oid) :
    (directory.editGroup gid change).Listed user other ↔ directory.Listed user other := by
  rw [listed_editGroup id sameUsers]
  split
  · rename_i same
    rw [same]
    rfl
  · rfl

theorem Agrees.done {after : Directory} {operation : Operation} {pending : List Operation}
    (agrees : directory.Agrees (operation :: pending)) (sameUsers : after.users = directory.users)
    (sameGroups : ∀ gid, gid ∈ after.groups ↔ gid ∈ directory.groups)
    (settled : ∀ gid uid, .addUser gid uid ∉ pending → .delUser gid uid ∉ pending →
      (directory.Lists uid gid ↔ after.Listed uid gid)) : after.Agrees pending := by
  have sameLists : ∀ uid gid, after.Lists uid gid ↔ directory.Lists uid gid := by
    intro uid gid
    rw [Lists, sameUsers]
    rfl
  refine ⟨?_, ?_, ?_, ?_, ?_⟩
  · intro gid uid member
    rw [sameLists, sameGroups]
    exact agrees.added gid uid (List.mem_cons_of_mem _ member)
  · intro gid uid member
    rw [sameLists]
    exact agrees.removed gid uid (List.mem_cons_of_mem _ member)
  · intro gid uid notAdded notRemoved
    rw [sameLists]
    exact settled gid uid notAdded notRemoved
  · exact fun gid uid member => agrees.kept gid uid (List.mem_cons_of_mem _ member)
  · rw [sameUsers]
    exact agrees.primary

theorem Agrees.apply {operation : Operation} {pending : List Operation}
    (agrees : directory.Agrees (operation :: pending)) : (directory.apply operation).Agrees pending := by
  cases operation with
  | addUser gid uid =>
    obtain ⟨lists, inside⟩ := agrees.added gid uid List.mem_cons_self
    refine agrees.done (users_editGroup _) (mem_editGroup _) fun other user notAdded notRemoved => ?_
    rw [listed_addUser inside]
    by_cases here : other = gid ∧ user = uid
    · obtain ⟨rfl, rfl⟩ := here
      exact iff_of_true lists (.inr ⟨rfl, rfl⟩)
    · rw [or_iff_left here]
      exact agrees.settled other user (by simpa [notAdded] using here) (by simpa using notRemoved)
  | delUser gid uid =>
    have notLists := agrees.removed gid uid List.mem_cons_self
    refine agrees.done (users_editGroup _) (mem_editGroup _) fun other user notAdded notRemoved => ?_
    rw [listed_delUser]
    by_cases here : other = gid ∧ user = uid
    · obtain ⟨rfl, rfl⟩ := here
      exact iff_of_false notLists fun listed => listed.2 ⟨rfl, rfl⟩
    · rw [and_iff_left here]
      exact agrees.settled other user (by simpa using notAdded) (by simpa [notRemoved] using here)
  | addAdmin gid uid =>
    refine agrees.done (users_editGroup _) (mem_editGroup _) fun other user notAdded notRemoved => ?_
    rw [Directory.apply, listed_unchanged fun group acl => addAdmin_users group acl gid uid]
    exact agrees.settled other user (by simpa using notAdded) (by simpa using notRemoved)
  | delAdmin gid uid =>
    refine agrees.done (users_editGroup _) (mem_editGroup _) fun other user notAdded notRemoved => ?_
    rw [Directory.apply, listed_unchanged fun group acl => delAdmin_users group acl gid uid]
    exact agrees.settled other user (by simpa using notAdded) (by simpa using notRemoved)
  | leaveGroup uid gid => exact absurd List.mem_cons_self (agrees.kept gid uid)
  | delUidRules uid =>
    refine agrees.done rfl (fun _ => Iff.rfl) fun other user notAdded notRemoved => ?_
    exact agrees.settled other user (by simpa using notAdded) (by simpa using notRemoved)

theorem Agrees.withUsers {others operations : List Operation} (agrees : directory.Agrees others)
    {users : Map Oid User} (adds : ∀ gid uid, .addUser gid uid ∈ operations →
      Lists { directory with users } uid gid ∧ gid ∈ directory.groups ∧ .delUser gid uid ∉ others)
    (dels : ∀ gid uid, .delUser gid uid ∈ operations →
      ¬Lists { directory with users } uid gid ∧ .addUser gid uid ∉ others)
    (keeps : ∀ gid uid, .leaveGroup uid gid ∉ operations)
    (same : ∀ gid uid, .addUser gid uid ∉ operations → .delUser gid uid ∉ operations →
      (Lists { directory with users } uid gid ↔ directory.Lists uid gid))
    (primary : ∀ uid user, users.lookup uid = some user → user.gid ∈ user.groups) :
    Agrees { directory with users } (operations ++ others) := by
  refine ⟨?_, ?_, ?_, ?_, primary⟩
  · intro gid uid member
    rcases List.mem_append.1 member with new | old
    · exact ⟨(adds gid uid new).1, (adds gid uid new).2.1⟩
    · obtain ⟨lists, inside⟩ := agrees.added gid uid old
      refine ⟨?_, inside⟩
      by_cases again : .addUser gid uid ∈ operations
      · exact (adds gid uid again).1
      · exact (same gid uid again fun undone => (dels gid uid undone).2 old).2 lists
  · intro gid uid member
    rcases List.mem_append.1 member with new | old
    · exact (dels gid uid new).1
    · by_cases again : .delUser gid uid ∈ operations
      · exact (dels gid uid again).1
      · rw [same gid uid (fun undone => (adds gid uid undone).2.2 old) again]
        exact agrees.removed gid uid old
  · intro gid uid notAdded notRemoved
    rw [List.mem_append, not_or] at notAdded notRemoved
    rw [same gid uid notAdded.1 notRemoved.1]
    exact agrees.settled gid uid notAdded.2 notRemoved.2
  · intro gid uid member
    rcases List.mem_append.1 member with new | old
    · exact keeps gid uid new
    · exact agrees.kept gid uid old

variable {user changed : User} {others operations : List Operation}

section

variable (found : directory.users.lookup uid = some user)
include found

theorem lists_iff : directory.Lists uid gid ↔ gid ∈ user.groups := by
  simp [Lists, found]

theorem lookup_updateUsers (other : Oid) : (Map.update uid (fun _ => changed) directory.users).lookup other =
      if other = uid then some changed else directory.users.lookup other := by
  rw [Map.lookup_update]
  split
  · rename_i same
    rw [same, found]
    rfl
  · exact congrFun Option.map_id _

theorem lists_updateUsers (other group : Oid) :
    Lists { directory with users := Map.update uid (fun _ => changed) directory.users } other group ↔
      if other = uid then group ∈ changed.groups else directory.Lists other group := by
  rw [Lists, lookup_updateUsers found]
  split
  · simp
  · rfl

end

theorem Agrees.updateUser (agrees : directory.Agrees others) (found : directory.users.lookup uid = some user)
    (about : ∀ operation ∈ operations, ∃ gid,
      operation = .addUser gid uid ∧ gid ∈ changed.groups ∧ gid ∈ directory.groups ∧ .delUser gid uid ∉ others ∨
        operation = .delUser gid uid ∧ gid ∉ changed.groups ∧ .addUser gid uid ∉ others)
    (same : ∀ gid, .addUser gid uid ∉ operations → .delUser gid uid ∉ operations →
      (gid ∈ changed.groups ↔ gid ∈ user.groups)) (primary : changed.gid ∈ changed.groups) :
    Agrees { directory with users := Map.update uid (fun _ => changed) directory.users }
      (operations ++ others) := by
  refine agrees.withUsers ?_ ?_ ?_ ?_ ?_
  · intro gid other member
    obtain ⟨group, ⟨isAdd, inside, isGroup, notRemoved⟩ | ⟨isDel, -, -⟩⟩ := about _ member
    · obtain ⟨rfl, rfl⟩ := Operation.addUser.inj isAdd
      exact ⟨by rwa [lists_updateUsers found, if_pos rfl], isGroup, notRemoved⟩
    · cases isDel
  · intro gid other member
    obtain ⟨group, ⟨isAdd, -, -, -⟩ | ⟨isDel, outside, notAdded⟩⟩ := about _ member
    · cases isAdd
    · obtain ⟨rfl, rfl⟩ := Operation.delUser.inj isDel
      exact ⟨by rwa [lists_updateUsers found, if_pos rfl], notAdded⟩
  · intro gid other member
    obtain ⟨group, ⟨isAdd, -, -, -⟩ | ⟨isDel, -, -⟩⟩ := about _ member
    · cases isAdd
    · cases isDel
  · intro gid other notAdded notRemoved
    rw [lists_updateUsers found]
    split
    · rename_i isUser
      subst isUser
      rw [lists_iff found]
      exact same gid notAdded notRemoved
    · rfl
  · intro other held isHeld
    rw [lookup_updateUsers found] at isHeld
    split at isHeld
    · rwa [← Option.some.inj isHeld]
    · exact agrees.primary other held isHeld

def InOrder (directory : Directory) (pending : List Operation) (request : Request) : Prop :=
  (∀ pair ∈ directory.joins request, .delUser pair.2 pair.1 ∉ pending) ∧
    ∀ pair ∈ directory.leaves request, .addUser pair.2 pair.1 ∉ pending

instance (directory : Directory) (pending : List Operation) (request : Request) :
    Decidable (directory.InOrder pending request) :=
  @instDecidableAnd _ _ (List.decidableBAll _ _) (List.decidableBAll _ _)

def Enterable (directory : Directory) : Request → Prop
  | .chown _ groupId | .addGroup _ groupId => groupId ∈ directory.groups
  | .delGroup .. | .drop .. | .addAdmin .. | .delAdmin .. => True

variable {oid newGid groupId : Oid}

theorem chown_member (apart : user.gid ≠ newGid) (isMember : newGid ∈ user.groups) :
    Users.chown user oid newGid = (⟨newGid, user.groups⟩, ⟨[.addUser newGid oid], some []⟩) := by
  simp [Users.chown, apart, User.setGroup, User.addGroup, isMember]

theorem chown_new (apart : user.gid ≠ newGid) (isNew : newGid ∉ user.groups) (primary : user.gid ∈ user.groups) :
    Users.chown user oid newGid = (⟨newGid, (insert newGid user.groups).erase user.gid⟩,
      ⟨[.addUser newGid oid, .delUser user.gid oid], some []⟩) := by
  simp [Users.chown, apart, User.setGroup, User.addGroup, isNew, User.delGroup, primary, User.after]

theorem mem_users (found : directory.users.lookup uid = some user) : uid ∈ directory.users :=
  AList.lookup_isSome.1 (Option.isSome_of_mem found)

theorem Agrees.chown (agrees : directory.Agrees others) (inside : newGid ∈ directory.groups)
    (inOrder : directory.InOrder others (.chown oid newGid)) (found : directory.users.lookup oid = some user) :
    Agrees { directory with
        users := Map.update oid (fun _ => (Users.chown user oid newGid).1) directory.users }
      ((Users.chown user oid newGid).2.operations ++ others) := by
  have primary := agrees.primary oid user found
  have notRemoved : .delUser newGid oid ∉ others := by
    refine inOrder.1 (oid, newGid) ?_
    simp [joins, mem_users found]
  by_cases same : user.gid = newGid
  · simp only [Users.chown, if_pos same]
    exact agrees.updateUser found (by simp) (fun _ _ _ => Iff.rfl) primary
  · by_cases isMember : newGid ∈ user.groups
    · rw [chown_member same isMember]
      refine agrees.updateUser found ?_ (fun _ _ _ => Iff.rfl) isMember
      intro operation member
      exact ⟨newGid, .inl ⟨List.mem_singleton.1 member, isMember, inside, notRemoved⟩⟩
    · have notAdded : .addUser user.gid oid ∉ others := by
        refine inOrder.2 (oid, user.gid) ?_
        simp [leaves, found, isMember]
      have isNew : newGid ∈ (insert newGid user.groups).erase user.gid :=
        Finset.mem_erase.2 ⟨fun isOld => same isOld.symm, Finset.mem_insert_self newGid _⟩
      rw [chown_new same isMember primary]
      refine agrees.updateUser found ?_ ?_ isNew
      · intro operation member
        rcases List.mem_cons.1 member with isAdd | isDel
        · exact ⟨newGid, .inl ⟨isAdd, isNew, inside, notRemoved⟩⟩
        · exact ⟨user.gid, .inr ⟨List.mem_singleton.1 isDel, Finset.notMem_erase _ _, notAdded⟩⟩
      · intro gid notNew notOld
        have apartNew : gid ≠ newGid := fun isNew => notNew (isNew ▸ List.mem_cons_self)
        have apartOld : gid ≠ user.gid := by
          rintro rfl
          exact notOld (List.mem_cons_of_mem _ List.mem_cons_self)
        simp [apartNew, apartOld]

theorem Agrees.addGroup {rest : Rest} (agrees : directory.Agrees others)
    (inside : groupId ∈ directory.groups) (inOrder : directory.InOrder others (.addGroup oid groupId))
    (found : directory.users.lookup oid = some user)
    (isDone : Users.addGroup user oid groupId = .ok (changed, rest)) :
    Agrees { directory with users := Map.update oid (fun _ => changed) directory.users }
      (rest.operations ++ others) := by
  have notRemoved : .delUser groupId oid ∉ others := by
    refine inOrder.1 (oid, groupId) ?_
    simp [joins, mem_users found]
  by_cases isMember : groupId ∈ user.groups
  · simp [Users.addGroup, User.addGroup, isMember] at isDone
  · simp only [Users.addGroup, User.addGroup, if_neg isMember, Except.ok.injEq, Prod.mk.injEq] at isDone
    obtain ⟨rfl, rfl⟩ := isDone
    have isNew := Finset.mem_insert_self groupId user.groups
    refine agrees.updateUser found ?_ ?_ (Finset.mem_insert_of_mem (agrees.primary oid user found))
    · intro operation member
      exact ⟨groupId, .inl ⟨List.mem_singleton.1 member, isNew, inside, notRemoved⟩⟩
    · intro gid notNew _
      have apart : gid ≠ groupId := fun isNew => notNew (isNew ▸ List.mem_cons_self)
      simp [apart]

theorem Agrees.delGroup {rest : Rest} (agrees : directory.Agrees others)
    (inOrder : directory.InOrder others (.delGroup oid groupId)) (found : directory.users.lookup oid = some user)
    (isDone : Users.delGroup user oid groupId = .ok (changed, rest)) :
    Agrees { directory with users := Map.update oid (fun _ => changed) directory.users }
      (rest.operations ++ others) := by
  by_cases isPrimary : groupId = user.gid
  · simp [Users.delGroup, User.delGroup, isPrimary] at isDone
  · have notAdded : .addUser groupId oid ∉ others := by
      refine inOrder.2 (oid, groupId) ?_
      simp [leaves, found, isPrimary]
    by_cases isMember : groupId ∈ user.groups
    · simp only [Users.delGroup, User.delGroup, if_neg isPrimary, if_pos isMember, Except.ok.injEq,
        Prod.mk.injEq] at isDone
      obtain ⟨rfl, rfl⟩ := isDone
      have keepsPrimary : user.gid ∈ user.groups.erase groupId :=
        Finset.mem_erase.2 ⟨fun same => isPrimary same.symm, agrees.primary oid user found⟩
      refine agrees.updateUser found ?_ ?_ keepsPrimary
      · intro operation member
        exact ⟨groupId, .inr ⟨List.mem_singleton.1 member, Finset.notMem_erase _ _, notAdded⟩⟩
      · intro gid _ notOld
        have apart : gid ≠ groupId := fun isOld => notOld (isOld ▸ List.mem_cons_self)
        simp [apart]
    · simp [Users.delGroup, User.delGroup, isPrimary, isMember] at isDone

theorem lists_erase (uid other gid : Oid) : Lists { directory with users := directory.users.erase uid } other gid ↔
      other ≠ uid ∧ directory.Lists other gid := by
  rw [Lists, Map.lookup_erase_eq]
  split
  · rename_i same
    simp [same]
  · rename_i apart
    simp [apart, Lists]

theorem mem_ascending {groups : Finset Oid} : gid ∈ ascending groups ↔ gid ∈ groups :=
  Finset.mem_sort _

theorem Agrees.drop (agrees : directory.Agrees others)
    (inOrder : directory.InOrder others (.drop oid)) (notOneadmin : oid ≠ oneadminId)
    (found : directory.users.lookup oid = some user) : Agrees { directory with users := directory.users.erase oid }
      ((dropRest user oid).operations ++ others) := by
  have isDel : ∀ gid other, .delUser gid other ∈ (dropRest user oid).operations ↔
      gid ∈ user.groups ∧ other = oid := by
    intro gid other
    simp [dropRest, mem_ascending, eq_comm]
  refine agrees.withUsers ?_ ?_ ?_ ?_ ?_
  · intro gid other member
    simp [dropRest] at member
  · intro gid other member
    obtain ⟨isGroup, rfl⟩ := (isDel gid other).1 member
    refine ⟨fun lists => ((lists_erase _ _ _).1 lists).1 rfl, ?_⟩
    refine inOrder.2 (other, gid) ?_
    simp [leaves, found, notOneadmin, mem_ascending, isGroup]
  · intro gid other member
    simp [dropRest] at member
  · intro gid other _ notRemoved
    rw [lists_erase]
    refine and_iff_right_of_imp ?_
    rintro lists rfl
    exact notRemoved ((isDel gid other).2 ⟨(lists_iff found).1 lists, rfl⟩)
  · intro other held isHeld
    rw [Map.lookup_erase_eq] at isHeld
    split at isHeld
    · cases isHeld
    · exact agrees.primary other held isHeld

theorem Agrees.cons {operation : Operation} (agrees : directory.Agrees others)
    (silent : ∀ gid uid, operation ≠ .addUser gid uid ∧ operation ≠ .delUser gid uid ∧
      operation ≠ .leaveGroup uid gid) : directory.Agrees (operation :: others) := by
  refine ⟨?_, ?_, ?_, ?_, agrees.primary⟩
  · intro gid uid member
    exact agrees.added gid uid ((List.mem_cons.1 member).resolve_left fun same => (silent gid uid).1 same.symm)
  · intro gid uid member
    exact agrees.removed gid uid
      ((List.mem_cons.1 member).resolve_left fun same => (silent gid uid).2.1 same.symm)
  · intro gid uid notAdded notRemoved
    exact agrees.settled gid uid (fun old => notAdded (List.mem_cons_of_mem _ old))
      fun old => notRemoved (List.mem_cons_of_mem _ old)
  · intro gid uid member
    rcases List.mem_cons.1 member with same | old
    · exact (silent gid uid).2.2 same.symm
    · exact agrees.kept gid uid old

theorem Agrees.forget (agrees : directory.Agrees others) (absent : directory.users.lookup oid = none) :
    directory.Agrees (.delUser groupId oid :: others) := by
  have notLists : ∀ gid, ¬directory.Lists oid gid := by
    rintro gid ⟨user, found, -⟩
    rw [absent] at found
    cases found
  refine @Agrees.withUsers directory others [.delUser groupId oid] agrees directory.users ?_ ?_ ?_
    (fun _ _ _ _ => Iff.rfl) agrees.primary
  · intro gid uid member
    cases List.mem_singleton.1 member
  · intro gid uid member
    obtain ⟨rfl, rfl⟩ := Operation.delUser.inj (List.mem_singleton.1 member)
    exact ⟨notLists gid, fun pending => notLists gid (agrees.added gid uid pending).1⟩
  · intro gid uid member
    cases List.mem_singleton.1 member

variable {request : Request}

theorem Agrees.change (agrees : directory.Agrees others) (enterable : directory.Enterable request)
    (inOrder : directory.InOrder others request) :
    (directory.change request).1.Agrees ((directory.change request).2.operations ++ others) := by
  cases request with
  | chown oid newGid =>
    rw [Directory.change, Directory.updateUser]
    cases found : directory.users.lookup oid with
    | none => exact agrees
    | some user => exact agrees.chown enterable inOrder found
  | addGroup oid groupId =>
    rw [Directory.change, Directory.updateUser]
    cases found : directory.users.lookup oid with
    | none => exact agrees
    | some user =>
      cases isDone : Users.addGroup user oid groupId with
      | error code =>
        simp only [isDone]
        exact agrees
      | ok result =>
        simp only [isDone]
        exact agrees.addGroup enterable inOrder found isDone
  | delGroup oid groupId =>
    rw [Directory.change]
    cases found : directory.users.lookup oid with
    | none =>
      rw [if_neg fun isUser => AList.lookup_eq_none.1 found isUser]
      exact agrees.forget found
    | some user =>
      rw [if_pos (mem_users found), Directory.updateUser, found]
      cases isDone : Users.delGroup user oid groupId with
      | error code =>
        simp only [isDone]
        exact agrees
      | ok result =>
        simp only [isDone]
        exact agrees.delGroup inOrder found isDone
  | drop oid =>
    rw [Directory.change]
    cases found : directory.users.lookup oid with
    | none => exact agrees
    | some user =>
      by_cases isOneadmin : oid = oneadminId
      · simp only [if_pos isOneadmin]
        exact agrees
      · simp only [if_neg isOneadmin]
        exact agrees.drop inOrder isOneadmin found
  | addAdmin oid userId | delAdmin oid userId => exact agrees.cons fun _ _ => ⟨by simp, by simp, by simp⟩

theorem change_groups (request : Request) : (directory.change request).1.groups = directory.groups := by
  obtain ⟨users, changed⟩ := directory.change_users request
  rw [changed]

theorem mem_apply (operation : Operation) (gid : Oid) :
    gid ∈ (directory.apply operation).groups ↔ gid ∈ directory.groups := by
  cases operation with
  | addUser group uid | delUser group uid | addAdmin group uid | delAdmin group uid => exact mem_editGroup _ gid
  | leaveGroup uid group | delUidRules uid => exact Iff.rfl

theorem Enterable.congr {after : Directory} (enterable : directory.Enterable request)
    (sameGroups : ∀ gid, gid ∈ after.groups ↔ gid ∈ directory.groups) : after.Enterable request := by
  cases request with
  | chown oid groupId | addGroup oid groupId => exact (sameGroups groupId).2 enterable
  | delGroup oid groupId | drop oid | addAdmin oid userId | delAdmin oid userId => exact trivial

theorem enterable_of_checked {allowed : Bool} (isChecked : directory.checked allowed request = true) :
    directory.Enterable request := by
  cases request with
  | chown oid groupId =>
    simp only [checked, Bool.and_eq_true, decide_eq_true_eq] at isChecked
    exact isChecked.1.1.2
  | addGroup oid groupId =>
    simp only [checked, Bool.and_eq_true, decide_eq_true_eq] at isChecked
    exact isChecked.1.2
  | delGroup oid groupId | drop oid | addAdmin oid userId | delAdmin oid userId => exact trivial

end Directory

namespace Thread

def operations : Thread → List Operation
  | .checked _ => []
  | .updated operation later _ => operation :: later

def request? : Thread → Option Request
  | .checked request => some request
  | .updated .. => none

end Thread

theorem Rest.threads_operations (rest : Rest) : rest.threads.flatMap Thread.operations = rest.operations := by
  obtain ⟨_ | ⟨operation, later⟩, missing⟩ := rest
  · rfl
  · exact List.append_nil _

theorem Rest.threads_updated {rest : Rest} {request : Request} : .checked request ∉ rest.threads := by
  obtain ⟨_ | ⟨operation, later⟩, missing⟩ := rest
  · exact List.not_mem_nil
  · intro member
    cases List.mem_singleton.1 member

namespace Server

variable {server : Server}

def pending (server : Server) : List Operation := server.threads.flatMap Thread.operations

def Requested (_ : Server) : Event → Prop
  | .start .. | .run _ => True
  | .login .. => False

instance (server : Server) : (event : Event) → Decidable (server.Requested event)
  | .start .. | .run _ => isTrue trivial
  | .login .. => isFalse id

/-- And no request undoes what another one has not finished. -/
def InOrder (server : Server) : Event → Prop
  | .start .. => True
  | .login .. => False
  | .run index => ∀ request ∈ server.threads[index]?.bind Thread.request?,
      server.directory.InOrder server.pending request

instance (server : Server) : (event : Event) → Decidable (server.InOrder event)
  | .start .. => isTrue trivial
  | .login .. => isFalse id
  | .run index => inferInstanceAs (Decidable (∀ request ∈ server.threads[index]?.bind Thread.request?, _))

/-- Nothing is in progress. -/
def memberSystem : System Server Event where
  initial server := server.threads = [] ∧ server.directory.Symmetric
  step server event := server.step event

structure Consistent (server : Server) : Prop where
  agrees : server.directory.Agrees server.pending
  enterable : ∀ request, .checked request ∈ server.threads → server.directory.Enterable request

theorem Consistent.start (consistent : server.Consistent) {request : Request} {allowed : Bool}
    (isChecked : server.directory.checked allowed request = true) :
    Consistent { server with threads := server.threads ++ [.checked request] } := by
  refine ⟨?_, fun other member => ?_⟩
  · rw [pending, List.flatMap_append]
    exact (List.append_nil server.pending).symm ▸ consistent.agrees
  · rcases List.mem_append.1 member with old | new
    · exact consistent.enterable other old
    · obtain rfl := Thread.checked.inj (List.mem_singleton.1 new)
      exact Directory.enterable_of_checked isChecked

theorem mem_operations (before middle after : List Thread) (operation : Operation) :
    operation ∈ (before ++ middle ++ after).flatMap Thread.operations ↔
      operation ∈ middle.flatMap Thread.operations ++ (before ++ after).flatMap Thread.operations := by
  simp only [List.flatMap_append, List.mem_append, or_assoc]
  exact or_left_comm

theorem inOrder_of_subset {directory : Directory} {pending others : List Operation} {request : Request}
    (inOrder : directory.InOrder pending request) (subset : others ⊆ pending) : directory.InOrder others request :=
  ⟨fun pair member removed => inOrder.1 pair member (subset removed),
    fun pair member added => inOrder.2 pair member (subset added)⟩

/-- An `addUser` that is to come finds its group. -/
theorem rest_eq {operation : Operation} {later others : List Operation}
    (agrees : server.directory.Agrees (operation :: others)) (missing : Option (List Operation)) :
    (server.rest operation later missing).operations = later := by
  cases operation with
  | addUser gid uid =>
    cases missing with
    | none => rfl
    | some replaced => rw [rest, if_pos (agrees.added gid uid List.mem_cons_self).2]
  | delUser gid uid | addAdmin gid uid | delAdmin gid uid | leaveGroup uid gid | delUidRules uid => rfl

theorem resume_agrees {thread : Thread} {others : List Operation}
    (agrees : server.directory.Agrees (thread.operations ++ others))
    (enterable : ∀ request, thread = .checked request → server.directory.Enterable request)
    (inOrder : ∀ request, thread = .checked request → server.directory.InOrder others request) :
    (server.resume thread).1.Agrees ((server.resume thread).2.operations ++ others) := by
  cases thread with
  | checked request => exact Directory.Agrees.change agrees (enterable request rfl) (inOrder request rfl)
  | updated operation later missing =>
    change (server.directory.apply operation).Agrees
      ((server.rest operation later missing).operations ++ others)
    rw [rest_eq agrees missing]
    exact Directory.Agrees.apply agrees

theorem resume_groups (thread : Thread) (gid : Oid) :
    gid ∈ (server.resume thread).1.groups ↔ gid ∈ server.directory.groups := by
  cases thread with
  | checked request =>
    change gid ∈ (server.directory.change request).1.groups ↔ _
    rw [Directory.change_groups]
  | updated operation later missing => exact Directory.mem_apply operation gid

theorem Consistent.run {index : Nat} {thread : Thread} (consistent : server.Consistent)
    (found : server.threads[index]? = some thread) (inOrder : server.InOrder (.run index)) : Consistent {
      directory := (server.resume thread).1
      threads := server.threads.take index ++ (server.resume thread).2.threads ++
        server.threads.drop (index + 1) } := by
  have isSplit : server.threads =
      server.threads.take index ++ [thread] ++ server.threads.drop (index + 1) := by
    obtain ⟨inside, isThread⟩ := List.getElem?_eq_some_iff.1 found
    rw [← isThread, List.append_assoc, List.singleton_append, List.cons_getElem_drop_succ, List.take_append_drop]
  have isPending : ∀ operation, operation ∈ server.pending ↔ operation ∈ thread.operations ++
      (server.threads.take index ++ server.threads.drop (index + 1)).flatMap Thread.operations := by
    intro operation
    have members := mem_operations (server.threads.take index) [thread] (server.threads.drop (index + 1))
      operation
    rwa [← isSplit, List.flatMap_singleton] at members
  have isThread : thread ∈ server.threads := List.mem_of_getElem? found
  refine ⟨?_, fun request member => ?_⟩
  · have resumed := @resume_agrees server thread
      ((server.threads.take index ++ server.threads.drop (index + 1)).flatMap Thread.operations)
      (consistent.agrees.congr fun operation => (isPending operation).symm) ?_ ?_
    · refine resumed.congr fun operation => ?_
      rw [pending, mem_operations, Rest.threads_operations]
    · rintro request rfl
      exact consistent.enterable request isThread
    · rintro request rfl
      refine inOrder_of_subset (inOrder request (by rw [found]; rfl)) fun operation member => ?_
      exact (isPending operation).2 (List.mem_append_right _ member)
  · have remains : .checked request ∈ server.threads := by
      rw [List.mem_append, List.mem_append] at member
      rcases member with (before | isRest) | after
      · exact List.mem_of_mem_take before
      · exact absurd isRest Rest.threads_updated
      · exact List.mem_of_mem_drop after
    exact (consistent.enterable request remains).congr (resume_groups thread)

theorem step_consistent {event : Event} {next : Server} (consistent : server.Consistent)
    (inOrder : server.InOrder event) (stepped : server.step event = some next) : next.Consistent := by
  cases event with
  | start request allowed =>
    obtain rfl := Option.some.inj stepped
    split
    · rename_i isChecked
      exact consistent.start isChecked
    · exact consistent
  | login userId answer => exact inOrder.elim
  | run index =>
    rw [step] at stepped
    cases found : server.threads[index]? with
    | none =>
      rw [found] at stepped
      cases stepped
    | some thread =>
      rw [found] at stepped
      obtain rfl := Option.some.inj stepped
      exact consistent.run found inOrder

/-- In a run in which no request undoes, for the same user and group, what another one has not
finished, the users and the groups list each other whenever nothing is in progress. -/
theorem membership (reached : memberSystem.Reachable InOrder server) (idle : server.threads = []) :
    server.directory.Symmetric := by
  have consistent : server.Consistent := by
    refine @System.Reachable.invariant _ _ _ _ (fun server => server.Consistent) _ reached ?_ ?_
    · rintro start ⟨noThreads, symmetric⟩
      refine ⟨⟨?_, ?_, ?_, ?_, symmetric.primary⟩, ?_⟩
      · simp [pending, noThreads]
      · simp [pending, noThreads]
      · exact fun gid uid _ _ => symmetric.same uid gid
      · simp [pending, noThreads]
      · simp [noThreads]
    · exact fun before event next consistent inOrder stepped => step_consistent consistent inOrder stepped
  have agrees := consistent.agrees
  rw [pending, idle] at agrees
  exact agrees.symmetric

def oneMember : Server where
  directory := {
    users := (∅ : Map Oid User).insert (Oid.ofNat 7) ⟨Oid.ofNat 1, {Oid.ofNat 1}⟩
    groups := ((∅ : Map Oid Group).insert (Oid.ofNat 2) {}).insert (Oid.ofNat 1) { users := {Oid.ofNat 7} } }

theorem oneMember_initial : memberSystem.initial oneMember := by
  have lists : ∀ uid gid, oneMember.directory.Lists uid gid ↔ uid = Oid.ofNat 7 ∧ gid = Oid.ofNat 1 := by
    intro uid gid
    rw [Directory.Lists, oneMember, Map.lookup_insert_eq]
    split
    · rename_i same
      simp [same]
    · rename_i apart
      simp [apart]
  have listed : ∀ uid gid, oneMember.directory.Listed uid gid ↔ uid = Oid.ofNat 7 ∧ gid = Oid.ofNat 1 := by
    intro uid gid
    rw [Directory.Listed, oneMember, Map.lookup_insert_eq, Map.lookup_insert_eq]
    split
    · rename_i same
      simp [same]
    · rename_i apart
      split
      · simp [apart]
      · simp [apart]
  refine ⟨rfl, fun uid gid => (lists uid gid).trans (listed uid gid).symm, fun uid user found => ?_⟩
  rw [oneMember, Map.lookup_insert_eq] at found
  split at found
  · rw [← Option.some.inj found]
    exact Finset.mem_singleton_self _
  · cases found

def sides (server : Server) (uid gid : Oid) : Bool × Bool × Bool :=
  (server.threads.isEmpty, (server.directory.users.lookup uid).any fun user => gid ∈ user.groups,
    (server.directory.groups.lookup gid).any fun group => uid ∈ group.users)

/-- The user enters the second group in two requests at once, and leaves the first one. -/
theorem membership_run : ∃ server : Server, memberSystem.Reachable InOrder server ∧
      server.sides (Oid.ofNat 7) (Oid.ofNat 2) = (true, true, true) ∧ server.directory.Symmetric := by
  have ran : (memberSystem.exec InOrder oneMember
      [.start (.addGroup (Oid.ofNat 7) (Oid.ofNat 2)) true, .start (.chown (Oid.ofNat 7) (Oid.ofNat 2)) true,
        .run 0, .run 1, .run 1, .run 0, .start (.delGroup (Oid.ofNat 7) (Oid.ofNat 1)) true, .run 0,
        .run 0]).map (fun server => server.sides (Oid.ofNat 7) (Oid.ofNat 2)) =
      some (true, true, true) := by
    decide
  obtain ⟨server, isRun, sides⟩ := Option.map_eq_some_iff.mp ran
  have reached := System.reachable_of_exec oneMember_initial isRun
  have idle : server.threads = [] := List.isEmpty_iff.mp (congrArg Prod.fst sides)
  exact ⟨server, reached, sides, membership reached idle⟩

/-- The user enters and leaves the second group, which is told so in the other order. -/
theorem membership_overtaken : ¬∀ server : Server, memberSystem.Reachable Requested server → server.threads = [] →
      server.directory.Symmetric := by
  intro always
  have ran : (memberSystem.exec Requested oneMember [.start (.addGroup (Oid.ofNat 7) (Oid.ofNat 2)) true, .run 0,
        .start (.delGroup (Oid.ofNat 7) (Oid.ofNat 2)) true, .run 1, .run 1, .run 0]).map
      (fun server => server.sides (Oid.ofNat 7) (Oid.ofNat 2)) = some (true, false, true) := by
    decide
  obtain ⟨server, isRun, sides⟩ := Option.map_eq_some_iff.mp ran
  have reached := System.reachable_of_exec oneMember_initial isRun
  have idle : server.threads = [] := List.isEmpty_iff.mp (congrArg Prod.fst sides)
  have notLists := congrArg (fun sides => sides.2.1) sides
  have listed := congrArg (fun sides => sides.2.2) sides
  have symmetric := always server reached idle
  have inGroup : server.directory.Listed (Oid.ofNat 7) (Oid.ofNat 2) := by
    cases found : server.directory.groups.lookup (Oid.ofNat 2) with
    | none => simp [Server.sides, found] at listed
    | some group => exact ⟨group, found, by simpa [Server.sides, found] using listed⟩
  obtain ⟨user, found, isMember⟩ := (symmetric.same _ _).mpr inGroup
  simp [Server.sides, found, isMember] at notLists

end Server

end OpenNebula.Users
