import OpenNebula.Users.Group

namespace OpenNebula.Users

open Library

/-! # Requests that change the groups of a user (`UserAPI`, `GroupAPI`, `UserPool`)

A request first reads the objects that it is about and checks the rights.  It then updates
the user, and after that the groups, one after the other.  Each update holds the lock of one
object only.
-/

def oneadminId : Oid := Oid.ofNat 0

/-- What remains to be done once the user is updated: the operations, and those that replace
the rest of them when the group of an `addUser` does not exist, if there are any -/
structure Rest where
  operations : List Operation
  missing : Option (List Operation) := none

def chown (user : User) (oid newGid : Oid) : User × Rest :=
  let oldGid := user.gid
  if oldGid = newGid then (user, ⟨[], none⟩)
  else
    let moved := user.setGroup newGid
    match moved.addGroup newGid with
    | .ok added =>
      (added.after (added.delGroup oldGid), ⟨[.addUser newGid oid, .delUser oldGid oid], some []⟩)
    -- The new group is a secondary one, and the old one becomes one.
    | .error _ => (moved, ⟨[.addUser newGid oid], some []⟩)

def addGroup (user : User) (oid groupId : Oid) : Except Int (User × Rest) :=
  match user.addGroup groupId with
  | .ok changed => .ok (changed, ⟨[.addUser groupId oid], some [.leaveGroup oid groupId]⟩)
  | .error code => .error code

def delGroup (user : User) (oid groupId : Oid) : Except Int (User × Rest) :=
  match user.delGroup groupId with
  | .ok changed => .ok (changed, ⟨[.delUser groupId oid], none⟩)
  | .error code => .error code

def ascending (groups : Finset Oid) : List Oid := groups.sort (· ≤ ·)

def dropRest (user : User) (oid : Oid) : Rest where
  operations := (ascending user.groups).map (Operation.delUser · oid) ++ [.delUidRules oid]

/-- The groups that the driver gives to a user, the primary one first, and whether he is to
administer them -/
structure DriverAnswer where
  groups : List (Oid × Bool)
  managesAdmins : Bool

def driverGroups (user : User) (userId : Oid) (groupAdmins : Finset Oid) (answer : DriverAnswer) : User × Rest :=
  match answer.groups with
  | [] => (user, ⟨[], none⟩)
  | (newGid, _) :: _ =>
    let newGroups := (answer.groups.map Prod.fst).toFinset
    let newAdmins := ((answer.groups.filter Prod.snd).map Prod.fst).toFinset
    if newGroups = user.groups ∧ groupAdmins = newAdmins then (user, ⟨[], none⟩)
    else
      let moved := if user.gid ∈ newGroups then user else user.setGroup newGid
      let added := ascending (newGroups \ user.groups)
      let removed := ascending (user.groups \ newGroups)
      let same := ascending (user.groups ∩ newGroups)
      let joined := added.foldl (fun user gid => user.after (user.addGroup gid)) moved
      let left := removed.foldl (fun user gid => user.after (user.delGroup gid)) joined
      -- The administrators of a new group are set before its users.
      let adds := added.flatMap fun gid =>
        (if answer.managesAdmins ∧ gid ∈ newAdmins then [Operation.addAdmin gid userId] else []) ++
          [.addUser gid userId]
      let dels := removed.map fun gid => Operation.delUser gid userId
      let changes := same.flatMap fun gid =>
        (if gid ∈ groupAdmins ∧ gid ∉ newAdmins then [Operation.delAdmin gid userId] else []) ++
          if gid ∉ groupAdmins ∧ gid ∈ newAdmins then [.addAdmin gid userId] else []
      (left, ⟨adds ++ dels ++ if answer.managesAdmins then changes else [], none⟩)

inductive Request where
  | chown (oid newGid : Oid)
  | addGroup (oid groupId : Oid)
  | delGroup (oid groupId : Oid)
  | drop (oid : Oid)
  | addAdmin (oid userId : Oid)
  | delAdmin (oid userId : Oid)

namespace Directory

variable (directory : Directory)

def administered (userId : Oid) (user : User) : Finset Oid :=
  user.groups.filter fun gid =>
    (directory.groups.lookup gid).any (fun group => userId ∈ group.admins) = true

def checked (allowed : Bool) : Request → Bool
  | .chown oid newGid =>
    oid ∈ directory.users && newGid ∈ directory.groups && oid ≠ oneadminId && allowed
  | .addGroup oid groupId | .delGroup oid groupId =>
    oid ∈ directory.users && groupId ∈ directory.groups && allowed
  | .drop oid => oid ∈ directory.users && allowed
  | .addAdmin oid userId | .delAdmin oid userId =>
    oid ∈ directory.groups && userId ∈ directory.users && allowed

def updateUser (oid : Oid) (update : User → Except Int (User × Rest)) : Directory × Rest :=
  match directory.users.lookup oid with
  | none => (directory, ⟨[], none⟩)
  | some user =>
    match update user with
    | .error _ => (directory, ⟨[], none⟩)
    | .ok (changed, rest) =>
      ({ directory with users := Map.update oid (fun _ => changed) directory.users }, rest)

def change : Request → Directory × Rest
  | .chown oid newGid => directory.updateUser oid fun user => .ok (Users.chown user oid newGid)
  | .addGroup oid groupId => directory.updateUser oid fun user => Users.addGroup user oid groupId
  | .delGroup oid groupId =>
    -- The group is updated also when the user is gone.
    if oid ∈ directory.users then
      directory.updateUser oid fun user => Users.delGroup user oid groupId
    else (directory, ⟨[.delUser groupId oid], none⟩)
  | .drop oid =>
    match directory.users.lookup oid with
    | none => (directory, ⟨[], none⟩)
    | some user =>
      if oid = oneadminId then (directory, ⟨[], none⟩)
      else ({ directory with users := directory.users.erase oid }, dropRest user oid)
  | .addAdmin oid userId => (directory, ⟨[.addAdmin oid userId], none⟩)
  | .delAdmin oid userId => (directory, ⟨[.delAdmin oid userId], none⟩)

def login (userId : Oid) (answer : DriverAnswer) : Directory × Rest :=
  if answer.groups.all fun row => row.1 ∈ directory.groups then
    directory.updateUser userId fun user =>
      .ok (driverGroups user userId (directory.administered userId user) answer)
  else (directory, ⟨[], none⟩)

end Directory

namespace Directory

theorem updateUser_users (directory : Directory) (oid : Oid) (update : User → Except Int (User × Rest)) :
    ∃ users, (directory.updateUser oid update).1 = { directory with users } := by
  unfold Directory.updateUser
  split
  · exact ⟨_, rfl⟩
  · split
    · exact ⟨_, rfl⟩
    · exact ⟨_, rfl⟩

theorem change_users (directory : Directory) (request : Request) :
    ∃ users, (directory.change request).1 = { directory with users } := by
  cases request with
  | chown oid newGid | addGroup oid groupId => exact directory.updateUser_users oid _
  | delGroup oid groupId =>
    rw [Directory.change]
    split
    · exact directory.updateUser_users oid _
    · exact ⟨_, rfl⟩
  | drop oid =>
    rw [Directory.change]
    split
    · exact ⟨_, rfl⟩
    · split
      · exact ⟨_, rfl⟩
      · exact ⟨_, rfl⟩
  | addAdmin oid userId | delAdmin oid userId => exact ⟨_, rfl⟩

end Directory

inductive Thread where
  | checked (request : Request)
  | updated (operation : Operation) (later : List Operation) (missing : Option (List Operation))

/-- A request with nothing left to do is over. -/
def Rest.threads : Rest → List Thread
  | ⟨[], _⟩ => []
  | ⟨operation :: later, missing⟩ => [.updated operation later missing]

structure Server where
  directory : Directory := {}
  threads : List Thread := []

inductive Event where
  | start (request : Request) (allowed : Bool)
  | login (userId : Oid) (answer : DriverAnswer)
  /-- The request in this place makes its next update. -/
  | run (index : Nat)

namespace Server

variable (server : Server)

def rest (operation : Operation) (later : List Operation) (missing : Option (List Operation)) : Rest :=
  match operation, missing with
  | .addUser gid _, some others =>
    if gid ∈ server.directory.groups then ⟨later, some others⟩ else ⟨others, none⟩
  | _, _ => ⟨later, missing⟩

def resume : Thread → Directory × Rest
  | .checked request => server.directory.change request
  | .updated operation later missing =>
    (server.directory.apply operation, server.rest operation later missing)

def step : Event → Option Server
  | .start request allowed =>
    some (if server.directory.checked allowed request then
      { server with threads := server.threads ++ [.checked request] }
    else server)
  | .login userId answer =>
    let (directory, rest) := server.directory.login userId answer
    some { directory, threads := server.threads ++ rest.threads }
  | .run index =>
    match server.threads[index]? with
    | none => none
    | some thread =>
      let (directory, rest) := server.resume thread
      some { directory, threads :=
        server.threads.take index ++ rest.threads ++ server.threads.drop (index + 1) }

end Server

end OpenNebula.Users
