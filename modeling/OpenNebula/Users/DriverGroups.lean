import Mathlib.Data.List.TakeWhile
import OpenNebula.Library.Streams
import OpenNebula.Users.GroupAdmins
import OpenNebula.Users.Membership

namespace OpenNebula.Users

open Acl Library

/-! # Answers of a driver that manages the groups (`UserPool`) -/

/-- `is >> word` -/
def readWord (chars : List Char) : Option (List Char × List Char) :=
  let chars := chars.dropWhile isBlank
  if chars = [] then none else some (chars.takeWhile (!isBlank ·), chars.dropWhile (!isBlank ·))

/-- `is >> tmp_gid` -/
def readInt (chars : List Char) : Option (Int × List Char) :=
  let signed := splitSign (chars.dropWhile isBlank)
  match readDigits 10 signed.2 none with
  | (none, _) => none
  | (some magnitude, rest) =>
    if (Width.int.store signed.1 magnitude).2 then some ((Width.int.store signed.1 magnitude).1, rest) else none

/-- The loop of `parse_auth_msg` over the group identifiers; every turn reads a character. -/
def parseGroups (directory : Directory) : ℕ → List Char → Except String (List (Oid × Bool))
  | 0, _ => .ok []
  | fuel + 1, chars =>
    -- The stream is good as long as its end has not been read.
    if chars = [] then .ok []
    else let chars := chars.dropWhile isBlank
      let isAdmin := chars.head? = some '*'
      match readInt (if isAdmin then chars.tail else chars) with
      | none => .error "One or more group IDs are malformed"
      | some (gid, rest) =>
        if 0 ≤ gid ∧ Oid.ofNat gid.toNat ∈ directory.groups then
          (parseGroups directory fuel rest).map ((Oid.ofNat gid.toNat, decide isAdmin) :: ·)
        else .error "One or more group IDs do not exist"

def parseAuthMsg (directory : Directory) (message : String) : Except String (List (Oid × Bool)) :=
  match (readWord message.toList).bind fun driver => (readWord driver.2).bind fun name => readWord name.2 with
  | none => .ok []
  | some (_, rest) => parseGroups directory message.length rest

/-- The part of `authenticate_internal` after the driver has agreed -/
def Directory.authenticate (directory : Directory) (userId : Oid) (managesAdmins : Bool) (message : String) :
    Except String Directory :=
  (parseAuthMsg directory message).map fun groups =>
    let (updated, rest) := directory.login userId ⟨groups, managesAdmins⟩
    rest.operations.foldl Directory.apply updated

structure GroupField where
  blanks : List Char
  starred : Bool
  gid : Oid
  separated : blanks ≠ [] ∧ ∀ char ∈ blanks, isBlank char = true

def IsWord (chars : List Char) : Prop := chars ≠ [] ∧ ∀ char ∈ chars, isBlank char = false

def AreBlanks (chars : List Char) : Prop := ∀ char ∈ chars, isBlank char = true

/-- An answer `<driver> <name> <secret> [*]gid ...` -/
structure DriverMessage where
  driver : List Char
  beforeName : List Char
  name : List Char
  beforeSecret : List Char
  secret : List Char
  groups : List GroupField
  trailing : List Char
  words : IsWord driver ∧ IsWord name ∧ IsWord secret
  separated : beforeName ≠ [] ∧ AreBlanks beforeName ∧ beforeSecret ≠ [] ∧ AreBlanks beforeSecret
  grouped : groups ≠ []
  blanks : AreBlanks trailing

def GroupField.text (field : GroupField) : List Char :=
  field.blanks ++ ((if field.starred then ['*'] else []) ++ (toString field.gid.val).toList)

namespace DriverMessage

variable (message : DriverMessage)

def groupTexts : List Char := message.groups.flatMap GroupField.text ++ message.trailing

def text : String :=
  String.ofList (message.driver ++ (message.beforeName ++ (message.name ++ (message.beforeSecret ++
    (message.secret ++ message.groupTexts)))))

def answer : List (Oid × Bool) := message.groups.map fun field => (field.gid, field.starred)

end DriverMessage

section Parsing

variable {rest lead word trailing : List Char} {directory : Directory}

theorem readWord_append (isWord : IsWord word) (blanks : AreBlanks lead)
    (ends : ∀ char ∈ rest.head?, isBlank char = true) : readWord (lead ++ (word ++ rest)) = some (word, rest) := by
  obtain ⟨filled, plain⟩ := isWord
  have start : (lead ++ (word ++ rest)).dropWhile isBlank = word ++ rest := by
    rw [List.dropWhile_append_of_pos blanks]
    obtain ⟨first, more, rfl⟩ := List.exists_cons_of_ne_nil filled
    exact List.dropWhile_cons_of_neg (by simp [plain first])
  have stop : rest.takeWhile (!isBlank ·) = [] ∧ rest.dropWhile (!isBlank ·) = rest := by
    cases rest with
    | nil => exact ⟨rfl, rfl⟩
    | cons char more => simp [ends char rfl]
  have notBlank : ∀ char ∈ word, (!isBlank char) = true := fun char member => by simp [plain char member]
  simp only [readWord, start, List.append_eq_nil_iff, filled, false_and, if_false,
    List.takeWhile_append_of_pos notBlank, List.dropWhile_append_of_pos notBlank, stop, List.append_nil]

theorem digitValue_blank {char : Char} (blank : isBlank char = true) : digitValue 10 char = none := by
  have notDigit : char.isDigit = false := by
    refine Bool.eq_false_iff.2 fun isDigit => ?_
    rw [(isDigit_plain isDigit).1] at blank
    contradiction
  simp only [digitValue, notDigit, Bool.false_eq_true, if_false]
  refine if_neg ?_
  split
  · omega
  · split <;> omega

theorem readInt_gid (gid : Oid) (ends : ∀ char ∈ rest.head?, isBlank char = true) :
    readInt ((toString gid.val).toList ++ rest) = some ((gid.val : Int), rest) := by
  obtain ⟨digit, more, isDigit, isText⟩ := toDigits_cons gid.val
  have chars : (toString gid.val).toList = digit.digitChar :: more := Nat.toList_repr.trans isText
  have read : readDigits 10 (digit.digitChar :: more ++ rest) none = (some gid.val, rest) :=
    readDigits_append (isText ▸ readDigits_toDigits gid.val) fun char isHead => digitValue_blank (ends char isHead)
  have start : ((toString gid.val).toList ++ rest).dropWhile isBlank = digit.digitChar :: (more ++ rest) := by
    rw [chars]
    exact List.dropWhile_cons_of_neg (by simp [(digitChar_plain isDigit).1])
  have fits : Width.int.store false gid.val = ((gid.val : Int), true) := by
    simp only [Width.store, Bool.false_eq_true, if_false, if_pos gid.isLt]
  rw [List.cons_append] at read
  simp only [readInt, start, splitSign_digits isDigit, read, fits, if_true]

theorem parseGroups_field {field : GroupField} (present : field.gid ∈ directory.groups)
    (ends : ∀ char ∈ rest.head?, isBlank char = true) (fuel : ℕ) :
    parseGroups directory (fuel + 1) (field.text ++ rest) =
      (parseGroups directory fuel rest).map ((field.gid, field.starred) :: ·) := by
  have filled : field.text ++ rest ≠ [] := by simp [GroupField.text, field.separated.1]
  have isGid : Oid.ofNat ((field.gid.val : Int)).toNat = field.gid := Fin.ext (Nat.mod_eq_of_lt field.gid.isLt)
  have read := readInt_gid field.gid ends
  rw [parseGroups, if_neg filled]
  cases starred : field.starred with
  | true =>
    have start : (field.text ++ rest).dropWhile isBlank = '*' :: ((toString field.gid.val).toList ++ rest) := by
      rw [GroupField.text, starred, if_pos rfl, List.append_assoc, List.dropWhile_append_of_pos field.separated.2]
      rfl
    simp only [start, List.head?_cons, if_true, List.tail_cons, read, isGid, Int.natCast_nonneg, true_and, if_pos present,
      decide_true]
  | false =>
    obtain ⟨digit, more, isDigit, isText⟩ := toDigits_cons field.gid.val
    have chars : (toString field.gid.val).toList = digit.digitChar :: more := Nat.toList_repr.trans isText
    have start : (field.text ++ rest).dropWhile isBlank = (toString field.gid.val).toList ++ rest := by
      rw [GroupField.text, starred, if_neg Bool.false_ne_true, List.append_assoc,
        List.dropWhile_append_of_pos field.separated.2, chars]
      exact List.dropWhile_cons_of_neg (by simp [(digitChar_plain isDigit).1])
    have notStar : ¬((toString field.gid.val).toList ++ rest).head? = some '*' := by
      have plain : ∀ digit < 10, Nat.digitChar digit ≠ '*' := by decide
      rw [chars]
      exact fun same => plain digit isDigit (Option.some.inj same)
    simp only [start, notStar, if_false, read, isGid, Int.natCast_nonneg, true_and, if_pos present, decide_false]

theorem parseGroups_fields {fields : List GroupField} (exist : ∀ field ∈ fields, field.gid ∈ directory.groups)
    (blanks : AreBlanks trailing) {fuel : ℕ} (enough : (fields.flatMap GroupField.text ++ trailing).length ≤ fuel) :
    parseGroups directory fuel (fields.flatMap GroupField.text ++ trailing) =
      if trailing = [] then .ok (fields.map fun field => (field.gid, field.starred))
      else .error "One or more group IDs are malformed" := by
  induction fields generalizing fuel with
  | nil =>
    cases fuel with
    | zero =>
      have none : trailing = [] := List.length_eq_zero_iff.1 (Nat.le_zero.1 enough)
      simp [none, parseGroups]
    | succ fuel =>
      by_cases none : trailing = []
      · simp [parseGroups, none]
      · have skipped : trailing.dropWhile isBlank = [] := List.dropWhile_eq_nil_iff.2 blanks
        simp [parseGroups, none, skipped, readInt, splitSign, readDigits]
  | cons field rest induction =>
    obtain ⟨gidExists, others⟩ := List.forall_mem_cons.1 exist
    have ends : ∀ char ∈ (rest.flatMap GroupField.text ++ trailing).head?, isBlank char = true := by
      cases rest with
      | nil => exact fun char isHead => blanks char (List.mem_of_mem_head? isHead)
      | cons next later =>
        obtain ⟨first, more, isBlanks⟩ := List.exists_cons_of_ne_nil next.separated.1
        intro char isHead
        have same : first = char := by simpa [GroupField.text, isBlanks] using isHead
        exact same ▸ next.separated.2 first (by simp [isBlanks])
    have positive : 0 < field.text.length := List.length_pos_iff.2 (by simp [GroupField.text, field.separated.1])
    rw [List.flatMap_cons, List.append_assoc] at enough ⊢
    rw [List.length_append] at enough
    obtain ⟨fuel, rfl⟩ := Nat.exists_eq_succ_of_ne_zero (show fuel ≠ 0 by omega)
    rw [Nat.succ_eq_add_one, parseGroups_field gidExists ends, induction others (by omega)]
    split <;> rfl

theorem parseAuthMsg_text (message : DriverMessage) (exist : ∀ field ∈ message.groups, field.gid ∈ directory.groups) :
    parseAuthMsg directory message.text =
      if message.trailing = [] then .ok message.answer else .error "One or more group IDs are malformed" := by
  obtain ⟨isDriver, isName, isSecret⟩ := message.words
  obtain ⟨someName, beforeName, someSecret, beforeSecret⟩ := message.separated
  have starts {blanks more : List Char} (filled : blanks ≠ []) (areBlanks : AreBlanks blanks) :
      ∀ char ∈ (blanks ++ more).head?, isBlank char = true := by
    obtain ⟨first, others, rfl⟩ := List.exists_cons_of_ne_nil filled
    exact fun char isHead => Option.some.inj isHead ▸ areBlanks first List.mem_cons_self
  obtain ⟨field, others, isGroups⟩ := List.exists_cons_of_ne_nil message.grouped
  have groupsStart : ∀ char ∈ message.groupTexts.head?, isBlank char = true := by
    rw [DriverMessage.groupTexts, isGroups, List.flatMap_cons, GroupField.text, List.append_assoc, List.append_assoc]
    exact starts field.separated.1 field.separated.2
  have driver {more : List Char} :
      readWord (message.driver ++ (message.beforeName ++ more)) = some (message.driver, message.beforeName ++ more) :=
    @readWord_append _ [] _ isDriver (fun char none => by simp at none) (starts someName beforeName)
  rw [parseAuthMsg, DriverMessage.text, String.toList_ofList, driver, Option.bind_some,
    readWord_append isName beforeName (starts someSecret beforeSecret), Option.bind_some,
    readWord_append isSecret beforeSecret groupsStart]
  refine parseGroups_fields exist message.blanks ?_
  simp only [← String.length_toList, String.toList_ofList, List.length_append, DriverMessage.groupTexts]
  omega

end Parsing

/-! What the operations of a login do to each group. -/

namespace Operation

def group? : Operation → Option Oid
  | .addUser gid _ | .delUser gid _ | .addAdmin gid _ | .delAdmin gid _ => some gid
  | .leaveGroup .. | .delUidRules _ => none

def onGroup (group : Group) : Operation → Group
  | .addUser _ uid => group.addUser uid
  | .delUser _ uid => ⟨group.users.erase uid, group.admins.erase uid⟩
  | .addAdmin _ uid => if uid ∈ group.users then { group with admins := insert uid group.admins } else group
  | .delAdmin _ uid => { group with admins := group.admins.erase uid }
  | .leaveGroup .. | .delUidRules _ => group

end Operation

namespace Directory

variable {directory : Directory} {uid gid : Oid} {user : User}

theorem lookup_editGroup {change : Group → AclManager → Group × AclManager} {onGroup : Group → Group}
    (same : ∀ group acl, (change group acl).1 = onGroup group) (other : Oid) :
    (directory.editGroup gid change).groups.lookup other =
      if some gid = some other then (directory.groups.lookup other).map onGroup else directory.groups.lookup other := by
  cases found : directory.groups.lookup gid with
  | none =>
    rw [editGroup_missing found]
    split
    · rename_i isGid
      rw [← Option.some.inj isGid, found]
      rfl
    · rfl
  | some group =>
    rw [editGroup_eq found, lookup_withGroup found]
    by_cases isGid : other = gid
    · rw [if_pos isGid, if_pos (congrArg some isGid.symm), isGid, found, same]
      rfl
    · rw [if_neg isGid, if_neg fun same => isGid (Option.some.inj same).symm]

theorem lookup_apply (operation : Operation) (other : Oid) : (directory.apply operation).groups.lookup other =
      if operation.group? = some other then (directory.groups.lookup other).map (Operation.onGroup · operation)
      else directory.groups.lookup other := by
  cases operation with
  | addUser gid uid =>
    refine lookup_editGroup (fun group acl => ?_) other
    rfl
  | delUser gid uid =>
    refine lookup_editGroup (fun group acl => ?_) other
    by_cases isAdmin : uid ∈ group.admins
    · simp only [Group.delUser, Group.delAdmin, if_pos isAdmin, Group.after, Operation.onGroup]
    · simp only [Group.delUser, if_neg isAdmin, Operation.onGroup, Finset.erase_eq_of_notMem isAdmin]
  | addAdmin gid uid =>
    refine lookup_editGroup (fun group acl => ?_) other
    by_cases isUser : uid ∈ group.users
    · by_cases isAdmin : uid ∈ group.admins
      · simp only [Group.addAdmin, isUser, isAdmin, not_true_eq_false, if_false, if_true, Group.after, Operation.onGroup,
          Finset.insert_eq_of_mem isAdmin]
      · simp only [Group.addAdmin, isUser, isAdmin, not_true_eq_false, if_false, if_true, Group.after, Operation.onGroup]
    · simp only [Group.addAdmin, isUser, not_false_eq_true, if_true, if_false, Group.after, Operation.onGroup]
  | delAdmin gid uid =>
    refine lookup_editGroup (fun group acl => ?_) other
    by_cases isAdmin : uid ∈ group.admins
    · simp only [Group.delAdmin, if_pos isAdmin, Group.after, Operation.onGroup]
    · simp only [Group.delAdmin, if_neg isAdmin, Group.after, Operation.onGroup, Finset.erase_eq_of_notMem isAdmin]
  | leaveGroup => rfl
  | delUidRules => rfl

theorem lookup_operations (operations : List Operation) (directory : Directory) (gid : Oid) :
    (operations.foldl apply directory).groups.lookup gid =
      (directory.groups.lookup gid).map ((operations.filter (·.group? = some gid)).foldl Operation.onGroup) := by
  induction operations generalizing directory with
  | nil => exact (congrFun Option.map_id _).symm
  | cons operation rest induction =>
    rw [List.foldl_cons, induction, lookup_apply, List.filter_cons]
    by_cases own : operation.group? = some gid
    · rw [if_pos own, if_pos (decide_eq_true own), Option.map_map]
      rfl
    · rw [if_neg own, if_neg (by simpa using own)]

theorem users_operations {operations : List Operation} (ofGroups : ∀ operation ∈ operations, operation.group? ≠ none)
    (directory : Directory) : (operations.foldl apply directory).users = directory.users := by
  induction operations generalizing directory with
  | nil => rfl
  | cons operation rest induction =>
    obtain ⟨ofGroup, others⟩ := List.forall_mem_cons.1 ofGroups
    rw [List.foldl_cons, induction others]
    cases operation with
    | addUser | delUser | addAdmin | delAdmin => exact users_editGroup _
    | leaveGroup | delUidRules => exact absurd rfl ofGroup

theorem filter_operations {gids : List Oid} (distinct : gids.Nodup) {operations : Oid → List Operation}
    (own : ∀ gid, ∀ operation ∈ operations gid, operation.group? = some gid) (gid : Oid) :
    (gids.flatMap operations).filter (·.group? = some gid) = if gid ∈ gids then operations gid else [] := by
  induction gids with
  | nil => rfl
  | cons first rest induction =>
    obtain ⟨fresh, distinct⟩ := List.nodup_cons.1 distinct
    rw [List.flatMap_cons, List.filter_append, induction distinct]
    by_cases same : gid = first
    · subst same
      rw [if_neg fresh, if_pos List.mem_cons_self, List.append_nil]
      exact List.filter_eq_self.2 fun operation member => decide_eq_true (own gid operation member)
    · have none : (operations first).filter (·.group? = some gid) = [] := by
        refine List.filter_eq_nil_iff.2 fun operation member => ?_
        rw [own first operation member]
        simpa using Ne.symm same
      simp only [none, List.nil_append, List.mem_cons, same, false_or]

theorem mem_administered : gid ∈ directory.administered uid user ↔ gid ∈ user.groups ∧ directory.Administers uid gid := by
  rw [administered, Finset.mem_filter, Administers]
  simp [Option.any_eq_true]

theorem foldl_addGroup (gids : List Oid) (user : User) :
    gids.foldl (fun user gid => user.after (user.addGroup gid)) user = { user with groups := user.groups ∪ gids.toFinset } := by
  induction gids generalizing user with
  | nil => simp
  | cons gid rest induction =>
    have one : user.after (user.addGroup gid) = { user with groups := insert gid user.groups } := by
      by_cases member : gid ∈ user.groups
      · simp [User.addGroup, User.after, member]
      · simp [User.addGroup, User.after, member]
    rw [List.foldl_cons, induction, one, List.toFinset_cons, Finset.union_insert, Finset.insert_union]

theorem foldl_delGroup {gids : List Oid} {primary : Oid} (apart : primary ∉ gids) (groups : Finset Oid) :
    gids.foldl (fun (user : User) gid => user.after (user.delGroup gid)) ⟨primary, groups⟩ =
      ⟨primary, groups \ gids.toFinset⟩ := by
  induction gids generalizing groups with
  | nil => simp
  | cons gid rest induction =>
    rw [List.mem_cons, not_or] at apart
    have one : User.after ⟨primary, groups⟩ (User.delGroup ⟨primary, groups⟩ gid) = ⟨primary, groups.erase gid⟩ := by
      by_cases member : gid ∈ groups
      · simp [User.delGroup, User.after, member, Ne.symm apart.1]
      · simp [User.delGroup, User.after, member, Ne.symm apart.1]
    rw [List.foldl_cons, one, induction apart.2, List.toFinset_cons, Finset.sdiff_insert, Finset.erase_sdiff_comm]

variable {answer : List (Oid × Bool)} {managesAdmins : Bool}

/-- Users and groups agree on the user, and the administrators are users. -/
structure Settled (directory : Directory) (uid : Oid) (user : User) : Prop where
  found : directory.users.lookup uid = some user
  primary : user.gid ∈ user.groups
  users : ∀ gid group, directory.groups.lookup gid = some group → (uid ∈ group.users ↔ gid ∈ user.groups)
  admins : ∀ gid group, directory.groups.lookup gid = some group → uid ∈ group.admins → uid ∈ group.users
  groups : ∀ gid ∈ user.groups, gid ∈ directory.groups

theorem settled_of_symmetric (found : directory.users.lookup uid = some user) (symmetric : directory.Symmetric)
    (members : ∀ gid group, directory.groups.lookup gid = some group → group.admins ⊆ group.users) :
    directory.Settled uid user := by
  have same (gid : Oid) := (lists_iff found).symm.trans (symmetric.same uid gid)
  refine ⟨found, symmetric.primary uid user found, fun gid group isGroup => ?_, fun gid group isGroup isAdmin =>
    members gid group isGroup isAdmin, fun gid member => ?_⟩
  · rw [same gid, Listed, isGroup]
    simp
  · obtain ⟨group, isGroup, -⟩ := (same gid).1 member
    exact AList.lookup_isSome.1 (by rw [isGroup]; rfl)

/-- The user has the groups of the answer, they have him, and he administers some of them. -/
structure Leaves (user : User) (uid : Oid) (managesAdmins : Bool) (answer : List (Oid × Bool)) (admins : Oid → Prop)
    (after : Directory) : Prop where
  groups : ∃ changed, after.users.lookup uid = some changed ∧ (∀ gid, gid ∈ changed.groups ↔ gid ∈ answer.map Prod.fst) ∧
    (user.gid ∈ answer.map Prod.fst → changed.gid = user.gid) ∧
    (user.gid ∉ answer.map Prod.fst → some changed.gid = (answer.map Prod.fst).head?)
  listed : ∀ gid, after.Listed uid gid ↔ gid ∈ answer.map Prod.fst
  admins : managesAdmins = true → ∀ gid, after.Administers uid gid ↔ admins gid

theorem mem_starred : gid ∈ ((answer.filter Prod.snd).map Prod.fst).toFinset ↔ (gid, true) ∈ answer := by
  simp only [List.mem_toFinset, List.mem_map, List.mem_filter]
  constructor
  · rintro ⟨⟨first, starred⟩, ⟨member, isStarred⟩, rfl⟩
    exact (show starred = true from isStarred) ▸ member
  · exact fun member => ⟨(gid, true), ⟨member, rfl⟩, rfl⟩

/-- The operations of a group that is gained, lost or kept. -/
theorem onGroup_login (settled : directory.Settled uid user) {group : Group} (isGroup : directory.groups.lookup gid = some group)
    (newGroups groupAdmins newAdmins : Finset Oid) (isAdmins : gid ∈ groupAdmins ↔ gid ∈ user.groups ∧ uid ∈ group.admins)
    (sub : newAdmins ⊆ newGroups) : let adds := (ascending (newGroups \ user.groups)).flatMap fun gid =>
      (if managesAdmins ∧ gid ∈ newAdmins then [Operation.addAdmin gid uid] else []) ++ [.addUser gid uid]
    let dels := (ascending (user.groups \ newGroups)).map fun gid => Operation.delUser gid uid
    let changes := (ascending (user.groups ∩ newGroups)).flatMap fun gid =>
      (if gid ∈ groupAdmins ∧ gid ∉ newAdmins then [Operation.delAdmin gid uid] else []) ++
        if gid ∉ groupAdmins ∧ gid ∈ newAdmins then [.addAdmin gid uid] else []
    let final := ((adds ++ dels ++ if managesAdmins then changes else []).filter (·.group? = some gid)).foldl
      Operation.onGroup group
    (uid ∈ final.users ↔ gid ∈ newGroups) ∧
      (managesAdmins = true → (uid ∈ final.admins ↔ gid ∈ newAdmins ∧ gid ∈ user.groups)) := by
  intro adds dels changes final
  have users := settled.users gid group isGroup
  have admins := settled.admins gid group isGroup
  have isAdds : adds.filter (·.group? = some gid) = if gid ∈ ascending (newGroups \ user.groups) then
      (if managesAdmins ∧ gid ∈ newAdmins then [Operation.addAdmin gid uid] else []) ++ [.addUser gid uid] else [] :=
    filter_operations (Finset.sort_nodup _ _) (fun gid operation member => by
      rcases List.mem_append.1 member with first | second
      · split at first
        · rw [List.mem_singleton.1 first]
          rfl
        · simp at first
      · rw [List.mem_singleton.1 second]
        rfl) gid
  have isDels : dels.filter (·.group? = some gid) =
      if gid ∈ ascending (user.groups \ newGroups) then [Operation.delUser gid uid] else [] := by
    rw [show dels = _ from List.map_eq_flatMap]
    exact filter_operations (Finset.sort_nodup _ _) (fun gid operation member => by
      rw [List.mem_singleton.1 member]
      rfl) gid
  have isChanges : changes.filter (·.group? = some gid) = if gid ∈ ascending (user.groups ∩ newGroups) then
      (if gid ∈ groupAdmins ∧ gid ∉ newAdmins then [Operation.delAdmin gid uid] else []) ++
        (if gid ∉ groupAdmins ∧ gid ∈ newAdmins then [.addAdmin gid uid] else []) else [] :=
    filter_operations (Finset.sort_nodup _ _) (fun gid operation member => by
      rcases List.mem_append.1 member with first | second
      · split at first
        · rw [List.mem_singleton.1 first]
          rfl
        · simp at first
      · split at second
        · rw [List.mem_singleton.1 second]
          rfl
        · simp at second) gid
  simp only [final, List.filter_append, isAdds, isDels, apply_ite (List.filter _), isChanges, List.filter_nil,
    mem_ascending, Finset.mem_sdiff, Finset.mem_inter]
  by_cases old : gid ∈ user.groups
  · have isUser : uid ∈ group.users := users.2 old
    by_cases new : gid ∈ newGroups
    · cases managesAdmins with
      | false => simp [old, new, isUser]
      | true =>
        by_cases wasAdmin : uid ∈ group.admins <;> by_cases isNew : gid ∈ newAdmins <;>
          simp [old, new, isUser, isAdmins, wasAdmin, isNew, Operation.onGroup]
    · have notNew : gid ∉ newAdmins := fun member => new (sub member)
      simp [old, new, notNew, Operation.onGroup]
  · have notUser : uid ∉ group.users := fun member => old (users.1 member)
    have notAdmin : uid ∉ group.admins := fun member => notUser (admins member)
    by_cases new : gid ∈ newGroups
    · by_cases isNew : managesAdmins = true ∧ gid ∈ newAdmins <;>
        simp [old, new, isNew, notUser, notAdmin, Operation.onGroup, Group.addUser]
    · simp [old, new, notUser, notAdmin]

theorem leaves_of_groups {operations : List Operation} {changed : User} {administered : Oid → Prop}
    (settled : directory.Settled uid user) (exist : ∀ row ∈ answer, row.1 ∈ directory.groups)
    (groups : (∀ gid, gid ∈ changed.groups ↔ gid ∈ answer.map Prod.fst) ∧
      (user.gid ∈ answer.map Prod.fst → changed.gid = user.gid) ∧
      (user.gid ∉ answer.map Prod.fst → some changed.gid = (answer.map Prod.fst).head?))
    (ofGroups : ∀ operation ∈ operations, operation.group? ≠ none)
    (inAnswer : ∀ gid, administered gid → gid ∈ answer.map Prod.fst)
    (onGroup : ∀ gid group, directory.groups.lookup gid = some group →
      let final := (operations.filter (·.group? = some gid)).foldl Operation.onGroup group
      (uid ∈ final.users ↔ gid ∈ answer.map Prod.fst) ∧
        (managesAdmins = true → (uid ∈ final.admins ↔ administered gid))) :
    Leaves user uid managesAdmins answer administered
      (operations.foldl apply { directory with users := Map.update uid (fun _ => changed) directory.users }) := by
  have present (gid : Oid) (named : gid ∈ answer.map Prod.fst) : ∃ group, directory.groups.lookup gid = some group := by
    obtain ⟨row, member, rfl⟩ := List.mem_map.1 named
    exact Option.isSome_iff_exists.1 (AList.lookup_isSome.2 (exist row member))
  refine ⟨⟨changed, ?_, groups⟩, fun gid => ?_, fun managed gid => ?_⟩
  · rw [users_operations ofGroups, lookup_updateUsers settled.found, if_pos rfl]
  · rw [Listed, lookup_operations]
    constructor
    · rintro ⟨final, isFinal, isUser⟩
      obtain ⟨group, isGroup, rfl⟩ := Option.map_eq_some_iff.1 isFinal
      exact (onGroup gid group isGroup).1.1 isUser
    · intro named
      obtain ⟨group, isGroup⟩ := present gid named
      exact ⟨_, Option.map_eq_some_iff.2 ⟨group, isGroup, rfl⟩, (onGroup gid group isGroup).1.2 named⟩
  · rw [Administers, lookup_operations]
    constructor
    · rintro ⟨final, isFinal, isAdmin⟩
      obtain ⟨group, isGroup, rfl⟩ := Option.map_eq_some_iff.1 isFinal
      exact ((onGroup gid group isGroup).2 managed).1 isAdmin
    · intro isAdministered
      obtain ⟨group, isGroup⟩ := present gid (inAnswer gid isAdministered)
      exact ⟨_, Option.map_eq_some_iff.2 ⟨group, isGroup, rfl⟩, ((onGroup gid group isGroup).2 managed).2 isAdministered⟩

theorem leaves_login (settled : directory.Settled uid user) (filled : answer ≠ [])
    (exist : ∀ row ∈ answer, row.1 ∈ directory.groups) :
    Leaves user uid managesAdmins answer (fun gid => (gid, true) ∈ answer ∧ gid ∈ user.groups)
      ((directory.login uid ⟨answer, managesAdmins⟩).2.operations.foldl apply
        (directory.login uid ⟨answer, managesAdmins⟩).1) := by
  have all : answer.all (fun row => row.1 ∈ directory.groups) = true :=
    List.all_eq_true.2 fun row member => decide_eq_true (exist row member)
  have isAdmins (gid : Oid) (group : Group) (isGroup : directory.groups.lookup gid = some group) :
      gid ∈ directory.administered uid user ↔ gid ∈ user.groups ∧ uid ∈ group.admins := by
    rw [mem_administered, administers_iff isGroup]
  have inAnswer (gid : Oid) (starred : (gid, true) ∈ answer ∧ gid ∈ user.groups) : gid ∈ answer.map Prod.fst :=
    List.mem_map.2 ⟨_, starred.1, rfl⟩
  rw [login, if_pos all, updateUser, settled.found]
  obtain ⟨⟨newGid, isAdmin⟩, more, rfl⟩ := List.exists_cons_of_ne_nil filled
  simp only [driverGroups]
  split
  · rename_i same
    obtain ⟨sameGroups, sameAdmins⟩ := same
    have isSame (gid : Oid) : gid ∈ user.groups ↔ gid ∈ ((newGid, isAdmin) :: more).map Prod.fst := by
      rw [← sameGroups, List.mem_toFinset]
    refine leaves_of_groups settled exist ⟨isSame, fun _ => rfl, fun gone => absurd ((isSame _).1 settled.primary) gone⟩
      (by simp) inAnswer fun gid group isGroup => ⟨(settled.users gid group isGroup).trans (isSame gid), fun _ => ?_⟩
    rw [← mem_starred, ← sameAdmins, isAdmins gid group isGroup]
    exact ⟨fun isAdmin =>
      have member := (settled.users gid group isGroup).1 (settled.admins gid group isGroup isAdmin)
      ⟨⟨member, isAdmin⟩, member⟩, fun both => both.1.2⟩
  · refine leaves_of_groups settled exist ?_ ?_ inAnswer fun gid group isGroup => ?_
    · generalize isNew : (List.map Prod.fst ((newGid, isAdmin) :: more)).toFinset = newGroups
      have mem_new (gid : Oid) : gid ∈ ((newGid, isAdmin) :: more).map Prod.fst ↔ gid ∈ newGroups := by
        rw [← isNew, List.mem_toFinset]
      have first : newGid ∈ newGroups := (mem_new newGid).1 List.mem_cons_self
      have kept (gid : Oid) (inside : gid ∈ newGroups) : gid ∉ ascending (user.groups \ newGroups) := by
        rw [mem_ascending, Finset.mem_sdiff]
        exact fun gone => gone.2 inside
      simp only [mem_new]
      rw [foldl_addGroup]
      by_cases inside : user.gid ∈ newGroups
      · rw [if_pos inside, foldl_delGroup (kept user.gid inside)]
        refine ⟨fun gid => ?_, fun _ => rfl, fun outside => absurd inside outside⟩
        simp only [Finset.mem_sdiff, Finset.mem_union, List.mem_toFinset, mem_ascending]
        tauto
      · rw [if_neg inside, User.setGroup, foldl_delGroup (kept newGid first)]
        refine ⟨fun gid => ?_, fun isInside => absurd isInside inside, fun _ => rfl⟩
        simp only [Finset.mem_sdiff, Finset.mem_union, List.mem_toFinset, mem_ascending]
        tauto
    · intro operation member
      cases operation with
      | addUser | delUser | addAdmin | delAdmin => exact Option.some_ne_none _
      | leaveGroup | delUidRules => simp at member
    · rw [← List.mem_toFinset, ← mem_starred]
      refine onGroup_login settled isGroup _ _ _ (isAdmins gid group isGroup) fun gid starred => ?_
      exact List.mem_toFinset.2 (List.mem_map.2 ⟨_, mem_starred.1 starred, rfl⟩)

/-- The driver's answer is accepted and followed exactly when nothing comes after its last group, and
no administrator is set in a group that is new to the user. -/
theorem authenticate_follows_iff (directory : Directory) (uid : Oid) (user : User)
    (found : directory.users.lookup uid = some user) (symmetric : directory.Symmetric)
    (members : ∀ gid group, directory.groups.lookup gid = some group → group.admins ⊆ group.users)
    (managesAdmins : Bool) (message : DriverMessage) (exist : ∀ field ∈ message.groups, field.gid ∈ directory.groups) :
    (∃ after, directory.authenticate uid managesAdmins message.text = .ok after ∧
      Leaves user uid managesAdmins message.answer (fun gid => (gid, true) ∈ message.answer) after) ↔
      message.trailing = [] ∧ (managesAdmins = true → ∀ gid, (gid, true) ∈ message.answer → gid ∈ user.groups) := by
  have settled := settled_of_symmetric found symmetric members
  rw [authenticate, parseAuthMsg_text message exist]
  by_cases last : message.trailing = []
  · rw [if_pos last]
    have filled : message.answer ≠ [] := by simpa [DriverMessage.answer] using message.grouped
    have leaves := @leaves_login directory uid user message.answer managesAdmins settled filled fun row member => by
      obtain ⟨field, isField, rfl⟩ := List.mem_map.mp member
      exact exist field isField
    constructor
    · rintro ⟨after, isAfter, follows⟩
      obtain rfl := Except.ok.inj isAfter
      exact ⟨last, fun managed gid starred =>
        ((leaves.admins managed gid).mp ((follows.admins managed gid).mpr starred)).2⟩
    · rintro ⟨-, known⟩
      exact ⟨_, rfl, leaves.groups, leaves.listed, fun managed gid =>
        (leaves.admins managed gid).trans (and_iff_left_of_imp (known managed gid))⟩
  · rw [if_neg last]
    constructor
    · rintro ⟨after, isAfter, -⟩
      cases isAfter
    · exact fun both => absurd both.1 last

/-- `d n s 1<tab>2` and what follows, with the groups that are starred -/
def twoGroupsMessage (first second : Bool) (trailing : List Char) (blanks : AreBlanks trailing) : DriverMessage where
  driver := ['d']
  beforeName := [' ']
  name := ['n']
  beforeSecret := [' ']
  secret := ['s']
  groups := [⟨[' '], first, Oid.ofNat 1, by simp [isBlank]⟩, ⟨['\t'], second, Oid.ofNat 2, by simp [isBlank]⟩]
  trailing
  words := by simp [IsWord, isBlank]
  separated := by simp [AreBlanks, isBlank]
  grouped := by simp
  blanks

theorem authenticate_follows_kept : ∃ after,
    Server.oneMember.directory.authenticate (Oid.ofNat 7) true
      (twoGroupsMessage true false [] (by simp [AreBlanks])).text = .ok after ∧
      Leaves ⟨Oid.ofNat 1, {Oid.ofNat 1}⟩ (Oid.ofNat 7) true [(Oid.ofNat 1, true), (Oid.ofNat 2, false)]
        (fun gid => (gid, true) ∈ [(Oid.ofNat 1, true), (Oid.ofNat 2, false)]) after := by
  refine (authenticate_follows_iff Server.oneMember.directory (Oid.ofNat 7) ⟨Oid.ofNat 1, {Oid.ofNat 1}⟩ (by decide +kernel)
    Server.oneMember_initial.2 (fun gid group isGroup => ?_) true (twoGroupsMessage true false [] (by simp [AreBlanks])) ?_).mpr
    ⟨rfl, fun _ gid starred => ?_⟩
  · have none : group.admins = ∅ := by
      simp only [Server.oneMember, Map.lookup_insert_eq] at isGroup
      split at isGroup
      · exact Option.some.inj isGroup ▸ rfl
      · split at isGroup
        · exact Option.some.inj isGroup ▸ rfl
        · simp at isGroup
    exact none ▸ Finset.empty_subset _
  · intro field member
    have gids : field.gid = Oid.ofNat 1 ∨ field.gid = Oid.ofNat 2 := by
      simp only [twoGroupsMessage, List.mem_cons, List.not_mem_nil, or_false] at member
      rcases member with rfl | rfl
      · exact Or.inl rfl
      · exact Or.inr rfl
    rcases gids with same | same <;> exact same ▸ by decide +kernel
  · have same : gid = Oid.ofNat 1 := by simpa [DriverMessage.answer, twoGroupsMessage] using starred
    exact Finset.mem_singleton.mpr same

/-- White space after the last group, and a star at a group that is new -/
theorem authenticate_diverges :
    (Server.oneMember.directory.authenticate (Oid.ofNat 7) true
      (twoGroupsMessage false false ['\n'] (by simp [AreBlanks, isBlank])).text).toOption.isNone ∧
      ((Server.oneMember.directory.authenticate (Oid.ofNat 7) true
        (twoGroupsMessage false true [] (by simp [AreBlanks])).text).toOption.bind
        fun after => (after.groups.lookup (Oid.ofNat 2)).map fun group =>
          (decide (Oid.ofNat 7 ∈ group.users), decide (Oid.ofNat 7 ∈ group.admins))) = some (true, false) := by
  decide +kernel

end Directory

end OpenNebula.Users
