import OpenNebula.Users.LoginToken
import OpenNebula.Users.UserRecordXml

namespace OpenNebula.Users

open Common Library

/-! # Tokens confine the client

A token does what was reported of it when its text can be stored and nothing else has that text,
and a client stays in its group as long as it is not given a token for all groups.
-/

instance (text : String) : Decidable (PlainText text) :=
  decidable_of_iff
    (text.toList.all Xml.isChar = true ∧ ('<' ∉ text.toList ∧ '&' ∉ text.toList ∧ '\r' ∉ text.toList) ∧
      ¬Xml.cdataEnd <:+: text.toList)
    ⟨fun ⟨legal, unmarked, closed⟩ => ⟨legal, unmarked, closed⟩, fun plain => ⟨plain.legal, plain.unmarked, plain.closed⟩⟩

instance (text : String) : Decidable (PlainSection text) :=
  decidable_of_iff
    (text.toList.all Xml.isChar = true ∧ '\r' ∉ text.toList ∧ ¬Xml.cdataEnd <:+: text.toList)
    ⟨fun ⟨legal, lines, closed⟩ => ⟨legal, lines, closed⟩, fun plain => ⟨plain.legal, plain.lines, plain.closed⟩⟩

namespace LoginServer

variable {parse : String → Option Xml.Node} {server : LoginServer}

def answer (groups : Finset Int) (egid : Int) : Authentication :=
  if egid = -1 then .asToken groups
  else if egid ∈ groups then .asToken {egid}
  else .refused

/-- The client is confined, tokens have the scope that was reported, and the user is read as he
was stored. -/
structure Confines (parse : String → Option Xml.Node) (server : LoginServer) : Prop where
  client : server.user.oid ≠ 0 → server.egid ≠ 0 → ∀ token ∈ server.client, ∀ user,
    server.load parse = some user → ∀ secrets : Secrets, secrets.session = false → secrets.driver = false →
      (authenticateInternal user server.now token secrets).1 = .refused ∨
        (authenticateInternal user server.now token secrets).1 = .asToken {server.egid}
  scope : ∀ token login, server.issued.lookup token = some login → login.isValid server.now = true → ∀ user,
    server.load parse = some user → ∀ secrets : Secrets, secrets.legacy = none →
      (authenticateInternal user server.now token secrets).1 = answer server.user.groups login.egid
  reload : ∃ user, server.load parse = some user ∧ server.user.Same user

/-- A token that is asked for can be stored, its text is that of no token that the user has, and
of no token of the client for another group; a client does not ask for all groups while the user
has no other. -/
def SparesLogin (server : LoginServer) (client : Bool) (request : LoginRequest) : Prop :=
  request.authorized = true → request.valid ≠ 0 →
    PlainText request.text ∧
      request.text ∉ LoginTokenPool.resetExpired server.user.loginTokens server.now ∧
      (server.user.oid ≠ 0 → server.egid ≠ 0 → request.text ∈ server.client → request.egid = server.egid) ∧
      (client = true → request.egid = -1 → server.user.groups ≠ {server.egid})

instance (client : Bool) (request : LoginRequest) : Decidable (server.SparesLogin client request) :=
  inferInstanceAs (Decidable (_ → _ → _ ∧ _ ∧ (_ → _ → _ → _) ∧ (_ → _ → _)))

def Event.Spares (server : LoginServer) : Event → Prop
  | .login _ request => server.SparesLogin false request
  | .clientLogin _ secrets request =>
    server.SparesLogin true request ∧ ∀ password ∈ secrets.legacy, PlainSection password
  | .authenticate _ secrets => ∀ password ∈ secrets.legacy, PlainSection password
  | _ => True

instance (server : LoginServer) : (event : Event) → Decidable (event.Spares server)
  | .login _ request => inferInstanceAs (Decidable (server.SparesLogin false request))
  | .clientLogin .. => inferInstanceAs (Decidable (_ ∧ _))
  | .authenticate _ secrets => inferInstanceAs (Decidable (∀ password ∈ secrets.legacy, PlainSection password))
  | .wait _ | .setGroups _ | .give _ => isTrue trivial

structure Guarded (server : LoginServer) : Prop where
  stored : server.user.Stored
  plain : server.user.Plain
  single : server.egid ≠ -1
  kept : ∀ token login, server.issued.lookup token = some login → login.isExpired server.now = false →
    server.user.loginTokens.lookup token = some login
  reported : ∀ token login, server.user.loginTokens.lookup token = some login →
    server.issued.lookup token = some login
  confined : server.user.oid ≠ 0 → server.egid ≠ 0 → ∀ token ∈ server.client, ∀ login,
    server.user.loginTokens.lookup token = some login → login.egid = server.egid

theorem LoginToken.not_expired {login : LoginToken} {now : Int} (valid : login.isValid now = true) :
    login.isExpired now = false := by
  unfold LoginToken.isValid at valid
  unfold LoginToken.isExpired
  simp only [Bool.or_eq_true, decide_eq_true_eq] at valid
  simp only [Bool.and_eq_false_imp, decide_eq_true_eq, decide_eq_false_iff_not, not_not]
  omega

theorem authenticate_token {user : UserRecord} {now : Int} {token : String} {login : LoginToken}
    {secrets : Secrets} (found : user.loginTokens.lookup token = some login) (valid : login.isValid now = true)
    (current : secrets.legacy = none) :
    (authenticateInternal user now token secrets).1 = answer user.groups login.egid := by
  simp only [authenticateInternal, current, Option.map_none, Option.getD_none, found, valid, if_true, answer]
  split
  · rfl
  · split
    · rfl
    · rfl

theorem authenticate_cases (user : UserRecord) (now : Int) (token : String) {secrets : Secrets}
    (noSession : secrets.session = false) (noDriver : secrets.driver = false) :
    (authenticateInternal user now token secrets).1 = .refused ∨ ∃ login, user.loginTokens.lookup token = some login ∧
        (authenticateInternal user now token secrets).1 = answer user.groups login.egid := by
  cases isLegacy : secrets.legacy with
  | some password =>
    left
    simp [authenticateInternal, isLegacy, noSession, noDriver]
  | none =>
    cases found : user.loginTokens.lookup token with
    | none =>
      left
      simp [authenticateInternal, isLegacy, noSession, noDriver, found]
    | some login =>
      cases valid : login.isValid now with
      | true => exact .inr ⟨login, rfl, authenticate_token found valid isLegacy⟩
      | false =>
        left
        simp [authenticateInternal, isLegacy, noSession, found, valid]

theorem Guarded.confines (guarded : server.Guarded) (conforming : Xml.Conforming parse) : server.Confines parse := by
  obtain ⟨loaded, isLoaded, same⟩ := UserRecord.reload conforming guarded.stored guarded.plain
  refine ⟨?_, ?_, ⟨loaded, isLoaded, same⟩⟩
  · intro notAdmin notAdminGroup token isClient user isUser secrets noSession noDriver
    obtain rfl : loaded = user := Option.some.inj (isLoaded.symm.trans isUser)
    obtain refused | ⟨login, found, isAnswer⟩ := authenticate_cases loaded server.now token noSession noDriver
    · exact .inl refused
    · rw [← same.loginTokens] at found
      have egid := guarded.confined notAdmin notAdminGroup token isClient login found
      rw [isAnswer, egid, answer, if_neg guarded.single]
      split
      · exact .inr rfl
      · exact .inl rfl
  · intro token login isIssued valid user isUser secrets noLegacy
    obtain rfl : loaded = user := Option.some.inj (isLoaded.symm.trans isUser)
    have found := guarded.kept token login isIssued (LoginToken.not_expired valid)
    rw [same.loginTokens] at found
    rw [authenticate_token found valid noLegacy, same.groups]

theorem storeTime_fits (value : Int) : -2 ^ 63 ≤ storeTime value ∧ storeTime value < 2 ^ 63 :=
  ⟨BitVec.le_toInt _, BitVec.toInt_lt⟩

theorem set_eq {tokens added : LoginTokenPool} {now valid egid : Int} {token generated : String}
    {login : LoginToken} (isSet : LoginTokenPool.set tokens now token generated valid egid = some (added, login)) :
    login.token = (if token.isEmpty then generated else token) ∧ login.egid = egid ∧
      (-2 ^ 63 ≤ login.expirationTime ∧ login.expirationTime < 2 ^ 63) ∧
      added = Map.insertNew login.token login (LoginTokenPool.resetExpired tokens now) := by
  unfold LoginTokenPool.set at isSet
  dsimp only at isSet
  split at isSet
  · cases isSet
  · obtain ⟨rfl, rfl⟩ := Prod.mk.inj (Option.some.inj isSet)
    refine ⟨rfl, rfl, ?_, rfl⟩
    dsimp only
    split
    · decide
    · exact storeTime_fits _

theorem login_cases (user : UserRecord) (now : Int) (requester : Requester) (request : LoginRequest) :
    login user now requester request = .refused ∨
      login user now requester request = .disabled { user with loginTokens := ∅ } ∨
      login user now requester request = .resetAll { user with loginTokens := ∅ } ∨
      login user now requester request =
        .reset { user with loginTokens := user.loginTokens.erase request.token } ∨
      ∃ held, login user now requester request =
          .issued { user with
            loginTokens := Map.insertNew held.token held (LoginTokenPool.resetExpired user.loginTokens now) } held ∧
        (request.authorized = true ∧ request.valid ≠ 0) ∧ held.token = request.text ∧
        held.egid = request.egid ∧ (-2 ^ 63 ≤ held.expirationTime ∧ held.expirationTime < 2 ^ 63) ∧
        (request.egid ≠ -1 → requester.isAdmin = true ∨ request.egid ∈ requester.groupIds) ∧
        (request.egid = -1 → user.groups = requester.groupIds) := by
  unfold login
  split
  · exact .inl rfl
  · rename_i isAuthorized
    split
    · exact .inr (.inl rfl)
    · generalize isValid : (if 0 < request.maxTokenTime ∧
        (request.maxTokenTime < request.valid ∨ request.valid = -1) then request.maxTokenTime
        else request.valid) = valid
      dsimp only
      split
      · split
        · exact .inr (.inr (.inl rfl))
        · split
          · exact .inr (.inr (.inr (.inl rfl)))
          · exact .inl rfl
      · rename_i notReset
        split
        · split
          · exact .inl rfl
          · rename_i inGroups
            split
            · exact .inl rfl
            · rename_i allGroups
              split
              · exact .inl rfl
              · rename_i added held isSet
                obtain ⟨text, egid, expiration, isAdded⟩ := set_eq isSet
                subst isAdded
                refine .inr (.inr (.inr (.inr
                  ⟨held, rfl, ⟨by simpa using isAuthorized, ?_⟩, text, egid, expiration, ?_, ?_⟩)))
                · intro isZero
                  apply notReset
                  rw [← isValid, isZero]
                  split
                  · omega
                  · rfl
                · intro isScoped
                  simp only [not_and, not_or, not_not] at inGroups
                  cases isAdmin : requester.isAdmin with
                  | true => exact .inl rfl
                  | false => exact .inr (inGroups isScoped (by rw [isAdmin]; rfl)).2
                · intro isFull
                  by_contra apart
                  exact allGroups ⟨isFull, apart⟩
        · exact .inl rfl

theorem stored_fewer {user : UserRecord} (stored : user.Stored) {tokens : LoginTokenPool}
    (fewer : ∀ token login, tokens.lookup token = some login → user.loginTokens.lookup token = some login) :
    UserRecord.Stored { user with loginTokens := tokens } :=
  { stored with tokens := fun token login found => stored.tokens token login (fewer token login found) }

theorem plain_fewer {user : UserRecord} (plain : user.Plain) {tokens : LoginTokenPool}
    (fewer : ∀ token login, tokens.lookup token = some login → user.loginTokens.lookup token = some login) :
    UserRecord.Plain { user with loginTokens := tokens } :=
  { plain with
    tokens := fun token member => by
      obtain ⟨login, found⟩ := Option.isSome_iff_exists.1 (AList.lookup_isSome.2 member)
      exact plain.tokens token (AList.lookup_isSome.1 (Option.isSome_of_mem (fewer token login found))) }

theorem store_eq (conforming : Xml.Conforming parse) {user : UserRecord} (stored : user.Stored)
    (plain : user.Plain) : server.store parse user = { server with user } := by
  rw [store, UserRecord.parse_toXml conforming stored plain]
  rfl

theorem lookup_erase_some {tokens : LoginTokenPool} {erased token : String} {login : LoginToken}
    (found : (tokens.erase erased).lookup token = some login) :
    token ≠ erased ∧ tokens.lookup token = some login := by
  rw [Map.lookup_erase_eq] at found
  split at found
  · cases found
  · rename_i apart
    exact ⟨apart, found⟩

theorem lookup_resetExpired {tokens : LoginTokenPool} {now : Int} {token : String} {login : LoginToken} :
    (LoginTokenPool.resetExpired tokens now).lookup token = some login ↔
      tokens.lookup token = some login ∧ login.isExpired now = false := by
  rw [LoginTokenPool.resetExpired, Map.lookup_filter, Option.filter_eq_some_iff]
  simp

theorem Guarded.fewer (guarded : server.Guarded) {loaded : UserRecord} (same : server.user.Same loaded)
    {tokens : LoginTokenPool}
    (fewer : ∀ token login, tokens.lookup token = some login → loaded.loginTokens.lookup token = some login)
    {issued : Map String LoginToken}
    (kept : ∀ token login, issued.lookup token = some login → login.isExpired server.now = false →
      tokens.lookup token = some login)
    (reported : ∀ token login, tokens.lookup token = some login → issued.lookup token = some login) :
    Guarded { server with user := { loaded with loginTokens := tokens }, issued } where
  stored := stored_fewer (same.stored guarded.stored) fewer
  plain := plain_fewer (same.plain guarded.plain) fewer
  single := guarded.single
  kept := kept
  reported := reported
  confined notAdmin notAdminGroup token isClient login found := by
    have before := fewer token login found
    rw [← same.loginTokens] at before
    exact guarded.confined (by rwa [same.oid]) notAdminGroup token isClient login before

theorem Guarded.cleared (guarded : server.Guarded) {loaded : UserRecord} (same : server.user.Same loaded) :
    Guarded { server with user := { loaded with loginTokens := ∅ }, issued := ∅ } := by
  apply guarded.fewer same
  · intro token login found
    simp at found
  · intro token login found
    simp at found
  · intro token login found
    simp at found

theorem Guarded.erased (guarded : server.Guarded) {loaded : UserRecord} (same : server.user.Same loaded)
    (text : String) : Guarded { server with
      user := { loaded with loginTokens := loaded.loginTokens.erase text }
      issued := server.issued.erase text } := by
  apply guarded.fewer same
  · intro token login found
    exact (lookup_erase_some found).2
  · intro token login isIssued alive
    obtain ⟨apart, before⟩ := lookup_erase_some isIssued
    rw [Map.lookup_erase_eq, if_neg apart, ← same.loginTokens]
    exact guarded.kept token login before alive
  · intro token login found
    obtain ⟨apart, before⟩ := lookup_erase_some found
    rw [← same.loginTokens] at before
    rw [Map.lookup_erase_eq, if_neg apart]
    exact guarded.reported token login before

theorem authenticate_update (user : UserRecord) (now : Int) (token : String) (secrets : Secrets) :
    (authenticateInternal user now token secrets).2 = none ∨ (∃ password, secrets.legacy = some password ∧
        (authenticateInternal user now token secrets).2 = some { user with password, loginTokens := ∅ }) ∨
      secrets.legacy = none ∧ (authenticateInternal user now token secrets).2 =
        some { user with loginTokens := user.loginTokens.erase token } := by
  cases isLegacy : secrets.legacy with
  | some password =>
    right; left
    refine ⟨password, rfl, ?_⟩
    simp only [authenticateInternal, isLegacy, Option.map_some, Option.getD_some, AList.lookup_empty]
    split
    · rfl
    · rfl
  | none =>
    simp only [authenticateInternal, isLegacy, Option.map_none, Option.getD_none]
    cases user.loginTokens.lookup token with
    | none =>
      left
      dsimp only
      split
      · rfl
      · rfl
    | some login =>
      dsimp only
      split
      · split
        · exact .inl rfl
        · split
          · exact .inl rfl
          · exact .inr (.inr ⟨trivial, rfl⟩)
      · left
        split
        · rfl
        · rfl

theorem Guarded.authenticated (guarded : server.Guarded) (conforming : Xml.Conforming parse)
    {loaded : UserRecord} (same : server.user.Same loaded) (token : String) {secrets : Secrets}
    (plain : ∀ password ∈ secrets.legacy, PlainSection password) :
    Guarded (server.authenticated parse loaded token secrets) := by
  obtain unchanged | ⟨password, isLegacy, updated⟩ | ⟨noLegacy, updated⟩ :=
    authenticate_update loaded server.now token secrets
  · rw [LoginServer.authenticated, unchanged]
    exact guarded
  · have cleared := guarded.cleared same
    have stored : UserRecord.Stored { loaded with password, loginTokens := ∅ } := { cleared.stored with }
    have plainUser : UserRecord.Plain { loaded with password, loginTokens := ∅ } :=
      { cleared.plain with password := plain password isLegacy }
    rw [LoginServer.authenticated, updated, isLegacy]
    dsimp only [Option.isSome_some, if_true]
    rw [store_eq conforming stored plainUser]
    exact { cleared with stored, plain := plainUser }
  · have erased := guarded.erased same token
    rw [LoginServer.authenticated, updated, noLegacy]
    dsimp only [Option.isSome_none, Bool.false_eq_true, if_false]
    rw [store_eq conforming erased.stored erased.plain]
    exact erased

theorem Guarded.issued (guarded : server.Guarded) {loaded : UserRecord} (same : server.user.Same loaded)
    {held : LoginToken} (plain : PlainText held.token)
    (fits : (-2 ^ 63 ≤ held.expirationTime ∧ held.expirationTime < 2 ^ 63) ∧ -2 ^ 31 ≤ held.egid ∧ held.egid < 2 ^ 31)
    (fresh : held.token ∉ LoginTokenPool.resetExpired server.user.loginTokens server.now)
    (client : Finset String) (others : ∀ token ∈ client, token ≠ held.token → token ∈ server.client)
    (confined : server.user.oid ≠ 0 → server.egid ≠ 0 → held.token ∈ client → held.egid = server.egid) :
    Guarded { server with
      user := { loaded with
        loginTokens := Map.insertNew held.token held (LoginTokenPool.resetExpired loaded.loginTokens server.now) }
      issued := server.issued.insert held.token held
      client } := by
  have storedBefore := same.stored guarded.stored
  have plainBefore := same.plain guarded.plain
  have absent : held.token ∉ LoginTokenPool.resetExpired loaded.loginTokens server.now := by
    rw [← AList.lookup_eq_none] at fresh ⊢
    rw [LoginTokenPool.resetExpired, Map.lookup_filter] at fresh ⊢
    rwa [← same.loginTokens]
  have added : (Map.insertNew held.token held
      (LoginTokenPool.resetExpired loaded.loginTokens server.now)).lookup held.token = some held := by
    rw [Map.lookup_insertNew_self, AList.lookup_eq_none.2 absent]
    rfl
  have earlier : ∀ token login, token ≠ held.token →
      ((Map.insertNew held.token held
        (LoginTokenPool.resetExpired loaded.loginTokens server.now)).lookup token = some login ↔
        loaded.loginTokens.lookup token = some login ∧ login.isExpired server.now = false) := by
    intro token login apart
    rw [Map.lookup_insertNew_ne apart, lookup_resetExpired]
  refine ⟨?_, ?_, guarded.single, ?_, ?_, ?_⟩
  · refine { storedBefore with tokens := fun token login found => ?_ }
    by_cases isNew : token = held.token
    · subst isNew
      cases Option.some.inj (added.symm.trans found)
      exact ⟨rfl, fits⟩
    · exact storedBefore.tokens token login ((earlier token login isNew).1 found).1
  · refine { plainBefore with tokens := fun token member => ?_ }
    by_cases isNew : token = held.token
    · rw [isNew]
      exact plain
    · obtain ⟨login, found⟩ := Option.isSome_iff_exists.1 (AList.lookup_isSome.2 member)
      have before := ((earlier token login isNew).1 found).1
      exact plainBefore.tokens token (AList.lookup_isSome.1 (Option.isSome_of_mem before))
  · intro token login isIssued alive
    by_cases isNew : token = held.token
    · subst isNew
      rw [AList.lookup_insert] at isIssued
      cases Option.some.inj isIssued
      exact added
    · rw [AList.lookup_insert_ne isNew] at isIssued
      have before := guarded.kept token login isIssued alive
      rw [same.loginTokens] at before
      exact (earlier token login isNew).2 ⟨before, alive⟩
  · intro token login found
    by_cases isNew : token = held.token
    · subst isNew
      cases Option.some.inj (added.symm.trans found)
      exact AList.lookup_insert _
    · have before := ((earlier token login isNew).1 found).1
      rw [← same.loginTokens] at before
      rw [AList.lookup_insert_ne isNew]
      exact guarded.reported token login before
  · intro notAdmin notAdminGroup token isClient login found
    have notAdminBefore : server.user.oid ≠ 0 := by rwa [same.oid]
    by_cases isNew : token = held.token
    · subst isNew
      cases Option.some.inj (added.symm.trans found)
      exact confined notAdminBefore notAdminGroup isClient
    · have before := ((earlier token login isNew).1 found).1
      rw [← same.loginTokens] at before
      exact guarded.confined notAdminBefore notAdminGroup token (others token isClient isNew) login before

theorem Guarded.afterLogin (guarded : server.Guarded) (conforming : Xml.Conforming parse)
    {loaded : UserRecord} (same : server.user.Same loaded) {client : Bool} {requester : Requester}
    {request : LoginRequest} (fits : -2 ^ 31 ≤ request.egid ∧ request.egid < 2 ^ 31)
    (spares : server.SparesLogin client request) (own : client = true → server.user.oid ≠ 0 → server.egid ≠ 0 →
      requester.isAdmin = false ∧ requester.groupIds = {server.egid}) :
    Guarded (server.afterLogin parse client request.token (login loaded server.now requester request)) := by
  have cleared := guarded.cleared same
  have erased := guarded.erased same request.token
  obtain outcome | outcome | outcome | outcome |
    ⟨held, outcome, ⟨isAuthorized, isIssue⟩, text, egid, expiration, inGroups, allGroups⟩ :=
    login_cases loaded server.now requester request
  · rw [outcome]
    exact guarded
  · rw [outcome, LoginServer.afterLogin, store_eq conforming cleared.stored cleared.plain]
    exact cleared
  · rw [outcome, LoginServer.afterLogin, store_eq conforming cleared.stored cleared.plain]
    exact cleared
  · rw [outcome, LoginServer.afterLogin, store_eq conforming erased.stored erased.plain]
    exact erased
  · obtain ⟨plain, fresh, others, notAll⟩ := spares isAuthorized isIssue
    rw [← text] at plain fresh others
    have next := guarded.issued same plain ⟨expiration, by rw [egid]; exact fits⟩ fresh
      (if client then insert held.token server.client else server.client)
      (fun token isClient apart => by
        split at isClient
        · exact (Finset.mem_insert.1 isClient).resolve_left apart
        · exact isClient)
      (fun notAdmin notAdminGroup isClient => by
        rw [egid]
        cases client with
        | false => exact others notAdmin notAdminGroup isClient
        | true =>
          -- The client has authenticated for its group, so that it can ask for that one only.
          obtain ⟨noAdmin, isGroup⟩ := own rfl notAdmin notAdminGroup
          by_cases isAll : request.egid = -1
          · have allOwn := allGroups isAll
            rw [← same.groups, isGroup] at allOwn
            exact absurd allOwn (notAll rfl isAll)
          · obtain isAdmin | inGroup := inGroups isAll
            · rw [noAdmin] at isAdmin
              cases isAdmin
            · rw [isGroup] at inGroup
              exact Finset.mem_singleton.1 inGroup)
    rw [outcome, LoginServer.afterLogin, store_eq conforming next.stored next.plain]
    exact next

theorem authenticate_asToken {user : UserRecord} {now : Int} {token : String} {secrets : Secrets}
    {groupIds : Finset Int} (accepted : (authenticateInternal user now token secrets).1 = .asToken groupIds) :
    ∃ login, user.loginTokens.lookup token = some login ∧ answer user.groups login.egid = .asToken groupIds := by
  cases isLegacy : secrets.legacy with
  | some password =>
    simp only [authenticateInternal, isLegacy, Option.map_some, Option.getD_some, AList.lookup_empty] at accepted
    split at accepted
    · cases accepted
    · cases accepted
  | none =>
    cases found : user.loginTokens.lookup token with
    | none =>
      simp only [authenticateInternal, isLegacy, Option.map_none, Option.getD_none, found] at accepted
      split at accepted
      · cases accepted
      · cases accepted
    | some login =>
      cases valid : login.isValid now with
      | true => exact ⟨login, rfl, by rw [← authenticate_token found valid isLegacy, accepted]⟩
      | false =>
        simp only [authenticateInternal, isLegacy, Option.map_none, Option.getD_none, found, valid,
          Bool.false_eq_true, if_false] at accepted
        split at accepted
        · cases accepted
        · cases accepted

section

variable (guarded : server.Guarded)
include guarded

theorem Guarded.wait (seconds : Nat) :
    Guarded { server with now := server.now + seconds } where
  stored := guarded.stored
  plain := guarded.plain
  single := guarded.single
  kept token login isIssued alive := by
    refine guarded.kept token login isIssued ?_
    unfold LoginToken.isExpired at alive ⊢
    simp only [Bool.and_eq_false_imp, decide_eq_true_eq, decide_eq_false_iff_not, not_not] at alive ⊢
    intro past
    exact alive (by omega)
  reported := guarded.reported
  confined := guarded.confined

theorem Guarded.setGroups {loaded : UserRecord} (same : server.user.Same loaded)
    {groups : Finset Int} (fits : ∀ id ∈ groups, -2 ^ 31 ≤ id ∧ id < 2 ^ 31) :
    Guarded { server with user := { loaded with groups } } where
  stored := { same.stored guarded.stored with groups := fits }
  plain := { same.plain guarded.plain with }
  single := guarded.single
  kept token login isIssued alive := by
    have found := guarded.kept token login isIssued alive
    rwa [same.loginTokens] at found
  reported token login found := by
    refine guarded.reported token login ?_
    rwa [same.loginTokens]
  confined notAdmin notAdminGroup token isClient login found := by
    refine guarded.confined (by rwa [same.oid]) notAdminGroup token isClient login ?_
    rwa [same.loginTokens]

theorem Guarded.give {token : String}
    (isScoped : (server.issued.lookup token).any (fun login => login.egid = server.egid) = true) :
    Guarded { server with client := insert token server.client } := by
  refine { guarded with confined := ?_ }
  intro notAdmin notAdminGroup other isClient login found
  obtain isGiven | isOld := Finset.mem_insert.1 isClient
  · subst isGiven
    rw [guarded.reported other login found] at isScoped
    exact of_decide_eq_true isScoped
  · exact guarded.confined notAdmin notAdminGroup other isOld login found

theorem Guarded.step (conforming : Xml.Conforming parse) {event : Event}
    (spares : event.Spares server) {after : LoginServer} (stepped : server.step parse event = some after) :
    after.Guarded := by
  obtain ⟨loaded, isLoaded, same⟩ := UserRecord.reload conforming guarded.stored guarded.plain
  have isRead : server.load parse = some loaded := isLoaded
  cases event with
  | wait seconds =>
    cases stepped
    exact guarded.wait seconds
  | setGroups groups =>
    simp only [LoginServer.step, isRead] at stepped
    split at stepped
    · rename_i fits
      have next := guarded.setGroups same fits
      rw [store_eq conforming next.stored next.plain] at stepped
      cases stepped
      exact next
    · cases stepped
  | authenticate token secrets =>
    simp only [LoginServer.step, isRead] at stepped
    cases stepped
    exact guarded.authenticated conforming same token spares
  | give token =>
    simp only [LoginServer.step] at stepped
    split at stepped
    · rename_i isScoped
      cases stepped
      exact guarded.give isScoped
    · cases stepped
  | login requester request =>
    simp only [LoginServer.step, isRead] at stepped
    split at stepped
    · rename_i fits
      cases stepped
      exact guarded.afterLogin conforming same fits spares (fun isClient => absurd isClient (by decide))
    · cases stepped
  | clientLogin token secrets request =>
    obtain ⟨sparesLogin, plain⟩ := spares
    simp only [LoginServer.step, isRead] at stepped
    split at stepped
    · rename_i holds
      obtain ⟨fits, isHeld⟩ := holds
      rw [clientHolds, Bool.and_eq_true, decide_eq_true_eq] at isHeld
      split at stepped
      · rename_i groupIds accepted
        cases stepped
        apply guarded.afterLogin conforming same fits sparesLogin
        intro _ notAdmin notAdminGroup
        obtain ⟨held, found, isAnswer⟩ := authenticate_asToken accepted
        rw [← same.loginTokens] at found
        rw [guarded.confined notAdmin notAdminGroup token isHeld.1 held found, answer,
          if_neg guarded.single] at isAnswer
        split at isAnswer
        · cases isAnswer
          refine ⟨?_, rfl⟩
          rw [Requester.isAdmin, ← same.oid, decide_eq_false notAdmin, Bool.false_or, decide_eq_false_iff_not]
          exact fun isAdmin => notAdminGroup (Finset.mem_singleton.1 isAdmin).symm
        · cases isAnswer
      · cases stepped
        exact guarded.authenticated conforming same token plain
      · cases stepped
        exact guarded.authenticated conforming same token plain
    · cases stepped

end

theorem guarded_initial {start : LoginServer} (isInitial : (system parse).initial start)
    (plain : start.user.Plain) : start.Guarded := by
  obtain ⟨stored, isIssued, noClient, single⟩ := isInitial
  refine ⟨stored, plain, single, ?_, ?_, ?_⟩
  · intro token login found _
    rwa [isIssued] at found
  · intro token login found
    rwa [isIssued]
  · intro _ _ token isClient
    rw [noClient] at isClient
    exact absurd isClient (Finset.notMem_empty token)

/-- Tokens confine the client of a user whose texts can be stored, in every run that spares the
texts of tokens and the token for all groups. -/
theorem login_scope (conforming : Xml.Conforming parse) {start : LoginServer}
    (isInitial : (system parse).initial start) (plain : start.user.Plain)
    (path : (system parse).Path (fun server event => event.Spares server) start server) : server.Confines parse := by
  have guarded : server.Guarded := path.invariant (guarded_initial isInitial plain)
    (fun _ _ _ guarded spares stepped => guarded.step conforming spares stepped)
  exact guarded.confines conforming

def oneGroup : UserRecord where
  oid := 5
  gid := 1
  name := "user"
  password := "digest"
  groups := {1}
  loginTokens := Map.insertNew "first" ⟨"first", -1, 1⟩ ∅

def oneClient : LoginServer := { user := oneGroup, now := 0, issued := oneGroup.loginTokens, egid := 1 }

def asking (groups : Finset Int) (egid : Int) : UserRecord :=
  { oneGroup with groups, loginTokens := oneGroup.loginTokens.insert "second" ⟨"second", -1, egid⟩ }

def asked (groups : Finset Int) (egid : Int) : LoginServer where
  user := asking groups egid
  now := 0
  issued := oneGroup.loginTokens.insert "second" ⟨"second", -1, egid⟩
  egid := 1
  client := {"second", "first"}

def secondToken (egid : Int) : Event := .clientLogin "first" {} { token := "second", valid := -1, egid }

theorem stored_oneGroup : oneGroup.Stored where
  oid := by decide
  gid := by decide
  groups := by decide
  tokens token login found := by
    have member := Map.mem_entries_iff.2 found
    simp only [oneGroup, Map.insertNew, AList.notMem_empty, if_false, AList.insert_empty, AList.singleton_entries,
      List.mem_singleton, Sigma.mk.injEq, heq_eq_eq] at member
    obtain ⟨rfl, rfl⟩ := member
    decide
  template :=
    { root := by decide
      names := by simp [oneGroup]
      given := by simp [oneGroup]
      vectors := by simp [oneGroup]
      legal := by simp [oneGroup, Template.values]
      replaced := by simp [oneGroup] }
  operations := by decide

theorem plain_oneGroup : oneGroup.Plain where
  gname := by decide
  name := by decide
  password := by decide
  authDriver := by decide
  tokens := by
    intro token member
    have isFirst : token = "first" := by simpa [oneGroup, Map.mem_insertNew] using member
    subst isFirst
    decide
  template := ⟨by simp [Template.Closed, oneGroup, Template.values],
    by simp [oneGroup, Template.values], by simp [oneGroup]⟩

theorem stored_asking {groups : Finset Int} {egid : Int} (fits : ∀ id ∈ groups, -2 ^ 31 ≤ id ∧ id < 2 ^ 31)
    (fitsEgid : -2 ^ 31 ≤ egid ∧ egid < 2 ^ 31) : (asking groups egid).Stored :=
  { stored_oneGroup with
    groups := fits
    tokens := fun token login found => by
      simp only [asking, Map.lookup_insert_eq] at found
      split at found
      · rename_i isSecond
        cases found
        have expiration : (-2 ^ 63 : Int) ≤ -1 ∧ (-1 : Int) < 2 ^ 63 := by decide
        exact ⟨isSecond.symm, expiration, fitsEgid⟩
      · exact stored_oneGroup.tokens token login found }

theorem plain_asking (groups : Finset Int) (egid : Int) : (asking groups egid).Plain :=
  { plain_oneGroup with
    tokens := fun token member => by
      obtain isSecond | isFirst := (AList.mem_insert _).1 member
      · subst isSecond
        decide
      · exact plain_oneGroup.tokens token isFirst }

theorem load_eq (conforming : Xml.Conforming parse) (stored : server.user.Stored) (plain : server.user.Plain) :
    server.load parse = UserRecord.ofDocument (Xml.normalize server.user.document) := by
  rw [load, UserRecord.fromXml, UserRecord.parse_toXml conforming stored plain]
  rfl

theorem give_step (parse : String → Option Xml.Node) :
    oneClient.step parse (.give "first") = some { oneClient with client := {"first"} } := rfl

section

variable (conforming : Xml.Conforming parse)
include conforming

theorem secondToken_step {egid : Int} (either : egid = 1 ∨ egid = -1) :
    LoginServer.step parse { oneClient with client := {"first"} } (secondToken egid) = some (asked {1} egid) := by
  have isRead : LoginServer.load parse { oneClient with client := {"first"} } = some oneGroup := by
    rw [load_eq conforming stored_oneGroup plain_oneGroup]
    rfl
  have accepted : (authenticateInternal oneGroup 0 "first" {}).1 = .asToken {1} := by decide
  have outcome : login oneGroup 0 ⟨5, {1}⟩ { token := "second", valid := -1, egid } =
      .issued (asking {1} egid) ⟨"second", -1, egid⟩ := by
    obtain rfl | rfl := either
    · rfl
    · rfl
  have fits : -2 ^ 31 ≤ egid ∧ egid < 2 ^ 31 := by omega
  have isHeld : clientHolds { oneClient with client := {"first"} } "first" = true := by decide
  simp only [secondToken, LoginServer.step, isRead]
  rw [if_pos ⟨fits, isHeld⟩]
  simp only [oneClient]
  rw [accepted]
  dsimp only
  have isUser : oneGroup.oid = 5 := rfl
  rw [isUser, outcome]
  dsimp only [LoginServer.afterLogin]
  rw [store_eq conforming (stored_asking (by decide) fits) (plain_asking {1} egid)]
  rfl

theorem load_asked {groups : Finset Int} {egid : Int}
    (isGroups : groups = {1} ∨ groups = {1, 2}) (either : egid = 1 ∨ egid = -1) :
    LoginServer.load parse (asked groups egid) = some (asking groups egid) := by
  have fits : -2 ^ 31 ≤ egid ∧ egid < 2 ^ 31 := by omega
  have fitsGroups : ∀ id ∈ groups, -2 ^ 31 ≤ id ∧ id < 2 ^ 31 := by
    obtain rfl | rfl := isGroups
    · decide
    · decide
  rw [load_eq conforming (stored_asking fitsGroups fits) (plain_asking groups egid)]
  obtain rfl | rfl := isGroups
  · obtain rfl | rfl := either
    · rfl
    · rfl
  · obtain rfl | rfl := either
    · rfl
    · rfl

theorem setGroups_step {egid : Int} (either : egid = 1 ∨ egid = -1) :
    LoginServer.step parse (asked {1} egid) (.setGroups {1, 2}) = some (asked {1, 2} egid) := by
  have fits : -2 ^ 31 ≤ egid ∧ egid < 2 ^ 31 := by omega
  have fitsGroups : ∀ id ∈ ({1, 2} : Finset Int), -2 ^ 31 ≤ id ∧ id < 2 ^ 31 := by decide
  have isRead := load_asked conforming (.inl rfl) either
  simp only [LoginServer.step]
  rw [if_pos fitsGroups, isRead]
  have stored : LoginServer.store parse (asked {1} egid) (asking {1, 2} egid) =
      { asked {1} egid with user := asking {1, 2} egid } :=
    store_eq conforming (stored_asking fitsGroups fits) (plain_asking {1, 2} egid)
  exact congrArg some stored

theorem asked_path {ok : LoginServer → Event → Prop} {egid : Int}
    (either : egid = 1 ∨ egid = -1) (given : ok oneClient (.give "first"))
    (spares : ok { oneClient with client := {"first"} } (secondToken egid))
    (joined : ok (asked {1} egid) (.setGroups {1, 2})) :
    (system parse).Path ok oneClient (asked {1, 2} egid) := by
  have start : (system parse).Path ok oneClient oneClient := Relation.ReflTransGen.refl
  have first := start.snoc given (give_step parse)
  have second := first.snoc spares (secondToken_step conforming either)
  exact second.snoc joined (setGroups_step conforming either)

end

theorem oneClient_initial : (system parse).initial oneClient := ⟨stored_oneGroup, rfl, rfl, by decide⟩

theorem login_scope_asked : (asked {1, 2} 1).Confines Xml.parse := by
  have spares : (secondToken 1).Spares { oneClient with client := {"first"} } := by decide
  exact login_scope Xml.conforming_parse oneClient_initial plain_oneGroup
    (asked_path Xml.conforming_parse (.inl rfl) trivial spares trivial)

/-- As long as the user is in one group, the client gets a token for all of his groups. -/
theorem login_scope_widened : Xml.Conforming Xml.parse ∧
    ∃ server, (system Xml.parse).Reachable System.anyStep server ∧ server.user.Plain ∧
      ¬server.Confines Xml.parse := by
  have path : (system Xml.parse).Path System.anyStep oneClient (asked {1, 2} (-1)) :=
    asked_path Xml.conforming_parse (.inr rfl) trivial trivial trivial
  refine ⟨Xml.conforming_parse, asked {1, 2} (-1), ⟨oneClient, oneClient_initial, path⟩, plain_asking _ _, ?_⟩
  intro confines
  have isRead := load_asked Xml.conforming_parse (.inr rfl) (.inr rfl)
  have outcome : (authenticateInternal (asking {1, 2} (-1)) 0 "second" {}).1 = .asToken {1, 2} := by decide
  obtain refused | inGroup := confines.client (by decide) (by decide) "second" (by decide) _ isRead {} rfl rfl
  · exact absurd (outcome.symm.trans refused) (by decide)
  · exact absurd (outcome.symm.trans inGroup) (by decide)

end LoginServer

end OpenNebula.Users
