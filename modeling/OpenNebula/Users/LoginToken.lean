import OpenNebula.Library.Transition
import OpenNebula.Users.UserRecord

namespace OpenNebula.Users

open Common Library

/-! # Login tokens (`LoginTokenPool`, `UserAPI::login`, `UserPool::authenticate_internal`)

A token stands for the user in all of his groups or in one of them, its EGID.  The user is read
from the database by every request, and written by those that change a token.
-/

def storeTime (value : Int) : Int := (BitVec.ofInt 64 value).toInt

namespace LoginToken

variable (login : LoginToken) (now : Int)

def isValid : Bool := login.expirationTime = -1 || now < login.expirationTime

def isExpired : Bool := login.expirationTime < now && login.expirationTime ≠ -1

end LoginToken

def maxTokens : Nat := 10

abbrev LoginTokenPool := Map String LoginToken

namespace LoginTokenPool

variable (tokens : LoginTokenPool)

def resetExpired (now : Int) : LoginTokenPool := Map.filter (fun _ login => !login.isExpired now) tokens

def set (now : Int) (token generated : String) (valid egid : Int) : Option (LoginTokenPool × LoginToken) :=
  let live := resetExpired tokens now
  if maxTokens ≤ live.entries.length ∨ valid < -1 ∨ valid = 0 then none
  else
    let login : LoginToken :=
      { token := if token.isEmpty then generated else token
        expirationTime := if valid = -1 then -1 else storeTime (now + valid)
        egid }
    some (Map.insertNew login.token login live, login)

end LoginTokenPool

structure Secrets where
  /-- The password in its old digest is this text; the new one, which resets all tokens -/
  legacy : Option String := none
  session : Bool := false
  driver : Bool := false

inductive Authentication where
  | refused
  | asToken (groupIds : Finset Int)
  | asSecret (groupIds : Finset Int)
deriving DecidableEq

def authenticateInternal (user : UserRecord) (now : Int) (token : String) (secrets : Secrets) :
    Authentication × Option UserRecord :=
  let upgraded := secrets.legacy.map fun password => { user with password, loginTokens := ∅ }
  let current := upgraded.getD user
  match current.loginTokens.lookup token with
  | none =>
    if secrets.session || secrets.driver then (.asSecret user.groups, upgraded) else (.refused, upgraded)
  | some login =>
    if login.isValid now then
      if login.egid = -1 then (.asToken user.groups, upgraded)
      else if login.egid ∈ user.groups then (.asToken {login.egid}, upgraded)
      else (.refused, some { current with loginTokens := current.loginTokens.erase token })
    else if secrets.session then (.asSecret user.groups, upgraded)
    else (.refused, upgraded)

structure Requester where
  uid : Int
  groupIds : Finset Int

def Requester.isAdmin (requester : Requester) : Bool := requester.uid = 0 || 0 ∈ requester.groupIds

structure LoginRequest where
  token : String
  valid : Int
  egid : Int
  /-- The random text for a request without one -/
  generated : String := ""
  maxTokenTime : Int := -1
  authorized : Bool := true

def LoginRequest.text (request : LoginRequest) : String :=
  if request.token.isEmpty then request.generated else request.token

inductive LoginOutcome where
  | refused
  | disabled (user : UserRecord)
  | resetAll (user : UserRecord)
  | reset (user : UserRecord)
  | issued (user : UserRecord) (login : LoginToken)

def login (user : UserRecord) (now : Int) (requester : Requester) (request : LoginRequest) : LoginOutcome :=
  if !request.authorized then .refused
  else if request.maxTokenTime = 0 then .disabled { user with loginTokens := ∅ }
  else
    let valid :=
      if 0 < request.maxTokenTime ∧ (request.maxTokenTime < request.valid ∨ request.valid = -1) then
        request.maxTokenTime
      else request.valid
    if valid = 0 then
      if request.token.isEmpty then .resetAll { user with loginTokens := ∅ }
      else if request.token ∈ user.loginTokens then
        .reset { user with loginTokens := user.loginTokens.erase request.token }
      else .refused
    else if 0 < valid ∨ valid = -1 then
      if request.egid ≠ -1 ∧ !requester.isAdmin ∧
          (request.egid ∉ user.groups ∨ request.egid ∉ requester.groupIds) then .refused
      else if request.egid = -1 ∧ user.groups ≠ requester.groupIds then .refused
      else
        match LoginTokenPool.set user.loginTokens now request.token request.generated valid request.egid with
        | none => .refused
        | some (loginTokens, login) => .issued { user with loginTokens } login
    else .refused

/-- The user as he is stored, and a client that is given tokens for one group; the tokens that
login has reported and that were not reset since are kept with their scopes. -/
structure LoginServer where
  user : UserRecord
  now : Int
  issued : Map String LoginToken := ∅
  egid : Int
  client : Finset String := ∅

namespace LoginServer

inductive Event where
  | wait (seconds : Nat)
  | setGroups (groups : Finset Int)
  | authenticate (token : String) (secrets : Secrets)
  /-- The client is given a token that stands for its group. -/
  | give (token : String)
  | login (requester : Requester) (request : LoginRequest)
  | clientLogin (token : String) (secrets : Secrets) (request : LoginRequest)

variable (parse : String → Option Xml.Node) (server : LoginServer)

def load : Option UserRecord := UserRecord.fromXml parse server.user.toXml

/-- `update`: a text that is no document is not written, which nobody looks at. -/
def store (user : UserRecord) : LoginServer :=
  if (parse user.toXml).isSome then { server with user } else server

def authenticated (before : UserRecord) (token : String) (secrets : Secrets) : LoginServer :=
  match (authenticateInternal before server.now token secrets).2 with
  | none => server
  | some user =>
    let kept := if secrets.legacy.isSome then ∅ else server.issued.erase token
    { server.store parse user with issued := kept }

def afterLogin (client : Bool) (token : String) : LoginOutcome → LoginServer
  | .refused => server
  | .disabled user => { server.store parse user with issued := ∅ }
  | .resetAll user => { server.store parse user with issued := ∅ }
  | .reset user => { server.store parse user with issued := server.issued.erase token }
  | .issued user login =>
    { server.store parse user with
      issued := server.issued.insert login.token login
      client := if client then insert login.token server.client else server.client }

def clientHolds (token : String) : Bool :=
  token ∈ server.client && (server.issued.lookup token).any fun login => login.egid = server.egid

def step : Event → Option LoginServer
  | .wait seconds => some { server with now := server.now + seconds }
  | .setGroups groups =>
    if ∀ id ∈ groups, -2 ^ 31 ≤ id ∧ id < 2 ^ 31 then
      match server.load parse with
      | none => some server
      | some user => some (server.store parse { user with groups })
    else none
  | .authenticate token secrets =>
    match server.load parse with
    | none => some server
    | some user => some (server.authenticated parse user token secrets)
  | .give token =>
    if (server.issued.lookup token).any fun login => login.egid = server.egid then
      some { server with client := insert token server.client }
    else none
  | .login requester request =>
    if -2 ^ 31 ≤ request.egid ∧ request.egid < 2 ^ 31 then
      match server.load parse with
      | none => some server
      | some user =>
        some (server.afterLogin parse false request.token (login user server.now requester request))
    else none
  | .clientLogin token secrets request =>
    if (-2 ^ 31 ≤ request.egid ∧ request.egid < 2 ^ 31) ∧ server.clientHolds token then
      match server.load parse with
      | none => some server
      | some user =>
        match (authenticateInternal user server.now token secrets).1 with
        | .asToken groupIds =>
          some (server.afterLogin parse true request.token (login user server.now ⟨user.oid, groupIds⟩ request))
        | .refused | .asSecret _ => some (server.authenticated parse user token secrets)
    else none

def system : System LoginServer Event where
  initial server :=
    server.user.Stored ∧ server.issued = server.user.loginTokens ∧ server.client = ∅ ∧ server.egid ≠ -1
  step := step parse

end LoginServer

end OpenNebula.Users
