import MediaMasterr.Database.Tables
import MediaMasterr.Foundations.PythonText
import MediaMasterr.Foundations.Writes

/-! # Users and their sessions

The tables of the accounts, the access tokens, and the check of a request's cookie
(`core/auth.py`). Times are microseconds; the signing of a token and the hash of a
password are those of the libraries. What is only displayed of a user (names, avatar,
pages, dates) is left out. -/

namespace MediaMasterr.Accounts

open MediaMasterr.Database MediaMasterr.Foundations MediaMasterr.Foundations.PythonText

inductive UserRole where
  | user | admin
  deriving DecidableEq, Repr

inductive Permission where
  | manageUsers | manageRequests | request | autoApprove | manageProtection | manageReclaim
  deriving DecidableEq, Repr

structure HTTPException where
  statusCode : Nat
  detail : String
  deriving DecidableEq, Repr

structure User where
  id : Nat
  username : String
  passwordHash : String
  email : Option String := none
  oidcIssuer : Option String := none
  oidcSubject : Option String := none
  role : UserRole := .user
  permissions : List Permission := []
  isActive : Bool := true
  requirePasswordChange : Bool := false
  tokenVersion : Nat := 0
  deriving DecidableEq, Repr

def User.bumpTokenVersion (user : User) : User :=
  { user with tokenVersion := user.tokenVersion + 1 }

structure UserSession where
  userId : Nat
  sessionId : String
  expiresAt : Nat
  lastSeenAt : Option Nat := none
  revokedAt : Option Nat := none
  revokedReason : Option String := none
  deriving DecidableEq, Repr

def UserSession.revoke (session : UserSession) (reason : String) (now : Nat) : UserSession :=
  { session with revokedAt := some now, revokedReason := some reason }

/-- A row of `media_user_identities`, without what is only displayed of it. -/
structure MediaUserIdentity where
  id : Nat
  sourceService : Service
  sourceServiceConfigId : Nat
  sourceUserId : String
  username : String
  usernameNormalized : String
  email : Option String := none
  userId : Option Nat := none
  linkedAt : Option Nat := none
  lastSeenAt : Nat := 0
  deriving DecidableEq, Repr

structure Store where
  users : List User := []
  sessions : List UserSession := []
  identities : List MediaUserIdentity := []
  /-- `setup_state.needs_setup`, which is kept in memory. -/
  needsSetup : Bool := true
  deriving Repr

namespace Store

variable (store : Store)

def findUser (id : Nat) : Option User := store.users.find? (·.id = id)

/-- A user's row is changed. -/
def editUser (id : Nat) (change : User → User) : Store :=
  { store with users := Write.apply User.id store.users (.update id change) }

def nextUserId : Nat := Write.nextId User.id store.users

/-- A user of the same name or the same email, which the table's unique constraints exclude. -/
def Clashes (user : User) : Prop :=
  ∃ other ∈ store.users, other.username = user.username ∨
    other.email.isSome ∧ other.email = user.email

instance decidableClashes (user : User) : Decidable (store.Clashes user) :=
  inferInstanceAs (Decidable (∃ other ∈ store.users, _ ∨ _ ∧ _))

/-- A new user, unless the constraints of the table fail. -/
def addUser (make : Nat → User) : Option Store :=
  if store.Clashes (make store.nextUserId) then none
  else some { store with users := Write.apply User.id store.users (.insert make) }

def editIdentity (id : Nat) (change : MediaUserIdentity → MediaUserIdentity) : Store :=
  { store with
    identities := Write.apply MediaUserIdentity.id store.identities (.update id change) }

def addIdentity (make : Nat → MediaUserIdentity) : Store :=
  { store with identities := Write.apply MediaUserIdentity.id store.identities (.insert make) }

end Store

/-! ## Access tokens -/

/-- `SESSION_TTL`. -/
def sessionTtl : Nat := 24 * 60 * 60 * 1000000

/-- `SESSION_LAST_SEEN_TOUCH_INTERVAL`. -/
def sessionLastSeenTouchInterval : Nat := 5 * 60 * 1000000

/-- The claims of an access token; `exp` is in seconds. -/
structure Payload where
  sub : Nat
  tv : Nat
  sid : Option String
  exp : Nat
  deriving DecidableEq, Repr

/-- The signing of tokens under the secret of the settings. -/
structure Jwt (Token : Type) where
  encode : Payload → Token
  /-- The claims of a token whose signature is right. -/
  verify : Token → Option Payload
  verify_encode : ∀ payload, verify (encode payload) = some payload

/-- `PasswordHasher`; a hash is salted, and a text that is no hash is an exception. -/
structure PasswordHasher where
  hash : (salt password : String) → String
  verify : (hash password : String) → Option Bool

variable {Token : Type} (jwt : Jwt Token)

def createAccessToken (sub tokenVersion : Nat) (sessionId : Option String) (now : Nat) : Token :=
  jwt.encode { sub, tv := tokenVersion, sid := sessionId.filter (· ≠ ""),
               exp := (now + sessionTtl) / 1000000 }

def decodeToken (token : Token) (now : Nat) : Except HTTPException Payload :=
  match jwt.verify token with
  | none => .error ⟨401, "Could not validate credentials"⟩
  | some payload =>
    if payload.exp * 1000000 ≤ now then .error ⟨401, "Token has expired"⟩ else .ok payload

def getSessionIdFromPayload (payload : Payload) : Option String :=
  (payload.sid.map strip).filter (· ≠ "")

/-! ## The signed-in user -/

/-- `last_seen_at` is written at most every five minutes. -/
def UserSession.touch (session : UserSession) (now : Nat) : UserSession :=
  if session.lastSeenAt.all fun seen => sessionLastSeenTouchInterval ≤ now - seen then
    { session with lastSeenAt := some now }
  else session

def Store.touchSession (store : Store) (sessionId : String) (now : Nat) : Store :=
  { store with sessions := store.sessions.map fun session =>
      if session.sessionId = sessionId then session.touch now else session }

/-- The session that a token's claims name, of the user they name. -/
def checkSession (store : Store) (payload : Payload) (now : Nat) :
    Except HTTPException (User × UserSession) :=
  match store.findUser payload.sub with
  | none => .error ⟨401, "User not found"⟩
  | some user =>
    if payload.tv ≠ user.tokenVersion then .error ⟨401, "Token has been revoked"⟩ else
    match getSessionIdFromPayload payload with
    | none => .error ⟨401, "Session is invalid. Please login again."⟩
    | some sessionId =>
      match store.sessions.find? fun session =>
        session.userId = user.id ∧ session.sessionId = sessionId with
      | none => .error ⟨401, "Session not found"⟩
      | some session =>
        if session.revokedAt.isSome then .error ⟨401, "Session has been revoked"⟩
        else if session.expiresAt ≤ now then .error ⟨401, "Session has expired"⟩
        else .ok (user, session)

/-- `get_current_user`: the user and the session id of the request, and the store with the
session's `last_seen_at`. -/
def getCurrentUser (store : Store) (cookie : Option Token) (now : Nat) :
    Except HTTPException (User × String × Store) := do
  let some token := cookie | throw ⟨401, "Not authenticated"⟩
  let payload ← decodeToken jwt token now
  let (user, session) ← checkSession store payload now
  if user.isActive then
    return (user, session.sessionId, store.touchSession session.sessionId now)
  else throw ⟨403, "User account is disabled"⟩

section

variable {jwt} {store : Store} {now : Nat} {payload : Payload} {user : User}
    {session : UserSession}

theorem decodeToken_eq_ok_iff {token : Token} : decodeToken jwt token now = .ok payload ↔
    jwt.verify token = some payload ∧ now < payload.exp * 1000000 := by
  rw [decodeToken]
  cases hverify : jwt.verify token with
  | none => simp
  | some claims =>
    dsimp only
    split_ifs with hexpired
    · constructor
      · intro h
        contradiction
      · rintro ⟨⟨⟩, hlater⟩
        omega
    · constructor
      · rintro ⟨⟩
        exact ⟨rfl, by omega⟩
      · rintro ⟨⟨⟩, -⟩
        rfl

theorem checkSession_eq_ok_iff : checkSession store payload now = .ok (user, session) ↔
    store.findUser payload.sub = some user ∧ payload.tv = user.tokenVersion ∧
      ∃ sessionId, getSessionIdFromPayload payload = some sessionId ∧
        (store.sessions.find? fun row => row.userId = user.id ∧ row.sessionId = sessionId) =
          some session ∧ session.revokedAt = none ∧ now < session.expiresAt := by
  rw [checkSession]
  cases store.findUser payload.sub with
  | none => simp
  | some found =>
    dsimp only
    split_ifs with hversion
    · refine iff_of_false (by simp) ?_
      rintro ⟨⟨⟩, heq, -⟩
      exact hversion heq
    · rw [not_not] at hversion
      cases getSessionIdFromPayload payload with
      | none => simp
      | some sessionId =>
        dsimp only
        cases hfind : store.sessions.find? fun row =>
          row.userId = found.id ∧ row.sessionId = sessionId with
        | none =>
          refine iff_of_false (by simp) ?_
          rintro ⟨⟨⟩, -, _, ⟨⟩, hfound, -⟩
          rw [hfind] at hfound
          contradiction
        | some row =>
          dsimp only
          split_ifs with hrevoked hexpired
          · refine iff_of_false (by simp) ?_
            rintro ⟨⟨⟩, -, _, ⟨⟩, hfound, hnone, -⟩
            rw [hfind] at hfound
            cases hfound
            rw [hnone] at hrevoked
            contradiction
          · refine iff_of_false (by simp) ?_
            rintro ⟨⟨⟩, -, _, ⟨⟩, hfound, -, hlater⟩
            rw [hfind] at hfound
            cases hfound
            omega
          · rw [Option.not_isSome_iff_eq_none] at hrevoked
            constructor
            · rintro ⟨⟩
              exact ⟨rfl, hversion, sessionId, rfl, hfind, hrevoked, by omega⟩
            · rintro ⟨⟨⟩, -, _, ⟨⟩, hfound, -⟩
              rw [hfind] at hfound
              cases hfound
              rfl

theorem getCurrentUser_eq_ok_iff {cookie : Option Token} {sessionId : String} {touched : Store} :
    getCurrentUser jwt store cookie now = .ok (user, sessionId, touched) ↔
      ∃ token payload session, cookie = some token ∧ decodeToken jwt token now = .ok payload ∧
        checkSession store payload now = .ok (user, session) ∧ user.isActive ∧
        sessionId = session.sessionId ∧ touched = store.touchSession session.sessionId now := by
  cases cookie with
  | none => simp [getCurrentUser, throw, throwThe, MonadExceptOf.throw]
  | some token =>
    cases hdecode : decodeToken jwt token now with
    | error e => simp [getCurrentUser, hdecode, bind, Except.bind]
    | ok payload =>
      cases hcheck : checkSession store payload now with
      | error e => simp [getCurrentUser, hdecode, hcheck, bind, Except.bind]
      | ok found =>
        obtain ⟨user', session⟩ := found
        by_cases hactive : user'.isActive
        · simp [getCurrentUser, hdecode, hcheck, bind, Except.bind, hactive, pure, Except.pure]
          grind
        · simp [getCurrentUser, hdecode, hcheck, bind, Except.bind, hactive, throw, throwThe,
            MonadExceptOf.throw]
          grind

end

/-- `has_permission`. -/
def hasPermission (user : User) (permission : Permission) : Prop :=
  user.role = .admin ∨ permission ∈ user.permissions

instance decidableHasPermission (user : User) (permission : Permission) :
    Decidable (hasPermission user permission) :=
  inferInstanceAs (Decidable (_ ∨ _))

/-- `require_permission(Permission.MANAGE_USERS)`. -/
def requireManageUsers (user : User) : Except HTTPException Unit :=
  if hasPermission user .manageUsers then .ok ()
  else .error ⟨403, "Manage Users permission required"⟩

end MediaMasterr.Accounts
