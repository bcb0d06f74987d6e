import MediaMasterr.Accounts.MediaAuth

/-! # Requests to the accounts

The handlers of `api/routes/auth.py`, `api/routes/account.py` and `api/routes/setup.py` that
sign in, sign out and manage users, the two middlewares around them, the start of the
program (`utils/create_admin.py`) and the weekly trim of the sessions. A request runs by
itself; one that raises is rolled back. -/

namespace MediaMasterr.Accounts

open MediaMasterr.Database MediaMasterr.Foundations MediaMasterr.Foundations.PythonText

inductive Request where
  | login (identifier password : String)
  /-- The provider's answer to an OIDC sign-in. -/
  | oidcCallback (issuer subject : String) (email : Option String)
  /-- A sign-in that a Jellyfin or Emby server has accepted. -/
  | mediaLogin (profile : MediaProfile)
  /-- A sign-in that Plex has accepted. -/
  | mediaPlexCallback (profile : MediaProfile)
  | logout
  /-- `get_me`, and any other request that only needs a signed-in user. -/
  | getMe
  | updateProfile (email : Option String)
  | changePassword (oldPassword : Option String) (newPassword : String)
  | createUser (username password : String) (email : Option String) (role : UserRole)
      (permissions : List Permission) (requirePasswordChange : Bool)
  | deleteUser (userId : Nat)
  | updateUser (userId : Nat) (email : Option String) (role : UserRole)
      (permissions : List Permission) (password : Option String)
  | linkMediaIdentity (identityId targetUserId : Nat)
  | unlinkMediaIdentity (identityId : Nat)
  | revokeSession (sessionId : String)
  | revokeOtherSessions
  | completeSetup (password : String)
  deriving DecidableEq, Repr

/-- What a request draws: the time, `uuid4().hex` and the salt of a password hash. -/
structure Ambient where
  now : Nat
  drawnId : String
  salt : String := ""
  deriving DecidableEq, Repr

/-- What a request leaves, and the cookie its response sets. A redirect with an error message
is a status 302. -/
structure Outcome (Token : Type) where
  store : Store
  answer : Except HTTPException (Option Token)

def serverError : HTTPException := ⟨500, "Internal Server Error"⟩

variable {Token : Type} (jwt : Jwt Token) (hasher : PasswordHasher) (tables : TextTables)

namespace Store

variable (store : Store)

/-! ## Sign-in -/

/-- `_issue_login_session`, unless the session id is in use. -/
def issueLoginSession (user : User) (ambient : Ambient) : Outcome Token :=
  if ambient.drawnId ∈ store.sessions.map UserSession.sessionId then ⟨store, .error serverError⟩
  else
    { store := { store with
        sessions := store.sessions ++ [{ userId := user.id
                                         sessionId := ambient.drawnId
                                         expiresAt := ambient.now + sessionTtl
                                         lastSeenAt := some ambient.now }] }
      answer := .ok (some
        (createAccessToken jwt user.id user.tokenVersion (some ambient.drawnId) ambient.now)) }

/-- A request whose session could not be added is rolled back as a whole. -/
def rollbackUnlessIssued (before : Store) (outcome : Outcome Token) : Outcome Token :=
  match outcome.answer with
  | .ok _ => outcome
  | .error e => ⟨before, .error e⟩

/-- `login`. -/
def login (identifier password : String) (ambient : Ambient) : Outcome Token :=
  match store.users.filter fun user =>
    user.username = identifier ∨ user.email = some identifier with
  | [user] =>
    if user.passwordHash = "" then ⟨store, .error ⟨401, "Invalid credentials"⟩⟩ else
    match hasher.verify user.passwordHash password with
    | none => ⟨store, .error serverError⟩
    | some false => ⟨store, .error ⟨401, "Invalid credentials"⟩⟩
    | some true =>
      if user.isActive then issueLoginSession jwt store user ambient
      else ⟨store, .error ⟨403, "Account is disabled"⟩⟩
  | [] => ⟨store, .error ⟨401, "Invalid credentials"⟩⟩
  | _ :: _ :: _ => ⟨store, .error serverError⟩

/-- The user of an OIDC identity: the one that carries it, else the one of its email. -/
def oidcUser (issuer subject : String) (email : Option String) : Except HTTPException User :=
  match store.users.find? fun user =>
    user.oidcIssuer = some issuer ∧ user.oidcSubject = some subject with
  | some user => .ok user
  | none =>
    match email.filter (· ≠ "") with
    | none => .error ⟨302, "OIDC claim 'email' is missing from provider response"⟩
    | some email =>
      match store.users.filter fun user =>
        user.email.map asciiLower = some (tables.lower (strip email)) with
      | [] => .error ⟨302, "No local user matches the OIDC identity. " ++
          "Create the user first and ensure email matches exactly."⟩
      | [user] =>
        if user.oidcIssuer.any (· ≠ "") ∧ user.oidcSubject.any (· ≠ "") ∧
            (user.oidcIssuer ≠ some issuer ∨ user.oidcSubject ≠ some subject) then
          .error ⟨302, "User is already linked to a different OIDC identity"⟩
        else .ok user
      | _ :: _ :: _ => .error serverError

/-- `oidc_callback`, once the provider has answered. -/
def oidcCallback (issuer subject : String) (email : Option String) (ambient : Ambient) :
    Outcome Token :=
  match oidcUser tables store issuer subject email with
  | .error e => ⟨store, .error e⟩
  | .ok user =>
    let linked := store.editUser user.id fun user =>
      { user with oidcIssuer := some issuer, oidcSubject := some subject }
    if user.isActive then
      rollbackUnlessIssued store (issueLoginSession jwt linked user ambient)
    else ⟨linked, .error ⟨302, "User account is disabled"⟩⟩

/-- What a sign-in at a media server does with a profile; `disabled` is what it leaves and
answers for an account that is disabled. -/
def mediaSignIn (profile : MediaProfile) (ambient : Ambient) (invalid conflict : HTTPException)
    (disabled : Store → Outcome Token) : Outcome Token :=
  match buildDiscoveredUser tables profile with
  | none => ⟨store, .error invalid⟩
  | some identity =>
    match resolveOrCreateUserForIdentity tables store identity ambient.now with
    | none => ⟨store, .error serverError⟩
    | some (linked, .error _) => ⟨linked, .error conflict⟩
    | some (linked, .ok user) =>
      if user.isActive then
        rollbackUnlessIssued store (issueLoginSession jwt linked user ambient)
      else disabled linked

/-- `media_login`, once the server has accepted the credentials. -/
def mediaLogin (profile : MediaProfile) (ambient : Ambient) : Outcome Token :=
  mediaSignIn jwt tables store profile ambient
    ⟨503, "Media provider returned incomplete user profile"⟩
    ⟨409, "Your media account matches multiple local users and needs an " ++
      "admin to link it before sign-in."⟩
    fun _ => ⟨store, .error ⟨403, "Account is disabled"⟩⟩

/-- `media_plex_callback`, once Plex has accepted the sign-in. -/
def mediaPlexCallback (profile : MediaProfile) (ambient : Ambient) : Outcome Token :=
  mediaSignIn jwt tables store profile ambient
    ⟨302, "Plex sign-in failed. Please try again."⟩
    ⟨302, "Your media account needs an admin link before sign-in"⟩
    fun linked => ⟨linked, .error ⟨302, "Account is disabled"⟩⟩

/-! ## Sessions that end -/

/-- `_revoke_user_sessions`. -/
def revokeUserSessions (userId : Nat) (reason : String) (excludeSessionId : Option String)
    (now : Nat) : Store :=
  { store with sessions := store.sessions.map fun session =>
      if session.userId = userId ∧ session.revokedAt = none ∧ excludeSessionId ≠ session.sessionId
      then session.revoke reason now else session }

def revokeSessionRow (sessionId reason : String) (now : Nat) : Store :=
  { store with sessions := store.sessions.map fun session =>
      if session.sessionId = sessionId ∧ session.revokedAt = none then session.revoke reason now
      else session }

/-- The session that a logout names, whoever sends it. -/
def logoutSessionId (cookie : Option Token) (now : Nat) : Option String :=
  cookie.bind fun token =>
    match decodeToken jwt token now with
    | .error _ => none
    | .ok payload => getSessionIdFromPayload payload

/-- `logout`. -/
def logout (cookie : Option Token) (now : Nat) : Store :=
  (logoutSessionId jwt cookie now).elim store (store.revokeSessionRow · "logout" now)

/-- `_trim_user_sessions(retain_days=30)`. -/
def trimUserSessions (now : Nat) : Store :=
  let cutoff := now - 30 * 24 * 60 * 60 * 1000000
  { store with sessions := store.sessions.filter fun session =>
      !(session.revokedAt.any (· < cutoff) || decide (session.expiresAt < cutoff)) }

/-! ## Users -/

/-- A user other than the given one has the email. -/
def EmailInUse (email : Option String) (userId : Nat) : Prop :=
  email.any (· ≠ "") ∧ ∃ other ∈ store.users, other.email = email ∧ other.id ≠ userId

instance decidableEmailInUse (email : Option String) (userId : Nat) :
    Decidable (store.EmailInUse email userId) :=
  inferInstanceAs (Decidable (_ ∧ ∃ other ∈ store.users, _ ∧ _))

def updateProfile (email : Option String) (currentUser : User) : Except HTTPException Store :=
  if store.EmailInUse email currentUser.id then .error ⟨400, "Email already in use"⟩
  else .ok (store.editUser currentUser.id ({ · with email := email }))

/-- A new password ends every session of the user. -/
def setPassword (userId : Nat) (password reason : String) (requireChange : Bool → Bool)
    (ambient : Ambient) : Store :=
  (store.editUser userId fun user =>
    { user.bumpTokenVersion with
      passwordHash := hasher.hash ambient.salt password
      requirePasswordChange := requireChange user.requirePasswordChange }).revokeUserSessions
        userId reason none ambient.now

def changePassword (oldPassword : Option String) (newPassword : String) (currentUser : User)
    (ambient : Ambient) : Except HTTPException Store :=
  let changed :=
    store.setPassword hasher currentUser.id newPassword "password_changed" (fun _ => false) ambient
  if currentUser.passwordHash ≠ "" ∧ !currentUser.requirePasswordChange then
    match oldPassword.filter (· ≠ "") with
    | none => .error ⟨401, "Invalid old password"⟩
    | some old =>
      match hasher.verify currentUser.passwordHash old with
      | none => .error serverError
      | some false => .error ⟨401, "Invalid old password"⟩
      | some true => .ok changed
  else .ok changed

def createUser (username password : String) (email : Option String) (role : UserRole)
    (permissions : List Permission) (requirePasswordChange : Bool) (actor : User)
    (ambient : Ambient) : Except HTTPException Store :=
  if actor.role ≠ .admin ∧ role = .admin then
    .error ⟨403, "Only administrators can grant admin role"⟩
  else
    match store.users.filter fun user =>
      user.username = username ∨ email.any (· ≠ "") ∧ user.email = email with
    | [] =>
      match store.addUser fun id =>
        { id, username, passwordHash := hasher.hash ambient.salt password, email, role, permissions,
          requirePasswordChange } with
      | none => .error serverError
      | some created => .ok created
    | [_] => .error ⟨400, "Username or email already exists"⟩
    | _ :: _ :: _ => .error serverError

/-- The rows that refer to a deleted user go with it or lose it. -/
def removeUser (userId : Nat) : Store :=
  { store with
    users := store.users.filter (·.id ≠ userId)
    sessions := store.sessions.filter (·.userId ≠ userId)
    identities := store.identities.map fun identity =>
      if identity.userId = some userId then { identity with userId := none } else identity }

def deleteUser (userId : Nat) (actor : User) : Except HTTPException Store :=
  if userId = actor.id then .error ⟨400, "Cannot delete your own account"⟩ else
  match store.findUser userId with
  | none => .error ⟨404, "User not found"⟩
  | some user =>
    if actor.role ≠ .admin ∧ user.role = .admin then .error ⟨403, "Cannot delete administrators"⟩
    else .ok (store.removeUser userId)

def updateUser (userId : Nat) (email : Option String) (role : UserRole)
    (permissions : List Permission) (password : Option String) (actor : User) (ambient : Ambient) :
    Except HTTPException Store :=
  match store.findUser userId with
  | none => .error ⟨404, "User not found"⟩
  | some user =>
    if store.EmailInUse email userId then .error ⟨400, "Email already in use"⟩
    else if actor.role ≠ .admin ∧ user.role = .admin then
      .error ⟨403, "Cannot modify administrators"⟩
    else if actor.role ≠ .admin ∧ role = .admin then
      .error ⟨403, "Only administrators can grant admin role"⟩
    else
      let updated := store.editUser userId ({ · with email, role, permissions })
      .ok <| (password.filter (· ≠ "")).elim updated fun password =>
        updated.setPassword hasher userId password "password_reset_by_admin" id ambient

def linkMediaIdentity (identityId targetUserId : Nat) (now : Nat) : Except HTTPException Store :=
  match store.identities.find? (·.id = identityId), store.findUser targetUserId with
  | none, _ => .error ⟨404, "Media identity not found"⟩
  | some _, none => .error ⟨404, "Target user not found"⟩
  | some _, some target =>
    .ok (store.editIdentity identityId fun row =>
      { row with userId := some target.id, linkedAt := some (row.linkedAt.getD now) })

def unlinkMediaIdentity (identityId : Nat) : Except HTTPException Store :=
  match store.identities.find? (·.id = identityId) with
  | none => .error ⟨404, "Media identity not found"⟩
  | some _ => .ok (store.editIdentity identityId ({ · with userId := none }))

def revokeSession (sessionId : String) (currentUser : User) (now : Nat) :
    Except HTTPException Store :=
  match store.sessions.find? fun session =>
    session.userId = currentUser.id ∧ session.sessionId = sessionId with
  | none => .error ⟨404, "Session not found"⟩
  | some _ => .ok (store.revokeSessionRow sessionId "user_revoked" now)

/-! ## The first administrator -/

def initialAdmin (password : String) (ambient : Ambient) (id : Nat) : User where
  id := id
  username := "admin"
  passwordHash := hasher.hash ambient.salt password
  role := .admin

def completeSetup (password : String) (ambient : Ambient) : Except HTTPException Store :=
  if !store.needsSetup then .error ⟨409, "Setup has already been completed."⟩ else
  match store.addUser (initialAdmin hasher password ambient) with
  | none => .error serverError
  | some created => .ok { created with needsSetup := false }

/-- `create_initial_admin`, as the program starts. -/
def createInitialAdmin (adminPassword : Option String) (ambient : Ambient) : Store :=
  let pending := { store with needsSetup := true }
  let given := adminPassword.filter (· ≠ "")
  match store.users.find? (·.role = .admin) with
  | some admin =>
    let found := { store with needsSetup := false }
    given.elim found fun password =>
      match hasher.verify admin.passwordHash password with
      | some false => found.editUser admin.id fun user =>
          { user.bumpTokenVersion with passwordHash := hasher.hash ambient.salt password }
      | _ => found
  | none =>
    given.elim pending fun password =>
      (pending.addUser (initialAdmin hasher password ambient)).elim pending
        ({ · with needsSetup := false })

end Store

/-! ## Requests -/

/-- A request of a signed-in user. -/
def authenticated (store : Store) (cookie : Option Token) (now : Nat)
    (handler : Store → User → String → Except HTTPException Store) : Outcome Token :=
  match getCurrentUser jwt store cookie now with
  | .error e => ⟨store, .error e⟩
  | .ok (user, sessionId, touched) =>
    match handler touched user sessionId with
    | .error e => ⟨store, .error e⟩
    | .ok changed => ⟨changed, .ok none⟩

/-- A request of a user who may manage users. -/
def managing (handler : Store → User → Except HTTPException Store) (store : Store) (user : User)
    (_sessionId : String) : Except HTTPException Store :=
  match requireManageUsers user with
  | .error e => .error e
  | .ok () => handler store user

def fromExcept (store : Store) : Except HTTPException Store → Outcome Token
  | .error e => ⟨store, .error e⟩
  | .ok changed => ⟨changed, .ok none⟩

/-- The endpoint of a request. -/
def dispatch (store : Store) (cookie : Option Token) (ambient : Ambient) : Request → Outcome Token
  | .login identifier password => store.login jwt hasher identifier password ambient
  | .oidcCallback issuer subject email => store.oidcCallback jwt tables issuer subject email ambient
  | .mediaLogin profile => store.mediaLogin jwt tables profile ambient
  | .mediaPlexCallback profile => store.mediaPlexCallback jwt tables profile ambient
  | .logout => ⟨store.logout jwt cookie ambient.now, .ok none⟩
  | .getMe => authenticated jwt store cookie ambient.now fun store _ _ => .ok store
  | .updateProfile email => authenticated jwt store cookie ambient.now
      fun store user _ => store.updateProfile email user
  | .changePassword old new => authenticated jwt store cookie ambient.now
      fun store user _ => store.changePassword hasher old new user ambient
  | .createUser username password email role permissions requireChange =>
      authenticated jwt store cookie ambient.now <| managing fun store actor =>
        store.createUser hasher username password email role permissions requireChange actor ambient
  | .deleteUser userId => authenticated jwt store cookie ambient.now <| managing fun store actor =>
      store.deleteUser userId actor
  | .updateUser userId email role permissions password =>
      authenticated jwt store cookie ambient.now <| managing fun store actor =>
        store.updateUser hasher userId email role permissions password actor ambient
  | .linkMediaIdentity identityId targetUserId =>
      authenticated jwt store cookie ambient.now <| managing fun store _ =>
        store.linkMediaIdentity identityId targetUserId ambient.now
  | .unlinkMediaIdentity identityId => authenticated jwt store cookie ambient.now <|
      managing fun store _ => store.unlinkMediaIdentity identityId
  | .revokeSession sessionId => authenticated jwt store cookie ambient.now
      fun store user _ => store.revokeSession sessionId user ambient.now
  | .revokeOtherSessions => authenticated jwt store cookie ambient.now
      fun store user current => .ok
        (store.revokeUserSessions user.id "user_revoked_others" (some current) ambient.now)
  | .completeSetup password => fromExcept store (store.completeSetup hasher password ambient)

def Request.isSetup : Request → Bool
  | completeSetup _ => true
  | _ => false

/-- `SetupGuardMiddleware`: nothing but the setup is answered before it. -/
def setupGuard (store : Store) (request : Request) : Prop := store.needsSetup ∧ !request.isSetup

instance decidableSetupGuard (store : Store) (request : Request) :
    Decidable (setupGuard store request) := inferInstanceAs (Decidable (_ ∧ _))

/-- `SlidingSessionMiddleware`: a cookie past half of its time is made anew. -/
def slidingSession (cookie : Option Token) (now : Nat) : Option Token :=
  cookie.bind fun token => (jwt.verify token).bind fun payload =>
    if now < payload.exp * 1000000 ∧ payload.exp * 1000000 - now < sessionTtl / 2 then
      some (createAccessToken jwt payload.sub payload.tv payload.sid now)
    else none

/-! ## The running program -/

inductive Event (Token : Type) where
  | request (cookie : Option Token) (request : Request)
  | startup (adminPassword : Option String)
  | weeklyHouseKeeping

structure System (Token : Type) where
  store : Store := {}
  /-- The tokens that responses have set so far. -/
  cookies : List Token := []
  /-- The ids drawn so far. -/
  drawnIds : List String := []
  clock : Nat := 0

/-- The endpoint's outcome, where the guard lets a request through. -/
def respond (store : Store) (cookie : Option Token) (request : Request) (ambient : Ambient) :
    Outcome Token :=
  if setupGuard store request then ⟨store, .error ⟨503, "setup_required"⟩⟩
  else dispatch jwt hasher tables store cookie ambient request

/-- The cookies of a response. -/
def setCookies (store : Store) (cookie : Option Token) (request : Request) (ambient : Ambient) :
    List Token :=
  if setupGuard store request then [] else
  ((respond jwt hasher tables store cookie request ambient).answer.toOption.join).toList ++
    (slidingSession jwt cookie ambient.now).toList

def storeAfter (store : Store) (ambient : Ambient) : Event Token → Store
  | .request cookie request => (respond jwt hasher tables store cookie request ambient).store
  | .startup adminPassword => store.createInitialAdmin hasher adminPassword ambient
  | .weeklyHouseKeeping => store.trimUserSessions ambient.now

def cookiesOf (store : Store) (ambient : Ambient) : Event Token → List Token
  | .request cookie request => setCookies jwt hasher tables store cookie request ambient
  | _ => []

def System.next (s : System Token) (occurrence : Ambient × Event Token) : System Token where
  store := storeAfter jwt hasher tables s.store occurrence.1 occurrence.2
  cookies := s.cookies ++ cookiesOf jwt hasher tables s.store occurrence.1 occurrence.2
  drawnIds := s.drawnIds ++ [occurrence.1.drawnId]
  clock := occurrence.1.now

/-! ## What a sign-in does -/

section

variable {jwt} {hasher} {tables} {store : Store} {ambient : Ambient}

theorem mem_of_filter_eq_singleton {p : User → Bool} {user : User}
    (h : store.users.filter p = [user]) : user ∈ store.users ∧ p user = true :=
  List.mem_filter.mp (h.symm ▸ List.mem_singleton_self user)

variable (jwt hasher store ambient) in
/-- A login fails, or signs in the user of the name or email. -/
theorem login_cases (identifier password : String) :
    (∃ e, store.login jwt hasher identifier password ambient = ⟨store, .error e⟩) ∨
      ∃ user ∈ store.users, (user.username = identifier ∨ user.email = some identifier) ∧
        user.passwordHash ≠ "" ∧ hasher.verify user.passwordHash password = some true ∧
        store.login jwt hasher identifier password ambient =
          store.issueLoginSession jwt user ambient := by
  rw [Store.login]
  split
  case h_1 user hfound =>
    obtain ⟨huser, hnamed⟩ := mem_of_filter_eq_singleton hfound
    by_cases hempty : user.passwordHash = ""
    · rw [if_pos hempty]
      exact .inl ⟨_, rfl⟩
    · rw [if_neg hempty]
      cases hverify : hasher.verify user.passwordHash password with
      | none => exact .inl ⟨_, rfl⟩
      | some right =>
        cases right with
        | false => exact .inl ⟨_, rfl⟩
        | true =>
          by_cases hactive : user.isActive
          · exact .inr ⟨user, huser, by simpa using hnamed, hempty, hverify, if_pos hactive⟩
          · exact .inl ⟨_, if_neg hactive⟩
  · exact .inl ⟨_, rfl⟩
  · exact .inl ⟨_, rfl⟩

theorem mem_of_oidcUser {issuer subject : String} {email : Option String} {user : User}
    (h : store.oidcUser tables issuer subject email = .ok user) : user ∈ store.users := by
  rw [Store.oidcUser] at h
  split at h
  case h_1 found hfind =>
    cases h
    exact List.mem_of_find?_eq_some hfind
  · split at h
    · contradiction
    · split at h
      · contradiction
      case h_2 found hfilter =>
        split_ifs at h
        cases h
        exact (mem_of_filter_eq_singleton hfilter).1
      · contradiction

/-- The user that an OIDC sign-in links. -/
def linkOidc (store : Store) (userId : Nat) (issuer subject : String) : Store :=
  store.editUser userId fun user =>
    { user with oidcIssuer := some issuer, oidcSubject := some subject }

variable (jwt tables store ambient) in
theorem oidcCallback_cases (issuer subject : String) (email : Option String) :
    (∃ e, store.oidcCallback jwt tables issuer subject email ambient = ⟨store, .error e⟩) ∨
      ∃ user ∈ store.users, (∃ e, store.oidcCallback jwt tables issuer subject email ambient =
          ⟨linkOidc store user.id issuer subject, .error e⟩) ∨
        store.oidcCallback jwt tables issuer subject email ambient =
          store.rollbackUnlessIssued
            ((linkOidc store user.id issuer subject).issueLoginSession jwt user ambient) := by
  rw [Store.oidcCallback]
  cases hfound : store.oidcUser tables issuer subject email with
  | error e => exact .inl ⟨e, rfl⟩
  | ok user =>
    refine .inr ⟨user, mem_of_oidcUser hfound, ?_⟩
    by_cases hactive : user.isActive
    · exact .inr (if_pos hactive)
    · exact .inl ⟨_, if_neg hactive⟩

/-- A media sign-in fails and leaves nothing, leaves only what it found of the identity, or
signs in the user it found or made. -/
theorem mediaSignIn_cases (profile : MediaProfile) (invalid conflict : HTTPException)
    {disabled : Store → Outcome Token} {P : Outcome Token → Prop}
    (hdisabled : ∀ linked, P (disabled linked) ∨ ∃ e, disabled linked = ⟨linked, .error e⟩)
    (hfails : ∀ e, P ⟨store, .error e⟩)
    (hleaves : ∀ identity linked answer e, buildDiscoveredUser tables profile = some identity →
      Resolution tables store identity ambient.now linked answer → P ⟨linked, .error e⟩)
    (hissues : ∀ identity linked user, buildDiscoveredUser tables profile = some identity →
      Resolution tables store identity ambient.now linked (.ok user) →
      P (store.rollbackUnlessIssued (linked.issueLoginSession jwt user ambient))) :
    P (store.mediaSignIn jwt tables profile ambient invalid conflict disabled) := by
  rw [Store.mediaSignIn]
  cases hbuild : buildDiscoveredUser tables profile with
  | none => exact hfails _
  | some identity =>
    dsimp only
    cases hresolve : resolveOrCreateUserForIdentity tables store identity ambient.now with
    | none => exact hfails _
    | some result =>
      obtain ⟨linked, answer⟩ := result
      have hresolution := resolution_of hresolve
      cases answer with
      | error users => exact hleaves identity linked _ _ hbuild hresolution
      | ok user =>
        dsimp only
        split_ifs
        · exact hissues identity linked user hbuild hresolution
        · rcases hdisabled linked with hP | ⟨e, heq⟩
          · exact hP
          · rw [heq]
            exact hleaves identity linked _ _ hbuild hresolution

/-! ## What a change of the users does -/

variable {changed : Store} {actor : User} {userId : Nat}

theorem changed_of_changePassword {old : Option String} {new : String}
    (h : store.changePassword hasher old new actor ambient = .ok changed) :
    changed = store.setPassword hasher actor.id new "password_changed"
      (fun _ => false) ambient := by
  rw [Store.changePassword] at h
  split_ifs at h
  · split at h
    · contradiction
    · split at h
      · contradiction
      · contradiction
      · exact (Except.ok.inj h).symm
  · exact (Except.ok.inj h).symm

theorem added_of_createUser {username password : String} {email : Option String} {role : UserRole}
    {permissions : List Permission} {requireChange : Bool}
    (h : store.createUser hasher username password email role permissions requireChange actor
      ambient = .ok changed) :
    (actor.role ≠ .admin → role ≠ .admin) ∧ store.addUser (fun id =>
      { id, username, passwordHash := hasher.hash ambient.salt password, email, role, permissions,
        requirePasswordChange := requireChange }) = some changed := by
  rw [Store.createUser] at h
  split_ifs at h with hrole
  refine ⟨fun hactor hadmin => hrole ⟨hactor, hadmin⟩, ?_⟩
  split at h
  · split at h
    · contradiction
    case h_2 created hadd =>
      cases h
      exact hadd
  · contradiction
  · contradiction

theorem removed_of_deleteUser (h : store.deleteUser userId actor = .ok changed) :
    ∃ user, store.findUser userId = some user ∧
      (userId ≠ actor.id ∧ (actor.role ≠ .admin → user.role ≠ .admin)) ∧
      changed = store.removeUser userId := by
  rw [Store.deleteUser] at h
  split_ifs at h with hself
  split at h
  · contradiction
  case h_2 user hfind =>
    split_ifs at h with hrole
    exact ⟨user, hfind, ⟨hself, fun hactor hadmin => hrole ⟨hactor, hadmin⟩⟩,
      (Except.ok.inj h).symm⟩

theorem updated_of_updateUser {email : Option String} {role : UserRole}
    {permissions : List Permission} {password : Option String}
    (h : store.updateUser hasher userId email role permissions password actor ambient =
      .ok changed) :
    ∃ user, store.findUser userId = some user ∧
      (¬store.EmailInUse email userId ∧
        (actor.role ≠ .admin → user.role ≠ .admin ∧ role ≠ .admin)) ∧
      changed = (password.filter (· ≠ "")).elim
        (store.editUser userId ({ · with email, role, permissions })) fun password =>
          (store.editUser userId ({ · with email, role, permissions })).setPassword hasher userId
            password "password_reset_by_admin" id ambient := by
  rw [Store.updateUser] at h
  split at h
  · contradiction
  case h_2 user hfind =>
    split_ifs at h with hemail huser hrole
    refine ⟨user, hfind, ⟨hemail, fun hactor => ⟨?_, ?_⟩⟩, (Except.ok.inj h).symm⟩
    · exact fun hadmin => huser ⟨hactor, hadmin⟩
    · exact fun hadmin => hrole ⟨hactor, hadmin⟩

theorem linked_of_linkMediaIdentity {identityId now : Nat}
    (h : store.linkMediaIdentity identityId userId now = .ok changed) :
    ∃ row target, store.identities.find? (·.id = identityId) = some row ∧
      store.findUser userId = some target ∧
      changed = store.editIdentity identityId fun row =>
        { row with userId := some target.id, linkedAt := some (row.linkedAt.getD now) } := by
  rw [Store.linkMediaIdentity] at h
  split at h
  · contradiction
  · contradiction
  case h_3 row target hrow htarget =>
    exact ⟨row, target, hrow, htarget, (Except.ok.inj h).symm⟩

theorem unlinked_of_unlinkMediaIdentity {identityId : Nat}
    (h : store.unlinkMediaIdentity identityId = .ok changed) :
    changed = store.editIdentity identityId ({ · with userId := none }) := by
  rw [Store.unlinkMediaIdentity] at h
  split at h
  · contradiction
  · exact (Except.ok.inj h).symm

theorem created_of_completeSetup {password : String}
    (h : store.completeSetup hasher password ambient = .ok changed) :
    store.needsSetup = true ∧ ∃ created,
      store.addUser (Store.initialAdmin hasher password ambient) = some created ∧
      changed = { created with needsSetup := false } := by
  rw [Store.completeSetup] at h
  split_ifs at h with hneeds
  split at h
  · contradiction
  case h_2 created hadd =>
    refine ⟨by simpa using hneeds, created, hadd, (Except.ok.inj h).symm⟩

end

end MediaMasterr.Accounts
