import MediaMasterr.Accounts.Users

/-! # Accounts of the media servers

The local account of a person who signs in at a media server (`services/media_auth.py`): the
one linked to the person's identity, else the only one of the same email or of the same name,
else a new one. The notices to the administrators are left out. -/

namespace MediaMasterr.Accounts

open MediaMasterr.Database MediaMasterr.Foundations MediaMasterr.Foundations.PythonText

/-- The interpreter's Unicode tables. -/
structure TextTables extends CaseTables where
  isAlnum : Char → Bool

variable (tables : TextTables)

def normalizeUsername (value : String) : String := tables.lower (strip value)

def normalizeEmail (value : Option String) : Option String :=
  (value.map fun email => tables.lower (strip email)).filter (· ≠ "")

/-- What the media server answers about a person. -/
structure MediaProfile where
  sourceService : Service
  serviceConfigId : Nat
  sourceUserId : String
  username : String
  email : Option String := none
  displayName : Option String := none
  localRole : UserRole := .user
  deriving DecidableEq, Repr

structure DiscoveredMediaUser where
  sourceService : Service
  sourceServiceConfigId : Nat
  sourceUserId : String
  username : String
  usernameNormalized : String
  email : Option String
  localRole : UserRole
  deriving DecidableEq, Repr

/-- `a or b`. -/
def orText (a b : String) : String := if a = "" then b else a

/-- `_build_discovered_user`. -/
def buildDiscoveredUser (profile : MediaProfile) : Option DiscoveredMediaUser :=
  let named := orText (orText profile.username (profile.displayName.getD ""))
    (profile.email.getD "")
  if profile.sourceUserId = "" ∨ normalizeUsername tables named = "" then none
  else some
    { sourceService := profile.sourceService
      sourceServiceConfigId := profile.serviceConfigId
      sourceUserId := profile.sourceUserId
      username := orText (orText profile.username (profile.displayName.getD ""))
        profile.sourceUserId
      usernameNormalized := normalizeUsername tables named
      email := normalizeEmail tables profile.email
      localRole := profile.localRole }

/-! ## Names of new accounts -/

/-- `value.strip("_-")`. -/
def stripMarks (value : List Char) : List Char :=
  rstripWhere (fun c => c = '_' ∨ c = '-') (value.dropWhile fun c => c = '_' ∨ c = '-')

/-- `_sanitize_username`. -/
def sanitizeUsername (value : String) : String :=
  let cleaned := stripMarks
    (value.toList.map fun c => if tables.isAlnum c ∨ c = '_' ∨ c = '-' then c else '_')
  let named := if cleaned = [] then "media_user".toList else cleaned
  String.ofList ((if named.length < 5 then named ++ "_user".toList else named).take 32)

/-- `text[:32 - n]`, which counts from the end when `n` is more than 32. -/
def takeRoom (n : Nat) (text : List Char) : List Char :=
  if n ≤ 32 then text.take (32 - n) else text.take (text.length - (n - 32))

def numberedUsername (base : String) (suffix : Nat) : String :=
  let suffixText := '_' :: suffix.repr.toList
  String.ofList (takeRoom suffixText.length base.toList ++ suffixText)

/-- The first candidate from a number on that is not in use, among as many as `fuel`. -/
def firstUnused (usedUsernames : List String) (candidate : Nat → String) :
    (fuel suffix : Nat) → Option String
  | 0, _ => none
  | fuel + 1, suffix =>
    if normalizeUsername tables (candidate suffix) ∈ usedUsernames then
      firstUnused usedUsernames candidate fuel (suffix + 1)
    else some (candidate suffix)

/-- `_safe_unique_username`. The loop has a candidate more than there are names. -/
def safeUniqueUsername (base : String) (usedUsernames : List String) : Option String :=
  let candidateBase := sanitizeUsername tables base
  if normalizeUsername tables candidateBase ∈ usedUsernames then
    firstUnused tables usedUsernames (numberedUsername candidateBase)
      (usedUsernames.length + 1) 1
  else some candidateBase

/-! ## The account of an identity -/

def MediaUserIdentity.IsOf (row : MediaUserIdentity) (item : DiscoveredMediaUser) : Prop :=
  row.sourceService = item.sourceService ∧
    row.sourceServiceConfigId = item.sourceServiceConfigId ∧ row.sourceUserId = item.sourceUserId

instance MediaUserIdentity.decidableIsOf (row : MediaUserIdentity) (item : DiscoveredMediaUser) :
    Decidable (row.IsOf item) := inferInstanceAs (Decidable (_ ∧ _ ∧ _))

def Store.findIdentity (store : Store) (item : DiscoveredMediaUser) : Option MediaUserIdentity :=
  store.identities.find? (·.IsOf item)

def MediaUserIdentity.refresh (row : MediaUserIdentity) (item : DiscoveredMediaUser)
    (userId : Option Nat) (preserveUserId : Bool) (now : Nat) : MediaUserIdentity :=
  { row with
    userId := if preserveUserId then row.userId else userId
    username := item.username
    usernameNormalized := item.usernameNormalized
    email := item.email
    lastSeenAt := now
    linkedAt := if userId.isSome ∧ row.linkedAt = none then some now else row.linkedAt }

/-- `upsert_media_identity`. -/
def upsertMediaIdentity (store : Store) (item : DiscoveredMediaUser) (userId : Option Nat)
    (preserveUserId : Bool) (now : Nat) : Store :=
  match store.findIdentity item with
  | none =>
    store.addIdentity fun id =>
      { id := id
        sourceService := item.sourceService
        sourceServiceConfigId := item.sourceServiceConfigId
        sourceUserId := item.sourceUserId
        username := item.username
        usernameNormalized := item.usernameNormalized
        email := item.email
        userId := userId
        linkedAt := if userId.isSome then some now else none
        lastSeenAt := now }
  | some row =>
    store.editIdentity row.id (·.refresh item userId preserveUserId now)

/-- The users of an email, whatever its case. -/
def emailCandidates (store : Store) (identity : DiscoveredMediaUser) : List User :=
  match identity.email with
  | none => []
  | some email => store.users.filter fun user =>
      user.email.map asciiLower = some (tables.lower email)

/-- The users of a name, whatever its case. -/
def usernameCandidates (store : Store) (identity : DiscoveredMediaUser) : List User :=
  store.users.filter fun user => asciiLower user.username = identity.usernameNormalized

/-- The user that the identity is linked to. -/
def linkedUser (store : Store) (identity : DiscoveredMediaUser) : Option User :=
  (store.findIdentity identity).bind fun row => row.userId.bind store.findUser

def newUserOf (identity : DiscoveredMediaUser) (username : String) (id : Nat) : User where
  id := id
  username := username
  passwordHash := ""
  email := identity.email
  role := identity.localRole
  permissions := [.request]

def usedUsernames (store : Store) : List String :=
  store.users.map fun user => normalizeUsername tables user.username

def desiredUsername (identity : DiscoveredMediaUser) : String :=
  identity.email.elim identity.username (beforeFirst '@')

/-- `MediaAuthConflictError`: the users that the identity matches. -/
structure MediaAuthConflict where
  conflictingUserIds : List Nat
  deriving DecidableEq, Repr

/-- `resolve_or_create_user_for_identity`. There is no answer where the search for a name
does not end or the new row is refused. -/
def resolveOrCreateUserForIdentity (store : Store) (identity : DiscoveredMediaUser) (now : Nat) :
    Option (Store × Except MediaAuthConflict User) :=
  let link (store : Store) (user : User) : Store × Except MediaAuthConflict User :=
    (upsertMediaIdentity store identity (some user.id) false now, .ok user)
  let conflict (users : List User) : Store × Except MediaAuthConflict User :=
    (upsertMediaIdentity store identity none true now,
      .error ⟨(users.map User.id).mergeSort⟩)
  match linkedUser store identity with
  | some user => some (link store user)
  | none =>
    match emailCandidates tables store identity with
    | [user] => some (link store user)
    | user :: other :: users => some (conflict (user :: other :: users))
    | [] =>
      match usernameCandidates store identity with
      | [user] => some (link store user)
      | user :: other :: users => some (conflict (user :: other :: users))
      | [] =>
        (safeUniqueUsername tables (desiredUsername identity) (usedUsernames tables store)).bind
          fun username => (store.addUser (newUserOf identity username)).map
            (link · (newUserOf identity username store.nextUserId))

section

variable {tables} {store store' : Store} {identity : DiscoveredMediaUser} {now : Nat}
    {userId : Option Nat} {preserve : Bool} {answer : Except MediaAuthConflict User}

@[simp] theorem users_upsertMediaIdentity :
    (upsertMediaIdentity store identity userId preserve now).users = store.users := by
  rw [upsertMediaIdentity]
  split <;> rfl

@[simp] theorem sessions_upsertMediaIdentity :
    (upsertMediaIdentity store identity userId preserve now).sessions = store.sessions := by
  rw [upsertMediaIdentity]
  split <;> rfl

@[simp] theorem needsSetup_upsertMediaIdentity :
    (upsertMediaIdentity store identity userId preserve now).needsSetup = store.needsSetup := by
  rw [upsertMediaIdentity]
  split <;> rfl

variable (tables store identity now) in
/-- What a sign-in finds, makes or refuses. -/
inductive Resolution : Store → Except MediaAuthConflict User → Prop where
  | linked (user : User) (hlinked : linkedUser store identity = some user) :
    Resolution (upsertMediaIdentity store identity (some user.id) false now) (.ok user)
  | byEmail (user : User) (hlinked : linkedUser store identity = none)
      (hemail : emailCandidates tables store identity = [user]) :
    Resolution (upsertMediaIdentity store identity (some user.id) false now) (.ok user)
  | byUsername (user : User) (hlinked : linkedUser store identity = none)
      (hemail : emailCandidates tables store identity = [])
      (husername : usernameCandidates store identity = [user]) :
    Resolution (upsertMediaIdentity store identity (some user.id) false now) (.ok user)
  | conflict (users : List User) (hlinked : linkedUser store identity = none)
      (hmany : 2 ≤ users.length)
      (husers : emailCandidates tables store identity = users ∨
        emailCandidates tables store identity = [] ∧ usernameCandidates store identity = users) :
    Resolution (upsertMediaIdentity store identity none true now)
      (.error ⟨(users.map User.id).mergeSort⟩)
  | created (username : String) (added : Store) (hlinked : linkedUser store identity = none)
      (hemail : emailCandidates tables store identity = [])
      (husername : usernameCandidates store identity = [])
      (hname : safeUniqueUsername tables (desiredUsername identity) (usedUsernames tables store) =
        some username)
      (hadd : store.addUser (newUserOf identity username) = some added) :
    Resolution (upsertMediaIdentity added identity (some store.nextUserId) false now)
      (.ok (newUserOf identity username store.nextUserId))

theorem resolution_of (h : resolveOrCreateUserForIdentity tables store identity now =
    some (store', answer)) : Resolution tables store identity now store' answer := by
  rw [resolveOrCreateUserForIdentity] at h
  cases hlinked : linkedUser store identity with
  | some user =>
    rw [hlinked] at h
    cases h
    exact .linked user hlinked
  | none =>
    rw [hlinked] at h
    cases hemail : emailCandidates tables store identity with
    | cons user users =>
      rw [hemail] at h
      cases users with
      | nil =>
        cases h
        exact .byEmail user hlinked hemail
      | cons other users =>
        cases h
        exact .conflict _ hlinked (by simp) (.inl hemail)
    | nil =>
      rw [hemail] at h
      cases husername : usernameCandidates store identity with
      | cons user users =>
        rw [husername] at h
        cases users with
        | nil =>
          cases h
          exact .byUsername user hlinked hemail husername
        | cons other users =>
          cases h
          exact .conflict _ hlinked (by simp) (.inr ⟨hemail, husername⟩)
      | nil =>
        rw [husername] at h
        obtain ⟨username, hname, h⟩ := Option.bind_eq_some_iff.mp h
        obtain ⟨added, hadd, h⟩ := Option.map_eq_some_iff.mp h
        cases h
        exact .created username added hlinked hemail husername hname hadd

/-- The user of a sign-in is one that was there, or the new one. -/
theorem Resolution.user_cases {user : User}
    (h : Resolution tables store identity now store' (.ok user)) :
    user ∈ store.users ∧ store'.users = store.users ∨
      ∃ username added, user = newUserOf identity username store.nextUserId ∧
        store.addUser (newUserOf identity username) = some added ∧ store'.users = added.users := by
  cases h with
  | linked _ hlinked =>
    obtain ⟨row, -, hrow⟩ := Option.bind_eq_some_iff.mp hlinked
    obtain ⟨id, -, hfind⟩ := Option.bind_eq_some_iff.mp hrow
    exact .inl ⟨List.mem_of_find?_eq_some hfind, users_upsertMediaIdentity⟩
  | byEmail _ _ hemail =>
    rw [emailCandidates] at hemail
    split at hemail
    · contradiction
    · have hmem := hemail.symm ▸ List.mem_singleton_self user
      exact .inl ⟨List.mem_of_mem_filter hmem, users_upsertMediaIdentity⟩
  | byUsername _ _ _ husername =>
    have hmem := husername.symm ▸ List.mem_singleton_self user
    exact .inl ⟨List.mem_of_mem_filter hmem, users_upsertMediaIdentity⟩
  | created username added _ _ _ _ hadd =>
    exact .inr ⟨username, added, rfl, hadd, users_upsertMediaIdentity⟩

end

end MediaMasterr.Accounts
