import MediaMasterr.Accounts.Requests
import MediaMasterr.Foundations.Buckets
import MediaMasterr.Foundations.Grants

/-! # Sign-ins and what ends them

A cookie is accepted as long as the sign-in that set it stands: nothing since has signed the
session out, revoked it, changed or reset the password of its user or deleted the user, and
its day is not over. The tables agree with this record of grants after every run. -/

namespace MediaMasterr.Accounts

open MediaMasterr.Database MediaMasterr.Foundations MediaMasterr.Foundations.PythonText
open MediaMasterr.Foundations.Grants (Entry extend standing record)

/-- A sign-in: whose it is, its session, and when its day is over. -/
structure Grant where
  account : Nat
  sessionId : String
  expiresAt : Nat
  deriving DecidableEq, Repr

def UserSession.grant (session : UserSession) : Grant :=
  ⟨session.userId, session.sessionId, session.expiresAt⟩

section

variable {Token : Type} (jwt : Jwt Token) (hasher : PasswordHasher) (tables : TextTables)

/-! ## The record of a run -/

/-- The user and the session of an accepted cookie. -/
def actorOf (store : Store) (cookie : Option Token) (now : Nat) : Option (Nat × String) :=
  (getCurrentUser jwt store cookie now).toOption.map
    fun (user, sessionId, _) => (user.id, sessionId)

/-- What a request that succeeds ends. -/
def endedBy (store : Store) (cookie : Option Token) (now : Nat) (grant : Grant) : Request → Bool
  | .logout => Store.logoutSessionId jwt cookie now = some grant.sessionId
  | .changePassword .. => (actorOf jwt store cookie now).any (·.1 = grant.account)
  | .updateUser userId _ _ _ password => userId = grant.account ∧ password.any (· ≠ "")
  | .deleteUser userId => userId = grant.account
  | .revokeSession sessionId => sessionId = grant.sessionId
  | .revokeOtherSessions => (actorOf jwt store cookie now).any fun actor =>
      actor.1 = grant.account ∧ actor.2 ≠ grant.sessionId
  | _ => false

/-- The sign-in that the cookie of a response names. -/
def grantOf (token : Token) (now : Nat) : Option Grant :=
  (jwt.verify token).bind fun payload => (getSessionIdFromPayload payload).map fun sessionId =>
    ⟨payload.sub, sessionId, now + sessionTtl⟩

/-- The administrator whose password the start of the program resets. -/
def resetAtStartup (store : Store) (adminPassword : Option String) : Option Nat :=
  (store.users.find? (·.role = .admin)).bind fun admin =>
    (adminPassword.filter (· ≠ "")).bind fun password =>
      if hasher.verify admin.passwordHash password = some false then some admin.id else none

def entriesOf (store : Store) (ambient : Ambient) : Event Token → List (Entry Grant)
  | .request cookie request =>
    match (respond jwt hasher tables store cookie request ambient).answer with
    | .error _ => []
    | .ok none => [.ended (endedBy jwt store cookie ambient.now · request)]
    | .ok (some token) => (grantOf jwt token ambient.now).toList.map .granted
  | .startup adminPassword =>
    (resetAtStartup hasher store adminPassword).toList.map fun id => .ended (·.account = id)
  | .weeklyHouseKeeping => []

/-- The sign-ins of a run, and what ended them. -/
def grantRecord (s : System Token) (events : List (Ambient × Event Token)) : List (Entry Grant) :=
  record (System.next jwt hasher tables)
    (fun s occurrence => entriesOf jwt hasher tables s.store occurrence.1 occurrence.2) s events

/-! ## What the program relies on -/

/-- Time does not go back, ids are texts without blanks that are never drawn again, and only
tokens that a response has set have a right signature. -/
structure Admissible (s : System Token) (occurrence : Ambient × Event Token) : Prop where
  clock : s.clock ≤ occurrence.1.now
  fresh : occurrence.1.drawnId ∉ s.drawnIds
  stripped : strip occurrence.1.drawnId = occurrence.1.drawnId
  nonempty : occurrence.1.drawnId ≠ ""
  genuine : ∀ token request, occurrence.2 = .request (some token) request →
    (jwt.verify token).isSome → token ∈ s.cookies

/-! ## The tables and the standing grants -/

/-- What the tables know of the session of a token. -/
structure Names (store : Store) (S : Set Grant) (payload : Payload) (session : UserSession) :
    Prop where
  user : payload.sub = session.userId
  version : ∀ user ∈ store.users, user.id = session.userId → payload.tv ≤ user.tokenVersion
  stands : ∀ user ∈ store.users, user.id = session.userId →
    (session.revokedAt = none ∧ payload.tv = user.tokenVersion ↔ session.grant ∈ S)

structure Agrees (store : Store) (cookies : List Token) (drawnIds : List String) (clock : Nat)
    (S : Set Grant) : Prop where
  userIds : (store.users.map User.id).Nodup
  sessionIds : (store.sessions.map UserSession.sessionId).Nodup
  owned : ∀ session ∈ store.sessions, ∃ user ∈ store.users, user.id = session.userId
  drawn : ∀ session ∈ store.sessions, session.sessionId ∈ drawnIds
  recorded : ∀ grant ∈ S, grant.sessionId ∈ drawnIds
  held : ∀ grant ∈ S, clock < grant.expiresAt →
    ∃ session ∈ store.sessions, session.grant = grant ∧ session.revokedAt = none
  named : ∀ token ∈ cookies, ∃ payload sessionId, jwt.verify token = some payload ∧
    payload.sid = some sessionId ∧ sessionId ∈ drawnIds ∧ strip sessionId = sessionId ∧
    sessionId ≠ "" ∧ ∀ session ∈ store.sessions, session.sessionId = sessionId →
      Names store S payload session

end

variable {Token : Type} {jwt : Jwt Token} {hasher : PasswordHasher} {tables : TextTables}
    {store store' : Store} {cookies : List Token} {drawnIds : List String} {clock now : Nat}
    {S : Set Grant}

/-! ## Rows of a key -/

theorem findUser_eq_some_iff (hnodup : (store.users.map User.id).Nodup) {id : Nat} {user : User} :
    store.findUser id = some user ↔ user ∈ store.users ∧ user.id = id := by
  constructor
  · intro hfind
    exact ⟨List.mem_of_find?_eq_some hfind, by simpa using List.find?_some hfind⟩
  · rintro ⟨hmem, rfl⟩
    exact find?_eq_some_of_key hnodup hmem (decide_eq_true rfl) fun _ => of_decide_eq_true

theorem mem_editUser {id : Nat} {change : User → User} {user : User} :
    user ∈ (store.editUser id change).users ↔
      ∃ old ∈ store.users, user = if old.id = id then change old else old := by
  simp [Store.editUser, Write.apply, eq_comm]

/-! ## Changes of the tables -/

/-- The users change, and the owners of sessions keep their token versions. -/
theorem Agrees.of_users (h : Agrees jwt store cookies drawnIds clock S)
    (hsessions : store'.sessions = store.sessions) (hids : (store'.users.map User.id).Nodup)
    (hkept : ∀ user ∈ store.users, ∃ user' ∈ store'.users, user'.id = user.id)
    (hversion : ∀ user' ∈ store'.users, ∀ session ∈ store.sessions, user'.id = session.userId →
      ∃ user ∈ store.users, user.id = user'.id ∧ user.tokenVersion = user'.tokenVersion) :
    Agrees jwt store' cookies drawnIds clock S where
  userIds := hids
  sessionIds := hsessions ▸ h.sessionIds
  owned := by
    intro session hsession
    rw [hsessions] at hsession
    obtain ⟨user, huser, hid⟩ := h.owned session hsession
    obtain ⟨user', huser', hid'⟩ := hkept user huser
    exact ⟨user', huser', hid'.trans hid⟩
  drawn := hsessions ▸ h.drawn
  recorded := h.recorded
  held := hsessions ▸ h.held
  named := by
    intro token htoken
    obtain ⟨payload, sessionId, hverify, hsid, hdrawn, hstrip, hne, hnames⟩ := h.named token htoken
    refine ⟨payload, sessionId, hverify, hsid, hdrawn, hstrip, hne, fun session hsession hid => ?_⟩
    rw [hsessions] at hsession
    have hname := hnames session hsession hid
    refine ⟨hname.user, fun user' huser' howner => ?_, fun user' huser' howner => ?_⟩
    all_goals
      obtain ⟨user, huser, hsame, htv⟩ := hversion user' huser' session hsession howner
      rw [← htv]
    · exact hname.version user huser (hsame.trans howner)
    · exact hname.stands user huser (hsame.trans howner)

theorem Agrees.editUser (h : Agrees jwt store cookies drawnIds clock S) {id : Nat}
    {change : User → User} (hid : ∀ user, (change user).id = user.id)
    (hversion : ∀ user, (change user).tokenVersion = user.tokenVersion) :
    Agrees jwt (store.editUser id change) cookies drawnIds clock S := by
  refine h.of_users rfl ?_ ?_ ?_
  · rw [Store.editUser, Write.apply, Write.map_update_id hid]
    exact h.userIds
  · intro user huser
    refine ⟨_, mem_editUser.mpr ⟨user, huser, rfl⟩, ?_⟩
    split_ifs
    · exact hid user
    · rfl
  · intro user' huser' session _ _
    obtain ⟨user, huser, rfl⟩ := mem_editUser.mp huser'
    refine ⟨user, huser, ?_⟩
    split_ifs
    · exact ⟨(hid user).symm, (hversion user).symm⟩
    · exact ⟨rfl, rfl⟩

/-- Only the users and the sessions count. -/
theorem Agrees.of_eq (h : Agrees jwt store cookies drawnIds clock S)
    (husers : store'.users = store.users) (hsessions : store'.sessions = store.sessions) :
    Agrees jwt store' cookies drawnIds clock S := by
  refine h.of_users hsessions ?_ ?_ ?_
  · rw [husers]
    exact h.userIds
  · intro user huser
    exact ⟨user, husers ▸ huser, rfl⟩
  · intro user huser session _ _
    exact ⟨user, husers ▸ huser, rfl, rfl⟩

theorem Agrees.addUser (h : Agrees jwt store cookies drawnIds clock S) {make : Nat → User}
    (hmake : ∀ id, (make id).id = id) (hadd : store.addUser make = some store') :
    Agrees jwt store' cookies drawnIds clock S := by
  rw [Store.addUser] at hadd
  split_ifs at hadd with hclash
  obtain rfl := Option.some.inj hadd
  refine h.of_users rfl ?_ ?_ ?_
  · have hkeyed : ∀ write ∈ [Write.insert make], write.Keyed User.id := by
      simpa [Write.Keyed] using hmake
    exact Write.nodup_applyAll hkeyed h.userIds
  · intro user huser
    exact ⟨user, List.mem_append_left _ huser, rfl⟩
  · intro user' huser' session hsession howner
    rcases List.mem_append.mp huser' with huser' | hnew
    · exact ⟨user', huser', rfl, rfl⟩
    · obtain rfl := List.mem_singleton.mp hnew
      obtain ⟨user, huser, hid⟩ := h.owned session hsession
      have hlt : user.id < store.nextUserId := Write.lt_nextId huser
      rw [hid, ← howner, hmake] at hlt
      exact absurd hlt (lt_irrefl _)

/-- The sessions that are covered are revoked, and the grants that stand for them end. -/
theorem Agrees.mapSessions (h : Agrees jwt store cookies drawnIds clock S) (covers : Grant → Bool)
    (f : UserSession → UserSession) (hgrant : ∀ session, (f session).grant = session.grant)
    (hrevoked : ∀ session ∈ store.sessions, (f session).revokedAt = none ↔
      session.revokedAt = none ∧ covers session.grant = false) :
    Agrees jwt { store with sessions := store.sessions.map f } cookies drawnIds clock
      {grant ∈ S | covers grant = false} := by
  have huserId (session : UserSession) : (f session).userId = session.userId :=
    congrArg Grant.account (hgrant session)
  have hsessionId (session : UserSession) : (f session).sessionId = session.sessionId :=
    congrArg Grant.sessionId (hgrant session)
  constructor
  · exact h.userIds
  · have hids : (store.sessions.map f).map UserSession.sessionId =
        store.sessions.map UserSession.sessionId := by
      rw [List.map_map]
      exact List.map_congr_left fun session _ => hsessionId session
    exact hids ▸ h.sessionIds
  · intro session hmem
    obtain ⟨old, hold, rfl⟩ := List.mem_map.mp hmem
    rw [huserId]
    exact h.owned old hold
  · intro session hmem
    obtain ⟨old, hold, rfl⟩ := List.mem_map.mp hmem
    rw [hsessionId]
    exact h.drawn old hold
  · exact fun grant hmem => h.recorded grant hmem.1
  · rintro grant ⟨hmem, hspared⟩ hlater
    obtain ⟨old, hold, rfl, hnone⟩ := h.held grant hmem hlater
    exact ⟨f old, List.mem_map_of_mem hold, hgrant old, (hrevoked old hold).mpr ⟨hnone, hspared⟩⟩
  · intro token htoken
    obtain ⟨payload, sessionId, hverify, hsid, hdrawn, hstrip, hne, hnames⟩ := h.named token htoken
    refine ⟨payload, sessionId, hverify, hsid, hdrawn, hstrip, hne, fun session hmem hid => ?_⟩
    obtain ⟨old, hold, rfl⟩ := List.mem_map.mp hmem
    have hname := hnames old hold ((hsessionId old).symm.trans hid)
    constructor
    · rw [huserId]
      exact hname.user
    · rw [huserId]
      exact hname.version
    · rw [huserId, hgrant]
      intro user huser howner
      rw [hrevoked old hold, and_right_comm, hname.stands user huser howner]
      rfl

/-- The token version of a user goes up, and every grant of the user ends. -/
theorem Agrees.bump (h : Agrees jwt store cookies drawnIds clock S) (id : Nat)
    (change : User → User) (hid : ∀ user, (change user).id = user.id)
    (hversion : ∀ user, (change user).tokenVersion = user.tokenVersion + 1) :
    Agrees jwt (store.editUser id change) cookies drawnIds clock
      {grant ∈ S | grant.account ≠ id} := by
  constructor
  · rw [Store.editUser, Write.apply, Write.map_update_id hid]
    exact h.userIds
  · exact h.sessionIds
  · intro session hsession
    obtain ⟨user, huser, howner⟩ := h.owned session hsession
    refine ⟨_, mem_editUser.mpr ⟨user, huser, rfl⟩, ?_⟩
    split_ifs
    · rw [hid, howner]
    · exact howner
  · exact h.drawn
  · exact fun grant hmem => h.recorded grant hmem.1
  · rintro grant ⟨hmem, -⟩ hclock
    exact h.held grant hmem hclock
  · intro token htoken
    obtain ⟨payload, sessionId, hverify, hsid, hdrawn, hstrip, hne, hnames⟩ := h.named token htoken
    refine ⟨payload, sessionId, hverify, hsid, hdrawn, hstrip, hne,
      fun session hsession hsame => ?_⟩
    have hname := hnames session hsession hsame
    refine ⟨hname.user, fun user' huser' howner => ?_, fun user' huser' howner => ?_⟩
    all_goals obtain ⟨user, huser, rfl⟩ := mem_editUser.mp huser'
    · split_ifs at howner ⊢ with hedit
      · rw [hid] at howner
        have hle := hname.version user huser howner
        rw [hversion]
        omega
      · exact hname.version user huser howner
    · split_ifs at howner ⊢ with hedit
      · rw [hid] at howner
        have hle := hname.version user huser howner
        rw [hversion]
        refine iff_of_false (fun hboth => by omega) fun hmem => hmem.2 ?_
        exact howner.symm.trans hedit
      · rw [hname.stands user huser howner]
        exact (and_iff_left fun hsame => hedit (howner.trans hsame)).symm

/-- A user goes with the sessions. -/
theorem Agrees.removeUser (h : Agrees jwt store cookies drawnIds clock S) (id : Nat) :
    Agrees jwt (store.removeUser id) cookies drawnIds clock {grant ∈ S | grant.account ≠ id} := by
  have hsession {session : UserSession} (hmem : session ∈ (store.removeUser id).sessions) :
      session ∈ store.sessions ∧ session.userId ≠ id := by
    simpa [Store.removeUser] using hmem
  constructor
  · exact h.userIds.sublist (List.filter_sublist.map _)
  · exact h.sessionIds.sublist (List.filter_sublist.map _)
  · intro session hmem
    obtain ⟨hmem, hother⟩ := hsession hmem
    obtain ⟨user, huser, howner⟩ := h.owned session hmem
    have hkept : user.id ≠ id := howner ▸ hother
    exact ⟨user, List.mem_filter.mpr ⟨huser, by simpa using hkept⟩, howner⟩
  · exact fun session hmem => h.drawn session (hsession hmem).1
  · exact fun grant hmem => h.recorded grant hmem.1
  · rintro grant ⟨hmem, hother⟩ hclock
    obtain ⟨session, hrow, rfl, hnone⟩ := h.held grant hmem hclock
    refine ⟨session, ?_, rfl, hnone⟩
    exact List.mem_filter.mpr ⟨hrow, by simpa [UserSession.grant] using hother⟩
  · intro token htoken
    obtain ⟨payload, sessionId, hverify, hsid, hdrawn, hstrip, hne, hnames⟩ := h.named token htoken
    refine ⟨payload, sessionId, hverify, hsid, hdrawn, hstrip, hne, fun session hmem hsame => ?_⟩
    obtain ⟨hmem, hother⟩ := hsession hmem
    have hname := hnames session hmem hsame
    refine ⟨hname.user, fun user huser howner => ?_, fun user huser howner => ?_⟩
    · exact hname.version user (List.mem_of_mem_filter huser) howner
    · rw [hname.stands user (List.mem_of_mem_filter huser) howner]
      exact (and_iff_left hother).symm

theorem UserSession.grant_touch (session : UserSession) :
    (session.touch now).grant = session.grant := by
  rw [UserSession.touch]
  split_ifs <;> rfl

theorem UserSession.revokedAt_touch (session : UserSession) :
    (session.touch now).revokedAt = session.revokedAt := by
  rw [UserSession.touch]
  split_ifs <;> rfl

theorem Agrees.touchSession (h : Agrees jwt store cookies drawnIds clock S) (id : String) :
    Agrees jwt (store.touchSession id now) cookies drawnIds clock S := by
  have htouched := h.mapSessions (fun _ => false)
    (fun session => if session.sessionId = id then session.touch now else session) ?_ ?_
  · have hall : {grant ∈ S | (fun _ : Grant => false) grant = false} = S := by
      ext grant
      simp
    exact hall ▸ htouched
  · intro session
    split_ifs
    · exact session.grant_touch
    · rfl
  · intro session _
    split_ifs
    · simp [session.revokedAt_touch]
    · simp

/-- The sessions of a user end, all but one. -/
theorem Agrees.revokeUserSessions (h : Agrees jwt store cookies drawnIds clock S) (userId : Nat)
    (reason : String) (excluded : Option String) (now : Nat) (covers : Grant → Bool)
    (hcovers : ∀ grant, covers grant = decide
      (grant.account = userId ∧ excluded ≠ some grant.sessionId)) :
    Agrees jwt (store.revokeUserSessions userId reason excluded now) cookies drawnIds clock
      {grant ∈ S | covers grant = false} := by
  refine h.mapSessions covers _ ?_ ?_
  · intro session
    split_ifs <;> rfl
  · intro session _
    rw [hcovers]
    split_ifs with hcovered
    · simp [UserSession.revoke, UserSession.grant, hcovered.1, hcovered.2.2]
    · rw [decide_eq_false_iff_not]
      simp only [UserSession.grant]
      tauto

/-- The session of an id ends. -/
theorem Agrees.revokeSessionRow (h : Agrees jwt store cookies drawnIds clock S) (sessionId : String)
    (reason : String) (now : Nat) (covers : Grant → Bool)
    (hcovers : ∀ grant, covers grant = decide (grant.sessionId = sessionId)) :
    Agrees jwt (store.revokeSessionRow sessionId reason now) cookies drawnIds clock
      {grant ∈ S | covers grant = false} := by
  refine h.mapSessions covers _ ?_ ?_
  · intro session
    split_ifs <;> rfl
  · intro session _
    rw [hcovers]
    split_ifs with hcovered
    · simp [UserSession.revoke, UserSession.grant, hcovered.1]
    · rw [decide_eq_false_iff_not]
      simp only [UserSession.grant]
      tauto

/-- Sessions that have ended or are over are deleted. -/
theorem Agrees.trimUserSessions (h : Agrees jwt store cookies drawnIds clock S)
    (hclock : clock = now) : Agrees jwt (store.trimUserSessions now) cookies drawnIds clock S := by
  have hsub {session : UserSession} (hmem : session ∈ (store.trimUserSessions now).sessions) :
      session ∈ store.sessions := List.mem_of_mem_filter hmem
  constructor
  · exact h.userIds
  · exact h.sessionIds.sublist (List.filter_sublist.map _)
  · exact fun session hmem => h.owned session (hsub hmem)
  · exact fun session hmem => h.drawn session (hsub hmem)
  · exact h.recorded
  · intro grant hgrant hlater
    obtain ⟨session, hmem, rfl, hnone⟩ := h.held grant hgrant hlater
    refine ⟨session, List.mem_filter.mpr ⟨hmem, ?_⟩, rfl, hnone⟩
    have hkept : now < session.expiresAt := hclock ▸ hlater
    simp only [hnone, Option.any_none, Bool.false_or, Bool.not_eq_true', decide_eq_false_iff_not]
    omega
  · intro token htoken
    obtain ⟨payload, sessionId, hverify, hsid, hdrawn, hstrip, hne, hnames⟩ := h.named token htoken
    refine ⟨payload, sessionId, hverify, hsid, hdrawn, hstrip, hne, fun session hmem hid => ?_⟩
    have hname := hnames session (hsub hmem) hid
    exact ⟨hname.user, hname.version, hname.stands⟩

/-! ## Cookies, ids and the clock -/

theorem Agrees.mono (h : Agrees jwt store cookies drawnIds clock S) {drawnIds' : List String}
    {clock' : Nat} (hdrawn : drawnIds ⊆ drawnIds') (hclock : clock ≤ clock') :
    Agrees jwt store cookies drawnIds' clock' S where
  userIds := h.userIds
  sessionIds := h.sessionIds
  owned := h.owned
  drawn := fun session hmem => hdrawn (h.drawn session hmem)
  recorded := fun grant hmem => hdrawn (h.recorded grant hmem)
  held := fun grant hgrant hlater => h.held grant hgrant (lt_of_le_of_lt hclock hlater)
  named := by
    intro token htoken
    obtain ⟨payload, sessionId, hverify, hsid, hmem, hrest⟩ := h.named token htoken
    exact ⟨payload, sessionId, hverify, hsid, hdrawn hmem, hrest⟩

/-- A cookie that is made anew names what the old one named. -/
theorem Agrees.refresh (h : Agrees jwt store cookies drawnIds clock S) {cookie : Option Token}
    (hgenuine : ∀ token, cookie = some token → (jwt.verify token).isSome → token ∈ cookies) :
    Agrees jwt store (cookies ++ (slidingSession jwt cookie now).toList) drawnIds clock S := by
  refine ⟨h.userIds, h.sessionIds, h.owned, h.drawn, h.recorded, h.held, fun token htoken => ?_⟩
  rcases List.mem_append.mp htoken with htoken | hnew
  · exact h.named token htoken
  · rw [Option.mem_toList, slidingSession, Option.bind_eq_some_iff] at hnew
    obtain ⟨old, hcookie, hnew⟩ := hnew
    obtain ⟨payload, hverify, hnew⟩ := Option.bind_eq_some_iff.mp hnew
    split_ifs at hnew
    obtain rfl := Option.some.inj hnew
    have hold := hgenuine old hcookie (by rw [hverify, Option.isSome_some])
    obtain ⟨payload', sessionId, hverify', hsid, hmem, hstrip, hne, hnames⟩ := h.named old hold
    obtain rfl : payload = payload' := Option.some.inj (hverify.symm.trans hverify')
    refine ⟨_, sessionId, jwt.verify_encode _, ?_, hmem, hstrip, hne, fun session hs hid => ?_⟩
    · simp [hsid, hne]
    · have hname := hnames session hs hid
      exact ⟨hname.user, hname.version, hname.stands⟩

/-- A sign-in: a session under a new id, and a cookie that names it. -/
theorem Agrees.issue (h : Agrees jwt store cookies drawnIds clock S) {user : User}
    {ambient : Ambient} (huser : ∃ row ∈ store.users, row.id = user.id ∧
      row.tokenVersion = user.tokenVersion)
    (hfresh : ambient.drawnId ∉ drawnIds) (hstrip : strip ambient.drawnId = ambient.drawnId)
    (hne : ambient.drawnId ≠ "")
    {outcome : Outcome Token} (hissue : store.issueLoginSession jwt user ambient = outcome) :
    ∃ token, outcome.answer = .ok (some token) ∧
      grantOf jwt token ambient.now =
        some ⟨user.id, ambient.drawnId, ambient.now + sessionTtl⟩ ∧
      Agrees jwt outcome.store (cookies ++ [token]) (drawnIds ++ [ambient.drawnId]) clock
        (insert ⟨user.id, ambient.drawnId, ambient.now + sessionTtl⟩ S) := by
  have hnew : ambient.drawnId ∉ store.sessions.map UserSession.sessionId := by
    intro hmem
    obtain ⟨session, hsession, hid⟩ := List.mem_map.mp hmem
    exact hfresh (hid ▸ h.drawn session hsession)
  rw [Store.issueLoginSession, if_neg hnew] at hissue
  subst hissue
  set token := createAccessToken jwt user.id user.tokenVersion (some ambient.drawnId) ambient.now
    with htoken
  have hverify : jwt.verify token = some
      ⟨user.id, user.tokenVersion, some ambient.drawnId, (ambient.now + sessionTtl) / 1000000⟩ := by
    rw [htoken, createAccessToken, jwt.verify_encode]
    simp [hne]
  set session : UserSession :=
    { userId := user.id
      sessionId := ambient.drawnId
      expiresAt := ambient.now + sessionTtl
      lastSeenAt := some ambient.now }
  have hother {row : UserSession} (hrow : row ∈ store.sessions) :
      row.sessionId ≠ ambient.drawnId := fun heq => hnew (heq ▸ List.mem_map_of_mem hrow)
  refine ⟨token, rfl, ?_, ?_⟩
  · rw [grantOf, hverify]
    simp [getSessionIdFromPayload, hstrip, hne]
  · constructor
    · exact h.userIds
    · rw [List.map_append]
      refine h.sessionIds.append (List.nodup_singleton _) ?_
      exact List.disjoint_singleton.mpr hnew
    · intro row hrow
      rcases List.mem_append.mp hrow with hrow | hrow
      · exact h.owned row hrow
      · obtain rfl := List.mem_singleton.mp hrow
        obtain ⟨owner, howner, hid, -⟩ := huser
        exact ⟨owner, howner, hid⟩
    · intro row hrow
      rcases List.mem_append.mp hrow with hrow | hrow
      · exact List.mem_append_left _ (h.drawn row hrow)
      · obtain rfl := List.mem_singleton.mp hrow
        exact List.mem_append_right _ (List.mem_singleton_self _)
    · rintro grant (rfl | hgrant)
      · exact List.mem_append_right _ (List.mem_singleton_self _)
      · exact List.mem_append_left _ (h.recorded grant hgrant)
    · rintro grant (rfl | hgrant) hlater
      · exact ⟨session, List.mem_append_right _ (List.mem_singleton_self _), rfl, rfl⟩
      · obtain ⟨row, hrow, hrest⟩ := h.held grant hgrant hlater
        exact ⟨row, List.mem_append_left _ hrow, hrest⟩
    · intro other hmem
      rcases List.mem_append.mp hmem with hmem | hmem
      · obtain ⟨payload, sessionId, hverify', hsid, hdrawn, hrest, hne', hnames⟩ :=
          h.named other hmem
        refine ⟨payload, sessionId, hverify', hsid, List.mem_append_left _ hdrawn, hrest, hne',
          fun row hrow hid => ?_⟩
        rcases List.mem_append.mp hrow with hrow | hrow
        · have hname := hnames row hrow hid
          refine ⟨hname.user, hname.version, fun owner howner heq => ?_⟩
          rw [hname.stands owner howner heq]
          refine ⟨.inr, fun hgrant => hgrant.resolve_left fun heq => ?_⟩
          exact hother hrow (congrArg Grant.sessionId heq)
        · obtain rfl := List.mem_singleton.mp hrow
          obtain rfl : ambient.drawnId = sessionId := hid
          exact absurd hdrawn hfresh
      · obtain rfl := List.mem_singleton.mp hmem
        refine ⟨_, ambient.drawnId, hverify, rfl,
          List.mem_append_right _ (List.mem_singleton_self _),
          hstrip, hne, fun row hrow hid => ?_⟩
        rcases List.mem_append.mp hrow with hrow | hrow
        · exact absurd hid (hother hrow)
        · obtain rfl := List.mem_singleton.mp hrow
          obtain ⟨owner, howner, hownerId, htv⟩ := huser
          have hsame {row : User} (hrow : row ∈ store.users) (hid : row.id = user.id) :
              row.tokenVersion = user.tokenVersion := by
            rw [List.inj_on_of_nodup_map h.userIds hrow howner (hid.trans hownerId.symm), htv]
          refine ⟨rfl, fun row hrow hid => (hsame hrow hid).ge, fun row hrow hid => ?_⟩
          exact iff_of_true ⟨rfl, (hsame hrow hid).symm⟩ (.inl rfl)

/-! ## Requests -/

theorem Agrees.setPassword (h : Agrees jwt store cookies drawnIds clock S) (userId : Nat)
    (password reason : String) (requireChange : Bool → Bool) (ambient : Ambient)
    (covers : Grant → Bool) (hcovers : ∀ grant, covers grant = decide (grant.account = userId)) :
    Agrees jwt (store.setPassword hasher userId password reason requireChange ambient) cookies
      drawnIds clock {grant ∈ S | covers grant = false} := by
  have hbump := h.bump userId (fun user =>
    { user.bumpTokenVersion with
      passwordHash := hasher.hash ambient.salt password
      requirePasswordChange := requireChange user.requirePasswordChange })
    (fun _ => rfl) (fun _ => rfl)
  have hrevoke := hbump.revokeUserSessions userId reason none ambient.now covers
    fun grant => by simp [hcovers]
  have hsame : {grant ∈ {grant ∈ S | grant.account ≠ userId} | covers grant = false} =
      {grant ∈ S | covers grant = false} := by
    ext grant
    simp only [Set.mem_ofPred_eq, hcovers, decide_eq_false_iff_not]
    tauto
  exact hsame ▸ hrevoke

/-- What a request leaves, by its answer. -/
def Follows (jwt : Jwt Token) (cookies : List Token) (drawnIds : List String) (ambient : Ambient)
    (S : Set Grant) (covers : Grant → Bool) (outcome : Outcome Token) : Prop :=
  match outcome.answer with
  | .error _ => Agrees jwt outcome.store cookies drawnIds ambient.now S
  | .ok none => Agrees jwt outcome.store cookies drawnIds ambient.now
      {grant ∈ S | covers grant = false}
  | .ok (some token) => ∃ grant, grantOf jwt token ambient.now = some grant ∧
      Agrees jwt outcome.store (cookies ++ [token]) (drawnIds ++ [ambient.drawnId]) ambient.now
        (insert grant S)

section

variable {ambient : Ambient} {covers : Grant → Bool} {cookie : Option Token}

theorem follows_fromExcept {changed : Except HTTPException Store}
    (h : Agrees jwt store cookies drawnIds ambient.now S)
    (hchanged : ∀ store', changed = .ok store' →
      Agrees jwt store' cookies drawnIds ambient.now {grant ∈ S | covers grant = false}) :
    Follows jwt cookies drawnIds ambient S covers (fromExcept store changed) := by
  cases changed with
  | error e => exact h
  | ok store' => exact hchanged store' rfl

theorem follows_authenticated
    {handler : Store → User → String → Except HTTPException Store}
    (h : Agrees jwt store cookies drawnIds ambient.now S)
    (hhandler : ∀ user sessionId touched changed,
      actorOf jwt store cookie ambient.now = some (user.id, sessionId) →
      Agrees jwt touched cookies drawnIds ambient.now S →
      handler touched user sessionId = .ok changed →
      Agrees jwt changed cookies drawnIds ambient.now {grant ∈ S | covers grant = false}) :
    Follows jwt cookies drawnIds ambient S covers
      (authenticated jwt store cookie ambient.now handler) := by
  rw [authenticated]
  cases hcurrent : getCurrentUser jwt store cookie ambient.now with
  | error e => exact h
  | ok current =>
    obtain ⟨user, sessionId, touched⟩ := current
    dsimp only
    cases hchanged : handler touched user sessionId with
    | error e => exact h
    | ok changed =>
      obtain ⟨_, _, session, -, -, -, -, -, rfl⟩ := getCurrentUser_eq_ok_iff.mp hcurrent
      refine hhandler user sessionId _ changed ?_ (h.touchSession session.sessionId) hchanged
      rw [actorOf, hcurrent]
      rfl

theorem of_managing {handler : Store → User → Except HTTPException Store} {user : User}
    {sessionId : String} (h : managing handler store user sessionId = .ok store') :
    hasPermission user .manageUsers ∧ handler store user = .ok store' := by
  rw [managing, requireManageUsers] at h
  split_ifs at h with hpermission
  exact ⟨hpermission, h⟩

theorem follows_issue (h : Agrees jwt store cookies drawnIds ambient.now S) {user : User}
    (huser : ∃ row ∈ store.users, row.id = user.id ∧ row.tokenVersion = user.tokenVersion)
    (hfresh : ambient.drawnId ∉ drawnIds) (hstrip : strip ambient.drawnId = ambient.drawnId)
    (hne : ambient.drawnId ≠ "") :
    Follows jwt cookies drawnIds ambient S covers (store.issueLoginSession jwt user ambient) ∧
      (store.issueLoginSession jwt user ambient).answer.isOk = true := by
  obtain ⟨token, hanswer, hgrant, hagrees⟩ := h.issue huser hfresh hstrip hne rfl
  rw [Follows, hanswer]
  exact ⟨⟨_, hgrant, hagrees⟩, rfl⟩

theorem rollbackUnlessIssued_of_isOk {outcome : Outcome Token} (h : outcome.answer.isOk = true) :
    store.rollbackUnlessIssued outcome = outcome := by
  rw [Store.rollbackUnlessIssued]
  cases hanswer : outcome.answer with
  | error e =>
    rw [hanswer] at h
    contradiction
  | ok _ => rfl

theorem Agrees.follows_error (h : Agrees jwt store cookies drawnIds ambient.now S)
    (e : HTTPException) : Follows jwt cookies drawnIds ambient S covers ⟨store, .error e⟩ := h

theorem Agrees.linkOidc (h : Agrees jwt store cookies drawnIds clock S) (userId : Nat)
    (issuer subject : String) :
    Agrees jwt (linkOidc store userId issuer subject) cookies drawnIds clock S :=
  h.editUser (fun _ => rfl) fun _ => rfl

theorem Agrees.upsert (h : Agrees jwt store cookies drawnIds clock S)
    (identity : DiscoveredMediaUser) (userId : Option Nat) (preserve : Bool) :
    Agrees jwt (upsertMediaIdentity store identity userId preserve now) cookies drawnIds clock S :=
  h.of_eq users_upsertMediaIdentity sessions_upsertMediaIdentity

theorem Agrees.resolution (h : Agrees jwt store cookies drawnIds clock S)
    {identity : DiscoveredMediaUser} {answer : Except MediaAuthConflict User}
    (hresolution : Resolution tables store identity now store' answer) :
    Agrees jwt store' cookies drawnIds clock S := by
  cases hresolution with
  | created username added _ _ _ _ hadd => exact (h.addUser (fun _ => rfl) hadd).upsert ..
  | linked | byEmail | byUsername | conflict => exact h.upsert ..

theorem Resolution.mem_users {identity : DiscoveredMediaUser} {user : User}
    (h : Resolution tables store identity now store' (.ok user)) : user ∈ store'.users := by
  rcases h.user_cases with ⟨hmem, husers⟩ | ⟨username, added, rfl, hadd, husers⟩
  · exact husers ▸ hmem
  · rw [Store.addUser] at hadd
    split_ifs at hadd
    cases hadd
    rw [husers]
    exact List.mem_append_right _ (List.mem_singleton_self _)

theorem mem_linkOidc {userId : Nat} {issuer subject : String} {user : User}
    (h : user ∈ store.users) :
    ∃ row ∈ (linkOidc store userId issuer subject).users,
      row.id = user.id ∧ row.tokenVersion = user.tokenVersion := by
  refine ⟨_, mem_editUser.mpr ⟨user, h, rfl⟩, ?_⟩
  split_ifs <;> exact ⟨rfl, rfl⟩

variable (hasher tables cookie) in
/-- Every request leaves tables that agree with the grants it makes or ends. -/
theorem Agrees.follows_dispatch (h : Agrees jwt store cookies drawnIds ambient.now S)
    (hfresh : ambient.drawnId ∉ drawnIds) (hstrip : strip ambient.drawnId = ambient.drawnId)
    (hne : ambient.drawnId ≠ "") (request : Request) :
    Follows jwt cookies drawnIds ambient S (endedBy jwt store cookie ambient.now · request)
      (dispatch jwt hasher tables store cookie ambient request) := by
  have hissue {linked : Store} (hlinked : Agrees jwt linked cookies drawnIds ambient.now S)
      {user : User} (huser : ∃ row ∈ linked.users,
        row.id = user.id ∧ row.tokenVersion = user.tokenVersion) {covers : Grant → Bool} :
      Follows jwt cookies drawnIds ambient S covers
        (store.rollbackUnlessIssued (linked.issueLoginSession jwt user ambient)) := by
    obtain ⟨hfollows, hok⟩ := follows_issue hlinked huser hfresh hstrip hne
    rw [rollbackUnlessIssued_of_isOk hok]
    exact hfollows
  have hmedia {profile : MediaProfile} {invalid conflict : HTTPException}
      {disabled : Store → Outcome Token} {covers : Grant → Bool}
      (hdisabled : ∀ linked, Follows jwt cookies drawnIds ambient S covers (disabled linked) ∨
        ∃ e, disabled linked = ⟨linked, .error e⟩) :
      Follows jwt cookies drawnIds ambient S covers
        (store.mediaSignIn jwt tables profile ambient invalid conflict disabled) := by
    refine mediaSignIn_cases profile invalid conflict hdisabled h.follows_error ?_ ?_
    · exact fun _ _ _ e _ hresolution => (h.resolution hresolution).follows_error e
    · exact fun _ _ user _ hresolution =>
        hissue (h.resolution hresolution) ⟨user, hresolution.mem_users, rfl, rfl⟩
  have hkeeps {covers : Grant → Bool} (hcovers : ∀ grant, covers grant = false) {changed : Store}
      (hchanged : Agrees jwt changed cookies drawnIds ambient.now S) :
      Agrees jwt changed cookies drawnIds ambient.now {grant ∈ S | covers grant = false} := by
    have hall : {grant ∈ S | covers grant = false} = S := by
      ext grant
      simp [hcovers]
    exact hall.symm ▸ hchanged
  cases request with
  | login identifier password =>
    change Follows _ _ _ _ _ _ (store.login jwt hasher identifier password ambient)
    rcases login_cases jwt hasher store ambient identifier password with
      ⟨e, heq⟩ | ⟨user, huser, -, -, -, heq⟩
    · exact heq ▸ h.follows_error e
    · exact heq ▸ (follows_issue h ⟨user, huser, rfl, rfl⟩ hfresh hstrip hne).1
  | oidcCallback issuer subject email =>
    change Follows _ _ _ _ _ _ (store.oidcCallback jwt tables issuer subject email ambient)
    rcases oidcCallback_cases jwt tables store ambient issuer subject email with
      ⟨e, heq⟩ | ⟨user, huser, ⟨e, heq⟩ | heq⟩
    · exact heq ▸ h.follows_error e
    · exact heq ▸ (h.linkOidc ..).follows_error e
    · exact heq ▸ hissue (h.linkOidc ..) (mem_linkOidc huser)
  | mediaLogin profile => exact hmedia fun _ => .inl (h.follows_error _)
  | mediaPlexCallback profile => exact hmedia fun _ => .inr ⟨_, rfl⟩
  | logout =>
    change Agrees _ (store.logout jwt cookie ambient.now) _ _ _ _
    rw [Store.logout]
    cases hsid : Store.logoutSessionId jwt cookie ambient.now with
    | none => exact hkeeps (fun grant => by simp [endedBy, hsid]) h
    | some sessionId =>
      exact h.revokeSessionRow sessionId "logout" ambient.now _
        fun grant => by simp [endedBy, hsid, eq_comm]
  | getMe =>
    refine follows_authenticated h fun user sessionId touched changed _ htouched hchanged => ?_
    cases hchanged
    exact hkeeps (fun _ => rfl) htouched
  | updateProfile email =>
    refine follows_authenticated h fun user sessionId touched changed _ htouched hchanged => ?_
    rw [Store.updateProfile] at hchanged
    split_ifs at hchanged
    cases hchanged
    exact hkeeps (fun _ => rfl) (htouched.editUser (fun _ => rfl) fun _ => rfl)
  | changePassword old new =>
    refine follows_authenticated h fun user sessionId touched changed hactor htouched hchanged => ?_
    obtain rfl := changed_of_changePassword hchanged
    exact htouched.setPassword _ _ _ _ _ _ fun grant => by simp [endedBy, hactor, eq_comm]
  | createUser username password email role permissions requireChange =>
    refine follows_authenticated h fun user sessionId touched changed _ htouched hchanged => ?_
    obtain ⟨_, hadd⟩ := added_of_createUser (of_managing hchanged).2
    exact hkeeps (fun _ => rfl) (htouched.addUser (fun _ => rfl) hadd)
  | deleteUser userId =>
    refine follows_authenticated h fun user sessionId touched changed _ htouched hchanged => ?_
    obtain ⟨_, -, -, rfl⟩ := removed_of_deleteUser (of_managing hchanged).2
    have hsame : {grant ∈ S | grant.account ≠ userId} =
        {grant ∈ S | endedBy jwt store cookie ambient.now grant (.deleteUser userId) = false} := by
      ext grant
      simp [endedBy, eq_comm]
    exact hsame ▸ htouched.removeUser userId
  | updateUser userId email role permissions password =>
    refine follows_authenticated h fun user sessionId touched changed _ htouched hchanged => ?_
    obtain ⟨_, -, -, rfl⟩ := updated_of_updateUser (of_managing hchanged).2
    have hupdated : Agrees jwt (touched.editUser userId ({ · with email, role, permissions }))
        cookies drawnIds ambient.now S := htouched.editUser (fun _ => rfl) fun _ => rfl
    cases hpassword : password.filter (· ≠ "") with
    | none =>
      refine hkeeps (fun grant => ?_) hupdated
      cases password with
      | none => simp [endedBy]
      | some text =>
        have hempty : text = "" := by simpa using hpassword
        simp [endedBy, hempty]
    | some text =>
      refine hupdated.setPassword _ _ _ _ _ _ fun grant => ?_
      obtain ⟨rfl, hgiven⟩ := Option.filter_eq_some_iff.mp hpassword
      rw [endedBy, decide_eq_decide, Option.any_some]
      exact (and_iff_left hgiven).trans eq_comm
  | linkMediaIdentity identityId targetUserId =>
    refine follows_authenticated h fun user sessionId touched changed _ htouched hchanged => ?_
    obtain ⟨_, _, -, -, rfl⟩ := linked_of_linkMediaIdentity (of_managing hchanged).2
    exact hkeeps (fun _ => rfl) (htouched.of_eq rfl rfl)
  | unlinkMediaIdentity identityId =>
    refine follows_authenticated h fun user sessionId touched changed _ htouched hchanged => ?_
    obtain rfl := unlinked_of_unlinkMediaIdentity (of_managing hchanged).2
    exact hkeeps (fun _ => rfl) (htouched.of_eq rfl rfl)
  | revokeSession sessionId =>
    refine follows_authenticated h fun user current touched changed _ htouched hchanged => ?_
    rw [Store.revokeSession] at hchanged
    split at hchanged
    · contradiction
    · cases hchanged
      exact htouched.revokeSessionRow sessionId "user_revoked" ambient.now _
        fun grant => by simp [endedBy, eq_comm]
  | revokeOtherSessions =>
    refine follows_authenticated h fun user current touched changed hactor htouched hchanged => ?_
    cases hchanged
    exact htouched.revokeUserSessions _ _ _ ambient.now _ fun grant => by
      simp [endedBy, hactor, eq_comm]
  | completeSetup password =>
    refine follows_fromExcept h fun store' hchanged => ?_
    obtain ⟨_, created, hadd, rfl⟩ := created_of_completeSetup hchanged
    exact hkeeps (fun _ => rfl) ((h.addUser (fun _ => rfl) hadd).of_eq rfl rfl)

end

/-! ## Runs -/

variable (hasher) in
theorem Agrees.createInitialAdmin (h : Agrees jwt store cookies drawnIds clock S)
    (adminPassword : Option String) (ambient : Ambient) :
    Agrees jwt (store.createInitialAdmin hasher adminPassword ambient) cookies drawnIds clock
      (extend S ((resetAtStartup hasher store adminPassword).toList.map
        fun id => .ended (·.account = id))) := by
  have hfound (needs : Bool) :
      Agrees jwt { store with needsSetup := needs } cookies drawnIds clock S :=
    h.of_eq rfl rfl
  rw [Store.createInitialAdmin, resetAtStartup]
  cases hadmin : store.users.find? (·.role = .admin) with
  | none =>
    cases adminPassword.filter (· ≠ "") with
    | none => exact hfound true
    | some password =>
      cases hadd : ({ store with needsSetup := true } : Store).addUser
          (Store.initialAdmin hasher password ambient) with
      | none =>
        dsimp only [Option.elim_some]
        rw [hadd]
        exact hfound true
      | some created =>
        dsimp only [Option.elim_some]
        rw [hadd]
        exact ((hfound true).addUser (fun _ => rfl) hadd).of_eq rfl rfl
  | some admin =>
    cases adminPassword.filter (· ≠ "") with
    | none => exact hfound false
    | some password =>
      dsimp only [Option.elim_some, Option.bind_some]
      split
      case h_1 hwrong =>
        rw [if_pos hwrong]
        have hbump := (hfound false).bump admin.id (fun user =>
          { user.bumpTokenVersion with passwordHash := hasher.hash ambient.salt password })
          (fun _ => rfl) (fun _ => rfl)
        have hsame : extend S [.ended fun grant : Grant => decide (grant.account = admin.id)] =
            {grant ∈ S | grant.account ≠ admin.id} := by
          ext grant
          simp [Entry.apply]
        exact hsame ▸ hbump
      case h_2 hright =>
        rw [if_neg hright]
        exact hfound false

/-- What a step of the program does to the tables, it records. -/
theorem Agrees.next {s : System Token} {occurrence : Ambient × Event Token}
    (h : Agrees jwt s.store s.cookies s.drawnIds s.clock S)
    (hadmits : Admissible jwt s occurrence) :
    Agrees jwt (s.next jwt hasher tables occurrence).store
      (s.next jwt hasher tables occurrence).cookies
      (s.next jwt hasher tables occurrence).drawnIds (s.next jwt hasher tables occurrence).clock
      (extend S (entriesOf jwt hasher tables s.store occurrence.1 occurrence.2)) := by
  obtain ⟨ambient, event⟩ := occurrence
  have hnow : Agrees jwt s.store s.cookies s.drawnIds ambient.now S :=
    h.mono (List.Subset.refl _) hadmits.clock
  have hdrawn : s.drawnIds ⊆ s.drawnIds ++ [ambient.drawnId] := List.subset_append_left _ _
  cases event with
  | weeklyHouseKeeping =>
    have htrim := (hnow.trimUserSessions rfl).mono hdrawn (le_refl ambient.now)
    simpa [System.next, storeAfter, cookiesOf, entriesOf] using htrim
  | startup adminPassword =>
    have hstart := (hnow.createInitialAdmin hasher adminPassword ambient).mono hdrawn
      (le_refl ambient.now)
    simpa [System.next, storeAfter, cookiesOf, entriesOf] using hstart
  | request cookie request =>
    have hgenuine {more : List Token} (token : Token) (hcookie : cookie = some token)
        (hverify : (jwt.verify token).isSome) : token ∈ s.cookies ++ more :=
      List.mem_append_left _ (hadmits.genuine token request (by rw [hcookie]) hverify)
    dsimp only [System.next, storeAfter, cookiesOf, entriesOf, setCookies]
    by_cases hguard : setupGuard s.store request
    · have hrespond : respond jwt hasher tables s.store cookie request ambient =
          ⟨s.store, .error ⟨503, "setup_required"⟩⟩ := if_pos hguard
      rw [hrespond, if_pos hguard, List.append_nil]
      exact hnow.mono hdrawn (le_refl _)
    · have hrespond : respond jwt hasher tables s.store cookie request ambient =
          dispatch jwt hasher tables s.store cookie ambient request := if_neg hguard
      have hfollows := hnow.follows_dispatch hasher tables cookie hadmits.fresh hadmits.stripped
        hadmits.nonempty request
      rw [hrespond, if_neg hguard, ← List.append_assoc]
      rw [Follows] at hfollows
      cases hanswer : (dispatch jwt hasher tables s.store cookie ambient request).answer with
      | error e =>
        rw [hanswer] at hfollows
        have hstill : Agrees jwt (dispatch jwt hasher tables s.store cookie ambient request).store
            (s.cookies ++ []) (s.drawnIds ++ [ambient.drawnId]) ambient.now S := by
          rw [List.append_nil]
          exact hfollows.mono hdrawn (le_refl _)
        exact hstill.refresh hgenuine
      | ok cookie? =>
        rw [hanswer] at hfollows
        cases cookie? with
        | none =>
          have hends : Agrees jwt (dispatch jwt hasher tables s.store cookie ambient request).store
              (s.cookies ++ []) (s.drawnIds ++ [ambient.drawnId]) ambient.now
              {grant ∈ S | endedBy jwt s.store cookie ambient.now grant request = false} := by
            rw [List.append_nil]
            exact hfollows.mono hdrawn (le_refl _)
          exact hends.refresh hgenuine
        | some token =>
          obtain ⟨grant, hgrant, hissued⟩ := hfollows
          dsimp only
          rw [hgrant]
          exact hissued.refresh hgenuine

theorem agrees_initial : Agrees jwt ({} : System Token).store [] [] 0 ∅ := by
  constructor <;> simp

/-- After every run the tables agree with what its sign-ins have left. -/
theorem agrees_run {events : List (Ambient × Event Token)}
    (hmeets : Runs.Meets (fun s occurrence => some (System.next jwt hasher tables s occurrence))
      (Admissible jwt) {} events) :
    Agrees jwt (events.foldl (System.next jwt hasher tables) {}).store
      (events.foldl (System.next jwt hasher tables) {}).cookies
      (events.foldl (System.next jwt hasher tables) {}).drawnIds
      (events.foldl (System.next jwt hasher tables) {}).clock
      (standing (grantRecord jwt hasher tables {} events)) :=
  Grants.simulates (R := fun s S => Agrees jwt s.store s.cookies s.drawnIds s.clock S)
    (fun _ _ _ h hadmits => Agrees.next h hadmits) hmeets agrees_initial

/-- A cookie is accepted exactly as long as its sign-in stands: it was issued to the same user,
less than a day ago, and nothing since has ended it. -/
theorem getCurrentUser_iff_standing {events : List (Ambient × Event Token)}
    (hmeets : Runs.Meets (fun s occurrence => some (System.next jwt hasher tables s occurrence))
      (Admissible jwt) {} events) {s : System Token}
    (hrun : events.foldl (System.next jwt hasher tables) {} = s) {token : Token}
    (htoken : token ∈ s.cookies) (hclock : s.clock ≤ now) {user : User} {sessionId : String} :
    (∃ touched, getCurrentUser jwt s.store (some token) now = .ok (user, sessionId, touched)) ↔
      ∃ payload expiresAt, decodeToken jwt token now = .ok payload ∧
        payload.sid = some sessionId ∧ payload.sub = user.id ∧
        user ∈ s.store.users ∧ user.isActive ∧ now < expiresAt ∧
        ⟨user.id, sessionId, expiresAt⟩ ∈ standing (grantRecord jwt hasher tables {} events) := by
  have h := agrees_run hmeets
  rw [hrun] at h
  obtain ⟨payload, sid, hverify, hsid, -, hstrip, hne, hnames⟩ := h.named token htoken
  have hpayloadId : getSessionIdFromPayload payload = some sid := by
    simp [getSessionIdFromPayload, hsid, hstrip, hne]
  constructor
  · rintro ⟨touched, hcurrent⟩
    obtain ⟨_, claims, session, ⟨⟩, hdecode, hcheck, hactive, rfl, -⟩ :=
      getCurrentUser_eq_ok_iff.mp hcurrent
    obtain rfl : claims = payload :=
      Option.some.inj ((decodeToken_eq_ok_iff.mp hdecode).1.symm.trans hverify)
    obtain ⟨hfind, hversion, claimedId, hclaimed, hrow, hlive, hlater⟩ :=
      checkSession_eq_ok_iff.mp hcheck
    obtain rfl : claimedId = sid := Option.some.inj (hclaimed.symm.trans hpayloadId)
    obtain ⟨huser, hsub⟩ := (findUser_eq_some_iff h.userIds).mp hfind
    have hsession := List.mem_of_find?_eq_some hrow
    obtain ⟨howner, hid⟩ : session.userId = user.id ∧ session.sessionId = claimedId := by
      simpa using List.find?_some hrow
    have hname := hnames session hsession hid
    refine ⟨claims, session.expiresAt, hdecode, hid ▸ hsid, hsub.symm, huser, hactive, hlater, ?_⟩
    have hstands := (hname.stands user huser howner.symm).mp ⟨hlive, hversion⟩
    rwa [UserSession.grant, howner] at hstands
  · rintro ⟨claims, expiresAt, hdecode, hclaimed, hsub, huser, hactive, hlater, hstanding⟩
    obtain rfl : claims = payload :=
      Option.some.inj ((decodeToken_eq_ok_iff.mp hdecode).1.symm.trans hverify)
    obtain rfl : sessionId = sid := Option.some.inj (hclaimed.symm.trans hsid)
    obtain ⟨session, hsession, hgrant, hlive⟩ := h.held _ hstanding (lt_of_le_of_lt hclock hlater)
    obtain ⟨howner, hid, hexpires⟩ : session.userId = user.id ∧ session.sessionId = sessionId ∧
        session.expiresAt = expiresAt := by simpa [UserSession.grant] using hgrant
    have hstands := ((hnames session hsession hid).stands user huser howner.symm).mpr
      (hgrant ▸ hstanding)
    have hrow : (s.store.sessions.find? fun row =>
        row.userId = user.id ∧ row.sessionId = sessionId) = some session := by
      apply find?_eq_some_of_key h.sessionIds hsession
      · simp [howner, hid]
      · intro other hother
        rw [hid]
        exact (of_decide_eq_true hother).2
    refine ⟨_, getCurrentUser_eq_ok_iff.mpr ⟨token, claims, session, rfl, hdecode, ?_, hactive,
      hid.symm, rfl⟩⟩
    refine checkSession_eq_ok_iff.mpr ⟨?_, hstands.2, sessionId, hpayloadId, hrow, hlive, ?_⟩
    · exact (findUser_eq_some_iff h.userIds).mpr ⟨huser, hsub.symm⟩
    · rwa [hexpires]

/-! ## A sign-in -/

/-- Tokens that are their claims. -/
def claimTokens : Jwt Payload := ⟨id, some, fun _ => rfl⟩

/-- Passwords that are their own hashes. -/
def plainHasher : PasswordHasher :=
  ⟨fun _ password => password, fun hash password => some (hash == password)⟩

def asciiTables : TextTables where
  lower := asciiLower
  upper := id
  isAlnum := Char.isAlphanum

/-- The program starts with a password for the first administrator, who signs in. -/
def adminSignsIn : List (Ambient × Event Payload) :=
  [(⟨1, "a", ""⟩, .startup (some "secret")),
    (⟨2, "b", ""⟩, .request none (.login "admin" "secret"))]

def adminCookie : Payload := ⟨1, 0, some "b", 86400⟩

theorem admissible_adminSignsIn :
    Runs.Meets (fun s occurrence =>
        some (System.next claimTokens plainHasher asciiTables s occurrence))
      (Admissible claimTokens) {} adminSignsIn := by
  refine ⟨⟨Nat.zero_le 1, List.not_mem_nil, rfl, by decide, nofun⟩, fun s hs => ?_⟩
  obtain rfl := Option.some.inj hs
  exact ⟨⟨Nat.le_succ 1, by decide, rfl, by decide, nofun⟩, fun _ _ => trivial⟩

/-- The cookie of the administrator is accepted, so the sign-in stands. -/
theorem getCurrentUser_iff_standing_admin :
    (∃ touched, getCurrentUser claimTokens
      (adminSignsIn.foldl (System.next claimTokens plainHasher asciiTables) {}).store
      (some adminCookie) 3 = .ok (⟨1, "admin", "secret",
        none, none, none, .admin, [], true, false, 0⟩,
        "b", touched)) ∧
      ∃ expiresAt, (⟨1, "b", expiresAt⟩ : Grant) ∈
        standing (grantRecord claimTokens plainHasher asciiTables {} adminSignsIn) := by
  have haccepted : ∃ touched, getCurrentUser claimTokens
      (adminSignsIn.foldl (System.next claimTokens plainHasher asciiTables) {}).store
      (some adminCookie) 3 = .ok (⟨1, "admin", "secret",
        none, none, none, .admin, [], true, false, 0⟩,
        "b", touched) := ⟨_, rfl⟩
  obtain ⟨_, expiresAt, -, -, -, -, -, -, hstanding⟩ :=
    (getCurrentUser_iff_standing admissible_adminSignsIn rfl (List.mem_singleton_self adminCookie)
      (Nat.le_succ 2)).mp haccepted
  exact ⟨haccepted, expiresAt, hstanding⟩

end MediaMasterr.Accounts
