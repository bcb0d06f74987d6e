import MediaMasterr.Accounts.SessionGrants

/-! # Administrators

What one step of the program does to the users, and what follows for the administrators:
the setup is open only while there are none, nobody else changes or makes one, and there is
always one left as long as none is made an ordinary user. -/

namespace MediaMasterr.Accounts

open MediaMasterr.Database MediaMasterr.Foundations MediaMasterr.Foundations.PythonText

section

variable {Token : Type} (jwt : Jwt Token) (tables : TextTables) (store : Store)
    (cookie : Option Token) (now : Nat) (request : Request)

/-- The user whose cookie a request carries. -/
def Accepted (user : User) : Prop :=
  ∃ sessionId touched, getCurrentUser jwt store cookie now = .ok (user, sessionId, touched)

/-- What a request does to the users, and whether the setup stays open. -/
inductive UserChange : List User → Bool → Prop where
  | same : UserChange store.users store.needsSetup
  | linked (user : User) (issuer subject : String) :
    UserChange (linkOidc store user.id issuer subject).users store.needsSetup
  | signedUp (profile : MediaProfile) (identity : DiscoveredMediaUser) (username : String)
      (hrequest : request = .mediaLogin profile ∨ request = .mediaPlexCallback profile)
      (hbuild : buildDiscoveredUser tables profile = some identity) :
    UserChange (store.users ++ [newUserOf identity username store.nextUserId]) store.needsSetup
  | own (actor : User) (change : User → User) (haccepted : Accepted jwt store cookie now actor)
      (hid : ∀ user, (change user).id = user.id) (hrole : ∀ user, (change user).role = user.role) :
    UserChange (store.editUser actor.id change).users store.needsSetup
  | created (actor : User) (make : Nat → User) (haccepted : Accepted jwt store cookie now actor)
      (hid : ∀ id, (make id).id = id)
      (hrole : ∀ id, actor.role ≠ .admin → (make id).role ≠ .admin) :
    UserChange (store.users ++ [make store.nextUserId]) store.needsSetup
  | deleted (actor user : User) (hrequest : request = .deleteUser user.id)
      (haccepted : Accepted jwt store cookie now actor)
      (hfound : store.findUser user.id = some user) (hother : user.id ≠ actor.id)
      (hrole : actor.role ≠ .admin → user.role ≠ .admin) :
    UserChange (store.removeUser user.id).users store.needsSetup
  | updated (actor user : User) (role : UserRole) (change : User → User)
      (hrequest : ∃ email permissions password,
        request = .updateUser user.id email role permissions password)
      (haccepted : Accepted jwt store cookie now actor)
      (hfound : store.findUser user.id = some user) (hid : ∀ user, (change user).id = user.id)
      (hset : ∀ user, (change user).role = role)
      (hrole : actor.role ≠ .admin → user.role ≠ .admin ∧ role ≠ .admin) :
    UserChange (store.editUser user.id change).users store.needsSetup
  | setUp (make : Nat → User) (hpending : store.needsSetup = true) (hid : ∀ id, (make id).id = id)
      (hrole : ∀ id, (make id).role = .admin) :
    UserChange (store.users ++ [make store.nextUserId]) false

end

variable {Token : Type} {jwt : Jwt Token} {hasher : PasswordHasher} {tables : TextTables}
    {store store' : Store} {cookie : Option Token} {ambient : Ambient} {now : Nat}
    {request : Request}

variable (jwt store ambient) in
theorem issueLoginSession_users (user : User) :
    (store.issueLoginSession jwt user ambient).store.users = store.users ∧
      (store.issueLoginSession jwt user ambient).store.needsSetup = store.needsSetup := by
  rw [Store.issueLoginSession]
  split_ifs <;> exact ⟨rfl, rfl⟩

/-- What holds of the store before and of the outcome holds after a rollback, if there is one. -/
theorem rollbackUnlessIssued_cases (store : Store) (outcome : Outcome Token) :
    (store.rollbackUnlessIssued outcome).store = store ∨
      (store.rollbackUnlessIssued outcome).store = outcome.store := by
  rw [Store.rollbackUnlessIssued]
  cases outcome.answer with
  | error e => exact .inl rfl
  | ok _ => exact .inr rfl

theorem needsSetup_addUser {make : Nat → User} (h : store.addUser make = some store') :
    store'.needsSetup = store.needsSetup := by
  rw [Store.addUser] at h
  split_ifs at h
  cases h
  rfl

theorem users_addUser {make : Nat → User} (h : store.addUser make = some store') :
    store'.users = store.users ++ [make store.nextUserId] := by
  rw [Store.addUser] at h
  split_ifs at h
  cases h
  rfl

theorem editUser_editUser {id : Nat} {f g : User → User} (hf : ∀ user, (f user).id = user.id) :
    (store.editUser id f).editUser id g = store.editUser id (g ∘ f) := by
  simp only [Store.editUser, Write.apply, List.map_map]
  congr 1
  refine List.map_congr_left fun user _ => ?_
  by_cases hid : user.id = id <;> simp [hid, hf]

theorem UserChange.congr {changed : Store}
    (h : UserChange jwt tables store cookie now request store'.users store'.needsSetup)
    (husers : changed.users = store'.users) (hsetup : changed.needsSetup = store'.needsSetup) :
    UserChange jwt tables store cookie now request changed.users changed.needsSetup := by
  rw [husers, hsetup]
  exact h

theorem UserChange.of_authenticated {handler : Store → User → String → Except HTTPException Store}
    (hhandler : ∀ actor sessionId changed, Accepted jwt store cookie now actor →
      handler (store.touchSession sessionId now) actor sessionId = .ok changed →
      UserChange jwt tables store cookie now request changed.users changed.needsSetup) :
    UserChange jwt tables store cookie now request
      (authenticated jwt store cookie now handler).store.users
      (authenticated jwt store cookie now handler).store.needsSetup := by
  rw [authenticated]
  cases hcurrent : getCurrentUser jwt store cookie now with
  | error e => exact .same
  | ok current =>
    obtain ⟨actor, sessionId, touched⟩ := current
    dsimp only
    cases hchanged : handler touched actor sessionId with
    | error e => exact .same
    | ok changed =>
      have haccepted : Accepted jwt store cookie now actor := ⟨sessionId, touched, hcurrent⟩
      obtain ⟨_, _, _, -, -, -, -, rfl, rfl⟩ := getCurrentUser_eq_ok_iff.mp hcurrent
      exact hhandler actor _ changed haccepted hchanged

theorem Resolution.userChange {identity : DiscoveredMediaUser} {profile : MediaProfile}
    {answer : Except MediaAuthConflict User}
    (hrequest : request = .mediaLogin profile ∨ request = .mediaPlexCallback profile)
    (hbuild : buildDiscoveredUser tables profile = some identity)
    (h : Resolution tables store identity ambient.now store' answer) :
    UserChange jwt tables store cookie now request store'.users store'.needsSetup := by
  cases h with
  | created username added _ _ _ _ hadd =>
    rw [users_upsertMediaIdentity, needsSetup_upsertMediaIdentity, users_addUser hadd,
      needsSetup_addUser hadd]
    exact .signedUp profile identity username hrequest hbuild
  | linked | byEmail | byUsername | conflict =>
    rw [users_upsertMediaIdentity, needsSetup_upsertMediaIdentity]
    exact .same

/-- A sign-in on top of a change of the users. -/
theorem UserChange.issue {user : User}
    (h : UserChange jwt tables store cookie now request store'.users store'.needsSetup) :
    UserChange jwt tables store cookie now request
      (store.rollbackUnlessIssued (store'.issueLoginSession jwt user ambient)).store.users
      (store.rollbackUnlessIssued (store'.issueLoginSession jwt user
        ambient)).store.needsSetup := by
  obtain ⟨husers, hsetup⟩ := issueLoginSession_users jwt store' ambient user
  rcases rollbackUnlessIssued_cases store (store'.issueLoginSession jwt user ambient) with heq | heq
  · rw [heq]
    exact .same
  · rw [heq]
    exact h.congr husers hsetup

variable (jwt hasher tables store cookie ambient) in
/-- Every request changes the users in one of these ways. -/
theorem userChange_dispatch (request : Request) :
    UserChange jwt tables store cookie ambient.now request
      (dispatch jwt hasher tables store cookie ambient request).store.users
      (dispatch jwt hasher tables store cookie ambient request).store.needsSetup := by
  have hmedia {profile : MediaProfile} {invalid conflict : HTTPException}
      {disabled : Store → Outcome Token}
      (hrequest : request = .mediaLogin profile ∨ request = .mediaPlexCallback profile)
      (hdisabled : ∀ linked, UserChange jwt tables store cookie ambient.now request
          (disabled linked).store.users (disabled linked).store.needsSetup ∨
        ∃ e, disabled linked = ⟨linked, .error e⟩) :
      UserChange jwt tables store cookie ambient.now request
        (store.mediaSignIn jwt tables profile ambient invalid conflict disabled).store.users
        (store.mediaSignIn jwt tables profile ambient invalid conflict disabled).store.needsSetup :=
    mediaSignIn_cases (P := fun outcome => UserChange jwt tables store cookie ambient.now request
      outcome.store.users outcome.store.needsSetup) profile invalid conflict hdisabled
      (fun _ => .same) (fun _ _ _ _ hbuild hresolution => hresolution.userChange hrequest hbuild)
      fun _ _ _ hbuild hresolution => (hresolution.userChange hrequest hbuild).issue
  cases request with
  | login identifier password =>
    change UserChange _ _ _ _ _ _ (store.login jwt hasher identifier password ambient).store.users
      (store.login jwt hasher identifier password ambient).store.needsSetup
    rcases login_cases jwt hasher store ambient identifier password with
      ⟨e, heq⟩ | ⟨user, -, -, -, -, heq⟩
    · rw [heq]
      exact .same
    · rw [heq]
      obtain ⟨husers, hsetup⟩ := issueLoginSession_users jwt store ambient user
      exact UserChange.same.congr husers hsetup
  | oidcCallback issuer subject email =>
    change UserChange _ _ _ _ _ _
      (store.oidcCallback jwt tables issuer subject email ambient).store.users
      (store.oidcCallback jwt tables issuer subject email ambient).store.needsSetup
    rcases oidcCallback_cases jwt tables store ambient issuer subject email with
      ⟨e, heq⟩ | ⟨user, -, ⟨e, heq⟩ | heq⟩
    · rw [heq]
      exact .same
    · rw [heq]
      exact .linked user issuer subject
    · rw [heq]
      exact (UserChange.linked user issuer subject :
        UserChange jwt tables store cookie ambient.now _
        (linkOidc store user.id issuer subject).users
        (linkOidc store user.id issuer subject).needsSetup).issue
  | mediaLogin profile => exact hmedia (.inl rfl) fun _ => .inl .same
  | mediaPlexCallback profile => exact hmedia (.inr rfl) fun _ => .inr ⟨_, rfl⟩
  | logout =>
    change UserChange _ _ _ _ _ _ (store.logout jwt cookie ambient.now).users
      (store.logout jwt cookie ambient.now).needsSetup
    rw [Store.logout]
    cases Store.logoutSessionId jwt cookie ambient.now with
    | none => exact .same
    | some sessionId => exact .same
  | getMe =>
    refine .of_authenticated fun actor _ changed _ hchanged => ?_
    cases hchanged
    exact .same
  | updateProfile email =>
    refine .of_authenticated fun actor _ changed haccepted hchanged => ?_
    rw [Store.updateProfile] at hchanged
    split_ifs at hchanged
    cases hchanged
    exact .own actor ({ · with email := email }) haccepted (fun _ => rfl) fun _ => rfl
  | changePassword old new =>
    refine .of_authenticated fun actor _ changed haccepted hchanged => ?_
    obtain rfl := changed_of_changePassword hchanged
    exact .own actor (fun user =>
      { user.bumpTokenVersion with
        passwordHash := hasher.hash ambient.salt new
        requirePasswordChange := false }) haccepted (fun _ => rfl) fun _ => rfl
  | createUser username password email role permissions requireChange =>
    refine .of_authenticated fun actor _ changed haccepted hchanged => ?_
    obtain ⟨hrole, hadd⟩ := added_of_createUser (of_managing hchanged).2
    rw [users_addUser hadd, needsSetup_addUser hadd]
    exact .created actor (fun id =>
      { id, username, passwordHash := hasher.hash ambient.salt password, email, role, permissions,
        requirePasswordChange := requireChange }) haccepted (fun _ => rfl) fun _ => hrole
  | deleteUser userId =>
    refine .of_authenticated fun actor _ changed haccepted hchanged => ?_
    obtain ⟨user, hfound, ⟨hother, hrole⟩, rfl⟩ := removed_of_deleteUser (of_managing hchanged).2
    obtain rfl : user.id = userId := by simpa using List.find?_some hfound
    exact .deleted actor user rfl haccepted hfound hother hrole
  | updateUser userId email role permissions password =>
    refine .of_authenticated fun actor sessionId changed haccepted hchanged => ?_
    obtain ⟨user, hfound, ⟨-, hrole⟩, rfl⟩ := updated_of_updateUser (of_managing hchanged).2
    obtain rfl : user.id = userId := by simpa using List.find?_some hfound
    cases password.filter (· ≠ "") with
    | none =>
      exact .updated actor user role ({ · with email, role, permissions })
        ⟨email, permissions, password, rfl⟩ haccepted hfound (fun _ => rfl) (fun _ => rfl) hrole
    | some text =>
      change UserChange _ _ _ _ _ _ ((store.editUser user.id _).editUser user.id _).users _
      rw [editUser_editUser]
      · exact .updated actor user role _ ⟨email, permissions, password, rfl⟩ haccepted hfound
          (fun _ => rfl) (fun _ => rfl) hrole
      · exact fun _ => rfl
  | linkMediaIdentity identityId targetUserId =>
    refine .of_authenticated fun actor _ changed _ hchanged => ?_
    obtain ⟨_, _, -, -, rfl⟩ := linked_of_linkMediaIdentity (of_managing hchanged).2
    exact .same
  | unlinkMediaIdentity identityId =>
    refine .of_authenticated fun actor _ changed _ hchanged => ?_
    obtain rfl := unlinked_of_unlinkMediaIdentity (of_managing hchanged).2
    exact .same
  | revokeSession sessionId =>
    refine .of_authenticated fun actor _ changed _ hchanged => ?_
    rw [Store.revokeSession] at hchanged
    split at hchanged
    · contradiction
    · cases hchanged
      exact .same
  | revokeOtherSessions =>
    refine .of_authenticated fun actor _ changed _ hchanged => ?_
    cases hchanged
    exact .same
  | completeSetup password =>
    change UserChange _ _ _ _ _ _ (fromExcept _ _).store.users (fromExcept _ _).store.needsSetup
    cases hchanged : store.completeSetup hasher password ambient with
    | error e => exact .same
    | ok changed =>
      obtain ⟨hpending, created, hadd, rfl⟩ := created_of_completeSetup hchanged
      rw [fromExcept, users_addUser hadd]
      exact .setUp _ hpending (fun _ => rfl) fun _ => rfl

/-! ## One step -/

variable {users : List User} {pending : Bool}

theorem Accepted.mem {user : User} (h : Accepted jwt store cookie now user) :
    user ∈ store.users := by
  obtain ⟨_, _, hcurrent⟩ := h
  obtain ⟨_, _, _, -, -, hcheck, -⟩ := getCurrentUser_eq_ok_iff.mp hcurrent
  exact List.mem_of_find?_eq_some (checkSession_eq_ok_iff.mp hcheck).1

theorem nodup_editUser {id : Nat} {change : User → User} (hid : ∀ user, (change user).id = user.id)
    (h : (store.users.map User.id).Nodup) :
    ((store.editUser id change).users.map User.id).Nodup := by
  rw [Store.editUser, Write.apply, Write.map_update_id hid]
  exact h

theorem nodup_append {make : Nat → User} (hid : ∀ id, (make id).id = id)
    (h : (store.users.map User.id).Nodup) :
    ((store.users ++ [make store.nextUserId]).map User.id).Nodup := by
  have hkeyed : ∀ write ∈ [Write.insert make], write.Keyed User.id := by
    simpa [Write.Keyed] using hid
  exact Write.nodup_applyAll hkeyed h

/-- Ids stay distinct. -/
theorem UserChange.nodup (h : UserChange jwt tables store cookie now request users pending)
    (hids : (store.users.map User.id).Nodup) : (users.map User.id).Nodup := by
  cases h with
  | same => exact hids
  | linked user issuer subject => exact nodup_editUser (fun _ => rfl) hids
  | signedUp profile identity username => exact nodup_append (fun _ => rfl) hids
  | own actor change haccepted hid => exact nodup_editUser hid hids
  | created actor make haccepted hid => exact nodup_append hid hids
  | deleted actor user => exact hids.sublist (List.filter_sublist.map _)
  | updated actor user role change hrequest haccepted hfound hid => exact nodup_editUser hid hids
  | setUp make hpending hid => exact nodup_append hid hids

/-- The setup is not opened by a request. -/
theorem UserChange.needsSetup (h : UserChange jwt tables store cookie now request users pending)
    (hpending : pending = true) : store.needsSetup = true := by
  cases h with
  | setUp => contradiction
  | same | linked | signedUp | own | created | deleted | updated => exact hpending

/-- The row of an administrator, but for the OIDC identity. -/
def adminRow? (user : User) : Option User :=
  if user.role = .admin then some { user with oidcIssuer := none, oidcSubject := none } else none

def adminRows (users : List User) : List User := users.filterMap adminRow?

theorem adminRow?_of_ne {user : User} (h : user.role ≠ .admin) : adminRow? user = none := if_neg h

theorem adminRows_append {user : User} (h : user.role ≠ .admin) :
    adminRows (users ++ [user]) = adminRows users := by
  rw [adminRows, List.filterMap_append, List.filterMap_cons_none (adminRow?_of_ne h),
    List.filterMap_nil, List.append_nil, adminRows]

theorem adminRows_editUser {id : Nat} {change : User → User}
    (h : ∀ user ∈ store.users, user.id = id → adminRow? (change user) = adminRow? user) :
    adminRows (store.editUser id change).users = adminRows store.users := by
  rw [adminRows, Store.editUser, Write.apply, List.filterMap_map]
  refine List.filterMap_congr fun user huser => ?_
  rw [Function.comp_apply]
  split_ifs with hid
  · exact h user huser hid
  · rfl

theorem adminRows_removeUser {id : Nat}
    (h : ∀ user ∈ store.users, user.id = id → user.role ≠ .admin) :
    adminRows (store.removeUser id).users = adminRows store.users := by
  rw [adminRows, Store.removeUser, List.filterMap_filter]
  refine List.filterMap_congr fun user huser => ?_
  by_cases hid : user.id = id
  · rw [adminRow?_of_ne (h user huser hid), ite_self]
  · rw [if_pos (by simpa using hid)]

/-- A request of somebody else leaves the administrators as they are. -/
theorem UserChange.adminRows_eq (h : UserChange jwt tables store cookie now request users pending)
    (hids : (store.users.map User.id).Nodup) (hsetup : store.needsSetup = false)
    (hactor : ∀ actor, Accepted jwt store cookie now actor → actor.role ≠ .admin)
    (hprofile : ∀ profile, request = .mediaLogin profile ∨ request = .mediaPlexCallback profile →
      profile.localRole ≠ .admin) : adminRows users = adminRows store.users := by
  have hsame {user row : User} (hrow : row ∈ store.users) (huser : user ∈ store.users)
      (hid : row.id = user.id) : row = user := List.inj_on_of_nodup_map hids hrow huser hid
  cases h with
  | same => rfl
  | linked user issuer subject => exact adminRows_editUser fun _ _ _ => rfl
  | signedUp profile identity username hrequest hbuild =>
    refine adminRows_append fun hadmin => hprofile profile hrequest ?_
    rw [buildDiscoveredUser] at hbuild
    split_ifs at hbuild
    cases hbuild
    exact hadmin
  | own actor change haccepted hid hrole =>
    refine adminRows_editUser fun row hrow heq => ?_
    obtain rfl := hsame hrow haccepted.mem heq
    have huser := hactor row haccepted
    rw [adminRow?_of_ne huser, adminRow?_of_ne (by rwa [hrole])]
  | created actor make haccepted hid hrole =>
    exact adminRows_append (hrole _ (hactor actor haccepted))
  | deleted actor user _ haccepted hfound hother hrole =>
    refine adminRows_removeUser fun row hrow heq => ?_
    obtain rfl := hsame hrow (List.mem_of_find?_eq_some hfound) heq
    exact hrole (hactor actor haccepted)
  | updated actor user role change _ haccepted hfound hid hset hrole =>
    refine adminRows_editUser fun row hrow heq => ?_
    obtain rfl := hsame hrow (List.mem_of_find?_eq_some hfound) heq
    obtain ⟨hbefore, hafter⟩ := hrole (hactor actor haccepted)
    rw [adminRow?_of_ne hbefore, adminRow?_of_ne (by rwa [hset])]
  | setUp make hpending =>
    rw [hsetup] at hpending
    contradiction

def HasAdmin (users : List User) : Prop := ∃ user ∈ users, user.role = .admin

theorem hasAdmin_editUser {id : Nat} {change : User → User} (h : HasAdmin store.users)
    (hrole : ∀ user ∈ store.users, user.id = id → user.role = .admin →
      (change user).role = .admin) :
    HasAdmin (store.editUser id change).users := by
  obtain ⟨user, huser, hadmin⟩ := h
  refine ⟨_, mem_editUser.mpr ⟨user, huser, rfl⟩, ?_⟩
  split_ifs with hid
  · exact hrole user huser hid hadmin
  · exact hadmin

theorem HasAdmin.append (h : HasAdmin users) (user : User) : HasAdmin (users ++ [user]) := by
  obtain ⟨admin, hmem, hadmin⟩ := h
  exact ⟨admin, List.mem_append_left _ hmem, hadmin⟩

/-- The request makes an administrator an ordinary user. -/
def Demotes (store : Store) (request : Request) : Prop :=
  ∃ user email permissions password, user ∈ store.users ∧ user.role = .admin ∧
    request = .updateUser user.id email .user permissions password

theorem UserChange.hasAdmin (h : UserChange jwt tables store cookie now request users pending)
    (hids : (store.users.map User.id).Nodup) (hadmin : HasAdmin store.users)
    (hkeeps : ¬Demotes store request) : HasAdmin users := by
  cases h with
  | same => exact hadmin
  | linked user issuer subject => exact hasAdmin_editUser hadmin fun _ _ _ h => h
  | signedUp => exact hadmin.append _
  | own actor change haccepted hid hrole =>
    exact hasAdmin_editUser hadmin fun row _ _ hrow => (hrole row).trans hrow
  | created => exact hadmin.append _
  | deleted actor user _ haccepted hfound hother hrole =>
    by_cases huser : user.role = .admin
    · have hactor : actor.role = .admin := by
        by_contra hne
        exact hrole hne huser
      exact ⟨actor, List.mem_filter.mpr ⟨haccepted.mem, by simpa using Ne.symm hother⟩, hactor⟩
    · obtain ⟨admin, hmem, hrow⟩ := hadmin
      refine ⟨admin, List.mem_filter.mpr ⟨hmem, ?_⟩, hrow⟩
      rw [decide_eq_true_eq]
      intro hid
      rw [List.inj_on_of_nodup_map hids hmem (List.mem_of_find?_eq_some hfound) hid] at hrow
      exact huser hrow
  | updated actor user role change hrequest haccepted hfound hid hset hrole =>
    refine hasAdmin_editUser hadmin fun row hrow heq hbefore => ?_
    rw [hset]
    cases role with
    | admin => rfl
    | user =>
      obtain ⟨email, permissions, password, hrequest⟩ := hrequest
      exact absurd ⟨row, email, permissions, password, hrow, hbefore, heq ▸ hrequest⟩ hkeeps
  | setUp => exact hadmin.append _

/-! ## Runs -/

variable (jwt hasher tables store cookie ambient request) in
theorem userChange_respond : UserChange jwt tables store cookie ambient.now request
    (respond jwt hasher tables store cookie request ambient).store.users
    (respond jwt hasher tables store cookie request ambient).store.needsSetup := by
  rw [respond]
  split_ifs
  · exact .same
  · exact userChange_dispatch jwt hasher tables store cookie ambient request

/-- What the start of the program does to the users. -/
inductive StartChange (store : Store) : List User → Bool → Prop where
  | same (pending : Bool) (hpending : pending = true → ¬HasAdmin store.users) :
    StartChange store store.users pending
  | reset (id : Nat) (change : User → User) (hid : ∀ user, (change user).id = user.id)
      (hrole : ∀ user, (change user).role = user.role) :
    StartChange store (store.editUser id change).users false
  | first (make : Nat → User) (hid : ∀ id, (make id).id = id) :
    StartChange store (store.users ++ [make store.nextUserId]) false

variable (hasher store ambient) in
theorem startChange (adminPassword : Option String) :
    StartChange store (store.createInitialAdmin hasher adminPassword ambient).users
      (store.createInitialAdmin hasher adminPassword ambient).needsSetup := by
  rw [Store.createInitialAdmin]
  cases hadmin : store.users.find? (·.role = .admin) with
  | none =>
    have hnone : ¬HasAdmin store.users := by
      rintro ⟨user, huser, hrole⟩
      exact List.find?_eq_none.mp hadmin user huser (decide_eq_true hrole)
    cases adminPassword.filter (· ≠ "") with
    | none => exact .same true fun _ => hnone
    | some password =>
      dsimp only [Option.elim_some]
      cases hadd : ({ store with needsSetup := true } : Store).addUser
          (Store.initialAdmin hasher password ambient) with
      | none => exact .same true fun _ => hnone
      | some created =>
        rw [Option.elim_some, users_addUser hadd]
        exact .first (Store.initialAdmin hasher password ambient) fun _ => rfl
  | some admin =>
    have hclosed : false = true → ¬HasAdmin store.users := fun h => absurd h Bool.false_ne_true
    cases adminPassword.filter (· ≠ "") with
    | none => exact .same false hclosed
    | some password =>
      dsimp only [Option.elim_some]
      cases hasher.verify admin.passwordHash password with
      | none => exact .same false hclosed
      | some right =>
        cases right with
        | true => exact .same false hclosed
        | false => exact .reset admin.id _ (fun _ => rfl) fun _ => rfl

theorem StartChange.nodup (h : StartChange store users pending)
    (hids : (store.users.map User.id).Nodup) : (users.map User.id).Nodup := by
  cases h with
  | same => exact hids
  | reset id change hid => exact nodup_editUser hid hids
  | first make hid => exact nodup_append hid hids

theorem StartChange.hasAdmin (h : StartChange store users pending) (hadmin : HasAdmin store.users) :
    HasAdmin users := by
  cases h with
  | same => exact hadmin
  | reset id change _ hrole =>
    exact hasAdmin_editUser hadmin fun row _ _ hrow => (hrole row).trans hrow
  | first => exact hadmin.append _

theorem StartChange.not_hasAdmin (h : StartChange store users pending) (hpending : pending = true) :
    ¬HasAdmin users := by
  cases h with
  | same _ hnone => exact hnone hpending
  | reset | first => contradiction

theorem nodup_storeAfter {event : Event Token} (hids : (store.users.map User.id).Nodup) :
    ((storeAfter jwt hasher tables store ambient event).users.map User.id).Nodup := by
  cases event with
  | request cookie request =>
    exact (userChange_respond jwt hasher tables store cookie ambient request).nodup hids
  | startup adminPassword => exact (startChange hasher store ambient adminPassword).nodup hids
  | weeklyHouseKeeping => exact hids

theorem nodup_run (events : List (Ambient × Event Token)) :
    ((events.foldl (System.next jwt hasher tables) {}).store.users.map User.id).Nodup :=
  Loops.foldl_invariant (P := fun s : System Token => (s.store.users.map User.id).Nodup)
    (fun _ _ _ hids => nodup_storeAfter hids) List.nodup_nil

/-- The setup makes the first administrator and nothing else: in every state that is reached, it
is open only while there is none. -/
theorem not_hasAdmin_of_needsSetup (events : List (Ambient × Event Token)) :
    (events.foldl (System.next jwt hasher tables) {}).store.needsSetup = true →
      ¬HasAdmin (events.foldl (System.next jwt hasher tables) {}).store.users := by
  refine Loops.foldl_invariant
    (P := fun s : System Token => s.store.needsSetup = true → ¬HasAdmin s.store.users) ?_ ?_
  · rintro ⟨ambient, event⟩ - s ih hafter
    cases event with
    | weeklyHouseKeeping => exact ih hafter
    | startup adminPassword =>
      exact (startChange hasher s.store ambient adminPassword).not_hasAdmin hafter
    | request cookie request =>
      change (respond jwt hasher tables s.store cookie request ambient).store.needsSetup = true
        at hafter
      change ¬HasAdmin (respond jwt hasher tables s.store cookie request ambient).store.users
      have hbefore :=
        (userChange_respond jwt hasher tables s.store cookie ambient request).needsSetup
        hafter
      rw [respond] at hafter ⊢
      split_ifs at hafter ⊢ with hguard
      · exact ih hbefore
      · cases request with
        | completeSetup password =>
          change (fromExcept _ _).store.needsSetup = true at hafter
          change ¬HasAdmin (fromExcept _ _).store.users
          cases hchanged : s.store.completeSetup hasher password ambient with
          | error e => exact ih hbefore
          | ok changed =>
            rw [hchanged] at hafter
            obtain ⟨-, created, -, rfl⟩ := created_of_completeSetup hchanged
            contradiction
        | _ => exact absurd ⟨hbefore, rfl⟩ hguard
  · rintro - ⟨user, huser, -⟩
    exact absurd huser List.not_mem_nil

/-- A program that starts without a password is open, and the sign-in fails. -/
theorem not_hasAdmin_of_needsSetup_startup : ¬HasAdmin
    ([(⟨1, "a", ""⟩, .startup none), (⟨2, "b", ""⟩, .request none (.login "admin" "secret"))].foldl
      (System.next claimTokens plainHasher asciiTables) {}).store.users :=
  not_hasAdmin_of_needsSetup _ rfl

/-- Nobody with an administrator's cookie has a part in the step, nor does a media server that
calls somebody an administrator. -/
def Ordinary (jwt : Jwt Token) (s : System Token) (occurrence : Ambient × Event Token) : Prop :=
  match occurrence.2 with
  | .request cookie request =>
    (∀ actor, Accepted jwt s.store cookie occurrence.1.now actor → actor.role ≠ .admin) ∧
      ∀ profile, request = .mediaLogin profile ∨ request = .mediaPlexCallback profile →
        profile.localRole ≠ .admin
  | .startup _ => False
  | .weeklyHouseKeeping => True

/-- As long as no administrator acts, nobody becomes an administrator or stops being one, and
none of their rows changes but for OIDC identities, whatever the managers of users do. -/
theorem adminRows_run {events more : List (Ambient × Event Token)} {s : System Token}
    (hrun : events.foldl (System.next jwt hasher tables) {} = s)
    (hsetup : s.store.needsSetup = false)
    (hmeets : Runs.Meets (fun s occurrence => some (System.next jwt hasher tables s occurrence))
      (Ordinary jwt) s more) :
    adminRows (more.foldl (System.next jwt hasher tables) s).store.users =
      adminRows s.store.users := by
  have hids : (s.store.users.map User.id).Nodup := hrun ▸ nodup_run events
  refine (Runs.invariant_of_meets (I := fun s' : System Token =>
    (s'.store.users.map User.id).Nodup ∧ s'.store.needsSetup = false ∧
      adminRows s'.store.users = adminRows s.store.users) ?_ hmeets (Runs.run_total _)
    ⟨hids, hsetup, rfl⟩).2.2
  rintro s₁ s₂ ⟨ambient, event⟩ ⟨hids₁, hsetup₁, hrows₁⟩ hordinary hstep
  obtain rfl := Option.some.inj hstep
  refine ⟨nodup_storeAfter hids₁, ?_⟩
  cases event with
  | weeklyHouseKeeping => exact ⟨hsetup₁, hrows₁⟩
  | startup => exact hordinary.elim
  | request cookie request =>
    have hchange := userChange_respond jwt hasher tables s₁.store cookie ambient request
    constructor
    · by_contra hopen
      rw [Bool.not_eq_false] at hopen
      exact absurd (hchange.needsSetup hopen) (by simp [hsetup₁])
    · exact (hchange.adminRows_eq hids₁ hsetup₁ hordinary.1 hordinary.2).trans hrows₁

def annsProfile : MediaProfile where
  sourceService := .jellyfin
  serviceConfigId := 1
  sourceUserId := "j1"
  username := "Ann"
  email := some "Ann@Example.org"

/-- After the administrator's sign-in Ann comes in from the media server. -/
def annSignsIn : List (Ambient × Event Payload) :=
  [(⟨4, "c", ""⟩, .request none (.mediaLogin annsProfile))]

/-- Ann gets an account, and the administrator stays as before. -/
theorem adminRows_run_ann :
    adminRows (annSignsIn.foldl (System.next claimTokens plainHasher asciiTables)
      (adminSignsIn.foldl (System.next claimTokens plainHasher asciiTables) {})).store.users =
      adminRows (adminSignsIn.foldl (System.next claimTokens plainHasher
        asciiTables) {}).store.users ∧
      (annSignsIn.foldl (System.next claimTokens plainHasher asciiTables)
        (adminSignsIn.foldl (System.next claimTokens plainHasher asciiTables) {})).store.users.map
          User.username = ["admin", "ann_user"] := by
  refine ⟨adminRows_run rfl rfl ⟨⟨?_, ?_⟩, fun _ _ => trivial⟩, rfl⟩
  · rintro actor ⟨_, _, hcurrent⟩
    contradiction
  · rintro profile (hrequest | hrequest)
    · cases hrequest
      decide
    · contradiction

/-- As long as no request makes an administrator an ordinary user, there is an administrator. -/
theorem hasAdmin_run {events more : List (Ambient × Event Token)} {s : System Token}
    (hrun : events.foldl (System.next jwt hasher tables) {} = s) (hadmin : HasAdmin s.store.users)
    (hmeets : Runs.Meets (fun s occurrence => some (System.next jwt hasher tables s occurrence))
      (fun s occurrence => ∀ cookie request, occurrence.2 = .request cookie request →
        ¬Demotes s.store request) s more) :
    HasAdmin (more.foldl (System.next jwt hasher tables) s).store.users := by
  have hids : (s.store.users.map User.id).Nodup := hrun ▸ nodup_run events
  refine (Runs.invariant_of_meets (I := fun s' : System Token =>
    (s'.store.users.map User.id).Nodup ∧ HasAdmin s'.store.users) ?_ hmeets (Runs.run_total _)
    ⟨hids, hadmin⟩).2
  rintro s₁ s₂ ⟨ambient, event⟩ ⟨hids₁, hadmin₁⟩ hkeeps hstep
  obtain rfl := Option.some.inj hstep
  refine ⟨nodup_storeAfter hids₁, ?_⟩
  cases event with
  | weeklyHouseKeeping => exact hadmin₁
  | request cookie request =>
    exact (userChange_respond jwt hasher tables s₁.store cookie ambient request).hasAdmin hids₁
      hadmin₁ (hkeeps cookie request rfl)
  | startup adminPassword =>
    exact (startChange hasher s₁.store ambient adminPassword).hasAdmin hadmin₁

theorem hasAdmin_run_ann : HasAdmin (annSignsIn.foldl
    (System.next claimTokens plainHasher asciiTables)
      (adminSignsIn.foldl (System.next claimTokens plainHasher asciiTables) {})).store.users := by
  refine hasAdmin_run rfl ⟨_, List.mem_singleton_self _, rfl⟩ ⟨?_, fun _ _ => trivial⟩
  rintro cookie request ⟨⟩ ⟨_, _, _, _, -, -, hrequest⟩
  contradiction

end MediaMasterr.Accounts
