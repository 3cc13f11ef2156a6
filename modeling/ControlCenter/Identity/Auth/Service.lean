import ControlCenter.Identity.Auth.Store
import ControlCenter.Library.Machine

/-!
# Login, authentication and password changes

`internal/identity/auth/service.go`: each call of the service is a `Stage` that is advanced
by one step of the store at a time. Between two steps of a call any other call may take
its own, so a run is a list of operations that start calls and advance them in any order.
The clock, the random source, the hash of a new password, the login protection and the
audit log answer whatever they like in each step.

Password changes cut off what came before (`password_change_cuts_off`): a call of
`Authenticate` whose touch runs after a password change of its user succeeds only for a
session that was created after the change, under the new password hash or one that a later
change stored. A session that was revoked before never authenticates.
-/

set_option autoImplicit false

namespace ControlCenter.Identity.Auth

open Library

structure LoginInput where
  username : String
  password : String
  sourceIP : String
  userAgent : Bytes
  deriving DecidableEq

structure ChangePasswordInput where
  userID : String
  currentPassword : String
  newPassword : String
  deriving DecidableEq

structure RevokeSessionInput where
  userID : String
  sessionID : String
  currentSessionID : String
  deriving DecidableEq

/-- What a client asks for. -/
inductive Request where
  | login (input : LoginInput)
  | authenticate (token : String)
  | changePassword (input : ChangePasswordInput)
  | revokeSession (input : RevokeSessionInput)
  | revokeAllSessions (userID : String)
  | logout (token : String)
  deriving DecidableEq

/-- What a call returns. -/
inductive Outcome where
  | failed (e : AuthError)
  | issued (token : String) (session : Session) (user : User)
  | authenticated (session : Session) (user : User)
  | passwordChanged
  | sessionRevoked (sessionID : String) (current : Bool)
  | sessionsRevoked (count : Nat)
  | loggedOut
  deriving DecidableEq

/-- Where a call stands: each stage but the last waits for one step of the store. -/
inductive Stage where
  | begin (request : Request)
  | createSession (token : String) (session : Session) (user : User)
  | revokeIssued (session : Session)
  | setLastLogin (token : String) (session : Session) (user : User)
  | findUser (digest : String) (session : Session) (now : Time)
  | touch (digest : String) (session : Session) (user : User) (now : Time)
  | savePassword (user : User) (newHash : String)
  | findTarget (user : User) (input : RevokeSessionInput)
  | revokeTarget (userID : String) (target : Session) (current : Bool) (now : Time)
  | revokeAll (userID : String)
  | revokeDigest (digest : String)
  | finished (outcome : Outcome)
  deriving DecidableEq

/-- The parts of the service that do not change. `verify` is `none` when the hash cannot be
read. -/
structure Service where
  verify : String → String → Option Bool
  lower : Char → Char
  sessionTTL : Duration
  sessionIdleTimeout : Duration

/-- What the surroundings of the store answer in one step. -/
structure Surroundings where
  now : Time
  blocked : Bool
  token : Option String
  sessionID : String
  newHash : Option String
  audited : Bool
  deriving DecidableEq

def isTokenChar (c : Char) : Bool := c.isAlphanum || c == '-' || c == '_'

def digestToken (token : String) : String := sha256Hex (utf8 token)

/-- The digest of a token that stands for 32 bytes. The decoder skips line ends. -/
def validatedTokenDigest (token : String) : Option String :=
  let token := trimSpace token
  let chars := token.toList.filter fun c => c != '\n' && c != '\r'
  if chars.length = 43 ∧ chars.all isTokenChar = true then some (digestToken token) else none

/-- A cut at a number of bytes, also inside a character. -/
def truncate (value : Bytes) (max : Nat) : Bytes := value.take max

def isHexChar (c : Char) : Bool :=
  c.isDigit || ('a' ≤ c && c ≤ 'f') || ('A' ≤ c && c ≤ 'F')

/-- A session identifier: 32 hexadecimal digits, with or without the hyphens of a UUID. -/
def validSessionID (value : String) : Bool :=
  let chars := (trimSpace value).toList
  if chars.length = 36 then
    chars[8]? == some '-' && chars[13]? == some '-' && chars[18]? == some '-' &&
      chars[23]? == some '-' &&
      (let digits := chars.filter (· != '-')
       digits.length == 32 && digits.all isHexChar)
  else chars.length == 32 && chars.all isHexChar

section

variable (service : Service) (env : Surroundings)

/-- `Login` between its two steps: verify the password of the user that was found and prepare
a session. -/
def prepareLogin (input : LoginInput) (found : Except AuthError User) :
    Except AuthError (String × Session × User) :=
  if env.blocked then .error .invalidCredentials
  else
    match found with
    | .error _ => .error .invalidCredentials
    | .ok user =>
        if service.verify input.password user.passwordHash ≠ some true ∨ user.enabled = false then
          .error .invalidCredentials
        else
          match env.token with
          | none => .error .randomSource
          | some token => .ok (token, {
              id := env.sessionID
              userID := user.id
              tokenDigest := digestToken token
              credentialVersion := user.passwordChangedAt
              createdAt := env.now
              lastActivityAt := env.now
              expiresAt := Time.add env.now service.sessionTTL
              revokedAt := none
              sourceIP := input.sourceIP
              userAgent := truncate input.userAgent 512 }, user)

/-- `Authenticate` goes on with a session that is active. -/
def admitSession (found : Except AuthError Session) : Except AuthError Session :=
  match found with
  | .error _ => .error .unauthenticated
  | .ok session =>
      if session.activeAt env.now service.sessionIdleTimeout then .ok session
      else .error .unauthenticated

/-- `Authenticate` goes on with a user whose password is the one of the session. -/
def admitUser (session : Session) (found : Except AuthError User) : Except AuthError User :=
  match found with
  | .error _ => .error .unauthenticated
  | .ok user =>
      if user.enabled = true ∧ session.credentialVersion = user.passwordChangedAt then .ok user
      else .error .unauthenticated

/-- `ChangePassword` between its two steps: verify the passwords and hash the new one. -/
def preparePassword (input : ChangePasswordInput) (found : Except AuthError User) :
    Except AuthError (User × String) :=
  match found with
  | .error _ => .error .unauthenticated
  | .ok user =>
      if user.enabled = false then .error .unauthenticated
      else if service.verify input.currentPassword user.passwordHash ≠ some true then
        .error .invalidCurrentPassword
      else
        match service.verify input.newPassword user.passwordHash with
        | none => .error .verifyReuse
        | some true => .error .passwordPolicy
        | some false =>
            match env.newHash with
            | none => .error .passwordPolicy
            | some newHash => .ok (user, newHash)

variable (store : MemoryStore)

/-- The first step of a call. None of them writes. -/
def beginRequest : Request → Stage
  | .login input =>
      match prepareLogin service env input
        (store.findUserByUsername service.lower input.username) with
      | .error e => .finished (.failed e)
      | .ok (token, session, user) => .createSession token session user
  | .authenticate token =>
      match validatedTokenDigest token with
      | none => .finished (.failed .unauthenticated)
      | some digest =>
          match admitSession service env (store.findSessionByDigest digest) with
          | .error e => .finished (.failed e)
          | .ok session => .findUser digest session env.now
  | .changePassword input =>
      match preparePassword service env input (store.findUserByID input.userID) with
      | .error e => .finished (.failed e)
      | .ok (user, newHash) => .savePassword user newHash
  | .revokeSession input =>
      match store.findUserByID input.userID with
      | .error _ => .finished (.failed .unauthenticated)
      | .ok user =>
          if user.enabled = false then .finished (.failed .unauthenticated)
          else if validSessionID input.sessionID then .findTarget user input
          else .finished (.failed .notFound)
  | .revokeAllSessions userID =>
      match store.findUserByID userID with
      | .error _ => .finished (.failed .unauthenticated)
      | .ok user =>
          if user.enabled = false then .finished (.failed .unauthenticated)
          else if env.audited then .revokeAll user.id
          else .finished (.failed .auditUnavailable)
  | .logout token =>
      match validatedTokenDigest token with
      | none => .finished .loggedOut
      | some digest =>
          match store.findSessionByDigest digest with
          | .error _ => .finished .loggedOut
          | .ok _ => .revokeDigest digest

/-- One step of a call: the store and the stage after it, and what it did to the store. -/
def Stage.step : Stage → MemoryStore × Stage × StoreEvent
  | .begin request => (store, beginRequest service env store request, .other)
  | .createSession token session user =>
      match store.createSession session user.passwordHash with
      | (store, .error e) => (store, .finished (.failed e), .other)
      | (store, .ok ()) =>
          let next := if env.audited then .setLastLogin token session user
            else .revokeIssued session
          (store, next, .created session user.passwordHash)
  | .revokeIssued session =>
      ((store.revokeSessionByDigest session.tokenDigest session.createdAt).1,
        .finished (.failed .auditUnavailable), .other)
  | .setLastLogin token session user =>
      ((store.setLastLogin user.id session.createdAt).1, .finished (.issued token session user),
        .other)
  | .findUser digest session now =>
      match admitUser session (store.findUserByID session.userID) with
      | .error e => (store, .finished (.failed e), .other)
      | .ok user => (store, .touch digest session user now, .other)
  | .touch digest session user now =>
      match store.touchSessionByDigest digest now with
      | (store, .error _) => (store, .finished (.failed .unauthenticated), .other)
      | (store, .ok ()) =>
          (store, .finished (.authenticated { session with lastActivityAt := now } user),
            .authenticated digest session)
  | .savePassword user newHash =>
      match store.changePasswordAndRevokeSessions user.id user.passwordHash newHash env.now with
      | (store, .error e) => (store, .finished (.failed e), .other)
      | (store, .ok ()) =>
          let outcome := if env.audited then .passwordChanged else .failed .auditUnavailable
          (store, .finished outcome, .changed user.id newHash)
  | .findTarget user input =>
      match store.findSessionForUserByID user.id input.sessionID with
      | .error _ => (store, .finished (.failed .notFound), .other)
      | .ok target =>
          if target.activeAt env.now service.sessionIdleTimeout = false ∨
              target.credentialVersion ≠ user.passwordChangedAt then
            (store, .finished (.failed .notFound), .other)
          else if env.audited then
            (store, .revokeTarget user.id target (target.id == input.currentSessionID) env.now,
              .other)
          else (store, .finished (.failed .auditUnavailable), .other)
  | .revokeTarget userID target current now =>
      match store.revokeSessionForUserByID userID target.id now with
      | (store, .error e) => (store, .finished (.failed e), .other)
      | (store, .ok ()) =>
          let outcome := if env.audited then .sessionRevoked target.id current
            else .failed .auditUnavailable
          (store, .finished outcome, .other)
  | .revokeAll userID =>
      let (store, count) := store.revokeSessionsForUser userID env.now
      let outcome := if env.audited then .sessionsRevoked count else .failed .auditUnavailable
      (store, .finished outcome, .other)
  | .revokeDigest digest =>
      let (store, _) := store.revokeSessionByDigest digest env.now
      (store, .finished (if env.audited then .loggedOut else .failed .auditUnavailable), .other)
  | .finished outcome => (store, .finished outcome, .other)

end

/-! ## Runs -/

/-- The store and the calls that were started. -/
structure AuthWorld where
  store : MemoryStore
  calls : List Stage

/-- Start a call, or let one take its next step. -/
inductive AuthOp where
  | start (request : Request)
  | advance (call : Nat) (env : Surroundings)

def AuthWorld.step (service : Service) (w : AuthWorld) : AuthOp → AuthWorld × StoreEvent
  | .start request => ({ w with calls := w.calls ++ [.begin request] }, .other)
  | .advance call env =>
      match w.calls[call]? with
      | none => (w, .other)
      | some stage =>
          let (store, next, event) := stage.step service env w.store
          (⟨store, w.calls.set call next⟩, event)

def authMachine (service : Service) : Machine AuthWorld AuthOp StoreEvent :=
  ⟨AuthWorld.step service⟩

/-! ## What one step writes -/

theorem Stage.step_writes (service : Service) (env : Surroundings) (store : MemoryStore)
    (stage : Stage) :
    store.Writes (stage.step service env store).2.2 (stage.step service env store).1 := by
  have unchanged := MemoryStore.Writes.refl store .other nofun
  cases stage with
  | begin request => exact unchanged
  | createSession token session user =>
      simp only [Stage.step]
      split
      · next store' e failed =>
          rw [MemoryStore.createSession_error failed]
          exact unchanged
      · next store' created => exact MemoryStore.createSession_writes created
  | revokeIssued session =>
      exact MemoryStore.revokeSessionByDigest_writes store session.tokenDigest session.createdAt
  | setLastLogin token session user =>
      exact MemoryStore.setLastLogin_writes store user.id session.createdAt
  | findUser digest session now =>
      simp only [Stage.step]
      split
      · exact unchanged
      · exact unchanged
  | touch digest session user now =>
      simp only [Stage.step]
      split
      · next store' e failed => exact MemoryStore.touchSession_writes .other nofun failed
      · next store' touched =>
          exact MemoryStore.touchSession_writes (.authenticated digest session) nofun touched
  | savePassword user newHash =>
      simp only [Stage.step]
      split
      · next store' e failed =>
          rw [MemoryStore.changePassword_error failed]
          exact unchanged
      · next store' changed => exact MemoryStore.changePassword_writes changed
  | findTarget user input =>
      simp only [Stage.step]
      split
      · exact unchanged
      · split
        · exact unchanged
        · split
          · exact unchanged
          · exact unchanged
  | revokeTarget userID target current now =>
      have writes := MemoryStore.revokeSessionForUserByID_writes store userID target.id now
      simp only [Stage.step]
      split
      · next revoked =>
          rw [revoked] at writes
          exact writes
      · next revoked =>
          rw [revoked] at writes
          exact writes
  | revokeAll userID => exact MemoryStore.revokeSessionsForUser_writes store userID env.now
  | revokeDigest digest => exact MemoryStore.revokeSessionByDigest_writes store digest env.now
  | finished outcome => exact unchanged

variable {store : MemoryStore} {stage : Stage} {digest : String} {session : Session}

/-- A step that authenticates touches the session its call has found. -/
theorem Stage.step_authenticated {service : Service} {env : Surroundings}
    (done : (stage.step service env store).2.2 = .authenticated digest session) :
    (∃ user now, stage = .touch digest session user now) ∧
      ∃ row, store.sessionsByDigest.lookup digest = some row ∧ row.revokedAt = none := by
  cases stage with
  | touch digest' session' user now =>
      simp only [Stage.step] at done
      split at done
      · cases done
      · next store' touched =>
          cases done
          exact ⟨⟨user, now, rfl⟩, MemoryStore.touchSession_ok touched⟩
  | createSession token created user =>
      simp only [Stage.step] at done
      split at done <;> cases done
  | savePassword user newHash =>
      simp only [Stage.step] at done
      split at done <;> cases done
  | findUser digest' session' now =>
      simp only [Stage.step] at done
      split at done <;> cases done
  | findTarget user input =>
      simp only [Stage.step] at done
      split at done
      · cases done
      · split at done
        · cases done
        · split at done <;> cases done
  | revokeTarget userID target current now =>
      simp only [Stage.step] at done
      split at done <;> cases done
  | begin request => cases done
  | revokeIssued session' => cases done
  | setLastLogin token session' user => cases done
  | revokeAll userID => cases done
  | revokeDigest digest' => cases done
  | finished outcome => cases done

/-- What the last steps of `Logout`, `RevokeSession` and `RevokeAllSessions` leave revoked. -/
def Stage.Revoked (store : MemoryStore) : Stage → Prop
  | .revokeDigest digest => ∀ row, store.sessionsByDigest.lookup digest = some row →
      row.revokedAt.isSome = true
  | .revokeTarget userID target _ _ => ∃ digest row,
      store.sessionsByDigest.lookup digest = some row ∧ row.userID = userID ∧
        row.id = target.id ∧ row.revokedAt.isSome = true
  | .revokeAll userID => ∀ digest row, store.sessionsByDigest.lookup digest = some row →
      row.userID = userID → row.revokedAt.isSome = true
  | _ => True

theorem Stage.step_revoked {service : Service} {env : Surroundings}
    (done : ∀ e, (stage.step service env store).2.1 ≠ .finished (.failed e)) :
    stage.Revoked (stage.step service env store).1 := by
  cases stage with
  | revokeDigest digest => exact fun row found => MemoryStore.revokeSessionByDigest_revoked found
  | revokeAll userID => exact fun digest row found own => MemoryStore.mapRows_revoked found own
  | revokeTarget userID target current now =>
      simp only [Stage.step] at done ⊢
      split at done
      · next e _ => exact absurd rfl (done e)
      · next revoked => exact MemoryStore.revokeSessionForUserByID_revoked revoked
  | _ => trivial

/-! ## What a call knows of its session -/

/-- The session a call has found is stored, for the same user. -/
def Knows (store : MemoryStore) (digest : String) (session : Session) : Prop :=
  ∃ row, store.sessionsByDigest.lookup digest = some row ∧ row.userID = session.userID

/-- A call of `Authenticate` knows its session. -/
def Stage.Informed (store : MemoryStore) : Stage → Prop
  | .findUser digest session _ => Knows store digest session
  | .touch digest session _ _ => Knows store digest session
  | _ => True

theorem Knows.after {s s' : MemoryStore} {event : StoreEvent} (writes : s.Writes event s')
    (knows : Knows s digest session) : Knows s' digest session := by
  obtain ⟨row, found, own⟩ := knows
  obtain ⟨later, present, continues⟩ := writes.stays digest row found
  exact ⟨later, present, continues.user.trans own⟩

theorem Stage.Informed.after {s s' : MemoryStore} {event : StoreEvent}
    (writes : s.Writes event s') (informed : stage.Informed s) : stage.Informed s' := by
  cases stage with
  | findUser digest session now => exact Knows.after writes informed
  | touch digest session user now => exact Knows.after writes informed
  | _ => trivial

theorem admitSession_ok {service : Service} {env : Surroundings}
    {found : Except AuthError Session} (admitted : admitSession service env found = .ok session) :
    found = .ok session := by
  unfold admitSession at admitted
  split at admitted
  · cases admitted
  · split at admitted
    · exact admitted
    · cases admitted

theorem admitUser_ok {found : Except AuthError User} {user : User}
    (admitted : admitUser session found = .ok user) :
    found = .ok user ∧ session.credentialVersion = user.passwordChangedAt := by
  unfold admitUser at admitted
  split at admitted
  · cases admitted
  · split at admitted
    · next agrees =>
        cases admitted
        exact ⟨rfl, agrees.2⟩
    · cases admitted

theorem MemoryStore.findSessionByDigest_ok
    (found : store.findSessionByDigest digest = .ok session) :
    store.sessionsByDigest.lookup digest = some session := by
  unfold findSessionByDigest at found
  split at found
  · cases found
  · next row present =>
      cases found
      exact present

theorem beginRequest_informed (service : Service) (env : Surroundings) (store : MemoryStore)
    (request : Request) : (beginRequest service env store request).Informed store := by
  cases request with
  | authenticate token =>
      simp only [beginRequest]
      generalize validatedTokenDigest token = checked
      split
      · trivial
      · split
        · trivial
        · next session admitted =>
            have found := MemoryStore.findSessionByDigest_ok (admitSession_ok admitted)
            exact ⟨session, found, rfl⟩
  | login input =>
      simp only [beginRequest]
      split <;> trivial
  | changePassword input =>
      simp only [beginRequest]
      split <;> trivial
  | revokeSession input =>
      simp only [beginRequest]
      generalize validSessionID input.sessionID = valid
      split
      · trivial
      · split
        · trivial
        · split <;> trivial
  | revokeAllSessions userID =>
      simp only [beginRequest]
      split
      · trivial
      · split
        · trivial
        · split <;> trivial
  | logout token =>
      simp only [beginRequest]
      generalize validatedTokenDigest token = checked
      split
      · trivial
      · split <;> trivial

theorem Stage.step_informed (service : Service) (env : Surroundings)
    (informed : stage.Informed store) :
    (stage.step service env store).2.1.Informed (stage.step service env store).1 := by
  cases stage with
  | begin request => exact beginRequest_informed service env store request
  | findUser digest session now =>
      simp only [Stage.step]
      split
      · trivial
      · exact informed
  | createSession token session user =>
      simp only [Stage.step]
      split
      · trivial
      · simp only
        split <;> trivial
  | touch digest session user now =>
      simp only [Stage.step]
      split <;> trivial
  | savePassword user newHash =>
      simp only [Stage.step]
      split <;> trivial
  | findTarget user input =>
      simp only [Stage.step]
      split
      · trivial
      · split
        · trivial
        · split <;> trivial
  | revokeTarget userID target current now =>
      simp only [Stage.step]
      split <;> trivial
  | revokeIssued session => trivial
  | setLastLogin token session user => trivial
  | revokeAll userID => trivial
  | revokeDigest digest => trivial
  | finished outcome => trivial

/-! ## Whole runs -/

def AuthWorld.Informed (w : AuthWorld) : Prop := ∀ stage ∈ w.calls, stage.Informed w.store

section

theorem authMachine_writes (service : Service) (w : AuthWorld) (op : AuthOp) :
    w.store.Writes ((authMachine service).answer w op) ((authMachine service).next w op).store := by
  cases op with
  | start request => exact .refl w.store .other nofun
  | advance call env =>
      simp only [Machine.answer, Machine.next, authMachine, AuthWorld.step]
      split
      · exact .refl w.store .other nofun
      · next stage _ => exact stage.step_writes service env w.store

variable {service : Service}

variable {w : AuthWorld}

theorem AuthWorld.Informed.next (informed : w.Informed) (op : AuthOp) :
    ((authMachine service).next w op).Informed := by
  cases op with
  | start request =>
      intro stage member
      rcases List.mem_append.mp member with old | new
      · exact informed stage old
      · rw [List.mem_singleton.mp new]
        trivial
  | advance call env =>
      have writes := authMachine_writes service w (.advance call env)
      simp only [Machine.answer, Machine.next, authMachine, AuthWorld.step] at writes ⊢
      split at writes
      · exact informed
      · next stage present =>
          simp only
          intro other member
          rcases List.mem_or_eq_of_mem_set member with old | rfl
          · exact (informed other old).after writes
          · exact Stage.step_informed service env
              (informed stage (List.mem_of_getElem? present))

/-- What a step that authenticates has met. -/
theorem authMachine_authenticated (informed : w.Informed) {op : AuthOp} {digest : String}
    {session : Session} (done : (authMachine service).answer w op = .authenticated digest session) :
    ∃ row, w.store.sessionsByDigest.lookup digest = some row ∧ row.revokedAt = none ∧
      row.userID = session.userID := by
  cases op with
  | start request => cases done
  | advance call env =>
      simp only [Machine.answer, authMachine, AuthWorld.step] at done
      split at done
      · cases done
      · next stage present =>
          obtain ⟨⟨user, now, rfl⟩, row, found, unrevoked⟩ := Stage.step_authenticated done
          obtain ⟨row', found', own⟩ := informed _ (List.mem_of_getElem? present)
          cases found.symm.trans found'
          exact ⟨row, found, unrevoked, own⟩

/-- The session under the digest is revoked. -/
def RevokedIn (digest : String) (w : AuthWorld) : Prop :=
  ∃ row, w.store.sessionsByDigest.lookup digest = some row ∧ row.revokedAt.isSome = true

/-- A revoked session stays revoked. -/
theorem RevokedIn.run {digest : String} (revoked : RevokedIn digest w) (ops : List AuthOp) :
    RevokedIn digest ((authMachine service).exec w ops) := by
  refine Machine.exec_keeps ?_ revoked ops
  rintro w op ⟨row, found, revoked⟩
  obtain ⟨later, present, continues⟩ := (authMachine_writes service w op).stays digest row found
  exact ⟨later, present, continues.revoked revoked⟩

theorem RevokedIn.not_authenticated {digest : String} (revoked : RevokedIn digest w)
    (informed : w.Informed) {op : AuthOp} {session : Session} :
    (authMachine service).answer w op ≠ .authenticated digest session := by
  intro authenticated
  obtain ⟨row, found, unrevoked, _⟩ := authMachine_authenticated informed authenticated
  obtain ⟨row', found', revoked⟩ := revoked
  cases found.symm.trans found'
  rw [unrevoked] at revoked
  cases revoked

/-- A call that revokes and goes on has revoked. -/
theorem authMachine_revokes {call : Nat} {env : Surroundings} {stage : Stage}
    (present : w.calls[call]? = some stage)
    (done : ∀ e, ((authMachine service).next w (.advance call env)).calls[call]? ≠
      some (.finished (.failed e))) :
    stage.Revoked ((authMachine service).next w (.advance call env)).store := by
  simp only [Machine.next, authMachine, AuthWorld.step, present] at done ⊢
  refine Stage.step_revoked fun e failed => done e ?_
  rw [List.getElem?_set_self (List.getElem?_eq_some_iff.mp present).1, failed]

/-- No session of the user under the digest is usable. -/
def CutOff (w : AuthWorld) (userID digest : String) : Prop :=
  ∀ row, w.store.sessionsByDigest.lookup digest = some row → row.userID = userID →
    row.revokedAt.isSome = true

/-- **Who is cut off comes back through a new session only**, created under the password hash
of its moment: the one from before the run, or one that the run has stored. -/
theorem CutOff.run {userID digest : String} (ops : List AuthOp) : ∀ {w : AuthWorld} {hash : String},
    CutOff w userID digest → w.store.passwordHash userID = some hash →
    ∀ {row : Session},
      ((authMachine service).exec w ops).store.sessionsByDigest.lookup digest = some row →
      row.userID = userID → row.revokedAt = none →
      ∃ e ∈ (authMachine service).trace w ops, ∃ session given,
        e.result = .created session given ∧ session.tokenDigest = digest ∧
        session.userID = userID ∧
        (given = hash ∨ ∃ later ∈ (authMachine service).trace w ops,
          later.result = .changed userID given) := by
  induction ops with
  | nil =>
      intro w hash cut _ row found own unrevoked
      have revoked := cut row found own
      rw [unrevoked] at revoked
      cases revoked
  | cons op ops ih =>
      intro w hash cut current row found own unrevoked
      have writes := authMachine_writes service w op
      by_cases still : CutOff ((authMachine service).next w op) userID digest
      · by_cases changes : ∃ new, (authMachine service).answer w op = .changed userID new
        · obtain ⟨new, changed⟩ := changes
          obtain ⟨e, member, session, given, created, key, user, source⟩ :=
            ih still (writes.changed userID new changed).1 found own unrevoked
          refine ⟨e, List.mem_cons_of_mem _ member, session, given, created, key, user, .inr ?_⟩
          rcases source with rfl | ⟨later, there, changed'⟩
          · exact ⟨_, List.mem_cons_self, changed⟩
          · exact ⟨later, List.mem_cons_of_mem _ there, changed'⟩
        · have kept := writes.password userID fun new changed => changes ⟨new, changed⟩
          obtain ⟨e, member, session, given, created, key, user, source⟩ :=
            ih still (kept.trans current) found own unrevoked
          refine ⟨e, List.mem_cons_of_mem _ member, session, given, created, key, user, ?_⟩
          exact source.imp id fun ⟨later, there, changed⟩ =>
            ⟨later, List.mem_cons_of_mem _ there, changed⟩
      · -- this step creates the session, under the hash the user has now
        simp only [CutOff, not_forall] at still
        obtain ⟨later, present, mine, usable⟩ := still
        cases before : w.store.sessionsByDigest.lookup digest with
        | some old =>
            obtain ⟨kept, there, continues⟩ := writes.stays digest old before
            cases present.symm.trans there
            exact absurd (continues.revoked (cut old before (continues.user.symm.trans mine)))
              usable
        | none =>
            obtain ⟨session, given, created, key, user, hashed⟩ :=
              writes.fresh digest later before present
            rw [mine] at user
            rw [← user, current] at hashed
            cases hashed
            exact ⟨_, List.mem_cons_self, session, hash, created, key, user.symm, .inl rfl⟩

/-- **A password change cuts off every session before it.** In every run from a store without
calls in flight, a step that authenticates after a password change of its user does so for a
session whose creation came after the change and was given the new password hash, or that of a
later change. Once a session is revoked, no step authenticates with its token. A logout or a
revocation that does not fail leaves its sessions revoked. -/
theorem password_change_cuts_off (service : Service) (store : MemoryStore) (ops : List AuthOp) :
    let run := (authMachine service).trace ⟨store, []⟩ ops
    (∀ before changing middle authenticating after userID newHash digest session,
      run = before ++ changing :: (middle ++ authenticating :: after) →
      changing.result = .changed userID newHash →
      authenticating.result = .authenticated digest session → session.userID = userID →
      ∃ creating ∈ middle, ∃ created given,
        creating.result = .created created given ∧ created.tokenDigest = digest ∧
        created.userID = userID ∧
        (given = newHash ∨ ∃ later ∈ middle, later.result = .changed userID given)) ∧
    (∀ before event middle authenticating after digest row session,
      run = before ++ event :: (middle ++ authenticating :: after) →
      event.after.store.sessionsByDigest.lookup digest = some row → row.revokedAt ≠ none →
      authenticating.result ≠ .authenticated digest session) ∧
    ∀ event ∈ run, ∀ call env stage, event.op = .advance call env →
      event.before.calls[call]? = some stage →
      (∀ e, event.after.calls[call]? ≠ some (.finished (.failed e))) →
      stage.Revoked event.after.store := by
  intro run
  have start : (⟨store, []⟩ : AuthWorld).Informed := fun _ member => absurd member (by simp)
  have stays : ∀ w ops, AuthWorld.Informed w → ((authMachine service).exec w ops).Informed :=
    fun _ ops informed => Machine.exec_keeps (fun _ op kept => kept.next op) informed ops
  refine ⟨?_, ?_, ?_⟩
  · intro before changing middle authenticating after userID newHash digest session split changed
      authenticated own
    obtain ⟨earlier, op, between, last, rfl, rfl, rfl, rfl⟩ := Machine.trace_eq_around split
    obtain ⟨row, found, unrevoked, user⟩ := authMachine_authenticated
      (stays _ between ((stays _ earlier start).next op)) authenticated
    obtain ⟨hashed, revoked⟩ := (authMachine_writes service _ op).changed userID newHash changed
    exact CutOff.run between (fun row found own => revoked digest row found own) hashed found
      (user.trans own) unrevoked
  · intro before event middle authenticating after digest row session split found revoked
    obtain ⟨earlier, op, between, last, rfl, rfl, rfl, rfl⟩ := Machine.trace_eq_around split
    have start' : RevokedIn digest ((authMachine service).next
        ((authMachine service).exec ⟨store, []⟩ earlier) op) :=
      ⟨row, found, Option.isSome_iff_ne_none.mpr revoked⟩
    exact (start'.run between).not_authenticated
      (stays _ between ((stays _ earlier start).next op))
  · intro event member call env stage isOp present done
    obtain ⟨earlier, op, later, -, rfl⟩ := Machine.mem_trace.mp member
    cases isOp
    exact authMachine_revokes present done

end

/-! ## A run -/

def plainService : Service where
  verify password hash := some (password == hash)
  lower := Char.toLower
  sessionTTL := 8 * 3600 * 1000000000
  sessionIdleTimeout := 2 * 3600 * 1000000000

def aliceStore : MemoryStore where
  usersByID := AList.singleton "u1" ⟨"u1", "alice", "Alice", "old", true, false, 1, 1, none⟩
  userIDByName := AList.singleton "alice" "u1"
  sessionsByDigest := ∅

def aliceToken : String := "AAAAAAAAAAAAAAAAAAAAAAAAAAAAAAAAAAAAAAAAAAA"

/-- The surroundings at an instant. -/
def quietAt (now : Time) : Surroundings := ⟨now, false, some aliceToken, "s1", some "new", true⟩

def aliceSession : Session where
  id := "s1"
  userID := "u1"
  tokenDigest := digestToken aliceToken
  credentialVersion := 11
  createdAt := 12
  lastActivityAt := 12
  expiresAt := Time.add 12 plainService.sessionTTL
  revokedAt := none
  sourceIP := ""
  userAgent := []

def changeOps : List AuthOp :=
  [.start (.changePassword ⟨"u1", "old", "new"⟩), .advance 0 (quietAt 10)]

def loginOps : List AuthOp :=
  [.start (.login ⟨"alice", "new", "", []⟩), .advance 1 (quietAt 12), .advance 1 (quietAt 13),
    .start (.authenticate aliceToken), .advance 2 (quietAt 14), .advance 2 (quietAt 15)]

/-- Alice before and after the step that stores the new password. -/
def aliceChanging : AuthWorld := (authMachine plainService).exec ⟨aliceStore, []⟩ changeOps

def aliceChanged : AuthWorld :=
  (authMachine plainService).next aliceChanging (.advance 0 (quietAt 11))

/-- A change of the password, a login with the new one and an authentication. -/
theorem password_change_cuts_off_alice :
    ((authMachine plainService).event aliceChanging (.advance 0 (quietAt 11))).result =
      .changed "u1" "new" ∧
    ((authMachine plainService).event ((authMachine plainService).exec aliceChanged loginOps)
      (.advance 2 (quietAt 16))).result = .authenticated (digestToken aliceToken) aliceSession ∧
    ∃ creating ∈ (authMachine plainService).trace aliceChanged loginOps, ∃ created given,
      creating.result = .created created given ∧ created.tokenDigest = digestToken aliceToken ∧
      created.userID = "u1" ∧
      (given = "new" ∨ ∃ later ∈ (authMachine plainService).trace aliceChanged loginOps,
        later.result = .changed "u1" given) := by
  have changed : ((authMachine plainService).event aliceChanging
      (.advance 0 (quietAt 11))).result = .changed "u1" "new" := by decide +kernel
  have authenticated : ((authMachine plainService).event
      ((authMachine plainService).exec aliceChanged loginOps) (.advance 2 (quietAt 16))).result =
      .authenticated (digestToken aliceToken) aliceSession := by decide +kernel
  have split := Machine.trace_around (M := authMachine plainService) ⟨aliceStore, []⟩ changeOps
    (.advance 0 (quietAt 11)) loginOps (.advance 2 (quietAt 16)) []
  exact ⟨changed, authenticated, (password_change_cuts_off plainService aliceStore _).1 _ _ _ _ _
    "u1" "new" (digestToken aliceToken) aliceSession split changed authenticated rfl⟩

end ControlCenter.Identity.Auth
