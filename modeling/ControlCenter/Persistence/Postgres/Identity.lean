import ControlCenter.Identity.Auth.Service
import ControlCenter.Persistence.Postgres.Jobs

/-!
# Sessions of one user in PostgreSQL

`internal/persistence/postgres/identity.go` under READ COMMITTED. The state is what is
committed, together with the transaction that holds the lock on the row of the user. A
`SELECT` is one step. A statement that writes has two: it starts, with the rows that are
committed then, and it ends, with the rows it finds when it may write. An update that meets
a locked row waits. A statement may fail at any time, and a password change is then rolled
back.

A row keeps, for the statements below, the password hash its insertion was given. Each
version of the user row is a pair of a hash and the instant of its change. A session that
authenticates was inserted with the very hash that `FindUserByID` has read
(`Tracks.authenticated`). So a touch that starts after a committed change succeeds for a
session of that or a later password exactly when the call has read the user after the commit
(`authenticates_with_read_password`). A call that has read the user before the commit is not
cut off: the revoking update does not see a session that is inserted while the change is
open (`stale_session_authenticates`).
-/

set_option autoImplicit false

namespace ControlCenter.Postgres.Sessions

open Library Identity.Auth

/-- A row of `cc_auth_sessions`, with the hash its insertion was given. -/
structure StoredSession where
  session : Session
  givenHash : String
  deriving DecidableEq

/-- A change that has updated the row of the user and is not committed. -/
structure OpenChange where
  newHash : String
  changedAt : Time
  revoked : List String
  deriving DecidableEq

/-- What is committed, and the transaction that holds the row of the user. -/
structure IdentityStore where
  user : User
  sessions : Table StoredSession
  change : Option OpenChange

inductive IdentityRequest where
  | login (input : LoginInput)
  | authenticate (token : String)
  | changePassword (input : ChangePasswordInput)
  deriving DecidableEq

/-- Where a call stands. A stage that ends in `ing` is inside a statement that writes. -/
inductive IdentityStage where
  | begin (request : IdentityRequest)
  | insert (token : String) (session : Session) (user : User)
  | inserting (token : String) (session : Session) (user : User)
  | findUser (digest : String) (session : Session) (now : Time)
  | touch (digest : String) (session : Session) (user : User) (now : Time)
  | touching (digest : String) (session : Session) (user : User) (now : Time)
  | updateUser (user : User) (newHash : String)
  | updatingUser (user : User) (newHash : String) (changedAt : Time)
  | revoke
  | revoking (digests : List String)
  | commit
  | finished (outcome : Outcome)
  deriving DecidableEq

/-- What a step shows of itself. -/
inductive IdentityEvent where
  | other
  | userRead (call : Nat)
  | touchStarted (call : Nat)
  | authenticated (call : Nat) (digest givenHash : String)
  | committed (newHash : String) (changedAt : Time)
  deriving DecidableEq

namespace IdentityStore

/-- The answer of a `SELECT` that may fail. -/
def selected {α : Type} (fails : Bool) (found : Except AuthError α) : Except AuthError α :=
  if fails then .error .notFound else found

def findUserByUsername (lower : Char → Char) (s : IdentityStore) (username : String) :
    Except AuthError User :=
  if (trimSpace username).toList.map lower = s.user.username.toList.map lower then .ok s.user
  else .error .notFound

def findUserByID (s : IdentityStore) (id : String) : Except AuthError User :=
  if id = s.user.id then .ok s.user else .error .notFound

def findSessionByDigest (s : IdentityStore) (digest : String) : Except AuthError Session :=
  match s.sessions.lookup digest with
  | none => .error .notFound
  | some row => .ok row.session

/-- The values of the inserted row, in the columns of the table. -/
def sessionRow (session : Session) (hash : String) : StoredSession where
  session := { session with
    credentialVersion := microseconds session.credentialVersion
    createdAt := microseconds session.createdAt
    lastActivityAt := microseconds session.activityAt
    expiresAt := microseconds session.expiresAt
    revokedAt := none }
  givenHash := hash

/-- The constraints of the table on the times of a row. -/
def wellTimed (session : Session) : Bool :=
  decide (session.createdAt < session.expiresAt) &&
    decide (session.createdAt ≤ session.lastActivityAt) &&
    decide (session.lastActivityAt ≤ session.expiresAt)

/-- The condition of the statement that touches a session. -/
def touchable (t : Time) (row : StoredSession) : Bool :=
  row.session.revokedAt.isNone && decide (microseconds t < row.session.expiresAt)

/-- `GREATEST(last_activity_at, $2)`. -/
def touchRow (t : Time) (row : StoredSession) : StoredSession :=
  { row with session :=
    { row.session with lastActivityAt := max row.session.lastActivityAt (microseconds t) } }

/-- The sessions a statement sees that are not revoked. -/
def unrevoked (s : IdentityStore) : List String :=
  s.sessions.keys.filter fun digest =>
    (s.sessions.lookup digest).any fun row => row.session.revokedAt.isNone

def revokeRow (revoked : List String) (t : Time) (row : StoredSession) : StoredSession :=
  if row.session.tokenDigest ∈ revoked then { row with session := row.session.revoke t } else row

/-- The committed change: the new version of the user, and the revoked sessions. -/
def publish (s : IdentityStore) (c : OpenChange) : IdentityStore where
  user := { s.user with
    passwordHash := c.newHash
    passwordChangeRequired := false
    passwordChangedAt := c.changedAt }
  sessions := s.sessions.mapRows (revokeRow c.revoked c.changedAt)
  change := none

end IdentityStore

open IdentityStore

/-- A call that ends with an error, and the store without the change it has rolled back. -/
def rolledBack (s : IdentityStore) (e : AuthError) :
    IdentityStore × IdentityStage × IdentityEvent :=
  ({ s with change := none }, .finished (.failed e), .other)

/-- One step of a call. When the statement fails, the call ends. -/
def IdentityStage.step (service : Service) (env : Surroundings) (fails : Bool) (call : Nat)
    (s : IdentityStore) : IdentityStage → IdentityStore × IdentityStage × IdentityEvent
  | .begin (.login input) =>
      match prepareLogin service env input
        (selected fails (s.findUserByUsername service.lower input.username)) with
      | .error e => (s, .finished (.failed e), .other)
      | .ok (token, session, user) => (s, .insert token session user, .other)
  | .begin (.authenticate token) =>
      match validatedTokenDigest token with
      | none => (s, .finished (.failed .unauthenticated), .other)
      | some digest =>
          match admitSession service env (selected fails (s.findSessionByDigest digest)) with
          | .error e => (s, .finished (.failed e), .other)
          | .ok session => (s, .findUser digest session env.now, .other)
  | .begin (.changePassword input) =>
      match preparePassword service env input (selected fails (s.findUserByID input.userID)) with
      | .error e => (s, .finished (.failed e), .other)
      | .ok (user, newHash) => (s, .updateUser user newHash, .other)
  | .insert token session user =>
      if fails = false ∧ s.user.id = session.userID ∧ s.user.passwordHash = user.passwordHash then
        (s, .inserting token session user, .other)
      else (s, .finished (.failed .conflict), .other)
  | .inserting token session user =>
      let row := sessionRow session user.passwordHash
      if fails = true ∨ (s.sessions.lookup session.tokenDigest).isSome ∨
          wellTimed row.session = false then
        (s, .finished (.failed .conflict), .other)
      else
        ({ s with sessions := s.sessions.insert session.tokenDigest row },
          .finished (.issued token session user), .other)
  | .findUser digest session now =>
      match admitUser session (selected fails (s.findUserByID session.userID)) with
      | .error e => (s, .finished (.failed e), .userRead call)
      | .ok user => (s, .touch digest session user now, .userRead call)
  | .touch digest session user now =>
      if fails = false ∧ (s.sessions.lookup digest).any (touchable now) = true then
        (s, .touching digest session user now, .touchStarted call)
      else (s, .finished (.failed .unauthenticated), .touchStarted call)
  | .touching digest session user now =>
      if (s.change.any fun c => decide (digest ∈ c.revoked)) = true then
        (s, .touching digest session user now, .other)
      else
        match s.sessions.lookup digest with
        | none => (s, .finished (.failed .unauthenticated), .other)
        | some row =>
            if fails = false ∧ touchable now row = true then
              ({ s with sessions := s.sessions.insert digest (touchRow now row) },
                .finished (.authenticated session user),
                .authenticated call digest row.givenHash)
            else (s, .finished (.failed .unauthenticated), .other)
  | .updateUser user newHash =>
      if fails = false ∧ s.user.id = user.id ∧ s.user.passwordHash = user.passwordHash then
        (s, .updatingUser user newHash (microseconds env.now), .other)
      else (s, .finished (.failed .conflict), .other)
  | .updatingUser user newHash changedAt =>
      if s.change.isSome then (s, .updatingUser user newHash changedAt, .other)
      else if fails = false ∧ s.user.passwordHash = user.passwordHash then
        ({ s with change := some ⟨newHash, changedAt, []⟩ }, .revoke, .other)
      else (s, .finished (.failed .conflict), .other)
  | .revoke =>
      if fails then rolledBack s .conflict else (s, .revoking s.unrevoked, .other)
  | .revoking digests =>
      match s.change with
      | none => rolledBack s .conflict
      | some c =>
          let revoked := digests.filter fun digest => decide (digest ∈ s.unrevoked)
          -- the table holds no session that was revoked before it was created
          let timed := revoked.all fun digest =>
            (s.sessions.lookup digest).all fun row => decide (row.session.createdAt ≤ c.changedAt)
          if fails = false ∧ timed = true then
            ({ s with change := some { c with revoked := revoked } }, .commit, .other)
          else rolledBack s .conflict
  | .commit =>
      match s.change with
      | none => rolledBack s .conflict
      | some c =>
          if fails then rolledBack s .conflict
          else (s.publish c, .finished .passwordChanged, .committed c.newHash c.changedAt)
  | .finished outcome => (s, .finished outcome, .other)

/-! ## Runs -/

structure IdentityWorld where
  store : IdentityStore
  calls : List IdentityStage

inductive IdentityOp where
  | start (request : IdentityRequest)
  | advance (call : Nat) (env : Surroundings) (fails : Bool)

def IdentityWorld.step (service : Service) (w : IdentityWorld) :
    IdentityOp → IdentityWorld × IdentityEvent
  | .start request => ({ w with calls := w.calls ++ [.begin request] }, .other)
  | .advance call env fails =>
      match w.calls[call]? with
      | none => (w, .other)
      | some stage =>
          let (store, next, event) := stage.step service env fails call w.store
          (⟨store, w.calls.set call next⟩, event)

def identityMachine (service : Service) : Machine IdentityWorld IdentityOp IdentityEvent :=
  ⟨IdentityWorld.step service⟩

/-- A user in the table, without sessions and without calls. -/
def IdentityWorld.new (user : User) : IdentityWorld where
  store := {
    user := { user with passwordChangedAt := microseconds user.passwordChangedAt }
    sessions := ∅
    change := none }
  calls := []

/-! ## Versions of the user -/

/-- The version of the password a user row has. -/
def version (user : User) : String × Time := (user.passwordHash, user.passwordChangedAt)

/-- The version a step commits. -/
def IdentityEvent.versions : IdentityEvent → List (String × Time)
  | .committed newHash changedAt => [(newHash, changedAt)]
  | _ => []

/-- The versions that the events of a run commit. -/
def committedVersions (events : List (Event IdentityWorld IdentityOp IdentityEvent)) :
    List (String × Time) :=
  events.flatMap fun e => e.result.versions

theorem mem_committedVersions {events : List (Event IdentityWorld IdentityOp IdentityEvent)}
    {v : String × Time} :
    v ∈ committedVersions events ↔ ∃ e ∈ events, e.result = .committed v.1 v.2 := by
  rw [committedVersions, List.mem_flatMap]
  refine exists_congr fun e => and_congr_right fun _ => ?_
  cases e.result <;> simp [IdentityEvent.versions, Prod.ext_iff, eq_comm]

theorem committedVersions_append
    (first second : List (Event IdentityWorld IdentityOp IdentityEvent)) :
    committedVersions (first ++ second) = committedVersions first ++ committedVersions second :=
  List.flatMap_append

theorem committedVersions_cons (e : Event IdentityWorld IdentityOp IdentityEvent)
    (events : List (Event IdentityWorld IdentityOp IdentityEvent)) :
    committedVersions (e :: events) = e.result.versions ++ committedVersions events :=
  List.flatMap_cons

/-- The session a call has found is stored, with the same version. -/
def Stored (s : IdentityStore) (digest : String) (session : Session) : Prop :=
  ∃ row, s.sessions.lookup digest = some row ∧
    row.session.credentialVersion = session.credentialVersion

/-- What a call carries belongs to a version of the user. -/
def IdentityStage.Tracked (versions : List (String × Time)) (s : IdentityStore) :
    IdentityStage → Prop
  | .insert _ session user | .inserting _ session user =>
      (user.passwordHash, session.credentialVersion) ∈ versions
  | .findUser digest session _ => Stored s digest session
  | .touch digest session user _ | .touching digest session user _ =>
      Stored s digest session ∧ session.credentialVersion = user.passwordChangedAt ∧
        version user ∈ versions
  | .updatingUser _ _ changedAt => microseconds changedAt = changedAt
  | _ => True

/-- What is stored belongs to a version of the user. -/
structure Tracks (versions : List (String × Time)) (s : IdentityStore) : Prop where
  user : version s.user ∈ versions
  whole : ∀ v ∈ versions, microseconds v.2 = v.2
  change : ∀ c, s.change = some c → microseconds c.changedAt = c.changedAt
  rows : ∀ digest row, s.sessions.lookup digest = some row →
    (row.givenHash, row.session.credentialVersion) ∈ versions

/-- Rows stay, with their versions. -/
def KeepsRows (s s' : IdentityStore) : Prop :=
  ∀ digest row, s.sessions.lookup digest = some row →
    ∃ later, s'.sessions.lookup digest = some later ∧
      later.session.credentialVersion = row.session.credentialVersion

theorem KeepsRows.refl (s : IdentityStore) : KeepsRows s s := fun _ row found => ⟨row, found, rfl⟩

variable {s : IdentityStore} {stage : IdentityStage}

theorem IdentityStage.Tracked.mono {versions more : List (String × Time)} {s' : IdentityStore}
    (keeps : KeepsRows s s') (tracked : stage.Tracked versions s) :
    stage.Tracked (versions ++ more) s' := by
  have stored : ∀ {digest : String} {session : Session}, Stored s digest session →
      Stored s' digest session := by
    rintro digest session ⟨row, found, same⟩
    obtain ⟨later, present, kept⟩ := keeps digest row found
    exact ⟨later, present, kept.trans same⟩
  cases stage with
  | insert token session user => exact List.mem_append_left _ tracked
  | inserting token session user => exact List.mem_append_left _ tracked
  | findUser digest session now => exact stored tracked
  | touch digest session user now =>
      exact ⟨stored tracked.1, tracked.2.1, List.mem_append_left _ tracked.2.2⟩
  | touching digest session user now =>
      exact ⟨stored tracked.1, tracked.2.1, List.mem_append_left _ tracked.2.2⟩
  | updatingUser user newHash changedAt => exact tracked
  | begin request => trivial
  | updateUser user newHash => trivial
  | revoke => trivial
  | revoking digests => trivial
  | commit => trivial
  | finished outcome => trivial

/-! ## What one step keeps -/

/-- The three things a step keeps: what is stored, what the call carries, and the rows. -/
structure StepTracks (versions : List (String × Time)) (s : IdentityStore)
    (result : IdentityStore × IdentityStage × IdentityEvent) : Prop where
  store : Tracks (versions ++ result.2.2.versions) result.1
  stage : result.2.1.Tracked (versions ++ result.2.2.versions) result.1
  keeps : KeepsRows s result.1

section

variable {versions : List (String × Time)} {s : IdentityStore}

/-- A step that writes nothing. -/
theorem StepTracks.read (tracks : Tracks versions s) {next : IdentityStage} {event : IdentityEvent}
    (silent : event.versions = []) (tracked : next.Tracked versions s) :
    StepTracks versions s (s, next, event) := by
  refine ⟨?_, ?_, .refl s⟩
  · simpa [silent] using tracks
  · simpa [silent] using tracked

/-- A step that only opens, extends or drops the change. -/
theorem StepTracks.setChange (tracks : Tracks versions s) {change : Option OpenChange}
    (whole : ∀ c, change = some c → microseconds c.changedAt = c.changedAt)
    {next : IdentityStage} (tracked : next.Tracked versions s) :
    StepTracks versions s ({ s with change := change }, next, .other) := by
  refine ⟨?_, ?_, .refl s⟩
  · simp only [IdentityEvent.versions, List.append_nil]
    exact ⟨tracks.user, tracks.whole, whole, tracks.rows⟩
  · simp only [IdentityEvent.versions, List.append_nil]
    cases next <;> exact tracked

theorem StepTracks.rolledBack (tracks : Tracks versions s) (e : AuthError) :
    StepTracks versions s (rolledBack s e) :=
  .setChange tracks (fun _ none => absurd none (by simp)) trivial

/-- A step that inserts or replaces a row. -/
theorem StepTracks.insertRow (tracks : Tracks versions s) {digest : String} {row : StoredSession}
    (own : (row.givenHash, row.session.credentialVersion) ∈ versions)
    (kept : ∀ old, s.sessions.lookup digest = some old →
      row.session.credentialVersion = old.session.credentialVersion)
    {outcome : Outcome} {event : IdentityEvent} (silent : event.versions = []) :
    StepTracks versions s
      ({ s with sessions := s.sessions.insert digest row }, .finished outcome, event) := by
  refine ⟨?_, trivial, ?_⟩
  · rw [silent, List.append_nil]
    refine ⟨tracks.user, tracks.whole, tracks.change, fun key found present => ?_⟩
    simp only [Table.lookup_insert_ite] at present
    split at present
    · cases present
      exact own
    · exact tracks.rows key found present
  · intro key old found
    simp only [Table.lookup_insert_ite]
    split
    · next same =>
        rw [same] at found
        exact ⟨row, rfl, kept old found⟩
    · exact ⟨old, found, rfl⟩

theorem revokeRow_spec (revoked : List String) (t : Time) (row : StoredSession) :
    (revokeRow revoked t row).givenHash = row.givenHash ∧
      (revokeRow revoked t row).session.credentialVersion = row.session.credentialVersion := by
  unfold revokeRow
  split <;> exact ⟨rfl, rfl⟩

/-- The step that commits a change. -/
theorem StepTracks.publish (tracks : Tracks versions s) {c : OpenChange}
    (isOpen : s.change = some c) :
    StepTracks versions s
      (s.publish c, .finished .passwordChanged, .committed c.newHash c.changedAt) := by
  refine ⟨⟨?_, ?_, nofun, ?_⟩, trivial, ?_⟩
  · exact List.mem_append_right _ List.mem_cons_self
  · intro v member
    rcases List.mem_append.mp member with old | new
    · exact tracks.whole v old
    · rw [List.mem_singleton.mp new]
      exact tracks.change c isOpen
  · intro digest row found
    simp only [IdentityStore.publish, Table.lookup_mapRows, Option.map_eq_some_iff] at found
    obtain ⟨old, present, rfl⟩ := found
    obtain ⟨given, credential⟩ := revokeRow_spec c.revoked c.changedAt old
    rw [given, credential]
    exact List.mem_append_left _ (tracks.rows digest old present)
  · intro digest row found
    refine ⟨revokeRow c.revoked c.changedAt row, ?_, (revokeRow_spec _ _ row).2⟩
    simp [IdentityStore.publish, found]

theorem selected_ok {α : Type} {fails : Bool} {found : Except AuthError α} {a : α}
    (answered : selected fails found = .ok a) : found = .ok a := by
  unfold selected at answered
  split at answered
  · cases answered
  · exact answered

theorem findUserByID_ok {id : String} {user : User} (found : s.findUserByID id = .ok user) :
    user = s.user := by
  unfold IdentityStore.findUserByID at found
  split at found
  · exact (Except.ok.inj found).symm
  · cases found

theorem prepareLogin_ok {service : Service} {env : Surroundings} {input : LoginInput}
    {found : Except AuthError User} {token : String} {session : Session} {user : User}
    (prepared : prepareLogin service env input found = .ok (token, session, user)) :
    found = .ok user ∧ session.credentialVersion = user.passwordChangedAt := by
  unfold prepareLogin at prepared
  split at prepared
  · cases prepared
  · split at prepared
    · cases prepared
    · split at prepared
      · cases prepared
      · split at prepared
        · cases prepared
        · cases prepared
          exact ⟨rfl, rfl⟩

theorem findUserByUsername_ok {lower : Char → Char} {username : String} {user : User}
    (found : s.findUserByUsername lower username = .ok user) : user = s.user := by
  unfold IdentityStore.findUserByUsername at found
  split at found
  · exact (Except.ok.inj found).symm
  · cases found

theorem findSessionByDigest_ok {digest : String} {session : Session}
    (found : s.findSessionByDigest digest = .ok session) : Stored s digest session := by
  unfold IdentityStore.findSessionByDigest at found
  split at found
  · cases found
  · next row present =>
      cases found
      exact ⟨row, present, rfl⟩

/-- **What a step stores and carries belongs to a version of the user.** -/
theorem IdentityStage.step_tracks (service : Service) (env : Surroundings) (fails : Bool)
    (call : Nat) (tracks : Tracks versions s) {stage : IdentityStage}
    (tracked : stage.Tracked versions s) :
    StepTracks versions s (stage.step service env fails call s) := by
  have ends : ∀ outcome, StepTracks versions s (s, .finished outcome, .other) :=
    fun outcome => .read tracks rfl trivial
  cases stage with
  | begin request =>
      cases request with
      | login input =>
          simp only [IdentityStage.step]
          split
          · exact ends _
          · next token session user prepared =>
              obtain ⟨answered, same⟩ := prepareLogin_ok prepared
              have current := findUserByUsername_ok (selected_ok answered)
              refine .read tracks rfl ?_
              simp only [IdentityStage.Tracked]
              rw [same, current]
              exact tracks.user
      | authenticate token =>
          simp only [IdentityStage.step]
          generalize validatedTokenDigest token = checked
          split
          · exact ends _
          · split
            · exact ends _
            · next session admitted =>
                have answered := admitSession_ok admitted
                exact .read tracks rfl (findSessionByDigest_ok (selected_ok answered))
      | changePassword input =>
          simp only [IdentityStage.step]
          split
          · exact ends _
          · exact .read tracks rfl trivial
  | insert token session user =>
      simp only [IdentityStage.step]
      split
      · exact .read tracks rfl tracked
      · exact ends _
  | inserting token session user =>
      simp only [IdentityStage.step]
      split
      · exact ends _
      · next free =>
          simp only [not_or, Bool.not_eq_true, Option.isSome_eq_false_iff,
            Option.isNone_iff_eq_none] at free
          refine .insertRow tracks ?_ (fun old found => ?_) rfl
          · simp only [sessionRow]
            rw [tracks.whole _ tracked]
            exact tracked
          · rw [free.2.1] at found
            cases found
  | findUser digest session now =>
      simp only [IdentityStage.step]
      split
      · exact .read tracks rfl trivial
      · next user admitted =>
          obtain ⟨answered, same⟩ := admitUser_ok admitted
          have current := findUserByID_ok (selected_ok answered)
          exact .read tracks rfl ⟨tracked, same, current ▸ tracks.user⟩
  | touch digest session user now =>
      simp only [IdentityStage.step]
      split
      · exact .read tracks rfl tracked
      · exact .read tracks rfl trivial
  | touching digest session user now =>
      simp only [IdentityStage.step]
      split
      · exact .read tracks rfl tracked
      · split
        · exact ends _
        · next row found =>
            split
            · refine .insertRow tracks ?_ (fun old present => ?_) rfl
              · exact tracks.rows digest row found
              · rw [found] at present
                cases present
                rfl
            · exact ends _
  | updateUser user newHash =>
      simp only [IdentityStage.step]
      split
      · exact .read tracks rfl (Time.truncateMicrosecond_idem env.now)
      · exact ends _
  | updatingUser user newHash changedAt =>
      simp only [IdentityStage.step]
      split
      · exact .read tracks rfl tracked
      · split
        · refine .setChange tracks ?_ trivial
          rintro c ⟨⟩
          exact tracked
        · exact ends _
  | revoke =>
      simp only [IdentityStage.step]
      split
      · exact .rolledBack tracks _
      · exact .read tracks rfl trivial
  | revoking digests =>
      simp only [IdentityStage.step]
      split
      · exact .rolledBack tracks _
      · next c isOpen =>
          split
          · refine .setChange tracks ?_ trivial
            rintro c' ⟨⟩
            exact tracks.change c isOpen
          · exact .rolledBack tracks _
  | commit =>
      simp only [IdentityStage.step]
      split
      · exact .rolledBack tracks _
      · next c isOpen =>
          split
          · exact .rolledBack tracks _
          · exact .publish tracks isOpen
  | finished outcome => exact ends outcome

end

/-! ## What one step shows -/

/-- The stages before a call has read the user, and those of other calls. -/
def IdentityStage.Plain : IdentityStage → Prop
  | .touch .. | .touching .. | .finished _ => False
  | _ => True

/-- What a step of a call does to its stage, and what it shows. -/
inductive Moves (call : Nat) (s : IdentityStore) :
    IdentityStage → IdentityStore × IdentityStage × IdentityEvent → Prop where
  | goesOn {stage next : IdentityStage} {s' : IdentityStore} (plain : stage.Plain)
      (still : next.Plain) (user : s'.user = s.user) : Moves call s stage (s', next, .other)
  | ends {stage : IdentityStage} {outcome : Outcome} {s' : IdentityStore}
      (user : s'.user = s.user) : Moves call s stage (s', .finished outcome, .other)
  | reads (digest : String) (session : Session) (now : Time) :
      Moves call s (.findUser digest session now)
        (s, .touch digest session s.user now, .userRead call)
  | refused (digest : String) (session : Session) (now : Time) (outcome : Outcome) :
      Moves call s (.findUser digest session now) (s, .finished outcome, .userRead call)
  | starts (digest : String) (session : Session) (user : User) (now : Time) :
      Moves call s (.touch digest session user now)
        (s, .touching digest session user now, .touchStarted call)
  | misses (digest : String) (session : Session) (user : User) (now : Time) (outcome : Outcome) :
      Moves call s (.touch digest session user now) (s, .finished outcome, .touchStarted call)
  | waits (digest : String) (session : Session) (user : User) (now : Time) :
      Moves call s (.touching digest session user now)
        (s, .touching digest session user now, .other)
  | touches (digest : String) (session : Session) (user : User) (now : Time) {row : StoredSession}
      (found : s.sessions.lookup digest = some row) (outcome : Outcome) {s' : IdentityStore}
      (same : s'.user = s.user) : Moves call s (.touching digest session user now)
        (s', .finished outcome, .authenticated call digest row.givenHash)
  | commits (c : OpenChange) (outcome : Outcome) : Moves call s .commit
      (s.publish c, .finished outcome, .committed c.newHash c.changedAt)

theorem IdentityStage.step_moves (service : Service) (env : Surroundings) (fails : Bool)
    (call : Nat) (s : IdentityStore) (stage : IdentityStage) :
    Moves call s stage (stage.step service env fails call s) := by
  cases stage with
  | begin request =>
      cases request with
      | login input =>
          simp only [IdentityStage.step]
          split
          · exact .ends rfl
          · exact .goesOn trivial trivial rfl
      | authenticate token =>
          simp only [IdentityStage.step]
          generalize validatedTokenDigest token = checked
          split
          · exact .ends rfl
          · split
            · exact .ends rfl
            · exact .goesOn trivial trivial rfl
      | changePassword input =>
          simp only [IdentityStage.step]
          split
          · exact .ends rfl
          · exact .goesOn trivial trivial rfl
  | insert token session user =>
      simp only [IdentityStage.step]
      split
      · exact .goesOn trivial trivial rfl
      · exact .ends rfl
  | inserting token session user =>
      simp only [IdentityStage.step]
      split
      · exact .ends rfl
      · exact .ends rfl
  | findUser digest session now =>
      simp only [IdentityStage.step]
      split
      · exact .refused digest session now _
      · next user admitted =>
          rw [findUserByID_ok (selected_ok (admitUser_ok admitted).1)]
          exact .reads digest session now
  | touch digest session user now =>
      simp only [IdentityStage.step]
      split
      · exact .starts digest session user now
      · exact .misses digest session user now _
  | touching digest session user now =>
      simp only [IdentityStage.step]
      split
      · exact .waits digest session user now
      · split
        · exact .ends rfl
        · next row found =>
            split
            · exact .touches digest session user now found _ rfl
            · exact .ends rfl
  | updateUser user newHash =>
      simp only [IdentityStage.step]
      split
      · exact .goesOn trivial trivial rfl
      · exact .ends rfl
  | updatingUser user newHash changedAt =>
      simp only [IdentityStage.step]
      split
      · exact .goesOn trivial trivial rfl
      · split
        · exact .goesOn trivial trivial rfl
        · exact .ends rfl
  | revoke =>
      simp only [IdentityStage.step]
      split
      · exact .ends rfl
      · exact .goesOn trivial trivial rfl
  | revoking digests =>
      simp only [IdentityStage.step]
      split
      · exact .ends rfl
      · split
        · exact .goesOn trivial trivial rfl
        · exact .ends rfl
  | commit =>
      simp only [IdentityStage.step]
      split
      · exact .ends rfl
      · split
        · exact .ends rfl
        · exact .commits _ _
  | finished outcome => exact .ends rfl

variable {result : IdentityStore × IdentityStage × IdentityEvent}

/-- A step that authenticates ends the touch of its own call. -/
theorem Moves.authenticated {index call : Nat} (moves : Moves index s stage result)
    {digest given : String} (done : result.2.2 = .authenticated call digest given) :
    index = call ∧ ∃ session user now row, stage = .touching digest session user now ∧
      s.sessions.lookup digest = some row ∧ row.givenHash = given := by
  cases moves with
  | touches digest session user now found outcome same =>
      cases done
      exact ⟨rfl, session, user, now, _, rfl, found, rfl⟩
  | goesOn plain still user => cases done
  | ends user => cases done
  | reads digest session now => cases done
  | refused digest session now outcome => cases done
  | starts digest session user now => cases done
  | misses digest session user now outcome => cases done
  | waits digest session user now => cases done
  | commits c outcome => cases done

/-- A step that commits ends its call and publishes the change. -/
theorem Moves.committed {index : Nat} (moves : Moves index s stage result) {newHash : String}
    {changedAt : Time} (done : result.2.2 = .committed newHash changedAt) :
    version result.1.user = (newHash, changedAt) ∧ ∃ outcome, result.2.1 = .finished outcome := by
  cases moves with
  | commits c outcome =>
      cases done
      exact ⟨rfl, outcome, rfl⟩
  | goesOn plain still user => cases done
  | ends user => cases done
  | reads digest session now => cases done
  | refused digest session now outcome => cases done
  | starts digest session user now => cases done
  | misses digest session user now outcome => cases done
  | waits digest session user now => cases done
  | touches digest session user now found outcome same => cases done

/-- Only a call shows that it has read the user. -/
theorem Moves.userRead {index call : Nat} (moves : Moves index s stage result)
    (done : result.2.2 = .userRead call) : index = call := by
  cases moves <;> cases done <;> rfl

/-- A step leaves the user row in its version, or commits the new one. -/
theorem Moves.user_version {index : Nat} (moves : Moves index s stage result) :
    version result.1.user = version s.user ∨ version result.1.user ∈ result.2.2.versions := by
  cases moves with
  | goesOn plain still user => exact .inl (by rw [user])
  | ends user => exact .inl (by rw [user])
  | reads digest session now => exact .inl rfl
  | refused digest session now outcome => exact .inl rfl
  | starts digest session user now => exact .inl rfl
  | misses digest session user now outcome => exact .inl rfl
  | waits digest session user now => exact .inl rfl
  | touches digest session user now found outcome same => exact .inl (by rw [same])
  | commits c outcome => exact .inr List.mem_cons_self

/-! ## Whole runs -/

/-- What is stored and what the calls carry belongs to a version of the user. -/
structure IdentityWorld.Tracked (versions : List (String × Time)) (w : IdentityWorld) : Prop where
  store : Tracks versions w.store
  calls : ∀ stage ∈ w.calls, stage.Tracked versions w.store

section

variable {service : Service} {versions : List (String × Time)} {w : IdentityWorld}

theorem IdentityWorld.Tracked.new (user : User) :
    (IdentityWorld.new user).Tracked [version (IdentityWorld.new user).store.user] := by
  refine ⟨⟨List.mem_cons_self, ?_, nofun, ?_⟩, fun _ member => absurd member List.not_mem_nil⟩
  · intro v member
    rw [List.mem_singleton.mp member]
    exact Time.truncateMicrosecond_idem user.passwordChangedAt
  · intro digest row found
    simp [IdentityWorld.new] at found

theorem IdentityWorld.Tracked.next (service : Service) (tracked : w.Tracked versions)
    (op : IdentityOp) :
    ((identityMachine service).next w op).Tracked
      (versions ++ ((identityMachine service).answer w op).versions) := by
  cases op with
  | start request =>
      simp only [Machine.next, Machine.answer, identityMachine, IdentityWorld.step,
        IdentityEvent.versions, List.append_nil]
      refine ⟨tracked.store, fun stage member => ?_⟩
      rcases List.mem_append.mp member with old | new
      · exact tracked.calls stage old
      · rw [List.mem_singleton.mp new]
        trivial
  | advance call env fails =>
      simp only [Machine.next, Machine.answer, identityMachine, IdentityWorld.step]
      split
      · simpa [IdentityEvent.versions] using tracked
      · next stage present =>
          have step := IdentityStage.step_tracks service env fails call tracked.store
            (tracked.calls stage (List.mem_of_getElem? present))
          refine ⟨step.store, fun other member => ?_⟩
          rcases List.mem_or_eq_of_mem_set member with old | rfl
          · exact (tracked.calls other old).mono step.keeps
          · exact step.stage

theorem IdentityWorld.Tracked.run (service : Service) (ops : List IdentityOp) :
    ∀ {versions : List (String × Time)}
    {w : IdentityWorld}, w.Tracked versions →
    ((identityMachine service).exec w ops).Tracked
      (versions ++ committedVersions ((identityMachine service).trace w ops)) := by
  induction ops with
  | nil =>
      intro versions w tracked
      simpa [committedVersions] using tracked
  | cons op ops ih =>
      intro versions w tracked
      have later := ih (tracked.next service op)
      rw [List.append_assoc] at later
      exact later

/-- A step that authenticates ends the touch of its call. -/
theorem identityMachine_authenticated {op : IdentityOp} {call : Nat} {digest given : String}
    (done : (identityMachine service).answer w op = .authenticated call digest given) :
    ∃ session user now row, w.calls[call]? = some (.touching digest session user now) ∧
      w.store.sessions.lookup digest = some row ∧ row.givenHash = given := by
  cases op with
  | start request => cases done
  | advance index env fails =>
      simp only [Machine.answer, identityMachine, IdentityWorld.step] at done
      split at done
      · cases done
      · next stage present =>
          simp only at done
          obtain ⟨rfl, session, user, now, row, rfl, found, same⟩ :=
            (stage.step_moves service env fails index w.store).authenticated done
          exact ⟨session, user, now, row, present, found, same⟩

/-- **A session that authenticates was inserted with the password hash the call has read.** -/
theorem IdentityWorld.Tracked.authenticated (tracked : w.Tracked versions)
    (distinct : (versions.map Prod.snd).Nodup) {op : IdentityOp} {call : Nat}
    {digest given : String}
    (done : (identityMachine service).answer w op = .authenticated call digest given) :
    ∃ session user now, w.calls[call]? = some (.touching digest session user now) ∧
      version user ∈ versions ∧ given = user.passwordHash := by
  obtain ⟨session, user, now, row, present, found, rfl⟩ := identityMachine_authenticated done
  obtain ⟨⟨row', found', same⟩, agrees, member⟩ :=
    tracked.calls _ (List.mem_of_getElem? present)
  cases found.symm.trans found'
  refine ⟨session, user, now, present, member, ?_⟩
  have own := tracked.store.rows digest row found
  rw [same, agrees] at own
  have equal := List.inj_on_of_nodup_map distinct own member rfl
  exact congrArg Prod.fst equal

end

/-! ## When a call has read the user -/

/-- The call has read the user in one of the events. -/
def Reads (call : Nat) (events : List (Event IdentityWorld IdentityOp IdentityEvent)) : Prop :=
  ∃ e ∈ events, e.result = .userRead call

/-- Since some moment: a call that waits to touch its session has read the user then, in a newer
version, or before it, in an older one. -/
def Since (older newer : List (String × Time)) (read : Prop) : Option IdentityStage → Prop
  | some (.touch _ _ user _) | some (.touching _ _ user _) =>
      (read ∧ version user ∈ newer) ∨ (¬ read ∧ version user ∈ older)
  | some (.finished _) => True
  | _ => ¬ read

section

variable {service : Service} {older newer : List (String × Time)}

variable {read : Prop}

theorem Since.mono {stage : Option IdentityStage} (since : Since older newer read stage)
    (more : List (String × Time)) : Since older (newer ++ more) read stage := by
  cases stage with
  | none => exact since
  | some stage =>
      cases stage with
      | touch digest session user now =>
          exact since.imp (And.imp_right (List.mem_append_left _)) id
      | touching digest session user now =>
          exact since.imp (And.imp_right (List.mem_append_left _)) id
      | finished outcome => trivial
      | begin request => exact since
      | insert token session user => exact since
      | inserting token session user => exact since
      | findUser digest session now => exact since
      | updateUser user newHash => exact since
      | updatingUser user newHash changedAt => exact since
      | revoke => exact since
      | revoking digests => exact since
      | commit => exact since

theorem Since.of_plain {stage : IdentityStage} (plain : stage.Plain) :
    Since older newer read (some stage) ↔ ¬ read := by
  cases stage <;> first | exact Iff.rfl | exact absurd plain id

/-- One step of the call itself. -/
theorem Moves.since {call : Nat} {s : IdentityStore} {stage : IdentityStage}
    {result : IdentityStore × IdentityStage × IdentityEvent} (moves : Moves call s stage result)
    (since : Since older newer read (some stage)) (current : version s.user ∈ newer) :
    Since older (newer ++ result.2.2.versions) (read ∨ result.2.2 = .userRead call)
      (some result.2.1) := by
  cases moves with
  | goesOn plain still user =>
      rw [Since.of_plain plain] at since
      rw [Since.of_plain still]
      simpa using since
  | ends user => trivial
  | reads digest session now => exact .inl ⟨.inr rfl, List.mem_append_left _ current⟩
  | refused digest session now outcome => trivial
  | starts digest session user now => simpa [Since, IdentityEvent.versions] using since
  | misses digest session user now outcome => trivial
  | waits digest session user now => simpa [Since, IdentityEvent.versions] using since
  | touches digest session user now found outcome same => trivial
  | commits c outcome => trivial

/-- What is known of a call since some moment of a run. -/
structure SinceThen (older newer : List (String × Time)) (call : Nat) (read : Prop)
    (w : IdentityWorld) : Prop where
  current : version w.store.user ∈ newer
  call : Since older newer read w.calls[call]?

theorem SinceThen.next (service : Service) {call : Nat} {w : IdentityWorld}
    (since : SinceThen older newer call read w) (op : IdentityOp) :
    SinceThen older (newer ++ ((identityMachine service).answer w op).versions) call
      (read ∨ (identityMachine service).answer w op = .userRead call)
      ((identityMachine service).next w op) := by
  cases op with
  | start request =>
      simp only [Machine.next, Machine.answer, identityMachine, IdentityWorld.step,
        IdentityEvent.versions, List.append_nil, reduceCtorEq, or_false]
      refine ⟨since.current, ?_⟩
      by_cases inside : call < w.calls.length
      · rw [List.getElem?_append_left inside]
        exact since.call
      · have absent := since.call
        rw [List.getElem?_eq_none (by omega)] at absent
        by_cases new : call = w.calls.length
        · rw [new, List.getElem?_concat_length]
          exact absent
        · rw [List.getElem?_eq_none (by simp; omega)]
          exact absent
  | advance index env fails =>
      simp only [Machine.next, Machine.answer, identityMachine, IdentityWorld.step]
      split
      · simpa [IdentityEvent.versions] using since
      · next stage present =>
          have moves := stage.step_moves service env fails index w.store
          refine ⟨?_, ?_⟩
          · rcases moves.user_version with same | new
            · simp only [same]
              exact List.mem_append_left _ since.current
            · exact List.mem_append_right _ new
          · by_cases own : index = call
            · subst own
              have before := since.call
              rw [present] at before
              obtain ⟨inside, _⟩ := List.getElem?_eq_some_iff.mp present
              simp only [List.getElem?_set_self inside]
              exact moves.since before since.current
            · have other : (stage.step service env fails index w.store).2.2 ≠ .userRead call :=
                fun shown => own (moves.userRead shown)
              simp only [List.getElem?_set_ne own, other, or_false]
              exact since.call.mono _

theorem SinceThen.run (service : Service) {call : Nat} (ops : List IdentityOp) :
    ∀ {newer : List (String × Time)}
    {read : Prop} {w : IdentityWorld}, SinceThen older newer call read w →
    SinceThen older (newer ++ committedVersions ((identityMachine service).trace w ops)) call
      (read ∨ Reads call ((identityMachine service).trace w ops))
      ((identityMachine service).exec w ops) := by
  induction ops with
  | nil =>
      intro newer read w since
      simpa [committedVersions, Reads] using since
  | cons op ops ih =>
      intro newer read w since
      have later := ih (since.next service op)
      rw [List.append_assoc, or_assoc] at later
      have reads : Reads call ((identityMachine service).trace w (op :: ops)) ↔
          (identityMachine service).answer w op = .userRead call ∨
            Reads call ((identityMachine service).trace ((identityMachine service).next w op)
              ops) := List.exists_mem_cons_iff ..
      rw [reads, Machine.trace_cons, committedVersions_cons]
      exact later

/-- When a change is committed, every call that waits to touch has read an older version. -/
theorem SinceThen.of_committed {versions : List (String × Time)} {w : IdentityWorld}
    (tracked : w.Tracked versions) {op : IdentityOp} {newHash : String} {changedAt : Time}
    (done : (identityMachine service).answer w op = .committed newHash changedAt) (call : Nat) :
    SinceThen versions [(newHash, changedAt)] call False ((identityMachine service).next w op) := by
  cases op with
  | start request => cases done
  | advance index env fails =>
      simp only [Machine.next, Machine.answer, identityMachine, IdentityWorld.step] at done ⊢
      split at done
      · cases done
      · next stage present =>
          obtain ⟨published, outcome, ended⟩ :=
            (stage.step_moves service env fails index w.store).committed done
          refine ⟨by simp only [published, List.mem_singleton], ?_⟩
          obtain ⟨inside, _⟩ := List.getElem?_eq_some_iff.mp present
          by_cases own : index = call
          · subst own
            simp only [List.getElem?_set_self inside, ended]
            trivial
          · simp only [List.getElem?_set_ne own]
            cases waiting : w.calls[call]? with
            | none => exact id
            | some other =>
                have carried := tracked.calls other (List.mem_of_getElem? waiting)
                cases other with
                | touch digest session user now => exact .inr ⟨id, carried.2.2⟩
                | touching digest session user now => exact .inr ⟨id, carried.2.2⟩
                | finished outcome => trivial
                | begin request => exact id
                | insert token session user => exact id
                | inserting token session user => exact id
                | findUser digest session now => exact id
                | updateUser user newHash => exact id
                | updatingUser user newHash changedAt => exact id
                | revoke => exact id
                | revoking digests => exact id
                | commit => exact id

end

/-- **A committed change cuts off exactly the calls that read the user after it.** In every run
in which password hashes and the instants of their changes do not repeat, a step that
authenticates after the commit of a change does so for a session that was inserted with the
hash of that or a later change exactly when its call has read the user since the commit. -/
theorem authenticates_with_read_password (service : Service) (user : User)
    (ops : List IdentityOp) :
    let start := IdentityWorld.new user
    let run := (identityMachine service).trace start ops
    let versions := version start.store.user :: committedVersions run
    (versions.map Prod.fst).Nodup → (versions.map Prod.snd).Nodup →
    ∀ before committing middle authenticating after newHash changedAt call digest given,
      run = before ++ committing :: (middle ++ authenticating :: after) →
      committing.result = .committed newHash changedAt →
      authenticating.result = .authenticated call digest given →
      ((given = newHash ∨ ∃ later ∈ middle, ∃ t, later.result = .committed given t) ↔
        Reads call middle) := by
  intro start run versions hashes instants before committing middle authenticating after newHash
    changedAt call digest given split committed authenticated
  -- the versions up to the touch are the first ones of the run
  have part : versions = (version start.store.user :: committedVersions before) ++
      ((newHash, changedAt) :: committedVersions middle) ++
      committedVersions (authenticating :: after) := by
    have listed : versions = version start.store.user :: committedVersions run := rfl
    rw [listed, split, committedVersions_append, committedVersions_cons, committedVersions_append]
    simp [committed, IdentityEvent.versions]
  rw [part, List.map_append] at hashes instants
  replace hashes := (List.nodup_append.mp hashes).1
  replace instants := (List.nodup_append.mp instants).1
  obtain ⟨earlier, op, between, last, traced, rfl, same, rfl⟩ := Machine.trace_eq_around split
  have old : IdentityWorld.Tracked (version start.store.user :: committedVersions before)
      ((identityMachine service).exec start earlier) := by
    have tracked := (IdentityWorld.Tracked.new user).run service earlier
    rwa [traced] at tracked
  have since := (SinceThen.of_committed old committed call).run service between
  have tracked := (old.next service op).run service between
  have shown : ((identityMachine service).answer ((identityMachine service).exec start earlier)
      op).versions = [(newHash, changedAt)] := by
    have result : (identityMachine service).answer ((identityMachine service).exec start earlier)
      op = .committed newHash changedAt := committed
    rw [result]
    rfl
  rw [same, List.singleton_append, false_or] at since
  rw [same, shown, List.append_assoc, List.singleton_append] at tracked
  obtain ⟨session, read, now, waiting, member, rfl⟩ := tracked.authenticated instants authenticated
  have known := since.call
  rw [waiting] at known
  constructor
  · intro newer
    have hash : read.passwordHash ∈
        ((newHash, changedAt) :: committedVersions middle).map Prod.fst := by
      rcases newer with rfl | ⟨e, there, t, result⟩
      · exact List.mem_cons_self
      · exact List.mem_cons_of_mem _ (List.mem_map_of_mem (f := Prod.fst)
          (mem_committedVersions (v := (read.passwordHash, t)).mpr ⟨e, there, result⟩))
    rcases known with ⟨reads, _⟩ | ⟨_, older⟩
    · exact reads
    · rw [List.map_append] at hashes
      have there : read.passwordHash ∈
          (version start.store.user :: committedVersions before).map Prod.fst :=
        List.mem_map_of_mem (f := Prod.fst) older
      exact absurd rfl ((List.nodup_append.mp hashes).2.2 _ there _ hash)
  · intro reads
    rcases known with ⟨_, newer⟩ | ⟨unread, _⟩
    · rcases List.mem_cons.mp newer with same | later
      · exact .inl (congrArg Prod.fst same)
      · obtain ⟨e, there, result⟩ := mem_committedVersions.mp later
        exact .inr ⟨e, there, _, result⟩
    · exact absurd reads unread

/-! ## A session that outlives its password -/

/-- A change of the password that is not committed. -/
def changeOps : List IdentityOp :=
  [.start (.changePassword ⟨"u1", "old", "new"⟩), .advance 0 (quietAt 10000) false,
    .advance 0 (quietAt 11000) false, .advance 0 (quietAt 11000) false,
    .advance 0 (quietAt 11000) false, .advance 0 (quietAt 11000) false]

/-- The change, a login with the old password that the revoking update has not seen, and a
call that has read session and user. -/
def openChangeOps : List IdentityOp :=
  changeOps ++
  [.start (.login ⟨"alice", "old", "", []⟩), .advance 1 (quietAt 12000) false,
    .advance 1 (quietAt 12000) false, .advance 1 (quietAt 12000) false,
    .start (.authenticate aliceToken), .advance 2 (quietAt 13000) false,
    .advance 2 (quietAt 13000) false]

def storedAlice : User := ⟨"u1", "alice", "Alice", "old", true, false, 1000, 1000, none⟩

/-- Before the commit, after it, and after the touch has started. -/
def aliceCommitting : IdentityWorld :=
  (identityMachine plainService).exec (IdentityWorld.new storedAlice) openChangeOps

def aliceCommitted : IdentityWorld :=
  (identityMachine plainService).next aliceCommitting (.advance 0 (quietAt 14000) false)

def aliceTouching : IdentityWorld :=
  (identityMachine plainService).exec aliceCommitted [.advance 2 (quietAt 15000) false]

/-- **A session of the old password authenticates after the change is committed.** The commit
comes first, then the touch starts and ends, and the call succeeds for the session that was
inserted with the old hash. -/
theorem stale_session_authenticates :
    let M := identityMachine plainService
    (M.event aliceCommitting (.advance 0 (quietAt 14000) false)).result =
      .committed "new" 11000 ∧
    (M.event aliceCommitted (.advance 2 (quietAt 15000) false)).result = .touchStarted 2 ∧
    (M.event aliceTouching (.advance 2 (quietAt 16000) false)).result =
      .authenticated 2 (digestToken aliceToken) "old" := by
  decide +kernel

/-- The change is committed with no login before it. -/
def aliceChanged : IdentityWorld :=
  (identityMachine plainService).exec (IdentityWorld.new storedAlice)
    (changeOps ++ [.advance 0 (quietAt 14000) false])

/-- Then a login with the new password, and a call that has started to touch its session. -/
def newLoginOps : List IdentityOp :=
  [.start (.login ⟨"alice", "new", "", []⟩), .advance 1 (quietAt 15000) false,
    .advance 1 (quietAt 15000) false, .advance 1 (quietAt 15000) false,
    .start (.authenticate aliceToken), .advance 2 (quietAt 16000) false,
    .advance 2 (quietAt 16000) false, .advance 2 (quietAt 16000) false]

/-- The versions of a run: the change is committed after the first operations, and the call
that authenticates is touched last. -/
def aliceVersions (first second : List IdentityOp) : List (String × Time) :=
  version (IdentityWorld.new storedAlice).store.user ::
    committedVersions ((identityMachine plainService).trace (IdentityWorld.new storedAlice)
      (first ++ .advance 0 (quietAt 14000) false ::
        (second ++ [.advance 2 (quietAt 16000) false])))

/-- The call with the session of the old password has not read the user since the commit; the
one with the session of the new password has. -/
theorem authenticates_with_read_password_alice :
    let M := identityMachine plainService
    let stale := M.trace aliceCommitted [.advance 2 (quietAt 15000) false]
    let fresh := M.trace aliceChanged newLoginOps
    ¬ Reads 2 stale ∧
    (("old" = "new" ∨ ∃ later ∈ stale, ∃ t, later.result = .committed "old" t) ↔ Reads 2 stale) ∧
    Reads 2 fresh ∧
    (("new" = "new" ∨ ∃ later ∈ fresh, ∃ t, later.result = .committed "new" t) ↔
      Reads 2 fresh) := by
  intro M stale fresh
  obtain ⟨hashes, instants, committed, authenticated, unread⟩ :
      ((aliceVersions openChangeOps [.advance 2 (quietAt 15000) false]).map Prod.fst).Nodup ∧
      ((aliceVersions openChangeOps [.advance 2 (quietAt 15000) false]).map Prod.snd).Nodup ∧
      (M.event aliceCommitting (.advance 0 (quietAt 14000) false)).result =
        .committed "new" 11000 ∧
      (M.event aliceTouching (.advance 2 (quietAt 16000) false)).result =
        .authenticated 2 (digestToken aliceToken) "old" ∧
      ¬ ∃ e ∈ stale, e.result = .userRead 2 := by
    decide +kernel
  have outdated := authenticates_with_read_password plainService storedAlice _ hashes instants
    _ _ _ _ _ "new" 11000 2 (digestToken aliceToken) "old"
    (Machine.trace_around _ openChangeOps _ [.advance 2 (quietAt 15000) false] _ [])
    committed authenticated
  obtain ⟨hashes', instants', committed', authenticated'⟩ :
      ((aliceVersions changeOps newLoginOps).map Prod.fst).Nodup ∧
      ((aliceVersions changeOps newLoginOps).map Prod.snd).Nodup ∧
      (M.event (M.exec (IdentityWorld.new storedAlice) changeOps)
        (.advance 0 (quietAt 14000) false)).result = .committed "new" 11000 ∧
      (M.event (M.exec aliceChanged newLoginOps) (.advance 2 (quietAt 16000) false)).result =
        .authenticated 2 (digestToken aliceToken) "new" := by
    decide +kernel
  have current := authenticates_with_read_password plainService storedAlice _ hashes' instants'
    _ _ _ _ _ "new" 11000 2 (digestToken aliceToken) "new"
    (Machine.trace_around _ changeOps _ newLoginOps _ []) committed' authenticated'
  exact ⟨unread, outdated, current.mp (.inl rfl), current⟩

end ControlCenter.Postgres.Sessions
