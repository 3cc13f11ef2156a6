import ControlCenter.Library.Go
import ControlCenter.Library.Table

/-!
# Users, sessions and the store in memory

`internal/identity/auth`: a user with the hash of a password and the instant it was last
changed, a session under the digest of its token, and `MemoryStore`, which keeps both under
one lock. Each method is one step.

What a step does to the rows is said once (`Writes`): a session stays, with its user and
its revocation; a new one appears only from `createSession`, under the current password
hash of its user; a password hash changes only in `changePasswordAndRevokeSessions`, which
leaves no session of the user unrevoked.

Names are compared in lower case, for whatever `lower` does to a character. Two sessions of
one user are assumed to have different identifiers where a session is looked up by user and
identifier: the first such row stands for all of them.
-/

set_option autoImplicit false

namespace ControlCenter.Identity.Auth

open Library

structure User where
  id : String
  username : String
  displayName : String
  passwordHash : String
  enabled : Bool
  passwordChangeRequired : Bool
  createdAt : Time
  passwordChangedAt : Time
  lastLoginAt : Option Time
  deriving DecidableEq

structure Session where
  id : String
  userID : String
  tokenDigest : String
  credentialVersion : Time
  createdAt : Time
  lastActivityAt : Time
  expiresAt : Time
  revokedAt : Option Time
  sourceIP : String
  userAgent : Bytes
  deriving DecidableEq

namespace Session

def activityAt (s : Session) : Time :=
  if Time.isZero s.lastActivityAt then s.createdAt else s.lastActivityAt

def idleExpiresAt (s : Session) (idleTimeout : Duration) : Time :=
  let idleExpiry := s.activityAt.add idleTimeout
  if !Time.isZero s.expiresAt && decide (s.expiresAt < idleExpiry) then s.expiresAt else idleExpiry

def activeAt (s : Session) (now : Time) (idleTimeout : Duration) : Bool :=
  s.revokedAt.isNone && decide (now < s.expiresAt) && decide (now < s.idleExpiresAt idleTimeout)

/-- The session with the instant it was revoked. -/
def revoke (s : Session) (t : Time) : Session := { s with revokedAt := some t }

end Session

/-- The errors of the store and of the service. -/
inductive AuthError where
  | invalidCredentials
  | unauthenticated
  | notFound
  | conflict
  | auditUnavailable
  | invalidCurrentPassword
  | passwordPolicy
  | verifyReuse
  | randomSource
  deriving DecidableEq

structure MemoryStore where
  usersByID : Table User
  userIDByName : Table String
  sessionsByDigest : Table Session

namespace MemoryStore

/-! ## Reading -/

def findUserByUsername (lower : Char → Char) (s : MemoryStore) (username : String) :
    Except AuthError User :=
  match s.userIDByName.lookup (String.ofList ((trimSpace username).toList.map lower)) with
  | none => .error .notFound
  | some id =>
      match s.usersByID.lookup id with
      | some user => .ok user
      | none => .ok ⟨"", "", "", "", false, false, 0, 0, none⟩

def findUserByID (s : MemoryStore) (id : String) : Except AuthError User :=
  match s.usersByID.lookup id with
  | none => .error .notFound
  | some user => .ok user

def findSessionByDigest (s : MemoryStore) (digest : String) : Except AuthError Session :=
  match s.sessionsByDigest.lookup digest with
  | none => .error .notFound
  | some session => .ok session

def findSessionForUserByID (s : MemoryStore) (userID sessionID : String) :
    Except AuthError Session :=
  match s.sessionsByDigest.findRow fun row => row.userID == userID && row.id == sessionID with
  | none => .error .notFound
  | some session => .ok session

/-! ## Writing -/

def setLastLogin (s : MemoryStore) (id : String) (t : Time) :
    MemoryStore × Except AuthError Unit :=
  match s.usersByID.lookup id with
  | none => (s, .error .notFound)
  | some user =>
      ({ s with usersByID := s.usersByID.insert id { user with lastLoginAt := some t } }, .ok ())

/-- Revoke every session of a user that is not revoked yet. -/
def revokeUnrevoked (userID : String) (t : Time) (row : Session) : Session :=
  if row.userID = userID ∧ row.revokedAt = none then row.revoke t else row

def changePasswordAndRevokeSessions (s : MemoryStore) (id expectedHash newHash : String)
    (t : Time) : MemoryStore × Except AuthError Unit :=
  match s.usersByID.lookup id with
  | none => (s, .error .notFound)
  | some user =>
      if user.passwordHash ≠ expectedHash then (s, .error .conflict)
      else
        let user := { user with
          passwordHash := newHash
          passwordChangeRequired := false
          passwordChangedAt := t }
        ({ s with
          usersByID := s.usersByID.insert id user
          sessionsByDigest := s.sessionsByDigest.mapRows (revokeUnrevoked id t) }, .ok ())

def createSession (s : MemoryStore) (session : Session) (expectedPasswordHash : String) :
    MemoryStore × Except AuthError Unit :=
  if session.id = "" ∨ session.tokenDigest = "" ∨ session.userID = "" then (s, .error .conflict)
  else if (s.usersByID.lookup session.userID).map (·.passwordHash) ≠ some expectedPasswordHash then
    (s, .error .conflict)
  else if (s.sessionsByDigest.lookup session.tokenDigest).isSome then (s, .error .conflict)
  else
    let session := { session with lastActivityAt := session.activityAt }
    if session.lastActivityAt < session.createdAt ∨ session.expiresAt < session.lastActivityAt then
      (s, .error .conflict)
    else
      ({ s with sessionsByDigest := s.sessionsByDigest.insert session.tokenDigest session }, .ok ())

def touchSessionByDigest (s : MemoryStore) (digest : String) (t : Time) :
    MemoryStore × Except AuthError Unit :=
  match s.sessionsByDigest.lookup digest with
  | none => (s, .error .notFound)
  | some session =>
      if session.revokedAt.isSome then (s, .error .notFound)
      else if ¬ t < session.expiresAt then (s, .error .notFound)
      else if session.activityAt < t then
        ({ s with sessionsByDigest :=
          s.sessionsByDigest.insert digest { session with lastActivityAt := t } }, .ok ())
      else (s, .ok ())

def revokeSessionByDigest (s : MemoryStore) (digest : String) (t : Time) :
    MemoryStore × Except AuthError Unit :=
  match s.sessionsByDigest.lookup digest with
  | none => (s, .error .notFound)
  | some session =>
      if session.revokedAt.isNone then
        ({ s with sessionsByDigest := s.sessionsByDigest.insert digest (session.revoke t) }, .ok ())
      else (s, .ok ())

/-- The session is one of the user, and can still be revoked at the instant. -/
def revocable (userID sessionID : String) (t : Time) (row : Session) : Bool :=
  row.userID == userID && row.id == sessionID && row.revokedAt.isNone && decide (t < row.expiresAt)

def revokeSessionForUserByID (s : MemoryStore) (userID sessionID : String) (t : Time) :
    MemoryStore × Except AuthError Unit :=
  match s.sessionsByDigest.entries.find? fun entry => revocable userID sessionID t entry.2 with
  | none => (s, .error .notFound)
  | some entry =>
      ({ s with sessionsByDigest := s.sessionsByDigest.insert entry.1 (entry.2.revoke t) }, .ok ())

def revokeSessionsForUser (s : MemoryStore) (userID : String) (t : Time) : MemoryStore × Nat :=
  ({ s with sessionsByDigest := s.sessionsByDigest.mapRows (revokeUnrevoked userID t) },
    s.sessionsByDigest.entries.countP fun entry =>
      entry.2.userID == userID && entry.2.revokedAt.isNone)

/-! ## What a step writes -/

/-- The password hash a user has. -/
def passwordHash (s : MemoryStore) (userID : String) : Option String :=
  (s.usersByID.lookup userID).map (·.passwordHash)

/-- The row is the earlier one, its activity and a revocation apart. -/
structure Continues (row later : Session) : Prop where
  user : later.userID = row.userID
  revoked : row.revokedAt.isSome = true → later.revokedAt.isSome = true

theorem Continues.refl (row : Session) : Continues row row := ⟨rfl, id⟩

end MemoryStore

/-- What a step of the store did, as far as passwords and sessions are concerned. -/
inductive StoreEvent where
  | other
  | created (session : Session) (passwordHash : String)
  | changed (userID newHash : String)
  | authenticated (digest : String) (session : Session)
  deriving DecidableEq

namespace MemoryStore

/-- What a step may write. -/
structure Writes (s : MemoryStore) (event : StoreEvent) (s' : MemoryStore) : Prop where
  stays : ∀ digest row, s.sessionsByDigest.lookup digest = some row →
    ∃ later, s'.sessionsByDigest.lookup digest = some later ∧ Continues row later
  fresh : ∀ digest later, s.sessionsByDigest.lookup digest = none →
    s'.sessionsByDigest.lookup digest = some later →
    ∃ session hash, event = .created session hash ∧ session.tokenDigest = digest ∧
      later.userID = session.userID ∧ s.passwordHash session.userID = some hash
  password : ∀ userID, (∀ hash, event ≠ .changed userID hash) →
    s'.passwordHash userID = s.passwordHash userID
  changed : ∀ userID hash, event = .changed userID hash →
    s'.passwordHash userID = some hash ∧
      ∀ digest row, s'.sessionsByDigest.lookup digest = some row → row.userID = userID →
        row.revokedAt.isSome = true

/-- A step that leaves the users alone and continues every session. -/
theorem Writes.of_continues {s s' : MemoryStore} (users : s'.usersByID = s.usersByID)
    (rows : ∀ digest, Option.Rel Continues (s.sessionsByDigest.lookup digest)
      (s'.sessionsByDigest.lookup digest)) (event : StoreEvent)
    (silent : ∀ userID hash, event ≠ .changed userID hash) : Writes s event s' where
  stays digest row found := by
    have related := rows digest
    rw [found] at related
    cases present : s'.sessionsByDigest.lookup digest with
    | none =>
        rw [present] at related
        cases related
    | some later =>
        rw [present] at related
        cases related with
        | some continues => exact ⟨later, rfl, continues⟩
  fresh digest later missing found := by
    have related := rows digest
    rw [missing, found] at related
    cases related
  password userID _ := by rw [passwordHash, passwordHash, users]
  changed userID hash is := absurd is (silent userID hash)

theorem continues_rel (row : Option Session) : Option.Rel Continues row row := by
  cases row with
  | none => exact .none
  | some row => exact .some (.refl row)

/-- Nothing is written. -/
theorem Writes.refl (s : MemoryStore) (event : StoreEvent)
    (silent : ∀ userID hash, event ≠ .changed userID hash) : Writes s event s :=
  .of_continues (by rfl) (fun _ => continues_rel _) event silent

/-- One session is replaced by one that continues it. -/
theorem Writes.replace {s : MemoryStore} {digest : String} {row later : Session}
    (found : s.sessionsByDigest.lookup digest = some row) (continues : Continues row later)
    (event : StoreEvent) (silent : ∀ userID hash, event ≠ .changed userID hash) :
    Writes s event { s with sessionsByDigest := s.sessionsByDigest.insert digest later } := by
  refine .of_continues (by rfl) (fun key => ?_) event silent
  rw [Table.lookup_insert_ite]
  split
  · next same =>
      rw [same, found]
      exact .some continues
  · exact continues_rel _

theorem continues_revoke (row : Session) (t : Time) : Continues row (row.revoke t) :=
  ⟨rfl, fun _ => rfl⟩

theorem continues_revokeUnrevoked (userID : String) (t : Time) (row : Session) :
    Continues row (revokeUnrevoked userID t row) := by
  unfold revokeUnrevoked
  split
  · exact continues_revoke row t
  · exact .refl row

theorem revokeUnrevoked_revoked {userID : String} {t : Time} {row : Session}
    (own : row.userID = userID) : (revokeUnrevoked userID t row).revokedAt.isSome = true := by
  unfold revokeUnrevoked
  split
  · rfl
  · next kept =>
      rw [Option.isSome_iff_ne_none]
      exact fun none => kept ⟨own, none⟩

theorem mapRows_continues (userID : String) (t : Time) (rows : Table Session) (digest : String) :
    Option.Rel Continues (rows.lookup digest)
      ((rows.mapRows (revokeUnrevoked userID t)).lookup digest) := by
  rw [Table.lookup_mapRows]
  cases rows.lookup digest with
  | none => exact .none
  | some row => exact .some (continues_revokeUnrevoked userID t row)

/-- No session of the user is left. -/
theorem mapRows_revoked {userID digest : String} {t : Time} {rows : Table Session} {row : Session}
    (found : (rows.mapRows (revokeUnrevoked userID t)).lookup digest = some row)
    (own : row.userID = userID) : row.revokedAt.isSome = true := by
  rw [Table.lookup_mapRows, Option.map_eq_some_iff] at found
  obtain ⟨old, _, rfl⟩ := found
  exact revokeUnrevoked_revoked ((continues_revokeUnrevoked userID t old).user.symm.trans own)

theorem setLastLogin_writes (s : MemoryStore) (id : String) (t : Time) :
    Writes s .other (s.setLastLogin id t).1 := by
  unfold setLastLogin
  split
  · exact .refl s .other nofun
  · next user found =>
      have kept := Writes.refl s .other nofun
      refine ⟨kept.stays, kept.fresh, fun userID _ => ?_, nofun⟩
      rw [passwordHash, passwordHash, Table.lookup_insert_ite]
      split
      · next own =>
          rw [own, found]
          rfl
      · rfl

/-- **A password change leaves no session of the user.** -/
theorem changePassword_writes {s s' : MemoryStore} {id expectedHash newHash : String} {t : Time}
    (done : s.changePasswordAndRevokeSessions id expectedHash newHash t = (s', .ok ())) :
    Writes s (.changed id newHash) s' := by
  unfold changePasswordAndRevokeSessions at done
  split at done
  · cases done
  · next user found =>
      split at done
      · cases done
      · simp only [Prod.mk.injEq, and_true] at done
        subst done
        refine ⟨fun digest row present => ?_, fun digest later missing present => ?_,
          fun userID other => ?_, fun userID hash is => ?_⟩
        · simp only [Table.lookup_mapRows, present, Option.map_some]
          exact ⟨_, rfl, continues_revokeUnrevoked id t row⟩
        · simp [missing] at present
        · rw [passwordHash, passwordHash, Table.lookup_insert_ite, if_neg]
          rintro rfl
          exact other newHash rfl
        · cases is
          exact ⟨by rw [passwordHash, AList.lookup_insert]; rfl,
            fun digest row present own => mapRows_revoked present own⟩

/-- A refused change writes nothing. -/
theorem changePassword_error {s s' : MemoryStore} {id expectedHash newHash : String} {t : Time}
    {e : AuthError}
    (failed : s.changePasswordAndRevokeSessions id expectedHash newHash t = (s', .error e)) :
    s' = s := by
  unfold changePasswordAndRevokeSessions at failed
  split at failed
  · exact (Prod.mk.inj failed).1.symm
  · split at failed
    · exact (Prod.mk.inj failed).1.symm
    · cases (Prod.mk.inj failed).2

/-- **A session is created under the current password hash.** -/
theorem createSession_writes {s s' : MemoryStore} {session : Session} {hash : String}
    (done : s.createSession session hash = (s', .ok ())) :
    Writes s (.created session hash) s' := by
  unfold createSession at done
  split at done
  · cases done
  · split at done
    · cases done
    · next current =>
        split at done
        · cases done
        · next vacant =>
            simp only at done
            split at done
            · cases done
            · simp only [Prod.mk.injEq, and_true] at done
              subst done
              have missing : s.sessionsByDigest.lookup session.tokenDigest = none := by
                simpa using vacant
              refine ⟨fun digest row present => ?_, fun digest later absent present => ?_,
                fun _ _ => rfl, nofun⟩
              · refine ⟨row, ?_, .refl row⟩
                rw [Table.lookup_insert_ite, if_neg]
                · exact present
                · rintro rfl
                  rw [missing] at present
                  cases present
              · rw [Table.lookup_insert_ite] at present
                split at present
                · next own =>
                    cases present
                    exact ⟨session, hash, rfl, own.symm, rfl, not_not.mp current⟩
                · rw [absent] at present
                  cases present

/-- A refused session is not stored. -/
theorem createSession_error {s s' : MemoryStore} {session : Session} {hash : String}
    {e : AuthError} (failed : s.createSession session hash = (s', .error e)) : s' = s := by
  unfold createSession at failed
  simp only at failed
  split at failed
  · exact (Prod.mk.inj failed).1.symm
  · split at failed
    · exact (Prod.mk.inj failed).1.symm
    · split at failed
      · exact (Prod.mk.inj failed).1.symm
      · split at failed
        · exact (Prod.mk.inj failed).1.symm
        · cases (Prod.mk.inj failed).2

theorem touchSession_writes {s s' : MemoryStore} {digest : String} {t : Time} (event : StoreEvent)
    (silent : ∀ userID hash, event ≠ .changed userID hash)
    {result : Except AuthError Unit} (done : s.touchSessionByDigest digest t = (s', result)) :
    Writes s event s' := by
  unfold touchSessionByDigest at done
  split at done
  · cases done
    exact .refl s event silent
  · next session found =>
      split at done
      · cases done
        exact .refl s event silent
      · split at done
        · cases done
          exact .refl s event silent
        · split at done
          · cases done
            have continues : Continues session { session with lastActivityAt := t } := ⟨rfl, id⟩
            exact .replace found continues event silent
          · cases done
            exact .refl s event silent

/-- A touched session is not revoked. -/
theorem touchSession_ok {s s' : MemoryStore} {digest : String} {t : Time}
    (done : s.touchSessionByDigest digest t = (s', .ok ())) :
    ∃ row, s.sessionsByDigest.lookup digest = some row ∧ row.revokedAt = none := by
  unfold touchSessionByDigest at done
  split at done
  · cases done
  · next session found =>
      split at done
      · cases done
      · next unrevoked => exact ⟨session, found, by simpa using unrevoked⟩

theorem revokeSessionByDigest_writes (s : MemoryStore) (digest : String) (t : Time) :
    Writes s .other (s.revokeSessionByDigest digest t).1 := by
  unfold revokeSessionByDigest
  split
  · exact .refl s .other nofun
  · next session found =>
      split
      · exact .replace found (continues_revoke session t) .other nofun
      · exact .refl s .other nofun

theorem revokeSessionByDigest_revoked {s : MemoryStore} {digest : String} {t : Time}
    {row : Session}
    (found : (s.revokeSessionByDigest digest t).1.sessionsByDigest.lookup digest = some row) :
    row.revokedAt.isSome = true := by
  unfold revokeSessionByDigest at found
  split at found
  · next missing =>
      rw [missing] at found
      cases found
  · next session present =>
      split at found
      · rw [AList.lookup_insert] at found
        cases found
        rfl
      · next revoked =>
          rw [present] at found
          cases found
          exact Option.isSome_iff_ne_none.mpr (by simpa using revoked)

theorem revokeSessionForUserByID_revoked {s s' : MemoryStore} {userID sessionID : String}
    {t : Time} (done : s.revokeSessionForUserByID userID sessionID t = (s', .ok ())) :
    ∃ digest row, s'.sessionsByDigest.lookup digest = some row ∧ row.userID = userID ∧
      row.id = sessionID ∧ row.revokedAt.isSome = true := by
  unfold revokeSessionForUserByID at done
  split at done
  · cases done
  · next entry first =>
      cases done
      have chosen := List.find?_some first
      simp only [revocable, Bool.and_eq_true, beq_iff_eq] at chosen
      exact ⟨entry.1, _, AList.lookup_insert _, chosen.1.1.1, chosen.1.1.2, rfl⟩

theorem revokeSessionForUserByID_writes (s : MemoryStore) (userID sessionID : String) (t : Time) :
    Writes s .other (s.revokeSessionForUserByID userID sessionID t).1 := by
  unfold revokeSessionForUserByID
  split
  · exact .refl s .other nofun
  · next entry first =>
      have found : s.sessionsByDigest.lookup entry.1 = some entry.2 :=
        AList.mem_lookup_iff.mpr (List.mem_of_find?_eq_some first)
      exact .replace found (continues_revoke entry.2 t) .other nofun

theorem revokeSessionsForUser_writes (s : MemoryStore) (userID : String) (t : Time) :
    Writes s .other (s.revokeSessionsForUser userID t).1 :=
  .of_continues (by rfl) (mapRows_continues userID t s.sessionsByDigest) .other nofun

end MemoryStore

end ControlCenter.Identity.Auth
