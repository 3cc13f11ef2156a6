import ControlCenter.Library.Checks
import ControlCenter.Library.Go
import ControlCenter.Library.Machine
import ControlCenter.Library.Sha256
import ControlCenter.Library.Table

/-!
# Login protection

`internal/identity/auth/login_protection.go`: failed logins are counted in buckets, one for
the account and one for the source address, under a hashed key. A bucket counts the failures
of one window; at the limit it blocks its key for a while. The number of buckets is bounded:
when the map is full, the first expired bucket found is dropped, or else the one that was
touched longest ago and does not block. The map is visited in any order.

What an address becomes is left open (`canonicalIP` for `net.ParseIP`, `lower` for the case
of a character). An account is a name in normal form, and a key stands for one name as long
as no two names of a run have one digest.

No run exceeds the bound (`exec_bounded`), a block that is in force stays until its end
(`Held.step`), and a step of a window counts every failure (`Counted.step`). So two
windows are the most that an account can fail without being blocked (`login_protection`).
-/

set_option autoImplicit false

namespace ControlCenter.Identity.Auth

open Library

/-! ## The policy -/

structure LoginProtectionPolicy where
  failureWindow : Duration
  accountFailureLimit : Int
  sourceFailureLimit : Int
  blockDuration : Duration
  maxTrackedKeys : Int
  deriving DecidableEq

def minute : Duration := 60000000000

def hour : Duration := 3600000000000

def LoginProtectionPolicy.checks (p : LoginProtectionPolicy) : List (Bool × String) :=
  [(decide (p.failureWindow < minute) || decide (hour < p.failureWindow),
      "login failure window outside allowed range"),
    (decide (p.accountFailureLimit < 2) || decide (100 < p.accountFailureLimit),
      "login account failure limit outside allowed range"),
    (decide (p.sourceFailureLimit < p.accountFailureLimit) ||
        decide (1000 < p.sourceFailureLimit),
      "login source failure limit outside allowed range"),
    (decide (p.blockDuration < minute) || decide (24 * hour < p.blockDuration),
      "login block duration outside allowed range"),
    (decide (p.maxTrackedKeys < 128) || decide (1000000 < p.maxTrackedKeys),
      "login protection key bound outside allowed range")]

def LoginProtectionPolicy.validate (p : LoginProtectionPolicy) : Except String Unit :=
  firstFailure p.checks

/-- What the results take from the policy. -/
structure LoginProtectionPolicy.Valid (p : LoginProtectionPolicy) : Prop where
  limit : 2 ≤ p.accountFailureLimit
  block : 0 < p.blockDuration.toInt
  bound : 0 ≤ p.maxTrackedKeys

theorem LoginProtectionPolicy.valid_of_validate {p : LoginProtectionPolicy}
    (checked : p.validate = .ok ()) : p.Valid := by
  simp only [validate, checks, firstFailure_passes, passes_cons, Bool.or_eq_false_iff,
    decide_eq_false_iff_not, not_lt] at checked
  obtain ⟨_, ⟨limit, _⟩, _, ⟨block, _⟩, ⟨bound, _⟩, _⟩ := checked
  have positive := Int64.le_iff_toInt_le.mp (Int64.not_lt.mp block)
  have second : minute.toInt = 60000000000 := rfl
  exact ⟨limit, by omega, by omega⟩

/-! ## The keys -/

/-- The policy of a protector and what it knows of texts. -/
structure LoginProtector where
  policy : LoginProtectionPolicy
  lower : Char → Char
  /-- The address in its usual form, when the text is one. -/
  canonicalIP : String → Option String

namespace LoginProtector

variable (p : LoginProtector)

def normalizeUsername (value : String) : String :=
  String.ofList ((trimSpace value).toList.map p.lower)

/-- The name of a source. -/
def normalizeSource (sourceIP : String) : String :=
  let trimmed := trimSpace sourceIP
  let text := (p.canonicalIP trimmed).getD (String.ofList (trimmed.toList.map p.lower))
  if text = "" then "unknown" else text

end LoginProtector

/-- The text of a key before it is hashed. -/
def loginKeyText (kind value : String) : String := kind ++ "\x00" ++ value

def protectedLoginKey (kind value : String) : String := sha256Hex (utf8 (loginKeyText kind value))

def loginAccountProtectionKey (p : LoginProtector) (username : String) : String :=
  protectedLoginKey "account" (p.normalizeUsername username)

def loginSourceProtectionKey (p : LoginProtector) (sourceIP : String) : String :=
  protectedLoginKey "source" (p.normalizeSource sourceIP)

theorem accountText_injective {name other : String}
    (same : loginKeyText "account" name = loginKeyText "account" other) : name = other := by
  simp only [loginKeyText, String.ext_iff, String.toList_append, List.append_assoc,
    List.append_cancel_left_eq] at same
  exact String.ext_iff.mpr same

theorem accountText_ne_sourceText (name source : String) :
    loginKeyText "account" name ≠ loginKeyText "source" source := by
  intro same
  have first := congrArg (fun text => text.toList.head?) same
  simp [loginKeyText] at first

/-! ## The buckets -/

structure LoginAttemptBucket where
  windowStartedAt : Time := 0
  failures : Nat := 0
  blockedUntil : Time := 0
  touchedAt : Time := 0
  deriving DecidableEq

abbrev Buckets := Table LoginAttemptBucket

/-- The order in which a visit of the map finds its buckets. -/
structure BucketOrder where
  order : List ((_ : String) × LoginAttemptBucket) → List ((_ : String) × LoginAttemptBucket)
  perm : ∀ entries, (order entries).Perm entries

/-- The buckets as the table lists them. -/
def BucketOrder.asListed : BucketOrder := ⟨fun entries => entries, fun _ => .refl _⟩

/-- The bucket blocks its key at the instant. -/
def LoginAttemptBucket.blocksAt (bucket : LoginAttemptBucket) (now : Time) : Bool :=
  !Time.isZero bucket.blockedUntil && decide (now < bucket.blockedUntil)

/-- The bucket counts nothing. -/
def LoginAttemptBucket.isIdle (bucket : LoginAttemptBucket) : Bool :=
  bucket.failures == 0 && Time.isZero bucket.blockedUntil

section Locked

variable (policy : LoginProtectionPolicy)

def normalizeBucket (bucket : LoginAttemptBucket) (now : Time) : LoginAttemptBucket :=
  if !Time.isZero bucket.blockedUntil && !decide (now < bucket.blockedUntil) then {}
  else if Time.isZero bucket.blockedUntil && !Time.isZero bucket.windowStartedAt &&
      !decide (now < bucket.windowStartedAt.add policy.failureWindow) then {}
  else bucket

def blockedLocked (buckets : Buckets) (key : String) (now : Time) : Buckets × Bool :=
  match buckets.lookup key with
  | none => (buckets, false)
  | some bucket =>
      let bucket := normalizeBucket policy bucket now
      if bucket.isIdle then (buckets.erase key, false)
      else (buckets.insert key { bucket with touchedAt := now }, bucket.blocksAt now)

/-- The loop over the map: the key to drop, with the best candidate so far. -/
def evictionScan (now : Time) : (found : Option (String × Time)) →
    List ((_ : String) × LoginAttemptBucket) → Option String
  | found, [] => found.map Prod.fst
  | found, ⟨key, bucket⟩ :: rest =>
      let normalized := normalizeBucket policy bucket now
      if normalized.isIdle then some key
      else if normalized.blocksAt now then evictionScan now found rest
      else
        match found with
        | none => evictionScan now (some (key, normalized.touchedAt)) rest
        | some (oldestKey, oldest) =>
            if normalized.touchedAt < oldest then
              evictionScan now (some (key, normalized.touchedAt)) rest
            else evictionScan now (some (oldestKey, oldest)) rest

def evictOldestEvictableLocked (order : BucketOrder) (buckets : Buckets) (now : Time) : Buckets :=
  match evictionScan policy now none (order.order buckets.entries) with
  | none => buckets
  | some key => buckets.erase key

/-- The map is full. -/
def full (buckets : Buckets) : Bool := decide (policy.maxTrackedKeys ≤ buckets.keys.length)

def putBucketLocked (order : BucketOrder) (buckets : Buckets) (key : String)
    (bucket : LoginAttemptBucket) (now : Time) : Buckets × Bool :=
  if key ∈ buckets then (buckets.insert key bucket, true)
  else
    let kept :=
      if full policy buckets then evictOldestEvictableLocked policy order buckets now else buckets
    if full policy kept then (kept, false) else (kept.insert key bucket, true)

def recordFailureLocked (order : BucketOrder) (buckets : Buckets) (key : String) (limit : Int)
    (now : Time) : Buckets × Bool :=
  let bucket := normalizeBucket policy ((buckets.lookup key).getD {}) now
  if bucket.blocksAt now then
    ((putBucketLocked policy order buckets key { bucket with touchedAt := now } now).1, true)
  else
    let failures := bucket.failures + 1
    let counted : LoginAttemptBucket :=
      { windowStartedAt :=
          if Time.isZero bucket.windowStartedAt then now else bucket.windowStartedAt
        failures := failures
        blockedUntil :=
          if limit ≤ failures then now.add policy.blockDuration else bucket.blockedUntil
        touchedAt := now }
    let (stored, done) := putBucketLocked policy order buckets key counted now
    (stored, !done || counted.blocksAt now)

end Locked

/-- A bucket is emptied when its block or its window is over, and kept otherwise. -/
theorem normalizeBucket_cases (policy : LoginProtectionPolicy) (bucket : LoginAttemptBucket)
    (now : Time) :
    (normalizeBucket policy bucket now = {} ∧
      (bucket.blockedUntil ≠ 0 ∧ bucket.blockedUntil ≤ now ∨
        bucket.blockedUntil = 0 ∧ bucket.windowStartedAt ≠ 0 ∧
          bucket.windowStartedAt.add policy.failureWindow ≤ now)) ∨
    (normalizeBucket policy bucket now = bucket ∧
      (bucket.blockedUntil ≠ 0 → now < bucket.blockedUntil)) := by
  unfold normalizeBucket
  split
  · next past =>
      simp only [Bool.and_eq_true, Bool.not_eq_true', Time.isZero, beq_eq_false_iff_ne,
        decide_eq_false_iff_not, not_lt] at past
      exact .inl ⟨rfl, .inl past⟩
  · next running =>
      split
      · next past =>
          simp only [Bool.and_eq_true, Bool.not_eq_true', Time.isZero, beq_eq_false_iff_ne,
            beq_iff_eq, decide_eq_false_iff_not, not_lt] at past
          exact .inl ⟨rfl, .inr ⟨past.1.1, past.1.2, past.2⟩⟩
      · simp only [Bool.and_eq_true, Bool.not_eq_true', Time.isZero, beq_eq_false_iff_ne,
          decide_eq_false_iff_not, not_and, not_not] at running
        exact .inr ⟨rfl, running⟩

/-! ## The calls -/

/-- A call. Two visits of the map may be needed to record a failure. -/
inductive LoginCall where
  | blocked (username sourceIP : String) (now : Time)
  | recordFailure (username sourceIP : String) (now : Time) (account source : BucketOrder)
  | recordSuccess (username : String)

/-- A call takes the lock and answers. Nothing is returned for a success. -/
def loginMachine (p : LoginProtector) : Machine Buckets LoginCall (Option Bool) where
  step buckets call :=
    match call with
    | .blocked username sourceIP now =>
        let (buckets, accountBlocked) :=
          blockedLocked p.policy buckets (loginAccountProtectionKey p username) now
        let (buckets, sourceBlocked) :=
          blockedLocked p.policy buckets (loginSourceProtectionKey p sourceIP) now
        (buckets, some (accountBlocked || sourceBlocked))
    | .recordFailure username sourceIP now account source =>
        let (buckets, accountBlocked) :=
          recordFailureLocked p.policy account buckets (loginAccountProtectionKey p username)
            p.policy.accountFailureLimit now
        let (buckets, sourceBlocked) :=
          recordFailureLocked p.policy source buckets (loginSourceProtectionKey p sourceIP)
            p.policy.sourceFailureLimit now
        (buckets, some (accountBlocked || sourceBlocked))
    | .recordSuccess username =>
        (buckets.erase (loginAccountProtectionKey p username), none)

namespace LoginCall

def time : LoginCall → Option Time
  | .blocked _ _ now => some now
  | .recordFailure _ _ now _ _ => some now
  | .recordSuccess _ => none

/-- The texts that the call hashes. -/
def hashedTexts (p : LoginProtector) : LoginCall → List Bytes
  | .blocked username sourceIP _ | .recordFailure username sourceIP _ _ _ =>
      [utf8 (loginKeyText "account" (p.normalizeUsername username)),
        utf8 (loginKeyText "source" (p.normalizeSource sourceIP))]
  | .recordSuccess username => [utf8 (loginKeyText "account" (p.normalizeUsername username))]

/-- The call records a success of the account. -/
def Succeeds (p : LoginProtector) (username : String) : LoginCall → Prop
  | .recordSuccess other => p.normalizeUsername other = p.normalizeUsername username
  | _ => False

instance (p : LoginProtector) (username : String) : DecidablePred (Succeeds p username)
  | .recordSuccess other =>
      inferInstanceAs (Decidable (p.normalizeUsername other = p.normalizeUsername username))
  | .blocked .. | .recordFailure .. => .isFalse id

/-- The call records a failure of the account. -/
def failsFor (p : LoginProtector) (username : String) : LoginCall → Bool
  | .recordFailure other _ _ _ _ => p.normalizeUsername other == p.normalizeUsername username
  | _ => false

end LoginCall

/-- The key that storing a bucket drops. -/
def putVictim (policy : LoginProtectionPolicy) (order : BucketOrder) (buckets : Buckets)
    (key : String) (now : Time) : Option String :=
  if key ∉ buckets ∧ full policy buckets = true then
    evictionScan policy now none (order.order buckets.entries)
  else none

/-- The keys that a call drops to make room. -/
def evicted (p : LoginProtector) (buckets : Buckets) : LoginCall → List String
  | .recordFailure username sourceIP now account source =>
      let accountKey := loginAccountProtectionKey p username
      let stored := (recordFailureLocked p.policy account buckets accountKey
        p.policy.accountFailureLimit now).1
      (putVictim p.policy account buckets accountKey now).toList ++
        (putVictim p.policy source stored (loginSourceProtectionKey p sourceIP) now).toList
  | _ => []

/-! ## Storing a bucket -/

section Put

variable {policy : LoginProtectionPolicy} {order : BucketOrder} {buckets : Buckets}
variable {key other : String} {bucket : LoginAttemptBucket} {now : Time}

theorem putBucketLocked_fst :
    (putBucketLocked policy order buckets key bucket now).1 =
      let kept := (putVictim policy order buckets key now).elim buckets buckets.erase
      if (putBucketLocked policy order buckets key bucket now).2 = true then
        kept.insert key bucket
      else kept := by
  unfold putBucketLocked putVictim evictOldestEvictableLocked
  by_cases member : key ∈ buckets
  · simp [member]
  · cases isFull : full policy buckets with
    | false => simp [member, isFull]
    | true =>
        cases evictionScan policy now none (order.order buckets.entries) with
        | none => simp [member, isFull]
        | some victim =>
            cases still : full policy (buckets.erase victim) <;> simp [member, still]

/-- A stored bucket is found under its key. -/
theorem lookup_putBucketLocked_own
    (done : (putBucketLocked policy order buckets key bucket now).2 = true) :
    (putBucketLocked policy order buckets key bucket now).1.lookup key = some bucket := by
  rw [putBucketLocked_fst]
  simp [done]

/-- A key that is not dropped keeps its bucket. -/
theorem lookup_putBucketLocked_other (apart : other ≠ key)
    (kept : putVictim policy order buckets key now ≠ some other) :
    (putBucketLocked policy order buckets key bucket now).1.lookup other =
      buckets.lookup other := by
  have stays : ((putVictim policy order buckets key now).elim buckets buckets.erase).lookup other =
      buckets.lookup other := by
    cases dropped : putVictim policy order buckets key now with
    | none => rfl
    | some victim =>
        have different : other ≠ victim := fun same => kept (by rw [dropped, same])
        exact AList.lookup_erase_ne different
  rw [putBucketLocked_fst]
  dsimp only
  split
  · rw [AList.lookup_insert_ne apart, stays]
  · exact stays

theorem putBucketLocked_mem (member : key ∈ buckets) :
    putBucketLocked policy order buckets key bucket now = (buckets.insert key bucket, true) :=
  if_pos member

/-- **A key that blocks is never dropped.** -/
theorem evictionScan_blocking {entries : List ((_ : String) × LoginAttemptBucket)}
    {found : Option (String × Time)} {victim : String}
    (dropped : evictionScan policy now found entries = some victim) :
    (∃ candidate ∈ found, candidate.1 = victim) ∨
      ∃ bucket, ⟨victim, bucket⟩ ∈ entries ∧
        (normalizeBucket policy bucket now).blocksAt now = false := by
  induction entries generalizing found with
  | nil =>
      obtain ⟨candidate, held, same⟩ := Option.map_eq_some_iff.mp dropped
      exact .inl ⟨candidate, held, same⟩
  | cons entry rest ih =>
      obtain ⟨key, bucket⟩ := entry
      have later : (∃ bucket', ⟨victim, bucket'⟩ ∈ rest ∧
          (normalizeBucket policy bucket' now).blocksAt now = false) →
          ∃ bucket', ⟨victim, bucket'⟩ ∈ (Sigma.mk key bucket) :: rest ∧
            (normalizeBucket policy bucket' now).blocksAt now = false := by
        rintro ⟨bucket', listed, free⟩
        exact ⟨bucket', List.mem_cons_of_mem _ listed, free⟩
      -- the scan goes on with the bucket at hand as its candidate
      have taken : ∀ touched, (normalizeBucket policy bucket now).blocksAt now = false →
          evictionScan policy now (some (key, touched)) rest = some victim →
          ∃ bucket', ⟨victim, bucket'⟩ ∈ (Sigma.mk key bucket) :: rest ∧
            (normalizeBucket policy bucket' now).blocksAt now = false := by
        intro touched free scanned
        rcases ih scanned with ⟨candidate, held, same⟩ | listed
        · cases held
          subst same
          exact ⟨bucket, List.mem_cons_self, free⟩
        · exact later listed
      simp only [evictionScan] at dropped
      split at dropped
      · next idle =>
          cases dropped
          refine .inr ⟨bucket, List.mem_cons_self, ?_⟩
          simp only [LoginAttemptBucket.isIdle, Bool.and_eq_true] at idle
          simp [LoginAttemptBucket.blocksAt, idle.2]
      · split at dropped
        · exact (ih dropped).imp_right later
        · next free =>
            rw [Bool.not_eq_true] at free
            split at dropped
            · exact .inr (taken _ free dropped)
            · split at dropped
              · exact .inr (taken _ free dropped)
              · exact (ih dropped).imp_right later

/-- A key is dropped only when its bucket does not block. -/
theorem putVictim_blocking (dropped : putVictim policy order buckets key now = some other) :
    ∃ bucket, buckets.lookup other = some bucket ∧
      (normalizeBucket policy bucket now).blocksAt now = false := by
  unfold putVictim at dropped
  split at dropped
  · rcases evictionScan_blocking dropped with ⟨_, held, _⟩ | ⟨bucket, listed, free⟩
    · cases held
    · exact ⟨bucket, AList.mem_lookup_iff.mpr ((order.perm _).mem_iff.mp listed), free⟩
  · cases dropped

end Put

/-! ## The number of buckets -/

/-- The map is within its bound. -/
def Bounded (policy : LoginProtectionPolicy) (buckets : Buckets) : Prop :=
  (buckets.keys.length : Int) ≤ policy.maxTrackedKeys

section Size

variable {policy : LoginProtectionPolicy} {buckets : Buckets} {key : String}

theorem bounded_erase (bounded : Bounded policy buckets) : Bounded policy (buckets.erase key) := by
  have fewer : (buckets.keys.erase key).length ≤ buckets.keys.length :=
    List.length_erase_le
  unfold Bounded at bounded ⊢
  rw [AList.keys_erase]
  omega

variable {bucket : LoginAttemptBucket}

theorem bounded_insert_mem (bounded : Bounded policy buckets) (member : key ∈ buckets) :
    Bounded policy (buckets.insert key bucket) := by
  have listed : key ∈ buckets.keys := AList.mem_keys.mp member
  have positive : 0 < buckets.keys.length := List.length_pos_of_mem listed
  unfold Bounded at bounded ⊢
  rw [AList.keys_insert, List.length_cons, List.length_erase_of_mem listed]
  omega

theorem bounded_insert (room : full policy buckets = false) :
    Bounded policy (buckets.insert key bucket) := by
  have fewer : (buckets.keys.erase key).length ≤ buckets.keys.length := List.length_erase_le
  simp only [full, decide_eq_false_iff_not, not_le] at room
  unfold Bounded
  rw [AList.keys_insert, List.length_cons]
  omega

theorem bounded_putBucketLocked {order : BucketOrder} {now : Time}
    (bounded : Bounded policy buckets) :
    Bounded policy (putBucketLocked policy order buckets key bucket now).1 := by
  unfold putBucketLocked
  split
  · next member => exact bounded_insert_mem bounded member
  · have kept : Bounded policy (if full policy buckets = true then
        evictOldestEvictableLocked policy order buckets now else buckets) := by
      split
      · unfold evictOldestEvictableLocked
        split
        · exact bounded
        · exact bounded_erase bounded
      · exact bounded
    generalize (if full policy buckets = true then
      evictOldestEvictableLocked policy order buckets now else buckets) = rest at kept
    cases room : full policy rest with
    | true => simpa [room] using kept
    | false => simpa [room] using bounded_insert room

theorem bounded_blockedLocked {now : Time} (bounded : Bounded policy buckets) :
    Bounded policy (blockedLocked policy buckets key now).1 := by
  unfold blockedLocked
  split
  · exact bounded
  · next found =>
      dsimp only
      split
      · exact bounded_erase bounded
      · exact bounded_insert_mem bounded (Table.mem_of_lookup found)

theorem bounded_recordFailureLocked {order : BucketOrder} {limit : Int} {now : Time}
    (bounded : Bounded policy buckets) :
    Bounded policy (recordFailureLocked policy order buckets key limit now).1 := by
  unfold recordFailureLocked
  dsimp only
  split <;> exact bounded_putBucketLocked bounded

end Size

theorem next_bounded (p : LoginProtector) (buckets : Buckets) (call : LoginCall)
    (bounded : Bounded p.policy buckets) :
    Bounded p.policy ((loginMachine p).next buckets call) := by
  cases call with
  | blocked username sourceIP now => exact bounded_blockedLocked (bounded_blockedLocked bounded)
  | recordFailure username sourceIP now account source =>
      exact bounded_recordFailureLocked (bounded_recordFailureLocked bounded)
  | recordSuccess username => exact bounded_erase bounded

variable {p : LoginProtector}

/-- **No run tracks more keys than the bound.** -/
theorem exec_bounded (valid : p.policy.Valid) (calls : List LoginCall) :
    Bounded p.policy ((loginMachine p).exec ∅ calls) :=
  Machine.exec_keeps (next_bounded p) (show Bounded p.policy ∅ from valid.bound) calls

/-! ## A block in force -/

/-- The key is blocked until the instant. -/
def Held (buckets : Buckets) (key : String) (expiry : Time) : Prop :=
  expiry ≠ 0 ∧ ∃ bucket, buckets.lookup key = some bucket ∧ bucket.blockedUntil = expiry

section Block

variable {policy : LoginProtectionPolicy} {buckets : Buckets} {key other : String}
variable {now expiry : Time}

/-- A bucket that blocks is in normal form. -/
theorem normalizeBucket_blocking {bucket : LoginAttemptBucket} (set : bucket.blockedUntil ≠ 0)
    (early : now < bucket.blockedUntil) : normalizeBucket policy bucket now = bucket := by
  simp [normalizeBucket, Time.isZero, set, early]

theorem blocksAt_of_early {bucket : LoginAttemptBucket} (set : bucket.blockedUntil ≠ 0)
    (early : now < bucket.blockedUntil) : bucket.blocksAt now = true := by
  simp [LoginAttemptBucket.blocksAt, Time.isZero, set, early]

theorem Held.blockedLocked_own (held : Held buckets key expiry) (early : now < expiry) :
    (blockedLocked policy buckets key now).2 = true ∧
      Held (blockedLocked policy buckets key now).1 key expiry := by
  obtain ⟨set, bucket, found, rfl⟩ := held
  have busy : bucket.isIdle = false := by simp [LoginAttemptBucket.isIdle, Time.isZero, set]
  simp only [blockedLocked, found, normalizeBucket_blocking set early, busy]
  exact ⟨blocksAt_of_early set early, set, _, AList.lookup_insert _, rfl⟩

theorem lookup_blockedLocked_other (apart : other ≠ key) :
    (blockedLocked policy buckets key now).1.lookup other = buckets.lookup other := by
  unfold blockedLocked
  split
  · rfl
  · dsimp only
    split
    · exact AList.lookup_erase_ne apart
    · exact AList.lookup_insert_ne apart

theorem Held.blockedLocked (held : Held buckets other expiry) (early : now < expiry) :
    Held (blockedLocked policy buckets key now).1 other expiry := by
  by_cases own : other = key
  · subst own
    exact (held.blockedLocked_own early).2
  · rwa [Held, lookup_blockedLocked_other own]

/-- A failure of another key drops no bucket but its victim. -/
theorem lookup_recordFailureLocked_other {order : BucketOrder} {limit : Int} (apart : other ≠ key)
    (kept : putVictim policy order buckets key now ≠ some other) :
    (recordFailureLocked policy order buckets key limit now).1.lookup other =
      buckets.lookup other := by
  unfold recordFailureLocked
  dsimp only
  split <;> exact lookup_putBucketLocked_other apart kept

theorem Held.recordFailureLocked {order : BucketOrder} {limit : Int}
    (held : Held buckets other expiry) (early : now < expiry) :
    Held (recordFailureLocked policy order buckets key limit now).1 other expiry := by
  obtain ⟨set, bucket, found, rfl⟩ := held
  have blocks := blocksAt_of_early set early
  by_cases own : other = key
  · subst own
    simp only [Auth.recordFailureLocked, found, Option.getD_some,
      normalizeBucket_blocking set early, blocks, if_true,
      putBucketLocked_mem (Table.mem_of_lookup found)]
    exact ⟨set, _, AList.lookup_insert _, rfl⟩
  · have kept : putVictim policy order buckets key now ≠ some other := by
      intro dropped
      obtain ⟨bucket', found', free⟩ := putVictim_blocking dropped
      rw [found] at found'
      cases found'
      rw [normalizeBucket_blocking set early, blocks] at free
      cases free
    rw [Held, lookup_recordFailureLocked_other own kept]
    exact ⟨set, bucket, found, rfl⟩

end Block

variable {buckets : Buckets}

/-- **A call before the end of a block keeps it,** unless it records a success under the
key. -/
theorem Held.step {key : String} {expiry : Time} {call : LoginCall}
    (held : Held buckets key expiry) (early : ∀ now ∈ call.time, now < expiry)
    (other : ∀ username, call = .recordSuccess username →
      key ≠ loginAccountProtectionKey p username) :
    Held ((loginMachine p).next buckets call) key expiry := by
  cases call with
  | blocked username sourceIP now =>
      have before : now < expiry := early now rfl
      exact (held.blockedLocked before).blockedLocked before
  | recordFailure username sourceIP now account source =>
      have before : now < expiry := early now rfl
      exact (held.recordFailureLocked before).recordFailureLocked before
  | recordSuccess username =>
      have same : (buckets.erase (loginAccountProtectionKey p username)).lookup key =
          buckets.lookup key := AList.lookup_erase_ne (other username rfl)
      rw [Held] at held ⊢
      rwa [← same] at held

theorem Held.exec {key : String} {expiry : Time} {calls : List LoginCall}
    (early : ∀ call ∈ calls, ∀ now ∈ call.time, now < expiry)
    (other : ∀ username, LoginCall.recordSuccess username ∈ calls →
      key ≠ loginAccountProtectionKey p username) (held : Held buckets key expiry) :
    Held ((loginMachine p).exec buckets calls) key expiry := by
  induction calls generalizing buckets with
  | nil => exact held
  | cons call calls ih =>
      have stepped : Held ((loginMachine p).next buckets call) key expiry :=
        held.step (early call List.mem_cons_self) fun username same =>
          other username (same ▸ List.mem_cons_self)
      exact ih (fun call' listed => early call' (List.mem_cons_of_mem _ listed))
        (fun username listed => other username (List.mem_cons_of_mem _ listed)) stepped

/-- A key that is held is reported. -/
theorem Held.answer {username sourceIP : String} {now expiry : Time} (early : now < expiry)
    (held : Held buckets (loginAccountProtectionKey p username) expiry ∨
      Held buckets (loginSourceProtectionKey p sourceIP) expiry) :
    (loginMachine p).answer buckets (.blocked username sourceIP now) = some true := by
  have answered : (loginMachine p).answer buckets (.blocked username sourceIP now) =
      some ((Auth.blockedLocked p.policy buckets (loginAccountProtectionKey p username) now).2 ||
        (Auth.blockedLocked p.policy (Auth.blockedLocked p.policy buckets
          (loginAccountProtectionKey p username) now).1
          (loginSourceProtectionKey p sourceIP) now).2) := rfl
  rw [answered, Option.some.injEq, Bool.or_eq_true]
  rcases held with account | source
  · exact .inl (account.blockedLocked_own early).1
  · exact .inr ((source.blockedLocked early).blockedLocked_own early).1

/-! ## Two windows -/

section Window

variable (policy : LoginProtectionPolicy) (start : Time)

/-- What the bucket of an account says after `n` failures that were not blocked, in a span
that begins at `start`. Either the bucket counted all of them, or a window that began before
the span ended inside it: then the bucket counts those of the second window. -/
structure Counted (n : Nat) (bucket : LoginAttemptBucket) : Prop where
  blocked : bucket.blockedUntil ≠ 0 → n = 0
  counting : bucket.blockedUntil = 0 →
    (n ≤ bucket.failures ∧ (n : Int) ≤ policy.accountFailureLimit - 1) ∨
      ((bucket.windowStartedAt = 0 ∨ start ≤ bucket.windowStartedAt) ∧
        (n : Int) ≤ policy.accountFailureLimit - 1 + bucket.failures ∧
        (n : Int) ≤ 2 * (policy.accountFailureLimit - 1))

variable {policy start} {n : Nat} {now : Time}

variable {bucket : LoginAttemptBucket}

theorem Counted.total (valid : policy.Valid) (counted : Counted policy start n bucket) :
    (n : Int) ≤ 2 * (policy.accountFailureLimit - 1) := by
  have limit := valid.limit
  by_cases set : bucket.blockedUntil = 0
  · rcases counted.counting set with ⟨_, few⟩ | ⟨_, _, few⟩ <;> omega
  · have none := counted.blocked set
    omega

/-- An empty bucket. -/
theorem counted_empty (few : (n : Int) ≤ policy.accountFailureLimit - 1) :
    Counted policy start n {} where
  blocked set := absurd rfl set
  counting _ := by
    refine .inr ⟨.inl rfl, ?_, ?_⟩
    · simpa using few
    · omega

theorem counted_zero (valid : policy.Valid) (bucket : LoginAttemptBucket) :
    Counted policy start 0 bucket where
  blocked _ := rfl
  counting _ := by
    have limit := valid.limit
    exact .inl ⟨Nat.zero_le _, by omega⟩

/-- When a bucket is touched does not matter. -/
theorem Counted.touch (counted : Counted policy start n bucket) :
    Counted policy start n { bucket with touchedAt := now } :=
  ⟨counted.blocked, counted.counting⟩

/-- An idle bucket may be dropped. -/
theorem Counted.idle (counted : Counted policy start n bucket) (valid : policy.Valid)
    (idle : bucket.isIdle = true) : Counted policy start n {} := by
  have limit := valid.limit
  simp only [LoginAttemptBucket.isIdle, Bool.and_eq_true, beq_iff_eq, Time.isZero_iff] at idle
  apply counted_empty
  rcases counted.counting idle.2 with ⟨_, few⟩ | ⟨_, few, _⟩ <;> omega

/-- **A window that ends in the span began before it.** -/
theorem Counted.normalize (counted : Counted policy start n bucket) (valid : policy.Valid)
    (inside : now < start.add policy.failureWindow) :
    Counted policy start n (normalizeBucket policy bucket now) := by
  have limit := valid.limit
  rcases normalizeBucket_cases policy bucket now with ⟨same, past⟩ | ⟨same, _⟩
  · rw [same]
    apply counted_empty
    rcases past with ⟨set, _⟩ | ⟨free, set, ended⟩
    · have none := counted.blocked set
      omega
    · rcases counted.counting free with ⟨_, few⟩ | ⟨unset | within, _, _⟩
      · exact few
      · exact absurd unset set
      · have shifted : start.add policy.failureWindow ≤
            bucket.windowStartedAt.add policy.failureWindow := Int.add_le_add_right within _
        exact absurd inside (not_lt.mpr (shifted.trans ended))
  · rwa [same]

/-- What the bucket of a key is, or an empty one. -/
def bucketOf (buckets : Buckets) (key : String) : LoginAttemptBucket := (buckets.lookup key).getD {}

variable {buckets : Buckets} {key : String}

/-- A bucket in normal form that does not block has no block. -/
theorem blockedUntil_normalizeBucket
    (free : (normalizeBucket policy bucket now).blocksAt now = false) :
    (normalizeBucket policy bucket now).blockedUntil = 0 := by
  rcases normalizeBucket_cases policy bucket now with ⟨same, _⟩ | ⟨same, running⟩
  · rw [same]
  · rw [same] at free ⊢
    by_contra set
    rw [blocksAt_of_early set (running set)] at free
    cases free

/-- **A failure that is not blocked is counted.** -/
theorem Counted.recordFailureLocked {order : BucketOrder}
    (counted : Counted policy start n (bucketOf buckets key)) (valid : policy.Valid)
    (within : start ≤ now) (inside : now < start.add policy.failureWindow)
    (dated : now.add policy.blockDuration ≠ 0)
    (admitted : (recordFailureLocked policy order buckets key policy.accountFailureLimit now).2 =
      false) :
    Counted policy start (n + 1)
      (bucketOf (recordFailureLocked policy order buckets key policy.accountFailureLimit now).1
        key) := by
  have normal := counted.normalize valid inside
  have unblocked : (normalizeBucket policy (bucketOf buckets key) now).blocksAt now = false →
      (normalizeBucket policy (bucketOf buckets key) now).blockedUntil = 0 :=
    blockedUntil_normalizeBucket
  unfold bucketOf at normal unblocked
  unfold Auth.recordFailureLocked at admitted ⊢
  generalize normalizeBucket policy ((buckets.lookup key).getD {}) now = bucket at *
  cases blocks : bucket.blocksAt now with
  | true => simp [blocks] at admitted
  | false =>
      have free := unblocked blocks
      simp only [blocks, Bool.false_eq_true, if_false, Bool.or_eq_false_iff,
        Bool.not_eq_false'] at admitted ⊢
      obtain ⟨done, admitted⟩ := admitted
      rw [bucketOf, lookup_putBucketLocked_own done, Option.getD_some]
      -- at the limit the call would have been blocked
      have few : ¬ policy.accountFailureLimit ≤ ((bucket.failures + 1 : Nat) : Int) := by
        intro reached
        rw [if_pos reached] at admitted
        have later : now < now.add policy.blockDuration := Int.lt_add_of_pos_right _ valid.block
        exact absurd (blocksAt_of_early dated later) (by rw [admitted]; exact Bool.false_ne_true)
      refine ⟨fun set => absurd (by rw [if_neg few, free]) set, fun _ => ?_⟩
      rcases normal.counting free with ⟨all, _⟩ | ⟨began, second, _⟩
      · refine .inl ⟨Nat.succ_le_succ all, ?_⟩
        push_cast at few ⊢
        omega
      · refine .inr ⟨?_, ?_, ?_⟩
        · dsimp only
          split
          · exact .inr within
          · next set =>
              rw [Time.isZero_iff] at set
              exact .inr (began.resolve_left set)
        · push_cast at few ⊢
          omega
        · push_cast at few ⊢
          omega

theorem Counted.blockedLocked (counted : Counted policy start n (bucketOf buckets key))
    (valid : policy.Valid) (inside : now < start.add policy.failureWindow) :
    Counted policy start n (bucketOf (blockedLocked policy buckets key now).1 key) := by
  have normal := counted.normalize valid inside
  unfold Auth.blockedLocked
  cases found : buckets.lookup key with
  | none => exact counted
  | some bucket =>
      rw [bucketOf, found, Option.getD_some] at normal
      dsimp only
      split
      · next idle =>
          rw [bucketOf, AList.lookup_erase]
          exact normal.idle valid idle
      · rw [bucketOf, AList.lookup_insert]
        exact normal.touch

end Window

theorem bucketOf_blockedLocked_other {policy : LoginProtectionPolicy} {key other : String}
    {now : Time} (apart : other ≠ key) :
    bucketOf (blockedLocked policy buckets key now).1 other = bucketOf buckets other := by
  rw [bucketOf, lookup_blockedLocked_other apart, bucketOf]

theorem bucketOf_recordFailureLocked_other {policy : LoginProtectionPolicy} {order : BucketOrder}
    {key other : String} {limit : Int} {now : Time} (apart : other ≠ key)
    (kept : putVictim policy order buckets key now ≠ some other) :
    bucketOf (recordFailureLocked policy order buckets key limit now).1 other =
      bucketOf buckets other := by
  rw [bucketOf, lookup_recordFailureLocked_other apart kept, bucketOf]

/-- A failure that is not blocked is not blocked for its account. -/
theorem recordFailure_account_false {username sourceIP : String} {now : Time}
    {account source : BucketOrder}
    (admitted : (loginMachine p).answer buckets
      (.recordFailure username sourceIP now account source) ≠ some true) :
    (recordFailureLocked p.policy account buckets (loginAccountProtectionKey p username)
      p.policy.accountFailureLimit now).2 = false := by
  rw [← Bool.not_eq_true]
  intro blocked
  refine admitted (congrArg some ?_)
  rw [Bool.or_eq_true]
  exact .inl blocked

/-- The keys of the call stand for the account only when its names do. -/
def LoginCall.Distinguishes (p : LoginProtector) (username : String) : LoginCall → Prop
  | .blocked other sourceIP _ | .recordFailure other sourceIP _ _ _ =>
      (loginAccountProtectionKey p username = loginAccountProtectionKey p other →
        p.normalizeUsername other = p.normalizeUsername username) ∧
      loginAccountProtectionKey p username ≠ loginSourceProtectionKey p sourceIP
  | .recordSuccess other =>
      loginAccountProtectionKey p username = loginAccountProtectionKey p other →
        p.normalizeUsername other = p.normalizeUsername username

/-- The number of failures of the account that a call records. -/
def LoginCall.failureCount (p : LoginProtector) (username : String) (call : LoginCall) : Nat :=
  if call.failsFor p username = true then 1 else 0

section Step

variable {p : LoginProtector} {username : String} {start : Time} {n : Nat} {buckets : Buckets}

/-- **A call in the span counts the failure it records,** when it is not blocked, the account
did not succeed and its bucket is not dropped. -/
theorem Counted.step {call : LoginCall} (valid : p.policy.Valid)
    (counted : Counted p.policy start n (bucketOf buckets (loginAccountProtectionKey p username)))
    (distinct : call.Distinguishes p username) (lasting : ¬ call.Succeeds p username)
    (inside : ∀ now ∈ call.time, start ≤ now ∧ now < start.add p.policy.failureWindow)
    (kept : loginAccountProtectionKey p username ∉ evicted p buckets call)
    (dated : call.failsFor p username = true →
      ∀ now ∈ call.time, now.add p.policy.blockDuration ≠ 0)
    (admitted : call.failsFor p username = true →
      (loginMachine p).answer buckets call ≠ some true) :
    Counted p.policy start (n + call.failureCount p username)
      (bucketOf ((loginMachine p).next buckets call) (loginAccountProtectionKey p username)) := by
  cases call with
  | blocked other sourceIP now =>
      obtain ⟨_, before⟩ := inside now rfl
      have account : Counted p.policy start n (bucketOf (Auth.blockedLocked p.policy buckets
          (loginAccountProtectionKey p other) now).1 (loginAccountProtectionKey p username)) := by
        by_cases own : loginAccountProtectionKey p username = loginAccountProtectionKey p other
        · rw [← own]
          exact counted.blockedLocked valid before
        · rwa [bucketOf_blockedLocked_other own]
      have stepped : bucketOf ((loginMachine p).next buckets (.blocked other sourceIP now))
          (loginAccountProtectionKey p username) =
            bucketOf (Auth.blockedLocked p.policy buckets (loginAccountProtectionKey p other)
              now).1 (loginAccountProtectionKey p username) :=
        bucketOf_blockedLocked_other distinct.2
      rw [stepped]
      exact account
  | recordFailure other sourceIP now accountOrder sourceOrder =>
      obtain ⟨after, before⟩ := inside now rfl
      simp only [evicted, List.mem_append, Option.mem_toList, not_or] at kept
      have stepped : bucketOf ((loginMachine p).next buckets
          (.recordFailure other sourceIP now accountOrder sourceOrder))
          (loginAccountProtectionKey p username) =
            bucketOf (Auth.recordFailureLocked p.policy accountOrder buckets
              (loginAccountProtectionKey p other) p.policy.accountFailureLimit now).1
              (loginAccountProtectionKey p username) :=
        bucketOf_recordFailureLocked_other distinct.2 kept.2
      rw [stepped]
      by_cases same : p.normalizeUsername other = p.normalizeUsername username
      · have own : loginAccountProtectionKey p other = loginAccountProtectionKey p username := by
          rw [loginAccountProtectionKey, same, loginAccountProtectionKey]
        have fails : (LoginCall.recordFailure other sourceIP now accountOrder
            sourceOrder).failsFor p username = true := beq_iff_eq.mpr same
        have admitted := recordFailure_account_false (admitted fails)
        rw [LoginCall.failureCount, if_pos fails]
        rw [own] at admitted ⊢
        exact counted.recordFailureLocked valid after before (dated fails now rfl) admitted
      · have apart : loginAccountProtectionKey p username ≠ loginAccountProtectionKey p other :=
          mt distinct.1 same
        have others : ¬ (LoginCall.recordFailure other sourceIP now accountOrder
            sourceOrder).failsFor p username = true := mt beq_iff_eq.mp same
        rw [LoginCall.failureCount, if_neg others,
          bucketOf_recordFailureLocked_other apart kept.1]
        exact counted
  | recordSuccess other =>
      have apart : loginAccountProtectionKey p username ≠ loginAccountProtectionKey p other :=
        fun own => lasting (distinct own)
      have same : ((loginMachine p).next buckets (.recordSuccess other)).lookup
          (loginAccountProtectionKey p username) =
            buckets.lookup (loginAccountProtectionKey p username) := AList.lookup_erase_ne apart
      rw [bucketOf, same]
      exact counted

theorem Counted.exec {calls : List LoginCall} (valid : p.policy.Valid)
    (counted : Counted p.policy start n (bucketOf buckets (loginAccountProtectionKey p username)))
    (distinct : ∀ call ∈ calls, call.Distinguishes p username)
    (lasting : ∀ call ∈ calls, ¬ call.Succeeds p username)
    (inside : ∀ call ∈ calls, ∀ now ∈ call.time,
      start ≤ now ∧ now < start.add p.policy.failureWindow)
    (dated : ∀ call ∈ calls, call.failsFor p username = true →
      ∀ now ∈ call.time, now.add p.policy.blockDuration ≠ 0)
    (kept : ∀ e ∈ (loginMachine p).trace buckets calls,
      loginAccountProtectionKey p username ∉ evicted p e.before e.op)
    (admitted : ∀ e ∈ (loginMachine p).trace buckets calls, e.op.failsFor p username = true →
      e.result ≠ some true) :
    Counted p.policy start (n + calls.countP (LoginCall.failsFor p username))
      (bucketOf ((loginMachine p).exec buckets calls) (loginAccountProtectionKey p username)) := by
  induction calls generalizing buckets n with
  | nil => exact counted
  | cons call calls ih =>
      rw [List.forall_mem_cons] at distinct lasting inside dated
      rw [Machine.trace_cons, List.forall_mem_cons] at kept admitted
      have stepped := counted.step valid distinct.1 lasting.1 inside.1 kept.1 dated.1 admitted.1
      have later := ih stepped distinct.2 lasting.2 inside.2 dated.2 kept.2 admitted.2
      have total : n + call.failureCount p username + calls.countP (LoginCall.failsFor p username) =
          n + (call :: calls).countP (LoginCall.failsFor p username) := by
        rw [List.countP_cons, LoginCall.failureCount]
        omega
      rw [total] at later
      exact later

end Step

/-! ## Keys of a run -/

/-- The texts that the calls of a run hash. -/
def hashedTexts (p : LoginProtector) (calls : List LoginCall) : List Bytes :=
  calls.flatMap (LoginCall.hashedTexts p)

section Keys

variable {p : LoginProtector} {calls : List LoginCall} {username : String}

theorem mem_hashedTexts {call : LoginCall} {text : Bytes} (listed : call ∈ calls)
    (hashed : text ∈ call.hashedTexts p) : text ∈ hashedTexts p calls :=
  List.mem_flatMap.mpr ⟨call, listed, hashed⟩

variable (free : CollisionFree {text | text ∈ hashedTexts p calls})
  (own : utf8 (loginKeyText "account" (p.normalizeUsername username)) ∈ hashedTexts p calls)

include free own

theorem account_eq_of_key {other : String}
    (hashed : utf8 (loginKeyText "account" (p.normalizeUsername other)) ∈ hashedTexts p calls)
    (same : loginAccountProtectionKey p username = loginAccountProtectionKey p other) :
    p.normalizeUsername other = p.normalizeUsername username :=
  accountText_injective (utf8_injective (free.eq_of_sha256Hex_eq own hashed same)).symm

theorem accountKey_ne_sourceKey {sourceIP : String}
    (hashed : utf8 (loginKeyText "source" (p.normalizeSource sourceIP)) ∈ hashedTexts p calls) :
    loginAccountProtectionKey p username ≠ loginSourceProtectionKey p sourceIP := by
  intro same
  exact accountText_ne_sourceText _ _ (utf8_injective (free.eq_of_sha256Hex_eq own hashed same))

theorem distinguishes {call : LoginCall} (listed : call ∈ calls) :
    call.Distinguishes p username := by
  cases call with
  | blocked other sourceIP _ | recordFailure other sourceIP _ _ _ =>
      have account := mem_hashedTexts (p := p) listed List.mem_cons_self
      have source := mem_hashedTexts (p := p) listed (List.mem_cons_of_mem _ List.mem_cons_self)
      exact ⟨account_eq_of_key free own account, accountKey_ne_sourceKey free own source⟩
  | recordSuccess other =>
      exact account_eq_of_key free own (mem_hashedTexts listed List.mem_cons_self)

end Keys

/-! ## The protector -/

/-- **What the protector guarantees.**

The keys of a run never exceed the bound. An account or a source that is blocked until an
instant is reported at every time before it, unless a success of the account is recorded.
An account whose bucket is not dropped does not fail `2 * limit - 1` times in a row within a
span shorter than the window without being blocked. A failure exactly one block before the
zero time is excepted: its block ends at the zero time, which stands for no block. -/
theorem login_protection (p : LoginProtector) (calls : List LoginCall)
    (checked : p.policy.validate = .ok ())
    (free : CollisionFree {text | text ∈ hashedTexts p calls})
    (sorted : (calls.filterMap LoginCall.time).Pairwise (· ≤ ·)) :
    (((loginMachine p).exec ∅ calls).keys.length : Int) ≤ p.policy.maxTrackedKeys ∧
    (∀ (before between : List LoginCall) (username sourceIP : String) (now expiry : Time),
      calls = before ++ between ++ [.blocked username sourceIP now] → now < expiry →
      (Held ((loginMachine p).exec ∅ before) (loginAccountProtectionKey p username) expiry ∧
          (∀ call ∈ between, ¬ call.Succeeds p username) ∨
        Held ((loginMachine p).exec ∅ before) (loginSourceProtectionKey p sourceIP) expiry) →
      (loginMachine p).answer ((loginMachine p).exec ∅ (before ++ between))
        (.blocked username sourceIP now) = some true) ∧
    ∀ (before during : List LoginCall) (username : String) (start : Time),
      calls = before ++ during →
      (∀ call ∈ during, ∀ now ∈ call.time,
        start ≤ now ∧ now < start.add p.policy.failureWindow) →
      (∀ call ∈ during, ¬ call.Succeeds p username) →
      (∀ e ∈ (loginMachine p).trace ((loginMachine p).exec ∅ before) during,
        loginAccountProtectionKey p username ∉ evicted p e.before e.op) →
      (∀ call ∈ during, call.failsFor p username = true →
        ∀ now ∈ call.time, now.add p.policy.blockDuration ≠ 0) →
      2 * p.policy.accountFailureLimit - 1 ≤ during.countP (LoginCall.failsFor p username) →
      ∃ e ∈ (loginMachine p).trace ((loginMachine p).exec ∅ before) during,
        e.op.failsFor p username = true ∧ e.result = some true := by
  have valid := LoginProtectionPolicy.valid_of_validate checked
  refine ⟨exec_bounded valid calls, ?_, ?_⟩
  · rintro before between username sourceIP now expiry rfl early held
    -- the calls in between are before the end of the block, as the last one is
    have soon : ∀ call ∈ between, ∀ t ∈ call.time, t < expiry := by
      intro call listed t timed
      simp only [List.filterMap_append, List.filterMap_cons, LoginCall.time, List.filterMap_nil,
        List.pairwise_append] at sorted
      have earlier : t ≤ now := sorted.2.2 t
        (List.mem_append_right _ (List.mem_filterMap.mpr ⟨call, listed, timed⟩)) now
        List.mem_cons_self
      exact lt_of_le_of_lt earlier early
    have last : LoginCall.blocked username sourceIP now ∈
        before ++ between ++ [.blocked username sourceIP now] :=
      List.mem_append_right _ List.mem_cons_self
    have inner : ∀ call ∈ between, call ∈
        before ++ between ++ [.blocked username sourceIP now] := fun call listed =>
      List.mem_append_left _ (List.mem_append_right _ listed)
    have account := mem_hashedTexts (p := p) last List.mem_cons_self
    have source := mem_hashedTexts (p := p) last (List.mem_cons_of_mem _ List.mem_cons_self)
    rw [Machine.exec_append]
    apply Held.answer early
    rcases held with ⟨held, lasting⟩ | held
    · refine .inl (held.exec soon fun other listed same => lasting _ listed ?_)
      exact account_eq_of_key free account
        (mem_hashedTexts (inner _ listed) List.mem_cons_self) same
    · refine .inr (held.exec soon fun other listed same => ?_)
      exact accountKey_ne_sourceKey free
        (mem_hashedTexts (inner _ listed) List.mem_cons_self) source same.symm
  · rintro before during username start rfl inside lasting kept dated many
    by_contra none
    push Not at none
    have limit := valid.limit
    obtain ⟨call, listed, fails⟩ : ∃ call ∈ during, call.failsFor p username = true :=
      List.countP_pos_iff.mp (by omega)
    -- the account is hashed in the run, so its key stands for it alone
    have own : utf8 (loginKeyText "account" (p.normalizeUsername username)) ∈
        hashedTexts p (before ++ during) := by
      refine mem_hashedTexts (List.mem_append_right _ listed) ?_
      cases call with
      | recordFailure other sourceIP now _ _ =>
          rw [← beq_iff_eq.mp fails]
          exact List.mem_cons_self
      | blocked | recordSuccess => cases fails
    have counted := (counted_zero valid _).exec valid
      (fun call listed => distinguishes free own (List.mem_append_right _ listed)) lasting inside
      dated kept none
    have total := counted.total valid
    omega

/-- The strictest policy. -/
def strictProtector : LoginProtector where
  policy := ⟨minute, 2, 2, minute, 128⟩
  lower := Char.toLower
  canonicalIP _ := none

/-- A failed login of one account from one source. -/
def failedLogin (now : Time) : LoginCall :=
  .recordFailure "eve" "host" now .asListed .asListed

/-- Two failures, a third with the success of another account, and a question. -/
def blockedRun : List LoginCall :=
  [failedLogin 1000, failedLogin 2000] ++ [failedLogin 3000, .recordSuccess "mallory"] ++
    [.blocked "Eve" "elsewhere" 4000]

theorem login_protection_blockedRun :
    (((loginMachine strictProtector).exec ∅ blockedRun).keys.length : Int) ≤ 128 ∧
    (loginMachine strictProtector).answer
      ((loginMachine strictProtector).exec ∅ ([failedLogin 1000, failedLogin 2000] ++
        [failedLogin 3000, .recordSuccess "mallory"]))
      (.blocked "Eve" "elsewhere" 4000) = some true ∧
    ∃ e ∈ (loginMachine strictProtector).trace ∅ blockedRun,
      e.op.failsFor strictProtector "Eve" = true ∧ e.result = some true := by
  have apart : ∀ x ∈ hashedTexts strictProtector blockedRun,
      ∀ y ∈ hashedTexts strictProtector blockedRun, sha256 x = sha256 y → x = y := by
    decide +kernel
  have held : (((loginMachine strictProtector).exec ∅ [failedLogin 1000, failedLogin 2000]).lookup
      (loginAccountProtectionKey strictProtector "Eve")).map LoginAttemptBucket.blockedUntil =
        some 60000002000 := by
    decide +kernel
  have kept : ∀ e ∈ (loginMachine strictProtector).trace ∅ blockedRun,
      loginAccountProtectionKey strictProtector "Eve" ∉ evicted strictProtector e.before e.op := by
    decide +kernel
  obtain ⟨bucket, found, expiry⟩ := Option.map_eq_some_iff.mp held
  obtain ⟨bounded, blocked, limited⟩ := login_protection strictProtector blockedRun (by decide)
    (fun x member y member' same => apart x member y member' same) (by decide)
  exact ⟨bounded,
    blocked [failedLogin 1000, failedLogin 2000] [failedLogin 3000, .recordSuccess "mallory"]
      "Eve" "elsewhere" 4000 60000002000 rfl (by decide)
      (.inl ⟨⟨by decide, bucket, found, expiry⟩, by decide⟩),
    limited [] blockedRun "Eve" 0 rfl (by decide) (by decide) kept (by decide) (by decide)⟩

/-- Failures one block before the zero time are never blocked: three of them, with two
allowed, one after the other and with nothing dropped. -/
theorem failures_before_zero_time :
    strictProtector.policy.validate = .ok () ∧
      ((loginMachine strictProtector).trace ∅
        [failedLogin (-60000000000), failedLogin (-60000000000), failedLogin (-60000000000)]).map
          (fun e => (e.result, evicted strictProtector e.before e.op)) =
        [(some false, []), (some false, []), (some false, [])] := by
  decide +kernel

end ControlCenter.Identity.Auth
