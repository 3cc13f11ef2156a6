import ControlCenter.Orchestration.Job.Invariant

/-!
# Lease fencing

Once a job has been claimed again, the token of the earlier claim is dead: no renewal,
completion or failure that presents it is accepted (`memory_lease_fencing`).

The argument follows the text a token is the hash of. It ends in the version and the
time of the claim, and neither holds a colon, so the version can be read back from it
(`leaseTokenText_version`). The version counts the writes of the job
(`version_toNat`), so two claims of one job put different versions into their texts.
The lease a job holds after the second claim carries a token at least as young as that
claim (`LeaseFrom`), and the hash keeps the texts of the run apart.

A claim takes a running job only when its lease has run out, and the lease it finds is
the one last granted or renewed in the run (`lastGrant_eq_lease`).
-/

set_option autoImplicit false

namespace ControlCenter.Orchestration

open Library

/-! ## The version in the text of a token -/

/-- The version of a claim is read back from the text of its token. -/
theorem leaseTokenText_version {candidate candidate' : Job} {workerID workerID' : String}
    {now now' : Time}
    (same : leaseTokenText candidate workerID now = leaseTokenText candidate' workerID' now') :
    candidate.version = candidate'.version := by
  have chars := congrArg String.toList same
  simp only [leaseTokenText, String.toList_append, show ":".toList = [':'] from rfl] at chars
  -- the time is the part after the last colon, the version the part before it
  have byTime := append_separator_inj (colon_notMem_signedDecimal _) (colon_notMem_signedDecimal _)
    chars
  have byVersion := append_separator_inj (colon_notMem_decimal _) (colon_notMem_decimal _) byTime.1
  exact decimal_injective (String.toList_injective byVersion.2)

/-! ## Claims of a run -/

variable {op : JobOp String} {job : Job} {id : String} {ops : List Op}

/-- The transition behind a claim. -/
theorem Transition.of_claims {reply : Reply} {job' : Job} (moves : Transition op reply job job')
    (claims : reply.Claims job.id) :
    ∃ ctx workerID now ttl, op = .claim ctx workerID now ttl ∧ job.eligible now = true ∧
      job' = job.startAttempt workerID now ttl ∧ reply = .claimed job' := by
  have updated : ∀ job' : Job, ¬ (Reply.updated job').Claims job.id :=
    fun job' => not_claims_of_ne (by simp) job.id
  cases moves with
  | cancelExpired _ _ _ other | failExhausted _ _ _ other => exact absurd claims other
  | startAttempt _ eligible _ => exact ⟨_, _, _, _, rfl, eligible, rfl, rfl⟩
  | renew | complete | failAttempt | cancel | cancelIfVersion => exact absurd claims (updated _)

/-- A claim in a reply is the attempt the repository has just stored. -/
theorem machine_claims {r : MemoryManualRetryRepository} (sound : r.jobs.Sound) {op : Op}
    (claims : (memoryMachine.answer r op).Claims id) :
    ∃ ctx workerID now ttl job, op = .job (.claim ctx workerID now ttl) ∧ r.job id = some job ∧
      job.eligible now = true ∧
      memoryMachine.answer r op = .claimed (job.startAttempt workerID now ttl) ∧
      (memoryMachine.next r op).job id = some (job.startAttempt workerID now ttl) := by
  have effect := machine_effect sound op id
  generalize memoryMachine.answer r op = reply, r.job id = before,
    (memoryMachine.next r op).job id = after at effect claims ⊢
  cases effect with
  | same other | creates _ _ other => exact absurd claims other
  | @moves _ job job' isJob own moves =>
      subst own
      obtain ⟨ctx, workerID, now, ttl, rfl, eligible, rfl, rfl⟩ := moves.of_claims claims
      exact ⟨ctx, workerID, now, ttl, job, isJob, rfl, eligible, rfl, rfl⟩

/-- The text of the token an event issued. -/
def issuedText (e : Event MemoryManualRetryRepository Op Reply) : Option Bytes :=
  match e.op, e.result with
  | .job (.claim _ workerID now _), .claimed job => some (utf8 (leaseTokenText job workerID now))
  | _, _ => none

/-- The texts of the tokens a run issued. -/
def tokenPreimages (ops : List Op) : List Bytes :=
  (memoryMachine.trace .new ops).filterMap issuedText

theorem tokenPreimages_append (ops later : List Op) :
    tokenPreimages ops ⊆ tokenPreimages (ops ++ later) := by
  rw [tokenPreimages, tokenPreimages, Machine.trace_append, List.filterMap_append]
  exact List.subset_append_left _ _

theorem writeCount_mono (id : String) (ops later : List Op) :
    writeCount id ops ≤ writeCount id (ops ++ later) := by
  rw [writeCount, writeCount, Machine.trace_append, List.countP_append]
  exact Nat.le_add_right _ _

/-- The token was issued in the run by a claim of the job at its write number `n`. -/
structure IssuedAt (id : String) (ops : List Op) (n : Nat) (token : String) : Prop where
  issued : ∃ candidate workerID now, candidate.version = UInt64.ofNat n ∧
    token = leaseToken candidate workerID now ∧
    utf8 (leaseTokenText candidate workerID now) ∈ tokenPreimages ops
  le : n ≤ writeCount id ops

theorem IssuedAt.append {n : Nat} {token : String} (at_n : IssuedAt id ops n token)
    (later : List Op) : IssuedAt id (ops ++ later) n token := by
  obtain ⟨⟨candidate, workerID, now, version, same, member⟩, le⟩ := at_n
  exact ⟨⟨candidate, workerID, now, version, same, tokenPreimages_append ops later member⟩,
    le.trans (writeCount_mono id ops later)⟩

/-- Two tokens issued at different writes of a job differ. -/
theorem IssuedAt.ne {m n : Nat} {token token' : String}
    (free : CollisionFree {text | text ∈ tokenPreimages ops}) (short : writeCount id ops < 2 ^ 64)
    (at_m : IssuedAt id ops m token) (at_n : IssuedAt id ops n token') (lt : m < n) :
    token ≠ token' := by
  obtain ⟨⟨candidate, workerID, now, version, rfl, member⟩, _⟩ := at_m
  obtain ⟨⟨candidate', workerID', now', version', rfl, member'⟩, le⟩ := at_n
  intro same
  have texts := utf8_injective (free.eq_of_sha256Hex_eq member member' same)
  have versions := leaseTokenText_version texts
  rw [version, version'] at versions
  have numbers := congrArg UInt64.toNat versions
  rw [UInt64.toNat_ofNat', UInt64.toNat_ofNat', Nat.mod_eq_of_lt (by omega),
    Nat.mod_eq_of_lt (by omega)] at numbers
  omega

/-- A claim issues its token at the write it makes. -/
theorem issuedAt_of_claims {op : Op}
    (claimed : memoryMachine.answer (memoryMachine.exec .new ops) op = .claimed job)
    (own : job.id = id) :
    ∃ lease, job.lease = some lease ∧
      (memoryMachine.exec .new (ops ++ [op])).job id = some job ∧
      IssuedAt id (ops ++ [op]) (writeCount id (ops ++ [op])) lease.token := by
  obtain ⟨ctx, workerID, now, ttl, before, rfl, found, _, answered, stored⟩ :=
    machine_claims (exec_sound ops) ⟨job, claimed, own⟩
  cases claimed.symm.trans answered
  rw [← Machine.exec_concat] at stored
  have version := version_eq_writeCount id (ops ++ [.job (.claim ctx workerID now ttl)])
  rw [stored, Option.elim_some] at version
  refine ⟨_, rfl, stored, ⟨⟨_, workerID, now, version, rfl, ?_⟩, le_rfl⟩⟩
  rw [tokenPreimages, Machine.trace_concat, List.filterMap_append]
  refine List.mem_append_right _ ?_
  simp [issuedText, Machine.event, answered]

/-- A claim is a write of its job. -/
theorem writeCount_of_claims {op : Op}
    (claims : (memoryMachine.answer (memoryMachine.exec .new ops) op).Claims id) :
    writeCount id (ops ++ [op]) = writeCount id ops + 1 := by
  obtain ⟨_, workerID, now, ttl, job, _, found, _, _, stored⟩ :=
    machine_claims (exec_sound ops) claims
  have wrote : some (job.startAttempt workerID now ttl) ≠ some job := by
    intro same
    have := congrArg Job.version (Option.some.inj same)
    simp [Job.startAttempt] at this
  rw [writeCount_concat, stored, found, if_pos wrote]

/-! ## Where a lease comes from -/

/-- A transition grants a lease, renews it, drops it or keeps it. -/
theorem Transition.lease_cases {reply : Reply} {job' : Job} (moves : Transition op reply job job') :
    reply.Claims job.id ∨
    (∃ ctx token now ttl, op = .renewLease ctx job.id token now ttl ∧ reply = .updated job' ∧
      job' = job.renew now ttl) ∨
    job'.lease = none ∨ job'.lease = job.lease := by
  cases moves with
  | cancelExpired | failExhausted => exact .inr (.inr (.inl rfl))
  | startAttempt => exact .inl ⟨_, rfl, rfl⟩
  | renew => exact .inr (.inl ⟨_, _, _, _, rfl, rfl, rfl⟩)
  | complete =>
      refine .inr (.inr (.inl ?_))
      unfold Job.complete
      split <;> rfl
  | failAttempt =>
      refine .inr (.inr (.inl ?_))
      unfold Job.failAttempt
      simp only
      split_ifs <;> rfl
  | cancel | cancelIfVersion =>
      refine .inr (.inr ?_)
      unfold Job.cancel
      split
      · exact .inr rfl
      · exact .inl rfl

/-- Every lease of the job after the run was issued no earlier than write number `least`. -/
def LeaseFrom (id : String) (ops : List Op) (least : Nat) : Prop :=
  ∀ job lease, (memoryMachine.exec .new ops).job id = some job → job.lease = some lease →
    ∃ n, least ≤ n ∧ IssuedAt id ops n lease.token

/-- Later operations bring younger leases only. -/
theorem LeaseFrom.append {least : Nat} (young : LeaseFrom id ops least)
    (enough : least ≤ writeCount id ops) (later : List Op) : LeaseFrom id (ops ++ later) least := by
  induction later using List.reverseRecOn with
  | nil => simpa using young
  | append_singleton later op ih =>
      rw [← List.append_assoc]
      intro job' lease' found held
      have sound := exec_sound (ops ++ later)
      by_cases claims : (memoryMachine.answer (memoryMachine.exec .new (ops ++ later)) op).Claims id
      · obtain ⟨job, claimed, own⟩ := claims
        obtain ⟨lease, granted, stored, issued⟩ := issuedAt_of_claims claimed own
        cases stored.symm.trans found
        cases granted.symm.trans held
        refine ⟨_, ?_, issued⟩
        rw [List.append_assoc]
        exact enough.trans (writeCount_mono id ops _)
      · -- without a claim the token is the one of the lease before
        suffices before : ∃ job lease, (memoryMachine.exec .new (ops ++ later)).job id = some job ∧
            job.lease = some lease ∧ lease.token = lease'.token by
          obtain ⟨job, lease, found, held, token⟩ := before
          obtain ⟨n, le, issued⟩ := ih job lease found held
          exact ⟨n, le, token ▸ issued.append [op]⟩
        have effect := machine_effect sound op id
        rw [Machine.exec_concat] at found
        rw [found] at effect
        generalize (memoryMachine.exec .new (ops ++ later)).job id = before at effect ⊢
        cases effect with
        | same _ => exact ⟨job', lease', rfl, held, rfl⟩
        | creates _ _ _ => cases held
        | @moves _ job _ _ own moves =>
            subst own
            rcases moves.lease_cases with started | ⟨_, _, _, _, _, _, rfl⟩ | dropped | kept
            · exact absurd started claims
            · obtain ⟨lease, heldBefore, rfl⟩ := Option.map_eq_some_iff.mp held
              exact ⟨job, lease, rfl, heldBefore, rfl⟩
            · cases dropped.symm.trans held
            · exact ⟨job, lease', rfl, kept.symm.trans held, rfl⟩

/-- The lease an event granted or renewed. -/
def grantedLease (id : String) (e : Event MemoryManualRetryRepository Op Reply) : Option Lease :=
  match e.op, e.result with
  | .job (.claim _ _ _ _), .claimed job => if job.id = id then job.lease else none
  | .job (.renewLease _ _ _ _ _), .updated job => if job.id = id then job.lease else none
  | _, _ => none

/-- The lease of the job as last granted or renewed in the run. -/
def lastGrant (id : String) (ops : List Op) : Option Lease :=
  ((memoryMachine.trace .new ops).filterMap (grantedLease id)).getLast?

theorem lastGrant_concat (id : String) (ops : List Op) (op : Op) :
    lastGrant id (ops ++ [op]) =
      (grantedLease id (memoryMachine.event (memoryMachine.exec .new ops) op)).or
        (lastGrant id ops) := by
  rw [lastGrant, Machine.trace_concat, List.filterMap_append, List.getLast?_append, lastGrant]
  cases granted : grantedLease id (memoryMachine.event (memoryMachine.exec .new ops) op) <;>
    simp [granted]

/-- A granted lease is the lease of the stored job. -/
theorem grantedLease_stored {r : MemoryManualRetryRepository} (sound : r.jobs.Sound) {op : Op}
    {lease : Lease} (granted : grantedLease id (memoryMachine.event r op) = some lease) :
    ∃ job, (memoryMachine.next r op).job id = some job ∧ job.lease = some lease := by
  unfold grantedLease at granted
  split at granted
  · next claimed =>
      split_ifs at granted with own
      have claims : (memoryMachine.answer r op).Claims id := ⟨_, claimed, own⟩
      obtain ⟨_, _, _, _, _, _, _, _, answered, stored⟩ := machine_claims sound claims
      cases Eq.trans (Eq.symm claimed) answered
      exact ⟨_, stored, granted⟩
  · next jobOp updated =>
      split_ifs at granted with own
      subst own
      cases (show op = _ from jobOp)
      exact ⟨_, step_stores sound.keyed _ updated, granted⟩
  · cases granted

/-- **The lease a job holds is the one last granted or renewed.** -/
theorem lastGrant_eq_lease {lease : Lease}
    (found : (memoryMachine.exec .new ops).job id = some job) (held : job.lease = some lease) :
    lastGrant id ops = some lease := by
  induction ops using List.reverseRecOn generalizing job lease with
  | nil => cases found
  | append_singleton ops op ih =>
      have sound := exec_sound ops
      rw [Machine.exec_concat] at found
      rw [lastGrant_concat]
      cases granted : grantedLease id (memoryMachine.event (memoryMachine.exec .new ops) op) with
      | some grant =>
          obtain ⟨stored, foundStored, heldStored⟩ := grantedLease_stored sound granted
          cases foundStored.symm.trans found
          exact heldStored.symm.trans held
      | none =>
          rw [Option.none_or]
          have effect := machine_effect sound op id
          rw [found] at effect
          generalize before : (memoryMachine.exec .new ops).job id = stored at effect
          generalize answered : memoryMachine.answer (memoryMachine.exec .new ops) op = reply
            at effect
          simp only [grantedLease, Machine.event, answered] at granted
          cases effect with
          | same _ => exact ih before held
          | creates _ _ _ => cases held
          | @moves _ old _ isJob own moves =>
              subst own
              rcases moves.lease_cases with claims | ⟨_, _, _, _, rfl, rfl, rfl⟩ | dropped | kept
              · obtain ⟨_, _, _, _, rfl, _, rfl, rfl⟩ := moves.of_claims claims
                subst isJob
                simp [held] at granted
              · subst isJob
                simp only [moves.sameOrigin.id, if_pos, held] at granted
                cases granted
              · cases dropped.symm.trans held
              · exact ih before (kept.symm.trans held)

/-! ## Stale tokens -/

/-- The operation completes or renews the job with this token. -/
def JobOp.Presents (id token : String) : JobOp String → Prop
  | .renewLease _ id' token' _ _ => id' = id ∧ token' = token
  | .succeed _ id' token' _ _ => id' = id ∧ token' = token
  | .fail _ id' token' _ _ _ _ => id' = id ∧ token' = token
  | .create _ _ | .claim _ _ _ _ | .requestCancel _ _ _ | .requestCancelIfVersion _ _ _ _ => False

theorem updateLeased_stale {r : MemoryRepository} {token : String}
    (found : r.jobs.lookup id = some job)
    (stale : ∀ lease, job.lease = some lease → lease.token ≠ token) (now : Time)
    (update : Job → Job) : r.updateLeased id token now update = (r, .error .leaseLost) := by
  have refused : r.leased id token now = .error .leaseLost := by
    simp only [MemoryRepository.leased, found]
    split
    · rfl
    · split
      · rfl
      · next lease held => rw [if_pos (.inl (stale lease held))]
  simp only [MemoryRepository.updateLeased, refused]

/-- What presents a stale token is refused. -/
theorem step_presents_stale {r : MemoryRepository} {token : String}
    (found : r.jobs.lookup id = some job)
    (stale : ∀ lease, job.lease = some lease → lease.token ≠ token)
    (presents : op.Presents id token) :
    (r.step op).2.isError = true ∧ (op.ArgumentsAccepted → (r.step op).2 = .error .leaseLost) := by
  have lost : (r.serve op).2 = .error .leaseLost := by
    cases op with
    | create | claim | requestCancel | requestCancelIfVersion => cases presents
    | renewLease | succeed | fail =>
        obtain ⟨rfl, rfl⟩ := presents
        simp only [MemoryRepository.serve, updateLeased_stale found stale]
        rfl
  by_cases accepted : op.ArgumentsAccepted
  · rw [step_accepted r accepted, lost]
    exact ⟨rfl, fun _ => rfl⟩
  · obtain ⟨e, refused⟩ := step_refused r accepted
    rw [refused]
    exact ⟨rfl, fun now => absurd now accepted⟩

/-- A stored job stays stored. -/
theorem exec_keeps_job (found : (memoryMachine.exec .new ops).job id = some job) (later : List Op) :
    ∃ job', (memoryMachine.exec .new (ops ++ later)).job id = some job' := by
  induction later using List.reverseRecOn with
  | nil => exact ⟨job, by simpa using found⟩
  | append_singleton later op ih =>
      obtain ⟨stored, found⟩ := ih
      have effect := machine_effect (exec_sound (ops ++ later)) op id
      rw [← List.append_assoc, Machine.exec_concat]
      rw [found] at effect
      generalize (memoryMachine.next (memoryMachine.exec .new (ops ++ later)) op).job id = after
        at effect ⊢
      cases effect with
      | same _ => exact ⟨stored, rfl⟩
      | moves _ _ _ => exact ⟨_, rfl⟩

/-- In the run a claim returned the token for the job, and a later claim returned the job
again. -/
def Superseded (ops : List Op) (id token : String) : Prop :=
  ∃ before claim between claim' after job lease,
    ops = before ++ [claim] ++ between ++ [claim'] ++ after ∧
    memoryMachine.answer (memoryMachine.exec .new before) claim = .claimed job ∧ job.id = id ∧
    job.lease = some lease ∧ lease.token = token ∧
    (memoryMachine.answer (memoryMachine.exec .new (before ++ [claim] ++ between)) claim').Claims id

/-- After a second claim the job is stored, and no lease of it carries the earlier token. -/
theorem Superseded.stale {token : String} (superseded : Superseded ops id token)
    (short : writeCount id ops < 2 ^ 64) (free : CollisionFree {text | text ∈ tokenPreimages ops}) :
    ∃ job, (memoryMachine.exec .new ops).job id = some job ∧
      ∀ lease, job.lease = some lease → lease.token ≠ token := by
  obtain ⟨before, claim, between, claim', after, job, lease, rfl, claimed, own, held, rfl,
    job', claimed', own'⟩ := superseded
  obtain ⟨granted, held', _, issued⟩ := issuedAt_of_claims claimed own
  cases held'.symm.trans held
  obtain ⟨granted', heldAgain, stored', issued'⟩ := issuedAt_of_claims claimed' own'
  have young : LeaseFrom id (before ++ [claim] ++ between ++ [claim'])
      (writeCount id (before ++ [claim] ++ between ++ [claim'])) := by
    intro job lease found held
    cases stored'.symm.trans found
    cases heldAgain.symm.trans held
    exact ⟨_, le_rfl, issued'⟩
  have youngAfter := young.append le_rfl after
  -- the second claim is a write, so its number is above the first one's
  have lt : writeCount id (before ++ [claim]) <
      writeCount id (before ++ [claim] ++ between ++ [claim']) := by
    rw [writeCount_of_claims ⟨job', claimed', own'⟩]
    exact Nat.lt_succ_of_le (writeCount_mono id _ between)
  obtain ⟨stored, found⟩ := exec_keeps_job stored' after
  refine ⟨stored, found, fun lease current => ?_⟩
  obtain ⟨n, le, issuedLast⟩ := youngAfter stored lease found current
  have issuedFirst := issued.append (between ++ ([claim'] ++ after))
  simp only [← List.append_assoc] at issuedFirst
  exact (issuedFirst.ne free short issuedLast (lt.trans_le le)).symm

/-- **Lease fencing.** A token stays dead once its job has been claimed again: what
presents it is refused and changes nothing, with a lost lease whenever the arguments of
the call pass their own checks. A second claim of a running job comes only when the lease
last granted or renewed has run out. -/
theorem memory_lease_fencing (ops : List Op) (id : String)
    (short : writeCount id ops < 2 ^ 64)
    (free : CollisionFree {text | text ∈ tokenPreimages ops}) :
    (∀ token op, Superseded ops id token → op.Presents id token →
      memoryMachine.next (memoryMachine.exec .new ops) (.job op) = memoryMachine.exec .new ops ∧
      (memoryMachine.answer (memoryMachine.exec .new ops) (.job op)).isError = true ∧
      (op.ArgumentsAccepted →
        memoryMachine.answer (memoryMachine.exec .new ops) (.job op) = .error .leaseLost)) ∧
    (∀ ctx workerID now ttl job, (memoryMachine.exec .new ops).job id = some job →
      job.status = .running →
      (memoryMachine.answer (memoryMachine.exec .new ops)
        (.job (.claim ctx workerID now ttl))).Claims id →
      ∃ lease, lastGrant id ops = some lease ∧ lease.expiresAt ≤ now) := by
  refine ⟨fun token op superseded presents => ?_, ?_⟩
  · obtain ⟨job, found, stale⟩ := superseded.stale short free
    obtain ⟨refused, lost⟩ := step_presents_stale found stale presents
    exact ⟨machine_error (exec_sound ops).keyed refused, refused, lost⟩
  · intro ctx workerID now ttl job found running claims
    obtain ⟨_, _, _, _, job', isClaim, found', eligible, _, _⟩ :=
      machine_claims (exec_sound ops) claims
    cases isClaim
    cases found'.symm.trans found
    -- a running job is eligible only through its lease
    rw [Job.eligible, running] at eligible
    obtain ⟨lease, held, expired⟩ := Job.leaseExpired_iff.mp eligible
    exact ⟨lease, lastGrant_eq_lease found held, expired⟩

/-- A request for one job with an empty object as its input. -/
def sampleRequest : CreateRequest where
  id := "job-1"
  changeID := "change-1"
  actionName := "restart"
  input := utf8 "\x7b\x7d"
  idempotencyKey := "change:1"
  maxAttempts := 3
  now := 1

/-- The job is claimed, its lease runs out, and it is claimed again. -/
def reclaimedRun : List Op :=
  [.job (.create .background sampleRequest), .job (.claim .background "first" 10 5),
    .job (.claim .background "second" 20 5)]

/-- The token of the first claim. -/
def supersededToken : String :=
  leaseToken (sampleRequest.job.startAttempt "first" 10 5) "first" 10

theorem reclaimedRun_superseded : Superseded reclaimedRun "job-1" supersededToken :=
  ⟨[.job (.create .background sampleRequest)], .job (.claim .background "first" 10 5), [],
    .job (.claim .background "second" 20 5), [], sampleRequest.job.startAttempt "first" 10 5, _,
    rfl, by decide +kernel, rfl, rfl, rfl, by decide +kernel⟩

theorem reclaimedRun_collisionFree : CollisionFree {text | text ∈ tokenPreimages reclaimedRun} := by
  have apart : ∀ x ∈ tokenPreimages reclaimedRun, ∀ y ∈ tokenPreimages reclaimedRun,
      sha256 x = sha256 y → x = y := by decide +kernel
  exact fun x member y member' same => apart x member y member' same

theorem memory_lease_fencing_reclaimed :
    Superseded reclaimedRun "job-1" supersededToken ∧
    memoryMachine.answer (memoryMachine.exec .new reclaimedRun)
      (.job (.renewLease .background "job-1" supersededToken 21 5)) = .error .leaseLost :=
  ⟨reclaimedRun_superseded,
    ((memory_lease_fencing reclaimedRun "job-1" (by decide +kernel) reclaimedRun_collisionFree).1
      supersededToken (.renewLease .background "job-1" supersededToken 21 5)
      reclaimedRun_superseded ⟨rfl, rfl⟩).2.2 ⟨rfl, by decide, by decide⟩⟩

/-- The checks of the arguments come first: a renewal without a lifetime is refused for
that, whatever its token. -/
theorem stale_token_reported_otherwise :
    Superseded reclaimedRun "job-1" supersededToken ∧ writeCount "job-1" reclaimedRun < 2 ^ 64 ∧
    CollisionFree {text | text ∈ tokenPreimages reclaimedRun} ∧
    memoryMachine.answer (memoryMachine.exec .new reclaimedRun)
      (.job (.renewLease .background "job-1" supersededToken 21 0)) =
        .error (.message "current time and positive lease ttl are required") :=
  ⟨reclaimedRun_superseded, by decide +kernel, reclaimedRun_collisionFree, by decide +kernel⟩

end ControlCenter.Orchestration
