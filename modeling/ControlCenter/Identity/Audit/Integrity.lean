import ControlCenter.Identity.Audit.Pages
import ControlCenter.Library.Chain
import ControlCenter.Library.Machine

/-!
# Inspecting the audit chain

`integrity.go`: every stored event is verified against its predecessor. A log that only
`Append` has written passes, unless an accepted call gives its event an instant in the first
microsecond of time, which is truncated to zero (`appended_log_inspects`).
-/

set_option autoImplicit false

namespace ControlCenter.Identity.Audit

open Library

/-- The thirty-two digits of a UUID that is written with hyphens. -/
def legacyUnhyphenatedUUID (value : Bytes) : Option Bytes :=
  let hyphen := 0x2d
  if value.length ≠ 36 ∨ [8, 13, 18, 23].any (fun i => value[i]? != some hyphen) = true then none
  else
    let compact := value.filter (· != hyphen)
    if compact.length ≠ 32 ∨ compact.all Json.isHexByte = false then none else some compact

def verify (e : Event) (expectedPreviousHash : Bytes) : Except String Unit :=
  if Time.isZero e.occurredAt = true then .error "audit timestamp is required"
  else if e.utc = false ∨ e.occurredAt % 1000 ≠ 0 then
    .error "audit timestamp is not canonical PostgreSQL microsecond UTC"
  else if e.occurredAt ≠ Time.truncateMicrosecond e.occurredAt then
    .error "audit timestamp is not canonical"
  else if e.previousHash ≠ expectedPreviousHash then .error "audit previous hash mismatch"
  else if e.hash = [] then .error "audit event hash mismatch"
  else if hashEvent e = e.hash then .ok ()
  else
    match legacyUnhyphenatedUUID e.id with
    | some legacyID =>
        if hashEvent { e with id := legacyID } = e.hash then .ok ()
        else .error "audit event hash mismatch"
    | none => .error "audit event hash mismatch"

structure IntegrityReport where
  eventsChecked : Nat
  headHash : Bytes

inductive ChainError where
  | context (cause : ContextError)
  | verify (offset : Nat) (text : String)

/-- Verify the events from an offset on, and return the hash of the last. -/
def inspectFrom : Nat → Bytes → List Event → Except ChainError Bytes
  | _, previousHash, [] => .ok previousHash
  | offset, previousHash, e :: rest =>
      match verify e previousHash with
      | .error text => .error (.verify offset text)
      | .ok () => inspectFrom (offset + 1) e.hash rest

def MemoryLog.inspectChain (log : MemoryLog) (ctx : Context) : Except ChainError IntegrityReport :=
  match ctx.err with
  | some cause => .error (.context cause)
  | none => (inspectFrom 0 [] log.records).map fun head => ⟨log.records.length, head⟩

/-- What `Append` makes of an event. -/
structure Event.Prepared (e : Event) : Prop where
  utc : e.utc = true
  whole : e.occurredAt % 1000 = 0
  hash : hashEvent e = e.hash

/-- Prepared events, each with the hash of the one before it. -/
def Unbroken (records : List Event) : Prop :=
  Linked Event.previousHash Event.hash [] records ∧ ∀ e ∈ records, e.Prepared

theorem tip_records (records : List Event) :
    tip Event.hash [] records = (records.getLast?.map Event.hash).getD [] := by
  induction records using List.reverseRecOn with
  | nil => rfl
  | append_singleton earlier last _ =>
      rw [tip_concat, List.getLast?_concat]
      rfl

theorem Unbroken.append {log : MemoryLog} (kept : Unbroken log.records) (call : AppendCall) :
    Unbroken (log.append call).1.records := by
  unfold MemoryLog.append
  split
  · exact kept
  · dsimp only
    split
    · exact kept
    · next event prepared =>
        unfold prepare at prepared
        split at prepared
        · cases prepared
        · cases prepared
          refine ⟨kept.1.concat (tip_records _).symm,
            List.forall_mem_append.mpr ⟨kept.2, List.forall_mem_singleton.mpr ?_⟩⟩
          exact ⟨rfl, Int.emod_eq_zero_of_dvd Int.dvd_self_sub_emod, rfl⟩

theorem Event.Prepared.verify {e : Event} (prepared : e.Prepared) :
    verify e e.previousHash =
      if Time.isZero e.occurredAt = true then .error "audit timestamp is required" else .ok () := by
  have hashed : e.hash ≠ [] := by
    intro empty
    have digits := sha256Hex_length { e with hash := [] }.payload
    rw [utf8_injective (prepared.hash.trans empty : _ = utf8 "")] at digits
    cases digits
  unfold Audit.verify Time.truncateMicrosecond
  simp [prepared.utc, prepared.whole, hashed, prepared.hash]

/-- No event is stored with the zero instant. -/
def dated (records : List Event) : Bool := records.all fun e => !Time.isZero e.occurredAt

theorem inspectFrom_prepared {records : List Event} {offset : Nat} {previousHash head : Bytes}
    (prepared : ∀ e ∈ records, e.Prepared)
    (linked : Linked Event.previousHash Event.hash previousHash records) :
    inspectFrom offset previousHash records = .ok head ↔
      dated records = true ∧ tip Event.hash previousHash records = head := by
  unfold dated
  induction records generalizing offset previousHash with
  | nil => simp [inspectFrom, tip]
  | cons e rest ih =>
      obtain ⟨rfl, linked⟩ := linked
      obtain ⟨own, others⟩ := List.forall_mem_cons.mp prepared
      rw [inspectFrom, own.verify]
      by_cases zero : Time.isZero e.occurredAt = true
      · simp [zero]
      · simp only [zero, List.all_cons]
        exact ih others linked

/-! ## Calls that leave an event undated -/

/-- The instant that a call gives its event. -/
def AppendCall.instant (call : AppendCall) : Time :=
  if Time.isZero call.event.occurredAt then call.now else call.event.occurredAt

def logMachine : Machine MemoryLog AppendCall (Except AuditError Unit) := ⟨MemoryLog.append⟩

theorem MemoryLog.dated_append (log : MemoryLog) (call : AppendCall) :
    dated (log.append call).1.records = true ↔ dated log.records = true ∧
      ((log.append call).2 = .ok () → ¬ (0 ≤ call.instant ∧ call.instant < 1000)) := by
  unfold append
  split
  · simp
  · unfold prepare
    by_cases blank : (isBlank call.event.action || isBlank call.event.outcome) = true
    · simp [blank]
    · rw [← Time.truncateMicrosecond_eq_zero]
      simp [blank, dated, AppendCall.instant, Time.isZero]

theorem MemoryLog.dated_appendAll (log : MemoryLog) (calls : List AppendCall) :
    dated (log.appendAll calls).records = true ↔ dated log.records = true ∧
      ∀ e ∈ logMachine.trace log calls, e.result = .ok () →
        ¬ (0 ≤ e.op.instant ∧ e.op.instant < 1000) := by
  induction calls generalizing log with
  | nil => simp [appendAll]
  | cons call calls ih =>
      rw [Machine.trace_cons, List.forall_mem_cons, ← and_assoc]
      exact (ih (log.append call).1).trans (and_congr_left' (log.dated_append call))

/-- **A log of appended events passes its inspection exactly when each of them is dated.** The
report gives the number of events and the hash of the last. They are dated unless an accepted
call gives its event an instant in the first microsecond of time. -/
theorem appended_log_inspects (calls : List AppendCall) (ctx : Context)
    (report : IntegrityReport) :
    let log := MemoryLog.new.appendAll calls
    (log.inspectChain ctx = .ok report ↔ ctx.err = none ∧ dated log.records = true ∧
      ⟨log.records.length, (log.records.getLast?.map Event.hash).getD []⟩ = report) ∧
    (dated log.records = true ↔ ∀ e ∈ logMachine.trace MemoryLog.new calls, e.result = .ok () →
      ¬ (0 ≤ e.op.instant ∧ e.op.instant < 1000)) := by
  intro log
  refine ⟨?_, (MemoryLog.new.dated_appendAll calls).trans (and_iff_right rfl)⟩
  have unbroken : Unbroken log.records := by
    refine List.foldlRecOn calls _ (motive := fun log => Unbroken (MemoryLog.records log)) ?_
      fun _ kept call _ => kept.append call
    exact ⟨trivial, List.forall_mem_nil _⟩
  unfold MemoryLog.inspectChain
  cases ctx.err with
  | some cause => simp
  | none =>
      simp only [except_map_ok, inspectFrom_prepared unbroken.2 unbroken.1,
        tip_records, true_and, and_assoc, exists_and_left, exists_eq_left']

end ControlCenter.Identity.Audit
