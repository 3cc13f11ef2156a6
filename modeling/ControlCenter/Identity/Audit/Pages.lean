import ControlCenter.Identity.Audit.Chain
import ControlCenter.Identity.Audit.Redaction
import ControlCenter.Library.Checks
import ControlCenter.Library.Keyset
import Mathlib.Order.OrderDual

/-!
# Pages of the audit log

`MemoryLog` of `internal/identity/audit/audit.go`: events are appended at the end and read in
pages, newest first. A page holds the matching events below a cursor and says whether there are
more; the next page is read with the last sequence number as the cursor.

A page is a page of keyset pagination in the descending order of the sequence numbers
(`read_eq_readPage`). Appending adds sequence numbers above every cursor, so a reader that
follows the pages while others append ends with the events that were there when it began
(`audit_walk_lossless`).
-/

set_option autoImplicit false

namespace ControlCenter.Identity.Audit

open Library

def defaultReadLimit : Int := 50

def maxReadLimit : Int := 100

/-! ## Redacted details -/

theorem redactMembers_ordered {members : List (List Char × JsonValue)} (ordered : Ordered members) :
    Ordered (redactMembers members) := by
  have keys : ∀ list : List (List Char × JsonValue),
      (redactMembers list).map Prod.fst = list.map Prod.fst := by
    intro list
    induction list with
    | nil => rfl
    | cons member rest ih => rw [redactMembers, List.map_cons, List.map_cons, ih]
  have pairs : (members.map Prod.fst).Pairwise (· < ·) := List.pairwise_map.mpr ordered
  rw [← keys] at pairs
  exact List.pairwise_map.mp pairs

mutual
theorem redactValue_fits {depth : Nat} : ∀ {v : JsonValue},
    v.Fits depth → (redactValue v).Fits depth
  | .null, fits => fits
  | .bool _, fits => fits
  | .num _, fits => fits
  | .str _, _ => .str
  | .arr _, .arr each => .arr (redactItems_fits each)
  | .obj _, .obj each ordered => .obj (redactMembers_fits each) (redactMembers_ordered ordered)

theorem redactItems_fits {depth : Nat} : ∀ {items : List JsonValue},
    (∀ v ∈ items, v.Fits depth) → ∀ v ∈ redactItems items, v.Fits depth
  | [], _ => nofun
  | _ :: _, each => by
      rw [List.forall_mem_cons] at each
      rw [redactItems, List.forall_mem_cons]
      exact ⟨redactValue_fits each.1, redactItems_fits each.2⟩

theorem redactMembers_fits {depth : Nat} : ∀ {members : List (List Char × JsonValue)},
    (∀ member ∈ members, member.2.Fits depth) →
      ∀ member ∈ redactMembers members, member.2.Fits depth
  | [], _ => nofun
  | (key, _) :: _, each => by
      rw [List.forall_mem_cons] at each
      rw [redactMembers, List.forall_mem_cons]
      refine ⟨?_, redactMembers_fits each.2⟩
      cases sensitiveKey key with
      | true => exact .str
      | false => exact redactValue_fits each.1
end

/-- `Redact` of the details of an event. -/
def Details.redact (details : Details) : Details where
  members := redactMembers details.members
  ordered := redactMembers_ordered details.ordered
  fits := by
    obtain ⟨depth, fits⟩ := details.fits
    exact ⟨depth, redactMembers_fits fits⟩

@[simp] theorem Details.redact_redact (details : Details) :
    details.redact.redact = details.redact :=
  Details.ext_members (redactMembers_idem details.members)

/-! ## The log -/

inductive AuditError where
  | context (cause : ContextError)
  | message (text : String)
  deriving DecidableEq

/-- Every rune of the text is white space. -/
def isBlank (text : Bytes) : Bool := (runes text).all fun rune => rune.any isSpace

/-- The event that is stored, with the identifier and the instant that stand for missing ones. -/
def prepare (randomID : Bytes) (now : Time) (event : Event) (previousHash : Bytes) :
    Except AuditError Event :=
  if isBlank event.action || isBlank event.outcome then
    .error (.message "audit action and outcome are required")
  else
    let event := { event with
      id := if event.id = [] then randomID else event.id
      occurredAt := Time.truncateMicrosecond (if Time.isZero event.occurredAt then now else
        event.occurredAt)
      utc := true
      details := event.details.redact
      previousHash := previousHash }
    .ok { event with hash := hashEvent event }

structure MemoryLog where
  records : List Event

/-- A call of `Append`, with what the random source and the clock give it. -/
structure AppendCall where
  ctx : Context
  event : Event
  randomID : Bytes
  now : Time

namespace MemoryLog

def new : MemoryLog := ⟨[]⟩

def append (log : MemoryLog) (call : AppendCall) : MemoryLog × Except AuditError Unit :=
  match call.ctx.err with
  | some cause => (log, .error (.context cause))
  | none =>
      let previousHash := (log.records.getLast?.map Event.hash).getD []
      match prepare call.randomID call.now call.event previousHash with
      | .error e => (log, .error e)
      | .ok event => (⟨log.records ++ [event]⟩, .ok ())

/-- The log after some calls. -/
def appendAll (log : MemoryLog) (calls : List AppendCall) : MemoryLog :=
  calls.foldl (fun log call => (log.append call).1) log

end MemoryLog

/-! ## Reading a page -/

structure Query where
  limit : Int
  beforeSequenceID : Int
  action : String
  outcome : String
  actorID : String
  subjectID : String
  deriving DecidableEq

structure Entry where
  sequenceID : Int
  event : Event

structure Page where
  entries : List Entry
  hasMore : Bool

def Query.checks (query : Query) : List (Bool × AuditError) :=
  [(decide (query.limit < 1) || decide (maxReadLimit < query.limit),
      .message "audit read limit must be between 1 and 100"),
    (decide (query.beforeSequenceID < 0), .message "audit cursor must be non-negative"),
    (decide (192 < (trimSpace query.action).utf8ByteSize),
      .message "audit action filter is too long"),
    (decide (32 < (trimSpace query.outcome).utf8ByteSize),
      .message "audit outcome filter is too long"),
    (decide (128 < (trimSpace query.actorID).utf8ByteSize) ||
        decide (256 < (trimSpace query.subjectID).utf8ByteSize),
      .message "audit identity filter is too long")]

def normalizeQuery (query : Query) : Except AuditError Query := do
  let query := { query with limit := if query.limit = 0 then defaultReadLimit else query.limit }
  firstFailure query.checks
  .ok { query with
    action := trimSpace query.action
    outcome := trimSpace query.outcome
    actorID := trimSpace query.actorID
    subjectID := trimSpace query.subjectID }

def queryMatches (event : Event) (query : Query) : Bool :=
  (query.action == "" || event.action == utf8 query.action) &&
    (query.outcome == "" || event.outcome == utf8 query.outcome) &&
    (query.actorID == "" || event.actorID == utf8 query.actorID) &&
    (query.subjectID == "" || event.subjectID == utf8 query.subjectID)

/-- The cursor hides the sequence number. -/
def Query.hides (query : Query) (sequenceID : Int) : Bool :=
  decide (0 < query.beforeSequenceID) && decide (query.beforeSequenceID ≤ sequenceID)

/-- The entry of an event. -/
def Entry.of (index : Nat) (event : Event) : Entry :=
  ⟨index + 1, { event with details := event.details.redact }⟩

/-- The loop of `Read` over the events that are left, the last one first. It ends when one entry
more than the limit was found. -/
def readLoop (records : List Event) (query : Query) :
    (left : Nat) → (entries : List Entry) → List Entry
  | 0, entries => entries
  | index + 1, entries =>
      if query.limit < entries.length then entries
      else if query.hides (index + 1) then readLoop records query index entries
      else
        match records[index]? with
        | none => readLoop records query index entries
        | some event =>
            if queryMatches event query = false then readLoop records query index entries
            else readLoop records query index (entries ++ [Entry.of index event])

def MemoryLog.read (log : MemoryLog) (ctx : Context) (query : Query) : Except AuditError Page :=
  match ctx.err with
  | some cause => .error (.context cause)
  | none => do
      let query ← normalizeQuery query
      let entries := readLoop log.records query log.records.length []
      let hasMore := decide (query.limit < entries.length)
      .ok ⟨if hasMore then entries.take query.limit.toNat else entries, hasMore⟩

/-- A reader that follows the pages. After each page others append to the log. -/
def MemoryLog.walk (appends : Nat → List AppendCall) :
    (fuel : Nat) → (page : Nat) → MemoryLog → Query → Option (Except AuditError (List Entry))
  | 0, _, _, _ => none
  | fuel + 1, page, log, query =>
      match log.read .background query with
      | .error e => some (.error e)
      | .ok ⟨entries, hasMore⟩ =>
          match hasMore, entries.getLast? with
          | true, some last =>
              (walk appends fuel (page + 1) (log.appendAll (appends page))
                { query with beforeSequenceID := last.sequenceID }).map
                fun rest => rest.map (entries ++ ·)
          | _, _ => some (.ok entries)

/-! ## What a page holds -/

/-- The event at an index, if the query shows it. -/
def shownAt (records : List Event) (query : Query) (index : Nat) : Option Entry :=
  if query.hides (index + 1) then none
  else (records[index]?.filter fun event => queryMatches event query).map (Entry.of index)

/-- The entries below an index, the last one first. -/
def shownBelow (records : List Event) (query : Query) : Nat → List Entry
  | 0 => []
  | index + 1 => (shownAt records query index).toList ++ shownBelow records query index

variable {records : List Event} {query : Query} {entry : Entry} {log : MemoryLog}

theorem readLoop_succ {index : Nat} {entries : List Entry} (room : entries.length ≤ query.limit) :
    readLoop records query (index + 1) entries =
      readLoop records query index (entries ++ (shownAt records query index).toList) := by
  rw [readLoop, if_neg (not_lt.mpr room), shownAt]
  by_cases hidden : query.hides (index + 1) = true
  · simp only [hidden, if_true, Option.toList_none, List.append_nil]
  · rw [Bool.not_eq_true] at hidden
    simp only [hidden, Bool.false_eq_true, if_false]
    cases stored : records[index]? with
    | none => simp only [Option.filter_none, Option.map_none, Option.toList_none, List.append_nil]
    | some event =>
        cases matched : queryMatches event query with
        | false =>
            simp only [matched, if_true, Option.filter_some, Bool.false_eq_true, if_false,
              Option.map_none, Option.toList_none, List.append_nil]
        | true =>
            simp only [matched, Bool.true_eq_false, if_false, Option.filter_some, if_true,
              Option.map_some, Option.toList_some]

/-- The loop collects the entries up to one more than the limit. -/
theorem readLoop_eq {left : Nat} {entries : List Entry} {room : Nat}
    (limit : query.limit + 1 = entries.length + room) :
    readLoop records query left entries =
      entries ++ (shownBelow records query left).take room := by
  induction left generalizing entries room with
  | zero => rw [readLoop, shownBelow, List.take_nil, List.append_nil]
  | succ index ih =>
      cases room with
      | zero =>
          rw [readLoop, if_pos (by omega), List.take_zero, List.append_nil]
      | succ room =>
          rw [readLoop_succ (by omega), shownBelow]
          cases shownAt records query index with
          | none =>
              rw [Option.toList_none, List.append_nil, List.nil_append, ih limit]
          | some entry =>
              have shorter : query.limit + 1 = (entries ++ [entry]).length + room := by
                rw [List.length_append, List.length_singleton]
                omega
              rw [Option.toList_some, ih shorter, List.singleton_append, List.take_succ_cons,
                List.append_assoc, List.singleton_append]

theorem mem_shownBelow {left : Nat} :
    entry ∈ shownBelow records query left ↔
      ∃ index < left, ∃ event, records[index]? = some event ∧
        query.hides (index + 1) = false ∧ queryMatches event query = true ∧
        entry = Entry.of index event := by
  induction left with
  | zero => simp [shownBelow]
  | succ left ih =>
      rw [shownBelow, List.mem_append, ih]
      constructor
      · rintro (here | ⟨index, below, found⟩)
        · refine ⟨left, Nat.lt_succ_self left, ?_⟩
          rw [Option.mem_toList, shownAt] at here
          split at here
          · cases here
          · next visible =>
              obtain ⟨event, kept, rfl⟩ := Option.map_eq_some_iff.mp here
              rw [Option.filter_eq_some_iff] at kept
              exact ⟨event, kept.1, Bool.not_eq_true _ ▸ visible, kept.2, rfl⟩
        · exact ⟨index, Nat.lt_succ_of_lt below, found⟩
      · rintro ⟨index, below, event, stored, visible, matched, rfl⟩
        rcases Nat.lt_succ_iff_lt_or_eq.mp below with lower | rfl
        · exact .inr ⟨index, lower, event, stored, visible, matched, rfl⟩
        · left
          rw [Option.mem_toList, shownAt, visible, stored, Option.filter_some, matched]
          rfl

/-- The newest event stands first. -/
theorem shownBelow_pairwise (records : List Event) (query : Query) (left : Nat) :
    (shownBelow records query left).Pairwise fun a b => b.sequenceID < a.sequenceID := by
  induction left with
  | zero => exact .nil
  | succ left ih =>
      rw [shownBelow]
      cases here : shownAt records query left with
      | none => exact ih
      | some entry =>
          rw [Option.toList_some, List.singleton_append, List.pairwise_cons]
          refine ⟨fun other listed => ?_, ih⟩
          obtain ⟨index, below, event, _, _, _, rfl⟩ := mem_shownBelow.mp listed
          rw [shownAt] at here
          split at here
          · cases here
          · obtain ⟨_, _, rfl⟩ := Option.map_eq_some_iff.mp here
            simp only [Entry.of]
            omega

/-- The entries of a log that a query shows, the newest first. -/
def MemoryLog.shown (log : MemoryLog) (query : Query) : List Entry :=
  shownBelow log.records query log.records.length

theorem MemoryLog.mem_shown :
    entry ∈ log.shown query ↔
      ∃ (index : Nat) (event : Event), log.records[index]? = some event ∧
        query.hides (index + 1) = false ∧ queryMatches event query = true ∧
        entry = Entry.of index event := by
  rw [shown, mem_shownBelow]
  constructor
  · rintro ⟨index, _, event, found⟩
    exact ⟨index, event, found⟩
  · rintro ⟨index, event, stored, found⟩
    obtain ⟨below, _⟩ := List.getElem?_eq_some_iff.mp stored
    exact ⟨index, below, event, stored, found⟩

/-! ## Pages by key -/

/-- The order of the pages: the highest sequence number first. -/
def Entry.key (entry : Entry) : OrderDual Int := OrderDual.toDual entry.sequenceID

/-- The cursor of a query, if it has one. -/
def Query.cursor (query : Query) : Option (OrderDual Int) :=
  if 0 < query.beforeSequenceID then some (OrderDual.toDual query.beforeSequenceID) else none

/-- The query without its cursor. -/
def Query.uncut (query : Query) : Query := { query with beforeSequenceID := 0 }

theorem Query.hides_iff {sequenceID : Int} :
    query.hides sequenceID = false ↔ afterCursor query.cursor (OrderDual.toDual sequenceID) := by
  unfold hides cursor
  by_cases cut : 0 < query.beforeSequenceID
  · simp only [cut, decide_true, Bool.true_and, decide_eq_false_iff_not, not_le, if_true,
      afterCursor_some, OrderDual.toDual_lt_toDual]
  · simp only [cut, decide_false, Bool.false_and, if_false, afterCursor_none]

/-- What a query shows is what remains after its cursor. -/
theorem MemoryLog.remaining_eq (log : MemoryLog) (query : Query) :
    remaining Entry.key query.cursor (log.shown query.uncut) = log.shown query := by
  have decreasing : ∀ query, (log.shown query).Pairwise fun a b => a.key < b.key :=
    fun query => shownBelow_pairwise _ _ _
  have distinct : ((log.shown query.uncut).map Entry.key).Nodup :=
    List.pairwise_map.mpr ((decreasing _).imp fun lower => lower.ne)
  refine eq_of_pairwise_of_mem_iff (remaining_pairwise _ distinct) (decreasing _) fun entry => ?_
  rw [mem_remaining, mem_shown, mem_shown]
  constructor
  · rintro ⟨⟨index, event, stored, _, matched, rfl⟩, past⟩
    exact ⟨index, event, stored, query.hides_iff.mpr past, matched, rfl⟩
  · rintro ⟨index, event, stored, visible, matched, rfl⟩
    exact ⟨⟨index, event, stored, rfl, matched, rfl⟩, query.hides_iff.mp visible⟩

theorem MemoryLog.shown_distinct (log : MemoryLog) (query : Query) :
    ((log.shown query).map Entry.key).Nodup :=
  List.pairwise_map.mpr ((shownBelow_pairwise _ _ _).imp fun lower => ne_of_gt lower)

/-- What `normalizeQuery` accepts, and what it keeps when only the cursor changes. -/
theorem normalizeQuery_ok {normal : Query} (accepted : normalizeQuery query = .ok normal) :
    1 ≤ normal.limit ∧ normal.beforeSequenceID = query.beforeSequenceID ∧
      ∀ before, 0 ≤ before → normalizeQuery { query with beforeSequenceID := before } =
        .ok { normal with beforeSequenceID := before } := by
  rw [normalizeQuery, except_check_ok, firstFailure_passes] at accepted
  obtain ⟨passes, same⟩ := accepted
  cases same
  simp only [Query.checks, passes_cons, passes_nil, and_true] at passes
  obtain ⟨limit, _, filters⟩ := passes
  refine ⟨?_, rfl, fun before positive => ?_⟩
  · rw [Bool.or_eq_false_iff, decide_eq_false_iff_not, not_lt] at limit
    exact limit.1
  · rw [normalizeQuery, except_check_ok, firstFailure_passes]
    simp only [Query.checks, passes_cons, passes_nil, and_true]
    exact ⟨limit, decide_eq_false (not_lt.mpr positive), filters⟩

/-- **A page of the log is a page by key.** -/
theorem read_eq_readPage {normal : Query} (accepted : normalizeQuery query = .ok normal) :
    log.read .background query =
      .ok ⟨(readPage Entry.key normal.limit.toNat normal.cursor (log.shown normal.uncut)).items,
        (readPage Entry.key normal.limit.toNat normal.cursor
          (log.shown normal.uncut)).next.isSome⟩ := by
  have positive := (normalizeQuery_ok accepted).1
  have loop : readLoop log.records normal log.records.length [] =
      (log.shown normal).take (normal.limit.toNat + 1) := by
    have start : normal.limit + 1 = ([] : List Entry).length + (normal.limit.toNat + 1 : Nat) := by
      rw [List.length_nil]
      omega
    rw [readLoop_eq start, List.nil_append, MemoryLog.shown]
  have more : (normal.limit < ((log.shown normal).take (normal.limit.toNat + 1)).length) ↔
      normal.limit.toNat < (log.shown normal).length := by
    rw [List.length_take]
    omega
  have page : log.read .background query =
      .ok ⟨if normal.limit < ((log.shown normal).take (normal.limit.toNat + 1)).length then
          ((log.shown normal).take (normal.limit.toNat + 1)).take normal.limit.toNat
        else (log.shown normal).take (normal.limit.toNat + 1),
        decide (normal.limit < ((log.shown normal).take (normal.limit.toNat + 1)).length)⟩ := by
    rw [MemoryLog.read, Context.background]
    simp only [accepted, bind, Except.bind, loop, decide_eq_true_eq]
  rw [page, readPage, log.remaining_eq]
  simp only [more]
  by_cases exceeds : normal.limit.toNat < (log.shown normal).length
  · have last : ((log.shown normal).take normal.limit.toNat).getLast?.isSome = true := by
      have nonempty : (log.shown normal).take normal.limit.toNat ≠ [] := by
        rw [Ne, List.take_eq_nil_iff, not_or]
        exact ⟨by omega, List.ne_nil_of_length_pos (by omega)⟩
      rw [List.getLast?_eq_some_getLast nonempty]
      rfl
    simp only [exceeds, if_true, decide_true, List.take_take, Option.isSome_map, last]
    rw [min_eq_left (Nat.le_succ _)]
  · simp only [exceeds, if_false, decide_false, Option.isSome_none]
    rw [List.take_of_length_le (by omega)]

/-! ## Following the pages -/

/-- The log when a page is read. -/
def MemoryLog.before (log : MemoryLog) (appends : Nat → List AppendCall) : Nat → MemoryLog
  | 0 => log
  | page + 1 => (log.before appends page).appendAll (appends page)

/-- A call of `Append` is refused or adds an event with redacted details. -/
theorem MemoryLog.append_records (log : MemoryLog) (call : AppendCall) :
    ∃ added, (log.append call).1.records = log.records ++ added ∧
      ∀ event ∈ added, event.details.redact = event.details := by
  unfold append
  split
  · exact ⟨[], (List.append_nil _).symm, nofun⟩
  · dsimp only
    split
    · exact ⟨[], (List.append_nil _).symm, nofun⟩
    · next event prepared =>
        refine ⟨[event], rfl, ?_⟩
        rw [List.forall_mem_singleton]
        unfold prepare at prepared
        split at prepared
        · cases prepared
        · cases prepared
          exact Details.redact_redact _

/-- Appending leaves the stored events where they are. -/
theorem MemoryLog.appendAll_records (log : MemoryLog) (calls : List AppendCall) :
    ∃ added, (log.appendAll calls).records = log.records ++ added ∧
      ∀ event ∈ added, event.details.redact = event.details := by
  induction calls generalizing log with
  | nil => exact ⟨[], (List.append_nil _).symm, nofun⟩
  | cons call calls ih =>
      obtain ⟨own, stored, redacted⟩ := log.append_records call
      obtain ⟨added, later, others⟩ := ih (log.append call).1
      refine ⟨own ++ added, ?_, List.forall_mem_append.mpr ⟨redacted, others⟩⟩
      rw [← List.append_assoc, ← stored]
      exact later

theorem MemoryLog.before_records (log : MemoryLog) (appends : Nat → List AppendCall)
    (page : Nat) : ∃ added, (log.before appends page).records = log.records ++ added := by
  induction page with
  | zero => exact ⟨[], (List.append_nil _).symm⟩
  | succ page ih =>
      obtain ⟨added, earlier⟩ := ih
      obtain ⟨more, later, _⟩ := (log.before appends page).appendAll_records (appends page)
      refine ⟨added ++ more, ?_⟩
      rw [before, later, earlier, List.append_assoc]

/-- Below an entry of the log nothing is added. -/
theorem MemoryLog.remaining_grown {grown : MemoryLog} {added : List Event}
    (records : grown.records = log.records ++ added) (query : Query)
    (listed : entry ∈ log.shown query) :
    remaining Entry.key (some entry.key) (grown.shown query) =
      remaining Entry.key (some entry.key) (log.shown query) := by
  refine eq_of_pairwise_of_mem_iff (remaining_pairwise _ (grown.shown_distinct query))
    (remaining_pairwise _ (log.shown_distinct query)) fun other => ?_
  obtain ⟨index, event, stored, _, _, rfl⟩ := mem_shown.mp listed
  obtain ⟨bound, _⟩ := List.getElem?_eq_some_iff.mp stored
  simp only [mem_remaining, mem_shown, afterCursor_some]
  constructor
  · rintro ⟨⟨position, own, found, rest⟩, lower⟩
    obtain ⟨visible, matched, rfl⟩ := rest
    have below : (position : Int) + 1 < index + 1 := lower
    rw [records, List.getElem?_append_left (by omega)] at found
    exact ⟨⟨position, own, found, visible, matched, rfl⟩, lower⟩
  · rintro ⟨⟨position, own, found, rest⟩, lower⟩
    obtain ⟨inside, _⟩ := List.getElem?_eq_some_iff.mp found
    refine ⟨⟨position, own, ?_, rest⟩, lower⟩
    rw [records, List.getElem?_append_left inside, found]

/-- **The reader follows pages by key.** -/
theorem walk_eq_followPages (log : MemoryLog) (appends : Nat → List AppendCall) (fuel : Nat) :
    ∀ (page : Nat) (query normal : Query), normalizeQuery query = .ok normal →
      MemoryLog.walk appends fuel page (log.before appends page) query =
        (followPages Entry.key normal.limit.toNat
          (fun n => (log.before appends n).shown normal.uncut) fuel page normal.cursor).map
            .ok := by
  induction fuel with
  | zero =>
      intro page query normal _
      rfl
  | succ fuel ih =>
      intro page query normal accepted
      obtain ⟨positive, _, cut⟩ := normalizeQuery_ok accepted
      rw [MemoryLog.walk, read_eq_readPage accepted, followPages]
      dsimp only
      rcases readPage_cases Entry.key (by omega : 0 < normal.limit.toNat) normal.cursor
          ((log.before appends page).shown normal.uncut) with only | ⟨init, last, rest, split, more⟩
      · rw [only]
        rfl
      · have listed : last ∈ (log.before appends page).shown normal.uncut := by
          have member := List.mem_append_right init (List.mem_cons_self (a := last) (l := rest))
          rw [← split] at member
          exact (mem_remaining.mp member).1
        have positive : 0 < last.sequenceID := by
          obtain ⟨index, event, _, _, _, rfl⟩ := MemoryLog.mem_shown.mp listed
          simp only [Entry.of]
          omega
        have next := ih (page + 1) _ _ (cut last.sequenceID positive.le)
        have cursor : Query.cursor { normal with beforeSequenceID := last.sequenceID } =
            some last.key := if_pos positive
        rw [cursor] at next
        rw [more]
        simp only [Option.isSome_some, List.getLast?_append, List.getLast?_singleton,
          Option.some_or]
        rw [MemoryLog.before] at next
        rw [next, Option.map_map, Option.map_map]
        rfl

/-- A reader that follows the pages ends with what the query showed when it began. -/
theorem walk_shown (log : MemoryLog) (appends : Nat → List AppendCall) {normal : Query}
    (accepted : normalizeQuery query = .ok normal) :
    ∃ fuel, MemoryLog.walk appends fuel 0 log query = some (.ok (log.shown normal)) := by
  have positive := (normalizeQuery_ok accepted).1
  refine ⟨(log.shown normal).length + 1, ?_⟩
  have pages := walk_eq_followPages log appends ((log.shown normal).length + 1) 0 query normal
    accepted
  rw [MemoryLog.before] at pages
  have now : remaining Entry.key normal.cursor ((log.before appends 0).shown normal.uncut) =
      remaining Entry.key normal.cursor (log.shown normal.uncut) := rfl
  have later : ∀ page, 0 < page → ∀ entry ∈ log.shown normal.uncut,
      remaining Entry.key (some entry.key) ((log.before appends page).shown normal.uncut) =
        remaining Entry.key (some entry.key) (log.shown normal.uncut) := by
    intro page _ entry listed
    obtain ⟨added, records⟩ := log.before_records appends page
    exact MemoryLog.remaining_grown records normal.uncut listed
  have enough : (remaining Entry.key normal.cursor (log.shown normal.uncut)).length <
      (log.shown normal).length + 1 := by
    rw [log.remaining_eq]
    exact Nat.lt_succ_self _
  have followed := @followPages_frozen _ _ _ _ normal.limit.toNat (by omega) _
    (log.shown_distinct normal.uncut) (fun n => (log.before appends n).shown normal.uncut) _ 0
    normal.cursor now later enough
  rw [pages, followed, log.remaining_eq]
  rfl

/-- The entries of a log that was filled by `Append` carry the stored events as they are. -/
theorem MemoryLog.mem_shown_stored (calls : List AppendCall)
    (filled : log = MemoryLog.new.appendAll calls) :
    entry ∈ log.shown query ↔
      ∃ index : Nat, entry.sequenceID = index + 1 ∧ log.records[index]? = some entry.event ∧
        query.hides entry.sequenceID = false ∧ queryMatches entry.event query = true := by
  have redacted : ∀ event ∈ log.records, event.details.redact = event.details := by
    obtain ⟨added, records, redacted⟩ := MemoryLog.new.appendAll_records calls
    rw [filled, records]
    exact redacted
  have same : ∀ {index : Nat} {event : Event}, log.records[index]? = some event →
      Entry.of index event = ⟨index + 1, event⟩ := by
    intro index event stored
    rw [Entry.of, redacted event (List.mem_of_getElem? stored)]
  rw [mem_shown]
  constructor
  · rintro ⟨index, event, stored, visible, matched, rfl⟩
    rw [same stored]
    exact ⟨index, rfl, stored, visible, matched⟩
  · rintro ⟨index, own, stored, visible, matched⟩
    refine ⟨index, entry.event, stored, own ▸ visible, matched, ?_⟩
    rw [same stored, ← own]

/-- **Following the pages loses nothing while others append.** For every log, query and
interleaving the reader ends. A query that is refused is refused at once. Otherwise it returns,
each once and in strictly decreasing order, the stored events that matched when it began. -/
theorem audit_walk_lossless (calls : List AppendCall) (query : Query)
    (appends : Nat → List AppendCall) :
    ∃ fuel result,
      MemoryLog.walk appends fuel 0 (MemoryLog.new.appendAll calls) query = some result ∧
      match normalizeQuery query with
      | .error e => result = .error e
      | .ok normal => ∃ entries, result = .ok entries ∧
          (entries.Pairwise fun a b => b.sequenceID < a.sequenceID) ∧
          ∀ entry, entry ∈ entries ↔ ∃ index : Nat, entry.sequenceID = index + 1 ∧
            (MemoryLog.new.appendAll calls).records[index]? = some entry.event ∧
            normal.hides entry.sequenceID = false ∧ queryMatches entry.event normal = true := by
  cases accepted : normalizeQuery query with
  | error e =>
      refine ⟨1, .error e, ?_, rfl⟩
      have refused : (MemoryLog.new.appendAll calls).read .background query = .error e := by
        rw [MemoryLog.read, Context.background]
        simp only [accepted, bind, Except.bind]
      rw [MemoryLog.walk, refused]
  | ok normal =>
      obtain ⟨fuel, walked⟩ := walk_shown (MemoryLog.new.appendAll calls) appends accepted
      exact ⟨fuel, _, walked, _, rfl, shownBelow_pairwise _ _ _,
        fun entry => MemoryLog.mem_shown_stored calls rfl⟩

/-- A call that appends a login with an outcome. -/
def loggedIn (outcome : String) : AppendCall where
  ctx := .background
  event := ⟨[], 0, true, utf8 "login", utf8 outcome, [], [], [], [],
    ⟨[], List.Pairwise.nil, 0, List.forall_mem_nil _⟩, [], []⟩
  randomID := utf8 "event"
  now := unixEpoch

example : (MemoryLog.walk (fun _ => [loggedIn "granted"]) 3 0
    (MemoryLog.new.appendAll [loggedIn "granted", loggedIn "denied", loggedIn "granted"])
    ⟨1, 0, "", "granted", "", ""⟩).map
      (fun result => result.toOption.map (List.map Entry.sequenceID)) = some (some [3, 1]) := by
  decide +kernel

end ControlCenter.Identity.Audit
