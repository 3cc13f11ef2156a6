import ControlCenter.Incidents.Incident
import ControlCenter.Library.Collect
import ControlCenter.Library.Keyset
import Mathlib.Data.Prod.Lex
import Mathlib.Order.OrderDual

/-!
# Lists of incidents

`internal/incidents/query.go`: bounded exact filters over incidents, read page by page with a
cursor. Incidents are listed newest first and by their ids among those that started at the same
instant; a page reads one incident more than it returns to know whether more are left.

The order is that of a key, the start time in reverse and then the id, and the test against the
cursor is the order of the keys (`matchesListQuery_eq`). So a page is a page of the library's
keyset reader over the incidents that pass the filters (`filterPage_eq`), and following the
cursors is following the reader (`listPages_eq`). The result is `incident_pagination`.
-/

set_option autoImplicit false

namespace ControlCenter.Incidents

open Library CoreContracts

def defaultListLimit : Int := 50

def maxListLimit : Int := 100

def maxCursorIDBytes : Nat := 255

def Severity.text : Severity → String
  | .info => "info"
  | .warning => "warning"
  | .critical => "critical"

structure ListCursor where
  startedAt : Time
  objectID : String
  deriving DecidableEq

structure ListQuery where
  limit : Int
  statuses : List Status
  severities : List Severity
  scopeID : String
  resourceKind : String
  resourceID : String
  startedFrom : Option Time
  startedBefore : Option Time
  before : Option ListCursor
  deriving DecidableEq

structure ListPage where
  items : List Incident
  next : Option ListCursor
  hasMore : Bool
  deriving DecidableEq

/-- Why a list was not read. -/
inductive ListError where
  | message (text : String)
  | invalidItem (index : Nat) (e : IncidentError)
  deriving DecidableEq

/-! ## Normal form of a query -/

/-- A set of values to match, sorted by their texts. -/
def normalizeFilter {α : Type} [DecidableEq α] (name : String) (text : α → String)
    (values : List α) : Except ListError (List α) := do
  firstFailure [(decide (3 < values.length),
    .message ("incident " ++ name ++ " filter exceeds supported values"))]
  let out ← collect .ok id
    (fun value => .message ("duplicate incident " ++ name ++ " filter " ++ quoted (text value))) []
    values
  .ok (out.insertionSort fun a b => text a ≤ text b)

def normalizeStatuses (values : List Status) : Except ListError (List Status) :=
  normalizeFilter "status" Status.text values

def normalizeSeverities (values : List Severity) : Except ListError (List Severity) :=
  normalizeFilter "severity" Severity.text values

def validateCursorID (value : String) : List (Bool × String) :=
  [(value == "" || decide (maxCursorIDBytes < value.utf8ByteSize),
      "incident cursor object_id is invalid"),
    (value.toList.any fun r => isSpace r || isControl r,
      "incident cursor object_id contains whitespace or control characters")] ++
    relabel ("incident cursor object_id is invalid: " ++ ·) (validateRef "cursor.object_id" value)

/-- The tests of the filters on references. -/
def ListQuery.referenceChecks (query : ListQuery) : List (Bool × String) :=
  (if query.scopeID = "" then []
    else relabel ("invalid incident scope filter: " ++ ·) (validateRef "scope_id" query.scopeID)) ++
  (if query.resourceKind = "" then []
    else relabel ("invalid incident resource filter: " ++ ·)
      (validateRef "resource_kind" query.resourceKind)) ++
  if query.resourceID = "" then []
  else
    (query.resourceKind == "", "incident resource_id filter requires resource_kind") ::
      relabel ("invalid incident resource filter: " ++ ·)
        (validateRef "resource_id" query.resourceID)

/-- The tests of the bounds on the start time. -/
def ListQuery.timeChecks (query : ListQuery) : List (Bool × String) :=
  [(query.startedFrom.any Time.isZero, "incident started_from must not be zero"),
    (query.startedBefore.any Time.isZero, "incident started_before must not be zero"),
    (query.startedFrom.any fun first => query.startedBefore.any fun last => decide (last ≤ first),
      "incident started_from must precede started_before")]

/-- The tests of the cursor. -/
def cursorChecks : Option ListCursor → List (Bool × String)
  | none => []
  | some cursor =>
      (Time.isZero cursor.startedAt, "incident cursor started_at is required") ::
        validateCursorID cursor.objectID

def normalizeListQuery (query : ListQuery) : Except ListError ListQuery := do
  let limit := if query.limit = 0 then defaultListLimit else query.limit
  firstFailure [(decide (limit < 1 ∨ maxListLimit < limit),
    .message "incident list limit must be between 1 and 100")]
  let statuses ← normalizeStatuses query.statuses
  let severities ← normalizeSeverities query.severities
  firstFailure (relabel .message
    (query.referenceChecks ++ query.timeChecks ++ cursorChecks query.before))
  .ok { query with limit := limit, statuses := statuses, severities := severities }

/-! ## One page -/

def matchesListQuery (incident : Incident) (query : ListQuery) : Bool :=
  if !query.statuses.isEmpty && !query.statuses.contains incident.status then false
  else if !query.severities.isEmpty && !query.severities.contains incident.severity then false
  else if query.scopeID != "" && incident.scopeID != query.scopeID then false
  else if query.startedFrom.any fun first => decide (incident.startedAt < first) then false
  else if query.startedBefore.any fun last => decide (last ≤ incident.startedAt) then false
  else if query.before.any fun cursor => decide (cursor.startedAt < incident.startedAt) ||
      (incident.startedAt == cursor.startedAt && decide (incident.objectID ≤ cursor.objectID)) then
    false
  else if query.resourceKind != "" && !incident.affectedResources.any fun resource =>
      resource.kind == query.resourceKind &&
        (query.resourceID == "" || resource.id == query.resourceID) then false
  else true

/-- Newest first, and by id among incidents of one instant. -/
def Incident.listedBefore (a b : Incident) : Prop :=
  if a.startedAt = b.startedAt then a.objectID ≤ b.objectID else b.startedAt < a.startedAt

instance : DecidableRel Incident.listedBefore := fun a b => by
  unfold Incident.listedBefore
  infer_instance

/-- The loop over the ordered incidents, which stops after one more than the limit. -/
def collectItems (query : ListQuery) : (items : List Incident) → List Incident → List Incident
  | items, [] => items
  | items, incident :: rest =>
      if matchesListQuery incident query = false then collectItems query items rest
      else if query.limit < (items ++ [incident]).length then items ++ [incident]
      else collectItems query (items ++ [incident]) rest

def filterPage (input : List Incident) (query : ListQuery) : Except ListError ListPage := do
  let query ← normalizeListQuery query
  firstFailure (input.zipIdx.flatMap fun (incident, index) =>
    relabel (ListError.invalidItem index) incident.checks)
  let items := collectItems query [] (input.insertionSort Incident.listedBefore)
  let hasMore := decide (query.limit < items.length)
  let items := if hasMore then items.take query.limit.toNat else items
  .ok
    { items := items
      next := if hasMore then items.getLast?.map fun last => ⟨last.startedAt, last.objectID⟩
        else none
      hasMore := hasMore }

/-- Pages read one after the other, each from the next state of the store, following the
cursor while there is more. -/
def listPages (store : Nat → List Incident) :
    (fuel : Nat) → (read : Nat) → ListQuery → Option (Except ListError (List Incident))
  | 0, _, _ => none
  | fuel + 1, read, query =>
      match filterPage (store read) query with
      | .error e => some (.error e)
      | .ok page =>
          if page.hasMore = true then
            match listPages store fuel (read + 1) { query with before := page.next } with
            | none => none
            | some (.error e) => some (.error e)
            | some (.ok rest) => some (.ok (page.items ++ rest))
          else some (.ok page.items)

/-! ## The order of the list -/

/-- What incidents are listed by. -/
abbrev ListKey := Timeᵒᵈ ×ₗ String

def Incident.listKey (i : Incident) : ListKey := toLex (OrderDual.toDual i.startedAt, i.objectID)

def ListCursor.listKey (c : ListCursor) : ListKey :=
  toLex (OrderDual.toDual c.startedAt, c.objectID)

theorem Incident.listKey_lt {a b : Incident} : a.listKey < b.listKey ↔
    b.startedAt < a.startedAt ∨ a.startedAt = b.startedAt ∧ a.objectID < b.objectID := by
  simp [Incident.listKey, Prod.Lex.toLex_lt_toLex]

theorem ListCursor.listKey_lt {c : ListCursor} {i : Incident} : c.listKey < i.listKey ↔
    i.startedAt < c.startedAt ∨ c.startedAt = i.startedAt ∧ c.objectID < i.objectID := by
  simp [Incident.listKey, ListCursor.listKey, Prod.Lex.toLex_lt_toLex]

theorem Incident.listedBefore_iff {a b : Incident} :
    a.listedBefore b ↔ a.listKey ≤ b.listKey := by
  rw [Incident.listKey, Incident.listKey, Prod.Lex.toLex_le_toLex, Incident.listedBefore]
  simp only [OrderDual.toDual_lt_toDual, OrderDual.toDual_inj]
  split
  · next same => simp [same]
  · next other => simp [other]

/-- The filters of a query, without its cursor. -/
def matchesFilters (query : ListQuery) (incident : Incident) : Bool :=
  matchesListQuery incident { query with before := none }

/-- **A query tests the filters, and the key against the cursor.** -/
theorem matchesListQuery_eq (incident : Incident) (query : ListQuery) :
    matchesListQuery incident query = true ↔ matchesFilters query incident = true ∧
      afterCursor (query.before.map ListCursor.listKey) incident.listKey := by
  cases cursor : query.before with
  | none =>
      have same : { query with before := none } = query := by
        rw [← cursor]
      simp [matchesFilters, same]
  | some c =>
      have passed : (decide (c.startedAt < incident.startedAt) ||
          (incident.startedAt == c.startedAt && decide (incident.objectID ≤ c.objectID))) = false ↔
          c.listKey < incident.listKey := by
        rw [ListCursor.listKey_lt]
        simp only [Bool.or_eq_false_iff, Bool.and_eq_false_iff, decide_eq_false_iff_not,
          beq_eq_false_iff_ne, not_lt, not_le]
        constructor
        · rintro ⟨le, apart | later⟩
          · exact .inl (lt_of_le_of_ne le apart)
          · rcases lt_or_eq_of_le le with lt | same
            · exact .inl lt
            · exact .inr ⟨same.symm, later⟩
        · rintro (lt | ⟨same, later⟩)
          · exact ⟨lt.le, .inl lt.ne⟩
          · exact ⟨same.symm.le, .inr later⟩
      simp only [Option.map_some, afterCursor_some, ← passed]
      simp only [matchesFilters, matchesListQuery, cursor, Option.any_some, Option.any_none]
      cases (decide (c.startedAt < incident.startedAt) ||
        (incident.startedAt == c.startedAt && decide (incident.objectID ≤ c.objectID))) <;> simp

/-! ## Normal queries -/

theorem normalizeFilter_ok {α : Type} [DecidableEq α] {name : String} {text : α → String}
    {values out : List α} (normal : normalizeFilter name text values = .ok out) :
    out.Perm values := by
  simp only [normalizeFilter, except_check_ok] at normal
  obtain ⟨items, collected, sorted⟩ := except_bind_ok.mp normal.2
  obtain ⟨forms, _⟩ := collect_ok.mp collected
  have same : values.map id = items.map id := by
    refine map_eq_of_forall₂ ?_ forms
    exact fun _ _ form => Except.ok.inj form
  rw [List.map_id, List.map_id] at same
  cases sorted
  rw [same]
  exact List.perm_insertionSort _ _

/-- What a query in normal form is. -/
structure Normalized (query n : ListQuery) : Prop where
  limit : n.limit = if query.limit = 0 then defaultListLimit else query.limit
  bounded : 1 ≤ n.limit ∧ n.limit ≤ maxListLimit
  statuses : normalizeStatuses query.statuses = .ok n.statuses
  severities : normalizeSeverities query.severities = .ok n.severities
  references : Passes query.referenceChecks
  times : Passes query.timeChecks
  cursor : Passes (cursorChecks query.before)
  rest : n = { query with limit := n.limit, statuses := n.statuses, severities := n.severities }

theorem normalizeListQuery_ok {query n : ListQuery} :
    normalizeListQuery query = .ok n ↔ Normalized query n := by
  simp only [normalizeListQuery, except_check_ok, firstFailure_passes, passes_cons, passes_nil,
    and_true, decide_eq_false_iff_not, not_or, not_lt]
  constructor
  · rintro ⟨bounded, normal⟩
    obtain ⟨statuses, first, normal⟩ := except_bind_ok.mp normal
    obtain ⟨severities, second, normal⟩ := except_bind_ok.mp normal
    simp only [except_check_ok, firstFailure_passes, passes_relabel, passes_append] at normal
    obtain ⟨⟨⟨references, times⟩, cursor⟩, same⟩ := normal
    cases same
    exact ⟨rfl, bounded, first, second, references, times, cursor, rfl⟩
  · intro normal
    rw [← normal.limit]
    refine ⟨normal.bounded, except_bind_ok.mpr ⟨n.statuses, normal.statuses,
      except_bind_ok.mpr ⟨n.severities, normal.severities, ?_⟩⟩⟩
    simp only [except_check_ok, firstFailure_passes, passes_relabel, passes_append]
    exact ⟨⟨⟨normal.references, normal.times⟩, normal.cursor⟩, congrArg _ normal.rest.symm⟩

theorem Normalized.before {query n : ListQuery} (normal : Normalized query n) :
    n.before = query.before := by
  rw [normal.rest]

/-- The same query from another cursor. -/
theorem Normalized.at_cursor {query n : ListQuery} (normal : Normalized query n)
    {cursor : Option ListCursor} (valid : Passes (cursorChecks cursor)) :
    Normalized { query with before := cursor } { n with before := cursor } :=
  ⟨normal.limit, normal.bounded, normal.statuses, normal.severities, normal.references,
    normal.times, valid, congrArg (fun q : ListQuery => { q with before := cursor }) normal.rest⟩

/-- A filter matches what its normal form matches. -/
theorem Normalized.matchesFilters_eq {query n : ListQuery} (normal : Normalized query n) :
    matchesFilters n = matchesFilters query := by
  have statuses := normalizeFilter_ok normal.statuses
  have severities := normalizeFilter_ok normal.severities
  funext incident
  rw [matchesFilters, matchesFilters, normal.rest]
  simp only [matchesListQuery, List.contains_eq_mem, statuses.mem_iff, severities.mem_iff,
    statuses.isEmpty_eq, severities.isEmpty_eq]

theorem isRefChar_of_isIdentifierChar {c : Char} (known : isIdentifierChar c = true) :
    isRefChar c = true := by
  simp only [isIdentifierChar, isRefChar, Bool.or_eq_true] at known ⊢
  tauto

theorem isIdentifierChar_plain {c : Char} (known : isIdentifierChar c = true) :
    (isSpace c || isControl c) = false := by
  have all : ∀ n < 128, isIdentifierChar (Char.ofNat n) = true →
      (isSpace (Char.ofNat n) || isControl (Char.ofNat n)) = false := by
    decide
  have small : c.toNat < 128 := by
    simp only [isIdentifierChar, Bool.or_eq_true, beq_iff_eq] at known
    rcases known with (((letter | rfl) | rfl) | rfl) | rfl
    · exact toNat_of_isAlphanum letter
    all_goals decide
  have own := all c.toNat small
  rw [Char.ofNat_toNat] at own
  exact own known

/-- An identifier can stand in a cursor. -/
theorem passes_validateCursorID {value : String} (identifier : IsIdentifier value) :
    Passes (validateCursorID value) := by
  have nonempty := identifier.nonempty
  simp only [IsIdentifier, validateIdentifier, passes_cons, passes_nil, and_true,
    Bool.or_eq_false_iff, bne_eq_false_iff_eq, beq_eq_false_iff_ne, decide_eq_false_iff_not,
    Bool.not_eq_false', not_lt] at identifier
  obtain ⟨⟨_, trimmed⟩, short, matched⟩ := identifier
  have plain : ∀ c ∈ value.toList, (isSpace c || isControl c) = false := by
    intro c member
    have known : isIdentifierChar c = true := by
      rcases boundedPattern_chars matched c member with letter | inner
      · simp [isIdentifierChar, letter]
      · exact inner
    exact isIdentifierChar_plain known
  have ref : refPattern value = true :=
    boundedPattern_mono (fun c inner => isRefChar_of_isIdentifierChar inner) matched
  simp only [validateCursorID, validateRef, passes_append, passes_relabel, passes_cons, passes_nil,
    and_true, Bool.or_eq_false_iff, bne_eq_false_iff_eq, beq_eq_false_iff_ne,
    decide_eq_false_iff_not, Bool.not_eq_false', not_lt, List.any_eq_false]
  exact ⟨⟨⟨nonempty, short⟩, fun c member => by simp [plain c member]⟩, ⟨nonempty, trimmed⟩, short,
    ref⟩

theorem Incident.Valid.cursor {i : Incident} (valid : i.Valid) :
    Passes (cursorChecks (some ⟨i.startedAt, i.objectID⟩)) := by
  rw [cursorChecks, passes_cons]
  exact ⟨by simpa [Time.isZero] using valid.observed.set.1,
    passes_validateCursorID valid.metadata.objectID⟩

/-! ## A page of the reader -/

theorem collectItems_eq (query : ListQuery) {items rest : List Incident}
    (room : (items.length : Int) ≤ query.limit) :
    collectItems query items rest = items ++
      (rest.filter fun i => matchesListQuery i query).take
        (query.limit.toNat + 1 - items.length) := by
  induction rest generalizing items with
  | nil => simp [collectItems]
  | cons incident rest ih =>
      rw [collectItems]
      split
      · next other => rw [ih room, List.filter_cons_of_neg (by simp [other])]
      next matched =>
        rw [Bool.not_eq_false] at matched
        rw [List.filter_cons, if_pos matched]
        have length : (items ++ [incident]).length = items.length + 1 := by simp
        split
        · next full =>
            have last : query.limit.toNat + 1 - items.length = 1 := by omega
            rw [last]
            rfl
        · next more =>
            have left : query.limit.toNat + 1 - items.length =
                (query.limit.toNat + 1 - (items ++ [incident]).length) + 1 := by omega
            rw [ih (by omega), left, List.take_succ_cons, List.append_assoc, List.singleton_append]

/-- The cursor of a key. -/
def cursorOf (k : ListKey) : ListCursor := ⟨OrderDual.ofDual (ofLex k).1, (ofLex k).2⟩

@[simp] theorem listKey_cursorOf (k : ListKey) : (cursorOf k).listKey = k := rfl

/-- A page of the reader, as the source returns it. -/
def pageOf (page : KeyPage Incident ListKey) : ListPage where
  items := page.items
  next := page.next.map cursorOf
  hasMore := page.next.isSome

/-- The incidents of a store are valid and differ in their ids. -/
structure Stored (input : List Incident) : Prop where
  valid : ∀ i ∈ input, i.Valid
  distinct : (input.map fun i => i.objectID).Nodup

theorem Stored.keys {input : List Incident} (stored : Stored input) :
    (input.map Incident.listKey).Nodup := by
  refine List.Nodup.of_map (fun k : ListKey => (ofLex k).2) ?_
  rw [List.map_map]
  exact stored.distinct

/-- Sorting and then filtering lists what is left after the cursor. -/
theorem Stored.ordered {input : List Incident} (stored : Stored input) (query : ListQuery) :
    (input.insertionSort Incident.listedBefore).filter (fun i => matchesListQuery i query) =
      remaining Incident.listKey (query.before.map ListCursor.listKey)
        (input.filter (matchesFilters query)) := by
  have keys := stored.keys
  have relation : Incident.listedBefore = fun a b => a.listKey ≤ b.listKey := by
    funext a b
    exact propext Incident.listedBefore_iff
  have all := remaining_pairwise none keys
  have whole : remaining Incident.listKey none input =
      input.insertionSort Incident.listedBefore := by
    simp [remaining, relation]
  rw [whole] at all
  refine eq_of_pairwise_of_mem_iff (all.filter _)
    (remaining_pairwise _ (keys.sublist (List.filter_sublist.map _))) fun i => ?_
  rw [List.mem_filter, List.mem_insertionSort, mem_remaining, List.mem_filter,
    matchesListQuery_eq, and_assoc]

theorem Stored.checks {input : List Incident} (stored : Stored input) :
    Passes (input.zipIdx.flatMap fun (incident, index) =>
      relabel (ListError.invalidItem index) incident.checks) := by
  have each : ∀ (i : Incident) (index : Nat),
      Passes (relabel (ListError.invalidItem index) i.checks) ↔ i.Valid := by
    intro i index
    rw [passes_relabel]
    exact firstFailure_passes.symm.trans Incident.validate_ok
  exact (passes_zipIdx each).mpr stored.valid

/-- **A page of incidents is a page of the reader.** -/
theorem filterPage_eq {input : List Incident} (stored : Stored input) {query n : ListQuery}
    (normal : Normalized query n) :
    filterPage input query = .ok (pageOf (readPage Incident.listKey n.limit.toNat
      (n.before.map ListCursor.listKey) (input.filter (matchesFilters n)))) := by
  have positive := normal.bounded.1
  have items := @collectItems_eq n [] (input.insertionSort Incident.listedBefore)
    (show ((0 : Nat) : Int) ≤ n.limit by omega)
  rw [stored.ordered, List.nil_append, List.length_nil, Nat.sub_zero] at items
  rw [filterPage, normalizeListQuery_ok.mpr normal]
  simp only [bind, Except.bind, firstFailure_passes.mpr stored.checks, items, readPage]
  generalize remaining Incident.listKey (n.before.map ListCursor.listKey)
    (input.filter (matchesFilters n)) = found
  have more : n.limit < (found.take (n.limit.toNat + 1)).length ↔ n.limit.toNat < found.length := by
    rw [List.length_take]
    omega
  by_cases full : n.limit.toNat < found.length
  · have some_ : found.take n.limit.toNat ≠ [] := by
      rw [Ne, List.take_eq_nil_iff, not_or]
      exact ⟨by omega, List.ne_nil_of_length_pos (by omega)⟩
    obtain ⟨init, last, taken⟩ := (List.eq_nil_or_concat _).resolve_left some_
    simp only [decide_eq_true (more.mpr full), full, if_true, List.take_take,
      Nat.min_eq_left (Nat.le_succ _), taken, pageOf]
    simp [cursorOf, Incident.listKey]
  · have whole : found.take (n.limit.toNat + 1) = found := List.take_of_length_le (by omega)
    rw [whole] at more ⊢
    simp [more, full, pageOf]

/-! ## All pages -/

/-- **Following the cursors of incident pages is following the reader.** -/
theorem listPages_eq {store : Nat → List Incident} (stored : ∀ read, Stored (store read))
    {query n : ListQuery} (normal : Normalized query n) (fuel read : Nat) :
    listPages store fuel read query =
      (followPages Incident.listKey n.limit.toNat
        (fun read => (store read).filter (matchesFilters n)) fuel read
        (n.before.map ListCursor.listKey)).map .ok := by
  induction fuel generalizing read query n with
  | zero => rfl
  | succ fuel ih =>
      have positive : 0 < n.limit.toNat := by
        have := normal.bounded.1
        omega
      rw [listPages, filterPage_eq (stored read) normal, followPages]
      rcases readPage_cases Incident.listKey positive (n.before.map ListCursor.listKey)
          ((store read).filter (matchesFilters n)) with page | ⟨init, last, rest, split, page⟩
      · simp [page, pageOf]
      · have listed : last ∈ store read := by
          have member : last ∈ remaining Incident.listKey (n.before.map ListCursor.listKey)
              ((store read).filter (matchesFilters n)) := by
            rw [split]
            exact List.mem_append_right init List.mem_cons_self
          exact List.mem_of_mem_filter (mem_remaining.mp member).1
        have next := normal.at_cursor ((stored read).valid last listed).cursor
        have later := ih next (read + 1)
        simp only [page, pageOf, Option.isSome_some, if_true, Option.map_some]
        have cursor : cursorOf last.listKey = ⟨last.startedAt, last.objectID⟩ := rfl
        rw [cursor, later]
        simp only [Option.map_some]
        have key : ListCursor.listKey ⟨last.startedAt, last.objectID⟩ = last.listKey := rfl
        have filters : matchesFilters { n with before := some ⟨last.startedAt, last.objectID⟩ } =
          matchesFilters n := rfl
        rw [key, filters]
        cases followPages Incident.listKey n.limit.toNat
          (fun read => (store read).filter (matchesFilters n)) fuel (read + 1)
          (some last.listKey) with
        | none => rfl
        | some rest => rfl

/-- The incident is listed strictly before the other one. -/
def Incident.precedes (a b : Incident) : Prop :=
  b.startedAt < a.startedAt ∨ a.startedAt = b.startedAt ∧ a.objectID < b.objectID

theorem matchesFilters_of_no_cursor {query : ListQuery} (start : query.before = none)
    (i : Incident) : matchesFilters query i = matchesListQuery i query := by
  rw [matchesFilters, ← start]

/-- **Pagination of incidents is lossless.** Following the cursors of a query through a store
of valid incidents ends; when the store does not change, the pages together are the matching
incidents, each once and in the order of the list; when it changes between the reads, an
incident that matches at every read is returned exactly once. -/
theorem incident_pagination (query n : ListQuery) (normal : normalizeListQuery query = .ok n)
    (start : query.before = none) :
    (∀ incidents : List Incident, (∀ i ∈ incidents, i.validate = .ok ()) →
      (incidents.map fun i => i.objectID).Nodup →
      ∃ items, listPages (fun _ => incidents) (incidents.length + 1) 0 query = some (.ok items) ∧
        items.Perm (incidents.filter fun i => matchesListQuery i query) ∧
        items.Pairwise Incident.precedes) ∧
    ∀ store : Nat → List Incident, (∀ read, (∀ i ∈ store read, i.validate = .ok ()) ∧
      ((store read).map fun i => i.objectID).Nodup) →
      ∀ fuel result, listPages store fuel 0 query = some result →
        ∃ items, result = .ok items ∧ ∀ id startedAt, (∀ read < fuel, ∃ i ∈ store read,
          i.objectID = id ∧ i.startedAt = startedAt ∧ matchesListQuery i query = true) →
          items.countP (fun i => i.objectID = id) = 1 := by
  have normal := normalizeListQuery_ok.mp normal
  have positive : 0 < n.limit.toNat := by
    have := normal.bounded.1
    omega
  have cursor : n.before.map ListCursor.listKey = none := by
    rw [normal.before, start]
    rfl
  have filters : matchesFilters n = fun i => matchesListQuery i query := by
    rw [normal.matchesFilters_eq]
    exact funext (matchesFilters_of_no_cursor start)
  constructor
  · intro incidents valid distinct
    have stored : Stored incidents := ⟨fun i listed => Incident.validate_ok.mp (valid i listed),
      distinct⟩
    have keys : ((incidents.filter fun i => matchesListQuery i query).map
        Incident.listKey).Nodup := stored.keys.sublist (List.filter_sublist.map _)
    have perm := @remaining_perm _ _ _ Incident.listKey none
      (incidents.filter fun i => matchesListQuery i query)
    simp only [afterCursor_none, decide_true, List.filter_true] at perm
    have few : (remaining Incident.listKey none
        (incidents.filter fun i => matchesListQuery i query)).length < incidents.length + 1 := by
      rw [perm.length_eq]
      exact Nat.lt_succ_of_le (List.length_filter_le _ _)
    refine ⟨_, ?_, perm, ?_⟩
    · rw [listPages_eq (fun _ => stored) normal, cursor, filters,
        followPages_const positive keys 0 few]
      rfl
    · exact (remaining_pairwise none keys).imp Incident.listKey_lt.mp
  · intro store valid fuel result read
    have stored : ∀ read, Stored (store read) := fun read =>
      ⟨fun i listed => Incident.validate_ok.mp ((valid read).1 i listed), (valid read).2⟩
    rw [listPages_eq stored normal, cursor, filters, Option.map_eq_some_iff] at read
    obtain ⟨items, followed, rfl⟩ := read
    refine ⟨items, rfl, fun id startedAt throughout => ?_⟩
    have collected := followPages_spec positive
      (fun read => (stored read).keys.sublist (List.filter_sublist.map _)) followed
    rw [Nat.zero_add] at collected
    obtain ⟨a, member, key⟩ := collected.kept (toLex (OrderDual.toDual startedAt, id))
      (afterCursor_none _) fun read _ within => by
        obtain ⟨i, listed, rfl, rfl, matched⟩ := throughout read within
        exact ⟨i, List.mem_filter.mpr ⟨listed, matched⟩, rfl⟩
    have named : a.objectID = id := congrArg (fun k : ListKey => (ofLex k).2) key
    refine countP_eq_one collected.ordered member (decide_eq_true named) fun b listed same => ?_
    -- At the read that returned it, the incident of this id is the one that stays.
    obtain ⟨read, _, within, inStore⟩ := collected.stored b listed
    obtain ⟨i, listed', name, began, _⟩ := throughout read within
    have identical : b = i := List.inj_on_of_nodup_map (stored read).distinct
      (List.mem_of_mem_filter inStore) listed' ((of_decide_eq_true same).trans name.symm)
    rw [key, identical, Incident.listKey, name, began]

/-- An open incident of one instant. -/
def listedIncident (id : String) : Incident where
  objectID := id
  scopeID := "site-1"
  ownerScope := "site-1"
  generation := 1
  resourceVersion := "v1"
  createdAt := 10
  updatedAt := 20
  severity := .warning
  status := .opened
  title := "disk full"
  startedAt := 10
  lastObservedAt := 10
  affectedResources := [⟨"server", "db-1", "site-1"⟩]
  signals := [⟨"signal-1", "disk", "agent", 10, "disk full", []⟩]
  timeline := [⟨.opened, 10, "", "", []⟩]
  runbook := none
  acknowledgement := none
  evidence := []

/-- Open incidents, one on a page. -/
def onePerPage : ListQuery := ⟨1, [.opened], [], "", "", "", none, none, none⟩

/-- A pair of incidents; after the first page a third one is stored. -/
def grownStore : Nat → List Incident
  | 0 => [listedIncident "incident-2", listedIncident "incident-1"]
  | _ + 1 => [listedIncident "incident-0", listedIncident "incident-2", listedIncident "incident-1"]

theorem incident_pagination_pair :
    listPages (fun _ => grownStore 0) 3 0 onePerPage =
        some (.ok [listedIncident "incident-1", listedIncident "incident-2"]) ∧
      ∃ items, listPages grownStore 4 0 onePerPage = some (.ok items) ∧
        items.countP (fun i => i.objectID = "incident-2") = 1 := by
  obtain ⟨constant, growing⟩ := incident_pagination onePerPage onePerPage (by decide +kernel) rfl
  constructor
  · obtain ⟨items, read, perm, sorted⟩ :=
      constant (grownStore 0) (by decide +kernel) (by decide +kernel)
    have all : (grownStore 0).filter (fun i => matchesListQuery i onePerPage) = grownStore 0 := by
      decide +kernel
    have pair : items.Perm [listedIncident "incident-1", listedIncident "incident-2"] := by
      rw [all] at perm
      exact perm.trans (.swap ..)
    have same : items = [listedIncident "incident-1", listedIncident "incident-2"] := by
      refine pair.eq_of_pairwise (fun a b _ _ before after => ?_) sorted
        (List.pairwise_pair.mpr (.inr ⟨rfl, by decide +kernel⟩))
      unfold Incident.precedes at before after
      grind
    rw [← same]
    exact read
  · have ended : (listPages grownStore 4 0 onePerPage).isSome := by decide +kernel
    obtain ⟨result, read⟩ := Option.isSome_iff_exists.mp ended
    have valid : ∀ read, (∀ i ∈ grownStore read, i.validate = .ok ()) ∧
        ((grownStore read).map fun i => i.objectID).Nodup := by
      intro read
      have pair : (∀ i ∈ grownStore 0, i.validate = .ok ()) ∧
          ((grownStore 0).map fun i => i.objectID).Nodup := by decide +kernel
      have three : (∀ i ∈ grownStore 1, i.validate = .ok ()) ∧
          ((grownStore 1).map fun i => i.objectID).Nodup := by decide +kernel
      cases read with
      | zero => exact pair
      | succ read => exact three
    obtain ⟨items, rfl, once⟩ := growing grownStore valid 4 result read
    exact ⟨items, read, once "incident-2" 10 (by decide +kernel)⟩

end ControlCenter.Incidents
