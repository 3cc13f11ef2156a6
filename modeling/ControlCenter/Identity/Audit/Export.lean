import ControlCenter.Identity.Audit.Chain
import ControlCenter.Identity.Audit.Redaction
import ControlCenter.Library.Checks

/-!
# Export of audit entries

`internal/identity/audit/export.go`: a page of audit entries as CSV. The details are redacted
again, then every value under a key that names an address is replaced, in place on the copy;
the source address of an event has no column. Fields are quoted as `encoding/csv` does it.

The export is a function of what remains (`buildCSVExport_alike`): two pages that differ only
in source addresses and in details under sensitive or address keys are exported to the same
bytes. With the results on redaction this is `redaction_leak_free`.

The case of a key is folded by any `lower`, for `strings.ToLower`. A number of the details
stands for its text, so `json.Marshal` cannot fail.
-/

set_option autoImplicit false

namespace ControlCenter.Identity.Audit

open Library

/-! ## Addresses in the details -/

/-- The key names an address, whatever its case and separators. -/
def addressKey (lower : Char → Char) (key : List Char) : Bool :=
  let lowered := (trimSpace (String.ofList key)).toList.map lower
  let normalized := String.ofList (lowered.filter fun c => c != '_' && c != '-' && c != '.')
  ["sourceip", "remoteip", "clientip", "ipaddress"].contains normalized

section Address

variable (lower : Char → Char)

mutual
def redactExportPIIValue : JsonValue → JsonValue
  | .null => .null
  | .bool value => .bool value
  | .num literal => .num literal
  | .str text => .str text
  | .arr items => .arr (redactExportPIIItems items)
  | .obj members => .obj (redactExportPIIMap members)

def redactExportPIIItems : List JsonValue → List JsonValue
  | [] => []
  | v :: rest => redactExportPIIValue v :: redactExportPIIItems rest

def redactExportPIIMap : List (List Char × JsonValue) → List (List Char × JsonValue)
  | [] => []
  | (key, v) :: rest =>
      (key, if addressKey lower key then redacted else redactExportPIIValue v) ::
        redactExportPIIMap rest
end

def redactExportDetails (input : Option (List (List Char × JsonValue))) :
    Option (List (List Char × JsonValue)) :=
  (redact input).map (redactExportPIIMap lower)

variable {lower}

mutual
theorem Alike.redactExportPII {v v' : JsonValue} :
    Alike (addressKey lower) v v' →
      redactExportPIIValue lower v = redactExportPIIValue lower v'
  | .null | .bool _ | .num _ | .str _ => rfl
  | .arr each => congrArg JsonValue.arr each.redactExportPII
  | .obj each => congrArg JsonValue.obj each.redactExportPII

theorem AlikeItems.redactExportPII {items items' : List JsonValue} :
    AlikeItems (addressKey lower) items items' →
      redactExportPIIItems lower items = redactExportPIIItems lower items'
  | .nil => rfl
  | .cons first others => congrArg₂ List.cons first.redactExportPII others.redactExportPII

theorem AlikeMembers.redactExportPII {members members' : List (List Char × JsonValue)} :
    AlikeMembers (addressKey lower) members members' →
      redactExportPIIMap lower members = redactExportPIIMap lower members'
  | .nil => rfl
  | .shown first others => by
      rw [redactExportPIIMap, redactExportPIIMap, first.redactExportPII, others.redactExportPII]
  | .hidden concealed others => by
      rw [redactExportPIIMap, redactExportPIIMap, if_pos concealed, if_pos concealed,
        others.redactExportPII]
end

/-- **The exported details depend on nothing under a sensitive or an address key.** -/
theorem redactExportDetails_alike {members members' : List (List Char × JsonValue)}
    (alike : AlikeMembers (fun key => sensitiveKey key || addressKey lower key) members members') :
    redactExportDetails lower (some members) = redactExportDetails lower (some members') :=
  congrArg some alike.redact.redactExportPII

end Address

/-! ## CSV -/

def comma : UInt8 := 0x2c

def quote : UInt8 := 0x22

def newline : UInt8 := 0x0a

def carriageReturn : UInt8 := 0x0d

def fieldNeedsQuotes (field : Bytes) : Bool :=
  if field = [] then false
  else if field = utf8 "\\." then true
  else if field.any fun c => c == newline || c == carriageReturn || c == quote || c == comma then
    true
  else
    match (runes field).head? with
    | some (some c) => isSpace c
    | _ => false

def csvField (field : Bytes) : Bytes :=
  if fieldNeedsQuotes field then
    [quote] ++ (field.flatMap fun c => if c == quote then [quote, quote] else [c]) ++ [quote]
  else field

/-- One record, as `Writer.Write` writes it. -/
def csvRecord (fields : List Bytes) : Bytes :=
  [comma].intercalate (fields.map csvField) ++ [newline]

/-! ## Rows -/

def csvExportMaxEvents : Nat := 100

structure CSVExportManifest where
  contractVersion : String
  generatedAt : Time
  eventCount : Nat
  newestSequenceID : Int64
  oldestSequenceID : Int64
  sourceIPIncluded : Bool
  spreadsheetFormulaEscaping : Bool
  deriving DecidableEq

/-- An event with its position in the log. -/
structure ExportEntry where
  sequenceID : Int64
  event : Event
  /-- The details are the nil map. -/
  nilDetails : Bool
  empty : nilDetails = true → event.details.members = []

def ExportEntry.details (entry : ExportEntry) : Option (List (List Char × JsonValue)) :=
  if entry.nilDetails then none else some entry.event.details.members

/-- `strings.TrimSpace` changes the text. -/
def untrimmed (text : Bytes) : Bool :=
  let space : Option (Option Char) → Bool
    | some (some c) => isSpace c
    | _ => false
  space (runes text).head? || space (runes text).getLast?

def isLowerHexDigest (value : Bytes) : Bool :=
  value.length == 64 && value.all fun c => (0x30 ≤ c && c ≤ 0x39) || (0x61 ≤ c && c ≤ 0x66)

def validateExportEvent (e : Event) : Except String Unit :=
  firstFailure
    [(e.id == [] || untrimmed e.id, "canonical event id is required"),
      (e.action == [] || untrimmed e.action, "canonical action is required"),
      (e.outcome == [] || untrimmed e.outcome, "canonical outcome is required"),
      (Time.isZero e.occurredAt, "occurred_at is required"),
      (untrimmed e.actorID || untrimmed e.subjectID || untrimmed e.correlationID,
        "identity fields must be canonical"),
      (e.previousHash != [] && !isLowerHexDigest e.previousHash,
        "previous_hash must be a lowercase sha256 digest"),
      (!isLowerHexDigest e.hash, "hash must be a lowercase sha256 digest")]

/-- A text that a spreadsheet could take for a formula gets an apostrophe. -/
def escapeSpreadsheetFormula (value : Bytes) : Bytes :=
  match value.dropWhile fun c => (utf8 " \t\r\n").contains c with
  | [] => value
  | c :: _ => if (utf8 "=+-@").contains c then utf8 "'" ++ value else value

/-- A year with four digits or more. -/
def formatYear (year : Int) : List Char :=
  let digits := year.natAbs.repr.toList
  (if year < 0 then ['-'] else []) ++ List.replicate (4 - digits.length) '0' ++ digits

open Rfc3339 in
/-- `time.RFC3339Nano` in UTC, for any year: the calendar repeats after four hundred years. -/
def formatTimestamp (t : Time) : List Char :=
  let n : Int := t + (daysBefore * nanosPerDay : Nat)
  let cycle : Int := (146097 * nanosPerDay : Nat)
  let rest := (n % cycle).toNat
  let day := rest / nanosPerDay
  let second := rest % nanosPerDay / nanosPerSecond
  let date := locate (monthLengths (yearOf day)) (day - yearStart (yearOf day))
  formatYear (400 * (n / cycle) + yearOf day) ++ '-' :: padded 2 (date.1 + 1) ++ '-' ::
    padded 2 (date.2 + 1) ++ 'T' :: padded 2 (second / 3600) ++ ':' ::
    padded 2 (second / 60 % 60) ++ ':' :: padded 2 (second % 60) ++
    formatFraction (rest % nanosPerSecond) ++ ['Z']

example : formatTimestamp 0 = formatTime 0 := by decide +kernel

/-- `json.Marshal` of the details. -/
def detailsJSON : Option (List (List Char × JsonValue)) → Bytes
  | none => utf8 "null"
  | some members => (JsonStyle.marshal.toJson (.obj members)).bytes

def exportRow (lower : Char → Char) (entry : ExportEntry) : List Bytes :=
  let e := entry.event
  [utf8 (signedDecimal entry.sequenceID),
    escapeSpreadsheetFormula e.id,
    utf8 (String.ofList (formatTimestamp e.occurredAt)),
    escapeSpreadsheetFormula e.action,
    escapeSpreadsheetFormula e.outcome,
    escapeSpreadsheetFormula e.actorID,
    escapeSpreadsheetFormula e.subjectID,
    escapeSpreadsheetFormula e.correlationID,
    detailsJSON (redactExportDetails lower entry.details),
    e.previousHash,
    e.hash]

def invalidExport (text : String) : String := "invalid audit export: " ++ text

/-- The checks of one entry, after the entries seen. -/
def checkEntry (index : Nat) (seen : List Int64) (previous : Int64) (entry : ExportEntry) :
    Except String Unit := do
  firstFailure
    [(decide (entry.sequenceID ≤ 0),
        invalidExport ("entry " ++ index.repr ++ " has invalid sequence id")),
      (seen.contains entry.sequenceID,
        invalidExport ("duplicate sequence id " ++ signedDecimal entry.sequenceID)),
      (previous != 0 && decide (previous ≤ entry.sequenceID),
        invalidExport "entries must be ordered newest-first")]
  match validateExportEvent entry.event with
  | .ok () => .ok ()
  | .error text =>
      .error (invalidExport ("sequence " ++ signedDecimal entry.sequenceID ++ ": " ++ text))

/-- The loop over the entries. -/
def exportRows (lower : Char → Char) : (index : Nat) → (seen : List Int64) →
    (previous : Int64) → List ExportEntry → Except String (List (List Bytes))
  | _, _, _, [] => .ok []
  | index, seen, previous, entry :: rest => do
      checkEntry index seen previous entry
      let rows ← exportRows lower (index + 1) (entry.sequenceID :: seen) entry.sequenceID rest
      return exportRow lower entry :: rows

def exportHeader : List Bytes :=
  ["sequence_id", "event_id", "occurred_at", "action", "outcome", "actor_id", "subject_id",
    "correlation_id", "details_json", "previous_hash", "hash"].map utf8

def buildCSVExport (lower : Char → Char) (entries : List ExportEntry) (generatedAt : Time) :
    Except String (Bytes × CSVExportManifest) :=
  if Time.isZero generatedAt then .error (invalidExport "generated_at is required")
  else if csvExportMaxEvents < entries.length then
    .error (invalidExport ("event count " ++ entries.length.repr ++ " exceeds maximum " ++
      csvExportMaxEvents.repr))
  else do
    let rows ← exportRows lower 0 [] 0 entries
    return ((exportHeader :: rows).flatMap csvRecord,
      { contractVersion := "audit.export.csv/v1"
        generatedAt := generatedAt
        eventCount := entries.length
        newestSequenceID := (entries.head?.map ExportEntry.sequenceID).getD 0
        oldestSequenceID := (entries.getLast?.map ExportEntry.sequenceID).getD 0
        sourceIPIncluded := false
        spreadsheetFormulaEscaping := true })

/-! ## Two pages -/

/-- The entries differ only in the source address and in hidden details. -/
structure ExportEntry.Alike (lower : Char → Char) (entry entry' : ExportEntry) : Prop where
  sequenceID : entry'.sequenceID = entry.sequenceID
  nilDetails : entry'.nilDetails = entry.nilDetails
  event : entry'.event = { entry.event with
    sourceIP := entry'.event.sourceIP
    details := entry'.event.details }
  details : AlikeMembers (fun key => sensitiveKey key || addressKey lower key)
    entry.event.details.members entry'.event.details.members

section Export

variable {lower : Char → Char}

theorem ExportEntry.Alike.row_eq {entry entry' : ExportEntry} (alike : entry.Alike lower entry') :
    exportRow lower entry = exportRow lower entry' := by
  have details : redactExportDetails lower entry.details =
      redactExportDetails lower entry'.details := by
    unfold ExportEntry.details
    rw [alike.nilDetails]
    cases entry.nilDetails with
    | true => rfl
    | false => exact redactExportDetails_alike alike.details
  unfold exportRow
  rw [alike.sequenceID, details, alike.event]

theorem ExportEntry.Alike.check_eq {entry entry' : ExportEntry} (alike : entry.Alike lower entry')
    (index : Nat) (seen : List Int64) (previous : Int64) :
    checkEntry index seen previous entry = checkEntry index seen previous entry' := by
  unfold checkEntry validateExportEvent
  rw [alike.sequenceID, alike.event]

theorem exportRows_alike {entries entries' : List ExportEntry}
    (alike : List.Forall₂ (ExportEntry.Alike lower) entries entries') (index : Nat)
    (seen : List Int64) (previous : Int64) :
    exportRows lower index seen previous entries =
      exportRows lower index seen previous entries' := by
  induction alike generalizing index seen previous with
  | nil => rfl
  | cons first _ ih =>
      rw [exportRows, exportRows, first.check_eq, first.sequenceID, first.row_eq, ih]

/-- **Pages that differ only in what is hidden are exported alike.** -/
theorem buildCSVExport_alike {entries entries' : List ExportEntry}
    (alike : List.Forall₂ (ExportEntry.Alike lower) entries entries') (generatedAt : Time) :
    buildCSVExport lower entries generatedAt = buildCSVExport lower entries' generatedAt := by
  have ids : entries.map ExportEntry.sequenceID = entries'.map ExportEntry.sequenceID := by
    induction alike with
    | nil => rfl
    | cons first _ ih => rw [List.map_cons, List.map_cons, first.sequenceID, ih]
  unfold buildCSVExport
  rw [← List.head?_map, ← List.getLast?_map, ← List.head?_map, ← List.getLast?_map, ids,
    alike.length_eq, exportRows_alike alike]

/-- **Redaction is idempotent and leaks nothing.** -/
theorem redaction_leak_free (lower : Char → Char) :
    (∀ details, redact (redact details) = redact details) ∧
    (∀ members members', AlikeMembers sensitiveKey members members' →
      redact (some members) = redact (some members')) ∧
    ∀ entries entries' generatedAt, List.Forall₂ (ExportEntry.Alike lower) entries entries' →
      buildCSVExport lower entries generatedAt = buildCSVExport lower entries' generatedAt :=
  ⟨redact_idem, fun _ _ alike => congrArg some (redact_alike alike),
    fun _ _ generatedAt alike => buildCSVExport_alike alike generatedAt⟩

/-- A refused login, with a password and an address in its details. -/
def refusedLogin (password address : String) : ExportEntry where
  sequenceID := 7
  nilDetails := false
  empty := nofun
  event := {
    id := utf8 "event-7"
    occurredAt := unixEpoch
    utc := true
    action := utf8 "login"
    outcome := utf8 "denied"
    actorID := []
    subjectID := []
    sourceIP := utf8 address
    correlationID := []
    details := {
      members := [("password".toList, .str password.toList),
        ("remote_ip".toList, .str address.toList)]
      ordered := List.pairwise_pair.mpr (by
        change "password".toList < "remote_ip".toList
        decide)
      fits := ⟨0, by simp [JsonValue.Fits.str]⟩ }
    previousHash := []
    hash := utf8 (sha256Hex []) }

/-- Logins with two passwords from two addresses are exported, and alike. -/
theorem redaction_leak_free_refusedLogin :
    buildCSVExport Char.toLower [refusedLogin "hunter2" "10.0.0.1"] unixEpoch =
      buildCSVExport Char.toLower [refusedLogin "letmein" "10.0.0.2"] unixEpoch ∧
    (buildCSVExport Char.toLower [refusedLogin "letmein" "10.0.0.2"] unixEpoch).toOption.map
      (fun out => out.2.eventCount) = some 1 := by
  have alike : (refusedLogin "hunter2" "10.0.0.1").Alike Char.toLower
      (refusedLogin "letmein" "10.0.0.2") :=
    ⟨rfl, rfl, by simp only [refusedLogin],
      .hidden (by decide +kernel) (.hidden (by decide +kernel) .nil)⟩
  exact ⟨(redaction_leak_free Char.toLower).2.2 _ _ unixEpoch (.cons alike .nil),
    by decide +kernel⟩

end Export

end ControlCenter.Identity.Audit
