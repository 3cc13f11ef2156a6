import ControlCenter.Library.GoString
import ControlCenter.Library.JsonValue
import ControlCenter.Library.Marshal

/-!
# Audit events

`internal/identity/audit`: an event carries the hash of its predecessor and its own hash, which
is that of its JSON text without the hash. `hashEvent` drops the error of `json.Marshal`: an
event whose instant lies outside the years 0 to 9999 has the hash of no text at all.

Strings are bytes here. A number of the details stands for its text, which determines it.
The nil map and the empty map of details are one value.
-/

set_option autoImplicit false

namespace ControlCenter.Identity.Audit

open Library

/-! ## Events -/

/-- The details of an event: a map of JSON values. -/
structure Details where
  members : List (List Char × JsonValue)
  ordered : Ordered members
  fits : ∃ depth, ∀ member ∈ members, member.2.Fits depth

theorem Details.ext_members {d d' : Details} (same : d.members = d'.members) : d = d' := by
  cases d
  cases d'
  cases same
  rfl

@[ext] structure Event where
  id : Bytes
  occurredAt : Time
  /-- The location of the instant is UTC. -/
  utc : Bool
  action : Bytes
  outcome : Bytes
  actorID : Bytes
  subjectID : Bytes
  sourceIP : Bytes
  correlationID : Bytes
  details : Details
  previousHash : Bytes
  hash : Bytes

/-- A text that is left out when it is empty. -/
def omitEmpty (text : Bytes) : Option Json :=
  if text = [] then none else some (Json.bytesString text)

def Details.json (details : Details) : Json := JsonStyle.marshal.toJson (.obj details.members)

def Details.omitEmpty (details : Details) : Option Json :=
  if details.members.isEmpty then none else some details.json

/-- The fields of the text of an event in UTC. -/
def Event.fields (e : Event) (occurredAt : Json) : List (String × Option Json) :=
  [("id", some (Json.bytesString e.id)),
    ("occurred_at", some occurredAt),
    ("action", some (Json.bytesString e.action)),
    ("outcome", some (Json.bytesString e.outcome)),
    ("actor_id", omitEmpty e.actorID),
    ("subject_id", omitEmpty e.subjectID),
    ("source_ip", omitEmpty e.sourceIP),
    ("correlation_id", omitEmpty e.correlationID),
    ("details", e.details.omitEmpty),
    ("previous_hash", omitEmpty e.previousHash),
    ("hash", some (Json.bytesString e.hash))]

/-- `json.Marshal` of an event, unless its instant cannot be written. -/
def Event.json (e : Event) : Option Json :=
  (Json.time e.occurredAt).map fun occurredAt => Json.record (Json.present (e.fields occurredAt))

/-- The text that is hashed. An error of `json.Marshal` leaves no text. -/
def Event.payload (e : Event) : Bytes := (e.json.map Json.bytes).getD []

def hashEvent (e : Event) : Bytes := utf8 (sha256Hex { e with hash := [] }.payload)

end ControlCenter.Identity.Audit
