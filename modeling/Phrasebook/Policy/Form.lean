import Phrasebook.Json.Decoded
import Phrasebook.Policy

/-!
# Written forms of policies

A span of time is written as whole seconds and the nanoseconds beyond them. On input there may be a
second or more of nanoseconds.
-/

namespace Phrasebook

/-- The written form of a span of time in nanoseconds. -/
def spanToJson (span : Nat) : Json :=
  .obj [("nanos", .int (span % nanosecondsPerSecond)), ("secs", .int (span / nanosecondsPerSecond))]

/-- A span of time, unless its whole seconds do not fit into 64 bits. -/
def spanOf (seconds nanoseconds : Nat) : Decoded Nat :=
  if seconds + nanoseconds / nanosecondsPerSecond < UInt64.size then
    .ok (seconds * nanosecondsPerSecond + nanoseconds)
  else .fail .message

/-- Reads a span of time. No other parts may be given. -/
def decodeSpan (dialect : Dialect) (value : Json) : Decoded Nat :=
  (Record.ofJson dialect 2 value).andThen fun record ↦
    let known := match record with
      | .named fields => fields.all fun field ↦ field.1 == "secs" || field.1 == "nanos"
      | .ordered _ => true
    if known then
      (Prod.mk <$> record.required 0 "secs" (Json.decodeNat UInt64.size)
        <*> record.required 1 "nanos" (Json.decodeNat UInt32.size)).andThen fun (s, n) ↦ spanOf s n
    else .fail .unknownField

namespace Policy

/-- The written form of a policy. -/
def toJson (policy : Policy) : Json :=
  .obj [("refresh_interval", Json.ofOption spanToJson policy.refreshInterval),
    ("serve_stale_on_error", .bool policy.serveStale),
    ("max_suggestions", .int policy.maxSuggestions)]

/-- Reads a policy. -/
def decode (dialect : Dialect) : Json → Decoded Policy :=
  Json.decodeRecord dialect 3 fun record ↦
    Policy.mk <$> record.optional 0 "refresh_interval" (decodeSpan dialect)
      <*> record.required 1 "serve_stale_on_error" Json.decodeBool
      <*> record.required 2 "max_suggestions" (Json.decodeNat UInt64.size)

end Policy

end Phrasebook
