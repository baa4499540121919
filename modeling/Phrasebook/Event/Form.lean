import Phrasebook.Event
import Phrasebook.Json.Printer

/-!
# Written forms of events

An event becomes one line of a journal: a JSON object with the parts of the event and the time at
which it was written. Line breaks inside texts are escaped, so a line never breaks.
-/

namespace Phrasebook.Event

/-- The parts of an event, in ascending order of their names. -/
def fields (event : Event) : List (String × Json) :=
  [("alias_ids", Json.texts event.aliasIds),
    ("context", Json.texts event.context),
    ("degraded", .bool event.degraded),
    ("layer", .str event.layer),
    ("outcome", .str event.outcome),
    ("request", .str event.request),
    ("snapshot_version", .int event.snapshotVersion.toNat)]

/-- The written form of an event. -/
def toJson (event : Event) : Json := .obj event.fields

/-- The line of an event in a journal, without the line break. -/
def line (timestamp : String) (event : Event) : String :=
  Json.compact (.obj (event.fields ++ [("timestamp", .str timestamp)]))

end Phrasebook.Event
