import Phrasebook.Resolution
import Phrasebook.Scope

/-!
# Events

Every request that is answered leaves one event: who asked what, what it came to, and from which
state of the phrasebook it was answered.
-/

namespace Phrasebook

/-- The record of one answered request. -/
structure Event where
  request : String
  layer : String
  context : List String
  /-- The outcome in a word. -/
  outcome : String
  /-- The keys of the aliases that the answer speaks of. -/
  aliasIds : List String
  snapshotVersion : UInt64
  /-- Whether the answer came from an old snapshot because the store failed. -/
  degraded : Bool
deriving DecidableEq, Repr

/-- The event of a request that came to `resolution`. -/
def Event.of (request : String) (scope : Scope) (resolution : Resolution) (version : UInt64)
    (degraded : Bool) : Event where
  request := request
  layer := scope.layer
  context := scope.context.toList
  outcome := resolution.label
  aliasIds := resolution.aliasIds
  snapshotVersion := version
  degraded := degraded

end Phrasebook
