import Phrasebook.Issue
import Phrasebook.Keyword
import Phrasebook.Scope

/-!
# Snapshots

A snapshot is one consistent view of a phrasebook: its aliases checked, and those without a fault
made ready for matching. Requests are answered from a snapshot alone, however the phrasebook changes
meanwhile.

The entries of each layer are also listed under that layer, so that finding the aliases for a caller
looks at the public layer and the caller's own and at no other.
-/

namespace Phrasebook

/-- An alias made ready for matching. -/
structure Entry where
  /-- The key of the alias. -/
  id : String
  /-- The alias as its author wrote it. -/
  definition : Alias
  /-- Its phrase, read. -/
  pattern : Pattern
  /-- The keywords of the phrase without its placeholders. -/
  keywords : NameSet
  /-- Its place among the entries. Of two equal matches the later definition wins. -/
  position : Nat

/-- A checked phrasebook. -/
structure Snapshot where
  version : UInt64
  entries : List Entry
  /-- For each layer the positions of its entries, ascending. -/
  byLayer : NameMap (List Nat)
  /-- All that was found to be the matter, in the order of the aliases. -/
  issues : List Issue

namespace Snapshot

/-- The snapshot of no aliases. -/
def empty (version : UInt64) : Snapshot := ⟨version, [], ∅, []⟩

instance : Inhabited Snapshot := ⟨empty 0⟩

/-- Whether an entry has the layer and phrase of `a`. -/
def holds (snapshot : Snapshot) (a : Alias) : Bool :=
  snapshot.entries.any fun entry ↦
    entry.definition.layer == a.layer && entry.definition.pattern == a.pattern

/-- Appends an entry for an alias. -/
def addEntry (snapshot : Snapshot) (a : Alias) (pattern : Pattern) : Snapshot :=
  let position := snapshot.entries.length
  let siblings := (snapshot.byLayer.get? a.layer).getD []
  { snapshot with
    entries := snapshot.entries ++
      [⟨a.key, a, pattern, Keyword.keywordSet pattern.literal, position⟩]
    byLayer := snapshot.byLayer.insert a.layer (siblings ++ [position]) }

/-- Checks one more alias. It gets an entry unless it has a fault or repeats an entry. -/
def add (snapshot : Snapshot) (a : Alias) : Snapshot :=
  let (pattern?, issues) := a.check
  let checked := { snapshot with issues := snapshot.issues ++ issues }
  match pattern? with
  | none => checked
  | some pattern =>
    if checked.holds a then
      { checked with
        issues := checked.issues ++ [⟨a.key, .duplicatePattern a.layer a.pattern⟩] }
    else checked.addEntry a pattern

/-- The snapshot of some aliases. -/
def build (version : UInt64) (aliases : List Alias) : Snapshot := aliases.foldl add (empty version)

/-- The faults among the issues. -/
def errors (snapshot : Snapshot) : List Issue := snapshot.issues.filter Issue.isError

/-- The snapshot of some aliases, or their faults if there are any. -/
def buildStrict (version : UInt64) (aliases : List Alias) : Except (List Issue) Snapshot :=
  let snapshot := build version aliases
  if snapshot.errors.isEmpty then .ok snapshot else .error snapshot.errors

/-- What is said when a strict build fails. -/
def strictMessage (errors : List Issue) : String := s!"{errors.length} alias(es) failed validation"

/-- The first entry with the given id. -/
def get? (snapshot : Snapshot) (id : String) : Option Entry :=
  snapshot.entries.find? fun entry ↦ entry.id == id

/-- The positions of the entries of a layer. -/
def positionsOf (snapshot : Snapshot) (layer : String) : List Nat :=
  (snapshot.byLayer.get? layer).getD []

/-- The positions of all entries whose layer the scope sees, ascending. -/
def visiblePositions (snapshot : Snapshot) (scope : Scope) : List Nat :=
  let own := if scope.layer = publicLayer then [] else snapshot.positionsOf scope.layer
  (snapshot.positionsOf publicLayer ++ own).mergeSort fun a b ↦ a ≤ b

/-- The entries that take part in answering a request made in the scope, in order of definition. -/
def eligible (snapshot : Snapshot) (scope : Scope) : List Entry :=
  ((snapshot.visiblePositions scope).filterMap (snapshot.entries[·]?)).filter
    fun entry ↦ entry.definition.isEligible scope

end Snapshot

end Phrasebook
