import Phrasebook.Scope

/-!
# Stores

A store is where the aliases of a phrasebook are kept. Loading it gives all of them, or tells why
it cannot: the store is out of reach, which may pass, or what it holds cannot be read.
-/

namespace Phrasebook

/-- Why a store could not be loaded. -/
inductive StoreError where
  /-- The store is out of reach. -/
  | unavailable (reason : String)
  /-- The store holds something that cannot be read. -/
  | malformed (reason : String)
deriving DecidableEq, Repr

namespace StoreError

/-- The failure in words. -/
def message : StoreError → String
  | unavailable reason => s!"Pattern store unavailable: {reason}"
  | malformed reason => s!"Malformed pattern store content: {reason}"

/-- Whether loading again later may succeed. -/
def isRetryable : StoreError → Bool
  | unavailable _ => true
  | malformed _ => false

end StoreError

/-- A store that keeps aliases in memory. While it has a fault, loading it fails. -/
structure Store where
  aliases : List Alias := []
  fault : Option StoreError := none
  /-- How often it was loaded, failures included. -/
  loads : Nat := 0

namespace Store

/-- The store with one more alias at the end. -/
def push (store : Store) (a : Alias) : Store := { store with aliases := store.aliases ++ [a] }

/-- The store with other aliases. -/
def replace (store : Store) (aliases : List Alias) : Store := { store with aliases := aliases }

/-- What loading the store gives now. -/
def contents (store : Store) : Except StoreError (List Alias) :=
  match store.fault with
  | some error => .error error
  | none => .ok store.aliases

/-- Loads the store. -/
def load (store : Store) : Except StoreError (List Alias) × Store :=
  (store.contents, { store with loads := store.loads + 1 })

end Store

/-- The aliases that take part in answering a request made in the scope. -/
def eligibleAliases (aliases : List Alias) (scope : Scope) : List Alias :=
  aliases.filter (·.isEligible scope)

end Phrasebook
