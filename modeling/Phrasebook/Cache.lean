import Phrasebook.Policy
import Phrasebook.Routing
import Phrasebook.Store

/-!
# The cached snapshot

Requests are answered from a snapshot that is kept until it is too old or declared stale. Then the
store is loaded again. When that fails the old snapshot may still serve, and answers from it are
marked as degraded; it stays due for another load.
-/

namespace Phrasebook

/-- A snapshot that is kept. -/
structure Cached where
  snapshot : Snapshot
  loadedAt : Nat
  /-- Whether it was declared stale. -/
  invalidated : Bool

/-- Whether the store has to be loaded before the snapshot may serve again. -/
def Cached.isDue (cached : Cached) (policy : Policy) (now : Nat) : Bool :=
  cached.invalidated || policy.isExpired (now - cached.loadedAt)

/-- The snapshot that is kept, if any, and the version of the last one that was made. -/
structure Cache where
  cached : Option Cached := none
  version : UInt64 := 0

/-- A snapshot to answer from. It is degraded when it only serves because the store failed. -/
structure Served where
  snapshot : Snapshot
  degraded : Bool

namespace Cache

/-- The snapshot that is kept, unless it is due. -/
def serve? (cache : Cache) (policy : Policy) (now : Nat) : Option Served :=
  match cache.cached with
  | some cached => if cached.isDue policy now then none else some ⟨cached.snapshot, false⟩
  | none => none

/-- Declares the snapshot stale. It is kept in case the store fails. -/
def invalidate (cache : Cache) : Cache :=
  { cache with cached := cache.cached.map fun cached ↦ { cached with invalidated := true } }

/-- Keeps the snapshot of some aliases, under the next version. -/
def renew (cache : Cache) (now : Nat) (aliases : List Alias) : Snapshot × Cache :=
  let version := cache.version + 1
  let snapshot := Snapshot.build version aliases
  (snapshot, ⟨some ⟨snapshot, now, false⟩, version⟩)

/-- What the old snapshot can do when the store fails. -/
def fallback (cache : Cache) (policy : Policy) (error : StoreError) : Except StoreError Served :=
  match cache.cached with
  | some cached => if policy.serveStale then .ok ⟨cached.snapshot, true⟩ else .error error
  | none => .error error

/-- The snapshot to answer from after a load of the store. -/
def afterLoad (cache : Cache) (policy : Policy) (now : Nat)
    (loaded : Except StoreError (List Alias)) : Except StoreError Served × Cache :=
  match loaded with
  | .ok aliases =>
    let (snapshot, cache) := cache.renew now aliases
    (.ok ⟨snapshot, false⟩, cache)
  | .error error => (cache.fallback policy error, cache)

end Cache

end Phrasebook
