import Phrasebook.Cache
import Phrasebook.Event

/-!
# Sessions

A session answers requests from a store over time. It keeps the snapshot, loads the store when the
snapshot is due, and writes an event for every answer into its journal. What happens to a session is
a list of steps, and each step has an outcome.
-/

namespace Phrasebook

/-- The answer to a request. -/
structure Answer where
  resolution : Resolution
  /-- Whether an old snapshot served because the store failed. -/
  degraded : Bool
  version : UInt64

/-- All that answers depend on, and the events so far. -/
structure Session where
  policy : Policy
  store : Store
  cache : Cache := {}
  journal : List Event := []
  /-- The time, in nanoseconds. -/
  now : Nat := 0

namespace Session

/-- What is said when a request cannot be answered because the store failed. -/
def failureMessage (error : StoreError) : String := s!"Could not load aliases: {error.message}"

/-- The snapshot to answer from now. The store is loaded if the one that is kept is due. -/
def current (session : Session) : Except StoreError Served × Session :=
  match session.cache.serve? session.policy session.now with
  | some served => (.ok served, session)
  | none =>
    let (loaded, store) := session.store.load
    let (served, cache) := session.cache.afterLoad session.policy session.now loaded
    (served, { session with store := store, cache := cache })

/-- Declares the snapshot stale, so that the next request loads the store. -/
def invalidate (session : Session) : Session :=
  { session with cache := session.cache.invalidate }

/-- Loads the store now. When it fails an old snapshot may take the place of a new one. -/
def refresh (session : Session) : Except StoreError Served × Session := session.invalidate.current

/-- Answers a request made in a scope. -/
def execute (session : Session) (request : String) (scope : Scope) :
    Except StoreError Answer × Session :=
  match session.current with
  | (.error error, session) => (.error error, session)
  | (.ok ⟨snapshot, degraded⟩, session) =>
    let resolution := snapshot.resolve request scope session.policy.maxSuggestions
    let event := Event.of request scope resolution snapshot.version degraded
    (.ok ⟨resolution, degraded, snapshot.version⟩,
      { session with journal := session.journal ++ [event] })

end Session

/-! ## Steps -/

/-- Something that happens to a session. -/
inductive Step where
  /-- The store gets one more alias. -/
  | push (a : Alias)
  /-- The store gets other aliases. -/
  | replace (aliases : List Alias)
  /-- Loading the store fails from now on. -/
  | fail (error : StoreError)
  /-- Loading the store works again. -/
  | recover
  /-- Time passes. -/
  | elapse (time : Nat)
  | invalidate
  | refresh
  | current
  | execute (request : String) (scope : Scope)

/-- What a step comes to. -/
inductive Outcome where
  | done
  /-- The number of aliases that the store holds now. -/
  | stored (size : Nat)
  | refreshed (snapshot : Snapshot)
  | served (served : Served)
  | answered (answer : Answer)
  | failed (error : StoreError)

namespace Session

/-- Takes one step. -/
def step (session : Session) : Step → Outcome × Session
  | .push a =>
    let store := session.store.push a
    (.stored store.aliases.length, { session with store := store })
  | .replace aliases =>
    let store := session.store.replace aliases
    (.stored store.aliases.length, { session with store := store })
  | .fail error =>
    (.done, { session with store := { session.store with fault := some error } })
  | .recover => (.done, { session with store := { session.store with fault := none } })
  | .elapse time => (.done, { session with now := session.now + time })
  | .invalidate => (.done, session.invalidate)
  | .refresh =>
    match session.refresh with
    | (.ok served, session) => (.refreshed served.snapshot, session)
    | (.error error, session) => (.failed error, session)
  | .current =>
    match session.current with
    | (.ok served, session) => (.served served, session)
    | (.error error, session) => (.failed error, session)
  | .execute request scope =>
    match session.execute request scope with
    | (.ok answer, session) => (.answered answer, session)
    | (.error error, session) => (.failed error, session)

/-- The session after some steps. -/
def run (session : Session) (steps : List Step) : Session :=
  steps.foldl (fun session step ↦ (session.step step).2) session

/-- The outcome of each of some steps, and the session after it. -/
def trace (session : Session) : List Step → List (Outcome × Session)
  | [] => []
  | step :: rest =>
    let next := session.step step
    next :: trace next.2 rest

end Session

end Phrasebook
