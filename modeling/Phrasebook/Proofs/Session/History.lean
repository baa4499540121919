import Mathlib.Data.List.Induction
import Phrasebook.Proofs.Snapshot.Index
import Phrasebook.Session

/-!
# The history of a session

A session keeps one snapshot and a flag, and forgets how it came by them. To say that an answer is
fresh, or that nothing was lost, one has to look back: when was the store loaded, what did it give,
and what was declared stale since then. That history is recovered here from the steps of a run. The
store counts how often it is loaded, so `loadedBy` can tell from outside whether a step loaded it,
and `successes` lists the loads that succeeded.

## The invariant

`Cache.Follows` ties the cache to the history: its version is the number of successful loads, its
snapshot was made from what the last of them gave, and unless the snapshot is marked as stale, no
step after that load declared it so. Every run of a fresh session keeps this (`follows_run`), and
the theorems on sessions look at the state of the cache through it.
-/

namespace Phrasebook

/-! ## Calls -/

/-- Whether a step asks for a snapshot to answer from. -/
def Step.isCall : Step → Bool
  | .refresh | .current | .execute .. => true
  | _ => false

/-- What a call comes to when it answers from `served`. -/
def Step.outcomeFrom (policy : Policy) (served : Served) : Step → Outcome
  | .refresh => .refreshed served.snapshot
  | .execute request scope =>
    .answered ⟨served.snapshot.resolve request scope policy.maxSuggestions, served.degraded,
      served.snapshot.version⟩
  | _ => .served served

/-- What a call comes to when asking for a snapshot comes to `result`. -/
def Step.outcomeOf (policy : Policy) (call : Step) : Except StoreError Served → Outcome
  | .ok served => call.outcomeFrom policy served
  | .error error => .failed error

namespace Session

/-- A session that nothing has happened to yet. -/
def fresh (policy : Policy) (store : Store) (now : Nat) : Session :=
  { policy := policy, store := store, now := now }

/-- The session as a call finds it: a refresh first declares the snapshot stale. -/
def atCall (session : Session) : Step → Session
  | .refresh => session.invalidate
  | _ => session

theorem atCall_of_ne_refresh (session : Session) {call : Step} (h : call ≠ .refresh) :
    session.atCall call = session := by
  cases call with
  | refresh => exact absurd rfl h
  | _ => rfl

section

variable (session : Session) (call : Step)

@[simp] theorem policy_atCall : (session.atCall call).policy = session.policy := by
  cases call <;> rfl

@[simp] theorem store_atCall : (session.atCall call).store = session.store := by cases call <;> rfl

@[simp] theorem now_atCall : (session.atCall call).now = session.now := by cases call <;> rfl

@[simp] theorem renew_atCall (now : Nat) (aliases : List Alias) :
    (session.atCall call).cache.renew now aliases = session.cache.renew now aliases := by
  cases call <;> rfl

@[simp] theorem version_atCall :
    (session.atCall call).cache.version = session.cache.version := by cases call <;> rfl

/-- The mark does not keep the old snapshot from serving when the store fails. -/
@[simp] theorem fallback_atCall (policy : Policy) (error : StoreError) :
    (session.atCall call).cache.fallback policy error = session.cache.fallback policy error := by
  cases call with
  | refresh =>
    rw [Cache.fallback, Cache.fallback, atCall, invalidate, Cache.invalidate]
    cases session.cache.cached <;> rfl
  | _ => rfl

end

/-- Whether the next call has to load the store. -/
def isDue (session : Session) : Bool := (session.cache.serve? session.policy session.now).isNone

theorem isDue_iff {session : Session} :
    session.isDue = true ↔ ∀ cached, session.cache.cached = some cached →
      cached.isDue session.policy session.now = true := by
  rw [isDue, Cache.serve?]
  cases session.cache.cached with
  | none => simp
  | some cached => cases hdue : cached.isDue session.policy session.now <;> simp [hdue]

/-- A failing store is answered with the kept snapshot, if there is one and policy allows it. -/
theorem fallback_cases (cache : Cache) (policy : Policy) (error : StoreError) :
    (policy.serveStale = true ∧ ∃ cached, cache.cached = some cached ∧
      cache.fallback policy error = .ok ⟨cached.snapshot, true⟩) ∨
    ((cache.cached = none ∨ policy.serveStale = false) ∧
      cache.fallback policy error = .error error) := by
  rw [Cache.fallback]
  cases cache.cached with
  | none => exact Or.inr ⟨Or.inl rfl, rfl⟩
  | some cached =>
    cases policy.serveStale with
    | false => exact Or.inr ⟨Or.inr rfl, rfl⟩
    | true => exact Or.inl ⟨rfl, cached, rfl, rfl⟩

theorem isDue_invalidate (session : Session) : session.invalidate.isDue = true := by
  rw [isDue_iff]
  intro cached hcached
  obtain ⟨old, -, rfl⟩ := Option.map_eq_some_iff.mp hcached
  rw [Cached.isDue, Bool.true_or]

/-- The three ways to come by a snapshot: the one that is kept serves, the store gives a new one, or
the store fails. -/
theorem current_cases (session : Session) :
    (session.isDue = false ∧ ∃ cached, session.cache.cached = some cached ∧
      cached.invalidated = false ∧ session.current = (.ok ⟨cached.snapshot, false⟩, session)) ∨
    (session.isDue = true ∧ ∃ aliases, session.store.contents = .ok aliases ∧
      session.current = (.ok ⟨Snapshot.build (session.cache.version + 1) aliases, false⟩,
        { session with
          store := session.store.load.2
          cache := (session.cache.renew session.now aliases).2 })) ∨
    session.isDue = true ∧ ∃ error, session.store.contents = .error error ∧
      session.current = (session.cache.fallback session.policy error,
        { session with store := session.store.load.2 }) := by
  cases hserve : session.cache.serve? session.policy session.now with
  | some served =>
    refine Or.inl ⟨by rw [isDue, hserve]; rfl, ?_⟩
    have hcurrent : session.current = (.ok served, session) := by rw [current, hserve]
    rw [Cache.serve?] at hserve
    split at hserve
    · rename_i cached hcached
      split at hserve
      · cases hserve
      · rename_i hdue
        rw [Cached.isDue, Bool.or_eq_true, not_or, Bool.not_eq_true] at hdue
        cases hserve
        exact ⟨cached, hcached, hdue.1, hcurrent⟩
    · cases hserve
  | none =>
    have hdue : session.isDue = true := by rw [isDue, hserve]; rfl
    refine Or.inr ?_
    cases hcontents : session.store.contents with
    | ok aliases =>
      refine Or.inl ⟨hdue, aliases, rfl, ?_⟩
      simp only [current, hserve, Store.load, hcontents, Cache.afterLoad, Cache.renew]
    | error error =>
      refine Or.inr ⟨hdue, error, rfl, ?_⟩
      simp only [current, hserve, Store.load, hcontents, Cache.afterLoad]

/-- Looking for a snapshot leaves the policy, the time and the state of the store alone. -/
theorem current_frame (session : Session) :
    session.current.2.policy = session.policy ∧ session.current.2.now = session.now ∧
      session.current.2.store.fault = session.store.fault := by
  rcases current_cases session with
    ⟨-, _, -, -, hcurrent⟩ | ⟨-, _, -, hcurrent⟩ | ⟨-, _, -, hcurrent⟩
  all_goals
    rw [hcurrent]
    exact ⟨rfl, rfl, rfl⟩

/-- A call answers from what `current` gives. Besides, only the journal may change. -/
theorem step_of_isCall (session : Session) {call : Step} (h : call.isCall = true) :
    (session.step call).1 = call.outcomeOf session.policy (session.atCall call).current.1 ∧
      ∃ journal, (session.step call).2 =
        { (session.atCall call).current.2 with journal := journal } := by
  cases call with
  | refresh =>
    rw [step, refresh, atCall]
    rcases session.invalidate.current with ⟨_ | served, after⟩
    · exact ⟨rfl, after.journal, rfl⟩
    · exact ⟨rfl, after.journal, rfl⟩
  | current =>
    rw [step, session.atCall_of_ne_refresh Step.noConfusion]
    rcases session.current with ⟨_ | served, after⟩
    · exact ⟨rfl, after.journal, rfl⟩
    · exact ⟨rfl, after.journal, rfl⟩
  | execute request scope =>
    -- the limit on suggestions is read off the session after the load
    have hpolicy := session.current_frame.1
    rw [step, execute, session.atCall_of_ne_refresh Step.noConfusion]
    rcases hcurrent : session.current with ⟨_ | served, after⟩
    · exact ⟨rfl, after.journal, rfl⟩
    · rw [hcurrent] at hpolicy
      refine ⟨?_, _, rfl⟩
      rw [Step.outcomeOf, Step.outcomeFrom, ← hpolicy]
  | _ => cases h

theorem frame_of_isCall (session : Session) {call : Step} (h : call.isCall = true) :
    (session.step call).2.policy = session.policy ∧ (session.step call).2.now = session.now ∧
      (session.step call).2.store.fault = session.store.fault := by
  obtain ⟨-, journal, hafter⟩ := session.step_of_isCall h
  obtain ⟨hpolicy, hnow, hfault⟩ := (session.atCall call).current_frame
  rw [hafter]
  exact ⟨hpolicy.trans (session.policy_atCall call), hnow.trans (session.now_atCall call),
    hfault.trans (by rw [store_atCall])⟩

@[simp] theorem policy_step (session : Session) (step : Step) :
    (session.step step).2.policy = session.policy := by
  cases hcall : step.isCall with
  | false =>
    cases step with
    | refresh | current | execute => cases hcall
    | _ => rfl
  | true => exact (session.frame_of_isCall hcall).1

/-! ## Loads seen from outside -/

/-- What a step loads from the store, when it does: the store counts its loads. -/
def loadedBy (session : Session) (step : Step) : Option (Except StoreError (List Alias)) :=
  if (session.step step).2.store.loads = session.store.loads then none
  else some session.store.contents

theorem loadedBy_of_not_isCall (session : Session) {step : Step} (h : step.isCall = false) :
    session.loadedBy step = none := by
  cases step with
  | refresh | current | execute => cases h
  | _ => exact if_pos rfl

theorem loadedBy_of_loads_eq_succ {session : Session} {step : Step}
    (h : (session.step step).2.store.loads = session.store.loads + 1) :
    session.loadedBy step = some session.store.contents :=
  if_neg (by rw [h]; exact Nat.succ_ne_self _)

/-- What a call comes to, and what it leaves behind in the cache: the kept snapshot serves and
nothing changes, the store gives a new one, or the store fails and the old one stays due. -/
theorem call_cases (session : Session) {call : Step} (h : call.isCall = true) :
    (session.loadedBy call = none ∧ session.isDue = false ∧ ∃ cached,
      session.cache.cached = some cached ∧ cached.invalidated = false ∧ call ≠ .refresh ∧
      (session.step call).1 = call.outcomeFrom session.policy ⟨cached.snapshot, false⟩ ∧
      (session.step call).2.cache = session.cache) ∨
    (∃ aliases, session.loadedBy call = some (.ok aliases) ∧
      session.store.contents = .ok aliases ∧ (session.atCall call).isDue = true ∧
      (session.step call).1 = call.outcomeFrom session.policy
        ⟨Snapshot.build (session.cache.version + 1) aliases, false⟩ ∧
      (session.step call).2.cache = (session.cache.renew session.now aliases).2) ∨
    ∃ error, session.loadedBy call = some (.error error) ∧
      session.store.contents = .error error ∧ (session.atCall call).isDue = true ∧
      (session.step call).1 =
        call.outcomeOf session.policy (session.cache.fallback session.policy error) ∧
      (session.step call).2.cache = (session.atCall call).cache := by
  obtain ⟨houtcome, journal, hafter⟩ := session.step_of_isCall h
  rcases (session.atCall call).current_cases with
    ⟨hdue, cached, hcached, hmark, hcurrent⟩ | ⟨hdue, aliases, hcontents, hcurrent⟩ |
    ⟨hdue, error, hcontents, hcurrent⟩
  · -- a refresh has just declared the snapshot stale, so it cannot serve
    have hne : call ≠ .refresh := by
      rintro rfl
      rw [atCall, isDue_invalidate] at hdue
      cases hdue
    rw [session.atCall_of_ne_refresh hne] at hdue hcached hcurrent houtcome hafter
    rw [hcurrent] at houtcome hafter
    refine Or.inl ⟨if_pos ?_, hdue, cached, hcached, hmark, hne, houtcome, ?_⟩
    · rw [hafter]
    · rw [hafter]
  · rw [hcurrent] at houtcome hafter
    rw [store_atCall] at hcontents
    rw [version_atCall] at houtcome
    have hloads : (session.step call).2.store.loads = session.store.loads + 1 := by
      rw [hafter, store_atCall, Store.load]
    refine Or.inr (Or.inl ⟨aliases, ?_, hcontents, hdue, houtcome, ?_⟩)
    · rw [loadedBy_of_loads_eq_succ hloads, hcontents]
    · rw [hafter, now_atCall, renew_atCall]
  · rw [hcurrent] at houtcome hafter
    rw [store_atCall] at hcontents
    have hloads : (session.step call).2.store.loads = session.store.loads + 1 := by
      rw [hafter, store_atCall, Store.load]
    refine Or.inr (Or.inr ⟨error, ?_, hcontents, hdue, ?_, ?_⟩)
    · rw [loadedBy_of_loads_eq_succ hloads, hcontents]
    · rw [houtcome, fallback_atCall, policy_atCall]
    · rw [hafter]

/-- Of the steps that are no calls, one marks the snapshot and the others leave the cache alone. -/
theorem cache_of_not_isCall (session : Session) {step : Step} (h : step.isCall = false) :
    (step ≠ .invalidate ∧ (session.step step).2.cache = session.cache) ∨
      (step = .invalidate ∧ (session.step step).2.cache = session.cache.invalidate) := by
  cases step with
  | refresh | current | execute => cases h
  | invalidate => exact Or.inr ⟨rfl, rfl⟩
  | _ => exact Or.inl ⟨Step.noConfusion, rfl⟩

end Session

/-! ## Histories -/

/-- A load of the store that succeeded: the number of the step during which it happened, and what
the store gave. -/
structure Load where
  during : Nat
  aliases : List Alias

/-- No step after the load declared the snapshot stale. A refresh may itself be the step that loads
the store. -/
structure Load.Postdates (load : Load) (steps : List Step) : Prop where
  invalidate : ∀ i, steps[i]? = some .invalidate → i < load.during
  refresh : ∀ i, steps[i]? = some .refresh → i ≤ load.during

namespace Session

/-- The successful loads during some steps, of which the first has the number `first`. -/
def successes (session : Session) (first : Nat) : List Step → List Load
  | [] => []
  | step :: rest =>
    match session.loadedBy step with
    | some (.ok aliases) => ⟨first, aliases⟩ :: (session.step step).2.successes (first + 1) rest
    | _ => (session.step step).2.successes (first + 1) rest

@[simp] theorem run_nil (session : Session) : session.run [] = session := rfl

@[simp] theorem run_cons (session : Session) (step : Step) (rest : List Step) :
    session.run (step :: rest) = (session.step step).2.run rest := rfl

@[simp] theorem policy_run (session : Session) (steps : List Step) :
    (session.run steps).policy = session.policy := by
  induction steps generalizing session with
  | nil => rfl
  | cons step steps ih => rw [run_cons, ih, policy_step]

theorem run_append (session : Session) (steps rest : List Step) :
    session.run (steps ++ rest) = (session.run steps).run rest := by
  rw [run, run, run, List.foldl_append]

theorem successes_cons_of_ok {session : Session} {step : Step} {aliases : List Alias}
    (h : session.loadedBy step = some (.ok aliases)) (first : Nat) (rest : List Step) :
    session.successes first (step :: rest) =
      ⟨first, aliases⟩ :: (session.step step).2.successes (first + 1) rest := by
  rw [successes, h]

theorem successes_cons_of_not_ok {session : Session} {step : Step}
    (h : ∀ aliases, session.loadedBy step ≠ some (.ok aliases)) (first : Nat) (rest : List Step) :
    session.successes first (step :: rest) =
      (session.step step).2.successes (first + 1) rest := by
  rw [successes]
  split
  · rename_i aliases hloaded
    exact absurd hloaded (h aliases)
  · rfl

theorem successes_singleton_of_ok {session : Session} {step : Step} {aliases : List Alias}
    (h : session.loadedBy step = some (.ok aliases)) (first : Nat) :
    session.successes first [step] = [⟨first, aliases⟩] := by
  rw [successes_cons_of_ok h, successes]

theorem successes_singleton_of_not_ok {session : Session} {step : Step}
    (h : ∀ aliases, session.loadedBy step ≠ some (.ok aliases)) (first : Nat) :
    session.successes first [step] = [] := by
  rw [successes_cons_of_not_ok h, successes]

theorem successes_append (session : Session) (steps rest : List Step) : ∀ first : Nat,
    session.successes first (steps ++ rest) =
      session.successes first steps ++
        (session.run steps).successes (first + steps.length) rest := by
  induction steps generalizing session with
  | nil => intro first; rfl
  | cons step steps ih =>
    intro first
    have hfirst : first + 1 + steps.length = first + (step :: steps).length := by
      rw [List.length_cons]
      omega
    rw [List.cons_append, run_cons, ← hfirst]
    by_cases h : ∃ aliases, session.loadedBy step = some (.ok aliases)
    · obtain ⟨aliases, h⟩ := h
      rw [successes_cons_of_ok h, successes_cons_of_ok h, ih, List.cons_append]
    · rw [not_exists] at h
      rw [successes_cons_of_not_ok h, successes_cons_of_not_ok h, ih]

/-- A successful load gave what the store held when its step was taken. -/
theorem contents_of_mem_successes {load : Load} (steps : List Step) :
    ∀ {session : Session} {first : Nat}, load ∈ session.successes first steps →
      first ≤ load.during ∧
        (session.run (steps.take (load.during - first))).store.contents = .ok load.aliases := by
  induction steps with
  | nil => intro session first h; cases h
  | cons step steps ih =>
    intro session first h
    have hlater : load ∈ (session.step step).2.successes (first + 1) steps → _ := ih
    have hnext : ∀ {n}, first + 1 ≤ n → n - first = n - (first + 1) + 1 := by omega
    by_cases hok : ∃ aliases, session.loadedBy step = some (.ok aliases)
    · obtain ⟨aliases, hok⟩ := hok
      rw [successes_cons_of_ok hok] at h
      rcases List.mem_cons.mp h with rfl | h
      -- either it is the load of this very step, or one of a later step
      · refine ⟨Nat.le_refl first, ?_⟩
        rw [loadedBy] at hok
        split at hok
        · cases hok
        · rw [Nat.sub_self, List.take_zero, run_nil, Option.some_inj.mp hok]
      · obtain ⟨hle, hcontents⟩ := hlater h
        rw [hnext hle, List.take_succ_cons, run_cons]
        exact ⟨Nat.le_of_succ_le hle, hcontents⟩
    · rw [not_exists] at hok
      rw [successes_cons_of_not_ok hok] at h
      obtain ⟨hle, hcontents⟩ := hlater h
      rw [hnext hle, List.take_succ_cons, run_cons]
      exact ⟨Nat.le_of_succ_le hle, hcontents⟩

end Session

/-! ## The invariant -/

/-- What the cache has to do with the steps so far and with those of their loads that succeeded. -/
structure Cache.Follows (cache : Cache) (steps : List Step) (loads : List Load) : Prop where
  version : cache.version = UInt64.ofNat loads.length
  uncached : cache.cached = none → loads = []
  cached : ∀ cached, cache.cached = some cached → ∃ load, loads.getLast? = some load ∧
    cached.snapshot = Snapshot.build cache.version load.aliases ∧
    (cached.invalidated = false → load.Postdates steps)

theorem getElem?_append_singleton_eq_some {steps : List Step} {step found : Step} {i : Nat}
    (h : (steps ++ [step])[i]? = some found) :
    steps[i]? = some found ∨ (i = steps.length ∧ step = found) := by
  by_cases hlt : i < steps.length
  · rw [List.getElem?_append_left hlt] at h
    exact Or.inl h
  · rw [List.getElem?_append_right (Nat.not_lt.mp hlt)] at h
    have hi : i - steps.length = 0 := by
      have hbound := (List.getElem?_eq_some_iff.mp h).1
      rw [List.length_singleton] at hbound
      omega
    rw [hi, List.getElem?_cons_zero, Option.some_inj] at h
    exact Or.inr ⟨by omega, h⟩

theorem Load.Postdates.append {load : Load} {steps : List Step} (h : load.Postdates steps)
    {step : Step} (hinvalidate : step ≠ .invalidate) (hrefresh : step ≠ .refresh) :
    load.Postdates (steps ++ [step]) := by
  refine ⟨fun i hi ↦ ?_, fun i hi ↦ ?_⟩
  · rcases getElem?_append_singleton_eq_some hi with hold | ⟨-, hnew⟩
    · exact h.invalidate i hold
    · exact absurd hnew hinvalidate
  · rcases getElem?_append_singleton_eq_some hi with hold | ⟨-, hnew⟩
    · exact h.refresh i hold
    · exact absurd hnew hrefresh

theorem Load.postdates_of_last {steps : List Step} {step : Step} (h : step ≠ .invalidate)
    (aliases : List Alias) : Load.Postdates ⟨steps.length, aliases⟩ (steps ++ [step]) := by
  refine ⟨fun i hi ↦ ?_, fun i hi ↦ ?_⟩
  · rcases getElem?_append_singleton_eq_some hi with hold | ⟨-, hnew⟩
    · exact (List.getElem?_eq_some_iff.mp hold).1
    · exact absurd hnew h
  · have hbound := (List.getElem?_eq_some_iff.mp hi).1
    rw [List.length_append, List.length_singleton] at hbound
    show i ≤ steps.length
    omega

namespace Cache.Follows

variable {cache : Cache} {steps : List Step} {loads : List Load}

theorem append (h : cache.Follows steps loads) {step : Step} (hinvalidate : step ≠ .invalidate)
    (hrefresh : step ≠ .refresh) : cache.Follows (steps ++ [step]) loads := by
  refine ⟨h.version, h.uncached, fun cached hcached ↦ ?_⟩
  obtain ⟨load, hlast, hsnapshot, hfresh⟩ := h.cached cached hcached
  exact ⟨load, hlast, hsnapshot, fun hmark ↦ (hfresh hmark).append hinvalidate hrefresh⟩

/-- Once the snapshot is marked, nothing is promised about the steps since it was loaded. -/
theorem invalidate (h : cache.Follows steps loads) (step : Step) :
    cache.invalidate.Follows (steps ++ [step]) loads := by
  refine ⟨h.version, fun hnone ↦ h.uncached (Option.map_eq_none_iff.mp hnone), ?_⟩
  intro cached hcached
  obtain ⟨old, hold, rfl⟩ := Option.map_eq_some_iff.mp hcached
  obtain ⟨load, hlast, hsnapshot, -⟩ := h.cached old hold
  exact ⟨load, hlast, hsnapshot, fun hmark ↦ absurd hmark (by simp)⟩

theorem renew (h : cache.Follows steps loads) {step : Step} (hstep : step ≠ .invalidate)
    (now : Nat) (aliases : List Alias) :
    (cache.renew now aliases).2.Follows (steps ++ [step])
      (loads ++ [⟨steps.length, aliases⟩]) := by
  refine ⟨?_, fun hnone ↦ absurd hnone (by simp [Cache.renew]), fun cached hcached ↦ ?_⟩
  · rw [List.length_append, List.length_singleton, UInt64.ofNat_add, ← h.version]
    rfl
  · obtain rfl := Option.some_inj.mp hcached
    exact ⟨_, List.getLast?_concat, rfl, fun _ ↦ Load.postdates_of_last hstep aliases⟩

end Cache.Follows

namespace Session

theorem follows_atCall {session : Session} {steps : List Step} {loads : List Load}
    (h : session.cache.Follows steps loads) {call : Step} (hcall : call.isCall = true) :
    (session.atCall call).cache.Follows (steps ++ [call]) loads := by
  cases call with
  | refresh => exact h.invalidate .refresh
  | current => exact h.append Step.noConfusion Step.noConfusion
  | execute request scope => exact h.append Step.noConfusion Step.noConfusion
  | _ => cases hcall

/-- **One step keeps the invariant.** -/
theorem follows_step {session : Session} {steps : List Step} {loads : List Load}
    (h : session.cache.Follows steps loads) (step : Step) :
    (session.step step).2.cache.Follows (steps ++ [step])
      (loads ++ session.successes steps.length [step]) := by
  cases hcall : step.isCall with
  | false =>
    have hnone := session.loadedBy_of_not_isCall hcall
    rw [successes_singleton_of_not_ok (by rw [hnone]; simp), List.append_nil]
    rcases session.cache_of_not_isCall hcall with ⟨hne, hcache⟩ | ⟨-, hcache⟩
    · rw [hcache]
      exact h.append hne (by rintro rfl; cases hcall)
    · rw [hcache]
      exact h.invalidate step
  | true =>
    have hne : step ≠ .invalidate := by rintro rfl; cases hcall
    rcases session.call_cases hcall with
      ⟨hnone, -, -, -, -, hrefresh, -, hcache⟩ | ⟨aliases, hloaded, -, -, -, hcache⟩ |
      ⟨error, hloaded, -, -, -, hcache⟩
    · rw [successes_singleton_of_not_ok (by rw [hnone]; simp), List.append_nil, hcache]
      exact h.append hne hrefresh
    · rw [successes_singleton_of_ok hloaded, hcache]
      exact h.renew hne session.now aliases
    · rw [successes_singleton_of_not_ok (by rw [hloaded]; simp), List.append_nil, hcache]
      exact follows_atCall h hcall

theorem follows_fresh (policy : Policy) (store : Store) (now : Nat) :
    (fresh policy store now).cache.Follows [] [] :=
  ⟨rfl, fun _ ↦ rfl, fun _ h ↦ by cases h⟩

/-- **Every run of a fresh session keeps the invariant.** -/
theorem follows_run (policy : Policy) (store : Store) (now : Nat) (steps : List Step) :
    ((fresh policy store now).run steps).cache.Follows steps
      ((fresh policy store now).successes 0 steps) := by
  -- the history grows at its end
  induction steps using List.reverseRecOn with
  | nil => exact follows_fresh policy store now
  | append_singleton steps step ih =>
    rw [run_append, successes_append, Nat.zero_add]
    exact follows_step ih step

end Session

end Phrasebook
