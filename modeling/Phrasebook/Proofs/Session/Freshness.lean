import Phrasebook.Proofs.Session.History

/-!
# Answers are fresh

An answer that is not marked as degraded is the one that a session without a cache would give: the
store's aliases are built into a snapshot, and the snapshot resolves the request. The only freedom
left to the cache is which state of the store that is. It is the state at the last load that
succeeded, and this load came after everything that declared the snapshot stale.

How long a snapshot serves has no part in this. Only when it serves for no time at all is every
answer made from the store as it is now.
-/

namespace Phrasebook.Session

theorem isDue_of_refreshInterval_eq_zero {session : Session}
    (h : session.policy.refreshInterval = some 0) : session.isDue = true := by
  rw [isDue_iff]
  intro cached _
  rw [Cached.isDue, Policy.isExpired, h, Bool.or_eq_true]
  exact Or.inr (decide_eq_true (Nat.zero_le _))

theorem step_execute_of_ok {session : Session} {request : String} {scope : Scope} {answer : Answer}
    (h : (session.execute request scope).1 = .ok answer) :
    (session.step (.execute request scope)).1 = .answered answer := by
  rw [step]
  rcases hexecute : session.execute request scope with ⟨_ | found, after⟩
  · rw [hexecute] at h
    cases h
  · rw [hexecute] at h
    cases h
    rfl

/-- An answer to an execution reports what it was answered from. -/
theorem answer_of_outcomeFrom {request : String} {scope : Scope} {policy : Policy} {served : Served}
    {answer : Answer}
    (h : (Step.execute request scope).outcomeFrom policy served = .answered answer) :
    answer.degraded = served.degraded ∧ answer.version = served.snapshot.version ∧
      answer.resolution =
        served.snapshot.resolve request scope policy.maxSuggestions := by
  rw [Step.outcomeFrom] at h
  injection h with hanswer
  exact ⟨by rw [← hanswer], by rw [← hanswer], by rw [← hanswer]⟩

/-- Whatever is answered while the store fails is degraded. -/
theorem degraded_of_fallback {cache : Cache} {request : String} {scope : Scope} {policy : Policy}
    {error : StoreError} {answer : Answer}
    (h : (Step.execute request scope).outcomeOf policy (cache.fallback policy error) =
      .answered answer) : answer.degraded = true := by
  rcases fallback_cases cache policy error with ⟨-, cached, -, hfallback⟩ | ⟨-, hfallback⟩
  · rw [hfallback, Step.outcomeOf] at h
    exact (answer_of_outcomeFrom h).1
  · rw [hfallback, Step.outcomeOf] at h
    cases h

/-- An answer that is not degraded comes from the snapshot that is kept afterwards, and nothing has
marked that one. -/
theorem cached_of_execute {session : Session} {request : String} {scope : Scope} {answer : Answer}
    (h : (session.execute request scope).1 = .ok answer) (hfresh : answer.degraded = false) :
    ∃ cached, (session.step (.execute request scope)).2.cache.cached = some cached ∧
      cached.invalidated = false ∧ answer.version = cached.snapshot.version ∧
      answer.resolution =
        cached.snapshot.resolve request scope session.policy.maxSuggestions := by
  have hstep := step_execute_of_ok h
  have hcall : (Step.execute request scope).isCall = true := rfl
  rcases session.call_cases hcall with
    ⟨-, -, cached, hcached, hmark, -, houtcome, hcache⟩ | ⟨aliases, -, -, -, houtcome, hcache⟩ |
    ⟨error, -, -, -, houtcome, -⟩
  · obtain ⟨-, hversion, hresolution⟩ := answer_of_outcomeFrom (houtcome.symm.trans hstep)
    exact ⟨cached, by rw [hcache, hcached], hmark, hversion, hresolution⟩
  · obtain ⟨-, hversion, hresolution⟩ := answer_of_outcomeFrom (houtcome.symm.trans hstep)
    refine ⟨⟨Snapshot.build (session.cache.version + 1) aliases, session.now, false⟩, ?_, rfl,
      hversion, hresolution⟩
    rw [hcache, Cache.renew]
  · rw [houtcome] at hstep
    rw [degraded_of_fallback hstep] at hfresh
    cases hfresh

/-- When a snapshot serves for no time at all, a call that is answered has loaded the store. -/
theorem loadedBy_execute_of_interval_zero {session : Session} {request : String} {scope : Scope}
    {answer : Answer} (h : (session.execute request scope).1 = .ok answer)
    (hfresh : answer.degraded = false) (hzero : session.policy.refreshInterval = some 0) :
    ∃ aliases, session.loadedBy (.execute request scope) = some (.ok aliases) ∧
      session.store.contents = .ok aliases := by
  have hstep := step_execute_of_ok h
  have hcall : (Step.execute request scope).isCall = true := rfl
  rcases session.call_cases hcall with
    ⟨-, hdue, -⟩ | ⟨aliases, hloaded, hcontents, -⟩ | ⟨error, -, -, -, houtcome, -⟩
  · rw [isDue_of_refreshInterval_eq_zero hzero] at hdue
    cases hdue
  · exact ⟨aliases, hloaded, hcontents⟩
  · rw [houtcome] at hstep
    rw [degraded_of_fallback hstep] at hfresh
    cases hfresh

/-- **A fresh answer hides the cache.** It is what the store gave at its last successful load, and
no step since that load declared the snapshot stale. -/
theorem execute_eq_resolve_last_load (policy : Policy) (store : Store) (now : Nat)
    (steps : List Step) (request : String) (scope : Scope) {answer : Answer}
    (h : (((fresh policy store now).run steps).execute request scope).1 = .ok answer)
    (hfresh : answer.degraded = false) :
    ∃ load : Load,
      ((fresh policy store now).successes 0
        (steps ++ [Step.execute request scope])).getLast? = some load ∧
      ((fresh policy store now).run
        ((steps ++ [Step.execute request scope]).take load.during)).store.contents =
          .ok load.aliases ∧
      answer.resolution =
        (Snapshot.build answer.version load.aliases).resolve request scope policy.maxSuggestions ∧
      load.Postdates (steps ++ [Step.execute request scope]) ∧
      (policy.refreshInterval = some 0 → load.during = steps.length ∧
        ((fresh policy store now).run steps).store.contents = .ok load.aliases) := by
  have hfollows := follows_run policy store now (steps ++ [Step.execute request scope])
  rw [run_append, run_cons, run_nil] at hfollows
  -- the snapshot that answered is still kept, so the invariant speaks about it
  obtain ⟨cached, hcached, hmark, hversion, hresolution⟩ := cached_of_execute h hfresh
  rw [policy_run] at hresolution
  obtain ⟨load, hlast, hsnapshot, hpostdates⟩ := hfollows.cached cached hcached
  have hcontents := (contents_of_mem_successes _ (List.mem_of_getLast? hlast)).2
  refine ⟨load, hlast, hcontents, ?_, hpostdates hmark, fun hzero ↦ ?_⟩
  · rw [hresolution, hversion, hsnapshot, Snapshot.version_build]
    rfl
  · obtain ⟨aliases, hloaded, hnow⟩ :=
      loadedBy_execute_of_interval_zero h hfresh ((policy_run _ _).symm ▸ hzero)
    -- the execution comes last, and so does its load
    rw [successes_append, successes_singleton_of_ok hloaded, Nat.zero_add,
      List.getLast?_concat] at hlast
    rw [← Option.some_inj.mp hlast]
    exact ⟨rfl, hnow⟩

/-- The store fails after the snapshot was declared stale, and then works again. -/
theorem execute_eq_resolve_last_load_of_recovery :
    ∃ answer,
      (((fresh { refreshInterval := some 0 } {} 0).run [.push { pattern := "my tasks" }, .current,
          .push { pattern := "my notes" }, .invalidate, .fail (.unavailable "gone"), .current,
          .recover]).execute "my notes" {}).1 = .ok answer ∧ answer.degraded = false ∧
      answer.resolution = (Snapshot.build answer.version
        [{ pattern := "my tasks" }, { pattern := "my notes" }]).resolve "my notes" {} 3 := by
  let steps : List Step := [.push { pattern := "my tasks" }, .current,
    .push { pattern := "my notes" }, .invalidate, .fail (.unavailable "gone"), .current, .recover]
  obtain ⟨answer, hanswer, hfresh⟩ : ∃ answer,
      (((fresh { refreshInterval := some 0 } {} 0).run steps).execute "my notes" {}).1 =
        .ok answer ∧ answer.degraded = false := ⟨_, rfl, rfl⟩
  obtain ⟨load, -, -, hresolution, -, hzero⟩ := execute_eq_resolve_last_load
    { refreshInterval := some 0 } {} 0 steps "my notes" {} hanswer hfresh
  have haliases : load.aliases = [{ pattern := "my tasks" }, { pattern := "my notes" }] :=
    (Except.ok.inj (hzero rfl).2).symm
  rw [haliases] at hresolution
  exact ⟨answer, hanswer, hfresh, hresolution⟩

end Phrasebook.Session
