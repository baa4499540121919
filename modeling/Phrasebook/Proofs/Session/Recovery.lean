import Phrasebook.Proofs.Session.History

/-!
# Failed loads do no harm

A load that fails costs the session nothing: what it keeps is what it kept before, and it goes on
asking the store until the store works again. Meanwhile it answers from the last snapshot that it
got, and says so, if there is one and policy allows it.

## Staying due

All of this rests on one fact. A session whose snapshot is due stays due, under the same version,
until a load succeeds (`isDue_run`): time only makes the snapshot older, and a call that fails to
replace it leaves everything as it was. So no call in between can be answered without a load.
-/

namespace Phrasebook

/-- Whether an outcome says that an old snapshot served. A refresh hands out a snapshot and does
not say. -/
def Outcome.degraded : Outcome → Bool
  | .served found => found.degraded
  | .answered answer => answer.degraded
  | _ => false

theorem Step.degraded_outcomeFrom (policy : Policy) (served : Served) {call : Step}
    (h : call.isCall = true) :
    (call.outcomeFrom policy served).degraded = true ↔
      call ≠ .refresh ∧ served.degraded = true := by
  cases call with
  | refresh => simp [outcomeFrom, Outcome.degraded]
  | current => simp [outcomeFrom, Outcome.degraded]
  | execute request scope => simp [outcomeFrom, Outcome.degraded]
  | _ => cases h

theorem Step.outcomeFrom_ne_failed (policy : Policy) (served : Served) (error : StoreError)
    {call : Step} (h : call.isCall = true) : call.outcomeFrom policy served ≠ .failed error := by
  cases call with
  | refresh | current | execute => exact Outcome.noConfusion
  | _ => cases h

namespace Session

/-! ## Failed loads -/

theorem contents_eq_error_iff {store : Store} {error : StoreError} :
    store.contents = .error error ↔ store.fault = some error := by
  rw [Store.contents]
  cases store.fault with
  | none => simp
  | some fault => simp

/-- Of the ways a call can go, the one where its load fails. -/
theorem of_loadedBy_eq_error {session : Session} {call : Step} {error : StoreError}
    (h : session.loadedBy call = some (.error error)) :
    call.isCall = true ∧ session.store.fault = some error ∧
      (session.step call).1 =
        call.outcomeOf session.policy (session.cache.fallback session.policy error) ∧
      (session.step call).2.cache = (session.atCall call).cache ∧
      (session.step call).2.isDue = true := by
  cases hcall : call.isCall with
  | false =>
    rw [session.loadedBy_of_not_isCall hcall] at h
    cases h
  | true =>
    rcases session.call_cases hcall with
      ⟨hnone, -⟩ | ⟨aliases, hloaded, -⟩ | ⟨other, hloaded, hcontents, hdue, houtcome, hcache⟩
    · rw [hnone] at h
      cases h
    · rw [hloaded] at h
      cases h
    · rw [hloaded] at h
      cases h
      obtain ⟨hpolicy, hnow, -⟩ := session.frame_of_isCall hcall
      refine ⟨rfl, contents_eq_error_iff.mp hcontents, houtcome, hcache, ?_⟩
      rwa [isDue, hcache, hpolicy, hnow, ← session.policy_atCall call, ← session.now_atCall call]

/-! ## Staying due -/

theorem isExpired_mono {policy : Policy} {age older : Nat} (h : age ≤ older)
    (hage : policy.isExpired age = true) : policy.isExpired older = true := by
  rw [Policy.isExpired] at hage ⊢
  cases hinterval : policy.refreshInterval with
  | none =>
    rw [hinterval] at hage
    cases hage
  | some interval =>
    rw [hinterval] at hage
    exact decide_eq_true (Nat.le_trans (of_decide_eq_true hage) h)

theorem isDue_elapse {session : Session} (h : session.isDue = true) (time : Nat) :
    (session.step (.elapse time)).2.isDue = true := by
  rw [isDue_iff] at h ⊢
  intro cached hcached
  have hold := h cached hcached
  rw [Cached.isDue, Bool.or_eq_true] at hold ⊢
  exact hold.imp_right (isExpired_mono (Nat.sub_le_sub_right (Nat.le_add_right _ time) _))

/-- A step that does not bring a new snapshot leaves a session due, and its version as it is. -/
theorem isDue_step {session : Session} (h : session.isDue = true) {step : Step}
    (hstep : ∀ aliases, session.loadedBy step ≠ some (.ok aliases)) :
    (session.step step).2.isDue = true ∧
      (session.step step).2.cache.version = session.cache.version := by
  cases hcall : step.isCall with
  | true =>
    rcases session.call_cases hcall with
      ⟨-, hkept, -⟩ | ⟨aliases, hloaded, -⟩ | ⟨error, hloaded, -⟩
    -- a session that is due never answers from what it keeps
    · exact absurd hkept (by simp [h])
    · exact absurd hloaded (hstep aliases)
    · obtain ⟨-, -, -, hcache, hdue⟩ := of_loadedBy_eq_error hloaded
      exact ⟨hdue, by rw [hcache, version_atCall]⟩
  | false =>
    cases step with
    | elapse time => exact ⟨isDue_elapse h time, rfl⟩
    | invalidate => exact ⟨session.isDue_invalidate, rfl⟩
    | refresh | current | execute => cases hcall
    | _ => exact ⟨h, rfl⟩

/-- **A session stays due until a load succeeds.** -/
theorem isDue_run {session : Session} (h : session.isDue = true) {steps : List Step} :
    ∀ {first : Nat}, session.successes first steps = [] →
      (session.run steps).isDue = true ∧
        (session.run steps).cache.version = session.cache.version := by
  induction steps generalizing session with
  | nil => exact fun _ ↦ ⟨h, rfl⟩
  | cons step steps ih =>
    intro first hnone
    have hstep : ∀ aliases, session.loadedBy step ≠ some (.ok aliases) := by
      intro aliases hloaded
      rw [successes_cons_of_ok hloaded] at hnone
      cases hnone
    rw [successes_cons_of_not_ok hstep] at hnone
    obtain ⟨hdue, hversion⟩ := isDue_step h hstep
    rw [run_cons, ← hversion]
    exact ih hdue hnone

/-! ## Outages -/

theorem fault_step {session : Session} (h : session.store.fault ≠ none) {step : Step}
    (hstep : step ≠ .recover) : (session.step step).2.store.fault ≠ none := by
  cases hcall : step.isCall with
  | true =>
    rw [(session.frame_of_isCall hcall).2.2]
    exact h
  | false =>
    cases step with
    | fail error => exact Option.some_ne_none error
    | recover => exact absurd rfl hstep
    | refresh | current | execute => cases hcall
    | _ => exact h

theorem loadedBy_ne_ok_of_fault {session : Session} (h : session.store.fault ≠ none) (step : Step)
    (aliases : List Alias) : session.loadedBy step ≠ some (.ok aliases) := by
  obtain ⟨error, hfault⟩ := Option.ne_none_iff_exists'.mp h
  rw [loadedBy, contents_eq_error_iff.mpr hfault]
  split
  · exact (Option.some_ne_none _).symm
  · exact fun hload ↦ by cases hload

/-- No load succeeds before the store recovers. -/
theorem successes_eq_nil_of_fault {session : Session} (h : session.store.fault ≠ none)
    {steps : List Step} (hsteps : ∀ step ∈ steps, step ≠ .recover) :
    ∀ first : Nat, session.successes first steps = [] := by
  induction steps generalizing session with
  | nil => exact fun _ ↦ rfl
  | cons step steps ih =>
    intro first
    rw [successes_cons_of_not_ok (loadedBy_ne_ok_of_fault h step)]
    exact ih (fault_step h (hsteps step List.mem_cons_self))
      (fun other hother ↦ hsteps other (List.mem_cons_of_mem step hother)) (first + 1)

theorem successes_eq_nil_of_not_isCall {session : Session} {steps : List Step}
    (hsteps : ∀ step ∈ steps, step.isCall = false) :
    ∀ first : Nat, session.successes first steps = [] := by
  induction steps generalizing session with
  | nil => exact fun _ ↦ rfl
  | cons step steps ih =>
    intro first
    have hnone := session.loadedBy_of_not_isCall (hsteps step List.mem_cons_self)
    rw [successes_cons_of_not_ok (by rw [hnone]; simp)]
    exact ih (fun other hother ↦ hsteps other (List.mem_cons_of_mem step hother)) (first + 1)

/-! ## What a failed load leaves behind -/

/-- A call whose load fails does no harm. Here `loads` are the loads that succeeded before it. -/
structure Withstands (session : Session) (loads : List Load) (call : Step) (error : StoreError) :
    Prop where
  /-- The snapshot that is kept, and its age, are as before. -/
  kept : (session.step call).2.cache.cached.map (fun cached ↦ (cached.snapshot, cached.loadedAt)) =
    session.cache.cached.map fun cached ↦ (cached.snapshot, cached.loadedAt)
  version : (session.step call).2.cache.version = session.cache.version
  due : (session.step call).2.isDue = true
  /-- The failure is passed on exactly when there is nothing to answer from. -/
  failed : (session.step call).1 = .failed error ↔
    session.cache.cached = none ∨ session.policy.serveStale = false
  retryable : error.isRetryable = true ↔
    ∃ reason, session.store.fault = some (.unavailable reason)
  /-- Otherwise the snapshot of the last load that succeeded answers, and is called degraded. -/
  degraded : session.cache.cached ≠ none → session.policy.serveStale = true →
    ∃ cached load, session.cache.cached = some cached ∧ loads.getLast? = some load ∧
      cached.snapshot = Snapshot.build (.ofNat loads.length) load.aliases ∧
      (session.step call).1 = call.outcomeFrom session.policy ⟨cached.snapshot, true⟩
  /-- No load succeeds until the store recovers and a call is made. -/
  outage : ∀ outage idle, (∀ step ∈ outage, step ≠ .recover) →
    (∀ step ∈ idle, step.isCall = false) → (session.step call).2.successes 0 (outage ++ idle) = []
  /-- Until a load succeeds, every call loads the store. -/
  retries : ∀ later, (session.step call).2.successes 0 later = [] → ∀ again, again.isCall = true →
    ((session.step call).2.run later).loadedBy again =
      some ((session.step call).2.run later).store.contents
  /-- The first call whose load succeeds is answered from the new snapshot, which has the next
  version and is not called degraded. -/
  recovers : ∀ later, (session.step call).2.successes 0 later = [] → ∀ again, again.isCall = true →
    ∀ aliases, ((session.step call).2.run later).store.contents = .ok aliases →
      (((session.step call).2.run later).step again).1 = again.outcomeFrom session.policy
        ⟨Snapshot.build (.ofNat (loads.length + 1)) aliases, false⟩

theorem kept_atCall (session : Session) (call : Step) :
    (session.atCall call).cache.cached.map (fun cached ↦ (cached.snapshot, cached.loadedAt)) =
      session.cache.cached.map fun cached ↦ (cached.snapshot, cached.loadedAt) := by
  cases call with
  | refresh =>
    rw [atCall, invalidate, Cache.invalidate, Option.map_map]
    rfl
  | _ => rfl

theorem isRetryable_iff (error : StoreError) :
    error.isRetryable = true ↔ ∃ reason, error = .unavailable reason := by
  cases error with
  | unavailable reason => exact iff_of_true rfl ⟨reason, rfl⟩
  | malformed reason => exact iff_of_false Bool.false_ne_true (by rintro ⟨_, ⟨⟩⟩)

/-- A call that is made while a session is due loads the store, and when that succeeds it is
answered from the new snapshot. -/
theorem loadedBy_of_isDue {session : Session} (h : session.isDue = true) {call : Step}
    (hcall : call.isCall = true) :
    session.loadedBy call = some session.store.contents ∧
      ∀ aliases, session.store.contents = .ok aliases →
        (session.step call).1 = call.outcomeFrom session.policy
          ⟨Snapshot.build (session.cache.version + 1) aliases, false⟩ := by
  rcases session.call_cases hcall with
    ⟨-, hkept, -⟩ | ⟨aliases, hloaded, hcontents, -, houtcome, -⟩ | ⟨error, hloaded, hcontents, -⟩
  · exact absurd hkept (by simp [h])
  · refine ⟨by rw [hloaded, hcontents], fun others hothers ↦ ?_⟩
    rw [hcontents] at hothers
    rw [houtcome, Except.ok.inj hothers]
  · refine ⟨by rw [hloaded, hcontents], fun others hothers ↦ ?_⟩
    rw [hcontents] at hothers
    cases hothers

theorem failed_iff {session : Session} {call : Step} {error : StoreError}
    (h : session.loadedBy call = some (.error error)) :
    (session.step call).1 = .failed error ↔
      session.cache.cached = none ∨ session.policy.serveStale = false := by
  obtain ⟨hcall, -, houtcome, -⟩ := of_loadedBy_eq_error h
  rw [houtcome]
  rcases fallback_cases session.cache session.policy error with
    ⟨hserve, cached, hcached, hfallback⟩ | ⟨hunable, hfallback⟩
  · rw [hfallback]
    refine iff_of_false (call.outcomeFrom_ne_failed session.policy _ error hcall) ?_
    rintro (hnone | hrefuse)
    · exact absurd hnone (by simp [hcached])
    · exact absurd hrefuse (by simp [hserve])
  · rw [hfallback]
    exact iff_of_true rfl hunable

/-- A session that keeps to the invariant withstands every failed load. -/
theorem withstands_of_follows {session : Session} {steps : List Step} {loads : List Load}
    (hfollows : session.cache.Follows steps loads) {call : Step} {error : StoreError}
    (h : session.loadedBy call = some (.error error)) : session.Withstands loads call error := by
  obtain ⟨hcall, hfault, houtcome, hcache, hdue⟩ := of_loadedBy_eq_error h
  have hversion : (session.step call).2.cache.version = session.cache.version := by
    rw [hcache, version_atCall]
  have hstill : (session.step call).2.store.fault ≠ none := by
    rw [(session.frame_of_isCall hcall).2.2, hfault]
    exact Option.some_ne_none error
  exact
    { kept := by rw [hcache, kept_atCall]
      version := hversion
      due := hdue
      failed := failed_iff h
      retryable := by
        rw [isRetryable_iff, hfault]
        simp only [Option.some_inj]
      degraded := by
        intro hcached hserve
        rcases fallback_cases session.cache session.policy error with
          ⟨-, cached, hfound, hfallback⟩ | ⟨hnone | hrefuse, -⟩
        · obtain ⟨load, hlast, hsnapshot, -⟩ := hfollows.cached cached hfound
          rw [hfollows.version] at hsnapshot
          exact ⟨cached, load, hfound, hlast, hsnapshot, by rw [houtcome, hfallback]; rfl⟩
        · exact absurd hnone hcached
        · exact absurd hrefuse (by simp [hserve])
      outage := by
        intro outage idle houtage hidle
        rw [successes_append, successes_eq_nil_of_fault hstill houtage,
          successes_eq_nil_of_not_isCall hidle, List.append_nil]
      retries := by
        intro later hlater again hagain
        exact (loadedBy_of_isDue (isDue_run hdue hlater).1 hagain).1
      recovers := by
        intro later hlater again hagain aliases hcontents
        -- no version was used up in between, so the next one is still the next one
        obtain ⟨hstilldue, hsame⟩ := isDue_run hdue hlater
        rw [(loadedBy_of_isDue hstilldue hagain).2 aliases hcontents, hsame, hversion,
          hfollows.version, policy_run, policy_step, UInt64.ofNat_add]
        rfl }

theorem not_degraded_of_not_isCall (session : Session) {step : Step} (h : step.isCall = false) :
    (session.step step).1.degraded = false := by
  cases step with
  | refresh | current | execute => cases h
  | _ => rfl

/-- An outcome is called degraded when a load failed and the old snapshot served, and only then. -/
theorem degraded_step_iff (session : Session) (step : Step) :
    (session.step step).1.degraded = true ↔
      step ≠ .refresh ∧ session.cache.cached ≠ none ∧ session.policy.serveStale = true ∧
        ∃ error, session.loadedBy step = some (.error error) := by
  by_cases hfailed : ∃ error, session.loadedBy step = some (.error error)
  · obtain ⟨error, hloaded⟩ := hfailed
    obtain ⟨hcall, -, houtcome, -⟩ := of_loadedBy_eq_error hloaded
    rw [houtcome]
    rcases fallback_cases session.cache session.policy error with
      ⟨hserve, cached, hcached, hfallback⟩ | ⟨hunable, hfallback⟩
    · rw [hfallback, Step.outcomeOf, Step.degraded_outcomeFrom _ _ hcall]
      refine and_congr_right fun _ ↦ iff_of_true rfl ⟨?_, hserve, error, hloaded⟩
      rw [hcached]
      exact Option.some_ne_none cached
    · rw [hfallback]
      refine iff_of_false Bool.false_ne_true ?_
      rintro ⟨-, hcached, hserve, -⟩
      rcases hunable with hnone | hrefuse
      · exact hcached hnone
      · exact absurd hrefuse (by simp [hserve])
  · refine iff_of_false ?_ fun h ↦ hfailed h.2.2.2
    cases hcall : step.isCall with
    | false =>
      rw [session.not_degraded_of_not_isCall hcall]
      exact Bool.false_ne_true
    | true =>
      rcases session.call_cases hcall with
        ⟨-, -, cached, -, -, -, houtcome, -⟩ | ⟨aliases, -, -, -, houtcome, -⟩ |
        ⟨error, hloaded, -⟩
      · rw [houtcome, Step.degraded_outcomeFrom _ _ hcall]
        exact fun h ↦ Bool.false_ne_true h.2
      · rw [houtcome, Step.degraded_outcomeFrom _ _ hcall]
        exact fun h ↦ Bool.false_ne_true h.2
      · exact absurd ⟨error, hloaded⟩ hfailed

/-- **A failed load is harmless.** -/
theorem withstands_failed_load (policy : Policy) (store : Store) (now : Nat) (steps : List Step)
    (call : Step) :
    ((((fresh policy store now).run steps).step call).1.degraded = true ↔
      call ≠ .refresh ∧ ((fresh policy store now).run steps).cache.cached ≠ none ∧
        policy.serveStale = true ∧
        ∃ error, ((fresh policy store now).run steps).loadedBy call = some (.error error)) ∧
    ∀ error, ((fresh policy store now).run steps).loadedBy call = some (.error error) →
      ((fresh policy store now).run steps).Withstands ((fresh policy store now).successes 0 steps)
        call error := by
  refine ⟨?_, fun error h ↦ withstands_of_follows (follows_run policy store now steps) h⟩
  have hdegraded := ((fresh policy store now).run steps).degraded_step_iff call
  rwa [policy_run] at hdegraded

/-- The store becomes unreachable while the only snapshot is declared stale. -/
theorem withstands_failed_load_of_outage :
    (((fresh {} {} 0).run [.push { pattern := "my tasks" }, .current, .invalidate,
      .fail (.unavailable "gone")]).step .current).1.degraded = true ∧
    ((fresh {} {} 0).run [.push { pattern := "my tasks" }, .current, .invalidate,
      .fail (.unavailable "gone")]).Withstands [⟨1, [{ pattern := "my tasks" }]⟩] .current
        (.unavailable "gone") := by
  obtain ⟨hdegraded, hwithstands⟩ := withstands_failed_load {} {} 0
    [.push { pattern := "my tasks" }, .current, .invalidate, .fail (.unavailable "gone")] .current
  exact ⟨hdegraded.mpr ⟨Step.noConfusion, Option.some_ne_none _, rfl, _, rfl⟩,
    hwithstands (.unavailable "gone") rfl⟩

end Session

end Phrasebook
