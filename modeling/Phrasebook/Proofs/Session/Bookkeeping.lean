import Phrasebook.Proofs.Session.History

/-!
# The books of a session

A session counts and records while it runs: the version of its snapshot, the loads of its store, and
the journal. What these say is compared here with what happened, for runs of any length in which the
store may fail at any time.

## Versions as numbers of loads

`History` knows which loads succeeded. The version is how many these are, and every answer reports
it. So versions number the loads: two answers with the same version come from the same load, and a
later answer never has a smaller one. Versions are 64-bit numbers, which has to be said where they
are compared.

## How many loads there can be

If no snapshot gets too old, a load needs a reason: that there is no snapshot yet, or that the one
there is was declared stale. Each reason serves once. The argument counts a snapshot without a mark
as one reason used up (`Cache.unmarked`), and then no step uses more reasons than it brings
(`successes_step_le`).
-/

namespace Phrasebook

/-! ## What is reported and recorded -/

/-- The version that an outcome reports. -/
def Outcome.version? : Outcome → Option UInt64
  | .refreshed snapshot => some snapshot.version
  | .served found => some found.snapshot.version
  | .answered answer => some answer.version
  | _ => none

/-- The event that a step leaves: one for a request that was answered, and else none. -/
def Step.event? : Step → Outcome → Option Event
  | .execute request scope, .answered answer => some
    { request := request
      layer := scope.layer
      context := scope.context.toList
      outcome := answer.resolution.label
      aliasIds := answer.resolution.aliasIds
      snapshotVersion := answer.version
      degraded := answer.degraded }
  | _, _ => none

theorem Step.event?_execute (request : String) (scope : Scope) (answer : Answer) :
    (execute request scope).event? (.answered answer) =
      some (Event.of request scope answer.resolution answer.version answer.degraded) := rfl

theorem Step.context_of_event? {step : Step} {outcome : Outcome} {event : Event}
    (h : step.event? outcome = some event) :
    ∃ scope : Scope, event.context = scope.context.toList := by
  rw [Step.event?.eq_def] at h
  split at h
  · rename_i request scope answer
    exact ⟨scope, by rw [← Option.some_inj.mp h]⟩
  · cases h

/-- Whether a step declares the snapshot stale. -/
def Step.marks : Step → Bool
  | .invalidate | .refresh => true
  | _ => false

/-- Whether there is a snapshot that was not declared stale. -/
def Cache.unmarked (cache : Cache) : Bool := cache.cached.any fun cached ↦ !cached.invalidated

theorem Step.version?_outcomeFrom (policy : Policy) (served : Served) {call : Step}
    (h : call.isCall = true) :
    (call.outcomeFrom policy served).version? = some served.snapshot.version := by
  cases call with
  | refresh | current | execute => rfl
  | _ => cases h

namespace Session

/-- The steps of a run with their outcomes. -/
def record (session : Session) (steps : List Step) : List (Step × Outcome) :=
  steps.zip ((session.trace steps).map (·.1))

/-- No snapshot that is kept during the steps gets too old. -/
def NeverExpires (session : Session) (steps : List Step) : Prop :=
  ∀ before, before <+: steps → ∀ cached, (session.run before).cache.cached = some cached →
    session.policy.isExpired ((session.run before).now - cached.loadedAt) = false

theorem trace_append_singleton (session : Session) (steps : List Step) (step : Step) :
    session.trace (steps ++ [step]) = session.trace steps ++ [(session.run steps).step step] := by
  induction steps generalizing session with
  | nil => rfl
  | cons first steps ih => rw [List.cons_append, trace, trace, ih, run_cons, List.cons_append]

theorem length_trace (session : Session) (steps : List Step) :
    (session.trace steps).length = steps.length := by
  induction steps generalizing session with
  | nil => rfl
  | cons first steps ih => rw [trace, List.length_cons, List.length_cons, ih]

theorem record_append_singleton (session : Session) (steps : List Step) (step : Step) :
    session.record (steps ++ [step]) =
      session.record steps ++ [(step, ((session.run steps).step step).1)] := by
  have hlength : steps.length = ((session.trace steps).map (·.1)).length := by
    rw [List.length_map, length_trace]
  rw [record, trace_append_singleton, List.map_append, List.zip_append hlength, record]
  rfl

theorem successes_append_singleton (session : Session) (steps : List Step) (step : Step) :
    session.successes 0 (steps ++ [step]) =
      session.successes 0 steps ++ (session.run steps).successes steps.length [step] := by
  rw [successes_append, Nat.zero_add]

/-! ## The journal -/

theorem journal_current (session : Session) : session.current.2.journal = session.journal := by
  rcases current_cases session with
    ⟨-, _, -, -, hcurrent⟩ | ⟨-, _, -, hcurrent⟩ | ⟨-, _, -, hcurrent⟩
  all_goals rw [hcurrent]

/-- **A step adds its event to the journal**, and nothing else. -/
theorem journal_step (session : Session) (step : Step) :
    (session.step step).2.journal =
      session.journal ++ (step.event? (session.step step).1).toList := by
  cases step with
  | refresh =>
    have hjournal : session.refresh.2.journal = session.journal := journal_current _
    rw [Session.step]
    rcases hrefresh : session.refresh with ⟨_ | served, after⟩
    all_goals
      rw [hrefresh] at hjournal
      exact hjournal.trans (List.append_nil _).symm
  | current =>
    have hjournal := session.journal_current
    rw [Session.step]
    rcases hcurrent : session.current with ⟨_ | served, after⟩
    all_goals
      rw [hcurrent] at hjournal
      exact hjournal.trans (List.append_nil _).symm
  | execute request scope =>
    have hjournal := session.journal_current
    rw [Session.step, execute]
    rcases hcurrent : session.current with ⟨_ | served, after⟩
    · rw [hcurrent] at hjournal
      exact hjournal.trans (List.append_nil _).symm
    · rw [hcurrent] at hjournal
      simp only [Step.event?_execute, Option.toList_some, ← hjournal]
  | _ => exact (List.append_nil _).symm

theorem journal_run (session : Session) (steps : List Step) :
    (session.run steps).journal =
      session.journal ++ (session.record steps).filterMap fun taken ↦ taken.1.event? taken.2 := by
  induction steps using List.reverseRecOn with
  | nil => exact (List.append_nil _).symm
  | append_singleton steps step ih =>
    rw [run_append, run_cons, run_nil, journal_step, ih, record_append_singleton,
      List.filterMap_append, List.append_assoc]
    congr 2

/-! ## Loads -/

theorem loads_current (session : Session) :
    session.current.2.store.loads = session.store.loads + session.isDue.toNat := by
  rcases current_cases session with
    ⟨hdue, _, -, -, hcurrent⟩ | ⟨hdue, _, -, hcurrent⟩ | ⟨hdue, _, -, hcurrent⟩
  all_goals
    rw [hcurrent, hdue]
    rfl

/-- A call loads the store once if the snapshot is due, and else not at all. -/
theorem loads_step_of_isCall (session : Session) {call : Step} (h : call.isCall = true) :
    (session.step call).2.store.loads =
      session.store.loads + (session.atCall call).isDue.toNat := by
  obtain ⟨-, journal, hafter⟩ := session.step_of_isCall h
  rw [hafter, loads_current, store_atCall]

theorem loads_step_of_not_isCall (session : Session) {step : Step} (h : step.isCall = false) :
    (session.step step).2.store.loads = session.store.loads := by
  cases step with
  | refresh | current | execute => cases h
  | _ => rfl

theorem loads_step_le (session : Session) (step : Step) :
    (session.step step).2.store.loads ≤ session.store.loads + 1 := by
  cases hcall : step.isCall with
  | false =>
    rw [session.loads_step_of_not_isCall hcall]
    exact Nat.le_succ _
  | true =>
    rw [session.loads_step_of_isCall hcall]
    exact Nat.add_le_add_left (Bool.toNat_le _) _

/-- A snapshot that serves saves the load. -/
theorem loads_step_of_serves {session : Session} {cached : Cached}
    (hcached : session.cache.cached = some cached) (hmark : cached.invalidated = false)
    (hage : session.policy.isExpired (session.now - cached.loadedAt) = false) {step : Step}
    (hstep : step ≠ .refresh) : (session.step step).2.store.loads = session.store.loads := by
  have hdue : session.isDue = false := by
    rw [isDue, Cache.serve?, hcached]
    simp [Cached.isDue, hmark, hage]
  cases hcall : step.isCall with
  | false => exact session.loads_step_of_not_isCall hcall
  | true => rw [session.loads_step_of_isCall hcall, session.atCall_of_ne_refresh hstep, hdue]; rfl

/-- A snapshot that is due without being too old was declared stale. -/
theorem unmarked_eq_false_of_isDue {session : Session} (hdue : session.isDue = true)
    (h : ∀ cached, session.cache.cached = some cached →
      session.policy.isExpired (session.now - cached.loadedAt) = false) :
    session.cache.unmarked = false := by
  rw [isDue_iff] at hdue
  rw [Cache.unmarked]
  cases hcached : session.cache.cached with
  | none => rfl
  | some cached =>
    have hmark := hdue cached hcached
    rw [Cached.isDue, h cached hcached, Bool.or_false] at hmark
    rw [Option.any_some, hmark, Bool.not_true]

/-- If the snapshot is not too old then a step that brings a new one has a reason: it declares the
snapshot stale itself, or there was none without a mark. -/
theorem successes_step_le {session : Session}
    (h : ∀ cached, session.cache.cached = some cached →
      session.policy.isExpired (session.now - cached.loadedAt) = false)
    (first : Nat) (step : Step) :
    (session.successes first [step]).length + session.cache.unmarked.toNat ≤
      step.marks.toNat + (session.step step).2.cache.unmarked.toNat := by
  have hle : session.cache.unmarked.toNat ≤ 1 := Bool.toNat_le _
  cases hcall : step.isCall with
  | false =>
    have hnone := session.loadedBy_of_not_isCall hcall
    rw [successes_singleton_of_not_ok (by rw [hnone]; simp), List.length_nil, Nat.zero_add]
    rcases session.cache_of_not_isCall hcall with ⟨-, hcache⟩ | ⟨rfl, -⟩
    · rw [hcache]
      exact Nat.le_add_left _ _
    · exact Nat.le_add_right_of_le hle
  | true =>
    rcases session.call_cases hcall with
      ⟨hnone, -, -, -, -, -, -, hcache⟩ | ⟨aliases, hloaded, -, hdue, -, hcache⟩ |
      ⟨error, hloaded, -, -, -, hcache⟩
    · rw [successes_singleton_of_not_ok (by rw [hnone]; simp), List.length_nil, Nat.zero_add,
        hcache]
      exact Nat.le_add_left _ _
    · -- the new snapshot has no mark, so the reason is there or was there before
      have hafter : (session.step step).2.cache.unmarked = true := by
        rw [hcache]
        rfl
      rw [successes_singleton_of_ok hloaded, hafter, List.length_singleton]
      by_cases hrefresh : step = .refresh
      · rw [hrefresh, Step.marks, Bool.toNat_true]
        omega
      · rw [session.atCall_of_ne_refresh hrefresh] at hdue
        rw [unmarked_eq_false_of_isDue hdue h, Bool.toNat_false, Bool.toNat_true]
        omega
    · rw [successes_singleton_of_not_ok (by rw [hloaded]; simp), List.length_nil, Nat.zero_add]
      by_cases hrefresh : step = .refresh
      · rw [hrefresh, Step.marks, Bool.toNat_true]
        exact Nat.le_add_right_of_le hle
      · rw [hcache, session.atCall_of_ne_refresh hrefresh]
        exact Nat.le_add_left _ _

/-- What `successes_step_le` says of each step, added up. -/
theorem length_successes_le {policy : Policy} {store : Store} {now : Nat} {steps : List Step}
    (h : (fresh policy store now).NeverExpires steps) :
    ((fresh policy store now).successes 0 steps).length ≤
      steps.countP Step.marks +
        ((fresh policy store now).run steps).cache.unmarked.toNat := by
  induction steps using List.reverseRecOn with
  | nil => exact Nat.zero_le _
  | append_singleton steps step ih =>
    have hearlier : (fresh policy store now).NeverExpires steps :=
      fun before hbefore ↦ h before (hbefore.trans (List.prefix_append steps [step]))
    have hage := h steps (List.prefix_append steps [step])
    rw [← policy_run (fresh policy store now) steps] at hage
    have hstep := successes_step_le hage steps.length step
    have hrest := ih hearlier
    rw [successes_append_singleton, List.length_append, run_append, run_cons, run_nil,
      List.countP_append, List.countP_singleton]
    cases hmarks : step.marks with
    | false =>
      rw [hmarks, Bool.toNat_false] at hstep
      rw [if_neg Bool.false_ne_true]
      omega
    | true =>
      rw [hmarks, Bool.toNat_true] at hstep
      rw [if_pos rfl]
      omega

/-! ## Reports -/

/-- The version is the number of the last load, and the outcome is that of a call answered from what
this load gave. -/
def Reports (policy : Policy) (loads : List Load) (call : Step) (outcome : Outcome)
    (version : UInt64) : Prop :=
  ∃ load degraded, loads.getLast? = some load ∧ version = .ofNat loads.length ∧
    outcome = call.outcomeFrom policy ⟨Snapshot.build version load.aliases, degraded⟩

theorem version?_of_not_isCall (session : Session) {step : Step} (h : step.isCall = false) :
    (session.step step).1.version? = none := by
  cases step with
  | refresh | current | execute => cases h
  | _ => rfl

/-- A snapshot that is kept reports the last load that succeeded. -/
theorem reports_of_cached {cache : Cache} {steps : List Step} {loads : List Load}
    (h : cache.Follows steps loads) {cached : Cached} (hcached : cache.cached = some cached)
    (policy : Policy) (call : Step) (degraded : Bool) :
    Reports policy loads call (call.outcomeFrom policy ⟨cached.snapshot, degraded⟩)
      cached.snapshot.version := by
  obtain ⟨load, hlast, hsnapshot, -⟩ := h.cached cached hcached
  have hversion : cached.snapshot.version = cache.version := by
    rw [hsnapshot, Snapshot.version_build]
  rw [hversion]
  exact ⟨load, degraded, hlast, h.version, by rw [hsnapshot]⟩

/-- **What a report is answered from.** It has the version and the aliases of the last load that
succeeded, that of the step included. -/
theorem reports_step {session : Session} {steps : List Step} {loads : List Load}
    (h : session.cache.Follows steps loads) {step : Step} {version : UInt64}
    (hversion : (session.step step).1.version? = some version) :
    Reports session.policy (loads ++ session.successes steps.length [step]) step
      (session.step step).1 version := by
  have hcall : step.isCall = true := by
    by_contra hidle
    rw [session.version?_of_not_isCall (Bool.not_eq_true _ ▸ hidle)] at hversion
    cases hversion
  have hanswer : ∀ served : Served,
      (session.step step).1 = step.outcomeFrom session.policy served →
        served.snapshot.version = version := by
    intro served houtcome
    rw [houtcome, Step.version?_outcomeFrom _ _ hcall] at hversion
    exact Option.some_inj.mp hversion
  rcases session.call_cases hcall with
    ⟨hnone, -, cached, hcached, -, -, houtcome, -⟩ | ⟨aliases, hloaded, -, -, houtcome, -⟩ |
    ⟨error, hloaded, -, -, houtcome, -⟩
  · rw [successes_singleton_of_not_ok (by rw [hnone]; simp), List.append_nil, houtcome,
      ← hanswer _ houtcome]
    exact reports_of_cached h hcached session.policy step false
  · -- the cache after the load knows the new snapshot
    have hne : step ≠ .invalidate := by rintro rfl; cases hcall
    rw [successes_singleton_of_ok hloaded, houtcome, ← hanswer _ houtcome]
    exact reports_of_cached (h.renew hne session.now aliases) rfl session.policy step false
  · rw [successes_singleton_of_not_ok (by rw [hloaded]; simp), List.append_nil]
    rcases fallback_cases session.cache session.policy error with
      ⟨-, cached, hcached, hfallback⟩ | ⟨-, hfallback⟩
    · rw [hfallback] at houtcome
      have hserved := hanswer ⟨cached.snapshot, true⟩ houtcome
      rw [houtcome, ← hserved]
      exact reports_of_cached h hcached session.policy step true
    · rw [houtcome, hfallback] at hversion
      cases hversion

/-- Reports number the loads that they come from, and later reports have no smaller numbers. -/
structure Numbers (policy : Policy) (loads : List Load) (taken : List (Step × Outcome)) :
    Prop where
  /-- The versions never decrease. -/
  ascending : (taken.filterMap (·.2.version?)).Pairwise (· ≤ ·)
  /-- Whatever reports a version was answered from the load with this number. -/
  answered : ∀ call outcome version, (call, outcome) ∈ taken → outcome.version? = some version →
    ∃ load degraded, 0 < version.toNat ∧ loads[version.toNat - 1]? = some load ∧
      outcome = call.outcomeFrom policy ⟨Snapshot.build version load.aliases, degraded⟩

theorem Numbers.append {policy : Policy} {loads : List Load} {taken : List (Step × Outcome)}
    (h : Numbers policy loads taken) (more : List Load) {step : Step} {outcome : Outcome}
    (hfits : (loads ++ more).length < UInt64.size)
    (hnew : ∀ version, outcome.version? = some version →
      Reports policy (loads ++ more) step outcome version) :
    Numbers policy (loads ++ more) (taken ++ [(step, outcome)]) := by
  have hnumber : ∀ version, outcome.version? = some version →
      version.toNat = (loads ++ more).length := by
    intro version hversion
    obtain ⟨-, -, -, hcount, -⟩ := hnew version hversion
    rw [hcount, UInt64.toNat_ofNat_of_lt' hfits]
  have hold : ∀ version ∈ taken.filterMap (·.2.version?), version.toNat ≤ loads.length := by
    intro version hmem
    obtain ⟨⟨call, found⟩, htaken, hversion⟩ := List.mem_filterMap.mp hmem
    obtain ⟨load, -, hpos, hload, -⟩ := h.answered call found version htaken hversion
    have hlt := (List.getElem?_eq_some_iff.mp hload).1
    omega
  constructor
  · rw [List.filterMap_append]
    refine List.pairwise_append.mpr ⟨h.ascending, ?_, ?_⟩
    · cases hversion : outcome.version? with
      | none => simp [hversion]
      | some version => simp [hversion]
    · intro earlier hearlier version hversion
      obtain ⟨⟨call, found⟩, htaken, hfound⟩ := List.mem_filterMap.mp hversion
      obtain ⟨-, rfl⟩ := Prod.mk.inj (List.mem_singleton.mp htaken)
      have hle := hold earlier hearlier
      rw [UInt64.le_iff_toNat_le, hnumber version hfound, List.length_append]
      exact Nat.le_add_right_of_le hle
  · intro call found version hmem hversion
    rcases List.mem_append.mp hmem with hbefore | hlast
    · obtain ⟨load, degraded, hpos, hload, hfound⟩ :=
        h.answered call found version hbefore hversion
      have hlt := (List.getElem?_eq_some_iff.mp hload).1
      refine ⟨load, degraded, hpos, ?_, hfound⟩
      rw [List.getElem?_append_left hlt, hload]
    · obtain ⟨rfl, rfl⟩ := Prod.mk.inj (List.mem_singleton.mp hlast)
      obtain ⟨load, degraded, hload, -, hfound⟩ := hnew version hversion
      rw [List.getLast?_eq_getElem?, ← hnumber version hversion] at hload
      have hlt := (List.getElem?_eq_some_iff.mp hload).1
      refine ⟨load, degraded, ?_, hload, hfound⟩
      rw [hnumber version hversion] at hlt ⊢
      omega

theorem numbers_run (policy : Policy) (store : Store) (now : Nat) (steps : List Step)
    (h : ((fresh policy store now).successes 0 steps).length < UInt64.size) :
    Numbers policy ((fresh policy store now).successes 0 steps)
      ((fresh policy store now).record steps) := by
  induction steps using List.reverseRecOn with
  | nil => exact ⟨List.Pairwise.nil, fun _ _ _ hmem ↦ absurd hmem List.not_mem_nil⟩
  | append_singleton steps step ih =>
    have hfollows := follows_run policy store now steps
    rw [successes_append_singleton] at h
    have hfewer : ((fresh policy store now).successes 0 steps).length < UInt64.size := by
      rw [List.length_append] at h
      omega
    rw [successes_append_singleton, record_append_singleton]
    apply (ih hfewer).append _ h
    intro version hversion
    have hload := reports_step hfollows hversion
    rwa [policy_run] at hload

/-! ## The books -/

/-- What the counters and the journal of a session say after some steps. -/
structure KeepsBooks (start : Session) (steps : List Step) : Prop where
  /-- The version counts the loads that succeeded. -/
  version : (start.run steps).cache.version = .ofNat (start.successes 0 steps).length
  /-- The snapshot that is kept has the version. -/
  kept : ∀ cached, (start.run steps).cache.cached = some cached →
    cached.snapshot.version = (start.run steps).cache.version
  /-- A call that is answered reports the number of the last load that succeeded, its own included,
  and is answered from what that one gave. -/
  reports : ∀ call version, ((start.run steps).step call).1.version? = some version →
    Reports start.policy (start.successes 0 (steps ++ [call])) call
      ((start.run steps).step call).1 version
  /-- While the loads can be counted with 64 bits, the versions that are reported never decrease,
  and each stands for the aliases of one load. -/
  numbers : (start.successes 0 steps).length < UInt64.size →
    Numbers start.policy (start.successes 0 steps) (start.record steps)
  /-- A step loads the store at most once, -/
  once : ∀ step, ((start.run steps).step step).2.store.loads ≤ (start.run steps).store.loads + 1
  /-- and not at all if a snapshot may serve and the step is no refresh. -/
  serves : ∀ cached, (start.run steps).cache.cached = some cached → cached.invalidated = false →
    start.policy.isExpired ((start.run steps).now - cached.loadedAt) = false →
    ∀ step, step ≠ .refresh →
      ((start.run steps).step step).2.store.loads = (start.run steps).store.loads
  /-- If no snapshot gets too old, every load but the first that succeeds has been asked for. -/
  bounded : start.NeverExpires steps →
    (start.successes 0 steps).length ≤ 1 + steps.countP Step.marks
  /-- The journal has the events of the requests that were answered, in order, and no others. -/
  journal : (start.run steps).journal =
    (start.record steps).filterMap fun taken ↦ taken.1.event? taken.2
  /-- Events list the circumstances of the caller in ascending order. -/
  sorted : ∀ event ∈ (start.run steps).journal, event.context.Pairwise (· < ·)

/-- **Every run of a fresh session keeps its books.** -/
theorem keepsBooks_run (policy : Policy) (store : Store) (now : Nat) (steps : List Step) :
    (fresh policy store now).KeepsBooks steps := by
  have hfollows := follows_run policy store now steps
  have hjournal := ((fresh policy store now).journal_run steps).trans (List.nil_append _)
  constructor
  case version => exact hfollows.version
  case kept =>
    intro cached hcached
    obtain ⟨load, -, hsnapshot, -⟩ := hfollows.cached cached hcached
    rw [hsnapshot, Snapshot.version_build]
  case reports =>
    intro call version hversion
    have hload := reports_step hfollows hversion
    rwa [← successes_append_singleton, policy_run] at hload
  case numbers => exact numbers_run policy store now steps
  case once => exact loads_step_le _
  case serves =>
    intro cached hcached hmark hage step hstep
    rw [← policy_run (fresh policy store now) steps] at hage
    exact loads_step_of_serves hcached hmark hage hstep
  case bounded =>
    intro hage
    have hle := length_successes_le hage
    have hone := Bool.toNat_le ((fresh policy store now).run steps).cache.unmarked
    omega
  case journal => exact hjournal
  case sorted =>
    intro event hevent
    rw [hjournal] at hevent
    obtain ⟨⟨step, outcome⟩, -, hevent⟩ := List.mem_filterMap.mp hevent
    obtain ⟨scope, hcontext⟩ := Step.context_of_event? hevent
    rw [hcontext]
    exact scope.context.ascending

/-- The store fails after the snapshot was declared stale, and is loaded again when it works. -/
def outage : List Step :=
  [.push { pattern := "my tasks" }, .current, .fail (.unavailable "gone"), .invalidate,
    .execute "my tasks" {}, .recover, .refresh, .execute "my tasks" {}]

/-- The failed load has no number, and the request during the outage is recorded all the same. -/
theorem keepsBooks_run_of_outage :
    ((fresh { refreshInterval := none } {} 0).run outage).cache.version = 2 ∧
    Numbers { refreshInterval := none }
      ((fresh { refreshInterval := none } {} 0).successes 0 outage)
      ((fresh { refreshInterval := none } {} 0).record outage) ∧
    ((fresh { refreshInterval := none } {} 0).successes 0 outage).length ≤ 1 + 2 ∧
    (((fresh { refreshInterval := none } {} 0).run outage).step .current).2.store.loads = 3 ∧
    (((fresh { refreshInterval := none } {} 0).run outage).journal.map fun event ↦
      (event.snapshotVersion, event.degraded)) = [(1, true), (2, false)] := by
  have hbooks := keepsBooks_run { refreshInterval := none } {} 0 outage
  have hage : (fresh { refreshInterval := none } {} 0).NeverExpires outage :=
    fun _ _ _ _ ↦ rfl
  have hfits : ((fresh { refreshInterval := none } {} 0).successes 0 outage).length <
      UInt64.size := by decide
  refine ⟨hbooks.version, hbooks.numbers hfits, hbooks.bounded hage, ?_, ?_⟩
  · exact hbooks.serves _ rfl rfl rfl .current Step.noConfusion
  · rw [hbooks.journal]
    rfl

end Session

end Phrasebook
