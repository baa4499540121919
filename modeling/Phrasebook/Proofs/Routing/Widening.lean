import Mathlib.Data.List.Sort
import Phrasebook.Proofs.Routing.Outcome

/-!
# Wider scopes

A caller may come to see more: a layer of their own beside the public one, and circumstances that
hold besides those that held before. Then every alias that took part in answering still does, and in
the same order; others may join them anywhere in between.

The newcomers may change the answer. One of them may win, and they count when keywords are weighed.
What they cannot do is to spoil it: a stage finds something as soon as one entry fits, so with more
entries it still does, unless an earlier stage has found something before it. No property of the
snapshot is needed for this, not even that its index agrees with its entries.
-/

namespace Phrasebook

/-! ## Scopes that see more -/

/-- The wide scope has the layer of the narrow one, unless that is the public one, and all of its
circumstances hold. -/
structure Scope.Within (narrow wide : Scope) : Prop where
  layer : narrow.layer = publicLayer ∨ narrow.layer = wide.layer
  context : ∀ tag ∈ narrow.context, tag ∈ wide.context

theorem Alias.isEligible_iff {scope : Scope} {a : Alias} :
    a.isEligible scope = true ↔ a.enabled = true ∧ scope.seesLayer a.layer = true ∧
      (a.context.isEmpty = true ∨ ∃ tag ∈ a.context, tag ∈ scope.context) := by
  rw [isEligible, Bool.and_eq_true, Bool.and_eq_true, and_assoc, Bool.or_eq_true,
    Bool.not_eq_true', NameSet.disjoint_eq_false_iff]

namespace Scope

variable {narrow wide : Scope}

theorem seesLayer_iff {scope : Scope} {layer : String} :
    scope.seesLayer layer = true ↔ layer = publicLayer ∨ layer = scope.layer := by
  rw [seesLayer, Bool.or_eq_true, beq_iff_eq, beq_iff_eq]

theorem Within.seesLayer (h : narrow.Within wide) {layer : String}
    (hsees : narrow.seesLayer layer = true) : wide.seesLayer layer = true := by
  rw [seesLayer_iff] at hsees ⊢
  rcases hsees with hpublic | hown
  · exact Or.inl hpublic
  · rw [hown]
    exact h.layer

theorem Within.isEligible (h : narrow.Within wide) {a : Alias}
    (ha : a.isEligible narrow = true) : a.isEligible wide = true := by
  rw [Alias.isEligible_iff] at ha ⊢
  obtain ⟨henabled, hsees, hcontext⟩ := ha
  refine ⟨henabled, h.seesLayer hsees, hcontext.imp_right ?_⟩
  rintro ⟨tag, htag, hholds⟩
  exact ⟨tag, htag, h.context tag hholds⟩

end Scope

/-! ## Entries that take part -/

namespace Snapshot

variable {narrow wide : Scope}

/-- More numbers, sorted, still have the fewer ones in their order. -/
theorem mergeSort_sublist {numbers more : List Nat} (h : numbers.Sublist more) :
    (numbers.mergeSort fun a b ↦ a ≤ b).Sublist (more.mergeSort fun a b ↦ a ≤ b) := by
  have hsorted : ∀ list : List Nat, (list.mergeSort fun a b ↦ a ≤ b).Pairwise (· ≤ ·) := by
    intro list
    have hmerged := @List.pairwise_mergeSort Nat (fun a b ↦ decide (a ≤ b))
      (fun a b c ↦ by simpa using Nat.le_trans) (fun a b ↦ by simpa using Nat.le_total a b) list
    exact hmerged.imp of_decide_eq_true
  refine List.sublist_of_subperm_of_pairwise ?_ (hsorted numbers) (hsorted more)
  exact ((List.mergeSort_perm numbers _).subperm.trans h.subperm).trans
    (List.mergeSort_perm more _).symm.subperm

theorem visiblePositions_sublist (snapshot : Snapshot) (h : narrow.Within wide) :
    (snapshot.visiblePositions narrow).Sublist (snapshot.visiblePositions wide) := by
  rw [visiblePositions, visiblePositions]
  apply mergeSort_sublist
  rcases h.layer with hpublic | hsame
  · rw [if_pos hpublic, List.append_nil]
    exact List.sublist_append_left _ _
  · rw [hsame]

/-- **Whoever takes part in a scope takes part in a wider one**, in the same order. -/
theorem eligible_sublist (snapshot : Snapshot) (h : narrow.Within wide) :
    (snapshot.eligible narrow).Sublist (snapshot.eligible wide) := by
  rw [eligible, eligible]
  refine (((snapshot.visiblePositions_sublist h).filterMap _).filter _).trans ?_
  exact List.monotone_filter_right _ fun entry hentry ↦ h.isEligible hentry

end Snapshot

/-! ## Outcomes with more entries -/

namespace Routing

variable {entries others : List Entry} {text : String} {limit : Nat}

theorem Hits.mono (hsub : entries ⊆ others) (h : Hits entries text) : Hits others text := by
  obtain ⟨entry, hentry, hmatch⟩ := h
  exact ⟨entry, hsub hentry, hmatch⟩

theorem HitsWhole.mono (hsub : entries ⊆ others) (h : HitsWhole entries text) :
    HitsWhole others text := ⟨h.1, h.2.mono hsub⟩

/-- A newcomer may have the form of the whole text, opener and all. -/
theorem HitsStripped.mono (hsub : entries ⊆ others) (h : HitsStripped entries text) :
    HitsWhole others text ∨ HitsStripped others text := by
  obtain ⟨htext, -, hne, hother, hhits⟩ := h
  by_cases hwhole : Hits others text
  · exact Or.inl ⟨htext, hwhole⟩
  · exact Or.inr ⟨htext, hwhole, hne, hother, hhits.mono hsub⟩

theorem Resembles.mono (hsub : entries ⊆ others) (h : Resembles entries text limit) :
    HitsWhole others text ∨ HitsStripped others text ∨ Resembles others text limit := by
  obtain ⟨htext, -, -, hlimit, entry, hentry, hshares⟩ := h
  by_cases hwhole : HitsWhole others text
  · exact Or.inl hwhole
  by_cases hstripped : HitsStripped others text
  · exact Or.inr (Or.inl hstripped)
  · exact Or.inr (Or.inr ⟨htext, hwhole, hstripped, hlimit, entry, hsub hentry, hshares⟩)

section

variable {request : String}

theorem kind?_route_eq_exact_iff :
    (route entries request limit).kind? = some .exact ↔ HitsWhole entries (Text.trim request) := by
  rcases route_cases entries request limit with
    ⟨hwhole, found, -, -, hroute⟩ | ⟨hstripped, found, -, -, hroute⟩ |
    ⟨hresembles, candidates, -, hroute⟩ | ⟨hwhole, -, -, hroute⟩
  · rw [hroute]
    exact iff_of_true rfl hwhole
  · rw [hroute]
    exact iff_of_false nofun fun hwhole ↦ hstripped.2.1 hwhole.2
  · rw [hroute]
    exact iff_of_false nofun hresembles.2.1
  · rw [hroute]
    exact iff_of_false nofun hwhole

theorem isMatch_route_iff :
    (route entries request limit).isMatch = true ↔
      HitsWhole entries (Text.trim request) ∨ HitsStripped entries (Text.trim request) := by
  rcases route_cases entries request limit with
    ⟨hwhole, found, -, -, hroute⟩ | ⟨hstripped, found, -, -, hroute⟩ |
    ⟨hresembles, candidates, -, hroute⟩ | ⟨hwhole, hstripped, -, hroute⟩
  · rw [hroute]
    exact iff_of_true rfl (Or.inl hwhole)
  · rw [hroute]
    exact iff_of_true rfl (Or.inr hstripped)
  · rw [hroute]
    exact iff_of_false nofun (not_or.mpr ⟨hresembles.2.1, hresembles.2.2.1⟩)
  · rw [hroute]
    exact iff_of_false nofun (not_or.mpr ⟨hwhole, hstripped⟩)

theorem route_ne_noMatch_iff :
    route entries request limit ≠ .noMatch ↔
      HitsWhole entries (Text.trim request) ∨ HitsStripped entries (Text.trim request) ∨
        Resembles entries (Text.trim request) limit := by
  rcases route_cases entries request limit with
    ⟨hwhole, found, -, -, hroute⟩ | ⟨hstripped, found, -, -, hroute⟩ |
    ⟨hresembles, candidates, -, hroute⟩ | ⟨hwhole, hstripped, hresembles, hroute⟩
  · rw [hroute]
    exact iff_of_true nofun (Or.inl hwhole)
  · rw [hroute]
    exact iff_of_true nofun (Or.inr (Or.inl hstripped))
  · rw [hroute]
    exact iff_of_true nofun (Or.inr (Or.inr hresembles))
  · rw [hroute]
    exact iff_of_false (fun h ↦ h rfl) (by simp [hwhole, hstripped, hresembles])

end

end Routing

namespace Snapshot

open Routing

/-- **A wider scope only adds routes.** Whoever takes part in a scope takes part in a wider one, in
the same order. So a request that is matched as it stands still is, one that is matched with or
without its opener still is in one of the two ways, and one that comes to anything at all does not
come to nothing. -/
theorem resolve_widened {narrow wide : Scope} (h : narrow.Within wide) (snapshot : Snapshot)
    (request : String) (limit : Nat) :
    let outcome := snapshot.resolve request narrow limit
    let widened := snapshot.resolve request wide limit
    (snapshot.eligible narrow).Sublist (snapshot.eligible wide) ∧
    (outcome.kind? = some .exact → widened.kind? = some .exact) ∧
    (outcome.isMatch = true → widened.isMatch = true) ∧
    (outcome ≠ .noMatch → widened ≠ .noMatch) := by
  intro outcome widened
  have hentries := snapshot.eligible_sublist h
  have hsub := hentries.subset
  refine ⟨hentries, fun hexact ↦ ?_, fun hmatch ↦ ?_, fun hsome ↦ ?_⟩
  · exact kind?_route_eq_exact_iff.mpr ((kind?_route_eq_exact_iff.mp hexact).mono hsub)
  · apply isMatch_route_iff.mpr
    rcases isMatch_route_iff.mp hmatch with hwhole | hstripped
    · exact Or.inl (hwhole.mono hsub)
    · exact hstripped.mono hsub
  · apply route_ne_noMatch_iff.mpr
    rcases route_ne_noMatch_iff.mp hsome with hwhole | hstripped | hresembles
    · exact Or.inl (hwhole.mono hsub)
    · exact (hstripped.mono hsub).imp_right Or.inl
    · exact hresembles.mono hsub

/-- The caller has a phrase of their own for the request with its opener, and it wins over the
public phrase that is found without it. -/
theorem resolve_widened_of_own_layer :
    let narrow : Scope := { context := NameSet.ofList ["desk"] }
    let wide : Scope := { layer := "own", context := NameSet.ofList ["desk", "travel"] }
    let snapshot := build 1 [{ pattern := "my tasks", context := NameSet.ofList ["desk"] },
      { pattern := "show me {x}", layer := "own", context := NameSet.ofList ["travel"] }]
    narrow.Within wide ∧
    (snapshot.resolve "Show me my tasks" narrow 3).kind? = some .exactStripped ∧
    (snapshot.resolve "Show me my tasks" wide 3).isMatch = true ∧
    (snapshot.resolve "Show me my tasks" wide 3).kind? = some .exact := by
  intro narrow wide snapshot
  have hwithin : narrow.Within wide := ⟨Or.inl rfl, by simp [narrow, wide]⟩
  obtain ⟨-, -, hmatch, -⟩ := resolve_widened hwithin snapshot "Show me my tasks" 3
  have hnarrow : (snapshot.resolve "Show me my tasks" narrow 3).isMatch = true := by
    decide +kernel
  refine ⟨hwithin, by decide +kernel, hmatch hnarrow, ?_⟩
  rw [resolve, (indexed_build 1 _).eligible_eq]
  decide +kernel

end Snapshot

end Phrasebook
