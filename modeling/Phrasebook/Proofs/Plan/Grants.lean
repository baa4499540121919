import Phrasebook.Plan

/-!
# What grants leave uncovered

Before a plan is carried out, its tools are compared with what the caller was granted. Whatever the
comparison overlooks is called without a grant, so it has to look at both places that name tools:
the declaration and the calls. The two need not agree. A plan that was made from an alias declares
all that it calls, but a plan may also have been read from a file.

Nothing depends on how globs match. The matching is a parameter here, of which one thing is known:
a glob that is not well formed admits nothing.
-/

namespace Phrasebook

/-- A glob that is not well formed admits nothing. -/
theorem Glob.admits_of_parse?_eq_none {pattern : String} (h : parse? pattern = none)
    (value : String) : admits pattern value = false := by
  rw [admits, h]

namespace Plan

/-- The plan declares the tool or calls it. -/
def Needs (plan : Plan) (tool : String) : Prop :=
  tool ∈ plan.toolsRequired ∨ ∃ call ∈ plan.invocations, call.tool = tool

theorem mem_neededTools_iff {plan : Plan} {tool : String} :
    tool ∈ plan.neededTools ↔ plan.Needs tool := by
  rw [neededTools, NameSet.mem_insertAll, tools, List.mem_map, or_comm, Needs]

/-- The tools that the plan needs and that none of the grants admits, for grants that match as
given. -/
def missingToolsWith (admits : String → String → Bool) (plan : Plan) (grants : List String) :
    NameSet :=
  plan.neededTools.filter fun tool ↦ !grants.any fun grant ↦ admits grant tool

theorem missingToolsWith_admits (plan : Plan) (grants : List String) :
    plan.missingToolsWith Glob.admits grants = plan.missingTools grants := rfl

section

variable {admits : String → String → Bool} {plan : Plan} {grants others : List String}

theorem mem_missingToolsWith_iff {tool : String} :
    tool ∈ plan.missingToolsWith admits grants ↔
      plan.Needs tool ∧ ¬∃ grant ∈ grants, admits grant tool = true := by
  rw [missingToolsWith, NameSet.mem_filter, mem_neededTools_iff, Bool.not_eq_true',
    ← Bool.not_eq_true, List.any_eq_true]

theorem missingToolsWith_eq_empty_iff :
    plan.missingToolsWith admits grants = ∅ ↔
      ∀ tool, plan.Needs tool → ∃ grant ∈ grants, admits grant tool = true := by
  simp only [NameSet.eq_empty_iff, mem_missingToolsWith_iff, not_and, Classical.not_not]

/-- More grants leave what both of their parts leave. -/
theorem missingToolsWith_append :
    plan.missingToolsWith admits (grants ++ others) =
      (plan.missingToolsWith admits grants).inter (plan.missingToolsWith admits others) := by
  refine NameSet.ext fun tool ↦ ?_
  simp only [NameSet.mem_inter, mem_missingToolsWith_iff, List.mem_append, or_and_right, exists_or,
    not_or]
  exact and_and_left

variable (hreject : ∀ grant, Glob.parse? grant = none → ∀ tool, admits grant tool = false)

include hreject

/-- Only which of the grants are well formed matters, and of these only which there are. -/
theorem missingToolsWith_congr
    (h : ∀ grant, Glob.parse? grant ≠ none → (grant ∈ grants ↔ grant ∈ others)) :
    plan.missingToolsWith admits grants = plan.missingToolsWith admits others := by
  have hformed : ∀ {grant tool}, admits grant tool = true → Glob.parse? grant ≠ none := by
    intro grant tool hadmits hnone
    rw [hreject grant hnone tool] at hadmits
    cases hadmits
  refine NameSet.ext fun tool ↦ ?_
  simp only [mem_missingToolsWith_iff]
  refine and_congr_right fun _ ↦ not_congr (exists_congr fun grant ↦ ?_)
  exact and_congr_left fun hadmits ↦ h grant (hformed hadmits)

/-- **The comparison with grants overlooks nothing and makes nothing up.** It lists, in strictly
ascending order, exactly the tools that the plan declares or calls and that no grant admits, so it
lists none exactly if every such tool is admitted. What two lists of grants leave together is what
both leave. The order of the grants and their repetition make no difference, and neither does a
glob that is not well formed.

The matching of globs may be any that rejects those that are not well formed. The last two parts say
which one the program takes, and that it is such a matching. -/
theorem missingToolsWith_sound (plan : Plan) :
    (∀ grants names, names = (plan.missingToolsWith admits grants).toList ↔
      names.Pairwise (· < ·) ∧ ∀ tool, tool ∈ names ↔
        (tool ∈ plan.toolsRequired ∨ ∃ call ∈ plan.invocations, call.tool = tool) ∧
          ¬∃ grant ∈ grants, admits grant tool = true) ∧
    (∀ grants, plan.missingToolsWith admits grants = ∅ ↔
      (∀ tool ∈ plan.toolsRequired, ∃ grant ∈ grants, admits grant tool = true) ∧
        ∀ call ∈ plan.invocations, ∃ grant ∈ grants, admits grant call.tool = true) ∧
    (∀ grants others, plan.missingToolsWith admits (grants ++ others) =
      (plan.missingToolsWith admits grants).inter (plan.missingToolsWith admits others)) ∧
    (∀ grants others, (∀ grant, grant ∈ grants ↔ grant ∈ others) →
      plan.missingToolsWith admits grants = plan.missingToolsWith admits others) ∧
    (∀ before after grant, Glob.parse? grant = none →
      plan.missingToolsWith admits (before ++ grant :: after) =
        plan.missingToolsWith admits (before ++ after)) ∧
    (∀ grants, plan.missingToolsWith Glob.admits grants = plan.missingTools grants) ∧
    ∀ grant, Glob.parse? grant = none → ∀ tool, Glob.admits grant tool = false := by
  refine ⟨fun grants names ↦ ?_, fun grants ↦ ?_, fun grants others ↦ missingToolsWith_append,
    fun grants others h ↦ ?_, fun before after grant hnone ↦ ?_, missingToolsWith_admits plan,
    fun grant ↦ Glob.admits_of_parse?_eq_none⟩
  · simp only [NameSet.eq_toList_iff, mem_missingToolsWith_iff, Needs]
  · rw [missingToolsWith_eq_empty_iff]
    simp [Needs, or_imp, forall_and]
  · exact missingToolsWith_congr hreject fun grant _ ↦ h grant
  · refine missingToolsWith_congr hreject fun other hformed ↦ ?_
    have hne : other ≠ grant := by
      rintro rfl
      exact hformed hnone
    simp [hne]

end

/-- The plan calls a tool that it does not declare, and one of the grants is not well formed. -/
theorem missingToolsWith_sound_of_undeclared :
    let plan : Plan :=
      { invocations := [{ tool := "crm:find" }, { tool := "calendar:sync" }]
        toolsRequired := NameSet.ofList ["notes:add", "crm:find"] }
    (∀ grant, Glob.parse? grant = none → ∀ tool, Glob.admits grant tool = false) ∧
    Glob.parse? "[calendar" = none ∧
    plan.missingToolsWith Glob.admits ["[calendar", "crm:*"] =
      plan.missingToolsWith Glob.admits ["crm:*"] ∧
    (plan.missingTools ["crm:*"]).toList = ["calendar:sync", "notes:add"] ∧
    plan.missingToolsWith Glob.admits ["crm:*", "[!x]*"] = ∅ := by
  intro plan
  have hreject : ∀ grant, Glob.parse? grant = none → ∀ tool, Glob.admits grant tool = false :=
    fun grant ↦ Glob.admits_of_parse?_eq_none
  have hnone : Glob.parse? "[calendar" = none := by decide +kernel
  obtain ⟨-, hcovered, -, -, hinvalid, -⟩ := missingToolsWith_sound hreject plan
  refine ⟨hreject, hnone, hinvalid [] ["crm:*"] "[calendar" hnone, by decide +kernel, ?_⟩
  exact (hcovered _).mpr (by decide +kernel)

end Plan

end Phrasebook
