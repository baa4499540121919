import Phrasebook.Alias

/-!
# Scopes

A scope says on whose behalf a request is made: the layer of the caller and the circumstances that
hold. It decides which aliases take part in answering the request.
-/

namespace Phrasebook

/-- The layer of a caller and the circumstances that hold. -/
structure Scope where
  layer : String := publicLayer
  context : NameSet := ∅
deriving DecidableEq

instance : Inhabited Scope := ⟨{}⟩

namespace Scope

/-- The scope with one more circumstance. -/
def addContext (scope : Scope) (tag : String) : Scope :=
  { scope with context := scope.context.insert tag }

/-- The scope with more circumstances. -/
def addContexts (scope : Scope) (tags : List String) : Scope :=
  { scope with context := scope.context.insertAll tags }

/-- Whether aliases of `layer` are visible: everyone sees the public layer and their own. -/
def seesLayer (scope : Scope) (layer : String) : Bool :=
  layer == publicLayer || layer == scope.layer

end Scope

/-- Whether an alias takes part in answering: it is enabled, its layer is visible, and one of its
circumstances holds if it names any. -/
def Alias.isEligible (a : Alias) (scope : Scope) : Bool :=
  a.enabled && scope.seesLayer a.layer &&
    (a.context.isEmpty || !a.context.disjoint scope.context)

theorem Alias.seesLayer_of_isEligible {a : Alias} {scope : Scope} (h : a.isEligible scope = true) :
    scope.seesLayer a.layer = true := by
  rw [Alias.isEligible, Bool.and_eq_true, Bool.and_eq_true] at h
  exact h.1.2

end Phrasebook
