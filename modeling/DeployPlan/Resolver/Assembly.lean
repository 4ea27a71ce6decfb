import DeployPlan.Resolver.Chain

/-!
# The order of image sources

The local runtime is asked first, then the platform, then the registry; those that are not available
are left out.
-/

namespace DeployPlan.Resolver

variable {m : Type → Type} [Monad m]

/-- The confidence in each of the three sources. -/
def localWeight : Rat := 1

def platformWeight : Rat := 3 / 4

def registryWeight : Rat := 1 / 2

/-- The sources that are available, in their order. -/
def available (localRuntime platform registry : Option (Resolver m)) : List (WeightedResolver m) :=
  [(localRuntime, localWeight), (platform, platformWeight), (registry, registryWeight)].filterMap
    fun (resolver, weight) => resolver.map (⟨·, weight⟩)

end DeployPlan.Resolver
