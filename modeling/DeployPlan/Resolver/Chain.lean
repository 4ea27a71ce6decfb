import DeployPlan.Image

/-!
# Resolving images

A resolver finds the image that a name stands for. `Resolver.chain` asks several resolvers one after
the other, until one knows the image or fails in a way that the next one cannot mend.
-/

namespace DeployPlan

/-- Finds images by name. -/
structure Resolver (m : Type → Type) where
  name : String
  resolve : String → ExceptT Error m Image

/-- A resolver with the confidence that is put into its answers. The order of a chain does not
depend on it. -/
structure WeightedResolver (m : Type → Type) where
  resolver : Resolver m
  weight : Rat

namespace Resolver

variable {m : Type → Type} [Monad m]

/-- The answer of the first resolver that has one. An error that is not skippable is an answer. -/
def firstAnswer (image : String) : List (Resolver m) → ExceptT Error m Image
  | [] => throw (.resolution image)
  | r :: rest => ExceptT.mk do
    match ← (r.resolve image).run with
    | .ok i => return .ok i
    | .error e => if e.isSkippable then (firstAnswer image rest).run else return .error e

/-- Several resolvers as one. A text that is no image name is refused before anybody is asked. -/
def chain (rs : List (WeightedResolver m)) : Resolver m where
  name := "chain"
  resolve image := do
    let _ ← ImageName.parse image
    firstAnswer image (rs.map (·.resolver))

end Resolver

end DeployPlan
