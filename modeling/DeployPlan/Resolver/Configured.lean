import DeployPlan.Config.Settings
import DeployPlan.Registry.Exchange
import DeployPlan.Resolver.Assembly
import DeployPlan.Resolver.Cluster
import DeployPlan.Resolver.Docker

/-!
# Image sources by configuration

`Resolver.configured` makes the image sources that the settings ask for. One that is wanted but not
at hand is left out, and so is a registry whose address is unusable.
-/

namespace DeployPlan

/-- Whom the image sources can ask. -/
structure Backends (m : Type → Type) where
  /-- The daemon of the local runtime, if there is one. -/
  daemon : Option (HttpClient m)
  /-- The platform, if it is known how to reach it. -/
  cluster : Option (HttpClient m)
  /-- All other servers. -/
  network : HttpClient m

variable {m : Type → Type} [Monad m]

/-- The image sources that the settings ask for, in their order. -/
def Resolver.configured (b : Backends m) (c : Config) : List (WeightedResolver m) :=
  Resolver.available
    (if c.sources.docker then b.daemon.map .docker else none)
    (if c.sources.cluster then
      b.cluster.map fun api =>
        .imageStream (.ofCluster api) (ImageStream.projects c.project c.sharedProject)
    else none)
    (c.sources.registry.bind fun address =>
      (RegistryServer.ofAddress address).toOption.map fun server =>
        .registry (.overHttp b.network server))

end DeployPlan
