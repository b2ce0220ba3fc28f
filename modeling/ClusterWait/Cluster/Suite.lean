import ClusterWait.Cluster.Infrastructure
import ClusterWait.Provider
import ClusterWait.Settings

/-! # Suites

What every test needs to know: the platform of the cluster, which is asked for once, and the
settings. -/

namespace ClusterWait

/-- **The platform and the settings of a run.** -/
structure Suite where
  platform : Platform
  settings : Settings
deriving Repr, DecidableEq

namespace Suite

def timeouts (s : Suite) : Timeouts := s.settings.timeouts

/-- The provider of the platform, if it is a supported one. -/
def provider (s : Suite) : Except ProviderError Provider :=
  Provider.ofPlatform s.platform

def machineNamespace (s : Suite) : String := s.settings.machineNamespace

/-- **The suite of a cluster.** -/
def connect {τ : Type} (service : Service τ) (settings : Settings) :
    Act (Traffic τ) (Except InfrastructureError Suite) := do
  pure ((← resolvePlatform service).map fun platform => ⟨platform, settings⟩)

end Suite

end ClusterWait
