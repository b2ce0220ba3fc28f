/-! # Platforms that a cluster may run on

* `Platform.ofName`: the platform of the word that a cluster reports; an unknown word is kept.
* `Platform.name`: the word. -/

namespace ClusterWait

/-- **A platform.** -/
inductive Platform where
  | aws
  | azure
  | gcp
  | vsphere
  | openStack
  | bareMetal
  | ibmCloud
  | nutanix
  | powerVS
  | external
  | none
  | other (name : String)
deriving Repr, DecidableEq

namespace Platform

/-- **The word for a platform.** -/
def name : Platform → String
  | .aws => "AWS"
  | .azure => "Azure"
  | .gcp => "GCP"
  | .vsphere => "VSphere"
  | .openStack => "OpenStack"
  | .bareMetal => "BareMetal"
  | .ibmCloud => "IBMCloud"
  | .nutanix => "Nutanix"
  | .powerVS => "PowerVS"
  | .external => "External"
  | .none => "None"
  | .other n => n

/-- The platforms that have a word of their own. -/
def known : List Platform :=
  [.aws, .azure, .gcp, .vsphere, .openStack, .bareMetal, .ibmCloud, .nutanix, .powerVS, .external,
    .none]

/-- **The platform of a word.** -/
def ofName (s : String) : Platform := (known.find? (·.name = s)).getD (.other s)

end Platform

end ClusterWait
