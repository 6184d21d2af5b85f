import RedpandaOperator.Basic

/-!
The objects the controller reads and writes: the `Redpanda` custom resource, the Flux
`HelmRepository` and `HelmRelease` it owns, and the legacy resources migration adopts. Constants and
helpers the controller takes from API packages outside this repository's controller are modelled
from the spec and the e2e assertions, and say so; functions whose results the spec leaves open are
parameters collected in `Api`.
-/

namespace RedpandaOperator

/-- `helmv2beta1.UpgradeRemediation`. -/
structure UpgradeRemediation where
  retries : Nat
  strategy : Option String
deriving DecidableEq, Repr

/-- `v1alpha1.HelmUpgrade`: the upgrade settings a user may override. -/
structure HelmUpgrade where
  force : Option Bool := none
  cleanupOnFail : Option Bool := none
  preserveValues : Option Bool := none
  remediation : Option UpgradeRemediation := none
deriving DecidableEq, Repr

/-- `rp.Spec.ChartRef`; durations are in seconds. -/
structure ChartRef where
  chartVersion : String := ""
  timeout : Option Nat := none
  upgrade : Option HelmUpgrade := none
deriving DecidableEq, Repr

/-- `rp.Spec.ClusterSpec.Console`. -/
structure ConsoleSpec where
  enabled : Option Bool := none
  fullNameOverride : Option String := none
deriving DecidableEq, Repr

/-- The fields of `rp.Spec.ClusterSpec` the controller reads itself. -/
structure ClusterSpec where
  fullNameOverride : String := ""
  console : ConsoleSpec := {}
deriving DecidableEq, Repr

/-- `ClusterRef` and `ConsoleRef` of the migration settings. -/
structure MigrationRef where
  ns : String := ""
  name : String := ""
deriving DecidableEq, Repr

structure Migration where
  enabled : Bool := false
  clusterRef : MigrationRef := {}
  consoleRef : MigrationRef := {}
deriving DecidableEq, Repr

structure RedpandaSpec where
  chartRef : ChartRef := {}
  clusterSpec : ClusterSpec := {}
  migration : Option Migration := none
deriving DecidableEq, Repr

/-- `rp.Status`; the readiness flags are the nil/true/false pointers. -/
structure RedpandaStatus where
  conditions : List Condition := []
  observedGeneration : Nat := 0
  lastAttemptedRevision : String := ""
  helmRelease : String := ""
  helmReleaseReady : Option Bool := none
  helmRepository : String := ""
  helmRepositoryReady : Option Bool := none
deriving DecidableEq, Repr

structure Redpanda where
  meta : ObjectMeta
  spec : RedpandaSpec := {}
  status : RedpandaStatus := {}
deriving DecidableEq, Repr

/-- The status both Flux objects report: `ObservedGeneration` and `Conditions`. -/
structure FluxStatus where
  observedGeneration : Nat := 0
  conditions : List Condition := []
deriving DecidableEq, Repr

structure HelmRepositorySpec where
  interval : Nat
  url : String
deriving DecidableEq, Repr

structure HelmRepository where
  meta : ObjectMeta
  spec : HelmRepositorySpec
  status : FluxStatus := {}
deriving DecidableEq, Repr

structure CrossNamespaceObjectReference where
  kind : String
  name : String
  ns : String
deriving DecidableEq, Repr

structure HelmChartTemplateSpec where
  chart : String
  version : String
  interval : Option Nat
  sourceRef : CrossNamespaceObjectReference
deriving DecidableEq, Repr

structure HelmChartTemplate where
  spec : HelmChartTemplateSpec
deriving DecidableEq, Repr

/-- `helmv2beta1.Upgrade`. -/
structure Upgrade where
  force : Bool := false
  cleanupOnFail : Bool := false
  preserveValues : Bool := false
  remediation : Option UpgradeRemediation := none
deriving DecidableEq, Repr

/-- `helmv2beta1.HelmReleaseSpec`; `values` is the raw JSON document. -/
structure HelmReleaseSpec where
  chart : HelmChartTemplate
  values : String
  interval : Nat
  timeout : Option Nat
  upgrade : Option Upgrade
deriving DecidableEq, Repr

structure HelmRelease where
  meta : ObjectMeta
  spec : HelmReleaseSpec
  status : FluxStatus := {}
deriving DecidableEq, Repr

/-- A legacy resource as migration sees it: its metadata and, for a Service, `spec.selector`. -/
structure Resource where
  meta : ObjectMeta
  selector : StrMap := []
deriving DecidableEq, Repr

/-- The legacy kinds migration reads and adopts. -/
inductive Kind where
  | cluster
  | console
  | pod
  | service
  | serviceAccount
  | podDisruptionBudget
  | statefulSet
  | deployment
  | ingress
deriving DecidableEq, Repr

/-- Modelled from the spec: `FinalizerKey`, the finalizer every managed Redpanda carries, as the
e2e assertions show it. -/
def finalizerKey : String := "operator.redpanda.com/finalizer"

/-- Modelled from the spec: `NotManaged`, the value of the managed annotation that disables
management. -/
def notManaged : String := "false"

/-- Modelled from the spec: `v1alpha1.GroupVersion.Group`, the group of the e2e manifests. -/
def redpandaGroup : String := "cluster.redpanda.com"

/-- Modelled from the spec: `vectorzied_v1alpha1.GroupVersion.Group`, the group of the legacy
cluster and console resources in the RBAC markers. -/
def vectorizedGroup : String := "redpanda.vectorized.io"

def managedPath : String := "/managed"

/-- Modelled from the spec: `consolepkg.ConsoleSAFinalizer`, the first legacy console finalizer. -/
def consoleSAFinalizer : String := "consoles.redpanda.vectorized.io/service-account"

/-- Modelled from the spec: `consolepkg.ConsoleACLFinalizer`, the second legacy console
finalizer. -/
def consoleACLFinalizer : String := "consoles.redpanda.vectorized.io/acl"

/-- Modelled from the spec: `v1alpha1.EventSeverityInfo`. -/
def eventSeverityInfo : String := "info"

/-- Modelled from the spec: `v1alpha1.EventSeverityError`. -/
def eventSeverityError : String := "error"

/-- Modelled from the spec: `v2.GroupVersion.Group + "/revision"`, the annotation key that tags
events with the last attempted revision. -/
def revisionKey : String := "revision"

namespace Redpanda

/-- Modelled from the spec: `GetHelmReleaseName`, the release named after its parent (the e2e
assertions read `helmRelease` equal to `metadata.name`). -/
def getHelmReleaseName (rp : Redpanda) : String := rp.meta.name

/-- Modelled from the spec: `GetHelmRepositoryName`, the fixed source name the e2e assertions read. -/
def getHelmRepositoryName (_ : Redpanda) : String := "redpanda-repository"

/-- The Ready condition set to `c` by `apimeta.SetStatusCondition`. -/
def setReadyCondition (rp : Redpanda) (status : ConditionStatus) (reason message : String) :
    Redpanda :=
  let c : Condition := ⟨readyCondition, status, reason, message⟩
  { rp with status := { rp.status with conditions := setStatusCondition rp.status.conditions c } }

/-- Modelled from the spec: `v1alpha1.RedpandaReady`, with the reason and message the e2e
assertions read. -/
def redpandaReady (rp : Redpanda) : Redpanda :=
  rp.setReadyCondition .conditionTrue "RedpandaClusterDeployed" "Redpanda reconciliation succeeded"

/-- Modelled from the spec: `v1alpha1.RedpandaNotReady`. -/
def redpandaNotReady (rp : Redpanda) (reason message : String) : Redpanda :=
  rp.setReadyCondition .conditionFalse reason message

/-- Modelled from the spec: `v1alpha1.RedpandaProgressing`. -/
def redpandaProgressing (rp : Redpanda) : Redpanda :=
  rp.setReadyCondition .conditionUnknown "Progressing" "Reconciliation in progress"

end Redpanda

/-- Functions of API packages outside this repository's controller that the spec leaves open:
`rp.ValuesJSON()` (which may fail), the values `hr.GetValues()` parses out of a raw document
(compared by `reflect.DeepEqual`), and `v1alpha1.RedpandaChartRepository`. -/
structure Api where
  valuesJSON : Redpanda → Except String String
  getValues : String → String
  redpandaChartRepository : String

/-- `RedpandaReconciler`: its `RequeueHelmDeps` in seconds, and the API functions it calls. -/
structure RedpandaReconciler where
  requeueHelmDeps : Nat
  api : Api

end RedpandaOperator
