import RedpandaOperator.Readiness

/-!
`tryMigration`: the one-shot hand-over of legacy resources to Helm. Each step reads its object,
tests it, and mutates it only when the test fails; a failed call is joined into the result and the
next step runs. The Services, ServiceAccounts, PodDisruptionBudget and Ingress share one adoption
step (`adoptResource`) that replaces their labels and annotations by Helm's; the Cluster, the
Console and the Pods are edited in place; the StatefulSet and the console Deployment are deleted,
the latter on the test of the StatefulSet the earlier step read.
-/

namespace RedpandaOperator

def instanceLabel : String := "app.kubernetes.io/instance"

def nameLabel : String := "app.kubernetes.io/name"

def componentLabel : String := "app.kubernetes.io/component"

def managedByLabel : String := "app.kubernetes.io/managed-by"

def releaseNameKey : String := "meta.helm.sh/release-name"

def releaseNamespaceKey : String := "meta.helm.sh/release-namespace"

def helm : String := "Helm"

/-- `hasLabelsAndAnnotations`: Helm manages the object as this Redpanda's release. -/
def hasLabelsAndAnnotations (obj : ObjectMeta) (rp : Redpanda) : Bool :=
  obj.labels.get? managedByLabel == some helm &&
    obj.annotations.get? releaseNameKey == some rp.meta.name &&
    obj.annotations.get? releaseNamespaceKey == some rp.meta.ns

/-- `setHelmLabelsAndAnnotations`: fresh label and annotation maps holding Helm's keys only. -/
def setHelmLabelsAndAnnotations (obj : ObjectMeta) (rp : Redpanda) : ObjectMeta :=
  { obj with
    labels := [(managedByLabel, helm)]
    annotations := [(releaseNameKey, rp.meta.name), (releaseNamespaceKey, rp.meta.ns)] }

theorem hasLabelsAndAnnotations_setHelmLabelsAndAnnotations (obj : ObjectMeta) (rp : Redpanda) :
    hasLabelsAndAnnotations (setHelmLabelsAndAnnotations obj rp) rp = true := by
  simp [hasLabelsAndAnnotations, setHelmLabelsAndAnnotations, managedByLabel,
    releaseNameKey, releaseNamespaceKey]

/-- The annotation by which a legacy controller is switched off. -/
def legacyManagedKey : String := vectorizedGroup ++ managedPath

/-- The managed test on a legacy object: managed unless its managed annotation says
`NotManaged`. -/
def isLegacyManaged (obj : ObjectMeta) : Bool :=
  obj.annotations.get? legacyManagedKey != some notManaged

/-- Modelled from the spec: `isRedpandaClusterManaged`, the managed test on a Cluster. -/
def isRedpandaClusterManaged (cluster : ObjectMeta) : Bool := isLegacyManaged cluster

/-- Modelled from the spec: `isConsoleManaged`, the managed test on a Console. -/
def isConsoleManaged (console : ObjectMeta) : Bool := isLegacyManaged console

/-- The managed annotation of a legacy object set to `NotManaged` in place. -/
def disableLegacyReconciliation (obj : ObjectMeta) : ObjectMeta :=
  { obj with annotations := obj.annotations.set legacyManagedKey notManaged }

/-- `disableRedpandaReconciliation`. -/
def disableRedpandaReconciliation (cluster : ObjectMeta) : ObjectMeta :=
  disableLegacyReconciliation cluster

/-- `disableConsoleReconciliation`. -/
def disableConsoleReconciliation (console : ObjectMeta) : ObjectMeta :=
  disableLegacyReconciliation console

def Kind.name : Kind → String
  | .cluster => "Cluster"
  | .console => "Console"
  | .pod => "Pod"
  | .service => "Service"
  | .serviceAccount => "ServiceAccount"
  | .podDisruptionBudget => "PodDisruptionBudget"
  | .statefulSet => "StatefulSet"
  | .deployment => "Deployment"
  | .ingress => "Ingress"

/-- The event every migration mutation records, tagged with the last attempted revision. -/
def migrationEvent (kind : Kind) (obj : ObjectMeta) (rp : Redpanda) (msg : String) : Event where
  kind := kind.name
  key := obj.key
  annotations := [(revisionKey, rp.status.lastAttemptedRevision)]
  eventType := "Normal"
  reason := eventSeverityInfo
  message := msg

/-- `errors.Join(err, errorResult)`: the joined errors, newest first; empty is nil. -/
def join (err : GoError) (errs : List GoError) : List GoError := err :: errs

/-- A get error wrapped as `fmt.Errorf("msg (what): %w", err)`. -/
def wrapAs (msg what : String) (e : StatusError) : GoError := .wrapped s!"{msg} ({what})" (.status e)

/-- A mutation: issue the write, join its error, and record the event whether it failed or not. -/
def mutate (rp : Redpanda) (kind : Kind) (obj : ObjectMeta) (c : Call) (errMsg eventMsg : String)
    (errs : List GoError) : Prog (List GoError) := do
  let r ← Client.write c
  Client.emit (migrationEvent kind obj rp eventMsg)
  return match r with
    | some e => join (wrapAs errMsg obj.name e) errs
    | none => errs

/-- The `ClusterRef` or `ConsoleRef` with the Redpanda's namespace and name as defaults. -/
def MigrationRef.resolve (ref : MigrationRef) (rp : Redpanda) : ObjectKey :=
  ⟨if ref.ns = "" then rp.meta.ns else ref.ns, if ref.name = "" then rp.meta.name else ref.name⟩

/-- Step 1: the legacy Cluster is switched off while still managed. -/
def migrateCluster (rp : Redpanda) (ref : MigrationRef) (errs : List GoError) :
    Prog (List GoError) := do
  let key := ref.resolve rp
  match ← Client.get .cluster key with
  | .error e => return join (wrapAs "get cluster reference" s!"{key.ns}/{key.name}" e) errs
  | .ok cluster =>
    if isRedpandaClusterManaged cluster.meta then
      let annotated := { cluster with meta := disableRedpandaReconciliation cluster.meta }
      mutate rp .cluster annotated.meta (.update .cluster annotated)
        "disabling Cluster reconciliation" "update Cluster custom resource" errs
    else return errs

/-- Step 2: the legacy Console is switched off and loses both legacy finalizers while it is still
managed or holds one of them. -/
def migrateConsole (rp : Redpanda) (ref : MigrationRef) (errs : List GoError) :
    Prog (List GoError) := do
  let key := ref.resolve rp
  match ← Client.get .console key with
  | .error e => return join (wrapAs "get cluster reference" s!"{key.ns}/{key.name}" e) errs
  | .ok console =>
    if isConsoleManaged console.meta || console.meta.containsFinalizer consoleSAFinalizer ||
        console.meta.containsFinalizer consoleACLFinalizer then
      let annotated := { console with meta := ((disableConsoleReconciliation console.meta
        ).removeFinalizer consoleSAFinalizer).removeFinalizer consoleACLFinalizer }
      mutate rp .console annotated.meta (.update .console annotated)
        "disabling Cluster reconciliation" "update Console custom resource" errs
    else return errs

/-- Whether a listed Pod is skipped: it already carries the StatefulSet component label and no
longer holds the finalizer. -/
def podMigrated (pod : ObjectMeta) : Bool :=
  pod.labels.get? componentLabel == some "redpanda-statefulset" && !pod.containsFinalizer finalizerKey

/-- The Pod as step 3 submits it: component label set in place, finalizer removed. -/
def migratedPod (pod : Resource) : Resource :=
  { pod with meta := { pod.meta with
      labels := pod.meta.labels.set componentLabel "redpanda-statefulset" }.removeFinalizer finalizerKey }

/-- Step 3, the loop over the listed Pods. -/
def migratePods (rp : Redpanda) : List Resource → List GoError → Prog (List GoError)
  | [], errs => pure errs
  | pod :: pods, errs => do
    if podMigrated pod.meta then migratePods rp pods errs
    else
      let errs ← mutate rp .pod (migratedPod pod).meta (.update .pod (migratedPod pod))
        "updating component Pod label" "update Redpanda Pod" errs
      migratePods rp pods errs

/-- The Pods of the Redpanda's StatefulSet, by instance and name label. -/
def podSelector (rp : Redpanda) : StrMap := [(instanceLabel, rp.meta.name), (nameLabel, "redpanda")]

/-- Step 3: list the Pods and migrate each. -/
def migrateListedPods (rp : Redpanda) (errs : List GoError) : Prog (List GoError) := do
  match ← Client.list .pod rp.meta.ns (podSelector rp) with
  | .error e => return join (.wrapped "listing pods" (.status e)) errs
  | .ok pods => migratePods rp pods errs

/-- The adoption step shared by the Services, ServiceAccounts, PodDisruptionBudget and Ingress:
unless Helm already manages the object for this release (and, for a Service with a `selector`, it
selects exactly that), stamp Helm's labels and annotations (and the selector) and update it. -/
def adoptResource (rp : Redpanda) (kind : Kind) (name : String) (selector : Option StrMap)
    (getMsg updateMsg eventMsg : String) (errs : List GoError) : Prog (List GoError) := do
  match ← Client.get kind ⟨rp.meta.ns, name⟩ with
  | .error e => return join (wrapAs getMsg name e) errs
  | .ok obj =>
    let selected := match selector with
      | some sel => StrMap.mapsEqual obj.selector sel
      | none => true
    if hasLabelsAndAnnotations obj.meta rp && selected then return errs
    else
      let adopted := { obj with
        meta := setHelmLabelsAndAnnotations obj.meta rp
        selector := selector.getD obj.selector }
      mutate rp kind adopted.meta (.update kind adopted) updateMsg eventMsg errs

/-- The StatefulSet variable after a failed `Get`: the zero value. -/
def zeroResource : Resource := { meta := {} }

/-- Step 7: a StatefulSet Helm does not manage is deleted with orphan propagation. Returns the
`sts` variable too, which the console Deployment step reads. -/
def migrateStatefulSet (rp : Redpanda) (name : String) (errs : List GoError) :
    Prog (List GoError × Resource) := do
  match ← Client.get .statefulSet ⟨rp.meta.ns, name⟩ with
  | .error e => return (join (wrapAs "get statefulset" name e) errs, zeroResource)
  | .ok sts =>
    if hasLabelsAndAnnotations sts.meta rp then return (errs, sts)
    else
      let errs ← mutate rp .statefulSet sts.meta (.delete .statefulSet sts (some .orphan))
        "deleting statefulset" "delete StatefulSet with orphant propagation mode" errs
      return (errs, sts)

/-- Step 8c: the console Deployment is deleted when `hasLabelsAndAnnotations(&sts, rp)` fails,
`sts` being what step 7 read. -/
def migrateConsoleDeployment (rp : Redpanda) (sts : Resource) (name : String)
    (errs : List GoError) : Prog (List GoError) := do
  match ← Client.get .deployment ⟨rp.meta.ns, name⟩ with
  | .error e => return join (wrapAs "get console deployment" name e) errs
  | .ok deploy =>
    if hasLabelsAndAnnotations sts.meta rp then return errs
    else
      mutate rp .deployment deploy.meta (.delete .deployment deploy none)
        "deleting console deployment" "delete console Deployment" errs

/-- The name the chart gives the Redpanda resources. -/
def resourcesName (rp : Redpanda) : String :=
  if rp.spec.clusterSpec.fullNameOverride = "" then rp.meta.name
  else rp.spec.clusterSpec.fullNameOverride

/-- The name the console resources are looked up under. -/
def consoleResourcesName (rp : Redpanda) : String :=
  match rp.spec.clusterSpec.console.fullNameOverride with
  | some n => if n = "" then rp.meta.name else n
  | none => rp.meta.name

def consoleSelector (rp : Redpanda) : StrMap := [(instanceLabel, rp.meta.name), (nameLabel, "console")]

def internalSelector (rp : Redpanda) : StrMap :=
  [(instanceLabel, rp.meta.name), (nameLabel, "redpanda")]

/-- Step 8: the console's ServiceAccount, Service, Deployment and Ingress. -/
def migrateConsoleResources (rp : Redpanda) (sts : Resource) (errs : List GoError) :
    Prog (List GoError) := do
  let name := consoleResourcesName rp
  let errs ← adoptResource rp .serviceAccount name none "get console service account"
    "updating console service account" "update console ServiceAccount" errs
  let errs ← adoptResource rp .service name (some (consoleSelector rp)) "get console service"
    "updating console service" "update console Service" errs
  let errs ← migrateConsoleDeployment rp sts name errs
  adoptResource rp .ingress name none "get console ingress" "updating console ingress"
    "update console Ingress" errs

/-- `tryMigration`: every step in order, the joined errors of all failed calls as the result. -/
def tryMigration (rp : Redpanda) : Prog (List GoError) := do
  let m := rp.spec.migration.getD {}
  let errs ← migrateCluster rp m.clusterRef []
  let errs ← migrateConsole rp m.consoleRef errs
  let errs ← migrateListedPods rp errs
  let name := resourcesName rp
  let errs ← adoptResource rp .service name (some (internalSelector rp)) "get internal service"
    "updating internal service" "update internal Service" errs
  let errs ← adoptResource rp .service s!"{name}-external" none "get external service"
    "updating external service" "update external Service" errs
  let errs ← adoptResource rp .serviceAccount name none "get service account"
    "updating service account" "update ServiceAccount" errs
  let errs ← adoptResource rp .podDisruptionBudget name none "get pod disruption budget"
    "updating pod disruption budget" "update PodDistributionBudget" errs
  let (errs, sts) ← migrateStatefulSet rp name errs
  if rp.spec.clusterSpec.console.enabled.getD true then migrateConsoleResources rp sts errs
  else return errs

end RedpandaOperator
