import RedpandaOperator.Template
import RedpandaOperator.Migration

/-!
`RedpandaReconciler`: `Reconcile` and the functions it calls, as programs over the client. The
deletion path (`reconcileDelete`) trusts `status.helmRelease` to say whether a release was ever
created; the managed path adds the finalizer with a plain merge patch, runs migration when it is
enabled (its error is only logged), resolves the HelmRepository and then the HelmRelease, latches
their readiness, and patches the status whatever `reconcile` returned.

The system around one Redpanda: invocations of `Reconcile` on its key under any schedule, and the
other parties acting between them. The stores reachable from a fresh cluster (the Redpanda as the
user created it and nothing else) are those of the runs from it. Other parties never touch the
Redpanda's status or annotations, never create a HelmRelease, and never take `FinalizerKey` away.
-/

namespace RedpandaOperator

/-- `isRedpandaManaged`: managed unless the managed annotation says `NotManaged`. -/
def isRedpandaManaged (rp : Redpanda) : Bool :=
  rp.meta.annotations.get? (redpandaGroup ++ managedPath) != some notManaged

/-- `rp.Spec.Migration != nil && rp.Spec.Migration.Enabled`. -/
def migrationEnabled (rp : Redpanda) : Bool :=
  match rp.spec.migration with
  | some m => m.enabled
  | none => false

def Client.emitAll : List Event → Prog Unit
  | [] => pure ()
  | e :: es => .event e (emitAll es)

namespace RedpandaReconciler

variable (r : RedpandaReconciler)

/-- `patchRedpandaStatus`: read the latest object, then merge-patch its status to `rp`'s. -/
def patchRedpandaStatus (rp : Redpanda) : Prog (Option GoError) := do
  match ← Client.getRedpanda rp.meta.key with
  | .error e => return some (.status e)
  | .ok latest => return (← Client.write (.patchRedpandaStatus latest rp)).map .status

/-- `reconcileHelmRepository`: get the HelmRepository, creating it from its template when it is
not found, and record its name. -/
def reconcileHelmRepository (rp : Redpanda) : Prog (Redpanda × Except GoError HelmRepository) := do
  let rev := rp.status.lastAttemptedRevision
  match ← Client.getHelmRepository ⟨rp.meta.ns, rp.getHelmRepositoryName⟩ with
  | .ok repo => return ({ rp with status.helmRepository := rp.getHelmRepositoryName }, .ok repo)
  | .error e =>
    if e = .notFound then
      let repo := createHelmRepositoryFromTemplate r.api rp
      match ← Client.write (.createHelmRepository repo) with
      | some errCreate =>
        Client.emit (event rp rev eventSeverityError
          s!"error creating HelmRepository: {(GoError.status errCreate).message}")
        return (rp, .error (.wrapped "error creating HelmRepository" (.status errCreate)))
      | none =>
        Client.emit (event rp rev eventSeverityInfo
          s!"HelmRepository \x27{rp.meta.ns}/{rp.getHelmRepositoryName}\x27 created ")
        return ({ rp with status.helmRepository := rp.getHelmRepositoryName }, .ok repo)
    else
      Client.emit (event rp rev eventSeverityError
        s!"error getting HelmRepository: {(GoError.status e).message}")
      return (rp, .error (.wrapped "error getting HelmRepository" (.status e)))

/-- The tail of `createHelmRelease` once the release exists: the event, and the name recorded. -/
def helmReleaseCreated (rp : Redpanda) (hRelease : HelmRelease) :
    Prog (Redpanda × Except GoError HelmRelease) := do
  Client.emit (event rp rp.status.lastAttemptedRevision eventSeverityInfo
    s!"HelmRelease \x27{rp.meta.ns}/{rp.getHelmReleaseName}\x27 created ")
  return ({ rp with status.helmRelease := rp.getHelmReleaseName }, .ok hRelease)

/-- `createHelmRelease`: create the release from its template; `AlreadyExists` counts as created,
and the template, not the live object, is returned either way. -/
def createHelmRelease (rp : Redpanda) : Prog (Redpanda × Except GoError HelmRelease) := do
  let rev := rp.status.lastAttemptedRevision
  match createHelmReleaseFromTemplate r.api rp with
  | .error err =>
    Client.emit (event rp rev eventSeverityError
      s!"could not create helm release template: {err.message}")
    return (rp, .error (.wrapped "could not create HelmRelease template" err))
  | .ok hRelease =>
    match ← Client.write (.createHelmRelease hRelease) with
    | some e =>
      if e = .alreadyExists then helmReleaseCreated rp hRelease
      else
        Client.emit (event rp rev eventSeverityError (GoError.status e).message)
        return (rp, .error (.wrapped
          s!"failed to create HelmRelease \x27{rp.meta.ns}/{rp.status.helmRelease}\x27" (.status e)))
    | none => helmReleaseCreated rp hRelease

/-- `reconcileHelmRelease` for a release found under the recorded name: overwrite its spec with the
template's when `helmReleaseRequiresUpdate` says so, and go on with the release as stored. -/
def updateHelmRelease (rp : Redpanda) (hr : HelmRelease) :
    Prog (Redpanda × Except GoError HelmRelease) := do
  let rev := rp.status.lastAttemptedRevision
  match createHelmReleaseFromTemplate r.api rp with
  | .error errTemplated =>
    Client.emit (event rp rev eventSeverityError errTemplated.message)
    return (rp, .error errTemplated)
  | .ok hrTemplate =>
    if helmReleaseRequiresUpdate r.api hr hrTemplate then
      match ← Client.updateHelmRelease { hr with spec := hrTemplate.spec } with
      | .error e =>
        Client.emit (event rp rev eventSeverityError (GoError.status e).message)
        return (rp, .error (.status e))
      | .ok hr =>
        Client.emit (event rp rev eventSeverityInfo
          s!"HelmRelease \x27{rp.meta.ns}/{rp.getHelmReleaseName}\x27 updated")
        return ({ rp with status.helmRelease := rp.getHelmReleaseName }, .ok hr)
    else return (rp, .ok hr)

/-- `reconcileHelmRelease`: no recorded name means never created; a recorded name that is not
found is cleared and the release created again. -/
def reconcileHelmRelease (rp : Redpanda) : Prog (Redpanda × Except GoError HelmRelease) := do
  if rp.status.helmRelease = "" then r.createHelmRelease rp
  else
    match ← Client.getHelmRelease ⟨rp.meta.ns, rp.status.helmRelease⟩ with
    | .ok hr => r.updateHelmRelease rp hr
    | .error e =>
      if e = .notFound then r.createHelmRelease { rp with status.helmRelease := "" }
      else return (rp, .error (.wrapped
        s!"failed to get HelmRelease \x27{rp.meta.ns}/{rp.status.helmRelease}\x27" (.status e)))

/-- `reconcile` from the HelmRelease on, once the HelmRepository is ready. -/
def reconcileRelease (rp : Redpanda) : Prog (Redpanda × Result × Option GoError) := do
  let (rp, hr) ← r.reconcileHelmRelease rp
  match hr with
  | .error err => return (rp, {}, some err)
  | .ok hr =>
    if hr.meta.name = "" then return (rp, {}, none)
    else
      let (ready, rp, evs) :=
        checkDependent .helmRelease hr.meta.ns hr.meta.name ⟨hr.meta.generation, hr.status⟩ rp
      Client.emitAll evs
      if ready then return (rp.redpandaReady, {}, none)
      else return (rp.redpandaNotReady "ArtifactFailed"
        (resourceNotReadyStr resourceTypeHelmRelease hr.meta.ns hr.meta.name),
        { requeueAfter := r.requeueHelmDeps }, none)

/-- `reconcile` from the HelmRepository on. -/
def reconcileDependents (rp : Redpanda) : Prog (Redpanda × Result × Option GoError) := do
  let (rp, repo) ← r.reconcileHelmRepository rp
  match repo with
  | .error err => return (rp, {}, some err)
  | .ok repo =>
    let (ready, rp, evs) :=
      checkDependent .helmRepository repo.meta.ns repo.meta.name ⟨repo.meta.generation, repo.status⟩ rp
    Client.emitAll evs
    if ready then r.reconcileRelease rp
    else return (rp.redpandaNotReady "ArtifactFailed"
      (resourceNotReadyStr resourceTypeHelmRepository repo.meta.ns repo.meta.name),
      { requeueAfter := r.requeueHelmDeps }, none)

/-- `reconcile`: record a new generation as Progressing first. -/
def reconcile (rp : Redpanda) : Prog (Redpanda × Result × Option GoError) := do
  if rp.status.observedGeneration ≠ rp.meta.generation then
    let rp := ({ rp with status.observedGeneration := rp.meta.generation }).redpandaProgressing
    match ← patchRedpandaStatus rp with
    | some e => return (rp, { requeue := true }, some e)
    | none => r.reconcileDependents rp
  else r.reconcileDependents rp

/-- `deleteHelmRelease`: nothing to wait for without a recorded name; a recorded release that is
found is deleted in the foreground and the caller told to come back. -/
def deleteHelmRelease (rp : Redpanda) : Prog (Redpanda × Option GoError) := do
  if rp.status.helmRelease = "" then return (rp, none)
  else
    match ← Client.getHelmRelease ⟨rp.meta.ns, rp.status.helmRelease⟩ with
    | .error e =>
      if e = .notFound then
        return ({ rp with status.helmRelease := "", status.helmRepository := "" }, none)
      else return (rp, some (.wrapped
        s!"failed to get HelmRelease \x27{rp.status.helmRelease}\x27" (.status e)))
    | .ok hr =>
      match ← Client.write (.deleteHelmRelease hr (some .foreground)) with
      | some e => return (rp, some (.wrapped
          s!"deleting helm release connected with Redpanda ({rp.meta.name})" (.status e)))
      | none => return (rp, some (.text "wait for helm release deletion"))

/-- `reconcileDelete`: the finalizer goes once `deleteHelmRelease` returns nil. -/
def reconcileDelete (rp : Redpanda) : Prog (Result × Option GoError) := do
  let (rp, err) ← deleteHelmRelease rp
  match err with
  | some e => return ({}, some e)
  | none =>
    if rp.meta.containsFinalizer finalizerKey then
      match ← Client.write (.updateRedpanda { rp with meta := rp.meta.removeFinalizer finalizerKey }) with
      | some e => return ({}, some (.status e))
      | none => return ({}, none)
    else return ({}, none)

/-- `Reconcile` once the finalizer is in place: migration when enabled, `reconcile`, and the status
patch whatever `reconcile` returned. -/
def reconcileManaged (rp : Redpanda) : Prog (Result × Option GoError) := do
  let _ ← (if migrationEnabled rp then tryMigration rp else pure [])
  let (rp, result, err) ← r.reconcile rp
  match ← patchRedpandaStatus rp with
  | some e => return ({ requeue := true }, some e)
  | none => return (result, err)

/-- `Reconcile` once its `Get` has returned the object: the deletion path, the unmanaged path that
only drops the finalizer, and the managed path behind the finalizer. -/
def reconcileObject (rp : Redpanda) : Prog (Result × Option GoError) := do
  if rp.meta.deletionTimestamp.isSome then reconcileDelete rp
  else if !isRedpandaManaged rp then
    if rp.meta.containsFinalizer finalizerKey then
      match ← Client.write (.updateRedpanda { rp with meta := rp.meta.removeFinalizer finalizerKey }) with
      | some e => return ({}, some (.status e))
      | none => return ({}, none)
    else return ({}, none)
  else if rp.meta.containsFinalizer finalizerKey then r.reconcileManaged rp
  else
    let patched := { rp with meta := rp.meta.addFinalizer finalizerKey }
    match ← Client.write (.patchRedpanda rp patched) with
    | some e => return ({}, some (.status e))
    | none => r.reconcileManaged patched

/-- `Reconcile` on the object under `key`. -/
def Reconcile (key : ObjectKey) : Prog (Result × Option GoError) := do
  match ← Client.getRedpanda key with
  | .error e => return ({}, ignoreNotFound e)
  | .ok rp => r.reconcileObject rp

end RedpandaReconciler

/-- One step of the system: an invocation of `Reconcile` under a schedule, or one action of
another party. -/
inductive SysStep where
  | reconcile (σ : Sched)
  | env (a : EnvAction)

def SysStep.run (r : RedpandaReconciler) (key : ObjectKey) :
    SysStep → Store → Outcome (Result × Option GoError)
  | .reconcile σ, s => exec σ (r.Reconcile key) 0 s
  | .env a, s => ⟨a.apply s, [], [], none⟩

/-- The store after a run. -/
def runSystem (r : RedpandaReconciler) (key : ObjectKey) : Store → List SysStep → Store
  | s, [] => s
  | s, st :: sts => runSystem r key (st.run r key s).store sts

/-- The calls a run issued, invocation by invocation. -/
def runCalls (r : RedpandaReconciler) (key : ObjectKey) : Store → List SysStep → List (Call × Response)
  | _, [] => []
  | s, st :: sts => (st.run r key s).calls ++ runCalls r key (st.run r key s).store sts

/-- A fresh cluster: the Redpanda as the API server stores a user's create, and nothing else. -/
def Store.initial (rp : Redpanda) : Store where
  redpandas := Function.update (fun _ => none) rp.meta.key
    (some { rp with
      meta := { rp.meta with generation := 1, resourceVersion := 1, deletionTimestamp := none }
      status := {} })
  helmRepositories := fun _ => none
  helmReleases := fun _ => none
  resources := fun _ => []
  version := 1

inductive Reachable (r : RedpandaReconciler) (key : ObjectKey) : Store → Prop where
  | initial (rp : Redpanda) : rp.meta.key = key → Reachable r key (Store.initial rp)
  | step {s : Store} (st : SysStep) : Reachable r key s → Reachable r key (st.run r key s).store

theorem Reachable.runSystem {r : RedpandaReconciler} {key : ObjectKey} {s : Store}
    (hs : Reachable r key s) (run : List SysStep) : Reachable r key (runSystem r key s run) := by
  induction run generalizing s with
  | nil => exact hs
  | cons st run ih => exact ih (hs.step st)

/-- Whether the Redpanda under the key holds `FinalizerKey`. -/
def Store.holdsFinalizer (s : Store) (key : ObjectKey) : Bool :=
  match s.redpandas key with
  | some rp => rp.meta.finalizers.contains finalizerKey
  | none => false

/-- The reconciler of the small cluster the later modules run: one Redpanda in `default`, the delay
`main.go` configures, and chart values that serialize to an empty document. -/
def demoReconciler : RedpandaReconciler :=
  ⟨10, ⟨fun _ => .ok "\x7b\x7d", id, "redpanda-charts"⟩⟩

def demoKey : ObjectKey := ⟨"default", "redpanda"⟩

def demoRedpanda : Redpanda := { meta := { name := "redpanda", ns := "default" } }

def repositoryReady : SysStep :=
  .env (.setHelmRepositoryStatus ⟨"default", "redpanda-repository"⟩
    ⟨1, [⟨readyCondition, .conditionTrue, "Succeeded", "stored artifact"⟩]⟩)

def releaseReady : SysStep :=
  .env (.setHelmReleaseStatus demoKey
    ⟨1, [⟨readyCondition, .conditionTrue, "InstallSucceeded", "Helm install succeeded"⟩]⟩)

def faultAt (i : Nat) : SysStep :=
  .reconcile { fault := fun j => if j = i then some "etcdserver: request timed out" else none }

/-- The first invocation creates the HelmRepository; once it is ready the second creates the
HelmRelease, but the status patch that would record its name (call 4) times out. -/
def unrecordedReleaseRun : List SysStep := [.reconcile {}, repositoryReady, faultAt 4]

end RedpandaOperator
