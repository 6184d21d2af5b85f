import RedpandaOperator.Types
import Mathlib.Logic.Function.Basic

/-!
The API server behind the controller's client. Every write stamps the object with a fresh
`resourceVersion`; `Update` is rejected with a conflict when the submitted version is stale; a
patch built by `client.MergeFrom` is a JSON merge patch that carries only the fields that differ
between the original and the modified object (arrays whole, maps key by key) and no version, so
it is applied without a conflict check. The Redpanda status is a subresource: `Update` leaves it
alone and the status patch writes nothing else. Deleting an object with finalizers, or with
foreground propagation, only sets its deletion timestamp; an object under deletion without
finalizers is removed. Other parties act through `EnvAction`.
-/

namespace RedpandaOperator

/-- `metav1.DeletionPropagation`. -/
inductive Propagation where
  | orphan
  | background
  | foreground
deriving DecidableEq, Repr

/-- A call of the controller-runtime client. -/
inductive Call where
  | getRedpanda (key : ObjectKey)
  | updateRedpanda (rp : Redpanda)
  /-- `Patch(rp, client.MergeFrom(original))` -/
  | patchRedpanda (original modified : Redpanda)
  /-- `Status().Patch(rp, client.MergeFrom(latest))` -/
  | patchRedpandaStatus (latest modified : Redpanda)
  | getHelmRepository (key : ObjectKey)
  | createHelmRepository (repo : HelmRepository)
  | getHelmRelease (key : ObjectKey)
  | createHelmRelease (hr : HelmRelease)
  | updateHelmRelease (hr : HelmRelease)
  | deleteHelmRelease (hr : HelmRelease) (propagation : Option Propagation)
  | get (kind : Kind) (key : ObjectKey)
  | list (kind : Kind) (ns : String) (labels : StrMap)
  | update (kind : Kind) (obj : Resource)
  | delete (kind : Kind) (obj : Resource) (propagation : Option Propagation)
deriving DecidableEq, Repr

inductive Response where
  | ok
  | redpanda (rp : Redpanda)
  | helmRepository (repo : HelmRepository)
  | helmRelease (hr : HelmRelease)
  | resource (obj : Resource)
  | resources (objs : List Resource)
  | error (err : StatusError)
deriving DecidableEq, Repr

/-- The objects of one namespace-scoped cluster. `version` is the last `resourceVersion` handed
out; the legacy kinds are lists so that `List` can enumerate them. -/
structure Store where
  redpandas : ObjectKey → Option Redpanda
  helmRepositories : ObjectKey → Option HelmRepository
  helmReleases : ObjectKey → Option HelmRelease
  resources : Kind → List Resource
  version : Nat

/-- A field of a JSON merge patch applied to `current`: present only where `modified` differs
from `original`. -/
def mergeField {α : Type} [DecidableEq α] (current original modified : α) : α :=
  if modified = original then current else modified

@[simp] theorem mergeField_same {α : Type} [DecidableEq α] (current original : α) :
    mergeField current original original = current := if_pos rfl

@[simp] theorem mergeField_self {α : Type} [DecidableEq α] (current modified : α) :
    mergeField current current modified = modified := by
  unfold mergeField
  split_ifs with h <;> simp [h]

theorem mergeField_eq_or {α : Type} [DecidableEq α] (current original modified : α) :
    mergeField current original modified = current ∨ mergeField current original modified = modified := by
  unfold mergeField
  split_ifs <;> simp

namespace StrMap

def erase (m : StrMap) (k : String) : StrMap := m.filter (·.1 != k)

/-- A map field of a JSON merge patch: omitted when unchanged, otherwise every changed key is set
and every dropped key erased. -/
def mergeMap (current original modified : StrMap) : StrMap :=
  if modified = original then current else
    ((original.map Prod.fst ++ modified.map Prod.fst).filter
      (fun k => modified.get? k != original.get? k)).foldl
      (fun m k => match modified.get? k with
        | some v => m.set k v
        | none => m.erase k) current

@[simp] theorem mergeMap_same (current original : StrMap) :
    mergeMap current original original = current := if_pos rfl

end StrMap

/-- The metadata a merge patch can change: labels, annotations and finalizers. -/
def mergeMeta (current original modified : ObjectMeta) : ObjectMeta :=
  { current with
    labels := StrMap.mergeMap current.labels original.labels modified.labels
    annotations := StrMap.mergeMap current.annotations original.annotations modified.annotations
    finalizers := mergeField current.finalizers original.finalizers modified.finalizers }

/-- The status fields of a merge patch against the status subresource. -/
def mergeStatus (current original modified : RedpandaStatus) : RedpandaStatus where
  conditions := mergeField current.conditions original.conditions modified.conditions
  observedGeneration :=
    mergeField current.observedGeneration original.observedGeneration modified.observedGeneration
  lastAttemptedRevision := mergeField current.lastAttemptedRevision
    original.lastAttemptedRevision modified.lastAttemptedRevision
  helmRelease := mergeField current.helmRelease original.helmRelease modified.helmRelease
  helmReleaseReady :=
    mergeField current.helmReleaseReady original.helmReleaseReady modified.helmReleaseReady
  helmRepository := mergeField current.helmRepository original.helmRepository modified.helmRepository
  helmRepositoryReady :=
    mergeField current.helmRepositoryReady original.helmRepositoryReady modified.helmRepositoryReady

theorem mergeStatus_self (current modified : RedpandaStatus) :
    mergeStatus current current modified = modified := by
  simp only [mergeStatus, mergeField_self]

/-- Whether the object is gone once written: under deletion with no finalizer left. -/
def ObjectMeta.finalized (m : ObjectMeta) : Bool := m.deletionTimestamp.isSome && m.finalizers.isEmpty

namespace Store

/-- Write a Redpanda under the key with a fresh version, or remove it when it is finalized. -/
def writeRedpanda (s : Store) (key : ObjectKey) (rp : Redpanda) : Store :=
  { s with
    version := s.version + 1
    redpandas := Function.update s.redpandas key
      (if rp.meta.finalized then none
       else some { rp with meta := { rp.meta with resourceVersion := s.version + 1 } }) }

def writeHelmRepository (s : Store) (key : ObjectKey) (repo : HelmRepository) : Store :=
  { s with
    version := s.version + 1
    helmRepositories := Function.update s.helmRepositories key
      (some { repo with meta := { repo.meta with resourceVersion := s.version + 1 } }) }

def writeHelmRelease (s : Store) (key : ObjectKey) (hr : HelmRelease) : Store :=
  { s with
    version := s.version + 1
    helmReleases := Function.update s.helmReleases key
      (if hr.meta.finalized then none
       else some { hr with meta := { hr.meta with resourceVersion := s.version + 1 } }) }

def removeHelmRelease (s : Store) (key : ObjectKey) : Store :=
  { s with helmReleases := Function.update s.helmReleases key none }

def removeHelmRepository (s : Store) (key : ObjectKey) : Store :=
  { s with helmRepositories := Function.update s.helmRepositories key none }

/-- The first object of the kind under the key, as a `Get` reads it. -/
def find? (s : Store) (kind : Kind) (key : ObjectKey) : Option Resource :=
  (s.resources kind).find? (·.meta.key == key)

/-- Replace every object of the kind under the key, or remove them when finalized. -/
def writeResource (s : Store) (kind : Kind) (key : ObjectKey) (obj : Resource) : Store :=
  let stamped := { obj with meta := { obj.meta with resourceVersion := s.version + 1 } }
  { s with
    version := s.version + 1
    resources := Function.update s.resources kind
      (if obj.meta.finalized then (s.resources kind).filter (·.meta.key != key)
       else (s.resources kind).map fun o => if o.meta.key = key then stamped else o) }

/-- Metadata after a delete request: the deletion timestamp is set once, and foreground
propagation holds the object with the `foregroundDeletion` finalizer until its dependents are gone. -/
def deleteMeta (m : ObjectMeta) (propagation : Option Propagation) (now : Nat) : ObjectMeta :=
  { m with
    deletionTimestamp := some (m.deletionTimestamp.getD now)
    finalizers := if propagation = some .foreground
      then (m.addFinalizer "foregroundDeletion").finalizers else m.finalizers }

/-- Whether a `List` label selector matches the labels. -/
def matchesLabels (selector labels : StrMap) : Bool :=
  selector.all fun e => labels.get? e.1 == some e.2

/-- The server's answer to one call, and the store after it. An `Update` of a HelmRelease answers
with the object as stored, which the controller goes on with; the other writes answer `ok`. -/
def perform (s : Store) : Call → Store × Response
  | .getRedpanda key =>
    (s, match s.redpandas key with
      | some rp => .redpanda rp
      | none => .error .notFound)
  | .updateRedpanda rp =>
    match s.redpandas rp.meta.key with
    | none => (s, .error .notFound)
    | some cur =>
      if rp.meta.resourceVersion ≠ cur.meta.resourceVersion then (s, .error .conflict)
      else (s.writeRedpanda rp.meta.key { cur with
        meta := { rp.meta with deletionTimestamp := cur.meta.deletionTimestamp,
                               generation := cur.meta.generation }
        spec := rp.spec }, .ok)
  | .patchRedpanda original modified =>
    match s.redpandas modified.meta.key with
    | none => (s, .error .notFound)
    | some cur =>
      (s.writeRedpanda modified.meta.key { cur with
        meta := mergeMeta cur.meta original.meta modified.meta
        spec := mergeField cur.spec original.spec modified.spec }, .ok)
  | .patchRedpandaStatus latest modified =>
    match s.redpandas modified.meta.key with
    | none => (s, .error .notFound)
    | some cur =>
      (s.writeRedpanda modified.meta.key
        { cur with status := mergeStatus cur.status latest.status modified.status }, .ok)
  | .getHelmRepository key =>
    (s, match s.helmRepositories key with
      | some repo => .helmRepository repo
      | none => .error .notFound)
  | .createHelmRepository repo =>
    match s.helmRepositories repo.meta.key with
    | some _ => (s, .error .alreadyExists)
    | none => (s.writeHelmRepository repo.meta.key { repo with
        meta := { repo.meta with generation := 1, deletionTimestamp := none }, status := {} }, .ok)
  | .getHelmRelease key =>
    (s, match s.helmReleases key with
      | some hr => .helmRelease hr
      | none => .error .notFound)
  | .createHelmRelease hr =>
    match s.helmReleases hr.meta.key with
    | some _ => (s, .error .alreadyExists)
    | none => (s.writeHelmRelease hr.meta.key { hr with
        meta := { hr.meta with generation := 1, deletionTimestamp := none }, status := {} }, .ok)
  | .updateHelmRelease hr =>
    match s.helmReleases hr.meta.key with
    | none => (s, .error .notFound)
    | some cur =>
      if hr.meta.resourceVersion ≠ cur.meta.resourceVersion then (s, .error .conflict)
      else
        let stored := { hr with
          meta := { hr.meta with
            deletionTimestamp := cur.meta.deletionTimestamp
            generation := if hr.spec = cur.spec then cur.meta.generation else cur.meta.generation + 1 }
          status := cur.status }
        (s.writeHelmRelease hr.meta.key stored,
          .helmRelease { stored with meta := { stored.meta with resourceVersion := s.version + 1 } })
  | .deleteHelmRelease hr propagation =>
    match s.helmReleases hr.meta.key with
    | none => (s, .error .notFound)
    | some cur => (s.writeHelmRelease hr.meta.key
        { cur with meta := deleteMeta cur.meta propagation s.version }, .ok)
  | .get kind key =>
    (s, match s.find? kind key with
      | some obj => .resource obj
      | none => .error .notFound)
  | .list kind ns labels =>
    (s, .resources ((s.resources kind).filter fun o =>
      o.meta.ns == ns && matchesLabels labels o.meta.labels))
  | .update kind obj =>
    match s.find? kind obj.meta.key with
    | none => (s, .error .notFound)
    | some cur =>
      if obj.meta.resourceVersion ≠ cur.meta.resourceVersion then (s, .error .conflict)
      else (s.writeResource kind obj.meta.key { obj with
        meta := { obj.meta with deletionTimestamp := cur.meta.deletionTimestamp,
                                generation := cur.meta.generation } }, .ok)
  | .delete kind obj propagation =>
    match s.find? kind obj.meta.key with
    | none => (s, .error .notFound)
    | some cur => (s.writeResource kind obj.meta.key
        { cur with meta := deleteMeta cur.meta propagation s.version }, .ok)

theorem perform_getRedpanda_of_some {s : Store} {key : ObjectKey} {rp : Redpanda}
    (h : s.redpandas key = some rp) : s.perform (.getRedpanda key) = (s, .redpanda rp) := by
  simp [perform, h]

end Store

def Call.writesRedpanda : Call → Bool
  | .updateRedpanda _ | .patchRedpanda _ _ | .patchRedpandaStatus _ _ => true
  | _ => false

theorem Store.perform_redpandas {c : Call} (h : c.writesRedpanda = false) (s : Store) :
    (s.perform c).1.redpandas = s.redpandas := by
  cases c <;> simp [Call.writesRedpanda] at h <;> simp only [perform] <;>
    repeat' (first | rfl | split)

def Call.writesHelmRepository : Call → Bool
  | .createHelmRepository _ => true
  | _ => false

theorem Store.perform_helmRepositories {c : Call} (h : c.writesHelmRepository = false) (s : Store) :
    (s.perform c).1.helmRepositories = s.helmRepositories := by
  cases c <;> simp [Call.writesHelmRepository] at h <;> simp only [perform] <;>
    repeat' (first | rfl | split)

/-- What other parties do to the store: the user's deletion request and edits of the Redpanda's
spec, another controller adding its finalizer, Flux reporting readiness, a user editing the
HelmRelease's spec, the garbage collector (the HelmRepository is owned by the Redpanda) or a user
deleting the HelmRepository, and Flux finishing the removal of a release. An edit that changes a
spec counts a new generation, as the API server does. -/
inductive EnvAction where
  | deleteRedpanda (key : ObjectKey) (time : Nat)
  | addRedpandaFinalizer (key : ObjectKey) (finalizer : String)
  | editRedpanda (key : ObjectKey) (spec : RedpandaSpec)
  | setHelmRepositoryStatus (key : ObjectKey) (status : FluxStatus)
  | deleteHelmRepository (key : ObjectKey)
  | setHelmReleaseStatus (key : ObjectKey) (status : FluxStatus)
  | editHelmRelease (key : ObjectKey) (spec : HelmReleaseSpec)
  | removeHelmRelease (key : ObjectKey)
deriving DecidableEq, Repr

def EnvAction.apply (s : Store) : EnvAction → Store
  | .deleteRedpanda key time =>
    match s.redpandas key with
    | none => s
    | some rp => s.writeRedpanda key { rp with meta := Store.deleteMeta rp.meta none time }
  | .addRedpandaFinalizer key f =>
    match s.redpandas key with
    | none => s
    | some rp => s.writeRedpanda key { rp with meta := rp.meta.addFinalizer f }
  | .editRedpanda key spec =>
    match s.redpandas key with
    | none => s
    | some rp => s.writeRedpanda key { rp with
        meta := { rp.meta with
          generation := if spec = rp.spec then rp.meta.generation else rp.meta.generation + 1 }
        spec := spec }
  | .setHelmRepositoryStatus key status =>
    match s.helmRepositories key with
    | none => s
    | some repo => s.writeHelmRepository key { repo with status := status }
  | .deleteHelmRepository key => s.removeHelmRepository key
  | .setHelmReleaseStatus key status =>
    match s.helmReleases key with
    | none => s
    | some hr => s.writeHelmRelease key { hr with status := status }
  | .editHelmRelease key spec =>
    match s.helmReleases key with
    | none => s
    | some hr => s.writeHelmRelease key { hr with
        meta := { hr.meta with
          generation := if spec = hr.spec then hr.meta.generation else hr.meta.generation + 1 }
        spec := spec }
  | .removeHelmRelease key => s.removeHelmRelease key

end RedpandaOperator
