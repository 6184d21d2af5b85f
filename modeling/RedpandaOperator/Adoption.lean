import RedpandaOperator.Deletion

/-!
What `tryMigration` does to the legacy objects. Where the Pod, Cluster and Console steps edit their
maps in place, one key each, the adoption step replaces the labels and annotations of the Services,
ServiceAccounts, PodDisruptionBudget and Ingress by Helm's, dropping every other key. Without name
overrides the internal and the console Service are one object, which the two Service steps hand
back and forth between their selectors; and the console Deployment is judged by the StatefulSet
variable, which is the zero value when the StatefulSet is missing.
-/

namespace RedpandaOperator

def Call.mutates : Call → Bool
  | .update .. | .delete .. => true
  | _ => false

def Response.isError : Response → Bool
  | .error _ => true
  | _ => false

def migratingRedpanda : Redpanda :=
  { meta := { name := "redpanda", ns := "default" }, spec := { migration := some { enabled := true } } }

def legacyObject (name : String) : Resource :=
  { meta := { name := name, ns := "default", resourceVersion := 1 } }

def helmObject (name : String) : Resource :=
  { meta := setHelmLabelsAndAnnotations (legacyObject name).meta migratingRedpanda }

def legacyStore : Store where
  redpandas _ := none
  helmRepositories _ := none
  helmReleases _ := none
  resources
    | .statefulSet => [helmObject "redpanda"]
    | .service => [legacyObject "redpanda", legacyObject "redpanda-external"]
    | _ => [legacyObject "redpanda"]
  version := 1

/-- Without overrides the console Service is the internal one: a run in which every call succeeds
leaves it selecting the console, and the next run updates it twice more. -/
theorem internal_service_left_selecting_console :
    resourcesName migratingRedpanda = consoleResourcesName migratingRedpanda ∧
    let a := exec {} (tryMigration migratingRedpanda) 0 legacyStore
    let b := exec {} (tryMigration migratingRedpanda) 0 a.store
    a.calls.all (fun x => !x.2.isError) = true ∧
    (a.store.find? .service ⟨"default", "redpanda"⟩).map (·.selector) =
      some (consoleSelector migratingRedpanda) ∧
    consoleSelector migratingRedpanda ≠ internalSelector migratingRedpanda ∧
    (b.calls.filter (·.1.mutates)).length = 2 := by
  decide

def helmDeploymentStore : Store :=
  { legacyStore with
    resources := fun
      | .statefulSet => []
      | .deployment => [helmObject "redpanda"]
      | kind => legacyStore.resources kind }

/-- The Helm-owned console Deployment is deleted, judged by the zero StatefulSet. -/
theorem helm_deployment_deleted :
    hasLabelsAndAnnotations (helmObject "redpanda").meta migratingRedpanda = true ∧
    (.delete .deployment (helmObject "redpanda") none, .ok) ∈
      (exec {} (tryMigration migratingRedpanda) 0 helmDeploymentStore).calls := by
  decide

def annotatedExternalService : Resource :=
  { meta := { name := "redpanda-external", ns := "default", resourceVersion := 1,
              annotations := [("load-balancer-type", "nlb")] } }

def annotatedStore : Store :=
  { legacyStore with
    resources := fun
      | .service => [legacyObject "redpanda", annotatedExternalService]
      | kind => legacyStore.resources kind }

/-- The Update of the external Service drops its load-balancer annotation. -/
theorem external_service_annotation_dropped :
    (.update .service { annotatedExternalService with
        meta := setHelmLabelsAndAnnotations annotatedExternalService.meta migratingRedpanda }, .ok) ∈
      (exec {} (tryMigration migratingRedpanda) 0 annotatedStore).calls ∧
    annotatedExternalService.meta.annotations.get? "load-balancer-type" = some "nlb" ∧
    (setHelmLabelsAndAnnotations annotatedExternalService.meta migratingRedpanda).annotations.get?
      "load-balancer-type" = none := by
  decide

end RedpandaOperator
