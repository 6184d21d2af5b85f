import RedpandaOperator.Prog

/-!
The readiness latch of `reconcile`. For each dependent, `reconcile` compares its generation with
its observed generation, reads its Ready condition, and hands both to `checkIfResourceIsReady`
together with two comparisons of the flag the Redpanda status records for the dependent. The
comparisons are `ptr.Equal` against `true` and against `false`, so an unset flag counts as
neither: a ready observation leaves it unset, and a not-ready one sets it to false without an
event. From a set flag the latch is the spec's; from an unset one it is silent until the first
not-ready observation and the spec's afterwards.
-/

namespace RedpandaOperator

def resourceTypeHelmRepository : String := "HelmRepository"

def resourceTypeHelmRelease : String := "HelmRelease"

/-- `resourceReadyStrFmt`. -/
def resourceReadyStr (kind ns name : String) : String := s!"{kind} \x27{ns}/{name}\x27 is ready"

/-- `resourceNotReadyStrFmt`. -/
def resourceNotReadyStr (kind ns name : String) : String :=
  s!"{kind} \x27{ns}/{name}\x27 is not ready"

/-- `RedpandaReconciler.event`: an event on the Redpanda, annotated with the revision when there
is one, and a warning for error severity. -/
def event (rp : Redpanda) (revision severity msg : String) : Event where
  kind := "Redpanda"
  key := rp.meta.key
  annotations := if revision = "" then [] else [(revisionKey, revision)]
  eventType := if severity = eventSeverityError then "Warning" else "Normal"
  reason := severity
  message := msg

/-- The flag the status records for the dependent of the kind. -/
def readyFlag (kind : String) (rp : Redpanda) : Option Bool :=
  if kind = resourceTypeHelmRepository then rp.status.helmRepositoryReady
  else if kind = resourceTypeHelmRelease then rp.status.helmReleaseReady
  else none

/-- The `switch kind` of `checkIfResourceIsReady` that stores the flag. -/
def setReadyFlag (kind : String) (v : Bool) (rp : Redpanda) : Redpanda :=
  if kind = resourceTypeHelmRepository then
    { rp with status := { rp.status with helmRepositoryReady := some v } }
  else if kind = resourceTypeHelmRelease then
    { rp with status := { rp.status with helmReleaseReady := some v } }
  else rp

/-- `checkIfResourceIsReady`: whether the dependent is ready, the Redpanda with its flag stored,
and the events emitted. `isGenerationCurrent` is true when the generation is not yet observed. -/
def checkIfResourceIsReady (msgNotReady msgReady kind : String)
    (isGenerationCurrent isStatusConditionReady isStatusReadyNILorTRUE isStatusReadyNILorFALSE : Bool)
    (rp : Redpanda) : Bool × Redpanda × List Event :=
  if isGenerationCurrent || !isStatusConditionReady then
    (false, setReadyFlag kind false rp,
      if isStatusReadyNILorTRUE then
        [event rp rp.status.lastAttemptedRevision eventSeverityInfo msgNotReady]
      else [])
  else if isStatusConditionReady && isStatusReadyNILorFALSE then
    let rp := setReadyFlag kind true rp
    (true, rp, [event rp rp.status.lastAttemptedRevision eventSeverityInfo msgReady])
  else (true, rp, [])

/-- The two dependents whose readiness `reconcile` latches. -/
inductive Dependent where
  | helmRepository
  | helmRelease
deriving DecidableEq, Repr

def Dependent.kind : Dependent → String
  | .helmRepository => resourceTypeHelmRepository
  | .helmRelease => resourceTypeHelmRelease

/-- One observation of a dependent: its generation and its reported status. -/
structure Observation where
  generation : Nat
  status : FluxStatus
deriving DecidableEq, Repr

/-- Ready: the generation is observed and the Ready condition is True. -/
def Observation.ready (o : Observation) : Bool :=
  o.generation == o.status.observedGeneration &&
    isStatusConditionTrue o.status.conditions readyCondition

/-- The block of `reconcile` that latches a dependent named `ns/name`. -/
def checkDependent (d : Dependent) (ns name : String) (o : Observation) (rp : Redpanda) :
    Bool × Redpanda × List Event :=
  checkIfResourceIsReady (resourceNotReadyStr d.kind ns name) (resourceReadyStr d.kind ns name)
    d.kind (o.generation != o.status.observedGeneration)
    (isStatusConditionTrue o.status.conditions readyCondition)
    (readyFlag d.kind rp == some true) (readyFlag d.kind rp == some false) rp

def readyObservation : Observation :=
  ⟨1, ⟨1, [⟨readyCondition, .conditionTrue, "Succeeded", "stored artifact"⟩]⟩⟩

def staleObservation : Observation :=
  ⟨2, ⟨1, [⟨readyCondition, .conditionTrue, "Succeeded", "stored artifact"⟩]⟩⟩

section Latch

variable (d : Dependent) (ns name : String)

@[simp] theorem readyFlag_setReadyFlag (v : Bool) (rp : Redpanda) :
    readyFlag d.kind (setReadyFlag d.kind v rp) = some v := by
  cases d <;> rfl

@[simp] theorem setReadyFlag_meta (kind : String) (v : Bool) (rp : Redpanda) :
    (setReadyFlag kind v rp).meta = rp.meta := by
  unfold setReadyFlag
  split_ifs <;> rfl

@[simp] theorem setReadyFlag_lastAttemptedRevision (kind : String) (v : Bool) (rp : Redpanda) :
    (setReadyFlag kind v rp).status.lastAttemptedRevision = rp.status.lastAttemptedRevision := by
  unfold setReadyFlag
  split_ifs <;> rfl

@[simp] theorem setReadyFlag_helmRelease (kind : String) (v : Bool) (rp : Redpanda) :
    (setReadyFlag kind v rp).status.helmRelease = rp.status.helmRelease := by
  unfold setReadyFlag
  split_ifs <;> rfl

@[simp] theorem setReadyFlag_observedGeneration (kind : String) (v : Bool) (rp : Redpanda) :
    (setReadyFlag kind v rp).status.observedGeneration = rp.status.observedGeneration := by
  unfold setReadyFlag
  split_ifs <;> rfl

@[simp] theorem setReadyFlag_spec (kind : String) (v : Bool) (rp : Redpanda) :
    (setReadyFlag kind v rp).spec = rp.spec := by
  unfold setReadyFlag
  split_ifs <;> rfl

/-- What one observation does: the result is its readiness; a not-ready one stores false and
emits one event from a true flag; a ready one stores true and emits one event from a false flag
and changes nothing otherwise. -/
theorem checkDependent_eq (o : Observation) (rp : Redpanda) :
    checkDependent d ns name o rp =
      if o.ready then
        if readyFlag d.kind rp = some false then
          (true, setReadyFlag d.kind true rp,
            [event rp rp.status.lastAttemptedRevision eventSeverityInfo
              (resourceReadyStr d.kind ns name)])
        else (true, rp, [])
      else
        (false, setReadyFlag d.kind false rp,
          if readyFlag d.kind rp = some true then
            [event rp rp.status.lastAttemptedRevision eventSeverityInfo
              (resourceNotReadyStr d.kind ns name)]
          else []) := by
  unfold checkDependent checkIfResourceIsReady Observation.ready
  cases hg : o.generation == o.status.observedGeneration <;>
    cases hc : isStatusConditionTrue o.status.conditions readyCondition <;>
    simp_all [event]

theorem checkDependent_fst (o : Observation) (rp : Redpanda) :
    (checkDependent d ns name o rp).1 = o.ready := by
  rw [checkDependent_eq]
  split_ifs <;> simp_all

@[simp] theorem checkDependent_meta (o : Observation) (rp : Redpanda) :
    (checkDependent d ns name o rp).2.1.meta = rp.meta := by
  rw [checkDependent_eq]
  split_ifs <;> simp

@[simp] theorem checkDependent_helmRelease (o : Observation) (rp : Redpanda) :
    (checkDependent d ns name o rp).2.1.status.helmRelease = rp.status.helmRelease := by
  rw [checkDependent_eq]
  split_ifs <;> simp

@[simp] theorem checkDependent_observedGeneration (o : Observation) (rp : Redpanda) :
    (checkDependent d ns name o rp).2.1.status.observedGeneration = rp.status.observedGeneration := by
  rw [checkDependent_eq]
  split_ifs <;> simp

@[simp] theorem checkDependent_spec (o : Observation) (rp : Redpanda) :
    (checkDependent d ns name o rp).2.1.spec = rp.spec := by
  rw [checkDependent_eq]
  split_ifs <;> simp

theorem readyFlag_helmRepository (rp : Redpanda) :
    readyFlag Dependent.helmRepository.kind rp = rp.status.helmRepositoryReady := rfl

theorem readyFlag_helmRelease (rp : Redpanda) :
    readyFlag Dependent.helmRelease.kind rp = rp.status.helmReleaseReady := rfl

theorem checkDependent_of_ready (o : Observation) (rp : Redpanda) (ho : o.ready = true)
    (hf : readyFlag d.kind rp ≠ some false) : checkDependent d ns name o rp = (true, rp, []) := by
  simp [checkDependent_eq, ho, hf]

/-- Successive observations of one dependent, the Redpanda carried from step to step: the flag
after each step and the number of events the step emitted. -/
def latchRun : Redpanda → List Observation → List (Option Bool × Nat)
  | _, [] => []
  | rp, o :: os =>
    let r := checkDependent d ns name o rp
    (readyFlag d.kind r.2.1, r.2.2.length) :: latchRun r.2.1 os

/-- The latch as the spec words it: the flag follows each observation, and a step emits one
event exactly when its readiness differs from the previous one. -/
def specLatchRun : Bool → List Bool → List (Option Bool × Nat)
  | _, [] => []
  | prev, r :: rs => (some r, if r = prev then 0 else 1) :: specLatchRun r rs

theorem latchRun_of_set (rp : Redpanda) (b : Bool) (hb : readyFlag d.kind rp = some b)
    (os : List Observation) :
    latchRun d ns name rp os = specLatchRun b (os.map Observation.ready) := by
  induction os generalizing rp b with
  | nil => rfl
  | cons o os ih =>
    simp only [latchRun, List.map_cons, specLatchRun, checkDependent_eq]
    cases hr : o.ready <;> cases b <;> simp_all

/-- From an unset flag, ready observations change nothing and emit nothing. -/
theorem latchRun_of_unset_ready (rp : Redpanda) (hn : readyFlag d.kind rp = none)
    (os : List Observation) (hready : ∀ o ∈ os, o.ready = true) :
    latchRun d ns name rp os = os.map fun _ => (none, 0) := by
  induction os with
  | nil => rfl
  | cons o os ih =>
    simp only [List.mem_cons, forall_eq_or_imp] at hready
    simp [latchRun, checkDependent_eq, hready.1, hn, ih hready.2]

theorem latchRun_of_unset_ready_fresh :
    latchRun .helmRepository "default" "redpanda-repository"
      { meta := { name := "redpanda", ns := "default" } } [readyObservation] = [(none, 0)] :=
  latchRun_of_unset_ready _ _ _ _ (by rfl) _ (by decide)

/-- From an unset flag, the first not-ready observation stores false without an event, and the
latch follows the spec from there. -/
theorem latchRun_of_unset (rp : Redpanda) (hn : readyFlag d.kind rp = none)
    (pre : List Observation) (o : Observation) (post : List Observation)
    (hpre : ∀ p ∈ pre, p.ready = true) (ho : o.ready = false) :
    latchRun d ns name rp (pre ++ o :: post) =
      pre.map (fun _ => (none, 0)) ++ (some false, 0) :: specLatchRun false (post.map Observation.ready) := by
  induction pre with
  | nil =>
    simp only [List.nil_append, latchRun, checkDependent_eq, ho, hn, List.map_nil]
    simp [latchRun_of_set d ns name _ false (readyFlag_setReadyFlag d false rp)]
  | cons p pre ih =>
    simp only [List.mem_cons, forall_eq_or_imp] at hpre
    simp [latchRun, checkDependent_eq, hpre.1, hn, ih hpre.2]

theorem latchRun_of_unset_ready_then_stale :
    latchRun .helmRepository "default" "redpanda-repository"
        { meta := { name := "redpanda", ns := "default" } } ([readyObservation] ++ staleObservation :: []) =
      [readyObservation].map (fun _ => (none, 0)) ++ (some false, 0) :: specLatchRun false [] :=
  latchRun_of_unset _ _ _ _ (by rfl) _ _ _ (by decide) (by decide)

end Latch

/-- From an unset flag, a ready observation leaves the flag unset, and the following not-ready
observation emits no event, where the spec latch records true and emits one event. -/
theorem latchRun_unset_misses_ready_then_not_ready :
    latchRun .helmRepository "default" "redpanda-repository"
        { meta := { name := "redpanda", ns := "default" } } [readyObservation, staleObservation] =
      [(none, 0), (some false, 0)] ∧
    specLatchRun true [readyObservation.ready, staleObservation.ready] =
      [(some true, 0), (some false, 1)] := by
  decide

end RedpandaOperator
