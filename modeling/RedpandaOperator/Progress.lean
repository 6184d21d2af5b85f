import RedpandaOperator.Reconciler

/-!
The paths on which nothing fails. Under the schedule with no fault `exec` is `Prog.eval`, and on a
new Redpanda two invocations install it: the first adds the finalizer, records the generation as
observed and creates the HelmRepository; once Flux reports that ready, the second creates the
HelmRelease its template derives and records the release's name. The second invocation derives the
template from the Redpanda as it then stands, status included, so the result assumes what the
source's error text says of `rp.ValuesJSON()`: it serializes the cluster spec. More generally,
from any store in which the Redpanda is settled behind a ready HelmRepository (`Store.Prepared`),
every run of two invocations or more leaves the release in sync with the template
(`Store.InSync`), whether it was never created, removed, or edited away from the template: one
invocation records the name, the next creates or updates what is missing. On deletion, one
invocation asks for the foreground deletion of the release, and once Flux has removed it the next
lets the Redpanda go. Drift is judged by `helmReleaseRequiresUpdate`, which hands the live chart to
`helmChartRequiresUpdate` as its `template`: a chart version pinned after the release was installed
without one is never applied.
-/

namespace RedpandaOperator

open Prog

/-- `rp.ValuesJSON()` serializes the spec alone ("could not parse clusterSpec to json"). -/
def Api.ValuesOfSpec (api : Api) : Prop :=
  ∀ x y : Redpanda, x.spec = y.spec → api.valuesJSON x = api.valuesJSON y

theorem createHelmReleaseFromTemplate_congr {api : Api} (hv : api.ValuesOfSpec) {x y : Redpanda}
    (hk : x.meta.key = y.meta.key) (hs : x.spec = y.spec) :
    createHelmReleaseFromTemplate api x = createHelmReleaseFromTemplate api y := by
  simp only [ObjectMeta.key, ObjectKey.mk.injEq] at hk
  simp only [createHelmReleaseFromTemplate, hv x y hs, Redpanda.getHelmReleaseName,
    Redpanda.getHelmRepositoryName, hk, hs]

/-- The Redpanda as an invocation finds it once the first has run: managed, not deleted, behind
the finalizer, with migration off and its generation observed. -/
structure Redpanda.Settled (rp : Redpanda) : Prop where
  notDeleted : rp.meta.deletionTimestamp = none
  managed : isRedpandaManaged rp = true
  finalizer : finalizerKey ∈ rp.meta.finalizers
  noMigration : migrationEnabled rp = false
  observed : rp.status.observedGeneration = rp.meta.generation

/-- A status that a successful invocation writes back unchanged: the dependents recorded, neither
readiness flag false, and the Ready condition already the one `reconcile` sets. -/
structure RedpandaStatus.Converged (st : RedpandaStatus) (name : String) : Prop where
  helmRelease : st.helmRelease = name
  helmRepository : st.helmRepository = "redpanda-repository"
  repositoryFlag : st.helmRepositoryReady ≠ some false
  releaseFlag : st.helmReleaseReady ≠ some false
  conditions : setStatusCondition st.conditions
    ⟨readyCondition, .conditionTrue, "RedpandaClusterDeployed", "Redpanda reconciliation succeeded"⟩ =
      st.conditions

theorem Redpanda.Settled.of_meta {y cur : Redpanda}
    (hym : y.meta = { cur.meta with resourceVersion := y.meta.resourceVersion }) (hys : y.spec = cur.spec)
    (hd : cur.meta.deletionTimestamp = none) (hm : isRedpandaManaged cur = true)
    (hf : finalizerKey ∈ cur.meta.finalizers) (hmig : migrationEnabled cur = false)
    (ho : y.status.observedGeneration = cur.meta.generation) : y.Settled where
  notDeleted := by rw [hym]; exact hd
  managed := by unfold isRedpandaManaged at hm ⊢; rw [hym]; exact hm
  finalizer := by rw [hym]; exact hf
  noMigration := by unfold migrationEnabled at hmig ⊢; rw [hys]; exact hmig
  observed := by rw [ho, hym]

/-- What the readiness bookkeeping of `reconcile` leaves of a Redpanda: its metadata and spec, its
observed generation and its release's name. -/
structure Redpanda.Keeps (y x : Redpanda) : Prop where
  meta : y.meta = x.meta
  spec : y.spec = x.spec
  observed : y.status.observedGeneration = x.status.observedGeneration
  helmRelease : y.status.helmRelease = x.status.helmRelease

namespace Redpanda.Keeps

variable {x y : Redpanda}

theorem refl (x : Redpanda) : x.Keeps x := ⟨rfl, rfl, rfl, rfl⟩

theorem setReadyCondition (h : y.Keeps x) (status : ConditionStatus) (reason message : String) :
    (y.setReadyCondition status reason message).Keeps x := ⟨h.1, h.2, h.3, h.4⟩

theorem redpandaReady (h : y.Keeps x) : y.redpandaReady.Keeps x := h.setReadyCondition ..

theorem redpandaNotReady (h : y.Keeps x) (reason message : String) :
    (y.redpandaNotReady reason message).Keeps x := h.setReadyCondition ..

theorem checkDependent (h : y.Keeps x) (d : Dependent) (ns name : String) (o : Observation) :
    (RedpandaOperator.checkDependent d ns name o y).2.1.Keeps x :=
  ⟨by simp [h.meta], by simp [h.spec], by simp [h.observed], by simp [h.helmRelease]⟩

theorem template {api : Api} (hv : api.ValuesOfSpec) (h : y.Keeps x) :
    createHelmReleaseFromTemplate api y = createHelmReleaseFromTemplate api x :=
  createHelmReleaseFromTemplate_congr hv (congrArg ObjectMeta.key h.meta) h.spec

end Redpanda.Keeps

theorem Redpanda.with_helmRelease_of_eq {rp : Redpanda} {n : String} (h : rp.status.helmRelease = n) :
    { rp with status.helmRelease := n } = rp := by
  rw [← h]

/-- The Redpanda under `key` is installed with `t`: a HelmRelease with `t`'s spec stands under the
key, and the Redpanda records the release's name. -/
def Store.Installed (s : Store) (key : ObjectKey) (t : HelmRelease) : Prop :=
  (∃ hr, s.helmReleases key = some hr ∧ hr.spec = t.spec) ∧
    ∃ rp, s.redpandas key = some rp ∧ rp.status.helmRelease = key.name

theorem Store.perform_createHelmRelease_spec {s : Store} {key : ObjectKey} {t : HelmRelease}
    (hk : t.meta.key = key) (hnone : s.helmReleases key = none) :
    ∃ y, (s.perform (.createHelmRelease t)).1.helmReleases key = some y ∧ y.spec = t.spec := by
  simp [Store.perform, hk, hnone, Store.writeHelmRelease, ObjectMeta.finalized]

theorem Store.installed_of_create {s : Store} {rp : Redpanda} {t : HelmRelease} {st : RedpandaStatus}
    (hk : t.meta.key = rp.meta.key) (hnone : s.helmReleases rp.meta.key = none)
    (hd : rp.meta.deletionTimestamp = none) (hst : st.helmRelease = rp.meta.name) :
    ((s.perform (.createHelmRelease t)).1.writeRedpanda rp.meta.key { rp with status := st }).Installed
      rp.meta.key t := by
  constructor
  · exact Store.perform_createHelmRelease_spec hk hnone
  · simpa [Store.writeRedpanda, ObjectMeta.finalized, hd] using hst

theorem Store.writeRedpanda_redpandas_self {s : Store} {key : ObjectKey} {rp : Redpanda}
    (hd : rp.meta.deletionTimestamp = none) :
    (s.writeRedpanda key rp).redpandas key =
      some { rp with meta := { rp.meta with resourceVersion := s.version + 1 } } := by
  simp [Store.writeRedpanda, ObjectMeta.finalized, hd]

/-- The release slot under `key` is empty, or holds a release of that key that the API server
keeps. -/
def Store.ReleaseSlot (s : Store) (key : ObjectKey) : Prop :=
  ∀ x, s.helmReleases key = some x → x.meta.key = key ∧ x.meta.finalized = false

namespace Store.ReleaseSlot

variable {s : Store} {key : ObjectKey}

theorem create (h : s.ReleaseSlot key) {t : HelmRelease} (hk : t.meta.key = key) :
    (s.perform (.createHelmRelease t)).1.ReleaseSlot key := by
  intro x hx
  cases hs : s.helmReleases key with
  | some y =>
    simp only [Store.perform, hk, hs, Option.some.injEq] at hx
    exact hx ▸ h y hs
  | none =>
    simp [Store.perform, hk, hs, Store.writeHelmRelease, ObjectMeta.finalized] at hx
    subst hx
    exact ⟨hk, rfl⟩

theorem update (h : s.ReleaseSlot key) {x : HelmRelease} (hx : s.helmReleases key = some x)
    (sp : HelmReleaseSpec) : (s.perform (.updateHelmRelease { x with spec := sp })).1.ReleaseSlot key := by
  obtain ⟨hk, hf⟩ := h x hx
  intro y hy
  simp only [ObjectMeta.finalized] at hf
  simp [Store.perform, hk, hx, Store.writeHelmRelease, ObjectMeta.finalized, hf] at hy
  subst hy
  exact ⟨hk, by simp [ObjectMeta.finalized, hf]⟩

end Store.ReleaseSlot

theorem Store.perform_updateHelmRelease_spec {s : Store} {key : ObjectKey} {x : HelmRelease}
    (h : s.ReleaseSlot key) (hx : s.helmReleases key = some x) (sp : HelmReleaseSpec) :
    ∃ y, (s.perform (.updateHelmRelease { x with spec := sp })).1.helmReleases key = some y ∧ y.spec = sp := by
  obtain ⟨hk, hf⟩ := h x hx
  simp only [ObjectMeta.finalized] at hf
  simp [Store.perform, hk, hx, Store.writeHelmRelease, ObjectMeta.finalized, hf]

/-- A store from which invocations for `key` take the install path: the Redpanda under the key
settled, its template derivable and its release name empty or its own; the HelmRepository of its
namespace ready; the release slot sound; and a name to install under. -/
structure Store.Prepared (api : Api) (key : ObjectKey) (s : Store) : Prop where
  redpanda : ∃ rp t, s.redpandas key = some rp ∧ rp.meta.key = key ∧ rp.Settled ∧
    (rp.status.helmRelease = "" ∨ rp.status.helmRelease = key.name) ∧
    createHelmReleaseFromTemplate api rp = .ok t
  repository : ∃ repo, s.helmRepositories ⟨key.ns, "redpanda-repository"⟩ = some repo ∧
    Observation.ready ⟨repo.meta.generation, repo.status⟩ = true
  slot : s.ReleaseSlot key
  name : key.name ≠ ""

/-- The Redpanda under `key` records its release's name, and the release under the key is one that
`helmReleaseRequiresUpdate` leaves alone against the Redpanda's template. -/
def Store.InSync (s : Store) (api : Api) (key : ObjectKey) : Prop :=
  ∃ rp hr t, s.redpandas key = some rp ∧ rp.status.helmRelease = key.name ∧
    createHelmReleaseFromTemplate api rp = .ok t ∧ s.helmReleases key = some hr ∧
    helmReleaseRequiresUpdate api hr t = false

@[simp] theorem Client.emitAll_eval (es : List Event) (s : Store) :
    (Client.emitAll es).eval s = ((), s) := by
  induction es with
  | nil => rfl
  | cons e es ih => exact ih

namespace RedpandaReconciler

variable (r : RedpandaReconciler)

theorem patchRedpandaStatus_eval {s : Store} {rp cur : Redpanda}
    (h : s.redpandas rp.meta.key = some cur) :
    (patchRedpandaStatus rp).eval s =
      (none, s.writeRedpanda rp.meta.key { cur with status := rp.status }) := by
  simp [patchRedpandaStatus, Client.getRedpanda, Client.write, Store.perform, h, mergeStatus_self,
    Response.toRedpanda, Response.toError]

theorem reconcileHelmRepository_eval_found {s : Store} {rp : Redpanda} {repo : HelmRepository}
    (h : s.helmRepositories ⟨rp.meta.ns, "redpanda-repository"⟩ = some repo) :
    (r.reconcileHelmRepository rp).eval s =
      (({ rp with status.helmRepository := "redpanda-repository" }, .ok repo), s) := by
  simp [reconcileHelmRepository, Client.getHelmRepository, Store.perform,
    Redpanda.getHelmRepositoryName, h, Response.toHelmRepository]

theorem reconcileHelmRepository_eval_created {s : Store} {rp : Redpanda}
    (h : s.helmRepositories ⟨rp.meta.ns, "redpanda-repository"⟩ = none) :
    (r.reconcileHelmRepository rp).eval s =
      (({ rp with status.helmRepository := "redpanda-repository" },
          .ok (createHelmRepositoryFromTemplate r.api rp)),
        (s.perform (.createHelmRepository (createHelmRepositoryFromTemplate r.api rp))).1) := by
  simp [reconcileHelmRepository, Client.getHelmRepository, Client.write, Client.emit, Store.perform,
    Redpanda.getHelmRepositoryName, h, Response.toHelmRepository, createHelmRepositoryFromTemplate,
    ObjectMeta.key, Response.toError]

theorem createHelmRelease_eval {s : Store} {rp : Redpanda} {t : HelmRelease}
    (ht : createHelmReleaseFromTemplate r.api rp = .ok t) :
    (r.createHelmRelease rp).eval s =
      (({ rp with status.helmRelease := rp.meta.name }, .ok t), (s.perform (.createHelmRelease t)).1) := by
  simp only [createHelmRelease, ht, bind_eq, Client.write_bind, eval_call]
  cases h : s.helmReleases t.meta.key <;>
    simp [helmReleaseCreated, Client.emit, Store.perform, h, Response.toError, Redpanda.getHelmReleaseName]

theorem reconcileHelmRelease_eval_unrecorded {s : Store} {rp : Redpanda} {t : HelmRelease}
    (hrec : rp.status.helmRelease = "") (ht : createHelmReleaseFromTemplate r.api rp = .ok t) :
    (r.reconcileHelmRelease rp).eval s =
      (({ rp with status.helmRelease := rp.meta.name }, .ok t), (s.perform (.createHelmRelease t)).1) := by
  simp only [reconcileHelmRelease, hrec, if_true, r.createHelmRelease_eval ht]

theorem reconcileHelmRelease_eval_missing (hv : r.api.ValuesOfSpec) {s : Store} {rp : Redpanda}
    {t : HelmRelease} (hrec : rp.status.helmRelease ≠ "")
    (h : s.helmReleases ⟨rp.meta.ns, rp.status.helmRelease⟩ = none)
    (ht : createHelmReleaseFromTemplate r.api rp = .ok t) :
    (r.reconcileHelmRelease rp).eval s =
      (({ rp with status.helmRelease := rp.meta.name }, .ok t), (s.perform (.createHelmRelease t)).1) := by
  simp only [reconcileHelmRelease, hrec, if_false, bind_eq, Client.getHelmRelease_bind, eval_call,
    Store.perform, h, Response.toHelmRelease, if_true,
    r.createHelmRelease_eval
      ((createHelmReleaseFromTemplate_congr (x := { rp with status.helmRelease := "" }) (y := rp) hv rfl rfl).trans
        ht)]

theorem reconcileHelmRelease_eval_found {s : Store} {rp : Redpanda} {hr t : HelmRelease}
    (hrec : rp.status.helmRelease ≠ "") (h : s.helmReleases ⟨rp.meta.ns, rp.status.helmRelease⟩ = some hr)
    (hk : hr.meta.key = ⟨rp.meta.ns, rp.status.helmRelease⟩)
    (ht : createHelmReleaseFromTemplate r.api rp = .ok t) :
    (r.reconcileHelmRelease rp).eval s =
      if helmReleaseRequiresUpdate r.api hr t then
        (({ rp with status.helmRelease := rp.meta.name }, .ok { hr with
            meta := { hr.meta with
              generation := if t.spec = hr.spec then hr.meta.generation else hr.meta.generation + 1
              resourceVersion := s.version + 1 }
            spec := t.spec }),
          (s.perform (.updateHelmRelease { hr with spec := t.spec })).1)
      else ((rp, .ok hr), s) := by
  simp only [reconcileHelmRelease, hrec, if_false, bind_eq, Client.getHelmRelease_bind, eval_call,
    Store.perform, h, Response.toHelmRelease, updateHelmRelease, ht]
  split_ifs <;> simp [Client.updateHelmRelease, Client.emit, Store.perform, hk, h, Response.toHelmRelease,
    Redpanda.getHelmReleaseName] <;> assumption

theorem reconcileRelease_eval_of {s s' : Store} {rp rp' : Redpanda} {hr : HelmRelease}
    (he : (r.reconcileHelmRelease rp).eval s = ((rp', .ok hr), s')) :
    ∃ rp'' res, (r.reconcileRelease rp).eval s = ((rp'', res, none), s') ∧ rp''.Keeps rp' := by
  simp only [reconcileRelease, bind_eq, eval_bind, he]
  by_cases hn : hr.meta.name = ""
  · simp only [hn, if_true, pure_eq, eval_pure]
    exact ⟨_, _, rfl, .refl _⟩
  · simp only [hn, if_false, eval_bind, Client.emitAll_eval]
    split
    · exact ⟨_, _, rfl, ((Redpanda.Keeps.refl _).checkDependent ..).redpandaReady⟩
    · exact ⟨_, _, rfl, ((Redpanda.Keeps.refl _).checkDependent ..).redpandaNotReady ..⟩

theorem reconcileDependents_eval_ready {s : Store} {rp : Redpanda} {repo : HelmRepository}
    (hrepo : s.helmRepositories ⟨rp.meta.ns, "redpanda-repository"⟩ = some repo)
    (hready : Observation.ready ⟨repo.meta.generation, repo.status⟩ = true) :
    ∃ rp₁, rp₁.Keeps rp ∧ (r.reconcileDependents rp).eval s = (r.reconcileRelease rp₁).eval s := by
  simp only [reconcileDependents, bind_eq, eval_bind, r.reconcileHelmRepository_eval_found hrepo,
    Client.emitAll_eval, checkDependent_fst, hready, if_true]
  refine ⟨_, ?_, rfl⟩
  apply Redpanda.Keeps.checkDependent
  exact ⟨rfl, rfl, rfl, rfl⟩

theorem Reconcile_eval_of_release {s s' : Store} {rp : Redpanda} {repo : HelmRepository}
    (hrp : s.redpandas rp.meta.key = some rp) (hset : rp.Settled)
    (hrepo : s.helmRepositories ⟨rp.meta.ns, "redpanda-repository"⟩ = some repo)
    (hready : Observation.ready ⟨repo.meta.generation, repo.status⟩ = true)
    (hrel : ∀ rp₁ : Redpanda, rp₁.Keeps rp → ∃ hr,
      (r.reconcileHelmRelease rp₁).eval s = (({ rp₁ with status.helmRelease := rp₁.meta.name }, .ok hr), s'))
    (hs' : s'.redpandas rp.meta.key = some rp) :
    ∃ st : RedpandaStatus, st.helmRelease = rp.meta.name ∧ st.observedGeneration = rp.meta.generation ∧
      ((r.Reconcile rp.meta.key).eval s).2 = s'.writeRedpanda rp.meta.key { rp with status := st } := by
  obtain ⟨hd, hm, hf, hmig, hgen⟩ := hset
  obtain ⟨rp₁, hk₁, hdep⟩ := r.reconcileDependents_eval_ready (s := s) hrepo hready
  obtain ⟨hr, he⟩ := hrel rp₁ hk₁
  obtain ⟨rp₂, res, hrr, hk₂⟩ := r.reconcileRelease_eval_of he
  have hm₂ : rp₂.meta = rp.meta := hk₂.meta.trans hk₁.meta
  simp only [Reconcile, reconcileObject, reconcileManaged, reconcile, bind_eq, eval_bind, Client.getRedpanda,
    eval_call, Store.perform_getRedpanda_of_some hrp, Response.toRedpanda, hd, Option.isSome_none, hm, hmig,
    hgen, ne_eq, not_true_eq_false, if_false, ObjectMeta.containsFinalizer_iff, hf, if_true, Bool.not_true,
    Bool.false_eq_true, pure_eq, eval_pure, hdep, hrr, patchRedpandaStatus_eval (hm₂ ▸ hs' :), hm₂]
  exact ⟨_, hk₂.helmRelease.trans (congrArg ObjectMeta.name hk₁.meta),
    hk₂.observed.trans (hk₁.observed.trans hgen), rfl⟩

theorem reconcileDependents_eval_repository_created {s : Store} {rp : Redpanda}
    (h : s.helmRepositories ⟨rp.meta.ns, "redpanda-repository"⟩ = none) :
    ∃ rp' res, (r.reconcileDependents rp).eval s =
        ((rp', res, none), (s.perform (.createHelmRepository (createHelmRepositoryFromTemplate r.api rp))).1) ∧
      rp'.Keeps rp := by
  have hready : Observation.ready ⟨(createHelmRepositoryFromTemplate r.api rp).meta.generation,
      (createHelmRepositoryFromTemplate r.api rp).status⟩ = false := rfl
  simp only [reconcileDependents, bind_eq, eval_bind, r.reconcileHelmRepository_eval_created h,
    Client.emitAll_eval, checkDependent_fst, hready, Bool.false_eq_true, if_false, pure_eq, eval_pure]
  exact ⟨_, _, rfl, by constructor <;> simp [Redpanda.redpandaNotReady, Redpanda.setReadyCondition]⟩

theorem reconcileManaged_eval_repository_created {s : Store} {rp cur : Redpanda}
    (hcur : s.redpandas rp.meta.key = some cur) (hd : cur.meta.deletionTimestamp = none)
    (hmig : migrationEnabled rp = false) (hg : rp.status.observedGeneration ≠ rp.meta.generation)
    (h : s.helmRepositories ⟨rp.meta.ns, "redpanda-repository"⟩ = none) :
    (∃ y, ((r.reconcileManaged rp).eval s).2.redpandas rp.meta.key = some y ∧
      y.meta = { cur.meta with resourceVersion := y.meta.resourceVersion } ∧ y.spec = cur.spec ∧
      y.status.observedGeneration = rp.meta.generation ∧ y.status.helmRelease = rp.status.helmRelease) ∧
    (∃ repo, ((r.reconcileManaged rp).eval s).2.helmRepositories ⟨rp.meta.ns, "redpanda-repository"⟩ =
      some repo ∧ repo.meta.generation = 1) ∧
    ((r.reconcileManaged rp).eval s).2.helmReleases = s.helmReleases := by
  let rp₁ := ({ rp with status.observedGeneration := rp.meta.generation }).redpandaProgressing
  let s₁ := s.writeRedpanda rp.meta.key { cur with status := rp₁.status }
  have hcur₀ : s.redpandas rp₁.meta.key = some cur := hcur
  obtain ⟨rp', res, he, ⟨hm', -, ho', hr'⟩⟩ := r.reconcileDependents_eval_repository_created
    (show s₁.helmRepositories ⟨rp₁.meta.ns, "redpanda-repository"⟩ = none from h)
  have hrec : (r.reconcile rp).eval s = ((rp', res, none),
      (s₁.perform (.createHelmRepository (createHelmRepositoryFromTemplate r.api rp₁))).1) := by
    simp only [reconcile, hg, ne_eq, not_false_eq_true, if_true, bind_eq, eval_bind,
      patchRedpandaStatus_eval hcur₀]
    exact he
  have hcur' : (s₁.perform (.createHelmRepository (createHelmRepositoryFromTemplate r.api rp₁))).1.redpandas
      rp'.meta.key =
        some { cur with meta := { cur.meta with resourceVersion := s.version + 1 }, status := rp₁.status } := by
    rw [Store.perform_redpandas (show (Call.createHelmRepository _).writesRedpanda = false from rfl), hm']
    simp [s₁, rp₁, Store.writeRedpanda, ObjectMeta.finalized, hd, Redpanda.redpandaProgressing,
      Redpanda.setReadyCondition]
  simp only [reconcileManaged, hmig, bind_eq, eval_bind, Bool.false_eq_true, if_false, pure_eq, eval_pure,
    Prog.pure_bind, hrec, patchRedpandaStatus_eval hcur']
  simp [s₁, rp₁, Store.writeRedpanda, Store.perform, h, Store.writeHelmRepository,
    createHelmRepositoryFromTemplate, Redpanda.getHelmRepositoryName, ObjectMeta.key, hm',
    ObjectMeta.finalized, hd, ho', hr', Redpanda.redpandaProgressing, Redpanda.setReadyCondition]

/-- The first invocation on a new Redpanda, whether or not it was created with the finalizer,
settles it and creates its HelmRepository at generation 1. -/
theorem Reconcile_eval_fresh (rp : Redpanda) (hm : isRedpandaManaged rp = true)
    (hmig : migrationEnabled rp = false) :
    (∃ y, ((r.Reconcile rp.meta.key).eval (Store.initial rp)).2.redpandas rp.meta.key = some y ∧
      y.meta.key = rp.meta.key ∧ y.spec = rp.spec ∧ y.Settled ∧ y.status.helmRelease = "") ∧
    (∃ repo, ((r.Reconcile rp.meta.key).eval (Store.initial rp)).2.helmRepositories
      ⟨rp.meta.ns, "redpanda-repository"⟩ = some repo ∧ repo.meta.generation = 1) ∧
    ((r.Reconcile rp.meta.key).eval (Store.initial rp)).2.helmReleases rp.meta.key = none := by
  let rp₀ : Redpanda := { rp with
    meta := { rp.meta with generation := 1, resourceVersion := 1, deletionTimestamp := none }
    status := {} }
  have h₀ : (Store.initial rp).redpandas rp.meta.key = some rp₀ := by simp [Store.initial, rp₀]
  have hm₀ : isRedpandaManaged rp₀ = true := hm
  simp only [Reconcile, bind_eq, eval_bind, Client.getRedpanda, eval_call,
    Store.perform_getRedpanda_of_some h₀, Response.toRedpanda, eval_pure, reconcileObject,
    Option.isSome_none, Bool.false_eq_true, if_false, hm₀, Bool.not_true]
  by_cases hf : finalizerKey ∈ rp.meta.finalizers
  · obtain ⟨⟨y, hy, hym, hys, hyo, hyr⟩, hrepo, hrel⟩ := r.reconcileManaged_eval_repository_created
      (show (Store.initial rp).redpandas rp₀.meta.key = some rp₀ from h₀) rfl hmig (by simp [rp₀]) rfl
    simp only [ObjectMeta.containsFinalizer_iff, show finalizerKey ∈ rp₀.meta.finalizers from hf, if_true]
    exact ⟨⟨y, hy, (congrArg ObjectMeta.key hym :), hys, .of_meta hym hys rfl hm hf hmig hyo, hyr⟩, hrepo,
      by rw [hrel]; rfl⟩
  · let rp₁ : Redpanda :=
      { rp₀ with meta := { rp₀.meta with finalizers := rp₀.meta.finalizers ++ [finalizerKey] } }
    have hpatched : { rp₀ with meta := rp₀.meta.addFinalizer finalizerKey } = rp₁ := by
      simp [rp₁, ObjectMeta.addFinalizer, rp₀, hf]
    have hpatch : (Store.initial rp).perform (.patchRedpanda rp₀ rp₁) =
        ((Store.initial rp).writeRedpanda rp.meta.key rp₁, .ok) := by
      simp [Store.perform, rp₁, rp₀, Store.initial, ObjectMeta.key, mergeMeta]
    have h₁ : ((Store.initial rp).writeRedpanda rp.meta.key rp₁).redpandas rp₁.meta.key =
        some { rp₁ with meta := { rp₁.meta with resourceVersion := 2 } } := by
      simp [Store.writeRedpanda, ObjectMeta.finalized, Store.initial, rp₁, rp₀, ObjectMeta.key]
    simp only [ObjectMeta.containsFinalizer_iff, show finalizerKey ∉ rp₀.meta.finalizers from hf, if_false,
      Client.write_bind, hpatched, eval_call, hpatch, Response.toError]
    obtain ⟨⟨y, hy, hym, hys, hyo, hyr⟩, hrepo, hrel⟩ :=
      r.reconcileManaged_eval_repository_created h₁ rfl hmig (by simp [rp₁, rp₀]) rfl
    exact ⟨⟨y, hy, (congrArg ObjectMeta.key hym :), hys, .of_meta hym hys rfl hm (by simp [rp₁]) hmig hyo, hyr⟩,
      hrepo, by rw [hrel]; rfl⟩

theorem Reconcile_eval_settled (hv : r.api.ValuesOfSpec) {s : Store} {rp : Redpanda}
    {repo : HelmRepository} {t : HelmRelease}
    (hrp : s.redpandas rp.meta.key = some rp) (hset : rp.Settled) (hrec : rp.status.helmRelease = "")
    (hrepo : s.helmRepositories ⟨rp.meta.ns, "redpanda-repository"⟩ = some repo)
    (hready : Observation.ready ⟨repo.meta.generation, repo.status⟩ = true)
    (ht : createHelmReleaseFromTemplate r.api rp = .ok t) :
    ∃ st : RedpandaStatus, st.helmRelease = rp.meta.name ∧
      ((r.Reconcile rp.meta.key).eval s).2 =
        (s.perform (.createHelmRelease t)).1.writeRedpanda rp.meta.key { rp with status := st } := by
  obtain ⟨st, hst, -, he⟩ := r.Reconcile_eval_of_release hrp hset hrepo hready
    (fun _ hk => ⟨t, r.reconcileHelmRelease_eval_unrecorded (hk.helmRelease.trans hrec) ((hk.template hv).trans ht)⟩)
    (by rw [Store.perform_redpandas (show (Call.createHelmRelease t).writesRedpanda = false from rfl)]; exact hrp)
  exact ⟨st, hst, he⟩

/-- From any store in which the Redpanda is settled, the HelmRepository of its namespace ready and
no HelmRelease under its key, an invocation with no failing call creates the HelmRelease the
template derives and records its name. -/
theorem Reconcile_installs_release (hv : r.api.ValuesOfSpec) {s : Store} {rp : Redpanda}
    {repo : HelmRepository} {t : HelmRelease}
    (hrp : s.redpandas rp.meta.key = some rp) (hset : rp.Settled) (hrec : rp.status.helmRelease = "")
    (hrepo : s.helmRepositories ⟨rp.meta.ns, "redpanda-repository"⟩ = some repo)
    (hready : Observation.ready ⟨repo.meta.generation, repo.status⟩ = true)
    (hnone : s.helmReleases rp.meta.key = none) (ht : createHelmReleaseFromTemplate r.api rp = .ok t) :
    ((r.Reconcile rp.meta.key).eval s).2.Installed rp.meta.key t := by
  obtain ⟨st, hst, he⟩ := r.Reconcile_eval_settled hv hrp hset hrec hrepo hready ht
  rw [he]
  exact Store.installed_of_create (createHelmReleaseFromTemplate_key r.api rp t ht) hnone hset.notDeleted hst

theorem updateHelmRelease_eval_in_sync {s : Store} {rp : Redpanda} {hr t : HelmRelease}
    (ht : createHelmReleaseFromTemplate r.api rp = .ok t) (hsync : helmReleaseRequiresUpdate r.api hr t = false) :
    (r.updateHelmRelease rp hr).eval s = ((rp, .ok hr), s) := by
  simp [updateHelmRelease, ht, hsync]

theorem reconcileRelease_eval_converged {s : Store} {rp : Redpanda} {hr t : HelmRelease}
    (hrec : rp.status.helmRelease ≠ "") (h : s.helmReleases ⟨rp.meta.ns, rp.status.helmRelease⟩ = some hr)
    (hname : hr.meta.name ≠ "") (hready : Observation.ready ⟨hr.meta.generation, hr.status⟩ = true)
    (hflag : rp.status.helmReleaseReady ≠ some false) (ht : createHelmReleaseFromTemplate r.api rp = .ok t)
    (hsync : helmReleaseRequiresUpdate r.api hr t = false) :
    (r.reconcileRelease rp).eval s = ((rp.redpandaReady, {}, none), s) := by
  simp only [reconcileRelease, reconcileHelmRelease, hrec, if_false, bind_eq, eval_bind, Client.getHelmRelease,
    eval_call, Store.perform, h, Response.toHelmRelease, eval_pure, r.updateHelmRelease_eval_in_sync ht hsync,
    hname, checkDependent_of_ready _ _ _ _ _ hready (by rwa [readyFlag_helmRelease]), Client.emitAll_eval,
    if_true, pure_eq]

/-- At the converged state, with both dependents ready and the release in sync with its template, an
invocation with no failing call writes nothing but the status patch, which writes the Redpanda
back unchanged: only its version moves. -/
theorem Reconcile_keeps_converged (hv : r.api.ValuesOfSpec) {s : Store} {rp : Redpanda}
    {repo : HelmRepository} {hr t : HelmRelease}
    (hrp : s.redpandas rp.meta.key = some rp) (hset : rp.Settled) (hst : rp.status.Converged rp.meta.name)
    (hname : rp.meta.name ≠ "")
    (hrepo : s.helmRepositories ⟨rp.meta.ns, "redpanda-repository"⟩ = some repo)
    (hrepoReady : Observation.ready ⟨repo.meta.generation, repo.status⟩ = true)
    (hrel : s.helmReleases rp.meta.key = some hr) (hk : hr.meta.key = rp.meta.key)
    (hrelReady : Observation.ready ⟨hr.meta.generation, hr.status⟩ = true)
    (ht : createHelmReleaseFromTemplate r.api rp = .ok t) (hsync : helmReleaseRequiresUpdate r.api hr t = false) :
    ((r.Reconcile rp.meta.key).eval s).2 = s.writeRedpanda rp.meta.key rp := by
  obtain ⟨hd, hm, hf, hmig, hgen⟩ := hset
  obtain ⟨hrec, hrr, hrf, hlf, hc⟩ := hst
  let rp₁ : Redpanda := { rp with status.helmRepository := "redpanda-repository" }
  have hrel₁ : s.helmReleases ⟨rp₁.meta.ns, rp₁.status.helmRelease⟩ = some hr := by
    simpa only [rp₁, hrec] using hrel
  have hname₁ : hr.meta.name ≠ "" := (congrArg ObjectKey.name hk).trans_ne hname
  have hdep : (r.reconcileDependents rp).eval s = ((rp₁.redpandaReady, {}, none), s) := by
    simp only [reconcileDependents, bind_eq, eval_bind, r.reconcileHelmRepository_eval_found hrepo,
      checkDependent_of_ready _ _ _ _ rp₁ hrepoReady (by rwa [readyFlag_helmRepository]), Client.emitAll_eval,
      if_true]
    exact r.reconcileRelease_eval_converged (by simp [rp₁, hrec, hname]) hrel₁ hname₁ hrelReady hlf
      ((createHelmReleaseFromTemplate_congr (x := rp₁) (y := rp) hv rfl rfl).trans ht) hsync
  have hstatus : rp₁.redpandaReady.status = rp.status := by
    simp only [rp₁, Redpanda.redpandaReady, Redpanda.setReadyCondition, hc, ← hrr]
  simp only [Reconcile, reconcileObject, reconcileManaged, reconcile, bind_eq, eval_bind, Client.getRedpanda,
    eval_call, Store.perform_getRedpanda_of_some hrp, Response.toRedpanda, hd, Option.isSome_none, hm, hmig,
    hgen, ne_eq, not_true_eq_false, if_false, ObjectMeta.containsFinalizer_iff, hf, if_true, Bool.not_true,
    Bool.false_eq_true, pure_eq, eval_pure, hdep,
    patchRedpandaStatus_eval (show s.redpandas rp₁.redpandaReady.meta.key = some rp from hrp), hstatus]
  rfl

/-- One invocation from a prepared store: the release step leaves the Redpandas and the
HelmRepositories as they were and the slot sound, and when the name was already recorded, a release
in sync with the template; the status patch then records the name. -/
theorem Reconcile_eval_prepared (hv : r.api.ValuesOfSpec) {s : Store} {key : ObjectKey} {rp : Redpanda}
    {t : HelmRelease} (hp : s.Prepared r.api key) (hrp : s.redpandas key = some rp)
    (ht : createHelmReleaseFromTemplate r.api rp = .ok t) :
    ∃ (s' : Store) (st : RedpandaStatus), s'.redpandas = s.redpandas ∧
      s'.helmRepositories = s.helmRepositories ∧ s'.ReleaseSlot key ∧
      (rp.status.helmRelease = key.name →
        ∃ x, s'.helmReleases key = some x ∧ helmReleaseRequiresUpdate r.api x t = false) ∧
      st.helmRelease = key.name ∧ st.observedGeneration = rp.meta.generation ∧
      ((r.Reconcile key).eval s).2 = s'.writeRedpanda key { rp with status := st } := by
  obtain ⟨⟨rp', t', hrp', hk, hset, hrec, -⟩, ⟨repo, hrepo, hready⟩, hslot, hname⟩ := hp
  obtain rfl : rp = rp' := Option.some.inj (hrp.symm.trans hrp')
  subst hk
  suffices ∃ s' : Store, s'.redpandas = s.redpandas ∧ s'.helmRepositories = s.helmRepositories ∧
      s'.ReleaseSlot rp.meta.key ∧
      (rp.status.helmRelease = rp.meta.name →
        ∃ x, s'.helmReleases rp.meta.key = some x ∧ helmReleaseRequiresUpdate r.api x t = false) ∧
      ∀ rp₁ : Redpanda, rp₁.Keeps rp → ∃ hr, (r.reconcileHelmRelease rp₁).eval s =
        (({ rp₁ with status.helmRelease := rp₁.meta.name }, .ok hr), s') by
    obtain ⟨s', hs', hrepo', hslot', hsync, hrel⟩ := this
    obtain ⟨st, hst, hobs, he⟩ := r.Reconcile_eval_of_release hrp hset hrepo hready hrel (hs' ▸ hrp)
    exact ⟨s', st, hs', hrepo', hslot', hsync, hst, hobs, he⟩
  have ht₁ (rp₁ : Redpanda) (hk : rp₁.Keeps rp) : createHelmReleaseFromTemplate r.api rp₁ = .ok t :=
    (hk.template hv).trans ht
  have hkt := createHelmReleaseFromTemplate_key r.api rp t ht
  have hcreate := Store.perform_redpandas (show (Call.createHelmRelease t).writesRedpanda = false from rfl) s
  have hcreate' :=
    Store.perform_helmRepositories (show (Call.createHelmRelease t).writesHelmRepository = false from rfl) s
  rcases hrec with hrec | hrec
  case inl =>
    -- no name recorded: the Create
    exact ⟨_, hcreate, hcreate', hslot.create hkt,
      fun h => absurd (hrec ▸ h).symm hname,
      fun rp₁ hk => ⟨t, r.reconcileHelmRelease_eval_unrecorded (hk.helmRelease.trans hrec) (ht₁ rp₁ hk)⟩⟩
  case inr =>
    have hkey (rp₁ : Redpanda) (hk : rp₁.Keeps rp) :
        (⟨rp₁.meta.ns, rp₁.status.helmRelease⟩ : ObjectKey) = rp.meta.key := by
      rw [hk.meta, hk.helmRelease, hrec]; rfl
    have hrec₁ (rp₁ : Redpanda) (hk : rp₁.Keeps rp) : rp₁.status.helmRelease ≠ "" :=
      hk.helmRelease.trans hrec ▸ hname
    cases hx : s.helmReleases rp.meta.key with
    | none =>
      -- the recorded release is gone: the Create again
      obtain ⟨y, hy, hys⟩ := Store.perform_createHelmRelease_spec hkt hx
      exact ⟨_, hcreate, hcreate', hslot.create hkt, fun _ => ⟨y, hy, helmReleaseRequiresUpdate_of_spec _ hys⟩,
        fun rp₁ hk => ⟨t, r.reconcileHelmRelease_eval_missing hv (hrec₁ rp₁ hk) (hkey rp₁ hk ▸ hx) (ht₁ rp₁ hk)⟩⟩
    | some x =>
      have hfound (rp₁ : Redpanda) (hk : rp₁.Keeps rp) := r.reconcileHelmRelease_eval_found (s := s)
        (hrec₁ rp₁ hk) (hkey rp₁ hk ▸ hx) ((hslot x hx).1.trans (hkey rp₁ hk).symm) (ht₁ rp₁ hk)
      by_cases hu : helmReleaseRequiresUpdate r.api x t
      · -- the Update to the template's spec
        obtain ⟨y, hy, hys⟩ := Store.perform_updateHelmRelease_spec hslot hx t.spec
        exact ⟨_, Store.perform_redpandas (show (Call.updateHelmRelease _).writesRedpanda = false from rfl) s,
          Store.perform_helmRepositories (show (Call.updateHelmRelease _).writesHelmRepository = false from rfl) s,
          hslot.update hx _,
          fun _ => ⟨y, hy, helmReleaseRequiresUpdate_of_spec _ hys⟩,
          fun rp₁ hk => ⟨_, by rw [hfound rp₁ hk, if_pos hu]⟩⟩
      · -- already in sync: nothing is written
        refine ⟨s, rfl, rfl, hslot, fun _ => ⟨x, hx, eq_false_of_ne_true hu⟩, fun rp₁ hk => ⟨x, ?_⟩⟩
        rw [hfound rp₁ hk, if_neg hu, Redpanda.with_helmRelease_of_eq
          (hk.helmRelease.trans (hrec.trans (congrArg ObjectMeta.name hk.meta).symm))]

theorem Reconcile_prepared (hv : r.api.ValuesOfSpec) {s : Store} {key : ObjectKey}
    (hp : s.Prepared r.api key) :
    ((r.Reconcile key).eval s).2.Prepared r.api key ∧
      ∃ rp, ((r.Reconcile key).eval s).2.redpandas key = some rp ∧ rp.status.helmRelease = key.name := by
  obtain ⟨rp, t, hrp, hk, hset, -, ht⟩ := hp.redpanda
  obtain ⟨repo, hrepo, hready⟩ := hp.repository
  obtain ⟨s', st, -, hrepo', hslot', -, hst, hobs, he⟩ := r.Reconcile_eval_prepared hv hp hrp ht
  have hy := @Store.writeRedpanda_redpandas_self s' key { rp with status := st } hset.notDeleted
  rw [he]
  exact ⟨⟨⟨_, t, hy, hk, .of_meta rfl rfl hset.1 hset.2 hset.3 hset.4 hobs, .inr hst,
      (createHelmReleaseFromTemplate_congr hv (by rfl) (by rfl)).trans ht⟩,
    ⟨repo, (congrFun hrepo' _).trans hrepo, hready⟩, hslot', hp.name⟩, _, hy, hst⟩

/-- An invocation from a prepared store whose Redpanda already records its release's name leaves the
release in sync with the template. -/
theorem Reconcile_syncs (hv : r.api.ValuesOfSpec) {s : Store} {key : ObjectKey}
    (hp : s.Prepared r.api key)
    (hrec : ∃ rp, s.redpandas key = some rp ∧ rp.status.helmRelease = key.name) :
    ((r.Reconcile key).eval s).2.InSync r.api key := by
  obtain ⟨rp, t, hrp, -, hset, -, ht⟩ := hp.redpanda
  obtain ⟨rp', hrp', hrec'⟩ := hrec
  obtain rfl : rp = rp' := Option.some.inj (hrp.symm.trans hrp')
  obtain ⟨s', st, -, -, -, hsync, hst, -, he⟩ := r.Reconcile_eval_prepared hv hp hrp ht
  obtain ⟨x, hx, hxs⟩ := hsync hrec'
  rw [he]
  exact ⟨_, x, t, Store.writeRedpanda_redpandas_self hset.notDeleted, hst,
    (createHelmReleaseFromTemplate_congr hv (by rfl) (by rfl)).trans ht, hx, hxs⟩

theorem deleteHelmRelease_eval_gone {s : Store} {rp : Redpanda}
    (h : rp.status.helmRelease = "" ∨ s.helmReleases ⟨rp.meta.ns, rp.status.helmRelease⟩ = none) :
    ∃ rp', (deleteHelmRelease rp).eval s = ((rp', none), s) ∧ rp'.meta = rp.meta ∧ rp'.spec = rp.spec := by
  by_cases hrec : rp.status.helmRelease = ""
  · simp only [deleteHelmRelease, hrec, if_true, pure_eq, eval_pure]
    exact ⟨_, rfl, rfl, rfl⟩
  · simp [deleteHelmRelease, hrec, Client.getHelmRelease, Store.perform, h.resolve_left hrec,
      Response.toHelmRelease]

theorem deleteHelmRelease_eval_found {s : Store} {rp : Redpanda} {hr : HelmRelease}
    (hrec : rp.status.helmRelease ≠ "") (h : s.helmReleases ⟨rp.meta.ns, rp.status.helmRelease⟩ = some hr)
    (hk : hr.meta.key = ⟨rp.meta.ns, rp.status.helmRelease⟩) :
    (deleteHelmRelease rp).eval s = ((rp, some (.text "wait for helm release deletion")),
      (s.perform (.deleteHelmRelease hr (some .foreground))).1) := by
  simp [deleteHelmRelease, hrec, Client.getHelmRelease, Client.write, Store.perform, h, hk,
    Response.toHelmRelease, Response.toError]

theorem Reconcile_removes_deleted {s : Store} {rp : Redpanda}
    (hrp : s.redpandas rp.meta.key = some rp) (hdel : rp.meta.deletionTimestamp.isSome)
    (hfk : finalizerKey ∈ rp.meta.finalizers) (honly : ∀ f ∈ rp.meta.finalizers, f = finalizerKey)
    (h : rp.status.helmRelease = "" ∨ s.helmReleases ⟨rp.meta.ns, rp.status.helmRelease⟩ = none) :
    ((r.Reconcile rp.meta.key).eval s).2.redpandas rp.meta.key = none := by
  obtain ⟨rp', he, hm, -⟩ := deleteHelmRelease_eval_gone h
  have hfin : (rp.meta.removeFinalizer finalizerKey).finalizers = [] := by
    simpa [ObjectMeta.removeFinalizer, List.filter_eq_nil_iff] using honly
  simp only [Reconcile, reconcileObject, reconcileDelete, bind_eq, eval_bind, Client.getRedpanda, eval_call,
    Store.perform_getRedpanda_of_some hrp, Response.toRedpanda, eval_pure, hdel, if_true, he, hm,
    ObjectMeta.containsFinalizer_iff, hfk, Client.write_bind]
  simp [Store.perform, hm, hrp, Store.writeRedpanda, ObjectMeta.finalized, hdel, hfin, Response.toError]

theorem Reconcile_eval_deleting {s : Store} {rp : Redpanda} {hr : HelmRelease}
    (hrp : s.redpandas rp.meta.key = some rp) (hdel : rp.meta.deletionTimestamp.isSome)
    (hrec : rp.status.helmRelease ≠ "") (h : s.helmReleases ⟨rp.meta.ns, rp.status.helmRelease⟩ = some hr)
    (hk : hr.meta.key = ⟨rp.meta.ns, rp.status.helmRelease⟩) :
    ((r.Reconcile rp.meta.key).eval s).2 = (s.perform (.deleteHelmRelease hr (some .foreground))).1 := by
  simp only [Reconcile, reconcileObject, reconcileDelete, bind_eq, eval_bind, Client.getRedpanda, eval_call,
    Store.perform_getRedpanda_of_some hrp, Response.toRedpanda, eval_pure, hdel, if_true,
    deleteHelmRelease_eval_found hrec h hk, pure_eq]

end RedpandaReconciler

def settledRedpanda : Redpanda :=
  { meta := { name := "redpanda", ns := "default", finalizers := [finalizerKey], generation := 1 }
    status := { observedGeneration := 1 } }

def readyRepository : HelmRepository :=
  { meta := { name := "redpanda-repository", ns := "default", generation := 1 }
    spec := ⟨30, "redpanda-charts"⟩
    status := ⟨1, [⟨readyCondition, .conditionTrue, "Succeeded", "stored artifact"⟩]⟩ }

def settledStore : Store where
  redpandas := Function.update (fun _ => none) demoKey (some settledRedpanda)
  helmRepositories := Function.update (fun _ => none) ⟨"default", "redpanda-repository"⟩ (some readyRepository)
  helmReleases _ := none
  resources _ := []
  version := 3

theorem settledStore_installs_release :
    settledStore.redpandas settledRedpanda.meta.key = some settledRedpanda ∧ settledRedpanda.Settled ∧
      settledRedpanda.status.helmRelease = "" ∧
      settledStore.helmRepositories ⟨"default", "redpanda-repository"⟩ = some readyRepository ∧
      Observation.ready ⟨readyRepository.meta.generation, readyRepository.status⟩ = true ∧
      settledStore.helmReleases settledRedpanda.meta.key = none ∧
      ∃ t, createHelmReleaseFromTemplate demoReconciler.api settledRedpanda = .ok t ∧
        ((demoReconciler.Reconcile settledRedpanda.meta.key).eval settledStore).2.Installed
          settledRedpanda.meta.key t :=
  have hset : settledRedpanda.Settled := ⟨rfl, by decide, by decide, rfl, rfl⟩
  ⟨rfl, hset, rfl, rfl, by decide, rfl, _, rfl,
    demoReconciler.Reconcile_installs_release (fun _ _ _ => rfl) rfl hset rfl rfl (by decide) rfl rfl⟩

def installedRelease : HelmRelease :=
  { meta := { name := "redpanda", ns := "default", generation := 1 }
    spec := { chart := ⟨{ chart := "redpanda", version := "", interval := some 60,
                          sourceRef := ⟨"HelmRepository", "redpanda-repository", "default"⟩ }⟩
              values := "\x7b\x7d", interval := 30, timeout := some 900,
              upgrade := some { remediation := some ⟨1, some "rollback"⟩ } }
    status := ⟨1, [⟨readyCondition, .conditionTrue, "InstallSucceeded", "Helm install succeeded"⟩]⟩ }

def convergedRedpanda : Redpanda :=
  { settledRedpanda with
    status := { observedGeneration := 1, helmRelease := "redpanda", helmRepository := "redpanda-repository",
                conditions := [⟨readyCondition, .conditionTrue, "RedpandaClusterDeployed",
                  "Redpanda reconciliation succeeded"⟩] } }

def convergedStore : Store :=
  { settledStore with
    redpandas := Function.update (fun _ => none) demoKey (some convergedRedpanda)
    helmReleases := Function.update (fun _ => none) demoKey (some installedRelease) }

theorem convergedStore_kept :
    convergedStore.redpandas convergedRedpanda.meta.key = some convergedRedpanda ∧
      convergedRedpanda.Settled ∧ convergedRedpanda.status.Converged convergedRedpanda.meta.name ∧
      convergedRedpanda.meta.name ≠ "" ∧
      convergedStore.helmRepositories ⟨"default", "redpanda-repository"⟩ = some readyRepository ∧
      Observation.ready ⟨readyRepository.meta.generation, readyRepository.status⟩ = true ∧
      convergedStore.helmReleases convergedRedpanda.meta.key = some installedRelease ∧
      installedRelease.meta.key = convergedRedpanda.meta.key ∧
      Observation.ready ⟨installedRelease.meta.generation, installedRelease.status⟩ = true ∧
      ∃ t, createHelmReleaseFromTemplate demoReconciler.api convergedRedpanda = .ok t ∧
        helmReleaseRequiresUpdate demoReconciler.api installedRelease t = false ∧
        ((demoReconciler.Reconcile convergedRedpanda.meta.key).eval convergedStore).2 =
          convergedStore.writeRedpanda convergedRedpanda.meta.key convergedRedpanda :=
  have hset : convergedRedpanda.Settled := ⟨rfl, by decide, by decide, rfl, rfl⟩
  have hst : convergedRedpanda.status.Converged convergedRedpanda.meta.name :=
    ⟨rfl, rfl, by decide, by decide, by decide⟩
  ⟨rfl, hset, hst, by decide, rfl, by decide, rfl, rfl, by decide, _, rfl, by decide,
    demoReconciler.Reconcile_keeps_converged (fun _ _ _ => rfl) rfl hset hst (by decide) rfl (by decide)
      rfl rfl (by decide) rfl (by decide)⟩

/-- Flux reports the HelmRepository of the namespace, created at generation 1, ready. -/
def repositoryReadyIn (ns : String) : EnvAction :=
  .setHelmRepositoryStatus ⟨ns, "redpanda-repository"⟩
    ⟨1, [⟨readyCondition, .conditionTrue, "Succeeded", "stored artifact"⟩]⟩

/-- An invocation, Flux reporting the HelmRepository ready, and a second invocation, no call of
either failing. -/
def installRun (ns : String) : List SysStep := [.reconcile {}, .env (repositoryReadyIn ns), .reconcile {}]

/-- From a fresh cluster, the installation run leaves the Redpanda installed with the HelmRelease
its template derives. -/
theorem fresh_cluster_installs_release {r : RedpandaReconciler} (hv : r.api.ValuesOfSpec)
    (rp : Redpanda) {t : HelmRelease} (hm : isRedpandaManaged rp = true)
    (hmig : migrationEnabled rp = false) (ht : createHelmReleaseFromTemplate r.api rp = .ok t) :
    (runSystem r rp.meta.key (Store.initial rp) (installRun rp.meta.ns)).Installed rp.meta.key t := by
  obtain ⟨⟨y, hy, hyk, hys, hset, hyr⟩, ⟨repo, hrepo, hgen⟩, hrel⟩ := r.Reconcile_eval_fresh rp hm hmig
  simp only [installRun, runSystem, SysStep.run, (exec_empty _ 0 _).1]
  generalize ((r.Reconcile rp.meta.key).eval (Store.initial rp)).2 = s at hy hrepo hrel
  have hns : y.meta.ns = rp.meta.ns := congrArg ObjectKey.ns hyk
  let repo' : HelmRepository := { repo with
    meta := { repo.meta with resourceVersion := s.version + 1 }
    status := ⟨1, [⟨readyCondition, .conditionTrue, "Succeeded", "stored artifact"⟩]⟩ }
  have hrepo' : ((repositoryReadyIn rp.meta.ns).apply s).helmRepositories ⟨y.meta.ns, "redpanda-repository"⟩ =
      some repo' := by
    simp [EnvAction.apply, repositoryReadyIn, hrepo, Store.writeHelmRepository, hns, repo']
  have hready : Observation.ready ⟨repo'.meta.generation, repo'.status⟩ = true := by
    simp [repo', hgen, Observation.ready, isStatusConditionTrue]
  have hnone : ((repositoryReadyIn rp.meta.ns).apply s).helmReleases y.meta.key = none := by
    simpa [EnvAction.apply, repositoryReadyIn, hrepo, Store.writeHelmRepository, hyk] using hrel
  have ht' := (createHelmReleaseFromTemplate_congr hv hyk hys).trans ht
  obtain ⟨st, hst, he⟩ := r.Reconcile_eval_settled hv
    (by simpa [EnvAction.apply, repositoryReadyIn, hrepo, Store.writeHelmRepository, hyk] using hy)
    hset hyr hrepo' hready ht'
  rw [← hyk, he]
  exact Store.installed_of_create (createHelmReleaseFromTemplate_key r.api y t ht') hnone
    hset.notDeleted hst

theorem demo_fresh_cluster_installs_release :
    demoReconciler.api.ValuesOfSpec ∧ isRedpandaManaged demoRedpanda = true ∧
      migrationEnabled demoRedpanda = false ∧
      ∃ t, createHelmReleaseFromTemplate demoReconciler.api demoRedpanda = .ok t ∧
        (runSystem demoReconciler demoRedpanda.meta.key (Store.initial demoRedpanda)
          (installRun demoRedpanda.meta.ns)).Installed demoRedpanda.meta.key t :=
  ⟨fun _ _ _ => rfl, by decide, rfl, _, rfl,
    fresh_cluster_installs_release (fun _ _ _ => rfl) demoRedpanda (by decide) rfl rfl⟩

/-- From a prepared store, every run of two invocations or more with no failing call leaves the
release in sync with the Redpanda's template and its name recorded, whether the release was never
created, removed behind the operator's back, or edited away from the template. -/
theorem reconcileRun_in_sync {r : RedpandaReconciler} (hv : r.api.ValuesOfSpec) {key : ObjectKey}
    (n : Nat) {s : Store} (hp : s.Prepared r.api key) :
    (runSystem r key s (List.replicate (n + 2) (.reconcile {}))).InSync r.api key := by
  induction n generalizing s with
  | zero =>
    obtain ⟨hp₁, hrec₁⟩ := r.Reconcile_prepared hv hp
    simp only [List.replicate, runSystem, SysStep.run, (exec_empty _ 0 _).1]
    exact r.Reconcile_syncs hv hp₁ hrec₁
  | succ n ih =>
    have hp₁ := (r.Reconcile_prepared hv hp).1
    rw [← (exec_empty (r.Reconcile key) 0 s).1] at hp₁
    exact ih hp₁

def driftedStore : Store :=
  { convergedStore with
    helmReleases := Function.update (fun _ => none) demoKey (some { installedRelease with spec.interval := 60 }) }

theorem driftedStore_in_sync :
    demoReconciler.api.ValuesOfSpec ∧ driftedStore.Prepared demoReconciler.api demoKey ∧
      ¬ driftedStore.InSync demoReconciler.api demoKey ∧
      (runSystem demoReconciler demoKey driftedStore (List.replicate 2 (.reconcile {}))).InSync
        demoReconciler.api demoKey := by
  have hv : demoReconciler.api.ValuesOfSpec := fun _ _ _ => rfl
  have hp : driftedStore.Prepared demoReconciler.api demoKey :=
    ⟨⟨convergedRedpanda, _, rfl, rfl, ⟨rfl, by decide, by decide, rfl, rfl⟩, .inr rfl, rfl⟩,
      ⟨readyRepository, rfl, by decide⟩, fun x hx => by cases Option.some.inj hx; exact ⟨rfl, rfl⟩,
      by decide⟩
  refine ⟨hv, hp, ?_, reconcileRun_in_sync hv 0 hp⟩
  rintro ⟨rp, hr, t, hrp, -, ht, hhr, hu⟩
  cases Option.some.inj hrp
  cases Option.some.inj hhr
  cases Except.ok.inj
    ((show createHelmReleaseFromTemplate demoReconciler.api convergedRedpanda = .ok _ from rfl).symm.trans ht)
  exact absurd hu (by decide)

/-- An invocation, Flux finishing the removal of the HelmRelease, and a second invocation, no call
of either failing. -/
def deleteRun (key : ObjectKey) : List SysStep :=
  [.reconcile {}, .env (.removeHelmRelease key), .reconcile {}]

/-- An installed Redpanda under deletion whose only finalizer is `FinalizerKey`: the first
invocation asks for the foreground deletion of its HelmRelease, and once Flux has removed it the
second lets the Redpanda go. -/
theorem deleteRun_removes_redpanda (r : RedpandaReconciler) {s : Store} {rp : Redpanda}
    {hr : HelmRelease} (hrp : s.redpandas rp.meta.key = some rp) (hdel : rp.meta.deletionTimestamp.isSome)
    (hfk : finalizerKey ∈ rp.meta.finalizers) (honly : ∀ f ∈ rp.meta.finalizers, f = finalizerKey)
    (hrec : rp.status.helmRelease = rp.meta.name) (hname : rp.meta.name ≠ "")
    (h : s.helmReleases rp.meta.key = some hr) (hk : hr.meta.key = rp.meta.key) :
    (∃ hr', (runSystem r rp.meta.key s [.reconcile {}]).helmReleases rp.meta.key = some hr' ∧
      hr'.meta.deletionTimestamp.isSome ∧ "foregroundDeletion" ∈ hr'.meta.finalizers) ∧
    (runSystem r rp.meta.key s (deleteRun rp.meta.key)).redpandas rp.meta.key = none := by
  have hrec' : rp.status.helmRelease ≠ "" := hrec ▸ hname
  have he := r.Reconcile_eval_deleting hrp hdel hrec' (by rw [hrec]; exact h) (by rw [hrec]; exact hk)
  have hrp₁ : (s.perform (.deleteHelmRelease hr (some .foreground))).1.redpandas rp.meta.key = some rp := by
    rw [Store.perform_redpandas (show (Call.deleteHelmRelease hr (some .foreground)).writesRedpanda = false from rfl)]
    exact hrp
  have hfg : "foregroundDeletion" ∈ (hr.meta.addFinalizer "foregroundDeletion").finalizers :=
    (ObjectMeta.mem_addFinalizer _ _ _).mpr (.inr rfl)
  simp only [deleteRun, runSystem, SysStep.run, (exec_empty _ 0 _).1, he]
  constructor
  · simp only [Store.perform, hk, h, Store.writeHelmRelease, Store.deleteMeta, ObjectMeta.finalized, if_true]
    simp [List.ne_nil_of_mem hfg, hfg]
  · refine r.Reconcile_removes_deleted hrp₁ hdel hfk honly (.inr ?_)
    show (Store.removeHelmRelease _ rp.meta.key).helmReleases ⟨rp.meta.ns, rp.status.helmRelease⟩ = none
    rw [hrec]
    simp [Store.removeHelmRelease, ObjectMeta.key]

def deletingRedpanda : Redpanda :=
  { meta := { name := "redpanda", ns := "default", finalizers := [finalizerKey],
              deletionTimestamp := some 5, generation := 1 }
    status := { observedGeneration := 1, helmRelease := "redpanda" } }

def deletingStore : Store where
  redpandas := Function.update (fun _ => none) demoKey (some deletingRedpanda)
  helmRepositories _ := none
  helmReleases := Function.update (fun _ => none) demoKey (some installedRelease)
  resources _ := []
  version := 7

theorem deletingStore_removes_redpanda :
    deletingStore.redpandas deletingRedpanda.meta.key = some deletingRedpanda ∧
      deletingRedpanda.meta.deletionTimestamp.isSome ∧ finalizerKey ∈ deletingRedpanda.meta.finalizers ∧
      (∀ f ∈ deletingRedpanda.meta.finalizers, f = finalizerKey) ∧
      deletingRedpanda.status.helmRelease = deletingRedpanda.meta.name ∧ deletingRedpanda.meta.name ≠ "" ∧
      deletingStore.helmReleases deletingRedpanda.meta.key = some installedRelease ∧
      installedRelease.meta.key = deletingRedpanda.meta.key ∧
      (∃ hr', (runSystem demoReconciler deletingRedpanda.meta.key deletingStore [.reconcile {}]).helmReleases
          deletingRedpanda.meta.key = some hr' ∧
        hr'.meta.deletionTimestamp.isSome ∧ "foregroundDeletion" ∈ hr'.meta.finalizers) ∧
      (runSystem demoReconciler deletingRedpanda.meta.key deletingStore
        (deleteRun deletingRedpanda.meta.key)).redpandas deletingRedpanda.meta.key = none :=
  ⟨rfl, rfl, by decide, by decide, rfl, by decide, rfl, rfl,
    deleteRun_removes_redpanda demoReconciler
      (show deletingStore.redpandas deletingRedpanda.meta.key = some deletingRedpanda from rfl) rfl
      (by decide) (by decide) rfl (by decide)
      (show deletingStore.helmReleases deletingRedpanda.meta.key = some installedRelease from rfl) rfl⟩

def pinnedRedpanda : Redpanda :=
  { demoRedpanda with spec := { chartRef := { chartVersion := "5.9.4" } },
                      status := { helmRelease := "redpanda" } }

def installedStore : Store :=
  runSystem demoReconciler demoKey (Store.initial demoRedpanda) [.reconcile {}, repositoryReady, .reconcile {}]

def pinnedRun : Outcome (Redpanda × Except GoError HelmRelease) :=
  exec {} (demoReconciler.reconcileHelmRelease pinnedRedpanda) 0 installedStore

/-- The run returns without error after one `Get` and no Update, and the live release keeps the
empty version. -/
theorem pinned_version_never_applied :
    pinnedRun.result.map (·.2.toOption.isSome) = some true ∧
    pinnedRun.calls.map (·.1) = [.getHelmRelease demoKey] ∧
    (pinnedRun.store.helmReleases demoKey).map (·.spec.chart.spec.version) = some "" := by
  decide

end RedpandaOperator
