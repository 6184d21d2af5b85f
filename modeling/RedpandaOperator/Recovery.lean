import RedpandaOperator.Progress
import RedpandaOperator.Ownership
import RedpandaOperator.Requeue

/-!
Recovery from every reachable store. Whatever faults, crashes and writes of other parties came
before, once the Redpanda is left alone a short run with no failing call installs its release in
sync with the template: one invocation adds the finalizer, records the generation and makes sure
of the HelmRepository; Flux reports the HelmRepository ready; the next invocation records the
release's name (creating the release if it is missing), and the one after brings the release to
the template. The run rests on what every reachable store keeps (`Store.Sound`): the objects
around the Redpanda, no HelmRelease the API server would already have removed, and the
HelmRepository at the generation it was created at, so that Flux's report makes it ready.
-/

namespace RedpandaOperator

open Prog

/-- No HelmRelease of the store is one the API server would already have removed. -/
def Store.ReleasesLive (s : Store) : Prop :=
  ∀ k hr, s.helmReleases k = some hr → hr.meta.finalized = false

/-- Every HelmRepository of the store is at generation 1: it is created there, and nothing writes
its spec afterwards. -/
def Store.RepositoriesAtGenerationOne (s : Store) : Prop :=
  ∀ k repo, s.helmRepositories k = some repo → repo.meta.generation = 1

namespace Store

variable {s : Store}

theorem ReleasesLive.writeHelmRelease (h : s.ReleasesLive) (k : ObjectKey) (x : HelmRelease) :
    (s.writeHelmRelease k x).ReleasesLive := fun k' y hy => by
  simp only [Store.writeHelmRelease, Function.update_apply] at hy
  split_ifs at hy with hk hf
  · cases hy
    simpa [ObjectMeta.finalized] using hf
  · exact h k' y hy

theorem ReleasesLive.removeHelmRelease (h : s.ReleasesLive) (k : ObjectKey) :
    (s.removeHelmRelease k).ReleasesLive := fun k' y hy => by
  simp only [Store.removeHelmRelease, Function.update_apply] at hy
  split_ifs at hy
  exact h k' y hy

theorem ReleasesLive.perform (h : s.ReleasesLive) (c : Call) : (s.perform c).1.ReleasesLive := by
  cases c <;> simp only [Store.perform] <;> repeat' (first | exact h | split)
  all_goals exact h.writeHelmRelease _ _

theorem ReleasesLive.apply (h : s.ReleasesLive) (a : EnvAction) : (a.apply s).ReleasesLive := by
  cases a <;> simp only [EnvAction.apply] <;> repeat' (first | exact h | split)
  all_goals first | exact h.writeHelmRelease _ _ | exact h.removeHelmRelease _

theorem RepositoriesAtGenerationOne.writeHelmRepository (h : s.RepositoriesAtGenerationOne)
    {k : ObjectKey} {x : HelmRepository} (hx : x.meta.generation = 1) :
    (s.writeHelmRepository k x).RepositoriesAtGenerationOne := fun k' y hy => by
  simp only [Store.writeHelmRepository, Function.update_apply] at hy
  split_ifs at hy
  · cases hy
    exact hx
  · exact h k' y hy

theorem RepositoriesAtGenerationOne.removeHelmRepository (h : s.RepositoriesAtGenerationOne)
    (k : ObjectKey) : (s.removeHelmRepository k).RepositoriesAtGenerationOne := fun k' y hy => by
  simp only [Store.removeHelmRepository, Function.update_apply] at hy
  split_ifs at hy
  exact h k' y hy

theorem RepositoriesAtGenerationOne.perform (h : s.RepositoriesAtGenerationOne) (c : Call) :
    (s.perform c).1.RepositoriesAtGenerationOne := by
  cases hc : c.writesHelmRepository with
  | false => exact fun k repo hrepo => h k repo (by rwa [Store.perform_helmRepositories hc s] at hrepo)
  | true =>
    cases c <;> simp only [Call.writesHelmRepository, Bool.false_eq_true] at hc
    simp only [Store.perform]
    split
    · exact h
    · exact h.writeHelmRepository rfl

theorem RepositoriesAtGenerationOne.apply (h : s.RepositoriesAtGenerationOne) (a : EnvAction) :
    (a.apply s).RepositoriesAtGenerationOne := by
  cases a <;> simp only [EnvAction.apply] <;> repeat' (first | exact h | split)
  all_goals first
    | exact h.removeHelmRepository _
    | rename_i repo hrepo; exact h.writeHelmRepository (h _ repo hrepo)

end Store

/-- What every reachable store keeps: the objects around the Redpanda under `key`, no HelmRelease
the API server would already have removed, and every HelmRepository at generation 1. -/
structure Store.Sound (key : ObjectKey) (s : Store) : Prop where
  owned : s.Owned key
  live : s.ReleasesLive
  repositories : s.RepositoriesAtGenerationOne

theorem Store.Sound.slot {key : ObjectKey} {s : Store} (h : s.Sound key) : s.ReleaseSlot key :=
  fun _ hx => ⟨(h.owned.helmReleases _ _ hx).2, h.live _ _ hx⟩

theorem Reachable.sound {r : RedpandaReconciler} {key : ObjectKey} {s : Store}
    (h : Reachable r key s) : s.Sound key := by
  induction h with
  | initial rp hk => exact ⟨Store.Owned.initial hk, fun _ _ h => (nomatch h), fun _ _ h => (nomatch h)⟩
  | step st _ ih =>
    cases st with
    | reconcile σ =>
      have hstore {I : Store → Prop} (hc : ∀ c s, I s → I (s.perform c).1)
          (he : ∀ (a : EnvAction) s, I s → I (a.apply s)) {s : Store} (hs : I s) :
          I (exec σ (r.Reconcile key) 0 s).store :=
        exec_store_of_calls σ _ 0 (P := fun _ => True) (fun c s _ => hc c s)
          (fun _ _ a _ => he a) (fun _ _ => trivial) hs
      exact ⟨RedpandaReconciler.exec_Reconcile_owned σ ih.owned,
        hstore (fun c _ h => h.perform c) (fun a _ h => h.apply a) ih.live,
        hstore (fun c _ h => h.perform c) (fun a _ h => h.apply a) ih.repositories⟩
    | env a => exact ⟨ih.owned.apply a, ih.live.apply a, ih.repositories.apply a⟩

namespace Redpanda.Keeps

variable {x y z : Redpanda}

theorem trans (h₁ : z.Keeps y) (h₂ : y.Keeps x) : z.Keeps x :=
  ⟨h₁.meta.trans h₂.meta, h₁.spec.trans h₂.spec, h₁.observed.trans h₂.observed,
    h₁.helmRelease.trans h₂.helmRelease⟩

theorem with_helmRelease (h : y.Keeps x) (n : String) :
    ({ y with status.helmRelease := n } : Redpanda).Keeps { x with status.helmRelease := n } :=
  ⟨h.meta, h.spec, h.observed, rfl⟩

end Redpanda.Keeps

theorem Store.perform_patchRedpanda_addFinalizer {s : Store} {rp : Redpanda}
    (h : s.redpandas rp.meta.key = some rp) (f : String) :
    s.perform (.patchRedpanda rp { rp with meta := rp.meta.addFinalizer f }) =
      (s.writeRedpanda rp.meta.key { rp with meta := rp.meta.addFinalizer f }, .ok) := by
  have hmerge : mergeMeta rp.meta rp.meta (rp.meta.addFinalizer f) = rp.meta.addFinalizer f := by
    rw [ObjectMeta.addFinalizer_eq]
    simp [mergeMeta]
  simp [Store.perform, h, hmerge]

namespace RedpandaReconciler

variable (r : RedpandaReconciler) (hv : r.api.ValuesOfSpec)

include hv

theorem reconcileHelmRelease_eval_frame {s : Store} {rp : Redpanda} {t : HelmRelease}
    (hs : s.KeyedReleases) (ht : createHelmReleaseFromTemplate r.api rp = .ok t) :
    ∃ n hr s', (r.reconcileHelmRelease rp).eval s = (({ rp with status.helmRelease := n }, .ok hr), s') ∧
      s'.redpandas = s.redpandas ∧ s'.helmRepositories = s.helmRepositories := by
  have hcreate := Store.perform_redpandas (show (Call.createHelmRelease t).writesRedpanda = false from rfl) s
  have hcreate' :=
    Store.perform_helmRepositories (show (Call.createHelmRelease t).writesHelmRepository = false from rfl) s
  by_cases hrec : rp.status.helmRelease = ""
  · exact ⟨_, _, _, r.reconcileHelmRelease_eval_unrecorded hrec ht, hcreate, hcreate'⟩
  · cases hx : s.helmReleases ⟨rp.meta.ns, rp.status.helmRelease⟩ with
    | none => exact ⟨_, _, _, r.reconcileHelmRelease_eval_missing hv hrec hx ht, hcreate, hcreate'⟩
    | some hr =>
      rw [r.reconcileHelmRelease_eval_found hrec hx (hs _ _ hx) ht]
      by_cases hu : helmReleaseRequiresUpdate r.api hr t
      · rw [if_pos hu]
        exact ⟨_, _, _, rfl, Store.perform_redpandas (c := .updateHelmRelease _) rfl s,
          Store.perform_helmRepositories (c := .updateHelmRelease _) rfl s⟩
      · rw [if_neg hu]
        exact ⟨rp.status.helmRelease, hr, s, by rw [Redpanda.with_helmRelease_of_eq rfl], rfl, rfl⟩

theorem reconcileDependents_eval_frame {s : Store} {rp : Redpanda} {t : HelmRelease}
    (hs : s.KeyedReleases) (ht : createHelmReleaseFromTemplate r.api rp = .ok t) :
    ∃ n rp' res e s', (r.reconcileDependents rp).eval s = ((rp', res, e), s') ∧
      rp'.Keeps { rp with status.helmRelease := n } ∧ s'.redpandas = s.redpandas ∧
      ∃ repo, s'.helmRepositories ⟨rp.meta.ns, "redpanda-repository"⟩ = some repo := by
  cases hrepo : s.helmRepositories ⟨rp.meta.ns, "redpanda-repository"⟩ with
  | none =>
    obtain ⟨rp', res, he, hk⟩ := r.reconcileDependents_eval_repository_created hrepo
    refine ⟨rp.status.helmRelease, rp', res, none, _, he, hk,
      Store.perform_redpandas (c := .createHelmRepository _) rfl s, ?_⟩
    simp [Store.perform, hrepo, Store.writeHelmRepository, createHelmRepositoryFromTemplate,
      Redpanda.getHelmRepositoryName, ObjectMeta.key]
  | some repo =>
    cases hready : Observation.ready ⟨repo.meta.generation, repo.status⟩
    case true =>
      obtain ⟨rp₁, hk₁, hdep⟩ := r.reconcileDependents_eval_ready hrepo hready
      obtain ⟨n, hr, s', he, hred, hrepo'⟩ := r.reconcileHelmRelease_eval_frame hv hs ((hk₁.template hv).trans ht)
      obtain ⟨rp', res, hrr, hk⟩ := r.reconcileRelease_eval_of he
      exact ⟨n, rp', res, none, s', hdep.trans hrr, hk.trans (hk₁.with_helmRelease n), hred, repo,
        hrepo' ▸ hrepo⟩
    case false =>
      simp only [reconcileDependents, bind_eq, eval_bind, r.reconcileHelmRepository_eval_found hrepo,
        Client.emitAll_eval, checkDependent_fst, hready, Bool.false_eq_true, if_false, pure_eq, eval_pure]
      exact ⟨rp.status.helmRelease, _, _, none, s, rfl,
        (Redpanda.Keeps.checkDependent
          (y := { rp with status.helmRepository := "redpanda-repository" }) (x := rp) ⟨rfl, rfl, rfl, rfl⟩ ..).redpandaNotReady .., rfl, repo, hrepo⟩

theorem reconcile_eval_frame {s : Store} {rp cur : Redpanda} {t : HelmRelease}
    (hs : s.KeyedReleases) (hcur : s.redpandas rp.meta.key = some cur)
    (hd : cur.meta.deletionTimestamp = none) (ht : createHelmReleaseFromTemplate r.api rp = .ok t) :
    ∃ rp' res e s' cur', (r.reconcile rp).eval s = ((rp', res, e), s') ∧
      rp'.meta = rp.meta ∧ rp'.status.observedGeneration = rp.meta.generation ∧
      s'.redpandas rp.meta.key = some cur' ∧
      cur'.meta = { cur.meta with resourceVersion := cur'.meta.resourceVersion } ∧ cur'.spec = cur.spec ∧
      ∃ repo, s'.helmRepositories ⟨rp.meta.ns, "redpanda-repository"⟩ = some repo := by
  by_cases hg : rp.status.observedGeneration = rp.meta.generation
  case pos =>
    obtain ⟨_n, rp', res, e, s', he, hk, hred, hrepo⟩ := r.reconcileDependents_eval_frame hv hs ht
    refine ⟨rp', res, e, s', cur, ?_, hk.meta, hk.observed.trans hg, hred ▸ hcur, rfl, rfl, hrepo⟩
    simpa only [reconcile, hg, ne_eq, not_true_eq_false, if_false] using he
  case neg =>
    -- the generation is recorded as Progressing first
    let rp₁ := ({ rp with status.observedGeneration := rp.meta.generation }).redpandaProgressing
    let s₁ := s.writeRedpanda rp.meta.key { cur with status := rp₁.status }
    obtain ⟨_n, rp', res, e, s', he, hk, hred, hrepo⟩ := r.reconcileDependents_eval_frame hv
      (show s₁.KeyedReleases from hs)
      (show createHelmReleaseFromTemplate r.api rp₁ = .ok t from
        (createHelmReleaseFromTemplate_congr hv (x := rp₁) (y := rp) rfl rfl).trans ht)
    have hcur₁ : s₁.redpandas rp.meta.key = some _ := Store.writeRedpanda_redpandas_self hd
    refine ⟨rp', res, e, s', _, ?_, hk.meta, hk.observed, (congrFun hred _).trans hcur₁, rfl, rfl, hrepo⟩
    simpa only [reconcile, hg, ne_eq, not_false_eq_true, if_true, bind_eq, eval_bind,
      patchRedpandaStatus_eval (show s.redpandas rp₁.meta.key = some cur from hcur)] using he

theorem reconcileManaged_eval_settles {s : Store} {rp cur : Redpanda} {t : HelmRelease}
    (hs : s.KeyedReleases) (hcur : s.redpandas rp.meta.key = some cur)
    (hd : cur.meta.deletionTimestamp = none) (hmig : migrationEnabled rp = false)
    (ht : createHelmReleaseFromTemplate r.api rp = .ok t) :
    ∃ y, ((r.reconcileManaged rp).eval s).2.redpandas rp.meta.key = some y ∧
      y.meta = { cur.meta with resourceVersion := y.meta.resourceVersion } ∧ y.spec = cur.spec ∧
      y.status.observedGeneration = rp.meta.generation ∧
      ∃ repo, ((r.reconcileManaged rp).eval s).2.helmRepositories ⟨rp.meta.ns, "redpanda-repository"⟩ =
        some repo := by
  obtain ⟨rp', res, e, s', cur', he, hm, ho, hcur', hcm, hcs, repo, hrepo⟩ :=
    r.reconcile_eval_frame hv hs hcur hd ht
  have hd' : cur'.meta.deletionTimestamp = none := by rw [hcm]; exact hd
  simp only [reconcileManaged, hmig, Bool.false_eq_true, if_false, pure_eq, bind_eq, eval_bind, eval_pure,
    Prog.pure_bind, he, patchRedpandaStatus_eval (show s'.redpandas rp'.meta.key = some cur' by rw [hm]; exact hcur'),
    hm]
  exact ⟨_, Store.writeRedpanda_redpandas_self hd',
    congrArg (fun m : ObjectMeta => { m with resourceVersion := s'.version + 1 }) hcm, hcs, ho, repo, hrepo⟩

/-- From any store that keys its HelmReleases, an invocation with no failing call on a Redpanda that
is managed, not being deleted, with migration off and a derivable template leaves it settled and a
HelmRepository of its namespace in place. -/
theorem Reconcile_eval_settles {s : Store} {rp : Redpanda} {t : HelmRelease}
    (hs : s.KeyedReleases) (hrp : s.redpandas rp.meta.key = some rp) (hd : rp.meta.deletionTimestamp = none)
    (hm : isRedpandaManaged rp = true) (hmig : migrationEnabled rp = false)
    (ht : createHelmReleaseFromTemplate r.api rp = .ok t) :
    ∃ y, ((r.Reconcile rp.meta.key).eval s).2.redpandas rp.meta.key = some y ∧ y.meta.key = rp.meta.key ∧
      y.spec = rp.spec ∧ y.Settled ∧
      ∃ repo, ((r.Reconcile rp.meta.key).eval s).2.helmRepositories ⟨rp.meta.ns, "redpanda-repository"⟩ =
        some repo := by
  simp only [Reconcile, reconcileObject, bind_eq, eval_bind, Client.getRedpanda, eval_call,
    Store.perform_getRedpanda_of_some hrp, Response.toRedpanda, eval_pure, hd, Option.isSome_none,
    Bool.false_eq_true, if_false, hm, Bool.not_true]
  by_cases hf : finalizerKey ∈ rp.meta.finalizers
  case pos =>
    simp only [ObjectMeta.containsFinalizer_iff, hf, if_true]
    obtain ⟨y, hy, hym, hys, hyo, hrepo⟩ := r.reconcileManaged_eval_settles hv hs hrp hd hmig ht
    exact ⟨y, hy, (congrArg ObjectMeta.key hym :), hys, .of_meta hym hys hd hm hf hmig hyo, hrepo⟩
  case neg =>
    -- the merge patch that adds the finalizer comes first
    let rp₁ : Redpanda := { rp with meta := rp.meta.addFinalizer finalizerKey }
    have hk₁ : rp₁.meta.key = rp.meta.key := ObjectMeta.addFinalizer_key _ _
    have hmeta₁ : rp₁.meta = { rp.meta with finalizers := rp₁.meta.finalizers } := ObjectMeta.addFinalizer_eq _ _
    have hd₁ : rp₁.meta.deletionTimestamp = none := by rw [hmeta₁]; exact hd
    have hm₁ : isRedpandaManaged rp₁ = true := by unfold isRedpandaManaged; rw [hmeta₁]; exact hm
    have hf₁ : finalizerKey ∈ rp₁.meta.finalizers := (ObjectMeta.mem_addFinalizer _ _ _).mpr (.inr rfl)
    simp only [ObjectMeta.containsFinalizer_iff, hf, if_false, Client.write_bind, eval_call,
      Store.perform_patchRedpanda_addFinalizer hrp, Response.toError]
    have hcur₁ : (s.writeRedpanda rp.meta.key rp₁).redpandas rp₁.meta.key =
        some { rp₁ with meta := { rp₁.meta with resourceVersion := s.version + 1 } } := by
      rw [hk₁]
      exact Store.writeRedpanda_redpandas_self hd₁
    obtain ⟨y, hy, hym, hys, hyo, hrepo⟩ := r.reconcileManaged_eval_settles hv
      (show (s.writeRedpanda rp.meta.key rp₁).KeyedReleases from hs) hcur₁ hd₁ hmig
      ((createHelmReleaseFromTemplate_congr hv hk₁ rfl).trans ht)
    rw [hk₁] at hy
    rw [show rp₁.meta.ns = rp.meta.ns from ObjectMeta.addFinalizer_ns _ _] at hrepo
    exact ⟨y, hy, (congrArg ObjectMeta.key hym :).trans hk₁, hys, .of_meta hym hys hd₁ hm₁ hf₁ hmig hyo, hrepo⟩

end RedpandaReconciler

/-- The installation run and one invocation more: the first invocation settles the Redpanda, Flux
reports the HelmRepository ready, the second records the release's name, and the third brings the
release to the template. -/
def recoveryRun (ns : String) : List SysStep := installRun ns ++ [.reconcile {}]

theorem repositoryReadyIn_apply {s : Store} {ns : String} {repo : HelmRepository}
    (hrepo : s.helmRepositories ⟨ns, "redpanda-repository"⟩ = some repo) (hgen : repo.meta.generation = 1) :
    ((repositoryReadyIn ns).apply s).redpandas = s.redpandas ∧
      ∃ repo', ((repositoryReadyIn ns).apply s).helmRepositories ⟨ns, "redpanda-repository"⟩ = some repo' ∧
        Observation.ready ⟨repo'.meta.generation, repo'.status⟩ = true := by
  simp only [EnvAction.apply, repositoryReadyIn, hrepo]
  exact ⟨rfl, _, Function.update_same _ _ _, by simp [Observation.ready, hgen, isStatusConditionTrue]⟩

/-- Whatever faults, crashes and reports came before, a Redpanda that is managed, not being
deleted, with migration off and a derivable template is installed in sync with its template by the
recovery run, no call of it failing. -/
theorem recoveryRun_in_sync {r : RedpandaReconciler} (hv : r.api.ValuesOfSpec) {key : ObjectKey} {s : Store}
    (hs : Reachable r key s) (hname : key.name ≠ "") {rp : Redpanda} (hrp : s.redpandas key = some rp)
    (hd : rp.meta.deletionTimestamp = none) (hm : isRedpandaManaged rp = true)
    (hmig : migrationEnabled rp = false) {t : HelmRelease} (ht : createHelmReleaseFromTemplate r.api rp = .ok t) :
    (runSystem r key s (recoveryRun key.ns)).InSync r.api key := by
  obtain ⟨-, rfl⟩ := hs.sound.owned.redpandas key rp hrp
  have hkeyed : s.KeyedReleases := fun k x hx => by
    obtain ⟨rfl, hk⟩ := hs.sound.owned.helmReleases k x hx
    exact hk
  obtain ⟨y, hy, hyk, hys, hset, repo, hrepo⟩ := r.Reconcile_eval_settles hv hkeyed hrp hd hm hmig ht
  have hs₁ := hs.step (.reconcile {})
  simp only [SysStep.run, (exec_empty _ 0 _).1] at hs₁
  simp only [recoveryRun, installRun, List.cons_append, List.nil_append, runSystem, SysStep.run,
    (exec_empty _ 0 _).1]
  generalize ((r.Reconcile rp.meta.key).eval s).2 = s₁ at hy hrepo hs₁ ⊢
  -- Flux's report: the store the second invocation starts from is prepared
  obtain ⟨hred₂, hrepo₂⟩ := repositoryReadyIn_apply hrepo (hs₁.sound.repositories _ _ hrepo)
  have hs₂ := hs₁.step (.env (repositoryReadyIn rp.meta.ns))
  have hy₂ : ((repositoryReadyIn rp.meta.ns).apply s₁).redpandas rp.meta.key = some y := hred₂ ▸ hy
  have hp₂ : ((repositoryReadyIn rp.meta.ns).apply s₁).Prepared r.api rp.meta.key :=
    ⟨⟨y, t, hy₂, hyk, hset, hs₂.sound.owned.recorded _ _ hy₂, (createHelmReleaseFromTemplate_congr hv hyk hys).trans ht⟩,
      hrepo₂, hs₂.sound.slot, hname⟩
  obtain ⟨hp₃, hrec₃⟩ := r.Reconcile_prepared hv hp₂
  exact r.Reconcile_syncs hv hp₃ hrec₃

/-- The run that left the HelmRelease behind an unrecorded name recovers. -/
theorem unrecordedReleaseRun_recovers :
    ∃ rp t, (runSystem demoReconciler demoKey (Store.initial demoRedpanda) unrecordedReleaseRun).redpandas demoKey =
        some rp ∧ rp.meta.deletionTimestamp = none ∧ isRedpandaManaged rp = true ∧ migrationEnabled rp = false ∧
      createHelmReleaseFromTemplate demoReconciler.api rp = .ok t ∧
      (runSystem demoReconciler demoKey (runSystem demoReconciler demoKey (Store.initial demoRedpanda)
        unrecordedReleaseRun) (recoveryRun demoKey.ns)).InSync demoReconciler.api demoKey :=
  ⟨_, _, rfl, rfl, by decide, rfl, rfl, recoveryRun_in_sync (fun _ _ _ => rfl)
    ((Reachable.initial demoRedpanda rfl).runSystem _) (by decide) rfl rfl (by decide) rfl rfl⟩

theorem RedpandaReconciler.Reconcile_eval_gone (r : RedpandaReconciler) {s : Store} {key : ObjectKey}
    (h : s.redpandas key = none) : ((r.Reconcile key).eval s).2 = s := by
  simp [RedpandaReconciler.Reconcile, Client.getRedpanda, Store.perform, h, Response.toRedpanda]

/-- Whatever faults, crashes and reports came before, a Redpanda under deletion whose only
finalizer is the operator's is gone after an invocation, Flux's removal of the HelmRelease and one
more invocation, no call of them failing: no reachable store holds it behind a release. -/
theorem reachable_deletion_completes {r : RedpandaReconciler} {key : ObjectKey} {s : Store}
    (hs : Reachable r key s) {rp : Redpanda} (hrp : s.redpandas key = some rp)
    (hdel : rp.meta.deletionTimestamp.isSome) (hfk : finalizerKey ∈ rp.meta.finalizers)
    (honly : ∀ f ∈ rp.meta.finalizers, f = finalizerKey) :
    (runSystem r key s (deleteRun key)).redpandas key = none := by
  obtain ⟨-, rfl⟩ := hs.sound.owned.redpandas key rp hrp
  simp only [deleteRun, runSystem, SysStep.run, (exec_empty _ 0 _).1]
  by_cases hgone : rp.status.helmRelease = "" ∨ s.helmReleases ⟨rp.meta.ns, rp.status.helmRelease⟩ = none
  case pos =>
    -- no release to wait for: the first invocation lets it go, and nothing after brings it back
    have h₁ : ((EnvAction.removeHelmRelease rp.meta.key).apply ((r.Reconcile rp.meta.key).eval s).2).redpandas
        rp.meta.key = none := r.Reconcile_removes_deleted hrp hdel hfk honly hgone
    rw [r.Reconcile_eval_gone h₁]
    exact h₁
  case neg =>
    -- the recorded release is the Redpanda's own: its deletion is asked for and Flux removes it
    obtain ⟨hrec, hx⟩ := not_or.mp hgone
    obtain ⟨hr, hx⟩ := Option.ne_none_iff_exists'.mp hx
    obtain ⟨hkey, hk⟩ := hs.sound.owned.helmReleases _ hr hx
    rw [r.Reconcile_eval_deleting hrp hdel hrec hx (hk.trans hkey.symm)]
    refine r.Reconcile_removes_deleted ?_ hdel hfk honly (.inr ?_)
    · show (s.perform (.deleteHelmRelease hr (some .foreground))).1.redpandas rp.meta.key = some rp
      rw [Store.perform_redpandas (c := .deleteHelmRelease hr (some .foreground)) rfl]
      exact hrp
    · show (Store.removeHelmRelease _ rp.meta.key).helmReleases ⟨rp.meta.ns, rp.status.helmRelease⟩ = none
      rw [hkey]
      exact Function.update_same _ _ _

def deletedAfterInstallRun : List SysStep := installRun demoKey.ns ++ [.env (.deleteRedpanda demoKey 7)]

/-- Installed and deleted, the demo Redpanda is gone after the deletion run. -/
theorem deletedAfterInstall_removed :
    ∃ rp, (runSystem demoReconciler demoKey (Store.initial demoRedpanda) deletedAfterInstallRun).redpandas demoKey =
        some rp ∧ rp.meta.deletionTimestamp.isSome ∧ finalizerKey ∈ rp.meta.finalizers ∧
      (∀ f ∈ rp.meta.finalizers, f = finalizerKey) ∧
      (runSystem demoReconciler demoKey (runSystem demoReconciler demoKey (Store.initial demoRedpanda)
        deletedAfterInstallRun) (deleteRun demoKey)).redpandas demoKey = none :=
  ⟨_, rfl, rfl, by decide, by decide, reachable_deletion_completes
    ((Reachable.initial demoRedpanda rfl).runSystem _) rfl rfl (by decide) (by decide)⟩

end RedpandaOperator
