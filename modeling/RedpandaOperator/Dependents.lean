import RedpandaOperator.Footprint

/-!
The order of the dependents. `reconcile` turns to the HelmRelease only once the HelmRepository it
got is ready, and a HelmRepository it has just created is its template, which has no Ready
condition. So a HelmRelease is created only after a `Get` found a ready HelmRepository, in an
invocation that read the Redpanda live and managed and made sure of its finalizer; and an
invocation creates at most one dependent. `createHelmRelease` hands back the template, never the
live object, on AlreadyExists as on a successful create, so a release it meets already in the
store is reported not ready however ready it is: when the name of a ready release never reached
the status, the invocation that meets it records the name and a false flag, and the next flips
the flag and emits an event.
-/

namespace RedpandaOperator

open Prog

/-- A `Get` of the HelmRepository under the key answered with one that `reconcile` reads as ready. -/
def readyRepositoryAnswer (key : ObjectKey) (c : Call) (resp : Response) : Prop :=
  c = .getHelmRepository key ∧ ∃ repo : HelmRepository, resp = .helmRepository repo ∧
    Observation.ready ⟨repo.meta.generation, repo.status⟩ = true

/-- The finalizer patch of `Reconcile` on the object it read, answered without error. -/
def finalizerPatched (rp : Redpanda) (c : Call) (resp : Response) : Prop :=
  c = .patchRedpanda rp { rp with meta := rp.meta.addFinalizer finalizerKey } ∧ resp = .ok

def Call.isCreateHelmRelease : Call → Bool
  | .createHelmRelease _ => true
  | _ => false

def Call.creates : Call → Bool
  | .createHelmRepository _ | .createHelmRelease _ => true
  | _ => false

theorem Call.creates_of_isCreateHelmRelease {c : Call} (h : c.isCreateHelmRelease = true) :
    c.creates = true := by
  cases c <;> simp_all [isCreateHelmRelease, creates]

def repositoryResultReady (res : Redpanda × Except GoError HelmRepository) : Prop :=
  ∃ repo, res.2 = .ok repo ∧ Observation.ready ⟨repo.meta.generation, repo.status⟩ = true

@[simp] theorem createHelmRepositoryFromTemplate_ready (api : Api) (rp : Redpanda) :
    Observation.ready ⟨(createHelmRepositoryFromTemplate api rp).meta.generation,
      (createHelmRepositoryFromTemplate api rp).status⟩ = false := rfl

namespace RedpandaReconciler

variable {r : RedpandaReconciler} {rp : Redpanda}

theorem reconcileHelmRepository_guards :
    (r.reconcileHelmRepository rp).Guards (readyRepositoryAnswer ⟨rp.meta.ns, rp.getHelmRepositoryName⟩)
      (fun c _ => c.isCreateHelmRelease = true) repositoryResultReady := by
  unfold reconcileHelmRepository
  simp only [Prog.bind_eq, Client.getHelmRepository, Prog.call_bind, Prog.pure_bind, guards_call]
  intro resp
  refine ⟨Bool.false_ne_true, ?_⟩
  cases h : resp.toHelmRepository with
  | ok repo =>
    by_cases hr : Observation.ready ⟨repo.meta.generation, repo.status⟩ = true
    · exact .inl ⟨rfl, repo, Response.toHelmRepository_eq_ok.mp h, hr⟩
    · exact .inr fun ⟨_, he, hr'⟩ => hr (Except.ok.inj he ▸ hr')
  | error e =>
    refine .inr ?_
    dsimp only
    split_ifs
    · simp only [Client.write, Client.emit, Prog.bind_eq, Prog.call_bind, Prog.pure_bind, guards_call]
      intro resp'
      refine ⟨Bool.false_ne_true, .inr ?_⟩
      split <;> simp [repositoryResultReady]
    · simp [Client.emit, repositoryResultReady]

theorem reconcileHelmRepository_seals :
    (r.reconcileHelmRepository rp).Seals (Call.creates · = true) (Call.creates · = true)
      fun res => ¬ repositoryResultReady res := by
  unfold reconcileHelmRepository
  simp only [Prog.bind_eq, Client.getHelmRepository, Prog.call_bind, Prog.pure_bind, Seals]
  intro resp
  refine ⟨fun h => absurd h Bool.false_ne_true, ?_⟩
  split
  · trivial
  · split_ifs
    · simp only [Client.write, Client.emit, Prog.bind_eq, Prog.call_bind, Prog.pure_bind, Seals]
      intro resp'
      refine ⟨fun _ => ?_, by split <;> trivial⟩
      split <;> simp [repositoryResultReady]
    · simp [Client.emit, Seals]

theorem checkDependent_not_ready {rp' : Redpanda} {repo : HelmRepository}
    (h : ¬ repositoryResultReady (rp', .ok repo)) (ns name : String) (rp'' : Redpanda) :
    (checkDependent .helmRepository ns name ⟨repo.meta.generation, repo.status⟩ rp'').1 = false := by
  rw [checkDependent_fst]
  by_contra hr
  exact h ⟨repo, rfl, Bool.not_eq_false _ ▸ hr⟩

theorem reconcileDependents_guards :
    (r.reconcileDependents rp).Guards (readyRepositoryAnswer ⟨rp.meta.ns, rp.getHelmRepositoryName⟩)
      (fun c _ => c.isCreateHelmRelease = true) fun _ => False := by
  unfold reconcileDependents
  refine reconcileHelmRepository_guards.bind fun ⟨rp', res⟩ hres => ?_
  cases res with
  | error e => exact not_false
  | ok repo =>
    simp only [Prog.bind_eq, Client.emitAll_bind_guards]
    split_ifs with h
    · simp [checkDependent_not_ready hres] at h
    · exact not_false

theorem tryMigration_no_create (rp : Redpanda) :
    (tryMigration rp).Calls fun c => ¬ c.creates = true :=
  tryMigration_calls.mono fun c h => by cases c <;> simp_all [Call.onLegacy, Call.creates]

theorem patchRedpandaStatus_no_create (rp : Redpanda) :
    (patchRedpandaStatus rp).Calls fun c => ¬ c.creates = true :=
  patchRedpandaStatus_calls Bool.false_ne_true fun _ => Bool.false_ne_true

theorem reconcile_guards :
    (r.reconcile rp).Guards (readyRepositoryAnswer ⟨rp.meta.ns, rp.getHelmRepositoryName⟩)
      (fun c _ => c.isCreateHelmRelease = true) fun _ => False := by
  unfold reconcile
  split_ifs
  · refine Guards.bind (Calls.guards_none ((patchRedpandaStatus_calls Bool.false_ne_true
      fun _ => Bool.false_ne_true))) fun e _ => ?_
    split
    · exact not_false
    · exact reconcileDependents_guards
  · exact reconcileDependents_guards

theorem reconcileManaged_guards {ns : String} (h : rp.meta.ns = ns) :
    (r.reconcileManaged rp).Guards (readyRepositoryAnswer ⟨ns, "redpanda-repository"⟩)
      (fun c _ => c.isCreateHelmRelease = true) fun _ => False := by
  subst h
  have hm : ∀ c : Call, ¬ c.creates = true → ¬ c.isCreateHelmRelease = true :=
    fun c h h' => h (Call.creates_of_isCreateHelmRelease h')
  unfold reconcileManaged
  refine Guards.bind (R := fun _ => False) ?_ fun _ _ => Guards.bind reconcile_guards fun _ _ =>
    Guards.bind (Calls.guards_none ((patchRedpandaStatus_no_create _).mono hm)) fun a _ => ?_
  · split
    · exact Calls.guards_none ((tryMigration_no_create rp).mono hm)
    · exact not_false
  · split <;> exact not_false

theorem reconcileObject_guards_repository :
    (r.reconcileObject rp).Guards (readyRepositoryAnswer ⟨rp.meta.ns, rp.getHelmRepositoryName⟩)
      (fun c _ => c.isCreateHelmRelease = true) fun _ => False := by
  unfold reconcileObject
  split_ifs with hd hm hf hf
  · exact Calls.guards_none (reconcileDelete_calls.mono fun c h => by
      cases c <;> simp_all [Call.deleting, Call.isCreateHelmRelease])
  · simp only [Prog.bind_eq, Client.write_bind, guards_call]
    exact fun _ => ⟨Bool.false_ne_true, .inr (by split <;> exact not_false)⟩
  · exact not_false
  · exact reconcileManaged_guards rfl
  · simp only [Prog.bind_eq, Client.write_bind, guards_call]
    refine fun _ => ⟨Bool.false_ne_true, .inr ?_⟩
    split
    · exact not_false
    · exact reconcileManaged_guards (ObjectMeta.addFinalizer_ns _ _)

theorem reconcileObject_no_create
    (h : rp.meta.deletionTimestamp.isSome = true ∨ isRedpandaManaged rp = false) :
    (r.reconcileObject rp).Calls fun c => ¬ c.creates = true := by
  unfold reconcileObject
  split_ifs with hd hm
  · exact reconcileDelete_calls.mono fun c h => by cases c <;> simp_all [Call.deleting, Call.creates]
  · simp only [Prog.bind_eq, Client.write_bind, calls_call]
    exact ⟨Bool.false_ne_true, fun _ => by split <;> exact calls_pure _ _⟩
  · exact calls_pure _ _
  all_goals simp_all

/-- Without the finalizer, a HelmRelease is created only after the finalizer patch went through. -/
theorem reconcileObject_guards_finalizer (hf : finalizerKey ∉ rp.meta.finalizers) :
    (r.reconcileObject rp).Guards (finalizerPatched rp) (fun c _ => c.isCreateHelmRelease = true)
      fun _ => False := by
  by_cases hl : rp.meta.deletionTimestamp.isSome = true ∨ isRedpandaManaged rp = false
  · exact Calls.guards_none ((reconcileObject_no_create hl).mono fun c h h' =>
      h (Call.creates_of_isCreateHelmRelease h'))
  · unfold reconcileObject
    simp only [not_or, Bool.not_eq_false] at hl
    simp only [hl, hf, ObjectMeta.containsFinalizer_iff, Bool.not_true, if_false]
    simp only [Prog.bind_eq, Client.write_bind, guards_call]
    intro resp
    refine ⟨Bool.false_ne_true, ?_⟩
    by_cases hr : resp = .ok
    · exact .inl ⟨rfl, hr⟩
    · refine .inr ?_
      dsimp only
      cases he : resp.toError with
      | none => exact absurd (Response.toError_eq_none.mp he) hr
      | some e => exact not_false

section Seals

variable {α : Type} {p : Prog α}

theorem Calls.guards_true {G : Call → Response → Prop} {Q : Call → Prop}
    (h : p.Calls fun c => ¬ Q c) : p.Guards G (fun c _ => Q c) fun _ => ¬ True :=
  Calls.guards h (fun _ _ hq hn => hn hq) fun _ hn => hn trivial

theorem seals_call_of_none {K Q : Call → Prop} {c : Call} {k : Response → Prog α}
    (h : ∀ r, (k r).Calls fun _ => False) : (Prog.call c k).Seals K Q fun _ => True :=
  fun r => ⟨fun _ => Calls.guards_true ((h r).mono fun _ => False.elim),
    Calls.seals ((h r).mono fun _ => False.elim)⟩

end Seals

theorem createHelmRelease_seals :
    (r.createHelmRelease rp).Seals (Call.creates · = true) (Call.creates · = true) fun _ => True := by
  unfold createHelmRelease
  split
  · simp [Seals]
  · simp only [Prog.bind_eq, Client.write_bind]
    refine seals_call_of_none fun resp => ?_
    split
    · split_ifs
      · exact (helmReleaseCreated_yields (Redpanda.Derived.self _)).calls
      · simp
    · exact (helmReleaseCreated_yields (Redpanda.Derived.self _)).calls

theorem reconcileHelmRelease_seals :
    (r.reconcileHelmRelease rp).Seals (Call.creates · = true) (Call.creates · = true)
      fun _ => True := by
  unfold reconcileHelmRelease
  split_ifs
  · exact createHelmRelease_seals
  · simp only [Prog.bind_eq, Client.getHelmRelease_bind]
    refine fun resp => ⟨fun h => absurd h Bool.false_ne_true, ?_⟩
    dsimp only
    split
    · exact Calls.seals (updateHelmRelease_yields (Redpanda.Derived.self _) fun _ => Bool.false_ne_true).calls
    · split_ifs
      · exact createHelmRelease_seals
      · trivial

theorem reconcileRelease_seals :
    (r.reconcileRelease rp).Seals (Call.creates · = true) (Call.creates · = true) fun _ => True := by
  unfold reconcileRelease
  refine reconcileHelmRelease_seals.bind (fun a _ => Calls.guards_true ?_) fun a => Calls.seals ?_
  all_goals
    obtain ⟨rp', res⟩ := a
    cases res with
    | error e => exact calls_pure _ _
    | ok hr =>
      simp only [Prog.bind_eq]
      split_ifs <;> simp

theorem reconcileDependents_seals :
    (r.reconcileDependents rp).Seals (Call.creates · = true) (Call.creates · = true)
      fun _ => True := by
  unfold reconcileDependents
  refine reconcileHelmRepository_seals.bind (fun ⟨rp', res⟩ hres => ?_) fun ⟨rp', res⟩ => ?_
  · cases res with
    | error e => exact fun h => h trivial
    | ok repo =>
      simp only [Prog.bind_eq, Client.emitAll_bind_guards]
      split_ifs with h
      · simp [checkDependent_not_ready hres] at h
      · exact fun h => h trivial
  · cases res with
    | error e => trivial
    | ok repo =>
      simp only [Prog.bind_eq, Client.emitAll_bind_seals]
      split_ifs
      · exact reconcileRelease_seals
      · trivial

theorem reconcile_seals :
    (r.reconcile rp).Seals (Call.creates · = true) (Call.creates · = true) fun _ => True := by
  unfold reconcile
  split_ifs
  · refine (Calls.seals (R := fun _ => False) (patchRedpandaStatus_no_create _)).bind
      (fun _ h => h.elim) fun e => ?_
    split
    · trivial
    · exact reconcileDependents_seals
  · exact reconcileDependents_seals

theorem reconcileManaged_seals :
    (r.reconcileManaged rp).Seals (Call.creates · = true) (Call.creates · = true) fun _ => True := by
  unfold reconcileManaged
  refine (Calls.seals (R := fun _ => False) ?_).bind (fun _ h => h.elim) fun _ =>
    reconcile_seals.bind (fun a _ => Calls.guards_true ?_) fun a => Calls.seals ?_
  · split
    · exact tryMigration_no_create rp
    · exact calls_pure _ _
  all_goals
    obtain ⟨rp', result, err⟩ := a
    exact Calls.bind (patchRedpandaStatus_no_create _) fun e => by split <;> exact calls_pure _ _

theorem reconcileObject_seals :
    (r.reconcileObject rp).Seals (Call.creates · = true) (Call.creates · = true) fun _ => True := by
  by_cases hl : rp.meta.deletionTimestamp.isSome = true ∨ isRedpandaManaged rp = false
  · exact Calls.seals (reconcileObject_no_create hl)
  · unfold reconcileObject
    split_ifs
    · simp_all
    · simp_all
    · simp_all
    · exact reconcileManaged_seals
    · simp only [Prog.bind_eq, Client.write_bind]
      refine fun resp => ⟨fun h => absurd h Bool.false_ne_true, ?_⟩
      dsimp only
      split
      · trivial
      · exact reconcileManaged_seals

end RedpandaReconciler

/-- A HelmRelease is created only after the invocation read the Redpanda live and managed, made sure
of its finalizer, and found the HelmRepository ready; and the invocation creates nothing else. -/
theorem createHelmRelease_preconditions (r : RedpandaReconciler) (key : ObjectKey) (σ : Sched)
    (s : Store) {pre post : List (Call × Response)} {x : Call × Response}
    (h : (exec σ (r.Reconcile key) 0 s).calls = pre ++ x :: post)
    (hx : x.1.isCreateHelmRelease = true) :
    ∃ rp, pre.head? = some (.getRedpanda key, .redpanda rp) ∧
      rp.meta.deletionTimestamp = none ∧ isRedpandaManaged rp = true ∧
      (finalizerKey ∈ rp.meta.finalizers ∨
        (.patchRedpanda rp { rp with meta := rp.meta.addFinalizer finalizerKey }, .ok) ∈ pre) ∧
      (∃ repo : HelmRepository,
        (.getHelmRepository ⟨rp.meta.ns, rp.getHelmRepositoryName⟩, .helmRepository repo) ∈ pre ∧
        Observation.ready ⟨repo.meta.generation, repo.status⟩ = true) ∧
      ∀ y ∈ pre ++ post, y.1.creates = false := by
  have hk : x.1.creates = true := Call.creates_of_isCreateHelmRelease hx
  obtain ⟨rp, hcalls⟩ := r.exec_Reconcile_calls (x := x) (by rw [h]; simp)
    fun he => by simp [he, Call.isCreateHelmRelease] at hx
  generalize (σ.answer 0 s (.getRedpanda key)).1 = s₁ at hcalls
  rw [hcalls] at h
  obtain ⟨pre, rfl, htail⟩ : ∃ pre', pre = (.getRedpanda key, .redpanda rp) :: pre' ∧
      (exec σ (r.reconcileObject rp) 1 s₁).calls = pre' ++ x :: post := by
    rcases List.cons_eq_append_iff.mp h with ⟨-, h'⟩ | ⟨pre', hpre, h'⟩
    · obtain ⟨rfl, -⟩ := List.cons.inj h'
      simp [Call.isCreateHelmRelease] at hx
    · exact ⟨pre', hpre, h'⟩
  have hmem : x ∈ (exec σ (r.reconcileObject rp) 1 s₁).calls := by
    rw [htail]; simp
  have hlive : rp.meta.deletionTimestamp = none ∧ isRedpandaManaged rp = true := by
    by_contra hn
    refine (RedpandaReconciler.reconcileObject_no_create ?_).exec_calls σ 1 s₁ _ hmem hk
    cases hd : rp.meta.deletionTimestamp <;> simp_all
  refine ⟨rp, rfl, hlive.1, hlive.2, ?_, ?_, fun y hy => ?_⟩
  · by_cases hf : finalizerKey ∈ rp.meta.finalizers
    · exact .inl hf
    · obtain ⟨y, hy, hc, hr⟩ :=
        (RedpandaReconciler.reconcileObject_guards_finalizer hf).exec_before htail hx
      exact .inr (List.mem_cons_of_mem _ ((Prod.ext hc hr : y = (_, .ok)) ▸ hy))
  · obtain ⟨y, hy, hc, repo, hr, hready⟩ :=
      RedpandaReconciler.reconcileObject_guards_repository.exec_before htail hx
    exact ⟨repo, List.mem_cons_of_mem _ ((Prod.ext hc hr : y = (_, _)) ▸ hy), hready⟩
  · rcases List.mem_cons.mp hy with rfl | hy
    · rfl
    · exact Bool.not_eq_true _ ▸ RedpandaReconciler.reconcileObject_seals.exec_at_most_one htail hk y hy

def releaseCreatingCalls : List (Call × Response) :=
  (exec {} (demoReconciler.Reconcile demoKey) 0
    (runSystem demoReconciler demoKey (Store.initial demoRedpanda) [.reconcile {}, repositoryReady])).calls

theorem createHelmRelease_preconditions_repositoryReady :
    ∃ rp, (releaseCreatingCalls.take 2).head? = some (.getRedpanda demoKey, .redpanda rp) ∧
      rp.meta.deletionTimestamp = none ∧ isRedpandaManaged rp = true ∧
      (finalizerKey ∈ rp.meta.finalizers ∨
        (.patchRedpanda rp { rp with meta := rp.meta.addFinalizer finalizerKey }, .ok) ∈
          releaseCreatingCalls.take 2) ∧
      (∃ repo : HelmRepository,
        (.getHelmRepository ⟨rp.meta.ns, rp.getHelmRepositoryName⟩, .helmRepository repo) ∈
          releaseCreatingCalls.take 2 ∧
        Observation.ready ⟨repo.meta.generation, repo.status⟩ = true) ∧
      ∀ y ∈ releaseCreatingCalls.take 2 ++ releaseCreatingCalls.drop 3, y.1.creates = false :=
  createHelmRelease_preconditions demoReconciler demoKey {}
    (runSystem demoReconciler demoKey (Store.initial demoRedpanda) [.reconcile {}, repositoryReady])
    (x := (releaseCreatingCalls[2]?).getD (.getRedpanda demoKey, .ok)) (by decide) (by decide)

def readyUnrecordedStore : Store :=
  runSystem demoReconciler demoKey (Store.initial demoRedpanda) (unrecordedReleaseRun ++ [releaseReady])

/-- A reachable cluster, migration off, no call failing: the first invocation meets the ready
HelmRelease through AlreadyExists, leaves it as it is and records it not ready; the second flips
the flag to true and emits an event. -/
theorem reconcile_not_fixed_point :
    Reachable demoReconciler demoKey readyUnrecordedStore ∧ migrationEnabled demoRedpanda = false ∧
    let a := exec {} (demoReconciler.Reconcile demoKey) 0 readyUnrecordedStore
    let b := exec {} (demoReconciler.Reconcile demoKey) 0 a.store
    (∃ x ∈ a.calls, x.1.isCreateHelmRelease = true ∧ x.2 = .error .alreadyExists) ∧
    a.store.helmReleases demoKey = readyUnrecordedStore.helmReleases demoKey ∧
    ((a.store.redpandas demoKey).map (·.status.helmReleaseReady)) = some (some false) ∧
    ((b.store.redpandas demoKey).map (·.status.helmReleaseReady)) = some (some true) ∧
    b.events.length = 1 :=
  ⟨(Reachable.initial demoRedpanda rfl).runSystem _, rfl, by decide⟩

end RedpandaOperator
