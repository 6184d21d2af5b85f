import RedpandaOperator.Dependents

/-!
`FinalizerKey` on the Redpanda. Other parties never take it away, and the only calls of the
controller that can are the two updates that remove it on purpose: on the unmanaged path, and on
the deletion path once `deleteHelmRelease` returned nil. On the deletion path that happens when a
`Get` of the recorded HelmRelease answered NotFound, and also, with no `Get` at all, when the status
records no name: a HelmRelease whose name never reached the status is not waited for. The
finalizer patch is a plain merge patch: it carries the finalizer list as `Reconcile` read it, plus
`FinalizerKey`, and no version, so the server applies it over whatever another client added in
between.
-/

namespace RedpandaOperator

namespace Store

variable {s : Store} {key : ObjectKey}

theorem finalizers_perform_of_managedFor {c : Call} {k : ObjectKey} {recorded : String}
    (hc : c.managedFor k recorded) {x : Redpanda}
    (hx : s.redpandas key = some x) (hne : x.meta.finalizers ≠ []) :
    ∃ y, (s.perform c).1.redpandas key = some y ∧ y.meta.finalizers = x.meta.finalizers := by
  cases hw : c.writesRedpanda
  · exact ⟨x, perform_redpandas hw s ▸ hx, rfl⟩
  · cases c <;> simp only [Call.writesRedpanda, Call.managedFor, Bool.false_eq_true] at hw hc
    rename_i latest modified
    simp only [perform]
    split
    · exact ⟨x, hx, rfl⟩
    · rename_i cur hcur
      by_cases hk : key = modified.meta.key
      · subst hk
        simp_all [writeRedpanda, ObjectMeta.finalized, List.isEmpty_iff]
      · simp [writeRedpanda, Function.update_noteq hk, hx]

end Store

open Prog

namespace RedpandaReconciler

variable {r : RedpandaReconciler} {rp : Redpanda}

end RedpandaReconciler

/-- Another client adds the finalizer `f` to the Redpanda between the `Get` and the finalizer patch
of `Reconcile`; no call fails. -/
def concurrentFinalizer (key : ObjectKey) (f : String) : Sched where
  before i := if i = 1 then [.addRedpandaFinalizer key f] else []

@[simp] theorem concurrentFinalizer_stop (key : ObjectKey) (f : String) :
    (concurrentFinalizer key f).stop = none := rfl

theorem concurrentFinalizer_answer_patch {key : ObjectKey} {s : Store} {rp : Redpanda} {f : String}
    (hrp : s.redpandas key = some rp) (hkey : rp.meta.key = key)
    (hF : finalizerKey ∉ rp.meta.finalizers) (hf : f ∉ rp.meta.finalizers) :
    let answer := (concurrentFinalizer key f).answer 1 s
      (.patchRedpanda rp { rp with meta := rp.meta.addFinalizer finalizerKey })
    answer.2 = .ok ∧ ∃ x, answer.1.redpandas key = some x ∧
      x.meta.finalizers = rp.meta.finalizers ++ [finalizerKey] := by
  have hadd : ∀ g, g ∉ rp.meta.finalizers →
      (rp.meta.addFinalizer g).finalizers = rp.meta.finalizers ++ [g] := by
    intro g hg
    simp [ObjectMeta.addFinalizer, hg]
  simp [Sched.answer, concurrentFinalizer, EnvAction.apply, hrp, Store.perform, Store.writeRedpanda,
    hkey, ObjectMeta.finalized, hadd _ hf, hadd _ hF, mergeMeta, mergeField]

/-- When another client adds a finalizer between the read and the patch, the patch is not
rejected: it succeeds, and the Redpanda ends the invocation with the finalizers `Reconcile` read
plus `FinalizerKey`, the other client's finalizer lost. -/
theorem finalizer_patch_drops_concurrent_finalizer (r : RedpandaReconciler) (key : ObjectKey)
    (s : Store) (rp : Redpanda) (f : String) (hrp : s.redpandas key = some rp)
    (hkey : rp.meta.key = key) (hd : rp.meta.deletionTimestamp = none)
    (hm : isRedpandaManaged rp = true) (hF : finalizerKey ∉ rp.meta.finalizers)
    (hf : f ∉ rp.meta.finalizers) (hne : f ≠ finalizerKey) :
    (exec (concurrentFinalizer key f) (r.Reconcile key) 0 s).calls.take 2 =
      [(.getRedpanda key, .redpanda rp),
        (.patchRedpanda rp { rp with meta := rp.meta.addFinalizer finalizerKey }, .ok)] ∧
    ∃ rp', (exec (concurrentFinalizer key f) (r.Reconcile key) 0 s).store.redpandas key = some rp' ∧
      rp'.meta.finalizers = rp.meta.finalizers ++ [finalizerKey] ∧ f ∉ rp'.meta.finalizers := by
  have h0 : (concurrentFinalizer key f).answer 0 s (.getRedpanda key) = (s, .redpanda rp) := by
    simp [Sched.answer, concurrentFinalizer, Store.perform, hrp]
  have hobj : r.reconcileObject rp = .call
      (.patchRedpanda rp { rp with meta := rp.meta.addFinalizer finalizerKey }) fun resp =>
        match resp.toError with
        | some e => .pure ({}, some (.status e))
        | none => r.reconcileManaged { rp with meta := rp.meta.addFinalizer finalizerKey } := by
    unfold RedpandaReconciler.reconcileObject
    rw [if_neg (by simp [hd]), if_neg (by simp [hm]), if_neg (by simpa using hF)]
    rfl
  obtain ⟨hok, x, hx, hfin⟩ := concurrentFinalizer_answer_patch hrp hkey hF hf
  unfold RedpandaReconciler.Reconcile
  simp only [Prog.bind_eq, Client.getRedpanda_bind, exec_call_calls, exec_call_store, h0,
    concurrentFinalizer_stop, reduceCtorEq, if_false, Response.toRedpanda, hobj, Nat.zero_add, hok,
    Response.toError]
  refine ⟨rfl, ?_⟩
  have hinv := exec_store_of_calls (concurrentFinalizer key f)
    (r.reconcileManaged { rp with meta := rp.meta.addFinalizer finalizerKey }) (1 + 1)
    (I := fun s => ∃ y, s.redpandas key = some y ∧ y.meta.finalizers = x.meta.finalizers)
    (fun _ _ hc ⟨y, hy, hfy⟩ => by
      obtain ⟨z, hz, hfz⟩ := Store.finalizers_perform_of_managedFor hc hy (by simp [hfy, hfin])
      exact ⟨z, hz, hfz.trans hfy⟩)
    (fun j hj a ha => by simp [concurrentFinalizer, show j ≠ 1 by omega] at ha)
    (RedpandaReconciler.reconcileManaged_calls.exec_calls _ _ _) ⟨x, hx, rfl⟩
  obtain ⟨y, hy, hfy⟩ := hinv
  exact ⟨y, hy, hfy.trans hfin, by simp [hfy, hfin, hf, hne]⟩

theorem finalizer_patch_drops_concurrent_finalizer_initial :
    let s := Store.initial demoRedpanda
    let rp := (s.redpandas demoKey).getD demoRedpanda
    (exec (concurrentFinalizer demoKey "cleanup") (demoReconciler.Reconcile demoKey) 0 s).calls.take 2 =
      [(.getRedpanda demoKey, .redpanda rp),
        (.patchRedpanda rp { rp with meta := rp.meta.addFinalizer finalizerKey }, .ok)] ∧
    ∃ rp', (exec (concurrentFinalizer demoKey "cleanup") (demoReconciler.Reconcile demoKey) 0
        s).store.redpandas demoKey = some rp' ∧
      rp'.meta.finalizers = rp.meta.finalizers ++ [finalizerKey] ∧ "cleanup" ∉ rp'.meta.finalizers :=
  finalizer_patch_drops_concurrent_finalizer demoReconciler demoKey _ _ "cleanup" rfl rfl rfl rfl
    (by decide) (by decide) (by decide)

/-- On a fresh cluster the patch is answered without error and leaves `FinalizerKey` alone. -/
theorem concurrent_finalizer_lost :
    ((exec (concurrentFinalizer demoKey "cleanup") (demoReconciler.Reconcile demoKey) 0
        (Store.initial demoRedpanda)).store.redpandas demoKey).map (·.meta.finalizers) =
      some [finalizerKey] ∧
    ((exec (concurrentFinalizer demoKey "cleanup") (demoReconciler.Reconcile demoKey) 0
        (Store.initial demoRedpanda)).calls[1]?).map (·.2) = some .ok := by
  decide

end RedpandaOperator
