import RedpandaOperator.Footprint

/-!
The objects a cluster around one Redpanda can hold. From a fresh cluster, under any schedule of
faults, crashes and other parties' writes, every reachable store holds the Redpanda under its own
key only, the HelmRepository of its namespace only, and no HelmRelease but the Redpanda's own. The
controller creates dependents only from the Redpanda its `Get` read, every write of an existing
object keeps its name and namespace, and the other parties only change objects that exist.
-/

namespace RedpandaOperator

/-- The calls that keep a store around the Redpanda under `key`, whose status records the release
name `recorded`: the Creates of the HelmRepository of its namespace and of the HelmRelease under its
own key, and status patches that keep, clear, or set to its own the recorded name. Every other call
counts. -/
def Call.createsOwn (key : ObjectKey) (recorded : String) : Call → Prop
  | .createHelmRepository repo => repo.meta.key = ⟨key.ns, "redpanda-repository"⟩
  | .createHelmRelease hr => hr.meta.key = key
  | .patchRedpandaStatus _ rp => rp.status.helmRelease = recorded ∨ rp.status.helmRelease = "" ∨
      rp.status.helmRelease = key.name
  | _ => True

theorem Call.createsOwn_of_managedFor {key : ObjectKey} {recorded : String} {c : Call}
    (h : c.managedFor key recorded) : c.createsOwn key recorded := by
  cases c <;> simp_all [managedFor, createsOwn]

theorem Call.createsOwn_of_recorded {key : ObjectKey} {recorded : String} {c : Call}
    (hr : recorded = "" ∨ recorded = key.name) (h : c.createsOwn key recorded) :
    c.createsOwn key "" := by
  cases c <;> simp only [createsOwn] at h ⊢
  case patchRedpandaStatus => rcases hr with rfl | rfl <;> tauto
  all_goals exact h

/-- The store around the Redpanda under `key`: Redpandas and HelmReleases only under `key`,
HelmRepositories only under the repository key of its namespace, each object under its own key,
and the release name in the status empty or the Redpanda's own. -/
structure Store.Owned (key : ObjectKey) (s : Store) : Prop where
  redpandas : ∀ k rp, s.redpandas k = some rp → k = key ∧ rp.meta.key = key
  recorded : ∀ k rp, s.redpandas k = some rp →
    rp.status.helmRelease = "" ∨ rp.status.helmRelease = key.name
  helmRepositories : ∀ k repo, s.helmRepositories k = some repo →
    k = ⟨key.ns, "redpanda-repository"⟩ ∧ repo.meta.key = k
  helmReleases : ∀ k hr, s.helmReleases k = some hr → k = key ∧ hr.meta.key = key

namespace Store.Owned

variable {key : ObjectKey} {s : Store}

theorem writeRedpanda (h : s.Owned key) {k : ObjectKey} {x : Redpanda} (hk : k = key)
    (hx : x.meta.key = key) (hr : x.status.helmRelease = "" ∨ x.status.helmRelease = key.name) :
    (s.writeRedpanda k x).Owned key where
  redpandas k' y hy := by
    simp only [Store.writeRedpanda, Function.update_apply] at hy
    split_ifs at hy with hk'
    · exact ⟨hk'.trans hk, by cases hy; exact hx⟩
    · exact h.redpandas k' y hy
  recorded k' y hy := by
    simp only [Store.writeRedpanda, Function.update_apply] at hy
    split_ifs at hy
    · cases hy
      exact hr
    · exact h.recorded k' y hy
  helmRepositories := h.helmRepositories
  helmReleases := h.helmReleases

theorem writeHelmRepository (h : s.Owned key) {k : ObjectKey} {x : HelmRepository}
    (hk : k = ⟨key.ns, "redpanda-repository"⟩) (hx : x.meta.key = k) :
    (s.writeHelmRepository k x).Owned key where
  redpandas := h.redpandas
  recorded := h.recorded
  helmRepositories k' y hy := by
    simp only [Store.writeHelmRepository, Function.update_apply] at hy
    split_ifs at hy with hk'
    · cases hy
      exact ⟨hk'.trans hk, hx.trans hk'.symm⟩
    · exact h.helmRepositories k' y hy
  helmReleases := h.helmReleases

theorem writeHelmRelease (h : s.Owned key) {k : ObjectKey} {x : HelmRelease} (hk : k = key)
    (hx : x.meta.key = key) : (s.writeHelmRelease k x).Owned key where
  redpandas := h.redpandas
  recorded := h.recorded
  helmRepositories := h.helmRepositories
  helmReleases k' y hy := by
    simp only [Store.writeHelmRelease, Function.update_apply] at hy
    split_ifs at hy with hk'
    · exact ⟨hk'.trans hk, by cases hy; exact hx⟩
    · exact h.helmReleases k' y hy

theorem removeHelmRepository (h : s.Owned key) (k : ObjectKey) : (s.removeHelmRepository k).Owned key where
  redpandas := h.redpandas
  recorded := h.recorded
  helmRepositories k' y hy := by
    simp only [Store.removeHelmRepository, Function.update_apply] at hy
    split_ifs at hy
    exact h.helmRepositories k' y hy
  helmReleases := h.helmReleases

theorem removeHelmRelease (h : s.Owned key) (k : ObjectKey) : (s.removeHelmRelease k).Owned key where
  redpandas := h.redpandas
  recorded := h.recorded
  helmRepositories := h.helmRepositories
  helmReleases k' y hy := by
    simp only [Store.removeHelmRelease, Function.update_apply] at hy
    split_ifs at hy
    exact h.helmReleases k' y hy

/-- Every call in `createsOwn` keeps the store around the Redpanda: a write of an existing object
keeps its key, a status patch merges in a recorded name that is empty or the Redpanda's own, and the
Creates are under the Redpanda's keys. -/
theorem perform (h : s.Owned key) {c : Call} (hc : c.createsOwn key "") : (s.perform c).1.Owned key := by
  cases c with
  | updateRedpanda x =>
    simp only [Store.perform]
    split
    · exact h
    · rename_i cur hcur
      split_ifs
      · exact h
      · exact h.writeRedpanda (h.redpandas _ _ hcur).1 (h.redpandas _ _ hcur).1
          (h.recorded _ cur hcur)
  | patchRedpanda o x =>
    simp only [Store.perform]
    split
    · exact h
    · rename_i cur hcur
      exact h.writeRedpanda (h.redpandas _ _ hcur).1 (h.redpandas _ _ hcur).2 (h.recorded _ cur hcur)
  | patchRedpandaStatus o x =>
    simp only [Store.perform]
    split
    · exact h
    · rename_i cur hcur
      refine h.writeRedpanda (h.redpandas _ _ hcur).1 (h.redpandas _ _ hcur).2 ?_
      show mergeField cur.status.helmRelease o.status.helmRelease x.status.helmRelease = "" ∨
        mergeField cur.status.helmRelease o.status.helmRelease x.status.helmRelease = key.name
      rcases mergeField_eq_or cur.status.helmRelease o.status.helmRelease x.status.helmRelease
        with hm | hm <;> rw [hm]
      · exact h.recorded _ cur hcur
      · exact hc.elim .inl id
  | createHelmRepository repo =>
    simp only [Store.perform]
    split
    · exact h
    · exact h.writeHelmRepository hc rfl
  | createHelmRelease hr =>
    simp only [Store.perform]
    split
    · exact h
    · exact h.writeHelmRelease hc hc
  | updateHelmRelease hr =>
    simp only [Store.perform]
    split
    · exact h
    · rename_i cur hcur
      split_ifs
      · exact h
      all_goals exact h.writeHelmRelease (h.helmReleases _ _ hcur).1 (h.helmReleases _ _ hcur).1
  | deleteHelmRelease hr p =>
    simp only [Store.perform]
    split
    · exact h
    · rename_i cur hcur
      exact h.writeHelmRelease (h.helmReleases _ _ hcur).1 (h.helmReleases _ _ hcur).2
  | update kind obj =>
    simp only [Store.perform]
    split
    · exact h
    · split_ifs
      · exact h
      · exact ⟨h.1, h.2, h.3, h.4⟩
  | delete kind obj p =>
    simp only [Store.perform]
    split
    · exact h
    · exact ⟨h.1, h.2, h.3, h.4⟩
  | getRedpanda _ | getHelmRepository _ | getHelmRelease _ | get _ _ | list _ _ _ => exact h

theorem apply (h : s.Owned key) (a : EnvAction) : (a.apply s).Owned key := by
  cases a with
  | deleteRedpanda k _ | addRedpandaFinalizer k _ | editRedpanda k _ =>
    simp only [EnvAction.apply]
    split
    · exact h
    · rename_i x hx
      exact h.writeRedpanda (h.redpandas _ _ hx).1 (by simpa using (h.redpandas _ _ hx).2)
        (h.recorded _ x hx)
  | setHelmRepositoryStatus k _ =>
    simp only [EnvAction.apply]
    split
    · exact h
    · rename_i x hx
      exact h.writeHelmRepository (h.helmRepositories _ _ hx).1 (h.helmRepositories _ _ hx).2
  | deleteHelmRepository k => exact h.removeHelmRepository k
  | setHelmReleaseStatus k _ | editHelmRelease k _ =>
    simp only [EnvAction.apply]
    split
    · exact h
    · rename_i x hx
      exact h.writeHelmRelease (h.helmReleases _ _ hx).1 (h.helmReleases _ _ hx).2
  | removeHelmRelease k => exact h.removeHelmRelease k

theorem initial {rp : Redpanda} (hk : rp.meta.key = key) : (Store.initial rp).Owned key where
  redpandas k y hy := by
    simp only [Store.initial, Function.update_apply] at hy
    split_ifs at hy with hk'
    cases hy
    exact ⟨hk'.trans hk, hk⟩
  recorded k y hy := by
    simp only [Store.initial, Function.update_apply] at hy
    split_ifs at hy
    cases hy
    exact .inl rfl
  helmRepositories _ _ hy := nomatch hy
  helmReleases _ _ hy := nomatch hy

end Store.Owned

theorem Sched.answer_getRedpanda {σ : Sched} {i : Nat} {s : Store} {key : ObjectKey} {rp : Redpanda}
    (h : (σ.answer i s (.getRedpanda key)).2 = .redpanda rp) :
    ((σ.before i).foldl EnvAction.apply s).redpandas key = some rp := by
  unfold Sched.answer at h
  split at h
  · cases h
  · simp only [Store.perform] at h
    split at h <;> cases h
    assumption

namespace RedpandaReconciler

open Prog

variable {r : RedpandaReconciler} {rp : Redpanda}

theorem reconcileObject_createsOwn :
    (r.reconcileObject rp).Calls (Call.createsOwn rp.meta.key rp.status.helmRelease) := by
  unfold reconcileObject
  split_ifs
  · exact reconcileDelete_calls.mono fun c _ => by cases c <;> simp_all [Call.deleting, Call.createsOwn]
  · simp only [Prog.bind_eq, Client.write_bind, calls_call]
    exact ⟨trivial, fun _ => by split <;> exact calls_pure _ _⟩
  · exact calls_pure _ _
  · exact reconcileManaged_calls.mono fun _ => Call.createsOwn_of_managedFor
  · simp only [Prog.bind_eq, Client.write_bind, calls_call]
    refine ⟨trivial, fun _ => ?_⟩
    split
    · exact calls_pure _ _
    · exact reconcileManaged_calls.mono fun _ h => by
        simpa using Call.createsOwn_of_managedFor h

theorem exec_Reconcile_head {σ : Sched} {s : Store} {key : ObjectKey} {x : Call × Response}
    {rest : List (Call × Response)} (h : (exec σ (r.Reconcile key) 0 s).calls = x :: rest) :
    x = (.getRedpanda key, (σ.answer 0 s (.getRedpanda key)).2) := by
  unfold Reconcile at h
  simp only [Prog.bind_eq, Client.getRedpanda_bind, exec_call_calls] at h
  split at h
  · cases h
  · exact (List.cons.inj h).1.symm

/-- An invocation of `Reconcile` keeps the store around its Redpanda, under any schedule. -/
theorem exec_Reconcile_owned (σ : Sched) {key : ObjectKey} {s : Store} (hs : s.Owned key) :
    (exec σ (r.Reconcile key) 0 s).store.Owned key := by
  have henv : ∀ j, 0 ≤ j → ∀ a ∈ σ.before j, ∀ s : Store, s.Owned key → (a.apply s).Owned key :=
    fun _ _ a _ _ h => h.apply a
  refine exec_store_of_calls σ _ 0 (P := Call.createsOwn key "") (fun _ _ hc h => h.perform hc) henv
    (fun x hx => ?_) hs
  by_cases hne : x.1 = .getRedpanda key
  · rw [hne]
    trivial
  · obtain ⟨rp, s₁, hcalls, hx⟩ := exec_Reconcile_mem hx hne
    have hget := congrArg Prod.snd (exec_Reconcile_head hcalls)
    have hs₀ := EnvAction.foldl_apply (henv 0 le_rfl) hs
    have hrp := Sched.answer_getRedpanda hget.symm
    have hk : rp.meta.key = key := (hs₀.redpandas _ _ hrp).2
    refine Call.createsOwn_of_recorded (hs₀.recorded _ _ hrp) ?_
    exact hk ▸ reconcileObject_createsOwn.exec_calls σ 1 s₁ x hx

end RedpandaReconciler

/-- Every reachable store holds the Redpanda under its key only, the HelmRepository of its
namespace only, and no HelmRelease but the Redpanda's own. -/
theorem Reachable.owned {r : RedpandaReconciler} {key : ObjectKey} {s : Store}
    (h : Reachable r key s) : s.Owned key := by
  induction h with
  | initial rp hk => exact Store.Owned.initial hk
  | step st _ ih =>
    cases st with
    | reconcile σ => exact RedpandaReconciler.exec_Reconcile_owned σ ih
    | env a => exact ih.apply a

/-- The store the unrecorded-release run reaches, whose HelmRelease never reached the status, holds
only the Redpanda's own objects. -/
theorem unrecordedReleaseRun_owned :
    (runSystem demoReconciler demoKey (Store.initial demoRedpanda) unrecordedReleaseRun).Owned demoKey :=
  Reachable.owned ((Reachable.initial demoRedpanda rfl).runSystem _)

end RedpandaOperator
