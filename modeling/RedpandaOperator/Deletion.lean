import RedpandaOperator.Finalizer

/-!
The Delete of the HelmRelease. `deleteHelmRelease` issues it whenever its `Get` finds the recorded
release, with no check for a deletion already in progress, and then makes the invocation return
"wait for helm release deletion". So an invocation deletes at most once, and only in one shape:
the `Get` of a Redpanda under deletion with a recorded name, the `Get` of that release, its
foreground Delete. Every invocation that is not cut short and still finds the release deletes it
again.
-/

namespace RedpandaOperator

open Prog

def Call.isDeleteHelmRelease : Call → Bool
  | .deleteHelmRelease _ _ => true
  | _ => false

namespace RedpandaReconciler

variable {r : RedpandaReconciler} {rp : Redpanda}

theorem reconcileObject_no_delete (hd : rp.meta.deletionTimestamp = none) :
    (r.reconcileObject rp).Calls fun c => c.isDeleteHelmRelease = false := by
  have hmk : ∀ rp', (r.reconcileManaged rp').Calls fun c => c.isDeleteHelmRelease = false :=
    fun _ => reconcileManaged_calls.mono fun c h => by
      cases c <;> simp_all [Call.managedFor, Call.isDeleteHelmRelease]
  unfold reconcileObject
  simp only [hd, Option.isSome_none, Bool.false_eq_true, if_false]
  split_ifs
  · simp only [Prog.bind_eq, Client.write_bind, calls_call]
    exact ⟨rfl, fun _ => by split <;> exact calls_pure _ _⟩
  · exact calls_pure _ _
  · exact hmk rp
  · simp only [Prog.bind_eq, Client.write_bind, calls_call]
    exact ⟨rfl, fun _ => by split <;> [exact calls_pure _ _; exact hmk _]⟩

/-- A run of `reconcileDelete` that deletes the HelmRelease issues the `Get` of the recorded name,
which found the release, and its foreground Delete, and nothing else. -/
theorem exec_reconcileDelete_of_delete {σ : Sched} {i : Nat} {s : Store} {x : Call × Response}
    (hx : x ∈ (exec σ (reconcileDelete rp) i s).calls) (hdel : x.1.isDeleteHelmRelease = true) :
    rp.status.helmRelease ≠ "" ∧ ∃ hr, (exec σ (reconcileDelete rp) i s).calls =
      [(.getHelmRelease ⟨rp.meta.ns, rp.status.helmRelease⟩, .helmRelease hr),
        (.deleteHelmRelease hr (some .foreground), x.2)] := by
  have hupd : ∀ (rp' : Redpanda) j s', x ∉ (exec σ (Prog.call (.updateRedpanda rp') fun r =>
      match r.toError with
      | some e => Prog.pure (({} : Result), some (GoError.status e))
      | none => Prog.pure ({}, none)) j s').calls := by
    intro rp' j s' hx'
    rw [exec_call_calls] at hx'
    split at hx'
    · simp at hx'
    · rcases List.mem_cons.mp hx' with rfl | hx'
      · simp [Call.isDeleteHelmRelease] at hdel
      · split at hx' <;> simp at hx'
  unfold reconcileDelete deleteHelmRelease at hx ⊢
  by_cases hn : rp.status.helmRelease = ""
  · simp only [hn, if_true, Prog.bind_eq, Prog.pure_eq, Prog.pure_bind] at hx
    split_ifs at hx
    · exact absurd hx (hupd _ _ _)
    · simp at hx
  refine ⟨hn, ?_⟩
  simp only [hn, if_false, Prog.bind_eq, Client.getHelmRelease_bind, Prog.call_bind,
    exec_call_calls] at hx ⊢
  split at hx
  · simp at hx
  rw [if_neg ‹_›]
  generalize σ.answer i s _ = sr at hx ⊢
  rcases List.mem_cons.mp hx with rfl | hx
  · simp [Call.isDeleteHelmRelease] at hdel
  cases h : sr.2.toHelmRelease with
  | error e =>
    simp only [h] at hx
    split_ifs at hx
    · simp only [Prog.pure_eq, Prog.pure_bind] at hx
      split_ifs at hx
      · exact absurd hx (hupd _ _ _)
      · simp at hx
    · simp at hx
  | ok hr =>
    refine ⟨hr, ?_⟩
    simp only [h, Client.write_bind, Prog.call_bind, exec_call_calls] at hx ⊢
    split at hx
    · simp at hx
    rw [if_neg ‹_›]
    generalize σ.answer (i + 1) sr.1 _ = sr' at hx ⊢
    rw [Response.toHelmRelease_eq_ok.mp h]
    cases h' : sr'.2.toError <;> simp_all

theorem deleteHelmRelease_runs {l : List (Call × Response)} {x : Redpanda × Option GoError}
    (h : (deleteHelmRelease rp).Runs l x) {k : ObjectKey} {hr : HelmRelease}
    (hmem : (Call.getHelmRelease k, Response.helmRelease hr) ∈ l) :
    ∃ resp, (Call.deleteHelmRelease hr (some .foreground), resp) ∈ l := by
  unfold deleteHelmRelease at h
  split_ifs at h
  · simp only [Prog.pure_eq, runs_pure] at h
    simp [h.1] at hmem
  simp only [Prog.bind_eq, Client.getHelmRelease_bind, runs_call] at h
  obtain ⟨r₀, l', rfl, h⟩ := h
  split at h
  · rename_i e heq
    have hl' : l' = [] := by split_ifs at h <;> exact (runs_pure.mp h).1
    subst hl'
    obtain ⟨-, rfl⟩ := Prod.mk.inj (List.mem_singleton.mp hmem)
    simp [Response.toHelmRelease] at heq
  · rename_i hr' heq
    simp only [Client.write_bind, runs_call] at h
    obtain ⟨r₁, l'', rfl, h⟩ := h
    have hl'' : l'' = [] := by split at h <;> exact (runs_pure.mp h).1
    subst hl''
    rcases List.mem_cons.mp hmem with he | he
    · obtain ⟨-, rfl⟩ := Prod.mk.inj he
      cases Response.toHelmRelease_eq_ok.mp heq
      exact ⟨r₁, List.mem_cons_of_mem _ (List.mem_singleton_self _)⟩
    · simp at he

theorem reconcileDelete_runs {l : List (Call × Response)} {x : Result × Option GoError}
    (h : (reconcileDelete rp).Runs l x) {k : ObjectKey} {hr : HelmRelease}
    (hmem : (Call.getHelmRelease k, Response.helmRelease hr) ∈ l) :
    ∃ resp, (Call.deleteHelmRelease hr (some .foreground), resp) ∈ l := by
  obtain ⟨⟨rp', err⟩, l₁, l₂, rfl, h₁, h₂⟩ := Runs.of_bind h
  rcases List.mem_append.mp hmem with hm | hm
  · obtain ⟨resp, hd⟩ := deleteHelmRelease_runs h₁ hm
    exact ⟨resp, List.mem_append_left _ hd⟩
  · exfalso
    dsimp only at h₂
    split at h₂
    · simp [(runs_pure.mp h₂).1] at hm
    · split_ifs at h₂
      · simp only [Prog.bind_eq, Client.write_bind, runs_call] at h₂
        obtain ⟨_, l', rfl, h₂⟩ := h₂
        have hl' : l' = [] := by split at h₂ <;> exact (runs_pure.mp h₂).1
        simp [hl'] at hm
      · simp [(runs_pure.mp h₂).1] at hm

end RedpandaReconciler

/-- An invocation that deletes a HelmRelease makes exactly three calls: the `Get` of a Redpanda under
deletion with a recorded name, the `Get` of that HelmRelease, which found it, and its foreground
Delete; so it deletes at most once. Conversely, an invocation that is not cut short, whose `Get`
found a Redpanda under deletion and then found its recorded HelmRelease, deletes that release. -/
theorem helmRelease_deleted_once_per_invocation (r : RedpandaReconciler) (key : ObjectKey)
    (σ : Sched) (s : Store) :
    (∀ x ∈ (exec σ (r.Reconcile key) 0 s).calls, x.1.isDeleteHelmRelease = true →
      ∃ rp hr, rp.meta.deletionTimestamp.isSome = true ∧ rp.status.helmRelease ≠ "" ∧
        (exec σ (r.Reconcile key) 0 s).calls =
          [(.getRedpanda key, .redpanda rp),
            (.getHelmRelease ⟨rp.meta.ns, rp.status.helmRelease⟩, .helmRelease hr),
            (.deleteHelmRelease hr (some .foreground), x.2)]) ∧
    (σ.stop = none → ∀ rp hr,
      (exec σ (r.Reconcile key) 0 s).calls.head? = some (.getRedpanda key, .redpanda rp) →
      rp.meta.deletionTimestamp.isSome = true →
      (Call.getHelmRelease ⟨rp.meta.ns, rp.status.helmRelease⟩, Response.helmRelease hr) ∈
        (exec σ (r.Reconcile key) 0 s).calls →
      ∃ resp, (Call.deleteHelmRelease hr (some .foreground), resp) ∈
        (exec σ (r.Reconcile key) 0 s).calls) := by
  have hobj {rp : Redpanda} (hd : rp.meta.deletionTimestamp.isSome = true) :
      r.reconcileObject rp = RedpandaReconciler.reconcileDelete rp := by
    unfold RedpandaReconciler.reconcileObject
    simp [hd]
  constructor
  · intro x hx hdel
    obtain ⟨rp, s₁, hcalls, hx'⟩ :=
      r.exec_Reconcile_mem hx fun h => by simp [h, Call.isDeleteHelmRelease] at hdel
    rw [hcalls]
    cases hd : rp.meta.deletionTimestamp with
    | none =>
      have := (RedpandaReconciler.reconcileObject_no_delete hd).exec_calls σ 1 s₁ x hx'
      simp [hdel] at this
    | some t =>
      rw [hobj (by simp [hd])] at hx' ⊢
      obtain ⟨hn, hr, hdc⟩ := RedpandaReconciler.exec_reconcileDelete_of_delete hx' hdel
      exact ⟨rp, hr, by simp [hd], hn, by rw [hdc]⟩
  · intro hσ rp hr hget hd hmem
    obtain ⟨rp', s₁, hcalls, hx'⟩ := r.exec_Reconcile_mem hmem (by simp)
    rw [hcalls] at hget ⊢
    obtain rfl : rp = rp' := by simpa using hget.symm
    rw [hobj hd] at hx' ⊢
    obtain ⟨b, hb⟩ := Option.isSome_iff_exists.mp
      (exec_result_isSome hσ (RedpandaReconciler.reconcileDelete rp) 1 s₁)
    obtain ⟨resp, hdel⟩ := RedpandaReconciler.reconcileDelete_runs (exec_runs hb) hx'
    exact ⟨resp, List.mem_cons_of_mem _ hdel⟩

def deletionRequestedRun : List SysStep :=
  [.reconcile {}, repositoryReady, .reconcile {}, .env (.deleteRedpanda demoKey 100)]

def deletionStore : Store :=
  runSystem demoReconciler demoKey (Store.initial demoRedpanda) deletionRequestedRun

def deletionCall : Call × Response :=
  ((exec {} (demoReconciler.Reconcile demoKey) 0 deletionStore).calls[2]?).getD (.getRedpanda demoKey, .ok)

/-- Once the release is installed and the user deletes the Redpanda, the next invocation deletes the
release it finds, in three calls. -/
theorem helmRelease_deleted_once_per_invocation_requested :
    ∃ rp hr, rp.meta.deletionTimestamp.isSome = true ∧ rp.status.helmRelease ≠ "" ∧
      (exec {} (demoReconciler.Reconcile demoKey) 0 deletionStore).calls =
        [(.getRedpanda demoKey, .redpanda rp),
          (.getHelmRelease ⟨rp.meta.ns, rp.status.helmRelease⟩, .helmRelease hr),
          (.deleteHelmRelease hr (some .foreground), deletionCall.2)] ∧
      ∃ resp, (Call.deleteHelmRelease hr (some .foreground), resp) ∈
        (exec {} (demoReconciler.Reconcile demoKey) 0 deletionStore).calls := by
  obtain ⟨rp, hr, hd, hn, hcalls⟩ :=
    (helmRelease_deleted_once_per_invocation demoReconciler demoKey {} deletionStore).1 deletionCall
      (by decide) (by decide)
  exact ⟨rp, hr, hd, hn, hcalls,
    (helmRelease_deleted_once_per_invocation demoReconciler demoKey {} deletionStore).2 rfl rp hr
      (by rw [hcalls]; rfl) hd (by rw [hcalls]; simp)⟩

def repeatedDeleteRun : List SysStep :=
  deletionRequestedRun ++ [.reconcile {}, .reconcile {}, .env (.removeHelmRelease demoKey), .reconcile {}]

/-- Two Deletes in one deletion sequence. -/
theorem helmRelease_deleted_twice :
    ((runCalls demoReconciler demoKey (Store.initial demoRedpanda) repeatedDeleteRun).filter
        (·.1.isDeleteHelmRelease)).length = 2 ∧
    (runSystem demoReconciler demoKey (Store.initial demoRedpanda) repeatedDeleteRun).holdsFinalizer
        demoKey = false := by
  decide

end RedpandaOperator
