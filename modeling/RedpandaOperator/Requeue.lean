import RedpandaOperator.Dependents

/-!
How an invocation of `Reconcile` on a managed Redpanda that is not being deleted ends: with an
error, a requeue, a delay of `RequeueHelmDeps`, or the status `reconcile` marked Ready patched in
after the HelmRepository of the namespace was read ready and with the HelmRelease the Redpanda
records ready as the invocation last saw it (`lastSeenRelease`): as its `Get` found it, or as its
`Update` stored it, which bumps the generation when the spec changes. The proof follows every
return path of `reconcile` through the runs of each function, for every choice of answers. One
path escapes on its face: a HelmRelease with an empty name ends `reconcile` with nil and no
requeue. A created release carries the Redpanda's name, and a found or updated one the name it was
asked under, since the API server keeps each object under its own key (`Store.KeyedReleases`, kept
by every call and every other party, so true of every reachable store).
-/

namespace RedpandaOperator

open Prog

/-- Every HelmRelease of the store sits under its own namespace and name. -/
def Store.KeyedReleases (s : Store) : Prop :=
  ∀ k hr, s.helmReleases k = some hr → hr.meta.key = k

namespace Store.KeyedReleases

variable {s : Store}

theorem writeHelmRelease (h : s.KeyedReleases) {k : ObjectKey} {x : HelmRelease}
    (hx : x.meta.key = k) : (s.writeHelmRelease k x).KeyedReleases := fun k' y hy => by
  simp only [Store.writeHelmRelease, Function.update_apply] at hy
  split_ifs at hy with hk
  · cases hy
    exact hx.trans hk.symm
  · exact h k' y hy

theorem removeHelmRelease (h : s.KeyedReleases) (k : ObjectKey) :
    (s.removeHelmRelease k).KeyedReleases := fun k' y hy => by
  simp only [Store.removeHelmRelease, Function.update_apply] at hy
  split_ifs at hy
  exact h k' y hy

theorem perform (h : s.KeyedReleases) (c : Call) : (s.perform c).1.KeyedReleases := by
  cases c <;> simp only [Store.perform] <;> repeat' (first | exact h | split)
  all_goals first
    | exact h.writeHelmRelease rfl
    | rename_i cur hcur; exact h.writeHelmRelease (h _ cur hcur)

theorem apply (h : s.KeyedReleases) (a : EnvAction) : (a.apply s).KeyedReleases := by
  cases a with
  | setHelmReleaseStatus k _ | editHelmRelease k _ =>
    simp only [EnvAction.apply]
    split
    · exact h
    · rename_i cur hcur
      exact h.writeHelmRelease (h _ cur hcur)
  | removeHelmRelease k => exact h.removeHelmRelease k
  | _ => simp only [EnvAction.apply]; repeat' (first | exact h | split)

end Store.KeyedReleases

theorem Reachable.keyedReleases {r : RedpandaReconciler} {key : ObjectKey} {s : Store}
    (h : Reachable r key s) : s.KeyedReleases := by
  induction h with
  | initial rp _ => exact fun k hr h => by simp [Store.initial] at h
  | step st _ ih =>
    cases st with
    | reconcile σ =>
      exact exec_store_of_calls σ _ 0 (P := fun _ => True) (fun c _ _ h => h.perform c)
        (fun _ _ a _ _ h => h.apply a) (fun _ _ => trivial) ih
    | env a => exact ih.apply a

/-- The HelmRelease under `key` that one call showed the controller: the answer of a `Get` under
the key, or the object an `Update` of it stored. -/
def seenRelease (key : ObjectKey) : Call × Response → Option HelmRelease
  | (.getHelmRelease k, .helmRelease hr) => if k = key then some hr else none
  | (.updateHelmRelease hr₀, .helmRelease hr) => if hr₀.meta.key = key then some hr else none
  | _ => none

/-- The HelmRelease under `key` as the calls last showed it. -/
def lastSeenRelease (key : ObjectKey) : List (Call × Response) → Option HelmRelease
  | [] => none
  | x :: l => (lastSeenRelease key l).or (seenRelease key x)

theorem seenRelease_eq_some {key : ObjectKey} {x : Call × Response} {hr : HelmRelease}
    (h : seenRelease key x = some hr) : x = (.getHelmRelease key, .helmRelease hr) ∨
      ∃ hr₀ : HelmRelease, hr₀.meta.key = key ∧ x = (.updateHelmRelease hr₀, .helmRelease hr) := by
  unfold seenRelease at h
  split at h
  · split_ifs at h with hk
    cases h
    exact .inl (hk ▸ rfl)
  · split_ifs at h with hk
    cases h
    exact .inr ⟨_, hk, rfl⟩
  · cases h

theorem lastSeenRelease_append (key : ObjectKey) (l₁ l₂ : List (Call × Response)) :
    lastSeenRelease key (l₁ ++ l₂) = (lastSeenRelease key l₂).or (lastSeenRelease key l₁) := by
  induction l₁ with
  | nil => exact Option.or_none.symm
  | cons x l₁ ih => rw [List.cons_append, lastSeenRelease, lastSeenRelease, ih, Option.or_assoc]

theorem lastSeenRelease_eq_none {key : ObjectKey} {l : List (Call × Response)}
    (h : ∀ x ∈ l, seenRelease key x = none) : lastSeenRelease key l = none := by
  induction l with
  | nil => rfl
  | cons x l ih =>
    simp only [lastSeenRelease, ih fun y hy => h y (List.mem_cons_of_mem x hy),
      h x (List.mem_cons_self x l), Option.none_or]

/-- Every HelmRelease the calls showed under a key sits under that key. -/
def AnswersKeyed (l : List (Call × Response)) : Prop :=
  ∀ key x hr, x ∈ l → seenRelease key x = some hr → hr.meta.key = key

theorem AnswersKeyed.mono {l l' : List (Call × Response)} (h : AnswersKeyed l') (hl : l ⊆ l') :
    AnswersKeyed l :=
  fun key x hr hm => h key x hr (hl hm)

theorem AnswersKeyed.key_of_lastSeen {l : List (Call × Response)} (h : AnswersKeyed l)
    {key : ObjectKey} {hr : HelmRelease} (hs : lastSeenRelease key l = some hr) : hr.meta.key = key := by
  induction l with
  | nil => cases hs
  | cons x l ih =>
    rw [lastSeenRelease] at hs
    cases hl : lastSeenRelease key l with
    | some y =>
      rw [hl] at hs
      exact ih (h.mono (List.subset_cons_self x l)) (hl.trans hs)
    | none =>
      rw [hl, Option.none_or] at hs
      exact h key x hr (List.mem_cons_self x l) hs

/-- Under a store that keys its HelmReleases, whatever the schedule, every HelmRelease an
invocation's `Get`s and `Update`s hand back sits under the key asked for. -/
theorem exec_answersKeyed {α : Type} (σ : Sched) (p : Prog α) (i : Nat) {s : Store}
    (hs : s.KeyedReleases) : AnswersKeyed (exec σ p i s).calls := fun key x hr hx hseen => by
  rcases exec_answers (fun c _ h => h.perform c) (fun a _ h => h.apply a) σ p i hs x hx with
    ⟨_, h⟩ | ⟨s', hs', h⟩ <;>
  rcases seenRelease_eq_some hseen with rfl | ⟨hr₀, hk, rfl⟩
  · cases h
  · cases h
  · simp only [Store.perform] at h
    split at h
    · cases h
      exact hs' _ _ ‹_›
    · cases h
  · simp only [Store.perform] at h
    split at h
    · cases h
    · split_ifs at h <;> cases h <;> exact hk

/-- A `Get` in the calls found the HelmRepository under `key` ready. -/
def RepositoryReadReady (key : ObjectKey) (l : List (Call × Response)) : Prop :=
  ∃ repo, (Call.getHelmRepository key, Response.helmRepository repo) ∈ l ∧
    Observation.ready ⟨repo.meta.generation, repo.status⟩ = true

/-- The HelmRelease under `key`, as the calls last showed it, is ready. -/
def ReleaseSeenReady (key : ObjectKey) (l : List (Call × Response)) : Prop :=
  (lastSeenRelease key l).any (fun hr => Observation.ready ⟨hr.meta.generation, hr.status⟩) = true

theorem RepositoryReadReady.mono {key : ObjectKey} {l l' : List (Call × Response)}
    (h : RepositoryReadReady key l) (hl : l ⊆ l') : RepositoryReadReady key l' :=
  let ⟨repo, hm, hready⟩ := h
  ⟨repo, hl hm, hready⟩

namespace ReleaseSeenReady

variable {key : ObjectKey} {l₁ l₂ : List (Call × Response)}

theorem of_lastSeen {hr : HelmRelease} (hs : lastSeenRelease key l₁ = some hr)
    (hready : Observation.ready ⟨hr.meta.generation, hr.status⟩ = true) : ReleaseSeenReady key l₁ := by
  rw [ReleaseSeenReady, hs]
  exact hready

theorem append_left (l₁ : List (Call × Response)) (h : ReleaseSeenReady key l₂) :
    ReleaseSeenReady key (l₁ ++ l₂) := by
  rw [ReleaseSeenReady, lastSeenRelease_append]
  cases hl : lastSeenRelease key l₂ with
  | none => rw [ReleaseSeenReady, hl] at h; cases h
  | some hr => rw [ReleaseSeenReady, hl] at h; exact h

theorem append_right (h : ReleaseSeenReady key l₁) (h₂ : lastSeenRelease key l₂ = none) :
    ReleaseSeenReady key (l₁ ++ l₂) := by
  rwa [ReleaseSeenReady, lastSeenRelease_append, h₂, Option.none_or]

end ReleaseSeenReady

/-- An end of `reconcile` that brings the reconciler back or reports the Redpanda Ready: an
error, a requeue, a delay, or a Redpanda marked Ready once `ready` holds. -/
def RequeuesOrReady (ready : Prop) (x : Redpanda × Result × Option GoError) : Prop :=
  x.2.2.isSome ∨ x.2.1.requeue = true ∨ 0 < x.2.1.requeueAfter ∨
    (∃ y : Redpanda, x.1 = y.redpandaReady) ∧ ready

theorem RequeuesOrReady.mono {P Q : Prop} {x : Redpanda × Result × Option GoError}
    (h : RequeuesOrReady P x) (hPQ : P → Q) : RequeuesOrReady Q x :=
  Or.imp_right (Or.imp_right (Or.imp_right (And.imp_right hPQ))) h

/-- An end of `Reconcile` that brings the reconciler back or reports the Redpanda Ready: an
error, a requeue, a delay, or a status marked Ready patched in once `ready` holds. -/
def RequeuesOrPatchedReady (ready : Prop) (l : List (Call × Response))
    (x : Result × Option GoError) : Prop :=
  x.2.isSome ∨ x.1.requeue = true ∨ 0 < x.1.requeueAfter ∨
    (∃ latest y : Redpanda, (Call.patchRedpandaStatus latest y.redpandaReady, Response.ok) ∈ l) ∧
      ready

theorem RequeuesOrPatchedReady.mono {P Q : Prop} {l l' : List (Call × Response)}
    {x : Result × Option GoError} (h : RequeuesOrPatchedReady P l x) (hl : l ⊆ l')
    (hPQ : P → Q) : RequeuesOrPatchedReady Q l' x :=
  Or.imp_right (Or.imp_right (Or.imp_right fun ⟨⟨latest, y, hm⟩, hp⟩ =>
    ⟨⟨latest, y, hl hm⟩, hPQ hp⟩)) h

@[simp] theorem Client.emitAll_bind_runs {β : Type} (es : List Event) (f : Unit → Prog β)
    {l : List (Call × Response)} {b : β} :
    ((Client.emitAll es).bind f).Runs l b ↔ (f ()).Runs l b := by
  induction es with
  | nil => rfl
  | cons e es ih => exact runs_event.trans ih

namespace RedpandaReconciler

variable (r : RedpandaReconciler) {rp rp' : Redpanda} {l : List (Call × Response)}

theorem helmReleaseCreated_runs {hRelease : HelmRelease} {res : Except GoError HelmRelease}
    (h : (helmReleaseCreated rp hRelease).Runs l (rp', res)) : res = .ok hRelease := by
  simp only [helmReleaseCreated, bind_eq, Client.emit_bind, runs_event, pure_eq, runs_pure,
    Prod.mk.injEq] at h
  exact h.2.2

theorem createHelmRelease_runs {res : Except GoError HelmRelease}
    (h : (r.createHelmRelease rp).Runs l (rp', res)) {hr : HelmRelease} (hres : res = .ok hr) :
    hr.meta.name = rp.getHelmReleaseName ∧
      Observation.ready ⟨hr.meta.generation, hr.status⟩ = false := by
  unfold createHelmRelease at h
  split at h
  · simp [hres] at h
  · rename_i t ht
    suffices res = .ok t by
      cases hres.symm.trans this
      exact ⟨(createHelmReleaseFromTemplate_spec _ _ _ ht).2.1,
        createHelmReleaseFromTemplate_not_ready _ _ _ ht⟩
    simp only [bind_eq, Client.write_bind, runs_call] at h
    obtain ⟨_, _, rfl, h⟩ := h
    split at h
    · split_ifs at h
      · exact helmReleaseCreated_runs h
      · simp [hres] at h
    · exact helmReleaseCreated_runs h

theorem updateHelmRelease_runs {hr : HelmRelease} {res : Except GoError HelmRelease}
    (h : (r.updateHelmRelease rp hr).Runs l (rp', res)) {hr' : HelmRelease}
    (hres : res = .ok hr') : (lastSeenRelease hr.meta.key l).getD hr = hr' := by
  unfold updateHelmRelease at h
  split at h
  · simp [hres] at h
  · split_ifs at h
    · simp only [bind_eq, Client.updateHelmRelease_bind, runs_call] at h
      obtain ⟨r₀, _, rfl, h⟩ := h
      split at h <;> simp [hres] at h
      obtain ⟨rfl, -, rfl⟩ := h
      rename_i heq
      simp [Response.toHelmRelease_eq_ok.mp heq, lastSeenRelease, seenRelease]
    · simp [hres] at h
      obtain ⟨rfl, -, rfl⟩ := h
      rfl

theorem reconcileHelmRelease_runs {res : Except GoError HelmRelease}
    (h : (r.reconcileHelmRelease rp).Runs l (rp', res)) (hl : AnswersKeyed l) {hr : HelmRelease}
    (hres : res = .ok hr) :
    (hr.meta.name = rp.getHelmReleaseName ∧
        Observation.ready ⟨hr.meta.generation, hr.status⟩ = false) ∨
      rp.status.helmRelease ≠ "" ∧ lastSeenRelease ⟨rp.meta.ns, rp.status.helmRelease⟩ l = some hr := by
  unfold reconcileHelmRelease at h
  split_ifs at h with hrec
  · exact .inl (r.createHelmRelease_runs h hres)
  · simp only [bind_eq, Client.getHelmRelease_bind, runs_call] at h
    obtain ⟨r₀, l', rfl, h⟩ := h
    split at h
    · rename_i hr₀ heq
      rw [Response.toHelmRelease_eq_ok] at heq
      subst heq
      have hk : hr₀.meta.key = ⟨rp.meta.ns, rp.status.helmRelease⟩ :=
        hl _ _ _ (List.mem_cons_self _ _) (by simp [seenRelease])
      refine .inr ⟨hrec, ?_⟩
      rw [← r.updateHelmRelease_runs h hres, hk]
      simp only [lastSeenRelease, seenRelease, if_true]
      cases lastSeenRelease _ l' <;> rfl
    · split_ifs at h
      · exact .inl (r.createHelmRelease_runs h hres)
      · simp [hres] at h

theorem reconcileHelmRepository_runs {res : Except GoError HelmRepository}
    (h : (r.reconcileHelmRepository rp).Runs l (rp', res)) :
    rp'.meta = rp.meta ∧ rp'.status.helmRelease = rp.status.helmRelease ∧
      ∀ repo, res = .ok repo → Observation.ready ⟨repo.meta.generation, repo.status⟩ = true →
        (Call.getHelmRepository ⟨rp.meta.ns, rp.getHelmRepositoryName⟩,
          Response.helmRepository repo) ∈ l := by
  simp only [reconcileHelmRepository, bind_eq, Client.getHelmRepository_bind, runs_call] at h
  obtain ⟨r₀, l', rfl, h⟩ := h
  split at h
  · rename_i repo heq
    simp only [pure_eq, runs_pure, Prod.mk.injEq] at h
    obtain ⟨-, rfl, rfl⟩ := h
    rw [Response.toHelmRepository_eq_ok] at heq
    subst heq
    exact ⟨rfl, rfl, fun _ h _ => by cases h; exact List.mem_cons_self _ _⟩
  · split_ifs at h
    · simp only [bind_eq, Client.write_bind, runs_call] at h
      obtain ⟨_, _, rfl, h⟩ := h
      split at h <;> simp at h <;> obtain ⟨-, rfl, rfl⟩ := h
      · exact ⟨rfl, rfl, fun _ h => by cases h⟩
      · exact ⟨rfl, rfl, fun _ h => by cases h; simp⟩
    · simp at h
      obtain ⟨-, rfl, rfl⟩ := h
      exact ⟨rfl, rfl, fun _ h => by cases h⟩

/-- The empty-name return is never taken: a created release has the Redpanda's nonempty name,
and a read one the nonempty name it was read under. -/
theorem reconcileRelease_runs {x : Redpanda × Result × Option GoError}
    (h : (r.reconcileRelease rp).Runs l x) (hreq : 0 < r.requeueHelmDeps)
    (hname : rp.getHelmReleaseName ≠ "") (hl : AnswersKeyed l) :
    RequeuesOrReady (ReleaseSeenReady ⟨rp.meta.ns, rp.status.helmRelease⟩ l) x := by
  obtain ⟨⟨rp₁, res⟩, l₁, l₂, rfl, h₁, h₂⟩ := Runs.of_bind h
  have hl₁ := hl.mono (List.subset_append_left l₁ l₂)
  cases res with
  | error err =>
    simp only [pure_eq, runs_pure] at h₂
    exact Or.inl (by rw [h₂.2]; rfl)
  | ok hr =>
    have hspec := r.reconcileHelmRelease_runs h₁ hl₁ rfl
    dsimp only at h₂
    split_ifs at h₂ with hn hready
    · exfalso
      rcases hspec with ⟨hrn, -⟩ | ⟨hrec, hseen⟩
      · exact hname (hrn ▸ hn)
      · exact hrec ((congrArg ObjectKey.name (hl₁.key_of_lastSeen hseen)).symm.trans hn)
    · simp only [bind_eq, Client.emitAll_bind_runs, pure_eq, runs_pure] at h₂
      obtain ⟨rfl, rfl⟩ := h₂
      rw [checkDependent_fst] at hready
      refine Or.inr (Or.inr (Or.inr ⟨⟨_, rfl⟩, ?_⟩))
      rcases hspec with ⟨-, hnr⟩ | ⟨-, hseen⟩
      · simp [hnr] at hready
      · rw [List.append_nil]
        exact .of_lastSeen hseen hready
    · simp only [bind_eq, Client.emitAll_bind_runs, pure_eq, runs_pure] at h₂
      rw [h₂.2]
      exact Or.inr (Or.inr (Or.inl hreq))

theorem reconcileDependents_runs {x : Redpanda × Result × Option GoError}
    (h : (r.reconcileDependents rp).Runs l x) (hreq : 0 < r.requeueHelmDeps)
    (hname : rp.getHelmReleaseName ≠ "") (hl : AnswersKeyed l) :
    RequeuesOrReady (RepositoryReadReady ⟨rp.meta.ns, rp.getHelmRepositoryName⟩ l ∧
      ReleaseSeenReady ⟨rp.meta.ns, rp.status.helmRelease⟩ l) x := by
  obtain ⟨⟨rp₁, res⟩, l₁, l₂, rfl, h₁, h₂⟩ := Runs.of_bind h
  obtain ⟨hmeta, hrel, hrepo⟩ := r.reconcileHelmRepository_runs h₁
  cases res with
  | error err =>
    simp only [pure_eq, runs_pure] at h₂
    exact Or.inl (by rw [h₂.2]; rfl)
  | ok repo =>
    dsimp only at h₂
    simp only [bind_eq, Client.emitAll_bind_runs] at h₂
    split_ifs at h₂ with hready
    · rw [checkDependent_fst] at hready
      have hrun := r.reconcileRelease_runs h₂ hreq
        (by simpa [Redpanda.getHelmReleaseName, hmeta] using hname)
        (hl.mono (List.subset_append_right _ _))
      simp only [checkDependent_meta, checkDependent_helmRelease, hmeta, hrel] at hrun
      exact hrun.mono fun hrr => ⟨⟨repo, List.mem_append_left _ (hrepo repo rfl hready), hready⟩,
        hrr.append_left _⟩
    · simp only [pure_eq, runs_pure] at h₂
      rw [h₂.2]
      exact Or.inr (Or.inr (Or.inl hreq))

theorem reconcile_runs {x : Redpanda × Result × Option GoError} (h : (r.reconcile rp).Runs l x)
    (hreq : 0 < r.requeueHelmDeps) (hname : rp.getHelmReleaseName ≠ "") (hl : AnswersKeyed l) :
    RequeuesOrReady (RepositoryReadReady ⟨rp.meta.ns, rp.getHelmRepositoryName⟩ l ∧
      ReleaseSeenReady ⟨rp.meta.ns, rp.status.helmRelease⟩ l) x := by
  unfold reconcile at h
  split_ifs at h
  · obtain ⟨e, l₁, l₂, rfl, -, h₂⟩ := Runs.of_bind h
    have hsub : l₂ ⊆ l₁ ++ l₂ := List.subset_append_right _ _
    cases e with
    | some e =>
      simp only [pure_eq, runs_pure] at h₂
      exact Or.inl (by rw [h₂.2]; rfl)
    | none =>
      dsimp only at h₂
      exact (r.reconcileDependents_runs h₂ hreq hname (hl.mono hsub)).mono
        (And.imp (·.mono hsub) (·.append_left l₁))
  · exact r.reconcileDependents_runs h hreq hname hl

theorem patchRedpandaStatus_runs (h : (patchRedpandaStatus rp).Runs l none) :
    ∃ latest, (Call.patchRedpandaStatus latest rp, Response.ok) ∈ l := by
  simp only [patchRedpandaStatus, bind_eq, Client.getRedpanda_bind, runs_call] at h
  obtain ⟨_, _, rfl, h⟩ := h
  split at h
  · simp at h
  · rename_i latest _
    simp only [bind_eq, Client.write_bind, runs_call, pure_eq, runs_pure] at h
    obtain ⟨r₀, _, rfl, -, h⟩ := h
    obtain rfl := Response.toError_eq_none.mp (Option.map_eq_none'.mp h.symm)
    exact ⟨latest, by simp⟩

theorem patchRedpandaStatus_unseen {e : Option GoError} (h : (patchRedpandaStatus rp).Runs l e)
    (key : ObjectKey) : lastSeenRelease key l = none :=
  lastSeenRelease_eq_none fun x hx =>
    (patchRedpandaStatus_calls (P := fun c => ∀ r, seenRelease key (c, r) = none)
      (fun _ => rfl) fun _ _ => rfl).runs h x hx x.2

/-- The status patch ends a quiet `reconcile` only once it succeeded, with the status `reconcile`
marked Ready. -/
theorem reconcileManaged_runs {x : Result × Option GoError} (h : (r.reconcileManaged rp).Runs l x)
    (hreq : 0 < r.requeueHelmDeps) (hname : rp.getHelmReleaseName ≠ "") (hl : AnswersKeyed l) :
    RequeuesOrPatchedReady (RepositoryReadReady ⟨rp.meta.ns, rp.getHelmRepositoryName⟩ l ∧
      ReleaseSeenReady ⟨rp.meta.ns, rp.status.helmRelease⟩ l) l x := by
  obtain ⟨_, l₀, l', rfl, -, h⟩ := Runs.of_bind h
  obtain ⟨⟨rp', result, err⟩, l₁, l₂, rfl, h₁, h₂⟩ := Runs.of_bind h
  dsimp only at h₂
  obtain ⟨e, l₃, l₄, rfl, h₃, h₄⟩ := Runs.of_bind h₂
  have hsub : l₁ ⊆ l₀ ++ (l₁ ++ (l₃ ++ l₄)) := fun _ hm => by simp [hm]
  have hrec := r.reconcile_runs h₁ hreq hname (hl.mono hsub)
  cases e with
  | some e =>
    simp only [pure_eq, runs_pure] at h₄
    exact Or.inr (Or.inl (by rw [h₄.2]))
  | none =>
    simp only [pure_eq, runs_pure] at h₄
    obtain ⟨rfl, rfl⟩ := h₄
    rcases hrec with h | h | h | ⟨⟨y, rfl⟩, hready⟩
    · exact Or.inl h
    · exact Or.inr (Or.inl h)
    · exact Or.inr (Or.inr (Or.inl h))
    · obtain ⟨latest, hmem⟩ := patchRedpandaStatus_runs h₃
      have hunseen : lastSeenRelease ⟨rp.meta.ns, rp.status.helmRelease⟩ (l₃ ++ []) = none := by
        rw [List.append_nil]
        exact patchRedpandaStatus_unseen h₃ _
      exact Or.inr (Or.inr (Or.inr ⟨⟨latest, y, by simp [hmem]⟩,
        hready.imp (·.mono hsub) fun hrr => (hrr.append_right hunseen).append_left l₀⟩))

theorem reconcileObject_runs {x : Result × Option GoError} (h : (r.reconcileObject rp).Runs l x)
    (hreq : 0 < r.requeueHelmDeps) (hname : rp.getHelmReleaseName ≠ "") (hl : AnswersKeyed l)
    (hm : isRedpandaManaged rp = true) (hd : rp.meta.deletionTimestamp = none) :
    RequeuesOrPatchedReady (RepositoryReadReady ⟨rp.meta.ns, rp.getHelmRepositoryName⟩ l ∧
      ReleaseSeenReady ⟨rp.meta.ns, rp.status.helmRelease⟩ l) l x := by
  simp only [reconcileObject, hd, Option.isSome_none, hm, Bool.not_true, Bool.false_eq_true,
    if_false] at h
  split_ifs at h
  · exact r.reconcileManaged_runs h hreq hname hl
  · simp only [bind_eq, Client.write_bind, runs_call] at h
    obtain ⟨_, l', rfl, h⟩ := h
    have hsub : ∀ {y : Call × Response}, l' ⊆ y :: l' := @fun y => List.subset_cons_self y l'
    split at h
    · simp only [pure_eq, runs_pure] at h
      exact Or.inl (by rw [h.2]; rfl)
    · have hn : (rp.meta.addFinalizer finalizerKey).name = rp.meta.name :=
        congrArg ObjectKey.name (ObjectMeta.addFinalizer_key _ _)
      have hrun := r.reconcileManaged_runs h hreq (by rwa [Redpanda.getHelmReleaseName, hn])
        (hl.mono hsub)
      simp only [ObjectMeta.addFinalizer_ns] at hrun
      exact hrun.mono hsub (And.imp (·.mono hsub) (·.append_left [_]))

end RedpandaReconciler

/-- Whatever the store holds and answers, under any schedule of faults and other parties'
writes: an invocation of `Reconcile` whose `Get` read a managed Redpanda that is not being
deleted, with a nonempty release name, returns an error, a requeue, or a delay, or it patched in
a status marked Ready after reading the HelmRepository of the namespace ready, with the HelmRelease
the Redpanda records ready as the invocation last saw it: as its `Get` found it, or as its
`Update` stored it. The store keeps each HelmRelease under its own key, as the API server does. -/
theorem Reconcile_requeues_unless_ready (r : RedpandaReconciler) (hreq : 0 < r.requeueHelmDeps)
    (key : ObjectKey) (σ : Sched) (s : Store) (hs : s.KeyedReleases) {rp : Redpanda}
    (hget : (exec σ (r.Reconcile key) 0 s).calls.head? = some (.getRedpanda key, .redpanda rp))
    (hm : isRedpandaManaged rp = true) (hd : rp.meta.deletionTimestamp = none)
    (hname : rp.getHelmReleaseName ≠ "") {res : Result} {err : Option GoError}
    (hres : (exec σ (r.Reconcile key) 0 s).result = some (res, err)) :
    err.isSome ∨ res.requeue = true ∨ 0 < res.requeueAfter ∨
      (∃ latest y : Redpanda, (Call.patchRedpandaStatus latest y.redpandaReady, Response.ok) ∈
          (exec σ (r.Reconcile key) 0 s).calls) ∧
        RepositoryReadReady ⟨rp.meta.ns, rp.getHelmRepositoryName⟩
          (exec σ (r.Reconcile key) 0 s).calls ∧
        ReleaseSeenReady ⟨rp.meta.ns, rp.status.helmRelease⟩ (exec σ (r.Reconcile key) 0 s).calls := by
  have hl := exec_answersKeyed σ (r.Reconcile key) 0 hs
  have hrun := exec_runs hres
  generalize (exec σ (r.Reconcile key) 0 s).calls = l at hl hrun hget ⊢
  simp only [RedpandaReconciler.Reconcile, bind_eq, Client.getRedpanda_bind, runs_call] at hrun
  obtain ⟨_, l', rfl, hrun⟩ := hrun
  simp only [List.head?_cons, Option.some.injEq, Prod.mk.injEq, true_and] at hget
  subst hget
  have hsub := List.subset_cons_self (Call.getRedpanda key, Response.redpanda rp) l'
  exact (r.reconcileObject_runs hrun hreq hname (hl.mono hsub) hm hd).mono hsub
    (And.imp (·.mono hsub) (·.append_left [_]))

def readyStore : Store :=
  runSystem demoReconciler demoKey (Store.initial demoRedpanda)
    [.reconcile {}, repositoryReady, .reconcile {}, releaseReady]

def readyCalls : List (Call × Response) :=
  (exec {} (demoReconciler.Reconcile demoKey) 0 readyStore).calls

/-- After Flux reported the HelmRepository and then the HelmRelease ready, an invocation ends
quietly, having patched in the Ready status. -/
theorem Reconcile_requeues_unless_ready_readyStore :
    (exec {} (demoReconciler.Reconcile demoKey) 0 readyStore).result = some ({}, none) ∧
      (∃ latest y : Redpanda,
        (Call.patchRedpandaStatus latest y.redpandaReady, Response.ok) ∈ readyCalls) ∧
      RepositoryReadReady ⟨"default", "redpanda-repository"⟩ readyCalls ∧
      ReleaseSeenReady demoKey readyCalls := by
  have hres : (exec {} (demoReconciler.Reconcile demoKey) 0 readyStore).result =
      some ({}, none) := by
    decide
  refine ⟨hres, ?_⟩
  rcases @Reconcile_requeues_unless_ready demoReconciler (by decide) demoKey {} readyStore
    ((Reachable.initial demoRedpanda rfl).runSystem _).keyedReleases
    ((readyStore.redpandas demoKey).getD demoRedpanda) (by decide) (by decide) (by decide)
    (by decide) _ _ hres with h | h | h | h
  · exact absurd h (by decide)
  · exact absurd h (by decide)
  · exact absurd h (by decide)
  · exact h

end RedpandaOperator
