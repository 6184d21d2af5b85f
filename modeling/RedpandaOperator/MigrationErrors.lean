import RedpandaOperator.Adoption

/-!
The errors of `tryMigration`. Every step joins the error of each of its calls that fails into the
result and hands the result on, and the next step runs whatever the calls before it returned. So
on every run, whatever the store answers: the reads of the fixed resources and the pod List are
all issued, in order; every listed Pod that fails the skip test is updated; and the result lists,
newest first, the error of each call that failed and nothing else, so it is nil exactly when no
call failed.

The facts are proved of `Prog.Runs`, one rule per way a program is built, and carried to `exec`
by `exec_runs`.
-/

namespace RedpandaOperator

open Prog

def errorOf {α : Type} : Except StatusError α → Option StatusError
  | .error e => some e
  | .ok _ => none

/-- The error the client returns for a call with this answer, decoded as `Get`, `List` and the
writes decode it; `none` is nil. -/
def Call.clientError : Call → Response → Option StatusError
  | .getRedpanda _, r => errorOf r.toRedpanda
  | .getHelmRepository _, r => errorOf r.toHelmRepository
  | .getHelmRelease _, r => errorOf r.toHelmRelease
  | .get _ _, r => errorOf r.toResource
  | .list _ _ _, r => errorOf r.toResources
  | _, r => r.toError

/-- The errors of the calls of a run that failed, in the order the calls were issued. -/
def failures (l : List (Call × Response)) : List StatusError :=
  l.filterMap fun x => x.1.clientError x.2

/-- The store error a `%w` chain ends in, as `errors.As` finds it. -/
def GoError.cause : GoError → Option StatusError
  | .status e => some e
  | .wrapped _ err => err.cause
  | .text _ => none

@[simp] theorem GoError.cause_status (e : StatusError) : (GoError.status e).cause = some e := rfl

@[simp] theorem GoError.cause_wrapped (msg : String) (err : GoError) :
    (GoError.wrapped msg err).cause = err.cause := rfl

@[simp] theorem cause_wrapAs (msg what : String) (e : StatusError) :
    (wrapAs msg what e).cause = some e := rfl

@[simp] theorem join_eq (err : GoError) (errs : List GoError) : join err errs = err :: errs := rfl

/-- On every run, the errors `g` reads off the result are, newest first, the error of each call of
the run that failed, in front of `base`. -/
def JoinsFailures {α : Type} (p : Prog α) (g : α → List GoError) (base : List (Option StatusError)) :
    Prop :=
  ∀ l a, p.Runs l a → (g a).map GoError.cause = (failures l).reverse.map some ++ base

namespace JoinsFailures

variable {α β : Type} {g : α → List GoError} {base : List (Option StatusError)}

theorem pure {a : α} (h : (g a).map GoError.cause = base) : JoinsFailures (.pure a) g base := by
  intro l b hr
  obtain ⟨rfl, rfl⟩ := runs_pure.mp hr
  simpa [failures] using h

theorem call {c : Call} {k : Response → Prog α}
    (hk : ∀ r, JoinsFailures (k r) g ((c.clientError r).toList.map some ++ base)) :
    JoinsFailures (.call c k) g base := by
  intro l a hr
  obtain ⟨r, l', rfl, h'⟩ := runs_call.mp hr
  rw [hk r l' a h']
  cases h : c.clientError r <;> simp [failures, h]

theorem event {e : Event} {p : Prog α} (h : JoinsFailures p g base) :
    JoinsFailures (.event e p) g base :=
  fun l a hr => h l a (runs_event.mp hr)

theorem bind {p : Prog α} {f : α → Prog β} {g' : β → List GoError} (hp : JoinsFailures p g base)
    (hf : ∀ a, JoinsFailures (f a) g' ((g a).map GoError.cause)) :
    JoinsFailures (p.bind f) g' base := by
  intro l b hr
  obtain ⟨a, l₁, l₂, rfl, h₁, h₂⟩ := Runs.of_bind hr
  rw [hf a l₂ b h₂, hp l₁ a h₁]
  simp [failures, List.filterMap_append]

theorem get {kind : Kind} {key : ObjectKey} {k : Except StatusError Resource → Prog α}
    (herr : ∀ e, JoinsFailures (k (.error e)) g (some e :: base))
    (hok : ∀ obj, JoinsFailures (k (.ok obj)) g base) :
    JoinsFailures ((Client.get kind key).bind k) g base := by
  rw [Client.get_bind]
  refine .call fun r => ?_
  simp only [Call.clientError]
  cases r.toResource with
  | error e => simpa [errorOf] using herr e
  | ok obj => simpa [errorOf] using hok obj

theorem list {kind : Kind} {ns : String} {labels : StrMap}
    {k : Except StatusError (List Resource) → Prog α}
    (herr : ∀ e, JoinsFailures (k (.error e)) g (some e :: base))
    (hok : ∀ objs, JoinsFailures (k (.ok objs)) g base) :
    JoinsFailures ((Client.list kind ns labels).bind k) g base := by
  rw [Client.list_bind]
  refine .call fun r => ?_
  simp only [Call.clientError]
  cases r.toResources with
  | error e => simpa [errorOf] using herr e
  | ok objs => simpa [errorOf] using hok objs

theorem write {c : Call} (hc : ∀ r, c.clientError r = r.toError) {k : Option StatusError → Prog α}
    (herr : ∀ e, JoinsFailures (k (some e)) g (some e :: base)) (hok : JoinsFailures (k none) g base) :
    JoinsFailures ((Client.write c).bind k) g base := by
  rw [Client.write_bind]
  refine .call fun r => ?_
  rw [hc]
  cases r.toError with
  | some e => simpa using herr e
  | none => simpa using hok

end JoinsFailures

section Steps

variable (rp : Redpanda)

theorem mutate_joins (kind : Kind) (obj : ObjectMeta) {c : Call} (hc : ∀ r, c.clientError r = r.toError)
    (errMsg eventMsg : String) (errs : List GoError) :
    JoinsFailures (mutate rp kind obj c errMsg eventMsg errs) id (errs.map GoError.cause) := by
  unfold mutate
  simp only [bind_eq, Client.emit_bind]
  refine .write hc (fun e => .event (.pure ?_)) (.event (.pure rfl))
  simp

theorem migrateCluster_joins (ref : MigrationRef) (errs : List GoError) :
    JoinsFailures (migrateCluster rp ref errs) id (errs.map GoError.cause) := by
  unfold migrateCluster
  simp only [bind_eq]
  refine .get (fun e => .pure (by simp)) fun cluster => ?_
  dsimp only
  split_ifs
  · exact mutate_joins rp _ _ (fun _ => by rfl) _ _ errs
  · exact .pure rfl

theorem migrateConsole_joins (ref : MigrationRef) (errs : List GoError) :
    JoinsFailures (migrateConsole rp ref errs) id (errs.map GoError.cause) := by
  unfold migrateConsole
  simp only [bind_eq]
  refine .get (fun e => .pure (by simp)) fun console => ?_
  dsimp only
  split_ifs
  · exact mutate_joins rp _ _ (fun _ => by rfl) _ _ errs
  · exact .pure rfl

theorem migratePods_joins (pods : List Resource) (errs : List GoError) :
    JoinsFailures (migratePods rp pods errs) id (errs.map GoError.cause) := by
  induction pods generalizing errs with
  | nil => exact .pure rfl
  | cons pod pods ih =>
    simp only [migratePods, bind_eq]
    split_ifs
    · exact ih errs
    · exact .bind (mutate_joins rp _ _ (fun _ => by rfl) _ _ errs) ih

theorem migrateListedPods_joins (errs : List GoError) :
    JoinsFailures (migrateListedPods rp errs) id (errs.map GoError.cause) := by
  unfold migrateListedPods
  simp only [bind_eq]
  exact .list (fun e => .pure (by simp)) fun pods => migratePods_joins rp pods errs

theorem adoptResource_joins (kind : Kind) (name : String) (selector : Option StrMap)
    (getMsg updateMsg eventMsg : String) (errs : List GoError) :
    JoinsFailures (adoptResource rp kind name selector getMsg updateMsg eventMsg errs) id
      (errs.map GoError.cause) := by
  unfold adoptResource
  simp only [bind_eq]
  refine .get (fun e => .pure (by simp)) fun obj => ?_
  dsimp only
  split_ifs
  · exact .pure rfl
  · exact mutate_joins rp _ _ (fun _ => by rfl) _ _ errs

theorem migrateStatefulSet_joins (name : String) (errs : List GoError) :
    JoinsFailures (migrateStatefulSet rp name errs) Prod.fst (errs.map GoError.cause) := by
  unfold migrateStatefulSet
  simp only [bind_eq]
  refine .get (fun e => .pure (by simp)) fun sts => ?_
  dsimp only
  split_ifs
  · exact .pure rfl
  · exact .bind (mutate_joins rp _ _ (fun _ => by rfl) _ _ errs) fun _ => .pure rfl

theorem migrateConsoleDeployment_joins (sts : Resource) (name : String) (errs : List GoError) :
    JoinsFailures (migrateConsoleDeployment rp sts name errs) id (errs.map GoError.cause) := by
  unfold migrateConsoleDeployment
  simp only [bind_eq]
  refine .get (fun e => .pure (by simp)) fun deploy => ?_
  dsimp only
  split_ifs
  · exact .pure rfl
  · exact mutate_joins rp _ _ (fun _ => by rfl) _ _ errs

theorem migrateConsoleResources_joins (sts : Resource) (errs : List GoError) :
    JoinsFailures (migrateConsoleResources rp sts errs) id (errs.map GoError.cause) := by
  unfold migrateConsoleResources
  simp only [bind_eq]
  exact .bind (adoptResource_joins rp _ _ _ _ _ _ _) fun _ => .bind (adoptResource_joins rp _ _ _ _ _ _ _) fun _ =>
    .bind (migrateConsoleDeployment_joins rp _ _ _) fun _ => adoptResource_joins rp _ _ _ _ _ _ _

/-- `tryMigration` joins, newest first, the error of every call of the run that failed, and
nothing else. -/
theorem tryMigration_joins : JoinsFailures (tryMigration rp) id [] := by
  unfold tryMigration
  simp only [bind_eq]
  refine .bind (migrateCluster_joins rp _ _) fun _ => .bind (migrateConsole_joins rp _ _) fun _ =>
    .bind (migrateListedPods_joins rp _) fun _ => .bind (adoptResource_joins rp _ _ _ _ _ _ _) fun _ =>
    .bind (adoptResource_joins rp _ _ _ _ _ _ _) fun _ => .bind (adoptResource_joins rp _ _ _ _ _ _ _) fun _ =>
    .bind (adoptResource_joins rp _ _ _ _ _ _ _) fun _ => .bind (migrateStatefulSet_joins rp _ _) fun a => ?_
  split_ifs
  · exact migrateConsoleResources_joins rp _ _
  · exact .pure rfl

end Steps

/-- On every run, the calls `cs` are issued in this order, among others. -/
def Issues {α : Type} (p : Prog α) (cs : List Call) : Prop :=
  ∀ l a, p.Runs l a → cs.Sublist (l.map Prod.fst)

namespace Issues

variable {α β : Type}

theorem nil (p : Prog α) : Issues p [] := fun _ _ _ => List.nil_sublist _

theorem call {c : Call} {k : Response → Prog α} {cs : List Call} (hk : ∀ r, Issues (k r) cs) :
    Issues (.call c k) (c :: cs) := by
  intro l a hr
  obtain ⟨r, l', rfl, h'⟩ := runs_call.mp hr
  exact (hk r l' a h').cons_cons c

theorem head (c : Call) (k : Response → Prog α) : Issues (.call c k) [c] := call fun _ => nil _

theorem cons_bind {p : Prog α} {f : α → Prog β} {c : Call} {cs : List Call} (hp : Issues p [c])
    (hf : ∀ a, Issues (f a) cs) : Issues (p.bind f) (c :: cs) := by
  intro l b hr
  obtain ⟨a, l₁, l₂, rfl, h₁, h₂⟩ := Runs.of_bind hr
  simpa using (hp l₁ a h₁).append (hf a l₂ b h₂)

theorem get {kind : Kind} {key : ObjectKey} (k : Except StatusError Resource → Prog α) :
    Issues ((Client.get kind key).bind k) [.get kind key] :=
  Client.get_bind (f := k) kind key ▸ head _ _

theorem list {kind : Kind} {ns : String} {labels : StrMap}
    (k : Except StatusError (List Resource) → Prog α) :
    Issues ((Client.list kind ns labels).bind k) [.list kind ns labels] :=
  Client.list_bind (f := k) kind ns labels ▸ head _ _

theorem write {c : Call} (k : Option StatusError → Prog α) : Issues ((Client.write c).bind k) [c] :=
  Client.write_bind (f := k) c ▸ head _ _

end Issues

section Reads

variable (rp : Redpanda)

/-- The reads `tryMigration` makes whatever earlier calls returned, as the spec lists them: the
Cluster, the Console, the pod List, the internal and external Services, the ServiceAccount, the
PodDisruptionBudget and the StatefulSet, and with the console enabled the console's
ServiceAccount, Service, Deployment and Ingress. -/
def migrationReads : List Call :=
  let m := rp.spec.migration.getD {}
  let ns := rp.meta.ns
  let name := resourcesName rp
  let console := consoleResourcesName rp
  [.get .cluster (m.clusterRef.resolve rp), .get .console (m.consoleRef.resolve rp),
    .list .pod ns (podSelector rp), .get .service ⟨ns, name⟩, .get .service ⟨ns, s!"{name}-external"⟩,
    .get .serviceAccount ⟨ns, name⟩, .get .podDisruptionBudget ⟨ns, name⟩,
    .get .statefulSet ⟨ns, name⟩] ++
  if rp.spec.clusterSpec.console.enabled.getD true then
    [.get .serviceAccount ⟨ns, console⟩, .get .service ⟨ns, console⟩, .get .deployment ⟨ns, console⟩,
      .get .ingress ⟨ns, console⟩]
  else []

/-- The Updates the spec requires of the pod loop: one for each listed Pod that fails the skip
test, in the order listed. -/
def podUpdates (pods : List Resource) : List Call :=
  (pods.filter fun pod => !podMigrated pod.meta).map fun pod => .update .pod (migratedPod pod)

theorem migratePods_issues (pods : List Resource) (errs : List GoError) :
    Issues (migratePods rp pods errs) (podUpdates pods) := by
  induction pods generalizing errs with
  | nil => exact .nil _
  | cons pod pods ih =>
    simp only [migratePods, bind_eq]
    split_ifs with h
    · simpa [podUpdates, h] using ih errs
    · simpa [podUpdates, h] using Issues.cons_bind (by unfold mutate; exact .write _) ih

theorem tryMigration_issues : Issues (tryMigration rp) (migrationReads rp) := by
  unfold tryMigration migrationReads migrateCluster migrateConsole migrateListedPods migrateStatefulSet
  simp only [bind_eq]
  refine .cons_bind (.get _) fun _ => .cons_bind (.get _) fun _ => .cons_bind (.list _) fun _ =>
    .cons_bind (by unfold adoptResource; exact .get _) fun _ =>
    .cons_bind (by unfold adoptResource; exact .get _) fun _ =>
    .cons_bind (by unfold adoptResource; exact .get _) fun _ =>
    .cons_bind (by unfold adoptResource; exact .get _) fun _ =>
    .cons_bind (.get _) fun _ => ?_
  split_ifs
  · unfold migrateConsoleResources adoptResource migrateConsoleDeployment
    exact .cons_bind (.get _) fun _ => .cons_bind (.get _) fun _ => .cons_bind (.get _) fun _ =>
      (.get _ : Issues _ [_])
  · exact .nil _

/-- The pod List is issued, and every Pod it lists that fails the skip test is updated, in the
order listed. -/
def PodsUpdated (l : List (Call × Response)) : Prop :=
  ∃ r, (Call.list .pod rp.meta.ns (podSelector rp), r) ∈ l ∧
    ∀ pods, r.toResources = .ok pods → (podUpdates pods).Sublist (l.map Prod.fst)

theorem PodsUpdated.append {l : List (Call × Response)} (h : PodsUpdated rp l)
    (l₁ l₂ : List (Call × Response)) : PodsUpdated rp (l₁ ++ l ++ l₂) := by
  obtain ⟨r, hr, hu⟩ := h
  refine ⟨r, by simp [hr], fun pods hp => (hu pods hp).trans ?_⟩
  simp only [List.map_append]
  exact (List.sublist_append_right _ _).trans (List.sublist_append_left _ _)

theorem migrateListedPods_pods (errs : List GoError) {l : List (Call × Response)} {a : List GoError}
    (h : (migrateListedPods rp errs).Runs l a) : PodsUpdated rp l := by
  simp only [migrateListedPods, bind_eq, Client.list_bind, runs_call] at h
  obtain ⟨r, l', rfl, h⟩ := h
  refine ⟨r, List.mem_cons_self _ _, fun pods hp => ?_⟩
  simp only [hp] at h
  exact (migratePods_issues rp pods errs l' a h).cons _

theorem tryMigration_pods {l : List (Call × Response)} {a : List GoError}
    (h : (tryMigration rp).Runs l a) : PodsUpdated rp l := by
  simp only [tryMigration, bind_eq] at h
  obtain ⟨_, l₁, l₂, rfl, -, h⟩ := Runs.of_bind h
  obtain ⟨_, l₃, l₄, rfl, -, h⟩ := Runs.of_bind h
  obtain ⟨_, l₅, l₆, rfl, h, -⟩ := Runs.of_bind h
  simpa using (migrateListedPods_pods rp _ h).append rp (l₁ ++ l₃) l₆

end Reads

/-- For every store, every schedule of failing calls and interleaved writes without a crash, and
every pod list: `tryMigration` issues the Get of each fixed resource and the pod List, updates
every listed Pod that fails the skip test, and returns nil exactly when no call failed, the error
of each failed call joined into its result otherwise. -/
theorem tryMigration_reports_every_failure (rp : Redpanda) (σ : Sched) (hσ : σ.stop = none)
    (i : Nat) (s : Store) :
    ∃ errs, (exec σ (tryMigration rp) i s).result = some errs ∧
      (migrationReads rp).Sublist ((exec σ (tryMigration rp) i s).calls.map Prod.fst) ∧
      PodsUpdated rp (exec σ (tryMigration rp) i s).calls ∧
      (errs = [] ↔ ∀ x ∈ (exec σ (tryMigration rp) i s).calls, x.1.clientError x.2 = none) ∧
      ∀ x ∈ (exec σ (tryMigration rp) i s).calls, ∀ e, x.1.clientError x.2 = some e →
        ∃ err ∈ errs, err.cause = some e := by
  obtain ⟨errs, he⟩ := Option.isSome_iff_exists.mp (exec_result_isSome hσ (tryMigration rp) i s)
  have hr := exec_runs he
  have hj : errs.map GoError.cause = (failures (exec σ (tryMigration rp) i s).calls).reverse.map some := by
    simpa using tryMigration_joins rp _ _ hr
  refine ⟨errs, he, tryMigration_issues rp _ _ hr, tryMigration_pods rp hr, ?_, fun x hx e hxe => ?_⟩
  · rw [← List.map_eq_nil_iff (f := GoError.cause), hj]
    simp [failures, List.filterMap_eq_nil_iff]
  · have hmem : some e ∈ errs.map GoError.cause := by
      rw [hj]
      simpa [failures] using ⟨x.1, x.2, hx, hxe⟩
    simpa using hmem

def emptyStore : Store where
  redpandas _ := none
  helmRepositories _ := none
  helmReleases _ := none
  resources _ := []
  version := 0

theorem migratingRedpanda_reports_every_failure :
    ({} : Sched).stop = none ∧
    ∃ errs, (exec {} (tryMigration migratingRedpanda) 0 emptyStore).result = some errs ∧
      (migrationReads migratingRedpanda).Sublist
        ((exec {} (tryMigration migratingRedpanda) 0 emptyStore).calls.map Prod.fst) ∧
      PodsUpdated migratingRedpanda (exec {} (tryMigration migratingRedpanda) 0 emptyStore).calls ∧
      (errs = [] ↔ ∀ x ∈ (exec {} (tryMigration migratingRedpanda) 0 emptyStore).calls,
        x.1.clientError x.2 = none) ∧
      ∀ x ∈ (exec {} (tryMigration migratingRedpanda) 0 emptyStore).calls, ∀ e,
        x.1.clientError x.2 = some e → ∃ err ∈ errs, err.cause = some e :=
  ⟨rfl, tryMigration_reports_every_failure migratingRedpanda {} rfl 0 emptyStore⟩

end RedpandaOperator
