import RedpandaOperator.Reconciler
import RedpandaOperator.Trace

/-!
What each function of the controller may call, on every path. Migration touches the legacy kinds
only; the managed path never writes the Redpanda's metadata and never deletes a HelmRelease; the
only writes of the Redpanda's metadata are the finalizer patch and the two updates that take the
finalizer off.
-/

namespace RedpandaOperator

def Call.onLegacy : Call → Bool
  | .get .. | .list .. | .update .. | .delete .. => true
  | _ => false

def Call.deleting : Call → Bool
  | .getHelmRelease _ | .deleteHelmRelease _ _ | .updateRedpanda _ => true
  | _ => false

/-- The calls of the managed path of the Redpanda under `key` whose status records the release
name `recorded`: the `Get` of that Redpanda and patches of its status that keep, clear, or set to its
own the recorded name; the `Get` and the Create of the HelmRepository of its namespace; a `Get` of a
HelmRelease in its namespace, the Create of the HelmRelease under its own key, an Update of a
HelmRelease; and calls on the legacy kinds. -/
def Call.managedFor (key : ObjectKey) (recorded : String) : Call → Prop
  | .getRedpanda k => k = key
  | .patchRedpandaStatus _ rp => rp.meta.key = key ∧ (rp.status.helmRelease = recorded ∨
      rp.status.helmRelease = "" ∨ rp.status.helmRelease = key.name)
  | .getHelmRepository k => k = ⟨key.ns, "redpanda-repository"⟩
  | .createHelmRepository repo => repo.meta.key = ⟨key.ns, "redpanda-repository"⟩
  | .getHelmRelease k => k.ns = key.ns
  | .createHelmRelease hr => hr.meta.key = key
  | .updateHelmRelease _ | .get .. | .list .. | .update .. | .delete .. => True
  | .updateRedpanda _ | .patchRedpanda _ _ | .deleteHelmRelease _ _ => False

theorem Call.managedFor_of_onLegacy {key : ObjectKey} {recorded : String} {c : Call}
    (h : c.onLegacy = true) : c.managedFor key recorded := by
  cases c <;> simp_all [onLegacy, managedFor]

/-- A Redpanda the managed path hands on from one with metadata `m` and recorded release name
`recorded`: the same metadata, and the recorded name kept, cleared, or set to the Redpanda's own. -/
def Redpanda.Derived (m : ObjectMeta) (recorded : String) (rp : Redpanda) : Prop :=
  rp.meta = m ∧ (rp.status.helmRelease = recorded ∨ rp.status.helmRelease = "" ∨
    rp.status.helmRelease = m.name)

namespace Redpanda.Derived

variable {m : ObjectMeta} {recorded : String} {rp : Redpanda}

theorem self (rp : Redpanda) : rp.Derived rp.meta rp.status.helmRelease := ⟨rfl, .inl rfl⟩

theorem of_eq (h : rp.Derived m recorded) {rp' : Redpanda} (hm : rp'.meta = rp.meta)
    (hs : rp'.status.helmRelease = rp.status.helmRelease) : rp'.Derived m recorded :=
  ⟨hm.trans h.1, hs ▸ h.2⟩

theorem cleared (h : rp.Derived m recorded) :
    { rp with status.helmRelease := "" }.Derived m recorded :=
  ⟨h.1, .inr (.inl rfl)⟩

theorem named (h : rp.Derived m recorded) :
    { rp with status.helmRelease := rp.getHelmReleaseName }.Derived m recorded :=
  ⟨h.1, .inr (.inr (congrArg ObjectMeta.name h.1))⟩

theorem managedFor (h : rp.Derived m recorded) (latest : Redpanda) :
    (Call.patchRedpandaStatus latest rp).managedFor m.key recorded :=
  ⟨congrArg ObjectMeta.key h.1, h.2⟩

end Redpanda.Derived

open Prog

section Client

variable {α : Type} {P : Call → Prop}

theorem Client.getRedpanda_calls {key : ObjectKey} (h : P (.getRedpanda key)) :
    (Client.getRedpanda key).Calls P := by
  simp [Client.getRedpanda, h]

theorem Client.getHelmRepository_calls {key : ObjectKey} (h : P (.getHelmRepository key)) :
    (Client.getHelmRepository key).Calls P := by
  simp [Client.getHelmRepository, h]

theorem Client.getHelmRelease_calls {key : ObjectKey} (h : P (.getHelmRelease key)) :
    (Client.getHelmRelease key).Calls P := by
  simp [Client.getHelmRelease, h]

theorem Client.get_calls {kind : Kind} {key : ObjectKey} (h : P (.get kind key)) :
    (Client.get kind key).Calls P := by
  simp [Client.get, h]

theorem Client.list_calls {kind : Kind} {ns : String} {labels : StrMap}
    (h : P (.list kind ns labels)) : (Client.list kind ns labels).Calls P := by
  simp [Client.list, h]

theorem Client.write_calls {c : Call} (h : P c) : (Client.write c).Calls P := by
  simp [Client.write, h]

theorem Client.emit_calls (e : Event) : (Client.emit e).Calls P := by
  simp [Client.emit]

theorem Client.emitAll_calls (es : List Event) : (Client.emitAll es).Calls P := by
  induction es with
  | nil => exact calls_pure P ()
  | cons e es ih => exact ih

@[simp] theorem Client.emitAll_bind_guards {β : Type} {G Q : Call → Response → Prop}
    {R : β → Prop} (es : List Event) (f : Unit → Prog β) :
    ((Client.emitAll es).bind f).Guards G Q R ↔ (f ()).Guards G Q R := by
  induction es with
  | nil => rfl
  | cons e es ih => exact ih

@[simp] theorem Client.emitAll_bind_calls {β : Type} (es : List Event) (f : Unit → Prog β) :
    ((Client.emitAll es).bind f).Calls P ↔ (f ()).Calls P :=
  Client.emitAll_bind_guards es f

@[simp] theorem Client.emitAll_bind_yields {β : Type} {S : β → Prop} (es : List Event)
    (f : Unit → Prog β) : ((Client.emitAll es).bind f).Yields P S ↔ (f ()).Yields P S :=
  Client.emitAll_bind_guards es f

@[simp] theorem Client.emitAll_bind_seals {β : Type} {K Q : Call → Prop} {R : β → Prop}
    (es : List Event) (f : Unit → Prog β) :
    ((Client.emitAll es).bind f).Seals K Q R ↔ (f ()).Seals K Q R := by
  induction es with
  | nil => rfl
  | cons e es ih => exact ih

end Client

section Migration

variable {rp : Redpanda}

theorem mutate_calls {kind : Kind} {obj : ObjectMeta} {c : Call} (hc : c.onLegacy = true)
    {errMsg eventMsg : String} {errs : List GoError} :
    (mutate rp kind obj c errMsg eventMsg errs).Calls (Call.onLegacy · = true) := by
  simp [mutate, Client.write, Client.emit, hc]

theorem migrateCluster_calls {ref : MigrationRef} {errs : List GoError} :
    (migrateCluster rp ref errs).Calls (Call.onLegacy · = true) := by
  unfold migrateCluster
  refine Calls.bind (Client.get_calls rfl) fun a => ?_
  split
  · exact calls_pure _ _
  · split
    · exact mutate_calls (by rfl)
    · exact calls_pure _ _

theorem migrateConsole_calls {ref : MigrationRef} {errs : List GoError} :
    (migrateConsole rp ref errs).Calls (Call.onLegacy · = true) := by
  unfold migrateConsole
  refine Calls.bind (Client.get_calls rfl) fun a => ?_
  split
  · exact calls_pure _ _
  · split
    · exact mutate_calls (by rfl)
    · exact calls_pure _ _

theorem migratePods_calls {pods : List Resource} {errs : List GoError} :
    (migratePods rp pods errs).Calls (Call.onLegacy · = true) := by
  induction pods generalizing errs with
  | nil => exact calls_pure _ _
  | cons pod pods ih =>
    unfold migratePods
    split
    · exact ih
    · exact Calls.bind (mutate_calls (by rfl)) fun _ => ih

theorem adoptResource_calls {kind : Kind} {name : String} {selector : Option StrMap}
    {getMsg updateMsg eventMsg : String} {errs : List GoError} :
    (adoptResource rp kind name selector getMsg updateMsg eventMsg errs).Calls
      (Call.onLegacy · = true) := by
  unfold adoptResource
  refine Calls.bind (Client.get_calls rfl) fun a => ?_
  split
  · exact calls_pure _ _
  · dsimp only
    split_ifs
    · exact calls_pure _ _
    · exact mutate_calls (by rfl)

theorem migrateStatefulSet_calls {name : String} {errs : List GoError} :
    (migrateStatefulSet rp name errs).Calls (Call.onLegacy · = true) := by
  unfold migrateStatefulSet
  refine Calls.bind (Client.get_calls rfl) fun a => ?_
  split
  · exact calls_pure _ _
  · split
    · exact calls_pure _ _
    · exact Calls.bind (mutate_calls (by rfl)) fun _ => calls_pure _ _

theorem migrateConsoleDeployment_calls {sts : Resource} {name : String} {errs : List GoError} :
    (migrateConsoleDeployment rp sts name errs).Calls (Call.onLegacy · = true) := by
  unfold migrateConsoleDeployment
  refine Calls.bind (Client.get_calls rfl) fun a => ?_
  split
  · exact calls_pure _ _
  · split
    · exact calls_pure _ _
    · exact mutate_calls (by rfl)

theorem migrateConsoleResources_calls {sts : Resource} {errs : List GoError} :
    (migrateConsoleResources rp sts errs).Calls (Call.onLegacy · = true) := by
  unfold migrateConsoleResources
  exact Calls.bind adoptResource_calls fun _ => Calls.bind adoptResource_calls fun _ =>
    Calls.bind migrateConsoleDeployment_calls fun _ => adoptResource_calls

theorem migrateListedPods_calls {errs : List GoError} :
    (migrateListedPods rp errs).Calls (Call.onLegacy · = true) := by
  unfold migrateListedPods
  refine Calls.bind (Client.list_calls rfl) fun a => ?_
  split
  · exact calls_pure _ _
  · exact migratePods_calls

theorem tryMigration_calls : (tryMigration rp).Calls (Call.onLegacy · = true) := by
  unfold tryMigration
  refine Calls.bind migrateCluster_calls fun _ => Calls.bind migrateConsole_calls fun _ =>
    Calls.bind migrateListedPods_calls fun _ =>
    Calls.bind adoptResource_calls fun _ => Calls.bind adoptResource_calls fun _ =>
    Calls.bind adoptResource_calls fun _ => Calls.bind adoptResource_calls fun _ =>
    Calls.bind migrateStatefulSet_calls fun _ => ?_
  split
  split_ifs
  · exact migrateConsoleResources_calls
  · exact calls_pure _ _

end Migration

namespace RedpandaReconciler

variable {r : RedpandaReconciler} {rp : Redpanda}

theorem patchRedpandaStatus_calls {P : Call → Prop} (hget : P (.getRedpanda rp.meta.key))
    (hpatch : ∀ latest, P (.patchRedpandaStatus latest rp)) : (patchRedpandaStatus rp).Calls P := by
  unfold patchRedpandaStatus
  refine Calls.bind (Client.getRedpanda_calls hget) fun a => ?_
  split
  · exact calls_pure _ _
  · exact Calls.bind (Client.write_calls (hpatch _)) fun _ => calls_pure _ _

theorem reconcileHelmRepository_yields {P : Call → Prop} {m : ObjectMeta} {recorded : String}
    (h : rp.Derived m recorded) (hget : P (.getHelmRepository ⟨rp.meta.ns, rp.getHelmRepositoryName⟩))
    (hcreate : P (.createHelmRepository (createHelmRepositoryFromTemplate r.api rp))) :
    (r.reconcileHelmRepository rp).Yields P (·.1.Derived m recorded) := by
  unfold reconcileHelmRepository
  simp only [Prog.bind_eq, Client.getHelmRepository_bind, Client.write_bind, Client.emit_bind,
    yields_call, hget, true_and]
  intro a
  split
  · exact yields_pure_of h
  · split_ifs
    · simp only [yields_call, hcreate, true_and]
      intro a
      split <;> exact yields_event_pure_of _ h
    · exact yields_event_pure_of _ h

theorem helmReleaseCreated_yields {P : Call → Prop} {m : ObjectMeta} {recorded : String}
    (h : rp.Derived m recorded) {hRelease : HelmRelease} :
    (helmReleaseCreated rp hRelease).Yields P (·.1.Derived m recorded) :=
  yields_event_pure_of _ h.named

theorem createHelmRelease_yields {P : Call → Prop} {m : ObjectMeta} {recorded : String}
    (h : rp.Derived m recorded)
    (hcreate : ∀ hr : HelmRelease, hr.meta.key = rp.meta.key → P (.createHelmRelease hr)) :
    (r.createHelmRelease rp).Yields P (·.1.Derived m recorded) := by
  unfold createHelmRelease
  simp only [Prog.bind_eq, Client.write_bind, Client.emit_bind]
  split
  · exact yields_event_pure_of _ h
  · rename_i t ht
    simp only [yields_call, hcreate t (createHelmReleaseFromTemplate_key _ _ _ ht), true_and]
    intro a
    split
    · split_ifs
      · exact helmReleaseCreated_yields h
      · exact yields_event_pure_of _ h
    · exact helmReleaseCreated_yields h

theorem updateHelmRelease_yields {P : Call → Prop} {m : ObjectMeta} {recorded : String}
    (h : rp.Derived m recorded) (hupdate : ∀ hr, P (.updateHelmRelease hr)) {hr : HelmRelease} :
    (r.updateHelmRelease rp hr).Yields P (·.1.Derived m recorded) := by
  unfold updateHelmRelease
  simp only [Prog.bind_eq, Client.updateHelmRelease_bind, Client.emit_bind]
  split
  · exact yields_event_pure_of _ h
  · split_ifs
    · simp only [yields_call, hupdate, true_and]
      intro a
      split
      · exact yields_event_pure_of _ h
      · exact yields_event_pure_of _ h.named
    · exact yields_pure_of h

theorem reconcileHelmRelease_yields {P : Call → Prop} {m : ObjectMeta} {recorded : String}
    (h : rp.Derived m recorded) (hget : P (.getHelmRelease ⟨rp.meta.ns, rp.status.helmRelease⟩))
    (hcreate : ∀ hr : HelmRelease, hr.meta.key = rp.meta.key → P (.createHelmRelease hr))
    (hupdate : ∀ hr, P (.updateHelmRelease hr)) :
    (r.reconcileHelmRelease rp).Yields P (·.1.Derived m recorded) := by
  unfold reconcileHelmRelease
  split_ifs
  · exact createHelmRelease_yields h hcreate
  · simp only [Prog.bind_eq, Client.getHelmRelease_bind, yields_call, hget, true_and]
    intro a
    split
    · exact updateHelmRelease_yields h hupdate
    · split_ifs
      · exact createHelmRelease_yields h.cleared hcreate
      · exact yields_pure_of h

theorem reconcileRelease_yields {m : ObjectMeta} {recorded : String} (h : rp.Derived m recorded) :
    (r.reconcileRelease rp).Yields (Call.managedFor m.key recorded) (·.1.Derived m recorded) := by
  have hm := h.1
  subst hm
  unfold reconcileRelease
  refine (reconcileHelmRelease_yields (P := Call.managedFor rp.meta.key recorded) h rfl
    (fun _ h => h) fun _ => trivial).bind fun ⟨rp', res⟩ hd => ?_
  dsimp only
  cases res with
  | error err => exact yields_pure_of hd
  | ok hr =>
    dsimp only
    split_ifs
    · exact yields_pure_of hd
    all_goals
      simp only [Prog.bind_eq, Client.emitAll_bind_yields]
      exact yields_pure_of (hd.of_eq (checkDependent_meta _ _ _ _ _)
        (checkDependent_helmRelease _ _ _ _ _))

theorem reconcileDependents_yields {m : ObjectMeta} {recorded : String} (h : rp.Derived m recorded) :
    (r.reconcileDependents rp).Yields (Call.managedFor m.key recorded) (·.1.Derived m recorded) := by
  have hm := h.1
  subst hm
  unfold reconcileDependents
  refine (reconcileHelmRepository_yields (P := Call.managedFor rp.meta.key recorded) h rfl rfl).bind
    fun ⟨rp', res⟩ hd => ?_
  dsimp only
  cases res with
  | error err => exact yields_pure_of hd
  | ok repo =>
    dsimp only
    simp only [Prog.bind_eq, Client.emitAll_bind_yields]
    split_ifs
    · exact reconcileRelease_yields
        (hd.of_eq (checkDependent_meta _ _ _ _ _) (checkDependent_helmRelease _ _ _ _ _))
    · exact yields_pure_of
        (hd.of_eq (checkDependent_meta _ _ _ _ _) (checkDependent_helmRelease _ _ _ _ _))

theorem reconcile_yields {m : ObjectMeta} {recorded : String} (h : rp.Derived m recorded) :
    (r.reconcile rp).Yields (Call.managedFor m.key recorded) (·.1.Derived m recorded) := by
  unfold reconcile
  split_ifs
  · refine Calls.bind_yields (patchRedpandaStatus_calls (congrArg ObjectMeta.key h.1)
      fun latest => h.managedFor latest) fun a => ?_
    split
    · exact yields_pure_of h
    · exact reconcileDependents_yields (by exact h)
  · exact reconcileDependents_yields h

theorem reconcileManaged_calls :
    (r.reconcileManaged rp).Calls (Call.managedFor rp.meta.key rp.status.helmRelease) := by
  unfold reconcileManaged
  refine Calls.bind ?_ fun _ => (reconcile_yields (Redpanda.Derived.self rp)).bind_calls
    fun ⟨rp', _⟩ hd => Calls.bind (patchRedpandaStatus_calls (congrArg ObjectMeta.key hd.1)
      fun _ => hd.managedFor _) fun a => ?_
  · split
    · exact tryMigration_calls.mono fun _ => Call.managedFor_of_onLegacy
    · exact calls_pure _ _
  · split <;> exact calls_pure _ _

theorem deleteHelmRelease_calls : (deleteHelmRelease rp).Calls (Call.deleting · = true) := by
  unfold deleteHelmRelease
  split_ifs
  · exact calls_pure _ _
  · refine Calls.bind (Client.getHelmRelease_calls rfl) fun a => ?_
    split
    · split_ifs <;> exact calls_pure _ _
    · exact Calls.bind (Client.write_calls rfl) fun a => by split <;> exact calls_pure _ _

theorem reconcileDelete_calls : (reconcileDelete rp).Calls (Call.deleting · = true) := by
  unfold reconcileDelete
  refine Calls.bind deleteHelmRelease_calls fun a => ?_
  split
  split
  · exact calls_pure _ _
  · split_ifs
    · exact Calls.bind (Client.write_calls rfl) fun a => by split <;> exact calls_pure _ _
    · exact calls_pure _ _

theorem exec_Reconcile_calls {σ : Sched} {s : Store} {key : ObjectKey} {x : Call × Response}
    (hx : x ∈ (exec σ (r.Reconcile key) 0 s).calls) (hne : x.1 ≠ .getRedpanda key) :
    ∃ rp, (exec σ (r.Reconcile key) 0 s).calls = (.getRedpanda key, .redpanda rp) ::
      (exec σ (r.reconcileObject rp) 1 (σ.answer 0 s (.getRedpanda key)).1).calls := by
  unfold Reconcile at hx ⊢
  simp only [Prog.bind_eq, Client.getRedpanda, Prog.call_bind, Prog.pure_bind,
    exec_call_calls] at hx ⊢
  split at hx
  · simp at hx
  · rw [if_neg ‹_›]
    generalize σ.answer 0 s (.getRedpanda key) = sr at hx ⊢
    cases h : sr.2.toRedpanda with
    | error e =>
      simp only [h, Prog.pure_eq, exec_pure, List.mem_singleton] at hx
      exact absurd (congrArg Prod.fst hx) hne
    | ok rp => exact ⟨rp, by rw [Response.toRedpanda_eq_ok.mp h]⟩

theorem exec_Reconcile_mem {σ : Sched} {s : Store} {key : ObjectKey} {x : Call × Response}
    (hx : x ∈ (exec σ (r.Reconcile key) 0 s).calls) (hne : x.1 ≠ .getRedpanda key) :
    ∃ rp s₁, (exec σ (r.Reconcile key) 0 s).calls =
        (.getRedpanda key, .redpanda rp) :: (exec σ (r.reconcileObject rp) 1 s₁).calls ∧
      x ∈ (exec σ (r.reconcileObject rp) 1 s₁).calls := by
  obtain ⟨rp, h⟩ := exec_Reconcile_calls hx hne
  refine ⟨rp, _, h, ?_⟩
  rw [h] at hx
  exact (List.mem_cons.mp hx).resolve_left fun he => hne (congrArg Prod.fst he)

end RedpandaReconciler

end RedpandaOperator
