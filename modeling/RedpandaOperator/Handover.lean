import RedpandaOperator.Adoption

/-!
What a migration with no failing call leaves of the legacy objects. Each step of `tryMigration`
reads the object it is pointed at and writes it only when the step's test fails; what it writes
passes the test (`handedOver`), and no step writes an object of any kind out of that state again.
So once the migration is over, every object a step was pointed at is handed over or gone: the
Cluster and the Console switched off (the Console without its legacy finalizers), the listed Pods
migrated, the chart's Services, ServiceAccounts, PodDisruptionBudget and Ingress carrying Helm's
labels and annotations, the StatefulSet Helm's or being deleted, and the console Deployment being
deleted unless the StatefulSet was Helm's. Every object no step is pointed at is as it was
(`Store.HandOver`). For a Service with a selector, `handedOver` asks for the
labels and annotations only: when the console Service is the internal one, the second step hands
it the console's selector. The Pods need what the API server keeps, one object per key; the rest
holds of every store.
-/

namespace RedpandaOperator

open Prog

/-- What the step that handles an object of the kind leaves of it: the Cluster and the Console
pass the step's test, as do the Pods; the adopted kinds carry Helm's labels and annotations; the
StatefulSet is Helm's or being deleted, and the console Deployment being deleted. -/
def handedOver (rp : Redpanda) : Kind → ObjectMeta → Bool
  | .cluster, m => !isRedpandaClusterManaged m
  | .console, m => !(isConsoleManaged m || m.containsFinalizer consoleSAFinalizer ||
      m.containsFinalizer consoleACLFinalizer)
  | .pod, m => podMigrated m
  | .statefulSet, m => hasLabelsAndAnnotations m rp || m.deletionTimestamp.isSome
  | .deployment, m => m.deletionTimestamp.isSome
  | .service, m | .serviceAccount, m | .podDisruptionBudget, m | .ingress, m => hasLabelsAndAnnotations m rp

theorem handedOver_stamp (rp : Redpanda) (kind : Kind) (m : ObjectMeta) (d : Option Nat) (g v : Nat) :
    handedOver rp kind { m with deletionTimestamp := d, generation := g, resourceVersion := v } =
      handedOver rp kind { m with deletionTimestamp := d } := by
  cases kind <;> rfl

section Writes

variable (rp : Redpanda)

theorem handedOver_disableRedpandaReconciliation (m : ObjectMeta) (d : Option Nat) :
    handedOver rp .cluster { disableRedpandaReconciliation m with deletionTimestamp := d } = true := by
  simp [handedOver, isRedpandaClusterManaged, isLegacyManaged, disableRedpandaReconciliation,
    disableLegacyReconciliation]

theorem handedOver_disableConsoleReconciliation (m : ObjectMeta) (d : Option Nat) :
    handedOver rp .console { ((disableConsoleReconciliation m).removeFinalizer consoleSAFinalizer).removeFinalizer
      consoleACLFinalizer with deletionTimestamp := d } = true := by
  simp [handedOver, isConsoleManaged, isLegacyManaged, disableConsoleReconciliation, disableLegacyReconciliation,
    ObjectMeta.containsFinalizer, ObjectMeta.removeFinalizer]

theorem handedOver_migratedPod (pod : Resource) (d : Option Nat) :
    handedOver rp .pod { (migratedPod pod).meta with deletionTimestamp := d } = true := by
  simp [handedOver, podMigrated, migratedPod, ObjectMeta.containsFinalizer, ObjectMeta.removeFinalizer]

theorem handedOver_setHelmLabelsAndAnnotations {kind : Kind}
    (hkind : ∀ m, handedOver rp kind m = hasLabelsAndAnnotations m rp) (m : ObjectMeta) (d : Option Nat) :
    handedOver rp kind { setHelmLabelsAndAnnotations m rp with deletionTimestamp := d } = true :=
  (hkind _).trans (hasLabelsAndAnnotations_setHelmLabelsAndAnnotations m rp)

end Writes

/-- Every object of the kind stored under the key has metadata in `q`. -/
def Store.AllAt (s : Store) (kind : Kind) (key : ObjectKey) (q : ObjectMeta → Bool) : Prop :=
  ∀ o, s.find? kind key = some o → q o.meta = true

/-- A call of the migration: a read, or a write of one of `kinds` that leaves its object handed
over, whatever deletion timestamp the API server keeps. -/
def Call.HandsOver (rp : Redpanda) (kinds : List Kind) : Call → Prop
  | .get _ _ | .list _ _ _ => True
  | .update kind obj => kind ∈ kinds ∧ ∀ d, handedOver rp kind { obj.meta with deletionTimestamp := d } = true
  | .delete kind _ _ => kind ∈ kinds ∧ (kind = .statefulSet ∨ kind = .deployment)
  | _ => False

theorem Call.HandsOver.mono {rp : Redpanda} {kinds kinds' : List Kind} {c : Call} (h : c.HandsOver rp kinds)
    (hk : kinds ⊆ kinds') : c.HandsOver rp kinds' := by
  cases c <;> simp only [Call.HandsOver] at h ⊢
  all_goals first | trivial | exact ⟨hk h.1, h.2⟩

theorem find?_map_of_fixed {α : Type} {p : α → Bool} {f : α → α} (hp : ∀ a, p (f a) = p a)
    (hf : ∀ a, p a = true → f a = a) (l : List α) : (l.map f).find? p = l.find? p := by
  induction l with
  | nil => rfl
  | cons a l ih => by_cases ha : p a = true <;> simp [List.find?_cons, hp, ha, hf a, ih]

namespace Store

variable {s : Store} {kind kind' : Kind} {key k : ObjectKey} {o obj : Resource}

theorem find?_key (h : s.find? kind key = some o) : o.meta.key = key := by
  simpa using List.find?_some h

theorem find?_writeResource_of_ne (hk : obj.meta.key = k) (h : kind' ≠ kind ∨ key ≠ k) :
    (s.writeResource kind k obj).find? kind' key = s.find? kind' key := by
  by_cases hkind : kind' = kind
  case neg => simp [find?, writeResource, Function.update_noteq hkind]
  case pos =>
    subst hkind
    have hne : key ≠ k := h.resolve_left (· rfl)
    simp only [find?, writeResource, Function.update_same]
    split
    · rw [List.find?_filter]
      congr 1
      funext o
      by_cases ho : o.meta.key = key <;> simp [ho, hne]
    · refine find?_map_of_fixed (fun o => ?_) (fun o ho => ?_) _
      · by_cases ho : o.meta.key = k
        · simp only [ho, if_true, ← hk]
          rfl
        · simp only [ho, if_false]
      · have : o.meta.key ≠ k := (beq_iff_eq.mp ho).trans_ne hne
        simp only [this, if_false]

theorem find?_writeResource_self (h : (s.writeResource kind k obj).find? kind k = some o) :
    o = { obj with meta := { obj.meta with resourceVersion := s.version + 1 } } := by
  simp only [find?, writeResource, Function.update_same] at h
  split at h
  · have ho := List.find?_some h
    have hmem := (List.mem_filter.mp (List.mem_of_find?_eq_some h)).2
    simp only [beq_iff_eq] at ho
    simp [ho] at hmem
  · obtain ⟨o', ho', rfl⟩ := Option.map_eq_some'.mp (List.find?_map _ _ ▸ h)
    have hp := List.find?_some ho'
    by_cases ho : o'.meta.key = k
    · simp only [ho, if_true]
    · simp only [Function.comp, ho, if_false, beq_iff_eq] at hp

theorem allAt_of_find_none {q : ObjectMeta → Bool} (h : s.find? kind key = none) : s.AllAt kind key q :=
  fun _ ho => nomatch h.symm.trans ho

theorem allAt_of_find {q : ObjectMeta → Bool} (h : s.find? kind key = some o) (hq : q o.meta = true) :
    s.AllAt kind key q := fun _ ho => Option.some.inj (h.symm.trans ho) ▸ hq

theorem allAt_writeResource_self {q : ObjectMeta → Bool}
    (hq : q { obj.meta with resourceVersion := s.version + 1 } = true) : (s.writeResource kind k obj).AllAt kind k q :=
  fun _ ho => find?_writeResource_self ho ▸ hq

theorem AllAt.writeResource {q : ObjectMeta → Bool} (h : s.AllAt kind' key q) (hk : obj.meta.key = k)
    (hq : kind' = kind → key = k → q { obj.meta with resourceVersion := s.version + 1 } = true) :
    (s.writeResource kind k obj).AllAt kind' key q := by
  by_cases hkk : kind' = kind ∧ key = k
  · obtain ⟨rfl, rfl⟩ := hkk
    exact allAt_writeResource_self (hq rfl rfl)
  · rw [not_and_or] at hkk
    intro o ho
    exact h o (find?_writeResource_of_ne hk hkk ▸ ho)

theorem perform_update_of_find (h : s.find? kind obj.meta.key = some o)
    (hv : obj.meta.resourceVersion = o.meta.resourceVersion) :
    s.perform (.update kind obj) = (s.writeResource kind obj.meta.key { obj with
      meta := { obj.meta with deletionTimestamp := o.meta.deletionTimestamp,
                              generation := o.meta.generation } }, .ok) := by
  simp [perform, h, hv]

theorem perform_delete_of_find {p : Option Propagation} (h : s.find? kind obj.meta.key = some o) :
    s.perform (.delete kind obj p) = (s.writeResource kind obj.meta.key
      { o with meta := deleteMeta o.meta p s.version }, .ok) := by
  simp [perform, h]

theorem find?_perform_update_of_ne (h : kind' ≠ kind ∨ key ≠ obj.meta.key) :
    (s.perform (.update kind obj)).1.find? kind' key = s.find? kind' key := by
  simp only [perform]
  repeat' split
  all_goals first | rfl | exact find?_writeResource_of_ne rfl h

theorem find?_perform_delete_of_ne {p : Option Propagation} (h : kind' ≠ kind ∨ key ≠ obj.meta.key) :
    (s.perform (.delete kind obj p)).1.find? kind' key = s.find? kind' key := by
  simp only [perform]
  split
  · rfl
  · rename_i cur hcur
    have hk : cur.meta.key = obj.meta.key := find?_key hcur
    exact find?_writeResource_of_ne hk h

/-- The migration's calls keep every object they do not write, and leave what they write handed
over. -/
theorem AllAt.perform {rp : Redpanda} {kinds : List Kind} (h : s.AllAt kind key (handedOver rp kind))
    {c : Call} (hc : c.HandsOver rp kinds) : (s.perform c).1.AllAt kind key (handedOver rp kind) := by
  cases c <;> simp only [Call.HandsOver] at hc
  case get | list => exact h
  case update kind' obj =>
    simp only [Store.perform]
    split
    · exact h
    · split
      · exact h
      · refine h.writeResource rfl fun hkind _ => ?_
        subst hkind
        exact (handedOver_stamp rp _ obj.meta _ _ _).trans (hc.2 _)
  case delete kind' obj p =>
    simp only [Store.perform]
    split
    · exact h
    · rename_i cur hcur
      have hk : cur.meta.key = obj.meta.key := find?_key hcur
      refine h.writeResource hk fun hkind _ => ?_
      subst hkind
      rcases hc.2 with rfl | rfl <;> simp [handedOver, deleteMeta]

theorem perform_resources_of_handsOver {rp : Redpanda} {kinds : List Kind} {c : Call}
    (hc : c.HandsOver rp kinds) (hk : kind ∉ kinds) : (s.perform c).1.resources kind = s.resources kind := by
  cases c <;> simp only [Call.HandsOver] at hc
  case get | list => rfl
  all_goals
    simp only [Store.perform]
    repeat' split
    all_goals first
      | rfl
      | exact Function.update_noteq (fun h => hk (by rw [h]; exact hc.1)) _ _

theorem allAt_update {rp : Redpanda} (h : s.find? kind key = some o) (hk : obj.meta.key = key)
    (hv : obj.meta.resourceVersion = o.meta.resourceVersion)
    (hq : ∀ d, handedOver rp kind { obj.meta with deletionTimestamp := d } = true) :
    (s.perform (.update kind obj)).1.AllAt kind key (handedOver rp kind) := by
  subst hk
  rw [perform_update_of_find h hv]
  exact allAt_writeResource_self ((handedOver_stamp rp kind obj.meta _ _ _).trans (hq _))

theorem allAt_delete {rp : Redpanda} {p : Option Propagation} (h : s.find? kind key = some o)
    (hk : obj.meta.key = key) (hkind : kind = .statefulSet ∨ kind = .deployment) :
    (s.perform (.delete kind obj p)).1.AllAt kind key (handedOver rp kind) := by
  subst hk
  rw [perform_delete_of_find h]
  exact allAt_writeResource_self (by rcases hkind with rfl | rfl <;> simp [handedOver, deleteMeta])

/-- What a `List` of the kind in the namespace with the labels returns. -/
def listed (s : Store) (kind : Kind) (ns : String) (labels : StrMap) : List Resource :=
  (s.resources kind).filter fun o => o.meta.ns == ns && matchesLabels labels o.meta.labels

theorem find?_of_nodup (hnd : ((s.resources kind).map (·.meta.key)).Nodup) (ho : o ∈ s.resources kind) :
    s.find? kind o.meta.key = some o := by
  unfold find?
  generalize s.resources kind = l at hnd ho
  induction l with
  | nil => cases ho
  | cons a l ih =>
    rw [List.map_cons, List.nodup_cons] at hnd
    rcases List.mem_cons.mp ho with rfl | ho
    · simp [List.find?_cons]
    · have hne : a.meta.key ≠ o.meta.key := fun h => hnd.1 (h ▸ List.mem_map_of_mem _ ho)
      simp [List.find?_cons, hne, ih hnd.2 ho]

end Store

theorem EnvAction.apply_resources (a : EnvAction) (s : Store) : (a.apply s).resources = s.resources := by
  cases a <;> simp only [EnvAction.apply] <;> repeat' split
  all_goals rfl

namespace Prog.Calls

variable {α : Type} {rp : Redpanda} {kinds : List Kind} {p : Prog α} {s : Store}

theorem eval_allAt (h : p.Calls (Call.HandsOver rp kinds)) {kind : Kind} {key : ObjectKey}
    (hs : s.AllAt kind key (handedOver rp kind)) : (p.eval s).2.AllAt kind key (handedOver rp kind) := by
  rw [← (exec_empty p 0 s).1]
  exact h.exec_store (I := fun s' => s'.AllAt kind key (handedOver rp kind)) (fun _ _ hc hs => hs.perform hc)
    (fun a _ hs o ho => hs o (by rwa [Store.find?, EnvAction.apply_resources] at ho)) {} 0 hs

theorem eval_resources (h : p.Calls (Call.HandsOver rp kinds)) {kind : Kind} (hk : kind ∉ kinds) :
    (p.eval s).2.resources kind = s.resources kind := by
  rw [← (exec_empty p 0 s).1]
  exact h.exec_store (I := fun s' => s'.resources kind = s.resources kind)
    (fun _ _ hc hs => (Store.perform_resources_of_handsOver hc hk).trans hs)
    (fun a _ hs => (congrFun (EnvAction.apply_resources a _) kind).trans hs) {} 0 rfl

end Prog.Calls

/-- Every object of the list is handed over in the store. -/
def Store.Handed (s : Store) (rp : Redpanda) (targets : List (Kind × ObjectKey)) : Prop :=
  ∀ t ∈ targets, s.AllAt t.1 t.2 (handedOver rp t.1)

theorem Store.Handed.singleton {s : Store} {rp : Redpanda} {kind : Kind} {key : ObjectKey}
    (h : s.AllAt kind key (handedOver rp kind)) : s.Handed rp [(kind, key)] :=
  fun _ ht => List.mem_singleton.mp ht ▸ h

/-- The two stores hold the same object under every kind and key outside the list. -/
def Store.SameOutside (s₀ s : Store) (targets : List (Kind × ObjectKey)) : Prop :=
  ∀ kind key, (kind, key) ∉ targets → s.find? kind key = s₀.find? kind key

/-- From `s₀` to `s` the objects of the list were handed over and nothing else changed: they are
handed over in `s`, and every other object is as in `s₀`. -/
def Store.HandOver (s₀ s : Store) (rp : Redpanda) (targets : List (Kind × ObjectKey)) : Prop :=
  s.Handed rp targets ∧ s₀.SameOutside s targets

namespace Store.HandOver

variable {s₀ s s₁ : Store} {rp : Redpanda} {l l' : List (Kind × ObjectKey)} {kind : Kind} {key : ObjectKey}

theorem nil (s : Store) : s.HandOver s rp [] := ⟨fun _ h => (nomatch h), fun _ _ _ => rfl⟩

theorem stay (h : s.AllAt kind key (handedOver rp kind)) : s.HandOver s rp [(kind, key)] :=
  ⟨Store.Handed.singleton h, fun _ _ _ => rfl⟩

theorem update {o obj : Resource} (h : s.find? kind key = some o) (hk : obj.meta.key = key)
    (hv : obj.meta.resourceVersion = o.meta.resourceVersion)
    (hq : ∀ d, handedOver rp kind { obj.meta with deletionTimestamp := d } = true) :
    s.HandOver (s.perform (.update kind obj)).1 rp [(kind, key)] :=
  ⟨Store.Handed.singleton (Store.allAt_update h hk hv hq), fun _ _ hne =>
    Store.find?_perform_update_of_ne (by rw [List.mem_singleton, Prod.mk.injEq, not_and_or] at hne; exact hk ▸ hne)⟩

theorem delete {o obj : Resource} {p : Option Propagation} (h : s.find? kind key = some o)
    (hk : obj.meta.key = key) (hkind : kind = .statefulSet ∨ kind = .deployment) :
    s.HandOver (s.perform (.delete kind obj p)).1 rp [(kind, key)] :=
  ⟨Store.Handed.singleton (Store.allAt_delete h hk hkind), fun _ _ hne =>
    Store.find?_perform_delete_of_ne (by rw [List.mem_singleton, Prod.mk.injEq, not_and_or] at hne; exact hk ▸ hne)⟩

theorem trans {α : Type} {p : Prog α} {kinds : List Kind} (h₁ : s₀.HandOver s₁ rp l)
    (hp : p.Calls (Call.HandsOver rp kinds)) (h₂ : s₁.HandOver (p.eval s₁).2 rp l') :
    s₀.HandOver (p.eval s₁).2 rp (l ++ l') :=
  ⟨fun t ht => (List.mem_append.mp ht).elim (fun ht => hp.eval_allAt (h₁.1 t ht)) (h₂.1 t),
    fun kind key hne => by
      rw [List.mem_append, not_or] at hne
      exact (h₂.2 kind key hne.2).trans (h₁.2 kind key hne.1)⟩

end Store.HandOver

/-- A run with no failing call leads from a store in `P` to a result and a store in `Q`. -/
def Prog.Leads {α : Type} (P : Store → Prop) (p : Prog α) (Q : α → Store → Prop) : Prop :=
  ∀ s, P s → Q (p.eval s).1 (p.eval s).2

theorem Prog.Leads.bind {α β : Type} {P : Store → Prop} {p : Prog α} {Q : α → Store → Prop} {f : α → Prog β}
    {R : β → Store → Prop} (hp : p.Leads P Q) (hf : ∀ a, (f a).Leads (Q a) R) : (p.bind f).Leads P R :=
  fun s hs => by
    rw [eval_bind]
    exact hf _ _ (hp s hs)

section Calls

variable {rp : Redpanda} {errs : List GoError}

theorem mutate_handsOver {kinds : List Kind} {kind : Kind} {obj : ObjectMeta} {c : Call}
    (hc : c.HandsOver rp kinds) {errMsg eventMsg : String} :
    (mutate rp kind obj c errMsg eventMsg errs).Calls (Call.HandsOver rp kinds) := by
  simp [mutate, Client.write, Client.emit, hc]

theorem migrateCluster_handsOver (ref : MigrationRef) :
    (migrateCluster rp ref errs).Calls (Call.HandsOver rp [.cluster]) := by
  unfold migrateCluster
  refine Calls.bind (Client.get_calls trivial) fun a => ?_
  split
  · exact calls_pure _ _
  · split
    · exact mutate_handsOver (by exact ⟨.head _, handedOver_disableRedpandaReconciliation rp _⟩)
    · exact calls_pure _ _

theorem migrateConsole_handsOver (ref : MigrationRef) :
    (migrateConsole rp ref errs).Calls (Call.HandsOver rp [.console]) := by
  unfold migrateConsole
  refine Calls.bind (Client.get_calls trivial) fun a => ?_
  split
  · exact calls_pure _ _
  · split
    · exact mutate_handsOver (by exact ⟨.head _, handedOver_disableConsoleReconciliation rp _⟩)
    · exact calls_pure _ _

theorem migratePods_handsOver (pods : List Resource) :
    (migratePods rp pods errs).Calls (Call.HandsOver rp [.pod]) := by
  induction pods generalizing errs with
  | nil => exact calls_pure _ _
  | cons pod pods ih =>
    unfold migratePods
    split
    · exact ih
    · exact Calls.bind (mutate_handsOver (by exact ⟨.head _, handedOver_migratedPod rp pod⟩)) fun _ => ih

theorem migrateListedPods_handsOver : (migrateListedPods rp errs).Calls (Call.HandsOver rp [.pod]) := by
  unfold migrateListedPods
  refine Calls.bind (Client.list_calls trivial) fun a => ?_
  split
  · exact calls_pure _ _
  · exact migratePods_handsOver _

theorem adoptResource_handsOver (kind : Kind) (hkind : ∀ m, handedOver rp kind m = hasLabelsAndAnnotations m rp)
    (name : String) (selector : Option StrMap) (getMsg updateMsg eventMsg : String) :
    (adoptResource rp kind name selector getMsg updateMsg eventMsg errs).Calls (Call.HandsOver rp [kind]) := by
  unfold adoptResource
  refine Calls.bind (Client.get_calls trivial) fun a => ?_
  split
  · exact calls_pure _ _
  · dsimp only
    split_ifs
    · exact calls_pure _ _
    · exact mutate_handsOver (by exact ⟨.head _, handedOver_setHelmLabelsAndAnnotations rp hkind _⟩)

theorem migrateStatefulSet_handsOver (name : String) :
    (migrateStatefulSet rp name errs).Calls (Call.HandsOver rp [.statefulSet]) := by
  unfold migrateStatefulSet
  refine Calls.bind (Client.get_calls trivial) fun a => ?_
  split
  · exact calls_pure _ _
  · split
    · exact calls_pure _ _
    · exact Calls.bind (mutate_handsOver (by exact ⟨.head _, .inl rfl⟩)) fun _ => calls_pure _ _

theorem migrateConsoleDeployment_handsOver (sts : Resource) (name : String) :
    (migrateConsoleDeployment rp sts name errs).Calls (Call.HandsOver rp [.deployment]) := by
  unfold migrateConsoleDeployment
  refine Calls.bind (Client.get_calls trivial) fun a => ?_
  split
  · exact calls_pure _ _
  · split
    · exact calls_pure _ _
    · exact mutate_handsOver (by exact ⟨.head _, .inr rfl⟩)

/-- The kinds the console step writes. -/
def consoleKinds : List Kind := [.serviceAccount, .service, .deployment, .ingress]

theorem migrateConsoleResources_handsOver (sts : Resource) :
    (migrateConsoleResources rp sts errs).Calls (Call.HandsOver rp consoleKinds) := by
  have hwiden {kind : Kind} (h : kind ∈ consoleKinds) {α : Type} {p : Prog α}
      (hp : p.Calls (Call.HandsOver rp [kind])) : p.Calls (Call.HandsOver rp consoleKinds) :=
    hp.mono fun _ hc => hc.mono fun _ hx => List.mem_singleton.mp hx ▸ h
  unfold migrateConsoleResources
  exact Calls.bind (hwiden (by decide) (adoptResource_handsOver .serviceAccount (fun _ => rfl) _ _ _ _ _)) fun _ =>
    Calls.bind (hwiden (by decide) (adoptResource_handsOver .service (fun _ => rfl) _ _ _ _ _)) fun _ =>
    Calls.bind (hwiden (by decide) (migrateConsoleDeployment_handsOver _ _)) fun _ =>
    hwiden (by decide) (adoptResource_handsOver .ingress (fun _ => rfl) _ _ _ _ _)

end Calls

section Steps

variable {rp : Redpanda} {errs : List GoError} {s : Store}

theorem Client.get_bind_eval_of_find {α : Type} {f : Except StatusError Resource → Prog α} {kind : Kind}
    {key : ObjectKey} {o : Resource} (h : s.find? kind key = some o) :
    ((Client.get kind key).bind f).eval s = (f (.ok o)).eval s := by
  simp [Store.perform, h, Response.toResource]

theorem Client.get_bind_eval_of_find_none {α : Type} {f : Except StatusError Resource → Prog α} {kind : Kind}
    {key : ObjectKey} (h : s.find? kind key = none) :
    ((Client.get kind key).bind f).eval s = (f (.error .notFound)).eval s := by
  simp [Store.perform, h, Response.toResource]

@[simp] theorem mutate_eval_store {kind : Kind} {obj : ObjectMeta} {c : Call} {errMsg eventMsg : String} :
    ((mutate rp kind obj c errMsg eventMsg errs).eval s).2 = (s.perform c).1 := by
  simp [mutate, Client.write, Client.emit]

theorem migrateCluster_handOver (ref : MigrationRef) :
    s.HandOver ((migrateCluster rp ref errs).eval s).2 rp [(.cluster, ref.resolve rp)] := by
  unfold migrateCluster
  simp only [bind_eq]
  cases h : s.find? .cluster (ref.resolve rp) with
  | none =>
    rw [Client.get_bind_eval_of_find_none h]
    exact .stay (Store.allAt_of_find_none h)
  | some cluster =>
    rw [Client.get_bind_eval_of_find h]
    dsimp only
    split_ifs with hm
    · rw [mutate_eval_store]
      have hk := Store.find?_key h
      exact .update h hk rfl (handedOver_disableRedpandaReconciliation rp _)
    · exact .stay (Store.allAt_of_find h (by simpa [handedOver] using hm))

theorem migrateConsole_handOver (ref : MigrationRef) :
    s.HandOver ((migrateConsole rp ref errs).eval s).2 rp [(.console, ref.resolve rp)] := by
  unfold migrateConsole
  simp only [bind_eq]
  cases h : s.find? .console (ref.resolve rp) with
  | none =>
    rw [Client.get_bind_eval_of_find_none h]
    exact .stay (Store.allAt_of_find_none h)
  | some console =>
    rw [Client.get_bind_eval_of_find h]
    dsimp only
    split_ifs with hm
    · rw [mutate_eval_store]
      have hk := Store.find?_key h
      exact .update h hk rfl (handedOver_disableConsoleReconciliation rp _)
    · rw [Bool.not_eq_true] at hm
      exact .stay (Store.allAt_of_find h (by simp only [handedOver, hm, Bool.not_false]))

/-- The loop over the listed Pods: each Pod is still as listed when its turn comes, since no two
share a key, and is migrated or left migrated. -/
theorem migratePods_handOver (pods : List Resource) (hfind : ∀ p ∈ pods, s.find? .pod p.meta.key = some p)
    (hnd : (pods.map (·.meta.key)).Nodup) :
    s.HandOver ((migratePods rp pods errs).eval s).2 rp (pods.map fun p => (.pod, p.meta.key)) := by
  induction pods generalizing errs s with
  | nil => exact .nil s
  | cons pod pods ih =>
    rw [List.map_cons, List.nodup_cons] at hnd
    have hpod := hfind pod (List.mem_cons_self _ _)
    have hfind' (p : Resource) (hp : p ∈ pods) := hfind p (List.mem_cons_of_mem _ hp)
    unfold migratePods
    split_ifs with hm
    case pos =>
      -- already migrated: skipped
      exact (Store.HandOver.stay (Store.allAt_of_find hpod hm)).trans (migratePods_handsOver _)
        (ih hfind' hnd.2)
    case neg =>
      -- the Update, then the rest of the loop on the store it leaves
      simp only [bind_eq, eval_bind, mutate_eval_store]
      refine (Store.HandOver.update hpod (rfl : (migratedPod pod).meta.key = _) rfl (handedOver_migratedPod rp pod)).trans
        (migratePods_handsOver _) (ih (fun q hq => ?_) hnd.2)
      have hne : q.meta.key ≠ (migratedPod pod).meta.key := fun h => hnd.1 (h ▸ List.mem_map_of_mem _ hq)
      rw [Store.find?_perform_update_of_ne (.inr hne)]
      exact hfind' q hq

theorem migrateListedPods_handOver (hnd : ((s.resources .pod).map (·.meta.key)).Nodup) :
    s.HandOver ((migrateListedPods rp errs).eval s).2 rp
      ((s.listed .pod rp.meta.ns (podSelector rp)).map fun p => (.pod, p.meta.key)) := by
  unfold migrateListedPods
  simp only [bind_eq, Client.list_bind, eval_call]
  exact migratePods_handOver _ (fun p hp => Store.find?_of_nodup hnd (List.mem_filter.mp hp).1)
    (((List.filter_sublist _).map _).nodup hnd)

theorem adoptResource_handOver (kind : Kind) (hkind : ∀ m, handedOver rp kind m = hasLabelsAndAnnotations m rp)
    (name : String) (selector : Option StrMap) (getMsg updateMsg eventMsg : String) :
    s.HandOver ((adoptResource rp kind name selector getMsg updateMsg eventMsg errs).eval s).2 rp
      [(kind, ⟨rp.meta.ns, name⟩)] := by
  unfold adoptResource
  simp only [bind_eq]
  cases h : s.find? kind ⟨rp.meta.ns, name⟩ with
  | none =>
    rw [Client.get_bind_eval_of_find_none h]
    exact .stay (Store.allAt_of_find_none h)
  | some obj =>
    rw [Client.get_bind_eval_of_find h]
    dsimp only
    split_ifs with hm
    · exact .stay (Store.allAt_of_find h ((hkind _).trans (Bool.and_eq_true_iff.mp hm).1))
    · rw [mutate_eval_store]
      have hk := Store.find?_key h
      exact .update h hk rfl (handedOver_setHelmLabelsAndAnnotations rp hkind _)

theorem migrateStatefulSet_handOver (name : String) :
    s.HandOver ((migrateStatefulSet rp name errs).eval s).2 rp [(.statefulSet, ⟨rp.meta.ns, name⟩)] ∧
      ((migrateStatefulSet rp name errs).eval s).1.2 = (s.find? .statefulSet ⟨rp.meta.ns, name⟩).getD zeroResource := by
  unfold migrateStatefulSet
  simp only [bind_eq]
  cases h : s.find? .statefulSet ⟨rp.meta.ns, name⟩ with
  | none =>
    rw [Client.get_bind_eval_of_find_none h]
    exact ⟨.stay (Store.allAt_of_find_none h), rfl⟩
  | some sts =>
    rw [Client.get_bind_eval_of_find h]
    dsimp only
    split_ifs with hm
    · exact ⟨.stay (Store.allAt_of_find h (by simp [handedOver, hm])), rfl⟩
    · simp only [eval_bind, mutate_eval_store]
      exact ⟨.delete h (Store.find?_key h) (.inl rfl), rfl⟩

/-- The console Deployment is deleted unless the StatefulSet it is handed is Helm's. -/
def deploymentTargets (rp : Redpanda) (sts : Resource) (name : String) : List (Kind × ObjectKey) :=
  if hasLabelsAndAnnotations sts.meta rp then [] else [(.deployment, ⟨rp.meta.ns, name⟩)]

theorem migrateConsoleDeployment_handOver (sts : Resource) (name : String) :
    s.HandOver ((migrateConsoleDeployment rp sts name errs).eval s).2 rp (deploymentTargets rp sts name) := by
  unfold migrateConsoleDeployment deploymentTargets
  simp only [bind_eq]
  cases h : s.find? .deployment ⟨rp.meta.ns, name⟩ with
  | none =>
    rw [Client.get_bind_eval_of_find_none h]
    split_ifs
    · exact .nil s
    · exact .stay (Store.allAt_of_find_none h)
  | some deploy =>
    rw [Client.get_bind_eval_of_find h]
    dsimp only
    split_ifs
    · -- a Helm StatefulSet: the Deployment is only read
      exact .nil s
    · rw [mutate_eval_store]
      exact .delete h (Store.find?_key h) (.inr rfl)

/-- The console's objects, in the order of its steps: its ServiceAccount and Service, its
Deployment unless the StatefulSet the migration read is Helm's, and its Ingress. -/
def consoleTargets (rp : Redpanda) (sts : Resource) : List (Kind × ObjectKey) :=
  [(.serviceAccount, ⟨rp.meta.ns, consoleResourcesName rp⟩), (.service, ⟨rp.meta.ns, consoleResourcesName rp⟩)] ++
    deploymentTargets rp sts (consoleResourcesName rp) ++ [(.ingress, ⟨rp.meta.ns, consoleResourcesName rp⟩)]

theorem migrateConsoleResources_handOver (sts : Resource) :
    s.HandOver ((migrateConsoleResources rp sts errs).eval s).2 rp (consoleTargets rp sts) := by
  unfold migrateConsoleResources
  simp only [bind_eq, eval_bind]
  exact (((adoptResource_handOver .serviceAccount (fun _ => rfl) _ _ _ _ _).trans
    (adoptResource_handsOver .service (fun _ => rfl) _ _ _ _ _)
    (adoptResource_handOver .service (fun _ => rfl) _ _ _ _ _)).trans
    (migrateConsoleDeployment_handsOver _ _) (migrateConsoleDeployment_handOver _ _)).trans
    (adoptResource_handsOver .ingress (fun _ => rfl) _ _ _ _ _) (adoptResource_handOver .ingress (fun _ => rfl) _ _ _ _ _)

/-- The objects a migration from the store hands over: the Cluster and the Console it points at,
the Pods it lists, the chart's internal and external Services, ServiceAccount and
PodDisruptionBudget, the StatefulSet, and the console's objects when the console is enabled. -/
def migrationTargets (rp : Redpanda) (s : Store) : List (Kind × ObjectKey) :=
  let m := rp.spec.migration.getD {}
  let name := resourcesName rp
  [(.cluster, m.clusterRef.resolve rp), (.console, m.consoleRef.resolve rp)] ++
    (s.listed .pod rp.meta.ns (podSelector rp)).map (fun p => (.pod, p.meta.key)) ++
    [(.service, ⟨rp.meta.ns, name⟩), (.service, ⟨rp.meta.ns, s!"{name}-external"⟩),
      (.serviceAccount, ⟨rp.meta.ns, name⟩), (.podDisruptionBudget, ⟨rp.meta.ns, name⟩),
      (.statefulSet, ⟨rp.meta.ns, name⟩)] ++
    if rp.spec.clusterSpec.console.enabled.getD true then
      consoleTargets rp ((s.find? .statefulSet ⟨rp.meta.ns, name⟩).getD zeroResource)
    else []

end Steps

section Compose

variable {α : Type} {rp : Redpanda} {s₀ : Store} {l : List (Kind × ObjectKey)} {F : Store → Prop}

theorem Prog.Leads.handOver {p : Prog α} {kinds : List Kind} {l' : List (Kind × ObjectKey)}
    (hc : p.Calls (Call.HandsOver rp kinds)) (hF : ∀ s, F s → F (p.eval s).2)
    (hown : ∀ s, F s → s.HandOver (p.eval s).2 rp l') :
    p.Leads (fun s => s₀.HandOver s rp l ∧ F s) (fun _ s => s₀.HandOver s rp (l ++ l') ∧ F s) :=
  fun s hs => ⟨hs.1.trans hc (hown s hs.2), hF s hs.2⟩

theorem migrateListedPods_leads (hnd : ((s₀.resources .pod).map (·.meta.key)).Nodup) (errs : List GoError) :
    (migrateListedPods rp errs).Leads
      (fun s => s₀.HandOver s rp l ∧ s.resources .pod = s₀.resources .pod ∧
        s.resources .statefulSet = s₀.resources .statefulSet)
      (fun _ s => s₀.HandOver s rp (l ++ (s₀.listed .pod rp.meta.ns (podSelector rp)).map fun p => (.pod, p.meta.key)) ∧
        s.resources .statefulSet = s₀.resources .statefulSet) := by
  rintro s ⟨hl, hpod, hsts⟩
  have hlisted : s.listed .pod rp.meta.ns (podSelector rp) = s₀.listed .pod rp.meta.ns (podSelector rp) := by
    rw [Store.listed, hpod]
    rfl
  exact ⟨hlisted ▸ hl.trans migrateListedPods_handsOver (migrateListedPods_handOver (hpod ▸ hnd)),
    (migrateListedPods_handsOver.eval_resources (by decide)).trans hsts⟩

theorem adoptResource_leads (kind : Kind) (hkind : ∀ m, handedOver rp kind m = hasLabelsAndAnnotations m rp)
    (hsts : kind ≠ .statefulSet) (name : String) (selector : Option StrMap) (getMsg updateMsg eventMsg : String)
    (errs : List GoError) :
    (adoptResource rp kind name selector getMsg updateMsg eventMsg errs).Leads
      (fun s => s₀.HandOver s rp l ∧ s.resources .statefulSet = s₀.resources .statefulSet)
      (fun _ s => s₀.HandOver s rp (l ++ [(kind, ⟨rp.meta.ns, name⟩)]) ∧
        s.resources .statefulSet = s₀.resources .statefulSet) :=
  have hc : (adoptResource rp kind name selector getMsg updateMsg eventMsg errs).Calls (Call.HandsOver rp [kind]) :=
    adoptResource_handsOver kind hkind name selector getMsg updateMsg eventMsg
  Leads.handOver hc (fun _ h => (hc.eval_resources fun h => hsts (List.mem_singleton.mp h).symm).trans h)
    fun _ _ => adoptResource_handOver kind hkind _ _ _ _ _

theorem migrateStatefulSet_leads (name : String) (errs : List GoError) :
    (migrateStatefulSet rp name errs).Leads
      (fun s => s₀.HandOver s rp l ∧ s.resources .statefulSet = s₀.resources .statefulSet)
      (fun r s => s₀.HandOver s rp (l ++ [(.statefulSet, ⟨rp.meta.ns, name⟩)]) ∧
        r.2 = (s₀.find? .statefulSet ⟨rp.meta.ns, name⟩).getD zeroResource) := by
  rintro s ⟨hl, hsts⟩
  refine ⟨hl.trans (migrateStatefulSet_handsOver name) (migrateStatefulSet_handOver name).1, ?_⟩
  rw [(migrateStatefulSet_handOver name).2, Store.find?, hsts]
  rfl

end Compose

/-- A migration in which no call fails hands over every object it is pointed at and touches no
other: once it is over, each of those objects passes the test of the step that handled it, or is
gone, and every other object is as it was. -/
theorem tryMigration_hands_over (rp : Redpanda) (s : Store)
    (hnd : ((s.resources .pod).map (·.meta.key)).Nodup) :
    s.HandOver ((tryMigration rp).eval s).2 rp (migrationTargets rp s) := by
  -- the kinds a step does not write stay as they were
  have hframe {α : Type} {p : Prog α} {kinds : List Kind} (hp : p.Calls (Call.HandsOver rp kinds))
      (hk : Kind.pod ∉ kinds ∧ Kind.statefulSet ∉ kinds) (s' : Store)
      (h : s'.resources .pod = s.resources .pod ∧ s'.resources .statefulSet = s.resources .statefulSet) :
      (p.eval s').2.resources .pod = s.resources .pod ∧
        (p.eval s').2.resources .statefulSet = s.resources .statefulSet :=
    ⟨(hp.eval_resources hk.1).trans h.1, (hp.eval_resources hk.2).trans h.2⟩
  refine (?_ : (tryMigration rp).Leads (fun s' => s.HandOver s' rp [] ∧ s'.resources .pod = s.resources .pod ∧
    s'.resources .statefulSet = s.resources .statefulSet) fun _ s' => s.HandOver s' rp (migrationTargets rp s))
    s ⟨.nil s, rfl, rfl⟩
  unfold tryMigration
  refine Leads.bind (Leads.handOver (migrateCluster_handsOver _) (hframe (migrateCluster_handsOver _) (by decide))
    fun _ _ => migrateCluster_handOver _) fun _ => ?_
  refine Leads.bind (Leads.handOver (migrateConsole_handsOver _) (hframe (migrateConsole_handsOver _) (by decide))
    fun _ _ => migrateConsole_handOver _) fun _ => ?_
  refine Leads.bind (migrateListedPods_leads hnd _) fun _ => ?_
  refine Leads.bind (adoptResource_leads .service (fun _ => rfl) (by decide) _ _ _ _ _ _) fun _ => ?_
  refine Leads.bind (adoptResource_leads .service (fun _ => rfl) (by decide) _ _ _ _ _ _) fun _ => ?_
  refine Leads.bind (adoptResource_leads .serviceAccount (fun _ => rfl) (by decide) _ _ _ _ _ _) fun _ => ?_
  refine Leads.bind (adoptResource_leads .podDisruptionBudget (fun _ => rfl) (by decide) _ _ _ _ _ _) fun _ => ?_
  refine Leads.bind (migrateStatefulSet_leads _ _) fun ⟨errs, sts⟩ => ?_
  rintro s' ⟨hl, hsts : sts = _⟩
  dsimp only
  split_ifs with hc
  · -- with the console: its objects follow, judged by the StatefulSet read at the start
    simpa only [migrationTargets, hc, if_true, hsts, List.append_assoc, List.singleton_append, List.cons_append,
      List.nil_append] using hl.trans (migrateConsoleResources_handsOver sts) (migrateConsoleResources_handOver sts)
  · simpa only [migrationTargets, hc, if_false, Bool.false_eq_true, List.append_assoc, List.singleton_append,
      List.cons_append, List.nil_append, List.append_nil] using hl

/-- The legacy cluster of the demo, one Pod per key, is handed over. -/
theorem legacyStore_handed_over :
    ((legacyStore.resources .pod).map (·.meta.key)).Nodup ∧
      legacyStore.HandOver ((tryMigration migratingRedpanda).eval legacyStore).2 migratingRedpanda
        (migrationTargets migratingRedpanda legacyStore) :=
  ⟨by decide, tryMigration_hands_over _ _ (by decide)⟩

end RedpandaOperator
