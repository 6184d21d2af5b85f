import Mathlib.Data.List.Basic

/-!
What the operator's `main` starts. It makes the manager, then the flags `--operator-mode` and
`--namespace` select the running state, and each state sets its controllers up with the manager,
in the order of the source: the v1 controllers of the legacy `Cluster` resource, the v2 controllers
of the `Redpanda` resource with the Flux controllers its HelmReleases wait on (after the artifact
storage and the metrics recorder), or, without operator mode, only the controllers that
`--additional-controllers` names; last come the health and ready checks. A failing manager,
storage, metrics or event recorder, controller setup or check ends the process, except a failing
setup of a Flux controller, which `main` logs and passes over. So the Redpanda controller runs
exactly in operator mode with a namespace, always built with a positive `RequeueHelmDeps`, and it
can run while the HelmRelease controller does not. What the manager does once started is not
modelled. The constants keep the names of the values of `RedpandaController` and `OperatorState`.
-/

namespace RedpandaOperator

def allControllers : String := "all"
def nodeController : String := "nodeWatcher"
def decommissionController : String := "decommission"

def operatorV1Mode : String := "Clustered-v1"
def operatorV2Mode : String := "Namespaced-v2"
def clusterControllerMode : String := "Clustered-Controllers"
def namespaceControllerMode : String := "Namespaced-Controllers"

/-- The running state the flags select: a namespace (`--namespace`, `ns`) makes it namespaced,
operator mode an operator. -/
def operatorRunningState (operatorMode : Bool) (ns : String) : String :=
  let state := if ns ≠ "" then namespaceControllerMode else clusterControllerMode
  if operatorMode then (if ns ≠ "" then operatorV2Mode else operatorV1Mode) else state

/-- `runThisController`: whether `--additional-controllers` names the controller, or `all`. The
flag's default is one empty name, which names none. -/
def runThisController (rc : String) (controllers : List String) : Bool :=
  if controllers.length = 0 then false
  else controllers.any fun c => c == allControllers || c == rc

/-- The controllers `main` sets up. The Redpanda controller carries the `RequeueHelmDeps` it is
built with, in seconds; `clusterWebhook` is the webhook of the `Cluster` resource. -/
inductive Controller where
  | cluster | clusterConfigurationDrift | clustersMetrics | console | clusterWebhook
  | helmRelease | helmChart | helmRepository | redpanda (requeueHelmDeps : Nat) | topic
  | redpandaNodePVC | decommission
  deriving DecidableEq, Repr

/-- Why `main` exits before it starts the manager, with the name its log line gives. -/
inductive StartupError where
  /-- "Unable to start manager" -/
  | startManager
  /-- `MustInitStorage` fails to set up the artifact storage of the Flux controllers -/
  | storage
  /-- `MustMakeRecorder` fails to make the Flux controllers' metrics recorder -/
  | metricsRecorder
  /-- "unable to create event recorder for: " and the recorder's name -/
  | recorder (name : String)
  /-- "unable to create controller" (or webhook), with the controller's name -/
  | setup (name : String)
  /-- "unable to create cluster controllers, not supported" -/
  | notSupported
  /-- "unable unknown state, not supported" -/
  | unknownState
  /-- a health or ready check could not be added, with the line logged -/
  | check (message : String)
  deriving DecidableEq, Repr

/-- A check the manager serves: `AddHealthzCheck` or `AddReadyzCheck`, by name. -/
inductive Check where
  | healthz (name : String)
  | readyz (name : String)
  deriving DecidableEq, Repr

/-- One setup of `main`: the controller, the name its failure is logged under, the event recorder
`events.NewRecorder` makes for it (if any), and whether a failed setup ends the process. -/
structure Setup where
  controller : Controller
  name : String
  recorder : Option String
  fatal : Bool

/-- Which calls of `main` fail: the event recorder made for a controller and its setup with the
manager; the manager itself, the artifact storage and the metrics recorder; and each check. -/
structure StartupFaults where
  recorder : Controller → Bool
  setup : Controller → Bool
  newManager : Bool
  storage : Bool
  metricsRecorder : Bool
  check : Check → Bool

def StartupFaults.none : StartupFaults :=
  ⟨fun _ => false, fun _ => false, false, false, false, fun _ => false⟩

/-- One setup: the recorder first, then `SetupWithManager`; the controller runs if it succeeds. -/
def Setup.run (f : StartupFaults) (st : Setup) : Except StartupError (List Controller) :=
  match st.recorder, f.recorder st.controller with
  | some r, true => .error (.recorder r)
  | _, _ =>
    if f.setup st.controller then (if st.fatal then .error (.setup st.name) else .ok [])
    else .ok [st.controller]

/-- The setups of a running state, one after the other: the first that fails fatally ends it. -/
def setupControllers (f : StartupFaults) : List Setup → Except StartupError (List Controller)
  | [] => .ok []
  | st :: sts => do
    let cs ← st.run f
    let cs' ← setupControllers f sts
    return cs ++ cs'

/-- The v1 controllers, and the `Cluster` webhook when webhooks are enabled. -/
def v1Setups (webhookEnabled : Bool) : List Setup :=
  [⟨.cluster, "Cluster", none, true⟩, ⟨.clusterConfigurationDrift, "ClusterConfigurationDrift", none, true⟩,
    ⟨.clustersMetrics, "ClustersMetrics", none, true⟩, ⟨.console, "Console", none, true⟩] ++
  if webhookEnabled then [⟨.clusterWebhook, "RedpandaCluster", none, true⟩] else []

/-- The controllers `--additional-controllers` asks for. -/
def additionalSetups (additionalControllers : List String) : List Setup :=
  (if runThisController nodeController additionalControllers then
    [⟨.redpandaNodePVC, "RedpandaNodePVCReconciler", none, true⟩] else []) ++
  if runThisController decommissionController additionalControllers then
    [⟨.decommission, "DecommissionReconciler", none, true⟩] else []

/-- Flux's HelmRelease, HelmChart and HelmRepository controllers, whose failed setups `main` only
logs. -/
def fluxSetups : List Setup :=
  [⟨.helmRelease, "HelmRelease", some "HelmReleaseReconciler", false⟩,
    ⟨.helmChart, "HelmChart", some "HelmChartReconciler", false⟩,
    ⟨.helmRepository, "HelmRepository", some "HelmRepositoryReconciler", false⟩]

/-- The v2 controllers: Flux's, the Redpanda controller with a `RequeueHelmDeps` of 10 seconds,
the Topic controller, and the additional ones. -/
def v2Setups (additionalControllers : List String) : List Setup :=
  fluxSetups ++ [⟨.redpanda 10, "Redpanda", some "RedpandaReconciler", true⟩,
    ⟨.topic, "Topic", some "TopicReconciler", true⟩] ++ additionalSetups additionalControllers

/-- `main`'s switch on the running state: the controllers it sets up, or why the process exits.
In v2 the artifact storage and the metrics recorder come first. -/
def setupRunningState (operatorMode : Bool) (ns : String) (webhookEnabled : Bool)
    (additionalControllers : List String) (f : StartupFaults) : Except StartupError (List Controller) :=
  let state := operatorRunningState operatorMode ns
  if state = operatorV1Mode then setupControllers f (v1Setups webhookEnabled)
  else if state = operatorV2Mode then
    if f.storage then .error .storage
    else if f.metricsRecorder then .error .metricsRecorder
    else setupControllers f (v2Setups additionalControllers)
  else if state = clusterControllerMode then .error .notSupported
  else if state = namespaceControllerMode then setupControllers f (additionalSetups additionalControllers)
  else .error .unknownState

/-- The checks `main` adds after the switch, each with the line its failure logs: the webhook's
only when webhooks are enabled. -/
def checks (webhookEnabled : Bool) : List (Check × String) :=
  [(.healthz "health", "Unable to set up health check"), (.readyz "check", "Unable to set up ready check")] ++
  if webhookEnabled then
    [(.readyz "webhook", "unable to create ready check"), (.healthz "webhook", "unable to create health check")]
  else []

/-- The checks one after the other: the first that cannot be added ends the process. -/
def addChecks (f : StartupFaults) : List (Check × String) → Except StartupError Unit
  | [] => .ok ()
  | (c, message) :: cs => if f.check c then .error (.check message) else addChecks f cs

/-- `main` up to `mgr.Start`: the manager, the switch, then the checks; the controllers the
manager is started with, or why the process exits first. -/
def main (operatorMode : Bool) (ns : String) (webhookEnabled : Bool) (additionalControllers : List String)
    (f : StartupFaults) : Except StartupError (List Controller) :=
  if f.newManager then .error .startManager
  else
    match setupRunningState operatorMode ns webhookEnabled additionalControllers f with
    | .error e => .error e
    | .ok cs =>
      match addChecks f (checks webhookEnabled) with
      | .error e => .error e
      | .ok () => .ok cs

/-- A setup ends the process: its recorder fails, or it fails and is fatal. -/
def Setup.Stops (f : StartupFaults) (st : Setup) : Bool :=
  (st.recorder.isSome && f.recorder st.controller) || (f.setup st.controller && st.fatal)

/-- The controller of a setup runs unless its setup fails. -/
def Setup.Runs (f : StartupFaults) (st : Setup) : Bool := !f.setup st.controller

section Loop

variable {f : StartupFaults} {st : Setup} {sts : List Setup}

theorem Setup.run_of_stops (h : st.Stops f = true) : ∃ e, st.run f = .error e := by
  unfold Setup.run
  split
  · exact ⟨_, rfl⟩
  · rename_i hr
    simp only [Setup.Stops, Bool.or_eq_true, Bool.and_eq_true, Option.isSome_iff_exists] at h
    rcases h with ⟨⟨r, hrs⟩, hrec⟩ | ⟨hs, hfatal⟩
    · exact (hr r hrs hrec).elim
    · exact ⟨.setup st.name, by simp [hs, hfatal]⟩

theorem Setup.run_of_not_stops (h : st.Stops f = false) :
    st.run f = .ok (if st.Runs f then [st.controller] else []) := by
  simp only [Setup.Stops, Bool.or_eq_false_iff, Bool.and_eq_false_iff] at h
  unfold Setup.run
  split
  · rename_i hrs hrec
    simp [hrs, hrec] at h
  · cases hs : f.setup st.controller <;> simp_all [Setup.Runs]

theorem setupControllers_of_not_stops (h : ∀ st ∈ sts, st.Stops f = false) :
    setupControllers f sts = .ok ((sts.filter (·.Runs f)).map (·.controller)) := by
  induction sts with
  | nil => rfl
  | cons st sts ih =>
    rw [setupControllers, Setup.run_of_not_stops (h st (List.mem_cons_self _ _)),
      ih fun s hs => h s (List.mem_cons_of_mem _ hs)]
    change Except.ok ((if st.Runs f then [st.controller] else []) ++ _) = _
    cases hr : st.Runs f <;> simp [List.filter_cons, hr]

theorem setupControllers_of_stops (hst : st ∈ sts) (h : st.Stops f = true) :
    ∃ e, setupControllers f sts = .error e := by
  induction sts with
  | nil => cases hst
  | cons s sts ih =>
    cases hs : s.Stops f
    case true =>
      obtain ⟨e, he⟩ := Setup.run_of_stops hs
      exact ⟨e, by rw [setupControllers, he]; rfl⟩
    case false =>
      have hmem : st ∈ sts := (List.mem_cons.mp hst).resolve_left fun heq => by simp [heq, hs] at h
      obtain ⟨e, he⟩ := ih hmem
      exact ⟨e, by rw [setupControllers, Setup.run_of_not_stops hs, he]; rfl⟩

/-- The loop of setups goes through exactly when no setup stops the process, and then runs the
controllers whose setup succeeded. -/
theorem setupControllers_eq_ok {cs : List Controller} :
    setupControllers f sts = .ok cs ↔
      (∀ st ∈ sts, st.Stops f = false) ∧ cs = (sts.filter (·.Runs f)).map (·.controller) := by
  constructor
  · intro h
    have hall : ∀ st ∈ sts, st.Stops f = false := fun st hst => by
      cases hs : st.Stops f
      · rfl
      · obtain ⟨e, he⟩ := setupControllers_of_stops hst hs
        rw [he] at h
        cases h
    rw [setupControllers_of_not_stops hall] at h
    exact ⟨hall, by injection h with h; exact h.symm⟩
  · rintro ⟨hall, rfl⟩
    exact setupControllers_of_not_stops hall

theorem mem_of_setupControllers {cs : List Controller} (h : setupControllers f sts = .ok cs) {c : Controller} :
    c ∈ cs ↔ ∃ st ∈ sts, st.Runs f = true ∧ st.controller = c := by
  obtain ⟨-, rfl⟩ := setupControllers_eq_ok.mp h
  simp only [List.mem_map, List.mem_filter, and_assoc]

theorem Setup.runs_of_fatal (h : st.Stops f = false) (hfatal : st.fatal = true) : st.Runs f = true := by
  simp_all [Setup.Stops, Setup.Runs]

end Loop

section Main

variable {operatorMode : Bool} {ns : String} {webhookEnabled : Bool} {additionalControllers : List String}
  {f : StartupFaults}

theorem setupRunningState_eq : setupRunningState operatorMode ns webhookEnabled additionalControllers f =
    if operatorMode then
      if ns ≠ "" then
        if f.storage then .error .storage
        else if f.metricsRecorder then .error .metricsRecorder
        else setupControllers f (v2Setups additionalControllers)
      else setupControllers f (v1Setups webhookEnabled)
    else if ns ≠ "" then setupControllers f (additionalSetups additionalControllers)
    else .error .notSupported := by
  unfold setupRunningState operatorRunningState
  cases operatorMode <;> by_cases hns : ns = "" <;>
    simp [hns, operatorV1Mode, operatorV2Mode, clusterControllerMode, namespaceControllerMode]

theorem main_eq_ok {cs : List Controller} (h : main operatorMode ns webhookEnabled additionalControllers f = .ok cs) :
    f.newManager = false ∧ setupRunningState operatorMode ns webhookEnabled additionalControllers f = .ok cs ∧
      addChecks f (checks webhookEnabled) = .ok () := by
  unfold main at h
  split_ifs at h with hm
  split at h
  · cases h
  · rename_i cs' hs
    split at h
    · cases h
    · cases h
      exact ⟨by simpa using hm, hs, ‹_›⟩

theorem redpanda_mem_setups (webhookEnabled : Bool) (additionalControllers : List String) (d : Nat) :
    Controller.redpanda d ∉ (v1Setups webhookEnabled).map (·.controller) ∧
      Controller.redpanda d ∉ (additionalSetups additionalControllers).map (·.controller) ∧
      (Controller.redpanda d ∈ (v2Setups additionalControllers).map (·.controller) → d = 10) := by
  have hadd : Controller.redpanda d ∉ (additionalSetups additionalControllers).map (·.controller) := by
    unfold additionalSetups
    split_ifs <;> simp
  exact ⟨by cases webhookEnabled <;> simp [v1Setups], hadd, fun hd => by simpa [v2Setups, fluxSetups, hadd] using hd⟩

/-- The Redpanda controller runs exactly in operator mode with a namespace, and with a
`RequeueHelmDeps` of 10 seconds. -/
theorem main_runs_redpanda {cs : List Controller}
    (h : main operatorMode ns webhookEnabled additionalControllers f = .ok cs) (d : Nat) :
    Controller.redpanda d ∈ cs ↔ operatorMode = true ∧ ns ≠ "" ∧ d = 10 := by
  have hsub {sts : List Setup} (h : setupControllers f sts = .ok cs) (hd : Controller.redpanda d ∈ cs) :
      Controller.redpanda d ∈ sts.map (·.controller) := by
    obtain ⟨st, hst, -, hc⟩ := (mem_of_setupControllers h).mp hd
    exact hc ▸ List.mem_map_of_mem _ hst
  have htables := redpanda_mem_setups webhookEnabled additionalControllers d
  obtain ⟨-, h, -⟩ := main_eq_ok h
  rw [setupRunningState_eq] at h
  split_ifs at h with hm hns hst hmr hns
  · -- operator mode with a namespace: the v2 controllers, the Redpanda controller's setup fatal
    have hst : (⟨.redpanda 10, "Redpanda", some "RedpandaReconciler", true⟩ : Setup) ∈
        v2Setups additionalControllers := by simp [v2Setups]
    simp only [hm, hns, ne_eq, not_false_eq_true, true_and]
    refine ⟨fun hd => htables.2.2 (hsub h hd), ?_⟩
    rintro rfl
    exact (mem_of_setupControllers h).mpr
      ⟨_, hst, Setup.runs_of_fatal ((setupControllers_eq_ok.mp h).1 _ hst) rfl, rfl⟩
  · -- operator mode without a namespace: the v1 controllers
    simp only [hns, ne_eq, not_true_eq_false, false_and, and_false, iff_false]
    exact fun hd => htables.1 (hsub h hd)
  · -- a namespace without operator mode: the additional controllers
    simp only [hm, Bool.false_eq_true, false_and, iff_false]
    exact fun hd => htables.2.1 (hsub h hd)

/-- With the default flags, operator mode and no namespace, `main` runs the v1 controllers and not
the Redpanda controller. -/
theorem defaultFlags_no_redpanda :
    main true "" false [""] .none = .ok [.cluster, .clusterConfigurationDrift, .clustersMetrics, .console] ∧
      (Controller.redpanda 10 ∈ [Controller.cluster, .clusterConfigurationDrift, .clustersMetrics, .console] ↔
        true = true ∧ "" ≠ "" ∧ 10 = 10) :=
  have h : main true "" false [""] .none = .ok [.cluster, .clusterConfigurationDrift, .clustersMetrics, .console] := rfl
  ⟨h, main_runs_redpanda h 10⟩

/-- In operator mode with a namespace, a start-up that goes through runs the Redpanda and Topic
controllers, and each Flux controller exactly when its own setup succeeded: a failed Flux setup is
logged and passed over, so the Redpanda controller may run without the HelmRelease controller its
releases wait on. -/
theorem main_v2_controllers {cs : List Controller} (hns : ns ≠ "")
    (h : main true ns webhookEnabled additionalControllers f = .ok cs) :
    Controller.redpanda 10 ∈ cs ∧ Controller.topic ∈ cs ∧
      ∀ st ∈ fluxSetups, st.controller ∈ cs ↔ f.setup st.controller = false := by
  obtain ⟨-, h, -⟩ := main_eq_ok h
  rw [setupRunningState_eq, if_pos rfl, if_pos hns] at h
  split_ifs at h
  have hall := (setupControllers_eq_ok.mp h).1
  have hfatal (st : Setup) (hst : st ∈ v2Setups additionalControllers) (hf : st.fatal = true) : st.controller ∈ cs :=
    (mem_of_setupControllers h).mpr ⟨st, hst, Setup.runs_of_fatal (hall st hst) hf, rfl⟩
  refine ⟨hfatal ⟨.redpanda 10, "Redpanda", some "RedpandaReconciler", true⟩ (by simp [v2Setups]) rfl,
    hfatal ⟨.topic, "Topic", some "TopicReconciler", true⟩ (by simp [v2Setups]) rfl, fun st hst => ?_⟩
  rw [mem_of_setupControllers h]
  constructor
  · rintro ⟨st', -, hr, hc⟩
    simpa [Setup.Runs, hc] using hr
  · intro hs
    exact ⟨st, List.mem_append_left _ (List.mem_append_left _ hst), by simpa [Setup.Runs] using hs, rfl⟩

/-- The HelmRelease controller fails its setup, and the Redpanda controller runs without it. -/
theorem helmReleaseSetupFailed_redpanda_runs :
    "redpanda" ≠ "" ∧ main true "redpanda" false [""] { StartupFaults.none with setup := (· == .helmRelease) } =
        .ok [.helmChart, .helmRepository, .redpanda 10, .topic] ∧
      (Controller.redpanda 10 ∈ [Controller.helmChart, .helmRepository, .redpanda 10, .topic] ∧
        Controller.topic ∈ [Controller.helmChart, .helmRepository, .redpanda 10, .topic] ∧
        ∀ st ∈ fluxSetups, st.controller ∈ [Controller.helmChart, .helmRepository, .redpanda 10, .topic] ↔
          (st.controller == .helmRelease) = false) :=
  have h : main true "redpanda" false [""] { StartupFaults.none with setup := (· == .helmRelease) } =
      .ok [.helmChart, .helmRepository, .redpanda 10, .topic] := rfl
  ⟨by decide, h, main_v2_controllers (by decide) h⟩

end Main

end RedpandaOperator
