import RedpandaOperator.Readiness

/-!
The dependents the controller derives from a Redpanda: the HelmRepository and the HelmRelease
templates, and the drift test that decides whether a live HelmRelease is overwritten with its
template. Timeout and upgrade settings are defaults that the fields a user sets override one by
one. The values fingerprint the source logs is left out: it never enters a decision.
-/

namespace RedpandaOperator

/-- The upgrade block of `createHelmReleaseFromTemplate`: rollback with one retry, each field the
user set overriding its default. -/
def upgradeFromTemplate (helmUpgrade : Option HelmUpgrade) : Upgrade :=
  let upgrade : Upgrade := { remediation := some ⟨1, some "rollback"⟩ }
  match helmUpgrade with
  | none => upgrade
  | some u =>
    { force := u.force.getD upgrade.force
      cleanupOnFail := u.cleanupOnFail.getD upgrade.cleanupOnFail
      preserveValues := u.preserveValues.getD upgrade.preserveValues
      remediation := match u.remediation with
        | some r => some r
        | none => upgrade.remediation }

/-- `createHelmReleaseFromTemplate`; intervals and timeouts in seconds. -/
def createHelmReleaseFromTemplate (api : Api) (rp : Redpanda) : Except GoError HelmRelease :=
  match api.valuesJSON rp with
  | .error err => .error (.wrapped "could not parse clusterSpec to json" (.text err))
  | .ok values =>
    .ok { meta := { name := rp.getHelmReleaseName, ns := rp.meta.ns }
          spec := {
            chart := ⟨{ chart := "redpanda"
                        version := rp.spec.chartRef.chartVersion
                        interval := some 60
                        sourceRef := ⟨"HelmRepository", rp.getHelmRepositoryName, rp.meta.ns⟩ }⟩
            values := values
            interval := 30
            timeout := some (rp.spec.chartRef.timeout.getD (15 * 60))
            upgrade := some (upgradeFromTemplate rp.spec.chartRef.upgrade) } }

/-- `createHelmRepositoryFromTemplate`. -/
def createHelmRepositoryFromTemplate (api : Api) (rp : Redpanda) : HelmRepository :=
  { meta := { name := rp.getHelmRepositoryName, ns := rp.meta.ns }
    spec := { interval := 30, url := api.redpandaChartRepository } }

/-- `helmChartRequiresUpdate(template, chart)`: the chart names differ, or `template` pins a
version `chart` does not have. -/
def helmChartRequiresUpdate (template chart : HelmChartTemplate) : Bool :=
  template.spec.chart != chart.spec.chart ||
    (template.spec.version != "" && template.spec.version != chart.spec.version)

/-- `helmReleaseRequiresUpdate(hr, hrTemplate)`: the parsed values differ, the chart test fires
with the live chart in the place of its `template`, or the intervals differ. -/
def helmReleaseRequiresUpdate (api : Api) (hr hrTemplate : HelmRelease) : Bool :=
  api.getValues hr.spec.values != api.getValues hrTemplate.spec.values ||
    helmChartRequiresUpdate hr.spec.chart hrTemplate.spec.chart ||
    hr.spec.interval != hrTemplate.spec.interval

theorem helmReleaseRequiresUpdate_of_spec (api : Api) {hr hrTemplate : HelmRelease}
    (h : hr.spec = hrTemplate.spec) : helmReleaseRequiresUpdate api hr hrTemplate = false := by
  simp [helmReleaseRequiresUpdate, helmChartRequiresUpdate, h]

theorem createHelmReleaseFromTemplate_spec (api : Api) (rp : Redpanda) (t : HelmRelease)
    (h : createHelmReleaseFromTemplate api rp = .ok t) :
    api.valuesJSON rp = .ok t.spec.values ∧ t.meta.name = rp.getHelmReleaseName ∧
      t.meta.ns = rp.meta.ns ∧ t.spec.chart.spec.chart = "redpanda" ∧
      t.spec.chart.spec.version = rp.spec.chartRef.chartVersion ∧ t.spec.interval = 30 := by
  unfold createHelmReleaseFromTemplate at h
  split at h <;> cases h
  simp_all

theorem createHelmReleaseFromTemplate_key (api : Api) (rp : Redpanda) (t : HelmRelease)
    (h : createHelmReleaseFromTemplate api rp = .ok t) : t.meta.key = rp.meta.key := by
  unfold createHelmReleaseFromTemplate at h
  split at h <;> cases h
  rfl

theorem createHelmReleaseFromTemplate_not_ready (api : Api) (rp : Redpanda) (t : HelmRelease)
    (h : createHelmReleaseFromTemplate api rp = .ok t) :
    Observation.ready ⟨t.meta.generation, t.status⟩ = false := by
  unfold createHelmReleaseFromTemplate at h
  split at h <;> cases h
  rfl

end RedpandaOperator
