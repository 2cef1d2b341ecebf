import ChaosScenarios.Scenario.Config
import Mathlib.Data.List.Nodup

/-!
# Consistency of the records `build_scenario` returns

`build_scenario` builds `spec.targets` and `spec.faults` by two separate comprehensions
over the tier's selectors. For any tables, and for keys present in every table it reads,
the two agree index by index with the selectors, every fault carries the fault type's
`type` and the severity's parameters, and the criteria are `INVARIANT_CRITERIA` with the
scenario's duration as window (`buildScenario_consistent`). Distinct aliases give distinct
phase ids, since a phase id is the dashed fault type, a dash, and the alias.
-/

namespace ChaosScenarios.Scenario
set_option autoImplicit false

/-- The internal consistency of a record built from the fault definition `fd`, the tier
`tier`, the timing `timing`, the parameter record `params` and the criteria `criteria`:
one target and one fault per selector, in selector order. -/
structure ScenarioRecord.Consistent (r : ScenarioRecord) (criteria : List Criterion)
    (fd : FaultDefinition) (tier : TargetTier) (timing : Timing) (params : Params) : Prop where
  targets_alias : r.spec.targets.map Target.alias = tier.selectors.map Selector.alias
  targets_pattern : r.spec.targets.map (·.selector.pattern) = tier.selectors.map Selector.pattern
  faults_target : r.spec.faults.map Fault.target = tier.selectors.map Selector.alias
  faults_type : r.spec.faults.map Fault.type = tier.selectors.map fun _ => fd.type
  faults_params : r.spec.faults.map Fault.params = tier.selectors.map fun _ => params
  criteria : r.spec.successCriteria.map WindowedCriterion.toCriterion = criteria
  window : ∀ c ∈ r.spec.successCriteria, c.window = r.spec.duration
  duration : r.spec.duration = timing.duration
  declared : ∀ f ∈ r.spec.faults, ∃ tg ∈ r.spec.targets, tg.alias = f.target
  phases_nodup : (tier.selectors.map Selector.alias).Nodup → (r.spec.faults.map Fault.phase).Nodup

theorem lookup_eq_pure {β : Type} {table : List (String × β)} {key : String} {v : β}
    (h : table.lookup key = some v) : lookup table key = pure v := by
  simp only [lookup, h]
  rfl

theorem mapM_eq_ok {β γ ε : Type} {f : β → Except ε γ} {g : β → γ} :
    ∀ (l : List β), (∀ x ∈ l, f x = .ok (g x)) → l.mapM f = .ok (l.map g)
  | [], _ => rfl
  | x :: l, h => by
    rw [List.mapM_cons, h x (List.mem_cons_self x l),
      mapM_eq_ok l fun y hy => h y (List.mem_cons_of_mem x hy)]
    rfl

theorem append_left_injective (p : String) : Function.Injective (p ++ ·) := fun a b h =>
  String.ext_iff.2 <| List.append_cancel_left <| by
    simpa only [String.ext_iff, String.data_append] using h

/-- Every error `e` can end with is a `KeyError` for one of `keys`. -/
def RaisesOnly (keys : List String) {β : Type} (e : Except String β) : Prop :=
  ∀ k, e = .error k → k ∈ keys

section Raises
variable {keys : List String} {β γ : Type}

theorem RaisesOnly.pure (x : β) : RaisesOnly keys (pure x : Except String β) :=
  fun _ h => nomatch h

theorem RaisesOnly.bind {e : Except String β} {f : β → Except String γ} (he : RaisesOnly keys e)
    (hf : ∀ x, RaisesOnly keys (f x)) : RaisesOnly keys (e >>= f) := by
  intro k h
  cases e with
  | error k' =>
    obtain rfl : k' = k := Except.error.inj h
    exact he k' rfl
  | ok x => exact hf x k h

theorem raisesOnly_lookup {table : List (String × β)} {key : String} (h : key ∈ keys) :
    RaisesOnly keys (lookup table key) := by
  intro k hk
  unfold lookup at hk
  split at hk <;> cases hk
  exact h

theorem RaisesOnly.mapM {f : β → Except String γ} (hf : ∀ x, RaisesOnly keys (f x)) :
    ∀ l : List β, RaisesOnly keys (l.mapM f)
  | [] => RaisesOnly.pure []
  | x :: l => by
    rw [List.mapM_cons]
    exact (hf x).bind fun _ => (RaisesOnly.mapM hf l).bind fun _ => RaisesOnly.pure _

end Raises

/-- `build_scenario` fails only with a `KeyError` naming its fault type, its target tier or
its severity: each lookup it makes is keyed by one of the three. The severity is not one of
the keys `type`, `category` and `label` that share the fault definition's dict with the
parameter records, where `fault_def[severity]` would find no parameter record. -/
theorem buildScenario_raises_key (t : Tables) (ft tt sv : String)
    (_hsv : sv ≠ "type" ∧ sv ≠ "category" ∧ sv ≠ "label") :
    RaisesOnly [ft, tt, sv] (buildScenario t ft tt sv) := by
  simp only [buildScenario, scenarioDescription, faultEntry]
  repeat' first
    | exact RaisesOnly.pure _
    | exact raisesOnly_lookup (by simp)
    | apply RaisesOnly.bind
    | apply RaisesOnly.mapM
    | intro

/-- The shipped tables at a severity that `TIMING` does not have. -/
theorem buildScenario_raises_key_extreme :
    ("extreme" ≠ "type" ∧ "extreme" ≠ "category" ∧ "extreme" ≠ "label") ∧
    RaisesOnly ["packet_loss", "rpc", "extreme"]
      (buildScenario Config.tables "packet_loss" "rpc" "extreme") :=
  ⟨by decide, buildScenario_raises_key _ _ _ _ (by decide)⟩

section Build
variable {t : Tables} {ft tt sv : String} {fd : FaultDefinition} {tier : TargetTier}
  {timing : Timing} {params : Params} {labels : List (String × String)} {label : String}

/-- With the severity label present, every selector's fault entry is built. -/
theorem faultEntry_eq (fd : FaultDefinition) (params : Params)
    (hlabels : t.severityLabels.lookup ft = some labels)
    (hlabel : labels.lookup sv = some label) (s : Selector) :
    faultEntry t ft sv fd params s = .ok
      { phase := dashed ft ++ "-" ++ s.alias, description := label ++ " applied to " ++ s.alias,
        target := s.alias, type := fd.type, params := params } := by
  simp only [faultEntry, lookup_eq_pure hlabels, lookup_eq_pure hlabel, pure_bind]
  rfl

/-- What `build_scenario` returns when every key is present: the targets and faults come
from the tier's selectors, the criteria from `INVARIANT_CRITERIA`, the duration from
`TIMING`. -/
theorem buildScenario_spec {slugs : List (String × String)} {slug : String}
    (hfd : t.faultDefinitions.lookup ft = some fd) (htier : t.targetTiers.lookup tt = some tier)
    (htiming : t.timing.lookup sv = some timing) (hparams : fd.severities.lookup sv = some params)
    (hslugs : t.severitySlugs.lookup ft = some slugs) (hslug : slugs.lookup sv = some slug)
    (hlabels : t.severityLabels.lookup ft = some labels) (hlabel : labels.lookup sv = some label) :
    ∃ r, buildScenario t ft tt sv = .ok r ∧ r.spec.targets = tier.selectors.map targetEntry ∧
      r.spec.faults = tier.selectors.map (fun s =>
        { phase := dashed ft ++ "-" ++ s.alias, description := label ++ " applied to " ++ s.alias,
          target := s.alias, type := fd.type, params := params }) ∧
      r.spec.successCriteria =
        t.invariantCriteria.map (fun c => { c with window := timing.duration }) ∧
      r.spec.duration = timing.duration := by
  have hfaults := mapM_eq_ok tier.selectors fun s _ => faultEntry_eq fd params hlabels hlabel s
  simp only [buildScenario, scenarioDescription, lookup_eq_pure hfd, lookup_eq_pure htier,
    lookup_eq_pure htiming, lookup_eq_pure hparams, lookup_eq_pure hslugs, lookup_eq_pure hslug,
    lookup_eq_pure hlabels, lookup_eq_pure hlabel, pure_bind, hfaults]
  exact ⟨_, rfl, rfl, rfl, rfl, rfl⟩

/-- Distinct aliases give distinct phase ids: each is the dashed fault type, a dash and the
alias. -/
theorem nodup_phases (ft label : String) (fd : FaultDefinition) (params : Params)
    {selectors : List Selector} (h : (selectors.map Selector.alias).Nodup) :
    ((selectors.map fun s =>
        ({ phase := dashed ft ++ "-" ++ s.alias, description := label ++ " applied to " ++ s.alias,
           target := s.alias, type := fd.type, params := params } : Fault)).map
        Fault.phase).Nodup := by
  simpa only [List.map_map, Function.comp_def] using
    List.Nodup.map (append_left_injective (dashed ft ++ "-")) h

/-- `build_scenario` is internally consistent. For keys present in every table it
reads, it returns a record with one target and one fault per selector, in selector
order, agreeing index by index on alias and pattern, each fault with the fault type's
`type` and the severity's parameters, and `INVARIANT_CRITERIA` windowed at the scenario's
duration, `TIMING[severity].duration`; with distinct aliases, the phase ids are distinct. -/
theorem buildScenario_consistent {slugs : List (String × String)} {slug : String}
    (hfd : t.faultDefinitions.lookup ft = some fd) (htier : t.targetTiers.lookup tt = some tier)
    (htiming : t.timing.lookup sv = some timing) (hparams : fd.severities.lookup sv = some params)
    (hslugs : t.severitySlugs.lookup ft = some slugs) (hslug : slugs.lookup sv = some slug)
    (hlabels : t.severityLabels.lookup ft = some labels) (hlabel : labels.lookup sv = some label) :
    ∃ r, buildScenario t ft tt sv = .ok r ∧
      r.Consistent t.invariantCriteria fd tier timing params := by
  obtain ⟨r, hr, htargets, hfaults, hcriteria, hduration⟩ :=
    buildScenario_spec hfd htier htiming hparams hslugs hslug hlabels hlabel
  refine ⟨r, hr,
    { targets_alias := ?targets_alias, targets_pattern := ?targets_pattern,
      faults_target := ?faults_target, faults_type := ?faults_type, faults_params := ?faults_params,
      criteria := ?criteria, window := ?window, duration := hduration, declared := ?declared,
      phases_nodup := ?phases_nodup }⟩
  case targets_alias | targets_pattern | faults_target | faults_type | faults_params =>
    simp only [htargets, hfaults, List.map_map, Function.comp_def, targetEntry]
  case criteria => simp only [hcriteria, List.map_map, Function.comp_def, List.map_id']
  case window => simp [hcriteria, hduration]
  case declared =>
    simp only [htargets, hfaults, List.mem_map]
    rintro _ ⟨s, hs, rfl⟩
    exact ⟨_, ⟨s, hs, rfl⟩, rfl⟩
  case phases_nodup => exact fun h => hfaults ▸ nodup_phases ft label fd params h

/-- `build_scenario("container_restart", "validator1_both", "moderate")` on the shipped
tables: two selectors, every lookup present. -/
theorem buildScenario_consistent_restart_both :
    let fd : FaultDefinition := ⟨"container_restart", "applications",
      "Container restart — simulates process crash and recovery",
      [("mild", [("grace_period", .int 30)]), ("moderate", [("grace_period", .int 5)]),
       ("severe", [("grace_period", .int 0)])]⟩
    let tier : TargetTier :=
      ⟨"validator 1 — Heimdall + Bor (both layers of one validator)", [Config.heimdall1, Config.bor1]⟩
    let slugs := [("mild", "graceful"), ("moderate", "quick"), ("severe", "immediate")]
    let labels := [("mild", "graceful (30 s grace)"), ("moderate", "fast (5 s grace)"),
      ("severe", "immediate (0 s grace)")]
    (Config.tables.faultDefinitions.lookup "container_restart" = some fd ∧
      Config.tables.targetTiers.lookup "validator1_both" = some tier ∧
      Config.tables.timing.lookup "moderate" = some ⟨"5m", "60s", "60s"⟩ ∧
      fd.severities.lookup "moderate" = some [("grace_period", .int 5)] ∧
      Config.tables.severitySlugs.lookup "container_restart" = some slugs ∧
      slugs.lookup "moderate" = some "quick" ∧
      Config.tables.severityLabels.lookup "container_restart" = some labels ∧
      labels.lookup "moderate" = some "fast (5 s grace)") ∧
    ∃ r, buildScenario Config.tables "container_restart" "validator1_both" "moderate" = .ok r ∧
      r.Consistent Config.tables.invariantCriteria fd tier ⟨"5m", "60s", "60s"⟩
        [("grace_period", .int 5)] :=
  ⟨⟨rfl, rfl, rfl, rfl, rfl, rfl, rfl, rfl⟩,
    buildScenario_consistent rfl rfl rfl rfl rfl rfl rfl rfl⟩

end Build

end ChaosScenarios.Scenario
