import Mathlib.Data.List.Basic

/-!
# `build_scenario`: one combination to one scenario record

The configuration tables of `generate_scenarios.py` (`FAULT_DEFINITIONS`,
`SEVERITY_SLUGS`, `SEVERITY_LABELS`, `TARGET_TIERS`, `SEVERITIES`, `TIMING`,
`INVARIANT_CRITERIA`) are an input here, `Tables`, with their dictionaries as association
lists. A subscript `table[key]` is `lookup`, which fails with the missing key as Python's
`KeyError` does; `build_scenario` and `scenario_description` run in `Except String`, with
the source's lookups in the source's order.

The record mirrors the dictionary `build_scenario` returns, field for field.
-/

namespace ChaosScenarios.Scenario
set_option autoImplicit false

/-- A parameter value of `FAULT_DEFINITIONS`: an int, a float (kept as its source text),
a string or a bool. The builder only copies them. -/
inductive Scalar
  | int (value : Int)
  | float (text : String)
  | str (value : String)
  | bool (value : Bool)
  deriving DecidableEq, Repr

/-- A flat parameter record such as `{"packet_loss": 40, "device": "eth0"}`. -/
abbrev Params := List (String × Scalar)

/-- An entry of `FAULT_DEFINITIONS`: the runner fault `type`, the output `category`, the
`label`, and one parameter record per severity key (`mild`, `moderate`, `severe`). The source
keeps the parameter records in the same dict as `type`, `category` and `label`; keeping them
apart agrees with it for every severity not named `type`, `category` or `label`. -/
structure FaultDefinition where
  type : String
  category : String
  label : String
  severities : List (String × Params)
  deriving Repr

/-- `{"pattern": ..., "alias": ...}` in a tier's `selectors`. -/
structure Selector where
  pattern : String
  «alias» : String
  deriving DecidableEq, Repr

/-- An entry of `TARGET_TIERS`. -/
structure TargetTier where
  label : String
  selectors : List Selector
  deriving Repr

/-- An entry of `TIMING`. -/
structure Timing where
  duration : String
  warmup : String
  cooldown : String
  deriving DecidableEq, Repr

/-- An entry of `INVARIANT_CRITERIA`. -/
structure Criterion where
  name : String
  description : String
  type : String
  query : String
  threshold : String
  critical : Bool
  deriving DecidableEq, Repr

/-- The module-level tables the generator reads. -/
structure Tables where
  faultDefinitions : List (String × FaultDefinition)
  severitySlugs : List (String × List (String × String))
  severityLabels : List (String × List (String × String))
  targetTiers : List (String × TargetTier)
  severities : List String
  timing : List (String × Timing)
  invariantCriteria : List Criterion

/-- `spec.targets[k].selector`. -/
structure SelectorSpec where
  type : String
  enclave : String
  pattern : String
  deriving DecidableEq, Repr

/-- An entry of `spec.targets`. -/
structure Target where
  selector : SelectorSpec
  «alias» : String
  deriving DecidableEq, Repr

/-- An entry of `spec.faults`. -/
structure Fault where
  phase : String
  description : String
  target : String
  type : String
  params : Params
  deriving DecidableEq, Repr

/-- `{**c, "window": timing["duration"]}`. -/
structure WindowedCriterion extends Criterion where
  window : String
  deriving DecidableEq, Repr

/-- `metadata` of a scenario. -/
structure Metadata where
  name : String
  description : String
  tags : List String
  author : String
  version : String
  deriving DecidableEq, Repr

/-- `spec` of a scenario. -/
structure ScenarioSpec where
  targets : List Target
  duration : String
  warmup : String
  cooldown : String
  faults : List Fault
  successCriteria : List WindowedCriterion
  metrics : List String
  deriving DecidableEq, Repr

/-- The dictionary `build_scenario` returns. -/
structure ScenarioRecord where
  apiVersion : String
  kind : String
  metadata : Metadata
  spec : ScenarioSpec
  deriving DecidableEq, Repr

/-- `table[key]`, failing with the missing key as Python's `KeyError`. -/
def lookup {β : Type} (table : List (String × β)) (key : String) : Except String β :=
  match table.lookup key with
  | some v => .ok v
  | none => .error key

/-- `s.replace('_', '-')`: with a one-character pattern and replacement, every `_` becomes
`-`, character by character. -/
def dashed (s : String) : String :=
  ⟨s.data.map fun c => if c = '_' then '-' else c⟩

/-- The scenario name `gen-{fault_type}-{slug}-{target_tier}` of `build_scenario` (and of
`_print_list`), `_` dashed in the fault type and the tier. -/
def scenarioName (faultType slug targetTier : String) : String :=
  "gen" ++ "-" ++ dashed faultType ++ "-" ++ slug ++ "-" ++ dashed targetTier

/-- `scenario_description(fault_type, target_tier, severity)`. -/
def scenarioDescription (t : Tables) (faultType targetTier severity : String) :
    Except String String := do
  let faultLabel ← lookup (← lookup t.severityLabels faultType) severity
  let targetLabel := (← lookup t.targetTiers targetTier).label
  let faultCtx := (← lookup t.faultDefinitions faultType).label
  pure (faultLabel ++ " on " ++ targetLabel ++ ". " ++ faultCtx ++ ".")

/-- The entry of `faults` that `build_scenario` makes for selector `s`. -/
def faultEntry (t : Tables) (faultType severity : String) (faultDef : FaultDefinition)
    (baseParams : Params) (s : Selector) : Except String Fault := do
  let label ← lookup (← lookup t.severityLabels faultType) severity
  pure { phase := dashed faultType ++ "-" ++ s.alias
         description := label ++ " applied to " ++ s.alias
         target := s.alias
         type := faultDef.type
         params := baseParams }

/-- The entry of `spec.targets` for selector `s`. -/
def targetEntry (s : Selector) : Target :=
  { selector := { type := "kurtosis_service", enclave := "${ENCLAVE_NAME}", pattern := s.pattern }
    «alias» := s.alias }

/-- `build_scenario(fault_type, target_tier, severity)`. -/
def buildScenario (t : Tables) (faultType targetTier severity : String) :
    Except String ScenarioRecord := do
  let faultDef ← lookup t.faultDefinitions faultType
  let tier ← lookup t.targetTiers targetTier
  let timing ← lookup t.timing severity
  let selectors := tier.selectors
  let baseParams ← lookup faultDef.severities severity
  let faults ← selectors.mapM (faultEntry t faultType severity faultDef baseParams)
  let criteria : List WindowedCriterion :=
    t.invariantCriteria.map fun c => { c with window := timing.duration }
  let slug ← lookup (← lookup t.severitySlugs faultType) severity
  let name := scenarioName faultType slug targetTier
  let description ← scenarioDescription t faultType targetTier severity
  pure { apiVersion := "chaos.polygon.io/v1"
         kind := "ChaosScenario"
         metadata := { name := name
                       description := description
                       tags := ["generated", dashed faultType, slug, targetTier]
                       author := "scripts/generate_scenarios.py"
                       version := "0.0.1" }
         spec := { targets := selectors.map targetEntry
                   duration := timing.duration
                   warmup := timing.warmup
                   cooldown := timing.cooldown
                   faults := faults
                   successCriteria := criteria
                   metrics := ["chain_head_block", "cometbft_consensus_height",
                     "cometbft_consensus_validators", "up"] } }

end ChaosScenarios.Scenario
