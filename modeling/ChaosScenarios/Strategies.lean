import ChaosScenarios.Greedy.Coverage
import ChaosScenarios.Scenario.Consistency

/-!
# The two strategies of `main`, over the tables

`full_combinations` and `pairwise_combinations` enumerate the same three dimensions
(fault type, target tier, severity) taken from the tables; `main` then calls
`build_scenario` on every combination. When the tables are consistent
(`WellFormed`), every combination either strategy yields (the built-in greedy for the
pairwise one) assembles without a `KeyError`, and the shipped tables are consistent.
-/

namespace ChaosScenarios
set_option autoImplicit false
open Greedy Scenario

/-- `[list(FAULT_DEFINITIONS.keys()), list(TARGET_TIERS.keys()), SEVERITIES]`. -/
def dimensions (t : Tables) : List (List String) :=
  [t.faultDefinitions.map Prod.fst, t.targetTiers.map Prod.fst, t.severities]

/-- `full_combinations()`. -/
def fullCombinations (t : Tables) : List (List String) :=
  product (dimensions t)

/-- `pairwise_combinations()`: `AllPairs(dimensions)` when `allpairspy` imports (`allPairs`),
else the built-in greedy. -/
def pairwiseCombinations (allPairs : Option (List (List String) → List (List String)))
    (t : Tables) : Option (List (List String)) :=
  match allPairs with
  | some run => some (run (dimensions t))
  | none => builtinGreedy (dimensions t)

/-- The tables are consistent: every fault type has a parameter
set, a slug and a label for every severity, and `TIMING` has every severity. -/
structure WellFormed (t : Tables) : Prop where
  params : ∀ ft ∈ t.faultDefinitions.map Prod.fst, ∀ sv ∈ t.severities,
    ((t.faultDefinitions.lookup ft).bind fun fd => fd.severities.lookup sv).isSome
  slugs : ∀ ft ∈ t.faultDefinitions.map Prod.fst, ∀ sv ∈ t.severities,
    ((t.severitySlugs.lookup ft).bind fun slugs => slugs.lookup sv).isSome
  labels : ∀ ft ∈ t.faultDefinitions.map Prod.fst, ∀ sv ∈ t.severities,
    ((t.severityLabels.lookup ft).bind fun labels => labels.lookup sv).isSome
  timing : ∀ sv ∈ t.severities, (t.timing.lookup sv).isSome

theorem exists_of_bind_isSome {β γ : Type} {o : Option β} {f : β → Option γ}
    (h : (o.bind f).isSome) : ∃ x y, o = some x ∧ f x = some y := by
  cases o with
  | none => simp at h
  | some x => exact ⟨x, (f x).get h, rfl, by simp⟩

/-- The combinations of the full enumeration are the triples of a fault type, a target tier
and a severity. -/
theorem mem_fullCombinations {t : Tables} {combo : List String} :
    combo ∈ fullCombinations t ↔ ∃ ft tt sv, combo = [ft, tt, sv] ∧
      ft ∈ t.faultDefinitions.map Prod.fst ∧ tt ∈ t.targetTiers.map Prod.fst ∧
        sv ∈ t.severities := by
  simp only [fullCombinations, dimensions, mem_product, List.forall₂_cons_right_iff,
    List.forall₂_nil_right_iff]
  constructor
  · rintro ⟨ft, _, hft, ⟨tt, _, htt, ⟨sv, _, hsv, rfl, rfl⟩, rfl⟩, rfl⟩
    exact ⟨ft, tt, sv, rfl, hft, htt, hsv⟩
  · rintro ⟨ft, tt, sv, rfl, hft, htt, hsv⟩
    exact ⟨ft, _, hft, ⟨tt, _, htt, ⟨sv, _, hsv, rfl, rfl⟩, rfl⟩, rfl⟩

theorem triple_mem_fullCombinations {t : Tables} {ft tt sv : String} :
    [ft, tt, sv] ∈ fullCombinations t ↔
      ft ∈ t.faultDefinitions.map Prod.fst ∧ tt ∈ t.targetTiers.map Prod.fst ∧
        sv ∈ t.severities := by
  rw [mem_fullCombinations]
  constructor
  · rintro ⟨_, _, _, h, hft, htt, hsv⟩
    simp only [List.cons.injEq, and_true] at h
    obtain ⟨rfl, rfl, rfl⟩ := h
    exact ⟨hft, htt, hsv⟩
  · rintro ⟨hft, htt, hsv⟩
    exact ⟨_, _, _, rfl, hft, htt, hsv⟩

/-- `main`'s call `build_scenario(ft, tt, sv)` on `combo` returns a record, and that record's
phase ids are distinct when every tier's aliases are. -/
def Assembles (t : Tables) (combo : List String) : Prop :=
  ∃ ft tt sv r, combo = [ft, tt, sv] ∧ buildScenario t ft tt sv = .ok r ∧
    ((∀ p ∈ t.targetTiers, (p.2.selectors.map Selector.alias).Nodup) →
      (r.spec.faults.map Fault.phase).Nodup)

/-- On consistent tables, every combination of the three dimensions assembles. -/
theorem assembles_of_mem_product {t : Tables} (h : WellFormed t) {combo : List String}
    (hc : combo ∈ product (dimensions t)) : Assembles t combo := by
  obtain ⟨ft, tt, sv, rfl, hft, htt, hsv⟩ := mem_fullCombinations.1 hc
  obtain ⟨fd, params, hfd, hparams⟩ := exists_of_bind_isSome (h.params ft hft sv hsv)
  obtain ⟨slugs, slug, hslugs, hslug⟩ := exists_of_bind_isSome (h.slugs ft hft sv hsv)
  obtain ⟨labels, label, hlabels, hlabel⟩ := exists_of_bind_isSome (h.labels ft hft sv hsv)
  obtain ⟨p, hp, hpt⟩ := List.mem_map.1 htt
  have htier : (t.targetTiers.lookup tt).isSome := List.lookup_isSome_iff.2 ⟨p, hp, by simp [hpt]⟩
  obtain ⟨tier, htier⟩ := Option.isSome_iff_exists.1 htier
  obtain ⟨timing, htiming⟩ := Option.isSome_iff_exists.1 (h.timing sv hsv)
  obtain ⟨r, hr, -, hfaults, -⟩ :=
    buildScenario_spec hfd htier htiming hparams hslugs hslug hlabels hlabel
  obtain ⟨l₁, l₂, hsplit, -⟩ := List.lookup_eq_some_iff.1 htier
  have hmem : (tt, tier) ∈ t.targetTiers := by simp [hsplit]
  exact ⟨ft, tt, sv, r, rfl, hr, fun hall => hfaults ▸ nodup_phases ft label fd params
    (hall _ hmem)⟩

/-- The shipped tables are consistent. -/
theorem Config.wellFormed : WellFormed Config.tables :=
  ⟨by decide, by decide, by decide, by decide⟩

/-- No `KeyError` in `main`. On consistent tables, every combination of
`full_combinations`, and every combination the built-in pairwise greedy selects, is a
triple `(ft, tt, sv)` on which `build_scenario` returns a record, with distinct phase ids
when each tier's aliases are distinct. -/
theorem generated_combinations_assemble {t : Tables} (h : WellFormed t) :
    (∀ combo ∈ fullCombinations t, Assembles t combo) ∧
    ∃ selected, pairwiseCombinations none t = some selected ∧ ∀ combo ∈ selected, Assembles t combo := by
  obtain ⟨r, hr, hinv, -⟩ := exists_builtinGreedy (dimensions t)
  exact ⟨fun combo hc => assembles_of_mem_product h hc, r.selected, hr,
    fun combo hc => assembles_of_mem_product h (hinv.trace.mem combo hc)⟩

/-- On the shipped tables. -/
theorem generated_combinations_assemble_shipped :
    WellFormed Config.tables ∧
    (∀ combo ∈ fullCombinations Config.tables, Assembles Config.tables combo) ∧
    ∃ selected, pairwiseCombinations none Config.tables = some selected ∧
      ∀ combo ∈ selected, Assembles Config.tables combo :=
  ⟨Config.wellFormed, generated_combinations_assemble Config.wellFormed⟩

end ChaosScenarios
