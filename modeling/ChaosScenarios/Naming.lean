import ChaosScenarios.Strategies

/-!
# Scenario names are distinct

`build_scenario` names a scenario `gen-{fault_type}-{slug}-{target_tier}` (`scenarioName`)
and `main` writes it to `{name}.yaml`, so two combinations with one name would share a file.
A name reads as `gen-`, the fault-type part `{fault_type}-`, the slug, and the tier part
`-{target_tier}`, both parts dashed. When no fault-type part is a prefix of another, the
front of a name gives back the fault type; when no tier part is a suffix of another, its
end gives back the tier; the slug is what is left, and it gives back the severity when the
severities of a fault type have distinct slugs (`Separated`). So on such tables distinct
combinations of the full enumeration get distinct names (`name_injective`), and the
shipped tables are such tables.
-/

namespace ChaosScenarios
set_option autoImplicit false
open Scenario

section Except
variable {ε β γ : Type}

theorem bind_eq_ok {e : Except ε β} {f : β → Except ε γ} {r : γ} :
    e >>= f = .ok r ↔ ∃ x, e = .ok x ∧ f x = .ok r := by
  cases e <;> simp [bind, Except.bind]

theorem pure_eq_ok {x r : β} : (pure x : Except ε β) = .ok r ↔ x = r :=
  ⟨Except.ok.inj, fun h => h ▸ rfl⟩

theorem mapError_eq_ok {e : Except ε β} {g : ε → γ} {r : β} :
    e.mapError g = .ok r ↔ e = .ok r := by
  cases e <;> simp [Except.mapError]

theorem lookup_eq_ok {table : List (String × β)} {key : String} {v : β} :
    lookup table key = .ok v ↔ table.lookup key = some v := by
  unfold lookup
  cases table.lookup key <;> simp

end Except

/-- `SEVERITY_SLUGS[fault_type][severity]`, `none` when a key is missing. -/
def slugOf (t : Tables) (ft sv : String) : Option String :=
  (t.severitySlugs.lookup ft).bind fun slugs => slugs.lookup sv

/-- The fault-type part `{fault_type}-` of a name, dashed. -/
def faultPart (ft : String) : List Char := (dashed ft ++ "-").data

/-- The tier part `-{target_tier}` of a name, dashed. -/
def tierPart (tt : String) : List Char := ("-" ++ dashed tt).data

/-- The tables keep scenario file names apart: no fault-type part is a prefix of another, no
tier part is a suffix of another, the severities of one fault type have distinct slugs, and
no name has a `/`. -/
structure Separated (t : Tables) : Prop where
  faults : ∀ ft₁ ∈ t.faultDefinitions.map Prod.fst, ∀ ft₂ ∈ t.faultDefinitions.map Prod.fst,
    faultPart ft₁ <+: faultPart ft₂ → ft₁ = ft₂
  tiers : ∀ tt₁ ∈ t.targetTiers.map Prod.fst, ∀ tt₂ ∈ t.targetTiers.map Prod.fst,
    tierPart tt₁ <:+ tierPart tt₂ → tt₁ = tt₂
  slugs : ∀ ft ∈ t.faultDefinitions.map Prod.fst, ∀ sv₁ ∈ t.severities, ∀ sv₂ ∈ t.severities,
    (slugOf t ft sv₁).isSome → slugOf t ft sv₁ = slugOf t ft sv₂ → sv₁ = sv₂
  fault_slash_free : ∀ ft ∈ t.faultDefinitions.map Prod.fst, '/' ∉ faultPart ft
  tier_slash_free : ∀ tt ∈ t.targetTiers.map Prod.fst, '/' ∉ tierPart tt
  slug_slash_free : ∀ ft ∈ t.faultDefinitions.map Prod.fst, ∀ sv ∈ t.severities,
    ∀ slug ∈ slugOf t ft sv, '/' ∉ slug.data

/-- The shipped tables keep scenario file names apart. -/
theorem Config.separated : Separated Config.tables :=
  ⟨by decide, by decide, by decide, by decide, by decide, by decide⟩

theorem scenarioName_data (ft slug tt : String) :
    (scenarioName ft slug tt).data =
      ("gen" ++ "-").data ++ (faultPart ft ++ (slug.data ++ tierPart tt)) := by
  simp only [scenarioName, faultPart, tierPart, String.data_append, List.append_assoc]

/-- Names split back into their parts once comparable fault-type parts, and comparable tier
parts, belong to one fault type and one tier. -/
theorem eq_of_scenarioName_eq {ft₁ ft₂ slug₁ slug₂ tt₁ tt₂ : String}
    (hft : faultPart ft₁ <+: faultPart ft₂ ∨ faultPart ft₂ <+: faultPart ft₁ → ft₁ = ft₂)
    (htt : tierPart tt₁ <:+ tierPart tt₂ ∨ tierPart tt₂ <:+ tierPart tt₁ → tt₁ = tt₂)
    (h : scenarioName ft₁ slug₁ tt₁ = scenarioName ft₂ slug₂ tt₂) :
    ft₁ = ft₂ ∧ slug₁ = slug₂ ∧ tt₁ = tt₂ := by
  have h := congrArg String.data h
  rw [scenarioName_data, scenarioName_data, List.append_cancel_left_eq] at h
  obtain rfl : ft₁ = ft₂ := hft (List.prefix_or_prefix_of_prefix ⟨_, h⟩ ⟨_, rfl⟩)
  rw [List.append_cancel_left_eq] at h
  obtain rfl : tt₁ = tt₂ := htt (List.suffix_or_suffix_of_suffix ⟨_, h⟩ ⟨_, rfl⟩)
  exact ⟨rfl, String.ext (List.append_cancel_right h), rfl⟩

/-- On separated tables, a name and the slug it was made with give back the combination of
the full enumeration. -/
theorem combination_eq_of_scenarioName_eq {t : Tables} (hs : Separated t)
    {ft₁ tt₁ sv₁ ft₂ tt₂ sv₂ slug₁ slug₂ : String}
    (h₁ : [ft₁, tt₁, sv₁] ∈ fullCombinations t) (h₂ : [ft₂, tt₂, sv₂] ∈ fullCombinations t)
    (hslug₁ : slugOf t ft₁ sv₁ = some slug₁) (hslug₂ : slugOf t ft₂ sv₂ = some slug₂)
    (h : scenarioName ft₁ slug₁ tt₁ = scenarioName ft₂ slug₂ tt₂) :
    [ft₁, tt₁, sv₁] = [ft₂, tt₂, sv₂] := by
  obtain ⟨hft₁, htt₁, hsv₁⟩ := triple_mem_fullCombinations.1 h₁
  obtain ⟨hft₂, htt₂, hsv₂⟩ := triple_mem_fullCombinations.1 h₂
  obtain ⟨rfl, rfl, rfl⟩ := eq_of_scenarioName_eq
    (Or.rec (hs.faults _ hft₁ _ hft₂) fun h => (hs.faults _ hft₂ _ hft₁ h).symm)
    (Or.rec (hs.tiers _ htt₁ _ htt₂) fun h => (hs.tiers _ htt₂ _ htt₁ h).symm) h
  rw [hs.slugs _ hft₁ _ hsv₁ _ hsv₂ (by simp [hslug₁]) (hslug₁.trans hslug₂.symm)]

/-- A record `build_scenario` returns comes with the fault type's definition and a slug, and
is named after its fault type, its slug and its tier. -/
theorem buildScenario_name {t : Tables} {ft tt sv : String} {r : ScenarioRecord}
    (h : buildScenario t ft tt sv = .ok r) :
    ∃ fd slug, t.faultDefinitions.lookup ft = some fd ∧ slugOf t ft sv = some slug ∧
      r.metadata.name = scenarioName ft slug tt := by
  simp only [buildScenario, bind_eq_ok, lookup_eq_ok] at h
  obtain ⟨fd, hfd, _, _, _, _, _, _, _, _, slugs, hslugs, slug, hslug, _, _, h⟩ := h
  obtain rfl := pure_eq_ok.1 h
  exact ⟨fd, slug, hfd, by simp [slugOf, hslugs, hslug], rfl⟩

/- The name of `(packet_loss, validator1_heimdall, moderate)`. -/
example : (buildScenario Config.tables "packet_loss" "validator1_heimdall" "moderate").map
    (·.metadata.name) = .ok "gen-packet-loss-40pct-validator1-heimdall" := by rfl

/-- Names are distinct. On separated tables, two combinations of the full enumeration on
which `build_scenario` returns records of one name are one combination. -/
theorem name_injective {t : Tables} (hs : Separated t) {ft₁ tt₁ sv₁ ft₂ tt₂ sv₂ : String}
    (h₁ : [ft₁, tt₁, sv₁] ∈ fullCombinations t) (h₂ : [ft₂, tt₂, sv₂] ∈ fullCombinations t)
    {r₁ r₂ : ScenarioRecord} (hr₁ : buildScenario t ft₁ tt₁ sv₁ = .ok r₁)
    (hr₂ : buildScenario t ft₂ tt₂ sv₂ = .ok r₂) (h : r₁.metadata.name = r₂.metadata.name) :
    [ft₁, tt₁, sv₁] = [ft₂, tt₂, sv₂] := by
  obtain ⟨-, slug₁, -, hslug₁, hname₁⟩ := buildScenario_name hr₁
  obtain ⟨-, slug₂, -, hslug₂, hname₂⟩ := buildScenario_name hr₂
  exact combination_eq_of_scenarioName_eq hs h₁ h₂ hslug₁ hslug₂ (hname₁ ▸ hname₂ ▸ h)

/-- The 264 scenarios of the shipped tables have distinct names. -/
theorem name_injective_shipped :
    Separated Config.tables ∧
    ((fullCombinations Config.tables).map fun c => match c with
      | [ft, tt, sv] => (buildScenario Config.tables ft tt sv).toOption.map
        fun r : ScenarioRecord => r.metadata.name
      | _ => none).Nodup :=
  ⟨Config.separated, (Greedy.nodup_product (by decide)).map_on fun c₁ h₁ c₂ h₂ heq => by
    obtain ⟨ft₁, tt₁, sv₁, r₁, rfl, hr₁, -⟩ := assembles_of_mem_product Config.wellFormed h₁
    obtain ⟨ft₂, tt₂, sv₂, r₂, rfl, hr₂, -⟩ := assembles_of_mem_product Config.wellFormed h₂
    simp only [hr₁, hr₂, Except.toOption, Option.map_some', Option.some.injEq] at heq
    exact name_injective Config.separated h₁ h₂ hr₁ hr₂ heq⟩

end ChaosScenarios
