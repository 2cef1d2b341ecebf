import ChaosScenarios.Greedy.Loop
import Mathlib.Data.List.GetD

/-!
# What the built-in greedy returns

The loop lemmas of `Loop.lean`, instantiated at `all_combos = product dimensions`:
the loop stops within `len(required)` passes, its result is a duplicate-free list of
combinations each of which covered a new pair when it was picked, and, when no dimension
is empty, the `break` is never taken early, so the result covers every requirement.
-/

namespace ChaosScenarios.Greedy
set_option autoImplicit false

variable {α : Type} [DecidableEq α]

section Trace
variable {n : Nat} {allCombos : List (List α)} {required : Finset (Key α)}
  {selected : List (List α)}

theorem GreedyTrace.mem (h : GreedyTrace n allCombos required selected) :
    ∀ c ∈ selected, c ∈ allCombos := by
  intro c hc
  obtain ⟨k, hk, rfl⟩ := List.mem_iff_getElem.1 hc
  exact (h k hk).2.1.mem

/-- Each pick covers a pair that no earlier pick covered. -/
theorem GreedyTrace.fresh (h : GreedyTrace n allCombos required selected) :
    ∀ k (hk : k < selected.length), ¬ projections n selected[k] ⊆ coverage n (selected.take k) := by
  intro k hk hsub
  have hpos := (h k hk).2.2
  rw [newCount_eq_card, Finset.card_pos, Finset.nonempty_iff_ne_empty, Ne,
    Finset.sdiff_eq_empty_iff_subset] at hpos
  exact hpos hsub

theorem coverage_take_succ (n : Nat) (selected : List (List α)) {k : Nat}
    (hk : k < selected.length) :
    coverage n (selected.take (k + 1)) =
      coverage n (selected.take k) ∪ projections n selected[k] := by
  rw [List.take_succ, List.getElem?_eq_getElem hk, Option.toList_some, coverage_append_singleton]

/-- A list in which every element covers a new pair has no duplicates. -/
theorem nodup_of_fresh
    (h : ∀ k (hk : k < selected.length),
      ¬ projections n selected[k] ⊆ coverage n (selected.take k)) :
    selected.Nodup := by
  refine List.nodup_iff_getElem?_ne_getElem?.2 fun i j hij hj heq => h j hj ?_
  rw [List.getElem?_eq_getElem (by omega), List.getElem?_eq_getElem hj, Option.some.injEq] at heq
  intro key hkey
  exact mem_coverage.2 ⟨selected[i], List.mem_take_iff_getElem.2 ⟨i, by simp; omega, rfl⟩,
    heq ▸ hkey⟩

/-- A list in which every element covers a new pair covers at least one pair per element. -/
theorem length_le_card_coverage
    (h : ∀ k (hk : k < selected.length),
      ¬ projections n selected[k] ⊆ coverage n (selected.take k)) :
    selected.length ≤ (coverage n selected).card := by
  suffices ∀ k ≤ selected.length, k ≤ (coverage n (selected.take k)).card by
    simpa using this _ le_rfl
  intro k
  induction k with
  | zero => simp
  | succ k ih =>
    intro hk
    rw [coverage_take_succ n selected hk]
    have hlt : coverage n (selected.take k) ⊂
        coverage n (selected.take k) ∪ projections n selected[k] :=
      (Finset.ssubset_iff_of_subset Finset.subset_union_left).2 <| by
        obtain ⟨key, hkey, hnot⟩ := Finset.not_subset.1 (h k hk)
        exact ⟨key, Finset.mem_union_right _ hkey, hnot⟩
    have := Finset.card_lt_card hlt
    have := ih (by omega)
    omega

end Trace

/-- The pair projections of every combination of `product dimensions` are required. -/
theorem sound_product (dimensions : List (List α)) :
    Sound dimensions.length (product dimensions) (required dimensions) :=
  fun _ hc => projections_subset_required hc

/-- When no dimension is empty, the body never breaks while `covered < required`: an
uncovered requirement extends to a combination with positive `new`. -/
theorem body_ne_none_of_ssubset {dimensions : List (List α)} (hne : ∀ d ∈ dimensions, d ≠ [])
    {s : GreedyState α} (hc : s.covered ⊂ required dimensions) :
    body dimensions.length (product dimensions) s ≠ none := by
  obtain ⟨key, hkey, hnot⟩ := Finset.exists_of_ssubset hc
  obtain ⟨c, hmem, hproj⟩ := exists_mem_product_of_mem_required hne hkey
  intro h
  have h := body_eq_none.1 h c hmem
  rw [newCount_eq_card, Finset.card_eq_zero, Finset.sdiff_eq_empty_iff_subset] at h
  exact hnot (h hproj)

/-- The loop from `covered = set()`, `selected = []` stops within `len(required)` passes,
at a reachable state where the condition fails or the body breaks. -/
theorem exists_whileLoop_init (dimensions : List (List α)) :
    ∃ r, whileLoop dimensions.length (product dimensions) (required dimensions)
      (required dimensions).card GreedyState.init = some r ∧
      Reachable dimensions.length (product dimensions) (required dimensions) r ∧
      (r.covered ⊂ required dimensions → body dimensions.length (product dimensions) r = none) := by
  obtain ⟨r, hr⟩ : ∃ r, whileLoop dimensions.length (product dimensions) (required dimensions)
      (required dimensions).card GreedyState.init = some r :=
    whileLoop_terminates (sound_product dimensions) Inv.init (Nat.sub_le _ _)
  exact ⟨r, hr, whileLoop_exit Reachable.init hr⟩

/-- The built-in greedy's loop stops within `len(required)` passes. At the head of every
pass `covered` is the set of pair projections of `selected`, inside `required`, and every
pass that does not `break` covers a requirement that was not covered. -/
theorem builtinGreedy_loop_terminates (dimensions : List (List α)) :
    (∃ r, ∀ fuel, (required dimensions).card ≤ fuel →
      whileLoop dimensions.length (product dimensions) (required dimensions) fuel
        GreedyState.init = some r) ∧
    (∀ s, Reachable dimensions.length (product dimensions) (required dimensions) s →
      s.covered = coverage dimensions.length s.selected ∧ s.covered ⊆ required dimensions) ∧
    (∀ s s', Reachable dimensions.length (product dimensions) (required dimensions) s →
      s.covered ⊂ required dimensions → body dimensions.length (product dimensions) s = some s' →
      ∃ key ∈ required dimensions \ s.covered, key ∈ s'.covered) := by
  obtain ⟨r, hr, -⟩ := exists_whileLoop_init dimensions
  refine ⟨⟨r, fun fuel hfuel => whileLoop_mono hr hfuel⟩, fun s hs => ?_, fun s s' hs hc hb => ?_⟩
  · have hinv := hs.inv (sound_product dimensions)
    exact ⟨hinv.covered_eq, hinv.subset⟩
  · obtain ⟨hinv', hlt⟩ := (hs.inv (sound_product dimensions)).body (sound_product dimensions) hc hb
    obtain ⟨key, hkey, hnot⟩ := Finset.exists_of_ssubset hlt
    exact ⟨key, Finset.mem_sdiff.2 ⟨hinv'.subset hkey, hnot⟩, hkey⟩

/-- The built-in greedy returns the `selected` of a reachable state where the loop stops. -/
theorem exists_builtinGreedy (dimensions : List (List α)) :
    ∃ r, builtinGreedy dimensions = some r.selected ∧
      Inv dimensions.length (product dimensions) (required dimensions) r ∧
      (r.covered ⊂ required dimensions → body dimensions.length (product dimensions) r = none) := by
  obtain ⟨r, hr, hreach, hexit⟩ := exists_whileLoop_init dimensions
  exact ⟨r, by simp [builtinGreedy, hr], hreach.inv (sound_product dimensions), hexit⟩

/-- The built-in greedy's result: combinations of `itertools.product(*dimensions)`, each
covering a pair projection that none before it covers; hence no duplicates, and no more of
them than requirements or combinations. -/
theorem builtinGreedy_selects_fresh_combinations (dimensions : List (List α)) :
    ∃ selected, builtinGreedy dimensions = some selected ∧
      (∀ c ∈ selected, c ∈ product dimensions) ∧
      (∀ k (hk : k < selected.length), ¬ projections dimensions.length selected[k] ⊆
        coverage dimensions.length (selected.take k)) ∧
      selected.Nodup ∧
      selected.length ≤ min (required dimensions).card (product dimensions).length := by
  obtain ⟨r, hr, hinv, -⟩ := exists_builtinGreedy dimensions
  have hfresh := hinv.trace.fresh
  have hnodup := nodup_of_fresh hfresh
  refine ⟨r.selected, hr, hinv.trace.mem, hfresh, hnodup, le_min ?_ ?_⟩
  · calc r.selected.length ≤ (coverage dimensions.length r.selected).card :=
          length_le_card_coverage hfresh
      _ ≤ (required dimensions).card := Finset.card_le_card (hinv.covered_eq ▸ hinv.subset)
  · exact (hnodup.subperm hinv.trace.mem).length_le

/-- When no dimension is empty the loop stops with everything required covered. -/
theorem exists_builtinGreedy_coverage {dimensions : List (List α)}
    (hne : ∀ d ∈ dimensions, d ≠ []) :
    ∃ selected, builtinGreedy dimensions = some selected ∧
      GreedyTrace dimensions.length (product dimensions) (required dimensions) selected ∧
      coverage dimensions.length selected = required dimensions := by
  obtain ⟨r, hr, hinv, hexit⟩ := exists_builtinGreedy dimensions
  have hc : ¬ r.covered ⊂ required dimensions := fun hc => body_ne_none_of_ssubset hne hc (hexit hc)
  refine ⟨r.selected, hr, hinv.trace, ?_⟩
  rw [← hinv.covered_eq]
  by_contra hne'
  exact hc (Finset.ssubset_iff_subset_ne.2 ⟨hinv.subset, hne'⟩)

theorem mem_required_of_mem {dimensions : List (List α)} {i j : Nat} (hij : i < j)
    (hj : j < dimensions.length) {v w : α} (hv : v ∈ dimensions[i]) (hw : w ∈ dimensions[j]) :
    (i, some v, j, some w) ∈ required dimensions :=
  mem_required.2 ⟨i, j, hij, hj, v, by rwa [List.getD_eq_getElem _ _ (by omega)], w,
    by rwa [List.getD_eq_getElem _ _ hj], rfl⟩

/-- Once `coverage selected = required`, every value pair of every two positions `i < j`
occurs at those positions in some selected combination. -/
theorem exists_mem_of_coverage_eq_required {dimensions selected : List (List α)}
    (hcov : coverage dimensions.length selected = required dimensions) {i j : Nat} (hij : i < j)
    (hj : j < dimensions.length) :
    ∀ v ∈ dimensions[i], ∀ w ∈ dimensions[j],
      ∃ combo ∈ selected, combo[i]? = some v ∧ combo[j]? = some w := by
  intro v hv w hw
  obtain ⟨combo, hc, hproj⟩ := mem_coverage.1 (hcov ▸ mem_required_of_mem hij hj hv hw)
  obtain ⟨_, _, -, -, heq⟩ := mem_projections.1 hproj
  simp only [Prod.mk.injEq] at heq
  obtain ⟨rfl, hv', rfl, hw'⟩ := heq
  exact ⟨combo, hc, hv'.symm, hw'.symm⟩

omit [DecidableEq α] in
/-- A list of combinations showing every value pair of two duplicate-free lists at positions
`i` and `j` has at least one entry per pair. -/
theorem mul_length_le_of_covers {as bs : List α} (has : as.Nodup) (hbs : bs.Nodup)
    {selected : List (List α)} {i j : Nat}
    (h : ∀ v ∈ as, ∀ w ∈ bs, ∃ combo ∈ selected, combo[i]? = some v ∧ combo[j]? = some w) :
    as.length * bs.length ≤ selected.length := by
  have hpairs : ((as ×ˢ bs).map fun p => (some p.1, some p.2)).Nodup :=
    (has.product hbs).map fun p q h => by simpa [Prod.ext_iff] using h
  have hsub : ((as ×ˢ bs).map fun p => (some p.1, some p.2)) ⊆
      selected.map fun combo => (combo[i]?, combo[j]?) := by
    intro p hp
    obtain ⟨⟨v, w⟩, hvw, rfl⟩ := List.mem_map.1 hp
    obtain ⟨hv, hw⟩ := List.mem_product.1 hvw
    obtain ⟨combo, hc, hcv, hcw⟩ := h v hv w hw
    exact List.mem_map.2 ⟨combo, hc, by rw [hcv, hcw]⟩
  simpa only [List.length_map, List.length_product] using (hpairs.subperm hsub).length_le

/-- Pairwise coverage. With no empty dimension, the `break` is never taken while
`covered < required`, and the result has, for every `i < j < n` and every `v ∈
dimensions[i]`, `w ∈ dimensions[j]`, a combination with `c[i] = v` and `c[j] = w`. So it
has at least `len(dimensions[i]) * len(dimensions[j])` combinations when the values of each
dimension are distinct. -/
theorem builtinGreedy_covers_all_pairs (dimensions : List (List α))
    (hne : ∀ d ∈ dimensions, d ≠ []) :
    (∀ s : GreedyState α, s.covered ⊂ required dimensions →
      body dimensions.length (product dimensions) s ≠ none) ∧
    ∃ selected, builtinGreedy dimensions = some selected ∧
      (∀ i j (hij : i < j) (hj : j < dimensions.length), ∀ v ∈ dimensions[i], ∀ w ∈ dimensions[j],
        ∃ combo ∈ selected, combo[i]? = some v ∧ combo[j]? = some w) ∧
      ((∀ d ∈ dimensions, d.Nodup) → ∀ i j (hij : i < j) (hj : j < dimensions.length),
        dimensions[i].length * dimensions[j].length ≤ selected.length) := by
  obtain ⟨sel, hsel, -, hcov⟩ := exists_builtinGreedy_coverage hne
  exact ⟨fun s hc => body_ne_none_of_ssubset hne hc, sel, hsel,
    fun i j hij hj => exists_mem_of_coverage_eq_required hcov hij hj,
    fun hnodup i j hij hj => mul_length_le_of_covers (hnodup _ (List.getElem_mem _))
      (hnodup _ (List.getElem_mem _)) (exists_mem_of_coverage_eq_required hcov hij hj)⟩

/-- Pairwise coverage for three small dimensions. -/
theorem builtinGreedy_covers_all_pairs_small :
    let dims : List (List Nat) := [[0, 1], [0, 1, 2], [5]]
    (∀ d ∈ dims, d ≠ []) ∧
    (∀ s : GreedyState Nat, s.covered ⊂ required dims →
      body dims.length (product dims) s ≠ none) ∧
    ∃ selected, builtinGreedy dims = some selected ∧
      (∀ i j (hij : i < j) (hj : j < dims.length), ∀ v ∈ dims[i], ∀ w ∈ dims[j],
        ∃ combo ∈ selected, combo[i]? = some v ∧ combo[j]? = some w) ∧
      ((∀ d ∈ dims, d.Nodup) → ∀ i j (hij : i < j) (hj : j < dims.length),
        dims[i].length * dims[j].length ≤ selected.length) :=
  ⟨by decide, builtinGreedy_covers_all_pairs _ (by decide)⟩

/-- With an empty dimension the built-in greedy selects nothing. -/
theorem builtinGreedy_of_nil_mem {dimensions : List (List α)} (h : [] ∈ dimensions) :
    builtinGreedy dimensions = some [] := by
  obtain ⟨r, hr, hinv, -⟩ := exists_builtinGreedy dimensions
  have hnil : r.selected = [] := List.eq_nil_iff_forall_not_mem.2 fun c hc => by
    simpa [product_eq_nil_of_nil_mem h] using hinv.trace.mem c hc
  exact hnil ▸ hr

/-- A silent shortfall. With an empty dimension there is no combination, the first pass
breaks, and the built-in greedy returns no combination and no error, although `required`
still holds every value pair of two non-empty dimensions. -/
theorem builtinGreedy_eq_nil_of_nil_mem {dimensions : List (List α)} (h : [] ∈ dimensions) :
    builtinGreedy dimensions = some [] ∧
    ∀ i j (hij : i < j) (hj : j < dimensions.length), dimensions[i] ≠ [] → dimensions[j] ≠ [] →
      coverage dimensions.length [] ≠ required dimensions := by
  refine ⟨builtinGreedy_of_nil_mem h, fun i j hij hj hi hj' heq => ?_⟩
  obtain ⟨v, hv⟩ := List.exists_mem_of_ne_nil _ hi
  obtain ⟨w, hw⟩ := List.exists_mem_of_ne_nil _ hj'
  have hkey := mem_required_of_mem hij hj hv hw
  rw [← heq, coverage_nil] at hkey
  exact Finset.not_mem_empty _ hkey

/-- An empty dimension beside two non-empty ones. -/
theorem builtinGreedy_eq_nil_of_nil_mem_small :
    let dims : List (List Nat) := [[0, 1], [], [0, 1]]
    [] ∈ dims ∧ builtinGreedy dims = some [] ∧
    ∀ i j (hij : i < j) (hj : j < dims.length), dims[i] ≠ [] → dims[j] ≠ [] →
      coverage dims.length [] ≠ required dims :=
  ⟨by decide, builtinGreedy_eq_nil_of_nil_mem (by decide)⟩

/- On three binary dimensions the greedy meets the lower bound `2 * 2`. -/
example : builtinGreedy [[0, 1], [0, 1], [0, 1]] =
    some [[0, 0, 0], [0, 1, 1], [1, 0, 1], [1, 1, 0]] := by
  decide

end ChaosScenarios.Greedy
