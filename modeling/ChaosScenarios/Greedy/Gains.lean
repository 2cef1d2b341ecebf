import ChaosScenarios.Greedy.Coverage
import Mathlib.Algebra.BigOperators.Group.Finset

/-!
# What each pass of the greedy gains

The `best_new` of a pass that selects a row is the number of requirements the row covers for
the first time: its gain against the coverage of the rows selected before it. Along every
run these gains never increase (`GreedyTrace.gain_antitone`): coverage only grows, which can
only lower a row's gain, and the row picked at a pass had the largest gain there. They add
up to the size of the final coverage (`sum_gains_eq_card_coverage`); with no empty dimension,
to `len(required)`, which is `Σ_{i<j} len(dimensions[i]) * len(dimensions[j])` when no
dimension repeats a value (`card_required`).
-/

namespace ChaosScenarios.Greedy
set_option autoImplicit false

variable {α : Type} [DecidableEq α]

/-- A larger coverage leaves a row no larger a gain. -/
theorem newCount_le_of_subset {n : Nat} {C C' : Finset (Key α)} (h : C ⊆ C') (combo : List α) :
    newCount n C' combo ≤ newCount n C combo := by
  rw [newCount_eq_card, newCount_eq_card]
  exact Finset.card_le_card (Finset.sdiff_subset_sdiff le_rfl h)

/-- The coverage after a row grows by the row's gain. -/
theorem card_coverage_take_succ (n : Nat) (selected : List (List α)) {k : Nat}
    (hk : k < selected.length) :
    (coverage n (selected.take (k + 1))).card =
      (coverage n (selected.take k)).card +
        newCount n (coverage n (selected.take k)) selected[k] := by
  rw [coverage_take_succ n selected hk, newCount_eq_card, Finset.union_comm,
    ← Finset.card_sdiff_add_card, Nat.add_comm]

/-- Gains never increase. In a greedy trace, the gain of each row is at most the gain of
the row before it. -/
theorem GreedyTrace.gain_antitone {n : Nat} {allCombos : List (List α)}
    {required : Finset (Key α)} {selected : List (List α)}
    (h : GreedyTrace n allCombos required selected) (k : Nat) (hk : k + 1 < selected.length) :
    newCount n (coverage n (selected.take (k + 1))) selected[k + 1] ≤
      newCount n (coverage n (selected.take k)) selected[k] :=
  calc newCount n (coverage n (selected.take (k + 1))) selected[k + 1]
      ≤ newCount n (coverage n (selected.take k)) selected[k + 1] :=
        newCount_le_of_subset (coverage_take_succ n selected (Nat.lt_of_succ_lt hk) ▸
          Finset.subset_union_left) _
    _ ≤ newCount n (coverage n (selected.take k)) selected[k] :=
        (h k (Nat.lt_of_succ_lt hk)).2.1.le _ (h (k + 1) hk).2.1.mem

/-- The gains of the rows add up to the size of their coverage. -/
theorem sum_gains_eq_card_coverage (n : Nat) (selected : List (List α)) :
    ∑ k ∈ Finset.range selected.length,
      newCount n (coverage n (selected.take k)) (selected.getD k []) =
      (coverage n selected).card := by
  suffices ∀ m ≤ selected.length, ∑ k ∈ Finset.range m,
      newCount n (coverage n (selected.take k)) (selected.getD k []) =
      (coverage n (selected.take m)).card by
    simpa only [List.take_length] using this _ le_rfl
  intro m
  induction m with
  | zero => intro; rfl
  | succ m ih =>
    intro hm
    rw [Finset.sum_range_succ, ih (Nat.le_of_succ_le hm), card_coverage_take_succ n selected hm,
      List.getD_eq_getElem _ _ hm]

omit [DecidableEq α] in
theorem nodup_getD {dimensions : List (List α)} (h : ∀ d ∈ dimensions, d.Nodup) (i : Nat) :
    (dimensions.getD i []).Nodup := by
  rcases lt_or_le i dimensions.length with hi | hi
  · rw [List.getD_eq_getElem _ _ hi]
    exact h _ (List.getElem_mem _)
  · rw [List.getD_eq_default _ _ hi]
    exact List.nodup_nil

omit [DecidableEq α] in
/-- With no repeated value in any dimension, the comprehension of `required` lists no
requirement twice. -/
theorem nodup_required_list {dimensions : List (List α)} (h : ∀ d ∈ dimensions, d.Nodup) :
    ((pairIndices dimensions.length).flatMap fun p =>
      (dimensions.getD p.1 []).flatMap fun vi =>
        (dimensions.getD p.2 []).map fun vj => ((p.1, some vi, p.2, some vj) : Key α)).Nodup := by
  refine List.nodup_flatMap.2 ⟨fun p _ => List.nodup_flatMap.2 ⟨fun vi _ =>
    (nodup_getD h _).map fun a b hab => by simpa using hab, ?_⟩, ?_⟩
  · refine (nodup_getD h p.1).pairwise_of_forall_ne fun vi _ vi' _ hne => ?_
    simp only [Function.onFun, List.disjoint_left, List.mem_map]
    rintro _ ⟨vj, -, rfl⟩ ⟨vj', -, h'⟩
    simp only [Prod.mk.injEq, Option.some.injEq] at h'
    exact hne h'.2.1.symm
  · refine (pairIndices_nodup _).pairwise_of_forall_ne fun p _ q _ hne => ?_
    simp only [Function.onFun, List.disjoint_left, List.mem_flatMap, List.mem_map]
    rintro _ ⟨vi, -, vj, -, rfl⟩ ⟨vi', -, vj', -, h'⟩
    simp only [Prod.mk.injEq] at h'
    exact hne (Prod.ext h'.1.symm h'.2.2.1.symm)

/-- With no repeated value in any dimension, `len(required)` is
`Σ_{i<j} len(dimensions[i]) * len(dimensions[j])`. -/
theorem card_required {dimensions : List (List α)} (h : ∀ d ∈ dimensions, d.Nodup) :
    (required dimensions).card = ((pairIndices dimensions.length).map fun p =>
      (dimensions.getD p.1 []).length * (dimensions.getD p.2 []).length).foldr (· + ·) 0 := by
  rw [required, List.toFinset_card_of_nodup (nodup_required_list h), ← List.sum_eq_foldr]
  simp [List.length_flatMap, Function.comp_def, List.map_const', List.sum_replicate]

/-- The gains of the built-in greedy. Along its run, the `best_new` of the passes that
select a row never increases. With no empty dimension, these gains add up to
`len(required)`, which is `Σ_{i<j} len(dimensions[i]) * len(dimensions[j])` when no dimension
repeats a value: no requirement is counted twice. -/
theorem builtinGreedy_gains (dimensions : List (List α)) :
    ∃ selected, builtinGreedy dimensions = some selected ∧
      (∀ k (hk : k + 1 < selected.length),
        newCount dimensions.length (coverage dimensions.length (selected.take (k + 1)))
            selected[k + 1] ≤
          newCount dimensions.length (coverage dimensions.length (selected.take k)) selected[k]) ∧
      ((∀ d ∈ dimensions, d ≠ []) →
        ∑ k ∈ Finset.range selected.length, newCount dimensions.length
          (coverage dimensions.length (selected.take k)) (selected.getD k []) =
          (required dimensions).card) ∧
      ((∀ d ∈ dimensions, d.Nodup) → (required dimensions).card =
        ((pairIndices dimensions.length).map fun p =>
          (dimensions.getD p.1 []).length * (dimensions.getD p.2 []).length).foldr (· + ·) 0) := by
  obtain ⟨r, hr, hinv, -⟩ := exists_builtinGreedy dimensions
  refine ⟨r.selected, hr, hinv.trace.gain_antitone, fun hne => ?_, card_required⟩
  obtain ⟨sel, hsel, -, hcov⟩ := exists_builtinGreedy_coverage hne
  obtain rfl := Option.some.inj (hr.symm.trans hsel)
  rw [sum_gains_eq_card_coverage, hcov]

end ChaosScenarios.Greedy
