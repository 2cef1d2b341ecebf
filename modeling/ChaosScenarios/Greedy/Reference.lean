import ChaosScenarios.Greedy.Coverage

/-!
# The reference greedy sequence

The pairwise selection stated directly, with no loop and no `covered` set:
`selected[k]` is the first combination, in `itertools.product` order, that maximises
`|proj(c) \ C_k|` over the whole product, where `C_k` is the coverage of
`selected[0..k-1]`; and the sequence stops exactly when `C_k = required`.

There is at most one such sequence (`IsReferenceGreedy.unique`), and when no dimension is
empty the built-in greedy computes it (`builtinGreedy_eq_reference`).
-/

namespace ChaosScenarios.Greedy
set_option autoImplicit false

variable {α : Type} [DecidableEq α]

/-- `|proj(c) \ C|`, the number of pair projections of `c` outside the coverage `C`. -/
def gain (n : Nat) (C : Finset (Key α)) (combo : List α) : Nat :=
  (projections n combo \ C).card

/-- The reference greedy sequence: each element is the first maximiser of the gain against
the coverage of the elements before it, and the sequence ends exactly when that coverage
is `required`. -/
def IsReferenceGreedy (dimensions : List (List α)) (selected : List (List α)) : Prop :=
  (∀ k (hk : k < selected.length),
    coverage dimensions.length (selected.take k) ≠ required dimensions ∧
    IsFirstMax (gain dimensions.length (coverage dimensions.length (selected.take k)))
      (product dimensions) selected[k]) ∧
  coverage dimensions.length selected = required dimensions

theorem newCount_eq_gain (n : Nat) (covered : Finset (Key α)) :
    newCount n covered = gain n covered :=
  funext (newCount_eq_card n covered)

section Unique
variable {dimensions : List (List α)} {s t : List (List α)}

/-- Two reference sequences agree on every common prefix: each element is determined by
the prefix before it. -/
theorem IsReferenceGreedy.take_eq (hs : IsReferenceGreedy dimensions s)
    (ht : IsReferenceGreedy dimensions t) :
    ∀ k, k ≤ s.length → k ≤ t.length → s.take k = t.take k := by
  intro k
  induction k with
  | zero => simp
  | succ k ih =>
    intro hks hkt
    have hcommon := ih (by omega) (by omega)
    have hs' := (hs.1 k (by omega)).2
    have ht' := (ht.1 k (by omega)).2
    rw [hcommon] at hs'
    rw [List.take_succ, List.take_succ, hcommon, List.getElem?_eq_getElem (by omega),
      List.getElem?_eq_getElem (by omega), hs'.unique ht']

/-- A reference sequence is never a proper prefix of another: its coverage is already
`required` where the longer one's is not. -/
theorem IsReferenceGreedy.length_le (hs : IsReferenceGreedy dimensions s)
    (ht : IsReferenceGreedy dimensions t) : t.length ≤ s.length := by
  by_contra hlt
  rw [not_le] at hlt
  have hne := (ht.1 s.length hlt).1
  rw [← hs.take_eq ht _ le_rfl hlt.le, List.take_length] at hne
  exact hne hs.2

/-- There is at most one reference sequence. -/
theorem IsReferenceGreedy.unique (hs : IsReferenceGreedy dimensions s)
    (ht : IsReferenceGreedy dimensions t) : s = t := by
  have hlen := le_antisymm (ht.length_le hs) (hs.length_le ht)
  rw [← List.take_length s, hs.take_eq ht _ le_rfl hlen.le, hlen, List.take_length]

end Unique

/-- A loop trace that ends with everything covered is the reference sequence. -/
theorem isReferenceGreedy_of_trace {dimensions selected : List (List α)}
    (htrace : GreedyTrace dimensions.length (product dimensions) (required dimensions) selected)
    (hcov : coverage dimensions.length selected = required dimensions) :
    IsReferenceGreedy dimensions selected :=
  ⟨fun k hk => ⟨(htrace k hk).1.ne, by simpa only [newCount_eq_gain] using (htrace k hk).2.1⟩,
    hcov⟩

/-- Refinement. With no empty dimension, the built-in greedy returns a sequence, and it
returns exactly the reference sequence. On the way: `new` is `|proj(c) \ covered|`, and the scan with its
strict `>` from `best_new = -1` returns the first maximiser with its gain. -/
theorem builtinGreedy_eq_reference (dimensions : List (List α)) (hne : ∀ d ∈ dimensions, d ≠ []) :
    (∀ (covered : Finset (Key α)) (combo : List α), newCount dimensions.length covered combo =
      (projections dimensions.length combo \ covered).card) ∧
    (∀ covered : Finset (Key α), ∃ best,
      IsFirstMax (gain dimensions.length covered) (product dimensions) best ∧
      scan dimensions.length covered (product dimensions) =
        (some best, ↑(gain dimensions.length covered best))) ∧
    (∃ selected, builtinGreedy dimensions = some selected ∧
      IsReferenceGreedy dimensions selected) ∧
    ∀ selected, builtinGreedy dimensions = some selected ↔ IsReferenceGreedy dimensions selected := by
  obtain ⟨sel, hsel, htrace, hcov⟩ := exists_builtinGreedy_coverage hne
  have href := isReferenceGreedy_of_trace htrace hcov
  refine ⟨newCount_eq_card _, fun covered => ?_, ⟨sel, hsel, href⟩, fun selected => ?_⟩
  · obtain ⟨c, hc⟩ := exists_mem_product hne
    simpa only [newCount_eq_gain] using scan_spec dimensions.length covered (List.ne_nil_of_mem hc)
  · rw [hsel, Option.some.injEq]
    exact ⟨fun h => h ▸ href, fun h => href.unique h⟩

/-- The refinement for three small dimensions. -/
theorem builtinGreedy_eq_reference_small :
    let dims : List (List Nat) := [[0, 1], [0, 1, 2], [5]]
    (∀ d ∈ dims, d ≠ []) ∧
    (∀ (covered : Finset (Key Nat)) (combo : List Nat), newCount dims.length covered combo =
      (projections dims.length combo \ covered).card) ∧
    (∀ covered : Finset (Key Nat), ∃ best,
      IsFirstMax (gain dims.length covered) (product dims) best ∧
      scan dims.length covered (product dims) = (some best, ↑(gain dims.length covered best))) ∧
    (∃ selected, builtinGreedy dims = some selected ∧ IsReferenceGreedy dims selected) ∧
    ∀ selected, builtinGreedy dims = some selected ↔ IsReferenceGreedy dims selected :=
  ⟨by decide, builtinGreedy_eq_reference _ (by decide)⟩

end ChaosScenarios.Greedy
