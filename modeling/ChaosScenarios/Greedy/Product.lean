import Mathlib.Data.Finset.Card
import Mathlib.Data.List.Forall2

/-!
# `itertools.product` and the `required` set of `pairwise_combinations`

The built-in greedy of `pairwise_combinations` works over
`all_combos = list(itertools.product(*dimensions))` and over the set `required` of every
`(i, vi, j, vj)` with `i < j < n`, `vi ∈ dimensions[i]`, `vj ∈ dimensions[j]`; `covered`
holds tuples of the same shape, `(i, combo[i], j, combo[j])`. This module models the three
and shows that they fit: a combination's pair projections are all required
(`projections_subset_required`), and when no dimension is empty every requirement is a
projection of some combination (`exists_mem_product_of_mem_required`).
-/

namespace ChaosScenarios.Greedy
set_option autoImplicit false

variable {α : Type}

/-- `itertools.product(*dimensions)`: the first dimension varies slowest. -/
def product : List (List α) → List (List α)
  | [] => [[]]
  | d :: ds => d.flatMap fun v => (product ds).map (v :: ·)

/-- The tuples `(i, vi, j, vj)` of `required` and `covered`. Indexing a combination is
`combo[i]?`: every combination of `product dimensions` has length `n`, so it is `some`. -/
abbrev Key (α : Type) := Nat × Option α × Nat × Option α

/-- The index pairs of `for i in range(n) for j in range(i + 1, n)`, in loop order. -/
def pairIndices (n : Nat) : List (Nat × Nat) :=
  (List.range n).flatMap fun i => (List.range' (i + 1) (n - (i + 1))).map fun j => (i, j)

/-- `(i, combo[i], j, combo[j])`. -/
def pairKey (combo : List α) (p : Nat × Nat) : Key α :=
  (p.1, combo[p.1]?, p.2, combo[p.2]?)

theorem mem_pairIndices {n : Nat} {p : Nat × Nat} : p ∈ pairIndices n ↔ p.1 < p.2 ∧ p.2 < n := by
  obtain ⟨i, j⟩ := p
  simp only [pairIndices, List.mem_flatMap, List.mem_range, List.mem_map, List.mem_range'_1,
    Prod.mk.injEq]
  constructor
  · rintro ⟨i, -, j, hj, rfl, rfl⟩
    omega
  · intro h
    exact ⟨i, by omega, j, by omega, rfl, rfl⟩

theorem pairIndices_nodup (n : Nat) : (pairIndices n).Nodup := by
  refine List.nodup_flatMap.2 ⟨fun i _ => (List.nodup_range' _ _).map fun _ _ h => ?_, ?_⟩
  · exact (Prod.mk.inj h).2
  · refine (List.nodup_range n).pairwise_of_forall_ne fun i _ i' _ hne => ?_
    simp only [Function.onFun, List.disjoint_left, List.mem_map]
    rintro _ ⟨j, -, rfl⟩ ⟨j', -, h⟩
    exact hne (Prod.mk.inj h).1.symm

theorem pairKey_injective (combo : List α) : Function.Injective (pairKey combo) := by
  rintro ⟨i, j⟩ ⟨i', j'⟩ h
  simp only [pairKey, Prod.mk.injEq] at h
  rw [h.1, h.2.2.1]

/-- A combination of `product dimensions` takes one value of each dimension, in order. -/
theorem mem_product {dimensions : List (List α)} {combo : List α} :
    combo ∈ product dimensions ↔ List.Forall₂ (fun v d => v ∈ d) combo dimensions := by
  induction dimensions generalizing combo with
  | nil => simp [product, eq_comm]
  | cons d ds ih =>
    cases combo with
    | nil => simp [product]
    | cons v vs => simp [product, ih]

theorem mem_getD_of_forall₂ {combo : List α} {dimensions : List (List α)}
    (h : List.Forall₂ (fun v d => v ∈ d) combo dimensions) {i : Nat} {v : α}
    (hv : combo[i]? = some v) : v ∈ dimensions.getD i [] := by
  induction h generalizing i with
  | nil => simp at hv
  | cons hd _ ih =>
    cases i with
    | zero =>
      simp only [List.getElem?_cons_zero, Option.some.injEq] at hv
      exact hv ▸ hd
    | succ i =>
      simp only [List.getElem?_cons_succ] at hv
      exact ih hv

theorem forall₂_set {combo : List α} {dimensions : List (List α)}
    (h : List.Forall₂ (fun v d => v ∈ d) combo dimensions) {i : Nat} {v : α}
    (hv : v ∈ dimensions.getD i []) :
    List.Forall₂ (fun v d => v ∈ d) (combo.set i v) dimensions := by
  induction h generalizing i with
  | nil => simp at hv
  | cons hd htl ih =>
    cases i with
    | zero => exact List.Forall₂.cons hv htl
    | succ i => exact List.Forall₂.cons hd (ih hv)

theorem exists_mem_product {dimensions : List (List α)} (hne : ∀ d ∈ dimensions, d ≠ []) :
    ∃ combo, combo ∈ product dimensions := by
  induction dimensions with
  | nil => exact ⟨[], by simp [product]⟩
  | cons d ds ih =>
    obtain ⟨v, hv⟩ := List.exists_mem_of_ne_nil d (hne d (by simp))
    obtain ⟨c, hc⟩ := ih fun d' h => hne d' (by simp [h])
    exact ⟨v :: c, mem_product.2 (List.Forall₂.cons hv (mem_product.1 hc))⟩

/-- An empty dimension leaves no combination. -/
theorem product_eq_nil_of_nil_mem {dimensions : List (List α)} (h : [] ∈ dimensions) :
    product dimensions = [] := by
  induction dimensions with
  | nil => exact absurd h (List.not_mem_nil _)
  | cons d ds ih =>
    rcases List.mem_cons.1 h with rfl | h
    · rfl
    · simp [product, ih h]

/-- `|product dimensions|` is the product of the dimension sizes. -/
theorem length_product (dimensions : List (List α)) :
    (product dimensions).length = (dimensions.map List.length).foldr (· * ·) 1 := by
  induction dimensions with
  | nil => rfl
  | cons d ds ih =>
    simp [product, List.length_flatMap, Function.comp_def, ih, List.map_const', List.sum_replicate]

/-- The enumeration order: the first dimension varies slowest. Entry `k` of
`product (d :: ds)` takes value `k / m` of `d` and entry `k % m` of `product ds`, where
`m = |product ds|`; out of range, both sides are `none`. -/
theorem getElem?_product_cons (d : List α) (ds : List (List α)) (k : Nat) :
    (product (d :: ds))[k]? = d[k / (product ds).length]?.bind fun v =>
      (product ds)[k % (product ds).length]?.map (v :: ·) := by
  rcases Nat.eq_zero_or_pos (product ds).length with hL | hL
  · simp [product, List.eq_nil_of_length_eq_zero hL, Function.comp_def]
  simp only [product]
  induction d generalizing k with
  | nil => simp
  | cons v d ih =>
    rw [List.flatMap_cons, List.getElem?_append, List.length_map]
    by_cases hk : k < (product ds).length
    · rw [if_pos hk, List.getElem?_map, Nat.div_eq_of_lt hk, Nat.mod_eq_of_lt hk,
        List.getElem?_cons_zero, Option.some_bind]
    · rw [if_neg hk, ih, Nat.div_eq_sub_div hL (not_lt.1 hk), Nat.mod_eq_sub_mod (not_lt.1 hk),
        List.getElem?_cons_succ]

/-- With no repeated value in any dimension, no combination is enumerated twice. -/
theorem nodup_product {dimensions : List (List α)} (h : ∀ d ∈ dimensions, d.Nodup) :
    (product dimensions).Nodup := by
  induction dimensions with
  | nil => simp [product]
  | cons d ds ih =>
    have hds := ih fun d' hd' => h d' (List.mem_cons_of_mem d hd')
    refine List.nodup_flatMap.2 ⟨fun v _ => hds.map (List.cons_injective), ?_⟩
    refine (h d (List.mem_cons_self d ds)).pairwise_of_forall_ne fun v _ w _ hne => ?_
    simp only [Function.onFun, List.disjoint_left, List.mem_map]
    rintro _ ⟨c, -, rfl⟩ ⟨c', -, h'⟩
    exact hne (List.cons.inj h').1.symm

/-- Three dimensions without repeated values. -/
theorem nodup_product_small :
    (∀ d ∈ ([[0, 1], [0, 1, 2], [5]] : List (List Nat)), d.Nodup) ∧
    (product ([[0, 1], [0, 1, 2], [5]] : List (List Nat))).Nodup :=
  ⟨by decide, nodup_product (by decide)⟩

/-- When no dimension is empty, every value of every dimension appears in a combination. -/
theorem exists_mem_product_of_mem {dimensions : List (List α)} (hne : ∀ d ∈ dimensions, d ≠ [])
    {i : Nat} (hi : i < dimensions.length) {v : α} (hv : v ∈ dimensions[i]) :
    ∃ combo ∈ product dimensions, combo[i]? = some v := by
  obtain ⟨c, hc⟩ := exists_mem_product hne
  have hc₂ := mem_product.1 hc
  have hv' : v ∈ dimensions.getD i [] := by simpa [List.getD_eq_getElem?_getD, hi] using hv
  refine ⟨c.set i v, mem_product.2 (forall₂_set hc₂ hv'), ?_⟩
  simp [List.getElem?_set, hc₂.length_eq, hi]

/-- Value `2` of the middle dimension appears. -/
theorem exists_mem_product_of_mem_small :
    (∀ d ∈ ([[0, 1], [0, 1, 2], [5]] : List (List Nat)), d ≠ []) ∧
    1 < ([[0, 1], [0, 1, 2], [5]] : List (List Nat)).length ∧
    2 ∈ ([[0, 1], [0, 1, 2], [5]] : List (List Nat))[1] ∧
    ∃ combo ∈ product [[0, 1], [0, 1, 2], [5]], combo[1]? = some 2 :=
  ⟨by decide, by decide, by decide, exists_mem_product_of_mem (by decide) (by decide) (by decide)⟩

variable [DecidableEq α]

/-- The set comprehension `required`, in the source's loop order. -/
def required (dimensions : List (List α)) : Finset (Key α) :=
  ((pairIndices dimensions.length).flatMap fun p =>
    (dimensions.getD p.1 []).flatMap fun vi =>
      (dimensions.getD p.2 []).map fun vj => (p.1, some vi, p.2, some vj)).toFinset

/-- The pair projections `{(i, c[i], j, c[j]) : i < j < n}` of one combination: what one
pass of `covered.add` inserts. -/
def projections (n : Nat) (combo : List α) : Finset (Key α) :=
  ((pairIndices n).map (pairKey combo)).toFinset

theorem mem_projections {n : Nat} {combo : List α} {key : Key α} :
    key ∈ projections n combo ↔ ∃ i j, i < j ∧ j < n ∧ key = (i, combo[i]?, j, combo[j]?) := by
  simp only [projections, List.mem_toFinset, List.mem_map, mem_pairIndices, pairKey]
  constructor
  · rintro ⟨⟨i, j⟩, h, rfl⟩
    exact ⟨i, j, h.1, h.2, rfl⟩
  · rintro ⟨i, j, hij, hj, rfl⟩
    exact ⟨(i, j), ⟨hij, hj⟩, rfl⟩

theorem mem_required {dimensions : List (List α)} {key : Key α} :
    key ∈ required dimensions ↔ ∃ i j, i < j ∧ j < dimensions.length ∧
      ∃ v ∈ dimensions.getD i [], ∃ w ∈ dimensions.getD j [], key = (i, some v, j, some w) := by
  simp only [required, List.mem_toFinset, List.mem_flatMap, List.mem_map, mem_pairIndices]
  constructor
  · rintro ⟨⟨i, j⟩, h, v, hv, w, hw, rfl⟩
    exact ⟨i, j, h.1, h.2, v, hv, w, hw, rfl⟩
  · rintro ⟨i, j, hij, hj, v, hv, w, hw, rfl⟩
    exact ⟨(i, j), ⟨hij, hj⟩, v, hv, w, hw, rfl⟩

/-- Every pair projection of a combination is a requirement. -/
theorem projections_subset_required {dimensions : List (List α)} {combo : List α}
    (h : combo ∈ product dimensions) :
    projections dimensions.length combo ⊆ required dimensions := by
  have h₂ := mem_product.1 h
  have hlen := h₂.length_eq
  intro key hk
  obtain ⟨i, j, hij, hj, rfl⟩ := mem_projections.1 hk
  have hi : combo[i]? = some combo[i] := List.getElem?_eq_getElem (by omega)
  have hj' : combo[j]? = some combo[j] := List.getElem?_eq_getElem (by omega)
  exact mem_required.2 ⟨i, j, hij, hj, _, mem_getD_of_forall₂ h₂ hi, _, mem_getD_of_forall₂ h₂ hj',
    by simp only [hi, hj']⟩

/-- When no dimension is empty, every requirement is a pair projection of a combination:
fix the two values and take any value elsewhere. -/
theorem exists_mem_product_of_mem_required {dimensions : List (List α)}
    (hne : ∀ d ∈ dimensions, d ≠ []) {key : Key α} (hk : key ∈ required dimensions) :
    ∃ combo ∈ product dimensions, key ∈ projections dimensions.length combo := by
  obtain ⟨i, j, hij, hj, v, hv, w, hw, rfl⟩ := mem_required.1 hk
  obtain ⟨c, hc⟩ := exists_mem_product hne
  have hc₂ := mem_product.1 hc
  have hlen := hc₂.length_eq
  refine ⟨(c.set i v).set j w, mem_product.2 (forall₂_set (forall₂_set hc₂ hv) hw),
    mem_projections.2 ⟨i, j, hij, hj, ?_⟩⟩
  simp only [List.getElem?_set, List.length_set, if_neg (Nat.ne_of_lt hij).symm, if_pos trivial,
    if_pos (show i < c.length by omega), if_pos (show j < c.length by omega)]

end ChaosScenarios.Greedy
