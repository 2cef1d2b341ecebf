import ChaosScenarios.Greedy.Product

/-!
# The inner scan of the greedy loop

Each pass of `while covered < required` scans `all_combos`, scoring a combination by
`new`, the number of index pairs `i < j < n` whose tuple `(i, combo[i], j, combo[j])` is
not yet in `covered`, and keeps `best_combo` under the strict update
`if new > best_new` from `best_combo, best_new = None, -1`.

`newCount_eq_card` says `new` is the number of the combination's pair projections that
are not covered (no pair is counted twice), and `scan_spec` that the scan returns the
first maximiser of `new` in `all_combos` order, as `IsFirstMax` states it.
-/

namespace ChaosScenarios.Greedy
set_option autoImplicit false

/-- `x` is the first maximiser of `f` in `l`: every element before `x` scores strictly
less, and none after it scores more. -/
def IsFirstMax {β : Type} (f : β → Nat) (l : List β) (x : β) : Prop :=
  ∃ pre post, l = pre ++ x :: post ∧ (∀ y ∈ pre, f y < f x) ∧ ∀ y ∈ post, f y ≤ f x

section FirstMax
variable {β : Type} {f : β → Nat} {l : List β} {x y : β}

theorem IsFirstMax.mem (h : IsFirstMax f l x) : x ∈ l := by
  obtain ⟨pre, post, rfl, -, -⟩ := h
  simp

theorem IsFirstMax.le (h : IsFirstMax f l x) : ∀ z ∈ l, f z ≤ f x := by
  obtain ⟨pre, post, rfl, hpre, hpost⟩ := h
  intro z hz
  simp only [List.mem_append, List.mem_cons] at hz
  rcases hz with hz | rfl | hz
  · exact (hpre z hz).le
  · exact le_rfl
  · exact hpost z hz

theorem isFirstMax_singleton : IsFirstMax f [x] x :=
  ⟨[], [], rfl, by simp, by simp⟩

/-- A later element that scores strictly more takes over. -/
theorem IsFirstMax.snoc_of_lt (h : IsFirstMax f l x) (hlt : f x < f y) :
    IsFirstMax f (l ++ [y]) y :=
  ⟨l, [], rfl, fun z hz => (h.le z hz).trans_lt hlt, by simp⟩

/-- A later element that scores no more leaves the first maximiser in place. -/
theorem IsFirstMax.snoc_of_le (h : IsFirstMax f l x) (hle : f y ≤ f x) :
    IsFirstMax f (l ++ [y]) x := by
  obtain ⟨pre, post, rfl, hpre, hpost⟩ := h
  refine ⟨pre, post ++ [y], by simp, hpre, ?_⟩
  simp only [List.mem_append, List.mem_singleton]
  rintro z (hz | rfl)
  exacts [hpost z hz, hle]

/-- The first maximiser is unique: of two at different positions, the later one would score
strictly less than the earlier. -/
theorem IsFirstMax.unique (hx : IsFirstMax f l x) (hy : IsFirstMax f l y) : x = y := by
  have hyx := hx.le y hy.mem
  have hxy := hy.le x hx.mem
  obtain ⟨pre, post, rfl, hpre, -⟩ := hx
  obtain ⟨pre', post', heq, hpre', -⟩ := hy
  rcases List.append_eq_append_iff.1 heq with ⟨_ | ⟨z, mid⟩, rfl, h⟩ | ⟨_ | ⟨z, mid⟩, rfl, h⟩
  · exact (List.cons.inj h).1
  · obtain ⟨rfl, -⟩ := List.cons.inj h
    have := hpre' x (by simp)
    omega
  · exact (List.cons.inj h).1.symm
  · obtain ⟨rfl, -⟩ := List.cons.inj h
    have := hpre y (by simp)
    omega

end FirstMax

variable {α : Type} [DecidableEq α]

/-- `new = sum(1 for i in range(n) for j in range(i + 1, n)
if (i, combo[i], j, combo[j]) not in covered)`. -/
def newCount (n : Nat) (covered : Finset (Key α)) (combo : List α) : Nat :=
  (pairIndices n).countP fun p => pairKey combo p ∉ covered

/-- One pass of `for combo in all_combos`: `if new > best_new: best_new, best_combo = new,
combo`, on the pair `(best_combo, best_new)`. -/
def scanStep (n : Nat) (covered : Finset (Key α)) (best : Option (List α) × Int)
    (combo : List α) : Option (List α) × Int :=
  let new := newCount n covered combo
  if best.2 < new then (some combo, new) else best

/-- The inner loop, from `best_combo, best_new = None, -1`. -/
def scan (n : Nat) (covered : Finset (Key α)) (allCombos : List (List α)) :
    Option (List α) × Int :=
  allCombos.foldl (scanStep n covered) (none, -1)

/-- `new` counts each uncovered pair projection once. -/
theorem newCount_eq_card (n : Nat) (covered : Finset (Key α)) (combo : List α) :
    newCount n covered combo = (projections n combo \ covered).card := by
  have nodup := ((pairIndices_nodup n).filter (fun p => decide (pairKey combo p ∉ covered))).map
    (pairKey_injective combo)
  rw [newCount, List.countP_eq_length_filter, ← List.length_map _ (pairKey combo),
    ← List.toFinset_card_of_nodup nodup]
  congr 1
  ext key
  simp only [projections, List.mem_toFinset, List.mem_map, List.mem_filter, Finset.mem_sdiff,
    decide_eq_true_eq]
  constructor
  · rintro ⟨p, ⟨hp, hk⟩, rfl⟩
    exact ⟨⟨p, hp, rfl⟩, hk⟩
  · rintro ⟨⟨p, hp, rfl⟩, hk⟩
    exact ⟨p, ⟨hp, hk⟩, rfl⟩

@[simp] theorem scan_nil (n : Nat) (covered : Finset (Key α)) :
    scan n covered [] = (none, -1) := rfl

theorem scan_append_singleton (n : Nat) (covered : Finset (Key α)) (l : List (List α))
    (combo : List α) :
    scan n covered (l ++ [combo]) = scanStep n covered (scan n covered l) combo :=
  List.foldl_append _ _ _ _

/-- The scan returns the first maximiser of `new`, together with its score. -/
theorem scan_spec (n : Nat) (covered : Finset (Key α)) {allCombos : List (List α)}
    (hne : allCombos ≠ []) : ∃ best, IsFirstMax (newCount n covered) allCombos best ∧
      scan n covered allCombos = (some best, ↑(newCount n covered best)) := by
  induction allCombos using List.reverseRecOn with
  | nil => exact absurd rfl hne
  | append_singleton l combo ih =>
    rw [scan_append_singleton]
    rcases eq_or_ne l [] with rfl | hl
    · exact ⟨combo, isFirstMax_singleton, by simp [scanStep]; omega⟩
    · obtain ⟨best, hbest, hscan⟩ := ih hl
      rw [hscan]
      by_cases hlt : newCount n covered best < newCount n covered combo
      · exact ⟨combo, hbest.snoc_of_lt hlt, by simp [scanStep, hlt]⟩
      · exact ⟨best, hbest.snoc_of_le (not_lt.1 hlt), by simp [scanStep, hlt]⟩

end ChaosScenarios.Greedy
