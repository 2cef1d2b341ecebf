import ChaosScenarios.Greedy.Scan

/-!
# The `while covered < required` loop of the built-in greedy

The loop's locals are `covered` and `selected` (`GreedyState`); one pass of its body is
`body`, the loop itself `whileLoop`, with a fuel argument that counts passes of the body:
it is `none` only when the condition `covered < required` still holds once the fuel is
spent. `builtinGreedy` runs it from `covered = set()`, `selected = []` with `|required|`
passes, which `whileLoop_terminates` shows always suffice.

The loop lemmas are stated for any `all_combos` and `required` such that every pair
projection of a combination is required (`Sound`); `projections_subset_required` gives
that for `product dimensions`. From it: `Inv` holds at the head of every pass (`Reachable`),
and every pass that does not `break` strictly grows `covered` inside `required`.
-/

namespace ChaosScenarios.Greedy
set_option autoImplicit false

variable {α : Type} [DecidableEq α]

/-- The loop's locals `covered` and `selected`. -/
structure GreedyState (α : Type) where
  covered : Finset (Key α)
  selected : List (List α)

/-- `covered, selected = set(), []`. -/
def GreedyState.init : GreedyState α := ⟨∅, []⟩

/-- `for i in range(n): for j in range(i + 1, n): covered.add((i, best_combo[i], j,
best_combo[j]))`. -/
def addPairs (n : Nat) (combo : List α) (covered : Finset (Key α)) : Finset (Key α) :=
  (pairIndices n).foldl (fun cov p => insert (pairKey combo p) cov) covered

/-- One pass of the body: the scan, then `break` (`none`) when `best_combo is None or
best_new == 0`, else `selected.append(best_combo)` and cover its pairs. -/
def body (n : Nat) (allCombos : List (List α)) (s : GreedyState α) : Option (GreedyState α) :=
  match scan n s.covered allCombos with
  | (some bestCombo, bestNew) =>
    if bestNew = 0 then none
    else some ⟨addPairs n bestCombo s.covered, s.selected ++ [bestCombo]⟩
  | (none, _) => none

/-- `while covered < required`, allowed `fuel` passes of the body. -/
def whileLoop (n : Nat) (allCombos : List (List α)) (required : Finset (Key α)) :
    Nat → GreedyState α → Option (GreedyState α)
  | 0, s => if s.covered ⊂ required then none else some s
  | fuel + 1, s =>
    if s.covered ⊂ required then
      match body n allCombos s with
      | none => some s
      | some s' => whileLoop n allCombos required fuel s'
    else some s

/-- The built-in greedy of `pairwise_combinations`, allowed `len(required)` passes. -/
def builtinGreedy (dimensions : List (List α)) : Option (List (List α)) :=
  (whileLoop dimensions.length (product dimensions) (required dimensions)
    (required dimensions).card GreedyState.init).map GreedyState.selected

/-- `C_k`: the pair projections of the combinations in `selected`. -/
def coverage (n : Nat) (selected : List (List α)) : Finset (Key α) :=
  selected.toFinset.biUnion (projections n)

theorem addPairs_eq (n : Nat) (combo : List α) (covered : Finset (Key α)) :
    addPairs n combo covered = covered ∪ projections n combo := by
  suffices ∀ (l : List (Nat × Nat)) (cov : Finset (Key α)),
      l.foldl (fun cov p => insert (pairKey combo p) cov) cov =
        cov ∪ (l.map (pairKey combo)).toFinset from
    this _ _
  intro l
  induction l with
  | nil => simp
  | cons p l ih =>
    intro cov
    rw [List.foldl_cons, ih, List.map_cons, List.toFinset_cons, Finset.insert_union,
      Finset.union_insert]

theorem mem_coverage {n : Nat} {selected : List (List α)} {key : Key α} :
    key ∈ coverage n selected ↔ ∃ c ∈ selected, key ∈ projections n c := by
  simp [coverage]

@[simp] theorem coverage_nil (n : Nat) : coverage n ([] : List (List α)) = ∅ := rfl

theorem coverage_append_singleton (n : Nat) (selected : List (List α)) (combo : List α) :
    coverage n (selected ++ [combo]) = coverage n selected ∪ projections n combo := by
  ext key
  simp only [mem_coverage, Finset.mem_union, List.mem_append, List.mem_singleton]
  constructor
  · rintro ⟨c, hc | rfl, hk⟩
    exacts [Or.inl ⟨c, hc, hk⟩, Or.inr hk]
  · rintro (⟨c, hc, hk⟩ | hk)
    exacts [⟨c, Or.inl hc, hk⟩, ⟨combo, Or.inr rfl, hk⟩]

section Body
variable {n : Nat} {allCombos : List (List α)} {s s' : GreedyState α}

/-- A pass that does not `break` appends the first maximiser of `new`, which is positive. -/
theorem body_eq_some (h : body n allCombos s = some s') :
    ∃ c, IsFirstMax (newCount n s.covered) allCombos c ∧ 0 < newCount n s.covered c ∧
      s' = ⟨s.covered ∪ projections n c, s.selected ++ [c]⟩ := by
  rcases eq_or_ne allCombos [] with rfl | hne
  · simp [body] at h
  obtain ⟨c, hc, hscan⟩ := scan_spec n s.covered hne
  simp only [body, hscan, Int.natCast_eq_zero] at h
  split_ifs at h with h0
  exact ⟨c, hc, Nat.pos_of_ne_zero h0, by rw [← Option.some.inj h, addPairs_eq]⟩

/-- The body breaks exactly when no combination has positive `new`. -/
theorem body_eq_none : body n allCombos s = none ↔ ∀ c ∈ allCombos, newCount n s.covered c = 0 := by
  rcases eq_or_ne allCombos [] with rfl | hne
  · simp [body]
  obtain ⟨c, hc, hscan⟩ := scan_spec n s.covered hne
  simp only [body, hscan, Int.natCast_eq_zero]
  split_ifs with h0
  · simp only [true_iff]
    intro d hd
    have := hc.le d hd
    omega
  · simp only [reduceCtorEq, false_iff, not_forall]
    exact ⟨c, hc.mem, h0⟩

end Body

section Run
variable {n : Nat} {allCombos : List (List α)} {required : Finset (Key α)}

/-- Every pair projection of a combination in `all_combos` is required. -/
def Sound (n : Nat) (allCombos : List (List α)) (required : Finset (Key α)) : Prop :=
  ∀ c ∈ allCombos, projections n c ⊆ required

/-- Each selected combination was, when picked, the first maximiser of `new` over
`all_combos` against the coverage of those before it, with positive `new`, while that
coverage fell short of `required`. -/
def GreedyTrace (n : Nat) (allCombos : List (List α)) (required : Finset (Key α))
    (selected : List (List α)) : Prop :=
  ∀ k (hk : k < selected.length), coverage n (selected.take k) ⊂ required ∧
    IsFirstMax (newCount n (coverage n (selected.take k))) allCombos selected[k] ∧
    0 < newCount n (coverage n (selected.take k)) selected[k]

theorem GreedyTrace.nil : GreedyTrace n allCombos required [] :=
  fun k hk => absurd hk (Nat.not_lt_zero k)

theorem GreedyTrace.snoc {selected : List (List α)} {c : List α}
    (h : GreedyTrace n allCombos required selected) (hsub : coverage n selected ⊂ required)
    (hmax : IsFirstMax (newCount n (coverage n selected)) allCombos c)
    (hpos : 0 < newCount n (coverage n selected) c) :
    GreedyTrace n allCombos required (selected ++ [c]) := by
  intro k hk
  rw [List.length_append, List.length_singleton] at hk
  rcases Nat.lt_succ_iff_lt_or_eq.1 hk with hk | rfl
  · rw [List.take_append_of_le_length hk.le, List.getElem_append_left hk]
    exact h k hk
  · simpa using ⟨hsub, hmax, hpos⟩

/-- The invariant at the head of every pass. -/
structure Inv (n : Nat) (allCombos : List (List α)) (required : Finset (Key α))
    (s : GreedyState α) : Prop where
  covered_eq : s.covered = coverage n s.selected
  subset : s.covered ⊆ required
  trace : GreedyTrace n allCombos required s.selected

theorem Inv.init : Inv n allCombos required GreedyState.init :=
  ⟨rfl, Finset.empty_subset _, GreedyTrace.nil⟩

/-- One pass from a state where `covered < required` keeps the invariant and strictly
grows `covered`. -/
theorem Inv.body (sound : Sound n allCombos required) {s s' : GreedyState α}
    (h : Inv n allCombos required s) (hcond : s.covered ⊂ required)
    (hb : body n allCombos s = some s') :
    Inv n allCombos required s' ∧ s.covered ⊂ s'.covered := by
  obtain ⟨c, hmax, hpos, rfl⟩ := body_eq_some hb
  have hsub := h.subset
  rw [h.covered_eq] at hmax hpos hcond hsub ⊢
  refine ⟨⟨coverage_append_singleton n _ c ▸ rfl, Finset.union_subset hsub (sound c hmax.mem),
    h.trace.snoc hcond hmax hpos⟩, ?_⟩
  obtain ⟨key, hkey⟩ := Finset.card_pos.1 (newCount_eq_card n _ c ▸ hpos)
  rw [Finset.mem_sdiff] at hkey
  exact (Finset.ssubset_iff_of_subset Finset.subset_union_left).2
    ⟨key, Finset.mem_union_right _ hkey.1, hkey.2⟩

/-- The states at the head of a pass, where `covered < required` is about to be tested. -/
inductive Reachable (n : Nat) (allCombos : List (List α)) (required : Finset (Key α)) :
    GreedyState α → Prop
  | init : Reachable n allCombos required GreedyState.init
  | step {s s' : GreedyState α} : Reachable n allCombos required s → s.covered ⊂ required →
      body n allCombos s = some s' → Reachable n allCombos required s'

theorem Reachable.inv (sound : Sound n allCombos required) {s : GreedyState α}
    (h : Reachable n allCombos required s) : Inv n allCombos required s := by
  induction h with
  | init => exact Inv.init
  | step _ hcond hb ih => exact (ih.body sound hcond hb).1

/-- The run stops at a reachable state where `covered < required` fails or the body
breaks. -/
theorem whileLoop_exit {fuel : Nat} {s r : GreedyState α} (h : Reachable n allCombos required s)
    (hr : whileLoop n allCombos required fuel s = some r) :
    Reachable n allCombos required r ∧ (r.covered ⊂ required → body n allCombos r = none) := by
  induction fuel generalizing s with
  | zero =>
    simp only [whileLoop] at hr
    split_ifs at hr with hc
    cases hr
    exact ⟨h, fun h' => absurd h' hc⟩
  | succ fuel ih =>
    simp only [whileLoop] at hr
    split_ifs at hr with hc
    · cases hb : body n allCombos s with
      | none => rw [hb] at hr; cases hr; exact ⟨h, fun _ => hb⟩
      | some s' => rw [hb] at hr; exact ih (h.step hc hb) hr
    · cases hr
      exact ⟨h, fun h' => absurd h' hc⟩

/-- Fuel is counted in passes: once the loop has stopped, more fuel changes nothing. -/
theorem whileLoop_succ {fuel : Nat} {s r : GreedyState α}
    (hr : whileLoop n allCombos required fuel s = some r) :
    whileLoop n allCombos required (fuel + 1) s = some r := by
  induction fuel generalizing s with
  | zero =>
    simp only [whileLoop] at hr ⊢
    split_ifs at hr ⊢
    exact hr
  | succ fuel ih =>
    rw [whileLoop] at hr ⊢
    split_ifs at hr ⊢
    · cases hb : body n allCombos s with
      | none => simpa only [hb] using hr
      | some s' => simp only [hb] at hr ⊢; exact ih hr
    · exact hr

theorem whileLoop_mono {fuel fuel' : Nat} {s r : GreedyState α}
    (hr : whileLoop n allCombos required fuel s = some r) (hle : fuel ≤ fuel') :
    whileLoop n allCombos required fuel' s = some r := by
  induction fuel', hle using Nat.le_induction with
  | base => exact hr
  | succ _ _ ih => exact whileLoop_succ ih

/-- Termination: from the invariant, `|required| - |covered|` passes suffice. -/
theorem whileLoop_terminates (sound : Sound n allCombos required) {fuel : Nat}
    {s : GreedyState α} (h : Inv n allCombos required s)
    (hfuel : required.card - s.covered.card ≤ fuel) :
    ∃ r, whileLoop n allCombos required fuel s = some r := by
  induction fuel generalizing s with
  | zero =>
    have hc : ¬ s.covered ⊂ required := fun hc => by
      have := Finset.card_lt_card hc
      omega
    exact ⟨s, by simp [whileLoop, hc]⟩
  | succ fuel ih =>
    rw [whileLoop]
    split_ifs with hc
    · cases hb : body n allCombos s with
      | none => exact ⟨s, rfl⟩
      | some s' =>
        obtain ⟨h', hlt⟩ := h.body sound hc hb
        have := Finset.card_lt_card hlt
        have := Finset.card_le_card h'.subset
        exact ih h' (by omega)
    · exact ⟨s, rfl⟩

end Run

end ChaosScenarios.Greedy
