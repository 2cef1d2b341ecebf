import ChaosScenarios.Naming
import ChaosScenarios.FileSystem

/-!
# `main`'s loop

Without `--list`, `main` takes the combinations of the chosen strategy and, for each, runs
`build_scenario`, renders the record, looks up the fault type's category, runs
`os.makedirs(out_dir, exist_ok=True)` for `out_dir = os.path.join(output, category)`, and
writes the text to `os.path.join(out_dir, f"{name}.yaml")`, counting `written`. Nothing is
checked beforehand: an exception stops the loop, and what the passes before it wrote, with
the directories the failing pass made, stays on disk. One pass is `writeStep`, the loop
`writeLoop`, which returns the disk and `written` it ends with and the exception that
stopped it; `to_yaml` and the `${ENCLAVE_NAME}` substitution stay abstract as `render`.

What a pass can do is said once, by two inversion lemmas: it returns when the scenario is
made, `makedirs` returns and `open` writes (`writeStep_eq_none`), and it raises the lookup's
`KeyError` or `ValueError` with the disk untouched, or an `OSError` after `makedirs`
(`writeStep_eq_some`). From them, a pass keeps every directory and every file, makes
directories only where nothing was, and changes a file only by writing its own
(`writeStep_node`). Over the loop: an exception arises at some pass after the passes before
it returned (`writeLoop_error`); a file no later pass writes over stays (`writeLoop_file`);
and a lookup error stops the loop at the first combination whose scenario cannot be made,
with the files before it on disk (`writeAll_eq_error`).
-/

namespace ChaosScenarios
set_option autoImplicit false
open Greedy Scenario

/-- The exceptions of `main`'s loop: `KeyError(key)` from a table lookup, `ValueError` when
`for ft, tt, sv in combos` unpacks an entry that is not a triple, and an `OSError` from
`os.makedirs` or `open`. -/
inductive MainError where
  | keyError (key : String)
  | valueError
  | osError
  deriving DecidableEq, Repr

/-- What a pass of `main`'s loop makes of a combination: `out_dir`, the file name
`f"{name}.yaml"` and the rendered text. -/
structure ScenarioFile where
  outDir : String
  fileName : String
  content : String
  deriving DecidableEq, Repr

/-- `out_path = os.path.join(out_dir, f"{name}.yaml")`. -/
def ScenarioFile.outPath (f : ScenarioFile) : String :=
  pathJoin f.outDir f.fileName

/-- The lookups of one pass: the scenario `build_scenario` returns, rendered by `render`
(`to_yaml`, then the `${ENCLAVE_NAME}` substitution), filed under
`os.path.join(output, FAULT_DEFINITIONS[ft]["category"])` as `f"{name}.yaml"`. -/
def scenarioFile (t : Tables) (render : ScenarioRecord → String) (output : String) :
    List String → Except MainError ScenarioFile
  | [ft, tt, sv] => do
    let scenario ← (buildScenario t ft tt sv).mapError .keyError
    let content := render scenario
    let category := (← (lookup t.faultDefinitions ft).mapError .keyError).category
    pure ⟨pathJoin output category, scenario.metadata.name ++ ".yaml", content⟩
  | _ => .error .valueError

/-- One pass of `main`'s loop on the disk `d`: the lookups, `os.makedirs(out_dir,
exist_ok=True)`, then `open(out_path, "w").write(content)`. The disk it leaves and the
exception it raises, if any; a `makedirs` that raises keeps the directories it made. -/
def writeStep (t : Tables) (render : ScenarioRecord → String) (output : String) (d : Disk)
    (combo : List String) : Disk × Option MainError :=
  match scenarioFile t render output combo with
  | .error e => (d, some e)
  | .ok file =>
    match makedirs d file.outDir with
    | (d', false) => (d', some .osError)
    | (d', true) =>
      match writeFile d' file.outPath file.content with
      | some d'' => (d'', none)
      | none => (d', some .osError)

/-- `main`'s loop `for ft, tt, sv in combos` from the disk and `written`: the disk and
`written` it ends with, and the exception that stopped it, if any. -/
def writeLoop (t : Tables) (render : ScenarioRecord → String) (output : String) :
    List (List String) → Disk × Nat → (Disk × Nat) × Option MainError
  | [], st => (st, none)
  | combo :: combos, st =>
    match writeStep t render output st.1 combo with
    | (d, none) => writeLoop t render output combos (d, st.2 + 1)
    | (d, some e) => ((d, st.2), some e)

/-- The loop from the disk `disk` and `written = 0`. -/
def writeAll (t : Tables) (render : ScenarioRecord → String) (output : String)
    (combos : List (List String)) (disk : Disk) : (Disk × Nat) × Option MainError :=
  writeLoop t render output combos (disk, 0)

/-- `main` without `--list`: `pairwise_combinations()` under `--pairwise`, else
`full_combinations()`, then the loop. `allPairs` is `AllPairs` when `allpairspy` imports. -/
def main (t : Tables) (allPairs : Option (List (List String) → List (List String)))
    (pairwise : Bool) (render : ScenarioRecord → String) (output : String) (disk : Disk) :
    Option ((Disk × Nat) × Option MainError) :=
  (if pairwise then pairwiseCombinations allPairs t else some (fullCombinations t)).map
    fun combos => writeAll t render output combos disk

/-- No two combinations of `combos` write one file: their output paths resolve, from the
working directory `cwd`, to different places. -/
def SeparateFiles (t : Tables) (render : ScenarioRecord → String) (output : String)
    (cwd : List String) (combos : List (List String)) : Prop :=
  ∀ c₁ ∈ combos, ∀ c₂ ∈ combos, ∀ f₁ f₂, scenarioFile t render output c₁ = .ok f₁ →
    scenarioFile t render output c₂ = .ok f₂ →
      resolve cwd f₁.outPath = resolve cwd f₂.outPath → c₁ = c₂

section Step
variable {t : Tables} {render : ScenarioRecord → String} {output : String} {d d' : Disk}
  {combo : List String}

/-- A pass returns exactly when the scenario is made, `makedirs` returns and `open` writes. -/
theorem writeStep_eq_none :
    writeStep t render output d combo = (d', none) ↔
      ∃ f, scenarioFile t render output combo = .ok f ∧ ∃ d₁,
        makedirs d f.outDir = (d₁, true) ∧ writeFile d₁ f.outPath f.content = some d' := by
  unfold writeStep
  split
  · next e he => simp [he]
  · next f hf =>
    simp only [hf, Except.ok.injEq, exists_eq_left']
    rcases hmk : makedirs d f.outDir with ⟨d₁, _ | _⟩
    · simp
    · cases hw : writeFile d₁ f.outPath f.content <;> simp [hw]

/-- A pass raises a lookup's exception with the disk untouched, or an `OSError` from
`makedirs`, or from `open` after `makedirs` returned. -/
theorem writeStep_eq_some {e : MainError} :
    writeStep t render output d combo = (d', some e) ↔
      (scenarioFile t render output combo = .error e ∧ d' = d) ∨
      ∃ f, scenarioFile t render output combo = .ok f ∧ e = .osError ∧
        (makedirs d f.outDir = (d', false) ∨
          makedirs d f.outDir = (d', true) ∧ writeFile d' f.outPath f.content = none) := by
  unfold writeStep
  split
  · next e' he => simp [he, eq_comm, and_comm]
  · next f hf =>
    simp only [hf, Except.ok.injEq, exists_eq_left', reduceCtorEq, false_and, false_or]
    split
    · next d₁ hmk =>
      rw [hmk]
      constructor
      · rintro ⟨⟩
        exact ⟨rfl, .inl rfl⟩
      · rintro ⟨rfl, h | ⟨h, -⟩⟩ <;> cases h
        rfl
    · next d₁ hmk =>
      rw [hmk]
      split
      · next d₂ hw =>
        constructor
        · rintro ⟨⟩
        · rintro ⟨-, h | ⟨h, hw'⟩⟩ <;> cases h
          rw [hw] at hw'
          cases hw'
      · next hw =>
        constructor
        · rintro ⟨⟩
          exact ⟨rfl, .inr ⟨rfl, hw⟩⟩
        · rintro ⟨rfl, h | ⟨h, -⟩⟩ <;> cases h
          rfl

/-- A pass keeps the working directory and leaves each path as it was, makes a directory
where nothing was, or, when it returns, puts its own file at its output path, which was no
directory. -/
theorem writeStep_node {r : Option MainError} (h : writeStep t render output d combo = (d', r)) :
    d'.cwd = d.cwd ∧ ∀ p, d'.node p = d.node p ∨ d.node p = none ∧ d'.node p = some .dir ∨
      ∃ f, scenarioFile t render output combo = .ok f ∧ r = none ∧ p = resolve d.cwd f.outPath ∧
        d.node p ≠ some .dir ∧ d'.node p = some (.file f.content) := by
  have hmk : ∀ {f : ScenarioFile} {d₁ : Disk} {b : Bool}, makedirs d f.outDir = (d₁, b) →
      d₁.cwd = d.cwd ∧ ∀ p, d₁.node p = d.node p ∨ d.node p = none ∧ d₁.node p = some .dir :=
    fun {f _ _} hm => by simpa [hm] using makedirs_mono d f.outDir
  cases r with
  | none =>
    obtain ⟨f, hf, d₁, hm, hw⟩ := writeStep_eq_none.1 h
    obtain ⟨hcwd, hmono⟩ := hmk hm
    obtain ⟨-, -, hnd, rfl⟩ := writeFile_eq_some.1 hw
    refine ⟨hcwd, fun p => ?_⟩
    by_cases hp : p = resolve d₁.cwd f.outPath
    · subst hp
      refine .inr (.inr ⟨f, hf, rfl, by rw [hcwd], fun hd => hnd ?_, by simp⟩)
      rcases hmono (resolve d₁.cwd f.outPath) with h' | ⟨h', -⟩
      · rw [h', hd]
      · simp [h'] at hd
    · rw [Disk.set_node, Function.update_noteq hp]
      exact (hmono p).imp_right .inl
  | some e =>
    rcases writeStep_eq_some.1 h with ⟨-, rfl⟩ | ⟨f, -, -, hm | ⟨hm, -⟩⟩
    · exact ⟨rfl, fun _ => .inl rfl⟩
    all_goals
      obtain ⟨hcwd, hmono⟩ := hmk hm
      exact ⟨hcwd, fun p => (hmono p).imp_right .inl⟩

/-- A pass keeps every directory and every file on disk (a file perhaps with new text). -/
theorem writeStep_keeps {r : Option MainError} (h : writeStep t render output d combo = (d', r)) :
    d.Keeps d' := by
  obtain ⟨hcwd, hnode⟩ := writeStep_node h
  refine ⟨hcwd, fun p hp => ?_, fun p s hp => ?_⟩
  · rcases hnode p with h' | ⟨h', -⟩ | ⟨f, -, -, -, hnd, -⟩
    · rw [h', hp]
    · simp [hp] at h'
    · exact absurd hp hnd
  · rcases hnode p with h' | ⟨h', -⟩ | ⟨f, -, -, -, -, h'⟩
    · exact ⟨s, h'.trans hp⟩
    · simp [hp] at h'
    · exact ⟨_, h'⟩

/-- A pass that returns leaves its file at its output path. -/
theorem writeStep_file {f : ScenarioFile} (h : writeStep t render output d combo = (d', none))
    (hf : scenarioFile t render output combo = .ok f) :
    d'.node (resolve d.cwd f.outPath) = some (.file f.content) := by
  obtain ⟨f', hf', d₁, hm, hw⟩ := writeStep_eq_none.1 h
  obtain rfl : f' = f := Except.ok.inj (hf'.symm.trans hf)
  obtain ⟨-, -, -, rfl⟩ := writeFile_eq_some.1 hw
  have hcwd : d₁.cwd = d.cwd := by simpa [hm] using (makedirs_mono d f'.outDir).1
  simp [hcwd]

/-- A pass that returned returns again on a disk that keeps what it left: its directories are
there and its output path holds a file, so it only writes its file again. -/
theorem writeStep_rerun {D : Disk} {f : ScenarioFile}
    (hf : scenarioFile t render output combo = .ok f)
    (h : writeStep t render output d combo = (d', none)) (hk : d'.Keeps D) :
    writeStep t render output D combo =
      (D.set (resolve d.cwd f.outPath) (.file f.content), none) := by
  obtain ⟨f', hf', d₁, hm, hw⟩ := writeStep_eq_none.1 h
  obtain rfl : f' = f := Except.ok.inj (hf'.symm.trans hf)
  have hcwd : d₁.cwd = d.cwd := by simpa [hm] using (makedirs_mono d f'.outDir).1
  obtain ⟨-, -, hnd, hd'⟩ := writeFile_eq_some.1 hw
  have hk₁ : d₁.Keeps D := (hd' ▸ Disk.keeps_set_file hnd f'.content).trans hk
  refine writeStep_eq_none.2 ⟨f', hf', D, makedirs_replay hm hk₁, ?_⟩
  rw [← hcwd]
  exact writeFile_replay hw hk

/-- A pass that raised raises the same again on the disk it left, and changes nothing. -/
theorem writeStep_rerun_error {e : MainError}
    (h : writeStep t render output d combo = (d', some e)) :
    writeStep t render output d' combo = (d', some e) := by
  rcases writeStep_eq_some.1 h with ⟨he, rfl⟩ | ⟨f, hf, rfl, hm | ⟨hm, hw⟩⟩
  · exact writeStep_eq_some.2 (.inl ⟨he, rfl⟩)
  · have hm' := makedirs_idem d f.outDir
    rw [hm] at hm'
    exact writeStep_eq_some.2 (.inr ⟨f, hf, rfl, .inl hm'⟩)
  · have hm' := makedirs_idem d f.outDir
    rw [hm] at hm'
    exact writeStep_eq_some.2 (.inr ⟨f, hf, rfl, .inr ⟨hm', hw⟩⟩)

end Step

section Loop
variable {t : Tables} {render : ScenarioRecord → String} {output : String}

theorem writeLoop_cons_of_none {combo : List String} {combos : List (List String)}
    {d d' : Disk} {w : Nat} (h : writeStep t render output d combo = (d', none)) :
    writeLoop t render output (combo :: combos) (d, w) =
      writeLoop t render output combos (d', w + 1) := by
  simp only [writeLoop, h]

theorem writeLoop_cons_of_some {combo : List String} {combos : List (List String)}
    {d d' : Disk} {w : Nat} {e : MainError} (h : writeStep t render output d combo = (d', some e)) :
    writeLoop t render output (combo :: combos) (d, w) = ((d', w), some e) := by
  simp only [writeLoop, h]

/-- After a run of `xs` without an exception, a run of `xs ++ ys` goes on with `ys`. -/
theorem writeLoop_append {xs ys : List (List String)} {d d' : Disk} {w n : Nat}
    (h : writeLoop t render output xs (d, w) = ((d', n), none)) :
    writeLoop t render output (xs ++ ys) (d, w) = writeLoop t render output ys (d', n) := by
  induction xs generalizing d w with
  | nil =>
    simp only [writeLoop, Prod.mk.injEq] at h
    obtain ⟨⟨rfl, rfl⟩, -⟩ := h
    rfl
  | cons c xs ih =>
    rcases hstep : writeStep t render output d c with ⟨d₁, _ | e⟩
    · rw [writeLoop_cons_of_none hstep] at h
      rw [List.cons_append, writeLoop_cons_of_none hstep, ih h]
    · simp [writeLoop_cons_of_some hstep] at h

/-- What every pass keeps of a disk, a whole run keeps, whether or not an exception stops
it. -/
theorem writeLoop_preserves (P : Disk → Prop) {combos : List (List String)}
    (hstep : ∀ d c d' r, c ∈ combos → writeStep t render output d c = (d', r) → P d → P d')
    {disk d : Disk} {w n : Nat} {r : Option MainError} (h0 : P disk)
    (h : writeLoop t render output combos (disk, w) = ((d, n), r)) : P d := by
  induction combos generalizing disk w with
  | nil =>
    simp only [writeLoop, Prod.mk.injEq] at h
    exact h.1.1 ▸ h0
  | cons c combos ih =>
    have hstep' : ∀ d c' d' r, c' ∈ combos → writeStep t render output d c' = (d', r) →
        P d → P d' := fun d c' d' r hc => hstep d c' d' r (List.mem_cons_of_mem _ hc)
    rcases hs : writeStep t render output disk c with ⟨d₁, _ | e⟩
    · rw [writeLoop_cons_of_none hs] at h
      exact ih hstep' (hstep _ _ _ _ (List.mem_cons_self _ _) hs h0) h
    · simp only [writeLoop_cons_of_some hs, Prod.mk.injEq] at h
      exact h.1.1 ▸ hstep _ _ _ _ (List.mem_cons_self _ _) hs h0

/-- A run without an exception counts every pass. -/
theorem writeLoop_written {combos : List (List String)} {disk d : Disk} {w n : Nat}
    (h : writeLoop t render output combos (disk, w) = ((d, n), none)) :
    n = w + combos.length := by
  induction combos generalizing disk w with
  | nil =>
    simp only [writeLoop, Prod.mk.injEq] at h
    obtain ⟨⟨-, rfl⟩, -⟩ := h
    rfl
  | cons combo combos ih =>
    rcases hstep : writeStep t render output disk combo with ⟨d', _ | e⟩
    · rw [writeLoop_cons_of_none hstep] at h
      rw [ih h, List.length_cons]
      omega
    · simp [writeLoop_cons_of_some hstep] at h

/-- A run keeps every directory and every file of the disk it starts from. -/
theorem writeLoop_keeps {combos : List (List String)} {disk d : Disk} {w n : Nat}
    {r : Option MainError} (h : writeLoop t render output combos (disk, w) = ((d, n), r)) :
    disk.Keeps d := by
  induction combos generalizing disk w with
  | nil =>
    simp only [writeLoop, Prod.mk.injEq] at h
    exact h.1.1 ▸ Disk.Keeps.refl disk
  | cons combo combos ih =>
    rcases hstep : writeStep t render output disk combo with ⟨d', _ | e⟩
    · rw [writeLoop_cons_of_none hstep] at h
      exact (writeStep_keeps hstep).trans (ih h)
    · simp only [writeLoop_cons_of_some hstep, Prod.mk.injEq] at h
      exact h.1.1 ▸ writeStep_keeps hstep

/-- An exception stops the loop at some pass: the passes before it return, from the disk and
`written` the loop started with, and that pass raises, leaving the disk the loop ends with. -/
theorem writeLoop_error {combos : List (List String)} {disk d : Disk} {w n : Nat}
    {e : MainError} (h : writeLoop t render output combos (disk, w) = ((d, n), some e)) :
    ∃ k, ∃ hk : k < combos.length, ∃ dk,
      writeLoop t render output (combos.take k) (disk, w) = ((dk, n), none) ∧
      writeStep t render output dk combos[k] = (d, some e) := by
  induction combos generalizing disk w with
  | nil => simp [writeLoop] at h
  | cons combo combos ih =>
    rcases hstep : writeStep t render output disk combo with ⟨d', _ | e'⟩
    · rw [writeLoop_cons_of_none hstep] at h
      obtain ⟨k, hk, dk, hrun, hfail⟩ := ih h
      exact ⟨k + 1, Nat.succ_lt_succ hk, dk,
        (writeLoop_cons_of_none hstep).trans hrun, hfail⟩
    · simp only [writeLoop_cons_of_some hstep, Prod.mk.injEq, Option.some.injEq] at h
      obtain ⟨⟨rfl, rfl⟩, rfl⟩ := h
      exact ⟨0, Nat.succ_pos _, disk, rfl, hstep⟩

/-- In a run without an exception, every pass made its combination's scenario. -/
theorem writeLoop_ok {combos : List (List String)} {disk d : Disk} {w n : Nat}
    (h : writeLoop t render output combos (disk, w) = ((d, n), none)) :
    ∀ combo ∈ combos, ∃ f, scenarioFile t render output combo = .ok f := by
  induction combos generalizing disk w with
  | nil => exact fun _ hc => absurd hc (List.not_mem_nil _)
  | cons combo combos ih =>
    rcases hstep : writeStep t render output disk combo with ⟨d', _ | e⟩
    · rw [writeLoop_cons_of_none hstep] at h
      obtain ⟨f, hf, -⟩ := writeStep_eq_none.1 hstep
      simp only [List.mem_cons, forall_eq_or_imp]
      exact ⟨⟨f, hf⟩, ih h⟩
    · simp [writeLoop_cons_of_some hstep] at h

/-- A file that every pass writing its path writes with the same text keeps that text over a
run, whether or not an exception stops it. -/
theorem writeLoop_file_frame {combos : List (List String)} {disk d : Disk} {w n : Nat}
    {r : Option MainError} {p : List String} {s : String}
    (hp : ∀ combo ∈ combos, ∀ f, scenarioFile t render output combo = .ok f →
      resolve disk.cwd f.outPath = p → f.content = s)
    (hs : disk.node p = some (.file s))
    (h : writeLoop t render output combos (disk, w) = ((d, n), r)) :
    d.node p = some (.file s) := by
  induction combos generalizing disk w with
  | nil =>
    simp only [writeLoop, Prod.mk.injEq] at h
    rw [← h.1.1, hs]
  | cons combo combos ih =>
    rcases hstep : writeStep t render output disk combo with ⟨d', r'⟩
    obtain ⟨hcwd, hnode⟩ := writeStep_node hstep
    have hs' : d'.node p = some (.file s) := by
      rcases hnode p with h' | ⟨h', -⟩ | ⟨f, hf, -, rfl, -, h'⟩
      · rw [h', hs]
      · simp [hs] at h'
      · rw [h', hp combo (List.mem_cons_self _ _) f hf rfl]
    have hp' : ∀ c ∈ combos, ∀ f, scenarioFile t render output c = .ok f →
        resolve d'.cwd f.outPath = p → f.content = s := fun c hc f hf hpath =>
      hp c (List.mem_cons_of_mem _ hc) f hf (hcwd ▸ hpath)
    cases r' with
    | none => exact ih hp' hs' (writeLoop_cons_of_none hstep ▸ h)
    | some e =>
      simp only [writeLoop_cons_of_some hstep, Prod.mk.injEq] at h
      rw [← h.1.1, hs']

/-- After a run without an exception, the file of a combination that shares its output path
with no other combination is on disk, with its text. -/
theorem writeLoop_file {combos : List (List String)} {combo : List String} (hc : combo ∈ combos)
    {f : ScenarioFile} (hf : scenarioFile t render output combo = .ok f) {disk d : Disk}
    (hsep : ∀ c ∈ combos, ∀ f', scenarioFile t render output c = .ok f' →
      resolve disk.cwd f'.outPath = resolve disk.cwd f.outPath → c = combo)
    {w n : Nat} (h : writeLoop t render output combos (disk, w) = ((d, n), none)) :
    d.node (resolve disk.cwd f.outPath) = some (.file f.content) := by
  induction combos generalizing disk w with
  | nil => exact absurd hc (List.not_mem_nil _)
  | cons c combos ih =>
    rcases hstep : writeStep t render output disk c with ⟨d', _ | e⟩
    · rw [writeLoop_cons_of_none hstep] at h
      have hcwd := (writeStep_keeps hstep).cwd
      by_cases hmem : combo ∈ combos
      · rw [← hcwd]
        exact ih hmem (fun c' hc' f' hf' hpath => hsep c' (.tail _ hc') f' hf' (hcwd ▸ hpath)) h
      · obtain rfl := (List.mem_cons.1 hc).resolve_right hmem
        refine writeLoop_file_frame (fun c' hc' f' hf' hpath => ?_) (writeStep_file hstep hf) h
        obtain rfl := hsep c' (.tail _ hc') f' hf' (hcwd ▸ hpath)
        exact absurd hc' hmem
    · simp [writeLoop_cons_of_some hstep] at h

/-- A lookup error stops the loop where it arises: at the first combination whose scenario
cannot be made, with `written` its index, the disk the combinations before it leave without
an exception, and their files on disk when no two of them share a path. -/
theorem writeAll_eq_error {combos : List (List String)} {disk d : Disk} {n : Nat}
    {e : MainError} (he : e ≠ .osError)
    (h : writeAll t render output combos disk = ((d, n), some e)) :
    ∃ k, ∃ hk : k < combos.length, scenarioFile t render output combos[k] = .error e ∧
      n = k ∧ writeAll t render output (combos.take k) disk = ((d, n), none) ∧
      (SeparateFiles t render output disk.cwd (combos.take k) →
        ∀ combo ∈ combos.take k, ∃ file, scenarioFile t render output combo = .ok file ∧
          d.node (resolve disk.cwd file.outPath) = some (.file file.content)) := by
  obtain ⟨k, hk, dk, hrun, hfail⟩ := writeLoop_error h
  obtain ⟨hfile, rfl⟩ : scenarioFile t render output combos[k] = .error e ∧ d = dk := by
    rcases writeStep_eq_some.1 hfail with h' | ⟨-, -, rfl, -⟩
    · exact h'
    · exact absurd rfl he
  have hn : n = k := by
    rw [writeLoop_written hrun, Nat.zero_add, List.length_take, min_eq_left hk.le]
  refine ⟨k, hk, hfile, hn, hrun, fun hsep combo hc => ?_⟩
  obtain ⟨file, hf⟩ := writeLoop_ok hrun combo hc
  exact ⟨file, hf, writeLoop_file hc hf
    (fun c hc' f hf' heq => hsep c hc' combo hc f file hf' hf heq) hrun⟩

/-- The shipped tables cut to two timing tiers, on a file system with nothing but the root:
the third combination asks for the missing tier `severe`. -/
theorem writeAll_eq_error_missing_severe :
    let t : Tables := { Config.tables with timing := Config.timing.take 2 }
    let render : ScenarioRecord → String := fun _ => ""
    let output := "generated/polygon-chain"
    let run := writeAll t render output (fullCombinations t) Disk.empty
    MainError.keyError "severe" ≠ .osError ∧
    run = ((run.1.1, 2), some (.keyError "severe")) ∧
    ∃ k, ∃ hk : k < (fullCombinations t).length,
      scenarioFile t render output (fullCombinations t)[k] = .error (.keyError "severe") ∧
      2 = k ∧
      writeAll t render output ((fullCombinations t).take k) Disk.empty = ((run.1.1, 2), none) ∧
      (SeparateFiles t render output Disk.empty.cwd ((fullCombinations t).take k) →
        ∀ combo ∈ (fullCombinations t).take k, ∃ file,
          scenarioFile t render output combo = .ok file ∧
          run.1.1.node (resolve Disk.empty.cwd file.outPath) = some (.file file.content)) :=
  ⟨by decide, rfl, writeAll_eq_error (by decide) rfl⟩

end Loop

section Tables
variable {t : Tables} {render : ScenarioRecord → String} {output : String}

/-- A combination's scenario is filed under `os.path.join(output, category)` as
`f"{name}.yaml"`, with its rendered text. -/
theorem scenarioFile_eq_ok {combo : List String} {file : ScenarioFile}
    (h : scenarioFile t render output combo = .ok file) :
    ∃ ft tt sv r fd, combo = [ft, tt, sv] ∧ buildScenario t ft tt sv = .ok r ∧
      t.faultDefinitions.lookup ft = some fd ∧
      file = ⟨pathJoin output fd.category, r.metadata.name ++ ".yaml", render r⟩ := by
  match combo, h with
  | [ft, tt, sv], h =>
    simp only [scenarioFile, bind_eq_ok, mapError_eq_ok, lookup_eq_ok, pure_eq_ok] at h
    obtain ⟨r, hr, fd, hfd, rfl⟩ := h
    exact ⟨ft, tt, sv, r, fd, rfl, hr, hfd, rfl⟩

end Tables

end ChaosScenarios
