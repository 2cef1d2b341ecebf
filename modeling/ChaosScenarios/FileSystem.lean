import Mathlib.Data.List.Basic
import Mathlib.Logic.Function.Basic

/-!
# The file system under `main`

`main` writes through two calls: `os.makedirs(out_dir, exist_ok=True)` and
`open(out_path, "w")`. They act on a tree of directories and files (`Disk`): what each
absolute path, as its list of components, holds, and the working directory that relative
paths start from. A path string is split at every `/`; an empty or `.` component stays where
it is, `..` goes to the parent and any other component is a name (`walk`). Symbolic links,
permissions and other processes are left out.

`os.makedirs` walks the components from where the path starts: a name that is a directory is
entered, a missing one is made and entered, and a file there raises (`makedirsFrom`); an
empty path raises at once. Python's `makedirs` recurses on `os.path.split` from the end and
calls `mkdir` on the way back; that makes the same directories in the same order and raises
in the same cases, because a path resolves only through directories. `open(path, "w")` needs
every name before the last to be a directory and the last component to be a name that is not
one; it then makes or truncates that file (`writeFile`). Both raise an `OSError`
(`FileExistsError`, `NotADirectoryError`, `IsADirectoryError` or `FileNotFoundError`); the
model records that one is raised, not which.

The paths a walk enters by name are its `trail`. When none of them is a file, `makedirs` makes
the missing ones and changes nothing else (`makedirsFrom_of_clear`); in any case it makes
directories only where nothing was (`makedirsFrom_mono`), and run again on the disk it left
it does the same and changes nothing (`makedirsFrom_idem`). `open` writes exactly when every
name on the way is a directory and the path is not one (`writeFile_eq_some`).
-/

namespace ChaosScenarios
set_option autoImplicit false

/-- `os.path.join(a, b)` on POSIX: `b` when it starts with `/`, else `a + b` when `a` is empty
or ends with `/`, else `a + "/" + b`. -/
def pathJoin (a b : String) : String :=
  if b.data.head? = some '/' then b
  else if a.data = [] ∨ a.data.getLast? = some '/' then a ++ b
  else a ++ "/" ++ b

/-- What a path holds: a directory, or a file with its text. -/
inductive Node where
  | dir
  | file (content : String)
  deriving DecidableEq, Repr

/-- The file system `main` runs on: what each absolute path, as its components, holds, and
the working directory. -/
@[ext]
structure Disk where
  cwd : List String
  node : List String → Option Node

/-- The components of a path: its text split at every `/`. -/
def components (path : String) : List String :=
  (path.data.splitOn '/').map String.mk

/-- Where a path starts: the root for `/...`, else the working directory. -/
def startDir (cwd : List String) (path : String) : List String :=
  if path.data.head? = some '/' then [] else cwd

/-- A component that names an entry: not empty, `.` or `..`. -/
def IsName (c : String) : Prop :=
  c ≠ "" ∧ c ≠ "." ∧ c ≠ ".."

instance (c : String) : Decidable (IsName c) :=
  inferInstanceAs (Decidable (_ ∧ _))

/-- One component from the directory `cur`: `..` is the parent (the root's is the root), an
empty component or `.` is `cur` itself, a name is the entry of that name in `cur`. -/
def walk (cur : List String) (c : String) : List String :=
  if c = ".." then cur.dropLast else if c = "" ∨ c = "." then cur else cur ++ [c]

/-- The absolute path a path string names, from the working directory `cwd`. -/
def resolve (cwd : List String) (path : String) : List String :=
  (components path).foldl walk (startDir cwd path)

/-- The paths a walk from `cur` enters by name, in order. -/
def trail (cur : List String) : List String → List (List String)
  | [] => []
  | c :: cs => if IsName c then walk cur c :: trail (walk cur c) cs else trail (walk cur c) cs

/-- The directories `os.makedirs(path)` goes through by name. -/
def dirTrail (cwd : List String) (path : String) : List (List String) :=
  trail (startDir cwd path) (components path)

namespace Disk

/-- A file system with nothing but the root directory, run from the root. -/
def empty : Disk :=
  ⟨[], fun p => if p = [] then some .dir else none⟩

/-- The disk with `p` holding `x`. -/
def set (d : Disk) (p : List String) (x : Node) : Disk :=
  { d with node := Function.update d.node p (some x) }

/-- The disk with a directory at each of `ps`. -/
def withDirs (d : Disk) (ps : List (List String)) : Disk :=
  { d with node := fun p => if p ∈ ps then some .dir else d.node p }

@[simp] theorem set_cwd (d : Disk) (p : List String) (x : Node) : (d.set p x).cwd = d.cwd := rfl

@[simp] theorem set_node (d : Disk) (p : List String) (x : Node) :
    (d.set p x).node = Function.update d.node p (some x) := rfl

@[simp] theorem withDirs_cwd (d : Disk) (ps : List (List String)) :
    (d.withDirs ps).cwd = d.cwd := rfl

@[simp] theorem withDirs_node (d : Disk) (ps : List (List String)) (p : List String) :
    (d.withDirs ps).node p = if p ∈ ps then some .dir else d.node p := rfl

/-- Adding directories where there are directories already changes nothing. -/
theorem withDirs_of_dirs {d : Disk} {ps : List (List String)}
    (h : ∀ p ∈ ps, d.node p = some .dir) : d.withDirs ps = d := by
  ext1
  · rfl
  · funext p
    by_cases hp : p ∈ ps
    · rw [withDirs_node, if_pos hp, h p hp]
    · rw [withDirs_node, if_neg hp]

theorem withDirs_cons_of_dir {d : Disk} {p : List String} (h : d.node p = some .dir)
    (ps : List (List String)) : d.withDirs (p :: ps) = d.withDirs ps := by
  ext1
  · rfl
  · funext q
    by_cases hq : q = p
    · subst hq; simp [h]
    · simp [hq]

theorem set_dir_withDirs (d : Disk) (p : List String) (ps : List (List String)) :
    (d.set p .dir).withDirs ps = d.withDirs (p :: ps) := by
  ext1
  · rfl
  · funext q
    by_cases hq : q = p
    · subst hq; simp
    · simp [hq]

/-- `d'` has every directory of `d`, and a file wherever `d` has one, perhaps with other
text. -/
structure Keeps (d d' : Disk) : Prop where
  cwd : d'.cwd = d.cwd
  dir : ∀ p, d.node p = some .dir → d'.node p = some .dir
  file : ∀ p s, d.node p = some (.file s) → ∃ s', d'.node p = some (.file s')

theorem Keeps.refl (d : Disk) : d.Keeps d :=
  ⟨rfl, fun _ h => h, fun _ s h => ⟨s, h⟩⟩

theorem Keeps.trans {d₁ d₂ d₃ : Disk} (h₁ : d₁.Keeps d₂) (h₂ : d₂.Keeps d₃) : d₁.Keeps d₃ :=
  ⟨h₂.cwd.trans h₁.cwd, fun p hp => h₂.dir p (h₁.dir p hp), fun p s hp =>
    let ⟨s', h'⟩ := h₁.file p s hp
    h₂.file p s' h'⟩

/-- Writing a file where `d` has no directory keeps what `d` has. -/
theorem Keeps.set_file {d d' : Disk} (hk : d.Keeps d') {p : List String}
    (hp : d.node p ≠ some .dir) (s : String) : d.Keeps (d'.set p (.file s)) := by
  refine ⟨hk.cwd, fun q hq => ?_, fun q s' hq => ?_⟩
  · rw [set_node, Function.update_noteq fun h : q = p => hp (h ▸ hq)]
    exact hk.dir q hq
  · by_cases hqp : q = p
    · exact ⟨s, by rw [hqp, set_node, Function.update_same]⟩
    · rw [set_node, Function.update_noteq hqp]
      exact hk.file q s' hq

/-- Writing a file where there is no directory keeps everything. -/
theorem keeps_set_file {d : Disk} {p : List String} (hp : d.node p ≠ some .dir) (s : String) :
    d.Keeps (d.set p (.file s)) :=
  (Keeps.refl d).set_file hp s

theorem set_eq_self {d : Disk} {p : List String} {x : Node} (h : d.node p = some x) :
    d.set p x = d := by
  ext1
  · rfl
  · rw [set_node, ← h, Function.update_eq_self]

end Disk

/-- `os.makedirs` from the directory `cur` over the components left: a name that is a
directory is entered, a missing one is made (`mkdir`) and entered, and a file there raises.
The disk it leaves, and whether it returned (`false`: it raised). -/
def makedirsFrom (d : Disk) (cur : List String) : List String → Disk × Bool
  | [] => (d, true)
  | c :: cs =>
    if IsName c then
      match d.node (walk cur c) with
      | some .dir => makedirsFrom d (walk cur c) cs
      | some (.file _) => (d, false)
      | none => makedirsFrom (d.set (walk cur c) .dir) (walk cur c) cs
    else makedirsFrom d (walk cur c) cs

/-- `os.makedirs(name, exist_ok=True)`; an empty name raises `FileNotFoundError`. -/
def makedirs (d : Disk) (name : String) : Disk × Bool :=
  if name = "" then (d, false) else makedirsFrom d (startDir d.cwd name) (components name)

/-- The directory the components lead to from `cur`, when every name on the way is a
directory. -/
def resolveDir (node : List String → Option Node) (cur : List String) :
    List String → Option (List String)
  | [] => some cur
  | c :: cs =>
    if IsName c ∧ node (walk cur c) ≠ some .dir then none else resolveDir node (walk cur c) cs

/-- `open(path, "w").write(content)`: every component before the last must lead through
directories, and the last must be a name that is not a directory; the file is then made or
truncated and holds `content`. `none` when it raises, the disk unchanged. -/
def writeFile (d : Disk) (path content : String) : Option Disk :=
  match resolveDir d.node (startDir d.cwd path) (components path).dropLast with
  | none => none
  | some dir =>
    if IsName ((components path).getLastD "") ∧
        d.node (dir ++ [(components path).getLastD ""]) ≠ some .dir then
      some (d.set (dir ++ [(components path).getLastD ""]) (.file content))
    else none

section Walk

theorem walk_of_isName {c : String} (h : IsName c) (cur : List String) :
    walk cur c = cur ++ [c] := by
  rw [walk, if_neg h.2.2, if_neg (not_or.2 ⟨h.1, h.2.1⟩)]

end Walk

section Makedirs
variable {d : Disk} {cur : List String} {cs : List String}

/-- With no file on the trail, `makedirs` makes every missing directory of it, changes
nothing else, and returns. -/
theorem makedirsFrom_of_clear (h : ∀ p ∈ trail cur cs, d.node p = none ∨ d.node p = some .dir) :
    makedirsFrom d cur cs = (d.withDirs (trail cur cs), true) := by
  induction cs generalizing d cur with
  | nil => rw [makedirsFrom, trail, Disk.withDirs_of_dirs (by simp)]
  | cons c cs ih =>
    by_cases hc : IsName c
    · rw [trail, if_pos hc] at h ⊢
      rw [makedirsFrom, if_pos hc]
      rcases h _ (List.mem_cons_self _ _) with hn | hn
      · have hclear : ∀ p ∈ trail (walk cur c) cs, (d.set (walk cur c) .dir).node p = none ∨
            (d.set (walk cur c) .dir).node p = some .dir := fun p hp => by
          by_cases hpc : p = walk cur c
          · exact .inr (by simp [hpc])
          · rw [Disk.set_node, Function.update_noteq hpc]
            exact h p (List.mem_cons_of_mem _ hp)
        simp only [hn]
        rw [ih hclear, Disk.set_dir_withDirs]
      · simp only [hn]
        rw [ih fun p hp => h p (List.mem_cons_of_mem _ hp), Disk.withDirs_cons_of_dir hn]
    · rw [makedirsFrom, if_neg hc, trail, if_neg hc]
      exact ih (by rwa [trail, if_neg hc] at h)

/-- `makedirs` keeps the working directory and makes directories only where nothing was. -/
theorem makedirsFrom_mono (d : Disk) (cur : List String) (cs : List String) :
    (makedirsFrom d cur cs).1.cwd = d.cwd ∧ ∀ p, (makedirsFrom d cur cs).1.node p = d.node p ∨
      d.node p = none ∧ (makedirsFrom d cur cs).1.node p = some .dir := by
  induction cs generalizing d cur with
  | nil => exact ⟨rfl, fun _ => .inl rfl⟩
  | cons c cs ih =>
    rw [makedirsFrom]
    split_ifs with hc
    · split
      · exact ih d _
      · exact ⟨rfl, fun _ => .inl rfl⟩
      · next hn =>
        obtain ⟨hcwd, hnode⟩ := ih (d.set (walk cur c) .dir) (walk cur c)
        refine ⟨hcwd, fun p => ?_⟩
        rcases hnode p with h | ⟨h₁, h₂⟩ <;> by_cases hp : p = walk cur c
        · subst hp; simp_all
        · simp_all [Function.update_noteq hp]
        · subst hp; simp_all
        · simp_all [Function.update_noteq hp]
    · exact ih d _

theorem makedirsFrom_dir {p : List String} (hp : d.node p = some .dir) :
    (makedirsFrom d cur cs).1.node p = some .dir := by
  rcases (makedirsFrom_mono d cur cs).2 p with h | ⟨h, -⟩
  · rw [h, hp]
  · simp [hp] at h

/-- When `makedirs` returns, every directory of its trail is there. -/
theorem makedirsFrom_trail {d' : Disk} (h : makedirsFrom d cur cs = (d', true)) :
    ∀ p ∈ trail cur cs, d'.node p = some .dir := by
  induction cs generalizing d cur with
  | nil => simp [trail]
  | cons c cs ih =>
    rw [makedirsFrom] at h
    by_cases hc : IsName c
    · rw [if_pos hc] at h
      rw [trail, if_pos hc]
      intro p hp
      split at h
      · next hn =>
        rcases List.mem_cons.1 hp with rfl | hp
        · have hdir : (makedirsFrom d (walk cur c) cs).1.node (walk cur c) = some .dir :=
            makedirsFrom_dir hn
          rwa [h] at hdir
        · exact ih h p hp
      · cases h
      · rcases List.mem_cons.1 hp with rfl | hp
        · have hdir : (makedirsFrom (d.set (walk cur c) .dir) (walk cur c) cs).1.node
              (walk cur c) = some .dir := makedirsFrom_dir (by simp)
          rwa [h] at hdir
        · exact ih h p hp
    · rw [if_neg hc] at h
      rw [trail, if_neg hc]
      exact ih h

/-- Run again on the disk it left, `makedirs` does the same and changes nothing. -/
theorem makedirsFrom_idem (d : Disk) (cur : List String) (cs : List String) :
    makedirsFrom (makedirsFrom d cur cs).1 cur cs = makedirsFrom d cur cs := by
  induction cs generalizing d cur with
  | nil => rfl
  | cons c cs ih =>
    by_cases hc : IsName c
    · have hstep : ∀ d' : Disk, d'.node (walk cur c) = some .dir →
          makedirsFrom d' cur (c :: cs) = makedirsFrom d' (walk cur c) cs := fun d' h => by
        rw [makedirsFrom, if_pos hc, h]
      cases hn : d.node (walk cur c) with
      | none =>
        have hd : makedirsFrom d cur (c :: cs) =
            makedirsFrom (d.set (walk cur c) .dir) (walk cur c) cs := by
          rw [makedirsFrom, if_pos hc, hn]
        rw [hd, hstep _ (makedirsFrom_dir (by simp)), ih]
      | some x =>
        cases x with
        | dir => rw [hstep d hn, hstep _ (makedirsFrom_dir hn), ih]
        | file s =>
          have hd : makedirsFrom d cur (c :: cs) = (d, false) := by
            rw [makedirsFrom, if_pos hc, hn]
          rw [hd, hd]
    · rw [makedirsFrom, if_neg hc, makedirsFrom, if_neg hc, ih]

end Makedirs

section Write
variable {node : List String → Option Node} {cur dir : List String} {cs : List String}

/-- `resolveDir` finds the directory the walk ends in exactly when every name on the way is a
directory. -/
theorem resolveDir_eq_some :
    resolveDir node cur cs = some dir ↔
      (∀ p ∈ trail cur cs, node p = some .dir) ∧ cs.foldl walk cur = dir := by
  induction cs generalizing cur with
  | nil => simp [resolveDir, trail, eq_comm]
  | cons c cs ih =>
    by_cases hc : IsName c
    · by_cases hn : node (walk cur c) = some .dir
      · simp [resolveDir, trail, hc, hn, ih]
      · simp [resolveDir, trail, hc, hn]
    · simp [resolveDir, trail, hc, ih]

theorem components_ne_nil (path : String) : components path ≠ [] := by
  simp [components, List.splitOn, List.splitOnP_ne_nil]

/-- `open(path, "w")` writes exactly when every name on the way is a directory and the path is
a name that is not a directory; it then puts the file at the path `resolve` gives. -/
theorem writeFile_eq_some {d d' : Disk} {path content : String} :
    writeFile d path content = some d' ↔
      (∀ p ∈ trail (startDir d.cwd path) (components path).dropLast, d.node p = some .dir) ∧
      IsName ((components path).getLastD "") ∧ d.node (resolve d.cwd path) ≠ some .dir ∧
      d' = d.set (resolve d.cwd path) (.file content) := by
  have hcs : components path = (components path).dropLast ++ [(components path).getLastD ""] := by
    rw [List.getLastD_eq_getLast?, List.getLast?_eq_getLast _ (components_ne_nil path),
      Option.getD_some, List.dropLast_append_getLast]
  unfold writeFile
  generalize (components path).getLastD "" = last at hcs ⊢
  cases hr : resolveDir d.node (startDir d.cwd path) (components path).dropLast with
  | none =>
    refine ⟨fun h => (by cases h), fun h => ?_⟩
    rw [resolveDir_eq_some.2 ⟨h.1, rfl⟩] at hr
    cases hr
  | some dir =>
    obtain ⟨htrail, hdir⟩ := resolveDir_eq_some.1 hr
    by_cases hname : IsName last
    · have hres : resolve d.cwd path = dir ++ [last] :=
        calc resolve d.cwd path
            = ((components path).dropLast ++ [last]).foldl walk
                (startDir d.cwd path) := by rw [← hcs]; rfl
          _ = dir ++ [last] := by
            rw [List.foldl_append, hdir]
            exact walk_of_isName hname dir
      rw [hres]
      by_cases hd : d.node (dir ++ [last]) = some .dir
      · simp [hd]
      · dsimp only
        rw [if_pos ⟨hname, hd⟩, Option.some.injEq]
        exact ⟨fun h => ⟨htrail, hname, hd, h.symm⟩, fun h => h.2.2.2.symm⟩
    · simp [hname]

/-- An `open` that wrote writes again, at the same place, on a disk that keeps what it left. -/
theorem writeFile_replay {d d' D : Disk} {path content : String}
    (h : writeFile d path content = some d') (hk : d'.Keeps D) :
    writeFile D path content = some (D.set (resolve d.cwd path) (.file content)) := by
  obtain ⟨htrail, hname, hnd, rfl⟩ := writeFile_eq_some.1 h
  have hk' := (Disk.keeps_set_file hnd content).trans hk
  obtain ⟨s, hs⟩ := hk.file (resolve d.cwd path) content (by simp)
  rw [← hk'.cwd] at htrail hs ⊢
  exact writeFile_eq_some.2 ⟨fun p hp => hk'.dir p (htrail p hp), hname, by simp [hs], rfl⟩

end Write

section Paths

end Paths

section Makedirs
variable {d d' : Disk} {name : String}

/-- With no file on the way, `os.makedirs(name)` makes the missing directories of its trail,
changes nothing else, and returns. -/
theorem makedirs_of_clear (hne : name ≠ "")
    (h : ∀ p ∈ dirTrail d.cwd name, d.node p = none ∨ d.node p = some .dir) :
    makedirs d name = (d.withDirs (dirTrail d.cwd name), true) := by
  rw [makedirs, if_neg hne]
  exact makedirsFrom_of_clear h

theorem makedirs_mono (d : Disk) (name : String) :
    (makedirs d name).1.cwd = d.cwd ∧ ∀ p, (makedirs d name).1.node p = d.node p ∨
      d.node p = none ∧ (makedirs d name).1.node p = some .dir := by
  unfold makedirs
  split_ifs
  · exact ⟨rfl, fun _ => .inl rfl⟩
  · exact makedirsFrom_mono _ _ _

theorem makedirs_keeps (d : Disk) (name : String) : d.Keeps (makedirs d name).1 := by
  obtain ⟨hcwd, hnode⟩ := makedirs_mono d name
  refine ⟨hcwd, fun p hp => ?_, fun p s hp => ⟨s, ?_⟩⟩ <;>
    rcases hnode p with h | ⟨h, -⟩ <;> simp_all

theorem makedirs_trail (h : makedirs d name = (d', true)) :
    ∀ p ∈ dirTrail d.cwd name, d'.node p = some .dir := by
  unfold makedirs at h
  split_ifs at h
  · cases h
  · exact makedirsFrom_trail h

/-- Run again on the disk it left, `os.makedirs` does the same and changes nothing. -/
theorem makedirs_idem (d : Disk) (name : String) :
    makedirs (makedirs d name).1 name = makedirs d name := by
  have hcwd := (makedirs_mono d name).1
  unfold makedirs at hcwd ⊢
  split_ifs with hne
  · rfl
  · rw [if_neg hne] at hcwd
    rw [hcwd, makedirsFrom_idem]

/-- A `makedirs` that returned returns again, changing nothing, on a disk that keeps what it
left. -/
theorem makedirs_replay {D : Disk} (h : makedirs d name = (d', true)) (hk : d'.Keeps D) :
    makedirs D name = (D, true) := by
  have hne : name ≠ "" := by
    rintro rfl
    simp [makedirs] at h
  have hcwd := (makedirs_mono d name).1
  rw [h] at hcwd
  have hdirs : ∀ p ∈ dirTrail D.cwd name, D.node p = some .dir := fun p hp =>
    hk.dir p (makedirs_trail h p (by rwa [hk.cwd, hcwd] at hp))
  rw [makedirs_of_clear hne fun p hp => .inr (hdirs p hp), Disk.withDirs_of_dirs hdirs]

end Makedirs

end ChaosScenarios
