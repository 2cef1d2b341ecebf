import ChaosScenarios.Main

/-!
# The `--enclave` substitution

With `--enclave E`, `main` replaces every `${ENCLAVE_NAME}` in the rendered YAML by `E`
before writing it, under `if args.enclave:`, so not for an empty `E`. Python's `str.replace`
is `replaceAll`: scanning from the left, an occurrence of the pattern becomes the
replacement and the scan resumes after it. The character map `dashed`, which models the
`s.replace('_', '-')` of names and phase ids, is this replacement with a one-character
pattern (`dashed_eq_replaceAll`).

A non-empty replacement that shares no character with the pattern leaves no occurrence of it
(`not_infix_replaceAll`): an occurrence in the result cannot start inside a replacement or
straddle its end, so it would lie in text the scan passed over, where there was none. So with
such an enclave name, every file `main`'s loop writes is free of `${ENCLAVE_NAME}`, whatever
`to_yaml` produced (`writeAll_enclave_substituted`).
-/

namespace ChaosScenarios
set_option autoImplicit false
open Scenario

/-- `s.replace(old, new)` on characters, for a non-empty `old` as `main` passes: from the
left, each occurrence of `old` becomes `new` and the scan resumes after it. (An empty `old`,
which `main` never passes, leaves `s` as it is.) -/
def replaceAll (old new : List Char) : List Char → List Char
  | [] => []
  | c :: cs =>
    if old ≠ [] ∧ old <+: c :: cs then new ++ replaceAll old new (cs.drop (old.length - 1))
    else c :: replaceAll old new cs
termination_by s => s.length

/-- The placeholder `build_scenario` puts in every target selector. -/
def enclavePlaceholder : String := "${ENCLAVE_NAME}"

/-- `if args.enclave: content = content.replace("${ENCLAVE_NAME}", args.enclave)`: no
`--enclave`, or an empty one, leaves the content as it is. -/
def substituteEnclave (enclave : Option String) (content : String) : String :=
  match enclave with
  | some e => if e = "" then content else ⟨replaceAll enclavePlaceholder.data e.data content.data⟩
  | none => content

section Replace
variable {old new : List Char}

/-- A prefix of the result made of characters not in `new` is a prefix of the text: the
result starts with `new` where the text starts with `old`, and with the text's first
character elsewhere. -/
theorem prefix_of_prefix_replaceAll (hnew : new ≠ []) :
    ∀ {u : List Char} (s : List Char), (∀ x ∈ u, x ∉ new) → u <+: replaceAll old new s → u <+: s
  | [], _, _, _ => List.nil_prefix
  | x :: u, s, hu, h => by
    cases s with
    | nil => simp [replaceAll] at h
    | cons c cs =>
      rw [replaceAll] at h
      split_ifs at h with hm
      · obtain ⟨y, ys, rfl⟩ := List.exists_cons_of_ne_nil hnew
        rw [List.cons_append, List.cons_prefix_cons] at h
        exact absurd (h.1 ▸ List.mem_cons_self y ys) (hu x (List.mem_cons_self _ _))
      · rw [List.cons_prefix_cons] at h ⊢
        exact ⟨h.1, prefix_of_prefix_replaceAll hnew cs
          (fun z hz => hu z (List.mem_cons_of_mem _ hz)) h.2⟩

/-- No occurrence survives. When `old` and `new` are non-empty and share no character,
`old` occurs nowhere in `replaceAll old new s`. -/
theorem not_infix_replaceAll (hold : old ≠ []) (hnew : new ≠ []) (hdisj : ∀ x ∈ old, x ∉ new)
    (s : List Char) : ¬ old <:+: replaceAll old new s := by
  obtain ⟨o, os, rfl⟩ := List.exists_cons_of_ne_nil hold
  induction s using replaceAll.induct (o :: os) new with
  | case1 =>
    rw [replaceAll]
    exact fun h => List.cons_ne_nil _ _ (List.eq_nil_of_infix_nil h)
  | case2 c cs hm ih =>
    rw [replaceAll, if_pos hm]
    rintro ⟨a, b, hab⟩
    rw [List.append_assoc] at hab
    rcases List.append_eq_append_iff.1 hab with ⟨a', rfl, hb⟩ | ⟨c', rfl, hR⟩
    · rcases a' with _ | ⟨y, a'⟩
      · exact ih ⟨[], b, by simpa using hb⟩
      · obtain ⟨rfl, -⟩ := List.cons.inj hb
        exact hdisj o (List.mem_cons_self _ _) (by simp)
    · exact ih ⟨c', b, by rw [hR, List.append_assoc]⟩
  | case3 c cs hm ih =>
    rw [replaceAll, if_neg hm, List.infix_cons_iff, List.cons_prefix_cons]
    rintro (⟨rfl, hos⟩ | h)
    · exact hm ⟨hold, List.cons_prefix_cons.2 ⟨rfl, prefix_of_prefix_replaceAll hnew cs
        (fun x hx => hdisj x (List.mem_cons_of_mem _ hx)) hos⟩⟩
    · exact ih h

/-- `dashed`, the character map that models `s.replace('_', '-')` in names and phase ids, is
`str.replace` with the one-character pattern. -/
theorem dashed_eq_replaceAll (s : String) :
    (dashed s).data = replaceAll ['_'] ['-'] s.data := by
  obtain ⟨cs⟩ := s
  show cs.map (fun c => if c = '_' then '-' else c) = _
  induction cs with
  | nil => rw [replaceAll]; rfl
  | cons c cs ih =>
    rw [List.map_cons, replaceAll, ih]
    by_cases hc : c = '_'
    · rw [if_pos hc, if_pos ⟨List.cons_ne_nil _ _, by simp [hc]⟩]
      rfl
    · rw [if_neg hc, if_neg fun h => hc (List.cons_prefix_cons.1 h.2).1.symm]

end Replace

/-- With `--enclave`, no written file keeps the placeholder. For any tables, rendering, output,
combinations and disk, when the enclave name is non-empty and shares no character with
`${ENCLAVE_NAME}`, every path the loop leaves is as it was, a directory where nothing was, or
a file without `${ENCLAVE_NAME}`, whether or not an exception stopped the loop. -/
theorem writeAll_enclave_substituted {e : String} (hne : e ≠ "")
    (hdisj : ∀ x ∈ e.data, x ∉ enclavePlaceholder.data) (t : Tables)
    (toYaml : ScenarioRecord → String) (output : String) (combos : List (List String))
    (disk : Disk) (p : List String) :
    let d := (writeAll t (fun r => substituteEnclave (some e) (toYaml r)) output combos disk).1.1
    d.node p = disk.node p ∨ disk.node p = none ∧ d.node p = some .dir ∨
      ∃ content, d.node p = some (.file content) ∧ ¬ enclavePlaceholder.data <:+: content.data := by
  intro d
  refine writeLoop_preserves (fun d => ∀ p, d.node p = disk.node p ∨
    disk.node p = none ∧ d.node p = some .dir ∨ ∃ content, d.node p = some (.file content) ∧
      ¬ enclavePlaceholder.data <:+: content.data) (fun d₁ c d₂ r _ hstep hinv q => ?_)
    (fun _ => .inl rfl) (rfl : writeAll _ _ output combos disk = ((d, _), _)) p
  rcases (writeStep_node hstep).2 q with h | ⟨h, hdir⟩ | ⟨f, hf, -, -, -, h⟩
  · exact h ▸ hinv q
  · rcases hinv q with h' | ⟨-, h'⟩ | ⟨_, h', -⟩
    · exact .inr (.inl ⟨h' ▸ h, hdir⟩)
    all_goals simp [h] at h'
  · refine .inr (.inr ⟨f.content, h, ?_⟩)
    obtain ⟨-, -, -, r, -, -, -, -, rfl⟩ := scenarioFile_eq_ok hf
    simp only [substituteEnclave, if_neg hne]
    exact not_infix_replaceAll (by decide) (fun h' => hne (String.ext h'))
      (fun x hx hx' => hdisj x hx' hx) _

/-- An enclave name such as Kurtosis gives, with the shipped tables, every combination, a
rendering that holds the placeholder and a file system with nothing but the root. -/
theorem writeAll_enclave_substituted_my_enclave :
    "my-enclave" ≠ "" ∧ (∀ x ∈ "my-enclave".data, x ∉ enclavePlaceholder.data) ∧
    ∀ p, let d := (writeAll Config.tables (fun r => substituteEnclave (some "my-enclave")
        (Function.const ScenarioRecord "enclave: ${ENCLAVE_NAME}" r))
        "generated/polygon-chain" (fullCombinations Config.tables) Disk.empty).1.1
      d.node p = Disk.empty.node p ∨ Disk.empty.node p = none ∧ d.node p = some .dir ∨
        ∃ content, d.node p = some (.file content) ∧
          ¬ enclavePlaceholder.data <:+: content.data :=
  ⟨by decide, by decide, writeAll_enclave_substituted (by decide) (by decide) Config.tables
    (Function.const ScenarioRecord "enclave: ${ENCLAVE_NAME}") "generated/polygon-chain" _ _⟩

end ChaosScenarios
