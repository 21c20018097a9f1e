import ComposeCluster.Compose.Mount
import ComposeCluster.Proofs.Source.Parts

/-!
# Directories of volumes

The sub-path of a mount is written in one form: parts that each lead on, with a slash between any
two (`SubPath.IsPlain`). A path has such a form exactly if it leads below where it starts
(`SubPath.Descends`), and the form then has the parts of the path that lead somewhere
(`SubPath.pathParts_join_steps`).
-/

set_option autoImplicit false

namespace ComposeCluster.Compose.SubPath

variable {path part sub : String}

/-- No part of the path goes up, and one of them leads on. -/
structure Descends (path : String) : Prop where
  notUp : ".." ∉ pathParts path
  leadsOn : ∃ part ∈ pathParts path, part ≠ "" ∧ part ≠ "."

/-- Every part of the path leads on. -/
def IsPlain (path : String) : Prop :=
  ∀ part ∈ pathParts path, part ≠ "" ∧ part ≠ "." ∧ part ≠ ".."

/-- The steps of a path are its parts but for empty ones and dots. -/
theorem mem_steps : part ∈ steps path ↔ part ∈ pathParts path ∧ part ≠ "" ∧ part ≠ "." := by
  simp [steps, List.mem_filter]

/-- A path has steps exactly if some part of it leads on. -/
theorem steps_ne_nil_iff : steps path ≠ [] ↔ ∃ part ∈ pathParts path, part ≠ "" ∧ part ≠ "." := by
  constructor
  · intro h
    obtain ⟨part, hpart⟩ := List.exists_mem_of_ne_nil _ h
    exact ⟨part, mem_steps.1 hpart⟩
  · rintro ⟨part, hpart⟩
    exact List.ne_nil_of_mem (mem_steps.2 hpart)

/-- There is no slash in a step. -/
theorem slash_notMem_of_mem_steps (h : part ∈ steps path) : '/' ∉ part.toList :=
  slash_notMem_of_mem_pathParts (mem_steps.1 h).1

/-- The parts of joined steps are the steps. -/
theorem pathParts_join_steps (h : steps path ≠ []) :
    pathParts (Text.join "/" (steps path)) = steps path :=
  pathParts_join h fun _ hpart => slash_notMem_of_mem_steps hpart

/-- The form is empty only if no part of the path leads anywhere. -/
theorem join_steps_eq_empty_iff : Text.join "/" (steps path) = "" ↔ steps path = [] := by
  constructor
  · intro hempty
    by_cases hnil : steps path = []
    · exact hnil
    · have hparts := pathParts_join_steps hnil
      have hnone : pathParts "" = [""] := by decide
      rw [hempty, hnone] at hparts
      have hstep : "" ∈ steps path := by
        rw [← hparts]
        exact List.mem_singleton_self _
      exact absurd rfl (mem_steps.1 hstep).2.1
  · intro hnil
    rw [hnil]
    decide

/-- A path is normalized to its joined steps, if none of its parts goes up. -/
theorem normalize_eq_ok :
    normalize path = .ok sub ↔ ".." ∉ pathParts path ∧ Text.join "/" (steps path) = sub := by
  have hup : (steps path).contains ".." = true ↔ ".." ∈ pathParts path := by
    rw [List.contains_iff_mem, mem_steps]
    simp
  unfold normalize
  by_cases h : ".." ∈ pathParts path
  · rw [if_pos (hup.2 h)]
    simp [h]
  · rw [if_neg (mt hup.1 h)]
    simp [h]

/-- A path descends exactly if no part of it goes up and it has steps. -/
theorem descends_iff : Descends path ↔ ".." ∉ pathParts path ∧ steps path ≠ [] := by
  rw [steps_ne_nil_iff]
  exact ⟨fun h => ⟨h.notUp, h.leadsOn⟩, fun h => ⟨h.1, h.2⟩⟩

/-- A path below where it starts is brought into a form that is not empty. -/
theorem normalize_of_descends (h : Descends path) :
    normalize path = .ok (Text.join "/" (steps path)) ∧ Text.join "/" (steps path) ≠ "" := by
  obtain ⟨hup, hne⟩ := descends_iff.1 h
  exact ⟨normalize_eq_ok.2 ⟨hup, rfl⟩, mt join_steps_eq_empty_iff.1 hne⟩

/-- A path that is normalized to something descends to it. -/
theorem descends_of_normalize (h : normalize path = .ok sub) (hne : ¬ sub.isEmpty = true) :
    Descends path ∧ sub = Text.join "/" (steps path) := by
  obtain ⟨hup, rfl⟩ := normalize_eq_ok.1 h
  rw [String.isEmpty_iff] at hne
  exact ⟨descends_iff.2 ⟨hup, mt join_steps_eq_empty_iff.2 hne⟩, rfl⟩

/-- A part that the form keeps leads on, if no part of the path goes up. -/
theorem leadsOn_of_mem_steps (hup : ".." ∉ pathParts path) (h : part ∈ steps path) :
    part ≠ "" ∧ part ≠ "." ∧ part ≠ ".." := by
  obtain ⟨hmem, hempty, hdot⟩ := mem_steps.1 h
  refine ⟨hempty, hdot, ?_⟩
  rintro rfl
  exact hup hmem

/-- The joined steps of a path that descends are plain. -/
theorem isPlain_join_steps (h : Descends path) : IsPlain (Text.join "/" (steps path)) := by
  obtain ⟨hup, hne⟩ := descends_iff.1 h
  intro part hpart
  rw [pathParts_join_steps hne] at hpart
  exact leadsOn_of_mem_steps hup hpart

end ComposeCluster.Compose.SubPath
