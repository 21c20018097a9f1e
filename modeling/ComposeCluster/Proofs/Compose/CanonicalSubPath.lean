import ComposeCluster.Proofs.Compose.SubPath

/-!
# The canonical form of sub-paths

A path is brought into its form by leaving out the parts that lead nowhere. What is left are parts
that each lead on, so the form has no slash that is not between two of them (`TidySlashes`) and
stays as it is when it is brought into its form again (`steps_join_steps`). A path that continues
another one has the steps of both (`steps_append_slash`), so its form is that of the first, a slash
and that of the second (`join_steps_append_slash`). `normalize_canonical` puts these together.
-/

set_option autoImplicit false

namespace ComposeCluster.Compose.SubPath

variable {path : String}

/-- No slash stands in front, at the end or beside another one. -/
structure TidySlashes (path : String) : Prop where
  notInFront : path.toList.head? ≠ some '/'
  notAtEnd : path.toList.getLast? ≠ some '/'
  notDoubled : ¬ ['/', '/'] <:+: path.toList

/-- A path and another one behind it; one that is empty is left out. -/
def extend (front back : String) : String :=
  if front = "" then back else if back = "" then front else front ++ "/" ++ back

/-! ## Slashes -/

/-- The parts of a path with a slash are those before the slash and those after it. -/
theorem pathParts_of_toList {front back : List Char} (h : path.toList = front ++ '/' :: back) :
    pathParts path = pathParts (.ofList front) ++ pathParts (.ofList back) := by
  have hpath : path = .ofList front ++ "/" ++ .ofList back := by
    rw [← String.toList_inj, h]
    simp
  rw [hpath, pathParts_append_slash]

/-- The empty path has one part, which is empty. -/
theorem empty_mem_pathParts_empty : "" ∈ pathParts (.ofList []) := by decide

/-- Where every part leads on, a slash that is not between two of them would leave an empty one. -/
theorem IsPlain.tidySlashes (h : IsPlain path) : TidySlashes path := by
  have hempty : "" ∉ pathParts path := fun hmem => (h "" hmem).1 rfl
  refine ⟨fun hfront => hempty ?_, fun hend => hempty ?_, fun hdoubled => hempty ?_⟩
  · obtain ⟨back, hback⟩ := List.head?_eq_some_iff.1 hfront
    have hcut : path.toList = [] ++ '/' :: back := hback
    rw [pathParts_of_toList hcut]
    exact List.mem_append_left _ empty_mem_pathParts_empty
  · obtain ⟨front, hfront⟩ := List.getLast?_eq_some_iff.1 hend
    rw [pathParts_of_toList hfront]
    exact List.mem_append_right _ empty_mem_pathParts_empty
  · obtain ⟨front, back, hback⟩ := hdoubled
    have hfirst : path.toList = front ++ '/' :: ('/' :: back) := by simp [← hback]
    have hsecond : (String.ofList ('/' :: back)).toList = [] ++ '/' :: back := by simp
    rw [pathParts_of_toList hfirst, pathParts_of_toList hsecond]
    exact List.mem_append_right _ (List.mem_append_left _ empty_mem_pathParts_empty)

/-- In the empty path there is no slash to tidy up. -/
theorem tidySlashes_empty : TidySlashes "" := ⟨by decide, by decide, by decide⟩

/-! ## Steps -/

/-- A path is normalized exactly if no part of it goes up. -/
theorem exists_normalize_eq_ok : (∃ sub, normalize path = .ok sub) ↔ ".." ∉ pathParts path := by
  simp only [normalize_eq_ok, exists_and_left, exists_eq', and_true]

/-- A path is refused exactly if some part of it goes up. -/
theorem exists_normalize_eq_error :
    (∃ error, normalize path = .error error) ↔ ".." ∈ pathParts path := by
  rw [← not_iff_not, ← exists_normalize_eq_ok]
  cases normalize path <;> simp

/-- The form of a path has the steps of the path. -/
theorem steps_join_steps (path : String) : steps (Text.join "/" (steps path)) = steps path := by
  by_cases hnil : steps path = []
  · rw [hnil]
    decide
  · have hkeep : ∀ part ∈ steps path, (part != "" && part != ".") = true :=
      fun part hpart => (List.mem_filter.1 hpart).2
    rw [steps, pathParts_join_steps hnil, List.filter_eq_self.2 hkeep]

/-- The steps of two paths with a slash between them are those of the first and those of the
second. -/
theorem steps_append_slash (front back : String) :
    steps (front ++ "/" ++ back) = steps front ++ steps back := by
  rw [steps, pathParts_append_slash, List.filter_append]
  rfl

/-- The form of a path that continues another one is made of both forms. -/
theorem join_steps_append_slash (front back : String) :
    Text.join "/" (steps (front ++ "/" ++ back)) =
      extend (Text.join "/" (steps front)) (Text.join "/" (steps back)) := by
  rw [steps_append_slash, extend]
  by_cases hfront : steps front = []
  · rw [if_pos (join_steps_eq_empty_iff.2 hfront), hfront, List.nil_append]
  rw [if_neg (mt join_steps_eq_empty_iff.1 hfront)]
  by_cases hback : steps back = []
  · rw [if_pos (join_steps_eq_empty_iff.2 hback), hback, List.append_nil]
  rw [if_neg (mt join_steps_eq_empty_iff.1 hback)]
  -- both sides are paths with the steps of the two, one after the other
  have hslash : ∀ part ∈ steps front ++ steps back, '/' ∉ part.toList := fun part hpart =>
    (List.mem_append.1 hpart).elim slash_notMem_of_mem_steps slash_notMem_of_mem_steps
  apply pathParts_inj
  rw [pathParts_join (by simp [hfront]) hslash, pathParts_append_slash,
    pathParts_join_steps hfront, pathParts_join_steps hback]

/-- What a path was normalized to is normalized to itself. -/
theorem normalize_join_steps (hup : ".." ∉ pathParts path) :
    normalize (Text.join "/" (steps path)) = .ok (Text.join "/" (steps path)) := by
  refine normalize_eq_ok.2 ⟨?_, by rw [steps_join_steps]⟩
  by_cases hnil : steps path = []
  · rw [hnil]
    decide
  · rw [pathParts_join_steps hnil]
    exact fun hmem => (leadsOn_of_mem_steps hup hmem).2.2 rfl

/-- What a path is normalized to has no slashes but those between its steps. -/
theorem tidySlashes_join_steps (hup : ".." ∉ pathParts path) :
    TidySlashes (Text.join "/" (steps path)) := by
  by_cases hnil : steps path = []
  · rw [join_steps_eq_empty_iff.2 hnil]
    exact tidySlashes_empty
  · exact (isPlain_join_steps (descends_iff.2 ⟨hup, hnil⟩)).tidySlashes

/-- What a path is brought into. It fails exactly if a part of the path goes up. Otherwise it is
made of the parts of the path that are neither empty nor a dot, it has slashes only between them,
and it is a fixed point. A path that continues another one is brought into the forms of both. -/
theorem normalize_canonical (path other : String) :
    ((∃ error, normalize path = .error error) ↔ ".." ∈ pathParts path) ∧
      (∀ sub, normalize path = .ok sub →
        let parts := (pathParts path).filter fun part => part != "" && part != "."
        sub = Text.join "/" parts ∧
          (∀ part ∈ parts, '/' ∉ part.toList ∧ part ≠ "" ∧ part ≠ "." ∧ part ≠ "..") ∧
          TidySlashes sub ∧ normalize sub = .ok sub) ∧
      ((∃ sub, normalize (path ++ "/" ++ other) = .ok sub) ↔
        (∃ sub, normalize path = .ok sub) ∧ ∃ sub, normalize other = .ok sub) ∧
      ∀ front back, normalize path = .ok front → normalize other = .ok back →
        normalize (path ++ "/" ++ other) = .ok (extend front back) := by
  refine ⟨exists_normalize_eq_error, fun sub hsub => ?_, ?_, fun front back hfront hback => ?_⟩
  · obtain ⟨hup, rfl⟩ := normalize_eq_ok.1 hsub
    refine ⟨rfl, fun part hpart => ?_, tidySlashes_join_steps hup, normalize_join_steps hup⟩
    exact ⟨slash_notMem_of_mem_steps hpart, leadsOn_of_mem_steps hup hpart⟩
  · rw [exists_normalize_eq_ok, exists_normalize_eq_ok, exists_normalize_eq_ok,
      pathParts_append_slash, List.mem_append, not_or]
  · obtain ⟨hup, rfl⟩ := normalize_eq_ok.1 hfront
    obtain ⟨hup', rfl⟩ := normalize_eq_ok.1 hback
    refine normalize_eq_ok.2 ⟨?_, join_steps_append_slash path other⟩
    rw [pathParts_append_slash, List.mem_append, not_or]
    exact ⟨hup, hup'⟩

/-- The site and its images are normalized, once and again, and as one path. -/
theorem normalize_canonical_of_site :
    normalize "./site//pages/." = .ok "site/pages" ∧ normalize "/img/" = .ok "img" ∧
      normalize "site/pages" = .ok "site/pages" ∧
      normalize "./site//pages/.//img/" = .ok "site/pages/img" := by
  have hfront : normalize "./site//pages/." = .ok "site/pages" := by decide
  have hback : normalize "/img/" = .ok "img" := by decide
  obtain ⟨-, hform, -, hboth⟩ := normalize_canonical "./site//pages/." "/img/"
  exact ⟨hfront, hback, (hform _ hfront).2.2.2, hboth _ _ hfront hback⟩

end ComposeCluster.Compose.SubPath
