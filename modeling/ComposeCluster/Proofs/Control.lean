import Mathlib.Data.List.Forall2

/-!
# Programs that may fail

A program that gives a result gave a result in each of its steps (`Except.bind_eq_ok`), and one that
fails failed in the first step that did (`Except.bind_eq_error`). The same holds for a program that
is run on each item of a list (`Except.mapM_eq_ok`, `Except.exists_of_mapM_eq_error`).
-/

set_option autoImplicit false

namespace ComposeCluster

variable {ε α β : Type}

/-! ## Lists that correspond item by item -/

/-- Each item of the first list has its partner in the second. -/
theorem exists_right_of_forall₂ {relation : α → β → Prop} {items : List α} {results : List β}
    (h : List.Forall₂ relation items results) {item : α} (hmem : item ∈ items) :
    ∃ result ∈ results, relation item result := by
  induction h with
  | nil => cases hmem
  | @cons head result rest later hhead _ ih =>
    rcases List.mem_cons.1 hmem with rfl | hmem
    · exact ⟨result, List.mem_cons_self, hhead⟩
    · obtain ⟨found, hfound, hitem⟩ := ih hmem
      exact ⟨found, List.mem_cons_of_mem _ hfound, hitem⟩

/-- Each item of the second list has its partner in the first. -/
theorem exists_left_of_forall₂ {relation : α → β → Prop} {items : List α} {results : List β}
    (h : List.Forall₂ relation items results) {result : β} (hmem : result ∈ results) :
    ∃ item ∈ items, relation item result :=
  exists_right_of_forall₂ (List.Forall₂.flip h : List.Forall₂ (flip relation) results items) hmem

/-- Two lists look the same through two functions under which related items do. -/
theorem map_eq_of_forall₂ {γ : Type} {relation : α → β → Prop} {f : α → γ} {g : β → γ}
    {items : List α} {results : List β} (h : List.Forall₂ relation items results)
    (heq : ∀ item result, relation item result → f item = g result) :
    items.map f = results.map g := by
  induction h with
  | nil => rfl
  | cons hhead _ ih => rw [List.map_cons, List.map_cons, heq _ _ hhead, ih]

/-- A program run over two lists gives the same if it does on the items at each place. -/
theorem mapM_eq_of_forall₂ {f : α → Option β} {items others : List α}
    (h : List.Forall₂ (fun item other => f item = f other) items others) :
    items.mapM f = others.mapM f := by
  induction h with
  | nil => rfl
  | cons hitem _ ih => rw [List.mapM_cons, List.mapM_cons, hitem, ih]

/-- Two lists of results for the same items are equal if the results for each item are. -/
theorem right_eq_of_forall₂ {first second : α → β → Prop} {items : List α}
    {results others : List β} (h : List.Forall₂ first items results)
    (hother : List.Forall₂ second items others)
    (heq : ∀ item result other, first item result → second item other → result = other) :
    results = others := by
  induction h generalizing others with
  | nil =>
    cases hother
    rfl
  | cons hhead _ ih =>
    cases hother with
    | cons hhead' htail' => rw [heq _ _ _ hhead hhead', ih htail']

/-- Where a function depends on the key of an item only, lists with the same keys are mapped
alike. -/
theorem map_eq_of_keys {γ : Type} {f : α → γ} {key : α → β} {first second : List α}
    (h : ∀ item other, key item = key other → f item = f other)
    (hkeys : first.map key = second.map key) : first.map f = second.map f := by
  rw [← List.forall₂_eq_eq_eq, List.forall₂_map_left_iff, List.forall₂_map_right_iff] at hkeys ⊢
  exact hkeys.imp h

/-! ## Steps -/

/-- Two programs after each other succeed if both do, the second with the value of the first. -/
theorem Except.bind_eq_ok {first : Except ε α} {next : α → Except ε β} {result : β} :
    (first >>= next) = .ok result ↔ ∃ value, first = .ok value ∧ next value = .ok result := by
  constructor
  · intro h
    cases first with
    | error error => cases h
    | ok value => exact ⟨value, rfl, h⟩
  · rintro ⟨value, rfl, h⟩
    exact h

/-- Two programs after each other fail if the first does, or else the second with its value. -/
theorem Except.bind_eq_error {first : Except ε α} {next : α → Except ε β} {error : ε} :
    (first >>= next) = .error error ↔
      first = .error error ∨ ∃ value, first = .ok value ∧ next value = .error error := by
  constructor
  · intro h
    cases first with
    | error earlier =>
      cases h
      exact .inl rfl
    | ok value => exact .inr ⟨value, rfl, h⟩
  · rintro (rfl | ⟨value, rfl, h⟩)
    · rfl
    · exact h

/-- Forgetting the error of a program keeps its value and nothing else. -/
theorem Except.toOption_eq_some {program : Except ε α} {value : α} :
    program.toOption = some value ↔ program = .ok value := by
  cases program <;> simp [Except.toOption]

/-- Forgetting the error goes before or after a function that is applied to the value. -/
theorem Except.toOption_map (f : α → β) (program : Except ε α) :
    (program.map f).toOption = program.toOption.map f := by
  cases program <;> rfl

/-- A computed test that finds a value shows that the program succeeds with one that passes. -/
theorem Except.exists_of_any {program : Except ε α} {p : α → Bool}
    (h : program.toOption.any p = true) : ∃ value, program = .ok value ∧ p value = true := by
  obtain ⟨value, hvalue, hp⟩ := (Option.any_eq_true _ _).1 h
  exact ⟨value, Except.toOption_eq_some.1 hvalue, hp⟩

/-- A computed test that no value fails holds of the value a program succeeds with. -/
theorem Except.of_all {program : Except ε α} {p : α → Bool} {value : α}
    (h : program.toOption.all p = true) (hok : program = .ok value) : p value = true := by
  subst hok
  exact h

/-- A program with a function applied to its value succeeds with the function of a value. -/
theorem Except.map_eq_ok {program : Except ε α} {f : α → β} {result : β} :
    program.map f = .ok result ↔ ∃ value, program = .ok value ∧ f value = result := by
  cases program <;> simp [Except.map]

/-- Changing the error of a program does not change its success. -/
theorem Except.mapError_eq_ok {δ : Type} {program : Except ε α} {f : ε → δ} {result : α} :
    program.mapError f = .ok result ↔ program = .ok result := by
  cases program <;> simp [Except.mapError]

/-- A program whose errors are changed fails with the change of an error. -/
theorem Except.mapError_eq_error {δ : Type} {program : Except ε α} {f : ε → δ} {error : δ} :
    program.mapError f = .error error ↔ ∃ cause, program = .error cause ∧ f cause = error := by
  cases program <;> simp [Except.mapError]

/-! ## Lists -/

section List

variable {step : α → Except ε β}

/-- A program that is run over a list succeeds if it does on each item, with the results in
order. -/
theorem Except.mapM_eq_ok {items : List α} :
    ∀ {results : List β}, items.mapM step = .ok results ↔
      List.Forall₂ (fun item result => step item = .ok result) items results := by
  induction items with
  | nil =>
    intro results
    rw [List.mapM_nil, List.forall₂_nil_left_iff]
    exact ⟨fun h => by cases h; rfl, fun h => h ▸ rfl⟩
  | cons item rest ih =>
    intro results
    rw [List.mapM_cons, List.forall₂_cons_left_iff, Except.bind_eq_ok]
    constructor
    · rintro ⟨result, hstep, h⟩
      obtain ⟨later, hrest, h⟩ := Except.bind_eq_ok.1 h
      cases h
      exact ⟨result, later, hstep, ih.1 hrest, rfl⟩
    · rintro ⟨result, later, hstep, hrest, rfl⟩
      exact ⟨result, hstep, Except.bind_eq_ok.2 ⟨later, ih.2 hrest, rfl⟩⟩

/-- A program that fails on a list fails on one of its items. -/
theorem Except.exists_of_mapM_eq_error {items : List α} {error : ε}
    (h : items.mapM step = .error error) : ∃ item ∈ items, step item = .error error := by
  induction items with
  | nil => cases h
  | cons item rest ih =>
    rw [List.mapM_cons] at h
    rcases Except.bind_eq_error.1 h with hstep | ⟨result, -, h⟩
    · exact ⟨item, List.mem_cons_self, hstep⟩
    · rcases Except.bind_eq_error.1 h with hrest | ⟨later, -, h⟩
      · obtain ⟨failing, hmem, hstep⟩ := ih hrest
        exact ⟨failing, List.mem_cons_of_mem _ hmem, hstep⟩
      · cases h

/-- There are results for a list exactly if there is one for each item. -/
theorem Except.exists_mapM_eq_ok {items : List α} :
    (∃ results, items.mapM step = .ok results) ↔
      ∀ item ∈ items, ∃ result, step item = .ok result := by
  constructor
  · rintro ⟨results, h⟩ item hmem
    obtain ⟨result, -, hstep⟩ := exists_right_of_forall₂ (Except.mapM_eq_ok.1 h) hmem
    exact ⟨result, hstep⟩
  · intro h
    cases hresults : items.mapM step with
    | ok results => exact ⟨results, rfl⟩
    | error error =>
      obtain ⟨item, hmem, herror⟩ := Except.exists_of_mapM_eq_error hresults
      obtain ⟨result, hstep⟩ := h item hmem
      rw [hstep] at herror
      cases herror

/-- A check that is run over a list succeeds exactly if each item passes it. -/
theorem Except.forM_eq_ok {check : α → Except ε Unit} {items : List α} :
    items.forM check = .ok () ↔ ∀ item ∈ items, check item = .ok () := by
  induction items with
  | nil => exact iff_of_true rfl nofun
  | cons item rest ih =>
    rw [List.forall_mem_cons, ← ih]
    refine Except.bind_eq_ok.trans ⟨?_, ?_⟩
    · rintro ⟨⟨⟩, hitem, hrest⟩
      exact ⟨hitem, hrest⟩
    · rintro ⟨hitem, hrest⟩
      exact ⟨(), hitem, hrest⟩

end List

end ComposeCluster
