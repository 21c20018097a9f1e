import ComposeCluster.Compose.Normal
import ComposeCluster.Proofs.Control
import ComposeCluster.SortedMap.Lemmas

/-!
# Environment files are merged from left to right

What a key has been set to, one file after the other, is all that a merge depends on
(`EnvMerge.Reflects`): the data hold the last value, and a key counts as overridden with the value
that it had before the last change (`beforeLastChange?`). A file without a path, and one that may be
missing and is, sets no key and is passed over (`EnvMerge.addFiles_cons_of_isIdle`).
-/

set_option autoImplicit false

namespace ComposeCluster

/-! ## Changes in a sequence of values -/

/-- The value before the last change. -/
def beforeLastChange? : List String → Option String
  | first :: second :: rest =>
    (beforeLastChange? (second :: rest)).or (if first = second then none else some first)
  | _ => none

/-- After one more value the last change is at this value, or where it was before. -/
theorem beforeLastChange?_append_singleton (values : List String) (value : String) :
    beforeLastChange? (values ++ [value]) =
      (values.getLast?).bind fun last =>
        if last = value then beforeLastChange? values else some last := by
  induction values with
  | nil => rfl
  | cons first rest ih =>
    cases rest with
    | nil => simp [beforeLastChange?]
    | cons second rest =>
      have hlast := List.getLast?_eq_some_getLast (List.cons_ne_nil second rest)
      rw [hlast, Option.bind_some] at ih
      rw [List.getLast?_cons_cons, hlast, Option.bind_some]
      show (beforeLastChange? (second :: rest ++ [value])).or _ = _
      rw [ih]
      split
      · rfl
      · rfl

/-- A value in front does not move the last change, if there was one. -/
theorem beforeLastChange?_cons {first previous : String} {rest : List String}
    (h : beforeLastChange? rest = some previous) :
    beforeLastChange? (first :: rest) = some previous := by
  cases rest with
  | nil => cases h
  | cons second rest => rw [beforeLastChange?, h, Option.some_or]

/-- There was no change exactly if all values are the same. -/
theorem beforeLastChange?_cons_eq_none {first : String} {rest : List String} :
    beforeLastChange? (first :: rest) = none ↔ ∀ later ∈ rest, later = first := by
  induction rest generalizing first with
  | nil => simp [beforeLastChange?]
  | cons second rest ih =>
    rw [beforeLastChange?, Option.or_eq_none_iff, ih]
    by_cases h : first = second
    · simp [h]
    · simp [h, Ne.symm h]

/-- The value before the last change is followed by another one that stays. -/
theorem beforeLastChange?_eq_some {values : List String} {previous : String} :
    beforeLastChange? values = some previous ↔
      ∃ front value back, values = front ++ previous :: value :: back ∧ previous ≠ value ∧
        ∀ later ∈ back, later = value := by
  constructor
  · intro h
    induction values with
    | nil => cases h
    | cons first rest ih =>
      cases rest with
      | nil => cases h
      | cons second rest =>
        rw [beforeLastChange?, Option.or_eq_some_iff] at h
        rcases h with hlater | ⟨hnone, hfirst⟩
        · obtain ⟨front, value, back, hvalues, hback⟩ := ih hlater
          exact ⟨first :: front, value, back, congrArg (first :: ·) hvalues, hback⟩
        · obtain ⟨hne, rfl⟩ : first ≠ second ∧ first = previous := by simpa using hfirst
          exact ⟨[], second, rest, rfl, hne, beforeLastChange?_cons_eq_none.1 hnone⟩
  · rintro ⟨front, value, back, rfl, hne, hback⟩
    induction front with
    | nil =>
      rw [List.nil_append, beforeLastChange?, beforeLastChange?_cons_eq_none.2 hback]
      simp [hne]
    | cons first front ih => exact beforeLastChange?_cons ih

/-- There is a last change as soon as two values that follow on each other differ. -/
theorem isSome_beforeLastChange? {values : List String} :
    (beforeLastChange? values).isSome = true ↔
      ∃ front first second back, values = front ++ first :: second :: back ∧ first ≠ second := by
  constructor
  · intro h
    obtain ⟨previous, h⟩ := Option.isSome_iff_exists.1 h
    obtain ⟨front, value, back, hvalues, hne, -⟩ := beforeLastChange?_eq_some.1 h
    exact ⟨front, previous, value, back, hvalues, hne⟩
  · rintro ⟨front, first, second, back, rfl, hne⟩
    induction front with
    | nil => simp [beforeLastChange?, hne]
    | cons start front ih =>
      obtain ⟨previous, h⟩ := Option.isSome_iff_exists.1 ih
      rw [List.cons_append, beforeLastChange?_cons h]
      rfl

/-! ## What files contribute -/

namespace EnvFile

/-- The keys and values that the file at the path of an entry gives; none without a path or without
a file that can be read. -/
def contribution? (tree : SourceTree) (file : EnvFile) : Option Variables :=
  let path := Text.trim file.path
  if path = "" then none
  else
    match tree.read path with
    | .error _ => none
    | .ok content =>
      (Text.ofUtf8? content).bind fun text => (Env.parse text path).toOption

/-- An entry has no path, or its file may be missing and is. -/
def IsIdle (tree : SourceTree) (file : EnvFile) : Prop :=
  Text.trim file.path = "" ∨
    file.required = false ∧ tree.read (Text.trim file.path) = .error (.file .missing)

/-- The values of a key in the files that define it, in the order of the files. -/
def values (tree : SourceTree) (files : List EnvFile) (key : String) : List String :=
  (files.filterMap (·.contribution? tree)).filterMap (·.get? key)

variable {tree : SourceTree} {file : EnvFile}

/-- An entry without a path or a file contributes nothing. -/
theorem contribution?_of_isIdle (h : file.IsIdle tree) : file.contribution? tree = none := by
  unfold contribution?
  rcases h with hpath | ⟨-, hmissing⟩
  · simp [hpath]
  · simp [hmissing]

/-- A file that can be used contributes what is read, or nothing is read from it. -/
theorem of_load_eq_ok {data : Variables} (hpath : Text.trim file.path ≠ "")
    (h : Env.load tree (Text.trim file.path) file.required = .ok data) :
    file.contribution? tree = some data ∨ file.IsIdle tree ∧ data = .empty := by
  unfold Env.load at h
  split at h
  case h_1 error hread =>
    right
    split at h
    · rename_i hmissing
      cases h
      exact ⟨.inr ⟨by simpa using hmissing.2, hmissing.1 ▸ hread⟩, rfl⟩
    · cases h
  case h_2 content hread =>
    left
    split at h
    · cases h
    · rename_i text htext
      split at h
      · cases h
      · rename_i found hparse
        cases h
        simp [contribution?, hpath, hread, htext, hparse, Except.toOption]

/-- The values of a key are those of the first file and then those of the rest. -/
theorem values_cons (rest : List EnvFile) (key : String) :
    values tree (file :: rest) key =
      ((file.contribution? tree).bind (·.get? key)).toList ++ values tree rest key := by
  cases h : file.contribution? tree with
  | none => simp [values, h]
  | some data => cases hkey : data.get? key <;> simp [values, h, hkey]

end EnvFile

/-! ## What merging keeps -/

namespace EnvMerge

variable {tree : SourceTree} {merged after : EnvMerge} {values : String → List String}

/-- A merge is what is left of the values that each key was set to. -/
structure Reflects (merged : EnvMerge) (values : String → List String) : Prop where
  data : ∀ key, merged.data.get? key = (values key).getLast?
  overridden : ∀ key, merged.overridden.get? key = beforeLastChange? (values key)

/-- At first no key was set. -/
theorem reflects_empty : empty.Reflects fun _ => [] := ⟨fun _ => rfl, fun _ => rfl⟩

/-- A key is overridden when it is set to another value than it has. -/
theorem get?_overridden_set (merged : EnvMerge) (key value asked : String) :
    (merged.set key value).overridden.get? asked =
      if asked = key ∧ merged.data.get? key ≠ none ∧ merged.data.get? key ≠ some value then
        merged.data.get? key
      else merged.overridden.get? asked := by
  rw [set]
  dsimp only
  cases merged.data.get? key with
  | none => simp
  | some previous =>
    by_cases hsame : previous = value
    · simp [hsame]
    · simp [hsame]

/-- Setting a key adds its value to those it was set to. -/
theorem Reflects.set (h : merged.Reflects values) (key value : String) :
    (merged.set key value).Reflects fun asked =>
      values asked ++ if asked = key then [value] else [] := by
  constructor
  · intro asked
    show (merged.data.insert key value).get? asked = _
    by_cases heq : asked = key
    · simp [heq]
    · simp [heq, h.data]
  · intro asked
    rw [get?_overridden_set, h.overridden]
    by_cases heq : asked = key
    · subst heq
      rw [if_pos rfl, beforeLastChange?_append_singleton, ← h.data]
      cases hlast : merged.data.get? asked with
      | none =>
        -- A key without a value has no history.
        have hnone := h.data asked
        rw [hlast, eq_comm, List.getLast?_eq_none_iff] at hnone
        simp [hnone, beforeLastChange?]
      | some last => by_cases hsame : last = value <;> simp [hsame]
    · simp [heq]

/-- The keys of a file are set one by one, and each is there once. -/
theorem Reflects.foldl_set {entries : List (String × String)}
    (hkeys : entries.Pairwise fun a b => a.1 ≠ b.1) (h : merged.Reflects values) :
    (entries.foldl (fun merged entry => merged.set entry.1 entry.2) merged).Reflects fun key =>
      values key ++ (findEntry key entries).toList := by
  induction entries generalizing merged values with
  | nil => simpa [findEntry] using h
  | cons entry rest ih =>
    obtain ⟨hentry, hrest⟩ := List.pairwise_cons.1 hkeys
    have hafter := ih hrest (h.set entry.1 entry.2)
    have hvalues (key : String) :
        (values key ++ if key = entry.1 then [entry.2] else []) ++ (findEntry key rest).toList =
          values key ++ (findEntry key (entry :: rest)).toList := by
      by_cases heq : key = entry.1
      · have hnone : findEntry key rest = none := by
          rw [← Option.not_isSome_iff_eq_none, findEntry_isSome_iff, List.mem_map]
          rintro ⟨other, hmem, hother⟩
          exact hentry other hmem (heq ▸ hother.symm)
        simp [findEntry, heq, heq ▸ hnone]
      · simp [findEntry, heq]
    simp only [hvalues] at hafter
    exact hafter

/-- Adding a file adds its value to those that each key was set to. -/
theorem Reflects.add (h : merged.Reflects values) (data : Variables) :
    (merged.add data).Reflects fun key => values key ++ (data.get? key).toList :=
  h.foldl_set (SortedEntries.distinct data.sorted)

/-- An entry without a path or a file may be left out in front. -/
theorem addFiles_cons_of_isIdle {file : EnvFile} (h : file.IsIdle tree) (merged : EnvMerge)
    (rest : List EnvFile) : merged.addFiles tree (file :: rest) = merged.addFiles tree rest := by
  rw [addFiles]
  rcases h with hpath | ⟨hrequired, hmissing⟩
  · simp [hpath]
  · simp [Env.load, hmissing, hrequired, add, SortedMap.empty]

/-- Files are merged one after another. -/
theorem addFiles_append (front back : List EnvFile) (merged : EnvMerge) :
    merged.addFiles tree (front ++ back) =
      (merged.addFiles tree front).bind (·.addFiles tree back) := by
  induction front generalizing merged with
  | nil => rfl
  | cons file front ih =>
    rw [List.cons_append, addFiles, addFiles]
    split
    · exact ih merged
    · split
      · rfl
      · exact ih _

/-- Files that can be used add the values that they contribute. -/
theorem Reflects.addFiles {files : List EnvFile} (h : merged.Reflects values)
    (hadd : merged.addFiles tree files = .ok after) :
    after.Reflects (fun key => values key ++ EnvFile.values tree files key) ∧
      ∀ file ∈ files, file.IsIdle tree ∨ (file.contribution? tree).isSome = true := by
  induction files generalizing merged values with
  | nil =>
    cases hadd
    simpa [EnvFile.values] using h
  | cons file rest ih =>
    by_cases hidle : file.IsIdle tree
    · -- the file is passed over
      rw [addFiles_cons_of_isIdle hidle] at hadd
      obtain ⟨hafter, hrest⟩ := ih h hadd
      refine ⟨?_, List.forall_mem_cons.2 ⟨.inl hidle, hrest⟩⟩
      simpa [EnvFile.values_cons, EnvFile.contribution?_of_isIdle hidle] using hafter
    · -- the file sets its keys before the later ones
      have hpath : Text.trim file.path ≠ "" := fun hpath => hidle (.inl hpath)
      rw [addFiles] at hadd
      simp only [String.isEmpty_iff, hpath, if_false] at hadd
      split at hadd
      · cases hadd
      · rename_i data hload
        have hdata := (EnvFile.of_load_eq_ok hpath hload).resolve_right fun h => hidle h.1
        obtain ⟨hafter, hrest⟩ := ih (h.add data) hadd
        refine ⟨?_, List.forall_mem_cons.2 ⟨.inr (by rw [hdata]; rfl), hrest⟩⟩
        simpa [EnvFile.values_cons, hdata] using hafter

/-- The keys that count as overridden are those that two files, one after the other, give different
values. -/
theorem contains_overridden_iff {files : List EnvFile}
    (hadd : empty.addFiles tree files = .ok after) (key : String) :
    after.overridden.contains key = true ↔
      ∃ front first second back,
        EnvFile.values tree files key = front ++ first :: second :: back ∧ first ≠ second := by
  have hreflects := (reflects_empty.addFiles hadd).1
  rw [SortedMap.contains, hreflects.overridden, List.nil_append, isSome_beforeLastChange?]

end EnvMerge

namespace Compose

variable {tree : SourceTree} {service : String}

/-- An entry without a path or a file may be left out anywhere. -/
theorem mergeEnv_of_isIdle {file : EnvFile} (h : file.IsIdle tree) (front back : List EnvFile) :
    mergeEnv tree service (front ++ file :: back) = mergeEnv tree service (front ++ back) := by
  have hback (merged : EnvMerge) : merged.addFiles tree (file :: back) =
      merged.addFiles tree back := EnvMerge.addFiles_cons_of_isIdle h merged back
  rw [mergeEnv, mergeEnv, EnvMerge.addFiles_append, EnvMerge.addFiles_append]
  simp only [hback]

/-- A merge that succeeds put all files together and found their data in order. -/
theorem mergeEnv_eq_ok {files : List EnvFile} {merged : EnvMerge}
    (h : mergeEnv tree service files = .ok merged) :
    EnvMerge.empty.addFiles tree files = .ok merged ∧ Env.checkData merged.data = .ok () := by
  unfold mergeEnv at h
  split at h
  · cases h
  · rename_i found hadd
    split at h
    · cases h
    · rename_i hcheck
      cases h
      exact ⟨hadd, hcheck⟩

/-- Environment files are merged from left to right. An entry without a path, or whose file may be
missing and is, changes nothing wherever it stands; where the merge succeeds, these are the entries
that contribute nothing. A key has the value that it has in the last file that defines it. It counts
as overridden if two files that define it one after the other give it different values, and then
with the value that it had before the last such change. -/
theorem merged_left_to_right (tree : SourceTree) (service : String) :
    (∀ front file back, EnvFile.IsIdle tree file →
      mergeEnv tree service (front ++ file :: back) = mergeEnv tree service (front ++ back)) ∧
    ∀ files merged, mergeEnv tree service files = .ok merged →
      (∀ file ∈ files, file.contribution? tree = none ↔ file.IsIdle tree) ∧
      ∀ key,
        merged.data.get? key = (EnvFile.values tree files key).getLast? ∧
        (merged.overridden.contains key = true ↔
          ∃ front first second back,
            EnvFile.values tree files key = front ++ first :: second :: back ∧ first ≠ second) ∧
        ∀ previous, merged.overridden.get? key = some previous ↔
          ∃ front value back,
            EnvFile.values tree files key = front ++ previous :: value :: back ∧
              previous ≠ value ∧ ∀ later ∈ back, later = value := by
  refine ⟨fun front file back hidle => mergeEnv_of_isIdle hidle front back, ?_⟩
  intro files merged hmerged
  obtain ⟨hadd, -⟩ := mergeEnv_eq_ok hmerged
  obtain ⟨hreflects, hcontribute⟩ := EnvMerge.reflects_empty.addFiles hadd
  simp only [List.nil_append] at hreflects
  refine ⟨fun file hmem => ⟨fun hnone => ?_, EnvFile.contribution?_of_isIdle⟩, fun key => ?_⟩
  · refine (hcontribute file hmem).resolve_right fun hsome => ?_
    rw [hnone] at hsome
    cases hsome
  · refine ⟨hreflects.data key, EnvMerge.contains_overridden_iff hadd key, fun previous => ?_⟩
    rw [hreflects.overridden, beforeLastChange?_eq_some]

/-- Three environment files; the second one changes a value of the first. -/
def layeredTree : SourceTree where
  base := ["srv"]
  entries :=
    [(["srv", "a.env"], .file (Text.utf8 "A=1\nB=2\n")),
      (["srv", "b.env"], .file (Text.utf8 "B=22\n")),
      (["srv", "c.env"], .file (Text.utf8 "A=1\nB=22\n"))]

/-- Of three files the last value counts, and the one that was changed is kept. -/
theorem merged_left_to_right_of_layered :
    let files : List EnvFile := [⟨"a.env", true⟩, ⟨"b.env", true⟩, ⟨"c.env", true⟩]
    ∃ merged, mergeEnv layeredTree "web" files = .ok merged ∧
      merged.data.get? "B" = some "22" ∧ merged.overridden.get? "B" = some "2" ∧
      merged.overridden.contains "A" = false ∧
      mergeEnv layeredTree "web" (⟨"a.env", true⟩ :: ⟨"local.env", false⟩ :: files.tail) =
        .ok merged := by
  intro files
  obtain ⟨hidle, hmerge⟩ := merged_left_to_right layeredTree "web"
  have hok : ((mergeEnv layeredTree "web" files).toOption.any fun _ => true) = true := by
    decide +kernel
  have hfirst : EnvFile.values layeredTree files "A" = ["1", "1"] := by decide +kernel
  have hsecond : EnvFile.values layeredTree files "B" = ["2", "22", "22"] := by decide +kernel
  have hmissing : EnvFile.IsIdle layeredTree ⟨"local.env", false⟩ :=
    .inr ⟨rfl, by decide +kernel⟩
  obtain ⟨merged, hmerged, -⟩ := Except.exists_of_any hok
  obtain ⟨-, hkeys⟩ := hmerge files merged hmerged
  refine ⟨merged, hmerged, ?_, ?_, ?_, ?_⟩
  · rw [(hkeys "B").1, hsecond]
    rfl
  · exact ((hkeys "B").2.2 "2").2 ⟨[], "22", ["22"], hsecond, by decide, by decide⟩
  · rw [Bool.eq_false_iff, Ne, (hkeys "A").2.1, hfirst, ← isSome_beforeLastChange?]
    decide
  · exact (hidle [⟨"a.env", true⟩] _ _ hmissing).trans hmerged

end Compose

end ComposeCluster
