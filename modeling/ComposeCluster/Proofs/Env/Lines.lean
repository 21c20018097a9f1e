import ComposeCluster.Env.Text
import ComposeCluster.Proofs.Control
import ComposeCluster.Proofs.Text.Lines
import ComposeCluster.SortedMap.Lemmas

/-!
# Lines of environment files are independent

Reading goes line by line with a map that grows, and the number of a line goes along with it.
Neither has an effect on what another line gives: the number only shows in errors
(`toOption_readLine`), and the map only takes entries up. So a text gives the entries of its lines
one after another (`given?`), and reading it stores these entries in turn (`parseLines_eq_ok`). What
two texts give with a line break between them is what one gives and then what the other gives
(`given?_append_cons`).
-/

set_option autoImplicit false

namespace ComposeCluster.Env

/-! ## One line -/

/-- A character other than the backslash stands for itself. -/
theorem unescape_cons_of_ne {c : Char} (h : c ≠ '\\') (line : Nat) (acc rest : List Char) :
    unescape line acc (c :: rest) = unescape line (c :: acc) rest := by
  rw [unescape]
  · exact fun heq _ => h heq
  · exact fun _ _ heq _ => h heq

/-- What escapes stand for does not depend on the number of the line. -/
theorem toOption_unescape (line other : Nat) (acc cs : List Char) :
    (unescape line acc cs).toOption = (unescape other acc cs).toOption := by
  fun_induction unescape line acc cs
  case case1 | case2 => rfl
  case case3 ih | case4 ih | case5 ih | case6 ih | case7 ih => exact ih
  case case8 acc rest c _ _ _ _ _ =>
    have hbad : unescape other acc ('\\' :: c :: rest) = .error (.badEscape c other) := by
      rw [unescape] <;> assumption
    rw [hbad]
    rfl
  case case9 acc c rest hdangling hescape ih =>
    have hplain : c ≠ '\\' := by
      intro hc
      cases rest with
      | nil => exact hdangling hc rfl
      | cons next rest => exact hescape next rest hc rfl
    rw [ih, unescape_cons_of_ne hplain]

/-- What a value is read as does not depend on the number of its line. -/
theorem toOption_readValue (line other : Nat) (cs : List Char) :
    (readValue line cs).toOption = (readValue other cs).toOption := by
  unfold readValue
  split
  · split
    · exact toOption_unescape line other _ _
    · rfl
  · split <;> rfl
  · rfl
  · rfl

/-- The number of a line only shows in its errors. -/
theorem toOption_readLine (line other : Nat) (cs : List Char) :
    (readLine line cs).toOption = (readLine other cs).toOption := by
  unfold readLine
  split
  · rfl
  · split
    · rfl
    · dsimp only
      split
      · rw [Except.toOption_map, Except.toOption_map, toOption_readValue line other]
      · rfl

/-! ## Many lines -/

/-- The keys and values that lines give, in their order; none if one of them cannot be read. -/
def entriesOf? : List (List Char) → Option (List (String × String))
  | [] => some []
  | line :: rest => do
    let entry? ← (readLine 1 line).toOption
    let later ← entriesOf? rest
    return entry?.toList ++ later

/-- The keys and values that the lines of a text give. -/
def given? (cs : List Char) : Option (List (String × String)) :=
  entriesOf? (Text.lines cs)

/-- What lines are read as does not depend on their numbers: it is what they give, in turn. -/
theorem toOption_readLines (map : Variables) (line : Nat) (lines : List (List Char)) :
    (readLines map line lines).toOption =
      (entriesOf? lines).map
        (·.foldl (fun map entry => map.insert entry.1 entry.2) map) := by
  induction lines generalizing map line with
  | nil => rfl
  | cons cs rest ih =>
    have hline := toOption_readLine 1 line cs
    rw [readLines, entriesOf?, hline]
    cases readLine line cs with
    | error error => rfl
    | ok entry? =>
      cases entry? with
      | none =>
        refine (ih map (line + 1)).trans ?_
        cases entriesOf? rest <;> rfl
      | some entry =>
        refine (ih (map.insert entry.1 entry.2) (line + 1)).trans ?_
        cases entriesOf? rest <;> rfl

/-- A text without a line feed gives what its only line gives. -/
theorem given?_of_notMem {line : List Char} (h : '\n' ∉ line) :
    given? line = (readLine 1 line).toOption.map Option.toList := by
  rw [given?, Text.lines_of_notMem h]
  by_cases hempty : line = []
  · subst hempty
    rfl
  · rw [if_neg hempty, entriesOf?, entriesOf?]
    cases (readLine 1 line).toOption <;> simp

/-- A text gives what its first line gives, and then what the rest gives. -/
theorem given?_line {line : List Char} (h : '\n' ∉ line) (rest : List Char) :
    given? (line ++ '\n' :: rest) = do
      let entry? ← (readLine 1 (Text.dropReturn line)).toOption
      let later ← given? rest
      return entry?.toList ++ later := by
  rw [given?, Text.lines_append_cons h, entriesOf?]
  rfl

/-- What is in front of a line break has no effect on what comes after it. -/
theorem given?_append_cons {front : List Char} (hend : front.getLast? ≠ some '\r')
    (back : List Char) :
    given? (front ++ '\n' :: back) = do
      let first ← given? front
      let second ← given? back
      return first ++ second := by
  induction front using Text.lineInduction with
  | last line hline =>
    rw [given?_line hline, given?_of_notMem hline, Text.dropReturn_of_getLast? hend]
    cases (readLine 1 line).toOption <;> rfl
  | next line rest hline ih =>
    have hrest : rest.getLast? ≠ some '\r' := by
      intro hlast
      rw [List.getLast?_append, List.getLast?_cons, hlast] at hend
      exact hend rfl
    rw [List.append_assoc, List.cons_append, given?_line hline, given?_line hline, ih hrest]
    cases (readLine 1 (Text.dropReturn line)).toOption with
    | none => rfl
    | some entry? =>
      cases given? rest with
      | none => rfl
      | some first =>
        cases given? back with
        | none => rfl
        | some second => simp

/-- Reading a text stores what its lines give in turn. -/
theorem parseLines_eq_ok {text : String} {map : Variables} :
    parseLines text = .ok map ↔ ∃ entries, given? text.toList = some entries ∧
      ∀ key, map.get? key = findEntry key entries.reverse := by
  rw [← Except.toOption_eq_some, parseLines, toOption_readLines, Option.map_eq_some_iff]
  refine exists_congr fun entries => and_congr_right fun _ => ?_
  have hstored (key : String) := SortedMap.get?_foldl_insert .empty entries key
  simp only [SortedMap.get?_empty, Option.or_none] at hstored
  constructor
  · rintro rfl key
    exact hstored key
  · intro hmap
    exact SortedMap.ext_get? fun key => (hstored key).trans (hmap key).symm

/-- A text can be read exactly if each of its lines can. -/
theorem exists_parseLines_iff {text : String} :
    (∃ map, parseLines text = .ok map) ↔ (given? text.toList).isSome = true := by
  rw [Option.isSome_iff_exists]
  constructor
  · rintro ⟨map, hmap⟩
    obtain ⟨entries, hentries, -⟩ := parseLines_eq_ok.1 hmap
    exact ⟨entries, hentries⟩
  · rintro ⟨entries, hentries⟩
    have hmap (key : String) :
        (SortedMap.ofList entries).get? key = findEntry key entries.reverse :=
      SortedMap.get?_ofList entries key
    exact ⟨.ofList entries, parseLines_eq_ok.2 ⟨entries, hentries, hmap⟩⟩

/-! ## Two texts -/

/-- Two texts with a line feed between them give what each gives. -/
theorem given?_join {front : String} (hend : front.toList.getLast? ≠ some '\r') (back : String) :
    given? (front ++ "\n" ++ back).toList = do
      let first ← given? front.toList
      let second ← given? back.toList
      return first ++ second := by
  have hbreak : "\n".toList = ['\n'] := by decide
  rw [String.toList_append, String.toList_append, hbreak, List.append_assoc]
  exact given?_append_cons hend back.toList

/-- Two texts with a line feed between them can be read exactly if both can be, and then a key has
the value that it has in the second one, or else the one that it has in the first one. The first
text must not end in a carriage return, which would become part of the line break. Carriage returns
in front of all line feeds change neither the result nor the error. -/
theorem lines_independent :
    (∀ front back : String, front.toList.getLast? ≠ some '\r' →
      ((∃ map, parseLines (front ++ "\n" ++ back) = .ok map) ↔
        (∃ first, parseLines front = .ok first) ∧ ∃ second, parseLines back = .ok second) ∧
      ∀ first second map, parseLines front = .ok first → parseLines back = .ok second →
        parseLines (front ++ "\n" ++ back) = .ok map →
          ∀ key, map.get? key = (second.get? key).or (first.get? key)) ∧
    ∀ text : String, '\r' ∉ text.toList →
      parseLines (String.ofList (Text.withReturns text.toList)) = parseLines text := by
  refine ⟨fun front back hend => ⟨?succeeds, ?result⟩, fun text hreturns => ?returns⟩
  case succeeds =>
    simp only [exists_parseLines_iff, given?_join hend]
    cases given? front.toList <;> cases given? back.toList <;> simp
  case result =>
    intro first second map hfirst hsecond hmap key
    obtain ⟨firstEntries, hfirst, hfirstKeys⟩ := parseLines_eq_ok.1 hfirst
    obtain ⟨secondEntries, hsecond, hsecondKeys⟩ := parseLines_eq_ok.1 hsecond
    obtain ⟨entries, hentries, hkeys⟩ := parseLines_eq_ok.1 hmap
    rw [given?_join hend, hfirst, hsecond] at hentries
    cases hentries
    rw [hkeys, hfirstKeys, hsecondKeys, List.reverse_append, findEntry_append]
  case returns =>
    rw [parseLines, parseLines, String.toList_ofList, Text.lines_withReturns hreturns]

/-- The last value of a key counts across the join, and an error keeps its line number. -/
theorem lines_independent_for_pairs :
    (∃ map, parseLines ("A=1\nB=2" ++ "\n" ++ "B=3\n") = .ok map ∧
      map.get? "A" = some "1" ∧ map.get? "B" = some "3") ∧
    parseLines (String.ofList (Text.withReturns "A=1\nNOPE".toList)) = .error (.noEquals 2) := by
  obtain ⟨hjoin, hreturns⟩ := lines_independent
  constructor
  · obtain ⟨hsucceeds, hresult⟩ := hjoin "A=1\nB=2" "B=3\n" (by decide)
    have hfirst : ((parseLines "A=1\nB=2").toOption.any fun map =>
        map.get? "A" = some "1" ∧ map.get? "B" = some "2") = true := by
      decide +kernel
    have hsecond : ((parseLines "B=3\n").toOption.any fun map =>
        map.get? "A" = none ∧ map.get? "B" = some "3") = true := by
      decide +kernel
    obtain ⟨first, hfirst, hfirstKeys⟩ := Except.exists_of_any hfirst
    obtain ⟨second, hsecond, hsecondKeys⟩ := Except.exists_of_any hsecond
    obtain ⟨hfirstA, -⟩ := of_decide_eq_true hfirstKeys
    obtain ⟨hsecondA, hsecondB⟩ := of_decide_eq_true hsecondKeys
    obtain ⟨map, hmap⟩ := hsucceeds.2 ⟨⟨first, hfirst⟩, second, hsecond⟩
    have hkeys := hresult first second map hfirst hsecond hmap
    refine ⟨map, hmap, ?_, ?_⟩
    · rw [hkeys, hsecondA, hfirstA, Option.none_or]
    · rw [hkeys, hsecondB, Option.some_or]
  · rw [hreturns "A=1\nNOPE" (by decide)]
    rfl

end ComposeCluster.Env
