import ComposeCluster.Proofs.Env.Data
import ComposeCluster.Proofs.Env.Lines
import ComposeCluster.Proofs.Text.Cut

/-!
# Written environment files are read back

A value can be written between double quotes with escapes, between single quotes, or bare, as far as
the style admits it (`ValueStyle`). A line is put together so that each step of reading undoes one
step of writing: what stands in front of the first equals sign is the key, because names have none
in them, and what stands behind it is the value in its style (`readValue_write`). Since lines are
independent, a file gives the pairs of its lines in turn (`given?_intercalate`).
-/

set_option autoImplicit false

namespace ComposeCluster

namespace Env

/-! ## Values and how they are written -/

/-- How a value is written: between double quotes with escapes, between single quotes as it stands,
or bare. -/
inductive ValueStyle where
  | double
  | single
  | bare
  deriving DecidableEq

/-- A character of a value between double quotes. -/
def escapeChar (c : Char) : List Char :=
  if c = '\\' then ['\\', '\\']
  else if c = '"' then ['\\', '"']
  else if c = '\n' then ['\\', 'n']
  else if c = '\r' then ['\\', 'r']
  else if c = '\t' then ['\\', 't']
  else [c]

namespace ValueStyle

/-- A value as it is written in a style. -/
def write : ValueStyle → List Char → List Char
  | .double, value => '"' :: value.flatMap escapeChar ++ ['"']
  | .single, value => '\'' :: value ++ ['\'']
  | .bare, value => value

/-- Whether a value can be written in a style: double quotes take every value, single quotes every
one without a line feed, and a bare value must not begin with a character that is read in another
way, nor end in a carriage return. -/
def Admits : ValueStyle → List Char → Prop
  | .double, _ => True
  | .single, value => '\n' ∉ value
  | .bare, value => '\n' ∉ value ∧ value.getLast? ≠ some '\r' ∧ value.head? ≠ some ' ' ∧
      value.head? ≠ some '\'' ∧ value.head? ≠ some '"'

instance : ∀ (style : ValueStyle) (value : List Char), Decidable (style.Admits value)
  | .double, _ => inferInstanceAs (Decidable True)
  | .single, value => inferInstanceAs (Decidable ('\n' ∉ value))
  | .bare, value => inferInstanceAs (Decidable ('\n' ∉ value ∧ value.getLast? ≠ some '\r' ∧
      value.head? ≠ some ' ' ∧ value.head? ≠ some '\'' ∧ value.head? ≠ some '"'))

end ValueStyle

/-! ## Values are read back -/

/-- An escaped character is read as the character. -/
theorem unescape_escapeChar (line : Nat) (acc : List Char) (c : Char) (rest : List Char) :
    unescape line acc (escapeChar c ++ rest) = unescape line (c :: acc) rest := by
  by_cases hbackslash : c = '\\'
  · subst hbackslash
    rfl
  by_cases hquote : c = '"'
  · subst hquote
    rfl
  by_cases hfeed : c = '\n'
  · subst hfeed
    rfl
  by_cases hreturn : c = '\r'
  · subst hreturn
    rfl
  by_cases htab : c = '\t'
  · subst htab
    rfl
  have hplain : escapeChar c = [c] := by
    simp [escapeChar, hbackslash, hquote, hfeed, hreturn, htab]
  rw [hplain]
  exact unescape_cons_of_ne hbackslash line acc rest

/-- Escaped characters are read as the characters, one after another. -/
theorem unescape_flatMap (line : Nat) (acc value : List Char) :
    unescape line acc (value.flatMap escapeChar) = .ok (acc.reverse ++ value) := by
  induction value generalizing acc with
  | nil => rw [List.flatMap_nil, unescape, List.append_nil]
  | cons c rest ih =>
    rw [List.flatMap_cons, unescape_escapeChar, ih, List.reverse_cons, List.append_assoc]
    rfl

/-- Dropping the last character undoes putting it there. -/
theorem dropLast?_append (c : Char) (cs : List Char) : dropLast? c (cs ++ [c]) = some cs := by
  rw [dropLast?, List.getLast?_concat, if_pos rfl, List.dropLast_concat]

/-- A written value is read as it was, in each style that admits it. -/
theorem readValue_write {style : ValueStyle} {value : List Char} (h : style.Admits value)
    (line : Nat) : readValue line (style.write value) = .ok value := by
  cases style with
  | double =>
    rw [ValueStyle.write, List.cons_append, readValue, dropLast?_append]
    exact unescape_flatMap line [] value
  | single => rw [ValueStyle.write, List.cons_append, readValue, dropLast?_append]
  | bare =>
    obtain ⟨-, -, hspace, hsingle, hdouble⟩ := h
    cases value with
    | nil => rfl
    | cons c rest =>
      rw [List.head?_cons, Ne, Option.some_inj] at hspace hsingle hdouble
      rw [ValueStyle.write, readValue] <;> simp [hspace, hsingle, hdouble]

/-- No character is escaped with a line feed. -/
theorem newline_notMem_escapeChar (c : Char) : '\n' ∉ escapeChar c := by
  unfold escapeChar
  grind

/-- No written value has a line feed, so it stays on its line. -/
theorem newline_notMem_write {style : ValueStyle} {value : List Char} (h : style.Admits value) :
    '\n' ∉ style.write value := by
  cases style with
  | double => simp [ValueStyle.write, newline_notMem_escapeChar]
  | single =>
    have hvalue : '\n' ∉ value := h
    simp [ValueStyle.write, hvalue]
  | bare => exact h.1

/-- No written value ends in a carriage return, so none is dropped. -/
theorem getLast?_write {style : ValueStyle} {value : List Char} (h : style.Admits value) :
    (style.write value).getLast? ≠ some '\r' := by
  cases style with
  | double =>
    rw [ValueStyle.write, List.getLast?_concat]
    decide
  | single =>
    rw [ValueStyle.write, List.getLast?_concat]
    decide
  | bare => exact h.2.1

/-! ## Keys -/

/-- A character of a name differs from each that names do not have. -/
theorem IsNamePart.ne {c d : Char} (h : IsNamePart c) (hd : (d.isAlphanum || d == '_') = false) :
    c ≠ d := by
  rintro rfl
  rw [isNamePart_iff.1 h] at hd
  cases hd

/-- A character of a name is not white space. -/
theorem IsNamePart.isBlank_eq_false {c : Char} (h : IsNamePart c) : Text.isBlank c = false := by
  have hpart := isNamePart_iff.1 h
  have hcodes : ∀ code ∈ Text.blankCodes,
      ((Char.ofNat code).isAlphanum || Char.ofNat code == '_') = false := by
    decide
  rw [Bool.eq_false_iff, Text.isBlank, Ne, List.contains_iff_mem]
  intro hblank
  have hnot := hcodes _ hblank
  rw [Char.ofNat_toNat, hpart] at hnot
  cases hnot

/-- The word in front of an assignment is dropped. -/
theorem dropExport_exportWord (cs : List Char) : dropExport (exportWord ++ cs) = cs := by
  have hprefix := List.isPrefixOf_iff_prefix.2 (List.prefix_append exportWord cs)
  rw [dropExport, if_pos hprefix, List.drop_left]

/-- A key is not taken for the word that may stand in front of it. -/
theorem dropExport_of_isName {key : String} (h : IsName key) (rest : List Char) :
    dropExport (key.toList ++ '=' :: rest) = key.toList ++ '=' :: rest := by
  rw [dropExport, if_neg]
  intro hword
  -- The blank of the word would have to stand in the key, which reaches up to the equals sign.
  have hblank : ' ' ∉ key.toList := fun hmem => (h.isNamePart _ hmem).ne (by decide) rfl
  have hword := List.isPrefixOf_iff_prefix.1 hword
  rcases List.prefix_or_prefix_of_prefix hword (List.prefix_append _ _) with hinner | ⟨back, hback⟩
  · exact hblank (hinner.subset (by decide))
  · rw [← hback, List.prefix_append_right_inj] at hword
    cases back with
    | nil =>
      rw [List.append_nil] at hback
      exact hblank (hback ▸ by decide)
    | cons c back =>
      obtain ⟨rfl, -⟩ := List.cons_prefix_cons.1 hword
      have hequals : '=' ∈ exportWord := hback ▸ by simp
      exact absurd hequals (by decide)

/-! ## Lines -/

/-- A key with its value, and how the two are written. -/
structure Assignment where
  exported : Bool
  key : String
  value : String
  style : ValueStyle
  isName : IsName key
  admits : style.Admits value.toList

namespace Assignment

/-- The line on which a value is assigned to a key. -/
def text (written : Assignment) : List Char :=
  (if written.exported then "export ".toList else []) ++
    (written.key.toList ++ '=' :: written.style.write written.value.toList)

variable (written : Assignment)

/-- Of an assignment the key, an equals sign and the written value are left. -/
theorem dropExport_text : dropExport written.text =
    written.key.toList ++ '=' :: written.style.write written.value.toList := by
  rw [text]
  cases written.exported with
  | true => exact dropExport_exportWord _
  | false => exact dropExport_of_isName written.isName _

/-- An assignment is not a line without a meaning. -/
theorem isIdle_text : isIdle written.text = false := by
  obtain ⟨first, rest, hkey, hfirst, -⟩ := written.isName
  have hne : first ≠ '#' := IsNamePart.ne (.inl hfirst) (by decide)
  rw [text, hkey]
  cases written.exported with
  | true => rfl
  | false => simp [isIdle, hne]

/-- An assignment is read as its key and its value. -/
theorem readLine_text (line : Nat) :
    readLine line written.text = .ok (some (written.key, written.value)) := by
  have hpart := written.isName.isNamePart
  have hequals : '=' ∉ written.key.toList := fun hmem => (hpart _ hmem).ne (by decide) rfl
  have hkey : isKeyText written.key.toList = true := isKey_iff.2 written.isName
  rw [readLine, isIdle_text, dropExport_text, Text.splitOnceChars_append hequals]
  simp only [Bool.false_eq_true, if_false]
  rw [Text.trimChars_eq_self fun c hc => (hpart c hc).isBlank_eq_false, if_pos hkey,
    readValue_write written.admits]
  simp [Except.map]

/-- An assignment has no line feed. -/
theorem newline_notMem_text : '\n' ∉ written.text := by
  have hkey : '\n' ∉ written.key.toList := fun hmem =>
    (written.isName.isNamePart _ hmem).ne (by decide) rfl
  have hvalue := newline_notMem_write written.admits
  have hword : '\n' ∉ if written.exported then "export ".toList else [] := by
    cases written.exported <;> decide
  rw [text, List.mem_append, List.mem_append, List.mem_cons]
  rintro (h | h | h | h)
  · exact hword h
  · exact hkey h
  · exact absurd h (by decide)
  · exact hvalue h

/-- An assignment does not end in a carriage return. -/
theorem getLast?_text : written.text.getLast? ≠ some '\r' := by
  have hvalue := getLast?_write written.admits
  rw [text, List.getLast?_append, List.getLast?_append, List.getLast?_cons, Option.some_or,
    Option.some_or]
  cases hlast : (written.style.write written.value.toList).getLast? with
  | none => exact fun hequals => absurd (Option.some_inj.1 hequals) (by decide)
  | some last =>
    rw [Option.getD_some, ← hlast]
    exact hvalue

end Assignment

/-- A line of an environment file: a key with its value, a comment, or nothing. -/
inductive WrittenLine where
  | assignment (written : Assignment)
  | comment (text : String) (isLine : '\n' ∉ text.toList)
  | empty

namespace WrittenLine

/-- A line without its line break. -/
def text : WrittenLine → List Char
  | .assignment written => written.text
  | .comment text _ => '#' :: text.toList
  | .empty => []

/-- The key and the value of a line that has them. -/
def pair? : WrittenLine → Option (String × String)
  | .assignment written => some (written.key, written.value)
  | .comment _ _ => none
  | .empty => none

/-- No written line has a line feed. -/
theorem newline_notMem_text (line : WrittenLine) : '\n' ∉ line.text := by
  cases line with
  | assignment written => exact written.newline_notMem_text
  | comment text isLine => simp [WrittenLine.text, isLine]
  | empty => exact List.not_mem_nil

/-- A written line is read as the pair that it was written for, if any. -/
theorem readLine_text (line : WrittenLine) (number : Nat) :
    readLine number line.text = .ok line.pair? := by
  cases line with
  | assignment written => exact written.readLine_text number
  | comment text isLine => rfl
  | empty => rfl

/-- A written line is read as its pair also where a carriage return is dropped at its end. -/
theorem readLine_dropReturn_text (line : WrittenLine) (number : Nat) :
    readLine number (Text.dropReturn line.text) = .ok line.pair? := by
  cases line with
  | assignment written =>
    have hend : (WrittenLine.assignment written).text.getLast? ≠ some '\r' := written.getLast?_text
    rw [Text.dropReturn_of_getLast? hend, readLine_text]
  | comment text isLine =>
    rw [WrittenLine.text, Text.dropReturn]
    split
    · -- The carriage return is not the number sign, so the line stays a comment without it.
      cases htext : text.toList with
      | nil =>
        rename_i hreturn
        rw [htext] at hreturn
        exact absurd hreturn (by decide)
      | cons c rest => rfl
    · rfl
  | empty => rfl

end WrittenLine

/-! ## Files -/

/-- The text of a file with a line break between each two lines; an empty line at the end gives a
text that ends in a line break. -/
def fileText (lines : List WrittenLine) : String :=
  String.ofList (['\n'].intercalate (lines.map (·.text)))

/-- A file of written lines gives their pairs in turn. -/
theorem given?_intercalate (lines : List WrittenLine) :
    given? (['\n'].intercalate (lines.map (·.text))) = some (lines.filterMap (·.pair?)) := by
  induction lines with
  | nil => rfl
  | cons line rest ih =>
    have hline := line.newline_notMem_text
    cases rest with
    | nil =>
      rw [List.map_singleton, List.intercalate_singleton, given?_of_notMem hline,
        line.readLine_text]
      cases hpair : line.pair? <;> simp [hpair, Except.toOption]
    | cons next rest =>
      rw [List.map_cons] at ih
      rw [List.map_cons, List.map_cons, List.intercalate_cons_cons, List.append_assoc,
        List.singleton_append, given?_line hline, line.readLine_dropReturn_text, ih]
      cases hpair : line.pair? <;> simp [hpair, Except.toOption]

/-- A file that is written line by line can be read, and every key has the last value that is
assigned to it. Each assignment may be written in any style that admits its value, with or without
the word in front, and comments and empty lines may stand anywhere. -/
theorem written_lines_read_back (lines : List WrittenLine) :
    ∃ map, parseLines (fileText lines) = .ok map ∧ ∀ key, map.get? key =
      (((lines.filterMap (·.pair?)).filter fun pair => pair.1 = key).map (·.2)).getLast? := by
  have hgiven : given? (fileText lines).toList = some (lines.filterMap (·.pair?)) := by
    rw [fileText, String.toList_ofList]
    exact given?_intercalate lines
  obtain ⟨map, hmap⟩ := exists_parseLines_iff.2 (Option.isSome_of_eq_some hgiven)
  obtain ⟨entries, hentries, hkeys⟩ := parseLines_eq_ok.1 hmap
  obtain rfl := Option.some_inj.1 (hentries.symm.trans hgiven)
  refine ⟨map, hmap, fun key => ?_⟩
  rw [hkeys, findEntry_reverse_eq_getLast?]

/-- An assignment in each style, among a comment and empty lines. -/
example :
    fileText
      [.comment " keys" (by decide),
       .assignment ⟨true, "A", "x\t\"y\"", .double, isKey_iff.1 (by decide), trivial⟩,
       .empty,
       .assignment ⟨false, "A", "it's", .single, isKey_iff.1 (by decide), by decide⟩,
       .assignment ⟨false, "_b", "a=b #c", .bare, isKey_iff.1 (by decide), by decide⟩,
       .empty] =
      "# keys\nexport A=\"x\\t\\\"y\\\"\"\n\nA='it's'\n_b=a=b #c\n" := by
  decide +kernel

end Env

end ComposeCluster
