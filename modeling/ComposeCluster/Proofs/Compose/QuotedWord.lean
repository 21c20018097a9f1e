import ComposeCluster.Compose.Command

/-!
# Quoted words are read back

A word of a command line is written in parts, each of them in quotes, with backslashes or as it
stands. Scanning a part adds its characters to the word, whatever stands before and after it
(`scanWords_text`): quotes are closed where they were opened, and each character between them is
read as one (`scanWords_writeChar`). So a word is what its parts say. White space outside of the
parts, and nothing else, closes a word (`scanWords_gap`).
-/

set_option autoImplicit false

namespace ComposeCluster.Compose

/-! ## How words are written -/

/-- How a part of a word is written: in single or double quotes, with a backslash before every
character, or as it stands. -/
inductive QuoteStyle where
  | single
  | double
  | escaped
  | bare
  deriving DecidableEq

namespace QuoteStyle

/-- What stands on both sides of a part. -/
def quote : QuoteStyle → List Char
  | .single => ['\'']
  | .double => ['"']
  | .escaped => []
  | .bare => []

/-- A character of a part. Nothing can be escaped in single quotes, so a single quote closes them,
stands there with a backslash, and opens them again. In double quotes a backslash stands before the
characters that mean something there. -/
def writeChar : QuoteStyle → Char → List Char
  | .single, c => if c = '\'' then ['\'', '\\', '\'', '\''] else [c]
  | .double, c => if c = '"' ∨ c = '\\' ∨ c = '$' ∨ c = '\x60' then ['\\', c] else [c]
  | .escaped, c => ['\\', c]
  | .bare, c => [c]

/-- Whether a style can write a character: only those that stand as they are must not mean
anything. -/
def Takes : QuoteStyle → Char → Prop
  | .bare, c => c ≠ '\'' ∧ c ≠ '"' ∧ c ≠ '\\' ∧ Text.isBlank c = false
  | _, _ => True

end QuoteStyle

/-- A part of a word; only quotes can have nothing between them. -/
structure WordPart where
  style : QuoteStyle
  content : List Char
  takes : ∀ c ∈ content, style.Takes c
  quoted : content = [] → style.quote ≠ []

/-- A part as it is written. -/
def WordPart.text (part : WordPart) : List Char :=
  part.style.quote ++ part.content.flatMap part.style.writeChar ++ part.style.quote

/-- A word as it is written, in one or more parts. -/
structure QuotedWord where
  parts : List WordPart
  ne_nil : parts ≠ []

namespace QuotedWord

def text (word : QuotedWord) : List Char :=
  word.parts.flatMap (·.text)

/-- The word that is meant. -/
def content (word : QuotedWord) : String :=
  String.ofList (word.parts.flatMap (·.content))

end QuotedWord

/-- White space, or nothing. -/
structure Blanks where
  text : List Char
  blank : ∀ c ∈ text, Text.isBlank c = true

/-- White space between two words. -/
structure Gap extends Blanks where
  ne_nil : text ≠ []

/-- A command line with a word, and others that have a gap in front of them. -/
def commandLine (before : Blanks) (first : QuotedWord) (others : List (Gap × QuotedWord))
    (after : Blanks) : String :=
  String.ofList (before.text ++ first.text ++
    others.flatMap (fun other => other.1.text ++ other.2.text) ++ after.text)

/-! ## Parts -/

namespace QuoteStyle

/-- Which quotes are open in a part. -/
def opened : QuoteStyle → Quoting
  | .single => .single
  | .double => .double
  | .escaped => .none
  | .bare => .none

end QuoteStyle

/-- Characters more in the current word. -/
def addChars (cs : List Char) (word : Option (List Char)) : Option (List Char) :=
  some (cs.reverse ++ word.getD [])

/-- Characters are added to the current word one after another. -/
theorem addChars_addChar (c : Char) (cs : List Char) (word : Option (List Char)) :
    addChars cs (addChar c word) = addChars (c :: cs) word := by
  simp [addChars, addChar]

/-- Adding characters and then more of them adds them all. -/
theorem addChars_addChars (front back : List Char) (word : Option (List Char)) :
    addChars back (addChars front word) = addChars (front ++ back) word := by
  simp [addChars]

variable {style : QuoteStyle} (word : Option (List Char)) (done : List String) (rest : List Char)

/-- A character of a part is read as one, and leaves the quotes of the part open. -/
theorem scanWords_writeChar {c : Char} (h : style.Takes c) :
    scanWords style.opened word done (style.writeChar c ++ rest) =
      scanWords style.opened (addChar c word) done rest := by
  cases style with
  | single =>
    by_cases hquote : c = '\''
    · -- The quotes are closed, the character comes with a backslash, and they are opened again.
      subst hquote
      rfl
    · simp [QuoteStyle.writeChar, QuoteStyle.opened, scanWords, hquote]
  | double =>
    by_cases hmeaning : c = '"' ∨ c = '\\' ∨ c = '$' ∨ c = '\x60'
    · have hescapable : isEscapable c = true := by
        simpa [isEscapable, or_assoc] using hmeaning
      simp [QuoteStyle.writeChar, QuoteStyle.opened, scanWords, hmeaning, hescapable]
    · simp only [not_or] at hmeaning
      simp [QuoteStyle.writeChar, QuoteStyle.opened, scanWords, hmeaning]
  | escaped => rfl
  | bare =>
    obtain ⟨hsingle, hdouble, hbackslash, hblank⟩ := h
    simp [QuoteStyle.writeChar, QuoteStyle.opened, scanWords, hsingle, hdouble, hbackslash, hblank]

/-- A word that was begun grows by the characters of a part. -/
theorem scanWords_flatMap {cs : List Char} (h : ∀ c ∈ cs, style.Takes c) (acc : List Char) :
    scanWords style.opened (some acc) done (cs.flatMap style.writeChar ++ rest) =
      scanWords style.opened (addChars cs (some acc)) done rest := by
  induction cs generalizing acc with
  | nil => rfl
  | cons c cs ih =>
    obtain ⟨hc, hcs⟩ := List.forall_mem_cons.1 h
    rw [List.flatMap_cons, List.append_assoc, scanWords_writeChar _ _ _ hc, ← addChars_addChar]
    exact ih hcs (c :: acc)

/-- Without quotes the first character begins the word, if none was begun. -/
theorem scanWords_flatMap_of_ne_nil {cs : List Char} (h : ∀ c ∈ cs, style.Takes c) (hne : cs ≠ []) :
    scanWords style.opened word done (cs.flatMap style.writeChar ++ rest) =
      scanWords style.opened (addChars cs word) done rest := by
  cases cs with
  | nil => exact absurd rfl hne
  | cons c cs =>
    obtain ⟨hc, hcs⟩ := List.forall_mem_cons.1 h
    rw [List.flatMap_cons, List.append_assoc, scanWords_writeChar _ _ _ hc, ← addChars_addChar]
    exact scanWords_flatMap done rest hcs _

/-- A part begins a word or goes on with one. -/
theorem scanWords_open (part : WordPart) :
    scanWords .none word done
        (part.style.quote ++ (part.content.flatMap part.style.writeChar ++ rest)) =
      scanWords part.style.opened (addChars part.content word) done rest := by
  obtain ⟨style, content, takes, quoted⟩ := part
  -- An opening quote begins a word by itself; without quotes the first character has to.
  cases style with
  | single => exact scanWords_flatMap done rest takes (word.getD [])
  | double => exact scanWords_flatMap done rest takes (word.getD [])
  | escaped => exact scanWords_flatMap_of_ne_nil word done rest takes fun h => quoted h rfl
  | bare => exact scanWords_flatMap_of_ne_nil word done rest takes fun h => quoted h rfl

/-- The closing quote leads out of the quotes, and the word goes on. -/
theorem scanWords_close (acc : List Char) :
    scanWords style.opened (some acc) done (style.quote ++ rest) =
      scanWords .none (some acc) done rest := by
  cases style <;> rfl

/-- A written part adds its content to the current word. -/
theorem scanWords_text (part : WordPart) :
    scanWords .none word done (part.text ++ rest) =
      scanWords .none (addChars part.content word) done rest := by
  rw [WordPart.text, List.append_assoc, List.append_assoc, scanWords_open]
  exact scanWords_close done rest _

/-! ## Words -/

/-- Written parts add their contents to the current word, also if there is nothing in them. -/
theorem scanWords_parts {parts : List WordPart} (h : parts ≠ []) :
    scanWords .none word done (parts.flatMap (·.text) ++ rest) =
      scanWords .none (addChars (parts.flatMap (·.content)) word) done rest := by
  induction parts generalizing word with
  | nil => exact absurd rfl h
  | cons part parts ih =>
    rw [List.flatMap_cons, List.flatMap_cons, List.append_assoc, scanWords_text]
    cases parts with
    | nil => simp
    | cons next parts => rw [ih _ (List.cons_ne_nil next parts), addChars_addChars]

/-- A word after white space is what is meant by it. -/
theorem scanWords_word (word : QuotedWord) :
    scanWords .none none done (word.text ++ rest) =
      scanWords .none (some word.content.toList.reverse) done rest := by
  rw [QuotedWord.text, scanWords_parts none done rest word.ne_nil, QuotedWord.content,
    String.toList_ofList]
  simp [addChars]

/-! ## White space -/

/-- A blank outside of quotes ends the current word. -/
theorem scanWords_blank {c : Char} (h : Text.isBlank c = true) :
    scanWords .none word done (c :: rest) = scanWords .none none (closeWord word done) rest := by
  have hne {other : Char} (hother : Text.isBlank other = false) : c ≠ other := by
    rintro rfl
    rw [h] at hother
    cases hother
  have hsingle : c ≠ '\'' := hne (by decide)
  have hdouble : c ≠ '"' := hne (by decide)
  have hbackslash : c ≠ '\\' := hne (by decide)
  rw [scanWords]
  simp [h, hsingle, hdouble, hbackslash]

/-- Blanks before a word are skipped. -/
theorem scanWords_blanks (blanks : Blanks) :
    scanWords .none none done (blanks.text ++ rest) = scanWords .none none done rest := by
  obtain ⟨cs, hblank⟩ := blanks
  induction cs with
  | nil => rfl
  | cons c cs ih =>
    obtain ⟨hc, hcs⟩ := List.forall_mem_cons.1 hblank
    exact (scanWords_blank none done _ hc).trans (ih hcs)

/-- A gap ends the current word and leads to the next one. -/
theorem scanWords_gap (gap : Gap) :
    scanWords .none word done (gap.text ++ rest) =
      scanWords .none none (closeWord word done) rest := by
  obtain ⟨⟨cs, hblank⟩, hne⟩ := gap
  cases cs with
  | nil => exact absurd rfl hne
  | cons c cs =>
    obtain ⟨hc, hcs⟩ := List.forall_mem_cons.1 hblank
    exact (scanWords_blank word done _ hc).trans (scanWords_blanks _ rest ⟨cs, hcs⟩)

/-- White space at the end closes the last word, if it is not closed by the end itself. -/
theorem scanWords_end (blanks : Blanks) :
    scanWords .none word done blanks.text = .ok (closeWord word done).reverse := by
  obtain ⟨cs, hblank⟩ := blanks
  cases cs with
  | nil => rfl
  | cons c cs =>
    have hgap := scanWords_gap word done [] ⟨⟨c :: cs, hblank⟩, List.cons_ne_nil c cs⟩
    rw [List.append_nil] at hgap
    exact hgap

/-! ## Command lines -/

/-- A word that was read is put in front of those before it. -/
theorem closeWord_some (current : String) :
    closeWord (some current.toList.reverse) done = current :: done := by
  rw [closeWord, List.reverse_reverse, String.ofList_toList]

/-- A gap closes the word in front of it, and the end of the line closes the last one. -/
theorem scanWords_others (others : List (Gap × QuotedWord)) (current : String) (after : Blanks) :
    scanWords .none (some current.toList.reverse) done
        (others.flatMap (fun other => other.1.text ++ other.2.text) ++ after.text) =
      .ok (done.reverse ++ current :: others.map (·.2.content)) := by
  induction others generalizing current done with
  | nil =>
    rw [List.flatMap_nil, List.nil_append, scanWords_end, closeWord_some]
    simp
  | cons other others ih =>
    -- The gap moves `current` to the words that are done, and the word behind it takes its place.
    rw [List.flatMap_cons, List.append_assoc, List.append_assoc, scanWords_gap, scanWords_word,
      closeWord_some, ih]
    simp

/-- A command line is split into the words that were written in it, in their order, however each
part of them is quoted and whatever white space stands between them. White space alone is no
word. -/
theorem quoted_words_read_back :
    (∀ blanks : Blanks, shellWords (String.ofList blanks.text) = .ok []) ∧
      ∀ (before : Blanks) (first : QuotedWord) (others : List (Gap × QuotedWord)) (after : Blanks),
        shellWords (commandLine before first others after) =
          .ok (first.content :: others.map (·.2.content)) := by
  constructor
  · intro blanks
    rw [shellWords, String.toList_ofList]
    exact scanWords_end none [] blanks
  · intro before first others after
    rw [shellWords, commandLine, String.toList_ofList, List.append_assoc, List.append_assoc,
      scanWords_blanks, scanWords_word]
    exact scanWords_others [] others first.content after

/-- A word with nothing in it, and one whose parts are in single quotes, with a backslash and in
double quotes. -/
example : shellWords "\t'' 'it'\\'\"s \"" = .ok ["", "it's "] := by rfl

end ComposeCluster.Compose
