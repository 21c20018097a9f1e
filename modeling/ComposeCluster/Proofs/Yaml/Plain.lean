import ComposeCluster.Yaml.Printer
import ComposeCluster.Yaml.Scalar.Plain
import ComposeCluster.Proofs.Text.Numeral

/-!
# Bare texts in YAML

A text is `Bare` if it can stand on a line without quotes. The strings that the printer leaves
without quotes are bare, and so are whole numbers. A plain scalar with a bare text is read to its
end, which is the colon of a key (`Plain.read?_key`) or the end of its line (`Plain.read?_line`):
the next line does not continue it, because it is not indented far enough, or is a marker.
-/

set_option autoImplicit false

namespace ComposeCluster.Yaml

namespace Place

/-- The place after so many characters behind the first word of a line. -/
def within (p : Place) (count : Nat) : Place := ⟨p.index + count, p.line, p.col + count, false⟩

/-- A blank is one character on the line. -/
theorem within_blank (p : Place) (count : Nat) :
    p.blank.within count = p.within (count + 1) := by
  simp [within, blank, Nat.add_assoc, Nat.add_comm 1]

/-- A step is one character on the line. -/
theorem within_step (p : Place) (count : Nat) : (p.step 1).within count = p.within (count + 1) := by
  simp [within, step, Nat.add_assoc, Nat.add_comm 1]

/-- Characters on the line add up. -/
theorem within_within (p : Place) (count more : Nat) :
    (p.within count).within more = p.within (count + more) := by
  simp [within, Nat.add_assoc]

/-- The place so many blanks into the next line. -/
def onNextLine (p : Place) (count : Nat) : Place := ⟨p.index + 1 + count, p.line + 1, count, true⟩

end Place

/-- A line break and so many blanks. -/
def indented (count : Nat) : List Char := '\n' :: List.replicate count ' '

/-- Whether neither a gap nor a comment stands here. -/
def isSolid (cs : List Char) : Bool := cs.head?.all fun c => !isGap c && c != '#'

/-- Something solid is neither white space nor the beginning of a comment. -/
theorem not_gap_of_isSolid {c : Char} {rest : List Char} (h : isSolid (c :: rest) = true) :
    c ≠ ' ' ∧ c ≠ '\t' ∧ c ≠ '\n' ∧ c ≠ '#' := by
  simpa [isSolid, isGap, and_assoc] using h

/-! ## Bare texts -/

/-- The characters that begin something other than a plain scalar. -/
def tokenMarks : List Char :=
  [' ', '\t', '\n', '[', ']', '\x7b', '\x7d', ',', '*', '&', '!', '\'', '"', '-', '?', ':', '|',
    '>', '%', '@', '\x60', '#', '.']

/-- Whether a plain scalar begins with `c` and `next`; a dash has to be the sign of a number. -/
def opensPlain (c : Char) (next : List Char) : Bool :=
  !tokenMarks.contains c || (c == '-' && next.head?.any Char.isDigit)

/-- A text that stands for itself on a line. -/
structure Bare (cs : List Char) : Prop where
  opens : ∃ c rest, cs = c :: rest ∧ ∀ more, opensPlain c (rest ++ more) = true
  inner : ∀ c ∈ cs, c ≠ '\n' ∧ c ≠ ':' ∧ c ≠ '#'
  last : ∀ c, cs.getLast? = some c → isBlank c = false

/-- A plain scalar does not begin like a marker. -/
theorem markerAhead_of_opensPlain {c : Char} {next : List Char} (h : opensPlain c next = true) :
    markerAhead (c :: next) = false := by
  unfold markerAhead documentStartAhead documentEndAhead
  split <;> simp_all [opensPlain, tokenMarks, Char.isDigit]
  split <;> simp_all

/-- A plain scalar begins with no gap, no comment and no colon. -/
theorem not_gap_of_opensPlain {c : Char} {next : List Char} (h : opensPlain c next = true) :
    isGap c = false ∧ c ≠ '#' ∧ c ≠ ':' := by
  refine ⟨?_, ?_, ?_⟩
  · cases hgap : isGap c with
    | false => rfl
    | true =>
      simp only [isGap, Bool.or_eq_true, beq_iff_eq] at hgap
      obtain (rfl | rfl) | rfl := hgap <;> simp [opensPlain, tokenMarks] at h
  · rintro rfl
    simp [opensPlain, tokenMarks] at h
  · rintro rfl
    simp [opensPlain, tokenMarks] at h

/-- No character of a word is a mark. -/
theorem Bare.of_word {cs : List Char} (hne : cs ≠ []) (h : cs.any tokenMarks.contains = false) :
    Bare cs where
  opens := by
    obtain ⟨c, rest, rfl⟩ := List.exists_cons_of_ne_nil hne
    have hc : tokenMarks.contains c = false := (Bool.or_eq_false_iff.1 h).1
    exact ⟨c, rest, rfl, fun more => by simp only [opensPlain, hc, Bool.not_false, Bool.true_or]⟩
  inner := fun c hc => by
    have := List.any_eq_false.1 h c hc
    refine ⟨?_, ?_, ?_⟩ <;> rintro rfl <;> simp [tokenMarks] at this
  last := fun c hc => by
    have := List.any_eq_false.1 h c (List.mem_of_getLast? hc)
    cases hblank : isBlank c with
    | false => rfl
    | true =>
      simp only [isBlank, Bool.or_eq_true, beq_iff_eq] at hblank
      obtain rfl | rfl := hblank <;> simp [tokenMarks] at this

/-- The characters for which a text is quoted where they stand first, one by one. -/
theorem leadingMarks_eq :
    leadingMarks = ['&', '*', '?', '|', '-', '<', '>', '=', '!', '%', '@', '.'] := by
  decide

/-- The characters for which a text is quoted wherever they stand, one by one. -/
theorem innerMarks_eq :
    innerMarks = [':', '\x7b', '\x7d', '[', ']', ',', '#', '\x60', '"', '\'', '\\', '\t', '\n',
      '\r'] := by
  decide

/-- A text that needs no quotes has none of the characters that always need them. -/
theorem inner_of_needsQuotes {text : String} (h : needsQuotes text = false) :
    ∀ c ∈ text.toList, innerMarks.contains c = false ∧ isQuotedControl c = false := by
  simp only [needsQuotes, Bool.or_eq_false_iff] at h
  obtain ⟨⟨⟨⟨-, hinner⟩, -⟩, -⟩, -⟩ := h
  exact fun c hc => Bool.or_eq_false_iff.1 (Bool.eq_false_iff.2 (List.any_eq_false.1 hinner c hc))

/-- A string that needs no quotes can stand bare. -/
theorem Bare.of_needsQuotes {text : String} (h : needsQuotes text = false) : Bare text.toList := by
  have hmarks : ∀ c ∈ text.toList, innerMarks.contains c = false := fun c hc =>
    (inner_of_needsQuotes h c hc).1
  simp only [needsQuotes, Bool.or_eq_false_iff] at h
  obtain ⟨⟨⟨⟨⟨⟨⟨hempty, hfirst⟩, hlast⟩, hleading⟩, -⟩, -⟩, -⟩, -⟩ := h
  have hne : text.toList ≠ [] := fun h => by simp [h] at hempty
  generalize text.toList = cs at hne hfirst hlast hleading hmarks
  refine ⟨?_, fun c hc => ?_, fun c hc => ?_⟩
  · obtain ⟨c, rest, rfl⟩ := List.exists_cons_of_ne_nil hne
    have hmark := hmarks c List.mem_cons_self
    refine ⟨c, rest, rfl, fun more => ?_⟩
    simp [innerMarks_eq] at hmark
    simp [leadingMarks_eq] at hleading
    simp at hfirst
    simp [opensPlain, tokenMarks, hmark, hleading, hfirst]
  · have := hmarks c hc
    refine ⟨?_, ?_, ?_⟩ <;> rintro rfl <;> simp [innerMarks_eq] at this
  · have hmark := hmarks c (List.mem_of_getLast? hc)
    cases hblank : isBlank c with
    | false => rfl
    | true =>
      simp only [isBlank, Bool.or_eq_true, beq_iff_eq] at hblank
      obtain rfl | rfl := hblank
      · simp [hc] at hlast
      · simp [innerMarks_eq] at hmark

/-! ## Whole numbers -/

/-- A digit begins nothing but a plain scalar. -/
theorem tokenMarks_of_isDigit {c : Char} (h : c.isDigit = true) :
    tokenMarks.contains c = false := by
  cases hc : tokenMarks.contains c with
  | false => rfl
  | true =>
    have hmarks : tokenMarks.any Char.isDigit = false := by decide
    exact (List.any_eq_false.1 hmarks c (List.contains_iff_mem.1 hc) h).elim

/-- A number can stand on a line without quotes. -/
theorem Bare.of_int (n : Int) : Bare (toString n).toList := by
  have hdigits : Bare (Nat.toDigits 10 n.natAbs) :=
    .of_word Nat.toDigits_ne_nil (List.any_eq_false.2 fun c hc => Bool.eq_false_iff.1
      (tokenMarks_of_isDigit (Text.isDigit_of_mem_digits c hc)))
  rw [Text.toList_toString]
  split
  case isTrue =>
    obtain ⟨c, rest, heq, hdigit⟩ := Text.exists_digits n.natAbs
    rw [heq] at hdigits ⊢
    refine ⟨⟨'-', c :: rest, rfl, fun more => by simp [opensPlain, hdigit]⟩, fun d hd => ?_,
      hdigits.last⟩
    obtain rfl | hd := List.mem_cons.1 hd
    · decide
    · exact hdigits.inner d hd
  case isFalse => exact hdigits

namespace Plain

variable {indent : Int} {rest : List Char}

/-- Outside of flow collections any character but the colon can stand in a plain scalar. -/
theorem canStand_of_ne {c : Char} (h : c ≠ ':') (next : List Char) :
    canStand false c next = true := by
  simp [canStand, h]

/-- A blank on a line is kept until it is known whether a word follows. -/
theorem scan_blank {c : Char} {mode : Mode} {f : Folding} {p : Place} (hbreak : c ≠ '\n')
    (hblank : isBlank c = true) (hmode : mode = .word ∨ mode = .between)
    (hfresh : p.fresh = false) :
    scan false indent mode f (c :: rest) p =
      scan false indent .between { f with gap := c :: f.gap } rest p.blank := by
  rcases hmode with rfl | rfl <;> simp [scan, hbreak, hblank, hfresh]

/-- A character of a word stands behind the blanks that were kept. -/
theorem scan_wordChar {c : Char} {mode : Mode} {f : Folding} {p : Place}
    (hc : c ≠ '\n' ∧ c ≠ ':' ∧ c ≠ '#') (hblank : isBlank c = false)
    (hmode : mode = .word ∧ f.gap = [] ∨ mode = .between) (hfresh : p.fresh = false)
    (hcol : indent ≤ p.col) :
    scan false indent mode f (c :: rest) p =
      scan false indent .word { f with text := c :: (f.gap ++ f.text), gap := [] } rest
        (p.step 1) := by
  obtain ⟨hbreak, hcolon, hcomment⟩ := hc
  rcases hmode with ⟨rfl, hgap⟩ | rfl
  · simp [scan, hbreak, hblank, canStand_of_ne hcolon, Folding.push, hgap]
  · have : ¬((p.col : Int) < indent) := by omega
    simp [scan, hbreak, hblank, canStand_of_ne hcolon, Folding.push, Folding.join, beginsWord,
      hfresh, this, hcomment]

/-- Over the words of a line and the blanks between them. -/
theorem scan_words {cs : List Char} (hcs : ∀ c ∈ cs, c ≠ '\n' ∧ c ≠ ':' ∧ c ≠ '#') :
    ∀ {mode : Mode} {f : Folding} {p : Place},
      (mode = .word ∧ f.gap = [] ∨ mode = .between ∧ cs ≠ []) →
      (∀ c, cs.getLast? = some c → isBlank c = false) → p.fresh = false → indent ≤ p.col →
      scan false indent mode f (cs ++ rest) p =
        scan false indent .word { f with text := cs.reverse ++ f.gap ++ f.text, gap := [] } rest
          (p.within cs.length) := by
  -- a blank joins the gap, and the character after it brings the gap into the text
  induction cs with
  | nil =>
    intro mode f p hmode hlast hfresh hcol
    obtain ⟨rfl, hgap⟩ : mode = .word ∧ f.gap = [] := by simpa using hmode
    obtain ⟨_, _, _, _⟩ := f
    obtain ⟨_, _, _, _⟩ := p
    simp_all [Place.within]
  | cons c cs ih =>
    intro mode f p hmode hlast hfresh hcol
    obtain ⟨hc, hcs⟩ := List.forall_mem_cons.1 hcs
    have hlast' (hne : cs ≠ []) : ∀ c, cs.getLast? = some c → isBlank c = false := fun d hd =>
      hlast d (by rw [List.getLast?_cons_of_ne_nil hne, hd])
    cases hblank : isBlank c with
    | true =>
      have hne : cs ≠ [] := by
        rintro rfl
        rw [hlast c rfl] at hblank
        cases hblank
      have hcol : indent ≤ (p.blank.col : Int) := by
        simp only [Place.blank]
        omega
      rw [List.cons_append, scan_blank hc.1 hblank (hmode.imp And.left And.left) hfresh,
        ih (p := p.blank) hcs (.inr ⟨rfl, hne⟩) (hlast' hne) hfresh hcol, Place.within_blank]
      simp
    | false =>
      have hlast : ∀ c, cs.getLast? = some c → isBlank c = false := fun d hd =>
        hlast' (by rintro rfl; cases hd) d hd
      have hnext : indent ≤ ((p.step 1).col : Int) := by
        simp only [Place.step]
        omega
      rw [List.cons_append, scan_wordChar hc hblank (hmode.imp_right And.left) hfresh hcol,
        ih hcs (.inl ⟨rfl, rfl⟩) hlast rfl hnext, Place.within_step]
      simp

/-- Over a whole bare text. -/
theorem scan_bare {cs : List Char} (h : Bare cs) {p : Place} (hcol : indent ≤ p.col + 1) :
    scan false indent .before Folding.start (cs ++ rest) p =
      scan false indent .word ⟨cs.reverse, [], false, 0⟩ rest (p.within cs.length) := by
  obtain ⟨c, cs, rfl, hopens⟩ := h.opens
  have hopens := hopens rest
  obtain ⟨-, hcomment, hcolon⟩ := not_gap_of_opensPlain hopens
  have hfirst : scan false indent .before Folding.start (c :: (cs ++ rest)) p =
      scan false indent .word ⟨[c], [], false, 0⟩ (cs ++ rest) (p.step 1) := by
    have hbegins : beginsWord false p c (cs ++ rest) = some true := by
      simp [beginsWord, markerAhead_of_opensPlain hopens, hcomment, canStand_of_ne hcolon]
    have hjoin : (Folding.start.join p.fresh).push c = ⟨[c], [], false, 0⟩ := by
      cases hfresh : p.fresh <;> simp [Folding.join, Folding.start, Folding.push, Folding.addBreaks]
    simp [scan, hbegins, hjoin]
  have hlast : ∀ c, cs.getLast? = some c → isBlank c = false := fun d hd =>
    h.last d (by rw [List.getLast?_cons_of_ne_nil (by rintro rfl; cases hd), hd])
  have hinner : ∀ c ∈ cs, c ≠ '\n' ∧ c ≠ ':' ∧ c ≠ '#' := fun c hmem =>
    h.inner c (List.mem_cons_of_mem _ hmem)
  have hcol : indent ≤ ((p.step 1).col : Int) := by
    simp only [Place.step]
    omega
  rw [List.cons_append, hfirst, scan_words hinner (.inl ⟨rfl, rfl⟩) hlast rfl hcol,
    Place.within_step]
  simp

/-- Blanks at the beginning of a line. -/
theorem scan_blanks {f : Folding} (count : Nat) :
    ∀ {p : Place}, p.fresh = true →
      scan false indent .between f (List.replicate count ' ' ++ rest) p =
        scan false indent .between f rest
          { p with index := p.index + count, col := p.col + count } := by
  induction count with
  | zero => intro p _; simp
  | succ count ih =>
    intro p hfresh
    have hstep : scan false indent .between f (' ' :: (List.replicate count ' ' ++ rest)) p =
        scan false indent .between f (List.replicate count ' ' ++ rest) p.blank := by
      simp [scan, isBlank, hfresh]
    rw [List.replicate_succ, List.cons_append, hstep, ih (p := p.blank) hfresh]
    simp [Place.blank, Nat.add_assoc, Nat.add_comm 1]

/-- What ends a plain scalar so many blanks into the next line. -/
def Ends (indent : Int) (count : Nat) (rest : List Char) : Prop :=
  isSolid rest = true ∧ ((count : Int) < indent ∨ rest = [] ∨ markerAhead rest = true)

/-- At the end of its line a plain scalar is complete if the next line does not continue it. -/
theorem scan_line {f : Folding} {p : Place} (hfresh : p.fresh = false) {count : Nat}
    (hends : Ends indent count rest) :
    scan false indent .word f (indented count ++ rest) p =
      some ({ f with gap := [], broken := true }, ⟨rest, p.onNextLine count⟩) := by
  have hbreak : scan false indent .word f (indented count ++ rest) p =
      scan false indent .between { f with gap := [], broken := true }
        (List.replicate count ' ' ++ rest) p.nextLine := by
    simp [indented, scan, hfresh]
  rw [hbreak, scan_blanks count rfl]
  have hplace : (⟨p.nextLine.index + count, p.nextLine.line, p.nextLine.col + count,
      p.nextLine.fresh⟩ : Place) = p.onNextLine count := by
    simp [Place.nextLine, Place.onNextLine]
  rw [hplace]
  cases rest with
  | nil => rfl
  | cons c next =>
    obtain ⟨hsolid, hends⟩ := hends
    obtain ⟨hspace, htab, hbreak, hcomment⟩ := not_gap_of_isSolid hsolid
    have hfresh : (p.onNextLine count).fresh = true := rfl
    have hcol : (p.onNextLine count).col = count := rfl
    by_cases hindent : (count : Int) < indent
    · simp [scan, isBlank, hspace, htab, hbreak, hcol, hindent]
    · have hmarker : markerAhead (c :: next) = true := by simpa [hindent] using hends
      simp [scan, isBlank, hspace, htab, hbreak, hcol, hindent, beginsWord, hfresh, hmarker]

/-- A bare text is read to its end as the scan over its characters says. -/
theorem read?_bare {cs : List Char} (h : Bare cs) {p : Place} (hcol : indent ≤ p.col + 1)
    {f : Folding} {after : Cursor} (hf : f.text = cs.reverse)
    (hscan : scan false indent .word ⟨cs.reverse, [], false, 0⟩ rest (p.within cs.length) =
      some (f, after)) :
    read? false indent ⟨cs ++ rest, p⟩ = some (String.ofList cs, after) := by
  have hne : cs ≠ [] := by
    obtain ⟨c, cs, rfl, -⟩ := h.opens
    exact List.cons_ne_nil _ _
  simp [read?, scan_bare h hcol, hscan, hf, hne, Folding.result]

/-- A bare text before a colon. -/
theorem read?_key {cs : List Char} (h : Bare cs) {p : Place} (hcol : indent ≤ p.col + 1)
    (hgap : gapAhead rest = true) :
    read? false indent ⟨cs ++ ':' :: rest, p⟩ =
      some (String.ofList cs, ⟨':' :: rest, p.within cs.length⟩) :=
  read?_bare (f := ⟨cs.reverse, [], false, 0⟩) h hcol rfl (by simp [scan, isBlank, canStand, hgap])

/-- A bare text at the end of a line. -/
theorem read?_line {cs : List Char} (h : Bare cs) {p : Place} (hcol : indent ≤ p.col + 1)
    {count : Nat} (hends : Ends indent count rest) :
    read? false indent ⟨cs ++ (indented count ++ rest), p⟩ =
      some (String.ofList cs, ⟨rest, (p.within cs.length).onNextLine count⟩) :=
  read?_bare h hcol rfl (scan_line rfl hends)

end Plain

end ComposeCluster.Yaml
