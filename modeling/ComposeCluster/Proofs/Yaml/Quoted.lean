import ComposeCluster.Yaml.Scalar.Quoted
import ComposeCluster.Proofs.Yaml.Plain

/-!
# Quoted texts in YAML

What the printer writes for a string in double quotes is read as that string: every character
from its own text (`scan_quotedChar`), and the string by induction on its characters. Blanks are
kept in a gap until the next character shows that no line break follows, so the text read so far
is in two parts (`Reading`).
-/

set_option autoImplicit false

namespace ComposeCluster.Yaml

/-- A step of several characters stays on the line. -/
theorem Place.step_eq_within {p : Place} (count : Nat) : p.step count = p.within count := rfl

/-- A blank behind the first word of a line is one character on the line. -/
theorem Place.blank_eq_within {p : Place} (hfresh : p.fresh = false) : p.blank = p.within 1 := by
  simp [blank, within, hfresh]

namespace Quoted

variable {indent : Int} {mode : Mode} {f : Folding} {text tail : List Char} {p : Place}

/-- Between two characters of a line, where `text` was read so far, last first. -/
def Reading (text : List Char) (mode : Mode) (f : Folding) : Prop :=
  mode = .text ∧ f.gap = [] ∧ f.text = text ∨ mode = .gap false ∧ f.gap ++ f.text = text

/-- A place on the line of the opening quote. -/
structure Behind (indent : Int) (p : Place) : Prop where
  fresh : p.fresh = false
  col_pos : 0 < p.col
  le_col : indent ≤ p.col

/-- Further on in the line the place is still behind the opening quote. -/
theorem Behind.within (h : Behind indent p) (count : Nat) : Behind indent (p.within count) where
  fresh := rfl
  col_pos := Nat.add_pos_left h.col_pos count
  le_col := by
    have := h.le_col
    simp only [Place.within]
    omega

/-- On the line of the opening quote the text may go on with anything. -/
theorem Behind.mayGoOn (h : Behind indent p) (cs : List Char) : mayGoOn indent cs p = true := by
  have hcol := h.col_pos
  have hindent := h.le_col
  simp only [Quoted.mayGoOn, Bool.and_eq_true, Bool.not_eq_true', decide_eq_false_iff_not,
    Bool.and_eq_false_iff, beq_eq_false_iff_ne]
  exact ⟨.inl (by omega), by omega⟩

/-- Blanks gather in the gap. -/
theorem scan_blank (hreading : Reading text mode f) (hp : Behind indent p) (htail : tail ≠ []) :
    ∃ f', Reading (' ' :: text) (.gap false) f' ∧
      scan false indent mode f (' ' :: tail) p =
        scan false indent (.gap false) f' tail (p.within 1) := by
  obtain ⟨next, rest, rfl⟩ := List.exists_cons_of_ne_nil htail
  refine ⟨{ f with gap := ' ' :: f.gap }, .inr ⟨rfl, ?_⟩, ?_⟩
  · rcases hreading with ⟨-, hgap, rfl⟩ | ⟨-, rfl⟩ <;> simp [*]
  · rw [← Place.blank_eq_within hp.fresh]
    rcases hreading with ⟨rfl, -, -⟩ | ⟨rfl, -⟩ <;> simp [scan, isGap]

/-- Any other character ends the gap. -/
theorem scan_text (hreading : Reading text mode f) (hp : Behind indent p) (htail : tail ≠ [])
    {c : Char} (hc : isGap c = false) :
    ∃ f', f'.gap = [] ∧ f'.text = text ∧
      scan false indent mode f (c :: tail) p =
        if c = '"' then some (f', ⟨tail, p.within 1⟩)
        else if c = '\\' then scan false indent .escape f' tail (p.within 1)
        else scan false indent .text (f'.push c) tail (p.within 1) := by
  obtain ⟨next, rest, rfl⟩ := List.exists_cons_of_ne_nil htail
  rcases hreading with ⟨rfl, hgap, rfl⟩ | ⟨rfl, rfl⟩
  · exact ⟨f, hgap, rfl, by simp [scan, hc, Place.step_eq_within]⟩
  · exact ⟨f.join false, rfl, rfl, by simp [scan, hc, hp.mayGoOn, Place.step_eq_within]⟩

/-- After a backslash, a letter that stands for a character. -/
theorem scan_escape (htail : tail ≠ []) {letter c : Char} (hbreak : letter ≠ '\n')
    (hc : escaped? letter = some c) :
    scan false indent .escape f (letter :: tail) p =
      scan false indent .text (f.push c) tail (p.within 1) := by
  obtain ⟨next, rest, rfl⟩ := List.exists_cons_of_ne_nil htail
  simp [scan, hbreak, hc, Place.step_eq_within]

/-- The value of a digit up to fifteen is the number it was written for. -/
theorem digitValue?_digitChar :
    ∀ n < 16, Text.digitValue? 16 (Nat.digitChar n) = some n := by
  decide

/-- The number of a character is read as this character. -/
theorem character?_toNat (c : Char) : character? c.toNat = some c := by
  have hvalid : c.toNat.isValidChar := c.valid
  rw [character?, dif_pos hvalid]
  exact congrArg some (Char.ext rfl)

/-- After a backslash, the code of a character below 256. -/
theorem scan_code (htail : tail ≠ []) {c : Char} (hc : c.toNat < 256) :
    scan false indent .escape f
        ('u' :: '0' :: '0' :: Nat.digitChar (c.toNat / 16) :: Nat.digitChar (c.toNat % 16) :: tail)
        p =
      scan false indent .text (f.push c) tail (p.within 5) := by
  obtain ⟨next, rest, rfl⟩ := List.exists_cons_of_ne_nil htail
  have hhigh := digitValue?_digitChar (c.toNat / 16) (by omega)
  have hlow := digitValue?_digitChar (c.toNat % 16) (by omega)
  have hzero : Text.digitValue? 16 '0' = some 0 := by decide
  have hcode : c.toNat / 16 * 16 + c.toNat % 16 = c.toNat := by omega
  have hescaped : escaped? 'u' = none := rfl
  have hlength : codeLength? 'u' = some 4 := rfl
  simp [scan, hescaped, hlength, hzero, hhigh, hlow, hcode, character?_toNat, Place.step_eq_within,
    Place.within_within]

/-- A letter after a backslash, in text or behind a gap. -/
theorem scan_escaped (hreading : Reading text mode f) (hp : Behind indent p) (htail : tail ≠ [])
    {letter c : Char} (hbreak : letter ≠ '\n') (hc : escaped? letter = some c) :
    ∃ mode' f', Reading (c :: text) mode' f' ∧
      scan false indent mode f ('\\' :: letter :: tail) p =
        scan false indent mode' f' tail (p.within 2) := by
  obtain ⟨f', hgap, rfl, hscan⟩ :=
    scan_text hreading hp (List.cons_ne_nil letter tail) (show isGap '\\' = false by decide)
  refine ⟨.text, f'.push c, .inl ⟨rfl, hgap, rfl⟩, ?_⟩
  rw [hscan, if_neg (by decide), if_pos rfl, scan_escape htail hbreak hc, Place.within_within]

/-- The text of one character. -/
theorem scan_quotedChar (hreading : Reading text mode f) (hp : Behind indent p) (htail : tail ≠ [])
    (c : Char) :
    ∃ mode' f', Reading (c :: text) mode' f' ∧
      scan false indent mode f (quotedChar c ++ tail) p =
        scan false indent mode' f' tail (p.within (quotedChar c).length) := by
  unfold quotedChar
  split
  case h_1 | h_2 | h_3 | h_4 | h_5 | h_6 | h_7 =>
    exact scan_escaped hreading hp htail (by decide) rfl
  case h_8 hquote hbackslash _ htab hbreak _ _ =>
    by_cases hcontrol : c.toNat < 0x20 ∨ c.toNat = 0x7F
    · rw [if_pos hcontrol]
      obtain ⟨f', hgap, rfl, hscan⟩ :=
        scan_text hreading hp (List.cons_ne_nil 'u' ('0' :: '0' :: Nat.digitChar (c.toNat / 16) ::
          Nat.digitChar (c.toNat % 16) :: tail)) (show isGap '\\' = false by decide)
      refine ⟨.text, f'.push c, .inl ⟨rfl, hgap, rfl⟩, ?_⟩
      have hcode : c.toNat < 256 := by omega
      simp only [List.cons_append, List.nil_append]
      rw [hscan, if_neg (by decide), if_pos rfl, scan_code htail hcode, Place.within_within]
      rfl
    · rw [if_neg hcontrol]
      by_cases hspace : c = ' '
      · subst hspace
        obtain ⟨f', hreading, hscan⟩ := scan_blank hreading hp htail
        exact ⟨.gap false, f', hreading, hscan⟩
      · have hgap : isGap c = false := by
          simpa [isGap, hspace] using And.intro htab hbreak
        obtain ⟨f', hgap, rfl, hscan⟩ := scan_text hreading hp htail hgap
        refine ⟨.text, f'.push c, .inl ⟨rfl, hgap, rfl⟩, ?_⟩
        rw [List.singleton_append, hscan, if_neg hquote, if_neg hbackslash]
        rfl

/-- The text of a string up to the closing quote. -/
theorem scan_quoted (hreading : Reading text mode f) (hp : Behind indent p) (htail : tail ≠ [])
    (cs : List Char) :
    ∃ f', f'.text = cs.reverse ++ text ∧
      scan false indent mode f (cs.flatMap quotedChar ++ '"' :: tail) p =
        some (f', ⟨tail, p.within ((cs.flatMap quotedChar).length + 1)⟩) := by
  induction cs generalizing text mode f p with
  | nil =>
    obtain ⟨f', -, rfl, hscan⟩ :=
      scan_text hreading hp htail (show isGap '"' = false by decide)
    exact ⟨f', rfl, by simp [hscan]⟩
  | cons c cs ih =>
    obtain ⟨mode', f', hreading, hscan⟩ := scan_quotedChar hreading hp
      (show cs.flatMap quotedChar ++ '"' :: tail ≠ [] by simp) c
    obtain ⟨f'', htext, hrest⟩ := ih hreading (hp.within _)
    refine ⟨f'', by rw [htext]; simp, ?_⟩
    rw [List.flatMap_cons, List.append_assoc, hscan, hrest, Place.within_within]
    simp [Nat.add_assoc]

/-- A string in quotes, before a colon or at the end of a line. -/
theorem read?_quoted (cs rest : List Char) {p : Place} (hcol : indent ≤ p.col) {c : Char}
    (hc : c = ':' ∨ c = '\n') :
    read? false false indent ⟨'"' :: (cs.flatMap quotedChar ++ '"' :: c :: rest), p⟩ =
      some (String.ofList cs, ⟨c :: rest, p.within ((cs.flatMap quotedChar).length + 2)⟩) := by
  have hp : Behind indent (p.within 1) :=
    ⟨rfl, Nat.succ_pos _, by simp only [Place.within]; omega⟩
  have hstart : Reading [] .text Folding.start := .inl ⟨rfl, rfl, rfl⟩
  obtain ⟨f, htext, hscan⟩ := scan_quoted hstart hp (List.cons_ne_nil c rest) cs
  rw [Place.within_within, Nat.add_comm 1] at hscan
  have hopened : Cursor.advance ⟨'"' :: (cs.flatMap quotedChar ++ '"' :: c :: rest), p⟩ 1 =
      ⟨cs.flatMap quotedChar ++ '"' :: c :: rest, p.within 1⟩ := rfl
  have hline (p : Place) : Cursor.toLineEnd? ⟨c :: rest, p⟩ = some ⟨c :: rest, p⟩ := by
    rcases hc with rfl | rfl <;> rfl
  have hfollow (count : Nat) :
      mayFollow false (p.line == (p.within count).line) (c :: rest) = true := by
    rcases hc with rfl | rfl <;> simp [mayFollow, Place.within]
  rw [List.append_nil] at htext
  simp only [read?, hopened, hp.mayGoOn, hscan, hline, hfollow, if_true, Folding.result, htext,
    List.reverse_reverse]

end Quoted

end ComposeCluster.Yaml
