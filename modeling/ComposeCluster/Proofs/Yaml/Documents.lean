import ComposeCluster.Proofs.Yaml.Scan

/-!
# Scanning written documents

The text of several values is scanned into the tokens of one document after another
(`ofText?_render`), unless a key in one of them is too long, and then into none
(`ofText?_render_eq_none`). A marker ends the blocks of the document before it, and the text begins
with a marker, so the scan starts as it goes on from one document to the next.

Before the scan a text loses what cannot stand in it, and its line breaks become the same. What the
printer writes has only such breaks (`unbroken_render`), since it escapes all others in strings.
-/

set_option autoImplicit false

namespace ComposeCluster.Yaml

/-! ## Line breaks -/

/-- No character that the reader of a text replaces or stops at. -/
def Unbroken (cs : List Char) : Prop := ∀ c ∈ cs, c ≠ '\x00' ∧ c ≠ '\r'

instance (cs : List Char) : Decidable (Unbroken cs) :=
  List.decidableBAll (fun c => c ≠ '\x00' ∧ c ≠ '\r') cs

/-- Text without characters that are replaced stays as it is. -/
theorem uniformBreaks_eq {cs : List Char} (h : Unbroken cs) (acc : List Char) :
    uniformBreaks acc cs = acc.reverse ++ cs := by
  induction cs generalizing acc with
  | nil => simp [uniformBreaks]
  | cons c cs ih =>
    obtain ⟨⟨hnul, hreturn⟩, hcs⟩ := List.forall_mem_cons.1 h
    have hstep : uniformBreaks acc (c :: cs) = uniformBreaks (c :: acc) cs := by
      rw [uniformBreaks]
      · exact hnul
      · rintro rest rfl
        exact (hreturn rfl).elim
      · exact hreturn
    rw [hstep, ih hcs]
    simp

/-- Two such texts are one. -/
theorem Unbroken.append {cs ds : List Char} (hcs : Unbroken cs) (hds : Unbroken ds) :
    Unbroken (cs ++ ds) := by
  intro c hc
  obtain hc | hc := List.mem_append.1 hc
  · exact hcs c hc
  · exact hds c hc

/-- The digits of an escape are not replaced. -/
theorem unbroken_digitChar : ∀ n < 16, Nat.digitChar n ≠ '\x00' ∧ Nat.digitChar n ≠ '\r' := by
  decide

/-- No character is written in quotes as one that is replaced. -/
theorem unbroken_quotedChar (c : Char) : Unbroken (quotedChar c) := by
  unfold quotedChar
  split
  case h_1 | h_2 | h_3 | h_4 | h_5 | h_6 | h_7 => decide
  case h_8 _ _ _ _ _ _ hreturn =>
    split
    case isTrue hcontrol =>
      have hhigh := unbroken_digitChar (c.toNat / 16) (by omega)
      have hlow := unbroken_digitChar (c.toNat % 16) (by omega)
      have hletters : Unbroken ['\\', 'u', '0', '0'] := by decide
      exact hletters.append (by simp [Unbroken, hhigh, hlow])
    case isFalse hcontrol =>
      have hnul : c ≠ '\x00' := by
        rintro rfl
        exact hcontrol (.inl (by decide))
      simpa [Unbroken, hnul] using hreturn

/-- No string is written with a character that is replaced. -/
theorem unbroken_stringText (text : String) : Unbroken (stringText text).toList := by
  cases h : needsQuotes text with
  | true =>
    have hquoted : Unbroken (text.toList.flatMap quotedChar) := fun c hc => by
      obtain ⟨d, -, hd⟩ := List.mem_flatMap.1 hc
      exact unbroken_quotedChar d c hd
    have hmark : Unbroken ['"'] := by decide
    have htext : (stringText text).toList =
        ['"'] ++ (text.toList.flatMap quotedChar ++ ['"']) := by
      simp [stringText, h]
    rw [htext]
    exact hmark.append (hquoted.append hmark)
  | false =>
    have htext : (stringText text).toList = text.toList := by simp [stringText, h]
    rw [htext]
    intro c hc
    obtain ⟨hmark, hcontrol⟩ := inner_of_needsQuotes h c hc
    constructor
    · rintro rfl
      cases hcontrol
    · rintro rfl
      simp [innerMarks_eq] at hmark

/-- A line break and blanks are not replaced. -/
theorem unbroken_indented (count : Nat) : Unbroken (indented count) := by
  intro c hc
  obtain rfl | hc := List.mem_cons.1 hc
  · decide
  · obtain rfl := List.eq_of_mem_replicate hc
    decide

/-- Items are written without such characters if each is. -/
theorem unbroken_itemsText {items : List Json}
    (h : ∀ item ∈ items, ∀ level, Unbroken (inlineText level item).toList) (level : Nat) :
    Unbroken (itemsText level items).toList := by
  induction items with
  | nil => simp [itemsText, Unbroken]
  | cons item rest ih =>
    obtain ⟨hitem, hrest⟩ := List.forall_mem_cons.1 h
    have hdash : Unbroken ['-', ' '] := by decide
    simp only [itemsText, String.toList_append, toList_freshLine]
    exact (((unbroken_indented _).append hdash).append (hitem (level + 1))).append (ih hrest)

/-- Members are written without such characters if each value is. -/
theorem unbroken_membersText {members : List (String × Json)}
    (h : ∀ member ∈ members, ∀ level, Unbroken (inlineText level member.2).toList) (level : Nat) :
    Unbroken (membersText level members).toList := by
  induction members with
  | nil => simp [membersText, Unbroken]
  | cons member rest ih =>
    obtain ⟨key, value⟩ := member
    obtain ⟨hvalue, hrest⟩ := List.forall_mem_cons.1 h
    have hcolon : Unbroken [':'] := by decide
    have hgap : Unbroken (memberGap level value) := by
      unfold memberGap
      split
      · exact unbroken_indented _
      · decide
    simp only [membersText, String.toList_append, toList_freshLine, toList_memberText]
    exact ((((unbroken_indented _).append (unbroken_stringText key)).append hcolon).append
      (hgap.append (hvalue (level + 1)))).append (ih hrest)

/-- No whole value is written with a character that is replaced. -/
theorem unbroken_inlineText {value : Json} (h : value.Whole) (level : Nat) :
    Unbroken (inlineText level value).toList := by
  induction h generalizing level with
  | null =>
    rw [inlineText]
    decide
  | bool value =>
    rw [inlineText]
    cases value <;> decide
  | int value =>
    rw [inlineText]
    intro c hc
    rw [Text.toList_toString] at hc
    have hc : c = '-' ∨ c.isDigit = true := by
      split at hc
      · exact (List.mem_cons.1 hc).imp_right (Text.isDigit_of_mem_digits c)
      · exact .inr (Text.isDigit_of_mem_digits c hc)
    constructor <;> rintro rfl <;> simp [Char.isDigit] at hc
  | str text =>
    rw [inlineText]
    exact unbroken_stringText text
  | arr items hitems ih =>
    cases items with
    | nil =>
      rw [inlineText]
      decide
    | cons item rest =>
      have htext := unbroken_itemsText ih level
      rw [toList_itemsText] at htext
      exact fun c hc => htext c (List.mem_append_right _ hc)
  | obj members hmembers ih =>
    cases members with
    | nil =>
      rw [inlineText]
      decide
    | cons member rest =>
      have htext := unbroken_membersText ih level
      rw [toList_membersText] at htext
      exact fun c hc => htext c (List.mem_append_right _ hc)

/-! ## Documents -/

open Spot

/-- The tokens of a document. -/
def documentTokens (value : Json) : List Token := .documentStart :: tokensOf value

/-- The characters of a document. -/
theorem toList_documentText (value : Json) (more : List Char) :
    (documentText value ++ "\n").toList ++ more =
      '-' :: '-' :: '-' ::
        (indented 0 ++ ((inlineText 0 value).toList ++ (indented 0 ++ more))) := by
  simp [documentText, indented]

/-- Each value is written as a document, with a line break behind it. -/
theorem render_cons (value : Json) (rest : List Json) :
    render (value :: rest) = documentText value ++ "\n" ++ render rest := by
  simp [render]

/-- Three dashes at the beginning of a line start a document. -/
theorem take?_marker {s : Scanner} {next : List Char} (hrest : s.rest = '-' :: '-' :: '-' :: next)
    (hgap : gapAhead next = true) (hplace : s.place.col = 0) (hindent : s.indent ≤ 0) :
    s.take? = s.documentStart?.map .more := by
  unfold Scanner.take?
  rw [hrest]
  have hmarker : documentStartAhead ('-' :: '-' :: '-' :: next) = true := hgap
  have hcol : ¬(((0 : Nat) : Int) < s.indent) := Int.not_lt.2 hindent
  have hdirective : ('-' : Char) ≠ '%' := by decide
  simp only [hplace, hcol, hdirective, hmarker, true_and, if_true, if_false]

/-- No block is left open outside of all columns. -/
theorem remaining_neg (cols : List Nat) : remaining (-1) cols = [] := by
  induction cols with
  | nil => rfl
  | cons col cols ih =>
    have hcol : (-1 : Int) < col := by omega
    rw [remaining, if_pos hcol, ih]

/-- Outside of all blocks. -/
theorem unwind_all {a : Spot} {idle : Idle} {key : KeyCandidate} :
    (a.noted idle key).unwind (-1) =
      noted ⟨a.rest, a.col, closing (-1) a.cols a.tokens, a.allowed, [], false⟩ idle key := by
  have hcols : a.cols ≠ [] → (-1 : Int) ≤ innermost a.cols := fun hne => by
    obtain ⟨col, cols, heq⟩ := List.exists_cons_of_ne_nil hne
    rw [heq, innermost]
    omega
  rw [unwind_leave hcols, leave, remaining_neg]

/-- The marker of a document. -/
theorem leads_marker (tokens : List Token) {more : List Char} {cols : List Nat}
    (hcol : innermost cols ≤ 0) (hmore : isSolid more = true) :
    Leads ⟨'-' :: '-' :: '-' :: (indented 0 ++ more), 0, tokens, true, cols, false⟩
      ⟨more, 0, .documentStart :: closing (-1) cols tokens, true, [], false⟩ := by
  refine .of_step (by simp [indented]) fun idle => ?_
  have htake : (scanner ⟨'-' :: '-' :: '-' :: (indented 0 ++ more), 0, tokens, true, cols, false⟩
      idle).take? =
      some (.more (noted
        ⟨indented 0 ++ more, 3, .documentStart :: closing (-1) cols tokens, false, [], false⟩
        (idle.at ⟨idle.index + 3, idle.line, 3, false⟩) { idle.key with possible := false })) := by
    rw [take?_marker rfl rfl rfl hcol]
    unfold Scanner.documentStart? Scanner.leaveBlocks?
    rw [scanner, unwind_all, dropKey?_noted rfl]
    rfl
  exact ⟨_, _, htake, prepare?_stay (skipGap?_indented hmore) rfl (by show (-1 : Int) ≤ 0; decide)⟩

/-- The end of the text. -/
theorem take?_end {tokens : List Token} {cols : List Nat} {col : Nat} {allowed : Bool}
    {idle : Idle} :
    (scanner ⟨[], col, tokens, allowed, cols, false⟩ idle).take? =
      some (.done (closing (-1) cols tokens).reverse) := by
  have hfinish : (scanner ⟨[], col, tokens, allowed, cols, false⟩ idle).finish? =
      some (closing (-1) cols tokens).reverse := by
    unfold Scanner.finish?
    rw [if_neg (by simp [scanner, noted]), scanner, unwind_all]
    rfl
  unfold Scanner.take?
  exact congrArg (Option.map Scanner.Progress.done) hfinish

/-- What the other documents begin with does not go on with the one before them. -/
theorem follows_render (rest : List Json) : Follows [] 0 (render rest).toList := by
  cases rest with
  | nil => exact ⟨rfl, .inr ⟨rfl, .inl rfl⟩⟩
  | cons value rest =>
    rw [render_cons, String.toList_append, toList_documentText]
    exact ⟨rfl, .inr ⟨rfl, .inr rfl⟩⟩

/-- At column zero the block of a value that begins there stays open. -/
theorem leave_root {value : Json} {tokens : List Token} {more : List Char} :
    leave ⟨more, 0, (openTokens value).reverse ++ tokens, true, ownCols 0 value ++ [], false⟩
        (0 : Nat) =
      ⟨more, 0, (openTokens value).reverse ++ tokens, true, ownCols 0 value, false⟩ := by
  unfold ownCols
  split <;> simp [leave, closing, remaining]

/-- Leaving its block completes the tokens of a value. -/
theorem closing_root {value : Json} {tokens : List Token} :
    closing (-1) (ownCols 0 value) ((openTokens value).reverse ++ tokens) =
      (tokensOf value).reverse ++ tokens := by
  rw [tokensOf_eq]
  unfold ownCols
  split <;> simp [closing]

/-- Documents one after another. -/
theorem reaches_documents {values : List Json} (h : ∀ value ∈ values, value.Whole) :
    ∀ (tokens : List Token) (cols : List Nat), innermost cols ≤ 0 →
      ∃ tokens' cols',
        closing (-1) cols' tokens' =
          (values.flatMap documentTokens).reverse ++ closing (-1) cols tokens ∧
        Reaches (∀ value ∈ values, KeysFit value)
          ⟨(render values).toList, 0, tokens, true, cols, false⟩
          ⟨[], 0, tokens', true, cols', false⟩ := by
  induction values with
  | nil =>
    intro tokens cols hcol
    exact ⟨tokens, cols, rfl, (Leads.refl _).reaches.congr (by simp)⟩
  | cons value rest ih =>
    intro tokens cols hcol
    obtain ⟨hvalue, hrest⟩ := List.forall_mem_cons.1 h
    have hscan : Reaches (KeysFit value)
        ⟨(inlineText 0 value).toList ++ (indented 0 ++ (render rest).toList), 0,
          .documentStart :: closing (-1) cols tokens, true, [], false⟩
        (leave ⟨(render rest).toList, 0,
          (openTokens value).reverse ++ .documentStart :: closing (-1) cols tokens, true,
          ownCols 0 value ++ [], false⟩ (0 : Nat)) :=
      scans hvalue (follows_render rest) (by decide) fun _ => ⟨rfl, rfl⟩
    rw [leave_root] at hscan
    have hroot : innermost (ownCols 0 value) ≤ 0 := by
      unfold ownCols
      split <;> decide
    -- the blocks of this document are still open where the next one begins
    obtain ⟨tokens', cols', htokens, hreaches⟩ := ih hrest
      ((openTokens value).reverse ++ .documentStart :: closing (-1) cols tokens) _ hroot
    refine ⟨tokens', cols', ?_, ?_⟩
    · rw [htokens, closing_root]
      simp [documentTokens]
    · rw [render_cons, String.toList_append, toList_documentText]
      have hsolid := isSolid_inlineText hvalue 0 (indented 0 ++ (render rest).toList)
      exact (((leads_marker tokens hcol hsolid).trans_reaches hscan).trans hreaches).congr
        List.forall_mem_cons.symm

/-- Whole values are written without characters that are replaced. -/
theorem unbroken_render {values : List Json} (h : ∀ value ∈ values, value.Whole) :
    Unbroken (render values).toList := by
  induction values with
  | nil => simp [render, Unbroken]
  | cons value rest ih =>
    obtain ⟨hvalue, hrest⟩ := List.forall_mem_cons.1 h
    have hmarker : Unbroken ['-', '-', '-'] := by decide
    rw [render_cons, String.toList_append, toList_documentText]
    exact hmarker.append ((unbroken_indented 0).append ((unbroken_inlineText hvalue 0).append
      ((unbroken_indented 0).append (ih hrest))))

/-- What is carried along at first. -/
def idleStart : Idle := ⟨0, 0, true, KeyCandidate.none, false, 0⟩

/-- The scan starts as if a token had just ended. -/
theorem ofText?_eq {text : String} (hbreaks : Unbroken text.toList)
    (hsolid : isSolid text.toList = true) :
    Token.ofText? text = Scanner.resume? (text.toList.length + 2)
      (scanner ⟨text.toList, 0, [], true, [], false⟩ idleStart) := by
  have hstart : Scanner.ofText text = scanner ⟨text.toList, 0, [], true, [], false⟩ idleStart := by
    unfold Scanner.ofText Cursor.ofText
    rw [uniformBreaks_eq hbreaks]
    rfl
  have hprepare : (scanner ⟨text.toList, 0, [], true, [], false⟩ idleStart).prepare? =
      some (scanner ⟨text.toList, 0, [], true, [], false⟩ idleStart) :=
    (prepare?_stay (skipGap?_solid hsolid) rfl (by show (-1 : Int) ≤ 0; decide)).trans rfl
  unfold Token.ofText?
  rw [hstart, Scanner.run?_eq, hprepare]
  rfl

/-- Documents whose keys are short enough are scanned into their tokens. -/
theorem ofText?_render {values : List Json} (h : ∀ value ∈ values, value.Whole)
    (hkeys : ∀ value ∈ values, KeysFit value) :
    Token.ofText? (render values) = some (values.flatMap documentTokens) := by
  have htext := ofText?_eq (unbroken_render h) (follows_render values).1
  obtain ⟨tokens, cols, htokens, hreaches, -⟩ := reaches_documents h [] [] (by decide)
  obtain ⟨steps, hsteps, hleads⟩ := hreaches hkeys
  obtain ⟨idle, hresume⟩ := hleads idleStart
  obtain ⟨fuel, hfuel⟩ : ∃ fuel, (render values).toList.length + 2 = steps + (fuel + 1) :=
    ⟨(render values).toList.length + 1 - steps, by simp only [List.length_nil] at hsteps; omega⟩
  rw [htext, hfuel, hresume, Scanner.resume?, take?_end, htokens]
  simp [closing]

/-- A longer key makes the scan fail. -/
theorem ofText?_render_eq_none {values : List Json} (h : ∀ value ∈ values, value.Whole)
    (hkeys : ¬∀ value ∈ values, KeysFit value) : Token.ofText? (render values) = none := by
  have htext := ofText?_eq (unbroken_render h) (follows_render values).1
  obtain ⟨tokens, cols, -, -, hfails⟩ := reaches_documents h [] [] (by decide)
  obtain ⟨steps, hsteps, hresume⟩ := hfails hkeys
  obtain ⟨fuel, hfuel⟩ : ∃ fuel, (render values).toList.length + 2 = steps + fuel :=
    ⟨(render values).toList.length + 2 - steps, by simp only at hsteps; omega⟩
  rw [htext, hfuel, hresume]

end ComposeCluster.Yaml
