import ComposeCluster.Yaml.Printer
import ComposeCluster.Proofs.Json.Texts
import ComposeCluster.Proofs.Yaml.Entry

/-!
# Scanning what was written

The text of a value is scanned into the tokens of the value (`tokensOf`). The statement `Scans` is
made for a value anywhere in a document: its text stands at some column of a line, deeper than the
blocks around it, and what follows is on a new line and does not go on with it (`Follows`). The scan
stands behind the value then, with the blocks closed that end there. It gets there exactly if no key
in the value is longer than the scanner looks back (`KeysFit`).
-/

set_option autoImplicit false

namespace ComposeCluster.Yaml

/-! ## Tokens of a value -/

/-- The token of a string. -/
def stringToken (text : String) : Token := .scalar (!needsQuotes text) text

/-- Whether a value is written as a block: a collection with content. -/
def isBlock : Json → Bool
  | .arr items => !items.isEmpty
  | .obj members => !members.isEmpty
  | _ => false

mutual

/-- The tokens of a value. -/
def tokensOf : Json → List Token
  | .null => [.scalar true "~"]
  | .bool value => [.scalar true (if value then "true" else "false")]
  | .int value => [.scalar true (toString value)]
  | .float value => [.scalar true (Json.floatText value)]
  | .str text => [stringToken text]
  | .arr items =>
    if items.isEmpty then [.flowSequence, .flowSequenceEnd]
    else .blockSequence :: itemTokens items ++ [.blockEnd]
  | .obj members =>
    if members.isEmpty then [.flowMapping, .flowMappingEnd]
    else .blockMapping :: memberTokens members ++ [.blockEnd]

/-- The tokens of items. -/
def itemTokens : List Json → List Token
  | [] => []
  | item :: rest => .blockEntry :: tokensOf item ++ itemTokens rest

/-- The tokens of members. -/
def memberTokens : List (String × Json) → List Token
  | [] => []
  | (key, value) :: rest =>
    .key :: stringToken key :: .value :: tokensOf value ++ memberTokens rest

end

/-- The tokens of a value up to the end of its own block. -/
def openTokens : Json → List Token
  | .arr (item :: rest) => .blockSequence :: itemTokens (item :: rest)
  | .obj (member :: rest) => .blockMapping :: memberTokens (member :: rest)
  | value => tokensOf value

/-- The column of a value's own block, if it is written as one. -/
def ownCols (level : Nat) (value : Json) : List Nat :=
  if isBlock value then [2 * level] else []

/-- The tokens of a value are those of its open block, with the end of the block if it has one. -/
theorem tokensOf_eq (value : Json) :
    tokensOf value = openTokens value ++ if isBlock value then [.blockEnd] else [] := by
  match value with
  | .arr [] | .obj [] | .null | .bool _ | .int _ | .float _ | .str _ => simp [isBlock, openTokens]
  | .arr (item :: rest) => simp [isBlock, openTokens, tokensOf]
  | .obj (member :: rest) => simp [isBlock, openTokens, tokensOf]

/-! ## Texts of a value -/

attribute [local simp] inlineText itemsText membersText memberText

variable {level : Nat}

/-- A fresh line is a line break and two blanks for each level. -/
theorem toList_freshLine (level : Nat) : (freshLine level).toList = indented (2 * level) := by
  simp [freshLine, indented]

/-- Items of a list are written on a fresh line as they are behind a dash. -/
theorem toList_itemsText (item : Json) (rest : List Json) :
    (itemsText level (item :: rest)).toList =
      indented (2 * level) ++ (inlineText level (.arr (item :: rest))).toList := by
  simp [toList_freshLine]

/-- Members of an object are written on a fresh line as they are behind a dash. -/
theorem toList_membersText (member : String × Json) (rest : List (String × Json)) :
    (membersText level (member :: rest)).toList =
      indented (2 * level) ++ (inlineText level (.obj (member :: rest))).toList := by
  obtain ⟨key, value⟩ := member
  simp [toList_freshLine]

/-- The gap before a value under a key. -/
def memberGap (level : Nat) (value : Json) : List Char :=
  if isBlock value then indented (2 * (level + 1)) else [' ']

/-- Behind a key there are a gap and the value, one level deeper. -/
theorem toList_memberText (value : Json) :
    (memberText level value).toList =
      memberGap level value ++ (inlineText (level + 1) value).toList := by
  match value with
  | .arr [] | .obj [] | .null | .bool _ | .int _ | .float _ | .str _ =>
    simp [memberGap, isBlock]
  | .arr (item :: rest) =>
    simp [memberGap, isBlock, toList_freshLine]
  | .obj ((key, value) :: rest) =>
    simp [memberGap, isBlock, toList_freshLine]

/-- The text of a string is that of a scalar, with its token. -/
theorem written_stringText (text : String) :
    Spot.Written (stringText text).toList (stringToken text) := by
  cases h : needsQuotes text with
  | false =>
    have hbare := Spot.Written.bare (Bare.of_needsQuotes h)
    simpa [stringText, stringToken, h] using hbare
  | true =>
    have hquoted := Spot.Written.quoted text.toList
    simpa [stringText, stringToken, h] using hquoted

/-- Null is written as a bare scalar. -/
theorem written_null : Spot.Written "~".toList (.scalar true "~") :=
  .bare (.of_word (by decide) (by decide))

/-- A truth value is written as a bare scalar. -/
theorem written_bool (value : Bool) :
    Spot.Written (if value then "true" else "false").toList
      (.scalar true (if value then "true" else "false")) := by
  cases value with
  | true => exact .bare (.of_word (by decide) (by decide))
  | false => exact .bare (.of_word (by decide) (by decide))

/-- A number is written as a bare scalar. -/
theorem written_int (value : Int) :
    Spot.Written (toString value).toList (.scalar true (toString value)) := by
  have hbare := Spot.Written.bare (Bare.of_int value)
  rwa [String.ofList_toList] at hbare

/-- A scalar begins with something solid. -/
theorem isSolid_of_written {word : List Char} {token : Token} (h : Spot.Written word token)
    (more : List Char) : isSolid (word ++ more) = true := by
  obtain ⟨c, next, rfl, -, hgap, hcomment, -⟩ := h.exists_head
  simp [isSolid, hgap, hcomment]

/-- A value begins with something solid. -/
theorem isSolid_inlineText {value : Json} (h : value.Whole) (level : Nat) (more : List Char) :
    isSolid ((inlineText level value).toList ++ more) = true := by
  cases h with
  | null =>
    rw [inlineText]
    exact isSolid_of_written written_null more
  | bool value =>
    rw [inlineText]
    exact isSolid_of_written (written_bool value) more
  | int value =>
    rw [inlineText]
    exact isSolid_of_written (written_int value) more
  | str text =>
    rw [inlineText]
    exact isSolid_of_written (written_stringText text) more
  | arr items =>
    cases items with
    | nil => simp [isSolid, isGap]
    | cons item rest => simp [isSolid, isGap]
  | obj members =>
    cases members with
    | nil => simp [isSolid, isGap]
    | cons member rest =>
      obtain ⟨key, value⟩ := member
      simp only [inlineText, String.toList_append, List.append_assoc]
      exact isSolid_of_written (written_stringText key) _

/-! ## From the text to the tokens -/

open Spot

/-- The keys are short enough to be found again at their colons. -/
def KeysFit (value : Json) : Prop :=
  value.EveryText (fun key => (stringText key).length ≤ 1024) fun _ => True

/-- Keys fit in a list if they do in each item. -/
theorem keysFit_arr_iff {items : List Json} :
    KeysFit (.arr items) ↔ ∀ item ∈ items, KeysFit item := Json.everyText_arr_iff

/-- Keys fit in an object if each is short enough and they do in each value. -/
theorem keysFit_obj_iff {members : List (String × Json)} :
    KeysFit (.obj members) ↔
      ∀ member ∈ members, (stringText member.1).length ≤ 1024 ∧ KeysFit member.2 :=
  Json.everyText_obj_iff

/-- The scan of a value's text gives its tokens, with its own block still open if it has one. -/
def Scans (value : Json) : Prop :=
  ∀ {level count col : Nat} {cols : List Nat} {tokens : List Token} {more : List Char}
    {allowed hanging : Bool},
    Follows cols count more → innermost cols < col →
    (isBlock value = true → col = 2 * level ∧ allowed = true) →
    Reaches (KeysFit value)
      ⟨(inlineText level value).toList ++ (indented count ++ more), col, tokens, allowed, cols,
        hanging⟩
      (leave ⟨more, count, (openTokens value).reverse ++ tokens, true, ownCols level value ++ cols,
        false⟩ count)

/-- What does not go on with blocks at some columns does not go on with a deeper one either. -/
theorem Spot.Follows.deeper {cols : List Nat} {count col : Nat} {more : List Char}
    (h : Follows cols count more) (hcol : innermost cols < col) :
    Follows (col :: cols) count more := by
  refine ⟨h.1, .inl ?_⟩
  obtain ⟨-, hle | ⟨rfl, -⟩⟩ := h
  · exact Int.le_of_lt (Int.lt_of_le_of_lt hle hcol)
  · exact Int.natCast_nonneg col

/-- A value's own block ends where the blocks around it go on. -/
theorem leave_ownCols {value : Json} {cols : List Nat} {count : Nat} {more : List Char}
    {tokens : List Token} (hcount : count < 2 * level) :
    leave ⟨more, count, (openTokens value).reverse ++ tokens, true, ownCols level value ++ cols,
        false⟩ count =
      leave ⟨more, count, (tokensOf value).reverse ++ tokens, true, cols, false⟩ count := by
  have hcount : (count : Int) < 2 * level := by omega
  rw [tokensOf_eq, ownCols]
  split
  case isTrue => simp [leave, closing, remaining, hcount]
  case isFalse => simp [leave]

/-- Where the innermost block goes on, none ends. -/
theorem leave_innermost {rest : List Char} {tokens : List Token} {col : Nat} {below : List Nat} :
    leave ⟨rest, col, tokens, true, col :: below, false⟩ col =
      ⟨rest, col, tokens, true, col :: below, false⟩ := by
  simp [leave, closing, remaining]

/-- What follows a block at one level is less deep than the next level. -/
theorem Spot.Follows.lt_next {below : List Nat} {count : Nat} {more : List Char}
    (h : Follows (2 * level :: below) count more) : count < 2 * (level + 1) := by
  have hle : (count : Int) ≤ (2 * level : Nat) := h.le_innermost (List.cons_ne_nil _ _)
  omega

section Collections

variable {count : Nat} {cols below : List Nat} {opening : List Token} {more : List Char}
  {hanging : Bool}

/-- One item, from its dash. -/
theorem reaches_item {item : Json} (hitem : item.Whole) (hscan : Scans item) (tokens : List Token)
    (henters : Enters .blockSequence (2 * level) cols hanging below opening)
    (hfollows : Follows (2 * level :: below) count more) :
    Reaches (KeysFit item)
      ⟨'-' :: ' ' :: ((inlineText (level + 1) item).toList ++ (indented count ++ more)), 2 * level,
        tokens, true, cols, hanging⟩
      (leave ⟨more, count, (tokensOf item).reverse ++ .blockEntry :: (opening ++ tokens), true,
        2 * level :: below, false⟩ count) := by
  have hinner : innermost (2 * level :: below) < (2 * level + 2 : Nat) :=
    Int.ofNat_lt.2 (Nat.lt_add_of_pos_right Nat.two_pos)
  have hdash := leads_dash tokens henters
    (isSolid_inlineText hitem (level + 1) (indented count ++ more))
  have hreaches := hdash.trans_reaches (hscan hfollows hinner fun _ => ⟨rfl, rfl⟩)
  rwa [leave_ownCols hfollows.lt_next] at hreaches

/-- Items one after another, from the dash of the first. -/
theorem reaches_items {items : List Json} (hwhole : ∀ item ∈ items, item.Whole)
    (hscans : ∀ item ∈ items, Scans item) (hne : items ≠ []) (tokens : List Token)
    (henters : Enters .blockSequence (2 * level) cols hanging below opening)
    (hfollows : Follows (2 * level :: below) count more) :
    Reaches (∀ item ∈ items, KeysFit item)
      ⟨(inlineText level (.arr items)).toList ++ (indented count ++ more), 2 * level, tokens, true,
        cols, hanging⟩
      (leave ⟨more, count, (itemTokens items).reverse ++ (opening ++ tokens), true,
        2 * level :: below, false⟩ count) := by
  induction items generalizing cols opening tokens hanging with
  | nil => exact (hne rfl).elim
  | cons item rest ih =>
    obtain ⟨hitem, hrest⟩ := List.forall_mem_cons.1 hwhole
    obtain ⟨hscan, hscans⟩ := List.forall_mem_cons.1 hscans
    cases rest with
    | nil =>
      have htext : (inlineText level (.arr [item])).toList ++ (indented count ++ more) =
          '-' :: ' ' :: ((inlineText (level + 1) item).toList ++ (indented count ++ more)) := by
        simp [inlineText, itemsText]
      have hfirst := reaches_item hitem hscan tokens henters hfollows
      rw [← htext] at hfirst
      simpa [itemTokens] using hfirst
    | cons next rest =>
      have htext : (inlineText level (.arr (item :: next :: rest))).toList ++
          (indented count ++ more) =
          '-' :: ' ' :: ((inlineText (level + 1) item).toList ++ (indented (2 * level) ++
            ((inlineText level (.arr (next :: rest))).toList ++ (indented count ++ more)))) := by
        rw [inlineText, String.toList_append, String.toList_append, toList_itemsText]
        simp
      -- the next dash stands at the column of the block, so the block stays open
      have hnext : Follows (2 * level :: below) (2 * level)
          ((inlineText level (.arr (next :: rest))).toList ++ (indented count ++ more)) :=
        ⟨isSolid_inlineText (.arr _ hrest) level _, .inl (Int.le_refl _)⟩
      have hfirst := reaches_item hitem hscan tokens henters hnext
      rw [leave_innermost, ← htext] at hfirst
      have hall := hfirst.trans (ih hrest hscans (List.cons_ne_nil _ _) _ .again)
      rw [← List.forall_mem_cons] at hall
      simpa [itemTokens] using hall

/-- The column of a value under a key that ends before a column. -/
def memberCol (level col : Nat) (value : Json) : Nat :=
  if isBlock value then 2 * (level + 1) else col + 1

/-- The gap before a value leads to the column of the value. -/
theorem leading_memberGap (level col : Nat) (value : Json) :
    Leading (memberGap level value) (isBlock value) col (memberCol level col value) := by
  unfold memberGap memberCol
  cases isBlock value with
  | true => exact .line col _
  | false => exact .blank col

/-- A value under a key lies deeper than the key. -/
theorem lt_memberCol (level length : Nat) (value : Json) :
    2 * level < memberCol level (2 * level + length + 1) value := by
  unfold memberCol
  split <;> omega

/-- One member, from its key. -/
theorem reaches_member (key : String) {value : Json} (hvalue : value.Whole) (hscan : Scans value)
    (tokens : List Token) (henters : Enters .blockMapping (2 * level) cols hanging below opening)
    (hfollows : Follows (2 * level :: below) count more) :
    Reaches ((stringText key).length ≤ 1024 ∧ KeysFit value)
      ⟨(stringText key).toList ++ ':' :: (memberGap level value ++
        ((inlineText (level + 1) value).toList ++ (indented count ++ more))), 2 * level, tokens,
        true, cols, hanging⟩
      (leave ⟨more, count, (tokensOf value).reverse ++
          .value :: stringToken key :: .key :: (opening ++ tokens), true, 2 * level :: below, false⟩
        count) := by
  have hcol := lt_memberCol level (stringText key).toList.length value
  have hkey := reaches_key tokens (written_stringText key) henters
    (leading_memberGap level _ value) hcol
    (isSolid_inlineText hvalue (level + 1) (indented count ++ more))
  have hreaches := hkey.trans (hscan hfollows (Int.ofNat_lt.2 hcol) fun h => ⟨if_pos h, h⟩)
  rwa [leave_ownCols hfollows.lt_next, String.length_toList] at hreaches

/-- Members one after another, from the first key. -/
theorem reaches_members {members : List (String × Json)}
    (hwhole : ∀ member ∈ members, member.2.Whole) (hscans : ∀ member ∈ members, Scans member.2)
    (hne : members ≠ []) (tokens : List Token)
    (henters : Enters .blockMapping (2 * level) cols hanging below opening)
    (hfollows : Follows (2 * level :: below) count more) :
    Reaches (∀ member ∈ members, (stringText member.1).length ≤ 1024 ∧ KeysFit member.2)
      ⟨(inlineText level (.obj members)).toList ++ (indented count ++ more), 2 * level, tokens,
        true, cols, hanging⟩
      (leave ⟨more, count, (memberTokens members).reverse ++ (opening ++ tokens), true,
        2 * level :: below, false⟩ count) := by
  -- the first member opens the mapping, and each later one comes back to its column
  induction members generalizing cols opening tokens hanging with
  | nil => exact (hne rfl).elim
  | cons member rest ih =>
    obtain ⟨key, value⟩ := member
    obtain ⟨hvalue, hrest⟩ := List.forall_mem_cons.1 hwhole
    obtain ⟨hscan, hscans⟩ := List.forall_mem_cons.1 hscans
    cases rest with
    | nil =>
      have htext : (inlineText level (.obj [(key, value)])).toList ++ (indented count ++ more) =
          (stringText key).toList ++ ':' :: (memberGap level value ++
            ((inlineText (level + 1) value).toList ++ (indented count ++ more))) := by
        simp [inlineText, membersText, toList_memberText]
      have hfirst := reaches_member key hvalue hscan tokens henters hfollows
      rw [← htext] at hfirst
      simpa [memberTokens] using hfirst
    | cons next rest =>
      have htext : (inlineText level (.obj ((key, value) :: next :: rest))).toList ++
          (indented count ++ more) =
          (stringText key).toList ++ ':' :: (memberGap level value ++
            ((inlineText (level + 1) value).toList ++ (indented (2 * level) ++
              ((inlineText level (.obj (next :: rest))).toList ++ (indented count ++ more))))) := by
        rw [inlineText, String.toList_append, String.toList_append, toList_membersText,
          toList_memberText]
        simp
      have hnext : Follows (2 * level :: below) (2 * level)
          ((inlineText level (.obj (next :: rest))).toList ++ (indented count ++ more)) :=
        ⟨isSolid_inlineText (.obj _ hrest) level _, .inl (Int.le_refl _)⟩
      have hfirst := reaches_member key hvalue hscan tokens henters hnext
      rw [leave_innermost, ← htext] at hfirst
      have hall := hfirst.trans (ih hrest hscans (List.cons_ne_nil _ _) _ .again)
      refine Reaches.congr ?_ List.forall_mem_cons.symm
      simpa [memberTokens] using hall

end Collections

/-- The tokens of a value that is no block are all its open tokens. -/
theorem openTokens_eq {value : Json} (h : isBlock value = false) :
    openTokens value = tokensOf value := by
  rw [tokensOf_eq, h, if_neg Bool.false_ne_true, List.append_nil]

/-- A value that is written as one scalar is scanned into its token. -/
theorem scans_scalar {value : Json} {word : List Char} {token : Token} (hword : Written word token)
    (htext : ∀ level, (inlineText level value).toList = word) (htokens : tokensOf value = [token])
    (hblock : isBlock value = false) (hkeys : KeysFit value) : Scans value := by
  intro level count col cols tokens more allowed hanging hfollows hcol _
  rw [htext, openTokens_eq hblock, htokens, ownCols, hblock]
  exact (leads_scalar hword hfollows hcol).reaches.congr (iff_of_true trivial hkeys)

/-- An empty collection is scanned into its two tokens. -/
theorem scans_emptyFlow {value : Json} (mapping : Bool)
    (htext : ∀ level, (inlineText level value).toList =
      [(flowOpening mapping).1, (flowClosing mapping).1])
    (htokens : tokensOf value = [(flowOpening mapping).2, (flowClosing mapping).2])
    (hblock : isBlock value = false) (hkeys : KeysFit value) : Scans value := by
  intro level count col cols tokens more allowed hanging hfollows hcol _
  rw [htext, openTokens_eq hblock, htokens, ownCols, hblock]
  exact (leads_emptyFlow mapping hfollows hcol).reaches.congr (iff_of_true trivial hkeys)

/-- A list is scanned into its tokens if its items are. -/
theorem scans_items {items : List Json} (hwhole : ∀ item ∈ items, item.Whole)
    (hscans : ∀ item ∈ items, Scans item) : Scans (.arr items) := by
  cases items with
  | nil =>
    exact scans_emptyFlow false (fun level => by simp [inlineText, flowOpening, flowClosing])
      (by simp [tokensOf, flowOpening, flowClosing]) rfl (.arr [] (List.forall_mem_nil _))
  | cons item rest =>
    intro level count col cols tokens more allowed hanging hfollows hcol hblock
    obtain ⟨rfl, rfl⟩ := hblock rfl
    have henters : Enters .blockSequence (2 * level) cols hanging cols [.blockSequence] :=
      .deeper hcol
    have hreaches := reaches_items hwhole hscans (List.cons_ne_nil _ _) tokens henters
      (hfollows.deeper hcol)
    have hopen : (openTokens (.arr (item :: rest))).reverse ++ tokens =
        (itemTokens (item :: rest)).reverse ++ ([.blockSequence] ++ tokens) := by
      simp [openTokens]
    rw [hopen]
    exact hreaches.congr keysFit_arr_iff.symm

/-- An object is scanned into its tokens if its values are. -/
theorem scans_members {members : List (String × Json)}
    (hwhole : ∀ member ∈ members, member.2.Whole) (hscans : ∀ member ∈ members, Scans member.2) :
    Scans (.obj members) := by
  cases members with
  | nil =>
    exact scans_emptyFlow true (fun level => by simp [inlineText, flowOpening, flowClosing])
      (by simp [tokensOf, flowOpening, flowClosing]) rfl
      (.obj [] (List.forall_mem_nil _) (List.forall_mem_nil _))
  | cons member rest =>
    intro level count col cols tokens more allowed hanging hfollows hcol hblock
    obtain ⟨rfl, rfl⟩ := hblock rfl
    have henters : Enters .blockMapping (2 * level) cols hanging cols [.blockMapping] :=
      .deeper hcol
    have hreaches := reaches_members hwhole hscans (List.cons_ne_nil _ _) tokens henters
      (hfollows.deeper hcol)
    have hopen : (openTokens (.obj (member :: rest))).reverse ++ tokens =
        (memberTokens (member :: rest)).reverse ++ ([.blockMapping] ++ tokens) := by
      simp [openTokens]
    rw [hopen]
    exact hreaches.congr keysFit_obj_iff.symm

/-- The text of every value is scanned into its tokens. -/
theorem scans {value : Json} (h : value.Whole) : Scans value := by
  induction h with
  | null =>
    exact scans_scalar written_null (fun level => by rw [inlineText]) (by rw [tokensOf]) rfl .null
  | bool value =>
    exact scans_scalar (written_bool value) (fun level => by rw [inlineText]) (by rw [tokensOf]) rfl
      (.bool value)
  | int value =>
    exact scans_scalar (written_int value) (fun level => by rw [inlineText]) (by rw [tokensOf]) rfl
      (.int value)
  | str text =>
    exact scans_scalar (written_stringText text) (fun level => by rw [inlineText])
      (by rw [tokensOf]) rfl (.str text trivial)
  | arr items hitems ih => exact scans_items hitems ih
  | obj members hmembers ih => exact scans_members hmembers ih

end ComposeCluster.Yaml
