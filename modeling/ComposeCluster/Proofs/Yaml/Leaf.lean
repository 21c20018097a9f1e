import ComposeCluster.Proofs.Yaml.Quoted
import ComposeCluster.Proofs.Yaml.Spot

/-!
# Scanning scalars and empty collections

A scalar is `Written` bare or in quotes. `take?_scalar` reads one to its end, which is the colon
behind a key or the end of its line (`Stops`). At the end of a line the scan goes on with the next
one, after the blocks that end there (`leads_scalar`), and so it does behind an empty flow
collection (`leads_emptyFlow`).
-/

set_option autoImplicit false

namespace ComposeCluster.Yaml.Spot

variable {a : Spot} {idle : Idle} {key : KeyCandidate} {rest : List Char} {col count : Nat}
  {tokens : List Token} {allowed hanging : Bool} {cols : List Nat}

/-- The candidate that is noted where a token begins. -/
def candidate (a : Spot) (idle : Idle) : KeyCandidate :=
  if a.allowed then
    ⟨true,
      indentIn a.hanging a.cols == a.col && (indentsIn a.hanging a.cols).head?.any (·.endsBlock),
      a.tokens.length, a.place idle⟩
  else { idle.key with possible := false }

/-- Where a key may begin, the next token is noted as its candidate. -/
theorem noteKey_scanner (a : Spot) (idle : Idle) :
    (a.scanner idle).noteKey = a.noted idle (a.candidate idle) := by
  obtain ⟨rest, col, tokens, allowed, cols, hanging⟩ := a
  cases allowed <;> rfl

/-- A token deeper than its block need not be a key. -/
theorem candidate_deep (hcol : innermost a.cols < a.col) :
    (a.candidate idle).possible = true →
      (a.candidate idle).place.line < idle.line + 1 ∧ (a.candidate idle).required = false := by
  obtain ⟨rest, col, tokens, allowed, cols, hanging⟩ := a
  cases allowed with
  | false => exact fun hpossible => by cases hpossible
  | true =>
    refine fun _ => ⟨Nat.lt_succ_self idle.line, ?_⟩
    match hanging, cols with
    | _, [] => simp [candidate, indentsIn, frames]
    | true, innermost :: cols => simp [candidate, indentsIn]
    | false, innermost :: cols =>
      have hne : (innermost : Int) ≠ col := Int.ne_of_lt hcol
      simp [candidate, indentIn, Yaml.innermost, hne]

/-- Something that begins a plain scalar is read as one. -/
theorem dispatch?_of_opensPlain {c : Char} {next : List Char} (h : opensPlain c next = true)
    (s : Scanner) : s.dispatch? c next = s.plainScalar? := by
  unfold Scanner.dispatch?
  dsimp only
  split
  -- a bare text that begins with a dash goes on with a digit
  case h_11 =>
    have hgap : gapAhead next = false := by
      cases next with
      | nil => simp [opensPlain, tokenMarks] at h
      | cons d next =>
        have hdigit : d.isDigit = true := by simpa [opensPlain, tokenMarks] using h
        have hopens : opensPlain d [] = true := by
          rw [opensPlain, tokenMarks_of_isDigit hdigit]
          rfl
        exact (not_gap_of_opensPlain hopens).1
    rw [hgap]
    rfl
  case h_19 => rfl
  all_goals simp [opensPlain, tokenMarks] at h

/-- Giving up that content hangs deeper leaves the frames of the blocks. -/
theorem giveUpIndents_noted :
    Scanner.giveUpIndents (indentsIn hanging cols)
        (noted ⟨rest, col, tokens, allowed, cols, hanging⟩ idle key) =
      noted ⟨rest, col, tokens, allowed, cols, false⟩ idle key := by
  match hanging, cols with
  | false, [] => rfl
  | true, [] => rfl
  | false, innermost :: cols => rfl
  | true, innermost :: cols => rfl

/-- The spot behind a token that ends at a cursor. -/
def past (a : Spot) (after : Cursor) (token : Token) : Spot :=
  { a with
    rest := after.rest
    col := after.place.col
    tokens := token :: a.tokens
    allowed := after.place.fresh }

/-- A plain scalar that is read at a spot leads to the spot behind it. -/
theorem plainScalar?_scanner {text : String} {after : Cursor}
    (hread : Plain.read? false (innermost a.cols + 1) ⟨a.rest, a.place idle⟩ = some (text, after)) :
    (a.scanner idle).plainScalar? =
      some (noted { a.past after (.scalar true text) with hanging := false } (idle.at after.place)
        (a.candidate idle)) := by
  obtain ⟨rest, col, tokens, allowed, cols, hanging⟩ := a
  have hscalar : (scanner ⟨rest, col, tokens, allowed, cols, hanging⟩ idle).plainScalar? =
      (fun s : Scanner =>
        (Plain.read? s.inFlow (s.indent + 1) s.cursor).map fun found =>
          let s := if found.2.place.fresh then { s with keyAllowed := true } else s
          (s.goTo found.2).push (.scalar true found.1))
        (Scanner.giveUpIndents (indentsIn hanging cols)
          (noted ⟨rest, col, tokens, false, cols, hanging⟩ idle
            (candidate ⟨rest, col, tokens, allowed, cols, hanging⟩ idle))) := by
    unfold Scanner.plainScalar?
    rw [noteKey_scanner]
    rfl
  rw [hscalar, giveUpIndents_noted]
  refine (congrArg (Option.map _) hread).trans ?_
  obtain ⟨after, index, line, col, fresh⟩ := after
  cases fresh <;> rfl

/-- A quoted scalar that is read at a spot leads to the spot behind it, past the rest of its
line. -/
theorem quotedScalar?_scanner {text : String} {closed after : Cursor}
    (hread : Quoted.read? false false (indentIn a.hanging a.cols) ⟨a.rest, a.place idle⟩ =
      some (text, closed))
    (hskip : (noted { a.past closed (.scalar false text) with tokens := a.tokens, allowed := false }
        (idle.at closed.place) (a.candidate idle)).skipGap? =
      some (noted { a.past after (.scalar false text) with tokens := a.tokens }
        (idle.at after.place) (a.candidate idle))) :
    (a.scanner idle).quotedScalar? false =
      some (noted (a.past after (.scalar false text))
        { idle.at after.place with adjacentValueAt := after.place.index } (a.candidate idle)) := by
  have hscalar : (a.scanner idle).quotedScalar? false =
      (Quoted.read? false false (indentIn a.hanging a.cols) ⟨a.rest, a.place idle⟩).bind
        fun found =>
          ((noted { a with allowed := false } idle (a.candidate idle)).goTo found.2).skipGap?.bind
            fun s =>
              some ({ s with adjacentValueAt := s.place.index }.push (.scalar false found.1)) := by
    unfold Scanner.quotedScalar?
    rw [noteKey_scanner]
    rfl
  rw [hscalar, hread]
  exact (congrArg (Option.bind · _) hskip).trans rfl

/-! ### Scalars -/

/-- The text of a scalar, with its token. -/
inductive Written : List Char → Token → Prop
  | bare {cs : List Char} (h : Bare cs) : Written cs (.scalar true (String.ofList cs))
  | quoted (cs : List Char) :
    Written ('"' :: (cs.flatMap quotedChar ++ ['"'])) (.scalar false (String.ofList cs))

/-- What follows a value in blocks at some columns, so many blanks into the next line: nothing
that would continue it. -/
def Follows (cols : List Nat) (count : Nat) (more : List Char) : Prop :=
  isSolid more = true ∧
    ((count : Int) ≤ innermost cols ∨ count = 0 ∧ (more = [] ∨ markerAhead more = true))

/-- What follows blocks lies at most as deep as the innermost of them. -/
theorem Follows.le_innermost {more : List Char} (h : Follows cols count more) (hne : cols ≠ []) :
    (count : Int) ≤ innermost cols := by
  obtain ⟨-, h | ⟨rfl, -⟩⟩ := h
  · exact h
  · obtain ⟨col, cols, rfl⟩ := List.exists_cons_of_ne_nil hne
    exact Int.natCast_nonneg col

/-- What follows a value ends a plain scalar on the line before it. -/
theorem Follows.ends {more : List Char} (h : Follows cols count more) :
    Plain.Ends (innermost cols + 1) count more :=
  ⟨h.1, h.2.imp Int.lt_add_one_of_le And.right⟩

/-- How a scalar ends at a place: before a colon, or with its line. The cursor tells where the
next token is looked for. -/
inductive Stops (cols : List Nat) (p : Place) : List Char → Cursor → Prop
  | key {more : List Char} (h : gapAhead more = true) : Stops cols p (':' :: more) ⟨':' :: more, p⟩
  | line {count : Nat} {more : List Char} (h : Follows cols count more) :
    Stops cols p (indented count ++ more) ⟨more, p.onNextLine count⟩

/-- A scalar begins with a character that begins no directive, gap, comment or marker. -/
theorem Written.exists_head {word : List Char} {token : Token} (h : Written word token) :
    ∃ c next, word = c :: next ∧ c ≠ '%' ∧ isGap c = false ∧ c ≠ '#' ∧
      ∀ more, markerAhead (c :: (next ++ more)) = false := by
  cases h with
  | bare h =>
    obtain ⟨c, next, rfl, hopens⟩ := h.opens
    obtain ⟨hgap, hcomment, -⟩ := not_gap_of_opensPlain (hopens [])
    refine ⟨c, next, rfl, ?_, hgap, hcomment, fun more => markerAhead_of_opensPlain (hopens more)⟩
    rintro rfl
    simp [opensPlain, tokenMarks] at hopens
  | quoted cs =>
    exact ⟨'"', _, rfl, by decide, by decide, by decide, fun more => rfl⟩

/-- A bare scalar is read to its end. -/
theorem plainScalar?_bare (a : Spot) (idle : Idle) {word tail : List Char} {after : Cursor}
    (hword : Bare word) (hrest : a.rest = word ++ tail)
    (hstops : Stops a.cols ((a.place idle).within word.length) tail after)
    (hcol : indentIn a.hanging a.cols ≤ a.col) :
    (a.scanner idle).plainScalar? =
      some (noted { a.past after (.scalar true (String.ofList word)) with hanging := false }
        (idle.at after.place) (a.candidate idle)) := by
  have hinner : innermost a.cols + 1 ≤ ((a.place idle).col : Int) + 1 :=
    Int.add_le_add_right (Int.le_trans (innermost_le_indentIn _ _) hcol) 1
  have hread : Plain.read? false (innermost a.cols + 1) ⟨a.rest, a.place idle⟩ =
      some (String.ofList word, after) := by
    rw [hrest]
    cases hstops with
    | key hgap => exact Plain.read?_key hword hinner hgap
    | line hfollows => exact Plain.read?_line hword hinner hfollows.ends
  exact plainScalar?_scanner hread

/-- A quoted scalar is read to its end; unlike a bare one it keeps the deeper indentation. -/
theorem quotedScalar?_quoted (a : Spot) (idle : Idle) {cs tail : List Char} {after : Cursor}
    (hrest : a.rest = '"' :: (cs.flatMap quotedChar ++ ['"']) ++ tail)
    (hstops : Stops a.cols
      ((a.place idle).within ('"' :: (cs.flatMap quotedChar ++ ['"'])).length) tail after)
    (hcol : indentIn a.hanging a.cols ≤ a.col) :
    (a.scanner idle).quotedScalar? false =
      some (noted (a.past after (.scalar false (String.ofList cs)))
        { idle.at after.place with adjacentValueAt := after.place.index } (a.candidate idle)) := by
  have hread {c : Char} {rest : List Char} (hc : c = ':' ∨ c = '\n') (htail : tail = c :: rest) :
      Quoted.read? false false (indentIn a.hanging a.cols) ⟨a.rest, a.place idle⟩ =
        some (String.ofList cs, ⟨tail, (a.place idle).within
          ('"' :: (cs.flatMap quotedChar ++ ['"'])).length⟩) := by
    rw [hrest, htail]
    simpa using Quoted.read?_quoted cs rest (p := a.place idle) hcol hc
  cases hstops with
  | key hgap => exact quotedScalar?_scanner (hread (.inl rfl) rfl) (skipGap?_solid rfl)
  | line hfollows =>
    exact quotedScalar?_scanner (hread (.inr rfl) rfl) (skipGap?_indented hfollows.1)

/-- A scalar is read to its end. -/
theorem take?_scalar (a : Spot) (idle : Idle) {word tail : List Char} {token : Token}
    {after : Cursor} (hword : Written word token) (hrest : a.rest = word ++ tail)
    (hstops : Stops a.cols ((a.place idle).within word.length) tail after)
    (hcol : indentIn a.hanging a.cols ≤ a.col) :
    ∃ hanging adjacentValueAt, (hanging = true → a.hanging = true) ∧
      (a.scanner idle).take? =
        some (.more (noted { a.past after token with hanging }
          { idle.at after.place with adjacentValueAt } (a.candidate idle))) := by
  obtain ⟨c, next, heq, hpercent, -, -, hmarker⟩ := hword.exists_head
  have htake : (a.scanner idle).take? = ((a.scanner idle).dispatch? c (next ++ tail)).map .more :=
    Scanner.take?_eq (by rw [← List.cons_append, ← heq]; exact hrest) hcol hpercent (hmarker tail)
  rw [htake]
  cases hword with
  | bare h =>
    obtain ⟨_, _, heq', hopens⟩ := h.opens
    cases heq.symm.trans heq'
    refine ⟨false, idle.adjacentValueAt, nofun, ?_⟩
    rw [dispatch?_of_opensPlain (hopens tail), plainScalar?_bare a idle h hrest hstops hcol]
    rfl
  | quoted cs =>
    cases heq
    refine ⟨a.hanging, after.place.index, id, ?_⟩
    have hdispatch : (a.scanner idle).dispatch? '"' (cs.flatMap quotedChar ++ ['"'] ++ tail) =
        (a.scanner idle).quotedScalar? false := rfl
    rw [hdispatch, quotedScalar?_quoted a idle hrest hstops hcol]
    rfl

variable {more : List Char}

/-- A scalar at the end of a line. -/
theorem leads_scalar {word : List Char} {token : Token} (hword : Written word token)
    (hfollows : Follows cols count more) (hcol : innermost cols < col) :
    Leads ⟨word ++ (indented count ++ more), col, tokens, allowed, cols, hanging⟩
      (leave ⟨more, count, token :: tokens, true, cols, false⟩ count) := by
  refine .of_step (by simp [leave, indented]; omega) fun idle => ?_
  obtain ⟨hanging', adjacentValueAt, -, htake⟩ := take?_scalar
    ⟨word ++ (indented count ++ more), col, tokens, allowed, cols, hanging⟩ idle hword rfl
    (.line hfollows) (indentIn_le hcol hanging)
  exact ⟨_, _, htake, (prepare?_line (skipGap?_solid hfollows.1) (candidate_deep hcol)
    hfollows.le_innermost).trans rfl⟩

/-- Indenting by one lets content hang deeper than its block. -/
theorem indentOne_noted :
    (a.noted idle key).indentOne = noted { a with hanging := true } idle key := by
  obtain ⟨rest, col, tokens, allowed, cols, hanging⟩ := a
  match hanging, cols with
  | false, [] => rfl
  | true, [] => rfl
  | true, innermost :: cols => rfl
  | false, innermost :: cols => rfl

/-- In a flow collection behind its opening. -/
def inFlow (mapping : Bool) (a : Spot) (idle : Idle) (key : KeyCandidate) : Scanner :=
  { a.noted idle key with
    keyAllowed := true
    keys := [KeyCandidate.none, key]
    flowDepth := 1
    inFlowMapping := mapping || idle.inFlowMapping
    pairs := if mapping then [] else [false] }

/-- What opens a flow collection. -/
def flowOpening (mapping : Bool) : Char × Token :=
  if mapping then ('\x7b', .flowMapping) else ('[', .flowSequence)

/-- What closes a flow collection. -/
def flowClosing (mapping : Bool) : Char × Token :=
  if mapping then ('\x7d', .flowMappingEnd) else (']', .flowSequenceEnd)

/-- The opening of a flow collection leads into it. -/
theorem take?_openFlow (mapping : Bool)
    (hrest : a.rest = (flowOpening mapping).1 :: (flowClosing mapping).1 :: rest)
    (hcol : indentIn a.hanging a.cols ≤ a.col) :
    (a.scanner idle).take? =
      some (.more (inFlow mapping
        { a with
          rest := (flowClosing mapping).1 :: rest
          col := a.col + 1
          tokens := (flowOpening mapping).2 :: a.tokens
          hanging := true }
        { idle with index := idle.index + 1, fresh := false } (a.candidate idle))) := by
  obtain ⟨_, col, tokens, allowed, cols, hanging⟩ := a
  cases hrest
  refine (Scanner.take?_eq rfl hcol ?_ ?_).trans ?_
  · cases mapping <;> decide
  · cases mapping <;> rfl
  · have hdispatch (s : Scanner) (next : List Char) :
        s.dispatch? (flowOpening mapping).1 next = s.openFlow? mapping := by
      cases mapping <;> rfl
    rw [hdispatch]
    unfold Scanner.openFlow?
    rw [noteKey_scanner, indentOne_noted]
    cases mapping <;> rfl

/-- The closing of a flow collection at the end of its line leads out of it. -/
theorem take?_closeFlow (mapping : Bool) (hrest : a.rest = (flowClosing mapping).1 :: '\n' :: rest)
    (hcol : indentIn a.hanging a.cols ≤ a.col) :
    (inFlow mapping a idle key).take? =
      some (.more (noted
        { a with
          rest := '\n' :: rest
          col := a.col + 1
          tokens := (flowClosing mapping).2 :: a.tokens
          allowed := false }
        { idle with
          index := idle.index + 1
          fresh := false
          inFlowMapping := mapping || idle.inFlowMapping } key)) := by
  obtain ⟨_, col, tokens, allowed, cols, hanging⟩ := a
  cases hrest
  refine (Scanner.take?_eq rfl hcol ?_ ?_).trans ?_
  · cases mapping <;> decide
  · cases mapping <;> rfl
  · cases mapping <;> rfl

/-- In a flow collection the scan stays at something solid. -/
theorem prepare?_inFlow {mapping : Bool} (h : isSolid a.rest = true) :
    (a.inFlow mapping idle key).prepare? = some (a.inFlow mapping idle key) := by
  have hskip : (a.inFlow mapping idle key).skipGap? = some (a.inFlow mapping idle key) := by
    have hskip : (a.inFlow mapping idle key).skipGap? =
        (skipGap ⟨indentIn a.hanging a.cols, !(indentsIn a.hanging a.cols).isEmpty, true⟩ .blanks
          true a.rest (a.place idle)).map fun found =>
            { a.inFlow mapping idle key with cursor := found.1, keyAllowed := found.2 } := rfl
    rw [hskip, skipGap_solid h]
    rfl
  have hdrop : (a.inFlow mapping idle key).dropStaleKeys? = some (a.inFlow mapping idle key) := by
    have hstale (key' : KeyCandidate) : (a.inFlow mapping idle key).isStale key' = false :=
      congrArg (· && _) (Bool.and_false key'.possible)
    unfold Scanner.dropStaleKeys?
    simp [hstale]
  unfold Scanner.prepare?
  rw [hskip, Option.bind_eq_bind, Option.bind_some, hdrop]
  rfl

/-- An empty flow collection at the end of a line. -/
theorem leads_emptyFlow (mapping : Bool) (hfollows : Follows cols count more)
    (hcol : innermost cols < col) :
    Leads
      ⟨(flowOpening mapping).1 :: (flowClosing mapping).1 :: (indented count ++ more), col, tokens,
        allowed, cols, hanging⟩
      (leave ⟨more, count, (flowClosing mapping).2 :: (flowOpening mapping).2 :: tokens, true, cols,
        false⟩ count) := by
  refine .of_steps (by simp [leave, indented]; omega) fun idle => ?_
  have hclosing : indentIn true cols ≤ (col + 1 : Nat) :=
    indentIn_le (Int.lt_add_one_of_le (Int.le_of_lt hcol)) _
  have hsolid : isSolid ((flowClosing mapping).1 :: (indented count ++ more)) = true := by
    cases mapping <;> rfl
  refine ⟨_, _, _, _, take?_openFlow mapping rfl (indentIn_le hcol _), prepare?_inFlow hsolid,
    take?_closeFlow mapping rfl hclosing,
    (prepare?_line (skipGap?_indented hfollows.1) ?_ hfollows.le_innermost).trans rfl⟩
  exact candidate_deep hcol

end ComposeCluster.Yaml.Spot
