import ComposeCluster.Proofs.Yaml.Leaf

/-!
# Scanning items and members

An entry of a block collection begins with a dash or with a key. It opens a block of its own where
it lies deeper than the innermost block, and goes on with that block where it stands at its column
(`Enters`). The dash is a step of its own (`leads_dash`). A key is read as a scalar that may turn
out to be one; at its colon the scan goes back to where the scalar began, unless that is more than
1024 characters away, and then the text is in error (`reaches_key`).
-/

set_option autoImplicit false

namespace ComposeCluster.Yaml.Spot

variable {a : Spot} {idle : Idle} {key : KeyCandidate} {rest : List Char} {col count : Nat}
  {tokens : List Token} {allowed hanging : Bool} {cols : List Nat}

/-- What a block entry at a column opens: a block of its own where it lies deeper than the
innermost one, nothing where it goes on with it. -/
inductive Enters (token : Token) (col : Nat) : List Nat → Bool → List Nat → List Token → Prop
  | deeper {cols : List Nat} {hanging : Bool} (h : innermost cols < col) :
    Enters token col cols hanging cols [token]
  | again {cols : List Nat} : Enters token col (col :: cols) false cols []

variable {below : List Nat} {opening last : List Token} {token : Token} {col' : Nat}

/-- Inserting before the tokens that were there first puts the new one between the two parts. -/
theorem insertIdx_append (last tokens : List Token) (token : Token) :
    (last ++ tokens).insertIdx last.length token = last ++ token :: tokens := by
  induction last with
  | nil => rfl
  | cons other last ih =>
    rw [List.cons_append, List.length_cons, List.insertIdx_succ_cons, ih, List.cons_append]

/-- A token is inserted before the last ones at a spot as it is in a list. -/
theorem insertAt_noted :
    (noted ⟨rest, col, last ++ tokens, allowed, cols, hanging⟩ idle key).insertAt tokens.length
        token =
      noted ⟨rest, col, last ++ token :: tokens, allowed, cols, hanging⟩ idle key := by
  have hinsert : (last ++ tokens).insertIdx ((last ++ tokens).length - tokens.length) token =
      last ++ token :: tokens := by
    rw [List.length_append, Nat.add_sub_cancel, insertIdx_append]
  have hlength : (last ++ tokens).length + 1 = (last ++ token :: tokens).length := by
    simp [Nat.add_assoc]
  unfold Scanner.insertAt noted
  dsimp only
  rw [hinsert, hlength]
  rfl

/-- A column deeper than the innermost block opens a block there. -/
theorem openBlock_deeper (h : innermost cols < col) :
    (noted ⟨rest, col', last ++ tokens, allowed, cols, false⟩ idle key).openBlock col
        tokens.length token =
      noted ⟨rest, col', last ++ token :: tokens, allowed, col :: cols, false⟩ idle key := by
  have hopen : (noted ⟨rest, col', last ++ tokens, allowed, cols, false⟩ idle key).openBlock col
        tokens.length token =
      if innermost cols < col then
        (noted ⟨rest, col', last ++ tokens, allowed, col :: cols, false⟩ idle key).insertAt
          tokens.length token
      else noted ⟨rest, col', last ++ tokens, allowed, cols, false⟩ idle key := by
    cases cols with
    | nil => rfl
    | cons innermost cols =>
      unfold Scanner.openBlock
      simp only [noted, Scanner.inFlow]
      simp [indentsIn, frames]
      rfl
  rw [hopen, if_pos h, insertAt_noted]

/-- Where a block is opened, it makes no difference whether content was hanging before. -/
theorem openBlock_hanging (h : innermost cols < col) {count : Nat} :
    (noted ⟨rest, col', tokens, allowed, cols, true⟩ idle key).openBlock col count token =
      (noted ⟨rest, col', tokens, allowed, cols, false⟩ idle key).openBlock col count token := by
  cases cols with
  | nil => rfl
  | cons innermost cols =>
    have hle : (innermost : Int) + 1 ≤ col := h
    unfold Scanner.openBlock
    simp only [noted, Scanner.inFlow]
    simp [indentsIn, indentIn, frames, Yaml.innermost, hle]
    rfl

/-- A block entry at a column opens what it has to open there. -/
theorem openBlock_noted (last tokens : List Token)
    (h : Enters token col cols hanging below opening) :
    (noted ⟨rest, col', last ++ tokens, allowed, cols, hanging⟩ idle key).openBlock col
        tokens.length token =
      noted ⟨rest, col', last ++ (opening ++ tokens), allowed, col :: below, false⟩ idle key := by
  cases h with
  | again =>
    unfold Scanner.openBlock
    simp [noted, Scanner.inFlow, indentsIn, indentIn, frames, innermost]
  | deeper h =>
    cases hanging with
    | false => exact openBlock_deeper h
    | true => exact (openBlock_hanging h).trans (openBlock_deeper h)

/-- There is nothing to skip before something solid. -/
theorem skipToLineEnd_solid {tabs tab space : Bool} {p : Place} (h : isSolid rest = true) :
    skipToLineEnd tabs tab space rest p = some ⟨⟨rest, p⟩, tab, space⟩ := by
  cases rest with
  | nil => rfl
  | cons c rest =>
    obtain ⟨hspace, htab, hbreak, hcomment⟩ := not_gap_of_isSolid h
    simp [skipToLineEnd, hspace, htab, hcomment]

/-- A dash opens its block, skips the gap behind it, and is a token of its own. -/
theorem blockEntry?_eq {s t u : Scanner} {next : List Char} (hflow : s.inFlow = false)
    (hallowed : s.keyAllowed = true)
    (hopen : (s.advance 1).openBlock s.place.col (s.advance 1).tokenCount .blockSequence = t)
    (hrest : t.rest = ' ' :: next) (hnext : isSolid next = true)
    (hpast : t.goTo ⟨next, t.place.blank⟩ = u) :
    s.blockEntry? = (if next.head?.any isFlow then u.indentOne else u).dropKey?.map
      fun u => { u with keyAllowed := true }.push .blockEntry := by
  have hblank : skipToLineEnd true false false t.rest t.place =
      some ⟨⟨next, t.place.blank⟩, false, true⟩ := by
    rw [hrest, ← skipToLineEnd_solid hnext]
    rfl
  have hrest' : u.rest = next := by
    rw [← hpast]
    rfl
  have hstay : skipToLineEnd false false false next u.place = some ⟨u.cursor, false, false⟩ := by
    rw [← hrest']
    exact skipToLineEnd_solid (hrest'.symm ▸ hnext)
  have hgo : u.goTo u.cursor = u := rfl
  have hflowing : (next.head?.any fun c => c == '\n' || isFlow c) = next.head?.any isFlow := by
    cases next with
    | nil => rfl
    | cons c next =>
      obtain ⟨-, -, hbreak, -⟩ := not_gap_of_isSolid hnext
      simp [hbreak]
  unfold Scanner.blockEntry?
  rw [if_neg (by simp [hflow, hallowed])]
  simp only [hopen, hblank, hpast, hstay, hgo, hrest', hflowing, Option.bind_eq_bind,
    Option.bind_some, Bool.false_eq_true, false_and, if_false]
  exact Option.map_eq_bind.symm

/-- Indenting by one where a flow collection begins lets content hang exactly there. -/
theorem indentOne_if (flowing : Bool) :
    (if flowing = true then (noted ⟨rest, col, tokens, allowed, cols, false⟩ idle key).indentOne
      else noted ⟨rest, col, tokens, allowed, cols, false⟩ idle key) =
      noted ⟨rest, col, tokens, allowed, cols, flowing⟩ idle key := by
  cases flowing with
  | false => rfl
  | true => exact indentOne_noted

/-- The dash at a spot leads behind the gap after it, with the block of the dash open. -/
theorem blockEntry?_noted {next : List Char}
    (h : Enters .blockSequence col cols hanging below opening) (hnext : isSolid next = true)
    (hkey : key.possible = false) :
    Scanner.blockEntry? (noted ⟨'-' :: ' ' :: next, col, tokens, true, cols, hanging⟩ idle key) =
      some (noted
        ⟨next, col + 2, .blockEntry :: (opening ++ tokens), true, col :: below,
          next.head?.any isFlow⟩
        (idle.at ⟨idle.index + 2, idle.line, col + 2, false⟩) key) := by
  have hopen : ((noted ⟨'-' :: ' ' :: next, col, tokens, true, cols, hanging⟩ idle key).advance
      1).openBlock col tokens.length .blockSequence =
      noted ⟨' ' :: next, col + 1, opening ++ tokens, true, col :: below, false⟩
        (idle.at ⟨idle.index + 1, idle.line, col + 1, false⟩) key := by
    have hadvance :
        (noted ⟨'-' :: ' ' :: next, col, tokens, true, cols, hanging⟩ idle key).advance 1 =
        noted ⟨' ' :: next, col + 1, tokens, true, cols, hanging⟩
          (idle.at ⟨idle.index + 1, idle.line, col + 1, false⟩) key := rfl
    rw [hadvance]
    exact openBlock_noted [] tokens h
  have hpast : (noted ⟨' ' :: next, col + 1, opening ++ tokens, true, col :: below, false⟩
        (idle.at ⟨idle.index + 1, idle.line, col + 1, false⟩) key).goTo
          ⟨next, ⟨idle.index + 2, idle.line, col + 2, false⟩⟩ =
      noted ⟨next, col + 2, opening ++ tokens, true, col :: below, false⟩
        (idle.at ⟨idle.index + 2, idle.line, col + 2, false⟩) key := rfl
  rw [blockEntry?_eq rfl rfl hopen rfl hnext hpast, indentOne_if, dropKey?_noted hkey]
  rfl

/-- The column of a block entry is not left of the blocks around it. -/
theorem Enters.indentIn_le (h : Enters token col cols hanging below opening) :
    indentIn hanging cols ≤ col := by
  cases h with
  | deeper h => exact Yaml.indentIn_le h hanging
  | again => exact Int.le_refl _

/-- The dash of an item. -/
theorem leads_dash (tokens : List Token) {next : List Char}
    (h : Enters .blockSequence col cols hanging below opening)
    (hnext : isSolid next = true) :
    Leads ⟨'-' :: ' ' :: next, col, tokens, true, cols, hanging⟩
      ⟨next, col + 2, .blockEntry :: (opening ++ tokens), true, col :: below,
        next.head?.any isFlow⟩ := by
  refine .of_step (by simp) fun idle => ?_
  have htake : (scanner ⟨'-' :: ' ' :: next, col, tokens, true, cols, hanging⟩ idle).take? =
      some (.more (scanner ⟨next, col + 2, .blockEntry :: (opening ++ tokens), true, col :: below,
        next.head?.any isFlow⟩ (idle.at ⟨idle.index + 2, idle.line, col + 2, false⟩))) := by
    refine (Scanner.take?_eq rfl h.indentIn_le (by decide) rfl).trans ?_
    exact congrArg (Option.map _) (blockEntry?_noted h hnext rfl)
  refine ⟨_, _, htake, prepare?_stay (skipGap?_solid hnext) rfl (indentIn_le ?_ _)⟩
  exact Int.ofNat_lt.2 (by simp)

/-- The colon behind a candidate outside of flow collections. -/
theorem value?_eq {s t u : Scanner} (hpairs : s.pairs = [])
    (ht : (s.advance 1).skipValueTabs? = some t) (hkeys : t.keys = [key])
    (hpossible : key.possible = true)
    (hu : ((t.insertAt key.tokenCount .key).openBlock key.place.col key.tokenCount
      .blockMapping).indentOne = u) :
    s.value? =
      some ({ u with
        keys := { key with possible := false } :: u.keys.drop 1
        keyAllowed := false }.push .value) := by
  unfold Scanner.value?
  simp [hpairs, ht, hkeys, hpossible, hu]

/-- A colon without a candidate is an error where no key may begin. -/
theorem value?_eq_none {s t : Scanner} (hpairs : s.pairs = [])
    (ht : (s.advance 1).skipValueTabs? = some t) (hkeys : t.keys = [key])
    (hpossible : key.possible = false) (hflow : t.inFlow = false)
    (hallowed : t.keyAllowed = false) : s.value? = none := by
  unfold Scanner.value?
  simp [hpairs, ht, hkeys, hpossible, hflow, hallowed]

variable {tail : List Char}

/-- No tabs have to be skipped behind a colon that none follow. -/
theorem skipValueTabs?_noted (htab : tail.head? ≠ some '\t') :
    ((noted ⟨':' :: tail, col, tokens, allowed, cols, hanging⟩ idle key).advance 1).skipValueTabs? =
      some (noted ⟨tail, col + 1, tokens, allowed, cols, hanging⟩
        (idle.at ⟨idle.index + 1, idle.line, col + 1, false⟩) key) := if_neg htab

/-- At a colon in front of a gap the scan takes a value mark. -/
theorem take?_colon (hgap : gapAhead tail = true) (hcol : indentIn hanging cols ≤ col) :
    (noted ⟨':' :: tail, col, tokens, allowed, cols, hanging⟩ idle key).take? =
      (noted ⟨':' :: tail, col, tokens, allowed, cols, hanging⟩ idle key).value?.map .more := by
  refine (Scanner.take?_eq rfl hcol (by decide) rfl).trans (congrArg (Option.map _) ?_)
  have hdispatch (s : Scanner) : s.dispatch? ':' tail =
      if gapAhead tail ||
        (s.inFlow && (tail.head?.any isFlow || s.place.index == s.adjacentValueAt))
      then s.value? else s.plainScalar? := rfl
  rw [hdispatch, hgap, Bool.true_or, if_pos rfl]

/-- With a candidate at its column, the colon puts a key in front of the candidate's token and a
value mark behind it. -/
theorem take?_value (hgap : gapAhead tail = true) (hcol : indentIn hanging cols ≤ col')
    (htab : tail.head? ≠ some '\t')
    (hpossible : key.possible = true) (hcount : key.tokenCount = tokens.length)
    (hplace : key.place.col = col) (h : Enters .blockMapping col cols hanging below opening) :
    (noted ⟨':' :: tail, col', token :: tokens, allowed, cols, hanging⟩ idle key).take? =
      some (.more (noted
        ⟨tail, col' + 1, .value :: token :: .key :: (opening ++ tokens), false, col :: below, true⟩
        (idle.at ⟨idle.index + 1, idle.line, col' + 1, false⟩)
        { key with possible := false })) := by
  have hblock : (((noted ⟨tail, col' + 1, [token] ++ tokens, allowed, cols, hanging⟩
        (idle.at ⟨idle.index + 1, idle.line, col' + 1, false⟩) key).insertAt key.tokenCount
          .key).openBlock key.place.col key.tokenCount .blockMapping).indentOne =
      noted ⟨tail, col' + 1, [token, .key] ++ (opening ++ tokens), allowed, col :: below, true⟩
        (idle.at ⟨idle.index + 1, idle.line, col' + 1, false⟩) key := by
    rw [hcount, hplace, insertAt_noted]
    exact (congrArg Scanner.indentOne (openBlock_noted [token, .key] tokens h)).trans
      indentOne_noted
  rw [take?_colon hgap hcol]
  exact congrArg (Option.map Scanner.Progress.more)
    (value?_eq rfl (skipValueTabs?_noted htab) rfl hpossible hblock)

/-- What may stand between the colon and its value: a blank, or a new line. -/
inductive Leading : List Char → Bool → Nat → Nat → Prop
  | blank (col : Nat) : Leading [' '] false col (col + 1)
  | line (col count : Nat) : Leading (indented count) true col count

/-- What stands in front of a value is a gap for the colon. -/
theorem Leading.gapAhead {gap : List Char} (h : Leading gap allowed col col')
    (more : List Char) : Yaml.gapAhead (gap ++ more) = true := by
  cases h <;> rfl

/-- What stands in front of a value does not begin with a tab. -/
theorem Leading.no_tab {gap : List Char} (h : Leading gap allowed col col') (more : List Char) :
    (gap ++ more).head? ≠ some '\t' := by
  cases h <;> simp [indented]

/-- Behind a key the scan goes over the gap and stands at the value. -/
theorem Leading.prepare? {gap more : List Char} (hgap : Leading gap allowed col col')
    (hmore : isSolid more = true) (hcol : indentIn hanging cols ≤ col') (idle : Idle)
    (key : KeyCandidate) :
    ∃ idle', (noted ⟨gap ++ more, col, tokens, false, cols, hanging⟩ idle
        { key with possible := false }).prepare? =
      some (scanner ⟨more, col', tokens, allowed, cols, hanging⟩ idle') := by
  cases hgap with
  | blank => exact ⟨_, prepare?_stay (skipGap?_blank hmore) rfl hcol⟩
  | line => exact ⟨_, prepare?_stay (skipGap?_indented hmore) rfl hcol⟩

/-- Content that need not lie deeper enters no less. -/
theorem Enters.of_imp {hanging' : Bool} (h : Enters token col cols hanging below opening)
    (himp : hanging' = true → hanging = true) :
    Enters token col cols hanging' below opening := by
  cases h with
  | deeper h => exact .deeper h
  | again =>
    cases hanging' with
    | false => exact .again
    | true => cases himp rfl

/-- A candidate lies too far back once the scan is more than 1024 characters behind it. -/
theorem isPast_candidate (hallowed : a.allowed = true) (count : Nat) (adjacentValueAt : Nat) :
    isPast { idle.at ((a.place idle).within count) with adjacentValueAt } (a.candidate idle) =
      decide (1024 < count) := by
  have hcandidate : a.candidate idle =
      ⟨true, (a.candidate idle).required, a.tokens.length, a.place idle⟩ := by
    simp [candidate, hallowed]
  rw [hcandidate]
  simp [isPast, Idle.at, Place.within, place]

/-- A key up to its colon. -/
theorem take?_key (tokens : List Token) {word : List Char} (hword : Written word token)
    (hgap : gapAhead tail = true) (h : Enters .blockMapping col cols hanging below opening)
    (idle : Idle) :
    ∃ hanging' idle' key,
      Enters .blockMapping col cols hanging' below opening ∧
      (key.possible = true ∧ key.tokenCount = tokens.length ∧ key.place.col = col) ∧
      isPast idle' key = decide (1024 < word.length) ∧
      (scanner ⟨word ++ ':' :: tail, col, tokens, true, cols, hanging⟩ idle).take? =
        some (.more (noted
          ⟨':' :: tail, col + word.length, token :: tokens, false, cols, hanging'⟩ idle' key)) := by
  obtain ⟨hanging', adjacentValueAt, himp, htake⟩ := take?_scalar
    ⟨word ++ ':' :: tail, col, tokens, true, cols, hanging⟩ idle hword rfl (.key hgap)
    h.indentIn_le
  exact ⟨hanging', _, _, h.of_imp himp, ⟨rfl, rfl, rfl⟩,
    isPast_candidate rfl word.length adjacentValueAt, htake⟩

/-- A key that is short enough, with the gap before its value. -/
theorem leads_key {word gap more : List Char} (hword : Written word token)
    (h : Enters .blockMapping col cols hanging below opening)
    (hgap : Leading gap allowed (col + word.length + 1) col') (hcol : col < col')
    (hmore : isSolid more = true) (hlength : word.length ≤ 1024) :
    Leads ⟨word ++ ':' :: (gap ++ more), col, tokens, true, cols, hanging⟩
      ⟨more, col', .value :: token :: .key :: (opening ++ tokens), allowed, col :: below,
        true⟩ := by
  have hgapAhead : gapAhead (gap ++ more) = true := hgap.gapAhead more
  have htab : (gap ++ more).head? ≠ some '\t' := hgap.no_tab more
  have hrest : more.length + 2 ≤ (word ++ ':' :: (gap ++ more)).length := by
    obtain ⟨c, next, rfl, -⟩ := hword.exists_head
    simp
    omega
  refine .of_steps hrest fun idle => ?_
  obtain ⟨hanging', idle', key, h', ⟨hpossible, hcount, hplace⟩, hpast, htake⟩ :=
    take?_key tokens hword hgapAhead h idle
  have hindent : indentIn hanging' cols ≤ (col + word.length : Nat) := by
    have := h'.indentIn_le
    omega
  rw [decide_eq_false (Nat.not_lt.2 hlength)] at hpast
  -- the candidate is still one at the colon
  have hprepare :
      (noted ⟨':' :: (gap ++ more), col + word.length, token :: tokens, false, cols, hanging'⟩
        idle' key).prepare? =
      some (noted ⟨':' :: (gap ++ more), col + word.length, token :: tokens, false, cols, hanging'⟩
        idle' key) := by
    rw [prepare?_noted (skipGap?_solid rfl), hpast, Bool.false_and, if_neg Bool.false_ne_true,
      unwind_stay hindent, Bool.not_false, Bool.and_true]
  have hstay : indentIn true (col :: below) ≤ col' := Int.ofNat_le.2 hcol
  obtain ⟨idle'', hlast⟩ := hgap.prepare? hmore hstay
    (idle'.at ⟨idle'.index + 1, idle'.line, col + word.length + 1, false⟩) key
  exact ⟨_, _, _, idle'', htake, hprepare,
    take?_value hgapAhead hindent htab hpossible hcount hplace h', hlast⟩

/-- A key that is too long is not found again at its colon. -/
theorem fails_key {word : List Char} (hword : Written word token)
    (h : Enters .blockMapping col cols hanging below opening) (hgap : gapAhead tail = true)
    (htab : tail.head? ≠ some '\t') (hlength : 1024 < word.length) :
    Fails ⟨word ++ ':' :: tail, col, tokens, true, cols, hanging⟩ := by
  refine ⟨2, by simp; omega, fun idle fuel => ?_⟩
  obtain ⟨hanging', idle', key, h', -, hpast, htake⟩ :=
    take?_key tokens hword hgap h idle
  have hindent : indentIn hanging' cols ≤ (col + word.length : Nat) := by
    have := h'.indentIn_le
    omega
  rw [decide_eq_true hlength] at hpast
  have hcolon :
      (noted ⟨':' :: tail, col + word.length, token :: tokens, false, cols, hanging'⟩ idle'
        { key with possible := false }).take? = none := by
    rw [take?_colon hgap hindent, value?_eq_none rfl (skipValueTabs?_noted htab) rfl rfl rfl rfl]
    rfl
  rw [Nat.add_comm, Scanner.resume?, htake]
  dsimp only
  rw [prepare?_noted (skipGap?_solid rfl), hpast, Bool.true_and]
  -- a key that the block asks for is missed at once, another one at the colon
  by_cases hrequired : key.required = true
  · rw [if_pos hrequired]
    rfl
  · rw [if_neg hrequired, unwind_stay hindent, Bool.not_true, Bool.and_false, Option.bind_some,
      Scanner.resume?, hcolon]

/-- A key with the gap before its value. -/
theorem reaches_key (tokens : List Token) {word gap more : List Char} (hword : Written word token)
    (h : Enters .blockMapping col cols hanging below opening)
    (hgap : Leading gap allowed (col + word.length + 1) col') (hcol : col < col')
    (hmore : isSolid more = true) :
    Reaches (word.length ≤ 1024)
      ⟨word ++ ':' :: (gap ++ more), col, tokens, true, cols, hanging⟩
      ⟨more, col', .value :: token :: .key :: (opening ++ tokens), allowed, col :: below, true⟩ :=
  ⟨leads_key hword h hgap hcol hmore, fun hlength =>
    fails_key hword h (hgap.gapAhead more) (hgap.no_tab more) (Nat.lt_of_not_le hlength)⟩

end ComposeCluster.Yaml.Spot
