import ComposeCluster.Yaml.Token
import ComposeCluster.Proofs.Yaml.Plain

/-!
# The scan between two tokens

`Scanner.resume?` is the run of the scanner from a place where it stands at its next token. In block
style such a place is a `Spot`, which has what later steps depend on; the rest is only carried along
(`Idle`). One spot `Leads` to another if the scan goes on from it to the other, and a spot `Fails`
if the scan ends with an error. Where the text decides between the two, `Reaches` joins them under
the condition on the text, so that scans can be put together (`Reaches.trans`) before the condition
is known.

Behind a token the scan goes on on the same line, or a new line closes the blocks that it is not
indented for (`leave`): `prepare?_stay` and `prepare?_line` say at which spot it stands then.
-/

set_option autoImplicit false

namespace ComposeCluster.Yaml

namespace Scanner

/-- A scan that stands at its next token: past the gap before it, without candidates that lie too
far back, and out of the blocks that end here. -/
def prepare? (s : Scanner) : Option Scanner := do
  let s ← s.skipGap?
  let s ← s.dropStaleKeys?
  return s.unwind s.place.col

/-- The token at which a scan stands. -/
def take? (s : Scanner) : Option Progress :=
  match s.rest with
  | [] => s.finish?.map .done
  | c :: next =>
    if (s.place.col : Int) < s.indent then none
    else if s.place.col = 0 ∧ c = '%' then s.directive?.map .more
    else if s.place.col = 0 ∧ documentStartAhead s.rest then s.documentStart?.map .more
    else if s.place.col = 0 ∧ documentEndAhead s.rest then s.documentEnd?.map .more
    else (s.dispatch? c next).map .more

/-- Where neither a directive nor a marker stands. -/
theorem take?_eq {s : Scanner} {c : Char} {next : List Char} (hrest : s.rest = c :: next)
    (hcol : s.indent ≤ s.place.col) (hpercent : c ≠ '%')
    (hmarker : markerAhead (c :: next) = false) :
    s.take? = (s.dispatch? c next).map .more := by
  obtain ⟨hstart, hend⟩ := Bool.or_eq_false_iff.1 hmarker
  unfold take?
  rw [hrest]
  dsimp only
  rw [if_neg (Int.not_lt.2 hcol), if_neg (fun h => hpercent h.2), if_neg (by simp [hstart]),
    if_neg (by simp [hend])]

/-- A step of the scanner goes to the next token and takes it. -/
theorem step?_eq (s : Scanner) : s.step? = s.prepare?.bind take? := by
  unfold step? prepare?
  cases s.skipGap? with
  | none => rfl
  | some s =>
    cases h : s.dropStaleKeys? with
    | none => simp [h]
    | some s =>
      simp only [Option.bind_eq_bind, Option.bind_some, h, Option.pure_def]
      rfl

/-- The rest of a run that stands at its next token. -/
def resume? : Nat → Scanner → Option (List Token)
  | 0, _ => none
  | fuel + 1, s =>
    match s.take? with
    | none => none
    | some (.done tokens) => some tokens
    | some (.more s) => s.prepare?.bind (resume? fuel)

/-- A step that takes a token and finds the next one leaves the rest of the run. -/
theorem resume?_succ {s t u : Scanner} (htake : s.take? = some (.more t))
    (hprepare : t.prepare? = some u) (fuel : Nat) : resume? (fuel + 1) s = resume? fuel u := by
  rw [resume?, htake]
  simp only [hprepare, Option.bind_some]

/-- A run goes to the first token and is resumed there. -/
theorem run?_eq (fuel : Nat) (s : Scanner) : s.run? fuel = s.prepare?.bind (resume? fuel) := by
  induction fuel generalizing s with
  | zero => cases h : s.prepare? <;> simp [run?, resume?]
  | succ fuel ih =>
    rw [run?, step?_eq]
    cases s.prepare? with
    | none => rfl
    | some s =>
      simp only [Option.bind_some, resume?]
      cases s.take? with
      | none => rfl
      | some progress =>
        cases progress with
        | done tokens => rfl
        | more s => exact ih s

end Scanner

/-! ## Between two tokens -/

/-- The column of the innermost block, −1 outside of blocks. -/
def innermost : List Nat → Int
  | [] => -1
  | col :: _ => col

/-- What the scan keeps for the blocks at some columns, innermost first. -/
def frames : List Nat → List Indent
  | [] => []
  | _ :: cols => ⟨innermost cols, true⟩ :: frames cols

/-- The indentation in blocks at some columns. `hanging` tells that content of the innermost one
has to lie deeper than the block. -/
def indentIn (hanging : Bool) (cols : List Nat) : Int :=
  if hanging && !cols.isEmpty then innermost cols + 1 else innermost cols

/-- The enclosing indentations in blocks at some columns. -/
def indentsIn (hanging : Bool) (cols : List Nat) : List Indent :=
  if hanging && !cols.isEmpty then ⟨innermost cols, false⟩ :: frames cols else frames cols

/-- Content lies at least as deep as the innermost block. -/
theorem innermost_le_indentIn (hanging : Bool) (cols : List Nat) :
    innermost cols ≤ indentIn hanging cols := by
  unfold indentIn
  split <;> omega

/-- A column that is deeper than the innermost block is deep enough for its content. -/
theorem indentIn_le {cols : List Nat} {col : Nat} (hcol : innermost cols < col) (hanging : Bool) :
    indentIn hanging cols ≤ col := by
  unfold indentIn
  split <;> omega

/-- A place in block style between two tokens: what is ahead and at which column, the tokens so
far, last first, whether a key may begin, the columns of the open blocks, and whether content has
to lie deeper than the innermost. -/
structure Spot where
  rest : List Char
  col : Nat
  tokens : List Token
  allowed : Bool
  cols : List Nat
  hanging : Bool

/-- What the scan carries along. -/
structure Idle where
  index : Nat
  line : Nat
  fresh : Bool
  key : KeyCandidate
  inFlowMapping : Bool
  adjacentValueAt : Nat

/-- What is carried along at another place. -/
def Idle.at (idle : Idle) (p : Place) : Idle :=
  { idle with index := p.index, line := p.line, fresh := p.fresh }

namespace Spot

/-- The place in the text. -/
def place (a : Spot) (idle : Idle) : Place := ⟨idle.index, idle.line, a.col, idle.fresh⟩

/-- The scan at a spot, with a candidate for a key. -/
def noted (a : Spot) (idle : Idle) (key : KeyCandidate) : Scanner where
  cursor := ⟨a.rest, a.place idle⟩
  tokens := a.tokens
  tokenCount := a.tokens.length
  keyAllowed := a.allowed
  keys := [key]
  indent := indentIn a.hanging a.cols
  indents := indentsIn a.hanging a.cols
  flowDepth := 0
  inFlowMapping := idle.inFlowMapping
  pairs := []
  adjacentValueAt := idle.adjacentValueAt

/-- The scan at a spot; no key lies before it. -/
def scanner (a : Spot) (idle : Idle) : Scanner := a.noted idle { idle.key with possible := false }

variable {a b c : Spot}

/-- The scan goes on from one spot to another, in at most as many steps as there are characters
between them. -/
def Leads (a b : Spot) : Prop :=
  ∃ steps, steps + b.rest.length ≤ a.rest.length ∧
    ∀ idle, ∃ idle', ∀ fuel,
      Scanner.resume? (steps + fuel) (a.scanner idle) = Scanner.resume? fuel (b.scanner idle')

/-- The scan finds an error before it can run out of steps. -/
def Fails (a : Spot) : Prop :=
  ∃ steps, steps ≤ a.rest.length + 1 ∧
    ∀ idle fuel, Scanner.resume? (steps + fuel) (a.scanner idle) = none

/-- The scan reaches one spot from another exactly under a condition; otherwise it fails. -/
def Reaches (p : Prop) (a b : Spot) : Prop := (p → Leads a b) ∧ (¬p → Fails a)

/-- A spot leads to itself, in no steps. -/
theorem Leads.refl (a : Spot) : Leads a a :=
  ⟨0, by simp, fun idle => ⟨idle, fun fuel => by simp⟩⟩

/-- Spots may be passed one after another. -/
theorem Leads.trans (hab : Leads a b) (hbc : Leads b c) : Leads a c := by
  obtain ⟨first, hfirst, hab⟩ := hab
  obtain ⟨second, hsecond, hbc⟩ := hbc
  refine ⟨first + second, by omega, fun idle => ?_⟩
  obtain ⟨idle', hab⟩ := hab idle
  obtain ⟨idle'', hbc⟩ := hbc idle'
  exact ⟨idle'', fun fuel => by rw [Nat.add_assoc, hab, hbc]⟩

/-- A spot fails if it leads to one that does. -/
theorem Leads.fails (hab : Leads a b) (hb : Fails b) : Fails a := by
  obtain ⟨first, hfirst, hab⟩ := hab
  obtain ⟨second, hsecond, hb⟩ := hb
  refine ⟨first + second, by omega, fun idle fuel => ?_⟩
  obtain ⟨idle', hab⟩ := hab idle
  rw [Nat.add_assoc, hab, hb]

/-- One step from spot to spot. -/
theorem Leads.of_step (hrest : b.rest.length + 1 ≤ a.rest.length)
    (h : ∀ idle, ∃ s idle', (a.scanner idle).take? = some (.more s) ∧
      s.prepare? = some (b.scanner idle')) : Leads a b := by
  refine ⟨1, by omega, fun idle => ?_⟩
  obtain ⟨s, idle', htake, hprepare⟩ := h idle
  exact ⟨idle', fun fuel => by rw [Nat.add_comm, Scanner.resume?_succ htake hprepare]⟩

/-- Two steps from spot to spot. -/
theorem Leads.of_steps (hrest : b.rest.length + 2 ≤ a.rest.length)
    (h : ∀ idle, ∃ s t u idle', (a.scanner idle).take? = some (.more s) ∧ s.prepare? = some t ∧
      t.take? = some (.more u) ∧ u.prepare? = some (b.scanner idle')) : Leads a b := by
  refine ⟨2, by omega, fun idle => ?_⟩
  obtain ⟨s, t, u, idle', hfirst, hprepare, hsecond, hprepare'⟩ := h idle
  exact ⟨idle', fun fuel => by
    rw [Nat.add_comm, Scanner.resume?_succ hfirst hprepare, Scanner.resume?_succ hsecond hprepare']⟩

/-- A spot that leads to another reaches it in any case. -/
theorem Leads.reaches (h : Leads a b) : Reaches True a b :=
  ⟨fun _ => h, fun hfalse => (hfalse trivial).elim⟩

/-- Where spots are reached one after another, the conditions are joined. -/
theorem Reaches.trans {p q : Prop} (hab : Reaches p a b) (hbc : Reaches q b c) :
    Reaches (p ∧ q) a c := by
  refine ⟨fun h => (hab.1 h.1).trans (hbc.1 h.2), fun h => ?_⟩
  by_cases hp : p
  · exact (hab.1 hp).fails (hbc.2 fun hq => h ⟨hp, hq⟩)
  · exact hab.2 hp

/-- A condition may be replaced with one that says the same. -/
theorem Reaches.congr {p q : Prop} (h : Reaches p a b) (hpq : p ↔ q) : Reaches q a b :=
  propext hpq ▸ h

/-- A spot that leads to another reaches what this one reaches, under the same condition. -/
theorem Leads.trans_reaches {q : Prop} (hab : Leads a b) (hbc : Reaches q b c) : Reaches q a c :=
  (hab.reaches.trans hbc).congr (iff_of_eq (true_and q))

/-! ### Parts of a step -/

variable {idle idle' : Idle} {key : KeyCandidate} {k : Int}

/-- Once more closing tokens for the blocks deeper than a column. -/
def closing (k : Int) : List Nat → List Token → List Token
  | [], tokens => tokens
  | col :: cols, tokens => if k < col then closing k cols (.blockEnd :: tokens) else tokens

/-- The blocks that a column leaves open. -/
def remaining (k : Int) : List Nat → List Nat
  | [] => []
  | col :: cols => if k < col then remaining k cols else col :: cols

/-- The spot after the blocks deeper than a column are closed. -/
def leave (a : Spot) (k : Int) : Spot :=
  { a with
    tokens := closing k a.cols a.tokens
    cols := remaining k a.cols
    hanging := false }

/-- Closing blocks takes their frames away and adds their closing tokens. -/
theorem closeBlocks_frames (cols : List Nat) (rest : List Char) (col : Nat) (allowed : Bool) :
    ∀ tokens : List Token,
      Scanner.closeBlocks k (frames cols)
          (noted ⟨rest, col, tokens, allowed, cols, false⟩ idle key) =
        (leave ⟨rest, col, tokens, allowed, cols, false⟩ k).noted idle key := by
  induction cols with
  | nil => exact fun _ => rfl
  | cons innermost cols ih =>
    intro tokens
    by_cases hk : k < innermost
    · have hclose : Scanner.closeBlocks k (frames (innermost :: cols))
          (noted ⟨rest, col, tokens, allowed, innermost :: cols, false⟩ idle key) =
          Scanner.closeBlocks k (frames cols)
            (noted ⟨rest, col, .blockEnd :: tokens, allowed, cols, false⟩ idle key) := if_pos hk
      rw [hclose, ih]
      simp [leave, closing, remaining, hk]
    · have hstay : Scanner.closeBlocks k (frames (innermost :: cols))
          (noted ⟨rest, col, tokens, allowed, innermost :: cols, false⟩ idle key) =
          noted ⟨rest, col, tokens, allowed, innermost :: cols, false⟩ idle key := if_neg hk
      rw [hstay]
      simp [leave, closing, remaining, hk]

/-- Going out to a column closes the blocks that are deeper than it. -/
theorem unwind_leave (hk : a.cols ≠ [] → k ≤ innermost a.cols) :
    (a.noted idle key).unwind k = (a.leave k).noted idle key := by
  obtain ⟨rest, col, tokens, allowed, cols, hanging⟩ := a
  match hanging, cols with
  | false, cols => exact closeBlocks_frames cols rest col allowed tokens
  | true, [] => rfl
  | true, innermost :: cols =>
    -- the deeper indentation is given up first, and no token tells of it
    have hk : k < (innermost : Int) + 1 := Int.lt_add_one_of_le (hk (List.cons_ne_nil _ _))
    have hclose : (noted ⟨rest, col, tokens, allowed, innermost :: cols, true⟩ idle key).unwind k =
        Scanner.closeBlocks k (frames (innermost :: cols))
          (noted ⟨rest, col, tokens, allowed, innermost :: cols, false⟩ idle key) := if_pos hk
    rw [hclose, closeBlocks_frames]
    rfl

/-- Going out to a column at which the innermost block still has content closes nothing. -/
theorem unwind_stay (hk : indentIn a.hanging a.cols ≤ k) :
    (a.noted idle key).unwind k = a.noted idle key := by
  obtain ⟨rest, col, tokens, allowed, cols, hanging⟩ := a
  match hanging, cols with
  | false, [] => rfl
  | true, [] => rfl
  | false, innermost :: cols => exact if_neg (Int.not_lt.2 hk)
  | true, innermost :: cols => exact if_neg (Int.not_lt.2 hk)

/-- There is no gap to skip in front of something solid. -/
theorem skipGap_solid {around : Surroundings} {allowed : Bool} {rest : List Char} {p : Place}
    (h : isSolid rest = true) :
    skipGap around .blanks allowed rest p = some (⟨rest, p⟩, allowed) := by
  cases rest with
  | nil => rfl
  | cons c rest =>
    obtain ⟨hspace, htab, hbreak, hcomment⟩ := not_gap_of_isSolid h
    simp [skipGap, isBlank, hspace, htab, hbreak, hcomment]

/-- Blanks are skipped one by one, along the line. -/
theorem skipGap_blanks {around : Surroundings} {allowed : Bool} {rest : List Char} (count : Nat) :
    ∀ p : Place,
      skipGap around .blanks allowed (List.replicate count ' ' ++ rest) p =
        skipGap around .blanks allowed rest
          { p with index := p.index + count, col := p.col + count } := by
  induction count with
  | zero => intro p; simp
  | succ count ih =>
    intro p
    have hstep : skipGap around .blanks allowed (' ' :: (List.replicate count ' ' ++ rest)) p =
        skipGap around .blanks allowed (List.replicate count ' ' ++ rest) p.blank := by
      simp [skipGap, isBlank]
    rw [List.replicate_succ, List.cons_append, hstep, ih]
    simp [Place.blank, Nat.add_assoc, Nat.add_comm 1]

variable {rest : List Char} {col count : Nat} {tokens : List Token} {allowed hanging : Bool}
  {cols : List Nat}

/-- At something solid the scan stays where it is. -/
theorem skipGap?_solid (h : isSolid a.rest = true) :
    (a.noted idle key).skipGap? = some (a.noted idle key) := by
  have hskip : (a.noted idle key).skipGap? =
      (skipGap ⟨indentIn a.hanging a.cols, !(indentsIn a.hanging a.cols).isEmpty, false⟩ .blanks
        a.allowed a.rest (a.place idle)).map fun found =>
          { a.noted idle key with cursor := found.1, keyAllowed := found.2 } := rfl
  rw [hskip, skipGap_solid h]
  rfl

/-- A line break and blanks are skipped; the scan is on the next line then, where a key may
begin. -/
theorem skipGap?_indented (h : isSolid rest = true) :
    (noted ⟨indented count ++ rest, col, tokens, allowed, cols, hanging⟩ idle key).skipGap? =
      some (noted ⟨rest, count, tokens, true, cols, hanging⟩
        { idle with
          index := idle.index + 1 + count
          line := idle.line + 1
          fresh := true } key) := by
  have hskip :
      (noted ⟨indented count ++ rest, col, tokens, allowed, cols, hanging⟩ idle key).skipGap? =
      (skipGap ⟨indentIn hanging cols, !(indentsIn hanging cols).isEmpty, false⟩ .blanks
        (allowed || true) (List.replicate count ' ' ++ rest)
        ⟨idle.index + 1, idle.line + 1, 0, true⟩).map fun found =>
          { noted ⟨indented count ++ rest, col, tokens, allowed, cols, hanging⟩ idle key with
            cursor := found.1
            keyAllowed := found.2 } := rfl
  rw [hskip, skipGap_blanks, skipGap_solid h, Bool.or_true, Nat.zero_add]
  rfl

/-- A single blank is skipped on the same line. -/
theorem skipGap?_blank (h : isSolid rest = true) :
    (noted ⟨' ' :: rest, col, tokens, allowed, cols, hanging⟩ idle key).skipGap? =
      some (noted ⟨rest, col + 1, tokens, allowed, cols, hanging⟩
        { idle with index := idle.index + 1 } key) := by
  have hskip : (noted ⟨' ' :: rest, col, tokens, allowed, cols, hanging⟩ idle key).skipGap? =
      (skipGap ⟨indentIn hanging cols, !(indentsIn hanging cols).isEmpty, false⟩ .blanks
        allowed rest ⟨idle.index + 1, idle.line, col + 1, idle.fresh⟩).map
          fun found =>
            { noted ⟨' ' :: rest, col, tokens, allowed, cols, hanging⟩ idle key with
              cursor := found.1
              keyAllowed := found.2 } := rfl
  rw [hskip, skipGap_solid h]
  rfl

/-- Whether a candidate lies too far back. -/
def isPast (idle : Idle) (key : KeyCandidate) : Bool :=
  key.possible && (key.place.line < idle.line || key.place.index + 1024 < idle.index)

/-- A candidate that is out of the question is not dropped again. -/
theorem dropKey?_noted (h : key.possible = false) :
    (a.noted idle key).dropKey? = some (a.noted idle key) := by
  obtain ⟨possible, required, tokenCount, place⟩ := key
  cases h
  rfl

/-- A candidate that lies too far back is given up, and the scan fails if it had to be a key. -/
theorem dropStaleKeys?_noted :
    (a.noted idle key).dropStaleKeys? =
      if isPast idle key && key.required then none
      else some (a.noted idle { key with possible := key.possible && !isPast idle key }) := by
  have hstale : (a.noted idle key).isStale key = isPast idle key :=
    congrArg (· && _) (Bool.and_true key.possible)
  have hdrop : (a.noted idle key).dropStaleKeys? =
      if [key].any fun key => (a.noted idle key).isStale key && key.required then none
      else some (a.noted idle
        { key with possible := key.possible && !(a.noted idle key).isStale key }) := rfl
  rw [hdrop, List.any_cons, List.any_nil, Bool.or_false, hstale]

/-- Going to the next token skips the gap, gives up a candidate that lies too far back, and leaves
the blocks that end there. -/
theorem prepare?_noted (hskip : (a.noted idle key).skipGap? = some (b.noted idle' key)) :
    (a.noted idle key).prepare? =
      if isPast idle' key && key.required then none
      else some ((b.noted idle' { key with possible := key.possible && !isPast idle' key }).unwind
        b.col) := by
  unfold Scanner.prepare?
  rw [hskip]
  simp only [Option.bind_eq_bind, Option.bind_some, dropStaleKeys?_noted]
  split <;> rfl

/-- Where no key is expected and no block ends. -/
theorem prepare?_stay (hskip : (a.noted idle key).skipGap? = some (b.noted idle' key))
    (hkey : key.possible = false) (hcol : indentIn b.hanging b.cols ≤ b.col) :
    (a.noted idle key).prepare? = some (b.scanner { idle' with key := key }) := by
  have hpast : isPast idle' key = false := by simp [isPast, hkey]
  rw [prepare?_noted hskip, unwind_stay hcol, hpast, hkey]
  rfl

/-- On the next line the candidates are none any more, and blocks may end. -/
theorem prepare?_line
    (hskip : (a.noted idle key).skipGap? = some (b.noted idle' key))
    (hkey : key.possible = true → key.place.line < idle'.line ∧ key.required = false)
    (hcol : b.cols ≠ [] → (b.col : Int) ≤ innermost b.cols) :
    (a.noted idle key).prepare? = some ((b.leave b.col).scanner { idle' with key := key }) := by
  rw [prepare?_noted hskip, unwind_leave hcol]
  have hpast : (isPast idle' key && key.required) = false ∧
      (key.possible && !isPast idle' key) = false := by
    cases hpossible : key.possible with
    | false => simp [isPast, hpossible]
    | true =>
      obtain ⟨hline, hrequired⟩ := hkey hpossible
      simp [isPast, hpossible, hline, hrequired]
  rw [hpast.1, hpast.2]
  rfl

end Spot

end ComposeCluster.Yaml
