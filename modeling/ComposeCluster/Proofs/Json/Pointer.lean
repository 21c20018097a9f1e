import ComposeCluster.Json.Pointer
import ComposeCluster.Proofs.Text.Cut

/-!
# Pointers as text

A token is written in two rounds: every tilde becomes `~0`, and after that every slash becomes `~1`
(`escape_eq_rounds`). The second round leaves the tildes of the first one alone, so the result has
no slash in it, and behind each of its tildes stands one of the two digits (`Escaped`). It is read
in the opposite order, first every `~1` and then every `~0`, which on any text is the same as
reading it once from the left (`unescape_eq_rounds`), and gives the token back (`unescape_escape`).
So pointers that are written as text are read back as they were (`ofText?_render`).
-/

set_option autoImplicit false

namespace ComposeCluster.Pointer

/-- Characters with two of them for every occurrence of one. -/
def expand (c first second : Char) (cs : List Char) : List Char :=
  cs.flatMap fun d => if d = c then [first, second] else [d]

/-- Characters with one of them for every occurrence of two, from the left. -/
def contract (first second c : Char) : List Char → List Char
  | d :: e :: rest =>
    if d = first ∧ e = second then c :: contract first second c rest
    else d :: contract first second c (e :: rest)
  | cs => cs

/-- The token that is written, in two rounds: the slashes are put back before the tildes. -/
def unescapeInRounds (text : String) : String :=
  String.ofList (contract '~' '0' '~' (contract '~' '1' '/' text.toList))

/-- Characters of a written token: none is a slash, and tildes stand before a zero or a one. -/
inductive Escaped : List Char → Prop where
  | nil : Escaped []
  | plain {c : Char} {rest : List Char} (htilde : c ≠ '~') (hslash : c ≠ '/')
    (hrest : Escaped rest) : Escaped (c :: rest)
  | pair {digit : Char} {rest : List Char} (hdigit : digit = '0' ∨ digit = '1')
    (hrest : Escaped rest) : Escaped ('~' :: digit :: rest)

variable {cs front back : List Char}

/-! ## Writing tokens -/

/-- Escaping a character replaces the tilde, and then the slash. -/
theorem escapeChar_eq_rounds (c : Char) :
    escapeChar c = expand '/' '~' '1' (expand '~' '~' '0' [c]) := by
  by_cases htilde : c = '~'
  · subst htilde
    rfl
  · by_cases hslash : c = '/'
    · subst hslash
      rfl
    · simp [escapeChar, expand, htilde, hslash]

/-- The tildes are written first and the slashes after them. -/
theorem escape_eq_rounds (token : String) :
    escape token = String.ofList (expand '/' '~' '1' (expand '~' '~' '0' token.toList)) := by
  have hchars (cs : List Char) :
      cs.flatMap escapeChar = expand '/' '~' '1' (expand '~' '~' '0' cs) := by
    induction cs with
    | nil => rfl
    | cons c cs ih =>
      rw [List.flatMap_cons, ih, escapeChar_eq_rounds]
      simp only [expand, List.flatMap_cons, List.flatMap_append, List.flatMap_nil, List.append_nil]
  rw [escape, hchars]

/-- An escaped character may stand in front of escaped ones. -/
theorem escaped_escapeChar_append (c : Char) {rest : List Char} (hrest : Escaped rest) :
    Escaped (escapeChar c ++ rest) := by
  unfold escapeChar
  split
  case isTrue => exact .pair (.inl rfl) hrest
  case isFalse htilde =>
    split
    case isTrue => exact .pair (.inr rfl) hrest
    case isFalse hslash => exact .plain htilde hslash hrest

/-- A token is escaped as it is written. -/
theorem escaped_escape (token : String) : Escaped (escape token).toList := by
  rw [escape, String.toList_ofList]
  induction token.toList with
  | nil => exact .nil
  | cons c cs ih => exact escaped_escapeChar_append c ih

namespace Escaped

/-- There is no slash among escaped characters. -/
theorem slash_notMem (h : Escaped cs) : '/' ∉ cs := by
  induction h with
  | nil => exact List.not_mem_nil
  | plain _ hslash _ ih => simp [ih, Ne.symm hslash]
  | pair hdigit _ ih => rcases hdigit with rfl | rfl <;> simp [ih]

/-- Behind a tilde stands a zero or a one. -/
theorem digit_of_tilde (h : Escaped cs) (hcs : cs = front ++ '~' :: back) :
    back.head? = some '0' ∨ back.head? = some '1' := by
  induction h generalizing front with
  | nil => simp at hcs
  | plain htilde _ _ ih =>
    cases front with
    | nil => exact absurd (List.cons.inj hcs).1 htilde
    | cons first front => exact ih (List.cons.inj hcs).2
  | @pair digit rest hdigit _ ih =>
    cases front with
    | nil =>
      obtain rfl : digit :: rest = back := (List.cons.inj hcs).2
      exact hdigit.imp (congrArg some) (congrArg some)
    | cons first front =>
      have hrest : digit :: rest = front ++ '~' :: back := (List.cons.inj hcs).2
      cases front with
      | nil =>
        obtain rfl : digit = '~' := (List.cons.inj hrest).1
        exact absurd hdigit (by decide)
      | cons second front => exact ih (List.cons.inj hrest).2

end Escaped

/-! ## Reading tokens -/

/-- A character other than the tilde stands for itself. -/
theorem unescapeChars_cons {c : Char} (h : c ≠ '~') (rest : List Char) :
    unescapeChars (c :: rest) = c :: unescapeChars rest := by
  rw [unescapeChars]
  · exact fun _ htilde _ => h htilde
  · exact fun _ htilde _ => h htilde

/-- A token is read as it was. -/
theorem unescape_escape (token : String) : unescape (escape token) = token := by
  have hchars (cs : List Char) : unescapeChars (cs.flatMap escapeChar) = cs := by
    induction cs with
    | nil => rfl
    | cons c cs ih =>
      rw [List.flatMap_cons, escapeChar]
      split
      case isTrue htilde => simp [htilde, unescapeChars, ih]
      case isFalse htilde =>
        split
        case isTrue hslash => simp [hslash, unescapeChars, ih]
        case isFalse hslash => rw [List.singleton_append, unescapeChars_cons htilde, ih]
  rw [unescape, escape, String.toList_ofList, hchars, String.ofList_toList]

/-- Two characters that stand for one are replaced with it. -/
theorem contract_pair (first second c : Char) (rest : List Char) :
    contract first second c (first :: second :: rest) = c :: contract first second c rest := by
  rw [contract, if_pos ⟨rfl, rfl⟩]

/-- A character that does not begin such a pair stays. -/
theorem contract_cons {first second c d : Char} {rest : List Char}
    (h : d = first → rest.head? ≠ some second) :
    contract first second c (d :: rest) = d :: contract first second c rest := by
  cases rest with
  | nil => rfl
  | cons e rest =>
    rw [contract, if_neg]
    rintro ⟨hfirst, rfl⟩
    exact h hfirst rfl

/-- The first character stays, or is the one that was put in. -/
theorem head?_contract (first second c : Char) (cs : List Char) :
    (contract first second c cs).head? = cs.head? ∨
      (contract first second c cs).head? = some c := by
  fun_cases contract first second c cs with
  | case1 => exact .inr rfl
  | case2 => exact .inl rfl
  | case3 => exact .inl rfl

/-- Reading in one pass from the left is reading in two rounds, whatever the text. -/
theorem unescape_eq_rounds (text : String) : unescape text = unescapeInRounds text := by
  have hchars (cs : List Char) :
      unescapeChars cs = contract '~' '0' '~' (contract '~' '1' '/' cs) := by
    fun_induction unescapeChars cs with
    | case1 rest ih =>
      have hfirst : contract '~' '1' '/' ('~' :: '0' :: rest) =
          '~' :: '0' :: contract '~' '1' '/' rest := by
        rw [contract_cons (by simp), contract_cons (by simp)]
      rw [hfirst, contract_pair, ih]
    | case2 rest ih => rw [contract_pair, contract_cons (by simp), ih]
    | case3 c rest hzero hone ih =>
      -- a slash that the first round puts behind a tilde does not make a pair of the second one
      have hfirst : c = '~' → rest.head? ≠ some '1' := fun hc hhead => by
        obtain ⟨tail, htail⟩ := List.head?_eq_some_iff.1 hhead
        exact hone tail hc htail
      have hsecond : c = '~' → (contract '~' '1' '/' rest).head? ≠ some '0' := fun hc hhead => by
        rcases head?_contract '~' '1' '/' rest with hsame | hslash
        · obtain ⟨tail, htail⟩ := List.head?_eq_some_iff.1 (hsame.symm.trans hhead)
          exact hzero tail hc htail
        · rw [hslash] at hhead
          cases hhead
      rw [contract_cons hfirst, contract_cons hsecond, ih]
    | case4 => rfl
  rw [unescape, unescapeInRounds, hchars]

/-! ## Writing and reading pointers -/

/-- A pointer is written token by token, with a slash in front of each. -/
theorem render_cons (token : String) (pointer : Pointer) :
    render (token :: pointer) = "/" ++ escape token ++ render pointer := by
  rw [render, List.map_cons, String.join_cons]
  rfl

/-- Two pointers after each other are written after each other. -/
theorem render_append (front back : Pointer) :
    render (front ++ back) = render front ++ render back := by
  rw [render, List.map_append, String.join_append]
  rfl

/-- The pieces between the slashes are what stands in front and the written tokens. -/
theorem splitAll_render {start : String} (h : '/' ∉ start.toList) (pointer : Pointer) :
    Text.splitAll '/' (start ++ render pointer) = start :: pointer.map escape := by
  induction pointer generalizing start with
  | nil =>
    have hnone : start ++ render [] = start := String.append_empty
    rw [hnone, Text.splitAll_of_notMem h, List.map_nil]
  | cons token pointer ih =>
    have hcut : start ++ render (token :: pointer) =
        start ++ String.singleton '/' ++ (escape token ++ render pointer) := by
      rw [render_cons, String.append_assoc, String.append_assoc]
      rfl
    rw [hcut, Text.splitAll_append, Text.splitAll_of_notMem h,
      ih (escaped_escape token).slash_notMem]
    rfl

/-- A pointer that is written as text is read as it was. -/
theorem ofText?_render (pointer : Pointer) : ofText? pointer.render = some pointer := by
  have hpieces : Text.splitAll '/' ("" ++ render pointer) = "" :: pointer.map escape :=
    splitAll_render (by decide) pointer
  rw [String.empty_append] at hpieces
  have hid : unescape ∘ escape = id := funext unescape_escape
  have htokens : (pointer.map escape).map unescape = pointer := by
    rw [List.map_map, hid, List.map_id]
  simp only [ofText?, hpieces, htokens]

end ComposeCluster.Pointer
