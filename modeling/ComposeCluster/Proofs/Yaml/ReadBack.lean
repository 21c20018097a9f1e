import ComposeCluster.Yaml.Value
import ComposeCluster.Proofs.Control
import ComposeCluster.Proofs.Json.Ordered
import ComposeCluster.Proofs.Yaml.Compose

/-!
# Reading back what was written

The nodes of a written value are read as that value (`ReadsBack`) exactly if the strings in it are
read as themselves: `TextStays` for a string as a value, `KeyStays` for a key. The strings that are
not are written bare, since no reader of numbers that `needsQuotes` asks knows them, but a bare
scalar may be a number after a mark as well (`Node.markedInt?`), or one of three words for an
infinity. With the length that a key may have this settles when the text of a value is read as the
value (`parse_render_iff_readable`).
-/

set_option autoImplicit false

namespace ComposeCluster.Yaml

/-! ## Strings -/

/-- The words for infinities that are written bare. -/
def bareInfinities : List String := ["+.inf", "+.Inf", "+.INF"]

/-- The string is read as itself as a key: quoted, or no number after a mark. -/
def KeyStays (key : String) : Prop := needsQuotes key = true ∨ Node.markedInt? key = none

/-- The string is read as itself as a value. -/
def TextStays (text : String) : Prop := KeyStays text ∧ text ∉ bareInfinities

/-- Each word for a float is written in quotes, but for three of those for infinity. -/
theorem floatWords_quoted :
    ∀ text ∈ Node.floatWords, needsQuotes text = true ∨ text ∈ bareInfinities := by
  decide +kernel

/-- The words for infinity that are written bare are words for floats and no numbers after a
mark. -/
theorem bareInfinities_subset : ∀ text ∈ bareInfinities, text ∈ Node.floatWords ∧
    needsQuotes text = false ∧ Node.markedInt? text = none := by
  decide +kernel

/-- What a bare string that is no number after a mark cannot be. -/
theorem plain_of_needsQuotes {text : String} (h : needsQuotes text = false) :
    reservedWords.contains text = false ∧ text ≠ "" ∧ Text.int64? 10 text.toList = none ∧
      FloatReading.read? text = none := by
  simp only [needsQuotes, Bool.or_eq_false_iff, readsAsNumber] at h
  obtain ⟨⟨⟨⟨⟨⟨⟨hempty, -⟩, -⟩, -⟩, -⟩, hwords⟩, -⟩, hint, hfloat⟩ := h
  refine ⟨hwords, ?_, ?_, ?_⟩
  · rintro rfl
    cases hempty
  · simpa using hint
  · simpa using hfloat

/-- The node of a string: text, unless the string is bare and a number after a mark or an
infinity. -/
theorem stringNode_eq (text : String) :
    stringNode text =
      if needsQuotes text then .str text
      else match Node.markedInt? text with
        | some value => .int value
        | none => if text ∈ bareInfinities then .real text else .str text := by
  cases hquotes : needsQuotes text with
  | true => simp [stringNode, hquotes, Node.ofScalar]
  | false =>
    obtain ⟨hwords, hempty, hint, hfloat⟩ := plain_of_needsQuotes hquotes
    have hword (word : String) (hmem : reservedWords.contains word = true) : text ≠ word := by
      rintro rfl
      rw [hwords] at hmem
      cases hmem
    have hreal : Node.isReal text = true ↔ text ∈ bareInfinities := by
      simp only [Node.isReal, hfloat, Option.isSome_none, Bool.or_false, List.contains_iff_mem]
      refine ⟨fun hmem => (floatWords_quoted text hmem).resolve_left ?_, fun hmem =>
        (bareInfinities_subset text hmem).1⟩
      rw [hquotes]
      exact Bool.false_ne_true
    simp only [stringNode, hquotes, Node.ofScalar, Node.ofPlain, hempty, hword "~" (by decide),
      hword "null" (by decide), hword "true" (by decide), hword "false" (by decide), hint, hreal]
    rfl

/-- The node of a string is read as this string exactly if the string stays itself. -/
theorem toJson_stringNode_iff {text : String} :
    (stringNode text).toJson = .ok (.str text) ↔ TextStays text := by
  rw [stringNode_eq, TextStays, KeyStays]
  by_cases hmem : text ∈ bareInfinities
  · obtain ⟨-, hquotes, hmarked⟩ := bareInfinities_subset text hmem
    have hread := (plain_of_needsQuotes hquotes).2.2.2
    simp [hquotes, hmarked, hmem, Node.toJson, Node.realValue, hread]
  · cases needsQuotes text with
    | true => simp [Node.toJson, hmem]
    | false => cases Node.markedInt? text <;> simp [Node.toJson, hmem]

/-! ## Keys -/

/-- What a key is read as. -/
def keyAfter (key : String) : String :=
  if needsQuotes key then key
  else match Node.markedInt? key with
    | some value => toString value
    | none => key

/-- As a key, the node of a string is read as what is made of the key. -/
theorem keyText_stringNode (key : String) : (stringNode key).keyText = .ok (keyAfter key) := by
  rw [stringNode_eq, keyAfter]
  cases needsQuotes key with
  | true => rfl
  | false =>
    cases Node.markedInt? key with
    | some value => rfl
    | none =>
      by_cases hmem : key ∈ bareInfinities <;> simp [hmem, Node.keyText]

/-- The node of a string is not one that could not be read. -/
theorem isBad_stringNode (key : String) : (stringNode key).isBad = false := by
  have hkey := keyText_stringNode key
  cases hnode : stringNode key with
  | bad =>
    rw [hnode] at hkey
    cases hkey
  | _ => rfl

/-- A text that is a number is written in quotes, so that it stays a text. -/
theorem needsQuotes_of_int {value : Int} (h : Text.fitsInt64 value = true) :
    needsQuotes (toString value) = true := by
  have hnumber : readsAsNumber (toString value) = true := by
    rw [readsAsNumber, Text.int64?_toString h, Option.isSome_some, Bool.true_or]
  simp only [needsQuotes, hnumber, Bool.or_true]

/-- A number after a mark fits into 64 bits. -/
theorem fitsInt64_of_markedInt? {text : String} {value : Int}
    (h : Node.markedInt? text = some value) : Text.fitsInt64 value = true := by
  rw [Node.markedInt?] at h
  split at h
  all_goals first | cases h | exact (Option.filter_eq_some_iff.1 h).2

/-- A key that was read is read as itself. -/
theorem keyStays_keyAfter (key : String) : KeyStays (keyAfter key) := by
  rw [keyAfter]
  cases hquotes : needsQuotes key with
  | true => exact .inl hquotes
  | false =>
    cases hmarked : Node.markedInt? key with
    | some value => exact .inl (needsQuotes_of_int (fitsInt64_of_markedInt? hmarked))
    | none => exact .inr hmarked

/-- A key is read as itself exactly if it is quoted or no number after a mark. -/
theorem keyAfter_eq_iff {key : String} : keyAfter key = key ↔ KeyStays key := by
  refine ⟨fun h => h ▸ keyStays_keyAfter key, ?_⟩
  rintro (h | h) <;> simp [keyAfter, h]

/-! ## Numbers and words -/

/-- A number as it is written has no mark in front. -/
theorem markedInt?_toString (value : Int) : Node.markedInt? (toString value) = none := by
  have hsolid : ∀ c ∈ (toString value).toList, c = '-' ∨ c.isDigit = true := by
    rw [Text.toList_toString]
    split
    · exact List.forall_mem_cons.2 ⟨.inl rfl, fun c hc => .inr (Text.isDigit_of_mem_digits c hc)⟩
    · exact fun c hc => .inr (Text.isDigit_of_mem_digits c hc)
  rw [Node.markedInt?]
  split
  case h_4 => rfl
  all_goals
    rename_i heq
    rw [heq] at hsolid
    revert hsolid
    simp [Char.isDigit]

/-- A number that is written bare is read as this number. -/
theorem ofPlain_int {value : Int} (h : Text.fitsInt64 value = true) :
    Node.ofPlain (toString value) = .int value := by
  have hread := Text.int64?_toString h
  have hword (word : String) (hnone : Text.int64? 10 word.toList = none) :
      toString value ≠ word := by
    rintro rfl
    rw [hread] at hnone
    cases hnone
  simp only [Node.ofPlain, markedInt?_toString, hword "" (by decide), hword "~" (by decide),
    hword "null" (by decide), hword "true" (by decide), hword "false" (by decide), hread, or_self,
    if_false]

/-! ## Mappings -/

/-- The nodes of keys and values, as pairs. -/
def memberEntries? (members : List (String × Json)) : Option (List (Node × Node)) :=
  members.mapM fun member => (nodeOf? member.2).map (stringNode member.1, ·)

/-- The entries of members are made one after another. -/
theorem memberEntries?_cons (member : String × Json) (rest : List (String × Json)) :
    memberEntries? (member :: rest) =
      (nodeOf? member.2).bind fun node =>
        (memberEntries? rest).map fun entries => (stringNode member.1, node) :: entries := by
  rw [memberEntries?, List.mapM_cons, ← memberEntries?]
  cases nodeOf? member.2 <;> cases memberEntries? rest <;> rfl

/-- Members have entries if the first has a node and the others have entries. -/
theorem memberEntries?_cons_eq_some {member : String × Json} {rest : List (String × Json)}
    {entries : List (Node × Node)} :
    memberEntries? (member :: rest) = some entries ↔
      ∃ node others, nodeOf? member.2 = some node ∧ memberEntries? rest = some others ∧
        entries = (stringNode member.1, node) :: others := by
  rw [memberEntries?_cons]
  cases nodeOf? member.2 <;> cases memberEntries? rest <;> simp [eq_comm]

/-- The nodes of members are their entries, keys and values in turn. -/
theorem memberNodes?_eq (members : List (String × Json)) :
    memberNodes? members =
      (memberEntries? members).map (·.flatMap fun entry => [entry.1, entry.2]) := by
  induction members with
  | nil => rfl
  | cons member rest ih =>
    rw [memberNodes?, ih, memberEntries?_cons]
    cases nodeOf? member.2 <;> cases memberEntries? rest <;> rfl

/-- Nodes that are the same as keys are read as the same text. -/
theorem same_keyText {a b : Node} (h : Node.same a b = true) : a.keyText = b.keyText := by
  cases a <;> cases b <;> simp_all [Node.same, Node.keyText]

/-- Pairs come out as they went in. -/
theorem pairUp?_flatMap {entries : List (Node × Node)}
    (hbad : ∀ entry ∈ entries, entry.1.isBad = false) :
    ∀ {done result : List (Node × Node)},
      Node.pairUp? done (entries.flatMap fun entry => [entry.1, entry.2]) = some result →
      result = done.reverse ++ entries := by
  induction entries with
  | nil =>
    intro done result h
    cases h
    simp
  | cons entry rest ih =>
    intro done result h
    obtain ⟨hkey, hrest⟩ := List.forall_mem_cons.1 hbad
    simp only [List.flatMap_cons, List.cons_append, List.nil_append, Node.pairUp?, hkey,
      Bool.false_eq_true, if_false] at h
    split at h
    · cases h
    · simpa using ih hrest h

/-- Keys of different texts are accepted. -/
theorem isSome_pairUp? {entries : List (Node × Node)}
    (hbad : ∀ entry ∈ entries, entry.1.isBad = false) :
    ∀ done : List (Node × Node),
      (done.reverse ++ entries).Pairwise (fun a b => a.1.keyText ≠ b.1.keyText) →
      (Node.pairUp? done (entries.flatMap fun entry => [entry.1, entry.2])).isSome = true := by
  induction entries with
  | nil => exact fun _ _ => rfl
  | cons entry rest ih =>
    intro done hdistinct
    obtain ⟨hkey, hrest⟩ := List.forall_mem_cons.1 hbad
    have hnew : (done.any fun other => Node.same entry.1 other.1) = false := by
      refine List.any_eq_false.2 fun other hother hsame => ?_
      exact (List.pairwise_append.1 hdistinct).2.2 other (List.mem_reverse.2 hother) entry
        List.mem_cons_self (same_keyText hsame).symm
    simp only [List.flatMap_cons, List.cons_append, List.nil_append, Node.pairUp?, hkey, hnew,
      Bool.false_eq_true, if_false]
    exact ih hrest _ (by simpa using hdistinct)

/-! ## Values -/

/-- The value is what its nodes are read as. -/
def ReadsBack (value : Json) : Prop :=
  ∃ node, nodeOf? value = some node ∧ node.toJson = .ok value

/-- A string is read back exactly if it stays itself. -/
theorem readsBack_str_iff {text : String} : ReadsBack (.str text) ↔ TextStays text := by
  rw [ReadsBack, nodeOf?, ← toJson_stringNode_iff]
  simp

/-- Items have nodes if each of them has one. -/
theorem itemNodes?_eq (items : List Json) : itemNodes? items = items.mapM nodeOf? := by
  induction items with
  | nil => rfl
  | cons item rest ih =>
    rw [itemNodes?, ih, List.mapM_cons]
    cases nodeOf? item <;> cases rest.mapM nodeOf? <;> rfl

/-- Items are read from their nodes one after another. -/
theorem itemsToJson_cons_eq_ok {node : Node} {nodes : List Node} {items : List Json} :
    Node.itemsToJson (node :: nodes) = .ok items ↔
      ∃ item others, node.toJson = .ok item ∧ Node.itemsToJson nodes = .ok others ∧
        items = item :: others := by
  rw [Node.itemsToJson]
  cases node.toJson <;> cases Node.itemsToJson nodes <;>
    simp [pure, Except.pure, bind, Except.bind, eq_comm]

/-- Members are read from their entries one after another, each key as its text. -/
theorem entriesToJson_cons_eq_ok {entry : Node × Node} {entries : List (Node × Node)}
    {members : List (String × Json)} :
    Node.entriesToJson (entry :: entries) = .ok members ↔
      ∃ key value others, entry.1.keyText = .ok key ∧ entry.2.toJson = .ok value ∧
        Node.entriesToJson entries = .ok others ∧ members = (key, value) :: others := by
  rw [Node.entriesToJson]
  cases entry.1.keyText <;> cases entry.2.toJson <;> cases Node.entriesToJson entries <;>
    simp [pure, Except.pure, bind, Except.bind, eq_comm]

/-- Items are read from nodes exactly if each is what its node is read as. -/
theorem itemsToJson_eq_ok {nodes : List Node} {items : List Json} :
    Node.itemsToJson nodes = .ok items ↔ nodes.map Node.toJson = items.map .ok := by
  induction nodes generalizing items with
  | nil =>
    rw [Node.itemsToJson]
    cases items <;> simp
  | cons node rest ih =>
    rw [itemsToJson_cons_eq_ok]
    constructor
    · rintro ⟨item, others, hitem, hothers, rfl⟩
      rw [List.map_cons, List.map_cons, hitem, ih.1 hothers]
    · intro h
      obtain ⟨item, others, rfl, hitem, hothers⟩ := List.map_eq_cons_iff.1 h.symm
      exact ⟨item, others, hitem.symm, ih.2 hothers.symm, rfl⟩

/-- Values one after another. -/
theorem mapM_readsBack_iff {items : List Json} :
    (∃ nodes, items.mapM nodeOf? = some nodes ∧ nodes.map Node.toJson = items.map .ok) ↔
      ∀ item ∈ items, ReadsBack item := by
  induction items with
  | nil => simp
  | cons item rest ih =>
    rw [List.forall_mem_cons, ← ih]
    constructor
    · rintro ⟨nodes, hnodes, hjson⟩
      rw [List.mapM_cons] at hnodes
      obtain ⟨node, hnode, hnodes⟩ := Option.bind_eq_some_iff.1 hnodes
      obtain ⟨others, hothers, heq⟩ := Option.bind_eq_some_iff.1 hnodes
      cases heq
      obtain ⟨hfirst, hrest⟩ := List.cons_eq_cons.1 hjson
      exact ⟨⟨node, hnode, hfirst⟩, others, hothers, hrest⟩
    · rintro ⟨⟨node, hnode, hfirst⟩, others, hothers, hrest⟩
      refine ⟨node :: others, ?_, ?_⟩
      · rw [List.mapM_cons, hnode, hothers]
        rfl
      · rw [List.map_cons, List.map_cons, hfirst, hrest]

/-- A list is read back exactly if each of its items is. -/
theorem readsBack_arr_iff {items : List Json} :
    ReadsBack (.arr items) ↔ ∀ item ∈ items, ReadsBack item := by
  rw [← mapM_readsBack_iff, ReadsBack, nodeOf?, itemNodes?_eq]
  constructor
  · rintro ⟨node, hnode, hjson⟩
    obtain ⟨nodes, hnodes, rfl⟩ := Option.map_eq_some_iff.1 hnode
    obtain ⟨_, hitems, heq⟩ := Except.map_eq_ok.1 hjson
    cases heq
    exact ⟨nodes, hnodes, itemsToJson_eq_ok.1 hitems⟩
  · rintro ⟨nodes, hnodes, hitems⟩
    exact ⟨.seq nodes, by rw [hnodes]; rfl,
      Except.map_eq_ok.2 ⟨items, itemsToJson_eq_ok.2 hitems, rfl⟩⟩

/-- Members are read back exactly if each key stays itself and each value is read back. -/
theorem memberEntries?_readsBack_iff {members : List (String × Json)} :
    (∃ entries, memberEntries? members = some entries ∧
      Node.entriesToJson entries = .ok members) ↔
      ∀ member ∈ members, KeyStays member.1 ∧ ReadsBack member.2 := by
  induction members with
  | nil => simp [memberEntries?, Node.entriesToJson]
  | cons member rest ih =>
    rw [List.forall_mem_cons, ← ih, ← keyAfter_eq_iff]
    constructor
    · rintro ⟨entries, hentries, hjson⟩
      obtain ⟨node, others, hnode, hothers, rfl⟩ := memberEntries?_cons_eq_some.1 hentries
      obtain ⟨key, value, later, hkey, hvalue, hrest, heq⟩ := entriesToJson_cons_eq_ok.1 hjson
      obtain ⟨rfl, rfl⟩ := List.cons_eq_cons.1 heq
      rw [keyText_stringNode] at hkey
      exact ⟨⟨Except.ok.inj hkey, node, hnode, hvalue⟩, others, hothers, hrest⟩
    · rintro ⟨⟨hkey, node, hnode, hvalue⟩, others, hothers, hrest⟩
      refine ⟨_, memberEntries?_cons_eq_some.2 ⟨node, others, hnode, hothers, rfl⟩,
        entriesToJson_cons_eq_ok.2 ⟨member.1, member.2, rest, ?_, hvalue, hrest, rfl⟩⟩
      rw [keyText_stringNode, hkey]

/-- The keys of entries are the nodes of the keys of the members. -/
theorem keys_of_memberEntries? {members : List (String × Json)} {entries : List (Node × Node)}
    (h : memberEntries? members = some entries) :
    entries.map (·.1) = members.map fun member => stringNode member.1 := by
  induction members generalizing entries with
  | nil =>
    cases h
    rfl
  | cons member rest ih =>
    obtain ⟨node, later, -, hlater, rfl⟩ := memberEntries?_cons_eq_some.1 h
    rw [List.map_cons, List.map_cons, ih hlater]

/-- The keys of members are what the keys of the entries are read as. -/
theorem keys_of_entriesToJson {entries : List (Node × Node)} {members : List (String × Json)}
    (h : Node.entriesToJson entries = .ok members) :
    (entries.map (·.1)).map Node.keyText = (members.map (·.1)).map .ok := by
  induction entries generalizing members with
  | nil =>
    cases h
    rfl
  | cons entry rest ih =>
    obtain ⟨key, value, others, hkey, -, hrest, rfl⟩ := entriesToJson_cons_eq_ok.1 h
    simp only [List.map_cons, hkey, ih hrest]

section Members

variable {members others : List (String × Json)} {entries : List (Node × Node)}

/-- Each key of a mapping is read as what is made of it. -/
theorem keys_after (hentries : memberEntries? members = some entries)
    (hjson : Node.entriesToJson entries = .ok others) :
    others.map (·.1) = members.map fun member => keyAfter member.1 := by
  have hkeys := keys_of_entriesToJson hjson
  rw [keys_of_memberEntries? hentries, List.map_map] at hkeys
  refine (List.map_inj_right fun _ _ => Except.ok.inj).1 (hkeys.symm.trans ?_)
  rw [List.map_map]
  exact List.map_congr_left fun member _ => keyText_stringNode member.1

/-- No key of an entry is one that could not be read. -/
theorem isBad_of_memberEntries? (hentries : memberEntries? members = some entries) :
    ∀ entry ∈ entries, entry.1.isBad = false := by
  intro entry hentry
  have hmem : entry.1 ∈ entries.map (·.1) := List.mem_map_of_mem hentry
  rw [keys_of_memberEntries? hentries] at hmem
  obtain ⟨member, -, hkey⟩ := List.mem_map.1 hmem
  rw [← hkey, isBad_stringNode]

/-- The keys of a mapping that is read as sorted members are told apart. -/
theorem pairwise_keyText (hsorted : SortedEntries members)
    (hjson : Node.entriesToJson entries = .ok members) :
    entries.Pairwise fun a b => a.1.keyText ≠ b.1.keyText := by
  have hdistinct : (members.map (·.1)).Pairwise (· ≠ ·) := List.pairwise_map.2 hsorted.distinct
  have hkeys : ((entries.map (·.1)).map Node.keyText).Pairwise (· ≠ ·) := by
    rw [keys_of_entriesToJson hjson]
    exact List.pairwise_map.2 (hdistinct.imp fun hne heq => hne (Except.ok.inj heq))
  rw [List.map_map] at hkeys
  exact List.pairwise_map.1 hkeys

/-- A mapping is read as itself exactly if its keys stay and its values are read as themselves. A
key that does not stay is not among the keys that are read, for those stay. -/
theorem readsBack_obj_iff (hsorted : SortedEntries members) :
    ReadsBack (.obj members) ↔ ∀ member ∈ members, KeyStays member.1 ∧ ReadsBack member.2 := by
  rw [← memberEntries?_readsBack_iff, ReadsBack, nodeOf?, memberNodes?_eq]
  constructor
  · rintro ⟨node, hnode, hjson⟩
    obtain ⟨nodes, hnodes, hpairs⟩ := Option.bind_eq_some_iff.1 hnode
    obtain ⟨entries, hentries, rfl⟩ := Option.map_eq_some_iff.1 hnodes
    obtain ⟨result, hresult, rfl⟩ := Option.map_eq_some_iff.1 hpairs
    obtain rfl : result = entries := pairUp?_flatMap (isBad_of_memberEntries? hentries) hresult
    obtain ⟨others, hothers, heq⟩ := Except.map_eq_ok.1 hjson
    obtain rfl : sortEntries others = members := Json.obj.inj heq
    -- the members that were read may be fewer than those written, but each has a key that was read
    have hkeys := keys_after hentries hothers
    have hstays : ∀ member ∈ sortEntries others, KeyStays member.1 := by
      intro member hmember
      have hmem : member.1 ∈ others.map (·.1) :=
        List.mem_map_of_mem (mem_of_mem_sortEntries hmember)
      rw [hkeys] at hmem
      obtain ⟨first, -, hkey⟩ := List.mem_map.1 hmem
      rw [← hkey]
      exact keyStays_keyAfter first.1
    have hsame : others.map (·.1) = (sortEntries others).map (·.1) := by
      rw [hkeys]
      exact List.map_congr_left fun member hmember => keyAfter_eq_iff.2 (hstays member hmember)
    rw [(hsorted.of_keys hsame).sortEntries_eq] at hentries ⊢
    exact ⟨_, hentries, hothers⟩
  · rintro ⟨entries, hentries, hjson⟩
    have hbad := isBad_of_memberEntries? hentries
    obtain ⟨result, hresult⟩ := Option.isSome_iff_exists.1
      (isSome_pairUp? hbad [] (pairwise_keyText hsorted hjson))
    obtain rfl : result = entries := pairUp?_flatMap hbad hresult
    refine ⟨.map result, by simp [hentries, hresult], Except.map_eq_ok.2 ⟨members, hjson, ?_⟩⟩
    rw [Json.object, hsorted.sortEntries_eq]

end Members

/-- A whole and ordered value is read back exactly if each string in it stays itself. -/
theorem readsBack_iff {value : Json} (hwhole : value.Whole) (hordered : value.Ordered) :
    ReadsBack value ↔ value.EveryText KeyStays TextStays := by
  induction hwhole with
  | null => exact ⟨fun _ => .null, fun _ => ⟨.null, by rw [nodeOf?]; rfl, rfl⟩⟩
  | bool value =>
    refine ⟨fun _ => .bool value, fun _ => ⟨.bool value, ?_, rfl⟩⟩
    rw [nodeOf?]
    cases value <;> rfl
  | int value h =>
    refine ⟨fun _ => .int value, fun _ => ⟨.int value, ?_, rfl⟩⟩
    rw [nodeOf?, ofPlain_int h]
  | str text => rw [readsBack_str_iff, Json.everyText_str_iff]
  | arr items _ ih =>
    have hitems := Json.ordered_arr_iff.1 hordered
    rw [readsBack_arr_iff, Json.everyText_arr_iff]
    exact forall₂_congr fun item hitem => ih item hitem (hitems item hitem)
  | obj members _ ih =>
    obtain ⟨hsorted, hmembers⟩ := Json.ordered_obj_iff.1 hordered
    rw [readsBack_obj_iff hsorted, Json.everyText_obj_iff]
    exact forall₂_congr fun member hmember =>
      and_congr_right fun _ => ih member hmember (hmembers member hmember)

/-! ## Texts -/

/-- A value whose strings let its text be read: each stays itself, and no key is too long to be
found again at its colon. -/
def Readable (value : Json) : Prop :=
  value.EveryText (fun key => (stringText key).length ≤ 1024 ∧ KeyStays key) TextStays

/-- A value is readable if its keys are short enough and each of its strings stays itself. -/
theorem readable_iff {value : Json} :
    Readable value ↔ KeysFit value ∧ value.EveryText KeyStays TextStays := by
  constructor
  · exact fun h => ⟨h.mono (fun _ => And.left) fun _ _ => trivial, h.mono (fun _ => And.right)
      fun _ => id⟩
  · exact fun h => (h.1.and h.2).mono (fun _ => id) fun _ => And.right

section Document

variable {value : Json} (hwhole : value.Whole)

include hwhole

/-- With keys that are short enough, what is read of a text is what the node of its value is read
as. -/
theorem parse_render (hkeys : KeysFit value) :
    parse (render [value]) =
      (nodeOf? value).elim (.error (.malformed Fault.yamlSyntax)) Node.toJson := by
  rw [parse, documents?_render (List.forall_mem_singleton.2 hwhole)
    (List.forall_mem_singleton.2 hkeys), List.mapM_cons, List.mapM_nil]
  cases nodeOf? value <;> rfl

/-- With a key that is too long, the text of a value is malformed. -/
theorem parse_render_of_not_keysFit (hkeys : ¬KeysFit value) :
    parse (render [value]) = .error (.malformed Fault.yamlSyntax) := by
  rw [parse, documents?_render_eq_none (List.forall_mem_singleton.2 hwhole)
    (mt List.forall_mem_singleton.1 hkeys)]

/-- The text of a value is read as the value exactly if the value is readable. -/
theorem parse_render_iff_readable (hordered : value.Ordered) :
    parse (render [value]) = .ok value ↔ Readable value := by
  rw [readable_iff, ← readsBack_iff hwhole hordered, ReadsBack]
  by_cases hkeys : KeysFit value
  · rw [parse_render hwhole hkeys]
    cases nodeOf? value <;> simp [hkeys]
  · rw [parse_render_of_not_keysFit hwhole hkeys]
    simp [hkeys]

end Document

/-- A mapping with a key and strings that have to be quoted. -/
def quotedMapping : Json :=
  .obj [("a: b", .str "first\nsecond"), ("flags", .arr [.str "true", .int (-1), .null, .obj []])]

/-- Quotes keep the key and the strings of the mapping what they are. -/
theorem parse_render_quotedMapping :
    quotedMapping.Whole ∧ quotedMapping.Ordered ∧
      parse (render [quotedMapping]) = .ok quotedMapping := by
  have hwhole : quotedMapping.Whole := by
    refine .obj _ (List.forall_mem_cons.2 ⟨.str _, List.forall_mem_singleton.2 (.arr _ ?_)⟩)
    simp only [List.forall_mem_cons]
    exact ⟨.str _, .int _ rfl, .null, .obj _ (List.forall_mem_nil _), List.forall_mem_nil _⟩
  have hordered : quotedMapping.Ordered := by
    refine .obj _ (List.pairwise_pair.2 rfl)
      (List.forall_mem_cons.2 ⟨.str _, List.forall_mem_singleton.2 (.arr _ ?_)⟩)
    simp only [List.forall_mem_cons]
    exact ⟨.str _, .int _, .null, .obj _ List.Pairwise.nil (List.forall_mem_nil _),
      List.forall_mem_nil _⟩
  have hreadable : Readable quotedMapping := by
    refine Json.everyText_obj_iff.2 (List.forall_mem_cons.2 ⟨⟨⟨by decide, .inl rfl⟩,
      .str _ ⟨.inl rfl, by decide⟩⟩, List.forall_mem_singleton.2 ⟨⟨by decide, .inr rfl⟩,
      .arr _ ?_⟩⟩)
    simp only [List.forall_mem_cons]
    exact ⟨.str _ ⟨.inl rfl, by decide⟩, .int _, .null,
      .obj _ (List.forall_mem_nil _) (List.forall_mem_nil _), List.forall_mem_nil _⟩
  exact ⟨hwhole, hordered, (parse_render_iff_readable hwhole hordered).2 hreadable⟩

/-- A string of digits after the mark for octal numbers is not quoted, and read as a number. -/
theorem parse_render_octal_ne : parse (render [.str "0o17"]) ≠ .ok (.str "0o17") := by
  have hnode : nodeOf? (.str "0o17") = some (.int 15) := by
    rw [nodeOf?]
    rfl
  rw [parse_render (.str _) (.str _ trivial), hnode]
  exact fun h => by cases h

end ComposeCluster.Yaml
