import ComposeCluster.Yaml.Document
import ComposeCluster.Proofs.Yaml.Documents

/-!
# Nodes of written documents

The tokens of a value are arranged into one node (`nodeOf?`), whatever follows them (`Composes`);
there is none only where two keys of a mapping make the same node. With the scan this says what a
written text holds: the nodes of its values, or nothing if a key is too long (`documents?_render`,
`documents?_render_eq_none`).
-/

set_option autoImplicit false

namespace ComposeCluster.Yaml

/-! ## Nodes of a value -/

/-- The node of a string. -/
def stringNode (text : String) : Node := .ofScalar (!needsQuotes text) none text

mutual

/-- The node that the tokens of a value make, unless two keys make the same one. -/
def nodeOf? : Json → Option Node
  | .null => some (.ofPlain "~")
  | .bool value => some (.ofPlain (if value then "true" else "false"))
  | .int value => some (.ofPlain (toString value))
  | .float value => some (.ofPlain (Json.floatText value))
  | .str text => some (stringNode text)
  | .arr items => (itemNodes? items).map .seq
  | .obj members => (memberNodes? members).bind fun nodes => (Node.pairUp? [] nodes).map .map

/-- The nodes of items. -/
def itemNodes? : List Json → Option (List Node)
  | [] => some []
  | item :: rest => (nodeOf? item).bind fun node => (itemNodes? rest).map (node :: ·)

/-- The nodes of keys and values in turn. -/
def memberNodes? : List (String × Json) → Option (List Node)
  | [] => some []
  | (key, value) :: rest =>
    (nodeOf? value).bind fun node =>
      (memberNodes? rest).map fun nodes => stringNode key :: node :: nodes

end

namespace Composer

variable {handles : List (String × String)} {anchors : List (String × Option Node)}
  {more : List Token} {fuel : Nat}

/-- The tokens that begin a node without properties. -/
def beginsNode : Token → Bool
  | .scalar _ _ => true
  | .flowSequence => true
  | .flowMapping => true
  | .blockSequence => true
  | .blockMapping => true
  | _ => false

/-- In front of a token that begins a node there are no properties. -/
theorem properties_run {token : Token} (h : beginsNode token = true) :
    properties.run ⟨token :: more, handles, anchors⟩ =
      some ((none, none), ⟨token :: more, handles, anchors⟩) := by
  cases token with
  | scalar | flowSequence | flowMapping | blockSequence | blockMapping => rfl
  | _ => cases h

/-- A node without properties is its content. -/
theorem node_run {token : Token} (h : beginsNode token = true) (block indentless : Bool) :
    (node block indentless (fuel + 1)).run ⟨token :: more, handles, anchors⟩ =
      (content block indentless false none fuel).run ⟨token :: more, handles, anchors⟩ := by
  have hnode : (node block indentless (fuel + 1)).run ⟨token :: more, handles, anchors⟩ =
      (properties.run ⟨token :: more, handles, anchors⟩).bind fun found =>
        ((content block indentless (found.1.1.isSome || found.1.2.isSome) found.1.2 fuel).run
          found.2).bind fun inner =>
            ((complete found.1.1 inner.1).run inner.2).map fun done => (inner.1, done.2) := by
    cases token with
    | scalar | flowSequence | flowMapping | blockSequence | blockMapping =>
      unfold node
      rfl
    | _ => cases h
  rw [hnode, properties_run h, Option.bind_some]
  exact Option.bind_fun_some _

/-- A scalar is its own content. -/
theorem content_scalar (block indentless plain : Bool) (text : String) :
    (content block indentless false none (fuel + 1)).run
        ⟨.scalar plain text :: more, handles, anchors⟩ =
      some (.ofScalar plain none text, ⟨more, handles, anchors⟩) := by
  simp [content, peek, skip]

/-- An empty flow sequence is a node without items. -/
theorem content_emptySequence (block indentless : Bool) :
    (content block indentless false none (fuel + 2)).run
        ⟨.flowSequence :: .flowSequenceEnd :: more, handles, anchors⟩ =
      some (.seq [], ⟨more, handles, anchors⟩) := by
  simp [content, flowItems, peek, skip]

/-- An empty flow mapping is a node without entries. -/
theorem content_emptyMapping (block indentless : Bool) :
    (content block indentless false none (fuel + 2)).run
        ⟨.flowMapping :: .flowMappingEnd :: more, handles, anchors⟩ =
      some (.map [], ⟨more, handles, anchors⟩) := by
  simp [content, flowEntries, mapping, Node.pairUp?, peek, skip]

/-- A block sequence is the items behind its opening. -/
theorem content_blockSequence (indentless : Bool) :
    (content true indentless false none (fuel + 1)).run
        ⟨.blockSequence :: more, handles, anchors⟩ =
      (blockItems [] fuel).run ⟨more, handles, anchors⟩ := by
  simp [content, peek, skip]

/-- A block mapping is the entries behind its opening. -/
theorem content_blockMapping (indentless : Bool) :
    (content true indentless false none (fuel + 1)).run
        ⟨.blockMapping :: more, handles, anchors⟩ =
      (blockEntries [] fuel).run ⟨more, handles, anchors⟩ := by
  simp [content, peek, skip]

/-- Where a node begins, the node of a block entry is not left out. -/
theorem blockNode_run {token : Token} (h : beginsNode token = true) (indentless : Bool)
    {ends : List Token} (hends : ∀ token ∈ ends, beginsNode token = false) :
    (blockNode indentless ends (fuel + 1)).run ⟨token :: more, handles, anchors⟩ =
      (node true indentless fuel).run ⟨token :: more, handles, anchors⟩ := by
  have hmissing : isMissing ends (some token) = false := by
    refine List.any_eq_false.2 fun other hother heq => ?_
    have := hends other hother
    rw [← Option.some.inj (beq_iff_eq.1 heq), h] at this
    cases this
  simp [blockNode, peek, hmissing]

/-- At the end of the block the items are complete. -/
theorem blockItems_end (done : List Node) :
    (blockItems done (fuel + 1)).run ⟨.blockEnd :: more, handles, anchors⟩ =
      some (.seq done.reverse, ⟨more, handles, anchors⟩) := by
  simp [blockItems, peek, skip]

/-- An entry adds its node to the items before it. -/
theorem blockItems_entry (done : List Node) :
    (blockItems done (fuel + 1)).run ⟨.blockEntry :: more, handles, anchors⟩ =
      ((blockNode false [.blockEntry, .blockEnd] fuel).run ⟨more, handles, anchors⟩).bind
        fun item => (blockItems (item.1 :: done) fuel).run item.2 := by
  simp [blockItems, peek, skip]

/-- At the end of the block the keys and values in turn become entries. -/
theorem blockEntries_end (done : List Node) :
    (blockEntries done (fuel + 1)).run ⟨.blockEnd :: more, handles, anchors⟩ =
      (Node.pairUp? [] done.reverse).map fun entries =>
        (.map entries, ⟨more, handles, anchors⟩) := by
  cases h : Node.pairUp? [] done.reverse <;> simp [blockEntries, mapping, peek, skip, h]

/-- A key adds its node, and its value is next. -/
theorem blockEntries_key (done : List Node) :
    (blockEntries done (fuel + 1)).run ⟨.key :: more, handles, anchors⟩ =
      ((blockNode true [.key, .value, .blockEnd] fuel).run ⟨more, handles, anchors⟩).bind
        fun key => (blockValue (key.1 :: done) fuel).run key.2 := by
  simp [blockEntries, peek, skip]

/-- A value adds its node, and the next entry follows. -/
theorem blockValue_value (done : List Node) :
    (blockValue done (fuel + 1)).run ⟨.value :: more, handles, anchors⟩ =
      ((blockNode true [.key, .value, .blockEnd] fuel).run ⟨more, handles, anchors⟩).bind
        fun value => (blockEntries (value.1 :: done) fuel).run value.2 := by
  simp [blockValue, peek, skip]

/-- The tokens of a value are arranged into its node, whatever follows. -/
def Composes (value : Json) : Prop :=
  ∀ {fuel : Nat} {more : List Token} {handles : List (String × String)}
    {anchors : List (String × Option Node)} (indentless : Bool),
    2 * (tokensOf value).length ≤ fuel →
    (node true indentless fuel).run ⟨tokensOf value ++ more, handles, anchors⟩ =
      (nodeOf? value).map fun node => (node, ⟨more, handles, anchors⟩)

/-- The tokens of each value start with one that begins a node. -/
theorem exists_beginsNode (value : Json) :
    ∃ token rest, tokensOf value = token :: rest ∧ beginsNode token = true := by
  match value with
  | .arr [] | .arr (_ :: _) | .obj [] | .obj (_ :: _) | .null | .bool _ | .int _ | .float _
  | .str _ =>
    rw [tokensOf]
    exact ⟨_, _, rfl, rfl⟩

/-- A value where one may be missing. -/
theorem Composes.blockNode {value : Json} (h : Composes value) {indentless : Bool}
    {ends : List Token} (hends : ∀ token ∈ ends, beginsNode token = false)
    (hfuel : 2 * (tokensOf value).length + 1 ≤ fuel) :
    (blockNode indentless ends fuel).run ⟨tokensOf value ++ more, handles, anchors⟩ =
      (nodeOf? value).map fun node => (node, ⟨more, handles, anchors⟩) := by
  obtain ⟨token, rest, htokens, hbegins⟩ := exists_beginsNode value
  obtain ⟨fuel, rfl⟩ : ∃ fuel', fuel = fuel' + 1 := ⟨fuel - 1, by omega⟩
  rw [← h indentless (Nat.le_of_succ_le_succ hfuel), htokens, List.cons_append,
    blockNode_run hbegins indentless hends]

/-- The tokens of items are arranged into a sequence of their nodes. -/
theorem blockItems_run {items : List Json} (h : ∀ item ∈ items, Composes item) :
    ∀ {done : List Node} {fuel : Nat}, 2 * (itemTokens items).length + 1 ≤ fuel →
      (blockItems done fuel).run ⟨itemTokens items ++ .blockEnd :: more, handles, anchors⟩ =
        (itemNodes? items).map fun nodes =>
          (.seq (done.reverse ++ nodes), ⟨more, handles, anchors⟩) := by
  induction items with
  | nil =>
    intro done fuel hfuel
    obtain ⟨fuel, rfl⟩ : ∃ fuel', fuel = fuel' + 1 := ⟨fuel - 1, by omega⟩
    simp [itemTokens, itemNodes?, blockItems_end]
  | cons item rest ih =>
    intro done fuel hfuel
    obtain ⟨hitem, hrest⟩ := List.forall_mem_cons.1 h
    obtain ⟨fuel, rfl⟩ : ∃ fuel', fuel = fuel' + 1 := ⟨fuel - 1, by omega⟩
    have hlength : (itemTokens (item :: rest)).length =
        1 + (tokensOf item).length + (itemTokens rest).length := by
      simp [itemTokens]
      omega
    have htokens : itemTokens (item :: rest) ++ .blockEnd :: more =
        .blockEntry :: (tokensOf item ++ (itemTokens rest ++ .blockEnd :: more)) := by
      simp [itemTokens]
    rw [htokens, blockItems_entry, hitem.blockNode (by decide) ?_, itemNodes?]
    · cases nodeOf? item with
      | none => rfl
      | some node =>
        simp only [Option.map_some, Option.bind_some]
        rw [ih hrest (by omega)]
        simp [Function.comp_def]
    · omega

/-- A value with a scalar as its only token is arranged into the node of this scalar. -/
theorem composes_scalar {value : Json} {plain : Bool} {text : String}
    (htokens : tokensOf value = [.scalar plain text])
    (hnode : nodeOf? value = some (.ofScalar plain none text)) : Composes value := by
  intro fuel more handles anchors indentless hfuel
  rw [htokens] at hfuel ⊢
  obtain ⟨fuel, rfl⟩ : ∃ fuel', fuel = fuel' + 2 := ⟨fuel - 2, by simp at hfuel; omega⟩
  rw [List.singleton_append, node_run rfl, content_scalar, hnode]
  rfl

/-- A string is arranged into the node of its scalar. -/
theorem composes_str (text : String) : Composes (.str text) :=
  composes_scalar (by rw [tokensOf, stringToken]) (by rw [nodeOf?, stringNode])

/-- The tokens of members are arranged into a mapping, unless two keys make the same node. -/
theorem blockEntries_run {members : List (String × Json)}
    (h : ∀ member ∈ members, Composes member.2) :
    ∀ {done : List Node} {fuel : Nat}, 2 * (memberTokens members).length + 1 ≤ fuel →
      (blockEntries done fuel).run ⟨memberTokens members ++ .blockEnd :: more, handles, anchors⟩ =
        (memberNodes? members).bind fun nodes =>
          (Node.pairUp? [] (done.reverse ++ nodes)).map fun entries =>
            (.map entries, ⟨more, handles, anchors⟩) := by
  -- a call is spent on the key and one on its value, and each has a token of its own
  induction members with
  | nil =>
    intro done fuel hfuel
    obtain ⟨fuel, rfl⟩ : ∃ fuel', fuel = fuel' + 1 := ⟨fuel - 1, by omega⟩
    simp [memberTokens, memberNodes?, blockEntries_end]
  | cons member rest ih =>
    intro done fuel hfuel
    obtain ⟨key, value⟩ := member
    obtain ⟨hvalue, hrest⟩ : Composes value ∧ ∀ member ∈ rest, Composes member.2 :=
      List.forall_mem_cons.1 h
    have hlength : (memberTokens ((key, value) :: rest)).length =
        3 + (tokensOf value).length + (memberTokens rest).length := by
      simp [memberTokens]
      omega
    obtain ⟨fuel, rfl⟩ : ∃ fuel', fuel = fuel' + 2 := ⟨fuel - 2, by omega⟩
    have hkey : Composes (.str key) := composes_str key
    have hlengthKey : (tokensOf (.str key)).length = 1 := by
      rw [tokensOf]
      rfl
    have htokens : memberTokens ((key, value) :: rest) ++ .blockEnd :: more =
        .key :: (tokensOf (.str key) ++
          .value :: (tokensOf value ++ (memberTokens rest ++ .blockEnd :: more))) := by
      simp [memberTokens, tokensOf]
    rw [htokens, blockEntries_key, hkey.blockNode (by decide) ?_, nodeOf?, Option.map_some,
      Option.bind_some, blockValue_value, hvalue.blockNode (by decide) ?_, memberNodes?]
    · cases nodeOf? value with
      | none => rfl
      | some node =>
        simp only [Option.map_some, Option.bind_some]
        rw [ih hrest (by omega)]
        cases memberNodes? rest <;> simp
    · omega
    · omega

/-- A list is arranged into its node if its items are into theirs. -/
theorem composes_items {items : List Json} (h : ∀ item ∈ items, Composes item) :
    Composes (.arr items) := by
  intro fuel more handles anchors indentless hfuel
  cases items with
  | nil =>
    obtain ⟨fuel, rfl⟩ : ∃ fuel', fuel = fuel' + 3 :=
      ⟨fuel - 3, by simp [tokensOf] at hfuel; omega⟩
    rw [tokensOf, nodeOf?]
    exact (node_run rfl _ _).trans (content_emptySequence _ _)
  | cons item rest =>
    have htokens : tokensOf (.arr (item :: rest)) ++ more =
        .blockSequence :: (itemTokens (item :: rest) ++ .blockEnd :: more) := by
      simp [tokensOf]
    have hlength : (tokensOf (.arr (item :: rest))).length =
        (itemTokens (item :: rest)).length + 2 := by
      simp [tokensOf]
    obtain ⟨fuel, rfl⟩ : ∃ fuel', fuel = fuel' + 2 := ⟨fuel - 2, by omega⟩
    rw [htokens, node_run rfl, content_blockSequence, blockItems_run h (by omega), nodeOf?,
      Option.map_map]
    rfl

/-- An object is arranged into its node if its values are into theirs. -/
theorem composes_members {members : List (String × Json)}
    (h : ∀ member ∈ members, Composes member.2) : Composes (.obj members) := by
  intro fuel more handles anchors indentless hfuel
  cases members with
  | nil =>
    obtain ⟨fuel, rfl⟩ : ∃ fuel', fuel = fuel' + 3 :=
      ⟨fuel - 3, by simp [tokensOf] at hfuel; omega⟩
    rw [tokensOf, nodeOf?]
    exact (node_run rfl _ _).trans (content_emptyMapping _ _)
  | cons member rest =>
    have htokens : tokensOf (.obj (member :: rest)) ++ more =
        .blockMapping :: (memberTokens (member :: rest) ++ .blockEnd :: more) := by
      simp [tokensOf]
    have hlength : (tokensOf (.obj (member :: rest))).length =
        (memberTokens (member :: rest)).length + 2 := by
      simp [tokensOf]
    obtain ⟨fuel, rfl⟩ : ∃ fuel', fuel = fuel' + 2 := ⟨fuel - 2, by omega⟩
    rw [htokens, node_run rfl, content_blockMapping, blockEntries_run h (by omega), nodeOf?,
      Option.map_bind]
    simp [Function.comp_def]

/-- Every whole value is arranged into its node. -/
theorem composes {value : Json} (h : value.Whole) : Composes value := by
  induction h with
  | null => exact composes_scalar (by rw [tokensOf]) (by rw [nodeOf?]; rfl)
  | bool value => exact composes_scalar (by rw [tokensOf]) (by rw [nodeOf?]; rfl)
  | int value => exact composes_scalar (by rw [tokensOf]) (by rw [nodeOf?]; rfl)
  | str text => exact composes_str text
  | arr items _ ih => exact composes_items ih
  | obj members _ ih => exact composes_members ih

/-! ## Documents -/

/-- The content of a document is the node of the value whose tokens it holds. -/
theorem documentContent_run {value : Json} (h : Composes value)
    (hfuel : 2 * (tokensOf value).length ≤ fuel) :
    (documentContent fuel).run ⟨tokensOf value ++ more, handles, anchors⟩ =
      (nodeOf? value).map fun node => (node, ⟨more, handles, anchors⟩) := by
  obtain ⟨token, rest, htokens, hbegins⟩ := exists_beginsNode value
  rw [← h false hfuel, htokens, List.cons_append]
  cases token with
  | scalar | flowSequence | flowMapping | blockSequence | blockMapping =>
    simp [documentContent, peek, isDirective, isMissing]
  | _ => cases hbegins

/-- Documents one after another; each has its marker. -/
theorem documents_run {values : List Json} (h : ∀ value ∈ values, Composes value)
    (hfuel : 2 * (values.flatMap documentTokens).length ≤ fuel) :
    ∀ {bare : Bool} {done : List Node} {count : Nat}, values.length < count →
      documents fuel bare done count (values.flatMap documentTokens) =
        (values.mapM nodeOf?).map (done.reverse ++ ·) := by
  induction values with
  | nil =>
    intro bare done count hcount
    obtain ⟨count, rfl⟩ : ∃ count', count = count' + 1 := ⟨count - 1, by omega⟩
    simp [documents]
  | cons value rest ih =>
    intro bare done count hcount
    obtain ⟨hvalue, hrest⟩ := List.forall_mem_cons.1 h
    obtain ⟨count, rfl⟩ : ∃ count', count = count' + 1 := ⟨count - 1, by omega⟩
    have hlength : ((value :: rest).flatMap documentTokens).length =
        1 + (tokensOf value).length + (rest.flatMap documentTokens).length := by
      simp [documentTokens]
      omega
    have htokens : (value :: rest).flatMap documentTokens =
        .documentStart :: (tokensOf value ++ rest.flatMap documentTokens) := by
      simp [documentTokens]
    have hcontent : (documentContent fuel).run
        ⟨tokensOf value ++ rest.flatMap documentTokens, [], []⟩ =
        (nodeOf? value).map fun node => (node, ⟨rest.flatMap documentTokens, [], []⟩) :=
      documentContent_run hvalue (by omega)
    have hnext (node : Node) : documents fuel false (node :: done) count
        (rest.flatMap documentTokens) = (rest.mapM nodeOf?).map (done.reverse ++ node :: ·) := by
      rw [ih hrest (by omega) (by simp at hcount; omega)]
      simp
    have hhead : rest.flatMap documentTokens = [] ∨
        ∃ tokens, rest.flatMap documentTokens = .documentStart :: tokens := by
      cases rest with
      | nil => exact .inl rfl
      | cons next rest => exact .inr ⟨_, rfl⟩
    rw [htokens, documents, List.mapM_cons]
    generalize rest.flatMap documentTokens = tokens at hcontent hnext hhead
    generalize rest.mapM nodeOf? = nodes at hnext
    cases hnode : nodeOf? value with
    | none => simp [isDirective, directives, hcontent, hnode]
    | some node =>
      rw [hnode] at hcontent
      obtain rfl | ⟨tokens, rfl⟩ := hhead
      · rw [List.append_nil] at hcontent
        cases nodes <;> simp [isDirective, directives, hcontent, hnext]
      · cases nodes <;> simp [isDirective, directives, hcontent, hnext]

end Composer

/-- The documents of a rendered text are the nodes of the values. -/
theorem documents?_render {values : List Json} (h : ∀ value ∈ values, value.Whole)
    (hkeys : ∀ value ∈ values, KeysFit value) :
    documents? (render values) = values.mapM nodeOf? := by
  have hlength : values.length ≤ (values.flatMap documentTokens).length := by
    clear h hkeys
    induction values with
    | nil => exact Nat.le_refl 0
    | cons value rest ih =>
      simp only [List.length_cons, List.flatMap_cons, List.length_append, documentTokens]
      omega
  unfold documents?
  rw [ofText?_render h hkeys]
  simp only [Option.bind_eq_bind, Option.bind_some]
  rw [Composer.documents_run (fun value hvalue => Composer.composes (h value hvalue)) (by omega)
    (by omega)]
  simp

/-- A key that is too long spoils the whole text. -/
theorem documents?_render_eq_none {values : List Json} (h : ∀ value ∈ values, value.Whole)
    (hkeys : ¬∀ value ∈ values, KeysFit value) : documents? (render values) = none := by
  unfold documents?
  rw [ofText?_render_eq_none h hkeys]
  rfl

end ComposeCluster.Yaml
