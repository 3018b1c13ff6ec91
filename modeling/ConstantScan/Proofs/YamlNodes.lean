import ConstantScan.Proofs.JsonText
import ConstantScan.Proofs.YamlBlocks
import ConstantScan.Yaml.Parser

/-!
# YAML read back

The tokens of a value give a node, and the node gives the value. So the text that entries are written
in reads as these entries, whatever stands in their strings.
-/

namespace ConstantScan.Yaml

mutual

def valueNode : Value → Node
  | .bool b => .scalar none (if b then "true" else "false") true
  | .number (.unsigned n) => .scalar none (toString n) true
  | .string s => .scalar none s (formOf s.toList == .plain)
  | .list vs => .sequence none (itemNodes vs)
  | .dict es => .mapping none (entryNodes es)
  | _ => Node.nothing

def itemNodes : List Value → List Node
  | [] => []
  | v :: vs => valueNode v :: itemNodes vs

def entryNodes : List (String × Value) → List (Node × Node)
  | [] => []
  | (k, v) :: es => (.scalar none k true, valueNode v) :: entryNodes es

end

namespace Node

/-! ## Tokens that start a node -/

def opens : Token → Bool
  | .scalar _ _ => true
  | .flowSequence => true
  | .blockEntry => true
  | .blockMapping => true
  | _ => false

variable {anchors : Anchors} {handles : List (String × String)}

/-- No anchor and no tag stands in front of the node. -/
theorem node_of_opens (style : Style) (fuel : Nat) {t : Token} {ts : List Token}
    (h : opens t = true) :
    node style (fuel + 1) ⟨t :: ts, anchors, handles⟩ =
      content style none false fuel ⟨t :: ts, anchors, handles⟩ := by
  cases t <;> simp only [opens, Bool.false_eq_true] at h
  all_goals
    rw [node]
    simp only [Reader.peek, List.head?_cons, properties, fullTag?, Option.isSome_none, Bool.or_self]
    cases content style none false fuel _ <;> rfl

theorem optionalNode_of_opens (style : Style) (fuel : Nat) {t : Token} {ts : List Token}
    {stops : List Token} (hstops : t ∉ stops) :
    optionalNode style stops (fuel + 1) ⟨t :: ts, anchors, handles⟩ =
      node style fuel ⟨t :: ts, anchors, handles⟩ := by
  rw [optionalNode, if_neg (by simpa [Reader.seesAny] using hstops)]

/-! ## Nodes of values -/

/-- The tokens of a value are read as its node. A list that is not indented ends in front of a token
that is no dash. -/
def ReadsNode (style : Style) (v : Value) : Prop :=
  ∀ ⦃fuel : Nat⦄ ⦃more : List Token⦄ (anchors : Anchors) (handles : List (String × String)),
    4 * (valueTokens v).length + 3 ≤ fuel →
      (style = .blockOrUnindented → more.head? ≠ some .blockEntry) →
        node style fuel ⟨valueTokens v ++ more, anchors, handles⟩ =
          some (valueNode v, ⟨more, anchors, handles⟩)

theorem node_scalar (style : Style) (fuel : Nat) (text : String) (plain : Bool) (ts : List Token) :
    node style (fuel + 2) ⟨.scalar text plain :: ts, anchors, handles⟩ =
      some (.scalar none text plain, ⟨ts, anchors, handles⟩) := by
  rw [node_of_opens style (fuel + 1) rfl, content]
  simp [Reader.peek, Reader.next]

theorem opens_valueTokens {item : Bool} {v : Value} (h : Written item v) :
    ∃ t ts, valueTokens v = t :: ts ∧ opens t = true ∧ (item = true → t ≠ .blockEntry) := by
  cases h with
  | bool b => exact ⟨_, _, by rw [valueTokens, scalarTokens] <;> simp, rfl, by simp⟩
  | natural n => exact ⟨_, _, by rw [valueTokens, scalarTokens] <;> simp, rfl, by simp⟩
  | string item s => exact ⟨_, _, by rw [valueTokens, scalarTokens] <;> simp, rfl, by simp⟩
  | @list vs h =>
    cases vs with
    | nil => exact ⟨_, _, by rw [valueTokens, scalarTokens] <;> simp, rfl, by simp⟩
    | cons v vs => exact ⟨_, _, by rw [valueTokens, itemTokens], rfl, by simp⟩
  | @dict item es hes hkeys h =>
    obtain ⟨e, es, rfl⟩ := List.exists_cons_of_ne_nil hes
    exact ⟨_, _, by rw [valueTokens], rfl, by simp⟩

theorem unindented_items {vs : List Value} (hvs : ∀ v ∈ vs, Written true v)
    (h : ∀ v ∈ vs, ReadsNode .block v) (tag : Option String) (acc : List Node) {fuel : Nat}
    {more : List Token} (hmore : more.head? ≠ some .blockEntry)
    (hfuel : 4 * (itemTokens vs).length + 1 ≤ fuel) :
    unindented tag acc fuel ⟨itemTokens vs ++ more, anchors, handles⟩ =
      some (.sequence tag (acc.reverse ++ itemNodes vs), ⟨more, anchors, handles⟩) := by
  induction vs generalizing acc fuel with
  | nil =>
    obtain ⟨fuel, rfl⟩ := Nat.exists_eq_add_one_of_ne_zero (Nat.ne_zero_of_lt hfuel)
    have hsees : (⟨[] ++ more, anchors, handles⟩ : Reader).sees .blockEntry = false := by
      simpa [Reader.sees] using hmore
    rw [itemTokens, unindented, hsees]
    simp [itemNodes]
  | cons v vs ih =>
    obtain ⟨hv, hvs⟩ := List.forall_mem_cons.1 hvs
    obtain ⟨hnode, hnodes⟩ := List.forall_mem_cons.1 h
    obtain ⟨t, ts, htokens, hopens, hentry⟩ := opens_valueTokens hv
    obtain ⟨fuel, rfl⟩ := Nat.exists_eq_add_one_of_ne_zero (Nat.ne_zero_of_lt hfuel)
    rw [itemTokens, List.length_cons, List.length_append] at hfuel
    have hread : node .block fuel ⟨valueTokens v ++ (itemTokens vs ++ more), anchors, handles⟩ =
        some (valueNode v, ⟨itemTokens vs ++ more, anchors, handles⟩) :=
      hnode anchors handles (by omega) (by simp)
    have hany : (⟨valueTokens v ++ (itemTokens vs ++ more), anchors, handles⟩ : Reader).seesAny
        [.blockEntry, .key, .value, .blockEnd] = false := by
      rw [htokens]
      cases t <;> simp_all [opens, Reader.seesAny]
    rw [itemTokens, unindented, List.cons_append, List.append_assoc]
    simp only [Reader.sees, Reader.next, List.head?_cons, beq_self_eq_true, if_true, List.tail_cons,
      hany, Bool.false_eq_true, if_false, hread]
    rw [ih hvs hnodes (valueNode v :: acc) (by omega)]
    simp [itemNodes]

theorem blockEntries_entries {es : List (String × Value)} (hes : ∀ e ∈ es, Written false e.2)
    (h : ∀ e ∈ es, ReadsNode .blockOrUnindented e.2) (tag : Option String)
    (acc : List (Node × Node)) {fuel : Nat} {more : List Token}
    (hfuel : 4 * (entryTokens es).length + 4 ≤ fuel) :
    blockEntries tag acc fuel ⟨entryTokens es ++ .blockEnd :: more, anchors, handles⟩ =
      some (.mapping tag (acc.reverse ++ entryNodes es), ⟨more, anchors, handles⟩) := by
  induction es generalizing acc fuel with
  | nil =>
    obtain ⟨fuel, rfl⟩ := Nat.exists_eq_add_one_of_ne_zero (Nat.ne_zero_of_lt hfuel)
    rw [entryTokens, blockEntries]
    simp [Reader.peek, Reader.next, entryNodes]
  | cons e es ih =>
    obtain ⟨k, v⟩ := e
    obtain ⟨hv, hes⟩ := List.forall_mem_cons.1 hes
    obtain ⟨hnode, hnodes⟩ := List.forall_mem_cons.1 h
    dsimp only at hv hnode
    obtain ⟨t, ts, htokens, hopens, -⟩ := opens_valueTokens hv
    obtain ⟨fuel, rfl⟩ : ∃ n, fuel = n + 4 := ⟨fuel - 4, by omega⟩
    rw [entryTokens, List.length_cons, List.length_cons, List.length_cons, List.length_append] at hfuel
    have hkey (rest : List Token) : optionalNode .blockOrUnindented [.key, .value, .blockEnd]
        (fuel + 3) ⟨.scalar k true :: rest, anchors, handles⟩ =
          some (.scalar none k true, ⟨rest, anchors, handles⟩) := by
      rw [optionalNode_of_opens _ _ (by simp), node_scalar]
    have hstops : t ∉ [Token.key, .value, .blockEnd] := by
      cases t <;> simp_all [opens]
    -- A list that is a value ends in front of the next key, or of the end of the mapping.
    have hmore : (entryTokens es ++ .blockEnd :: more).head? ≠ some .blockEntry := by
      cases es with
      | nil => simp [entryTokens]
      | cons e es => simp [entryTokens]
    have hvalue : optionalNode .blockOrUnindented [.key, .value, .blockEnd] (fuel + 3)
        ⟨valueTokens v ++ (entryTokens es ++ .blockEnd :: more), anchors, handles⟩ =
          some (valueNode v, ⟨entryTokens es ++ .blockEnd :: more, anchors, handles⟩) := by
      rw [htokens, List.cons_append, optionalNode_of_opens _ _ hstops, ← List.cons_append, ← htokens]
      exact hnode anchors handles (by omega) fun _ => hmore
    rw [entryTokens, blockEntries]
    simp only [List.cons_append, List.append_assoc, Reader.peek, Reader.next, Reader.sees,
      List.head?_cons, List.tail_cons, hkey, beq_self_eq_true, if_true, hvalue]
    rw [ih hes hnodes _ (by omega)]
    simp [entryNodes]

theorem readsNode_scalar (style : Style) {v : Value} {text : String} {plain : Bool}
    (htokens : valueTokens v = [.scalar text plain])
    (hnode : valueNode v = .scalar none text plain) : ReadsNode style v := by
  intro fuel more anchors handles hfuel _
  obtain ⟨fuel, rfl⟩ : ∃ n, fuel = n + 2 := ⟨fuel - 2, by omega⟩
  rw [htokens, hnode, List.singleton_append, node_scalar]

theorem readsNode_emptyList (style : Style) : ReadsNode style (.list []) := by
  intro fuel more anchors handles hfuel _
  obtain ⟨fuel, rfl⟩ : ∃ n, fuel = n + 3 := ⟨fuel - 3, by omega⟩
  have htokens : valueTokens (.list []) = [.flowSequence, .flowSequenceEnd] := by
    rw [valueTokens, scalarTokens] <;> simp
  rw [htokens, List.cons_append, node_of_opens style (fuel + 2) rfl, content]
  simp [Reader.peek, Reader.next, flowItems, Reader.sees, valueNode, itemNodes]

theorem readsNode_written {item : Bool} {v : Value} (h : Written item v) {style : Style}
    (hflow : style ≠ .flow) (hstyle : item = true ∨ style = .blockOrUnindented) :
    ReadsNode style v := by
  induction h generalizing style with
  | bool b =>
    exact readsNode_scalar style (by rw [valueTokens, scalarTokens] <;> simp) (by rw [valueNode])
  | natural n =>
    exact readsNode_scalar style (by rw [valueTokens, scalarTokens] <;> simp) (by rw [valueNode])
  | string item s =>
    exact readsNode_scalar style (by rw [valueTokens, scalarTokens] <;> simp) (by rw [valueNode])
  | @list vs h ih =>
    cases vs with
    | nil => exact readsNode_emptyList style
    | cons v vs =>
      -- The list is no item of another list, so it stands behind a key, without an indent.
      obtain rfl : style = .blockOrUnindented := hstyle.resolve_left (by simp)
      intro fuel more anchors handles hfuel hmore
      obtain ⟨fuel, rfl⟩ : ∃ n, fuel = n + 2 := ⟨fuel - 2, by omega⟩
      have htokens : valueTokens (.list (v :: vs)) = itemTokens (v :: vs) := by rw [valueTokens]
      rw [htokens] at hfuel
      have hitems : unindented none [] fuel ⟨itemTokens (v :: vs) ++ more, anchors, handles⟩ =
          some (.sequence none ([].reverse ++ itemNodes (v :: vs)), ⟨more, anchors, handles⟩) :=
        unindented_items h (fun w hw => ih w hw (by simp) (.inl rfl)) none [] (hmore rfl) (by omega)
      have hstart : itemTokens (v :: vs) ++ more =
          .blockEntry :: (valueTokens v ++ itemTokens vs ++ more) := by
        rw [itemTokens, List.cons_append]
      rw [htokens, hstart, node_of_opens _ (fuel + 1) rfl, content]
      rw [hstart] at hitems
      simpa [Reader.peek, valueNode] using hitems
  | @dict item es hes hkeys h ih =>
    obtain ⟨e, es, rfl⟩ := List.exists_cons_of_ne_nil hes
    intro fuel more anchors handles hfuel _
    obtain ⟨fuel, rfl⟩ : ∃ n, fuel = n + 2 := ⟨fuel - 2, by omega⟩
    have htokens : valueTokens (.dict (e :: es)) =
        .blockMapping :: (entryTokens (e :: es) ++ [.blockEnd]) := by
      rw [valueTokens]
    rw [htokens, List.length_cons, List.length_append, List.length_singleton] at hfuel
    have hentries : blockEntries none [] fuel
        ⟨entryTokens (e :: es) ++ .blockEnd :: more, anchors, handles⟩ =
          some (.mapping none ([].reverse ++ entryNodes (e :: es)), ⟨more, anchors, handles⟩) :=
      blockEntries_entries h (fun f hf => ih f hf (by simp) (.inr rfl)) none [] (by omega)
    have hblock : (style != .flow) = true := by simpa using hflow
    rw [htokens, List.cons_append, node_of_opens style (fuel + 1) rfl, content]
    simp only [Reader.peek, Reader.next, List.head?_cons, hblock, if_true, List.tail_cons]
    simpa [valueNode] using hentries

end Node

/-! ## Values of nodes -/

theorem scalarValue?_none (text : String) (plain : Bool) :
    scalarValue? none text plain =
      some (if plain then plainValue text else .string text) := by
  cases plain <;> simp [scalarValue?, isLocal, coreTag]

theorem value?_scalar (room : Nat) (text : String) (plain : Bool) :
    value? room (.scalar none text plain) =
      some (if plain then plainValue text else .string text) := by
  rw [value?, scalarValue?_none]

theorem isAmbiguous_of_formOf {cs : List Char} (h : formOf cs = .plain) : isAmbiguous cs = false := by
  simp only [formOf] at h
  split_ifs at h with hnewline hliteral hquoted hsingle
  simp only [Bool.or_eq_true, not_or, Bool.not_eq_true] at hquoted
  exact hquoted.1

theorem itemValues?_itemNodes {room : Nat} {vs : List Value}
    (h : ∀ v ∈ vs, value? room (valueNode v) = some (v.readBack .unsigned)) :
    itemValues? room (itemNodes vs) = some (Value.readBackItems .unsigned vs) := by
  induction vs with
  | nil => rfl
  | cons v vs ih =>
    obtain ⟨hv, hvs⟩ := List.forall_mem_cons.1 h
    rw [itemNodes, itemValues?, hv, ih hvs]
    rfl

theorem entryValues?_entryNodes {room : Nat} {es : List (String × Value)}
    (h : ∀ e ∈ es, value? room (valueNode e.2) = some (e.2.readBack .unsigned)) :
    entryValues? room (entryNodes es) = some (Dict.readBackEntries .unsigned es) := by
  induction es with
  | nil => rfl
  | cons e es ih =>
    obtain ⟨k, v⟩ := e
    obtain ⟨hv, hes⟩ := List.forall_mem_cons.1 h
    dsimp only at hv
    rw [entryNodes, entryValues?, hv, ih hes]
    rfl

theorem value?_valueNode {item : Bool} {v : Value} (h : Written item v) {top : Nat}
    (htop : top < Nat.pow 2 128) {room : Nat} (hplain : v.Plain top room) :
    value? room (valueNode v) = some (v.readBack .unsigned) := by
  induction h generalizing room with
  | bool b =>
    rw [valueNode, value?_scalar]
    cases b <;> simp [plainValue, isNull, bool?, Value.readBack_bool]
  | natural n =>
    cases hplain with
    | natural _ hn =>
      rw [valueNode, value?_scalar, if_pos rfl, plainValue_toString (by omega),
        Value.readBack_unsigned]
  | string item s =>
    have hread : (if formOf s.toList == .plain then plainValue s else .string s) = .string s := by
      split_ifs with hform
      · have hplainValue := plainValue_ofList (isAmbiguous_of_formOf (beq_iff_eq.1 hform))
        rwa [String.ofList_toList] at hplainValue
      · rfl
    rw [valueNode, value?_scalar, hread, Value.readBack_string]
  | @list vs h ih =>
    cases hplain with
    | @list room _ hvs =>
      have hitems := itemValues?_itemNodes fun v hv => ih v hv (hvs v hv)
      rw [valueNode, value?, hitems, Value.readBack_list]
      rfl
  | @dict item es hes hkeys h ih =>
    cases hplain with
    | @dict room _ hplain =>
      have hentries := entryValues?_entryNodes fun e he => ih e he (hplain e he)
      rw [valueNode, value?, hentries, Value.readBack_dict]
      rfl

/-- The text that entries are written in reads as these entries; its last newline may be missing if
the last line is no line of a literal. -/
theorem parse_of_before {es : List (String × Value)} (hes : es ≠ [])
    (hkeys : ∀ e ∈ es, BareKey e.1) (h : ∀ e ∈ es, Written false e.2) {top : Nat}
    (htop : top < Nat.pow 2 128) (hplain : ∀ e ∈ es, e.2.Plain top (maxDepth - 1))
    {whole : List Char} (hbefore : Before (closesEntries es) (print es).toList whole 0 []) :
    parse (String.ofList whole) = some (Dict.ofList (Dict.readBackEntries .unsigned es)) := by
  have htokens := tokens?_of_before hes hkeys h hbefore
  have hdict : valueTokens (.dict es) = .blockMapping :: (entryTokens es ++ [.blockEnd]) := by
    obtain ⟨e, es, rfl⟩ := List.exists_cons_of_ne_nil hes
    rw [valueTokens]
  have hnode : Node.ofTokens? (.blockMapping :: (entryTokens es ++ [.blockEnd])) =
      some (some (.mapping none (entryNodes es))) := by
    have hread : Node.node .block
        (4 * (Token.blockMapping :: (entryTokens es ++ [.blockEnd])).length + 4)
        ⟨valueTokens (.dict es) ++ [], [], Node.defaultHandles⟩ =
          some (valueNode (.dict es), ⟨[], [], Node.defaultHandles⟩) :=
      Node.readsNode_written (.dict true hes hkeys h) (by simp) (.inl rfl) [] _
        (by rw [hdict]; omega) (by simp)
    rw [List.append_nil, hdict, valueNode] at hread
    rw [Node.ofTokens?, if_neg (by simp)]
    have hexplicit : (some Token.blockMapping == some Token.documentStart) = false := by decide
    simp only [Node.directives, Option.bind_eq_bind, Option.bind_some, List.head?_cons, hexplicit,
      Bool.false_and, Bool.false_eq_true, if_false, List.nil_append, hread]
    rfl
  have hentries := entryValues?_entryNodes fun e he => value?_valueNode (h e he) htop (hplain e he)
  rw [parse, htokens]
  simp only [Option.bind_eq_bind, Option.bind_some, hnode, hentries]
  rfl

end ConstantScan.Yaml
