import PackQuery.Proofs.Yaml.Tokens
import PackQuery.Yaml.Reader

/-!
# Reading the nodes of what is written

What is written for an outline is read as the node of the outline (`read?_document`): texts keep the
style they are written in, and a table is a mapping with its entries in order.
-/

namespace PackQuery.Yaml

/-! ## The node of an outline -/

mutual

/-- The node that is read for an outline. -/
def Outline.node : Outline → Yaml
  | .bool b => .scalar { text := if b then "true" else "false" }
  | .text s => .scalar { text := s, style := Style.ofText s.toList }
  | .table entries => .mapping (entriesNodes entries)

/-- The nodes that are read for the entries of a table. -/
def entriesNodes : List (String × Outline) → List (Yaml × Yaml)
  | [] => []
  | (k, v) :: es =>
    (.scalar { text := k, style := Style.ofText k.toList }, v.node) :: entriesNodes es

end

/-! ## Nodes -/

variable {handles : Handles} {names : Dict Nat} {rest : List Token}

theorem node?_scalar (fuel : Nat) (indentless : Bool) (style : ScalarStyle) (text : String) :
    node? (fuel + 2) handles true indentless ⟨.scalar style text :: rest, names⟩ =
      some (.scalar { text, style }, ⟨rest, names⟩) := rfl

theorem node?_emptyTable (fuel : Nat) (indentless : Bool) :
    node? (fuel + 3) handles true indentless ⟨.openBrace :: .closeBrace :: rest, names⟩ =
      some (.mapping [], ⟨rest, names⟩) := rfl

theorem node?_mappingStart (fuel : Nat) (indentless : Bool) :
    node? (fuel + 2) handles true indentless ⟨.mappingStart :: rest, names⟩ =
      (blockEntries? fuel handles ⟨rest, names⟩).map fun (entries, t) => (.mapping entries, t) :=
  rfl

/-- The tokens that a key or a value ends in front of. -/
def entryStops : List Token := [.key, .value, .blockEnd]

theorem blockEntries?_cons (fuel : Nat) (style : ScalarStyle) (text : String)
    (hrest : rest.head?.any entryStops.contains = false) :
    blockEntries? (fuel + 3) handles ⟨.key :: .scalar style text :: .value :: rest, names⟩ =
      (node? (fuel + 2) handles true true ⟨rest, names⟩).bind fun (v, s) =>
        (blockEntries? (fuel + 2) handles s).map fun (es, s) =>
          ((.scalar { text, style }, v) :: es, s) := by
  have hvalue : orEmpty entryStops (node? (fuel + 2) handles true true) ⟨rest, names⟩ =
      node? (fuel + 2) handles true true ⟨rest, names⟩ := by
    show (if rest.head?.any entryStops.contains then _ else _) = _
    rw [hrest]
    rfl
  have hkey :
      blockEntries? (fuel + 3) handles ⟨.key :: .scalar style text :: .value :: rest, names⟩ =
        (orEmpty entryStops (node? (fuel + 2) handles true true) ⟨rest, names⟩).bind fun (v, s) =>
          (blockEntries? (fuel + 2) handles s).bind fun (es, s) =>
            some ((.scalar { text, style }, v) :: es, s) := rfl
  rw [hkey, hvalue]
  simp only [Option.map_eq_bind]
  rfl

theorem head?_tokens (v : Outline) (rest : List Token) :
    (v.tokens ++ rest).head?.any entryStops.contains = false := by
  unfold Outline.tokens
  split <;> rfl

mutual

/-- **The tokens of an outline are read as its node.** -/
theorem node?_tokens (v : Outline) (fuel : Nat) (indentless : Bool) (rest : List Token)
    (hfuel : 2 * v.tokens.length ≤ fuel) :
    node? fuel handles true indentless ⟨v.tokens ++ rest, names⟩ =
      some (v.node, ⟨rest, names⟩) := by
  match v with
  | .bool b =>
    obtain ⟨fuel, rfl⟩ : ∃ f, fuel = f + 2 := ⟨fuel - 2, by simp [Outline.tokens] at hfuel; omega⟩
    cases b <;> rfl
  | .text s =>
    obtain ⟨fuel, rfl⟩ : ∃ f, fuel = f + 2 := ⟨fuel - 2, by simp [Outline.tokens] at hfuel; omega⟩
    rw [Outline.tokens, Outline.node]
    exact node?_scalar fuel indentless _ s
  | .table [] =>
    obtain ⟨fuel, rfl⟩ : ∃ f, fuel = f + 3 := ⟨fuel - 3, by simp [Outline.tokens] at hfuel; omega⟩
    rw [Outline.tokens, Outline.node]
    exact node?_emptyTable fuel indentless
  | .table ((k, v) :: es) =>
    have htokens : (Outline.table ((k, v) :: es)).tokens ++ rest =
        .mappingStart :: (entriesTokens ((k, v) :: es) ++ .blockEnd :: rest) := by
      simp [Outline.tokens, entriesTokens]
    have hlength : (Outline.table ((k, v) :: es)).tokens.length =
        (entriesTokens ((k, v) :: es)).length + 2 := by
      simp [Outline.tokens, entriesTokens]
      omega
    obtain ⟨fuel, rfl⟩ : ∃ f, fuel = f + 2 := ⟨fuel - 2, by omega⟩
    rw [htokens, node?_mappingStart, blockEntries?_tokens ((k, v) :: es) fuel rest (by omega),
      Outline.node]
    rfl

/-- The tokens of the entries of a table are read as its entries. -/
theorem blockEntries?_tokens (es : List (String × Outline)) (fuel : Nat) (rest : List Token)
    (hfuel : 2 * (entriesTokens es).length + 2 ≤ fuel) :
    blockEntries? fuel handles ⟨entriesTokens es ++ .blockEnd :: rest, names⟩ =
      some (entriesNodes es, ⟨rest, names⟩) := by
  match es with
  | [] =>
    obtain ⟨fuel, rfl⟩ : ∃ f, fuel = f + 1 := ⟨fuel - 1, by omega⟩
    rfl
  | (k, v) :: es =>
    simp only [entriesTokens, List.cons_append, List.length_cons, List.length_append] at hfuel
    obtain ⟨fuel, rfl⟩ : ∃ f, fuel = f + 3 := ⟨fuel - 3, by omega⟩
    simp only [entriesTokens, List.cons_append, List.append_assoc]
    rw [blockEntries?_cons fuel _ k (head?_tokens v _), node?_tokens v (fuel + 2) true _ (by omega)]
    show (blockEntries? (fuel + 2) handles ⟨_, names⟩).map _ = _
    rw [blockEntries?_tokens es (fuel + 2) rest (by omega), entriesNodes]
    rfl

end

/-! ## Documents -/

/-- **A document is read as the node of its table.** -/
theorem read?_document (e : String × Outline) (es : List (String × Outline)) :
    read? (document (e :: es)) = some (Outline.table (e :: es)).node := by
  rw [read?, tokens?_document, Option.bind_some]
  have hroot : node? (4 * (Outline.table (e :: es)).tokens.length + 4) standardHandles true false
      ⟨(Outline.table (e :: es)).tokens ++ [], .empty⟩ = some (_, ⟨[], .empty⟩) :=
    node?_tokens (.table (e :: es)) _ false [] (by omega)
  rw [List.append_nil] at hroot
  have hstart : ∃ rest, (Outline.table (e :: es)).tokens = .mappingStart :: rest := by
    obtain ⟨k, v⟩ := e
    exact ⟨_, rfl⟩
  generalize (Outline.table (e :: es)).tokens = toks at hroot hstart
  obtain ⟨rest, rfl⟩ := hstart
  have hdocument : document? (.mappingStart :: rest) =
      (node? (4 * (Token.mappingStart :: rest).length + 4) standardHandles true false
        ⟨.mappingStart :: rest, .empty⟩).bind fun (root, s) =>
          if s.tokens.all (· == .documentEnd) then some root else none := by
    rw [document?]
    simp [declarations?]
  rw [hdocument, hroot]
  rfl

end PackQuery.Yaml
