import GenModel.Proofs.Declaration

/-!
# Writing a model as source

The models that a source can give are exactly the lists of well-formed declarations, and the
canonical text of such a list gives the list again.

That every model is well-formed is an invariant of the reader: the declaration that it holds is
well-formed in every state, since the lines that it reads consist of tokens. In the other
direction, the lines of the canonical text are cut into the tokens of one block for each
declaration, and the entries of that block are accepted and give the declaration.
-/

namespace GenModel

namespace Declaration

/-- The lines of a declaration in the canonical text. -/
def sourceLines (declaration : Declaration) : List String :=
  (declaration.kind.keyword ++ " " ++ declaration.name) :: "\x7b" ::
    declaration.entryTexts.map (fun entry => entry.1 ++ " " ++ entry.2) ++ ["\x7d"]

end Declaration

namespace Source

/-- The canonical text of a model. -/
def canonical (model : List Declaration) : String :=
  Text.unlines (model.flatMap Declaration.sourceLines)

/-- The declaration that the reader holds is well-formed. -/
def State.WellFormed : State → Prop
  | .outside => True
  | .declared declaration => declaration.WellFormed
  | .inside declaration => declaration.WellFormed

theorem Moves.wellFormed {state next : State} {lineTokens : List String}
    {closed : Option Declaration} (move : Moves state lineTokens closed next)
    (areTokens : ∀ token ∈ lineTokens, Text.IsToken token) (wellFormed : state.WellFormed) :
    next.WellFormed ∧ ∀ declaration ∈ closed, declaration.WellFormed := by
  cases move with
  | declare identifier =>
      exact ⟨Declaration.wellFormed_empty (isIdentifier_iff.mp identifier), by simp⟩
  | enter => exact ⟨wellFormed, by simp⟩
  | @entry declaration extended name value accepted =>
      have isName := areTokens name (by simp)
      have isValue := areTokens value (by simp)
      exact ⟨Declaration.WellFormed.add wellFormed isName isValue accepted, by simp⟩
  | @close declaration =>
      refine ⟨trivial, ?_⟩
      intro closed mem
      simp only [Option.mem_def, Option.some.injEq] at mem
      subst closed
      exact wellFormed

theorem Steps.wellFormed {state last : State} {lines : List (List String)}
    {model : List Declaration} (steps : Steps state lines model last)
    (areTokens : ∀ lineTokens ∈ lines, ∀ token ∈ lineTokens, Text.IsToken token)
    (wellFormed : state.WellFormed) : ∀ declaration ∈ model, declaration.WellFormed := by
  induction steps with
  | refl => simp
  | cons move steps ih =>
      rw [List.forall_mem_cons] at areTokens
      rcases move.wellFormed areTokens.1 wellFormed with ⟨nextWellFormed, closedWellFormed⟩
      intro declaration mem
      rw [List.mem_append, Option.mem_toList] at mem
      rcases mem with mem | mem
      · exact closedWellFormed declaration mem
      · exact ih areTokens.2 nextWellFormed declaration mem

theorem isToken_of_mem_tokenLines {lines : List String} {lineTokens : List String}
    (mem : lineTokens ∈ tokenLines lines) : ∀ token ∈ lineTokens, Text.IsToken token := by
  simp only [tokenLines, List.mem_filter, List.mem_map] at mem
  rcases mem with ⟨⟨line, -, rfl⟩, -⟩
  intro token tokenMem
  exact Text.isToken_of_mem_tokens tokenMem

theorem wellFormed_of_parse {text : String} {model : List Declaration}
    (parsed : parse text = .ok model) : ∀ declaration ∈ model, declaration.WellFormed := by
  rcases parse_eq_ok_iff_steps.mp parsed with ⟨last, steps⟩
  exact steps.wellFormed (fun _ mem => isToken_of_mem_tokenLines mem) trivial

theorem isGraphic_of_isLetterOrDigit {c : Char} (isLetterOrDigit : IsLetterOrDigit c) :
    Text.IsGraphic c := by
  rcases isLetterOrDigit with (bounds | bounds | rfl) | bounds
  · exact ⟨Char.le_trans (by decide) bounds.1, Char.le_trans bounds.2 (by decide)⟩
  · exact ⟨Char.le_trans (by decide) bounds.1, Char.le_trans bounds.2 (by decide)⟩
  · decide
  · exact ⟨Char.le_trans (by decide) bounds.1, Char.le_trans bounds.2 (by decide)⟩

theorem isBlank_of_isLetterOrDigit {c : Char} (isLetterOrDigit : IsLetterOrDigit c) :
    Text.isBlank c = false :=
  Text.isBlank_of_isGraphic (isGraphic_of_isLetterOrDigit isLetterOrDigit)

theorem isToken_of_identifier {name : String} (identifier : Identifier name) :
    Text.IsToken name := by
  rcases identifier with ⟨first, rest, characters, isLetter, areLettersOrDigits⟩
  refine ⟨?_, ?_⟩
  · rintro rfl
    simp at characters
  · rw [characters, List.forall_mem_cons]
    refine ⟨isBlank_of_isLetterOrDigit (Or.inl isLetter), ?_⟩
    intro c mem
    exact isBlank_of_isLetterOrDigit (areLettersOrDigits c mem)

theorem isToken_keyword (kind : Kind) : Text.IsToken kind.keyword := by
  apply isToken_of_identifier
  apply isIdentifier_iff.mp
  cases kind <;> decide

theorem isToken_brace : Text.IsToken "\x7b" ∧ Text.IsToken "\x7d" := by
  decide

theorem isToken_entryTexts {declaration : Declaration} (wellFormed : declaration.WellFormed) :
    ∀ entry ∈ declaration.entryTexts, Text.IsToken entry.1 ∧ Text.IsToken entry.2 := by
  cases declaration with
  | ofClass owner =>
      have isName := wellFormed.isToken
      have isType := wellFormed.types
      simp only [Declaration.entryNames, Declaration.memberTypes, List.forall_mem_map]
        at isName isType
      simp only [Declaration.entryTexts, List.forall_mem_map]
      intro member mem
      exact ⟨isName member mem, isType member mem⟩
  | ofEnum owner =>
      have isName := wellFormed.isToken
      simp only [Declaration.entryNames, List.forall_mem_map] at isName
      simp only [Declaration.entryTexts, List.forall_mem_map]
      intro entry mem
      exact ⟨isName entry mem, Text.isToken_decimal entry.value.toInt⟩

/-- The block that the canonical text has for a declaration. -/
def blockOf (declaration : Declaration) (wellFormed : declaration.WellFormed) : Block where
  kind := declaration.kind
  name := declaration.name
  entries := declaration.entryTexts
  identifier := wellFormed.identifier

theorem isLine_of_mem_sourceLines {declaration : Declaration}
    (wellFormed : declaration.WellFormed) :
    ∀ line ∈ declaration.sourceLines, Text.IsLine line := by
  intro line mem
  simp only [Declaration.sourceLines, List.cons_append, List.mem_cons, List.mem_append,
    List.mem_map, List.not_mem_nil, or_false] at mem
  rcases mem with rfl | rfl | ⟨entry, entryMem, rfl⟩ | rfl
  · exact Text.isLine_pair (isToken_keyword _) (isToken_of_identifier wellFormed.identifier)
  · exact Text.isLine_of_isToken isToken_brace.1
  · rcases isToken_entryTexts wellFormed entry entryMem with ⟨isName, isValue⟩
    exact Text.isLine_pair isName isValue
  · exact Text.isLine_of_isToken isToken_brace.2

theorem map_tokens_sourceLines {declaration : Declaration} (wellFormed : declaration.WellFormed) :
    declaration.sourceLines.map Text.tokens = (blockOf declaration wellFormed).lines := by
  have entries : declaration.entryTexts.map (Text.tokens ∘ fun entry => entry.1 ++ " " ++ entry.2)
      = declaration.entryTexts.map entryLine := by
    apply List.map_congr_left
    intro entry mem
    rcases isToken_entryTexts wellFormed entry mem with ⟨isName, isValue⟩
    exact Text.tokens_pair isName isValue
  simp only [Declaration.sourceLines, List.map_append, List.map_cons, List.map_map, List.map_nil]
  rw [entries, Text.tokens_pair (isToken_keyword _) (isToken_of_identifier wellFormed.identifier),
    Text.tokens_of_isToken isToken_brace.1, Text.tokens_of_isToken isToken_brace.2]
  rfl

theorem nil_not_mem_blockLines (block : Block) : [] ∉ block.lines := by
  simp [Block.lines, Block.openLines, openingLine, closingLine, entryLine]

theorem tokenLines_sourceLines {declaration : Declaration} (wellFormed : declaration.WellFormed) :
    tokenLines declaration.sourceLines = (blockOf declaration wellFormed).lines := by
  rw [tokenLines, map_tokens_sourceLines wellFormed, List.filter_eq_self]
  intro lineTokens mem
  have nonempty : lineTokens ≠ [] := by
    rintro rfl
    exact nil_not_mem_blockLines _ mem
  simpa using nonempty

theorem steps_canonical {model : List Declaration}
    (wellFormed : ∀ declaration ∈ model, declaration.WellFormed) :
    Steps .outside (tokenLines (model.flatMap Declaration.sourceLines)) model .outside := by
  induction model with
  | nil => exact .refl
  | cons declaration rest ih =>
      rw [List.forall_mem_cons] at wellFormed
      have first : Steps .outside (tokenLines declaration.sourceLines) [declaration] .outside := by
        rw [tokenLines_sourceLines wellFormed.1]
        exact Block.steps_lines (Declaration.addAll_entryTexts wellFormed.1)
      have both := first.append (ih wellFormed.2)
      simpa [tokenLines] using both

theorem parse_canonical {model : List Declaration}
    (wellFormed : ∀ declaration ∈ model, declaration.WellFormed) :
    parse (canonical model) = .ok model := by
  rw [parse_eq_ok_iff_steps, canonical, Text.lines_unlines]
  · exact ⟨.outside, steps_canonical wellFormed⟩
  · intro line mem
    rcases List.mem_flatMap.mp mem with ⟨declaration, declarationMem, lineMem⟩
    exact isLine_of_mem_sourceLines (wellFormed declaration declarationMem) line lineMem

/-- The declaration is one of those that a source gives. -/
def Readable (declaration : Declaration) : Prop :=
  ∃ text model, parse text = .ok model ∧ declaration ∈ model

theorem readable_iff {declaration : Declaration} :
    Readable declaration ↔ declaration.WellFormed := by
  constructor
  · rintro ⟨text, model, parsed, mem⟩
    exact wellFormed_of_parse parsed declaration mem
  · intro wellFormed
    have parsed : parse (canonical [declaration]) = .ok [declaration] :=
      parse_canonical (by simpa using wellFormed)
    exact ⟨canonical [declaration], [declaration], parsed, List.mem_singleton_self declaration⟩

/-- A source can give exactly the lists of well-formed declarations, and each of them is given by
its canonical text; so the canonical text of what was read is read as the same. -/
theorem exists_parse_iff_and_parse_canonical :
    (∀ model : List Declaration, (∃ text, parse text = .ok model) ↔
      ∀ declaration ∈ model, declaration.WellFormed) ∧
    (∀ model : List Declaration, (∀ declaration ∈ model, declaration.WellFormed) →
      parse (canonical model) = .ok model) ∧
    ∀ (text : String) (model : List Declaration), parse text = .ok model →
      parse (canonical model) = .ok model := by
  refine ⟨?_, ?_, ?_⟩
  · intro model
    constructor
    · rintro ⟨text, parsed⟩
      exact wellFormed_of_parse parsed
    · intro wellFormed
      exact ⟨canonical model, parse_canonical wellFormed⟩
  · intro model wellFormed
    exact parse_canonical wellFormed
  · intro text model parsed
    exact parse_canonical (wellFormed_of_parse parsed)

/-- A model with both ends of the range of values and with names that hold braces. -/
def extremes : List Declaration :=
  [
    .ofEnum ⟨"Range", [⟨"least", Int64.minValue⟩, ⟨"\x7d", Int64.maxValue⟩]⟩,
    .ofClass ⟨"_1", [⟨"\x7b", "list<\x7d>"⟩]⟩
  ]

theorem parse_canonical_extremes :
    (∀ declaration ∈ extremes, declaration.WellFormed) ∧
      parse (canonical extremes) = .ok extremes := by
  have wellFormed : ∀ declaration ∈ extremes, declaration.WellFormed := by decide +kernel
  exact ⟨wellFormed, exists_parse_iff_and_parse_canonical.2.1 extremes wellFormed⟩

end Source

end GenModel
