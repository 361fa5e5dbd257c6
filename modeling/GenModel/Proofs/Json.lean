import GenModel.Proofs.Dump
import Mathlib.Data.List.Forall2

/-!
# Models as JSON texts

A JSON text consists of tokens with blanks between them. The tokens of a model are an array of
objects, one for each declaration, which hold its kind, its name and its members or values. There
is more than one way to write them: blanks are free, and so is the choice between a character and
its escapes, unless it has to be escaped.

The printed lines of a model write these tokens in their order, and no token goes over the end of a
line. So lines can be moved in and put together without regard to what stands in them, and the
whole is a text of the model (`writes_model`).
-/

namespace GenModel

namespace Json

/-- What a JSON text consists of. -/
inductive Token where
  | mark (c : Char)
  | text (content : String)
  | number (value : Int)

/-- The tokens of an array, given those of its items. -/
def array (items : List (List Token)) : List Token :=
  [.mark '['] ++ [Token.mark ','].intercalate items ++ [.mark ']']

def field (name : String) (value : List Token) : List Token :=
  [.text name, .mark ':'] ++ value

def object (fields : List (List Token)) : List Token :=
  [.mark '\x7b'] ++ [Token.mark ','].intercalate fields ++ [.mark '\x7d']

def ofMember (member : Member) : List Token :=
  object [field "name" [.text member.name], field "declared_type" [.text member.declaredType]]

def ofValue (entry : EnumValue) : List Token :=
  object [field "name" [.text entry.name], field "value" [.number entry.value.toInt]]

def ofDeclaration : Declaration → List Token
  | .ofClass owner =>
    object [field "kind" [.text "class"], field "name" [.text owner.name],
      field "members" (array (owner.members.map ofMember))]
  | .ofEnum owner =>
    object [field "kind" [.text "enum"], field "name" [.text owner.name],
      field "values" (array (owner.values.map ofValue))]

/-- A model is an array of its declarations. -/
def ofModel (model : List Declaration) : List Token :=
  array (model.map ofDeclaration)

/-- The characters with a short escape, and the letters of the escapes. -/
def shortEscapes : List (Char × Char) :=
  [('"', '"'), ('\\', '\\'), ('/', '/'), ('\x08', 'b'), ('\x0c', 'f'), ('\n', 'n'), ('\r', 'r'),
    ('\t', 't')]

/-- How a character can stand in a string: as it is, with a short escape, or with its number in four
digits of base sixteen. -/
inductive Spells : Char → List Char → Prop where
  | plain {c : Char} : c ≠ '"' → c ≠ '\\' → 0x20 ≤ c.toNat → Spells c [c]
  | short {c letter : Char} : (c, letter) ∈ shortEscapes → Spells c ['\\', letter]
  | number {c : Char} (first second third fourth : Fin 16) :
      c.toNat = ((16 * first + second) * 16 + third) * 16 + fourth →
      Spells c (['\\', 'u'] ++ [first, second, third, fourth].map fun digit => Nat.digitChar digit)

/-- How a token can be written. -/
inductive Token.Spells : Token → String → Prop where
  | mark (c : Char) : Spells (.mark c) (String.singleton c)
  | text {content : String} {characters : List (List Char)} :
      List.Forall₂ Json.Spells content.toList characters →
      Spells (.text content) (String.ofList ('"' :: characters.flatten ++ ['"']))
  | number (value : Int) : Spells (.number value) (toString value)

/-- The text holds only what may stand between tokens. -/
def IsBlank (text : String) : Prop :=
  ∀ c ∈ text.toList, c ∈ [' ', '\t', '\n', '\r']

instance (text : String) : Decidable (IsBlank text) :=
  decidable_of_iff ((text.toList.all fun c => [' ', '\t', '\n', '\r'].contains c) = true)
    (by simp [IsBlank])

/-- How tokens can be written one after the other. -/
inductive Writes : List Token → String → Prop where
  | nil {blank : String} : IsBlank blank → Writes [] blank
  | cons {token : Token} {tokens : List Token} {blank written rest : String} :
      IsBlank blank → token.Spells written → Writes tokens rest →
      Writes (token :: tokens) (blank ++ written ++ rest)

section Texts

variable {token : Token} {tokens front back : List Token} {text rest blank : String}

theorem IsBlank.append (isBlank : IsBlank blank) (restBlank : IsBlank rest) :
    IsBlank (blank ++ rest) := by
  intro c mem
  rw [String.toList_append, List.mem_append] at mem
  rcases mem with mem | mem
  · exact isBlank c mem
  · exact restBlank c mem

theorem Writes.blank_append (isBlank : IsBlank blank) (writes : Writes tokens text) :
    Writes tokens (blank ++ text) := by
  cases writes with
  | nil restBlank => exact .nil (isBlank.append restBlank)
  | cons restBlank spells writesRest =>
      rw [← String.append_assoc, ← String.append_assoc]
      exact .cons (isBlank.append restBlank) spells writesRest

theorem Writes.append (writesFront : Writes front text) (writesBack : Writes back rest) :
    Writes (front ++ back) (text ++ rest) := by
  induction writesFront with
  | nil isBlank => exact writesBack.blank_append isBlank
  | cons isBlank spells _ ih =>
      rw [List.cons_append, String.append_assoc]
      exact .cons isBlank spells ih

theorem writes_of_spells (spells : token.Spells text) : Writes [token] text := by
  have writes : Writes [token] ("" ++ text ++ "") :=
    .cons (by decide) spells (.nil (by decide))
  rwa [String.empty_append, String.append_empty] at writes

theorem spells_numberEscape {c : Char} (control : c.toNat < 0x20) :
    Spells c (Dump.numberEscape c) := by
  have number : c.toNat = ((16 * 0 + 0) * 16 + c.toNat / 16) * 16 + c.toNat % 16 := by
    omega
  exact .number 0 0 ⟨c.toNat / 16, by omega⟩ ⟨c.toNat % 16, by omega⟩ number

theorem spells_stringChar (c : Char) : Spells c (Dump.stringChar c) := by
  have short {known letter : Char} (mem : (known, letter) ∈ shortEscapes) (same : c = known) :
      Spells c ['\\', letter] :=
    same ▸ .short mem
  unfold Dump.stringChar
  split_ifs with quote backslash backspace tab feed formFeed carriage control
  · exact short (by decide) quote
  · exact short (by decide) backslash
  · exact short (by decide) backspace
  · exact short (by decide) tab
  · exact short (by decide) feed
  · exact short (by decide) formFeed
  · exact short (by decide) carriage
  · exact spells_numberEscape control
  · exact .plain quote backslash (Nat.not_lt.mp control)

theorem spells_string (content : String) : (Token.text content).Spells (Dump.string content) := by
  have characters : List.Forall₂ Spells content.toList (content.toList.map Dump.stringChar) := by
    rw [List.forall₂_map_right_iff, List.forall₂_same]
    intro c mem
    exact spells_stringChar c
  exact .text characters

theorem spells_decimal (value : Int) : (Token.number value).Spells (Text.decimal value) := by
  rw [Text.decimal_eq_toString]
  exact .number value

end Texts

/-- Each of the lines writes a part of the tokens. -/
inductive LinesWrite : List Token → List String → Prop where
  | nil : LinesWrite [] []
  | cons {front back : List Token} {line : String} {rest : List String} :
      Writes front line → LinesWrite back rest → LinesWrite (front ++ back) (line :: rest)

section Lines

variable {tokens front back : List Token} {block rest : List String} {line more : String}

theorem linesWrite_singleton (writes : Writes tokens line) : LinesWrite tokens [line] := by
  have lines := LinesWrite.cons writes .nil
  rwa [List.append_nil] at lines

theorem LinesWrite.append (writesFront : LinesWrite front block)
    (writesBack : LinesWrite back rest) : LinesWrite (front ++ back) (block ++ rest) := by
  induction writesFront with
  | nil => exact writesBack
  | cons writes _ ih =>
      rw [List.append_assoc]
      exact .cons writes ih

theorem LinesWrite.indent (writes : LinesWrite tokens block) :
    LinesWrite tokens (Dump.indent block) := by
  induction writes with
  | nil => exact .nil
  | cons writesLine _ ih => exact .cons (writesLine.blank_append (by decide)) ih

theorem LinesWrite.extendLast (writesBlock : LinesWrite front block)
    (writesMore : Writes back more) :
    LinesWrite (front ++ back) (Dump.extendLast block more) := by
  -- Only the last line grows, the parts of the tokens before it stay as they are.
  induction writesBlock with
  | nil => exact linesWrite_singleton writesMore
  | cons writesLine writesRest ih =>
      cases writesRest with
      | nil =>
          rw [List.append_nil]
          exact linesWrite_singleton (writesLine.append writesMore)
      | cons _ _ =>
          rw [List.append_assoc]
          exact .cons writesLine ih

theorem LinesWrite.writes (lines : LinesWrite tokens block) :
    Writes tokens (Text.joinLines block) := by
  induction lines with
  | nil => exact .nil (by decide)
  | @cons front back line rest writesLine writesRest ih =>
      by_cases last : rest = []
      · subst rest
        cases writesRest
        rwa [List.append_nil, Text.joinLines_singleton]
      · rw [Text.joinLines_cons last, String.append_assoc]
        exact writesLine.append (ih.blank_append (by decide))

end Lines

section Blocks

variable {items : List (List Token)} {blocks : List (List String)}

theorem writes_mark (c : Char) : Writes [.mark c] (String.singleton c) :=
  writes_of_spells (.mark c)

theorem linesWrite_separate (writes : List.Forall₂ LinesWrite items blocks) :
    LinesWrite ([Token.mark ','].intercalate items) (Dump.separate blocks) := by
  induction writes with
  | nil => exact .nil
  | @cons item block restItems restBlocks writesItem writesRest ih =>
      cases writesRest with
      | nil => simpa [Dump.separate] using writesItem
      | cons _ _ =>
          rw [List.intercalate_cons_cons]
          exact (writesItem.extendLast (writes_mark ',')).append ih

theorem linesWrite_between {first last : Char} (writes : List.Forall₂ LinesWrite items blocks) :
    LinesWrite ([.mark first] ++ [Token.mark ','].intercalate items ++ [.mark last])
      ([String.singleton first] ++ Dump.indent (Dump.separate blocks) ++
        [String.singleton last]) :=
  ((linesWrite_singleton (writes_mark first)).append (linesWrite_separate writes).indent).append
    (linesWrite_singleton (writes_mark last))

theorem linesWrite_object (writes : List.Forall₂ LinesWrite items blocks) :
    LinesWrite (object items) (Dump.object blocks) :=
  linesWrite_between writes

theorem linesWrite_array (writes : List.Forall₂ LinesWrite items blocks) :
    LinesWrite (array items) (Dump.array blocks) := by
  rw [Dump.array]
  split
  · next isEmpty =>
      rw [List.isEmpty_iff] at isEmpty
      subst blocks
      cases writes
      exact linesWrite_singleton ((writes_mark '[').append (writes_mark ']'))
  · exact linesWrite_between writes

theorem linesWrite_array_map {Entry : Type} {tokens : Entry → List Token}
    {write : Entry → List String} (writes : ∀ entry, LinesWrite (tokens entry) (write entry))
    (entries : List Entry) :
    LinesWrite (array (entries.map tokens)) (Dump.array (entries.map write)) := by
  apply linesWrite_array
  rw [List.forall₂_map_left_iff, List.forall₂_map_right_iff, List.forall₂_same]
  intro entry mem
  exact writes entry

theorem linesWrite_field (name : String) {value : List Token} {block : List String}
    (nonempty : block ≠ []) (writes : LinesWrite value block) :
    LinesWrite (field name value) (Dump.field name block) := by
  cases writes with
  | nil => exact absurd rfl nonempty
  | cons writesLine writesRest =>
      have colon : Writes [.mark ':'] ": " :=
        (writes_mark ':').append (.nil (by decide : IsBlank " "))
      have front := ((writes_of_spells (spells_string name)).append colon).append writesLine
      rw [field, ← List.append_assoc]
      exact .cons front writesRest

theorem linesWrite_text (name content : String) :
    LinesWrite (field name [.text content]) (Dump.field name [Dump.string content]) :=
  linesWrite_field name (List.cons_ne_nil _ _)
    (linesWrite_singleton (writes_of_spells (spells_string content)))

theorem linesWrite_number (name : String) (value : Int) :
    LinesWrite (field name [.number value]) (Dump.field name [Text.decimal value]) :=
  linesWrite_field name (List.cons_ne_nil _ _)
    (linesWrite_singleton (writes_of_spells (spells_decimal value)))

end Blocks

theorem linesWrite_member (member : Member) : LinesWrite (ofMember member) (Dump.member member) :=
  linesWrite_object (.cons (linesWrite_text _ _) (.cons (linesWrite_text _ _) .nil))

theorem linesWrite_value (entry : EnumValue) : LinesWrite (ofValue entry) (Dump.enumValue entry) :=
  linesWrite_object (.cons (linesWrite_text _ _) (.cons (linesWrite_number _ _) .nil))

theorem linesWrite_declaration (declaration : Declaration) :
    LinesWrite (ofDeclaration declaration) (Dump.declaration declaration) := by
  cases declaration with
  | ofClass owner =>
      have members := linesWrite_field "members" (Dump.array_ne_nil _)
        (linesWrite_array_map linesWrite_member owner.members)
      exact linesWrite_object
        (.cons (linesWrite_text _ _) (.cons (linesWrite_text _ _) (.cons members .nil)))
  | ofEnum owner =>
      have values := linesWrite_field "values" (Dump.array_ne_nil _)
        (linesWrite_array_map linesWrite_value owner.values)
      exact linesWrite_object
        (.cons (linesWrite_text _ _) (.cons (linesWrite_text _ _) (.cons values .nil)))

/-- A printed model is a JSON text of the model. -/
theorem writes_model (model : List Declaration) :
    Writes (ofModel model) (Dump.model model ++ "\n") := by
  have lines := linesWrite_array_map linesWrite_declaration model
  have ended := lines.writes.append (.nil (by decide : IsBlank "\n"))
  rwa [List.append_nil] at ended

end Json

end GenModel
