import GenModel.Dump
import GenModel.Proofs.Render.Page

/-!
# What the JSON of a model determines

Names and types may hold quotes, braces, commas and control characters, and none of them can be
mistaken for the structure around it. A string keeps every character apart: no escape is the
beginning of another one. A line feed is never written inside of a line, so that the text
determines its lines. And the lines between the braces of an object are moved in by one level, so
that the first line that is not shows where the object ends.
-/

namespace GenModel

namespace Dump

/-- The characters that a JSON string does not hold as they are. -/
def escapedChars : List Char :=
  '"' :: '\\' :: (List.range 0x20).map Char.ofNat

section Strings

variable {c other : Char}

theorem mem_escapedChars_of_lt (control : c.toNat < 0x20) : c ∈ escapedChars := by
  have mem : Char.ofNat c.toNat ∈ (List.range 0x20).map Char.ofNat :=
    List.mem_map_of_mem (List.mem_range.mpr control)
  rw [Char.ofNat_toNat] at mem
  exact List.mem_cons_of_mem _ (List.mem_cons_of_mem _ mem)

theorem stringChar_of_not_mem (plain : c ∉ escapedChars) : stringChar c = [c] := by
  have different (known : Char) (mem : known ∈ escapedChars) : c ≠ known := by
    rintro rfl
    exact plain mem
  have printable : ¬c.toNat < 0x20 := by
    intro control
    exact plain (mem_escapedChars_of_lt control)
  simp only [stringChar, different '"' (by decide), different '\\' (by decide),
    different '\x08' (by decide), different '\t' (by decide), different '\n' (by decide),
    different '\x0c' (by decide), different '\r' (by decide), printable, if_false]

theorem head?_stringChar_eq_backslash_iff :
    (stringChar c).head? = some '\\' ↔ c ∈ escapedChars := by
  have checked : escapedChars.all fun c => (stringChar c).head? = some '\\' := by
    decide +kernel
  simp only [List.all_eq_true, decide_eq_true_eq] at checked
  constructor
  · intro begins
    by_cases mem : c ∈ escapedChars
    · exact mem
    · rw [stringChar_of_not_mem mem, List.head?_cons, Option.some.injEq] at begins
      subst c
      decide
  · exact checked c

theorem stringChar_ne_nil (c : Char) : stringChar c ≠ [] := by
  by_cases mem : c ∈ escapedChars
  · intro empty
    simp [← head?_stringChar_eq_backslash_iff, empty] at mem
  · simp [stringChar_of_not_mem mem]

/-- The characters of a string are written in a prefix code. -/
theorem eq_of_stringChar_isPrefix (shorter : stringChar c <+: stringChar other) : c = other := by
  have checked : escapedChars.all fun c => escapedChars.all fun other =>
      stringChar c <+: stringChar other → c = other := by
    decide +kernel
  simp only [List.all_eq_true, decide_eq_true_eq] at checked
  have sameHead : (stringChar c).head? = (stringChar other).head? := by
    rcases shorter with ⟨more, extended⟩
    rw [← extended]
    cases written : stringChar c with
    | nil => exact absurd written (stringChar_ne_nil c)
    | cons first others => rfl
  by_cases mem : c ∈ escapedChars
  · have otherMem : other ∈ escapedChars := by
      rwa [← head?_stringChar_eq_backslash_iff, ← sameHead, head?_stringChar_eq_backslash_iff]
    exact checked c mem other otherMem shorter
  · have otherPlain : other ∉ escapedChars := by
      rwa [← head?_stringChar_eq_backslash_iff, ← sameHead, head?_stringChar_eq_backslash_iff]
    simpa [stringChar_of_not_mem mem, stringChar_of_not_mem otherPlain] using sameHead

theorem stringChar_append_inj {rest tail : List Char}
    (same : stringChar c ++ rest = stringChar other ++ tail) : c = other ∧ rest = tail := by
  have front : stringChar c <+: stringChar other ++ tail := ⟨rest, same⟩
  have charEq : c = other := by
    rcases List.prefix_or_prefix_of_prefix front (List.prefix_append _ _) with shorter | longer
    · exact eq_of_stringChar_isPrefix shorter
    · exact (eq_of_stringChar_isPrefix longer).symm
  subst other
  exact ⟨rfl, List.append_cancel_left same⟩

theorem flatMap_stringChar_inj {first second : List Char}
    (same : first.flatMap stringChar = second.flatMap stringChar) : first = second := by
  induction first generalizing second with
  | nil =>
      cases second with
      | nil => rfl
      | cons other more =>
          rw [List.flatMap_nil, List.flatMap_cons, eq_comm, List.append_eq_nil_iff] at same
          exact absurd same.1 (stringChar_ne_nil other)
  | cons c rest ih =>
      cases second with
      | nil =>
          rw [List.flatMap_nil, List.flatMap_cons, List.append_eq_nil_iff] at same
          exact absurd same.1 (stringChar_ne_nil c)
      | cons other more =>
          rw [List.flatMap_cons, List.flatMap_cons] at same
          rcases stringChar_append_inj same with ⟨rfl, sameRest⟩
          rw [ih sameRest]

theorem string_inj {first second : String} (same : string first = string second) :
    first = second := by
  rw [string, string, String.ofList_inj, List.cons_append, List.cons_append,
    List.cons.injEq] at same
  exact String.toList_inj.mp (flatMap_stringChar_inj (List.append_cancel_right same.2))

theorem ne_break_of_mem_stringChar {written : Char} (mem : written ∈ stringChar c) :
    written ≠ '\n' ∧ written ≠ '\r' := by
  have checked : escapedChars.all fun c => (stringChar c).all fun written =>
      written ≠ '\n' ∧ written ≠ '\r' := by
    decide +kernel
  simp only [List.all_eq_true, decide_eq_true_eq] at checked
  by_cases escaped : c ∈ escapedChars
  · exact checked c escaped written mem
  · rw [stringChar_of_not_mem escaped, List.mem_singleton] at mem
    subst written
    refine ⟨?_, ?_⟩
    · rintro rfl
      exact escaped (by decide)
    · rintro rfl
      exact escaped (by decide)

theorem isLine_string (text : String) : Text.IsLine (string text) := by
  intro written mem
  simp only [string, String.toList_ofList, List.cons_append, List.mem_cons, List.mem_append,
    List.mem_flatMap, List.not_mem_nil, or_false] at mem
  rcases mem with rfl | ⟨c, -, writtenMem⟩ | rfl
  · decide
  · exact ne_break_of_mem_stringChar writtenMem
  · decide

end Strings

section Blocks

/-- The first line that is not moved in shows where the lines end that are. -/
theorem indent_append_inj {front back rest tail : List String} {line other : String}
    (lineOut : ¬Text.Begins ' ' line) (otherOut : ¬Text.Begins ' ' other)
    (same : indent front ++ line :: rest = indent back ++ other :: tail) :
    front = back ∧ rest = tail := by
  have movedIn (inner : String) : Text.Begins ' ' ("  " ++ inner) :=
    Text.Begins.append (by decide) inner
  induction front generalizing back with
  | nil =>
      cases back with
      | nil =>
          simp only [indent, List.map_nil, List.nil_append, List.cons.injEq] at same
          exact ⟨rfl, same.2⟩
      | cons second others =>
          simp only [indent, List.map_nil, List.map_cons, List.nil_append, List.cons_append,
            List.cons.injEq] at same
          exact absurd (same.1 ▸ movedIn second) lineOut
  | cons first more ih =>
      cases back with
      | nil =>
          simp only [indent, List.map_nil, List.map_cons, List.nil_append, List.cons_append,
            List.cons.injEq] at same
          exact absurd (same.1 ▸ movedIn first) otherOut
      | cons second others =>
          simp only [indent, List.map_cons, List.cons_append, List.cons.injEq,
            String.append_right_inj] at same
          rcases ih same.2 with ⟨moreEq, restEq⟩
          rw [same.1, moreEq]
          exact ⟨rfl, restEq⟩

theorem extendLast_append_singleton (block : List String) (last more : String) :
    extendLast (block ++ [last]) more = block ++ [last ++ more] := by
  induction block with
  | nil => rfl
  | cons line rest ih =>
      cases rest with
      | nil => rfl
      | cons next others =>
          rw [List.cons_append, List.cons_append, extendLast, ← List.cons_append, ih]
          · rfl
          · simp

/-- The line that ends an object when the others follow it. -/
def closing (others : List (List String)) : String :=
  if others.isEmpty then "\x7d" else "\x7d,"

theorem not_begins_closing (others : List (List String)) : ¬Text.Begins ' ' (closing others) := by
  rw [closing]
  split <;> decide

theorem separate_object_cons (fields others : List (List String)) :
    separate (object fields :: others) =
      "\x7b" :: (indent (separate fields) ++ closing others :: separate others) := by
  cases others with
  | nil => simp [separate, object, closing]
  | cons next more =>
      rw [separate, object, extendLast_append_singleton]
      · simp [closing]
      · simp

theorem object_inj {first second : List (List String)} (same : object first = object second) :
    separate first = separate second := by
  have sameLines : indent (separate first) ++ ["\x7d"] = indent (separate second) ++ ["\x7d"] := by
    simpa only [object, List.cons_append, List.nil_append, List.cons.injEq, true_and] using same
  exact (indent_append_inj (by decide) (by decide) sameLines).1

/-- The lines are those of an object. -/
def IsObject (block : List String) : Prop :=
  ∃ fields, block = object fields

-- The number of objects is not known beforehand, so the induction is on both lists at once. The
-- commas need no attention: a closing line is not moved in, whether it has a comma or not.
theorem separate_inj {first second : List (List String)}
    (firstObjects : ∀ block ∈ first, IsObject block)
    (secondObjects : ∀ block ∈ second, IsObject block)
    (same : separate first = separate second) : first = second := by
  induction first generalizing second with
  | nil =>
      cases second with
      | nil => rfl
      | cons block others =>
          rcases secondObjects block List.mem_cons_self with ⟨fields, rfl⟩
          simp [separate_object_cons, separate] at same
  | cons block others ih =>
      rw [List.forall_mem_cons] at firstObjects
      rcases firstObjects with ⟨⟨fields, rfl⟩, othersObjects⟩
      cases second with
      | nil => simp [separate_object_cons, separate] at same
      | cons otherBlock more =>
          rw [List.forall_mem_cons] at secondObjects
          rcases secondObjects with ⟨⟨otherFields, rfl⟩, moreObjects⟩
          rw [separate_object_cons, separate_object_cons, List.cons.injEq] at same
          rcases indent_append_inj (not_begins_closing _) (not_begins_closing _) same.2 with
            ⟨sameFields, sameRest⟩
          rw [ih othersObjects moreObjects sameRest, object, object, sameFields]

theorem array_inj {first second : List (List String)}
    (firstObjects : ∀ block ∈ first, IsObject block)
    (secondObjects : ∀ block ∈ second, IsObject block)
    (same : array first = array second) : first = second := by
  have brackets : "[]" ≠ "[" := by
    decide
  by_cases firstEmpty : first = []
  · by_cases secondEmpty : second = []
    · rw [firstEmpty, secondEmpty]
    · simp [array, firstEmpty, secondEmpty, brackets] at same
  · by_cases secondEmpty : second = []
    · simp [array, firstEmpty, secondEmpty, brackets.symm] at same
    · simp only [array, List.isEmpty_iff, firstEmpty, secondEmpty, if_false, List.cons_append,
        List.nil_append, List.cons.injEq, true_and] at same
      exact separate_inj firstObjects secondObjects
        (indent_append_inj (by decide) (by decide) same).1

/-- An array determines what its objects are written for, if every object does. -/
theorem array_map_inj {Entry : Type} {write : Entry → List String}
    (areObjects : ∀ entry, IsObject (write entry))
    (determines : ∀ entry other, write entry = write other → entry = other)
    {first second : List Entry} (same : array (first.map write) = array (second.map write)) :
    first = second := by
  have objects (entries : List Entry) : ∀ block ∈ entries.map write, IsObject block := by
    rw [List.forall_mem_map]
    intro entry _
    exact areObjects entry
  exact (List.map_inj_right determines).mp (array_inj (objects first) (objects second) same)

theorem field_inj {name : String} {first second : List String}
    (same : field name first = field name second) : first = second := by
  cases first with
  | nil =>
      cases second with
      | nil => rfl
      | cons line rest => simp [field] at same
  | cons line rest =>
      cases second with
      | nil => simp [field] at same
      | cons other more =>
          rw [field, field, List.cons.injEq, String.append_right_inj] at same
          rw [same.1, same.2]

theorem separate_field_cons_inj {name first second : String} {next after : List String}
    {others more : List (List String)}
    (same : separate (field name [first] :: next :: others) =
      separate (field name [second] :: after :: more)) :
    first = second ∧ separate (next :: others) = separate (after :: more) := by
  have parts := List.cons.inj same
  rw [String.append_left_inj, String.append_right_inj] at parts
  exact parts

end Blocks

section Declarations

theorem member_inj {first second : Member} (same : member first = member second) :
    first = second := by
  rcases separate_field_cons_inj (object_inj same) with ⟨sameName, sameRest⟩
  have sameType := (List.cons.inj (field_inj sameRest)).1
  rcases first with ⟨name, declaredType⟩
  rcases second with ⟨otherName, otherType⟩
  rw [Member.mk.injEq]
  exact ⟨string_inj sameName, string_inj sameType⟩

theorem enumValue_inj {first second : EnumValue} (same : enumValue first = enumValue second) :
    first = second := by
  rcases separate_field_cons_inj (object_inj same) with ⟨sameName, sameRest⟩
  have sameValue := (List.cons.inj (field_inj sameRest)).1
  rcases first with ⟨name, value⟩
  rcases second with ⟨otherName, otherValue⟩
  rw [EnumValue.mk.injEq]
  exact ⟨string_inj sameName, Text.decimal_inj sameValue⟩

theorem class_ne_enum (owner : Class) (other : Enum) :
    declaration (.ofClass owner) ≠ declaration (.ofEnum other) := by
  intro same
  have sameKind := string_inj (separate_field_cons_inj (object_inj same)).1
  exact absurd sameKind (by decide)

theorem declaration_inj {first second : Declaration}
    (same : declaration first = declaration second) : first = second := by
  cases first with
  | ofClass owner =>
      cases second with
      | ofEnum other => exact absurd same (class_ne_enum owner other)
      | ofClass other =>
          rcases separate_field_cons_inj (object_inj same) with ⟨-, sameRest⟩
          rcases separate_field_cons_inj sameRest with ⟨sameName, sameLast⟩
          have sameMembers := array_map_inj (fun entry => ⟨_, rfl⟩) (fun _ _ => member_inj)
            (field_inj sameLast)
          rcases owner with ⟨name, members⟩
          rcases other with ⟨otherName, otherMembers⟩
          rw [Declaration.ofClass.injEq, Class.mk.injEq]
          exact ⟨string_inj sameName, sameMembers⟩
  | ofEnum owner =>
      cases second with
      | ofClass other => exact absurd same.symm (class_ne_enum other owner)
      | ofEnum other =>
          rcases separate_field_cons_inj (object_inj same) with ⟨-, sameRest⟩
          rcases separate_field_cons_inj sameRest with ⟨sameName, sameLast⟩
          have sameValues := array_map_inj (fun entry => ⟨_, rfl⟩) (fun _ _ => enumValue_inj)
            (field_inj sameLast)
          rcases owner with ⟨name, values⟩
          rcases other with ⟨otherName, otherValues⟩
          rw [Declaration.ofEnum.injEq, Enum.mk.injEq]
          exact ⟨string_inj sameName, sameValues⟩

end Declarations

/-- No line of the block is broken. -/
def AreLines (block : List String) : Prop :=
  ∀ line ∈ block, Text.IsLine line

section Lines

variable {block : List String} {blocks : List (List String)}

theorem areLines_singleton {line : String} (isLine : Text.IsLine line) : AreLines [line] := by
  intro other mem
  rw [List.mem_singleton] at mem
  rwa [mem]

theorem areLines_indent (areLines : AreLines block) : AreLines (indent block) := by
  intro line mem
  rcases List.mem_map.mp mem with ⟨inner, innerMem, rfl⟩
  exact Text.isLine_append_iff.mpr ⟨by decide, areLines inner innerMem⟩

theorem areLines_extendLast {more : String} (areLines : AreLines block)
    (isLine : Text.IsLine more) : AreLines (extendLast block more) := by
  fun_induction extendLast block more with
  | case1 => exact areLines_singleton isLine
  | case2 last =>
      exact areLines_singleton (Text.isLine_append_iff.mpr ⟨areLines last (by simp), isLine⟩)
  | case3 line rest _ ih =>
      rw [AreLines, List.forall_mem_cons] at areLines ⊢
      exact ⟨areLines.1, ih areLines.2⟩

theorem areLines_separate (areLines : ∀ block ∈ blocks, AreLines block) :
    AreLines (separate blocks) := by
  fun_induction separate blocks with
  | case1 => simp [AreLines]
  | case2 last => exact areLines last (by simp)
  | case3 block others _ ih =>
      rw [List.forall_mem_cons] at areLines
      rw [AreLines, List.forall_mem_append]
      exact ⟨areLines_extendLast areLines.1 (by decide), ih areLines.2⟩

/-- Blocks between two lines, such as the objects of an array and the fields of an object. -/
theorem areLines_between {first last : String} (isFirst : Text.IsLine first)
    (isLast : Text.IsLine last) (areLines : ∀ block ∈ blocks, AreLines block) :
    AreLines ([first] ++ indent (separate blocks) ++ [last]) := by
  rw [AreLines, List.forall_mem_append, List.forall_mem_append]
  exact ⟨⟨areLines_singleton isFirst, areLines_indent (areLines_separate areLines)⟩,
    areLines_singleton isLast⟩

theorem areLines_array (areLines : ∀ block ∈ blocks, AreLines block) :
    AreLines (array blocks) := by
  rw [array]
  split
  · exact areLines_singleton (by decide)
  · exact areLines_between (by decide) (by decide) areLines

theorem areLines_field (name : String) (areLines : AreLines block) :
    AreLines (field name block) := by
  cases block with
  | nil => exact areLines
  | cons first rest =>
      rw [AreLines, List.forall_mem_cons] at areLines
      rw [field, AreLines, List.forall_mem_cons, Text.isLine_append_iff, Text.isLine_append_iff]
      exact ⟨⟨⟨isLine_string name, by decide⟩, areLines.1⟩, areLines.2⟩

theorem areLines_string (name text : String) : AreLines (field name [string text]) :=
  areLines_field name (areLines_singleton (isLine_string text))

theorem areLines_member (entry : Member) : AreLines (member entry) := by
  apply areLines_between (by decide) (by decide)
  simp only [List.forall_mem_cons, List.not_mem_nil, false_implies, implies_true, and_true]
  exact ⟨areLines_string _ _, areLines_string _ _⟩

theorem areLines_enumValue (entry : EnumValue) : AreLines (enumValue entry) := by
  have isDecimal : Text.IsLine (Text.decimal entry.value.toInt) :=
    (Text.isToken_decimal _).isUnbroken.isLine
  apply areLines_between (by decide) (by decide)
  simp only [List.forall_mem_cons, List.not_mem_nil, false_implies, implies_true, and_true]
  exact ⟨areLines_string _ _, areLines_field _ (areLines_singleton isDecimal)⟩

theorem areLines_array_map {Entry : Type} {write : Entry → List String}
    (areLines : ∀ entry, AreLines (write entry)) (entries : List Entry) :
    AreLines (array (entries.map write)) := by
  apply areLines_array
  rw [List.forall_mem_map]
  intro entry _
  exact areLines entry

theorem areLines_declaration (owner : Declaration) : AreLines (declaration owner) := by
  cases owner with
  | ofClass owner =>
      apply areLines_between (by decide) (by decide)
      simp only [List.forall_mem_cons, List.not_mem_nil, false_implies, implies_true, and_true]
      exact ⟨areLines_string _ _, areLines_string _ _,
        areLines_field _ (areLines_array_map areLines_member owner.members)⟩
  | ofEnum owner =>
      apply areLines_between (by decide) (by decide)
      simp only [List.forall_mem_cons, List.not_mem_nil, false_implies, implies_true, and_true]
      exact ⟨areLines_string _ _, areLines_string _ _,
        areLines_field _ (areLines_array_map areLines_enumValue owner.values)⟩

end Lines

theorem array_ne_nil (blocks : List (List String)) : array blocks ≠ [] := by
  rw [array]
  split <;> simp

/-- Two models are printed alike only if they are equal. -/
theorem printed_model_injective :
    Function.Injective fun declarations : List Declaration => model declarations ++ "\n" := by
  intro first second same
  have sameText : model first = model second := by
    simpa only [String.append_left_inj] using same
  have sameLines : array (first.map declaration) = array (second.map declaration) :=
    Text.joinLines_inj (array_ne_nil _) (array_ne_nil _)
      (areLines_array_map areLines_declaration first)
      (areLines_array_map areLines_declaration second) sameText
  apply array_map_inj _ (fun _ _ => declaration_inj) sameLines
  intro owner
  cases owner with
  | ofClass owner => exact ⟨_, rfl⟩
  | ofEnum owner => exact ⟨_, rfl⟩

/-- A name with a quote is not printed like a name with the escape of a quote. -/
theorem printed_model_injective_quotes :
    model [.ofClass ⟨"C", [⟨"a\"", "int"⟩]⟩] ++ "\n" ≠
      model [.ofClass ⟨"C", [⟨"a\\\"", "int"⟩]⟩] ++ "\n" := by
  intro same
  have sameModel := printed_model_injective same
  exact absurd sameModel (by decide)

end Dump

end GenModel
