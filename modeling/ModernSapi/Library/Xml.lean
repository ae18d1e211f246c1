import Mathlib.Data.List.Basic

/-!
# Documents of tags and character data

A document is a tree of elements, empty elements and character data, over the code units of
UTF-16. Names have no markup; character data and the values of attributes may have any, for
they are escaped when the tree is written.

`characterData_render`: taking the tags out of what is written, and the five entities back,
gives the character data of the tree in order.
-/

set_option autoImplicit false

namespace Xml

/-- The code units of a text of the basic plane. -/
def units (text : String) : List UInt16 := text.toList.map fun char => char.toNat.toUInt16

/-! ## Escaping -/

/-- The five units that are written as entities. -/
def isMarkup (unit : UInt16) : Bool :=
  unit == 60 || unit == 62 || unit == 38 || unit == 34 || unit == 39

def Plain (text : List UInt16) : Prop := ∀ unit ∈ text, isMarkup unit = false

instance (text : List UInt16) : Decidable (Plain text) :=
  List.decidableBAll (fun unit => isMarkup unit = false) text

def escapeUnit (unit : UInt16) : List UInt16 :=
  if unit = 60 then units "&lt;"
  else if unit = 62 then units "&gt;"
  else if unit = 38 then units "&amp;"
  else if unit = 34 then units "&quot;"
  else if unit = 39 then units "&apos;"
  else [unit]

def escape (text : List UInt16) : List UInt16 := text.flatMap escapeUnit

/-- The entity a text starts with: its unit and its length. -/
def entityAt (text : List UInt16) : Option (UInt16 × ℕ) :=
  if (units "&lt;").isPrefixOf text then some (60, 4)
  else if (units "&gt;").isPrefixOf text then some (62, 4)
  else if (units "&amp;").isPrefixOf text then some (38, 5)
  else if (units "&quot;").isPrefixOf text then some (34, 6)
  else if (units "&apos;").isPrefixOf text then some (39, 6)
  else none

/-- The entities are taken back; the first `skip` units belong to one that has been. -/
def unescapeFrom (skip : ℕ) : List UInt16 → List UInt16
  | [] => []
  | unit :: rest =>
      match skip with
      | skip + 1 => unescapeFrom skip rest
      | 0 =>
          match entityAt (unit :: rest) with
          | some (meant, length) => meant :: unescapeFrom (length - 1) rest
          | none => unit :: unescapeFrom 0 rest

def unescape (text : List UInt16) : List UInt16 := unescapeFrom 0 text

section Escape

variable {text first second : List UInt16}

@[simp] theorem escape_nil : escape [] = [] := rfl

@[simp] theorem escape_append (first second : List UInt16) :
    escape (first ++ second) = escape first ++ escape second := List.flatMap_append

theorem escape_cons (unit : UInt16) (text : List UInt16) :
    escape (unit :: text) = escapeUnit unit ++ escape text := List.flatMap_cons

theorem escapeUnit_of_plain {unit : UInt16} (plain : isMarkup unit = false) :
    escapeUnit unit = [unit] := by
  simp only [isMarkup, Bool.or_eq_false_iff, beq_eq_false_iff_ne] at plain
  simp only [escapeUnit, plain, if_false]

/-- A text without markup is written as it is. -/
theorem escape_of_plain (plain : Plain text) : escape text = text := by
  induction text with
  | nil => rfl
  | cons unit text ih =>
      rw [escape_cons, escapeUnit_of_plain (plain unit List.mem_cons_self),
        ih fun other member => plain other (List.mem_cons_of_mem _ member)]
      rfl

/-- What is escaped opens and closes no tag. -/
theorem not_mem_escape (text : List UInt16) : 60 ∉ escape text ∧ 62 ∉ escape text := by
  induction text with
  | nil => exact ⟨List.not_mem_nil, List.not_mem_nil⟩
  | cons unit text ih =>
      have here : 60 ∉ escapeUnit unit ∧ 62 ∉ escapeUnit unit := by
        by_cases markup : isMarkup unit = true
        · simp only [isMarkup, Bool.or_eq_true, beq_iff_eq] at markup
          rcases markup with (((rfl | rfl) | rfl) | rfl) | rfl <;> decide
        · rw [Bool.not_eq_true] at markup
          rw [escapeUnit_of_plain markup, List.mem_singleton, List.mem_singleton]
          constructor
          · rintro rfl
            cases markup
          · rintro rfl
            cases markup
      rw [escape_cons, List.mem_append, List.mem_append, not_or, not_or]
      exact ⟨⟨here.1, ih.1⟩, here.2, ih.2⟩

theorem entityAt_of_plain {unit : UInt16} (plain : isMarkup unit = false) (rest : List UInt16) :
    entityAt (unit :: rest) = none := by
  have apart : ¬(38 : UInt16) = unit := by
    rintro rfl
    cases plain
  have ampersand : ∀ name : List UInt16, (38 :: name).isPrefixOf (unit :: rest) = false := by
    intro name
    simp [List.isPrefixOf, apart]
  simp only [entityAt]
  rw [if_neg, if_neg, if_neg, if_neg, if_neg]
  all_goals
    rw [Bool.not_eq_true]
    exact ampersand _

theorem unescapeFrom_append (skipped rest : List UInt16) :
    unescapeFrom skipped.length (skipped ++ rest) = unescapeFrom 0 rest := by
  induction skipped with
  | nil => rfl
  | cons unit skipped ih => exact ih

/-- **Escaping is undone.** -/
theorem unescape_escape (text : List UInt16) : unescape (escape text) = text := by
  induction text with
  | nil => rfl
  | cons unit text ih =>
      rw [unescape] at ih ⊢
      rw [escape_cons]
      by_cases markup : isMarkup unit = true
      · simp only [isMarkup, Bool.or_eq_true, beq_iff_eq] at markup
        have skip := fun skipped => unescapeFrom_append skipped (escape text)
        rcases markup with (((rfl | rfl) | rfl) | rfl) | rfl
        · exact congrArg _ ((skip [108, 116, 59]).trans ih)
        · exact congrArg _ ((skip [103, 116, 59]).trans ih)
        · exact congrArg _ ((skip [97, 109, 112, 59]).trans ih)
        · exact congrArg _ ((skip [113, 117, 111, 116, 59]).trans ih)
        · exact congrArg _ ((skip [97, 112, 111, 115, 59]).trans ih)
      · rw [Bool.not_eq_true] at markup
        rw [escapeUnit_of_plain markup, List.singleton_append, unescapeFrom,
          entityAt_of_plain markup]
        exact congrArg _ ih

end Escape

/-! ## Trees -/

structure Attribute where
  name : List UInt16
  value : List UInt16
  plainName : Plain name := by decide

/-- The name of an element and its attributes. -/
structure Tag where
  name : List UInt16
  attributes : List Attribute := []
  plainName : Plain name := by decide

inductive Node where
  | text (content : List UInt16)
  | empty (tag : Tag)
  | element (tag : Tag) (children : List Node)

namespace Attribute

def render (item : Attribute) : List UInt16 :=
  units " " ++ item.name ++ units "='" ++ escape item.value ++ units "'"

end Attribute

namespace Tag

/-- The name and the attributes, as they stand in a tag. -/
def inside (tag : Tag) : List UInt16 := tag.name ++ tag.attributes.flatMap Attribute.render

end Tag

namespace Node

mutual

def render : Node → List UInt16
  | .text content => escape content
  | .empty tag => units "<" ++ tag.inside ++ units "/>"
  | .element tag children =>
      units "<" ++ tag.inside ++ units ">" ++ renderAll children ++
        units "</" ++ tag.name ++ units ">"

def renderAll : List Node → List UInt16
  | [] => []
  | node :: nodes => render node ++ renderAll nodes

end

mutual

/-- The character data of a tree, in order. -/
def characters : Node → List UInt16
  | .text content => content
  | .empty _ => []
  | .element _ children => charactersAll children

def charactersAll : List Node → List UInt16
  | [] => []
  | node :: nodes => characters node ++ charactersAll nodes

end

theorem renderAll_append (first second : List Node) :
    renderAll (first ++ second) = renderAll first ++ renderAll second := by
  induction first with
  | nil => rfl
  | cons node first ih => simp only [List.cons_append, renderAll, ih, List.append_assoc]

end Node

/-! ## Taking the tags out -/

/-- What stands outside of tags. The flag says whether a tag is open. -/
def removeTags : Bool → List UInt16 → List UInt16
  | _, [] => []
  | false, unit :: rest =>
      if unit = 60 then removeTags true rest else unit :: removeTags false rest
  | true, unit :: rest => removeTags (unit != 62) rest

section RemoveTags

variable {text rest : List UInt16}

theorem removeTags_data (outside : 60 ∉ text) (rest : List UInt16) :
    removeTags false (text ++ rest) = text ++ removeTags false rest := by
  induction text with
  | nil => rfl
  | cons unit text ih =>
      rw [List.mem_cons, not_or] at outside
      rw [List.cons_append, removeTags, if_neg (Ne.symm outside.1), ih outside.2, List.cons_append]

theorem removeTags_tag (inside : 62 ∉ text) (rest : List UInt16) :
    removeTags false (60 :: (text ++ 62 :: rest)) = removeTags false rest := by
  rw [removeTags, if_pos rfl]
  induction text with
  | nil => rfl
  | cons unit text ih =>
      rw [List.mem_cons, not_or] at inside
      have open_ : (unit != 62) = true := bne_iff_ne.mpr (Ne.symm inside.1)
      rw [List.cons_append, removeTags, open_]
      exact ih inside.2

theorem Plain.not_mem (plain : Plain text) : 62 ∉ text := by
  intro member
  cases plain 62 member

theorem Attribute.not_mem_render (item : Attribute) : 62 ∉ item.render := by
  simp only [Attribute.render, List.mem_append, not_or]
  exact ⟨⟨⟨⟨by decide, item.plainName.not_mem⟩, by decide⟩,
    (not_mem_escape item.value).2⟩, by decide⟩

theorem Tag.not_mem_inside (tag : Tag) : 62 ∉ tag.inside := by
  rw [Tag.inside, List.mem_append, not_or, List.mem_flatMap]
  refine ⟨tag.plainName.not_mem, ?_⟩
  rintro ⟨item, -, member⟩
  exact item.not_mem_render member

mutual

/-- Without its tags, a tree is its character data, escaped. -/
theorem removeTags_render (node : Node) (rest : List UInt16) :
    removeTags false (node.render ++ rest) =
      escape node.characters ++ removeTags false rest := by
  cases node with
  | text content => exact removeTags_data (not_mem_escape content).1 rest
  | empty tag =>
      have inside : 62 ∉ tag.inside ++ [47] := by
        rw [List.mem_append, not_or]
        exact ⟨tag.not_mem_inside, by decide⟩
      have written : (Node.empty tag).render ++ rest = 60 :: ((tag.inside ++ [47]) ++ 62 :: rest) := by
        simp [Node.render, units]
      rw [written, removeTags_tag inside]
      rfl
  | element tag children =>
      have closing : 62 ∉ 47 :: tag.name := by
        rw [List.mem_cons, not_or]
        exact ⟨by decide, tag.plainName.not_mem⟩
      have written : (Node.element tag children).render ++ rest =
          60 :: (tag.inside ++ 62 :: (Node.renderAll children ++
            60 :: ((47 :: tag.name) ++ 62 :: rest))) := by
        simp [Node.render, units]
      rw [written, removeTags_tag tag.not_mem_inside, removeTags_renderAll children,
        removeTags_tag closing, Node.characters]

theorem removeTags_renderAll (nodes : List Node) (rest : List UInt16) :
    removeTags false (Node.renderAll nodes ++ rest) =
      escape (Node.charactersAll nodes) ++ removeTags false rest := by
  cases nodes with
  | nil => rfl
  | cons node nodes =>
      rw [Node.renderAll, List.append_assoc, removeTags_render node, removeTags_renderAll nodes,
        Node.charactersAll, escape_append, List.append_assoc]

end

/-- **Without tags and with its entities taken back, a document is its character data.** -/
theorem characterData_render (node : Node) :
    unescape (removeTags false node.render) = node.characters := by
  have removed := removeTags_render node []
  rw [List.append_nil] at removed
  rw [removed, removeTags, List.append_nil, unescape_escape]

end RemoveTags

end Xml
