import ModernSapi.V1.SsmlParser

/-!
# The document that the SSML parser writes

The parser appends to a string. Here the string is read as a tree: one speak element of texts,
separating spaces, bookmarks and prosody elements, where a prosody element has no other one
inside. The tree is built along with the string, with the prosody that is open kept apart
(`SsmlBuilder`), and `ssml_well_nested` says what it has in it.
-/

set_option autoImplicit false

namespace ModernSapi

open Xml

/-! ## Documents -/

/-- What stands in a document outside of the elements that have content. -/
inductive SsmlLeaf where
  | text (fragment : ProviderSpeechFragment)
  | separator
  | bookmark (fragment : ProviderSpeechFragment)

inductive SsmlItem where
  | single (leaf : SsmlLeaf)
  | prosody (settings : ProviderSpeechFragment) (leaves : List SsmlLeaf)

structure SsmlDocument where
  localeName : List UInt16
  items : List SsmlItem

/-- The text of a fragment as it is spoken: without NULs. -/
def ProviderSpeechFragment.spoken (fragment : ProviderSpeechFragment) : List UInt16 :=
  fragment.text.filter (· != 0)

/-- The name of a bookmark. -/
def bookmarkName (fragment : ProviderSpeechFragment) : List UInt16 :=
  units "OFFSET_" ++ decimal fragment.originalOffset.toNat ++ units "_" ++ fragment.spoken

def prosodyTag (settings : ProviderSpeechFragment) : Tag where
  name := units "prosody"
  attributes :=
    (if settings.pitch != 0 then
      [⟨units "pitch", formatProsodyValue (settings.pitch * 5), by decide⟩] else []) ++
    (if settings.volume != 100 then
      [⟨units "volume", formatProsodyValue (settings.volume - 100), by decide⟩] else []) ++
    if settings.rate != 0 then
      [⟨units "rate", formatProsodyValue
        (if 0 ≤ settings.rate then settings.rate * 20 else settings.rate * 20 / 3), by decide⟩]
    else []

def speakTag (localeName : List UInt16) : Tag where
  name := units "speak"
  attributes :=
    [{ name := units "version", value := units "1.0" },
      { name := units "xmlns", value := units "http://www.w3.org/2001/10/synthesis" },
      { name := units "xmlns:mstts", value := units "http://www.w3.org/2001/mstts" },
      { name := units "xml:lang", value := localeName }]

namespace SsmlLeaf

def toXml : SsmlLeaf → Node
  | .text fragment => .text fragment.spoken
  | .separator => .text (units " ")
  | .bookmark fragment =>
      .empty { name := units "bookmark",
               attributes := [{ name := units "mark", value := bookmarkName fragment }] }

def characters : SsmlLeaf → List UInt16
  | .text fragment => fragment.spoken
  | .separator => units " "
  | .bookmark _ => []

/-- The text of a fragment, with what is said about the place of the leaf. -/
def text? (place : SsmlLeaf × Bool) : Option (ProviderSpeechFragment × Bool) :=
  match place.1 with
  | .text fragment => some (fragment, place.2)
  | _ => none

def bookmark? (place : SsmlLeaf × Bool) : Option ProviderSpeechFragment :=
  match place.1 with
  | .bookmark fragment => some fragment
  | _ => none

end SsmlLeaf

namespace SsmlItem

def toXml : SsmlItem → Node
  | .single leaf => leaf.toXml
  | .prosody settings leaves => .element (prosodyTag settings) (leaves.map SsmlLeaf.toXml)

/-- The leaves of an item, each with whether it lies inside a prosody element. -/
def leaves : SsmlItem → List (SsmlLeaf × Bool)
  | .single leaf => [(leaf, false)]
  | .prosody _ leaves => leaves.map fun leaf => (leaf, true)

end SsmlItem

namespace SsmlDocument

def toXml (document : SsmlDocument) : Node :=
  .element (speakTag document.localeName) (document.items.map SsmlItem.toXml)

def leaves (document : SsmlDocument) : List (SsmlLeaf × Bool) :=
  document.items.flatMap SsmlItem.leaves

/-- The fragments whose texts are in the document, in order, each with whether its text lies
inside a prosody element. -/
def texts (document : SsmlDocument) : List (ProviderSpeechFragment × Bool) :=
  document.leaves.filterMap SsmlLeaf.text?

/-- The fragments whose bookmarks are in the document, in order. -/
def bookmarks (document : SsmlDocument) : List ProviderSpeechFragment :=
  document.leaves.filterMap SsmlLeaf.bookmark?

end SsmlDocument

/-- The space between two graphemes, when they need one. -/
def separator (needAddingSpace : List UInt16 → List UInt16 → Bool) (last : List UInt16)
    (fragment : ProviderSpeechFragment) : List UInt16 :=
  if fragment.text ≠ [] ∧ last ≠ [] ∧ needAddingSpace last (firstGrapheme fragment.text) = true
    then units " "
  else []

/-- The last grapheme of the texts, after one more fragment. -/
def graphemeAfter (last : List UInt16) (fragment : ProviderSpeechFragment) : List UInt16 :=
  if fragment.isSpeakable = true ∧ fragment.text ≠ [] then lastGrapheme fragment.text else last

/-- The texts in order, with the spaces between them. `last` is the last grapheme before. -/
def spokenText (needAddingSpace : List UInt16 → List UInt16 → Bool) (last : List UInt16) :
    List ProviderSpeechFragment → List UInt16
  | [] => []
  | fragment :: fragments =>
      (if fragment.isSpeakable then separator needAddingSpace last fragment ++ fragment.spoken
        else []) ++
        spokenText needAddingSpace (graphemeAfter last fragment) fragments

/-- What is said about the leaves of a document: the texts with their places, the bookmarks and
the character data. -/
structure SsmlContent where
  texts : List (ProviderSpeechFragment × Bool) := []
  bookmarks : List ProviderSpeechFragment := []
  characters : List UInt16 := []

namespace SsmlContent

def ofLeaves (leaves : List (SsmlLeaf × Bool)) : SsmlContent where
  texts := leaves.filterMap SsmlLeaf.text?
  bookmarks := leaves.filterMap SsmlLeaf.bookmark?
  characters := leaves.flatMap fun leaf => leaf.1.characters

def append (first second : SsmlContent) : SsmlContent where
  texts := first.texts ++ second.texts
  bookmarks := first.bookmarks ++ second.bookmarks
  characters := first.characters ++ second.characters

theorem append_empty (content : SsmlContent) : content.append {} = content := by
  simp [append]

theorem append_assoc (first second third : SsmlContent) :
    (first.append second).append third = first.append (second.append third) := by
  simp [append]

theorem ofLeaves_append (first second : List (SsmlLeaf × Bool)) :
    ofLeaves (first ++ second) = (ofLeaves first).append (ofLeaves second) := by
  simp [ofLeaves, append]

/-- What a fragment adds. -/
def ofFragment (needAddingSpace : List UInt16 → List UInt16 → Bool) (last : List UInt16)
    (fragment : ProviderSpeechFragment) : SsmlContent where
  texts := if fragment.isSpeakable then [(fragment, fragment.hasProsody)] else []
  bookmarks := if fragment.isBookmark then [fragment] else []
  characters :=
    if fragment.isSpeakable then separator needAddingSpace last fragment ++ fragment.spoken else []

def ofFragments (needAddingSpace : List UInt16 → List UInt16 → Bool) (last : List UInt16) :
    List ProviderSpeechFragment → SsmlContent
  | [] => {}
  | fragment :: fragments =>
      (ofFragment needAddingSpace last fragment).append
        (ofFragments needAddingSpace (graphemeAfter last fragment) fragments)

end SsmlContent

/-! ## Texts without markup -/

theorem plain_append {first second : List UInt16} (plain : Plain first) (plain' : Plain second) :
    Plain (first ++ second) := by
  intro unit member
  rcases List.mem_append.mp member with here | there
  · exact plain unit here
  · exact plain' unit there

theorem plain_decimal (number : ℕ) : Plain (decimal number) := by
  intro unit member
  obtain ⟨char, digit, rfl⟩ := List.mem_map.mp member
  have isDigit := Nat.isDigit_of_mem_toDigits (by decide) (by decide) digit
  simp only [Char.isDigit, Bool.and_eq_true, decide_eq_true_eq] at isDigit
  obtain ⟨low, high⟩ := isDigit
  have low' : 48 ≤ char.toNat := UInt32.le_iff_toNat_le.mp low
  have high' : char.toNat < 58 := Nat.lt_succ_of_le (UInt32.le_iff_toNat_le.mp high)
  have digits : ∀ code < 58, 48 ≤ code → isMarkup code.toUInt16 = false := by decide
  exact digits char.toNat high' low'

theorem plain_formatProsodyValue (value : Float32) : Plain (formatProsodyValue value) := by
  refine plain_append (plain_append ?_ (plain_decimal _)) (by decide)
  split
  · decide
  · decide

/-- What the parser appends for a text is the text without NULs, escaped. -/
theorem escapedXml_eq (text : List UInt16) : escapedXml text = escape (text.filter (· != 0)) := by
  induction text with
  | nil => rfl
  | cons unit text ih =>
      rw [escapedXml] at ih
      rw [escapedXml, List.flatMap_cons, ih]
      by_cases nul : unit = 0
      · subst nul
        rfl
      · have kept : (unit != 0) = true := bne_iff_ne.mpr nul
        rw [List.filter_cons_of_pos (p := (· != 0)) kept, escape_cons, escapedForm, if_neg nul]

/-! ## What is written -/

theorem render_text (fragment : ProviderSpeechFragment) :
    (SsmlLeaf.text fragment).toXml.render = escapedXml fragment.text :=
  (escapedXml_eq fragment.text).symm

theorem render_separator : SsmlLeaf.separator.toXml.render = units " " := by decide

theorem render_bookmark (fragment : ProviderSpeechFragment) :
    (SsmlLeaf.bookmark fragment).toXml.render =
      SsmlParser.bookmarkStart fragment ++ escapedXml fragment.text ++ units "'/>" := by
  have named : escape (bookmarkName fragment) =
      units "OFFSET_" ++ decimal fragment.originalOffset.toNat ++ units "_" ++
        escapedXml fragment.text := by
    have prefix_ : Plain (units "OFFSET_" ++ decimal fragment.originalOffset.toNat ++ units "_") :=
      plain_append (plain_append (by decide) (plain_decimal _)) (by decide)
    rw [bookmarkName, escape_append, escape_of_plain prefix_, escapedXml_eq]
    rfl
  simp only [SsmlLeaf.toXml, Node.render, Tag.inside, List.flatMap_cons, List.flatMap_nil,
    Attribute.render, named, SsmlParser.bookmarkStart]
  simp [units]

/-- The start tag of a prosody element is what the parser appends. -/
theorem render_prosodyTag (settings : ProviderSpeechFragment) :
    units "<" ++ (prosodyTag settings).inside ++ units ">" =
      units "<prosody" ++
        (SsmlParser.prosodyValues settings).flatMap SsmlParser.prosodyAttribute ++ units ">" := by
  have value := fun number => escape_of_plain (plain_formatProsodyValue number)
  have attributes : (prosodyTag settings).attributes.flatMap Attribute.render =
      (SsmlParser.prosodyValues settings).flatMap SsmlParser.prosodyAttribute := by
    simp only [prosodyTag, SsmlParser.prosodyValues, List.flatMap_append]
    congr 1
    · congr 1
      · split
        · simp [Attribute.render, SsmlParser.prosodyAttribute, value]
        · rfl
      · split
        · simp [Attribute.render, SsmlParser.prosodyAttribute, value]
        · rfl
    · split
      · simp [Attribute.render, SsmlParser.prosodyAttribute, value]
      · rfl
  rw [Tag.inside, attributes]
  simp [prosodyTag, units]

/-- The start tag of the document is what the parser begins with. -/
theorem render_speakTag {localeName : List UInt16} (plain : Plain localeName) :
    units "<" ++ (speakTag localeName).inside ++ units ">" =
      (SsmlParser.start localeName).ssmlString := by
  simp only [speakTag, Tag.inside, List.flatMap_cons, List.flatMap_nil, Attribute.render,
    escape_of_plain plain, SsmlParser.start, SsmlParser.rootTag]
  rw [escape_of_plain (by decide), escape_of_plain (by decide), escape_of_plain (by decide)]
  simp [units]

/-! ## Building the document -/

/-- The items that are finished, and the prosody that is open with what it has so far. -/
structure SsmlBuilder where
  items : List SsmlItem := []
  openProsody : Option (ProviderSpeechFragment × List SsmlLeaf) := none

namespace SsmlBuilder

def add (builder : SsmlBuilder) (leaf : SsmlLeaf) : SsmlBuilder :=
  match builder.openProsody with
  | none => { builder with items := builder.items ++ [.single leaf] }
  | some (settings, leaves) =>
      { builder with openProsody := some (settings, leaves ++ [leaf]) }

def close (builder : SsmlBuilder) : SsmlBuilder :=
  match builder.openProsody with
  | none => builder
  | some (settings, leaves) => { items := builder.items ++ [.prosody settings leaves] }

/-- What the builder stands for in the string. -/
def written (builder : SsmlBuilder) : List UInt16 :=
  Node.renderAll (builder.items.map SsmlItem.toXml) ++
    match builder.openProsody with
    | none => []
    | some (settings, leaves) =>
        units "<" ++ (prosodyTag settings).inside ++ units ">" ++
          Node.renderAll (leaves.map SsmlLeaf.toXml)

def leaves (builder : SsmlBuilder) : List (SsmlLeaf × Bool) :=
  builder.items.flatMap SsmlItem.leaves ++
    match builder.openProsody with
    | none => []
    | some (_, leaves) => leaves.map fun leaf => (leaf, true)

variable {builder : SsmlBuilder}

theorem written_add (leaf : SsmlLeaf) :
    (builder.add leaf).written = builder.written ++ leaf.toXml.render := by
  obtain ⟨items, _ | ⟨settings, leaves⟩⟩ := builder <;>
    simp [add, written, Node.renderAll_append, Node.renderAll, SsmlItem.toXml]

theorem leaves_add (leaf : SsmlLeaf) :
    (builder.add leaf).leaves = builder.leaves ++ [(leaf, builder.openProsody.isSome)] := by
  obtain ⟨items, _ | ⟨settings, leaves⟩⟩ := builder <;>
    simp [add, SsmlBuilder.leaves, SsmlItem.leaves]

theorem isSome_add (leaf : SsmlLeaf) :
    (builder.add leaf).openProsody.isSome = builder.openProsody.isSome := by
  obtain ⟨items, _ | ⟨settings, leaves⟩⟩ := builder <;> rfl

theorem written_close (isOpen : builder.openProsody.isSome = true) :
    builder.close.written = builder.written ++ units "</prosody>" := by
  obtain ⟨items, _ | ⟨settings, leaves⟩⟩ := builder
  · cases isOpen
  · simp [close, written, Node.renderAll_append, Node.renderAll, SsmlItem.toXml, Node.render,
      prosodyTag, units]

theorem leaves_close : builder.close.leaves = builder.leaves := by
  obtain ⟨items, _ | ⟨settings, leaves⟩⟩ := builder <;>
    simp [close, SsmlBuilder.leaves, SsmlItem.leaves]

theorem isSome_close : builder.close.openProsody.isSome = false := by
  obtain ⟨items, _ | ⟨settings, leaves⟩⟩ := builder <;> rfl

end SsmlBuilder

/-- The parser has written what the builder stands for, and the same prosody is open. -/
structure Builds (localeName : List UInt16) (parser : SsmlParser) (builder : SsmlBuilder) :
    Prop where
  written : parser.ssmlString = (SsmlParser.start localeName).ssmlString ++ builder.written
  isOpen : parser.isProsodyOpen = builder.openProsody.isSome

section Steps

open SsmlParser

variable {localeName : List UInt16} {parser : SsmlParser} {builder : SsmlBuilder}
  {fragment : ProviderSpeechFragment} {needAddingSpace : List UInt16 → List UInt16 → Bool}

/-- A leaf is built when its text is appended. -/
theorem Builds.add {next : SsmlParser} (builds : Builds localeName parser builder)
    (leaf : SsmlLeaf) (appended : next.ssmlString = parser.ssmlString ++ leaf.toXml.render)
    (same : next.isProsodyOpen = parser.isProsodyOpen) :
    Builds localeName next (builder.add leaf) where
  written := by
    rw [appended, builds.written, SsmlBuilder.written_add, List.append_assoc]
  isOpen := by rw [same, builds.isOpen, SsmlBuilder.isSome_add]

theorem Builds.bookmark (builds : Builds localeName parser builder) :
    Builds localeName (parser.bookmark fragment) (builder.add (.bookmark fragment)) := by
  refine builds.add _ ?_ rfl
  rw [render_bookmark]
  simp only [SsmlParser.bookmark, appendText, append, mapOffset, List.append_assoc]

theorem Builds.noteText (builds : Builds localeName parser builder)
    (fragment : ProviderSpeechFragment) :
    Builds localeName (parser.noteText fragment) builder := by
  rw [SsmlParser.noteText]
  split
  · exact ⟨builds.written, builds.isOpen⟩
  · exact builds

/-- A prosody that stays open is one that the fragment needs. -/
theorem Builds.closeProsody (builds : Builds localeName parser builder)
    (fragment : ProviderSpeechFragment) :
    ∃ closed, Builds localeName (parser.closeProsody fragment) closed ∧
      closed.leaves = builder.leaves ∧
      (closed.openProsody.isSome = true → fragment.hasProsody = true) := by
  rw [SsmlParser.closeProsody]
  split
  · next closes =>
      rw [Bool.and_eq_true] at closes
      have isOpen := builds.isOpen.symm.trans closes.1
      refine ⟨builder.close, ⟨?_, SsmlBuilder.isSome_close.symm⟩, SsmlBuilder.leaves_close, ?_⟩
      · rw [SsmlBuilder.written_close isOpen, ← List.append_assoc, ← builds.written]
        rfl
      · intro stays
        rw [SsmlBuilder.isSome_close] at stays
        cases stays
  · next stays =>
      refine ⟨builder, builds, rfl, ?_⟩
      intro isOpen
      rw [builds.isOpen, isOpen, Bool.true_and] at stays
      cases needs : fragment.hasProsody with
      | true => rfl
      | false =>
          rw [needs] at stays
          exact absurd rfl stays

theorem Builds.separate (builds : Builds localeName parser builder)
    (needAddingSpace : List UInt16 → List UInt16 → Bool) (fragment : ProviderSpeechFragment) :
    ∃ separated, Builds localeName (parser.separate needAddingSpace fragment) separated ∧
      separated.openProsody.isSome = builder.openProsody.isSome ∧
      SsmlContent.ofLeaves separated.leaves = (SsmlContent.ofLeaves builder.leaves).append
        { characters := separator needAddingSpace parser.lastGrapheme fragment } := by
  rw [SsmlParser.separate, separator]
  split
  · refine ⟨builder.add .separator, builds.add _ ?_ rfl, SsmlBuilder.isSome_add _, ?_⟩
    · rw [render_separator]
      rfl
    · rw [SsmlBuilder.leaves_add, SsmlContent.ofLeaves_append]
      rfl
  · exact ⟨builder, builds, rfl, (SsmlContent.append_empty _).symm⟩

/-- After `openProsody` a prosody is open if and only if the fragment needs one. -/
theorem Builds.openProsody (builds : Builds localeName parser builder)
    (needed : builder.openProsody.isSome = true → fragment.hasProsody = true) :
    ∃ opened, Builds localeName (parser.openProsody fragment) opened ∧
      opened.leaves = builder.leaves ∧ opened.openProsody.isSome = fragment.hasProsody := by
  rw [SsmlParser.openProsody]
  split
  · next opens =>
      rw [Bool.and_eq_true, Bool.not_eq_true', builds.isOpen] at opens
      obtain ⟨items, _ | ⟨settings, leaves⟩⟩ := builder
      · refine ⟨⟨items, some (fragment, [])⟩, ⟨?_, rfl⟩, rfl, opens.1.symm⟩
        have start := render_prosodyTag fragment
        simp only [append, builds.written, SsmlBuilder.written, start, List.map_nil,
          Node.renderAll, List.append_nil, List.append_assoc]
      · cases opens.2
  · next stays =>
      refine ⟨builder, builds, rfl, ?_⟩
      rw [builds.isOpen] at stays
      cases isOpen : builder.openProsody.isSome with
      | true => exact (needed isOpen).symm
      | false =>
          rw [isOpen, Bool.not_false, Bool.and_true, Bool.not_eq_true] at stays
          exact stays.symm

theorem Builds.speak (builds : Builds localeName parser builder)
    (speakable : fragment.isSpeakable = true) (noBookmark : fragment.isBookmark = false) :
    ∃ next, Builds localeName (parser.speak needAddingSpace fragment) next ∧
      SsmlContent.ofLeaves next.leaves = (SsmlContent.ofLeaves builder.leaves).append
        (SsmlContent.ofFragment needAddingSpace parser.lastGrapheme fragment) := by
  obtain ⟨closed, builds, closedLeaves, stays⟩ :=
    (builds.noteText fragment).closeProsody fragment
  obtain ⟨separated, builds, same, content⟩ :=
    builds.separate needAddingSpace fragment
  obtain ⟨opened, builds, openedLeaves, isOpen⟩ :=
    builds.openProsody (fun isOpen => stays (same.symm.trans isOpen))
  refine ⟨opened.add (.text fragment), builds.add _ ?_ ?_, ?_⟩
  · rw [render_text, SsmlParser.speak, updateLastGrapheme]
    split <;> rfl
  · rw [SsmlParser.speak, updateLastGrapheme]
    split <;> rfl
  · have last : ((parser.noteText fragment).closeProsody fragment).lastGrapheme =
        parser.lastGrapheme := by
      rw [SsmlParser.closeProsody, SsmlParser.noteText]
      split <;> split <;> rfl
    rw [SsmlBuilder.leaves_add, SsmlContent.ofLeaves_append, openedLeaves, content, closedLeaves,
      isOpen, last, SsmlContent.append_assoc, SsmlContent.ofFragment, if_pos speakable,
      if_pos speakable, noBookmark]
    simp [SsmlContent.ofLeaves, SsmlContent.append, SsmlLeaf.text?, SsmlLeaf.bookmark?,
      SsmlLeaf.characters]

/-- **One round of the loop builds what its fragment adds.** -/
theorem Builds.parseFragment (builds : Builds localeName parser builder)
    (needAddingSpace : List UInt16 → List UInt16 → Bool) (fragment : ProviderSpeechFragment) :
    ∃ next, Builds localeName (parser.parseFragment needAddingSpace fragment) next ∧
      SsmlContent.ofLeaves next.leaves = (SsmlContent.ofLeaves builder.leaves).append
        (SsmlContent.ofFragment needAddingSpace parser.lastGrapheme fragment) := by
  rw [SsmlParser.parseFragment]
  cases isBookmark : fragment.isBookmark with
  | true =>
      refine ⟨builder.add (.bookmark fragment), builds.bookmark, ?_⟩
      rw [SsmlBuilder.leaves_add, SsmlContent.ofLeaves_append, SsmlContent.ofFragment,
        ProviderSpeechFragment.isSpeakable_of_isBookmark isBookmark, isBookmark]
      rfl
  | false =>
      cases speakable : fragment.isSpeakable with
      | true => exact builds.speak speakable isBookmark
      | false =>
          refine ⟨builder, builds, ?_⟩
          rw [SsmlContent.ofFragment, isBookmark, speakable]
          exact (SsmlContent.append_empty _).symm

theorem lastGrapheme_parseFragment :
    (parser.parseFragment needAddingSpace fragment).lastGrapheme =
      graphemeAfter parser.lastGrapheme fragment := by
  have before : (parser.beforeText needAddingSpace fragment).lastGrapheme =
      parser.lastGrapheme := by
    simp only [beforeText, SsmlParser.openProsody, SsmlParser.separate, SsmlParser.closeProsody,
      SsmlParser.noteText, append]
    split <;> split <;> split <;> split <;> rfl
  rw [SsmlParser.parseFragment, graphemeAfter]
  cases isBookmark : fragment.isBookmark with
  | true =>
      rw [ProviderSpeechFragment.isSpeakable_of_isBookmark isBookmark]
      rfl
  | false =>
      cases speakable : fragment.isSpeakable with
      | false => rfl
      | true =>
          simp only [SsmlParser.speak, updateLastGrapheme, if_true, true_and,
            Bool.false_eq_true, if_false]
          split
          · rfl
          · exact before

/-- **The loop builds what its fragments add**, by induction on them. -/
theorem Builds.foldl (builds : Builds localeName parser builder)
    (needAddingSpace : List UInt16 → List UInt16 → Bool)
    (fragments : List ProviderSpeechFragment) :
    ∃ next, Builds localeName
        (fragments.foldl (SsmlParser.parseFragment needAddingSpace) parser) next ∧
      SsmlContent.ofLeaves next.leaves = (SsmlContent.ofLeaves builder.leaves).append
        (SsmlContent.ofFragments needAddingSpace parser.lastGrapheme fragments) := by
  induction fragments generalizing parser builder with
  | nil => exact ⟨builder, builds, (SsmlContent.append_empty _).symm⟩
  | cons fragment fragments ih =>
      obtain ⟨middle, builds, first⟩ :=
        builds.parseFragment needAddingSpace fragment
      obtain ⟨next, builds, rest⟩ := ih builds
      refine ⟨next, builds, ?_⟩
      rw [rest, first, SsmlContent.append_assoc, lastGrapheme_parseFragment]
      rfl

end Steps

/-! ## The whole document -/

section Contents

variable {needAddingSpace : List UInt16 → List UInt16 → Bool}

theorem texts_ofFragments (last : List UInt16) (fragments : List ProviderSpeechFragment) :
    (SsmlContent.ofFragments needAddingSpace last fragments).texts =
      (fragments.filter ProviderSpeechFragment.isSpeakable).map
        fun fragment => (fragment, fragment.hasProsody) := by
  induction fragments generalizing last with
  | nil => rfl
  | cons fragment fragments ih =>
      rw [SsmlContent.ofFragments, SsmlContent.append, ih, SsmlContent.ofFragment, List.filter_cons]
      split <;> rfl

theorem bookmarks_ofFragments (last : List UInt16) (fragments : List ProviderSpeechFragment) :
    (SsmlContent.ofFragments needAddingSpace last fragments).bookmarks =
      fragments.filter ProviderSpeechFragment.isBookmark := by
  induction fragments generalizing last with
  | nil => rfl
  | cons fragment fragments ih =>
      rw [SsmlContent.ofFragments, SsmlContent.append, ih, SsmlContent.ofFragment, List.filter_cons]
      cases fragment.isBookmark <;> rfl

theorem characters_ofFragments (last : List UInt16) (fragments : List ProviderSpeechFragment) :
    (SsmlContent.ofFragments needAddingSpace last fragments).characters =
      spokenText needAddingSpace last fragments := by
  induction fragments generalizing last with
  | nil => rfl
  | cons fragment fragments ih =>
      rw [SsmlContent.ofFragments, SsmlContent.append, ih, SsmlContent.ofFragment, spokenText]

theorem charactersAll_leaves (leaves : List SsmlLeaf) :
    Node.charactersAll (leaves.map SsmlLeaf.toXml) = leaves.flatMap SsmlLeaf.characters := by
  induction leaves with
  | nil => rfl
  | cons leaf leaves ih =>
      rw [List.map_cons, Node.charactersAll, ih, List.flatMap_cons]
      cases leaf <;> rfl

theorem SsmlItem.characters_toXml (item : SsmlItem) :
    item.toXml.characters = item.leaves.flatMap fun leaf => leaf.1.characters := by
  cases item with
  | single leaf =>
      rw [SsmlItem.leaves, List.flatMap_singleton]
      cases leaf <;> rfl
  | prosody settings leaves =>
      rw [SsmlItem.toXml, Node.characters, charactersAll_leaves, SsmlItem.leaves, List.flatMap_map]

/-- The character data of a document is that of its leaves. -/
theorem SsmlDocument.characters_toXml (document : SsmlDocument) :
    document.toXml.characters = document.leaves.flatMap fun leaf => leaf.1.characters := by
  obtain ⟨localeName, items⟩ := document
  rw [SsmlDocument.toXml, Node.characters, SsmlDocument.leaves]
  induction items with
  | nil => rfl
  | cons item items ih =>
      rw [List.map_cons, Node.charactersAll, ih, item.characters_toXml, List.flatMap_cons,
        List.flatMap_append]

end Contents

/-- The end of the document, and what its items come to. -/
theorem Builds.finish {localeName : List UInt16} {parser : SsmlParser} {builder : SsmlBuilder}
    (builds : Builds localeName parser builder) (plain : Plain localeName) :
    parser.finish.ssmlString = (SsmlDocument.mk localeName builder.close.items).toXml.render ∧
      (SsmlDocument.mk localeName builder.close.items).leaves = builder.leaves := by
  have closed : builder.close.written =
      Node.renderAll (builder.close.items.map SsmlItem.toXml) := by
    obtain ⟨items, _ | ⟨settings, leaves⟩⟩ := builder <;>
      simp [SsmlBuilder.close, SsmlBuilder.written]
  constructor
  · have body : (if parser.isProsodyOpen then parser.append (units "</prosody>")
        else parser).ssmlString =
          (SsmlParser.start localeName).ssmlString ++ builder.close.written := by
      split
      · next isOpen =>
          rw [SsmlBuilder.written_close (builds.isOpen.symm.trans isOpen), ← List.append_assoc,
            ← builds.written]
          rfl
      · next isClosed =>
          rw [builds.isOpen, Bool.not_eq_true, Option.isSome_eq_false_iff,
            Option.isNone_iff_eq_none] at isClosed
          rw [SsmlBuilder.close, isClosed]
          exact builds.written
    rw [SsmlParser.finish, SsmlParser.append, body, closed, ← render_speakTag plain,
      SsmlDocument.toXml, Node.render]
    simp [speakTag, units]
  · rw [SsmlDocument.leaves, ← SsmlBuilder.leaves_close, SsmlBuilder.leaves]
    obtain ⟨items, _ | ⟨settings, leaves⟩⟩ := builder <;> simp [SsmlBuilder.close]

/-- **What the parser writes is well nested and keeps the texts.** For every list of fragments
and every locale name without markup, the string is a speak element of texts, spaces, bookmarks
and prosody elements, none of them inside another. The text of every speakable fragment is in it
once, in order, and inside a prosody element if and only if the fragment has a prosody of its
own. Without the tags, and with the entities taken back, the string is the texts without their
NULs and with the spaces that were asked for. -/
theorem ssml_well_nested (needAddingSpace : List UInt16 → List UInt16 → Bool)
    {localeName : List UInt16} (plain : Plain localeName)
    (fragments : List ProviderSpeechFragment) :
    ∃ document : SsmlDocument, document.localeName = localeName ∧
      (parse needAddingSpace localeName fragments).ssmlString = document.toXml.render ∧
      document.texts = (fragments.filter ProviderSpeechFragment.isSpeakable).map
        (fun fragment => (fragment, fragment.hasProsody)) ∧
      document.bookmarks = fragments.filter ProviderSpeechFragment.isBookmark ∧
      unescape (removeTags false (parse needAddingSpace localeName fragments).ssmlString) =
        spokenText needAddingSpace [] fragments := by
  have empty : Builds localeName (SsmlParser.start localeName) {} := ⟨by simp [SsmlBuilder.written,
    Node.renderAll], rfl⟩
  obtain ⟨builder, builds, content⟩ :=
    empty.foldl needAddingSpace fragments
  obtain ⟨written, leaves⟩ := builds.finish plain
  have content' : SsmlContent.ofLeaves builder.leaves =
      SsmlContent.ofFragments needAddingSpace [] fragments := content
  refine ⟨⟨localeName, builder.close.items⟩, rfl, written, ?_, ?_, ?_⟩
  · rw [SsmlDocument.texts, leaves, ← texts_ofFragments [], ← content']
    rfl
  · rw [SsmlDocument.bookmarks, leaves, ← bookmarks_ofFragments [], ← content']
    rfl
  · have string : (parse needAddingSpace localeName fragments).ssmlString =
        (SsmlDocument.mk localeName builder.close.items).toXml.render := written
    rw [string, characterData_render, SsmlDocument.characters_toXml, leaves,
      ← characters_ofFragments, ← content']
    rfl

theorem ssml_well_nested_prosody :
    unescape (removeTags false (parse (fun _ _ => true) (units "en-US")
      [{ text := units "a<b", rate := 5 }, { text := units "name", action := 3 },
        { text := units "c" }]).ssmlString) = units "a<b c" := by
  have plain : Plain (units "en-US") := by decide
  obtain ⟨-, -, -, -, -, spoken⟩ := ssml_well_nested (fun _ _ => true) plain
    [{ text := units "a<b", rate := 5 }, { text := units "name", action := 3 },
      { text := units "c" }]
  rw [spoken]
  decide

end ModernSapi
