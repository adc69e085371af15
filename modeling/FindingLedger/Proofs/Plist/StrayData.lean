import FindingLedger.Proofs.Plist.ItemRuns

/-!
# Character data between elements

Character data belongs into keys and leaves. Where it stands between elements instead, text that
is not blank is refused; blank text and marked sections, whatever the sections hold, are read
like a comment. So a document can be read although it has data that goes nowhere, as long as
the data stands in marked sections.
-/

namespace FindingLedger
namespace Plist

open Markup (Item Scans Scanner)

/-!
# Pieces of character data
-/

/-- A piece of character data: text up to the next markup, or a marked section. -/
inductive CharacterData where
  | text (chunk : Bytes)
  | marked (content : Bytes)

namespace CharacterData

def bytes : CharacterData -> Bytes
  | .text chunk => chunk
  | .marked content => Text.bytesOf "<![CDATA[" ++ content ++ Text.bytesOf "]]>"

/-- Whether a piece can be read and holds nothing but blanks. -/
def IsBlank : CharacterData -> Prop
  | .text chunk => BlankText chunk
  | .marked content => Text.allBlank (Text.decodeLenient content) = true

end CharacterData

def emptyComment : Bytes :=
  Text.bytesOf "<!---->"

/-- Whether a document has a piece of character data directly between its elements, outside of
every key and leaf; the second document has a comment in its place. A chunk of text goes from
markup or the front up to markup or the end, apart from the mark of the document. -/
inductive StandsBetween : Bytes -> CharacterData -> Bytes -> Prop where
  | text {front chunk back : Bytes} {items : List Item} {names : List Bytes}
      (place : Scans .start (dropMark front) items ⟨.text [], names⟩)
      (between : BetweenElements names)
      (unmarked : dropMark (front ++ chunk) = dropMark front ++ chunk)
      (plain : 0x3C ∉ chunk) (whole : back = [] ∨ back.head? = some 0x3C) :
      StandsBetween (front ++ (CharacterData.text chunk).bytes ++ back) (.text chunk)
        (front ++ emptyComment ++ back)
  | marked {front content back chunk : Bytes} {items : List Item} {names : List Bytes}
      (place : Scans .start (dropMark front) items ⟨.text chunk, names⟩)
      (between : BetweenElements names) (closed : ¬ [0x5D, 0x5D, 0x3E] <:+: content) :
      StandsBetween (front ++ (CharacterData.marked content).bytes ++ back) (.marked content)
        (front ++ emptyComment ++ back)

/-!
# What is read of them
-/

section Reading

variable {front back : Bytes} {items : List Item} {names : List Bytes}

theorem dropMark_append_of_begin {rest : Bytes}
    (hrest : rest = [] ∨ rest.head? = some 0x3C) (front : Bytes) :
    dropMark (front ++ rest) = dropMark front ++ rest := by
  rcases hrest with rfl | hbegin
  · rw [List.append_nil, List.append_nil]
  · rcases List.head?_eq_some_iff.mp hbegin with ⟨more, rfl⟩
    exact dropMark_append_begin front more

theorem Builder.step_cdata {b : Builder} (h : b.leaf = none) (content : Bytes) :
    b.step (.cdata content) = .ok b := by
  rcases b.exists_position with ⟨step, hposition, hstep⟩
  rw [hstep]
  cases hposition with
  | leaf hreading =>
      cases h.symm.trans hreading
  | top | dict | array =>
      rfl

theorem read_of_quiet_markup {inner chunk : Bytes} {item : Item}
    (hplace : Scans .start (dropMark front) items ⟨.text chunk, names⟩)
    (hmarkup : Scans ⟨.begun, names⟩ inner [item] ⟨.text [], names⟩)
    (hquiet : forall b, Builder.start.stepAll (items ++ (Scanner.pending chunk).toList) = .ok b ->
      b.step item = .ok b) :
    read (front ++ (0x3C :: inner) ++ back) =
      Builder.start.stepAll (items ++ (Scanner.pending chunk).toList) >>= fun b =>
        Reader.run ⟨⟨.text [], names⟩, b⟩ back >>= Reader.finish := by
  rw [read_of_markup hplace hmarkup]
  cases hstep : Builder.start.stepAll (items ++ (Scanner.pending chunk).toList) with
  | error fault =>
      rfl
  | ok b =>
      change ((b.step item >>= pure) >>= _) = _
      rw [hquiet b hstep]
      rfl

theorem read_of_emptyComment {chunk : Bytes}
    (hplace : Scans .start (dropMark front) items ⟨.text chunk, names⟩) :
    read (front ++ emptyComment ++ back) =
      Builder.start.stepAll (items ++ (Scanner.pending chunk).toList) >>= fun b =>
        Reader.run ⟨⟨.text [], names⟩, b⟩ back >>= Reader.finish := by
  have hcomment : Scans ⟨.begun, names⟩ (Text.bytesOf "!---->") [.silent] ⟨.text [], names⟩ :=
    @Markup.scans_comment _ [] List.not_mem_nil
  exact read_of_quiet_markup hplace hcomment fun b _ => step_silent b

theorem read_of_marked {content chunk : Bytes}
    (hplace : Scans .start (dropMark front) items ⟨.text chunk, names⟩)
    (hbetween : BetweenElements names) (hclosed : ¬ [0x5D, 0x5D, 0x3E] <:+: content) :
    read (front ++ (CharacterData.marked content).bytes ++ back) =
      read (front ++ emptyComment ++ back) := by
  rw [read_of_emptyComment hplace]
  refine read_of_quiet_markup hplace (Markup.scans_marked hclosed) fun b hstep => ?_
  exact Builder.step_cdata (leaf_eq_none_of_stepAll hplace.begins hstep hbetween) content

theorem read_of_text {chunk : Bytes}
    (hplace : Scans .start (dropMark front) items ⟨.text [], names⟩)
    (hmark : dropMark (front ++ chunk) = dropMark front ++ chunk) (hplain : 0x3C ∉ chunk)
    (hback : back = [] ∨ back.head? = some 0x3C) :
    read (front ++ chunk ++ back) =
      Builder.start.stepAll items >>= fun b =>
        b.stepAll (Scanner.pending chunk.reverse).toList >>= fun c =>
          Reader.run ⟨⟨.text [], names⟩, c⟩ back >>= Reader.finish := by
  have hscans := hplace.append (Scans.of_text hplain)
  have hparts : dropMark (front ++ chunk ++ back) = dropMark front ++ chunk ++ back := by
    rw [dropMark_append_of_begin hback, hmark]
  rw [List.append_nil, List.append_nil] at hscans
  rw [read_of_scans hparts hscans]
  exact bind_congr fun b => Reader.run_of_text b hback

theorem read_of_blankText {chunk : Bytes}
    (hplace : Scans .start (dropMark front) items ⟨.text [], names⟩)
    (hbetween : BetweenElements names)
    (hmark : dropMark (front ++ chunk) = dropMark front ++ chunk) (hplain : 0x3C ∉ chunk)
    (hback : back = [] ∨ back.head? = some 0x3C) (hblank : BlankText chunk) :
    read (front ++ chunk ++ back) = read (front ++ emptyComment ++ back) := by
  rw [read_of_text hplace hmark hplain hback, read_of_emptyComment hplace]
  change _ = Builder.start.stepAll (items ++ []) >>= _
  rw [List.append_nil]
  cases hstep : Builder.start.stepAll items with
  | error fault =>
      rfl
  | ok b =>
      have hleaf := leaf_eq_none_of_stepAll hplace hstep hbetween
      change (b.stepAll _ >>= _) = _
      rw [Builder.stepAll_blankText hleaf hblank]

theorem read_error_of_text {chunk : Bytes}
    (hplace : Scans .start (dropMark front) items ⟨.text [], names⟩)
    (hbetween : BetweenElements names)
    (hmark : dropMark (front ++ chunk) = dropMark front ++ chunk) (hplain : 0x3C ∉ chunk)
    (hback : back = [] ∨ back.head? = some 0x3C) (hfilled : ¬ BlankText chunk) :
    exists fault, read (front ++ chunk ++ back) = .error fault := by
  rw [read_of_text hplace hmark hplain hback]
  cases hstep : Builder.start.stepAll items with
  | error fault =>
      exact ⟨fault, rfl⟩
  | ok b =>
      have hleaf := leaf_eq_none_of_stepAll hplace hstep hbetween
      rcases Builder.stepAll_text_error hleaf hfilled with ⟨fault, hfault⟩
      refine ⟨fault, ?_⟩
      change (b.stepAll _ >>= _) = _
      rw [hfault]
      rfl

end Reading

/-- Character data between elements is refused if it is text that is not blank. Blank text and
marked sections are read as a comment in their place would be. -/
theorem read_of_standsBetween {document commented : Bytes} {data : CharacterData}
    (h : StandsBetween document data commented) :
    (forall chunk, data = .text chunk -> ¬ data.IsBlank ->
        exists fault, read document = .error fault) ∧
      ((data.IsBlank ∨ exists content, data = .marked content) ->
        read document = read commented) := by
  cases h with
  | text hplace hbetween hmark hplain hback =>
      constructor
      · intro chunk _ hfilled
        exact read_error_of_text hplace hbetween hmark hplain hback hfilled
      · rintro (hblank | ⟨content, hmarked⟩)
        · exact read_of_blankText hplace hbetween hmark hplain hback hblank
        · cases hmarked
  | marked hplace hbetween hclosed =>
      constructor
      · intro chunk htext
        cases htext
      · intro _
        exact read_of_marked hplace hbetween hclosed

def dictFront : Bytes :=
  Text.bytesOf "<plist><dict>"

def dictBack : Bytes :=
  Text.bytesOf "<key>zero</key><true/></dict></plist>"

theorem scans_dictFront :
    Scans .start dictFront [.opening (Text.bytesOf "plist"), .opening (Text.bytesOf "dict")]
      ⟨.text [], [Text.bytesOf "dict", Text.bytesOf "plist"]⟩ := by
  have hname : Markup.IsName (Text.bytesOf "dict") := ⟨by decide, by decide⟩
  exact scans_plistTag.append (Scans.of_begin (Markup.scans_opening hname))

theorem betweenElements_dictFront :
    BetweenElements [Text.bytesOf "dict", Text.bytesOf "plist"] := by
  intro name hname
  cases hname
  decide

/-- In a dictionary the text ` x ` is refused, and a marked section of it is not. -/
theorem read_of_standsBetween_dictFront :
    StandsBetween (dictFront ++ Text.bytesOf " x " ++ dictBack) (.text (Text.bytesOf " x "))
        (dictFront ++ emptyComment ++ dictBack) ∧
      (exists fault, read (dictFront ++ Text.bytesOf " x " ++ dictBack) = .error fault) ∧
      read (dictFront ++ (CharacterData.marked (Text.bytesOf " x ")).bytes ++ dictBack) =
        .ok (some (.dict [("zero", .boolean true)])) := by
  have htext : StandsBetween (dictFront ++ Text.bytesOf " x " ++ dictBack)
      (.text (Text.bytesOf " x ")) (dictFront ++ emptyComment ++ dictBack) :=
    .text scans_dictFront betweenElements_dictFront rfl (by decide) (Or.inr rfl)
  have hmarked : StandsBetween
      (dictFront ++ (CharacterData.marked (Text.bytesOf " x ")).bytes ++ dictBack)
      (.marked (Text.bytesOf " x ")) (dictFront ++ emptyComment ++ dictBack) :=
    .marked scans_dictFront betweenElements_dictFront (by decide)
  have hfilled : ¬ BlankText (Text.bytesOf " x ") := by
    rintro ⟨cs, hcs, hblank⟩
    cases hcs
    exact absurd (hblank 'x' (by decide)) (by decide)
  refine ⟨htext, (read_of_standsBetween htext).1 _ rfl hfilled, ?_⟩
  rw [(read_of_standsBetween hmarked).2 (Or.inr ⟨_, rfl⟩)]
  rfl

theorem not_read_error_of_standsBetween :
    ¬ forall (document commented : Bytes) (data : CharacterData),
      StandsBetween document data commented -> ¬ data.IsBlank ->
        exists fault, read document = .error fault := by
  intro h
  have hbetween : BetweenElements [Text.bytesOf "plist"] := by
    intro name hname
    cases hname
    decide
  have hmarked : StandsBetween
      (Text.bytesOf "<plist>" ++ (CharacterData.marked (Text.bytesOf "x")).bytes ++
        Text.bytesOf "<true/></plist>")
      (.marked (Text.bytesOf "x"))
      (Text.bytesOf "<plist>" ++ emptyComment ++ Text.bytesOf "<true/></plist>") :=
    .marked scans_plistTag hbetween (by decide)
  have hfilled : ¬ (CharacterData.marked (Text.bytesOf "x")).IsBlank := by
    change ¬ Text.allBlank (Text.decodeLenient (Text.bytesOf "x")) = true
    decide +kernel
  have hread : read (Text.bytesOf "<plist><![CDATA[x]]><true/></plist>") =
      .ok (some (.boolean true)) :=
    rfl
  rcases h _ _ _ hmarked hfilled with ⟨fault, hfault⟩
  have hsame := hread.symm.trans hfault
  cases hsame

end Plist
end FindingLedger
