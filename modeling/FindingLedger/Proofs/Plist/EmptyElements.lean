import FindingLedger.Proofs.Plist.ItemRuns
import FindingLedger.Proofs.Plist.RoundTrip

/-!
# Elements without content

An element without content is written as one self-closing tag or as a tag that opens it and a
tag that closes it. Two documents that differ in one such spelling are read alike while the
element lies at a depth at which values may begin. Below that depth the pair of tags is refused
and the self-closing tag is not, since only an opening tag has its depth checked.
-/

namespace FindingLedger
namespace Plist

open Markup (Item Scans Scanner IsName)

/-!
# Two spellings
-/

/-- The names of the elements that may stand without content. -/
def emptyNames : List String :=
  ["dict", "array", "string", "data", "true", "false", "key"]

inductive SelfClosingTag (name : String) : Bytes -> Prop where
  | begun {inner : Bytes}
      (scans : forall names, Scans ⟨.begun, names⟩ inner [.selfClosing (Text.bytesOf name)]
        ⟨.text [], names⟩) : SelfClosingTag name (0x3C :: inner)

def tagPair (name : String) : Bytes :=
  Text.bytesOf "<" ++ Text.bytesOf name ++ Text.bytesOf "></" ++ Text.bytesOf name ++
    Text.bytesOf ">"

/-- Whether two documents differ in the spelling of one element, a self-closing tag in the first
and a pair of tags in the second. The element stands inside of the elements of the given names,
or the scanner never comes to it. -/
inductive Respelled (name : String) (names : List Bytes) : Bytes -> Bytes -> Prop where
  | reached {front tag chunk : Bytes} {items : List Item}
      (place : Scans .start (dropMark front) items ⟨.text chunk, names⟩)
      (closes : SelfClosingTag name tag) (back : Bytes) :
      Respelled name names (front ++ tag ++ back) (front ++ tagPair name ++ back)
  | stuck {front tag : Bytes} (fails : forall items s, ¬ Scans .start (dropMark front) items s)
      (closes : SelfClosingTag name tag) (back : Bytes) :
      Respelled name names (front ++ tag ++ back) (front ++ tagPair name ++ back)

section Tags

variable {name : String}

theorem isName_of_mem_emptyNames (h : name ∈ emptyNames) : IsName (Text.bytesOf name) := by
  have hall : forall name, name ∈ emptyNames ->
      Text.bytesOf name ≠ [] ∧ (Text.bytesOf name).all Markup.isLetter = true := by
    decide
  exact ⟨(hall name h).1, (hall name h).2⟩

theorem selfClosingTag_plain (h : IsName (Text.bytesOf name)) :
    SelfClosingTag name (Text.bytesOf "<" ++ Text.bytesOf name ++ Text.bytesOf "/>") :=
  .begun fun _ => Markup.scans_selfClosing h

theorem tagPair_eq (name : String) :
    tagPair name = 0x3C :: ((Text.bytesOf name ++ [0x3E]) ++
      0x3C :: (0x2F :: Text.bytesOf name ++ [0x3E])) := by
  simp only [tagPair, List.append_assoc]
  rfl

theorem scans_tagPair (h : IsName (Text.bytesOf name)) (names : List Bytes) :
    Scans ⟨.begun, names⟩
      ((Text.bytesOf name ++ [0x3E]) ++ 0x3C :: (0x2F :: Text.bytesOf name ++ [0x3E]))
      [.opening (Text.bytesOf name), .closing (Text.bytesOf name)] ⟨.text [], names⟩ :=
  (Markup.scans_opening h).append (Scans.of_begin (Markup.scans_closing h))

end Tags

/-!
# What the builder makes of them
-/

namespace Builder

variable {b : Builder} {name : String}

theorem beginValue_leaf_closed (leaf : Leaf) {v : Value} (hleaf : b.leaf = none)
    (hdepth : b.frames.length < maxDepth) (hkey : leaf ≠ .key) (hvalue : leafValue leaf "" = .ok v)
    (tag : Bytes) :
    (b.beginValue leaf.name >>= fun c => c.step (.closing tag)) = .ok (b.place v) := by
  rw [beginValue_leaf hdepth hkey]
  exact @endLeaf_reading b leaf [] v hleaf hkey hvalue

/-- What is opened and closed at once is worth what its self-closing tag is, where its depth
allows it to be opened. -/
theorem beginValue_closed (hname : name ∈ emptyNames) (hkey : name ≠ "key")
    (hleaf : b.leaf = none) (hdepth : b.frames.length < maxDepth) (tag : Bytes) :
    (b.beginValue name >>= fun c => c.step (.closing tag)) = b.emptyElement name := by
  simp only [emptyNames, List.mem_cons, List.not_mem_nil, or_false] at hname
  rcases hname with rfl | rfl | rfl | rfl | rfl | rfl | rfl
  · rw [beginValue_dict hdepth]
    exact step_of_dict (b := b.withFrame _) hleaf rfl _
  · rw [beginValue_array hdepth]
    exact step_of_array (b := b.withFrame _) hleaf rfl _
  · exact beginValue_leaf_closed .string hleaf hdepth Leaf.noConfusion rfl tag
  · exact beginValue_leaf_closed .data hleaf hdepth Leaf.noConfusion rfl tag
  · exact beginValue_leaf_closed (.boolean true) hleaf hdepth Leaf.noConfusion rfl tag
  · exact beginValue_leaf_closed (.boolean false) hleaf hdepth Leaf.noConfusion rfl tag
  · exact absurd rfl hkey

theorem beginValue_deep (hdepth : maxDepth ≤ b.frames.length) (name : String) :
    b.beginValue name = .error .tooDeep :=
  if_pos hdepth

theorem beginValue_key (b : Builder) : exists fault, b.beginValue "key" = .error fault := by
  by_cases hdepth : maxDepth ≤ b.frames.length
  · exact ⟨_, beginValue_deep hdepth "key"⟩
  · refine ⟨.unknownElement "key", ?_⟩
    unfold beginValue
    rw [if_neg hdepth]
    rfl

theorem toOption_emptyElement (hname : name ∈ emptyNames) (hleaf : b.leaf = none)
    (hdepth : name = "key" ∨ b.frames.length < maxDepth) (tag : Bytes) :
    (b.emptyElement name).toOption =
      (b.beginValue name >>= fun c => c.step (.closing tag)).toOption := by
  by_cases hkey : name = "key"
  · rcases beginValue_key b with ⟨fault, hfault⟩
    rw [hkey, hfault]
    rfl
  · rw [beginValue_closed hname hkey hleaf (hdepth.resolve_left hkey)]

section Positions

variable {entries : List (String × Value)} {key : Option String} {items : List Value}
variable {outer : List Frame}

theorem toOption_stepTop (hname : name ∈ emptyNames) (hleaf : b.leaf = none)
    (hframes : b.frames = []) :
    (b.stepTop (.selfClosing (Text.bytesOf name))).toOption =
      (b.stepTop (.opening (Text.bytesOf name)) >>= fun c =>
        c.step (.closing (Text.bytesOf name))).toOption := by
  have hplist : (name == "plist" && !b.inPlist) = false := by
    have hne : name ≠ "plist" := by
      rintro rfl
      exact absurd hname (by decide)
    rw [beq_false_of_ne hne, Bool.false_and]
  have hdepth : b.frames.length < maxDepth := by
    rw [hframes]
    decide
  simp only [stepTop, Text.decodeLenient_bytesOf, hplist, Bool.false_eq_true, if_false]
  cases b.root with
  | none =>
      exact toOption_emptyElement hname hleaf (Or.inr hdepth) _
  | some v =>
      rfl

theorem toOption_stepDict (hname : name ∈ emptyNames) (hleaf : b.leaf = none)
    (hdepth : name = "key" ∨ b.frames.length < maxDepth) :
    (b.stepDict entries key outer (.selfClosing (Text.bytesOf name))).toOption =
      (b.stepDict entries key outer (.opening (Text.bytesOf name)) >>= fun c =>
        c.step (.closing (Text.bytesOf name))).toOption := by
  simp only [stepDict, Text.decodeLenient_bytesOf]
  cases hkey : name == "key" with
  | true =>
      cases key with
      | some key =>
          rfl
      | none =>
          change some (b.setKey "") = some ({ b with leaf := none }.setKey "")
          rw [← hleaf]
  | false =>
      cases key with
      | some key =>
          exact toOption_emptyElement hname hleaf hdepth _
      | none =>
          rfl

theorem toOption_stepArray (hname : name ∈ emptyNames) (hleaf : b.leaf = none)
    (hdepth : name = "key" ∨ b.frames.length < maxDepth) :
    (b.stepArray items outer (.selfClosing (Text.bytesOf name))).toOption =
      (b.stepArray items outer (.opening (Text.bytesOf name)) >>= fun c =>
        c.step (.closing (Text.bytesOf name))).toOption := by
  simp only [stepArray, Text.decodeLenient_bytesOf]
  exact toOption_emptyElement hname hleaf hdepth _

theorem toOption_step (hname : name ∈ emptyNames)
    (hdepth : name = "key" ∨ b.frames.length < maxDepth) :
    (b.step (.selfClosing (Text.bytesOf name))).toOption =
      (b.step (.opening (Text.bytesOf name)) >>= fun c =>
        c.step (.closing (Text.bytesOf name))).toOption := by
  rcases b.exists_position with ⟨step, hposition, hstep⟩
  rw [hstep, hstep]
  cases hposition with
  | leaf =>
      rfl
  | top hleaf hframes =>
      exact toOption_stepTop hname hleaf hframes
  | dict hleaf =>
      exact toOption_stepDict hname hleaf hdepth
  | array hleaf =>
      exact toOption_stepArray hname hleaf hdepth

theorem step_opening_deep (hkey : name ≠ "key") (hdepth : maxDepth ≤ b.frames.length) :
    exists fault, b.step (.opening (Text.bytesOf name)) = .error fault := by
  rcases b.exists_position with ⟨step, hposition, hstep⟩
  rw [hstep]
  cases hposition with
  | leaf =>
      exact ⟨_, rfl⟩
  | top hleaf hframes =>
      rw [hframes] at hdepth
      exact absurd hdepth (by decide)
  | @dict entries key outer hleaf hframes =>
      simp only [stepDict, Text.decodeLenient_bytesOf, beq_false_of_ne hkey]
      cases key with
      | some key =>
          exact ⟨_, beginValue_deep hdepth name⟩
      | none =>
          exact ⟨_, rfl⟩
  | array =>
      simp only [stepArray, Text.decodeLenient_bytesOf]
      exact ⟨_, beginValue_deep hdepth name⟩

end Positions

end Builder

/-!
# Documents
-/

section Reading

variable {front back tag chunk : Bytes} {items : List Item} {name : String} {names : List Bytes}

theorem read_of_selfClosingTag
    (hplace : Scans .start (dropMark front) items ⟨.text chunk, names⟩)
    (htag : SelfClosingTag name tag) :
    read (front ++ tag ++ back) =
      Builder.start.stepAll (items ++ (Scanner.pending chunk).toList) >>= fun b =>
        b.step (.selfClosing (Text.bytesOf name)) >>= fun c =>
          Reader.run ⟨⟨.text [], names⟩, c⟩ back >>= Reader.finish := by
  cases htag with
  | begun hscans =>
      rw [read_of_markup hplace (hscans names)]
      refine bind_congr fun b => ?_
      rw [Builder.stepAll_cons, bind_assoc]
      exact bind_congr fun c => rfl

theorem read_of_tagPair (hplace : Scans .start (dropMark front) items ⟨.text chunk, names⟩)
    (hname : IsName (Text.bytesOf name)) :
    read (front ++ tagPair name ++ back) =
      Builder.start.stepAll (items ++ (Scanner.pending chunk).toList) >>= fun b =>
        (b.step (.opening (Text.bytesOf name)) >>= fun c =>
          c.step (.closing (Text.bytesOf name))) >>= fun c =>
            Reader.run ⟨⟨.text [], names⟩, c⟩ back >>= Reader.finish := by
  rw [tagPair_eq, read_of_markup hplace (scans_tagPair hname names)]
  refine bind_congr fun b => ?_
  rw [Builder.stepAll_cons, bind_assoc, bind_assoc]
  refine bind_congr fun c => ?_
  rw [Builder.stepAll_cons, bind_assoc]
  exact bind_congr fun d => rfl

theorem length_frames_of_stepAll {b : Builder}
    (hplace : Scans .start (dropMark front) items ⟨.text chunk, names⟩)
    (hstep : Builder.start.stepAll (items ++ (Scanner.pending chunk).toList) = .ok b) :
    b.frames.length = containerCount names := by
  exact length_frames_eq (openElements_of_scans hplace.begins hstep rfl)

theorem read_error_of_stuck (h : forall items s, ¬ Scans .start (dropMark front) items s)
    (inner back : Bytes) :
    exists fault, read (front ++ (0x3C :: inner) ++ back) = .error fault := by
  have hparts : dropMark (front ++ (0x3C :: inner) ++ back) =
      dropMark front ++ 0x3C :: (inner ++ back) := by
    rw [List.append_assoc, List.cons_append, dropMark_append_begin]
  exact read_error_of_not_scans hparts h

end Reading

/-- Both spellings of an element without content are refused, or they have the same value, if
the element is a key or lies at a depth at which values may begin. Otherwise the spelling by two
tags is refused. -/
theorem read_of_respelled {name : String} {names : List Bytes} {one two : Bytes}
    (h : Respelled name names one two) (hname : name ∈ emptyNames) :
    (name = "key" ∨ containerCount names < maxDepth ->
        (read one).toOption = (read two).toOption) ∧
      (name ≠ "key" -> maxDepth ≤ containerCount names ->
        exists fault, read two = .error fault) := by
  have hletters := isName_of_mem_emptyNames hname
  cases h with
  | @stuck front tag hstuck htag back =>
      have htwo : exists fault, read (front ++ tagPair name ++ back) = .error fault := by
        rw [tagPair_eq]
        exact read_error_of_stuck hstuck _ _
      rcases htwo with ⟨fault, hfault⟩
      refine ⟨fun _ => ?_, fun _ _ => ⟨fault, hfault⟩⟩
      cases htag with
      | @begun inner _ =>
          rcases read_error_of_stuck hstuck inner back with ⟨fault', hfault'⟩
          rw [hfault, hfault']
          rfl
  | reached hplace htag back =>
      rw [read_of_selfClosingTag hplace htag, read_of_tagPair hplace hletters]
      cases hstep : Builder.start.stepAll (_ ++ (Scanner.pending _).toList) with
      | error fault =>
          exact ⟨fun _ => rfl, fun _ _ => ⟨fault, rfl⟩⟩
      | ok b =>
          have hframes := length_frames_of_stepAll hplace hstep
          rw [← hframes]
          constructor
          · intro hdepth
            exact toOption_bind_congr (Builder.toOption_step hname hdepth) _
          · intro hkey hdepth
            rcases Builder.step_opening_deep hkey hdepth with ⟨fault, hfault⟩
            refine ⟨fault, ?_⟩
            change ((b.step _ >>= _) >>= _) = _
            rw [hfault]
            rfl

/-!
# Nested arrays
-/

def nestedFront (depth : Nat) : Bytes :=
  Text.bytesOf "<plist>" ++ (List.replicate depth (Text.bytesOf "<array>")).flatten

def nestedBack (depth : Nat) : Bytes :=
  (List.replicate depth (Text.bytesOf "</array>")).flatten ++ Text.bytesOf "</plist>"

def nestedNames (depth : Nat) : List Bytes :=
  List.replicate depth (Text.bytesOf "array") ++ [Text.bytesOf "plist"]

theorem scans_arrayTags (depth : Nat) (names : List Bytes) :
    exists items, Scans ⟨.text [], names⟩ (List.replicate depth (Text.bytesOf "<array>")).flatten
      items ⟨.text [], List.replicate depth (Text.bytesOf "array") ++ names⟩ := by
  have hname : IsName (Text.bytesOf "array") := ⟨by decide, by decide⟩
  induction depth generalizing names with
  | zero =>
      exact ⟨[], Scans.nil _⟩
  | succ depth ih =>
      have htag : Scans ⟨.text [], names⟩ (Text.bytesOf "<array>") [.opening (Text.bytesOf "array")]
          ⟨.text [], Text.bytesOf "array" :: names⟩ :=
        Scans.of_begin (Markup.scans_opening hname)
      rcases ih (Text.bytesOf "array" :: names) with ⟨items, hscans⟩
      have hnames : List.replicate (depth + 1) (Text.bytesOf "array") ++ names =
          List.replicate depth (Text.bytesOf "array") ++ Text.bytesOf "array" :: names := by
        rw [List.replicate_succ', List.append_assoc, List.singleton_append]
      rw [hnames, List.replicate_succ, List.flatten_cons]
      exact ⟨_, htag.append hscans⟩

theorem containerCount_nestedNames (depth : Nat) :
    containerCount (nestedNames depth) = depth := by
  have harray : ["dict", "array"].contains (Text.decodeLenient (Text.bytesOf "array")) = true := by
    decide +kernel
  unfold containerCount nestedNames
  rw [List.countP_append, List.countP_replicate, if_pos harray]
  rfl

theorem respelled_nested (depth : Nat) {name : String} (hname : name ∈ emptyNames) :
    Respelled name (nestedNames depth)
      (nestedFront depth ++ (Text.bytesOf "<" ++ Text.bytesOf name ++ Text.bytesOf "/>") ++
        nestedBack depth)
      (nestedFront depth ++ tagPair name ++ nestedBack depth) := by
  rcases scans_arrayTags depth [Text.bytesOf "plist"] with ⟨items, hscans⟩
  have hplace : Scans .start (dropMark (nestedFront depth)) _ ⟨.text [], nestedNames depth⟩ :=
    scans_plistTag.append hscans
  exact .reached hplace (selfClosingTag_plain (isName_of_mem_emptyNames hname)) _

/-- Two arrays around an empty dictionary are read in both spellings, and the pair of tags is
refused inside of 64 arrays. -/
theorem read_of_respelled_nested :
    (read (nestedFront 2 ++ tagPair "dict" ++ nestedBack 2) =
        .ok (some (.array [.array [.dict []]]))) ∧
      exists fault, read (nestedFront 64 ++ tagPair "dict" ++ nestedBack 64) = .error fault := by
  have hname : "dict" ∈ emptyNames := by
    decide
  have hshallow : containerCount (nestedNames 2) < maxDepth := by
    rw [containerCount_nestedNames]
    decide
  have hdeep : maxDepth ≤ containerCount (nestedNames 64) := by
    rw [containerCount_nestedNames]
    decide
  constructor
  · rw [← toOption_eq_some_iff,
      ← (read_of_respelled (respelled_nested 2 hname) hname).1 (Or.inr hshallow)]
    rfl
  · exact (read_of_respelled (respelled_nested 64 hname) hname).2 (by decide) hdeep

/-- Inside of 64 arrays an empty array is read when it is self-closing, and refused as a pair of
tags. -/
theorem not_toOption_read_of_respelled :
    ¬ forall (name : String) (names : List Bytes) (one two : Bytes),
      Respelled name names one two -> name ∈ emptyNames ->
        (read one).toOption = (read two).toOption := by
  intro h
  have hname : "array" ∈ emptyNames := by
    decide
  have hone : (read (nestedFront 64 ++ (Text.bytesOf "<" ++ Text.bytesOf "array" ++
      Text.bytesOf "/>") ++ nestedBack 64)).toOption.isSome = true := by
    decide +kernel
  have htwo : (read (nestedFront 64 ++ tagPair "array" ++ nestedBack 64)).toOption.isSome =
      false := by
    decide +kernel
  rw [h _ _ _ _ (respelled_nested 64 hname) hname, htwo] at hone
  cases hone

end Plist
end FindingLedger
