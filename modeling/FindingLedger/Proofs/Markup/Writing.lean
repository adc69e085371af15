import FindingLedger.Markup.Reference
import FindingLedger.Proofs.Markup.Scanning
import FindingLedger.Proofs.Text.Utf8

/-!
# Markup that is written

Texts are spelled with references for the characters that would begin markup, and tags,
comments and marked sections are written around them. Each of these pieces of markup is
scanned as the one item that it was written for.
-/

namespace FindingLedger
namespace Markup

/-!
# Text with references
-/

/-- Whether characters spell a text: each of its characters stands for itself or is written
as a reference by name. -/
inductive Spells : List Char -> List Char -> Prop where
  | nil : Spells [] []
  | plain {c : Char} {spelling text : List Char} (hopen : c ≠ '<') (hamp : c ≠ '&')
      (hrest : Spells spelling text) : Spells (c :: spelling) (c :: text)
  | named {c : Char} {name spelling text : List Char} (hname : Reference.ofName? name = some c)
      (hrest : Spells spelling text) : Spells ('&' :: name ++ ';' :: spelling) (c :: text)

namespace Reference

theorem ofName?_eq_some {name : List Char} {c : Char} (h : ofName? name = some c) :
    name = ['l', 't'] ∨ name = ['g', 't'] ∨ name = ['a', 'm', 'p'] ∨
      name = ['a', 'p', 'o', 's'] ∨ name = ['q', 'u', 'o', 't'] := by
  unfold ofName? at h
  repeat' split at h
  all_goals simp_all

theorem replaceFrom_named {size place : Nat} {name : List Char} {c : Char}
    (h : ofName? name = some c) (rest : List Char) :
    exists place', replaceFrom size place none ('&' :: name ++ ';' :: rest) =
      (replaceFrom size place' none rest).map (c :: ·) := by
  rcases ofName?_eq_some h with rfl | rfl | rfl | rfl | rfl <;> cases h <;>
    exact ⟨_, rfl⟩

theorem replaceFrom_of_spells {spelling text : List Char} (h : Spells spelling text)
    (size place : Nat) : replaceFrom size place none spelling = .ok text := by
  induction h generalizing place with
  | nil =>
      rfl
  | @plain c spelling text _ hamp _ ih =>
      rw [replaceFrom, if_neg (by simpa using hamp), ih]
      rfl
  | @named c name spelling text hname _ ih =>
      rcases replaceFrom_named hname spelling with ⟨place', heq⟩
      rw [heq, ih]
      rfl

end Reference

namespace Spells

variable {spelling text : List Char}

theorem textOf_eq (h : Spells spelling text) : textOf (Text.encode spelling) = .ok text := by
  rw [textOf, Text.decode_encode]
  exact Reference.replaceFrom_of_spells h _ _

theorem append {spelling' text' : List Char} (h : Spells spelling text)
    (h' : Spells spelling' text') : Spells (spelling ++ spelling') (text ++ text') := by
  induction h with
  | nil =>
      exact h'
  | plain hopen hamp _ ih =>
      exact plain hopen hamp ih
  | @named c name spelling text hname _ ih =>
      rw [List.append_assoc, List.cons_append]
      exact named hname ih

theorem open_not_mem (h : Spells spelling text) : '<' ∉ spelling := by
  induction h with
  | nil =>
      exact List.not_mem_nil
  | plain hopen _ _ ih =>
      exact List.not_mem_cons_of_ne_of_not_mem hopen.symm ih
  | @named c name spelling text hname _ ih =>
      rcases Reference.ofName?_eq_some hname with rfl | rfl | rfl | rfl | rfl <;> simpa using ih

theorem of_plain (hopen : '<' ∉ text) (hamp : '&' ∉ text) : Spells text text := by
  induction text with
  | nil =>
      exact nil
  | cons c text ih =>
      have hrest := ih (List.not_mem_of_not_mem_cons hopen) (List.not_mem_of_not_mem_cons hamp)
      exact plain (List.ne_of_not_mem_cons hopen).symm (List.ne_of_not_mem_cons hamp).symm hrest

end Spells

theorem exists_spells (text : List Char) : exists spelling, Spells spelling text := by
  induction text with
  | nil =>
      exact ⟨[], Spells.nil⟩
  | cons c text ih =>
      rcases ih with ⟨spelling, hspelling⟩
      by_cases hopen : c = '<'
      · rw [hopen]
        exact ⟨_, @Spells.named '<' "lt".toList _ _ rfl hspelling⟩
      · by_cases hamp : c = '&'
        · rw [hamp]
          exact ⟨_, @Spells.named '&' "amp".toList _ _ rfl hspelling⟩
        · exact ⟨_, Spells.plain hopen hamp hspelling⟩

/-!
# Tags
-/

def isLetter (b : UInt8) : Bool :=
  0x61 ≤ b && b ≤ 0x7A

structure IsName (name : Bytes) : Prop where
  ne_nil : name ≠ []
  letters : name.all isLetter = true

theorem ne_of_isLetter {b c : UInt8} (h : isLetter b = true) (hc : c < 0x61) : b ≠ c := by
  rintro rfl
  have hlow : 0x61 ≤ b := of_decide_eq_true (Bool.and_eq_true_iff.mp h).1
  exact absurd hc (UInt8.not_lt.mpr hlow)

theorem isTagBlank_of_isLetter {b : UInt8} (h : isLetter b = true) :
    Scanner.isTagBlank b = false := by
  unfold Scanner.isTagBlank
  simp [ne_of_isLetter (c := 0x20) h (by decide), ne_of_isLetter (c := 0x09) h (by decide),
    ne_of_isLetter (c := 0x0A) h (by decide), ne_of_isLetter (c := 0x0D) h (by decide)]

theorem quoteAfter_of_isLetter {b : UInt8} (h : isLetter b = true) :
    Scanner.quoteAfter none b = none := by
  unfold Scanner.quoteAfter
  simp [ne_of_isLetter (c := 0x22) h (by decide), ne_of_isLetter (c := 0x27) h (by decide)]

section Tags

variable {name : Bytes} {names : List Bytes}

theorem tagName_of_letters (h : name.all isLetter = true) : Scanner.tagName name = name := by
  have hnot : forall b, b ∈ name -> (!Scanner.isTagBlank b) = true := by
    intro b hb
    rw [isTagBlank_of_isLetter (List.all_eq_true.mp h b hb)]
    rfl
  unfold Scanner.tagName
  rw [← List.append_nil name, List.takeWhile_append_of_pos hnot]
  rfl

theorem closingName_of_isName (h : IsName name) : Scanner.closingName name.reverse = name := by
  unfold Scanner.closingName
  cases hreverse : name.reverse with
  | nil =>
      exact absurd (List.reverse_eq_nil_iff.mp hreverse) h.ne_nil
  | cons b rest =>
      have hb : b ∈ name := by
        rw [← List.mem_reverse, hreverse]
        exact List.mem_cons_self
      have hblank := isTagBlank_of_isLetter (List.all_eq_true.mp h.letters b hb)
      rw [List.dropWhile_cons_of_neg (by simp [hblank])]
      show (b :: rest).reverse = name
      rw [← hreverse, List.reverse_reverse]

theorem Scans.quiet {s m t : Scanner} {b : UInt8} {rest : Bytes} {items : List Item}
    (head : s.step b = .ok (m, none)) (tail : Scans m rest items t) :
    Scans s (b :: rest) items t :=
  cons head tail

theorem Scans.gives {s t : Scanner} {b : UInt8} {item : Item}
    (h : s.step b = .ok (t, some item)) : Scans s [b] [item] t :=
  single h

theorem scans_tag_letters {content : Bytes} (h : name.all isLetter = true) :
    Scans ⟨.tag content none, names⟩ name [] ⟨.tag (name.reverse ++ content) none, names⟩ := by
  induction name generalizing content with
  | nil =>
      exact Scans.nil _
  | cons b name ih =>
      rcases Bool.and_eq_true_iff.mp h with ⟨hb, hname⟩
      have hstep : Scanner.step ⟨.tag content none, names⟩ b =
          .ok (⟨.tag (b :: content) none, names⟩, none) := by
        simp [Scanner.step, Scanner.stepTag, ne_of_isLetter (c := 0x3E) hb (by decide),
          quoteAfter_of_isLetter hb, Scanner.goOn]
      have hscans := Scans.quiet hstep (ih hname)
      rwa [List.reverse_cons, List.append_assoc]

theorem scans_closingTag_letters {content : Bytes} (h : name.all isLetter = true) :
    Scans ⟨.closingTag content none, names⟩ name []
      ⟨.closingTag (name.reverse ++ content) none, names⟩ := by
  induction name generalizing content with
  | nil =>
      exact Scans.nil _
  | cons b name ih =>
      rcases Bool.and_eq_true_iff.mp h with ⟨hb, hname⟩
      have hstep : Scanner.step ⟨.closingTag content none, names⟩ b =
          .ok (⟨.closingTag (b :: content) none, names⟩, none) := by
        simp [Scanner.step, ne_of_isLetter (c := 0x3E) hb (by decide),
          quoteAfter_of_isLetter hb, Scanner.goOn]
      have hscans := Scans.quiet hstep (ih hname)
      rwa [List.reverse_cons, List.append_assoc]

theorem endTag_reverse {mode : Mode} (h : IsName name) :
    Scanner.endTag ⟨mode, names⟩ name.reverse =
      .ok (⟨.text [], name :: names⟩, some (.opening name)) := by
  unfold Scanner.endTag
  split
  · rename_i before hreverse
    have hslash : 0x2F ∈ name := by
      rw [← List.mem_reverse, hreverse]
      exact List.mem_cons_self
    exact absurd (List.all_eq_true.mp h.letters _ hslash) (by decide)
  · rw [List.reverse_reverse, tagName_of_letters h.letters]
    rfl

theorem step_begun_letter {b : UInt8} (hb : isLetter b = true) :
    Scanner.step ⟨.begun, names⟩ b = .ok (⟨.tag [b] none, names⟩, none) := by
  simp [Scanner.step, Scanner.stepTag, ne_of_isLetter (c := 0x21) hb (by decide),
    ne_of_isLetter (c := 0x2F) hb (by decide), ne_of_isLetter (c := 0x3F) hb (by decide),
    ne_of_isLetter (c := 0x3E) hb (by decide), quoteAfter_of_isLetter hb, Scanner.goOn]

theorem scans_opening (h : IsName name) :
    Scans ⟨.begun, names⟩ (name ++ [0x3E]) [.opening name] ⟨.text [], name :: names⟩ := by
  cases name with
  | nil =>
      exact absurd rfl h.ne_nil
  | cons b name =>
      rcases Bool.and_eq_true_iff.mp h.letters with ⟨hb, hname⟩
      have hend : Scanner.step ⟨.tag (name.reverse ++ [b]) none, names⟩ 0x3E =
          .ok (⟨.text [], (b :: name) :: names⟩, some (.opening (b :: name))) := by
        rw [← List.reverse_cons]
        exact endTag_reverse h
      exact (Scans.quiet (step_begun_letter hb) (scans_tag_letters hname)).append
        (Scans.single hend)

theorem scans_selfClosing (h : IsName name) :
    Scans ⟨.begun, names⟩ (name ++ [0x2F, 0x3E]) [.selfClosing name] ⟨.text [], names⟩ := by
  cases name with
  | nil =>
      exact absurd rfl h.ne_nil
  | cons b name =>
      rcases Bool.and_eq_true_iff.mp h.letters with ⟨hb, hname⟩
      have hend : Scanner.step ⟨.tag (0x2F :: (name.reverse ++ [b])) none, names⟩ 0x3E =
          .ok (⟨.text [], names⟩, some (.selfClosing (b :: name))) := by
        have hwhole : (name.reverse ++ [b]).reverse = b :: name := by
          rw [← List.reverse_cons, List.reverse_reverse]
        change Except.ok (_, some (Item.selfClosing (Scanner.tagName _))) = _
        rw [hwhole, tagName_of_letters h.letters]
      exact ((Scans.quiet (step_begun_letter hb) (scans_tag_letters hname)).append
        (.quiet rfl (.gives hend)))

theorem scans_closing (h : IsName name) :
    Scans ⟨.begun, name :: names⟩ (0x2F :: name ++ [0x3E]) [.closing name]
      ⟨.text [], names⟩ := by
  have hend : Scanner.step ⟨.closingTag (name.reverse ++ []) none, name :: names⟩ 0x3E =
      .ok (⟨.text [], names⟩, some (.closing name)) := by
    have hname := closingName_of_isName h
    rw [List.append_nil]
    have hnames : name :: names = Scanner.closingName name.reverse :: names := by
      rw [hname]
    exact (Scanner.endClosingTag_eq_ok_iff (s := ⟨_, name :: names⟩)).mpr
      ⟨names, hnames, rfl, by rw [hname]⟩
  exact (Scans.quiet rfl (scans_closingTag_letters h.letters)).append (Scans.single hend)

end Tags

/-!
# Comments and marked sections
-/

section Sections

variable {names : List Bytes}

theorem scans_comment_inside {text : Bytes} (h : 0x2D ∉ text) :
    Scans ⟨.comment 0, names⟩ text [] ⟨.comment 0, names⟩ := by
  induction text with
  | nil =>
      exact Scans.nil _
  | cons b text ih =>
      have hstep : Scanner.step ⟨.comment 0, names⟩ b = .ok (⟨.comment 0, names⟩, none) := by
        simp [Scanner.step, (List.ne_of_not_mem_cons h).symm, Scanner.goOn]
      exact Scans.quiet hstep (ih (List.not_mem_of_not_mem_cons h))

theorem scans_comment {text : List Char} (h : '-' ∉ text) :
    Scans ⟨.begun, names⟩ (Text.encode ("!--".toList ++ text ++ "-->".toList)) [.silent]
      ⟨.text [], names⟩ := by
  have hbytes : 0x2D ∉ Text.encode text := by
    rw [Text.mem_encode_iff (by decide)]
    rintro ⟨c, hc, heq⟩
    have hhyphen : c = '-' := Char.toNat_inj.mp heq
    exact h (hhyphen ▸ hc)
  have hopen : Scans ⟨.begun, names⟩ [0x21, 0x2D, 0x2D] [] ⟨.comment 0, names⟩ :=
    .quiet rfl (.quiet rfl (.quiet rfl (.nil _)))
  have hclose : Scans ⟨.comment 0, names⟩ [0x2D, 0x2D, 0x3E] [.silent] ⟨.text [], names⟩ :=
    .quiet rfl (.quiet rfl (.gives rfl))
  rw [Text.encode_append, Text.encode_append]
  exact (hopen.append (scans_comment_inside hbytes)).append hclose

theorem scans_cdata_inside {content bytes : Bytes}
    (h : ¬ [0x5D, 0x5D, 0x3E] <:+: content.reverse ++ bytes) :
    Scans ⟨.cdata content, names⟩ bytes [] ⟨.cdata (bytes.reverse ++ content), names⟩ := by
  induction bytes generalizing content with
  | nil =>
      exact Scans.nil _
  | cons b bytes ih =>
      have hstep : Scanner.step ⟨.cdata content, names⟩ b =
          .ok (⟨.cdata (b :: content), names⟩, none) := by
        unfold Scanner.step
        dsimp only
        split
        · rename_i before hb
          refine absurd ?_ h
          rw [beq_iff_eq.mp hb]
          exact ⟨before.reverse, bytes, by simp⟩
        · rfl
      have hscans := Scans.quiet hstep (ih (by rwa [List.reverse_cons, List.append_assoc]))
      rwa [List.reverse_cons, List.append_assoc]

theorem not_infix_encode {text : List Char} (h : ¬ "]]>".toList <:+: text) :
    ¬ [0x5D, 0x5D, 0x3E] <:+: Text.encode text := by
  rintro ⟨front, back, heq⟩
  rw [List.append_assoc] at heq
  rcases Text.encode_eq_append_cons (by decide) heq.symm with ⟨ds, c, es, rfl, hc, -, hes⟩
  rcases Text.encode_eq_cons (by decide) hes.symm with ⟨c', es', rfl, hc', hes'⟩
  rcases Text.encode_eq_cons (by decide) hes'.symm with ⟨c'', es'', rfl, hc'', -⟩
  have hfirst : c = ']' := Char.toNat_inj.mp hc
  have hsecond : c' = ']' := Char.toNat_inj.mp hc'
  have hthird : c'' = '>' := Char.toNat_inj.mp hc''
  rw [hfirst, hsecond, hthird] at h
  exact h ⟨ds, es'', by simp⟩

theorem scans_marked {content : Bytes} (h : ¬ [0x5D, 0x5D, 0x3E] <:+: content) :
    Scans ⟨.begun, names⟩ (Text.bytesOf "![CDATA[" ++ content ++ Text.bytesOf "]]>")
      [.cdata content] ⟨.text [], names⟩ := by
  have hopen : Scans ⟨.begun, names⟩ (Text.bytesOf "![CDATA[") [] ⟨.cdata [], names⟩ :=
    .quiet rfl (.quiet rfl (.quiet rfl (.quiet rfl (.quiet rfl (.quiet rfl (.quiet rfl
      (.quiet rfl (.nil _))))))))
  have hclose (reversed : Bytes) : Scans ⟨.cdata reversed, names⟩ [0x5D, 0x5D, 0x3E]
      [.cdata reversed.reverse] ⟨.text [], names⟩ :=
    .quiet rfl (.quiet rfl (.gives rfl))
  have hend := hclose (content.reverse ++ [])
  rw [List.append_nil, List.reverse_reverse] at hend
  exact (hopen.append (scans_cdata_inside h)).append (by rwa [List.append_nil])

theorem scans_cdata {text : List Char} (h : ¬ "]]>".toList <:+: text) :
    Scans ⟨.begun, names⟩ (Text.encode ("![CDATA[".toList ++ text ++ "]]>".toList))
      [.cdata (Text.encode text)] ⟨.text [], names⟩ := by
  rw [Text.encode_append, Text.encode_append]
  exact scans_marked (not_infix_encode h)

end Sections

end Markup
end FindingLedger
