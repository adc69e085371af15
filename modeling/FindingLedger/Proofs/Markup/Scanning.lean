import Mathlib.Data.List.Induction
import FindingLedger.Markup.Scanner

/-!
# Scanning stretches of markup

What one byte can do to a scanner is said once, by the kind of turn that it takes. From this
follows what a stretch of bytes does: where the markup began that the scanner is in, and that
an element is scanned alike alone and inside others.
-/

namespace FindingLedger
namespace Markup

def Mode.InMarkup : Mode -> Prop
  | .text _ => False
  | _ => True

def Item.begins? : Item -> Option Bytes
  | .opening name | .selfClosing name => some name
  | _ => none

def Item.IsContent : Item -> Prop
  | .text _ | .cdata _ | .silent => True
  | _ => False

namespace Scanner

/-!
# Turns
-/

def pending (chunk : Bytes) : Option Item :=
  if chunk.isEmpty then none else some (.text chunk.reverse)

/-- What one byte can do to a scanner. -/
inductive Turn (s : Scanner) (b : UInt8) : Scanner -> Option Item -> Prop where
  | chunk {bytes : Bytes} (mode : s.mode = .text bytes) :
      Turn s b { s with mode := .text (b :: bytes) } none
  | begin {bytes : Bytes} (mode : s.mode = .text bytes) (byte : b = 0x3C) :
      Turn s b { s with mode := .begun } (pending bytes)
  | inside {mode : Mode} (before : s.mode.InMarkup) (after : mode.InMarkup) :
      Turn s b { s with mode } none
  | content {item : Item} (before : s.mode.InMarkup) (content : item.IsContent) :
      Turn s b { s with mode := .text [] } (some item)
  | opening {name : Bytes} (before : s.mode.InMarkup) :
      Turn s b ⟨.text [], name :: s.openNames⟩ (some (.opening name))
  | selfClosing {name : Bytes} (before : s.mode.InMarkup) :
      Turn s b ⟨.text [], s.openNames⟩ (some (.selfClosing name))
  | closing {name : Bytes} {outer : List Bytes} (before : s.mode.InMarkup)
      (names : s.openNames = name :: outer) :
      Turn s b ⟨.text [], outer⟩ (some (.closing name))

theorem turn_of_goOn {s t : Scanner} {b : UInt8} {mode : Mode} {item : Option Item}
    (h : s.goOn mode = .ok (t, item)) (before : s.mode.InMarkup) (after : mode.InMarkup) :
    Turn s b t item := by
  cases h
  exact Turn.inside before after

theorem turn_of_endTag {s t : Scanner} {b : UInt8} {reversed : Bytes} {item : Option Item}
    (before : s.mode.InMarkup) (h : s.endTag reversed = .ok (t, item)) : Turn s b t item := by
  unfold endTag at h
  split at h
  · cases h
    exact Turn.selfClosing before
  · cases h
    exact Turn.opening before

theorem turn_of_stepTag {s t : Scanner} {b : UInt8} {content : Bytes} {quote : Option UInt8}
    {item : Option Item} (before : s.mode.InMarkup)
    (h : s.stepTag content quote b = .ok (t, item)) : Turn s b t item := by
  unfold stepTag at h
  split at h
  · exact turn_of_endTag before h
  · exact turn_of_goOn h before trivial

theorem endClosingTag_eq_ok_iff {s t : Scanner} {reversed : Bytes} {item : Option Item} :
    s.endClosingTag reversed = .ok (t, item) <->
      exists outer, s.openNames = closingName reversed :: outer ∧ t = ⟨.text [], outer⟩ ∧
        item = some (.closing (closingName reversed)) := by
  unfold endClosingTag
  dsimp only
  split
  · rename_i hnames
    simp [hnames]
  · rename_i expected outer hnames
    split
    · rename_i heq
      rw [beq_iff_eq] at heq
      simp only [emit, Except.ok.injEq, Prod.mk.injEq, hnames, heq, List.cons.injEq, true_and]
      constructor
      · rintro ⟨rfl, rfl⟩
        exact ⟨outer, rfl, rfl, rfl⟩
      · rintro ⟨_, rfl, rfl, rfl⟩
        exact ⟨rfl, rfl⟩
    · rename_i hne
      rw [beq_iff_eq] at hne
      simp only [reduceCtorEq, hnames, List.cons.injEq, false_iff]
      rintro ⟨_, ⟨heq, _⟩, _⟩
      exact hne heq.symm

theorem turn_of_endClosingTag {s t : Scanner} {b : UInt8} {reversed : Bytes}
    {item : Option Item} (before : s.mode.InMarkup)
    (h : s.endClosingTag reversed = .ok (t, item)) : Turn s b t item := by
  rcases endClosingTag_eq_ok_iff.mp h with ⟨outer, hnames, rfl, rfl⟩
  exact Turn.closing before hnames

theorem turn_of_step_inMarkup {s t : Scanner} {b : UInt8} {item : Option Item}
    (h : s.step b = .ok (t, item)) (before : s.mode.InMarkup) : Turn s b t item := by
  unfold step at h
  cases hmode : s.mode <;> rw [hmode] at h <;> dsimp only at h
  case text chunk =>
      rw [hmode] at before
      exact before.elim
  case begun =>
      split at h
      · exact turn_of_goOn h before trivial
      · split at h
        · exact turn_of_goOn h before trivial
        · split at h
          · exact turn_of_goOn h before trivial
          · exact turn_of_stepTag before h
  case tag content quote =>
      exact turn_of_stepTag before h
  case closingTag content quote =>
      split at h
      · exact turn_of_endClosingTag before h
      · exact turn_of_goOn h before trivial
  case bang =>
      split at h
      · exact turn_of_goOn h before trivial
      · split at h
        · exact turn_of_goOn h before trivial
        · split at h
          · exact turn_of_goOn h before trivial
          · cases h
  case cdataOpening missing =>
      split at h
      · cases h
      · split at h
        · exact turn_of_goOn h before trivial
        · cases h
      · split at h
        · exact turn_of_goOn h before trivial
        · cases h
  case cdata content =>
      split at h
      · cases h
        exact Turn.content before trivial
      · exact turn_of_goOn h before trivial
  case commentOpening =>
      split at h
      · exact turn_of_goOn h before trivial
      · cases h
  case comment hyphens =>
      split at h
      · exact turn_of_goOn h before trivial
      · split at h
        · cases h
          exact Turn.content before trivial
        · exact turn_of_goOn h before trivial
  case doctypeOpening missing =>
      split at h
      · cases h
      · split at h
        · exact turn_of_goOn h before trivial
        · cases h
      · split at h
        · exact turn_of_goOn h before trivial
        · cases h
  case doctype depth named =>
      split at h
      · exact turn_of_goOn h before trivial
      · split at h
        · split at h
          · split at h
            · cases h
              exact Turn.content before trivial
            · cases h
          · exact turn_of_goOn h before trivial
        · exact turn_of_goOn h before trivial
  case instruction fresh question =>
      split at h
      · split at h
        · cases h
        · cases h
          exact Turn.content before trivial
      · exact turn_of_goOn h before trivial

theorem turn_of_step {s t : Scanner} {b : UInt8} {item : Option Item}
    (h : s.step b = .ok (t, item)) : Turn s b t item := by
  cases hmode : s.mode with
  | text chunk =>
      rw [step, hmode] at h
      dsimp only at h
      split at h
      · rename_i hb
        cases h
        exact Turn.begin hmode (beq_iff_eq.mp hb)
      · cases h
        exact Turn.chunk hmode
  | _ =>
      exact turn_of_step_inMarkup h (by rw [hmode]; trivial)

/-!
# Names of open elements
-/

def namesAfter (names : List Bytes) : Option Item -> List Bytes
  | some (.opening name) => name :: names
  | some (.closing _) => names.tail
  | _ => names

theorem Turn.openNames_eq {s t : Scanner} {b : UInt8} {item : Option Item}
    (h : Turn s b t item) : t.openNames = namesAfter s.openNames item := by
  cases h with
  | chunk | inside | opening | selfClosing =>
      rfl
  | begin =>
      unfold pending
      split
      · rfl
      · rfl
  | @content item _ hcontent =>
      cases item with
      | opening | closing =>
          exact hcontent.elim
      | _ =>
          rfl
  | closing _ hnames =>
      rw [hnames]
      rfl

theorem Turn.names_of_closing {s t : Scanner} {b : UInt8} {name : Bytes}
    (h : Turn s b t (some (.closing name))) : s.openNames = name :: t.openNames := by
  generalize hitem : some (Item.closing name) = item at h
  cases h with
  | begin =>
      unfold pending at hitem
      split at hitem
      · cases hitem
      · cases hitem
  | content _ hcontent =>
      cases hitem
      exact hcontent.elim
  | closing _ hnames =>
      cases hitem
      exact hnames
  | _ =>
      cases hitem

theorem Turn.of_not_isContent {s t : Scanner} {b : UInt8} {item : Item}
    (h : Turn s b t (some item)) (hitem : ¬ item.IsContent) :
    s.mode.InMarkup ∧ t.mode = .text [] := by
  generalize hsome : some item = given at h
  cases h with
  | begin =>
      unfold pending at hsome
      split at hsome
      · cases hsome
      · cases hsome
        exact absurd trivial hitem
  | content hbefore | opening hbefore | selfClosing hbefore | closing hbefore =>
      exact ⟨hbefore, rfl⟩
  | chunk | inside =>
      cases hsome

theorem namesAfter_append {names outer : List Bytes} {item : Option Item}
    (h : forall name, item = some (.closing name) -> names ≠ []) :
    namesAfter (names ++ outer) item = namesAfter names item ++ outer := by
  cases item with
  | none =>
      rfl
  | some item =>
      cases item with
      | closing name =>
          rcases List.exists_cons_of_ne_nil (h name rfl) with ⟨first, rest, hnames⟩
          rw [hnames]
          rfl
      | _ =>
          rfl

theorem endTag_openNames (s : Scanner) (names : List Bytes) (reversed : Bytes) :
    { s with openNames := names }.endTag reversed =
      (s.endTag reversed).map fun r => ({ r.1 with openNames := namesAfter names r.2 }, r.2) := by
  unfold endTag
  split
  · rfl
  · rfl

theorem stepTag_openNames (s : Scanner) (names : List Bytes) (content : Bytes)
    (quote : Option UInt8) (b : UInt8) :
    { s with openNames := names }.stepTag content quote b =
      (s.stepTag content quote b).map fun r =>
        ({ r.1 with openNames := namesAfter names r.2 }, r.2) := by
  unfold stepTag
  split
  · exact endTag_openNames s names content
  · rfl

theorem step_openNames_of_not_closing {s : Scanner} {b : UInt8} (names : List Bytes)
    (h : forall content quote, s.mode ≠ .closingTag content quote) :
    { s with openNames := names }.step b =
      (s.step b).map fun r => ({ r.1 with openNames := namesAfter names r.2 }, r.2) := by
  unfold step
  cases hmode : s.mode <;> dsimp only
  case closingTag content quote =>
    exact absurd hmode (h content quote)
  case text chunk =>
    split
    · cases chunk <;> rfl
    · rfl
  case begun =>
    split
    · rfl
    · split
      · rfl
      · split
        · rfl
        · exact stepTag_openNames s names [] none b
  case tag content quote =>
    exact stepTag_openNames s names content quote b
  case cdataOpening missing =>
    rcases missing with _ | ⟨c, _ | ⟨d, more⟩⟩
    · rfl
    · dsimp only
      split <;> rfl
    · dsimp only
      split <;> rfl
  case doctypeOpening missing =>
    rcases missing with _ | ⟨c, _ | ⟨d, more⟩⟩
    · rfl
    · dsimp only
      split <;> rfl
    · dsimp only
      split <;> rfl
  case bang =>
    split
    · rfl
    · split
      · rfl
      · split <;> rfl
  case cdata content =>
    split <;> rfl
  case commentOpening =>
    split <;> rfl
  case comment hyphens =>
    split
    · rfl
    · split <;> rfl
  case doctype depth named =>
    split
    · rfl
    · split
      · cases depth with
        | zero =>
            dsimp only
            split <;> rfl
        | succ depth =>
            rfl
      · rfl
  case instruction fresh question =>
    split
    · split <;> rfl
    · rfl

/-- A closing tag needs the innermost open element to have its name; apart from that the
names of the open elements do not matter. -/
theorem step_openNames {s t : Scanner} {b : UInt8} {item : Option Item}
    (h : s.step b = .ok (t, item)) (names : List Bytes)
    (hclosing : forall name, item = some (.closing name) -> names.head? = some name) :
    { s with openNames := names }.step b =
      .ok ({ t with openNames := namesAfter names item }, item) := by
  by_cases hmode : exists content quote, s.mode = .closingTag content quote
  · rcases hmode with ⟨content, quote, hmode⟩
    unfold step at h ⊢
    rw [hmode] at h ⊢
    dsimp only at h ⊢
    split
    · rename_i hb
      rw [if_pos hb, endClosingTag_eq_ok_iff] at h
      rcases h with ⟨_, _, rfl, rfl⟩
      rw [endClosingTag_eq_ok_iff]
      rcases List.head?_eq_some_iff.mp (hclosing _ rfl) with ⟨outer, hnames⟩
      exact ⟨outer, hnames, by rw [hnames]; rfl, rfl⟩
    · rename_i hb
      rw [if_neg hb] at h
      cases h
      rfl
  · have hother : forall content quote, s.mode ≠ .closingTag content quote :=
      fun content quote heq => hmode ⟨content, quote, heq⟩
    rw [step_openNames_of_not_closing names hother, h]
    rfl

theorem finish_eq_ok {s : Scanner} {item : Option Item} (h : s.finish = .ok item) :
    exists chunk, s.mode = .text chunk ∧ item = pending chunk := by
  unfold finish at h
  split at h
  · rename_i hmode
    cases h
    exact ⟨[], hmode, rfl⟩
  · rename_i chunk hne hmode
    cases h
    cases chunk with
    | nil =>
        exact (hne rfl).elim
    | cons b chunk =>
        exact ⟨b :: chunk, hmode, rfl⟩
  all_goals cases h

end Scanner

/-!
# Scans
-/

/-- Whether a scanner reads bytes to become another, and gives out some items meanwhile. -/
inductive Scans : Scanner -> Bytes -> List Item -> Scanner -> Prop where
  | nil (s : Scanner) : Scans s [] [] s
  | cons {s m t : Scanner} {b : UInt8} {rest : Bytes} {item : Option Item} {items : List Item}
      (head : s.step b = .ok (m, item)) (tail : Scans m rest items t) :
      Scans s (b :: rest) (item.toList ++ items) t

namespace Scans

variable {s m t : Scanner} {front back : Bytes} {items others : List Item}

theorem append (h : Scans s front items m) (h' : Scans m back others t) :
    Scans s (front ++ back) (items ++ others) t := by
  induction h with
  | nil =>
      exact h'
  | cons head _ ih =>
      rw [List.append_assoc]
      exact cons head (ih h')

theorem split (h : Scans s (front ++ back) items t) :
    exists m before after, Scans s front before m ∧ Scans m back after t ∧
      items = before ++ after := by
  induction front generalizing s items with
  | nil =>
      exact ⟨s, [], items, nil s, h, rfl⟩
  | cons b front ih =>
      cases h with
      | cons head tail =>
          rcases ih tail with ⟨m, before, after, hfront, hback, rfl⟩
          exact ⟨m, _, after, cons head hfront, hback, (List.append_assoc _ _ _).symm⟩

theorem single {b : UInt8} {item : Option Item} (h : s.step b = .ok (t, item)) :
    Scans s [b] item.toList t := by
  have hscans := cons h (nil t)
  rwa [List.append_nil] at hscans

theorem of_single {b : UInt8} (h : Scans s [b] items t) :
    exists item, s.step b = .ok (t, item) ∧ items = item.toList := by
  cases h with
  | cons head tail =>
      cases tail
      exact ⟨_, head, List.append_nil _⟩

theorem unique {u : Scanner} (h : Scans s front items t) (h' : Scans s front others u) :
    t = u ∧ items = others := by
  induction h generalizing others with
  | nil =>
      cases h'
      exact ⟨rfl, rfl⟩
  | cons head _ ih =>
      cases h' with
      | cons head' tail' =>
          rw [head] at head'
          cases head'
          rcases ih tail' with ⟨rfl, rfl⟩
          exact ⟨rfl, rfl⟩

theorem after {u : Scanner} (h : Scans s front items m)
    (h' : Scans s (front ++ back) others u) : exists rest, Scans m back rest u := by
  rcases h'.split with ⟨m', _, rest, hfront, hback, _⟩
  rw [← (h.unique hfront).1] at hback
  exact ⟨rest, hback⟩

theorem inside (h : Scans s front items t) (outer : List Bytes) :
    Scans ⟨s.mode, s.openNames ++ outer⟩ front items ⟨t.mode, t.openNames ++ outer⟩ := by
  induction h with
  | nil s =>
      exact nil _
  | @cons s m t b rest item items head tail ih =>
      have hturn := Scanner.turn_of_step head
      have hnames : forall name, item = some (.closing name) ->
          s.openNames = name :: m.openNames := by
        intro name hitem
        rw [hitem] at hturn
        exact hturn.names_of_closing
      have hhead : forall name, item = some (.closing name) ->
          (s.openNames ++ outer).head? = some name := by
        intro name hitem
        rw [hnames name hitem]
        rfl
      have hsome : forall name, item = some (.closing name) -> s.openNames ≠ [] := by
        intro name hitem
        rw [hnames name hitem]
        exact List.cons_ne_nil _ _
      have hstep := Scanner.step_openNames head _ hhead
      rw [Scanner.namesAfter_append hsome, ← hturn.openNames_eq] at hstep
      exact cons hstep ih

theorem exists_begin (h : Scans s front items t) (hs : ¬ s.mode.InMarkup)
    (ht : t.mode.InMarkup) :
    exists before inner chunk others, front = before ++ 0x3C :: inner ∧
      Scans s before others ⟨.text chunk, t.openNames⟩ ∧
      Scans ⟨.begun, t.openNames⟩ inner [] t ∧
      items = others ++ (Scanner.pending chunk).toList := by
  induction front using List.reverseRecOn generalizing t items with
  | nil =>
      cases h
      exact absurd ht hs
  | append_singleton front b ih =>
      rcases h.split with ⟨m, others, last, hfront, hlast, rfl⟩
      rcases hlast.of_single with ⟨item, hstep, rfl⟩
      have hturn := Scanner.turn_of_step hstep
      cases hturn with
      | @begin bytes hmode hb =>
          refine ⟨front, [], bytes, others, by rw [hb], ?_, nil _, rfl⟩
          rwa [← hmode]
      | inside hbefore hafter =>
          rcases ih hfront hbefore with ⟨before, inner, chunk, others', rfl, hscans, hinner, rfl⟩
          refine ⟨before, inner ++ [b], chunk, others', by simp, hscans, ?_, by simp⟩
          exact hinner.append (single hstep)
      | _ =>
          exact ht.elim

theorem inMarkup_of_no_items (h : Scans s front [] t) (hs : s.mode.InMarkup) :
    t.mode.InMarkup := by
  generalize hitems : ([] : List Item) = items at h
  induction h with
  | nil =>
      exact hs
  | cons head tail ih =>
      have hturn := Scanner.turn_of_step head
      cases hturn with
      | chunk hmode | begin hmode =>
          rw [hmode] at hs
          exact hs.elim
      | inside _ hafter =>
          exact ih hafter hitems
      | _ =>
          cases hitems

theorem of_no_items (h : Scans s front [] t) (names : List Bytes) :
    Scans ⟨s.mode, names⟩ front [] ⟨t.mode, names⟩ := by
  generalize hitems : ([] : List Item) = items at h
  induction h with
  | nil =>
      exact nil _
  | @cons s m t b rest item items head tail ih =>
      cases item with
      | some item =>
          cases hitems
      | none =>
          have hstep := Scanner.step_openNames head names (fun _ h => nomatch h)
          have hcons := cons hstep (ih hitems)
          rwa [Option.toList_none, List.nil_append] at hcons ⊢

theorem begins {chunk : Bytes} {names : List Bytes}
    (h : Scans s front items ⟨.text chunk, names⟩) :
    Scans s (front ++ [0x3C]) (items ++ (Scanner.pending chunk).toList) ⟨.begun, names⟩ :=
  h.append (single rfl)

theorem of_begin {chunk : Bytes} {names : List Bytes}
    (h : Scans ⟨.begun, names⟩ front items t) :
    Scans ⟨.text chunk, names⟩ (0x3C :: front) ((Scanner.pending chunk).toList ++ items) t :=
  cons rfl h

theorem inMarkup_of_cut {names : List Bytes} {inner cut : Bytes} {u : Scanner}
    {chunk : Bytes} (h : Scans ⟨.begun, names⟩ inner [] t) (hcut : cut <+: 0x3C :: inner)
    (hne : cut ≠ []) (hscans : Scans ⟨.text chunk, names⟩ cut items u) : u.mode.InMarkup := by
  cases cut with
  | nil =>
      exact absurd rfl hne
  | cons c cut =>
      rcases List.cons_prefix_cons.mp hcut with ⟨rfl, back, rfl⟩
      rcases h.split with ⟨m, given, left, hgiven, _, hnone⟩
      rw [(List.append_eq_nil_iff.mp hnone.symm).1] at hgiven
      rw [(hscans.unique (of_begin hgiven)).1]
      exact hgiven.inMarkup_of_no_items trivial

theorem of_text {chunk : Bytes} {names : List Bytes} (h : 0x3C ∉ front) :
    Scans ⟨.text chunk, names⟩ front [] ⟨.text (front.reverse ++ chunk), names⟩ := by
  induction front generalizing chunk with
  | nil =>
      exact nil _
  | cons b rest ih =>
      have hstep : Scanner.step ⟨.text chunk, names⟩ b =
          .ok (⟨.text (b :: chunk), names⟩, none) :=
        if_neg (by simpa using (List.ne_of_not_mem_cons h).symm)
      have hscans := cons hstep (ih (List.not_mem_of_not_mem_cons h))
      rwa [List.reverse_cons, List.append_assoc]

end Scans

end Markup
end FindingLedger
