import FindingLedger.Plist.Read
import FindingLedger.Proofs.Plist.Building

/-!
# Runs of the reader

The scanner and the builder go on together. As many elements are open for the scanner as there
are values open for the builder, the document element included; once a value has begun, the
reader never goes back to waiting for one, and the value of the document is never replaced.
-/

namespace FindingLedger
namespace Plist

open Markup (Item Scans Scanner)

/-!
# Runs with their items
-/

/-- Whether a reader reads bytes to become another, some items being taken meanwhile. -/
inductive Reads : Reader -> Bytes -> List Item -> Reader -> Prop where
  | nil (r : Reader) : Reads r [] [] r
  | cons {r m t : Reader} {b : UInt8} {rest : Bytes} {item : Option Item} {items : List Item}
      (scan : r.scanner.step b = .ok (m.scanner, item))
      (take : Reader.take r.builder item = .ok m.builder) (tail : Reads m rest items t) :
      Reads r (b :: rest) (item.toList ++ items) t

namespace Reads

variable {r m t : Reader} {front back : Bytes} {items others : List Item}

theorem scans (h : Reads r front items t) : Scans r.scanner front items t.scanner := by
  induction h with
  | nil r =>
      exact Scans.nil _
  | cons scan _ _ ih =>
      exact Scans.cons scan ih

theorem append (h : Reads r front items m) (h' : Reads m back others t) :
    Reads r (front ++ back) (items ++ others) t := by
  induction h with
  | nil =>
      exact h'
  | cons scan take _ ih =>
      rw [List.append_assoc]
      exact cons scan take (ih h')

theorem split (h : Reads r (front ++ back) items t) :
    exists m before after, Reads r front before m ∧ Reads m back after t ∧
      items = before ++ after := by
  induction front generalizing r items with
  | nil =>
      exact ⟨r, [], items, nil r, h, rfl⟩
  | cons b front ih =>
      cases h with
      | cons scan take tail =>
          rcases ih tail with ⟨m, before, after, hfront, hback, rfl⟩
          exact ⟨m, _, after, cons scan take hfront, hback, (List.append_assoc _ _ _).symm⟩

theorem run_eq (h : Reads r front items t) : r.run front = .ok t := by
  induction h with
  | nil =>
      rfl
  | cons scan take _ ih =>
      rw [Reader.run, Reader.step, scan]
      dsimp only
      rw [take]
      exact ih

theorem of_run_eq (h : r.run front = .ok t) : exists items, Reads r front items t := by
  induction front generalizing r with
  | nil =>
      cases h
      exact ⟨[], nil _⟩
  | cons b front ih =>
      rw [Reader.run, Reader.step] at h
      cases hscan : r.scanner.step b with
      | error fault =>
          rw [hscan] at h
          cases h
      | ok scanned =>
          rw [hscan] at h
          dsimp only at h
          cases htake : Reader.take r.builder scanned.2 with
          | error fault =>
              rw [htake] at h
              cases h
          | ok builder =>
              rw [htake] at h
              rcases ih h with ⟨items, htail⟩
              exact ⟨_, cons (m := ⟨scanned.1, builder⟩) hscan htake htail⟩

theorem unique {u : Reader} (h : Reads r front items t) (h' : Reads r front others u) :
    t = u :=
  Except.ok.inj (h.run_eq.symm.trans h'.run_eq)

theorem after {u : Reader} (h : Reads r front items m) (h' : Reads r (front ++ back) others u) :
    exists rest, Reads m back rest u := by
  rcases h'.split with ⟨m', _, rest, hfront, hback, _⟩
  rw [← h.unique hfront] at hback
  exact ⟨rest, hback⟩

end Reads

namespace Reader

/-!
# Sound readers
-/

def openCount (b : Builder) : Nat :=
  b.depth + b.inPlist.toNat

/-- Whether the scanner and the builder have the same number of elements open. -/
structure Sound (r : Reader) : Prop where
  builder : r.builder.Sound
  count : r.scanner.openNames.length = openCount r.builder

theorem sound_start : start.Sound :=
  ⟨Builder.sound_start, rfl⟩

theorem length_namesAfter_of_change {b c : Builder} {item : Item} {names : List Bytes}
    (h : Builder.Change b item c) (hcount : names.length = openCount b)
    (hclosing : forall name, item = .closing name -> names ≠ []) :
    (Scanner.namesAfter names (some item)).length = openCount c := by
  unfold openCount at hcount ⊢
  cases h with
  | content hcontent hdepth _ hplist =>
      rw [hdepth, hplist, ← hcount]
      cases item with
      | opening | closing =>
          exact hcontent.elim
      | _ =>
          rfl
  | plistBegins hdepth hplist =>
      show names.length + 1 = b.depth + 1
      rw [hcount, (Builder.opensPlist_iff.mp hplist).2]
      rfl
  | plistEmpty =>
      exact hcount
  | begins hdepth _ hplist =>
      show names.length + 1 = _
      rw [hdepth, hplist]
      omega
  | rootEmpty =>
      exact hcount
  | innerEmpty _ hdepth _ hplist =>
      rw [hdepth, hplist]
      exact hcount
  | plistEnds hdepth =>
      have hpos := List.length_pos_iff.mpr (hclosing _ rfl)
      have hone := Bool.toNat_le b.inPlist
      show names.tail.length = b.depth + 0
      rw [List.length_tail]
      omega
  | rootEnds hbefore hafter _ hplist =>
      show names.tail.length = _
      rw [List.length_tail, hplist]
      omega
  | innerEnds hdepth _ _ hplist =>
      show names.tail.length = _
      rw [List.length_tail, hplist]
      omega

theorem take_none {b c : Builder} (h : take b none = .ok c) : c = b :=
  (Except.ok.inj h).symm

theorem Sound.step {r t : Reader} {b : UInt8} {item : Option Item} (hr : r.Sound)
    (scan : r.scanner.step b = .ok (t.scanner, item))
    (htake : take r.builder item = .ok t.builder) : t.Sound := by
  have hturn := Scanner.turn_of_step scan
  cases item with
  | none =>
      have hbuilder := take_none htake
      refine ⟨hbuilder ▸ hr.builder, ?_⟩
      rw [hturn.openNames_eq, hbuilder]
      exact hr.count
  | some item =>
      have hchange := Builder.change_of_step hr.builder htake
      refine ⟨hr.builder.step htake, ?_⟩
      rw [hturn.openNames_eq]
      refine length_namesAfter_of_change hchange hr.count ?_
      intro name hitem
      rw [hitem] at hturn
      rw [hturn.names_of_closing]
      exact List.cons_ne_nil _ _

end Reader

namespace Reads

variable {r t : Reader} {bytes : Bytes} {items : List Item}

theorem sound (h : Reads r bytes items t) (hr : r.Sound) : t.Sound := by
  induction h with
  | nil =>
      exact hr
  | cons scan take _ ih =>
      exact ih (hr.step scan take)

theorem waiting (h : Reads r bytes items t) (hr : r.Sound) (ht : t.builder.Waiting) :
    r.builder.Waiting := by
  induction h with
  | nil =>
      exact ht
  | @cons r m t b rest item items scan take _ ih =>
      have hm := ih (hr.step scan take) ht
      cases item with
      | none =>
          rwa [Reader.take_none take] at hm
      | some item =>
          exact (Builder.change_of_step hr.builder take).waiting hm

theorem root_eq (h : Reads r bytes items t) (hr : r.Sound) {v : Value}
    (hroot : r.builder.root = some v) : t.builder.root = some v := by
  induction h with
  | nil =>
      exact hroot
  | @cons r m t b rest item items scan take _ ih =>
      refine ih (hr.step scan take) ?_
      cases item with
      | none =>
          rwa [Reader.take_none take]
      | some item =>
          exact (Builder.change_of_step hr.builder take).root_eq hr.builder hroot

theorem plist_of_waiting (h : Reads r bytes items t) (hr : r.Sound)
    (ht : t.builder.Waiting) {item : Item} (hitem : item ∈ items) {name : Bytes}
    (hname : item.begins? = some name) : Text.decodeLenient name = "plist" := by
  induction h with
  | nil =>
      cases hitem
  | @cons r m t b rest item' items scan take tail ih =>
      have hm := hr.step scan take
      rcases List.mem_append.mp hitem with hhead | htail
      · rw [Option.mem_toList] at hhead
        cases hhead
        have hchange := Builder.change_of_step hr.builder take
        have hwaiting := tail.waiting hm ht
        exact (hchange.begins_of_waiting (hchange.waiting hwaiting) hname).mp hwaiting
      · exact ih hm ht htail

end Reads

/-!
# Ends of documents
-/

namespace Reader

/-- A document can end in text when nothing is open, and its value is the one that has been
built. -/
theorem finish_eq_ok {r : Reader} (hr : r.Sound) {v : Option Value} (h : r.finish = .ok v) :
    (exists chunk, r.scanner.mode = .text chunk) ∧ r.scanner.openNames = [] ∧
      r.builder.depth = 0 ∧ r.builder.root = v := by
  unfold finish at h
  cases hscan : r.scanner.finish with
  | error fault =>
      rw [hscan] at h
      cases h
  | ok item =>
      rw [hscan] at h
      rcases Scanner.finish_eq_ok hscan with ⟨chunk, hmode, hitem⟩
      dsimp only at h
      cases htake : take r.builder item with
      | error fault =>
          rw [htake] at h
          cases h
      | ok b =>
          rw [htake] at h
          rcases Builder.finish_eq_ok_iff.mp h with ⟨hdepth, hplist, hroot⟩
          have hsame : b.depth = r.builder.depth ∧ b.inPlist = r.builder.inPlist ∧
              b.root = r.builder.root := by
            rw [hitem, Scanner.pending] at htake
            split at htake
            · rw [take_none htake]
              exact ⟨rfl, rfl, rfl⟩
            · cases Builder.change_of_step hr.builder htake with
              | content _ hdepth hroot hplist =>
                  exact ⟨hdepth, hplist, hroot⟩
          rw [hsame.1] at hdepth
          rw [hsame.2.1] at hplist
          rw [hsame.2.2] at hroot
          have hcount := hr.count
          rw [openCount, hdepth, hplist] at hcount
          exact ⟨⟨chunk, hmode⟩, List.length_eq_zero_iff.mp hcount, hdepth, hroot⟩

end Reader
end Plist
end FindingLedger
