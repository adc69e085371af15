import FindingLedger.Plist.Builder
import FindingLedger.Proofs.Entries
import FindingLedger.Proofs.Markup.Writing
import FindingLedger.Proofs.Text.Numerals

/-!
# Layouts of property lists

A tree of dictionaries, arrays and leaves is written as a document in many ways. Blanks and
comments may stand between elements and around numbers and dates, blanks may stand anywhere
in data, and a text may be spelled out or stand in marked sections. What the document is
worth is said here of the tree alone.
-/

namespace FindingLedger
namespace Plist

open Markup (Spells)

/-!
# Trees
-/

/-- What a document is written for. A dictionary is a list of entries, and its keys may
repeat. -/
inductive Tree where
  | dict (entries : List (String × Tree))
  | array (items : List Tree)
  | string (text : String)
  | date (text : String)
  | data (text : String)
  | integer (number : Int64)
  | boolean (value : Bool)

namespace Tree

mutual

/-- How deep a tree is. A leaf is one deep. -/
def depth : Tree -> Nat
  | .dict entries => entryDepth entries + 1
  | .array items => itemDepth items + 1
  | _ => 1

def itemDepth : List Tree -> Nat
  | [] => 0
  | t :: rest => max t.depth (itemDepth rest)

def entryDepth : List (String × Tree) -> Nat
  | [] => 0
  | (_, t) :: rest => max t.depth (entryDepth rest)

end

mutual

/-- What a tree is worth. Of the entries of a key the last counts, at the place of the
first. -/
def value : Tree -> Value
  | .dict entries => .dict (Entries.settled (entryValues entries))
  | .array items => .array (itemValues items)
  | .string text => .string text
  | .date text => .date (Text.trim text)
  | .data text => .data (String.ofList (text.toList.filter fun c => !Text.isBlank c))
  | .integer number => .integer number.toInt
  | .boolean value => .boolean value

def itemValues : List Tree -> List Value
  | [] => []
  | t :: rest => t.value :: itemValues rest

def entryValues : List (String × Tree) -> List (String × Value)
  | [] => []
  | (key, t) :: rest => (key, t.value) :: entryValues rest

end

end Tree

/-!
# What stands between tags
-/

/-- Whether characters are blanks and comments. -/
inductive Gap : List Char -> Prop where
  | nil : Gap []
  | blank {c : Char} {rest : List Char} (hc : Text.isBlank c = true) (hrest : Gap rest) :
      Gap (c :: rest)
  | comment {text rest : List Char} (hhyphen : '-' ∉ text) (hclose : '>' ∉ text)
      (hrest : Gap rest) : Gap ("<!--".toList ++ text ++ "-->".toList ++ rest)

/-- Whether characters hold a text, some of it spelled out and some in marked sections. -/
inductive Content : List Char -> List Char -> Prop where
  | nil : Content [] []
  | spelled {spelling text rest more : List Char} (hspells : Spells spelling text)
      (hrest : Content rest more) : Content (spelling ++ rest) (text ++ more)
  | marked {text rest more : List Char} (htext : ¬ "]]>".toList <:+: text)
      (hrest : Content rest more) :
      Content ("<![CDATA[".toList ++ text ++ "]]>".toList ++ rest) (text ++ more)

/-- Whether characters are a text with some blanks put in. -/
inductive Spread : List Char -> List Char -> Prop where
  | nil : Spread [] []
  | blank {c : Char} {spread text : List Char} (hc : Text.isBlank c = true)
      (hrest : Spread spread text) : Spread (c :: spread) text
  | keep {c : Char} {spread text : List Char} (hrest : Spread spread text) :
      Spread (c :: spread) (c :: text)

/-!
# Documents
-/

def openingTag (name : String) : List Char :=
  '<' :: name.toList ++ ['>']

def closingTag (name : String) : List Char :=
  '<' :: '/' :: name.toList ++ ['>']

/-- An element of a name with what stands between its tags. -/
def element (name : String) (inner : List Char) : List Char :=
  openingTag name ++ inner ++ closingTag name

/-- Whether characters can stand in a leaf that is written for a tree. -/
inductive WritesLeaf : Leaf -> List Char -> Tree -> Prop where
  | string {inner : List Char} {text : String} (hinner : Content inner text.toList) :
      WritesLeaf .string inner (.string text)
  | date {before inner after : List Char} {text : String} (hbefore : Gap before)
      (hinner : Content inner text.toList) (hafter : Gap after) :
      WritesLeaf .date (before ++ inner ++ after) (.date text)
  | data {inner spread : List Char} {text : String} (hinner : Content inner spread)
      (hspread : Spread spread text.toList) : WritesLeaf .data inner (.data text)
  | integer {before inner after : List Char} {number : Int64} (hbefore : Gap before)
      (hinner : Content inner (toString number.toInt).toList) (hafter : Gap after) :
      WritesLeaf .integer (before ++ inner ++ after) (.integer number)
  | boolean (value : Bool) : WritesLeaf (.boolean value) [] (.boolean value)

mutual

/-- Whether characters are an element that is written for a tree. -/
inductive WritesTree : List Char -> Tree -> Prop where
  | dict {inner gap : List Char} {entries : List (String × Tree)}
      (hentries : WritesEntries inner entries) (hgap : Gap gap) :
      WritesTree (element "dict" (inner ++ gap)) (.dict entries)
  | array {inner gap : List Char} {items : List Tree} (hitems : WritesItems inner items)
      (hgap : Gap gap) : WritesTree (element "array" (inner ++ gap)) (.array items)
  | leaf {leaf : Leaf} {inner : List Char} {t : Tree} (hleaf : WritesLeaf leaf inner t) :
      WritesTree (element leaf.name inner) t

inductive WritesItems : List Char -> List Tree -> Prop where
  | nil : WritesItems [] []
  | cons {gap item rest : List Char} {t : Tree} {items : List Tree} (hgap : Gap gap)
      (hitem : WritesTree item t) (hrest : WritesItems rest items) :
      WritesItems (gap ++ item ++ rest) (t :: items)

/-- Whether characters are the entries of a dictionary, a gap before each key and each
value. -/
inductive WritesEntries : List Char -> List (String × Tree) -> Prop where
  | nil : WritesEntries [] []
  | cons {before inner between item rest : List Char} {key : String} {t : Tree}
      {entries : List (String × Tree)} (hbefore : Gap before)
      (hkey : Content inner key.toList) (hbetween : Gap between) (hitem : WritesTree item t)
      (hrest : WritesEntries rest entries) :
      WritesEntries (before ++ element "key" inner ++ between ++ item ++ rest)
        ((key, t) :: entries)

end

/-- Whether characters are a document that is written for a tree. -/
inductive WritesDocument : List Char -> Tree -> Prop where
  | plist {leading before item after trailing : List Char} {t : Tree} (hleading : Gap leading)
      (hbefore : Gap before) (hitem : WritesTree item t) (hafter : Gap after)
      (htrailing : Gap trailing) :
      WritesDocument (leading ++ element "plist" (before ++ item ++ after) ++ trailing) t

/-!
# Every tree can be written
-/

theorem Content.of_spells {spelling text : List Char} (h : Spells spelling text) :
    Content spelling text := by
  have hcontent := Content.spelled h Content.nil
  rwa [List.append_nil, List.append_nil] at hcontent

theorem exists_content (text : List Char) : exists inner, Content inner text := by
  rcases Markup.exists_spells text with ⟨spelling, hspelling⟩
  exact ⟨spelling, Content.of_spells hspelling⟩

theorem Spread.refl (text : List Char) : Spread text text := by
  induction text with
  | nil =>
      exact nil
  | cons c text ih =>
      exact keep ih

mutual

theorem exists_writesTree (t : Tree) : exists cs, WritesTree cs t := by
  cases t with
  | dict entries =>
      rcases exists_writesEntries entries with ⟨inner, hinner⟩
      exact ⟨_, WritesTree.dict hinner Gap.nil⟩
  | array items =>
      rcases exists_writesItems items with ⟨inner, hinner⟩
      exact ⟨_, WritesTree.array hinner Gap.nil⟩
  | string text =>
      rcases exists_content text.toList with ⟨inner, hinner⟩
      exact ⟨_, WritesTree.leaf (WritesLeaf.string hinner)⟩
  | date text =>
      rcases exists_content text.toList with ⟨inner, hinner⟩
      exact ⟨_, WritesTree.leaf (WritesLeaf.date Gap.nil hinner Gap.nil)⟩
  | data text =>
      rcases exists_content text.toList with ⟨inner, hinner⟩
      exact ⟨_, WritesTree.leaf (WritesLeaf.data hinner (Spread.refl _))⟩
  | integer number =>
      rcases exists_content (toString number.toInt).toList with ⟨inner, hinner⟩
      exact ⟨_, WritesTree.leaf (WritesLeaf.integer Gap.nil hinner Gap.nil)⟩
  | boolean value =>
      exact ⟨_, WritesTree.leaf (WritesLeaf.boolean value)⟩

theorem exists_writesItems (items : List Tree) : exists cs, WritesItems cs items := by
  cases items with
  | nil =>
      exact ⟨[], WritesItems.nil⟩
  | cons t items =>
      rcases exists_writesTree t with ⟨item, hitem⟩
      rcases exists_writesItems items with ⟨rest, hrest⟩
      exact ⟨_, WritesItems.cons Gap.nil hitem hrest⟩

theorem exists_writesEntries (entries : List (String × Tree)) :
    exists cs, WritesEntries cs entries := by
  cases entries with
  | nil =>
      exact ⟨[], WritesEntries.nil⟩
  | cons entry entries =>
      cases entry with
      | mk key t =>
          rcases exists_content key.toList with ⟨inner, hkey⟩
          rcases exists_writesTree t with ⟨item, hitem⟩
          rcases exists_writesEntries entries with ⟨rest, hrest⟩
          exact ⟨_, WritesEntries.cons Gap.nil hkey Gap.nil hitem hrest⟩

end

theorem exists_writesDocument (t : Tree) : exists cs, WritesDocument cs t := by
  rcases exists_writesTree t with ⟨item, hitem⟩
  exact ⟨_, WritesDocument.plist Gap.nil Gap.nil hitem Gap.nil Gap.nil⟩

end Plist
end FindingLedger
