import FindingLedger.Pattern.CharSet
import FindingLedger.Text.Ascii

/-!
# Named sets of characters

The names under which a pattern can ask for sets of characters: the ASCII classes and the
categories, properties and scripts of Unicode. Names of the latter are compared without
regard to case, spaces, hyphens, underscores, and the word "is" before them.
-/

namespace FindingLedger
namespace CharSet

/-!
# ASCII classes
-/

def between (first last : Char) : CharSet :=
  .range first.toNat last.toNat

def asciiAlnum : CharSet :=
  unions [between '0' '9', between 'A' 'Z', between 'a' 'z']

def asciiWord : CharSet :=
  .union asciiAlnum (.single '_')

def asciiSpace : CharSet :=
  .union (.range 9 13) (.single ' ')

def asciiClass? (name : List Char) : Option CharSet :=
  match String.ofList name with
  | "alnum" => some asciiAlnum
  | "alpha" => some (.union (between 'A' 'Z') (between 'a' 'z'))
  | "ascii" => some ascii
  | "blank" => some (.union (.single '\t') (.single ' '))
  | "cntrl" => some (.union (.range 0 31) (.range 127 127))
  | "digit" => some (between '0' '9')
  | "graph" => some (between '!' '~')
  | "lower" => some (between 'a' 'z')
  | "print" => some (between ' ' '~')
  | "punct" =>
      some (unions [between '!' '/', between ':' '@', .range 91 96, .range 123 126])
  | "space" => some asciiSpace
  | "upper" => some (between 'A' 'Z')
  | "word" => some asciiWord
  | "xdigit" => some (unions [between '0' '9', between 'A' 'F', between 'a' 'f'])
  | _ => Option.none

/-!
# Unicode classes
-/

def plainLetters (name : List Char) : List Char :=
  (name.filter fun c => c.toNat < 128 && c != ' ' && c != '_' && c != '-').map Text.lowerAscii

/-- A name as it is looked up. The abbreviation of one property begins with the word that
is otherwise passed over. -/
def plainName (name : List Char) : String :=
  match name with
  | i :: s :: rest =>
      if Text.lowerAscii i == 'i' && Text.lowerAscii s == 's' then
        let letters := plainLetters rest
        if letters == ['c'] then "isc" else String.ofList letters
      else
        String.ofList (plainLetters name)
  | _ => String.ofList (plainLetters name)

def categoryNames : List (List String × List Text.Category) :=
  [(["lu", "uppercaseletter"], [.uppercaseLetter]),
   (["ll", "lowercaseletter"], [.lowercaseLetter]),
   (["lt", "titlecaseletter"], [.titlecaseLetter]),
   (["lc", "casedletter"], [.uppercaseLetter, .lowercaseLetter, .titlecaseLetter]),
   (["lm", "modifierletter"], [.modifierLetter]),
   (["lo", "otherletter"], [.otherLetter]),
   (["l", "letter"],
     [.uppercaseLetter, .lowercaseLetter, .titlecaseLetter, .modifierLetter, .otherLetter]),
   (["mn", "nonspacingmark"], [.nonspacingMark]),
   (["mc", "spacingmark"], [.spacingMark]),
   (["me", "enclosingmark"], [.enclosingMark]),
   (["m", "mark", "combiningmark"], [.nonspacingMark, .spacingMark, .enclosingMark]),
   (["nd", "decimalnumber", "digit"], [.decimalNumber]),
   (["nl", "letternumber"], [.letterNumber]),
   (["no", "othernumber"], [.otherNumber]),
   (["n", "number"], [.decimalNumber, .letterNumber, .otherNumber]),
   (["pc", "connectorpunctuation"], [.connectorPunctuation]),
   (["pd", "dashpunctuation"], [.dashPunctuation]),
   (["ps", "openpunctuation"], [.openPunctuation]),
   (["pe", "closepunctuation"], [.closePunctuation]),
   (["pi", "initialpunctuation"], [.initialPunctuation]),
   (["pf", "finalpunctuation"], [.finalPunctuation]),
   (["po", "otherpunctuation"], [.otherPunctuation]),
   (["p", "punctuation", "punct"],
     [.connectorPunctuation, .dashPunctuation, .openPunctuation, .closePunctuation,
       .initialPunctuation, .finalPunctuation, .otherPunctuation]),
   (["sm", "mathsymbol"], [.mathSymbol]),
   (["sc", "currencysymbol"], [.currencySymbol]),
   (["sk", "modifiersymbol"], [.modifierSymbol]),
   (["so", "othersymbol"], [.otherSymbol]),
   (["s", "symbol"], [.mathSymbol, .currencySymbol, .modifierSymbol, .otherSymbol]),
   (["zs", "spaceseparator"], [.spaceSeparator]),
   (["zl", "lineseparator"], [.lineSeparator]),
   (["zp", "paragraphseparator"], [.paragraphSeparator]),
   (["z", "separator"], [.spaceSeparator, .lineSeparator, .paragraphSeparator]),
   (["cc", "control", "cntrl"], [.control]),
   (["cf", "format"], [.format]),
   (["co", "privateuse"], [.privateUse]),
   (["cn", "unassigned"], [.unassigned]),
   (["c", "other"], [.control, .format, .privateUse, .unassigned])]

/-- The set of a general category, or of all, the assigned or the ASCII characters. -/
def categoryOfName? (name : String) : Option CharSet :=
  if name == "any" then some any
  else if name == "assigned" then some (compl (ofCategories [.unassigned]))
  else if name == "ascii" then some ascii
  else
    (categoryNames.find? fun row => row.1.contains name).map fun row => ofCategories row.2

/-- The set of a name that stands alone: a property, a category or a script. Three names of
categories are not taken for the properties that are called so too. -/
def ofName? (name : List Char) : Option CharSet :=
  let name := plainName name
  let property :=
    if ["cf", "sc", "lc"].contains name then Option.none else Text.Property.ofName? name
  match property with
  | some p => some (ofProperty p)
  | Option.none =>
      match categoryOfName? name with
      | some set => some set
      | Option.none => (Text.Script.ofName? name).map ofScript

def kindOfName? (kinds : List Text.Property) (name : String) : Option CharSet :=
  (kinds.find? fun kind => kind.names.contains name).map ofProperty

def ofNameAndValue? (name value : List Char) : Option CharSet :=
  let value := plainName value
  match plainName name with
  | "gc" | "generalcategory" => categoryOfName? value
  | "sc" | "script" => (Text.Script.ofName? value).map ofScript
  | "scx" | "scriptextensions" => (Text.Script.ofName? value).map ofScriptUse
  | "age" => (Text.Edition.upTo? value).map ofEditions
  | "gcb" | "graphemeclusterbreak" => kindOfName? Text.Break.units value
  | "wb" | "wordbreak" => kindOfName? Text.Break.words value
  | "sb" | "sentencebreak" => kindOfName? Text.Break.sentences value
  | _ => Option.none

end CharSet
end FindingLedger
