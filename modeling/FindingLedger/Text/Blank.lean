/-!
# Blank characters

Blanks part words and surround values. They are the characters with the
White_Space property. A line is compared with another by its words alone, so that
neither indentation nor the width of a gap counts.
-/

namespace FindingLedger
namespace Text

def isBlank (c : Char) : Bool :=
  let n := c.toNat
  (9 ≤ n && n ≤ 13) || n == 0x20 || n == 0x85 || n == 0xA0 || n == 0x1680 ||
    (0x2000 ≤ n && n ≤ 0x200A) || n == 0x2028 || n == 0x2029 || n == 0x202F ||
    n == 0x205F || n == 0x3000

/-!
# Trimming
-/

def dropBlankEnd (cs : List Char) : List Char :=
  (cs.reverse.dropWhile isBlank).reverse

def trimChars (cs : List Char) : List Char :=
  dropBlankEnd (cs.dropWhile isBlank)

def trim (s : String) : String :=
  String.ofList (trimChars s.toList)

def allBlank (s : String) : Bool :=
  s.toList.all isBlank

/-!
# Words
-/

def wordsOf : List Char → List (List Char)
  | [] => []
  | c :: rest =>
      if isBlank c then
        wordsOf rest
      else
        match rest with
        | [] => [[c]]
        | d :: _ =>
            if isBlank d then
              [c] :: wordsOf rest
            else
              match wordsOf rest with
              | [] => [[c]]
              | word :: more => (c :: word) :: more

def joinWords : List (List Char) → List Char
  | [] => []
  | [word] => word
  | word :: next :: more => word ++ ' ' :: joinWords (next :: more)

/-- A line with every gap narrowed to one space and no blank at either end. -/
def squeeze (line : String) : String :=
  String.ofList (joinWords (wordsOf line.toList))

end Text
end FindingLedger
