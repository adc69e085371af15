import FindingLedger.Pattern.Automaton.Layout
import FindingLedger.Pattern.Automaton.Plan

/-!
# The room of automata

Two automata are built for a pattern, of which one reads the text forward and the other
backward from the end of a match. Only the one that reads forward keeps what groups take. A
pattern fits if there is room for both.
-/

namespace FindingLedger

namespace Layout

/-!
# Choices between texts
-/

def chunksOf {α : Type} : List (List α) → List (List (List α))
  | [] => [[]]
  | text :: rest =>
      match text, chunksOf rest with
      | [], chunks => [] :: chunks
      | _ :: _, chunk :: chunks => (text :: chunk) :: chunks
      | _ :: _, [] => [[text]]

/-- How the texts of a chunk go on after their first letters, for each letter. -/
def branchesOf {α : Type} [BEq α] (chunk : List (List α)) : List (List (List α)) :=
  (chunk.filterMap List.head?).eraseDups.map fun letter =>
    (chunk.filter fun text => text.head? == some letter).map (List.drop 1)

/-- The texts, of which those that are empty count once as long as no other came before. -/
def dropRepeatedEnds {α : Type} (texts : List (List α)) : List (List α) :=
  match texts with
  | [] :: rest => [] :: rest.dropWhile List.isEmpty
  | texts => texts

/-- A tree of texts no longer than the depth, from its root on. Texts that begin alike share
their way. A text that ends where others go on parts those before it from those after it,
and each such part is a state. -/
def addTree {α : Type} [BEq α] : Nat → List (List α) → Layout → Option Layout
  | 0, _, l => some l
  | depth + 1, texts, l =>
      if texts.all List.isEmpty then some l
      else do
        let chunks := chunksOf (dropRepeatedEnds texts)
        let (ways, l) ← chunks.foldlM (fun (ways, l) chunk => do
          let branches := branchesOf chunk
          let l ← branches.foldlM (fun l branch => addTree depth branch l) l
          match branches.length with
          | 0 => return (ways, l)
          | 1 => return (ways + 1, ← l.add 0)
          | arcs => return (ways + 1, ← l.add (arcs * arcRoom))) (0, l)
        l.add ((ways + (chunks.length - 1)) * wayRoom)

def bytesOf (backward : Bool) (cs : List Char) : List Nat :=
  let bytes := cs.flatMap fun c => Encoding.bytesOf c.toNat
  if backward then bytes.reverse else bytes

/-- A choice between texts: their common end, and a tree. -/
def addTexts (backward : Bool) (texts : List (List Char)) (l : Layout) : Option Layout := do
  let texts := texts.map (bytesOf backward)
  let l ← l.add 0
  addTree ((texts.map List.length).foldl max 0) texts l

/-!
# Plans
-/

def addTimes (part : Layout → Option Layout) : Nat → Layout → Option Layout
  | 0, l => some l
  | count + 1, l =>
      match part l.leadOn with
      | some l => addTimes part count l
      | none => none

def addExactly (part : Layout → Option Layout) (count : Nat) (l : Layout) : Option Layout :=
  if count = 0 then l.add 0 else addTimes part count l

def addOptional (part : Layout → Option Layout) (l : Layout) : Option Layout := do
  part (← l.add (2 * wayRoom))

def addRepeated (part : Layout → Option Layout) (takes : Bool) (least : Nat)
    (most : Option Nat) (l : Layout) : Option Layout :=
  match least, most with
  | 0, some 1 => do
      let l ← addOptional part l
      l.leadOn.add 0
  | 0, none =>
      if takes then do
        let l ← part (← l.add wayRoom)
        return { l.leadOn with forked := true }
      else do
        let l ← part l
        let l ← l.leadOn.add (2 * wayRoom)
        let l ← l.add (2 * wayRoom)
        l.add 0
  | least, none => do
      let l ← addExactly part least l
      l.leadOn.addFork 1
  | least, some most => do
      let l ← addExactly part least l
      if least = most then return l
      else do
        let l ← l.leadOn.add 0
        let l ← addTimes (addOptional part) (most - least) l
        return l.leadOn

def ofText? : Plan → Option (List Char)
  | .text cs => some cs
  | _ => none

mutual

def addPlan (backward : Bool) : Plan → Layout → Option Layout
  | .empty, l => l.add 0
  | .text cs, l => addMany (bytesOf backward cs).length l
  | .set s, l => addSet backward s l
  | .anchor _, l => l.add 0
  | .group p, l =>
      if backward then addPlan backward p l
      else do
        let l ← addPlan backward p (← l.add 0)
        l.leadOn.add 0
  | .repeated p least most, l =>
      let takes := match (Plan.extent p).least with
        | some count => 0 < count
        | none => false
      addRepeated (addPlan backward p) takes least most l
  | .seq ps, l => if backward then addSeqBack ps l else addSeq ps l
  | .choice ps, l =>
      match ps.mapM ofText? with
      | some texts => addTexts backward texts l
      | none => addChoice backward ps.length ps l

def addSeq : List Plan → Layout → Option Layout
  | [], l => some l
  | [p], l => addPlan false p l
  | p :: ps, l => do
      let l ← addPlan false p l
      addSeq ps l.leadOn

def addSeqBack : List Plan → Layout → Option Layout
  | [], l => some l
  | [p], l => addPlan true p l
  | p :: ps, l => do
      let l ← addSeqBack ps l
      addPlan true p l.leadOn

/-- One of several plans. The fork comes after the second of them. -/
def addChoice (backward : Bool) (ways : Nat) : List Plan → Layout → Option Layout
  | [], l => some l
  | p :: ps, l => do
      let l ← addPlan backward p l
      let l := l.leadOn
      let l ←
        if ps.length + 2 = ways then do
          let l ← l.add (ways * wayRoom)
          l.add 0
        else some l
      addChoice backward ways ps l

end

/-!
# Patterns
-/

/-- The front of an automaton. Unless a match is held to where the automaton begins, bytes
before it are passed over. -/
def addFront (anchored : Bool) (l : Layout) : Option Layout :=
  if anchored then l.add 0
  else do
    let l ← l.add (2 * wayRoom)
    let l ← l.add 0
    l.add arcRoom

def ofForward (p : Plan) : Option Layout := do
  let l ← addFront (Plan.extent p).fromStart .start
  let l ← addPlan false (.group p) l
  l.leadOn.add 0

def ofBackward (p : Plan) : Option Layout := do
  let l ← addFront (Plan.extent p).toEnd .start
  let l ← addPlan true p l
  l.leadOn.add 0

end Layout

def Pattern.fits (p : Pattern) : Bool :=
  let plan := Plan.ofPattern p
  (Layout.ofForward plan).isSome && (Layout.ofBackward plan).isSome

end FindingLedger
