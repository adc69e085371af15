import Mathlib.Data.List.DropRight
import FindingLedger.Proofs.Identity.Neighbours

/-!
# The search for the lines around a line

What is found around a line is told by line numbers: on either side the nearest lines that
are not blank, among those no further away than the search goes. A search that keeps its
place in a word of 32 bits finds the same. It comes to an end, and none of its sums and
differences leaves the words.
-/

namespace FindingLedger
namespace Identity

/-- The lines of a file from one number to another, as far as they can be read. -/
def linesBetween (sources : Sources) (path : String) (first last : Nat) : List String :=
  (List.range' first (last + 1 - first)).filterMap (sources.line? path)

/-- The nearest lines above a line that are not blank, among those in reach, squeezed and in
the order of the file. -/
def nearestFilledAbove (sources : Sources) (settings : Settings) (path : String) (line : Nat) :
    List String :=
  ((filled (linesBetween sources path (max 1 (line - reach settings)) (line - 1))).rtake
    settings.contextWindow).map Text.squeeze

/-- The nearest ones below it, in a file with so many lines. -/
def nearestFilledBelow (sources : Sources) (settings : Settings) (path : String)
    (line count : Nat) : List String :=
  ((filled (linesBetween sources path (line + 1) (min (line + reach settings) count))).take
    settings.contextWindow).map Text.squeeze

/-!
# Lines by their numbers
-/

section Numbers

variable {sources : Sources} {path text : String} {lines before after : List String}

theorem filterMap_line?_range' (h : sources.HasLines path lines) (skipped count : Nat) :
    (List.range' (skipped + 1) count).filterMap (sources.line? path) =
      (lines.drop skipped).take count := by
  induction count generalizing skipped with
  | zero =>
      rfl
  | succ count ih =>
      rw [List.range'_succ, List.filterMap_cons, h.2, ih]
      cases hline : lines[skipped]? with
      | none =>
          have hlength := List.getElem?_eq_none_iff.mp hline
          rw [List.drop_of_length_le hlength, List.drop_of_length_le (by omega),
            List.take_nil, List.take_nil]
      | some line =>
          rcases List.getElem?_eq_some_iff.mp hline with ⟨hlt, heq⟩
          rw [List.drop_eq_getElem_cons hlt, heq, List.take_succ_cons]

theorem linesBetween_eq (h : sources.HasLines path lines) {first last : Nat}
    (hfirst : 1 ≤ first) :
    linesBetween sources path first last =
      (lines.drop (first - 1)).take (last + 1 - first) := by
  rw [linesBetween, ← filterMap_line?_range' h, Nat.sub_add_cancel hfirst]

theorem linesBetween_before (h : sources.HasLines path (before ++ text :: after))
    (steps : Nat) :
    linesBetween sources path (max 1 (before.length + 1 - steps)) before.length =
      before.rtake steps := by
  have hskip : max 1 (before.length + 1 - steps) - 1 = before.length - steps := by omega
  have hcount : before.length + 1 - max 1 (before.length + 1 - steps) =
      (before.drop (before.length - steps)).length := by
    rw [List.length_drop]
    omega
  rw [linesBetween_eq h (Nat.le_max_left _ _), hskip, hcount,
    List.drop_append_of_le_length (Nat.sub_le _ _), List.take_left, List.rtake]

theorem linesBetween_after (h : sources.HasLines path (before ++ text :: after))
    (steps : Nat) :
    linesBetween sources path (before.length + 1 + 1)
        (min (before.length + 1 + steps) (before.length + 1 + after.length)) =
      after.take steps := by
  have hcount : min (before.length + 1 + steps) (before.length + 1 + after.length) + 1 -
      (before.length + 1 + 1) = min steps after.length := by
    omega
  rw [linesBetween_eq h (Nat.le_add_left _ _), hcount, Nat.add_sub_cancel,
    ← List.drop_drop, List.drop_left, List.drop_one, List.tail_cons, ← List.take_take,
    List.take_length]

theorem neighbours_reverse (wanted steps : Nat) (lines : List String) :
    (neighbours wanted steps lines.reverse).reverse =
      ((filled (lines.rtake steps)).rtake wanted).map Text.squeeze := by
  rw [List.rtake_eq_reverse_take_reverse, List.rtake_eq_reverse_take_reverse, neighbours,
    filled, filled, List.filter_reverse, List.reverse_reverse, List.map_reverse]

theorem exists_around {line : Nat} (hline : 1 ≤ line ∧ line ≤ lines.length) :
    exists before text after, lines = before ++ text :: after ∧ before.length + 1 = line := by
  have hlt : line - 1 < lines.length := by omega
  refine ⟨lines.take (line - 1), lines[line - 1], lines.drop (line - 1 + 1), ?_, ?_⟩
  · rw [← List.drop_eq_getElem_cons hlt, List.take_append_drop]
  · rw [List.length_take]
    omega

theorem linesAbove_eq_nearestFilled (h : sources.HasLines path lines) (settings : Settings)
    {line : Nat} (hline : 1 ≤ line ∧ line ≤ lines.length) :
    linesAbove sources settings path line = nearestFilledAbove sources settings path line := by
  rcases exists_around hline with ⟨before, text, after, rfl, rfl⟩
  rw [linesAbove_eq_neighbours h, neighbours_reverse, nearestFilledAbove, Nat.add_sub_cancel,
    linesBetween_before h]

theorem linesBelow_eq_nearestFilled (h : sources.HasLines path lines) (settings : Settings)
    {line : Nat} (hline : 1 ≤ line ∧ line ≤ lines.length) :
    linesBelow sources settings path line =
      nearestFilledBelow sources settings path line lines.length := by
  rcases exists_around hline with ⟨before, text, after, rfl, rfl⟩
  have hlength : (before ++ text :: after).length = before.length + 1 + after.length := by
    rw [List.length_append, List.length_cons]
    omega
  rw [linesBelow_eq_neighbours h, neighbours, nearestFilledBelow, hlength, linesBetween_after h]

end Numbers

/-!
# Searches in words
-/

def plus? (a b : UInt32) : Option UInt32 :=
  if a.toNat + b.toNat ≤ maxLine then some (a + b) else none

def minus? (a b : UInt32) : Option UInt32 :=
  if b ≤ a then some (a - b) else none

def saturate (n : Nat) : UInt32 :=
  UInt32.ofNat (min n maxLine)

/-- One way to go from a line: whether there may be a line further on, how far the place is
away from the line, and which place comes next. -/
structure Direction where
  mayGoOn : UInt32 -> Bool
  distance? : UInt32 -> UInt32 -> Option UInt32
  next? : UInt32 -> Option UInt32

def Direction.up : Direction where
  mayGoOn place := 1 < place
  distance? line place := minus? line place
  next? place := minus? place 1

def Direction.down : Direction where
  mayGoOn _ := true
  distance? line place := minus? place line
  next? place := plus? place 1

/-- A search for so many lines that are not blank, up to some distance from a line. -/
structure Walk where
  line? : Nat -> Option String
  wanted : Nat
  limit : UInt32
  line : UInt32

namespace Walk

def note (found : List String) (text : String) : List String :=
  if (Text.squeeze text).isEmpty then found else found ++ [Text.squeeze text]

/-- One turn of a search: the next place and what is found up to there, or nothing if the
search is over. There is no turn at all if a sum or a difference leaves the words. -/
def turn (w : Walk) (d : Direction) (place : UInt32) (found : List String) :
    Option (Option (UInt32 × List String)) := do
  if w.wanted ≤ found.length || !d.mayGoOn place then
    return none
  if w.limit ≤ (← d.distance? w.line place) then
    return none
  let next ← d.next? place
  match w.line? next.toNat with
  | none => return none
  | some text => return some (next, note found text)

/-- Whether a search that has come to some place ends with the given lines. -/
inductive Ends (w : Walk) (d : Direction) : UInt32 -> List String -> List String -> Prop where
  | stop {place : UInt32} {found : List String} (stops : w.turn d place found = some none) :
      Ends w d place found found
  | goOn {place next : UInt32} {found more result : List String}
      (step : w.turn d place found = some (some (next, more)))
      (rest : Ends w d next more result) : Ends w d place found result

end Walk

/-- The search for the neighbours of a line. -/
def walk (sources : Sources) (settings : Settings) (path : String) (line : Nat) : Walk where
  line? := sources.line? path
  wanted := settings.contextWindow
  limit := max (saturate settings.maxContextScan) (saturate settings.contextWindow)
  line := UInt32.ofNat line

/-!
## Words as numbers
-/

theorem plus?_eq_some {a b : UInt32} (h : a.toNat + b.toNat ≤ maxLine) :
    exists sum, plus? a b = some sum ∧ sum.toNat = a.toNat + b.toNat := by
  refine ⟨a + b, if_pos h, ?_⟩
  rw [UInt32.toNat_add]
  exact Nat.mod_eq_of_lt (Nat.lt_succ_of_le h)

theorem minus?_eq_some {a b : UInt32} (h : b.toNat ≤ a.toNat) :
    exists difference, minus? a b = some difference ∧
      difference.toNat = a.toNat - b.toNat := by
  have hle : b ≤ a := UInt32.le_iff_toNat_le.mpr h
  exact ⟨a - b, if_pos hle, UInt32.toNat_sub_of_le a b hle⟩

theorem toNat_ofNat_of_le {n : Nat} (h : n ≤ maxLine) : (UInt32.ofNat n).toNat = n :=
  UInt32.toNat_ofNat_of_lt' (Nat.lt_succ_of_le h)

theorem toNat_max (a b : UInt32) : (max a b).toNat = max a.toNat b.toNat := by
  show (if a ≤ b then b else a).toNat = _
  split
  · rename_i h
    exact (Nat.max_eq_right (UInt32.le_iff_toNat_le.mp h)).symm
  · rename_i h
    exact (Nat.max_eq_left (Nat.le_of_not_le (mt UInt32.le_iff_toNat_le.mpr h))).symm

theorem toNat_limit (sources : Sources) (settings : Settings) (path : String) (line : Nat) :
    (walk sources settings path line).limit.toNat = reach settings := by
  rw [walk, toNat_max, saturate, saturate, toNat_ofNat_of_le (Nat.min_le_right _ _),
    toNat_ofNat_of_le (Nat.min_le_right _ _), reach]

/-!
# Runs of a search
-/

namespace Walk

variable {w : Walk} {d : Direction} {place next away : UInt32} {found result other : List String}

theorem turn_of_enough (h : w.wanted ≤ found.length) :
    w.turn d place found = some none := by
  simp [turn, h]

theorem turn_of_last (h : d.mayGoOn place = false) : w.turn d place found = some none := by
  simp [turn, h]

theorem turn_of_far (hdistance : d.distance? w.line place = some away)
    (haway : w.limit ≤ away) : w.turn d place found = some none := by
  simp [turn, hdistance, haway]

theorem turn_of_next (hgoOn : d.mayGoOn place = true)
    (hdistance : d.distance? w.line place = some away) (haway : away < w.limit)
    (hnext : d.next? place = some next) (hwanted : found.length < w.wanted) :
    w.turn d place found =
      some ((w.line? next.toNat).map fun text => (next, note found text)) := by
  have hnear : ¬ w.limit ≤ away := UInt32.not_le.mpr haway
  have hmore : ¬ w.wanted ≤ found.length := Nat.not_le.mpr hwanted
  simp only [turn, hgoOn, hdistance, hnext, hnear, hmore, decide_false, Bool.not_true,
    Bool.or_false, Bool.false_eq_true, if_false, Option.bind_eq_bind, Option.bind_some]
  cases w.line? next.toNat with
  | none =>
      rfl
  | some text =>
      rfl

theorem Ends.unique (h : w.Ends d place found result) (hother : w.Ends d place found other) :
    result = other := by
  induction h with
  | stop stops =>
      cases hother with
      | stop _ =>
          rfl
      | goOn step _ =>
          rw [stops] at step
          cases step
  | goOn step _ ih =>
      cases hother with
      | stop stops =>
          rw [step] at stops
          cases stops
      | goOn step' rest' =>
          rw [step] at step'
          cases step'
          exact ih rest'

theorem Ends.iff_eq (h : w.Ends d place found result) :
    w.Ends d place found other <-> other = result := by
  constructor
  · intro hother
    exact hother.unique h
  · intro heq
    rwa [heq]

/-- Whether a search visits places with the given numbers, from the line it starts at on, and
ends at the latest after so many steps. -/
structure Visits (w : Walk) (d : Direction) (number : Nat -> Nat) (steps : Nat) : Prop where
  goesOn : forall k place, k < steps -> place.toNat = number k ->
    (w.line? (number k)).isSome = true ->
      d.mayGoOn place = true ∧
        (exists away, d.distance? w.line place = some away ∧ away < w.limit) ∧
          exists next, d.next? place = some next ∧ next.toNat = number (k + 1)
  isOver : forall place, place.toNat = number steps ->
    d.mayGoOn place = false ∨
      exists away, d.distance? w.line place = some away ∧ w.limit ≤ away

theorem Visits.ends_gather {number : Nat -> Nat} {steps : Nat} (h : w.Visits d number steps)
    (found : List String) (more k : Nat) (hk : k + more = steps) (hplace : place.toNat = number k)
    (hread : (w.line? (number k)).isSome = true) :
    w.Ends d place found (found ++
      gather (w.line? ∘ number) (w.wanted - found.length) more (k + 1)) := by
  induction more generalizing k place found with
  | zero =>
      rw [gather, List.append_nil]
      have hlast : place.toNat = number steps := by rwa [← hk]
      rcases h.isOver place hlast with hlast | ⟨away, hdistance, haway⟩
      · exact .stop (turn_of_last hlast)
      · exact .stop (turn_of_far hdistance haway)
  | succ more ih =>
      rcases Nat.lt_or_ge found.length w.wanted with hwanted | henough
      · rcases h.goesOn k place (by omega) hplace hread with
          ⟨hgoOn, ⟨away, hdistance, haway⟩, next, hnext, hnumber⟩
        have hturn := turn_of_next hgoOn hdistance haway hnext hwanted
        have hplaced : w.line? next.toNat = (w.line? ∘ number) (k + 1) := by
          rw [hnumber]
          rfl
        rw [hplaced] at hturn
        cases hline : (w.line? ∘ number) (k + 1) with
        | none =>
            rw [gather_succ_of_none hline, List.append_nil]
            rw [hline] at hturn
            exact .stop hturn
        | some text =>
            rw [hline] at hturn
            have hsome : ((w.line? ∘ number) (k + 1)).isSome = true := by
              rw [hline]
              rfl
            refine .goOn hturn ?_
            have hrest := ih (note found text) (k + 1) (by omega) hnumber hsome
            cases hblank : Text.allBlank text with
            | true =>
                rw [gather_succ_of_blank hline hblank]
                rw [note, Text.isEmpty_squeeze, hblank, if_pos rfl] at hrest ⊢
                exact hrest
            | false =>
                have hleft : w.wanted - found.length =
                    w.wanted - (found ++ [Text.squeeze text]).length + 1 := by
                  rw [List.length_append, List.length_singleton]
                  omega
                rw [hleft, gather_succ_of_filled hline hblank, List.append_cons]
                rw [note, Text.isEmpty_squeeze, hblank, if_neg Bool.false_ne_true] at hrest ⊢
                exact hrest
      · rw [Nat.sub_eq_zero_of_le henough, gather_no_more, List.append_nil]
        exact .stop (turn_of_enough henough)

end Walk

section Runs

variable {sources : Sources} {path : String} {bytes : Bytes} {line : Nat}

theorem visits_up (sources : Sources) (settings : Settings) (path : String)
    (hline : 1 ≤ line) (hmax : line ≤ maxLine) :
    (walk sources settings path line).Visits .up (fun k => line - k)
      (min (line - 1) (reach settings)) := by
  have hstart : (walk sources settings path line).line.toNat = line := toNat_ofNat_of_le hmax
  have hlimit := toNat_limit sources settings path line
  constructor
  · intro k place hk hplace _
    rcases minus?_eq_some (a := (walk sources settings path line).line) (b := place)
      (by omega) with ⟨away, hdistance, haway⟩
    rcases minus?_eq_some (a := place) (b := 1) (by rw [UInt32.toNat_one]; omega) with
      ⟨next, hnext, hnumber⟩
    rw [UInt32.toNat_one] at hnumber
    refine ⟨?_, ⟨away, hdistance, ?_⟩, next, hnext, by omega⟩
    · show decide (1 < place) = true
      rw [decide_eq_true_iff, UInt32.lt_iff_toNat_lt, UInt32.toNat_one]
      omega
    · rw [UInt32.lt_iff_toNat_lt]
      omega
  · intro place hplace
    -- Either the first line of the file has been reached, or the line at the limit.
    rcases Nat.le_total (line - 1) (reach settings) with hfirst | hfar
    · left
      show decide (1 < place) = false
      rw [decide_eq_false_iff_not, UInt32.lt_iff_toNat_lt, UInt32.toNat_one]
      omega
    · right
      rcases minus?_eq_some (a := (walk sources settings path line).line) (b := place)
        (by omega) with ⟨away, hdistance, haway⟩
      refine ⟨away, hdistance, ?_⟩
      rw [UInt32.le_iff_toNat_le]
      omega

theorem isSome_line?_of_hasFile (hfile : sources.HasFile path bytes) :
    (sources.line? path line).isSome = true <-> 1 ≤ line ∧ line ≤ Source.lineCount bytes := by
  rw [hfile.2, Source.File.isSome_line?_iff]

theorem visits_down (hfile : sources.HasFile path bytes)
    (hcount : Source.lineCount bytes < maxLine) (settings : Settings)
    (hmax : line ≤ Source.lineCount bytes) :
    (walk sources settings path line).Visits .down (fun k => line + k) (reach settings) := by
  have hstart : (walk sources settings path line).line.toNat = line :=
    toNat_ofNat_of_le (by omega)
  have hlimit := toNat_limit sources settings path line
  constructor
  · intro k place hk hplace hread
    have hlast := ((isSome_line?_of_hasFile hfile).mp hread).2
    rcases minus?_eq_some (a := place) (b := (walk sources settings path line).line)
      (by omega) with ⟨away, hdistance, haway⟩
    rcases plus?_eq_some (a := place) (b := 1) (by rw [UInt32.toNat_one]; omega) with
      ⟨next, hnext, hnumber⟩
    rw [UInt32.toNat_one] at hnumber
    refine ⟨rfl, ⟨away, hdistance, ?_⟩, next, hnext, by omega⟩
    rw [UInt32.lt_iff_toNat_lt]
    omega
  · intro place hplace
    rcases minus?_eq_some (a := place) (b := (walk sources settings path line).line)
      (by omega) with ⟨away, hdistance, haway⟩
    refine .inr ⟨away, hdistance, ?_⟩
    rw [UInt32.le_iff_toNat_le]
    omega

theorem ends_linesAbove (hfile : sources.HasFile path bytes)
    (hcount : Source.lineCount bytes < maxLine) (settings : Settings)
    (hline : 1 ≤ line ∧ line ≤ Source.lineCount bytes) :
    (walk sources settings path line).Ends .up (UInt32.ofNat line) []
      (linesAbove sources settings path line).reverse := by
  have hvisits := visits_up sources settings path hline.1 (by omega)
  have hread := (isSome_line?_of_hasFile hfile).mpr hline
  rw [linesAbove, List.reverse_reverse]
  exact hvisits.ends_gather [] _ 0 (Nat.zero_add _)
    (toNat_ofNat_of_le (by omega)) hread

theorem ends_linesBelow (hfile : sources.HasFile path bytes)
    (hcount : Source.lineCount bytes < maxLine) (settings : Settings)
    (hline : 1 ≤ line ∧ line ≤ Source.lineCount bytes) :
    (walk sources settings path line).Ends .down (UInt32.ofNat line) []
      (linesBelow sources settings path line) := by
  have hvisits := visits_down hfile hcount settings hline.2
  have hread := (isSome_line?_of_hasFile hfile).mpr hline
  exact hvisits.ends_gather [] _ 0 (Nat.zero_add _)
    (toNat_ofNat_of_le (by omega)) hread

/-- The search around a line of a file finds the nearest lines that are not blank on either
side. A search in words that sets out from the line comes to its end, and it ends with
these lines only; there no sum or difference leaves the words. -/
theorem linesAround_eq_nearestFilled (hfile : sources.HasFile path bytes)
    (hcount : Source.lineCount bytes < maxLine) (settings : Settings)
    (hline : 1 ≤ line ∧ line ≤ Source.lineCount bytes) :
    linesAbove sources settings path line = nearestFilledAbove sources settings path line ∧
    linesBelow sources settings path line =
      nearestFilledBelow sources settings path line (Source.lineCount bytes) ∧
    (forall found,
      (walk sources settings path line).Ends .up (UInt32.ofNat line) [] found <->
        found.reverse = nearestFilledAbove sources settings path line) ∧
    (forall found,
      (walk sources settings path line).Ends .down (UInt32.ofNat line) [] found <->
        found = nearestFilledBelow sources settings path line (Source.lineCount bytes)) := by
  have hlines := hfile.hasLines
  have hlength : ((Source.pieces bytes).map Source.lineText).length =
      Source.lineCount bytes := List.length_map _
  rw [← hlength] at hline
  have habove := linesAbove_eq_nearestFilled hlines settings hline
  have hbelow := linesBelow_eq_nearestFilled hlines settings hline
  rw [hlength] at hline hbelow
  refine ⟨habove, hbelow, ?_, ?_⟩
  · intro found
    rw [(ends_linesAbove hfile hcount settings hline).iff_eq, habove, List.reverse_eq_iff]
  · intro found
    rw [(ends_linesBelow hfile hcount settings hline).iff_eq, hbelow]

end Runs

def spacedOut : Bytes :=
  Text.bytesOf "f();\ng();\n\n  a = 1;\nn / 0;\n\t\nb =  2;\n\nh();\n"

def twoWithinThree : Settings where
  contextWindow := 2
  maxContextScan := 3

theorem linesAround_eq_nearestFilled_spacedOut :
    (Sources.ofFiles [("a.c", spacedOut)]).HasFile "a.c" spacedOut ∧
    Source.lineCount spacedOut < maxLine ∧ (1 ≤ 5 ∧ 5 ≤ Source.lineCount spacedOut) ∧
    linesAbove (.ofFiles [("a.c", spacedOut)]) twoWithinThree "a.c" 5 = ["g();", "a = 1;"] ∧
    (walk (.ofFiles [("a.c", spacedOut)]) twoWithinThree "a.c" 5).Ends .down 5 []
      ["b = 2;"] := by
  have hfile := Sources.hasFile_ofFiles [] "a.c" spacedOut
  have hcount : Source.lineCount spacedOut = 9 := by decide +kernel
  have hmax : Source.lineCount spacedOut < maxLine := by
    rw [hcount]
    decide
  have hline : 1 ≤ 5 ∧ 5 ≤ Source.lineCount spacedOut := by
    rw [hcount]
    decide
  rcases linesAround_eq_nearestFilled hfile hmax twoWithinThree hline with
    ⟨habove, _, _, hdown⟩
  rw [List.nil_append] at habove hdown
  refine ⟨hfile, hmax, hline, ?_, (hdown _).mpr ?_⟩
  · rw [habove]
    decide +kernel
  · rw [hcount]
    decide +kernel

end Identity
end FindingLedger
