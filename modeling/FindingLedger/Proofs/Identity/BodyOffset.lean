import FindingLedger.Proofs.Identity.ContextStart
import FindingLedger.Proofs.Identity.Declarations
import FindingLedger.Proofs.Identity.Keys
import FindingLedger.Proofs.Source.Lines

/-!
# Offsets in the bodies of functions

A finding in the body of a function has its offset counted from the line with which the body
opens. The search finds that line as long as nothing in between looks like a declaration of
the function. A call of the function does, so that in a function that calls itself the offset
may be counted from the call.
-/

namespace FindingLedger
namespace Identity

/-!
# Definitions of functions
-/

/-- Whether a text inside braces closes none that it has not opened. -/
def StaysInside (text : List Char) : Prop :=
  forall front, front <+: text -> front.count '\x7d' ≤ front.count '\x7b'

theorem staysInside_of_not_mem {text : List Char} (h : '\x7d' ∉ text) : StaysInside text := by
  intro front hfront
  rw [List.count_eq_zero_of_not_mem fun hmem => h (hfront.subset hmem)]
  exact Nat.zero_le _

/-- The definition of a function in a file. A line of it holds the name, a parenthesis and the
brace that opens the body; the last of the lines of the body is still inside of it. -/
structure Definition where
  name : List Char
  left : List Char
  arguments : List Char
  right : List Char
  before : List String
  body : List String
  after : List String
  identifier : Identifier name
  word : forall c, left.getLast? = some c -> Text.isWord c = false
  /-- The brace that opens the body is the only one after the name. -/
  single : '\x7b' ∉ arguments ∧ '\x7b' ∉ right
  body_ne_nil : body ≠ []
  inside : StaysInside (right ++ body.flatMap String.toList)

namespace Definition

def header (d : Definition) : List Char :=
  d.left ++ d.name ++ '(' :: d.arguments ++ '\x7b' :: d.right

def lines (d : Definition) : List String :=
  d.before ++ String.ofList d.header :: d.body ++ d.after

def firstLine (d : Definition) : Nat :=
  d.before.length + 1

def lastLine (d : Definition) : Nat :=
  d.firstLine + d.body.length

variable (d : Definition)

theorem declares_header : Declares d.name d.header := by
  refine ⟨d.left, [], d.arguments ++ '\x7b' :: d.right, ?_, d.word, fun _ hc => nomatch hc⟩
  simp [header]

theorem brace_mem_header : '\x7b' ∈ d.header :=
  List.mem_append_right _ List.mem_cons_self

/-- Whether a line of the body looks like a declaration of the function. -/
def Redeclared : Prop :=
  exists line, line ∈ d.body ∧ Declares d.name line.toList

end Definition

/-!
# Lines of the definition
-/

section Lines

variable {sources : Sources} {path : String} {d : Definition}
  (h : sources.HasLines path d.lines)

include h

theorem lineMeets_of_getElem? (p : List Char -> Bool) {n : Nat} {line : String}
    (hline : d.lines[n]? = some line) :
    lineMeets sources path p (n + 1) = p line.toList := by
  rw [lineMeets, h.2, hline]

theorem lineMeets_header (p : List Char -> Bool) :
    lineMeets sources path p d.firstLine = p d.header := by
  have hline : d.lines[d.before.length]? = some (String.ofList d.header) := by
    simp [Definition.lines]
  rw [Definition.firstLine, lineMeets_of_getElem? h p hline, String.toList_ofList]

theorem lineMeets_body (p : List Char -> Bool) {i : Nat} {line : String}
    (hline : d.body[i]? = some line) :
    lineMeets sources path p (d.firstLine + i + 1) = p line.toList := by
  have hi := (List.getElem?_eq_some_iff.mp hline).1
  have hlines : d.lines[d.firstLine + i]? = some line := by
    rw [Definition.lines, List.append_assoc, Definition.firstLine, Nat.add_assoc,
      List.getElem?_append_right (by omega), Nat.add_sub_cancel_left, Nat.add_comm 1 i,
      List.cons_append, List.getElem?_cons_succ, List.getElem?_append_left hi, hline]
  exact lineMeets_of_getElem? h p hlines

/-- No line of the body looks like a declaration if the search passes over all of them. -/
theorem redeclared_iff :
    d.Redeclared <-> exists n, d.firstLine < n ∧ n ≤ d.lastLine ∧
      lineMeets sources path (declarationOf d.name).occursIn n = true := by
  constructor
  · intro hre
    rcases hre with ⟨line, hmem, hdeclares⟩
    rcases List.getElem?_of_mem hmem with ⟨i, hi⟩
    have hlt := (List.getElem?_eq_some_iff.mp hi).1
    refine ⟨d.firstLine + i + 1, by omega, by rw [Definition.lastLine]; omega, ?_⟩
    rw [lineMeets_body h _ hi]
    exact (occursIn_declarationOf_iff d.identifier).mpr hdeclares
  · intro hn
    rcases hn with ⟨n, hfirst, hlast, hmeets⟩
    rw [Definition.lastLine] at hlast
    rcases Nat.exists_eq_add_of_lt hfirst with ⟨i, rfl⟩
    have hlt : i < d.body.length := by omega
    have hi := List.getElem?_eq_getElem hlt
    rw [lineMeets_body h _ hi] at hmeets
    exact ⟨_, List.mem_of_getElem? hi, (occursIn_declarationOf_iff d.identifier).mp hmeets⟩

/-- The search finds the line with which the body opens exactly if the name has a pattern and
no line of the body looks like a declaration. -/
theorem contextStart?_eq_firstLine_iff {settings : Settings}
    (hscan : d.body.length ≤ settings.maxContextScan) (hmax : d.lastLine ≤ maxLine) :
    contextStart? sources settings (String.ofList d.name) path d.lastLine = some d.firstLine <->
      (declarationOf d.name).fits = true ∧ ¬ d.Redeclared := by
  have hpattern := declaration?_eq_of_bareName d.identifier.ne_nil
    (bareName_of_identifier d.identifier)
  have hlast : d.lastLine = d.firstLine + d.body.length := rfl
  rw [contextStart?_eq_some_iff, redeclared_iff h, hpattern]
  constructor
  · intro hstart
    rcases hstart with ⟨pattern, declared, hsome, hnear, hopens⟩
    split at hsome
    · rename_i hfits
      cases hsome
      refine ⟨hfits, ?_⟩
      rintro ⟨n, hfirst, hle, hmeets⟩
      have hpassed := hnear.passed n (Nat.lt_of_le_of_lt hopens.declared_le hfirst) hle
      rw [hmeets] at hpassed
      cases hpassed
    · cases hsome
  · intro hboth
    rcases hboth with ⟨hfits, hpassed⟩
    rw [if_pos hfits]
    refine ⟨_, d.firstLine, rfl, ⟨?_, by omega, ?_, ?_⟩, ?_⟩
    · rw [lowestLine, Definition.firstLine] at *
      omega
    · rw [lineMeets_header h]
      exact (occursIn_declarationOf_iff d.identifier).mpr d.declares_header
    · intro n hfirst hle
      exact Bool.eq_false_iff.mpr fun hmeets => hpassed ⟨n, hfirst, hle, hmeets⟩
    · refine Opens.brace (Nat.le_refl _) (by omega) ?_ (by omega)
      rw [holdsBrace, lineMeets_header h]
      exact List.contains_iff_mem.mpr d.brace_mem_header

/-- A call on the line of the finding is taken for the declaration, and its line for the one
with which the body opens unless a brace follows. -/
theorem contextStart?_of_call {settings : Settings} {line : String}
    (hfits : (declarationOf d.name).fits = true) (hlast : d.body.getLast? = some line)
    (hcall : Declares d.name line.toList) (hbrace : '\x7b' ∉ line.toList) :
    contextStart? sources settings (String.ofList d.name) path d.lastLine = some d.lastLine := by
  have hpattern := declaration?_eq_of_bareName d.identifier.ne_nil
    (bareName_of_identifier d.identifier)
  have hpos : 0 < d.body.length := List.length_pos_iff.mpr d.body_ne_nil
  rw [List.getLast?_eq_getElem?] at hlast
  have hline : d.lastLine = d.firstLine + (d.body.length - 1) + 1 := by
    rw [Definition.lastLine]
    omega
  rw [contextStart?_eq_some_iff, hpattern, if_pos hfits]
  refine ⟨_, d.lastLine, rfl, ⟨?_, Nat.le_refl _, ?_, by omega⟩, Opens.noBrace ?_⟩
  · rw [lowestLine, Definition.lastLine, Definition.firstLine]
    omega
  · rw [hline, lineMeets_body h _ hlast]
    exact (occursIn_declarationOf_iff d.identifier).mpr hcall
  · intro n hle hge
    rw [Nat.le_antisymm hge hle, holdsBrace, hline, lineMeets_body h _ hlast]
    exact Bool.eq_false_iff.mpr fun hmem => hbrace (List.contains_iff_mem.mp hmem)

end Lines

/-!
# Findings in bodies
-/

namespace Occurrence

/-- The finding with its offset declared. -/
def declaring (o : Occurrence) (lines : Int) : Occurrence :=
  { o with
    finding :=
      { o.finding with
        diagnostic := { o.finding.diagnostic with functionOffset := some lines } } }

/-- Whether a finding without a declared offset lies on the last line of the body of a
function that is its context, with as many lines looked through as the body has. -/
structure AtEndOf (o : Occurrence) (d : Definition) : Prop where
  hasLines : o.sources.HasLines o.path d.lines
  context : o.finding.diagnostic.contextName = some (String.ofList d.name)
  offset : o.finding.diagnostic.functionOffset = none
  line : o.finding.location.line = d.lastLine
  scan : d.body.length ≤ o.settings.maxContextScan
  le_maxLine : d.lastLine ≤ maxLine

section AtEnd

variable {o : Occurrence} {d : Definition} (h : o.AtEndOf d)

include h

theorem AtEndOf.offset_eq : o.offset =
    ((contextStart? o.sources o.settings (String.ofList d.name) o.path d.lastLine).map
      fun start : Nat => Offset.scanned ((d.lastLine : Int) - start)).getD (.absolute d.lastLine) := by
  cases hstart : contextStart? o.sources o.settings (String.ofList d.name) o.path d.lastLine with
  | none =>
      simp [Occurrence.offset, offsetOf, h.context, h.offset, h.line, hstart]
  | some start =>
      simp [Occurrence.offset, offsetOf, h.context, h.offset, h.line, hstart]

theorem AtEndOf.agrees_iff :
    o.offset.Agrees (.declared d.body.length) <->
      contextStart? o.sources o.settings (String.ofList d.name) o.path d.lastLine =
        some d.firstLine := by
  have hlast : d.lastLine = d.firstLine + d.body.length := rfl
  rw [h.offset_eq]
  cases contextStart? o.sources o.settings (String.ofList d.name) o.path d.lastLine with
  | none =>
      simp [Offset.Agrees]
  | some start =>
      simp only [Option.map_some, Option.getD_some, Offset.Agrees, Option.some.injEq]
      omega

theorem AtEndOf.offset_of_call {line : String} (hfits : (declarationOf d.name).fits = true)
    (hlast : d.body.getLast? = some line) (hcall : Declares d.name line.toList)
    (hbrace : '\x7b' ∉ line.toList) : o.offset = .scanned 0 := by
  rw [h.offset_eq, contextStart?_of_call h.hasLines hfits hlast hcall hbrace]
  exact congrArg Offset.scanned (Int.sub_self _)

/-- The offset that is found is the declared one, counted from the line with which the body
opens, exactly if the name has a pattern and no line of the body looks like a declaration. -/
theorem contextHash_eq_declaring :
    (o.contextText = (o.declaring d.body.length).contextText <->
      (declarationOf d.name).fits = true ∧ ¬ d.Redeclared) ∧
    ((declarationOf d.name).fits = true ∧ ¬ d.Redeclared ->
      o.identity.contextHash = (o.declaring d.body.length).identity.contextHash) := by
  have htext : o.contextText = (o.declaring d.body.length).contextText <->
      (declarationOf d.name).fits = true ∧ ¬ d.Redeclared := by
    rw [← contextStart?_eq_firstLine_iff h.hasLines h.scan h.le_maxLine, ← h.agrees_iff,
      contextText_eq_iff]
    exact ⟨fun hsame => hsame.2.2, fun hagrees => ⟨rfl, rfl, hagrees⟩⟩
  exact ⟨htext, fun hboth => congrArg hashText (htext.mpr hboth)⟩

end AtEnd

/-!
## A function with one line in its body
-/

def oneLine (line : String) (h : '\x7d' ∉ line.toList) : Definition where
  name := ['f']
  left := ['i', 'n', 't', ' ']
  arguments := ['i', 'n', 't', ' ', 'n', ')', ' ']
  right := []
  before := []
  body := [line]
  after := ["\x7d"]
  identifier := identifier_of_isAsciiWord (by decide) (List.forall_mem_singleton.mpr rfl)
  word := by
    intro c hc
    cases hc
    exact Text.isWord_of_lt (by decide)
  single := by decide
  body_ne_nil := List.cons_ne_nil line []
  inside := staysInside_of_not_mem (by simpa using h)

def inOneLine (line : String) : Occurrence where
  sources := .ofFiles [("a.c", Text.bytesOf ("int f(int n) \x7b\n" ++ line ++ "\n\x7d\n"))]
  settings := {}
  finding := {
    diagnostic := {
      category := "", type := "", description := "", checkerName := none
      location := ⟨0, 2, 3⟩, contextName := some "f", contextKind := none, path := []
      notes := [], embeddedHash := none, functionOffset := none }
    checker := "core.DivideZero"
    provenance := .declared }
  path := "a.c"

theorem atEndOf_oneLine {line : String} (h : '\x7d' ∉ line.toList)
    (hlines : (Source.pieces (Text.bytesOf ("int f(int n) \x7b\n" ++ line ++ "\n\x7d\n"))).map
      Source.lineText = ["int f(int n) \x7b", line, "\x7d"]) :
    (inOneLine line).AtEndOf (oneLine line h) where
  hasLines := by
    have hfile := (Sources.hasFile_ofFiles [] "a.c"
      (Text.bytesOf ("int f(int n) \x7b\n" ++ line ++ "\n\x7d\n"))).hasLines
    rw [hlines] at hfile
    exact hfile
  context := rfl
  offset := rfl
  line := rfl
  scan := (by decide : 1 ≤ 2000)
  le_maxLine := (by decide : 2 ≤ maxLine)

theorem fits_oneLine : (declarationOf ['f']).fits = true :=
  fits_declarationOf (by decide) (by decide)

theorem not_redeclared_return : ¬ (oneLine "  return n - 1;" (by decide)).Redeclared := by
  rintro ⟨line, hline, hdeclares⟩
  rw [List.mem_singleton.mp hline] at hdeclares
  exact absurd (hdeclares.subset List.mem_cons_self) (by decide)

theorem contextHash_of_oneLine_return :
    (inOneLine "  return n - 1;").identity.contextHash =
      ((inOneLine "  return n - 1;").declaring 1).identity.contextHash := by
  have hend : (inOneLine "  return n - 1;").AtEndOf (oneLine "  return n - 1;" (by decide)) :=
    atEndOf_oneLine _ (by decide +kernel)
  exact (contextHash_eq_declaring hend).2 ⟨fits_oneLine, not_redeclared_return⟩

/-- The hash of the context depends on who says the offset if the last line calls the
function. -/
theorem not_contextHash_eq_declaring_of_atEndOf :
    ¬ forall (o : Occurrence) (d : Definition), o.AtEndOf d ->
      o.identity.contextHash = (o.declaring d.body.length).identity.contextHash := by
  intro hall
  have hend : (inOneLine "  return f(n - 1);").AtEndOf
      (oneLine "  return f(n - 1);" (by decide)) :=
    atEndOf_oneLine _ (by decide +kernel)
  have hcall : Declares ['f'] "  return f(n - 1);".toList := by
    refine ⟨"  return ".toList, [], "n - 1);".toList, by decide, ?_, fun _ hc => nomatch hc⟩
    intro c hc
    cases hc
    exact Text.isWord_of_lt (by decide)
  have hoffset := hend.offset_of_call fits_oneLine rfl hcall (by decide)
  have heq := hall _ _ hend
  change hashText (canonical (ContextKey.fields ⟨"core.DivideZero", "f",
    (inOneLine "  return f(n - 1);").offset⟩)) = _ at heq
  rw [hoffset] at heq
  exact absurd heq (by decide +kernel)

end Occurrence

end Identity
end FindingLedger
