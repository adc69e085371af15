import Mathlib.Data.List.Induction
import FindingLedger.Ingestor.Session
import FindingLedger.Proofs.Sequencing

/-!
# Histories of requests

What a session remembers is told from the requests that it was sent. The volume is what the
changes of files make of it. The ingestor is that of the latest request that could set one up,
with the table of the latest request that could provide one. A table that was kept is the one
that was active then.
-/

namespace FindingLedger

/-!
# Effects of requests
-/

namespace Request

def volume (v : Volume) : Request -> Volume
  | .change edit => (edit.apply v).1
  | _ => v

/-- The ingestor that a request sets up, if it can. -/
def ingestor? (v : Volume) : Request -> Option Ingestor
  | .setUp settings document files =>
      (CheckerTable.ofDocument? document >>= fun table =>
        Ingestor.make settings table (.shared (.ofFiles files))).toOption
  | .setUpFrom settings => (Ingestor.ofSettings v settings).toOption
  | _ => none

/-- The checker table that a request provides, with a new ingestor or for the present one, if it
can. -/
def table? (v : Volume) : Request -> Option CheckerTable
  | .replaceTable document => (CheckerTable.ofDocument? document).toOption
  | .reloadTable path => (v.readTable path).toOption
  | request => (request.ingestor? v).map Ingestor.table

/-- Whether a request only asks for something. -/
def asks : Request -> Bool
  | .showSettings | .ingestBytes _ | .ingestFile _ | .ingestBatch _ | .ingestFolder _
  | .discover _ | .readBundle _ | .lookUp _ _ => true
  | _ => false

theorem table?_of_ingestor? {v : Volume} {request : Request} {i : Ingestor}
    (h : request.ingestor? v = some i) : request.table? v = some i.table := by
  cases request with
  | setUp settings document files =>
      exact congrArg (Option.map Ingestor.table) h
  | setUpFrom settings =>
      exact congrArg (Option.map Ingestor.table) h
  | _ =>
      cases h

theorem access_of_make {settings : Settings} {table : CheckerTable} {access : SourceAccess}
    {i : Ingestor} (h : Ingestor.make settings table access = .ok i) : i.access = access := by
  unfold Ingestor.make at h
  split at h
  · cases h
    rfl
  · cases h

theorem access_of_ingestor? {v : Volume} {request : Request} {i : Ingestor}
    (h : request.ingestor? v = some i) :
    (exists files, i.access = .shared (.ofFiles files)) ∨
      exists root, i.access = .volume root := by
  cases request with
  | setUp settings document files =>
      rcases bind_eq_ok_iff.mp (toOption_eq_some_iff.mp h) with ⟨table, _, hmake⟩
      exact Or.inl ⟨files, access_of_make hmake⟩
  | setUpFrom settings =>
      have hmade := toOption_eq_some_iff.mp h
      unfold Ingestor.ofSettings at hmade
      right
      exists settings.sourceRoot
      split at hmade
      · exact access_of_make hmade
      · split at hmade
        · exact access_of_make hmade
        · cases hmade
  | _ =>
      cases h

end Request

def volumeAfter (v : Volume) (history : List Request) : Volume :=
  history.foldl Request.volume v

theorem volumeAfter_concat (v : Volume) (history : List Request) (request : Request) :
    volumeAfter v (history ++ [request]) = request.volume (volumeAfter v history) := by
  unfold volumeAfter
  rw [List.foldl_append]
  rfl

/-!
# Latest effects
-/

/-- Whether something is the effect of the latest request that has one. The effect of a request
depends on the volume as it is then. -/
def IsLatest {α : Type} (v : Volume) (effect? : Volume -> Request -> Option α)
    (history : List Request) (a : α) : Prop :=
  exists before request after, history = before ++ request :: after ∧
    effect? (volumeAfter v before) request = some a ∧
    forall middle later rest, after = middle ++ later :: rest ->
      effect? (volumeAfter v (before ++ request :: middle)) later = none

section Latest

variable {α : Type} {v : Volume} {effect? : Volume -> Request -> Option α}
  {history : List Request}

theorem not_isLatest_nil (a : α) : ¬ IsLatest v effect? [] a := by
  rintro ⟨before, request, after, h, _⟩
  exact List.append_ne_nil_of_right_ne_nil before (List.cons_ne_nil request after) h.symm

theorem isLatest_concat_iff {request : Request} {a : α} :
    IsLatest v effect? (history ++ [request]) a <->
      effect? (volumeAfter v history) request = some a ∨
        (effect? (volumeAfter v history) request = none ∧ IsLatest v effect? history a) := by
  constructor
  · rintro ⟨before, first, after, hsplit, heffect, hlater⟩
    rcases List.eq_nil_or_concat after with rfl | ⟨front, last, rfl⟩
    · rcases List.append_inj' hsplit rfl with ⟨rfl, hrequest⟩
      cases hrequest
      exact Or.inl heffect
    · rw [List.concat_eq_append] at hsplit hlater
      rw [← List.cons_append, ← List.append_assoc] at hsplit
      rcases List.append_inj' hsplit rfl with ⟨rfl, hrequest⟩
      cases hrequest
      refine Or.inr ⟨hlater front request [] rfl, before, first, front, rfl, heffect, ?_⟩
      intro middle later rest hfront
      apply hlater middle later (rest ++ [request])
      rw [hfront, List.append_assoc, List.cons_append]
  · rintro (heffect | ⟨hnone, before, first, after, rfl, heffect, hlater⟩)
    · refine ⟨history, request, [], rfl, heffect, ?_⟩
      intro middle later rest h
      exact absurd h.symm (List.append_ne_nil_of_right_ne_nil middle (List.cons_ne_nil _ _))
    · refine ⟨before, first, after ++ [request], ?_, heffect, ?_⟩
      · rw [List.append_assoc, List.cons_append]
      · intro middle later rest hsplit
        rcases List.eq_nil_or_concat rest with rfl | ⟨front, last, rfl⟩
        · rcases List.append_inj' hsplit rfl with ⟨rfl, hlast⟩
          cases hlast
          exact hnone
        · rw [List.concat_eq_append, ← List.cons_append, ← List.append_assoc] at hsplit
          exact hlater middle later front (List.append_inj' hsplit rfl).1

theorem IsLatest.unique {a b : α} (ha : IsLatest v effect? history a)
    (hb : IsLatest v effect? history b) : a = b := by
  induction history using List.reverseRecOn with
  | nil =>
      exact absurd ha (not_isLatest_nil a)
  | append_singleton history request ih =>
      rw [isLatest_concat_iff] at ha hb
      cases heffect : effect? (volumeAfter v history) request with
      | some c =>
          simp only [heffect, Option.some.injEq, reduceCtorEq, false_and, or_false] at ha hb
          rw [← ha, ← hb]
      | none =>
          simp only [heffect, reduceCtorEq, true_and, false_or] at ha hb
          exact ih ha hb

end Latest

/-- Whether an ingestor has the settings and the access to source files of the latest one that
could be set up, and the latest table that was provided. -/
structure ActiveAfter (v : Volume) (history : List Request) (i : Ingestor) : Prop where
  setUp : exists j, IsLatest v Request.ingestor? history j ∧ i.settings = j.settings ∧
    i.access = j.access
  table : IsLatest v Request.table? history i.table

theorem ActiveAfter.unique {v : Volume} {history : List Request} {i j : Ingestor}
    (hi : ActiveAfter v history i) (hj : ActiveAfter v history j) : i = j := by
  rcases hi.setUp with ⟨k, hk, hsettings, haccess⟩
  rcases hj.setUp with ⟨l, hl, hsettings', haccess'⟩
  cases hk.unique hl
  have htable := hi.table.unique hj.table
  cases i
  cases j
  simp_all

namespace Session

/-!
# Steps
-/

def snapshotsAfter (s : Session) : Request -> List (String × CheckerTable)
  | .keepTable name =>
      match s.ingestor with
      | some i => Entries.put s.snapshots name i.table
      | none => s.snapshots
  | _ => s.snapshots

/-- The ingestor after a request: a new one, or the present one with the table that is
provided. -/
def ingestorAfter (s : Session) (request : Request) : Option Ingestor :=
  (request.ingestor? s.volume).or
    (s.ingestor.map fun i => { i with table := (request.table? s.volume).getD i.table })

theorem fst_install (s : Session) (made : Except IngestError Ingestor) :
    (s.install made).1 = { s with ingestor := made.toOption.or s.ingestor } := by
  cases made <;> rfl

theorem fst_useTable {s : Session} {i : Ingestor} (h : s.ingestor = some i)
    (read : Except IngestError CheckerTable) :
    (s.useTable i read).1 =
      { s with ingestor := some { i with table := read.toOption.getD i.table } } := by
  cases read with
  | ok table =>
      rfl
  | error e =>
      cases s
      cases h
      rfl

theorem ingestorAfter_of_table?_eq {s : Session} {request : Request}
    (h : request.table? s.volume = (request.ingestor? s.volume).map Ingestor.table) :
    s.ingestorAfter request = (request.ingestor? s.volume).or s.ingestor := by
  unfold ingestorAfter
  rw [h]
  cases request.ingestor? s.volume with
  | some i =>
      rfl
  | none =>
      exact Option.map_id'

/-- A request has an effect on each part of a session by itself. -/
theorem fst_step (s : Session) (request : Request) :
    (s.step request).1 =
      ⟨request.volume s.volume, s.ingestorAfter request, s.snapshotsAfter request⟩ := by
  rcases s with ⟨v, ingestor, snapshots⟩
  cases request with
  | setUp settings document files =>
      rw [step, fst_install, ingestorAfter_of_table?_eq rfl]
      rfl
  | setUpFrom settings =>
      rw [step, fst_install, ingestorAfter_of_table?_eq rfl]
      rfl
  | replaceTable document =>
      cases ingestor with
      | none => rfl
      | some i => exact fst_useTable rfl _
  | reloadTable path =>
      cases ingestor with
      | none => rfl
      | some i => exact fst_useTable rfl _
  | lookUp description name =>
      rw [step]
      cases tableFor? ⟨v, ingestor, snapshots⟩ name <;> cases ingestor <;> rfl
  | _ =>
      cases ingestor <;> rfl

theorem fst_step_of_asks (s : Session) {request : Request} (h : request.asks = true) :
    (s.step request).1 = s := by
  rw [fst_step]
  rcases s with ⟨v, ingestor, snapshots⟩
  cases request with
  | change | setUp | setUpFrom | replaceTable | reloadTable | keepTable =>
      cases h
  | _ =>
      cases ingestor <;> rfl

theorem fst_step_of_error {s : Session} {request : Request} {e : IngestError}
    (h : (s.step request).2 = .error e) : (s.step request).1 = s := by
  have hinstall : forall made : Except IngestError Ingestor,
      (s.install made).2 = .error e -> (s.install made).1 = s := by
    intro made hmade
    cases made with
    | ok i => cases hmade
    | error e => rfl
  have huseTable : forall (i : Ingestor) (read : Except IngestError CheckerTable),
      (s.useTable i read).2 = .error e -> (s.useTable i read).1 = s := by
    intro i read hread
    cases read with
    | ok table => cases hread
    | error e => rfl
  rcases s with ⟨v, ingestor, snapshots⟩
  cases request with
  | change edit =>
      cases h
  | setUp settings document files =>
      exact hinstall _ h
  | setUpFrom settings =>
      exact hinstall _ h
  | replaceTable document =>
      cases ingestor with
      | none => cases h
      | some i => exact huseTable i _ h
  | reloadTable path =>
      cases ingestor with
      | none => cases h
      | some i => exact huseTable i _ h
  | keepTable name =>
      cases ingestor <;> cases h
  | _ =>
      exact fst_step_of_asks _ rfl

/-!
# Runs
-/

def afterHistory (v : Volume) (history : List Request) : Session :=
  ((start v).run history).1

theorem run_cons (s : Session) (request : Request) (rest : List Request) :
    s.run (request :: rest) = (((s.step request).1.run rest).1,
      (s.step request).2 :: ((s.step request).1.run rest).2) :=
  rfl

theorem run_append (s : Session) (before after : List Request) :
    s.run (before ++ after) =
      (((s.run before).1.run after).1,
        (s.run before).2 ++ ((s.run before).1.run after).2) := by
  induction before generalizing s with
  | nil =>
      rfl
  | cons request before ih =>
      rw [List.cons_append, run_cons, run_cons, ih]
      rfl

theorem length_replies (s : Session) (history : List Request) :
    (s.run history).2.length = history.length := by
  induction history generalizing s with
  | nil =>
      rfl
  | cons request history ih =>
      exact congrArg (· + 1) (ih (s.step request).1)

theorem afterHistory_concat (v : Volume) (history : List Request) (request : Request) :
    afterHistory v (history ++ [request]) = ((afterHistory v history).step request).1 := by
  unfold afterHistory
  rw [run_append]
  rfl

theorem volume_afterHistory (v : Volume) (history : List Request) :
    (afterHistory v history).volume = volumeAfter v history := by
  induction history using List.reverseRecOn with
  | nil =>
      rfl
  | append_singleton history request ih =>
      rw [afterHistory_concat, fst_step, volumeAfter_concat, ih]

/-- The session has the active ingestor, and none only if none could be set up. -/
theorem ingestor_afterHistory (v : Volume) (history : List Request) :
    (forall i, (afterHistory v history).ingestor = some i -> ActiveAfter v history i) ∧
    ((afterHistory v history).ingestor = none ->
      forall j, ¬ IsLatest v Request.ingestor? history j) := by
  induction history using List.reverseRecOn with
  | nil =>
      constructor
      · intro i hi
        cases hi
      · intro _ j
        exact not_isLatest_nil j
  | append_singleton history request ih =>
      -- The last request has set up an ingestor, or that of the requests before it stays.
      rw [afterHistory_concat, fst_step, ingestorAfter, volume_afterHistory]
      cases hnew : request.ingestor? (volumeAfter v history) with
      | some j =>
          rw [Option.some_or]
          constructor
          · intro i hi
            cases hi
            constructor
            · exact ⟨j, isLatest_concat_iff.mpr (Or.inl hnew), rfl, rfl⟩
            · exact isLatest_concat_iff.mpr (Or.inl (Request.table?_of_ingestor? hnew))
          · intro hi
            cases hi
      | none =>
          rw [Option.none_or]
          constructor
          · intro i hi
            rcases Option.map_eq_some_iff.mp hi with ⟨k, hk, rfl⟩
            have hactive := ih.1 k hk
            rcases hactive.setUp with ⟨j, hj, hsettings, haccess⟩
            constructor
            · exact ⟨j, isLatest_concat_iff.mpr (Or.inr ⟨hnew, hj⟩), hsettings, haccess⟩
            · rw [isLatest_concat_iff]
              cases htable : request.table? (volumeAfter v history) with
              | some table =>
                  exact Or.inl rfl
              | none =>
                  exact Or.inr ⟨rfl, hactive.table⟩
          · intro hnone j hj
            rw [isLatest_concat_iff, hnew] at hj
            rcases hj with hj | ⟨_, hj⟩
            · cases hj
            · exact ih.2 (Option.map_eq_none_iff.mp hnone) j hj

theorem ingestor_eq_some_iff {v : Volume} {history : List Request} {i : Ingestor} :
    (afterHistory v history).ingestor = some i <-> ActiveAfter v history i := by
  rcases ingestor_afterHistory v history with ⟨hsome, hnone⟩
  constructor
  · exact hsome i
  · intro hactive
    cases hi : (afterHistory v history).ingestor with
    | none =>
        rcases hactive.setUp with ⟨j, hj, _⟩
        exact absurd hj (hnone hi j)
    | some k =>
        rw [(hsome k hi).unique hactive]

/-- A kept table stays until another is kept under its name. -/
theorem get?_snapshots_run {s : Session} {name : String} {later : List Request}
    (h : .keepTable name ∉ later) :
    Entries.get? (s.run later).1.snapshots name = Entries.get? s.snapshots name := by
  induction later generalizing s with
  | nil =>
      rfl
  | cons request later ih =>
      rw [List.mem_cons, not_or] at h
      have hstep : Entries.get? (s.step request).1.snapshots name =
          Entries.get? s.snapshots name := by
        rw [fst_step]
        cases request with
        | keepTable other =>
            have hother : other ≠ name := fun heq => h.1 (congrArg Request.keepTable heq).symm
            unfold snapshotsAfter
            cases s.ingestor with
            | none => rfl
            | some i => exact Entries.get?_put_of_ne _ _ hother
        | _ =>
            rfl
      exact (ih h.2).trans hstep

theorem get?_snapshots_afterHistory {v : Volume} {before later : List Request} {name : String}
    {i : Ingestor} (hlater : .keepTable name ∉ later) (hactive : ActiveAfter v before i) :
    Entries.get? (afterHistory v (before ++ .keepTable name :: later)).snapshots name =
      some i.table := by
  have hsession : afterHistory v (before ++ .keepTable name :: later) =
      (((afterHistory v before).step (.keepTable name)).1.run later).1 := by
    unfold afterHistory
    rw [run_append]
    rfl
  rw [hsession, get?_snapshots_run hlater, fst_step, snapshotsAfter,
    ingestor_eq_some_iff.mpr hactive]
  exact Entries.get?_put_self _ name i.table

end Session
end FindingLedger
