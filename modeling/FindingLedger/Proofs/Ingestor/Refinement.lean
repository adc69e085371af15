import FindingLedger.Proofs.Ingestor.Histories
import FindingLedger.Proofs.Outcome.CheckerIndependence
import FindingLedger.Proofs.Source.CachedReads

/-!
# Sessions and single bundles

Whatever a session was asked before, a bundle is taken in as it would be by itself: with the
settings and the access to source files of the ingestor that was set up last, with the table
that was provided last, and with the files as they are now.
-/

namespace FindingLedger
namespace Session

def replyAfter (v : Volume) (history : List Request) (request : Request) :
    Except IngestError Reply :=
  ((afterHistory v history).step request).2

theorem replies_eq (v : Volume) (before after : List Request) (request : Request) :
    ((start v).run (before ++ request :: after)).2 =
      ((start v).run before).2 ++ replyAfter v before request ::
        ((afterHistory v (before ++ [request])).run after).2 := by
  rw [afterHistory_concat, run_append, run_cons]
  rfl

theorem getElem?_replies (v : Volume) (before after : List Request) (request : Request) :
    ((start v).run (before ++ request :: after)).2[before.length]? =
      some (replyAfter v before request) := by
  rw [replies_eq, List.getElem?_append_right (Nat.le_of_eq (length_replies (start v) before)),
    length_replies, Nat.sub_self, List.getElem?_cons_zero]

/-!
# Replies after a history
-/

/-- Whether bundles are taken in after a history as each of them would be by itself, with the
settings and the table of an ingestor and the files as the history leaves them. -/
structure TakesInAlone (v : Volume) (history : List Request) (i : Ingestor) : Prop where
  ingestBytes : forall document, replyAfter v history (.ingestBytes document) =
    ((Outcome.ingest document i.table (i.access.sources (volumeAfter v history))
      i.settings).mapError .outcome).map .outcome
  sources : (i.access.sources (volumeAfter v history)).ForOneBundle
  /-- A reader for the bundle alone, whatever it looks at, tells of the sources as they are. -/
  reader : forall root, i.access = .volume root -> forall paths : List String,
    ((CachedReader.start root).after
      (paths.map fun path => (volumeAfter v history, path))).sources (volumeAfter v history) =
        i.access.sources (volumeAfter v history)
  ingestFile : forall path document, (volumeAfter v history).readBytes path = .ok document ->
    replyAfter v history (.ingestFile path) = replyAfter v history (.ingestBytes document)
  ingestFile_fault : forall path fault, (volumeAfter v history).readBytes path = .error fault ->
    replyAfter v history (.ingestFile path) = .error (.io fault)
  ingestBatch : forall paths, exists results,
    replyAfter v history (.ingestBatch paths) = .ok (.results results) ∧
      List.Forall₂ (fun path result => result.path = path ∧
        replyAfter v history (.ingestFile path) = result.outcome.map .outcome) paths results
  ingestFolder : forall path paths, (volumeAfter v history).discover path = .ok paths ->
    replyAfter v history (.ingestFolder path) = replyAfter v history (.ingestBatch paths)
  ingestFolder_fault : forall path fault,
    (volumeAfter v history).discover path = .error fault ->
      replyAfter v history (.ingestFolder path) = .error (.io fault)
  lookUp : forall description, replyAfter v history (.lookUp description none) =
    .ok (.checker (i.table.lookup? description))

section Active

variable {v : Volume} {history : List Request} {i : Ingestor} (h : ActiveAfter v history i)

include h

theorem afterHistory_eq : afterHistory v history =
    ⟨volumeAfter v history, some i, (afterHistory v history).snapshots⟩ := by
  rw [← volume_afterHistory, ← ingestor_eq_some_iff.mpr h]

theorem reply_ingestBytes (document : Bytes) :
    replyAfter v history (.ingestBytes document) =
      (i.ingestBytes (volumeAfter v history) document).map .outcome := by
  rw [replyAfter, afterHistory_eq h]
  rfl

theorem reply_ingestFile (path : Path) :
    replyAfter v history (.ingestFile path) =
      (i.ingestFile (volumeAfter v history) path).map .outcome := by
  rw [replyAfter, afterHistory_eq h]
  rfl

theorem reply_ingestBatch (paths : List Path) :
    replyAfter v history (.ingestBatch paths) =
      .ok (.results (i.ingestBatch (volumeAfter v history) paths)) := by
  rw [replyAfter, afterHistory_eq h]
  rfl

theorem reply_ingestFolder (path : Path) :
    replyAfter v history (.ingestFolder path) =
      (i.ingestFolder (volumeAfter v history) path).map .results := by
  rw [replyAfter, afterHistory_eq h]
  rfl

theorem takesInAlone_of_activeAfter : TakesInAlone v history i where
  ingestBytes document := reply_ingestBytes h document
  sources := by
    rcases h.setUp with ⟨j, ⟨before, request, _, _, hj, _⟩, _, haccess⟩
    rw [haccess]
    rcases Request.access_of_ingestor? hj with ⟨files, hfiles⟩ | ⟨root, hroot⟩
    · rw [hfiles]
      exact Sources.ForOneBundle.memory files
    · rw [hroot]
      exact Sources.forOneBundle_volume _ root
  reader := by
    intro root haccess paths
    rw [CachedReader.sources_after_start, haccess]
    rfl
  ingestFile := by
    intro path document hread
    rw [reply_ingestFile h, reply_ingestBytes h, Ingestor.ingestFile, hread]
  ingestFile_fault := by
    intro path fault hread
    rw [reply_ingestFile h, Ingestor.ingestFile, hread]
    rfl
  ingestBatch := by
    intro paths
    refine ⟨_, reply_ingestBatch h paths, ?_⟩
    unfold Ingestor.ingestBatch
    rw [List.forall₂_map_right_iff, List.forall₂_same]
    intro path _
    exact ⟨rfl, reply_ingestFile h path⟩
  ingestFolder := by
    intro path paths hdiscover
    rw [reply_ingestFolder h, reply_ingestBatch h, Ingestor.ingestFolder, hdiscover]
    rfl
  ingestFolder_fault := by
    intro path fault hdiscover
    rw [reply_ingestFolder h, Ingestor.ingestFolder, hdiscover]
    rfl
  lookUp := by
    intro description
    rw [replyAfter, afterHistory_eq h]
    rfl

end Active

/-!
# Requests without a trace
-/

/-- The replies to other requests do not depend on one that leaves the session as it was. -/
theorem replies_eraseIdx {v : Volume} {before : List Request} {request : Request}
    (h : afterHistory v (before ++ [request]) = afterHistory v before) (after : List Request) :
    ((start v).run (before ++ request :: after)).2.eraseIdx before.length =
      ((start v).run (before ++ after)).2 := by
  rw [replies_eq, run_append, ← length_replies (start v) before,
    List.eraseIdx_append_of_length_le (Nat.le_refl _), Nat.sub_self, List.eraseIdx_cons_zero, h]
  rfl

theorem afterHistory_concat_eq {v : Volume} {before : List Request} {request : Request}
    (h : request.asks = true ∨ exists e, replyAfter v before request = .error e) :
    afterHistory v (before ++ [request]) = afterHistory v before := by
  rw [afterHistory_concat]
  rcases h with hasks | ⟨e, herror⟩
  · exact fst_step_of_asks _ hasks
  · exact fst_step_of_error herror

/-!
# Runs
-/

/-- In every run each bundle is taken in by the ingestor that the requests before it leave,
which is there as soon as one could be set up. Requests that ask for something, and those that
fail, leave no trace in other replies, and a kept table answers as it did when it was kept. -/
theorem run_takesInAlone (v : Volume) (before : List Request) :
    (forall request after, ((start v).run (before ++ request :: after)).2[before.length]? =
      some (replyAfter v before request)) ∧
    (forall j, IsLatest v Request.ingestor? before j -> exists i, ActiveAfter v before i) ∧
    (forall i, ActiveAfter v before i -> TakesInAlone v before i) ∧
    (forall request,
      request.asks = true ∨ (exists e, replyAfter v before request = .error e) ->
        forall after, ((start v).run (before ++ request :: after)).2.eraseIdx before.length =
          ((start v).run (before ++ after)).2) ∧
    (forall name later i, .keepTable name ∉ later -> ActiveAfter v before i ->
      forall description,
        replyAfter v (before ++ .keepTable name :: later) (.lookUp description (some name)) =
          replyAfter v before (.lookUp description none)) := by
  refine ⟨fun request after => getElem?_replies v before after request, ?_, ?_, ?_, ?_⟩
  · intro j hj
    cases hi : (afterHistory v before).ingestor with
    | none =>
        exact absurd hj ((ingestor_afterHistory v before).2 hi j)
    | some i =>
        exact ⟨i, ingestor_eq_some_iff.mp hi⟩
  · intro i hactive
    exact takesInAlone_of_activeAfter hactive
  · intro request hrequest after
    exact replies_eraseIdx (afterHistory_concat_eq hrequest) after
  · intro name later i hlater hactive description
    rw [(takesInAlone_of_activeAfter hactive).lookUp, replyAfter, step, tableFor?,
      get?_snapshots_afterHistory hlater hactive]
    rfl

/-- A bundle is taken in before its source file is there and before a table fails to be
read. -/
def divisionHistory : List Request :=
  [.setUpFrom { sourceRoot := some (.ofText "/run") },
    .change (.write (.ofText "/run/b.plist") (Outcome.divisionDocument "")),
    .ingestFile (.ofText "/run/b.plist"),
    .change (.write (.ofText "/run/a.c") [0x0A, 0x0A, 0x0A]), .reloadTable (.ofText "t.json")]

/-- The bundle is taken in once more as if nothing had been asked before, and the table is kept
while another takes its place. -/
theorem run_takesInAlone_divisionHistory :
    ActiveAfter .empty divisionHistory
        ⟨{ sourceRoot := some (.ofText "/run") }, .builtin, .volume (some (.ofText "/run"))⟩ ∧
      ((start .empty).run
          (divisionHistory ++ [.ingestFile (.ofText "/run/../run/b.plist")])).2[5]? =
        some (((Outcome.ingest (Outcome.divisionDocument "") .builtin
          ((volumeAfter .empty divisionHistory).sources (some (.ofText "/run")))
          { sourceRoot := some (.ofText "/run") }).mapError .outcome).map .outcome) ∧
      forall description,
        replyAfter .empty (divisionHistory ++ .keepTable "old" ::
            [.replaceTable (some "\x7b\x7d"), .change (.remove (.ofText "/run/a.c"))])
          (.lookUp description (some "old")) =
        replyAfter .empty divisionHistory (.lookUp description none) := by
  have hactive : ActiveAfter .empty divisionHistory
      ⟨{ sourceRoot := some (.ofText "/run") }, .builtin, .volume (some (.ofText "/run"))⟩ := by
    apply ingestor_eq_some_iff.mp
    rfl
  have hread : (volumeAfter .empty divisionHistory).readBytes (.ofText "/run/../run/b.plist") =
      .ok (Outcome.divisionDocument "") := by
    decide +kernel
  rcases run_takesInAlone .empty divisionHistory with ⟨hreply, _, halone, _, hkept⟩
  have htakes := halone _ hactive
  refine ⟨hactive, ?_, ?_⟩
  · rw [show 5 = divisionHistory.length from rfl, hreply, htakes.ingestFile _ _ hread,
      htakes.ingestBytes]
    rfl
  · exact hkept "old" _ _ (by simp) hactive

end Session
end FindingLedger
