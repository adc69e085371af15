import FindingLedger.Proofs.Entries
import FindingLedger.Registry
import FindingLedger.Source.Sources

/-!
# Registrations

Paths are registered one after another, some of them more than once, some with the content of
another path, some without content. The first registration of a path settles its digest, and
the first content with a digest is the one that is kept, so that the contents are those of the
registered paths and no others. Nothing of this depends on how digests are made.
-/

namespace FindingLedger
namespace Registry

/-- A registration of a path, with what sources hold under it or with what was read elsewhere. -/
inductive Registration where
  | through (path : String) (sources : Sources)
  | content (path : String) (content? : Option Bytes)

namespace Registration

def path : Registration -> String
  | through path _ => path
  | content path _ => path

def offer? : Registration -> Option Bytes
  | through path sources => sources.bytes? path
  | content _ content? => content?

end Registration

def perform (digest : Bytes -> String) (r : Registry) : Registration -> Registry
  | .through path sources => r.registerWith digest path (sources.bytes? path)
  | .content path content? => r.registerWith digest path content?

def ofRegistrations (digest : Bytes -> String) (calls : List Registration) : Registry :=
  calls.foldl (perform digest) .empty

def firstRegistration? (calls : List Registration) (path : String) : Option Registration :=
  calls.find? fun call => call.path == path

def firstContents (calls : List Registration) : List Bytes :=
  (calls.map Registration.path).eraseDups.filterMap fun path =>
    (firstRegistration? calls path).bind Registration.offer?

/-!
# One registration
-/

section RegisterWith

variable {digest : Bytes -> String} {r : Registry} {path : String}

theorem registerWith_of_mem (h : path ∈ r.pathList) (content? : Option Bytes) :
    r.registerWith digest path content? = r :=
  if_pos ((Entries.has_iff_mem_keys _ _).mpr h)

theorem registerWith_of_not_mem (h : path ∉ r.pathList) (content? : Option Bytes) :
    r.registerWith digest path content? =
      { paths := r.paths ++ [(path, content?.map digest)]
        contents :=
          match content? with
          | some bytes => Entries.putNew r.contents (digest bytes) bytes
          | none => r.contents } :=
  if_neg fun hhas => h ((Entries.has_iff_mem_keys _ _).mp hhas)

end RegisterWith

def digested (digest : Bytes -> String) (contents : List Bytes) : Entries Bytes :=
  contents.map fun bytes => (digest bytes, bytes)

theorem get?_digested (digest : Bytes -> String) (contents : List Bytes) (d : String) :
    Entries.get? (digested digest contents) d =
      contents.find? fun bytes => digest bytes == d := by
  unfold Entries.get? digested
  rw [List.find?_map, Option.map_map]
  exact Option.map_id'

/-- Whether a registry holds the digests of what is offered for some paths, and each content
once. -/
structure Holds (digest : Bytes -> String) (offers : Entries (Option Bytes)) (r : Registry) :
    Prop where
  paths_eq : r.paths = offers.map fun offer => (offer.1, offer.2.map digest)
  contents_eq : r.contents = Entries.ofFirsts (digested digest (offers.filterMap Prod.snd))

section Holds

variable {digest : Bytes -> String} {offers : Entries (Option Bytes)} {r : Registry}

theorem Holds.pathList_eq (h : r.Holds digest offers) : r.pathList = Entries.keys offers := by
  unfold pathList Entries.keys
  rw [h.paths_eq, List.map_map]
  rfl

theorem Holds.digestOf?_eq (h : r.Holds digest offers) (path : String) :
    r.digestOf? path = (Entries.get? offers path).join.map digest := by
  unfold digestOf? Entries.get?
  rw [h.paths_eq, List.find?_map, Option.map_map]
  show (Option.map _ (offers.find? fun offer => offer.1 == path)).join = _
  cases offers.find? fun offer => offer.1 == path <;> rfl

theorem holds_empty (digest : Bytes -> String) : empty.Holds digest [] :=
  ⟨rfl, rfl⟩

/-- A path that is new gets its digest, and its content is kept unless the digest is known. -/
theorem Holds.registerWith (h : r.Holds digest offers) (path : String)
    (content? : Option Bytes) :
    (r.registerWith digest path content?).Holds digest
      (Entries.putNew offers path content?) := by
  unfold Entries.putNew
  simp only [Entries.has_iff_mem_keys]
  split
  · rename_i hmem
    rw [← h.pathList_eq] at hmem
    rw [registerWith_of_mem hmem]
    exact h
  · rename_i hnew
    rw [← h.pathList_eq] at hnew
    rw [registerWith_of_not_mem hnew]
    constructor
    · rw [h.paths_eq, List.map_append]
      rfl
    · rw [List.filterMap_append, h.contents_eq]
      cases content? with
      | none =>
          show _ = Entries.ofFirsts (digested digest (offers.filterMap Prod.snd ++ []))
          rw [List.append_nil]
      | some bytes =>
          show _ = Entries.ofFirsts (digested digest (offers.filterMap Prod.snd ++ [bytes]))
          unfold digested
          rw [List.map_append]
          exact (Entries.ofFirsts_concat _ (digest bytes, bytes)).symm

end Holds

/-!
# All registrations
-/

theorem perform_eq (digest : Bytes -> String) (r : Registry) (call : Registration) :
    perform digest r call = r.registerWith digest call.path call.offer? := by
  cases call <;> rfl

def firstOffers (calls : List Registration) : Entries (Option Bytes) :=
  Entries.ofFirsts (calls.map fun call => (call.path, call.offer?))

theorem holds_ofRegistrations (digest : Bytes -> String) (calls : List Registration) :
    (ofRegistrations digest calls).Holds digest (firstOffers calls) := by
  induction calls using List.reverseRecOn with
  | nil =>
      exact holds_empty digest
  | append_singleton calls call ih =>
      unfold ofRegistrations firstOffers
      rw [List.foldl_concat, perform_eq, List.map_append, List.map_singleton,
        Entries.ofFirsts_concat]
      exact ih.registerWith call.path call.offer?

theorem keys_firstOffers (calls : List Registration) :
    Entries.keys (firstOffers calls) = (calls.map Registration.path).eraseDups := by
  unfold firstOffers
  rw [Entries.keys_ofFirsts, Entries.keys, List.map_map]
  rfl

theorem get?_firstOffers (calls : List Registration) (path : String) :
    Entries.get? (firstOffers calls) path =
      (firstRegistration? calls path).map Registration.offer? := by
  unfold firstOffers firstRegistration?
  rw [Entries.get?_ofFirsts, Entries.get?, List.find?_map, Option.map_map]
  rfl

theorem filterMap_firstOffers (calls : List Registration) :
    (firstOffers calls).filterMap Prod.snd = firstContents calls := by
  have hnodup : (Entries.keys (firstOffers calls)).Nodup := Entries.nodup_keys_ofFirsts _
  rw [Entries.eq_of_keys hnodup, List.filterMap_filterMap, keys_firstOffers]
  unfold firstContents
  apply congrArg (fun f => List.filterMap f _)
  funext path
  rw [get?_firstOffers]
  cases firstRegistration? calls path <;> rfl

/-!
# What a registry tells
-/

theorem paths_eq_map {r : Registry} (h : r.pathList.Nodup) :
    r.paths = r.pathList.map fun path => (path, r.digestOf? path) := by
  have hsome : forall path, path ∈ r.pathList ->
      ((Entries.get? r.paths path).map fun digest? => (path, digest?)) =
        some (path, r.digestOf? path) := by
    intro path hpath
    rcases Option.isSome_iff_exists.mp (Entries.isSome_get?_iff.mpr hpath) with
      ⟨digest?, hdigest⟩
    unfold digestOf?
    rw [hdigest]
    rfl
  calc
    r.paths = r.pathList.filterMap fun path =>
        (Entries.get? r.paths path).map fun digest? => (path, digest?) := Entries.eq_of_keys h
    _ = r.pathList.filterMap fun path => some (path, r.digestOf? path) :=
      List.filterMap_congr hsome
    _ = r.pathList.map fun path => (path, r.digestOf? path) :=
      congrFun List.filterMap_eq_map _

section OfRegistrations

variable (digest : Bytes -> String) (calls : List Registration)

theorem pathList_ofRegistrations :
    (ofRegistrations digest calls).pathList =
      (calls.map Registration.path).eraseDups := by
  rw [(holds_ofRegistrations digest calls).pathList_eq, keys_firstOffers]

theorem nodup_pathList_ofRegistrations : (ofRegistrations digest calls).pathList.Nodup := by
  rw [pathList_ofRegistrations]
  exact Entries.nodup_eraseDups _

theorem digestOf?_ofRegistrations (path : String) :
    (ofRegistrations digest calls).digestOf? path =
      ((firstRegistration? calls path).bind Registration.offer?).map digest := by
  rw [(holds_ofRegistrations digest calls).digestOf?_eq, get?_firstOffers]
  cases firstRegistration? calls path <;> rfl

theorem contents_ofRegistrations :
    (ofRegistrations digest calls).contents =
      Entries.ofFirsts (digested digest (firstContents calls)) := by
  rw [(holds_ofRegistrations digest calls).contents_eq, filterMap_firstOffers]

theorem contentOf?_ofRegistrations (d : String) :
    (ofRegistrations digest calls).contentOf? d =
      (firstContents calls).find? fun bytes => digest bytes == d := by
  unfold contentOf?
  rw [contents_ofRegistrations, Entries.get?_ofFirsts, get?_digested]

theorem filterMap_digestOf?_ofRegistrations :
    (ofRegistrations digest calls).pathList.filterMap
        (ofRegistrations digest calls).digestOf? =
      (firstContents calls).map digest := by
  unfold firstContents
  rw [pathList_ofRegistrations, List.map_filterMap]
  apply congrArg (fun f => List.filterMap f _)
  funext path
  exact digestOf?_ofRegistrations digest calls path

theorem keys_contents_ofRegistrations :
    Entries.keys (ofRegistrations digest calls).contents =
      ((ofRegistrations digest calls).pathList.filterMap
        (ofRegistrations digest calls).digestOf?).eraseDups := by
  rw [contents_ofRegistrations, Entries.keys_ofFirsts, filterMap_digestOf?_ofRegistrations,
    Entries.keys, digested, List.map_map]
  rfl

theorem mem_keys_contents_iff (d : String) :
    d ∈ Entries.keys (ofRegistrations digest calls).contents <->
      exists path, path ∈ (ofRegistrations digest calls).pathList ∧
        (ofRegistrations digest calls).digestOf? path = some d := by
  rw [keys_contents_ofRegistrations, List.mem_eraseDups, List.mem_filterMap]

theorem digest_eq_of_contentOf? {d : String} {bytes : Bytes}
    (h : (ofRegistrations digest calls).contentOf? d = some bytes) : digest bytes = d := by
  rw [contentOf?_ofRegistrations] at h
  have hdigest := List.find?_some h
  exact beq_iff_eq.mp hdigest

end OfRegistrations

/-- Whether all that a registry tells agrees: about each path what its first registration
settles, and under each digest of a path the first content with that digest. -/
structure Agrees (digest : Bytes -> String) (calls : List Registration) (r : Registry) :
    Prop where
  pathList : r.pathList = (calls.map Registration.path).eraseDups
  digestOf? : forall path, r.digestOf? path =
    ((firstRegistration? calls path).bind Registration.offer?).map digest
  contentOf? : forall d, r.contentOf? d =
    (firstContents calls).find? fun bytes => digest bytes == d
  /-- Contents are kept under the digests of the paths and no others, each under one. -/
  keyed : forall d, d ∈ Entries.keys r.contents <->
    exists path, path ∈ r.pathList ∧ r.digestOf? path = some d
  nodup : (Entries.keys r.contents).Nodup
  digest_content : forall d bytes, r.contentOf? d = some bytes -> digest bytes = d
  uniqueContents : r.uniqueContents = (r.pathList.filterMap r.digestOf?).eraseDups.length
  unreadable : r.unreadable = r.pathList.filter fun path => (r.digestOf? path).isNone
  records : r.records = r.pathList.map fun path =>
    ⟨path, r.digestOf? path, (r.digestOf? path).bind r.contentOf?⟩
  content_record : forall record, record ∈ r.records -> forall d, record.digest = some d ->
    exists bytes, record.content = some bytes ∧ digest bytes = d

/-- After any registrations all that the registry tells agrees, however digests are made. -/
theorem agrees_ofRegistrations (digest : Bytes -> String) (calls : List Registration) :
    (ofRegistrations digest calls).Agrees digest calls := by
  have hpaths := paths_eq_map (nodup_pathList_ofRegistrations digest calls)
  have hrecords : (ofRegistrations digest calls).records =
      (ofRegistrations digest calls).pathList.map fun path =>
        ⟨path, (ofRegistrations digest calls).digestOf? path,
          ((ofRegistrations digest calls).digestOf? path).bind
            (ofRegistrations digest calls).contentOf?⟩ := by
    unfold records
    rw [hpaths, List.map_map]
    rfl
  constructor
  · exact pathList_ofRegistrations digest calls
  · exact digestOf?_ofRegistrations digest calls
  · exact contentOf?_ofRegistrations digest calls
  · exact mem_keys_contents_iff digest calls
  · rw [keys_contents_ofRegistrations]
    exact Entries.nodup_eraseDups _
  · intro d bytes
    exact digest_eq_of_contentOf? digest calls
  · rw [← keys_contents_ofRegistrations]
    exact (List.length_map _).symm
  · unfold unreadable
    rw [hpaths, List.filter_map, List.map_map]
    exact List.map_id'' (fun _ => rfl) _
  · exact hrecords
  · intro record hrecord d hdigest
    rw [hrecords, List.mem_map] at hrecord
    rcases hrecord with ⟨path, hpath, rfl⟩
    have hkey := (mem_keys_contents_iff digest calls d).mpr ⟨path, hpath, hdigest⟩
    rcases Option.isSome_iff_exists.mp (Entries.isSome_get?_iff.mpr hkey) with
      ⟨bytes, hbytes⟩
    refine ⟨bytes, ?_, digest_eq_of_contentOf? digest calls hbytes⟩
    exact (congrArg (fun digest? => Option.bind digest? _) hdigest).trans hbytes

/-- A path is registered without content, then again with some, and two paths have contents with
one digest. -/
example :
    (ofRegistrations (fun bytes => toString bytes.length)
      [.content "a.c" none, .content "b.c" (some [1]), .content "a.c" (some [2]),
        .through "c.c" (.ofFiles [("c.c", [3])])]).records =
      [⟨"a.c", none, none⟩, ⟨"b.c", some "1", some [1]⟩, ⟨"c.c", some "1", some [1]⟩] := by
  decide +kernel

end Registry
end FindingLedger
