import FindingLedger.Ingestor.Session
import FindingLedger.Proofs.Source.CachedReads

/-!
# Frozen views

A reader is asked for lines and for whole files while the files change between its reads. All
that it answers about a path is told from what its first read of that path found there, so its
answers about a path never disagree, and it has kept as many paths as it was asked for.
-/

namespace FindingLedger

/-!
# Readers in use
-/

/-- What is asked of a reader, and what is done to the files meanwhile. -/
inductive ReadRequest where
  | change (edit : FileChange)
  | replace (v : Volume)
  | line (path : String) (number : Nat)
  | bytes (path : String)
  | size

inductive ReadReply where
  | changed (success : Bool)
  | line (text : Option String)
  | bytes (content : Option Bytes)
  | size (count : Nat)
  deriving DecidableEq, Repr

structure ReadSession where
  volume : Volume
  reader : CachedReader

namespace ReadSession

def start (v : Volume) (root : Option Path) : ReadSession :=
  ⟨v, .start root⟩

def step (s : ReadSession) : ReadRequest -> ReadSession × ReadReply
  | .change edit =>
      let (volume, success) := edit.apply s.volume
      ({ s with volume }, .changed success)
  | .replace volume => ({ s with volume }, .changed true)
  | .line path number =>
      let (text, reader) := s.reader.readLine s.volume path number
      ({ s with reader }, .line text)
  | .bytes path =>
      let (content, reader) := s.reader.readBytes s.volume path
      ({ s with reader }, .bytes content)
  | .size => (s, .size s.reader.size)

/-- The session that requests leave. -/
def after (s : ReadSession) (requests : List ReadRequest) : ReadSession :=
  requests.foldl (fun s request => (s.step request).1) s

def replies (s : ReadSession) : List ReadRequest -> List ReadReply
  | [] => []
  | request :: rest => (s.step request).2 :: replies (s.step request).1 rest

theorem after_concat (s : ReadSession) (requests : List ReadRequest) (request : ReadRequest) :
    s.after (requests ++ [request]) = ((s.after requests).step request).1 := by
  unfold after
  rw [List.foldl_append]
  rfl

theorem getElem?_replies (s : ReadSession) (requests : List ReadRequest) (place : Nat) :
    (s.replies requests)[place]? =
      requests[place]?.map fun request => ((s.after (requests.take place)).step request).2 := by
  induction requests generalizing s place with
  | nil =>
      rfl
  | cons request rest ih =>
      cases place with
      | zero =>
          rfl
      | succ place =>
          exact ih (s.step request).1 place

end ReadSession

namespace ReadRequest

def path? : ReadRequest -> Option String
  | line path _ => some path
  | bytes path => some path
  | _ => none

def volume (v : Volume) : ReadRequest -> Volume
  | change edit => (edit.apply v).1
  | replace w => w
  | _ => v

/-- The paths that requests read, in the order of the reads. -/
def paths (requests : List ReadRequest) : List String :=
  requests.filterMap path?

theorem mem_paths_iff {requests : List ReadRequest} {path : String} :
    path ∈ paths requests <-> exists request, request ∈ requests ∧ request.path? = some path :=
  List.mem_filterMap

theorem paths_concat (requests : List ReadRequest) (request : ReadRequest) :
    paths (requests ++ [request]) = paths requests ++ request.path?.toList := by
  unfold paths
  rw [List.filterMap_append]
  cases h : request.path? <;> simp [h]

end ReadRequest

/-!
# First reads
-/

namespace Volume

/-- What a volume holds under a path, if it can be read. -/
def content? (v : Volume) (root : Option Path) (path : String) : Option Bytes :=
  (v.readBytes (Path.resolve root path)).toOption

def afterReads (v : Volume) (requests : List ReadRequest) : Volume :=
  requests.foldl ReadRequest.volume v

theorem sourceFile?_resolve (v : Volume) (root : Option Path) (path : String) :
    v.sourceFile? (Path.resolve root path) = (v.content? root path).map Source.File.ofBytes :=
  rfl

end Volume

/-- Whether this is what the first read of a path among requests found there: the bytes of a
file, or none. -/
def FirstFound (v : Volume) (root : Option Path) (requests : List ReadRequest)
    (path : String) (content? : Option Bytes) : Prop :=
  exists before request later, requests = before ++ request :: later ∧
    request.path? = some path ∧ path ∉ ReadRequest.paths before ∧
    content? = (v.afterReads before).content? root path

section FirstFound

variable {v : Volume} {root : Option Path} {requests : List ReadRequest} {path : String}
  {content? : Option Bytes}

theorem FirstFound.mem_paths (h : FirstFound v root requests path content?) :
    path ∈ ReadRequest.paths requests := by
  rcases h with ⟨before, request, later, rfl, hpath, _⟩
  apply ReadRequest.mem_paths_iff.mpr
  exact ⟨request, List.mem_append_right _ List.mem_cons_self, hpath⟩

theorem firstFound_concat_iff {request : ReadRequest} :
    FirstFound v root (requests ++ [request]) path content? <->
      FirstFound v root requests path content? ∨
        (request.path? = some path ∧ path ∉ ReadRequest.paths requests ∧
          content? = (v.afterReads requests).content? root path) := by
  constructor
  · rintro ⟨before, first, later, hsplit, hread⟩
    rcases List.eq_nil_or_concat later with rfl | ⟨middle, last, rfl⟩
    · rcases List.append_inj' hsplit rfl with ⟨rfl, hrequest⟩
      cases hrequest
      exact Or.inr hread
    · rw [List.concat_eq_append, ← List.cons_append, ← List.append_assoc] at hsplit
      exact Or.inl ⟨before, first, middle, (List.append_inj' hsplit rfl).1, hread⟩
  · rintro (⟨before, first, later, rfl, hread⟩ | hread)
    · exists before, first, later ++ [request]
      rw [List.append_assoc, List.cons_append]
      exact ⟨rfl, hread⟩
    · exact ⟨requests, request, [], rfl, hread⟩

theorem firstFound_append_iff {later : List ReadRequest}
    (h : path ∈ ReadRequest.paths requests) :
    FirstFound v root (requests ++ later) path content? <->
      FirstFound v root requests path content? := by
  induction later using List.reverseRecOn with
  | nil =>
      rw [List.append_nil]
  | append_singleton later request ih =>
      have hread : path ∈ ReadRequest.paths (requests ++ later) := by
        rcases ReadRequest.mem_paths_iff.mp h with ⟨first, hfirst, hpath⟩
        exact ReadRequest.mem_paths_iff.mpr ⟨first, List.mem_append_left _ hfirst, hpath⟩
      rw [← List.append_assoc, firstFound_concat_iff, ih, or_iff_left]
      intro hnew
      exact hnew.2.1 hread

theorem existsUnique_firstFound (h : path ∈ ReadRequest.paths requests) :
    ∃! content?, FirstFound v root requests path content? := by
  induction requests using List.reverseRecOn with
  | nil =>
      cases h
  | append_singleton requests request ih =>
      simp only [firstFound_concat_iff]
      by_cases hread : path ∈ ReadRequest.paths requests
      · simpa [hread] using ih hread
      · have hpath : request.path? = some path := by
          rw [ReadRequest.paths_concat, List.mem_append, Option.mem_toList] at h
          exact h.resolve_left hread
        have hnone : forall content?, ¬ FirstFound v root requests path content? :=
          fun content? hfound => hread hfound.mem_paths
        simp [hnone, hpath, hread]

end FirstFound

/-!
# Steps
-/

namespace CachedReader

theorem cache_look (r : CachedReader) (v : Volume) (path : String) :
    (r.look v path).2.cache =
      Entries.putNew r.cache path (v.sourceFile? (Path.resolve r.root path)) := by
  unfold Entries.putNew
  cases h : Entries.get? r.cache path with
  | some found =>
      have hhas : Entries.has r.cache path = true := by
        rw [Entries.has_iff_mem_keys, ← Entries.isSome_get?_iff, h]
        rfl
      rw [look_of_cached h, if_pos hhas]
  | none =>
      have hnew : ¬ Entries.has r.cache path = true := by
        rw [Entries.has_iff_mem_keys]
        exact Entries.get?_eq_none_iff.mp h
      rw [look_of_not_cached h, if_neg hnew]

end CachedReader

namespace ReadSession

/-- Whether a session keeps what the first read of each path found, and each path once. -/
structure Freezes (v : Volume) (root : Option Path) (requests : List ReadRequest)
    (s : ReadSession) : Prop where
  volume_eq : s.volume = v.afterReads requests
  root_eq : s.reader.root = root
  keys : Entries.keys s.reader.cache = (ReadRequest.paths requests).eraseDups
  found : forall path content?, FirstFound v root requests path content? ->
    Entries.get? s.reader.cache path = some (content?.map Source.File.ofBytes)

section Freezes

variable {v : Volume} {root : Option Path} {requests : List ReadRequest} {s : ReadSession}

theorem volume_step (s : ReadSession) (request : ReadRequest) :
    (s.step request).1.volume = request.volume s.volume := by
  cases request <;> rfl

theorem reply_step_line (s : ReadSession) (path : String) (number : Nat) :
    (s.step (.line path number)).2 =
      .line ((s.reader.look s.volume path).1.bind fun f => f.line? number) :=
  rfl

theorem reply_step_bytes (s : ReadSession) (path : String) :
    (s.step (.bytes path)).2 =
      .bytes ((s.reader.look s.volume path).1.map Source.File.bytes) :=
  rfl

theorem reader_step_of_path?_eq_none {request : ReadRequest} (h : request.path? = none) :
    (s.step request).1.reader = s.reader := by
  cases request with
  | line path number => cases h
  | bytes path => cases h
  | _ => rfl

theorem reader_step_of_path?_eq_some {request : ReadRequest} {path : String}
    (h : request.path? = some path) :
    (s.step request).1.reader = (s.reader.look s.volume path).2 := by
  cases request with
  | line path number =>
      cases h
      rfl
  | bytes path =>
      cases h
      rfl
  | _ => cases h

theorem freezes_start (v : Volume) (root : Option Path) :
    (start v root).Freezes v root [] where
  volume_eq := rfl
  root_eq := rfl
  keys := rfl
  found := by
    intro path content? h
    cases h.mem_paths

theorem Freezes.step (h : s.Freezes v root requests) (request : ReadRequest) :
    (s.step request).1.Freezes v root (requests ++ [request]) := by
  have hvolume : (s.step request).1.volume = v.afterReads (requests ++ [request]) := by
    rw [volume_step, h.volume_eq]
    unfold Volume.afterReads
    rw [List.foldl_append]
    rfl
  cases hpath : request.path? with
  | none =>
      have hreader := reader_step_of_path?_eq_none (s := s) hpath
      constructor
      · exact hvolume
      · rw [hreader, h.root_eq]
      · rw [hreader, h.keys, ReadRequest.paths_concat, hpath, Option.toList_none,
          List.append_nil]
      · intro path content? hfound
        rw [firstFound_concat_iff, hpath] at hfound
        rw [hreader]
        apply h.found
        rcases hfound with hfound | ⟨hread, _⟩
        · exact hfound
        · cases hread
  | some path =>
      have hreader := reader_step_of_path?_eq_some (s := s) hpath
      constructor
      · exact hvolume
      · rw [hreader, CachedReader.root_look, h.root_eq]
      · rw [hreader, CachedReader.cache_look, Entries.keys_putNew, h.keys,
          ReadRequest.paths_concat, hpath, Option.toList_some, Entries.eraseDups_concat]
        simp only [List.mem_eraseDups]
      · -- A path that was read before stays as it was found then.
        intro other content? hfound
        rw [hreader, CachedReader.cache_look, Entries.get?_putNew, h.root_eq, h.volume_eq]
        rcases firstFound_concat_iff.mp hfound with hearlier | ⟨hread, hnew, hcontent⟩
        · rw [h.found other content? hearlier, Option.some_or]
        · rw [hpath] at hread
          cases hread
          have hnone : Entries.get? s.reader.cache path = none := by
            rw [Entries.get?_eq_none_iff, h.keys, List.mem_eraseDups]
            exact hnew
          rw [hnone, Option.none_or, if_pos rfl, Volume.sourceFile?_resolve, hcontent]

theorem freezes_after (v : Volume) (root : Option Path) (requests : List ReadRequest) :
    ((start v root).after requests).Freezes v root requests := by
  induction requests using List.reverseRecOn with
  | nil =>
      exact freezes_start v root
  | append_singleton requests request ih =>
      rw [after_concat]
      exact ih.step request

theorem Freezes.look_eq (h : s.Freezes v root requests) {request : ReadRequest}
    {path : String} {content? : Option Bytes} (hpath : request.path? = some path)
    (hfound : FirstFound v root (requests ++ [request]) path content?) :
    (s.reader.look s.volume path).1 = content?.map Source.File.ofBytes := by
  have hkept := (h.step request).found path content? hfound
  rw [reader_step_of_path?_eq_some hpath, CachedReader.get?_cache_look] at hkept
  exact Option.some.inj hkept

end Freezes

/-!
# Runs
-/

section Replies

variable (v : Volume) (root : Option Path) {requests : List ReadRequest} {place : Nat}
  {path : String}

theorem look_eq_of_firstFound {request : ReadRequest} {content? : Option Bytes}
    (hrequest : requests[place]? = some request) (hpath : request.path? = some path)
    (hfound : FirstFound v root requests path content?) :
    (((start v root).after (requests.take place)).reader.look
      ((start v root).after (requests.take place)).volume path).1 =
        content?.map Source.File.ofBytes := by
  apply (freezes_after v root (requests.take place)).look_eq hpath
  have htake : requests.take place ++ [request] = requests.take (place + 1) := by
    rw [List.take_add_one, hrequest]
    rfl
  have hread : path ∈ ReadRequest.paths (requests.take place ++ [request]) := by
    rw [ReadRequest.paths_concat, hpath]
    exact List.mem_append_right _ List.mem_cons_self
  rw [← firstFound_append_iff hread, htake, List.take_append_drop]
  exact hfound

theorem reply_line {number : Nat} {content? : Option Bytes}
    (hrequest : requests[place]? = some (.line path number))
    (hfound : FirstFound v root requests path content?) :
    ((start v root).replies requests)[place]? = some (.line (content?.bind fun bytes =>
      (Source.File.ofBytes bytes).line? number)) := by
  rw [getElem?_replies, hrequest, Option.map_some, reply_step_line,
    look_eq_of_firstFound v root hrequest rfl hfound, Option.bind_map]
  rfl

theorem reply_bytes {content? : Option Bytes}
    (hrequest : requests[place]? = some (.bytes path))
    (hfound : FirstFound v root requests path content?) :
    ((start v root).replies requests)[place]? = some (.bytes content?) := by
  have hbytes : Source.File.bytes ∘ Source.File.ofBytes = id := rfl
  rw [getElem?_replies, hrequest, Option.map_some, reply_step_bytes,
    look_eq_of_firstFound v root hrequest rfl hfound, Option.map_map, hbytes, Option.map_id_apply]

theorem reply_size (hrequest : requests[place]? = some .size) :
    ((start v root).replies requests)[place]? =
      some (.size (ReadRequest.paths (requests.take place)).eraseDups.length) := by
  have hkeys := (freezes_after v root (requests.take place)).keys
  rw [getElem?_replies, hrequest, ← hkeys]
  unfold Entries.keys
  rw [List.length_map]
  rfl

end Replies

/-- Whatever is done to the files between its reads, a reader answers about each path from what
its first read of the path found, so that its lines of a file are those of the bytes that it
gives, and it has kept each path that was read, whether a file was found there or not. -/
theorem replies_of_firstFound (v : Volume) (root : Option Path)
    (requests : List ReadRequest) :
    (forall path, path ∈ ReadRequest.paths requests ->
      ∃! content?, FirstFound v root requests path content?) ∧
    (forall path content?, FirstFound v root requests path content? -> forall place : Nat,
      (forall number, requests[place]? = some (.line path number) ->
        ((start v root).replies requests)[place]? =
          some (.line (content?.bind fun bytes =>
            (Source.File.ofBytes bytes).line? number))) ∧
      (requests[place]? = some (.bytes path) ->
        ((start v root).replies requests)[place]? = some (.bytes content?))) ∧
    (forall path number (place other : Nat), requests[place]? = some (.line path number) ->
      requests[other]? = some (.bytes path) ->
      exists content?,
        ((start v root).replies requests)[place]? =
          some (.line (content?.bind fun bytes =>
            (Source.File.ofBytes bytes).line? number)) ∧
        ((start v root).replies requests)[other]? = some (.bytes content?)) ∧
    (forall place : Nat, requests[place]? = some .size ->
      ((start v root).replies requests)[place]? =
        some (.size (ReadRequest.paths (requests.take place)).eraseDups.length)) := by
  refine ⟨fun path => existsUnique_firstFound, ?_, ?_, fun place => reply_size v root⟩
  · intro path content? hfound place
    constructor
    · intro number hrequest
      exact reply_line v root hrequest hfound
    · intro hrequest
      exact reply_bytes v root hrequest hfound
  · intro path number place other hline hbytes
    have hread : path ∈ ReadRequest.paths requests := by
      apply ReadRequest.mem_paths_iff.mpr
      exact ⟨.bytes path, List.mem_of_getElem? hbytes, rfl⟩
    rcases (existsUnique_firstFound hread).exists with ⟨content?, hfound⟩
    exact ⟨content?, reply_line v root hline hfound, reply_bytes v root hbytes hfound⟩

/-- A file is looked for before it is written, and another one, which is not below the folder
that relative paths start from, is removed between its reads. -/
def untimelyRequests : List ReadRequest :=
  [.bytes "a.c", .change (.write (.ofText "/src/a.c") [0x78]), .line "a.c" 1,
    .change (.write (.ofText "/b.c") [0x79, 0x0A]), .line "/b.c" 1,
    .change (.remove (.ofText "/b.c")), .bytes "/b.c", .size]

def sourceFolder : Option Path :=
  some (.ofText "/src")

theorem replies_of_firstFound_untimelyRequests :
    FirstFound .empty sourceFolder untimelyRequests "a.c" none ∧
      FirstFound .empty sourceFolder untimelyRequests "/b.c" (some [0x79, 0x0A]) ∧
      ((start .empty sourceFolder).replies untimelyRequests)[2]? = some (.line none) ∧
      ((start .empty sourceFolder).replies untimelyRequests)[4]? = some (.line (some "y")) ∧
      ((start .empty sourceFolder).replies untimelyRequests)[6]? =
        some (.bytes (some [0x79, 0x0A])) ∧
      ((start .empty sourceFolder).replies untimelyRequests)[7]? = some (.size 2) := by
  have hmissing : FirstFound .empty sourceFolder untimelyRequests "a.c" none := by
    refine ⟨[], .bytes "a.c", untimelyRequests.drop 1, rfl, rfl, List.not_mem_nil, ?_⟩
    decide +kernel
  have hfound : FirstFound .empty sourceFolder untimelyRequests "/b.c" (some [0x79, 0x0A]) := by
    refine ⟨untimelyRequests.take 4, .line "/b.c" 1, untimelyRequests.drop 5, rfl, rfl, ?_, ?_⟩
    · decide
    · decide +kernel
  have hline : (Source.File.ofBytes [0x79, 0x0A]).line? 1 = some "y" := by
    decide +kernel
  rcases replies_of_firstFound .empty sourceFolder untimelyRequests with ⟨_, hreplies, _, hsize⟩
  refine ⟨hmissing, hfound, (hreplies _ _ hmissing 2).1 1 rfl, ?_,
    (hreplies _ _ hfound 6).2 rfl, hsize 7 rfl⟩
  rw [(hreplies _ _ hfound 4).1 1 rfl, Option.bind_some, hline]

end ReadSession
end FindingLedger
