import BuildHost.Proofs.Metadata.Cache

/-!
# Sessions of metadata requests

A build is asked for metadata and for specifiers, in any order, while the file
system may change.  What is kept of a metadata file after a session is what was
kept before it, or else what the first request that had an answer gave
(`lookup_afterEvents`).  When the file system stays as it is, every entry that
is kept is what the metadata file holds for the one declaration file that it
belongs to (`isFaithful_afterEvents`), so that nobody can tell that anything is
kept.
-/

namespace BuildHost
namespace Build

open OrderedMap

/-- What happens to a build in a session. -/
inductive Event where
  /-- A query about specifiers. -/
  | query (query : SpecifierQuery)
  /-- A request for the records of a metadata file. -/
  | reading (p declarationFile : Path)
  /-- A request for the records that describe a file. -/
  | description (p : Path)
  /-- The file system becomes another one. -/
  | change (fs : FileSystem)

variable (build : Build) (state : State)

def afterEvent : Event → State
  | .query query => build.afterQuery state query
  | .reading p declarationFile =>
    ((build.readMetadata p declarationFile).run state).2
  | .description p => ((build.metadataOf p).run state).2
  | .change fs => { state with files := { state.files with fs } }

def afterEvents (events : List Event) : State :=
  events.foldl build.afterEvent state

/-- The records that an event gives for a metadata file, when it gives any. -/
def given? (p : Path) : Event → Option (List MetadataRecord)
  | .reading q declarationFile =>
    if q = p then ((build.readMetadata q declarationFile).run state).1.toOption
    else none
  | .description q =>
    if build.describedBy? state.files q = some p then
      ((build.metadataOf q).run state).1.toOption.join
    else none
  | .query _ | .change _ => none

/-- The records that the first event with an answer gives for a metadata
file. -/
def firstGiven? (p : Path) : State → List Event → Option (List MetadataRecord)
  | _, [] => none
  | state, event :: rest =>
    (build.given? state p event).or
      (firstGiven? p (build.afterEvent state event) rest)

/-! ## What is kept -/

theorem toOption_map_some {α : Type} (result : Except HostError α) :
    (result.map some).toOption.join = result.toOption := by
  cases result with
  | error fault => rfl
  | ok value => rfl

theorem cache_afterQuery (query : SpecifierQuery) :
    (build.afterQuery state query).cache = state.cache := by
  cases query with
  | specifier imported containing => rfl
  | target specifier containing =>
      show ((build.resolve specifier containing).run state).2.cache
        = state.cache
      rw [run_resolve]
      cases build.layout.resolve build.resolver state.files specifier
        containing with
      | error fault => rfl
      | ok resolution => rfl

/-- One event: what is kept stays, and a first answer is kept. -/
theorem lookup_afterEvent (p : Path) (event : Event) :
    (build.afterEvent state event).cache.lookup p
      = (state.cache.lookup p).or (build.given? state p event) := by
  cases event with
  | query query =>
      show (build.afterQuery state query).cache.lookup p
        = (state.cache.lookup p).or none
      rw [cache_afterQuery, Option.or_none]
  | reading q declarationFile =>
      exact build.lookup_readMetadata p q declarationFile state
  | description q =>
      show ((build.metadataOf q).run state).2.cache.lookup p
        = (state.cache.lookup p).or (if build.describedBy? state.files q
          = some p then
          ((build.metadataOf q).run state).1.toOption.join else none)
      cases hfile : build.describedBy? state.files q with
      | none =>
          rcases build.run_metadataOf hfile with ⟨after, hafter, hrun⟩
          rw [hrun, hafter.cache_eq, if_neg (by simp), Option.or_none]
      | some metadataFile =>
          have hkept := build.lookup_readMetadata p metadataFile q state
          rw [run_metadataOf_of_describedBy? hfile]
          dsimp only
          rw [hkept]
          by_cases hname : metadataFile = p
          · rw [if_pos hname, if_pos (congrArg some hname), toOption_map_some]
          · rw [if_neg hname, if_neg (fun heq => hname (Option.some.inj heq))]
  | change fs => exact (Option.or_none).symm

/-- A session: what is kept stays, and the first answer is kept. -/
theorem lookup_afterEvents (p : Path) (events : List Event) :
    (build.afterEvents state events).cache.lookup p
      = (state.cache.lookup p).or (build.firstGiven? p state events) := by
  induction events generalizing state with
  | nil => exact (Option.or_none).symm
  | cons event rest ih =>
      show (build.afterEvents (build.afterEvent state event)
        rest).cache.lookup p = _
      rw [ih, lookup_afterEvent, Option.or_assoc]
      rfl

theorem lookup_of_readMetadata_eq_ok {p declarationFile : Path}
    {records : List MetadataRecord} {state after : State}
    (h : (build.readMetadata p declarationFile).run state
      = (.ok records, after)) :
    after.cache.lookup p = some records := by
  have hkept := build.lookup_readMetadata p p declarationFile state
  cases hbefore : state.cache.lookup p with
  | some kept =>
      rw [run_readMetadata_of_lookup declarationFile hbefore] at h
      cases h
      exact hbefore
  | none =>
      rw [h, hbefore, if_pos rfl] at hkept
      exact hkept

/-! ## Faults -/

theorem cache_of_readMetadata_eq_error {p declarationFile : Path}
    {fault : HostError} {state after : State}
    (h : (build.readMetadata p declarationFile).run state
      = (.error fault, after)) :
    after.cache = state.cache := by
  have hcache := build.cache_readMetadata p declarationFile state
  rw [h] at hcache
  cases hkept : state.cache.lookup p with
  | some records =>
      rw [hkept] at hcache
      exact hcache
  | none =>
      rw [hkept] at hcache
      exact hcache

theorem lookup_of_readMetadata_eq_error {p declarationFile : Path}
    {fault : HostError} {state after : State}
    (h : (build.readMetadata p declarationFile).run state
      = (.error fault, after)) :
    state.cache.lookup p = none := by
  cases hkept : state.cache.lookup p with
  | none => rfl
  | some records =>
      rw [run_readMetadata_of_lookup declarationFile hkept] at h
      cases h

theorem cache_of_metadataOf_eq_error {p : Path} {fault : HostError}
    {state after : State}
    (h : (build.metadataOf p).run state = (.error fault, after)) :
    after.cache = state.cache := by
  cases hfile : build.describedBy? state.files p with
  | none =>
      rcases build.run_metadataOf hfile with ⟨reached, hreached, hrun⟩
      obtain rfl : reached = after := (Prod.mk.inj (hrun.symm.trans h)).2
      exact hreached.cache_eq
  | some metadataFile =>
      rw [run_metadataOf_of_describedBy? hfile] at h
      rcases hrun : (build.readMetadata metadataFile p).run state with
        ⟨result, reached⟩
      rw [hrun] at h
      cases result with
      | ok records => cases h
      | error cause =>
          cases h
          exact build.cache_of_readMetadata_eq_error hrun

/-! ## Sessions in which the file system stays as it is -/

/-- Whether the event asks for a description of a file or is a query about
specifiers. -/
def Event.onlyAsks : Event → Bool
  | .query _ | .description _ => true
  | .reading _ _ | .change _ => false

/-- A state that keeps of metadata files what they hold in a file system, for
the declaration files that they belong to. -/
structure IsFaithful (fs : FileSystem) : Prop where
  contents : fs.SameContents state.files.fs
  heldRecords_eq : ∀ p metadataFile records,
    replaceDeclarationSuffix? p metadataExtension = some metadataFile →
    state.cache.lookup metadataFile = some records →
    build.heldRecords fs metadataFile p = .ok records

theorem isFaithful_of_cache_eq {fs : FileSystem} {state after : State}
    (h : build.IsFaithful state fs)
    (hcontents : state.files.fs.SameContents after.files.fs)
    (hcache : after.cache = state.cache) : build.IsFaithful after fs := by
  refine ⟨h.contents.trans hcontents, ?_⟩
  rw [hcache]
  exact h.heldRecords_eq

/-- What is read of a metadata file is kept for its declaration file. -/
theorem isFaithful_readMetadata {fs : FileSystem}
    {declarationFile metadataFile : Path}
    (hfile : replaceDeclarationSuffix? declarationFile metadataExtension
      = some metadataFile)
    (h : build.IsFaithful state fs) :
    build.IsFaithful
      ((build.readMetadata metadataFile declarationFile).run state).2 fs := by
  cases hkept : state.cache.lookup metadataFile with
  | some records =>
      rw [run_readMetadata_of_lookup declarationFile hkept]
      exact h
  | none =>
      rcases build.run_readMetadata declarationFile hkept with
        ⟨after, hafter, hrun⟩
      have hcontents :=
        (state.onlyReads_afterReading metadataFile).sameContents.trans
          hafter.sameContents
      rw [hrun]
      cases hheld : build.heldRecords state.files.fs metadataFile
        declarationFile with
      | error fault =>
          exact build.isFaithful_of_cache_eq h hcontents hafter.cache_eq
      | ok records =>
          refine ⟨h.contents.trans hcontents, ?_⟩
          intro p other found hp hfound
          dsimp only at hfound
          rw [lookup_cons] at hfound
          by_cases hname : other = metadataFile
          · subst hname
            rw [if_pos rfl] at hfound
            cases hfound
            rw [replaceDeclarationSuffix?_inj hp hfile,
              ← heldRecords_congr h.contents]
            exact hheld
          · rw [if_neg hname] at hfound
            exact h.heldRecords_eq p other found hp hfound

theorem isFaithful_afterEvent {fs : FileSystem} {event : Event}
    (hasks : event.onlyAsks = true) (h : build.IsFaithful state fs) :
    build.IsFaithful (build.afterEvent state event) fs := by
  cases event with
  | reading q declarationFile => cases hasks
  | change other => cases hasks
  | query query =>
      exact build.isFaithful_of_cache_eq h
        (build.grows_afterQuery state query).contents
        (build.cache_afterQuery state query)
  | description q =>
      show build.IsFaithful ((build.metadataOf q).run state).2 fs
      cases hfile : build.describedBy? state.files q with
      | none =>
          rcases build.run_metadataOf hfile with ⟨after, hafter, hrun⟩
          rw [hrun]
          exact build.isFaithful_of_cache_eq h hafter.sameContents
            hafter.cache_eq
      | some metadataFile =>
          have hreplaced := (isDeclarationFile_of_metadataFileOf?
            (metadataFileOf?_of_describedBy? hfile)).1
          rw [run_metadataOf_of_describedBy? hfile]
          exact build.isFaithful_readMetadata state hreplaced h

theorem isFaithful_afterEvents {fs : FileSystem} {events : List Event}
    (hasks : ∀ event ∈ events, event.onlyAsks = true)
    (h : build.IsFaithful state fs) :
    build.IsFaithful (build.afterEvents state events) fs := by
  induction events generalizing state with
  | nil => exact h
  | cons event rest ih =>
      have hevent := build.isFaithful_afterEvent state
        (hasks event List.mem_cons_self) h
      exact ih _
        (fun other hother => hasks other (List.mem_cons_of_mem event hother))
          hevent

/-- Nobody can tell a state that keeps what the metadata files hold from one
that keeps nothing. -/
theorem answer_metadataOf_of_isFaithful {fs : FileSystem}
    (h : build.IsFaithful state fs) (p : Path) :
    ((build.metadataOf p).run state).1
      = build.heldDescription ⟨fs, state.files.planned⟩ p := by
  rw [answer_metadataOf, keptDescription_eq_heldDescription]
  · exact heldDescription_congr h.contents state.files.planned p
  · intro metadataFile records hfile hkept
    have hreplaced := (isDeclarationFile_of_metadataFileOf?
      (metadataFileOf?_of_describedBy? hfile)).1
    rw [heldRecords_congr h.contents]
    exact h.heldRecords_eq p metadataFile records hreplaced hkept

theorem isFaithful_of_nil {state : State} (h : state.cache = []) :
    build.IsFaithful state state.files.fs := by
  refine ⟨.refl _, ?_⟩
  intro p metadataFile records _ hkept
  rw [h] at hkept
  cases hkept

/-- A state in which nothing is kept yet. -/
def State.fresh (files : KnownFiles) : State where
  files := files
  cache := []
  log := []

/-- The first answer that a request for a metadata file has is the answer to all
later ones, whatever happens in between, and the file is not read again.  A
request that fails keeps nothing, so that the file is read again until there is
an answer.  As long as the file system stays as it is, descriptions are those
that a state gives that keeps nothing. -/
theorem readMetadata_keeps_first_answer (build : Build) (state : State) :
    (∀ p declarationFile records after,
      (build.readMetadata p declarationFile).run state = (.ok records, after) →
      ∀ events other,
        (build.readMetadata p other).run (build.afterEvents after events)
          = (.ok records, build.afterEvents after events)) ∧
    (∀ p declarationFile fault after,
      (build.readMetadata p declarationFile).run state = (.error fault, after) →
      after.cache = state.cache ∧
      ∀ events, build.firstGiven? p after events = none → ∀ other,
        let later := build.afterEvents after events
        ((build.readMetadata p other).run later).1
            = build.heldRecords later.files.fs p other ∧
          ∃ paths, ((build.readMetadata p other).run later).2.files
            = later.files.countReads (p :: paths)) ∧
    (∀ p fault after, (build.metadataOf p).run state = (.error fault, after) →
      after.cache = state.cache) ∧
    (state.cache = [] →
      ∀ events, (∀ event ∈ events, event.onlyAsks = true) → ∀ p,
        let later := build.afterEvents state events
        ((build.metadataOf p).run later).1
          = ((build.metadataOf p).run
            (.fresh ⟨state.files.fs, later.files.planned⟩)).1) := by
  refine ⟨?_, ?_, ?_, ?_⟩
  · intro p declarationFile records after hrun events other
    apply run_readMetadata_of_lookup
    rw [lookup_afterEvents, build.lookup_of_readMetadata_eq_ok hrun]
    rfl
  · intro p declarationFile fault after hrun
    have hcache := build.cache_of_readMetadata_eq_error hrun
    refine ⟨hcache, ?_⟩
    intro events hnone other
    apply readMetadata_of_lookup_eq_none
    rw [lookup_afterEvents, hnone, hcache,
      build.lookup_of_readMetadata_eq_error hrun]
    rfl
  · intro p fault after hrun
    exact build.cache_of_metadataOf_eq_error hrun
  · intro hempty events hasks p
    have hlater := build.isFaithful_afterEvents state hasks
      (build.isFaithful_of_nil hempty)
    have hfresh := build.isFaithful_of_nil
      (rfl :
        (State.fresh ⟨state.files.fs,
          (build.afterEvents state events).files.planned⟩).cache = [])
    dsimp only
    rw [build.answer_metadataOf_of_isFaithful _ hlater,
      build.answer_metadataOf_of_isFaithful _ hfresh]
    rfl

/-- A declaration file with a metadata file beside it that holds no records. -/
def emptyRecordsTree : FileSystem :=
  .inMemory
    (((MemoryTree.empty true).addFile "/p/a.d.ts".toList "".toUTF8).addFile
      "/p/a.metadata.json".toList "null".toUTF8)

theorem readMetadata_keeps_first_answer_emptyRecordsTree :
    let build := outsideBuild .empty fun _ => none
    let declarationFile : Path := "/p/a.d.ts".toList
    let metadataFile : Path := "/p/a.metadata.json".toList
    let cleared := Event.change (.inMemory (.empty true))
    let filled := Event.change emptyRecordsTree
    let planned := State.fresh
      ⟨.inMemory ((MemoryTree.empty true).addFile declarationFile "".toUTF8),
        [metadataFile]⟩
    (∃ after,
      (build.readMetadata metadataFile declarationFile).run
            (.start emptyRecordsTree)
          = (.ok [], after) ∧
        (build.readMetadata metadataFile []).run
            (build.afterEvents after [cleared])
          = (.ok [], build.afterEvents after [cleared])) ∧
    (∃ fault after,
      (build.readMetadata metadataFile declarationFile).run
            (.start (.inMemory (.empty true)))
          = (.error fault, after) ∧
        ((build.readMetadata metadataFile []).run
          (build.afterEvents after [filled])).1 = .ok []) ∧
    (∃ fault after,
      (build.metadataOf declarationFile).run planned = (.error fault, after) ∧
        after.cache = []) ∧
    ((build.metadataOf declarationFile).run
        (build.afterEvents (.start emptyRecordsTree)
          [.description declarationFile])).1
      = .ok (some []) := by
  intro build declarationFile metadataFile cleared filled planned
  refine ⟨?_, ?_, ?_, ?_⟩
  · have hrun :=
      (readMetadata_keeps_first_answer build (.start emptyRecordsTree)).1
        metadataFile declarationFile [] _ rfl
    exact ⟨_, rfl, hrun [cleared] []⟩
  · have hrun := (readMetadata_keeps_first_answer build
      (.start (.inMemory (.empty true)))).2.1
      metadataFile declarationFile _ _ rfl
    refine ⟨_, _, rfl, ?_⟩
    exact (hrun.2 [filled] rfl []).1
  · refine ⟨_, _, rfl, ?_⟩
    exact (readMetadata_keeps_first_answer build planned).2.2.1
      declarationFile _ _ rfl
  · have hrun := (readMetadata_keeps_first_answer build
      (.start emptyRecordsTree)).2.2.2 rfl
      [.description declarationFile] (by simp [Event.onlyAsks]) declarationFile
    exact hrun.trans rfl

end Build
end BuildHost
