/-
# StartSignal.Proofs.Worker.HostIds -- which texts list which host ids

A list of host ids can be written as a text in many ways: with blanks around the ids, and with
blank segments between them (`Lists`).  All of them are read as the same list
(`listed_of_lists`), and a text is read as the list that it is a writing of (`lists_listed`),
so that a text and a list belong together exactly when the list is read from the text
(`hostIds_eq_iff`).  Of the writings the ids with bare commas between them are the shortest;
what has been read is written so and read again.

What is read is always a list of host ids: texts that are not empty, have no comma and are
tight (`IsHostId`).  Cutting at commas goes segment by segment, so texts put together with a
comma are read one after the other.

Main result: `hostIds_listing`.
-/
import StartSignal.Proofs.Text.Split
import StartSignal.Proofs.Text.Trim
import StartSignal.Worker

namespace StartSignal

open Text

/-- A text of blanks only, perhaps of none. -/
def Blank (s : String) : Prop := ∀ c ∈ s.toList, isBlank c = true

/-- A text that names a worker as it stands. -/
structure IsHostId (id : String) : Prop where
  some : id ≠ ""
  /-- It has no comma. -/
  whole : ',' ∉ id.toList
  /-- It has no blank at either end. -/
  tight : Tight id.toList

/-- Segments that list ids: each of them is blank and lists none, or it is an id with blanks on
either side. -/
inductive Lists : List String → List String → Prop where
  | nil : Lists [] []
  | blank {segment : String} {segments ids : List String} (blank : Blank segment)
    (rest : Lists segments ids) : Lists (segment :: segments) ids
  | id {before id after : String} {segments ids : List String} (blankBefore : Blank before)
    (blankAfter : Blank after) (rest : Lists segments ids) :
    Lists ((before ++ id ++ after) :: segments) (id :: ids)

def listed (segments : List (List Char)) : List String :=
  ((segments.map trim).filter fun s => !s.isEmpty).map String.ofList

theorem hostIds_eq (text : String) : hostIds text = listed (splitOn ',' text.toList) := rfl

/-! ## Segments -/

theorem listed_append (segments more : List (List Char)) :
    listed (segments ++ more) = listed segments ++ listed more := by
  simp only [listed, List.map_append, List.filter_append]

theorem listed_cons_blank {segment : List Char} (blank : trim segment = [])
    (segments : List (List Char)) : listed (segment :: segments) = listed segments := by
  simp [listed, blank]

theorem listed_cons_some {segment : List Char} (some : trim segment ≠ [])
    (segments : List (List Char)) :
    listed (segment :: segments) = String.ofList (trim segment) :: listed segments := by
  simp [listed, some]

/-- However ids are written in segments, they are what is read. -/
theorem listed_of_lists {segments ids : List String} (lists : Lists segments ids)
    (isHostId : ∀ id ∈ ids, IsHostId id) : listed (segments.map String.toList) = ids := by
  induction lists with
  | nil => rfl
  | blank blank _ ih =>
    rw [List.map_cons, listed_cons_blank (trim_eq_nil_iff.mpr blank)]
    exact ih isHostId
  | @id before id after segments ids blankBefore blankAfter _ ih =>
    obtain ⟨hostId, others⟩ := List.forall_mem_cons.mp isHostId
    have trimmed : trim (before ++ id ++ after).toList = id.toList := by
      rw [String.toList_append, String.toList_append]
      exact trim_surrounded blankBefore hostId.tight blankAfter
    have some : trim (before ++ id ++ after).toList ≠ [] := by
      rw [trimmed]
      exact fun nothing => hostId.some (String.toList_inj.mp nothing)
    rw [List.map_cons, listed_cons_some some, trimmed, String.ofList_toList, ih others]

/-- What is read from segments is written in them. -/
theorem lists_listed (segments : List (List Char)) :
    Lists (segments.map String.ofList) (listed segments) := by
  induction segments with
  | nil => exact .nil
  | cons segment segments ih =>
    by_cases nothing : trim segment = []
    · rw [listed_cons_blank nothing]
      refine .blank ?_ ih
      rw [Blank, String.toList_ofList]
      exact trim_eq_nil_iff.mp nothing
    · rw [listed_cons_some nothing]
      obtain ⟨before, after, whole, blankBefore, blankAfter⟩ := exists_trim segment
      have parts : String.ofList segment =
          String.ofList before ++ String.ofList (trim segment) ++ String.ofList after := by
        rw [← String.ofList_append, ← String.ofList_append, ← whole]
      rw [List.map_cons, parts]
      refine .id ?_ ?_ ih
      · rwa [Blank, String.toList_ofList]
      · rwa [Blank, String.toList_ofList]

theorem isHostId_of_mem_listed {segments : List (List Char)} (free : ∀ s ∈ segments, ',' ∉ s) :
    ∀ id ∈ listed segments, IsHostId id := by
  intro id member
  obtain ⟨trimmed, among, rfl⟩ := List.mem_map.mp member
  obtain ⟨among, some⟩ := List.mem_filter.mp among
  obtain ⟨segment, inside, rfl⟩ := List.mem_map.mp among
  obtain ⟨before, after, whole, -, -⟩ := exists_trim segment
  constructor
  case some => simpa using some
  case whole =>
    rw [String.toList_ofList]
    intro comma
    apply free segment inside
    rw [whole]
    exact List.mem_append_left _ (List.mem_append_right _ comma)
  case tight =>
    rw [String.toList_ofList]
    exact tight_trim segment

/-- Segments that list host ids have no comma. -/
theorem Lists.free {segments ids : List String} (lists : Lists segments ids)
    (isHostId : ∀ id ∈ ids, IsHostId id) : ∀ s ∈ segments, ',' ∉ s.toList := by
  have solid : ∀ {s : String}, Blank s → ',' ∉ s.toList := by
    intro s blank member
    have never := blank ',' member
    revert never
    decide
  induction lists with
  | nil => exact List.forall_mem_nil _
  | blank blank _ ih => exact List.forall_mem_cons.mpr ⟨solid blank, ih isHostId⟩
  | id blankBefore blankAfter _ ih =>
    obtain ⟨hostId, others⟩ := List.forall_mem_cons.mp isHostId
    refine List.forall_mem_cons.mpr ⟨?_, ih others⟩
    simp only [String.toList_append, List.mem_append, not_or]
    exact ⟨⟨solid blankBefore, hostId.whole⟩, solid blankAfter⟩

theorem lists_self (ids : List String) : Lists ids ids := by
  induction ids with
  | nil => exact .nil
  | cons id ids ih =>
    have bare : "" ++ id ++ "" = id := by simp
    have first : Lists (("" ++ id ++ "") :: ids) (id :: ids) :=
      .id (List.forall_mem_nil _) (List.forall_mem_nil _) ih
    rwa [bare] at first

/-! ## Texts -/

theorem isHostId_of_mem {text : String} : ∀ id ∈ hostIds text, IsHostId id :=
  isHostId_of_mem_listed notMem_of_mem_splitOn

theorem hostIds_intercalate {segments ids : List String} (lists : Lists segments ids)
    (isHostId : ∀ id ∈ ids, IsHostId id) : hostIds (",".intercalate segments) = ids := by
  have free := lists.free isHostId
  cases segments with
  | nil =>
    -- Nothing between commas is one segment, and it is blank.
    cases lists
    rfl
  | cons segment segments =>
    have joined : (",".intercalate (segment :: segments)).toList =
        joinWith ',' ((segment :: segments).map String.toList) := String.toList_intercalate
    have free' : ∀ s ∈ (segment :: segments).map String.toList, ',' ∉ s := by
      intro s member
      obtain ⟨s, among, rfl⟩ := List.mem_map.mp member
      exact free s among
    rw [hostIds_eq, joined, splitOn_joinWith (by simp) free']
    exact listed_of_lists lists isHostId

theorem hostIds_eq_iff {text : String} {ids : List String} :
    hostIds text = ids ↔ (∀ id ∈ ids, IsHostId id) ∧
      ∃ segments, Lists segments ids ∧ text = ",".intercalate segments := by
  constructor
  · rintro rfl
    refine ⟨isHostId_of_mem, (splitOn ',' text.toList).map String.ofList, lists_listed _, ?_⟩
    have chars : ((splitOn ',' text.toList).map String.ofList).map String.toList =
        splitOn ',' text.toList := by
      simp [Function.comp_def]
    rw [← String.toList_inj, String.toList_intercalate, chars]
    exact (joinWith_splitOn ',' text.toList).symm
  · rintro ⟨isHostId, segments, lists, rfl⟩
    exact hostIds_intercalate lists isHostId

/-! ## Main result -/

/-- What a text lists. -/
structure Listing (text : String) : Prop where
  /-- What stands behind another comma is listed behind. -/
  append : ∀ more, hostIds (text ++ "," ++ more) = hostIds text ++ hostIds more
  isHostId : ∀ id ∈ hostIds text, IsHostId id
  /-- Host ids are read from the text if it is one of their writings, and only then. -/
  written : ∀ ids, hostIds text = ids ↔ (∀ id ∈ ids, IsHostId id) ∧
    ∃ segments, Lists segments ids ∧ text = ",".intercalate segments
  /-- Host ids with bare commas between them are read as they are. -/
  bare : ∀ ids, (∀ id ∈ ids, IsHostId id) → hostIds (",".intercalate ids) = ids
  /-- What has been read is read again when it is written so. -/
  again : hostIds (",".intercalate (hostIds text)) = hostIds text

/-- **A text lists the host ids that it is a writing of.**  Their order and their repetitions
stay; blanks around them and blank segments do not matter. -/
theorem hostIds_listing (text : String) : Listing text := by
  have bare : ∀ ids, (∀ id ∈ ids, IsHostId id) → hostIds (",".intercalate ids) = ids :=
    fun ids => hostIds_intercalate (lists_self ids)
  constructor
  case append =>
    intro more
    have chars : (text ++ "," ++ more).toList = text.toList ++ ',' :: more.toList := by
      simp
    rw [hostIds_eq, chars, splitOn_append_sep, listed_append]
    rfl
  case isHostId => exact isHostId_of_mem
  case written => exact fun ids => hostIds_eq_iff
  case bare => exact bare
  case again => exact bare (hostIds text) isHostId_of_mem

/-- Blanks of several kinds, a blank inside an id, blank segments and a repetition. -/
example : hostIds " 1.2,\t1.3\u00a0, ,,1 4\u3000,1.2," = ["1.2", "1.3", "1 4", "1.2"] := by
  decide

end StartSignal
