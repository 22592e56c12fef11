import Converge.Proofs.Course

/-! Which paths lie below which, and what becomes of a difference at each of them. Paths are
compared character by character, and mean their parts between the dots: a path lies below another
one if its parts begin with the parts of that one. So every difference that a pass finds belongs to
the tags, to a collection or to the record itself, and a pass that does not fail deals with it
there. -/
namespace Converge

section Parts

theorem segments_nil : segments [] = [[]] := rfl

theorem segments_dot (rest : List Char) : segments ('.' :: rest) = [] :: segments rest := rfl

theorem segments_cons {c : Char} (plain : c ≠ '.') {rest part : List Char}
    {parts : List (List Char)} (after : segments rest = part :: parts) :
    segments (c :: rest) = (c :: part) :: parts := by
  simp only [segments, if_neg plain, after]

theorem segments_eq_splitOn (text : List Char) : segments text = text.splitOn '.' := by
  induction text with
  | nil => rfl
  | cons c rest ih =>
    rw [List.splitOn, List.splitOnP_cons_eq_if_modifyHead, ← List.splitOn, ← ih]
    by_cases dot : c = '.'
    · subst dot
      rfl
    · obtain ⟨part, parts, after⟩ := List.exists_cons_of_ne_nil (segments_ne_nil rest)
      simp [segments_cons dot after, after, dot]

theorem coversText_iff (path below : List Char) :
    coversText path below = true ↔ segments path <+: segments below := by
  -- A dot that ends a part of the first path must do so in the second one, and the other way round
  -- up to the end of the first path.
  induction path generalizing below with
  | nil =>
    cases below with
    | nil => simp [coversText]
    | cons c rest =>
      by_cases dot : c = '.'
      · subst dot
        simp [coversText, segments_dot, segments_nil]
      · obtain ⟨part, parts, after⟩ := List.exists_cons_of_ne_nil (segments_ne_nil rest)
        simp [coversText, dot, segments_cons dot after, segments_nil]
  | cons p path ih =>
    obtain ⟨one, ones, before⟩ := List.exists_cons_of_ne_nil (segments_ne_nil path)
    cases below with
    | nil =>
      by_cases dot : p = '.'
      · subst dot
        simp [coversText, segments_dot, segments_nil, before]
      · simp [coversText, segments_cons dot before, segments_nil]
    | cons c rest =>
      obtain ⟨part, parts, after⟩ := List.exists_cons_of_ne_nil (segments_ne_nil rest)
      simp only [coversText, Bool.and_eq_true, decide_eq_true_eq, ih]
      by_cases dot : p = '.' <;> by_cases other : c = '.'
      · subst dot other
        simp [segments_dot]
      · subst dot
        simp [segments_dot, segments_cons other after, Ne.symm other]
      · subst other
        simp [segments_dot, segments_cons dot before, dot]
      · simp [segments_cons dot before, segments_cons other after, before, after, and_assoc]

/-- The parts of the second path begin with the parts of the first one. -/
def AtOrBelow (path below : String) : Prop :=
  path.toList.splitOn '.' <+: below.toList.splitOn '.'

theorem covers_iff (path below : String) : covers path below = true ↔ AtOrBelow path below := by
  rw [AtOrBelow, ← segments_eq_splitOn, ← segments_eq_splitOn]
  exact coversText_iff path.toList below.toList

end Parts

section Bytes

def bytes (text : String) : List UInt8 := text.toUTF8.data.toList

/-- The two paths are the same, or the second one is longer, begins with the bytes of the first one
and has a dot as the next byte. -/
def coversBytes (path below : String) : Bool :=
  below = path || ((bytes path).length < (bytes below).length &&
    (bytes path).isPrefixOf (bytes below) && (bytes below)[(bytes path).length]? = some '.'.toUInt8)

theorem coversText_iff_append (path below : List Char) :
    coversText path below = true ↔ below = path ∨ ∃ rest, below = path ++ '.' :: rest := by
  induction path generalizing below with
  | nil => cases below <;> simp [coversText]
  | cons p path ih =>
    cases below with
    | nil => simp [coversText]
    | cons c rest =>
      simp only [coversText, Bool.and_eq_true, decide_eq_true_eq, ih, List.cons_append,
        List.cons.injEq, exists_and_left, ← and_or_left, eq_comm (a := p)]

theorem bytes_eq (text : String) : bytes text = text.toList.flatMap String.utf8EncodeChar := by
  rw [bytes, String.toUTF8, ← String.utf8Encode_toList, List.utf8Encode,
    List.toList_data_toByteArray]

theorem prefix_of_bytes {path below : List Char}
    (starts : path.flatMap String.utf8EncodeChar <+: below.flatMap String.utf8EncodeChar) :
    path <+: below := by
  obtain ⟨rest, same⟩ := starts
  refine List.isPrefix_of_utf8Encode_append_eq_utf8Encode rest.toByteArray ?_
  rw [List.utf8Encode, ← List.toByteArray_append, same, List.utf8Encode]

theorem covers_eq_coversBytes (path below : String) :
    covers path below = coversBytes path below := by
  have dot (rest : List Char) :
      (path.toList ++ '.' :: rest).flatMap String.utf8EncodeChar =
        bytes path ++ '.'.toUInt8 :: rest.flatMap String.utf8EncodeChar := by
    rw [bytes_eq, List.flatMap_append, List.flatMap_cons]
    rfl
  rw [Bool.eq_iff_iff, covers, coversText_iff_append, coversBytes]
  simp only [Bool.or_eq_true, Bool.and_eq_true, decide_eq_true_eq, List.isPrefixOf_iff_prefix]
  refine or_congr String.toList_inj ⟨?_, ?_⟩
  · rintro ⟨rest, same⟩
    have longer : bytes below = _ := (bytes_eq below).trans ((congrArg _ same).trans (dot rest))
    simp [longer]
  · rintro ⟨⟨-, after, same⟩, dotted⟩
    rw [← same, List.getElem?_append_right (Nat.le_refl _), Nat.sub_self] at dotted
    obtain ⟨more, rfl⟩ : ∃ more, after = '.'.toUInt8 :: more := by
      cases after with
      | nil => simp at dotted
      | cons first more => exact ⟨more, by simpa using dotted⟩
    -- The dot belongs to what the second path begins with, so that it is read as a character.
    obtain ⟨rest, whole⟩ : path.toList ++ ['.'] <+: below.toList := by
      refine prefix_of_bytes ⟨more, ?_⟩
      rw [dot, ← bytes_eq, ← same]
      simp
    exact ⟨rest, by simp [← whole]⟩

end Bytes

namespace Delta

variable (delta : Delta) (path : String) (paths : List String)

theorem differentAt_iff :
    delta.differentAt path = true ↔ ∃ found ∈ delta.paths, AtOrBelow path found := by
  simp [differentAt, covers_iff]

theorem differentExcept_iff : delta.differentExcept paths = false ↔
    ∀ found ∈ delta.paths, ∃ path ∈ paths, AtOrBelow path found := by
  simp [differentExcept, covers_iff]

end Delta

namespace Pass

variable {O : Type} {paths : List String} {delta : Delta} {course : Course O}

/-- What has been done about a difference that was found at a path. A path may lie below that of the
tags and of collections at once; the record itself is left with what lies below none of them. -/
structure Dispatched (paths : List String) (delta : Delta) (course : Course O) (found : String) :
    Prop where
  tags : AtOrBelow tagsPath found → ∃ taken ∈ course, ∃ observed, taken.call = .syncTags observed
  collections : ∀ path ∈ paths, AtOrBelow path found →
    ∃ taken ∈ course, ∃ observed, taken.call = .syncCollections observed delta
  primary : ¬ AtOrBelow tagsPath found → (∀ path ∈ paths, ¬ AtOrBelow path found) →
    ∃ taken ∈ course, ∃ observed, taken.call = .update observed delta

variable (paths) in
theorem mem_agenda {found : String} (differs : found ∈ delta.paths) :
    (AtOrBelow tagsPath found → .syncTags ∈ agenda paths delta) ∧
    (∀ path ∈ paths, AtOrBelow path found → .syncCollections ∈ agenda paths delta) ∧
    (¬ AtOrBelow tagsPath found → (∀ path ∈ paths, ¬ AtOrBelow path found) →
      .update ∈ agenda paths delta) := by
  have differ : delta.isEmpty = false := by
    simp [Delta.isEmpty, List.ne_nil_of_mem differs]
  refine ⟨fun below => ?_, fun path listed below => ?_, fun untagged uncollected => ?_⟩
  · have tags : delta.differentAt tagsPath = true :=
      (delta.differentAt_iff _).2 ⟨found, differs, below⟩
    simp [agenda, differ, tags]
  · have collections : paths.any delta.differentAt = true :=
      List.any_eq_true.2 ⟨path, listed, (delta.differentAt_iff _).2 ⟨found, differs, below⟩⟩
    simp [agenda, differ, collections]
  · have outside : delta.differentExcept (tagsPath :: paths) = true := by
      refine Bool.ne_false_iff.1 fun inside => ?_
      obtain ⟨path, listed, below⟩ := (delta.differentExcept_iff _).1 inside found differs
      rcases List.mem_cons.1 listed with rfl | listed
      · exact untagged below
      · exact uncollected path listed below
    simp [agenda, differ, outside]

theorem plan_eq_of_compared (complete : stages course = plan paths course)
    (compared : compared course = some delta) :
    stages course = [.observe, .checkImmutable, .delta] ++ agenda paths delta := by
  obtain ⟨taken, member, its⟩ := List.exists_of_findSome?_eq_some compared
  have looked : .delta ∈ stages course := by
    refine mem_stages member ?_
    obtain ⟨step, reply⟩ := taken
    cases step <;> first | rfl | cases its
  rw [complete, plan] at looked
  split at looked
  · simp at looked
  · simp at looked
  · next seen => rw [complete, plan, seen, compared]; rfl

theorem Dispatched.of_plan {token : Token} {last : Option O} {found : String}
    (complete : stages course = plan paths course) (compared : compared course = some delta)
    (inputs : ∀ taken ∈ course, taken.call.Fits token last (Pass.compared course))
    (differs : found ∈ delta.paths) : Dispatched paths delta course found := by
  have reached {stage : Stage} (planned : stage ∈ agenda paths delta) :
      ∃ taken ∈ course, taken.call.stage? = some stage ∧
        taken.call.Fits token last (some delta) := by
    have member : stage ∈ stages course := by
      rw [plan_eq_of_compared complete compared]
      exact List.mem_append_right _ planned
    obtain ⟨taken, member, its⟩ := List.mem_filterMap.1 member
    exact ⟨taken, member, its, compared ▸ inputs taken member⟩
  obtain ⟨tagged, collected, updated⟩ := mem_agenda paths differs
  refine ⟨fun below => ?_, fun path listed below => ?_, fun untagged uncollected => ?_⟩
  · obtain ⟨⟨step, reply⟩, member, its, -⟩ := reached (tagged below)
    cases step <;> first | exact ⟨_, member, _, rfl⟩ | cases its
  · obtain ⟨⟨step, reply⟩, member, its, fits⟩ := reached (collected path listed below)
    cases step <;> first | exact ⟨_, member, _, by rw [Option.some.inj fits]⟩ | cases its
  · obtain ⟨⟨step, reply⟩, member, its, fits⟩ := reached (updated untagged uncollected)
    cases step <;> first | exact ⟨_, member, _, by rw [Option.some.inj fits]⟩ | cases its

end Pass

namespace Manager

/-- One path covers another exactly if its parts are the first ones of the other. So the record
itself is left alone exactly if every difference is at or below a path that is listed, and a pass in
which no step fails hands every difference that it finds to the step that is in charge of it. -/
theorem differences_dispatched :
    (∀ path below, covers path below = coversBytes path below ∧
      (covers path below = true ↔ AtOrBelow path below)) ∧
    (∀ (delta : Delta) (paths : List String), delta.differentExcept paths = false ↔
      ∀ found ∈ delta.paths, ∃ path ∈ paths, AtOrBelow path found) ∧
    ∀ {Call : Type} {Reply : Call → Type} {Desired Observed σ : Type}
      (manager : Manager Call Reply Desired Observed) (desired : Desired) (token : Token)
      (last : Option Observed) (serve : (call : Call) → σ → Reply call × σ) (state : σ)
      (delta : Delta),
      let course := manager.course desired token last serve state
      Pass.compared course = some delta → (∀ taken ∈ course, taken.failure? = none) →
        ∀ found ∈ delta.paths, Pass.Dispatched manager.collectionPaths delta course found := by
  refine ⟨fun path below => ⟨covers_eq_coversBytes path below, covers_iff path below⟩,
    fun delta paths => delta.differentExcept_iff paths, ?_⟩
  intro Call Reply Desired Observed σ manager desired token last serve state delta course compared
    fine found differs
  have orderly : Pass.Orderly manager.collectionPaths token last course _ _ :=
    Program.post_transcript (fun step state => (manager.perform desired step).run serve state) _ []
      state (Pass.ends_run manager.collectionPaths token last)
  refine .of_plan (orderly.complete.resolve_right ?_) compared orderly.inputs differs
  rintro ⟨taken, final, failed⟩
  simp [fine taken (List.mem_of_getLast? final)] at failed

/-- A manager that finds the given differences again and again, and takes all its steps at once. -/
def placid (collectionPaths : List String) (delta : Delta) : Manager Empty nofun Unit String where
  kind := "record"
  name _ := "record"
  collectionPaths
  observe _ _ := pure (some "record")
  create _ _ := pure "record"
  delta _ _ := delta
  syncTags _ observed := pure observed
  update _ observed _ := pure observed
  delete _ := pure ()

theorem sibling_differences_dispatched :
    let delta := Delta.ofPaths ["spec.tags.owner", "spec.tagset", "spec.parts", "spec.partsé.0"]
    let course := (placid ["spec.parts"] delta).course () default none
      (fun call _ => nomatch call) ()
    ∀ found ∈ delta.paths, Pass.Dispatched ["spec.parts"] delta course found := by
  intro delta course
  have fine : (course.all fun taken => taken.failure?.isNone) = true := rfl
  refine differences_dispatched.2.2 (placid ["spec.parts"] delta) () default none _ () delta rfl ?_
  simpa using fine

end Manager

end Converge
