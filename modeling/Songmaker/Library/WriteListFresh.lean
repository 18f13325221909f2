import Songmaker.Library.LibraryWrite

/-!
Whatever lands while a read is out, the Write list ends on a read that has
started behind it: a removal or an undo waits for the read and starts another
one, an outdate spoils the answer.
-/

namespace Songmaker.Library.WriteListFresh

open Songmaker.Foundation
open Songmaker.Foundation.TransitionSystem
open Songmaker.Library
open Songmaker.Library.LibraryWrite

variable {s t : LibraryWrite}

/-- The rows are an answer whose read started after the last change. -/
def Fresh (s : LibraryWrite) : Prop :=
  ∃ read, s.lastChange < read ∧ s.shown = some (read, s.rows)

/-- What the exclusions of the read under way are worth. -/
structure Excluded (s : LibraryWrite) : Prop where
  unchanged : s.lastChange < s.reads → s.removed = .empty
  all : ∀ kind id, (kind, id) ∈ s.removedWhileOut → s.removed.has kind id = true
  awaited : s.removed ≠ .empty → s.reads ∈ s.waiters

/-- Where a read can be between two steps of the store. -/
inductive Steady (s : LibraryWrite) : Prop where
  | idle (hpending : s.pending = none) (hfetches : s.fetches = []) (hanswered : s.answered = [])
      (hremoved : s.removed = .empty) (hfresh : s.state = .ready → s.waiters ≠ [] ∨ Fresh s)
  | out (hpending : s.pending = some s.reads) (hfetches : s.fetches = [s.reads])
      (hanswered : s.answered = []) (hexcluded : Excluded s)
      (howed : s.lastChange < s.reads ∨ s.reads ∈ s.waiters ∨ s.outdatedDuringRead = true)
  | landed (hpending : s.pending = some s.reads) (hfetches : s.fetches = [])
      (hanswered : s.answered = [s.reads]) (hexcluded : Excluded s)
      (hfresh : s.state = .ready → s.reads ∈ s.waiters ∨ Fresh s)

/-- The invariant of the list. -/
structure Sound (s : LibraryWrite) : Prop where
  changed : s.lastChange ≤ s.reads
  steady : Steady s

section RemovedIds

theorem has_empty (kind : RemovedKind) (id : String) : RemovedIds.empty.has kind id = false := by
  cases kind with
  | song => rfl
  | album => rfl

theorem has_add (ids : RemovedIds) (kind other : RemovedKind) (id id' : String) :
    (ids.add kind id).has other id' = true ↔
      (kind = other ∧ id = id') ∨ ids.has other id' = true := by
  cases kind with
  | song =>
      cases other with
      | song => simp [RemovedIds.add, RemovedIds.has, RemovedIds.of, @eq_comm _ id id']
      | album => simp [RemovedIds.add, RemovedIds.has, RemovedIds.of]
  | album =>
      cases other with
      | song => simp [RemovedIds.add, RemovedIds.has, RemovedIds.of]
      | album => simp [RemovedIds.add, RemovedIds.has, RemovedIds.of, @eq_comm _ id id']

theorem ne_empty_of_has {ids : RemovedIds} {kind : RemovedKind} {id : String}
    (h : ids.has kind id = true) : ids ≠ .empty := by
  rintro rfl
  rw [has_empty] at h
  cases h

end RemovedIds

section Reads

theorem Sound.readLibraryWrite (h : Sound s) : Sound s.readLibraryWrite := by
  unfold LibraryWrite.readLibraryWrite
  cases h.steady with
  | idle hpending hfetches hanswered hremoved hfresh =>
      rw [hpending]
      have hbehind : s.lastChange < s.reads + 1 := Nat.lt_succ_of_le h.changed
      refine ⟨Nat.le_of_lt hbehind, .out rfl (by simp [hfetches]) hanswered ?_ (.inl hbehind)⟩
      exact ⟨fun _ => hremoved, by simp, fun hne => absurd hremoved hne⟩
  | out hpending _ _ _ _ =>
      rw [hpending]
      exact h
  | landed hpending _ _ _ _ =>
      rw [hpending]
      exact h

theorem Sound.ensureLibraryWriteRead (h : Sound s) : Sound s.ensureLibraryWriteRead := by
  unfold LibraryWrite.ensureLibraryWriteRead
  split
  · exact h
  · split
    · exact h
    · exact h.readLibraryWrite

theorem outdateLibraryWrite_not_ready (s : LibraryWrite) :
    s.outdateLibraryWrite.state ≠ .ready := by
  unfold LibraryWrite.outdateLibraryWrite
  dsimp only
  split
  · simp
  · assumption

theorem Excluded.outdateLibraryWrite (h : Excluded s) : Excluded s.outdateLibraryWrite :=
  ⟨fun hbehind => absurd hbehind (Nat.lt_irrefl _), h.all, h.awaited⟩

theorem Sound.outdateLibraryWrite (h : Sound s) : Sound s.outdateLibraryWrite := by
  have hnot := outdateLibraryWrite_not_ready s
  refine ⟨Nat.le_refl _, ?_⟩
  cases h.steady with
  | idle hpending hfetches hanswered hremoved hfresh =>
      exact .idle hpending hfetches hanswered hremoved fun hready => absurd hready hnot
  | out hpending hfetches hanswered hexcluded howed =>
      refine .out hpending hfetches hanswered hexcluded.outdateLibraryWrite (.inr (.inr ?_))
      simp [LibraryWrite.outdateLibraryWrite, hpending]
  | landed hpending hfetches hanswered hexcluded hfresh =>
      exact .landed hpending hfetches hanswered hexcluded.outdateLibraryWrite
        fun hready => absurd hready hnot

end Reads

section Changes

theorem refillNow_of_pending {read : Nat} (hpending : s.pending = some read) :
    s.refillNow = s := by
  unfold LibraryWrite.refillNow
  split
  · rfl
  · rename_i hnone
    rw [hpending] at hnone
    cases hnone

theorem refillWritten_of_pending {read : Nat} (hpending : s.pending = some read) :
    s.refillWritten = { s with waiters := s.waiters ++ [read] } := by
  unfold LibraryWrite.refillWritten
  split
  · rename_i other hother
    obtain rfl := Option.some.inj (hpending.symm.trans hother)
    rfl
  · rename_i hnone
    rw [hpending] at hnone
    cases hnone

theorem refillWritten_of_idle (hpending : s.pending = none) : s.refillWritten = s.refillNow := by
  unfold LibraryWrite.refillWritten
  split
  · rename_i other hother
    rw [hpending] at hother
    cases hother
  · rfl

theorem sound_refillNow (hpending : s.pending = none) (hfetches : s.fetches = [])
    (hanswered : s.answered = []) (hremoved : s.removed = .empty)
    (hchanged : s.lastChange ≤ s.reads) : Sound s.refillNow := by
  unfold LibraryWrite.refillNow
  rw [hpending]
  dsimp only
  split
  · rename_i hunread
    refine ⟨hchanged, .idle hpending hfetches hanswered hremoved fun hready => ?_⟩
    rw [hunread] at hready
    cases hready
  · have hlater : Sound s.outdateLibraryWrite :=
      ⟨Nat.le_refl _, .idle hpending hfetches hanswered hremoved
        fun hready => absurd hready (outdateLibraryWrite_not_ready s)⟩
    exact hlater.ensureLibraryWriteRead

/-- A state in which a change has just been noted. -/
inductive Noted (s : LibraryWrite) : Prop where
  | idle (hpending : s.pending = none) (hfetches : s.fetches = []) (hanswered : s.answered = [])
      (hremoved : s.removed = .empty)
  | busy (hpending : s.pending = some s.reads)
      (hphase : (s.fetches = [s.reads] ∧ s.answered = []) ∨
        (s.fetches = [] ∧ s.answered = [s.reads]))
      (hall : ∀ kind id, (kind, id) ∈ s.removedWhileOut → s.removed.has kind id = true)

theorem sound_refillWritten (hnoted : Noted s) (hchange : s.lastChange = s.reads) :
    Sound s.refillWritten := by
  cases hnoted with
  | idle hpending hfetches hanswered hremoved =>
      rw [refillWritten_of_idle hpending]
      exact sound_refillNow hpending hfetches hanswered hremoved (Nat.le_of_eq hchange)
  | busy hpending hphase hall =>
      rw [refillWritten_of_pending hpending]
      have hwaiter : s.reads ∈ s.waiters ++ [s.reads] := by simp
      have hexcluded : Excluded { s with waiters := s.waiters ++ [s.reads] } :=
        ⟨fun hbehind => absurd hchange (Nat.ne_of_lt hbehind), hall, fun _ => hwaiter⟩
      have hchanged := Nat.le_of_eq hchange
      rcases hphase with ⟨hfetches, hanswered⟩ | ⟨hfetches, hanswered⟩
      · exact ⟨hchanged, .out hpending hfetches hanswered hexcluded (.inr (.inl hwaiter))⟩
      · exact ⟨hchanged, .landed hpending hfetches hanswered hexcluded fun _ => .inl hwaiter⟩

theorem Sound.noted (h : Sound s) (htPending : t.pending = s.pending)
    (htFetches : t.fetches = s.fetches) (htAnswered : t.answered = s.answered)
    (htReads : t.reads = s.reads) (hidle : s.pending = none → t.removed = s.removed)
    (hall : s.pending.isSome = true → Excluded s →
      ∀ kind id, (kind, id) ∈ t.removedWhileOut → t.removed.has kind id = true) : Noted t := by
  cases h.steady with
  | idle hpending hfetches hanswered hremoved hfresh =>
      exact .idle (htPending.trans hpending) (htFetches.trans hfetches)
        (htAnswered.trans hanswered) ((hidle hpending).trans hremoved)
  | out hpending hfetches hanswered hexcluded howed =>
      refine .busy (by rw [htPending, htReads, hpending]) (.inl ?_)
        (hall (by simp [hpending]) hexcluded)
      rw [htFetches, htAnswered, htReads]
      exact ⟨hfetches, hanswered⟩
  | landed hpending hfetches hanswered hexcluded hfresh =>
      refine .busy (by rw [htPending, htReads, hpending]) (.inr ?_)
        (hall (by simp [hpending]) hexcluded)
      rw [htFetches, htAnswered, htReads]
      exact ⟨hfetches, hanswered⟩

/-- A removal that is ignored stands in the exclusions of the read under way,
and the first of its kind already waits for that read. -/
theorem Sound.ignored (h : Sound s) {kind : RemovedKind} {id : String}
    (hhas : s.removed.has kind id = true) : Sound (s.noteChange [(kind, id)]) := by
  have hne := ne_empty_of_has hhas
  have hkept : Excluded s → Excluded (s.noteChange [(kind, id)]) := by
    intro hexcluded
    refine ⟨fun hbehind => absurd hbehind (Nat.lt_irrefl _), fun other id' hmem => ?_,
      hexcluded.awaited⟩
    rcases List.mem_append.mp hmem with hmem | hmem
    · exact hexcluded.all other id' hmem
    · obtain ⟨rfl, rfl⟩ : other = kind ∧ id' = id := by simpa using hmem
      exact hhas
  refine ⟨Nat.le_refl _, ?_⟩
  cases h.steady with
  | idle hpending hfetches hanswered hremoved hfresh => exact absurd hremoved hne
  | out hpending hfetches hanswered hexcluded howed =>
      exact .out hpending hfetches hanswered (hkept hexcluded)
        (.inr (.inl (hexcluded.awaited hne)))
  | landed hpending hfetches hanswered hexcluded hfresh =>
      exact .landed hpending hfetches hanswered (hkept hexcluded)
        fun _ => .inl (hexcluded.awaited hne)

theorem Sound.forgetWritten (h : Sound s) (kind : RemovedKind) (id : String) :
    Sound (s.forgetWritten kind id) := by
  unfold LibraryWrite.forgetWritten
  split
  · rename_i hrepeated
    exact h.ignored hrepeated.1
  · refine sound_refillWritten (h.noted rfl rfl rfl rfl (fun hnone => by simp [hnone]) ?_) rfl
    intro hsome hexcluded other id' hmem
    change (if s.pending.isSome then s.removed.add kind id else s.removed).has other id' = true
    rw [if_pos hsome, has_add]
    rcases List.mem_append.mp hmem with hmem | hmem
    · exact .inr (hexcluded.all other id' hmem)
    · obtain ⟨rfl, rfl⟩ : other = kind ∧ id' = id := by simpa using hmem
      exact .inl ⟨rfl, rfl⟩

theorem Sound.restoreWritten (h : Sound s) (kind : RemovedKind) (ids : List String) :
    Sound (s.restoreWritten kind ids) := by
  unfold LibraryWrite.restoreWritten
  split
  · exact h
  · refine sound_refillWritten (h.noted rfl rfl rfl rfl (fun _ => rfl) ?_) rfl
    intro _ hexcluded other id' hmem
    exact hexcluded.all other id' (by simpa [LibraryWrite.noteChange] using hmem)

end Changes

section Callbacks

theorem Sound.out_of_mem_fetches (h : Sound s) {read : Nat} (hread : read ∈ s.fetches) :
    read = s.reads ∧ s.pending = some s.reads ∧ s.fetches = [s.reads] ∧ s.answered = [] ∧
      Excluded s ∧
        (s.lastChange < s.reads ∨ s.reads ∈ s.waiters ∨ s.outdatedDuringRead = true) := by
  cases h.steady with
  | idle hpending hfetches hanswered hremoved hfresh => simp [hfetches] at hread
  | landed hpending hfetches hanswered hexcluded hfresh => simp [hfetches] at hread
  | out hpending hfetches hanswered hexcluded howed =>
      exact ⟨by simpa [hfetches] using hread, hpending, hfetches, hanswered, hexcluded, howed⟩

theorem Sound.answer (h : Sound s) {read : Nat} (hread : read ∈ s.fetches)
    (items : List LibraryWriteItem) : Sound (s.answer read items) := by
  obtain ⟨rfl, hpending, hfetches, hanswered, hexcluded, howed⟩ := h.out_of_mem_fetches hread
  refine ⟨h.changed, .landed hpending ?_ ?_ ⟨hexcluded.unchanged, hexcluded.all,
    hexcluded.awaited⟩ fun hready => ?_⟩
  · simp [LibraryWrite.answer, hfetches]
  · simp [LibraryWrite.answer, hanswered]
  · rcases howed with hbehind | hwaiter | houtdated
    · refine .inr ⟨s.reads, hbehind, ?_⟩
      simp [LibraryWrite.answer, hexcluded.unchanged hbehind, has_empty]
    · exact .inl hwaiter
    · simp [LibraryWrite.answer, houtdated] at hready

theorem Sound.fail (h : Sound s) {read : Nat} (hread : read ∈ s.fetches) :
    Sound (s.fail read) := by
  obtain ⟨rfl, hpending, hfetches, hanswered, hexcluded, -⟩ := h.out_of_mem_fetches hread
  refine ⟨h.changed, .landed hpending ?_ ?_ ⟨hexcluded.unchanged, hexcluded.all,
    hexcluded.awaited⟩ fun hready => ?_⟩
  · simp [LibraryWrite.fail, hfetches]
  · simp [LibraryWrite.fail, hanswered]
  · unfold LibraryWrite.fail at hready
    dsimp only at hready
    split at hready
    · cases hready
    · cases hready

theorem Sound.settle (h : Sound s) {read : Nat} (hread : read ∈ s.answered) :
    Sound (s.settle read) := by
  refine ⟨h.changed, ?_⟩
  cases h.steady with
  | idle hpending hfetches hanswered hremoved hfresh => simp [hanswered] at hread
  | out hpending hfetches hanswered hexcluded howed => simp [hanswered] at hread
  | landed hpending hfetches hanswered hexcluded hfresh =>
      have hsame : read = s.reads := by simpa [hanswered] using hread
      refine .idle rfl hfetches ?_ rfl fun hready => ?_
      · simp [LibraryWrite.settle, hanswered, hsame]
      · rcases hfresh hready with hwaiter | hfresh
        · exact .inl (List.ne_nil_of_mem hwaiter)
        · exact .inr hfresh

/-- A refill that goes on once its read is over joins the read it finds, which
has started behind its change, or starts one. -/
theorem Sound.resume (h : Sound s) {i read : Nat} (hwaiter : s.waiters[i]? = some read)
    (hfetched : read ∉ s.fetches) (hsettled : read ∉ s.answered) :
    Sound { s with waiters := s.waiters.eraseIdx i }.refillNow := by
  have hkept : read ≠ s.reads → s.reads ∈ s.waiters → s.reads ∈ s.waiters.eraseIdx i := by
    intro hne hmem
    obtain ⟨j, hj⟩ := List.mem_iff_getElem?.mp hmem
    refine List.mem_eraseIdx_iff_getElem?.mpr ⟨j, fun hij => ?_, hj⟩
    rw [hij, hwaiter] at hj
    exact hne (Option.some.inj hj)
  have hexcludedKept : read ≠ s.reads → Excluded s →
      Excluded { s with waiters := s.waiters.eraseIdx i } := fun hne hexcluded =>
    ⟨hexcluded.unchanged, hexcluded.all, fun hremoved => hkept hne (hexcluded.awaited hremoved)⟩
  cases h.steady with
  | idle hpending hfetches hanswered hremoved hfresh =>
      exact sound_refillNow hpending hfetches hanswered hremoved h.changed
  | out hpending hfetches hanswered hexcluded howed =>
      have hne : read ≠ s.reads := by simpa [hfetches] using hfetched
      rw [refillNow_of_pending (s := { s with waiters := s.waiters.eraseIdx i }) hpending]
      refine ⟨h.changed, .out hpending hfetches hanswered (hexcludedKept hne hexcluded) ?_⟩
      rcases howed with hbehind | hmem | houtdated
      · exact .inl hbehind
      · exact .inr (.inl (hkept hne hmem))
      · exact .inr (.inr houtdated)
  | landed hpending hfetches hanswered hexcluded hfresh =>
      have hne : read ≠ s.reads := by simpa [hanswered] using hsettled
      rw [refillNow_of_pending (s := { s with waiters := s.waiters.eraseIdx i }) hpending]
      refine ⟨h.changed, .landed hpending hfetches hanswered (hexcludedKept hne hexcluded)
        fun hready => ?_⟩
      rcases hfresh hready with hmem | hfresh
      · exact .inl (hkept hne hmem)
      · exact .inr hfresh

end Callbacks

theorem Sound.act {action : LibraryWriteAct} (h : Sound s) (hact : s.act action = some t) :
    Sound t := by
  unfold LibraryWrite.act at hact
  cases action with
  | ensure =>
      obtain rfl := Option.some.inj hact
      exact h.ensureLibraryWriteRead
  | outdate =>
      obtain rfl := Option.some.inj hact
      exact h.outdateLibraryWrite
  | forget kind id =>
      obtain rfl := Option.some.inj hact
      exact h.forgetWritten kind id
  | restore kind ids =>
      obtain rfl := Option.some.inj hact
      exact h.restoreWritten kind ids
  | answers read items =>
      obtain ⟨hread, hnext⟩ := Option.ite_none_right_eq_some.mp hact
      obtain rfl := Option.some.inj hnext
      exact h.answer hread items
  | fails read =>
      obtain ⟨hread, hnext⟩ := Option.ite_none_right_eq_some.mp hact
      obtain rfl := Option.some.inj hnext
      exact h.fail hread
  | settles read =>
      obtain ⟨hread, hnext⟩ := Option.ite_none_right_eq_some.mp hact
      obtain rfl := Option.some.inj hnext
      exact h.settle hread
  | resumes i =>
      obtain ⟨read, hwaiter, hnext⟩ := Option.bind_eq_some_iff.mp hact
      obtain ⟨hover, hnext⟩ := Option.ite_none_left_eq_some.mp hnext
      obtain rfl := Option.some.inj hnext
      exact h.resume hwaiter (fun hmem => hover (.inl hmem)) fun hmem => hover (.inr hmem)

theorem sound_of_reachable (hs : system.Reachable s) : Sound s := by
  induction hs with
  | initial hstart =>
      obtain rfl := hstart
      refine ⟨Nat.le_refl _, .idle rfl rfl rfl rfl fun hready => ?_⟩
      cases hready
  | step _ hstep ih => exact ih.act hstep

/-- What the list is after any run. -/
structure WriteListKept (s : LibraryWrite) : Prop where
  one : s.fetches.length ≤ 1
  excluded : ∀ read items t, s.act (.answers read items) = some t →
    ∀ row ∈ t.rows, ∀ kind id, (kind, id) ∈ s.removedWhileOut → row.idOf kind ≠ id
  fresh : s.fetches = [] → s.waiters = [] → s.state = .ready → Fresh s

theorem Excluded.not_mem_answer (h : Excluded s) {read : Nat} {items : List LibraryWriteItem}
    {row : LibraryWriteItem} (hrow : row ∈ (s.answer read items).rows) (kind : RemovedKind)
    (id : String) (hgone : (kind, id) ∈ s.removedWhileOut) : row.idOf kind ≠ id := by
  rintro rfl
  have hhas := h.all kind _ hgone
  obtain ⟨-, hkept⟩ := List.mem_filter.mp hrow
  simp only [Bool.and_eq_true, Bool.not_eq_true'] at hkept
  cases kind with
  | song => exact Bool.false_ne_true (hkept.1.symm.trans hhas)
  | album => exact Bool.false_ne_true (hkept.2.symm.trans hhas)

theorem write_list_kept (hs : system.Reachable s) : WriteListKept s := by
  have h := sound_of_reachable hs
  refine ⟨?_, fun read items t hact => ?_, fun hfetches hwaiters hready => ?_⟩
  · cases h.steady with
    | idle hpending hfetches hanswered hremoved hfresh => simp [hfetches]
    | out hpending hfetches hanswered hexcluded howed => simp [hfetches]
    | landed hpending hfetches hanswered hexcluded hfresh => simp [hfetches]
  · obtain ⟨hread, hnext⟩ := Option.ite_none_right_eq_some.mp hact
    obtain rfl := Option.some.inj hnext
    obtain ⟨-, -, -, -, hexcluded, -⟩ := h.out_of_mem_fetches hread
    exact fun row hrow => hexcluded.not_mem_answer hrow
  · cases h.steady with
    | idle hpending hnone hanswered hremoved hfresh =>
        exact (hfresh hready).resolve_left fun hsome => hsome hwaiters
    | out hpending hsome hanswered hexcluded howed => simp [hsome] at hfetches
    | landed hpending hnone hanswered hexcluded hfresh =>
        refine (hfresh hready).resolve_left fun hwaiter => ?_
        simp [hwaiters] at hwaiter

/-- A song is removed while the first read is out. -/
def removedWhileReading : List LibraryWriteAct :=
  [.ensure, .forget .song "a", .answers 1 [⟨"a", "A", "x", "X", "take", "1"⟩], .settles 1,
    .resumes 0, .answers 2 [⟨"b", "B", "x", "X", "lyrics", "2"⟩], .settles 2]

theorem write_list_kept_removed :
    WriteListKept (lastOf .start (follow LibraryWrite.act .start removedWhileReading)) ∧
      (lastOf .start (follow LibraryWrite.act .start removedWhileReading)).state = .ready := by
  have hstart : system.Reachable .start := .initial rfl
  exact ⟨write_list_kept (reachable_follow hstart removedWhileReading), by decide +kernel⟩

end Songmaker.Library.WriteListFresh
