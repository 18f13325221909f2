import Songmaker.Takes.TakeRequests

namespace Songmaker.Takes.TakeFlags

open Songmaker.Foundation
open Songmaker.Foundation.RowLocks
open Songmaker.Takes.TakeRequests

/-- A take that is picked or kept is not archived. -/
def Consistent (gen : Generation) : Prop :=
  gen.isArchived = true → gen.isPicked = false ∧ gen.isKept = false

/-- The take that is committed under an id. -/
def committed (state : State) (id : TakeId) : Option Generation :=
  (state.takes.committed id).join

/-- No flag contradicts another, and a song has one pick at most. -/
structure FlagsKept (state : State) : Prop where
  consistent : ∀ id, ∀ gen ∈ committed state id, Consistent gen
  one_pick : ∀ id id', ∀ gen ∈ committed state id, ∀ gen' ∈ committed state id',
    gen.songId = gen'.songId → gen.isPicked = true → gen'.isPicked = true → id = id'

/-- Whether a step archives or deletes only takes that are neither picked nor
kept when it commits. -/
def RetiresUnmarked (state next : State) : Prop :=
  ∀ id, ∀ gen ∈ committed state id,
    (committed next id = none ∨
      gen.isArchived = false ∧ ∃ gen' ∈ committed next id, gen'.isArchived = true) →
    gen.isPicked = false ∧ gen.isKept = false

/-- Whether a worker at this stage can have a row locked. -/
def Holds : Stage → Prop
  | .lockTakes .. | .pick .. | .picked .. | .written => True
  | .retention _ (.archived _) | .retention _ (.deleted _) => True
  | _ => False

/-- What a version that a worker works on is, next to the committed one. -/
structure Revises (stage : Stage) (id : TakeId) (before after : Option Generation) : Prop where
  consistent : ∀ gen ∈ after, Consistent gen
  song : ∀ gen ∈ after, ∃ old ∈ before, old.songId = gen.songId
  picked : ∀ gen ∈ after, gen.isPicked = true →
    (∃ old ∈ before, old.isPicked = true) ∨ ∃ song, stage = .picked id song
  retired : ∀ old ∈ before,
    (after = none ∨ old.isArchived = false ∧ ∃ gen ∈ after, gen.isArchived = true) →
    old.isPicked = false ∧ old.isKept = false

/-- The takes of a song that a picking worker has locked, with no pick but `id`. -/
def SongLocked (state : State) (worker : Worker) (song : SongId) (id : Option TakeId)
    (remaining : List TakeId) : Prop :=
  ∀ sibling slot, state.takes.slot sibling = some slot → sibling ∉ remaining →
    ∀ gen ∈ slot.committed, gen.songId = song →
      ∃ after, slot.lock = some (worker, after) ∧
        ∀ gen' ∈ after, gen'.isPicked = true → id = some sibling

/-- What the stage of a worker says about the takes of the song it picks in. -/
def StageKept (state : State) (worker : Worker) : Stage → Prop
  | .lockTakes id song remaining =>
      (∀ gen ∈ committed state id, gen.songId = song) ∧
        SongLocked state worker song none remaining
  | .pick id song =>
      (∀ gen ∈ committed state id, gen.songId = song) ∧ SongLocked state worker song none []
  | .picked id song =>
      (∀ gen ∈ committed state id, gen.songId = song) ∧
        SongLocked state worker song (some id) []
  | _ => True

/-- The committed flags are kept, and so are those that a lock's holder has written. -/
structure Invariant (state : State) : Prop where
  flags : FlagsKept state
  pending : ∀ id slot, state.takes.slot id = some slot → ∀ owner after,
    slot.lock = some (owner, after) →
      Holds (state.stage owner) ∧ Revises (state.stage owner) id slot.committed after
  stages : ∀ worker, StageKept state worker (state.stage worker)

/-- The rows all idle and unlocked, and the flags as the program keeps them. -/
structure Settled (state : State) : Prop where
  idle : ∀ worker, state.stage worker = .idle
  unlocked : ∀ id slot, state.takes.slot id = some slot → slot.lock = none
  flags : FlagsKept state

def takes : TransitionSystem State Action :=
  .ofAct Settled act

theorem settled_invariant {state : State} (h : Settled state) : Invariant state where
  flags := h.flags
  pending id slot hslot owner after hlock := by
    rw [h.unlocked id slot hslot] at hlock
    exact absurd hlock (by simp)
  stages worker := by
    rw [h.idle worker]
    trivial

theorem FlagsKept.of_committed {state state' : State} (h : FlagsKept state)
    (hsame : committed state' = committed state) : FlagsKept state' where
  consistent := by
    rw [hsame]
    exact h.consistent
  one_pick := by
    rw [hsame]
    exact h.one_pick

theorem committed_eq_some {state : State} {id : TakeId} {gen : Generation} :
    gen ∈ committed state id ↔
      ∃ slot, state.takes.slot id = some slot ∧ slot.committed = some gen := by
  simp [committed, Table.committed, Option.join_eq_some_iff]

theorem read_eq {state : State} {worker : Worker} {id : TakeId}
    {slot : Slot (Option Generation) Worker} (hslot : state.takes.slot id = some slot) :
    state.read worker id = slot.visible worker := by
  simp [State.read, Table.visible, hslot]

theorem slot_of_read {state : State} {worker : Worker} {id : TakeId} {gen : Generation}
    (hread : state.read worker id = some gen) :
    ∃ slot, state.takes.slot id = some slot ∧ slot.visible worker = some gen := by
  simpa [State.read, Table.visible, Option.join_eq_some_iff] using hread

section Revisions

variable {stage next : Stage} {id : TakeId} {before : Option Generation} {gen gen' : Generation}

theorem revises_refl (hbefore : ∀ gen ∈ before, Consistent gen) :
    Revises stage id before before where
  consistent := hbefore
  song gen hgen := ⟨gen, hgen, rfl⟩
  picked gen hgen hpicked := .inl ⟨gen, hgen, hpicked⟩
  retired := by
    rintro old hold (hnone | ⟨harchived, gen, hgen, hgenArchived⟩)
    · rw [hnone] at hold
      exact absurd hold (by simp)
    · obtain rfl := Option.mem_unique hold hgen
      rw [harchived] at hgenArchived
      exact absurd hgenArchived (by simp)

theorem Revises.moveTo {after : Option Generation} (h : Revises stage id before after)
    (hpicked : (∃ song, stage = .picked id song) → ∃ song, next = .picked id song) :
    Revises next id before after where
  consistent := h.consistent
  song := h.song
  picked gen hgen hmarked := (h.picked gen hgen hmarked).imp_right hpicked
  retired := h.retired

/-- A change that raises neither the pick nor the archive of a take, or that picks
an unarchived one. -/
theorem Revises.change (h : Revises stage id before (some gen)) (hconsistent : Consistent gen')
    (hsong : gen'.songId = gen.songId)
    (hpicked : gen'.isPicked = true →
      gen.isPicked = true ∧ (∀ song, stage ≠ .picked id song) ∨ ∃ song, next = .picked id song)
    (harchived : gen'.isArchived = true → gen.isArchived = true) :
    Revises next id before (some gen') where
  consistent := by simpa using hconsistent
  song := by
    rintro _ ⟨⟩
    rw [hsong]
    exact h.song gen rfl
  picked := by
    rintro _ ⟨⟩ hmarked
    rcases hpicked hmarked with ⟨hold, hstage⟩ | hnext
    · refine .inl ((h.picked gen rfl hold).resolve_right ?_)
      rintro ⟨song, hsame⟩
      exact hstage song hsame
    · exact .inr hnext
  retired := by
    rintro old hold (hnone | ⟨holdArchived, _, ⟨⟩, hnow⟩)
    · exact absurd hnone (by simp)
    · exact h.retired old hold (.inr ⟨holdArchived, gen, rfl, harchived hnow⟩)

theorem revises_retire {after : Option Generation} (hgen : gen.isPicked = false)
    (hkept : gen.isKept = false) (hafter : ∀ gen' ∈ after,
      gen'.songId = gen.songId ∧ gen'.isPicked = false ∧ gen'.isKept = false) :
    Revises next id (some gen) after where
  consistent gen' hgen' _ := (hafter gen' hgen').2
  song gen' hgen' := ⟨gen, rfl, (hafter gen' hgen').1.symm⟩
  picked gen' hgen' hpicked := by
    rw [(hafter gen' hgen').2.1] at hpicked
    exact absurd hpicked (by simp)
  retired := by
    rintro _ ⟨⟩ _
    exact ⟨hgen, hkept⟩

theorem lower_consistent (hgen : Consistent gen) (mark : Mark) : Consistent (gen.lower mark) := by
  intro harchived
  rcases mark with _ | _ | _
  · exact ⟨rfl, (hgen harchived).2⟩
  · exact ⟨(hgen harchived).1, rfl⟩
  · exact absurd harchived (by simp [Generation.lower])

theorem lower_picked {mark : Mark} (h : (gen.lower mark).isPicked = true) :
    gen.isPicked = true := by
  rcases mark with _ | _ | _
  · exact absurd h (by simp [Generation.lower])
  · exact h
  · exact h

theorem lower_archived {mark : Mark} (h : (gen.lower mark).isArchived = true) :
    gen.isArchived = true := by
  rcases mark with _ | _ | _
  · exact h
  · exact h
  · exact absurd h (by simp [Generation.lower])

end Revisions

section Steps

variable {state : State} {worker : Worker} {stage : Stage} {id : TakeId}

theorem Invariant.revises_visible (hI : Invariant state) (worker : Worker)
    {slot : Slot (Option Generation) Worker} (hslot : state.takes.slot id = some slot) :
    Revises (state.stage worker) id slot.committed (slot.visible worker) := by
  rcases slot.visible_cases worker with hlock | ⟨-, hvisible⟩
  · exact (hI.pending id slot hslot worker _ hlock).2
  · rw [hvisible]
    exact revises_refl fun gen hgen =>
      hI.flags.consistent id gen (committed_eq_some.mpr ⟨slot, hslot, hgen⟩)

theorem Invariant.visible_of_not_holds (hI : Invariant state) {worker : Worker}
    (hstage : ¬ Holds (state.stage worker)) {slot : Slot (Option Generation) Worker}
    (hslot : state.takes.slot id = some slot) : slot.visible worker = slot.committed := by
  rcases slot.visible_cases worker with hlock | ⟨-, hvisible⟩
  · exact absurd (hI.pending id slot hslot worker _ hlock).1 hstage
  · exact hvisible

@[simp] theorem stage_moveTo_self : (state.moveTo worker stage).stage worker = stage :=
  Function.update_self _ _ _

theorem stage_moveTo_of_ne {other : Worker} (hother : other ≠ worker) :
    (state.moveTo worker stage).stage other = state.stage other :=
  Function.update_of_ne hother _ _

theorem StageKept.frame {state' : State} (hkept : StageKept state worker stage)
    (hslots : ∀ id slot', state'.takes.slot id = some slot' →
      ∃ slot, state.takes.slot id = some slot ∧
        (∀ gen ∈ slot'.committed, ∃ old ∈ slot.committed, old.songId = gen.songId) ∧
        ∀ after, slot.lock = some (worker, after) → slot'.lock = some (worker, after)) :
    StageKept state' worker stage := by
  have hsong : ∀ {id song}, (∀ gen ∈ committed state id, gen.songId = song) →
      ∀ gen ∈ committed state' id, gen.songId = song := by
    intro id song htarget gen hgen
    obtain ⟨slot', hslot', hcommitted⟩ := committed_eq_some.mp hgen
    obtain ⟨slot, hslot, hback, -⟩ := hslots id slot' hslot'
    obtain ⟨old, hold, hsame⟩ := hback gen hcommitted
    rw [← hsame]
    exact htarget old (committed_eq_some.mpr ⟨slot, hslot, hold⟩)
  have hlocked : ∀ {song id remaining}, SongLocked state worker song id remaining →
      SongLocked state' worker song id remaining := by
    intro song id remaining hsiblings sibling slot' hslot' hnot gen hgen hgenSong
    obtain ⟨slot, hslot, hback, hlock⟩ := hslots sibling slot' hslot'
    obtain ⟨old, hold, hsame⟩ := hback gen hgen
    obtain ⟨after, hafter, hpicked⟩ :=
      hsiblings sibling slot hslot hnot old hold (hsame.trans hgenSong)
    exact ⟨after, hlock after hafter, hpicked⟩
  rcases stage with _ | ⟨id, song, remaining⟩ | ⟨id, song⟩ | ⟨id, song⟩ | _ | _ | _ | _
  case lockTakes => exact ⟨hsong hkept.1, hlocked hkept.2⟩
  case pick => exact ⟨hsong hkept.1, hlocked hkept.2⟩
  case picked => exact ⟨hsong hkept.1, hlocked hkept.2⟩
  all_goals trivial

theorem StageKept.moveTo {mover : Worker} {next : Stage} (hkept : StageKept state worker stage) :
    StageKept (state.moveTo mover next) worker stage :=
  hkept.frame fun _ slot hslot => ⟨slot, hslot, fun gen hgen => ⟨gen, hgen, rfl⟩, fun _ h => h⟩

theorem Invariant.moveTo (hI : Invariant state)
    (hlocks : ∀ id slot after, state.takes.slot id = some slot →
      slot.lock = some (worker, after) → Holds stage ∧ Revises stage id slot.committed after)
    (hstage : StageKept state worker stage) : Invariant (state.moveTo worker stage) where
  flags := hI.flags.of_committed rfl
  pending id slot hslot owner after hlock := by
    by_cases howner : owner = worker
    · subst howner
      simpa [State.moveTo] using hlocks id slot after hslot hlock
    · simpa [State.moveTo, howner] using hI.pending id slot hslot owner after hlock
  stages other := by
    by_cases hother : other = worker
    · subst hother
      rw [stage_moveTo_self]
      exact hstage.moveTo
    · rw [stage_moveTo_of_ne hother]
      exact (hI.stages other).moveTo

@[simp] theorem committed_moveTo : committed (state.moveTo worker stage) = committed state := rfl

@[simp] theorem committed_write (take : Option Generation) :
    committed (state.write worker id take) = committed state := by
  funext other
  simp [committed, State.write]

theorem Invariant.write (hI : Invariant state) (hlockable : state.takes.Lockable worker id)
    {take : Option Generation}
    (hrow : ∀ slot, state.takes.slot id = some slot →
      Holds stage ∧ Revises stage id slot.committed take)
    (hothers : ∀ other slot after, other ≠ id → state.takes.slot other = some slot →
      slot.lock = some (worker, after) → Holds stage ∧ Revises stage other slot.committed after)
    (hstage : StageKept (state.write worker id take) worker stage) :
    Invariant ((state.write worker id take).moveTo worker stage) := by
  have hslots : ∀ other slot', (state.write worker id take).takes.slot other = some slot' →
      other ≠ id ∧ state.takes.slot other = some slot' ∨
        other = id ∧ ∃ slot, state.takes.slot id = some slot ∧ slot' = slot.write worker take := by
    intro other slot' hslot'
    by_cases hother : other = id
    · subst hother
      obtain ⟨slot, hslot, rfl⟩ : ∃ slot, state.takes.slot other = some slot ∧
          slot.write worker take = slot' := by
        simpa [State.write, Option.map_eq_some_iff] using hslot'
      exact .inr ⟨rfl, slot, hslot, rfl⟩
    · exact .inl ⟨hother, by simpa [State.write, Table.set_slot_of_ne _ _ _ hother] using hslot'⟩
  have hwritten : ∀ other, other ≠ worker → StageKept (state.write worker id take) other
      (state.stage other) := by
    intro other hother
    refine (hI.stages other).frame fun sibling slot' hslot' => ?_
    rcases hslots sibling slot' hslot' with ⟨-, hslot⟩ | ⟨rfl, slot, hslot, rfl⟩
    · exact ⟨slot', hslot, fun gen hgen => ⟨gen, hgen, rfl⟩, fun _ h => h⟩
    · refine ⟨slot, hslot, fun gen hgen => ⟨gen, hgen, rfl⟩, fun after hlock => ?_⟩
      exact absurd (hlockable slot hslot _ hlock) hother
  constructor
  · exact hI.flags.of_committed (committed_write take)
  · intro other slot' hslot' owner after hlock
    rcases hslots other slot' hslot' with ⟨hother, hslot⟩ | ⟨rfl, slot, hslot, rfl⟩
    · by_cases howner : owner = worker
      · subst howner
        simpa [State.moveTo] using hothers other slot' after hother hslot hlock
      · simpa [State.moveTo, State.write, howner] using
          hI.pending other slot' hslot owner after hlock
    · obtain ⟨rfl, rfl⟩ : worker = owner ∧ take = after := by simpa [Slot.write] using hlock
      simpa [State.moveTo, Slot.write] using hrow slot hslot
  · intro other
    by_cases hother : other = worker
    · subst hother
      rw [stage_moveTo_self]
      exact hstage.moveTo
    · rw [stage_moveTo_of_ne hother]
      exact (hwritten other hother).moveTo

theorem Invariant.release (hI : Invariant state) {table : Table TakeId (Option Generation) Worker}
    (hflags : FlagsKept { state with takes := table })
    (hslots : ∀ id slot', table.slot id = some slot' → ∃ slot, state.takes.slot id = some slot ∧
      ((∃ after, slot.lock = some (worker, after)) ∧ slot'.lock = none ∧
          (∀ gen ∈ slot'.committed, ∃ old ∈ slot.committed, old.songId = gen.songId) ∨
        (∀ after, slot.lock ≠ some (worker, after)) ∧ slot' = slot))
    (hstage : ∀ table, StageKept { state with takes := table } worker stage) :
    Invariant ({ state with takes := table }.moveTo worker stage) := by
  constructor
  · exact hflags.of_committed rfl
  · intro id slot' hslot' owner after hlock
    obtain ⟨slot, hslot, ⟨-, hnone, -⟩ | ⟨hother, rfl⟩⟩ := hslots id slot' hslot'
    · rw [hnone] at hlock
      exact absurd hlock (by simp)
    · have howner : owner ≠ worker := by
        rintro rfl
        exact hother after hlock
      rw [stage_moveTo_of_ne howner]
      exact hI.pending id slot' hslot owner after hlock
  · intro other
    by_cases hother : other = worker
    · subst hother
      rw [stage_moveTo_self]
      exact (hstage table).moveTo
    · rw [stage_moveTo_of_ne hother]
      refine StageKept.moveTo ((hI.stages other).frame fun id slot' hslot' => ?_)
      obtain ⟨slot, hslot, ⟨⟨mine, hmine⟩, -, hsong⟩ | ⟨-, rfl⟩⟩ := hslots id slot' hslot'
      · refine ⟨slot, hslot, hsong, fun after hlock => ?_⟩
        rw [hmine] at hlock
        exact absurd (congrArg Prod.fst (Option.some.inj hlock)) (Ne.symm hother)
      · exact ⟨slot', hslot, fun gen hgen => ⟨gen, hgen, rfl⟩, fun _ h => h⟩

@[simp] theorem committed_rollback : committed (state.rollback worker) = committed state := by
  funext id
  rcases hslot : state.takes.slot id with _ | slot
  · simp [committed, State.rollback, Table.committed, Table.rollback, Table.map, hslot]
  · rcases slot.rollback_cases worker with ⟨_, -, hrollback⟩ | ⟨-, hrollback⟩
    · simp [committed, State.rollback, Table.committed, Table.rollback, Table.map, hslot, hrollback]
    · simp [committed, State.rollback, Table.committed, Table.rollback, Table.map, hslot, hrollback]

theorem Invariant.rollback (hI : Invariant state)
    (hstage : ∀ table, StageKept { state with takes := table } worker stage) :
    Invariant ((state.rollback worker).moveTo worker stage) := by
  apply hI.release
  · exact hI.flags.of_committed committed_rollback
  · intro id slot' hslot'
    obtain ⟨slot, hslot, rfl⟩ := Option.map_eq_some_iff.mp hslot'
    refine ⟨slot, hslot, ?_⟩
    rcases slot.rollback_cases worker with ⟨row, hlock, hrollback⟩ | ⟨hother, hrollback⟩
    · rw [hrollback]
      exact .inl ⟨⟨row, hlock⟩, rfl, fun gen hgen => ⟨gen, hgen, rfl⟩⟩
    · exact .inr ⟨hother, hrollback⟩
  · exact hstage

theorem slot_of_committed_commit {gen : Generation}
    (hgen : gen ∈ committed (state.commit worker) id) :
    ∃ slot, state.takes.slot id = some slot ∧
      (slot.lock = some (worker, some gen) ∨
        (∀ after, slot.lock ≠ some (worker, after)) ∧ slot.committed = some gen) := by
  obtain ⟨slot', hslot', hcommitted⟩ := committed_eq_some.mp hgen
  obtain ⟨slot, hslot, rfl⟩ := Option.map_eq_some_iff.mp hslot'
  refine ⟨slot, hslot, ?_⟩
  rcases slot.commit_cases worker with ⟨row, hlock, hcommit⟩ | ⟨hother, hcommit⟩
  · rw [hcommit] at hcommitted
    obtain rfl : row = some gen := hcommitted
    exact .inl hlock
  · rw [hcommit] at hcommitted
    exact .inr ⟨hother, hcommitted⟩

/-- A take that is picked after a commit was picked before it, or is the pick of
the worker. -/
theorem picked_commit (hI : Invariant state) {gen : Generation}
    (hgen : gen ∈ committed (state.commit worker) id) (hpicked : gen.isPicked = true) :
    (∃ old ∈ committed state id, old.songId = gen.songId ∧ old.isPicked = true) ∧
        (∀ target song, state.stage worker = .picked target song → gen.songId ≠ song) ∨
      ∃ song, state.stage worker = .picked id song ∧ gen.songId = song := by
  obtain ⟨slot, hslot, hlock | ⟨hother, hcommitted⟩⟩ := slot_of_committed_commit hgen
  · have hrevises := (hI.pending id slot hslot worker _ hlock).2
    obtain ⟨old, hold, hsong⟩ := hrevises.song gen rfl
    have holdCommitted : old ∈ committed state id := committed_eq_some.mpr ⟨slot, hslot, hold⟩
    by_cases hmine : ∃ target, state.stage worker = .picked target gen.songId
    · obtain ⟨target, htarget⟩ := hmine
      have hkept := hI.stages worker
      rw [htarget] at hkept
      obtain ⟨after, hafter, honly⟩ := hkept.2 id slot hslot List.not_mem_nil old hold hsong
      obtain rfl : some gen = after := by simpa [hlock] using hafter
      obtain rfl : target = id := by simpa using honly gen rfl hpicked
      exact .inr ⟨gen.songId, htarget, rfl⟩
    · have hnotMine : ∀ target song, state.stage worker = .picked target song →
          gen.songId ≠ song := by
        rintro target _ htarget rfl
        exact hmine ⟨target, htarget⟩
      rcases hrevises.picked gen rfl hpicked with ⟨old', hold', holdPicked⟩ | ⟨song, hstage⟩
      · obtain rfl := Option.mem_unique hold hold'
        exact .inl ⟨⟨old, holdCommitted, hsong, holdPicked⟩, hnotMine⟩
      · have hkept := hI.stages worker
        rw [hstage] at hkept
        exact absurd (hsong.symm.trans (hkept.1 old holdCommitted)) (hnotMine id song hstage)
  · refine .inl ⟨⟨gen, committed_eq_some.mpr ⟨slot, hslot, hcommitted⟩, rfl, hpicked⟩, ?_⟩
    rintro target _ htarget rfl
    have hkept := hI.stages worker
    rw [htarget] at hkept
    obtain ⟨after, hafter, -⟩ := hkept.2 id slot hslot List.not_mem_nil gen hcommitted rfl
    exact hother after hafter

theorem flagsKept_commit (hI : Invariant state) : FlagsKept (state.commit worker) where
  consistent id gen hgen := by
    obtain ⟨slot, hslot, hlock | ⟨-, hcommitted⟩⟩ := slot_of_committed_commit hgen
    · exact (hI.pending id slot hslot worker _ hlock).2.consistent gen rfl
    · exact hI.flags.consistent id gen (committed_eq_some.mpr ⟨slot, hslot, hcommitted⟩)
  one_pick id id' gen hgen gen' hgen' hsong hpicked hpicked' := by
    rcases picked_commit hI hgen hpicked with
      ⟨⟨old, hold, holdSong, holdPicked⟩, hnot⟩ | ⟨song, hstage, hmine⟩
    · rcases picked_commit hI hgen' hpicked' with
        ⟨⟨old', hold', holdSong', holdPicked'⟩, -⟩ | ⟨song', hstage', hmine'⟩
      · exact hI.flags.one_pick id id' old hold old' hold'
          (holdSong.trans (hsong.trans holdSong'.symm)) holdPicked holdPicked'
      · exact absurd (hsong.trans hmine') (hnot id' song' hstage')
    · rcases picked_commit hI hgen' hpicked' with ⟨-, hnot⟩ | ⟨song', hstage', -⟩
      · exact absurd (hsong.symm.trans hmine) (hnot id song hstage)
      · exact (Stage.picked.inj (hstage.symm.trans hstage')).1

theorem Invariant.commit (hI : Invariant state)
    (hstage : ∀ table, StageKept { state with takes := table } worker stage) :
    Invariant ((state.commit worker).moveTo worker stage) := by
  apply hI.release (flagsKept_commit hI)
  · intro id slot' hslot'
    obtain ⟨slot, hslot, rfl⟩ := Option.map_eq_some_iff.mp hslot'
    refine ⟨slot, hslot, ?_⟩
    rcases slot.commit_cases worker with ⟨row, hlock, hcommit⟩ | ⟨hother, hcommit⟩
    · rw [hcommit]
      exact .inl ⟨⟨row, hlock⟩, rfl, (hI.pending id slot hslot worker row hlock).2.song⟩
    · exact .inr ⟨hother, hcommit⟩
  · exact hstage

theorem retiresUnmarked_commit (worker : Worker) (hI : Invariant state) :
    RetiresUnmarked state (state.commit worker) := by
  intro id gen hgen hretired
  obtain ⟨slot, hslot, hcommitted⟩ := committed_eq_some.mp hgen
  have hafter : committed (state.commit worker) id = (slot.commit worker).committed := by
    simp [committed, State.commit, Table.committed, Table.commit, Table.map, hslot]
  rw [hafter] at hretired
  rcases slot.commit_cases worker with ⟨row, hlock, hcommit⟩ | ⟨-, hcommit⟩
  · rw [hcommit] at hretired
    exact (hI.pending id slot hslot worker row hlock).2.retired gen hcommitted hretired
  · rw [hcommit, hcommitted] at hretired
    rcases hretired with hnone | ⟨hnot, _, ⟨⟩, harchived⟩
    · exact absurd hnone (by simp)
    · rw [hnot] at harchived
      exact absurd harchived (by simp)

theorem retiresUnmarked_of_committed {next : State} (hsame : committed next = committed state) :
    RetiresUnmarked state next := by
  intro id gen hgen hretired
  rw [hsame] at hretired
  rcases hretired with hnone | ⟨hnot, gen', hgen', harchived⟩
  · rw [hnone] at hgen
    exact absurd hgen (by simp)
  · obtain rfl := Option.mem_unique hgen hgen'
    rw [hnot] at harchived
    exact absurd harchived (by simp)

end Steps

section Statements

variable {state : State} {worker : Worker} {next : Stage} {id : TakeId} {gen : Generation}

theorem Invariant.locks_moveTo (hI : Invariant state)
    (hpicked : ∀ id song, state.stage worker ≠ .picked id song) (hholds : Holds next)
    {other : TakeId}
    {slot : Slot (Option Generation) Worker} {after : Option Generation}
    (hslot : state.takes.slot other = some slot) (hlock : slot.lock = some (worker, after)) :
    Holds next ∧ Revises next other slot.committed after := by
  refine ⟨hholds, (hI.pending other slot hslot worker after hlock).2.moveTo ?_⟩
  rintro ⟨song, hstage⟩
  exact absurd hstage (hpicked other song)

theorem Invariant.change (hI : Invariant state) (hlockable : state.takes.Lockable worker id)
    (hread : state.read worker id = some gen) {gen' : Generation}
    (hpicked : ∀ id song, state.stage worker ≠ .picked id song) (hholds : Holds next)
    (hconsistent : Consistent gen') (hsong : gen'.songId = gen.songId)
    (hmarked : gen'.isPicked = true → gen.isPicked = true ∨ ∃ song, next = .picked id song)
    (harchived : gen'.isArchived = true → gen.isArchived = true)
    (hstage : StageKept (state.write worker id (some gen')) worker next) :
    Invariant ((state.write worker id (some gen')).moveTo worker next) := by
  refine hI.write hlockable ?_ (fun other slot after _ => hI.locks_moveTo hpicked hholds) hstage
  intro slot hslot
  have hvisible : slot.visible worker = some gen := (read_eq hslot).symm.trans hread
  have hrevises := hI.revises_visible worker hslot
  rw [hvisible] at hrevises
  refine ⟨hholds, hrevises.change hconsistent hsong (fun hmark => ?_) harchived⟩
  exact (hmarked hmark).imp_left fun hold => ⟨hold, fun song => hpicked id song⟩

theorem consistent_read (hI : Invariant state) (hread : state.read worker id = some gen) :
    Consistent gen := by
  obtain ⟨slot, hslot, hvisible⟩ := slot_of_read hread
  exact (hI.revises_visible worker hslot).consistent gen hvisible

theorem committed_song_write {song : SongId} {target : TakeId} {take : Option Generation}
    (h : ∀ gen ∈ committed state target, gen.songId = song) :
    ∀ gen ∈ committed (state.write worker id take) target, gen.songId = song := by
  rw [committed_write]
  exact h

theorem SongLocked.write {song : SongId} {remaining remaining' : List TakeId}
    {target : Option TakeId} (h : SongLocked state worker song none remaining)
    {take : Option Generation} (hremaining : ∀ sibling, sibling ∉ remaining' → sibling ≠ id →
      sibling ∉ remaining) (htake : ∀ gen ∈ take, gen.isPicked = true → target = some id) :
    SongLocked (state.write worker id take) worker song target remaining' := by
  intro sibling slot' hslot' hnot gen hgen hsong
  by_cases hsibling : sibling = id
  · subst hsibling
    obtain ⟨slot, hslot, rfl⟩ : ∃ slot, state.takes.slot sibling = some slot ∧
        slot.write worker take = slot' := by
      simpa [State.write, Option.map_eq_some_iff] using hslot'
    exact ⟨take, rfl, htake⟩
  · have hslot : state.takes.slot sibling = some slot' := by
      simpa [State.write, Table.set_slot_of_ne _ _ _ hsibling] using hslot'
    obtain ⟨after, hlock, hnone⟩ :=
      h sibling slot' hslot (hremaining sibling hnot hsibling) gen hgen hsong
    exact ⟨after, hlock, fun gen' hgen' hpicked => absurd (hnone gen' hgen' hpicked) (by simp)⟩

theorem lockTakes_invariant (hI : Invariant state) {song : SongId} {sibling : TakeId}
    {rest : List TakeId} (hat : state.stage worker = .lockTakes id song (sibling :: rest))
    (hlockable : state.takes.Lockable worker sibling) :
    Invariant (update state worker sibling (·.lower .picked) (.lockTakes id song rest)) := by
  have hnotPicked : ∀ id song, state.stage worker ≠ .picked id song := by simp [hat]
  have hkept := hI.stages worker
  rw [hat] at hkept
  unfold update
  split
  · rename_i hread
    refine hI.moveTo (fun _ _ _ => hI.locks_moveTo hnotPicked (by trivial)) ⟨hkept.1, ?_⟩
    intro other slot hslot hnot gen hgen hsong
    by_cases hother : other = sibling
    · subst hother
      have hvisible : slot.visible worker = none := (read_eq hslot).symm.trans hread
      rcases slot.visible_cases worker with hlock | ⟨-, hcommitted⟩
      · rw [hvisible] at hlock
        exact ⟨none, hlock, by simp⟩
      · rw [← hcommitted, hvisible] at hgen
        exact absurd hgen (by simp)
    · exact hkept.2 other slot hslot (by simp [hother, hnot]) gen hgen hsong
  · rename_i gen hread
    apply hI.change hlockable hread hnotPicked
    · trivial
    · exact lower_consistent (consistent_read hI hread) .picked
    · rfl
    · exact fun h => .inl (lower_picked h)
    · exact lower_archived
    · refine ⟨committed_song_write hkept.1, hkept.2.write ?_ ?_⟩
      · intro other hnot hother
        simp [hother, hnot]
      · rintro _ ⟨⟩ hpicked
        exact absurd hpicked (by simp [Generation.lower])

theorem pick_invariant (hI : Invariant state) {song : SongId}
    (hat : state.stage worker = .pick id song) (hlockable : state.takes.Lockable worker id) :
    Invariant (mark state worker id (fun gen => { gen with isPicked := true })
      (.picked id song)) := by
  have hkept := hI.stages worker
  rw [hat] at hkept
  unfold mark
  split
  · exact hI.rollback fun _ => trivial
  · rename_i gen hread
    split_ifs with harchived
    · exact hI.rollback fun _ => trivial
    · apply hI.change hlockable hread
      · simp [hat]
      · trivial
      · exact fun h => absurd h harchived
      · rfl
      · exact fun _ => .inr ⟨song, rfl⟩
      · exact fun h => h
      · refine ⟨committed_song_write hkept.1, hkept.2.write ?_ ?_⟩
        · exact fun _ _ _ => List.not_mem_nil
        · exact fun _ _ _ => rfl

theorem keep_invariant (hI : Invariant state) (hat : state.stage worker = .keep id)
    (hlockable : state.takes.Lockable worker id) :
    Invariant (mark state worker id (fun gen => { gen with isKept := true }) .written) := by
  unfold mark
  split
  · exact hI.rollback fun _ => trivial
  · rename_i gen hread
    split_ifs with harchived
    · exact hI.rollback fun _ => trivial
    · apply hI.change hlockable hread
      · simp [hat]
      · trivial
      · exact fun h => absurd h harchived
      · rfl
      · exact .inl
      · exact fun h => h
      · trivial

theorem lower_invariant (hI : Invariant state) {mark : Mark}
    (hat : state.stage worker = .lower id mark) (hlockable : state.takes.Lockable worker id) :
    Invariant (update state worker id (·.lower mark) .written) := by
  have hnotPicked : ∀ id song, state.stage worker ≠ .picked id song := by simp [hat]
  unfold update
  split
  · exact hI.moveTo (fun _ _ _ => hI.locks_moveTo hnotPicked (by trivial)) trivial
  · rename_i gen hread
    apply hI.change hlockable hread hnotPicked
    · trivial
    · exact lower_consistent (consistent_read hI hread) mark
    · rcases mark with _ | _ | _ <;> rfl
    · exact fun h => .inl (lower_picked h)
    · exact lower_archived
    · trivial

theorem retire_invariant (hI : Invariant state) {run : Retention} {phase done : Phase}
    (hat : state.stage worker = .retention run phase) (hfree : ¬ Holds (.retention run phase))
    (hdone : Holds (.retention run done)) (hlockable : state.takes.Lockable worker id)
    {qualifies : Generation → Bool} {change : Generation → Option Generation}
    (hqualifies : ∀ gen, qualifies gen = true → gen.isPicked = false ∧ gen.isKept = false)
    (hchange : ∀ gen, ∀ gen' ∈ change gen, gen'.songId = gen.songId ∧
      gen'.isPicked = gen.isPicked ∧ gen'.isKept = gen.isKept) :
    Invariant (retire state worker id qualifies change run done) := by
  unfold retire
  split
  · exact hI.rollback fun _ => trivial
  · rename_i gen hread
    split_ifs with hgen
    · have hmarks := hqualifies gen hgen
      apply hI.write hlockable
      · intro slot hslot
        have hcommitted : slot.committed = some gen := by
          have hvisible := hI.visible_of_not_holds (hat ▸ hfree) hslot
          rw [← hvisible, ← read_eq hslot, hread]
        rw [hcommitted]
        refine ⟨hdone, revises_retire hmarks.1 hmarks.2 fun gen' hgen' => ?_⟩
        obtain ⟨hsong, hpicked, hkept⟩ := hchange gen gen' hgen'
        exact ⟨hsong, hpicked.trans hmarks.1, hkept.trans hmarks.2⟩
      · intro other slot after _ hslot hlock
        exact absurd (hI.pending other slot hslot worker after hlock).1 (by rwa [hat])
      · rcases done with _ | _ | _ | _ | _ <;> trivial
    · exact hI.rollback fun _ => trivial

theorem Invariant.moveTo_free (hI : Invariant state) (hfree : ¬ Holds (state.stage worker))
    (hstage : StageKept state worker next) : Invariant (state.moveTo worker next) :=
  hI.moveTo (fun id slot after hslot hlock =>
    absurd (hI.pending id slot hslot worker after hlock).1 hfree) hstage

theorem nextTake_invariant (hI : Invariant state) {run : Retention}
    (hat : state.stage worker = .retention run .between) :
    Invariant (nextTake state worker run) := by
  have hfree : ¬ Holds (state.stage worker) := by
    rw [hat]
    exact not_false
  unfold nextTake
  split
  · exact hI.moveTo_free hfree (by split <;> trivial)
  · exact hI.moveTo_free hfree (by split <;> trivial)
  · exact hI.moveTo_free hfree trivial

theorem mem_select {matching : Generation → Bool} (hread : state.read worker id = some gen)
    (hmatching : matching gen = true) : id ∈ state.select worker matching := by
  obtain ⟨slot, hslot, -⟩ := slot_of_read hread
  have hid : id ∈ state.takes.ids := (state.takes.slot_isSome id).mp (by rw [hslot]; rfl)
  simpa [State.select, hread, hmatching] using hid

theorem request_invariant (hI : Invariant state) (hat : state.stage worker = .idle)
    (asked : Request) : Invariant (request state worker id asked) := by
  have hfree : ¬ Holds (state.stage worker) := by
    rw [hat]
    exact not_false
  have hcommitted : ∀ {other slot}, state.takes.slot other = some slot →
      state.read worker other = slot.committed := fun hslot => by
    rw [read_eq hslot, hI.visible_of_not_holds hfree hslot]
  rcases asked with _ | _ | mark
  · unfold request
    dsimp only
    split
    · exact hI
    · rename_i gen hread
      refine hI.moveTo_free hfree ⟨fun gen' hgen' => ?_, ?_⟩
      · obtain ⟨slot, hslot, hslotCommitted⟩ := committed_eq_some.mp hgen'
        rw [hcommitted hslot, hslotCommitted] at hread
        rw [Option.some.inj hread]
      · intro sibling slot hslot hnot gen' hgen' hsong
        have hread' : state.read worker sibling = some gen' := (hcommitted hslot).trans hgen'
        exact absurd (mem_select hread' (by simpa using hsong)) hnot
  · exact hI.moveTo_free hfree trivial
  · unfold request
    dsimp only
    split
    · exact hI
    · split_ifs
      · exact hI.moveTo_free hfree trivial
      · exact hI.moveTo_free hfree trivial

end Statements

theorem committed_request (state : State) (worker : Worker) (id : TakeId) (asked : Request) :
    committed (request state worker id asked) = committed state := by
  rcases asked with _ | _ | mark
  · unfold request
    dsimp only
    split <;> rfl
  · rfl
  · unfold request
    dsimp only
    split
    · rfl
    · split_ifs <;> rfl

section Committed

variable (state : State) (worker : Worker) (id : TakeId)

theorem committed_mark (change : Generation → Generation) (next : Stage) :
    committed (mark state worker id change next) = committed state := by
  unfold mark
  split
  · simp
  · split_ifs <;> simp

theorem committed_update (change : Generation → Generation) (next : Stage) :
    committed (update state worker id change next) = committed state := by
  unfold update
  split <;> simp

theorem committed_retire (qualifies : Generation → Bool) (change : Generation → Option Generation)
    (run : Retention) (done : Phase) :
    committed (retire state worker id qualifies change run done) = committed state := by
  unfold retire
  split
  · simp
  · split_ifs <;> simp

theorem committed_nextTake (run : Retention) :
    committed (nextTake state worker run) = committed state := by
  unfold nextTake
  split <;> rfl

end Committed

theorem advance_spec {state next : State} {worker : Worker} (hI : Invariant state)
    (hstep : advance state worker = some next) :
    Invariant next ∧ committed next = committed state := by
  unfold advance at hstep
  split at hstep
  · exact absurd hstep (by simp)
  · exact absurd hstep (by simp)
  · exact absurd hstep (by simp)
  · rename_i id song sibling rest hat
    split_ifs at hstep with hlockable
    obtain rfl := Option.some.inj hstep
    exact ⟨lockTakes_invariant hI hat hlockable, committed_update ..⟩
  · rename_i id song hat
    obtain rfl := Option.some.inj hstep
    have hkept := hI.stages worker
    rw [hat] at hkept
    exact ⟨hI.moveTo (fun _ _ _ => hI.locks_moveTo (by simp [hat]) (by trivial)) hkept, rfl⟩
  · rename_i id song hat
    split_ifs at hstep with hlockable
    obtain rfl := Option.some.inj hstep
    exact ⟨pick_invariant hI hat hlockable, committed_mark ..⟩
  · rename_i id hat
    split_ifs at hstep with hlockable
    obtain rfl := Option.some.inj hstep
    exact ⟨keep_invariant hI hat hlockable, committed_mark ..⟩
  · rename_i id mark hat
    split_ifs at hstep with hlockable
    obtain rfl := Option.some.inj hstep
    exact ⟨lower_invariant hI hat hlockable, committed_update ..⟩
  · rename_i run hat
    obtain rfl := Option.some.inj hstep
    exact ⟨nextTake_invariant hI hat, committed_nextTake ..⟩
  · rename_i run id hat
    split_ifs at hstep with hlockable
    obtain rfl := Option.some.inj hstep
    refine ⟨retire_invariant hI hat not_false (by trivial) hlockable ?_ ?_, committed_retire ..⟩
    · intro gen hgen
      simp only [Generation.expiredForArchive, Bool.and_eq_true, Bool.not_eq_true'] at hgen
      exact hgen.1
    · rintro gen _ ⟨⟩
      exact ⟨rfl, rfl, rfl⟩
  · rename_i run id hat
    split_ifs at hstep with hlockable
    obtain rfl := Option.some.inj hstep
    refine ⟨retire_invariant hI hat not_false (by trivial) hlockable ?_ ?_, committed_retire ..⟩
    · intro gen hgen
      simp only [Generation.expiredForDelete, Bool.and_eq_true, Bool.not_eq_true'] at hgen
      exact ⟨hgen.1.1.2, hgen.1.2⟩
    · rintro gen _ ⟨⟩
  · exact absurd hstep (by simp)
  · exact absurd hstep (by simp)

theorem commit_spec {state next : State} {worker : Worker} (hI : Invariant state)
    (hstep : commit state worker = some next) : Invariant next ∧ RetiresUnmarked state next := by
  have hretires := retiresUnmarked_commit worker hI
  unfold commit at hstep
  split at hstep
  · obtain rfl := Option.some.inj hstep
    exact ⟨hI.commit fun _ => trivial, hretires⟩
  · obtain rfl := Option.some.inj hstep
    exact ⟨hI.commit fun _ => trivial, hretires⟩
  · obtain rfl := Option.some.inj hstep
    exact ⟨hI.commit fun _ => trivial, hretires⟩
  · obtain rfl := Option.some.inj hstep
    exact ⟨hI.commit fun _ => trivial, hretires⟩
  · exact absurd hstep (by simp)

theorem act_spec {state next : State} {action : Action} (hI : Invariant state)
    (hstep : act state action = some next) : Invariant next ∧ RetiresUnmarked state next := by
  rcases action with ⟨worker, id, asked⟩ | ⟨worker, now, archiveCutoff, deleteCutoff, dryRun⟩ |
    worker | worker | worker
  · unfold act at hstep
    dsimp only at hstep
    split_ifs at hstep with hidle
    obtain rfl := Option.some.inj hstep
    exact ⟨request_invariant hI hidle asked,
      retiresUnmarked_of_committed (committed_request state worker id asked)⟩
  · unfold act at hstep
    dsimp only at hstep
    split_ifs at hstep with hidle
    obtain rfl := Option.some.inj hstep
    unfold runGenerationRetention
    dsimp only
    split_ifs
    · exact ⟨hI, retiresUnmarked_of_committed rfl⟩
    · refine ⟨hI.moveTo_free ?_ trivial, retiresUnmarked_of_committed rfl⟩
      rw [hidle]
      exact not_false
  · obtain ⟨hnext, hsame⟩ := advance_spec hI hstep
    exact ⟨hnext, retiresUnmarked_of_committed hsame⟩
  · exact commit_spec hI hstep
  · obtain rfl := Option.some.inj hstep
    refine ⟨hI.rollback fun _ => trivial, retiresUnmarked_of_committed ?_⟩
    rw [committed_moveTo, committed_rollback]

/-- In every state of every run no take is archived while it is picked or kept and
a song has at most one pick, and no step from it archives or deletes a take that is
picked or kept when the step commits. -/
theorem take_flags_kept {state : State} (hstate : takes.Reachable state) :
    FlagsKept state ∧ ∀ action next, takes.step state action next → RetiresUnmarked state next := by
  have hI : Invariant state := by
    refine TransitionSystem.Invariant.of_reachable (M := takes) ⟨?_, ?_⟩ hstate
    · exact fun _ => settled_invariant
    · exact fun _ _ _ hI hstep => (act_spec hI hstep).1
  exact ⟨hI.flags, fun _ _ hstep => (act_spec hI hstep).2⟩

/-- Three takes of one song, the first picked, the last one archived long ago. -/
def threeTakes : State where
  takes :=
    { ids := [0, 1, 2]
      slot := fun id => match id with
        | 0 => some ⟨some ⟨0, true, false, false, none, 0, none⟩, none⟩
        | 1 => some ⟨some ⟨0, false, false, false, none, 0, none⟩, none⟩
        | 2 => some ⟨some ⟨0, false, false, true, some 1, 0, none⟩, none⟩
        | _ => none
      slot_isSome := by
        intro id
        match id with
        | 0 => decide
        | 1 => decide
        | 2 => decide
        | id + 3 => simp }
  stage := fun _ => .idle

theorem threeTakes_settled : Settled threeTakes where
  idle _ := rfl
  unlocked id slot hslot := by
    rcases id with _ | _ | _ | id <;> cases hslot <;> rfl
  flags :=
    { consistent := by
        intro id gen hgen
        rcases id with _ | _ | _ | id <;> cases hgen <;> simp [Consistent]
      one_pick := by
        intro id id' gen hgen gen' hgen' _ hpicked hpicked'
        have hfirst : ∀ id, ∀ gen ∈ committed threeTakes id, gen.isPicked = true → id = 0 := by
          intro id gen hgen hpicked
          rcases id with _ | _ | _ | id <;> cases hgen <;> cases hpicked
          rfl
        rw [hfirst id gen hgen hpicked, hfirst id' gen' hgen' hpicked'] }

/-- A retention run selects the second take, which is kept before the run comes to
lock it, and deletes the last one. -/
def keptAfterSelection : State :=
  TransitionSystem.lastOf threeTakes (TransitionSystem.follow act threeTakes
    [.retention 1 10 5 5 false, .advance 1, .request 2 1 .keep, .advance 2, .commit 2, .advance 1,
      .advance 1, .advance 1, .commit 1])

theorem take_flags_kept_after_selection :
    (committed keptAfterSelection 1).map (fun gen => (gen.isKept, gen.isArchived)) =
        some (true, false) ∧ committed keptAfterSelection 2 = none ∧
      FlagsKept keptAfterSelection ∧ ∀ action next,
        takes.step keptAfterSelection action next → RetiresUnmarked keptAfterSelection next :=
  ⟨by decide +kernel, by decide +kernel,
    take_flags_kept (TransitionSystem.reachable_follow (.initial threeTakes_settled) _)⟩

end Songmaker.Takes.TakeFlags
