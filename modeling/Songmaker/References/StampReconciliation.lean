import Songmaker.References.UnusedStamps

namespace Songmaker.References

open Songmaker.Foundation
open Songmaker.Foundation.TransitionSystem

variable {Id Tx : Type} [DecidableEq Id] [DecidableEq Tx] {s t : State Id Tx} {tx : Tx}

/-- A row that should carry a stamp. -/
def Unstamped (s : State Id Tx) (reference : Id) : Prop :=
  s.stampable reference = true ∧ s.Unlinked reference

/-- The actions of the two halves of a reconciliation, without a database failure. -/
def Reconciling : Action Id Tx → Prop
  | .begin _ operation => operation = .clearStamps ∨ operation = .stampUnstamped
  | .select .. | .lockNext _ | .countVersions _ | .countTakes _ | .commit .. => True
  | _ => False

/-- The clear half only clears rows that are kept or linked. -/
def ClearOk (s : State Id Tx) : Stage Id → Prop
  | .begun | .selected .. => True
  | .versionsCounted rows unlinked => ∀ reference ∈ rows, s.NoVersion reference →
      reference ∈ unlinked
  | .ready change => ∃ rows, change = .clear rows ∧
      ∀ reference ∈ rows, s.isKept reference = true ∨ ¬ s.Unlinked reference
  | _ => False

/-- The stamp half has every row in view that should carry a stamp. -/
def StampOk (s : State Id Tx) (candidates : List Id) : Stage Id → Prop
  | .begun => ∀ reference, Unstamped s reference → reference ∈ candidates
  | .selected todo rows => ∀ reference, Unstamped s reference →
      reference ∈ todo ∨ reference ∈ rows
  | .versionsCounted _ unlinked => ∀ reference, Unstamped s reference → reference ∈ unlinked
  | .ready change => ∃ rows, change = .stamp none rows ∧
      ∀ reference, Unstamped s reference → reference ∈ rows
  | _ => False

def HalfOk (s : State Id Tx) (transaction : Transaction Id) : Prop :=
  match transaction.operation with
  | .clearStamps => ClearOk s transaction.stage
  | .stampUnstamped => transaction.stage = .begun
  | .commitUnusedStamps candidates => StampOk s candidates transaction.stage
  | _ => False

/-- Only reconciliations are under way, and each half does what it should. -/
def Reconciled (s : State Id Tx) : Prop :=
  ∀ tx transaction, s.transactions tx = some transaction → HalfOk s transaction

/-- What one half relies on when the other goes on. -/
structure Leaves (s t : State Id Tx) : Prop where
  unstamped : ∀ reference, Unstamped t reference → Unstamped s reference
  isKept : ∀ reference, t.isKept reference = s.isKept reference
  versions : t.versions = s.versions
  takes : t.takes = s.takes

omit [DecidableEq Id] [DecidableEq Tx] in
theorem Leaves.halfOk (hleaves : Leaves s t) {transaction : Transaction Id}
    (hok : HalfOk s transaction) : HalfOk t transaction := by
  obtain ⟨operation, stage⟩ := transaction
  cases operation with
  | clearStamps =>
      cases stage with
      | versionsCounted rows unlinked =>
          intro reference hreference hnone
          rw [State.NoVersion, hleaves.versions] at hnone
          exact hok reference hreference hnone
      | ready change =>
          obtain ⟨rows, rfl, hrows⟩ := hok
          refine ⟨rows, rfl, ?_⟩
          intro reference hreference
          rw [hleaves.isKept, State.Unlinked, State.NoVersion, State.NoTake, hleaves.versions,
            hleaves.takes]
          exact hrows reference hreference
      | _ => exact hok
  | commitUnusedStamps candidates =>
      cases stage with
      | begun => exact fun reference h => hok reference (hleaves.unstamped reference h)
      | selected todo rows => exact fun reference h => hok reference (hleaves.unstamped reference h)
      | versionsCounted rows unlinked =>
          exact fun reference h => hok reference (hleaves.unstamped reference h)
      | ready change =>
          obtain ⟨rows, rfl, hrows⟩ := hok
          exact ⟨rows, rfl, fun reference h => hrows reference (hleaves.unstamped reference h)⟩
      | _ => exact hok
  | _ => exact hok

omit [DecidableEq Id] [DecidableEq Tx] in
theorem leaves_of_same (hrecordings : t.recordings = s.recordings)
    (hversions : t.versions = s.versions) (htakes : t.takes = s.takes) : Leaves s t := by
  refine ⟨?_, ?_, hversions, htakes⟩
  · intro reference h
    rwa [Unstamped, State.stampable, State.Unlinked, State.NoVersion, State.NoTake, hrecordings,
      hversions, htakes] at h
  · intro reference
    rw [State.isKept, State.isKept, hrecordings]

omit [DecidableEq Id] in
theorem Reconciled.setStage (hall : Reconciled s) {operation : Operation Id} {stage : Stage Id}
    (hstage : HalfOk s ⟨operation, stage⟩) : Reconciled (s.setStage tx operation stage) := by
  have hleaves : Leaves s (s.setStage tx operation stage) := leaves_of_same rfl rfl rfl
  intro other transaction htransaction
  by_cases hother : other = tx
  · subst hother
    have hupdate : Function.update s.transactions other (some ⟨operation, stage⟩) other =
        some transaction := htransaction
    rw [Function.update_self] at hupdate
    obtain rfl := Option.some.inj hupdate
    exact hleaves.halfOk hstage
  · rw [transactions_setStage hother] at htransaction
    exact hleaves.halfOk (hall other transaction htransaction)

omit [DecidableEq Id] in
theorem Reconciled.finish (hall : Reconciled s) (hleaves : Leaves s t)
    (htransactions : t.transactions = s.transactions) (tx : Tx) : Reconciled (t.finish tx) := by
  intro other transaction htransaction
  obtain ⟨-, hbefore⟩ := transactions_finish htransaction
  rw [htransactions] at hbefore
  have hfinished : Leaves t (t.finish tx) := leaves_of_same rfl rfl rfl
  exact hfinished.halfOk (hleaves.halfOk (hall other transaction hbefore))

omit [DecidableEq Id] [DecidableEq Tx] in
theorem Reconciled.withReferenceLock (hall : Reconciled s) (reference : Id) (mode : LockMode) :
    Reconciled (s.withReferenceLock tx reference mode) := by
  have hleaves : Leaves s (s.withReferenceLock tx reference mode) := leaves_of_same rfl rfl rfl
  exact fun other transaction htransaction =>
    hleaves.halfOk (hall other transaction htransaction)

omit [DecidableEq Id] in
theorem Reconciled.select (hall : Reconciled s) {ids : List Id} (hlists : s.Lists tx ids)
    (hstep : s.select tx ids = some t) : Reconciled t := by
  rw [State.select] at hstep
  split at hstep
  · rename_i candidates hstage
    obtain rfl := Option.some.inj hstep
    have hlisted : StampOk s candidates .begun := hall tx _ hstage
    refine hall.setStage ?_
    intro reference hunstamped
    exact .inl (List.mem_filter.mpr ⟨hlisted reference hunstamped, hunstamped.1⟩)
  · rename_i hstage
    obtain rfl := Option.some.inj hstep
    rw [State.Lists, hstage] at hlists
    refine hall.setStage ?_
    exact fun reference hunstamped => (hlists reference).mpr hunstamped.1
  · obtain rfl := Option.some.inj hstep
    exact hall.setStage trivial
  · contradiction

theorem Reconciled.lockNext (hall : Reconciled s) (hstep : s.lockNext tx = some t) :
    Reconciled t := by
  rw [State.lockNext] at hstep
  split at hstep
  · rename_i operation reference todo rows hstage
    have hhalf := hall tx _ hstage
    split at hstep
    · split at hstep
      · obtain rfl := Option.some.inj hstep
        have hleaves : Leaves s (s.withReferenceLock tx reference .forUpdate) :=
          leaves_of_same rfl rfl rfl
        refine (hall.withReferenceLock reference .forUpdate).setStage (hleaves.halfOk ?_)
        cases operation with
        | clearStamps => trivial
        | commitUnusedStamps candidates =>
            intro one hunstamped
            rcases hhalf one hunstamped with htodo | hrow
            · rcases List.mem_cons.mp htodo with rfl | hrest
              · exact .inr (List.mem_append_right _ (List.mem_singleton_self one))
              · exact .inl hrest
            · exact .inr (List.mem_append_left _ hrow)
        | stampUnstamped => contradiction
        | _ => exact hhalf
      · rename_i hunwanted
        obtain rfl := Option.some.inj hstep
        refine hall.setStage ?_
        cases operation with
        | clearStamps => trivial
        | commitUnusedStamps candidates =>
            intro one hunstamped
            rcases hhalf one hunstamped with htodo | hrow
            · rcases List.mem_cons.mp htodo with rfl | hrest
              · exact absurd hunstamped.1 hunwanted
              · exact .inl hrest
            · exact .inr hrow
        | stampUnstamped => contradiction
        | _ => exact hhalf
    · contradiction
  · contradiction

theorem Reconciled.countVersions (hall : Reconciled s) (hstep : s.countVersions tx = some t) :
    Reconciled t := by
  rw [State.countVersions] at hstep
  split at hstep
  · rename_i operation rows hstage
    have hhalf := hall tx _ hstage
    obtain rfl := Option.some.inj hstep
    refine hall.setStage ?_
    cases operation with
    | clearStamps =>
        intro reference hreference hnone
        exact List.mem_filter.mpr ⟨hreference, decide_eq_true (noVersion_iff.mpr hnone)⟩
    | commitUnusedStamps candidates =>
        intro reference hunstamped
        have hrow := (hhalf reference hunstamped).resolve_left List.not_mem_nil
        exact List.mem_filter.mpr
          ⟨hrow, decide_eq_true (noVersion_iff.mpr hunstamped.2.1)⟩
    | stampUnstamped => contradiction
    | _ => exact hhalf
  · contradiction

theorem Reconciled.countTakes (hall : Reconciled s) (hstep : s.countTakes tx = some t) :
    Reconciled t := by
  rw [State.countTakes] at hstep
  split at hstep
  · rename_i operation rows unlinked hstage
    have hhalf := hall tx _ hstage
    obtain rfl := Option.some.inj hstep
    refine hall.setStage ?_
    cases operation with
    | clearStamps =>
        refine ⟨_, if_pos rfl, ?_⟩
        intro reference hreference
        obtain ⟨hrow, hused⟩ := List.mem_filter.mp hreference
        rw [Bool.or_eq_true] at hused
        refine hused.imp_right ?_
        rintro hnot ⟨hversion, htake⟩
        have hlisted := hhalf reference hrow hversion
        simp [hlisted, noTake_iff.mpr htake] at hnot
    | commitUnusedStamps candidates =>
        refine ⟨_, if_neg (by simp), ?_⟩
        intro reference hunstamped
        exact List.mem_filter.mpr
          ⟨hhalf reference hunstamped, decide_eq_true (noTake_iff.mpr hunstamped.2.2)⟩
    | stampUnstamped => contradiction
    | _ => exact hhalf
  · contradiction

omit [DecidableEq Tx] in
theorem leaves_apply {now : Nat} {change : Change Id} (happly : s.apply now change = some t)
    (hchange : (∃ rows, change = .stamp none rows) ∨ ∃ rows, change = .clear rows ∧
      ∀ reference ∈ rows, s.isKept reference = true ∨ ¬ s.Unlinked reference) : Leaves s t := by
  rcases hchange with ⟨rows, rfl⟩ | ⟨rows, rfl, hrows⟩
  · obtain rfl := Option.some.inj happly
    refine ⟨?_, ?_, rfl, rfl⟩
    · rintro reference ⟨hstampable, hunlinked⟩
      refine ⟨?_, hunlinked⟩
      rw [State.stampable] at hstampable ⊢
      rcases hrecording : s.recordings reference with _ | recording
      · simp [hrecording] at hstampable
      · by_cases hrow : reference ∈ rows
        · simp [hrecording, hrow] at hstampable
        · simpa [hrecording, hrow] using hstampable
    · intro reference
      rw [State.isKept, State.isKept]
      rcases hrecording : s.recordings reference with _ | recording
      · simp [hrecording]
      · simp [hrecording]
  · obtain rfl := Option.some.inj happly
    refine ⟨?_, ?_, rfl, rfl⟩
    · rintro reference ⟨hstampable, hunlinked⟩
      refine ⟨?_, hunlinked⟩
      rw [State.stampable] at hstampable ⊢
      rcases hrecording : s.recordings reference with _ | recording
      · simp [hrecording] at hstampable
      · by_cases hrow : reference ∈ rows
        · have hkept := (hrows reference hrow).resolve_right (not_not_intro hunlinked)
          simp [State.isKept, hrecording] at hkept
          simp [hrecording, hrow, hkept] at hstampable
        · simpa [hrecording, hrow] using hstampable
    · intro reference
      rw [State.isKept, State.isKept]
      rcases hrecording : s.recordings reference with _ | recording
      · simp [hrecording]
      · by_cases hrow : reference ∈ rows
        · simp [hrecording, hrow]
        · simp [hrecording, hrow]

omit [DecidableEq Id] [DecidableEq Tx] in
theorem Reconciled.change (hall : Reconciled s) {operation : Operation Id} {change : Change Id}
    (hstage : s.transactions tx = some ⟨operation, .ready change⟩) :
    (∃ rows, change = .stamp none rows) ∨ ∃ rows, change = .clear rows ∧
      ∀ reference ∈ rows, s.isKept reference = true ∨ ¬ s.Unlinked reference := by
  have hhalf := hall tx _ hstage
  cases operation with
  | clearStamps => exact .inr hhalf
  | commitUnusedStamps candidates =>
      obtain ⟨rows, rfl, -⟩ := hhalf
      exact .inl ⟨rows, rfl⟩
  | stampUnstamped => contradiction
  | _ => exact absurd hhalf id

theorem Reconciled.commit (hall : Reconciled s) {now : Nat} (hstep : s.commit tx now = some t) :
    Reconciled t := by
  rw [State.commit] at hstep
  split at hstep
  · rename_i operation change hstage
    obtain ⟨next, happly, rfl⟩ := Option.map_eq_some_iff.mp hstep
    exact hall.finish (leaves_apply happly (hall.change hstage)) (apply_rest happly).2.2 tx
  · contradiction

theorem Reconciled.act (hall : Reconciled s) {action : Action Id Tx}
    (hstep : system.step s action t) (hreconciling : Reconciling action) : Reconciled t := by
  obtain ⟨hqueries, hact⟩ := hstep
  cases action with
  | begin tx operation =>
      rw [References.act] at hact
      split at hact
      · obtain rfl := Option.some.inj hact
        refine hall.setStage ?_
        rcases hreconciling with rfl | rfl
        · trivial
        · rfl
      · contradiction
  | select tx ids => exact hall.select hqueries hact
  | lockNext tx => exact hall.lockNext hact
  | countVersions tx => exact hall.countVersions hact
  | countTakes tx => exact hall.countTakes hact
  | commit tx now => exact hall.commit hact
  | _ => exact absurd hreconciling id

theorem reconciled_lastOf {run : List (Action Id Tx × State Id Tx)} (hall : Reconciled s)
    (hrun : system.IsRun s run) (honly : ∀ edge ∈ run, Reconciling edge.1) :
    Reconciled (lastOf s run) := by
  induction run generalizing s with
  | nil => exact hall
  | cons edge rest ih =>
      have hnext := hall.act hrun.1 (honly edge List.mem_cons_self)
      exact ih hnext hrun.2 fun other hother => honly other (List.mem_cons_of_mem _ hother)

theorem Reconciled.stamped (hall : Reconciled s) {candidates : List Id} {stage : Stage Id}
    {now : Nat} (hstage : s.transactions tx = some ⟨.commitUnusedStamps candidates, stage⟩)
    (hstep : s.commit tx now = some t) (reference : Id) : ¬ Unstamped t reference := by
  have hhalf := hall tx _ hstage
  rw [State.commit, hstage] at hstep
  cases stage with
  | ready change =>
      obtain ⟨rows, rfl, hrows⟩ := hhalf
      obtain ⟨next, happly, rfl⟩ := Option.map_eq_some_iff.mp hstep
      have hleaves := leaves_apply happly (.inl ⟨rows, rfl⟩)
      have hfinished : Leaves next (next.finish tx) := leaves_of_same rfl rfl rfl
      intro hunstamped
      have hrow := hrows reference
        (hleaves.unstamped reference ((leaves_of_same rfl rfl rfl).unstamped reference hunstamped))
      obtain rfl := Option.some.inj happly
      have hstampable := hunstamped.1
      rw [State.stampable] at hstampable
      rcases hrecording : s.recordings reference with _ | recording
      · simp [State.finish, hrecording] at hstampable
      · simp [State.finish, hrecording, hrow] at hstampable
  | _ => contradiction

/-- A stamped recording is never kept or linked, and a reconciliation that runs once
everything else has finished leaves no unkept and unlinked recording without a stamp. -/
theorem unused_since_stamps (hreach : (system : TransitionSystem (State Id Tx) _).Reachable s) :
    StampedUnused s ∧
      ((∀ tx, s.transactions tx = none) → ∀ run, system.IsRun s run →
        (∀ edge ∈ run, Reconciling edge.1) → ∀ tx candidates stage now t,
          (lastOf s run).transactions tx = some ⟨.commitUnusedStamps candidates, stage⟩ →
            system.step (lastOf s run) (.commit tx now) t →
              ∀ reference recording, t.recordings reference = some recording →
                recording.isKept = false → t.Unlinked reference →
                  recording.unusedSince ≠ none) := by
  refine ⟨(inv_of_reachable hreach).stamped, ?_⟩
  intro hfinished run hrun honly tx candidates stage now t hstage hstep reference recording
    hrecording hunkept hunlinked hnone
  have hall : Reconciled s := by
    intro other transaction htransaction
    rw [hfinished other] at htransaction
    contradiction
  refine (reconciled_lastOf hall hrun honly).stamped hstage hstep.2 reference ⟨?_, hunlinked⟩
  simp [State.stampable, hrecording, hunkept, hnone]

/-- A recording that was linked by a song's version, until the version was deleted. -/
def detached : List (Action Nat Unit) :=
  [.begin () .uploadReference, .prepare () 7, .commit () 1,
    .begin () (.createSong 3 (some 7)), .attachReference (), .prepare () 4, .commit () 2,
    .begin () (.deleteVersion 4 false), .lockSong (), .prepare () 0, .commit () 3]

def stampHalf : List (Action Nat Unit) :=
  [.begin () .stampUnstamped, .select () [7], .select () [], .lockNext (), .countVersions (),
    .countTakes ()]

def afterDetach : State Nat Unit := lastOf empty (follow act empty detached)

theorem afterDetach_reachable :
    (system : TransitionSystem (State Nat Unit) (Action Nat Unit)).Reachable afterDetach := by
  refine reachable_lastOf (.initial rfl) ?_
  exact ⟨⟨trivial, rfl⟩, ⟨trivial, rfl⟩, ⟨trivial, rfl⟩, ⟨trivial, rfl⟩, ⟨trivial, rfl⟩,
    ⟨trivial, rfl⟩, ⟨trivial, rfl⟩, ⟨trivial, rfl⟩, ⟨trivial, rfl⟩, ⟨trivial, rfl⟩, ⟨trivial, rfl⟩,
    trivial⟩

def afterReconciliation : State Nat Unit :=
  lastOf afterDetach (follow act afterDetach (stampHalf ++ [.commit () 9]))

theorem lists_afterDetach : State.Lists
    (afterDetach.setStage () .stampUnstamped .begun) () [7] := by
  intro reference
  by_cases hreference : reference = 7
  · subst hreference
    exact ⟨fun _ => rfl, fun _ => List.mem_singleton_self 7⟩
  · constructor
    · intro hmem
      exact absurd (List.mem_singleton.mp hmem) hreference
    · intro hstampable
      have hnone : afterDetach.recordings reference = none :=
        (Function.update_of_ne hreference ..).trans (Function.update_of_ne hreference ..)
      rw [State.stampable] at hstampable
      simp [State.setStage, hnone] at hstampable

theorem unused_since_stamps_detached :
    StampedUnused afterDetach ∧ ∃ recording, afterReconciliation.recordings 7 = some recording ∧
      recording.unusedSince ≠ none := by
  obtain ⟨hstamped, hreconciled⟩ := unused_since_stamps afterDetach_reachable
  refine ⟨hstamped, ⟨false, some 9⟩, rfl, ?_⟩
  have hrun : system.IsRun afterDetach (follow act afterDetach stampHalf) :=
    ⟨⟨trivial, rfl⟩, ⟨lists_afterDetach, rfl⟩, ⟨trivial, rfl⟩, ⟨trivial, rfl⟩, ⟨trivial, rfl⟩,
      ⟨trivial, rfl⟩, trivial⟩
  refine hreconciled (fun _ => rfl) _ hrun ?_ () [7] _ 9 afterReconciliation rfl ⟨trivial, rfl⟩ 7
    ⟨false, some 9⟩ rfl rfl ?_
  · have honly : List.Forall (fun edge => Reconciling edge.1)
        (follow act afterDetach stampHalf) :=
      ⟨.inr rfl, trivial, trivial, trivial, trivial, trivial⟩
    exact List.forall_iff_forall_mem.mp honly
  · constructor
    · intro version hversion
      contradiction
    · intro take htake
      contradiction

end Songmaker.References
