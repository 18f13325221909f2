import Songmaker.References.ReferenceRecordings

namespace Songmaker.References

open Songmaker.Foundation

variable {Id Tx : Type}

namespace State

/-- No version links the recording. -/
def NoVersion (s : State Id Tx) (reference : Id) : Prop :=
  ∀ version ∈ s.versions, version.reference ≠ some reference

def NoTake (s : State Id Tx) (reference : Id) : Prop :=
  ∀ take ∈ s.takes, take.reference ≠ some reference

/-- Neither a version nor a take links the recording. -/
def Unlinked (s : State Id Tx) (reference : Id) : Prop :=
  s.NoVersion reference ∧ s.NoTake reference

/-- The recording is not marked as kept. -/
def Unkept (s : State Id Tx) (reference : Id) : Prop :=
  ∀ recording, s.recordings reference = some recording → recording.isKept = false

def Holds (s : State Id Tx) (tx : Tx) (reference : Id) (mode : LockMode) : Prop :=
  (tx, reference, mode) ∈ s.referenceLocks

def HoldsSong (s : State Id Tx) (tx : Tx) (song : Id) : Prop :=
  (tx, song) ∈ s.songLocks

end State

/-- A stamped recording is in use nowhere. -/
def StampedUnused (s : State Id Tx) : Prop :=
  ∀ reference recording, s.recordings reference = some recording →
    recording.unusedSince ≠ none → recording.isKept = false ∧ s.Unlinked reference

section

variable (s : State Id Tx) (tx : Tx)

/-- A transaction may link a recording that it has locked and marked used, and a
save one that a version of its locked song links. -/
def Attaches (clears : Option Id) (reference : Id) : Prop :=
  clears = some reference ∧ s.Holds tx reference .noKeyUpdate ∧ s.recordings reference ≠ none

/-- A version of the locked song links the recording already. -/
def Carries (song reference : Id) : Prop :=
  s.HoldsSong tx song ∧ ∃ version ∈ s.versions, version.song = song ∧
    version.reference = some reference

/-- The rows may come to link the recording: it was attached, or the song has it already. -/
def MayLink (clears : Option Id) (song : Id) (reference : Option Id) : Prop :=
  ∀ linked, reference = some linked → Attaches s tx clears linked ∨ Carries s tx song linked

/-- A row that is to be stamped stays locked, and is not kept once the transaction ends. -/
def Stampable (unkeeps : Option Id) (reference : Id) : Prop :=
  s.Holds tx reference .forUpdate ∧ (unkeeps = some reference ∨ s.Unkept reference)

/-- What holds of the committed rows until a transaction commits its change. -/
def ChangeOk : Change Id → Prop
  | .addReference _ | .removeTakes _ | .clear _ => True
  | .insertVersion clears row => MayLink s tx clears row.song row.reference
  | .rewriteVersion clears row => MayLink s tx clears row.song row.reference ∧
      s.HoldsSong tx row.song ∧ ∃ old ∈ s.versions, old.id = row.id ∧ old.song = row.song
  | .removeVersion version _ => ∃ old ∈ s.versions, old.id = version ∧ s.HoldsSong tx old.song
  | .addTake clears row => ∀ linked, row.reference = some linked → Attaches s tx clears linked
  | .removeSongs songs => ∀ song ∈ songs, s.HoldsSong tx song
  | .keep reference => s.Holds tx reference .forUpdate
  | .stamp unkeeps rows => ∀ reference ∈ rows, Stampable s tx unkeeps reference ∧
      s.Unlinked reference
  | .removeReference reference => s.Holds tx reference .forUpdate ∧ s.Unlinked reference

/-- What the transaction knows at each stage. -/
def StageOk (operation : Operation Id) : Stage Id → Prop
  | .begun => True
  | .attached => ∀ linked, operation.attaches = some linked →
      Attaches s tx operation.attaches linked
  | .songLocked song => s.HoldsSong tx song ∧
      (∀ reference set, operation = .updateSong reference set → song = reference) ∧
      ∀ linked, operation.attaches = some linked → Attaches s tx operation.attaches linked
  | .selected _ rows => operation ≠ .clearStamps →
      ∀ reference ∈ rows, Stampable s tx operation.unkeeps reference
  | .versionsCounted _ unlinked => operation ≠ .clearStamps → ∀ reference ∈ unlinked,
      Stampable s tx operation.unkeeps reference ∧ s.NoVersion reference
  | .ready change => ChangeOk s tx change

end

/-- The invariant behind the stamps: locks exclude each other, links are to rows
that exist, and each transaction may still do what it is about to do. -/
structure Inv (s : State Id Tx) : Prop where
  stamped : StampedUnused s
  foreignVersion : ∀ version ∈ s.versions, ∀ reference, version.reference = some reference →
    s.recordings reference ≠ none
  foreignTake : ∀ take ∈ s.takes, ∀ reference, take.reference = some reference →
    s.recordings reference ≠ none
  versionIds : ∀ first ∈ s.versions, ∀ second ∈ s.versions, first.id = second.id → first = second
  compatible : ∀ tx other reference mode mode', s.Holds tx reference mode →
    s.Holds other reference mode' → tx ≠ other → mode.conflicts mode' = false
  songs : ∀ tx other song, s.HoldsSong tx song → s.HoldsSong other song → tx = other
  stages : ∀ tx transaction, s.transactions tx = some transaction →
    StageOk s tx transaction.operation transaction.stage

theorem inv_empty : Inv (empty : State Id Tx) := by
  refine ⟨?_, ?_, ?_, ?_, ?_, ?_, ?_⟩
  · intro reference recording hrecording
    contradiction
  · intro version hversion
    contradiction
  · intro take htake
    contradiction
  · intro version hversion
    contradiction
  · intro tx other reference mode mode' hholds
    contradiction
  · intro tx other song hholds
    contradiction
  · intro tx transaction htransaction
    contradiction

/-! What one transaction may rely on when others commit. -/

variable {s t : State Id Tx} {tx other : Tx}

/-- What a commit of another transaction leaves to the one that holds its locks. -/
structure Frame (s t : State Id Tx) (tx : Tx) : Prop where
  holds : ∀ reference mode, s.Holds tx reference mode → t.Holds tx reference mode
  holdsSong : ∀ song, s.HoldsSong tx song → t.HoldsSong tx song
  exists_ : ∀ reference mode, s.Holds tx reference mode → s.recordings reference ≠ none →
    t.recordings reference ≠ none
  unkept : ∀ reference, s.Holds tx reference .forUpdate → s.Unkept reference → t.Unkept reference
  noVersion : ∀ reference, s.Holds tx reference .forUpdate → s.NoVersion reference →
    t.NoVersion reference
  unlinked : ∀ reference, s.Holds tx reference .forUpdate → s.Unlinked reference →
    t.Unlinked reference
  versions : ∀ version ∈ s.versions, s.HoldsSong tx version.song → version ∈ t.versions

namespace Frame

variable {clears : Option Id} {reference song : Id}

theorem attaches (hframe : Frame s t tx) (h : Attaches s tx clears reference) :
    Attaches t tx clears reference :=
  ⟨h.1, hframe.holds _ _ h.2.1, hframe.exists_ _ _ h.2.1 h.2.2⟩

theorem carries (hframe : Frame s t tx) (h : Carries s tx song reference) :
    Carries t tx song reference := by
  obtain ⟨hsong, version, hversion, rfl, hlink⟩ := h
  exact ⟨hframe.holdsSong _ hsong, version, hframe.versions version hversion hsong, rfl, hlink⟩

theorem mayLink (hframe : Frame s t tx) {linked : Option Id} (h : MayLink s tx clears song linked) :
    MayLink t tx clears song linked := by
  intro one hone
  rcases h one hone with hattaches | hcarries
  · exact .inl (hframe.attaches hattaches)
  · exact .inr (hframe.carries hcarries)

theorem stampable (hframe : Frame s t tx) {unkeeps : Option Id}
    (h : Stampable s tx unkeeps reference) : Stampable t tx unkeeps reference := by
  refine ⟨hframe.holds _ _ h.1, ?_⟩
  rcases h.2 with hunkeeps | hunkept
  · exact .inl hunkeeps
  · exact .inr (hframe.unkept _ h.1 hunkept)

theorem changeOk (hframe : Frame s t tx) {change : Change Id} (h : ChangeOk s tx change) :
    ChangeOk t tx change := by
  cases change with
  | insertVersion clears row => exact hframe.mayLink h
  | rewriteVersion clears row =>
      obtain ⟨hlink, hsong, old, hold, hid, hsame⟩ := h
      refine ⟨hframe.mayLink hlink, hframe.holdsSong _ hsong, old, ?_, hid, hsame⟩
      exact hframe.versions old hold (hsame ▸ hsong)
  | removeVersion version takes =>
      obtain ⟨old, hold, hid, hsong⟩ := h
      exact ⟨old, hframe.versions old hold hsong, hid, hframe.holdsSong _ hsong⟩
  | addTake clears row => exact fun linked hlinked => hframe.attaches (h linked hlinked)
  | removeSongs songs => exact fun song hsong => hframe.holdsSong _ (h song hsong)
  | keep reference => exact hframe.holds _ _ h
  | stamp unkeeps rows =>
      intro reference hreference
      obtain ⟨hstampable, hunlinked⟩ := h reference hreference
      exact ⟨hframe.stampable hstampable, hframe.unlinked _ hstampable.1 hunlinked⟩
  | removeReference reference =>
      exact ⟨hframe.holds _ _ h.1, hframe.unlinked _ h.1 h.2⟩
  | addReference reference => trivial
  | removeTakes takes => trivial
  | clear rows => trivial

theorem stageOk (hframe : Frame s t tx) {operation : Operation Id} {stage : Stage Id}
    (h : StageOk s tx operation stage) : StageOk t tx operation stage := by
  cases stage with
  | begun => trivial
  | attached => exact fun linked hlinked => hframe.attaches (h linked hlinked)
  | songLocked song =>
      exact ⟨hframe.holdsSong _ h.1, h.2.1, fun linked hlinked =>
        hframe.attaches (h.2.2 linked hlinked)⟩
  | selected todo rows =>
      exact fun hmark reference hreference => hframe.stampable (h hmark reference hreference)
  | versionsCounted rows unlinked =>
      intro hmark reference hreference
      obtain ⟨hstampable, hnone⟩ := h hmark reference hreference
      exact ⟨hframe.stampable hstampable, hframe.noVersion _ hstampable.1 hnone⟩
  | ready change => exact hframe.changeOk h

end Frame

theorem frame_of_same (hrecordings : t.recordings = s.recordings)
    (hversions : t.versions = s.versions) (htakes : t.takes = s.takes)
    (hholds : ∀ reference mode, s.Holds tx reference mode → t.Holds tx reference mode)
    (hsongs : ∀ song, s.HoldsSong tx song → t.HoldsSong tx song) : Frame s t tx := by
  refine ⟨hholds, hsongs, ?_, ?_, ?_, ?_, ?_⟩
  · intro reference mode _ hexists
    rwa [hrecordings]
  · intro reference _ hunkept
    rwa [State.Unkept, hrecordings]
  · intro reference _ hnone
    rwa [State.NoVersion, hversions]
  · intro reference _ hunlinked
    rwa [State.Unlinked, State.NoVersion, State.NoTake, hversions, htakes]
  · intro version hversion _
    rwa [hversions]

variable [DecidableEq Id] [DecidableEq Tx]

section Local

variable {operation : Operation Id} {stage : Stage Id} {reference song : Id} {mode : LockMode}

omit [DecidableEq Id] in
theorem transactions_setStage (hne : other ≠ tx) :
    (s.setStage tx operation stage).transactions other = s.transactions other :=
  Function.update_of_ne hne ..

omit [DecidableEq Id] in
theorem Inv.setStage (hinv : Inv s) (hstage : StageOk s tx operation stage) :
    Inv (s.setStage tx operation stage) := by
  have hframe : ∀ tx', Frame s (s.setStage tx operation stage) tx' := fun _ =>
    frame_of_same rfl rfl rfl (fun _ _ h => h) fun _ h => h
  refine ⟨hinv.stamped, hinv.foreignVersion, hinv.foreignTake, hinv.versionIds, hinv.compatible,
    hinv.songs, ?_⟩
  intro other transaction htransaction
  by_cases hother : other = tx
  · subst hother
    have hupdate : Function.update s.transactions other (some ⟨operation, stage⟩) other =
        some transaction := htransaction
    rw [Function.update_self] at hupdate
    obtain rfl := Option.some.inj hupdate
    exact (hframe other).stageOk hstage
  · rw [transactions_setStage hother] at htransaction
    exact (hframe other).stageOk (hinv.stages other transaction htransaction)

theorem conflicts_symm (mode mode' : LockMode) : mode.conflicts mode' = mode'.conflicts mode := by
  cases mode <;> cases mode' <;> rfl

theorem not_conflicts_of_lockable (hlockable : s.lockable tx reference mode = true)
    (hne : other ≠ tx) {mode' : LockMode} (hholds : s.Holds other reference mode') :
    mode.conflicts mode' = false := by
  have hheld := List.all_eq_true.mp hlockable _ hholds
  simpa [hne] using hheld

theorem Inv.withReferenceLock (hinv : Inv s) (hlockable : s.lockable tx reference mode = true) :
    Inv (s.withReferenceLock tx reference mode) := by
  have hframe : ∀ tx', Frame s (s.withReferenceLock tx reference mode) tx' := fun _ =>
    frame_of_same rfl rfl rfl (fun _ _ h => List.mem_cons_of_mem _ h) fun _ h => h
  refine ⟨hinv.stamped, hinv.foreignVersion, hinv.foreignTake, hinv.versionIds, ?_,
    hinv.songs, fun other transaction htransaction =>
      (hframe other).stageOk (hinv.stages other transaction htransaction)⟩
  intro first second one mode₁ mode₂ hfirst hsecond hne
  rcases List.mem_cons.mp hfirst with hnew | hheld
  · obtain ⟨rfl, hrest⟩ := Prod.mk.inj hnew
    obtain ⟨rfl, rfl⟩ := Prod.mk.inj hrest
    rcases List.mem_cons.mp hsecond with hnew' | hheld'
    · exact absurd (Prod.mk.inj hnew').1.symm hne
    · exact not_conflicts_of_lockable hlockable hne.symm hheld'
  · rcases List.mem_cons.mp hsecond with hnew' | hheld'
    · obtain ⟨rfl, hrest⟩ := Prod.mk.inj hnew'
      obtain ⟨rfl, rfl⟩ := Prod.mk.inj hrest
      rw [conflicts_symm]
      exact not_conflicts_of_lockable hlockable hne hheld
    · exact hinv.compatible first second one mode₁ mode₂ hheld hheld' hne

theorem Inv.withSongLocks (hinv : Inv s) {songs : List Id}
    (hlockable : ∀ song ∈ songs, s.songLockable tx song = true) :
    Inv { s with songLocks := songs.map (Prod.mk tx) ++ s.songLocks } := by
  have hframe : ∀ tx', Frame s { s with songLocks := songs.map (Prod.mk tx) ++ s.songLocks } tx' :=
    fun _ => frame_of_same rfl rfl rfl (fun _ _ h => h) fun _ h => List.mem_append_right _ h
  refine ⟨hinv.stamped, hinv.foreignVersion, hinv.foreignTake, hinv.versionIds, hinv.compatible,
    ?_, fun other transaction htransaction =>
      (hframe other).stageOk (hinv.stages other transaction htransaction)⟩
  have hfree : ∀ song ∈ songs, ∀ other, s.HoldsSong other song → other = tx := by
    intro song hsong other hholds
    have hheld := List.all_eq_true.mp (hlockable song hsong) _ hholds
    simpa using hheld
  intro first second song hfirst hsecond
  rcases List.mem_append.mp hfirst with hnew | hfirst
  · obtain ⟨one, hone, hpair⟩ := List.mem_map.mp hnew
    obtain ⟨rfl, rfl⟩ := Prod.mk.inj hpair
    rcases List.mem_append.mp hsecond with hnew' | hsecond
    · obtain ⟨_, _, hpair'⟩ := List.mem_map.mp hnew'
      exact (Prod.mk.inj hpair').1
    · exact (hfree one hone second hsecond).symm
  · rcases List.mem_append.mp hsecond with hnew' | hsecond
    · obtain ⟨one, hone, hpair⟩ := List.mem_map.mp hnew'
      obtain ⟨rfl, rfl⟩ := Prod.mk.inj hpair
      exact hfree one hone first hfirst
    · exact hinv.songs first second song hfirst hsecond

omit [DecidableEq Id] [DecidableEq Tx] in
theorem holdsSong_withSongLocks {songs : List Id} (hsong : song ∈ songs) :
    State.HoldsSong { s with songLocks := songs.map (Prod.mk tx) ++ s.songLocks } tx song :=
  List.mem_append_left _ (List.mem_map.mpr ⟨song, hsong, rfl⟩)

end Local

section Steps

omit [DecidableEq Id] in
theorem Inv.attachNone (hinv : Inv s) {operation : Operation Id}
    (hnone : operation.attaches = none) : Inv (s.setStage tx operation .attached) := by
  refine hinv.setStage ?_
  intro linked hlinked
  rw [hnone] at hlinked
  contradiction

theorem Inv.attachSome (hinv : Inv s) {operation : Operation Id} {reference : Id}
    (hreference : operation.attaches = some reference)
    (hguard : (s.recordings reference).isSome ∧ s.lockable tx reference .noKeyUpdate) :
    Inv ((s.withReferenceLock tx reference .noKeyUpdate).setStage tx operation .attached) := by
  refine (hinv.withReferenceLock hguard.2).setStage ?_
  intro linked hlinked
  obtain rfl := Option.some.inj (hreference.symm.trans hlinked)
  exact ⟨hreference, List.mem_cons_self, Option.isSome_iff_ne_none.mp hguard.1⟩

theorem Inv.attachReference (hinv : Inv s) (hstep : s.attachReference tx = some t) : Inv t := by
  rw [State.attachReference] at hstep
  split at hstep
  · split at hstep
    all_goals first | contradiction | skip
    all_goals
      split at hstep
      · rename_i hnone
        obtain rfl := Option.some.inj hstep
        exact hinv.attachNone hnone
      · rename_i hreference
        split at hstep
        · rename_i hguard
          obtain rfl := Option.some.inj hstep
          exact hinv.attachSome hreference hguard
        · contradiction
  · contradiction

theorem Inv.lockSong (hinv : Inv s) (hstep : s.lockSong tx = some t) : Inv t := by
  rw [State.lockSong] at hstep
  split at hstep
  · rename_i song set hstage
    split at hstep
    · rename_i hfree
      obtain rfl := Option.some.inj hstep
      have hattached := hinv.stages tx _ hstage
      have hlocked : Inv { s with songLocks := [song].map (Prod.mk tx) ++ s.songLocks } := by
        refine hinv.withSongLocks ?_
        intro other hother
        rw [List.mem_singleton.mp hother]
        exact hfree
      refine hlocked.setStage ⟨holdsSong_withSongLocks (List.mem_singleton_self song), ?_,
        hattached⟩
      rintro other set' heq
      cases heq
      rfl
    · contradiction
  · split at hstep
    · rename_i row hrow
      split at hstep
      · rename_i hfree
        obtain rfl := Option.some.inj hstep
        have hlocked : Inv { s with songLocks := [row.song].map (Prod.mk tx) ++ s.songLocks } := by
          refine hinv.withSongLocks ?_
          intro other hother
          rw [List.mem_singleton.mp hother]
          exact hfree
        refine hlocked.setStage ⟨holdsSong_withSongLocks (List.mem_singleton_self row.song), ?_, ?_⟩
        · rintro other set heq
          cases heq
        · intro linked hlinked
          contradiction
      · contradiction
    · contradiction
  · contradiction

theorem Inv.writeLink (hinv : Inv s) {reference : Option Id}
    (hstep : s.writeLink tx reference = some t) : Inv t ∧ Frame s t tx := by
  unfold State.writeLink at hstep
  split at hstep
  · obtain rfl := Option.some.inj hstep
    exact ⟨hinv, frame_of_same rfl rfl rfl (fun _ _ h => h) fun _ h => h⟩
  · split at hstep
    · rename_i hguard
      obtain rfl := Option.some.inj hstep
      exact ⟨hinv.withReferenceLock hguard.2,
        frame_of_same rfl rfl rfl (fun _ _ h => List.mem_cons_of_mem _ h) fun _ h => h⟩
    · contradiction

omit [DecidableEq Tx] in
theorem mem_of_latestVersion {song : Id} {version : Version Id}
    (hlatest : s.latestVersion song = some version) :
    version ∈ s.versions ∧ version.song = song := by
  have hmem := List.argmax_mem hlatest
  simpa using List.mem_filter.mp hmem

omit [DecidableEq Id] [DecidableEq Tx] in
theorem mayLink_save {song : Id} {set : Option (Option Id)} {previous : Option (Version Id)}
    (hsong : s.HoldsSong tx song) (hprevious : ∀ version, previous = some version →
      version ∈ s.versions ∧ version.song = song)
    (hattached : ∀ linked, set.join = some linked → Attaches s tx set.join linked) :
    MayLink s tx set.join song (set.getD (previous.bind (·.reference))) := by
  intro linked hlinked
  rcases set with _ | reference
  · obtain ⟨version, hversion, hlink⟩ := Option.bind_eq_some_iff.mp hlinked
    obtain ⟨hmem, hsame⟩ := hprevious version hversion
    exact .inr ⟨hsong, version, hmem, hsame, hlink⟩
  · exact .inl (hattached linked hlinked)

theorem Inv.saveVersion (hinv : Inv s) {rewrites : Bool} {newId : Id}
    (hstep : s.saveVersion tx rewrites newId = some t) : Inv t := by
  rw [State.saveVersion] at hstep
  split at hstep
  · rename_i song set locked hstage
    obtain ⟨hsong, hsame, hattached⟩ := hinv.stages tx _ hstage
    obtain rfl := hsame song set rfl
    split at hstep
    · rename_i previous hlatest
      obtain ⟨next, hwrite, rfl⟩ := Option.map_eq_some_iff.mp hstep
      obtain ⟨hnext, hframe⟩ := hinv.writeLink hwrite
      obtain ⟨hmem, hown⟩ := mem_of_latestVersion hlatest
      have hprevious : ∀ version, some previous = some version →
          version ∈ s.versions ∧ version.song = locked := by
        rintro _ ⟨⟩
        exact ⟨hmem, hown⟩
      have hlink := mayLink_save hsong hprevious hattached
      rw [← hown] at hlink hsong
      have hchange : ChangeOk s tx (.rewriteVersion set.join
          { previous with reference := set.getD previous.reference }) :=
        ⟨hlink, hsong, previous, hmem, rfl, rfl⟩
      exact hnext.setStage (hframe.changeOk hchange)
    · contradiction
    · obtain ⟨next, hwrite, rfl⟩ := Option.map_eq_some_iff.mp hstep
      obtain ⟨hnext, hframe⟩ := hinv.writeLink hwrite
      have hlink := mayLink_save hsong (fun version hversion => mem_of_latestVersion hversion)
        hattached
      have hchange : ChangeOk s tx (.insertVersion set.join
          ⟨newId, locked, ((s.latestVersion locked).elim 0 (·.versionNumber)) + 1,
            set.getD ((s.latestVersion locked).bind (·.reference))⟩) := hlink
      exact hnext.setStage (hframe.changeOk hchange)
  · contradiction

theorem Inv.prepare (hinv : Inv s) {newId : Id} (hstep : s.prepare tx newId = some t) : Inv t := by
  rw [State.prepare] at hstep
  split at hstep
  · obtain rfl := Option.some.inj hstep
    exact hinv.setStage trivial
  · rename_i song reference hstage
    obtain rfl := Option.some.inj hstep
    have hattached := hinv.stages tx _ hstage
    exact hinv.setStage fun linked hlinked => .inl (hattached linked hlinked)
  · rename_i version deleteGenerations song hstage
    split at hstep
    · rename_i hexists
      obtain rfl := Option.some.inj hstep
      obtain ⟨hsong, -⟩ := hinv.stages tx _ hstage
      obtain ⟨row, hrow, hsame⟩ := List.any_eq_true.mp hexists
      obtain ⟨hid, hown⟩ : row.id = version ∧ row.song = song := by simpa using hsame
      exact hinv.setStage ⟨row, hrow, hid, hown ▸ hsong⟩
    · contradiction
  · rename_i song version reference hstage
    obtain rfl := Option.some.inj hstep
    have hattached := hinv.stages tx _ hstage
    exact hinv.setStage fun linked hlinked => hattached linked hlinked
  · obtain rfl := Option.some.inj hstep
    exact hinv.setStage trivial
  · rename_i songs hstage
    split at hstep
    · rename_i hfree
      obtain rfl := Option.some.inj hstep
      refine (hinv.withSongLocks (List.all_eq_true.mp hfree)).setStage ?_
      exact fun song hsong => holdsSong_withSongLocks hsong
    · contradiction
  · contradiction

omit [DecidableEq Tx] in
theorem noVersion_iff {reference : Id} : s.versionLinks reference = 0 ↔ s.NoVersion reference := by
  simp [State.versionLinks, State.NoVersion, List.countP_eq_zero]

omit [DecidableEq Tx] in
theorem noTake_iff {reference : Id} : s.takeLinks reference = 0 ↔ s.NoTake reference := by
  simp [State.takeLinks, State.NoTake, List.countP_eq_zero]

omit [DecidableEq Id] [DecidableEq Tx] in
theorem unkept_of_stampable {reference : Id} (hstampable : s.stampable reference = true) :
    s.Unkept reference := by
  intro recording hrecording
  rw [State.stampable, hrecording, Option.any_some, Bool.and_eq_true] at hstampable
  simpa using hstampable.2

theorem Inv.lockReference (hinv : Inv s) (hstep : s.lockReference tx = some t) : Inv t := by
  rw [State.lockReference] at hstep
  split at hstep
  · split at hstep
    · rename_i hguard
      obtain rfl := Option.some.inj hstep
      exact (hinv.withReferenceLock hguard.2).setStage List.mem_cons_self
    · contradiction
  · rename_i reference hstage
    split at hstep
    · rename_i hguard
      obtain rfl := Option.some.inj hstep
      refine (hinv.withReferenceLock hguard.2).setStage ?_
      split
      · intro _ one hone
        split at hone
        · contradiction
        · obtain rfl := List.mem_singleton.mp hone
          exact ⟨List.mem_cons_self, .inl rfl⟩
      · intro one hone
        contradiction
    · contradiction
  · split at hstep
    · rename_i hguard
      obtain rfl := Option.some.inj hstep
      obtain ⟨-, hlockable, hversions, htakes⟩ := hguard
      exact (hinv.withReferenceLock hlockable).setStage
        ⟨List.mem_cons_self, noVersion_iff.mp hversions, noTake_iff.mp htakes⟩
    · contradiction
  · contradiction

omit [DecidableEq Id] in
theorem Inv.select (hinv : Inv s) {ids : List Id} (hstep : s.select tx ids = some t) : Inv t := by
  rw [State.select] at hstep
  split at hstep
  · obtain rfl := Option.some.inj hstep
    refine hinv.setStage ?_
    intro _ one hone
    contradiction
  · obtain rfl := Option.some.inj hstep
    exact hinv.setStage trivial
  · obtain rfl := Option.some.inj hstep
    exact hinv.setStage fun hmark => absurd rfl hmark
  · contradiction

theorem Inv.lockNext (hinv : Inv s) (hstep : s.lockNext tx = some t) : Inv t := by
  rw [State.lockNext] at hstep
  split at hstep
  · rename_i operation reference todo rows hstage
    have hrows := hinv.stages tx _ hstage
    split at hstep
    · rename_i hfree
      split at hstep
      · rename_i hfound
        obtain rfl := Option.some.inj hstep
        have hframe : Frame s (s.withReferenceLock tx reference .forUpdate) tx :=
          frame_of_same rfl rfl rfl (fun _ _ h => List.mem_cons_of_mem _ h) fun _ h => h
        refine (hinv.withReferenceLock hfree).setStage ?_
        intro hmark one hone
        rcases List.mem_append.mp hone with hold | hnew
        · exact hframe.stampable (hrows hmark one hold)
        · obtain rfl := List.mem_singleton.mp hnew
          rw [State.wanted, if_neg hmark] at hfound
          exact ⟨List.mem_cons_self, .inr (unkept_of_stampable hfound)⟩
      · obtain rfl := Option.some.inj hstep
        exact hinv.setStage hrows
    · contradiction
  · contradiction

theorem Inv.countVersions (hinv : Inv s) (hstep : s.countVersions tx = some t) : Inv t := by
  rw [State.countVersions] at hstep
  split at hstep
  · rename_i operation rows hstage
    obtain rfl := Option.some.inj hstep
    have hrows := hinv.stages tx _ hstage
    refine hinv.setStage ?_
    intro hmark reference hreference
    obtain ⟨hrow, hnone⟩ := List.mem_filter.mp hreference
    exact ⟨hrows hmark reference hrow, noVersion_iff.mp (of_decide_eq_true hnone)⟩
  · contradiction

theorem Inv.countTakes (hinv : Inv s) (hstep : s.countTakes tx = some t) : Inv t := by
  rw [State.countTakes] at hstep
  split at hstep
  · rename_i operation rows unlinked hstage
    obtain rfl := Option.some.inj hstep
    have hunlinked := hinv.stages tx _ hstage
    refine hinv.setStage ?_
    split
    · trivial
    · rename_i hmark
      intro reference hreference
      obtain ⟨hrow, hnone⟩ := List.mem_filter.mp hreference
      obtain ⟨hstampable, hversion⟩ := hunlinked hmark reference hrow
      exact ⟨hstampable, hversion, noTake_iff.mp (of_decide_eq_true hnone)⟩
  · contradiction

end Steps

section Commit

variable {change : Change Id} {now : Nat}

omit [DecidableEq Id] [DecidableEq Tx] in
theorem not_holds (hinv : Inv s) (hne : other ≠ tx) {reference : Id} {mode mode' : LockMode}
    (hconflict : mode.conflicts mode' = true) (hown : s.Holds tx reference mode) :
    ¬ s.Holds other reference mode' := by
  intro hother
  rw [hinv.compatible tx other reference mode mode' hown hother hne.symm] at hconflict
  contradiction

omit [DecidableEq Id] [DecidableEq Tx] in
theorem not_holdsSong (hinv : Inv s) (hne : other ≠ tx) {song : Id} (hown : s.HoldsSong tx song) :
    ¬ s.HoldsSong other song :=
  fun hother => hne (hinv.songs other tx song hother hown)

omit [DecidableEq Id] [DecidableEq Tx] in
/-- A row that another transaction has locked `FOR UPDATE`, and that no version
links, gets no link by a change. -/
theorem MayLink.ne_locked (hinv : Inv s) (hne : other ≠ tx) {clears linked : Option Id}
    {song reference : Id} (hlink : MayLink s tx clears song linked)
    (hlocked : s.Holds other reference .forUpdate) (hnone : s.NoVersion reference) :
    linked ≠ some reference := by
  intro hlinked
  rcases hlink reference hlinked with ⟨-, hholds, -⟩ | ⟨-, version, hversion, -, hsame⟩
  · exact not_holds hinv hne rfl hholds hlocked
  · exact hnone version hversion hsame

omit [DecidableEq Tx] in
theorem markUsed_some {clears : Option Id} {reference : Id} {recording : ReferenceRecording}
    (hrecording : s.markUsed clears reference = some recording) :
    ∃ old, s.recordings reference = some old ∧ recording.isKept = old.isKept ∧
      (recording.unusedSince ≠ none → old.unusedSince ≠ none ∧ clears ≠ some reference) := by
  rcases clears with _ | cleared
  · exact ⟨recording, hrecording, rfl, fun hstamp => ⟨hstamp, (Option.some_ne_none _).symm⟩⟩
  · rw [State.markUsed, State.setRecording] at hrecording
    by_cases hsame : reference = cleared
    · subst hsame
      rw [Function.update_self] at hrecording
      obtain ⟨old, hold, rfl⟩ := Option.map_eq_some_iff.mp hrecording
      exact ⟨old, hold, rfl, fun hstamp => absurd rfl hstamp⟩
    · rw [Function.update_of_ne hsame] at hrecording
      refine ⟨recording, hrecording, rfl, fun hstamp => ⟨hstamp, ?_⟩⟩
      intro hcleared
      exact hsame (Option.some.inj hcleared).symm

omit [DecidableEq Tx] in
theorem markUsed_ne_none {clears : Option Id} {reference : Id}
    (hexists : s.recordings reference ≠ none) : s.markUsed clears reference ≠ none := by
  rcases clears with _ | cleared
  · exact hexists
  · rw [State.markUsed, State.setRecording]
    by_cases hsame : reference = cleared
    · subst hsame
      rwa [Function.update_self, ne_eq, Option.map_eq_none_iff]
    · rwa [Function.update_of_ne hsame]

omit [DecidableEq Id] [DecidableEq Tx] in
/-- A change of recordings that keeps the rows others have locked, and does not
make them kept. -/
theorem frame_of_recordings {recordings : Id → Option ReferenceRecording}
    (hexists : ∀ reference mode, s.Holds other reference mode → s.recordings reference ≠ none →
      recordings reference ≠ none)
    (hunkept : ∀ reference, s.Holds other reference .forUpdate → s.Unkept reference →
      ∀ recording, recordings reference = some recording → recording.isKept = false) :
    Frame s { s with recordings := recordings } other :=
  ⟨fun _ _ h => h, fun _ h => h, hexists, hunkept, fun _ _ h => h, fun _ _ h => h, fun _ h _ => h⟩

omit [DecidableEq Tx] in
theorem frame_addReference {reference : Id}
    (happly : s.apply now (.addReference reference) = some t) : Frame s t other := by
  rw [State.apply] at happly
  split at happly
  · rename_i hfresh
    obtain rfl := Option.some.inj happly
    refine frame_of_recordings ?_ ?_
    · intro one mode _ hexists
      by_cases hsame : one = reference
      · subst hsame
        rw [Function.update_self]
        exact Option.some_ne_none _
      · rwa [Function.update_of_ne hsame]
    · intro one _ hunkept recording hrecording
      by_cases hsame : one = reference
      · subst hsame
        rw [Function.update_self] at hrecording
        obtain rfl := Option.some.inj hrecording
        rfl
      · rw [Function.update_of_ne hsame] at hrecording
        exact hunkept recording hrecording
  · contradiction

omit [DecidableEq Tx] in
theorem Inv.frame_insertVersion {clears : Option Id} {row : Version Id} (hinv : Inv s)
    (hok : ChangeOk s tx (.insertVersion clears row))
    (happly : s.apply now (.insertVersion clears row) = some t) (hne : other ≠ tx) :
    Frame s t other := by
  rw [State.apply] at happly
  split at happly
  · obtain rfl := Option.some.inj happly
    have hnone : ∀ reference, s.Holds other reference .forUpdate → s.NoVersion reference →
        ∀ version ∈ s.versions ++ [row], version.reference ≠ some reference := by
      intro reference hlocked hnone version hversion
      rcases List.mem_append.mp hversion with hold | hnew
      · exact hnone version hold
      · obtain rfl := List.mem_singleton.mp hnew
        exact MayLink.ne_locked hinv hne hok hlocked hnone
    refine ⟨fun _ _ h => h, fun _ h => h, fun _ _ _ => markUsed_ne_none, ?_, hnone, ?_,
      fun _ h _ => List.mem_append_left _ h⟩
    · intro reference _ hunkept recording hrecording
      obtain ⟨old, hold, hkept, -⟩ := markUsed_some hrecording
      rw [hkept]
      exact hunkept old hold
    · exact fun reference hlocked hunlinked => ⟨hnone reference hlocked hunlinked.1, hunlinked.2⟩
  · contradiction

omit [DecidableEq Tx] in
theorem Inv.frame_rewriteVersion {clears : Option Id} {row : Version Id} (hinv : Inv s)
    (hok : ChangeOk s tx (.rewriteVersion clears row))
    (happly : s.apply now (.rewriteVersion clears row) = some t) (hne : other ≠ tx) :
    Frame s t other := by
  obtain ⟨hlink, hsong, old, hold, hid, hsame⟩ := hok
  obtain rfl := Option.some.inj happly
  have hnone : ∀ reference, s.Holds other reference .forUpdate → s.NoVersion reference →
      ∀ version ∈ s.versions.map fun one => if one.id = row.id then row else one,
        version.reference ≠ some reference := by
    intro reference hlocked hnone version hversion
    obtain ⟨one, hone, rfl⟩ := List.mem_map.mp hversion
    split
    · exact MayLink.ne_locked hinv hne hlink hlocked hnone
    · exact hnone one hone
  refine ⟨fun _ _ h => h, fun _ h => h, fun _ _ _ => markUsed_ne_none, ?_, hnone, ?_, ?_⟩
  · intro reference _ hunkept recording hrecording
    obtain ⟨before, hbefore, hkept, -⟩ := markUsed_some hrecording
    rw [hkept]
    exact hunkept before hbefore
  · exact fun reference hlocked hunlinked => ⟨hnone reference hlocked hunlinked.1, hunlinked.2⟩
  · intro version hversion hholds
    have hother : version.id ≠ row.id := by
      intro heq
      obtain rfl := hinv.versionIds version hversion old hold (heq.trans hid.symm)
      exact not_holdsSong hinv hne hsong (hsame ▸ hholds)
    exact List.mem_map.mpr ⟨version, hversion, if_neg hother⟩

omit [DecidableEq Tx] in
theorem Inv.frame_removeVersion {version : Id} {takes : List Id} (hinv : Inv s)
    (hok : ChangeOk s tx (.removeVersion version takes))
    (happly : s.apply now (.removeVersion version takes) = some t) (hne : other ≠ tx) :
    Frame s t other := by
  obtain ⟨old, hold, rfl, hsong⟩ := hok
  obtain rfl := Option.some.inj happly
  refine ⟨fun _ _ h => h, fun _ h => h, fun _ _ _ h => h, fun _ _ h => h, ?_, ?_, ?_⟩
  · exact fun reference _ hnone one hone => hnone one (List.mem_of_mem_filter hone)
  · rintro reference - ⟨hversions, htakes⟩
    refine ⟨fun one hone => hversions one (List.mem_of_mem_filter hone), ?_⟩
    intro take htake
    obtain ⟨one, hone, rfl⟩ := List.mem_map.mp htake
    have hlink := htakes one (List.mem_of_mem_filter hone)
    split
    · exact hlink
    · exact hlink
  · intro one hone hholds
    refine List.mem_filter.mpr ⟨hone, decide_eq_true ?_⟩
    intro heq
    obtain rfl := hinv.versionIds one hone old hold heq
    exact not_holdsSong hinv hne hsong hholds

omit [DecidableEq Tx] in
theorem Inv.frame_addTake {clears : Option Id} {row : Generation Id} (hinv : Inv s)
    (hok : ChangeOk s tx (.addTake clears row))
    (happly : s.apply now (.addTake clears row) = some t) (hne : other ≠ tx) : Frame s t other := by
  obtain rfl := Option.some.inj happly
  refine ⟨fun _ _ h => h, fun _ h => h, fun _ _ _ => markUsed_ne_none, ?_, fun _ _ h => h, ?_,
    fun _ h _ => h⟩
  · intro reference _ hunkept recording hrecording
    obtain ⟨old, hold, hkept, -⟩ := markUsed_some hrecording
    rw [hkept]
    exact hunkept old hold
  · rintro reference hlocked ⟨hversions, htakes⟩
    refine ⟨hversions, ?_⟩
    intro take htake hlinked
    rcases List.mem_append.mp htake with hold | hnew
    · exact htakes take hold hlinked
    · obtain rfl := List.mem_singleton.mp hnew
      exact not_holds hinv hne rfl (hok reference hlinked).2.1 hlocked

omit [DecidableEq Tx] in
theorem frame_removeTakes {takes : List Id} (happly : s.apply now (.removeTakes takes) = some t) :
    Frame s t other := by
  obtain rfl := Option.some.inj happly
  refine ⟨fun _ _ h => h, fun _ h => h, fun _ _ _ h => h, fun _ _ h => h, fun _ _ h => h, ?_,
    fun _ h _ => h⟩
  rintro reference - ⟨hversions, htakes⟩
  exact ⟨hversions, fun take htake => htakes take (List.mem_of_mem_filter htake)⟩

omit [DecidableEq Tx] in
theorem Inv.frame_removeSongs {songs : List Id} (hinv : Inv s)
    (hok : ChangeOk s tx (.removeSongs songs)) (happly : s.apply now (.removeSongs songs) = some t)
    (hne : other ≠ tx) : Frame s t other := by
  obtain rfl := Option.some.inj happly
  refine ⟨fun _ _ h => h, fun _ h => h, fun _ _ _ h => h, fun _ _ h => h, ?_, ?_, ?_⟩
  · exact fun reference _ hnone one hone => hnone one (List.mem_of_mem_filter hone)
  · rintro reference - ⟨hversions, htakes⟩
    exact ⟨fun one hone => hversions one (List.mem_of_mem_filter hone),
      fun take htake => htakes take (List.mem_of_mem_filter htake)⟩
  · intro one hone hholds
    refine List.mem_filter.mpr ⟨hone, decide_eq_true ?_⟩
    intro hsong
    exact not_holdsSong hinv hne (hok one.song hsong) hholds

omit [DecidableEq Tx] in
theorem Inv.frame_keep {reference : Id} (hinv : Inv s) (hok : ChangeOk s tx (.keep reference))
    (happly : s.apply now (.keep reference) = some t) (hne : other ≠ tx) : Frame s t other := by
  obtain rfl := Option.some.inj happly
  refine frame_of_recordings ?_ ?_
  · intro one mode _ hexists
    rw [State.setRecording]
    by_cases hsame : one = reference
    · subst hsame
      rwa [Function.update_self, ne_eq, Option.map_eq_none_iff]
    · rwa [Function.update_of_ne hsame]
  · intro one hlocked hunkept recording hrecording
    rw [State.setRecording] at hrecording
    by_cases hsame : one = reference
    · subst hsame
      exact absurd hlocked (not_holds hinv hne rfl hok)
    · rw [Function.update_of_ne hsame] at hrecording
      exact hunkept recording hrecording

omit [DecidableEq Tx] in
theorem frame_stamp {unkeeps : Option Id} {rows : List Id}
    (happly : s.apply now (.stamp unkeeps rows) = some t) : Frame s t other := by
  obtain rfl := Option.some.inj happly
  refine frame_of_recordings ?_ ?_
  · intro one mode _ hexists
    rwa [ne_eq, Option.map_eq_none_iff]
  · intro one _ hunkept recording hrecording
    obtain ⟨old, hold, rfl⟩ := Option.map_eq_some_iff.mp hrecording
    simp [hunkept old hold]

omit [DecidableEq Tx] in
theorem frame_clear {rows : List Id} (happly : s.apply now (.clear rows) = some t) :
    Frame s t other := by
  obtain rfl := Option.some.inj happly
  refine frame_of_recordings ?_ ?_
  · intro one mode _ hexists
    rwa [ne_eq, Option.map_eq_none_iff]
  · intro one _ hunkept recording hrecording
    obtain ⟨old, hold, rfl⟩ := Option.map_eq_some_iff.mp hrecording
    have hkept := hunkept old hold
    split
    · exact hkept
    · exact hkept

omit [DecidableEq Tx] in
theorem Inv.frame_removeReference {reference : Id} (hinv : Inv s)
    (hok : ChangeOk s tx (.removeReference reference))
    (happly : s.apply now (.removeReference reference) = some t) (hne : other ≠ tx) :
    Frame s t other := by
  obtain rfl := Option.some.inj happly
  refine frame_of_recordings ?_ ?_
  · intro one mode hholds hexists
    by_cases hsame : one = reference
    · subst hsame
      exact absurd hholds (not_holds hinv hne rfl hok.1)
    · rwa [Function.update_of_ne hsame]
  · intro one _ hunkept recording hrecording
    by_cases hsame : one = reference
    · subst hsame
      rw [Function.update_self] at hrecording
      contradiction
    · rw [Function.update_of_ne hsame] at hrecording
      exact hunkept recording hrecording

omit [DecidableEq Tx] in
theorem Inv.frame_apply (hinv : Inv s) (hok : ChangeOk s tx change)
    (happly : s.apply now change = some t) (hne : other ≠ tx) : Frame s t other := by
  cases change with
  | addReference reference => exact frame_addReference happly
  | insertVersion clears row => exact hinv.frame_insertVersion hok happly hne
  | rewriteVersion clears row => exact hinv.frame_rewriteVersion hok happly hne
  | removeVersion version takes => exact hinv.frame_removeVersion hok happly hne
  | addTake clears row => exact hinv.frame_addTake hok happly hne
  | removeTakes takes => exact frame_removeTakes happly
  | removeSongs songs => exact hinv.frame_removeSongs hok happly hne
  | keep reference => exact hinv.frame_keep hok happly hne
  | stamp unkeeps rows => exact frame_stamp happly
  | clear rows => exact frame_clear happly
  | removeReference reference => exact hinv.frame_removeReference hok happly hne

omit [DecidableEq Id] [DecidableEq Tx] in
theorem MayLink.exists_ (hinv : Inv s) {clears linked : Option Id} {song reference : Id}
    (hlink : MayLink s tx clears song linked) (hlinked : linked = some reference) :
    s.recordings reference ≠ none := by
  rcases hlink reference hlinked with ⟨-, -, hexists⟩ | ⟨-, version, hversion, -, hsame⟩
  · exact hexists
  · exact hinv.foreignVersion version hversion reference hsame

omit [DecidableEq Id] [DecidableEq Tx] in
theorem MayLink.ne_unlinked {clears linked : Option Id} {song reference : Id}
    (hlink : MayLink s tx clears song linked) (hclears : clears ≠ some reference)
    (hnone : s.NoVersion reference) : linked ≠ some reference := by
  intro hlinked
  rcases hlink reference hlinked with ⟨hclear, -⟩ | ⟨-, version, hversion, -, hsame⟩
  · exact hclears hclear
  · exact hnone version hversion hsame

omit [DecidableEq Tx] in
theorem stampedUnused_markUsed (hstamped : StampedUnused s) {clears : Option Id}
    {versions : List (Version Id)} {takes : List (Generation Id)}
    (hversions : ∀ reference, clears ≠ some reference → s.NoVersion reference →
      ∀ version ∈ versions, version.reference ≠ some reference)
    (htakes : ∀ reference, clears ≠ some reference → s.NoTake reference →
      ∀ take ∈ takes, take.reference ≠ some reference) :
    StampedUnused
      { s with recordings := s.markUsed clears, versions := versions, takes := takes } := by
  intro reference recording hrecording hstamp
  obtain ⟨old, hold, hkept, hbefore⟩ := markUsed_some hrecording
  obtain ⟨hstampedBefore, hclears⟩ := hbefore hstamp
  obtain ⟨hunkept, hnoVersion, hnoTake⟩ := hstamped reference old hold hstampedBefore
  exact ⟨hkept.trans hunkept, hversions reference hclears hnoVersion,
    htakes reference hclears hnoTake⟩

omit [DecidableEq Tx] in
theorem Inv.stamped_addReference {reference : Id} (hinv : Inv s)
    (happly : s.apply now (.addReference reference) = some t) : StampedUnused t := by
  rw [State.apply] at happly
  split at happly
  · rename_i hfresh
    obtain rfl := Option.some.inj happly
    intro one recording hrecording hstamp
    have hupdate : Function.update s.recordings reference (some ⟨false, some now⟩) one =
        some recording := hrecording
    by_cases hsame : one = reference
    · subst hsame
      rw [Function.update_self] at hupdate
      obtain rfl := Option.some.inj hupdate
      rw [Option.isNone_iff_eq_none] at hfresh
      exact ⟨rfl, fun version hversion hlink =>
          hinv.foreignVersion version hversion one hlink hfresh,
        fun take htake hlink => hinv.foreignTake take htake one hlink hfresh⟩
    · rw [Function.update_of_ne hsame] at hupdate
      exact hinv.stamped one recording hupdate hstamp
  · contradiction

omit [DecidableEq Tx] in
theorem Inv.stamped_insertVersion {clears : Option Id} {row : Version Id} (hinv : Inv s)
    (hok : ChangeOk s tx (.insertVersion clears row))
    (happly : s.apply now (.insertVersion clears row) = some t) : StampedUnused t := by
  rw [State.apply] at happly
  split at happly
  · obtain rfl := Option.some.inj happly
    refine stampedUnused_markUsed hinv.stamped ?_ fun _ _ hnone => hnone
    intro reference hclears hnone version hversion
    rcases List.mem_append.mp hversion with hold | hnew
    · exact hnone version hold
    · obtain rfl := List.mem_singleton.mp hnew
      exact MayLink.ne_unlinked hok hclears hnone
  · contradiction

omit [DecidableEq Tx] in
theorem Inv.stamped_rewriteVersion {clears : Option Id} {row : Version Id} (hinv : Inv s)
    (hok : ChangeOk s tx (.rewriteVersion clears row))
    (happly : s.apply now (.rewriteVersion clears row) = some t) : StampedUnused t := by
  obtain rfl := Option.some.inj happly
  refine stampedUnused_markUsed hinv.stamped ?_ fun _ _ hnone => hnone
  intro reference hclears hnone version hversion
  obtain ⟨one, hone, rfl⟩ := List.mem_map.mp hversion
  split
  · exact MayLink.ne_unlinked hok.1 hclears hnone
  · exact hnone one hone

omit [DecidableEq Tx] in
theorem Inv.stamped_removeVersion {version : Id} {takes : List Id} (hinv : Inv s)
    (happly : s.apply now (.removeVersion version takes) = some t) : StampedUnused t := by
  obtain rfl := Option.some.inj happly
  intro reference recording hrecording hstamp
  obtain ⟨hunkept, hversions, htakes⟩ := hinv.stamped reference recording hrecording hstamp
  refine ⟨hunkept, fun one hone => hversions one (List.mem_of_mem_filter hone), ?_⟩
  intro take htake
  obtain ⟨one, hone, rfl⟩ := List.mem_map.mp htake
  have hlink := htakes one (List.mem_of_mem_filter hone)
  split
  · exact hlink
  · exact hlink

omit [DecidableEq Tx] in
theorem Inv.stamped_addTake {clears : Option Id} {row : Generation Id} (hinv : Inv s)
    (hok : ChangeOk s tx (.addTake clears row))
    (happly : s.apply now (.addTake clears row) = some t) : StampedUnused t := by
  obtain rfl := Option.some.inj happly
  refine stampedUnused_markUsed hinv.stamped (fun _ _ hnone => hnone) ?_
  intro reference hclears hnone take htake hlinked
  rcases List.mem_append.mp htake with hold | hnew
  · exact hnone take hold hlinked
  · obtain rfl := List.mem_singleton.mp hnew
    exact hclears (hok reference hlinked).1

omit [DecidableEq Tx] in
theorem Inv.stamped_removeTakes {takes : List Id} (hinv : Inv s)
    (happly : s.apply now (.removeTakes takes) = some t) : StampedUnused t := by
  obtain rfl := Option.some.inj happly
  intro reference recording hrecording hstamp
  obtain ⟨hunkept, hversions, htakes⟩ := hinv.stamped reference recording hrecording hstamp
  exact ⟨hunkept, hversions, fun take htake => htakes take (List.mem_of_mem_filter htake)⟩

omit [DecidableEq Tx] in
theorem Inv.stamped_removeSongs {songs : List Id} (hinv : Inv s)
    (happly : s.apply now (.removeSongs songs) = some t) : StampedUnused t := by
  obtain rfl := Option.some.inj happly
  intro reference recording hrecording hstamp
  obtain ⟨hunkept, hversions, htakes⟩ := hinv.stamped reference recording hrecording hstamp
  exact ⟨hunkept, fun one hone => hversions one (List.mem_of_mem_filter hone),
    fun take htake => htakes take (List.mem_of_mem_filter htake)⟩

omit [DecidableEq Tx] in
theorem Inv.stamped_keep {reference : Id} (hinv : Inv s)
    (happly : s.apply now (.keep reference) = some t) : StampedUnused t := by
  obtain rfl := Option.some.inj happly
  intro one recording hrecording hstamp
  have hupdate : s.setRecording reference (fun _ => ⟨true, none⟩) one = some recording :=
    hrecording
  rw [State.setRecording] at hupdate
  by_cases hsame : one = reference
  · subst hsame
    rw [Function.update_self] at hupdate
    obtain ⟨old, -, rfl⟩ := Option.map_eq_some_iff.mp hupdate
    exact absurd rfl hstamp
  · rw [Function.update_of_ne hsame] at hupdate
    exact hinv.stamped one recording hupdate hstamp

omit [DecidableEq Tx] in
theorem Inv.stamped_stamp {unkeeps : Option Id} {rows : List Id} (hinv : Inv s)
    (hok : ChangeOk s tx (.stamp unkeeps rows))
    (happly : s.apply now (.stamp unkeeps rows) = some t) : StampedUnused t := by
  obtain rfl := Option.some.inj happly
  intro reference recording hrecording hstamp
  obtain ⟨old, hold, rfl⟩ := Option.map_eq_some_iff.mp hrecording
  by_cases hrow : reference ∈ rows
  · obtain ⟨⟨-, hkept⟩, hunlinked⟩ := hok reference hrow
    refine ⟨?_, hunlinked⟩
    rcases hkept with rfl | hunkept
    · simp
    · simp [hunkept old hold]
  · have hbefore : old.unusedSince ≠ none := by simpa [hrow] using hstamp
    obtain ⟨hunkept, hunlinked⟩ := hinv.stamped reference old hold hbefore
    exact ⟨by simp [hunkept], hunlinked⟩

omit [DecidableEq Tx] in
theorem Inv.stamped_clear {rows : List Id} (hinv : Inv s)
    (happly : s.apply now (.clear rows) = some t) : StampedUnused t := by
  obtain rfl := Option.some.inj happly
  intro reference recording hrecording hstamp
  obtain ⟨old, hold, rfl⟩ := Option.map_eq_some_iff.mp hrecording
  by_cases hrow : reference ∈ rows
  · rw [if_pos hrow] at hstamp
    exact absurd rfl hstamp
  · rw [if_neg hrow] at hstamp ⊢
    exact hinv.stamped reference old hold hstamp

omit [DecidableEq Tx] in
theorem Inv.stamped_removeReference {reference : Id} (hinv : Inv s)
    (happly : s.apply now (.removeReference reference) = some t) : StampedUnused t := by
  obtain rfl := Option.some.inj happly
  intro one recording hrecording hstamp
  have hupdate : Function.update s.recordings reference none one = some recording := hrecording
  by_cases hsame : one = reference
  · subst hsame
    rw [Function.update_self] at hupdate
    contradiction
  · rw [Function.update_of_ne hsame] at hupdate
    exact hinv.stamped one recording hupdate hstamp

omit [DecidableEq Tx] in
theorem Inv.stamped_apply (hinv : Inv s) (hok : ChangeOk s tx change)
    (happly : s.apply now change = some t) : StampedUnused t := by
  cases change with
  | addReference reference => exact hinv.stamped_addReference happly
  | insertVersion clears row => exact hinv.stamped_insertVersion hok happly
  | rewriteVersion clears row => exact hinv.stamped_rewriteVersion hok happly
  | removeVersion version takes => exact hinv.stamped_removeVersion happly
  | addTake clears row => exact hinv.stamped_addTake hok happly
  | removeTakes takes => exact hinv.stamped_removeTakes happly
  | removeSongs songs => exact hinv.stamped_removeSongs happly
  | keep reference => exact hinv.stamped_keep happly
  | stamp unkeeps rows => exact hinv.stamped_stamp hok happly
  | clear rows => exact hinv.stamped_clear happly
  | removeReference reference => exact hinv.stamped_removeReference happly

/-- The foreign keys hold after a change. -/
structure Foreign (t : State Id Tx) : Prop where
  version : ∀ version ∈ t.versions, ∀ reference, version.reference = some reference →
    t.recordings reference ≠ none
  take : ∀ take ∈ t.takes, ∀ reference, take.reference = some reference →
    t.recordings reference ≠ none

omit [DecidableEq Tx] in
theorem Inv.foreign_addReference {reference : Id} (hinv : Inv s)
    (happly : s.apply now (.addReference reference) = some t) : Foreign t := by
  rw [State.apply] at happly
  split at happly
  · obtain rfl := Option.some.inj happly
    have hexists : ∀ one, s.recordings one ≠ none →
        Function.update s.recordings reference (some ⟨false, some now⟩) one ≠ none := by
      intro one hone
      by_cases hsame : one = reference
      · subst hsame
        rw [Function.update_self]
        exact Option.some_ne_none _
      · rwa [Function.update_of_ne hsame]
    exact ⟨fun version hversion one hlink =>
        hexists one (hinv.foreignVersion version hversion one hlink),
      fun take htake one hlink => hexists one (hinv.foreignTake take htake one hlink)⟩
  · contradiction

omit [DecidableEq Tx] in
theorem Inv.foreign_insertVersion {clears : Option Id} {row : Version Id} (hinv : Inv s)
    (hok : ChangeOk s tx (.insertVersion clears row))
    (happly : s.apply now (.insertVersion clears row) = some t) : Foreign t := by
  rw [State.apply] at happly
  split at happly
  · obtain rfl := Option.some.inj happly
    refine ⟨?_, fun take htake one hlink =>
      markUsed_ne_none (hinv.foreignTake take htake one hlink)⟩
    intro version hversion one hlink
    refine markUsed_ne_none ?_
    rcases List.mem_append.mp hversion with hold | hnew
    · exact hinv.foreignVersion version hold one hlink
    · obtain rfl := List.mem_singleton.mp hnew
      exact MayLink.exists_ hinv hok hlink
  · contradiction

omit [DecidableEq Tx] in
theorem Inv.foreign_rewriteVersion {clears : Option Id} {row : Version Id} (hinv : Inv s)
    (hok : ChangeOk s tx (.rewriteVersion clears row))
    (happly : s.apply now (.rewriteVersion clears row) = some t) : Foreign t := by
  obtain rfl := Option.some.inj happly
  refine ⟨?_, fun take htake one hlink =>
    markUsed_ne_none (hinv.foreignTake take htake one hlink)⟩
  intro version hversion one hlink
  refine markUsed_ne_none ?_
  obtain ⟨old, hold, rfl⟩ := List.mem_map.mp hversion
  split at hlink
  · exact MayLink.exists_ hinv hok.1 hlink
  · exact hinv.foreignVersion old hold one hlink

omit [DecidableEq Tx] in
theorem Inv.foreign_removeVersion {version : Id} {takes : List Id} (hinv : Inv s)
    (happly : s.apply now (.removeVersion version takes) = some t) : Foreign t := by
  obtain rfl := Option.some.inj happly
  refine ⟨fun one hone => hinv.foreignVersion one (List.mem_of_mem_filter hone), ?_⟩
  intro take htake
  obtain ⟨one, hone, rfl⟩ := List.mem_map.mp htake
  have hlink := hinv.foreignTake one (List.mem_of_mem_filter hone)
  split
  · exact hlink
  · exact hlink

omit [DecidableEq Tx] in
theorem Inv.foreign_addTake {clears : Option Id} {row : Generation Id} (hinv : Inv s)
    (hok : ChangeOk s tx (.addTake clears row))
    (happly : s.apply now (.addTake clears row) = some t) : Foreign t := by
  obtain rfl := Option.some.inj happly
  refine ⟨fun version hversion one hlink =>
    markUsed_ne_none (hinv.foreignVersion version hversion one hlink), ?_⟩
  intro take htake one hlink
  refine markUsed_ne_none ?_
  rcases List.mem_append.mp htake with hold | hnew
  · exact hinv.foreignTake take hold one hlink
  · obtain rfl := List.mem_singleton.mp hnew
    exact (hok one hlink).2.2

omit [DecidableEq Tx] in
theorem Inv.foreign_keep {reference : Id} (hinv : Inv s)
    (happly : s.apply now (.keep reference) = some t) : Foreign t := by
  obtain rfl := Option.some.inj happly
  have hexists : ∀ one, s.recordings one ≠ none →
      s.setRecording reference (fun _ => ⟨true, none⟩) one ≠ none := by
    intro one hone
    rw [State.setRecording]
    by_cases hsame : one = reference
    · subst hsame
      rwa [Function.update_self, ne_eq, Option.map_eq_none_iff]
    · rwa [Function.update_of_ne hsame]
  exact ⟨fun version hversion one hlink =>
      hexists one (hinv.foreignVersion version hversion one hlink),
    fun take htake one hlink => hexists one (hinv.foreignTake take htake one hlink)⟩

omit [DecidableEq Tx] in
theorem Inv.foreign_stamp {unkeeps : Option Id} {rows : List Id} (hinv : Inv s)
    (happly : s.apply now (.stamp unkeeps rows) = some t) : Foreign t := by
  obtain rfl := Option.some.inj happly
  exact ⟨fun version hversion one hlink =>
      mt Option.map_eq_none_iff.mp (hinv.foreignVersion version hversion one hlink),
    fun take htake one hlink =>
      mt Option.map_eq_none_iff.mp (hinv.foreignTake take htake one hlink)⟩

omit [DecidableEq Tx] in
theorem Inv.foreign_clear {rows : List Id} (hinv : Inv s)
    (happly : s.apply now (.clear rows) = some t) : Foreign t := by
  obtain rfl := Option.some.inj happly
  exact ⟨fun version hversion one hlink =>
      mt Option.map_eq_none_iff.mp (hinv.foreignVersion version hversion one hlink),
    fun take htake one hlink =>
      mt Option.map_eq_none_iff.mp (hinv.foreignTake take htake one hlink)⟩

omit [DecidableEq Tx] in
theorem Inv.foreign_removeReference {reference : Id} (hinv : Inv s)
    (hok : ChangeOk s tx (.removeReference reference))
    (happly : s.apply now (.removeReference reference) = some t) : Foreign t := by
  obtain rfl := Option.some.inj happly
  obtain ⟨-, hversions, htakes⟩ := hok
  have hexists : ∀ one, one ≠ reference → s.recordings one ≠ none →
      Function.update s.recordings reference none one ≠ none := by
    intro one hsame hone
    rwa [Function.update_of_ne hsame]
  refine ⟨fun version hversion one hlink => hexists one ?_
      (hinv.foreignVersion version hversion one hlink),
    fun take htake one hlink => hexists one ?_ (hinv.foreignTake take htake one hlink)⟩
  · rintro rfl
    exact hversions version hversion hlink
  · rintro rfl
    exact htakes take htake hlink

omit [DecidableEq Tx] in
theorem Inv.foreign_apply (hinv : Inv s) (hok : ChangeOk s tx change)
    (happly : s.apply now change = some t) : Foreign t := by
  cases change with
  | addReference reference => exact hinv.foreign_addReference happly
  | insertVersion clears row => exact hinv.foreign_insertVersion hok happly
  | rewriteVersion clears row => exact hinv.foreign_rewriteVersion hok happly
  | removeVersion version takes => exact hinv.foreign_removeVersion happly
  | addTake clears row => exact hinv.foreign_addTake hok happly
  | removeTakes takes =>
      obtain rfl := Option.some.inj happly
      exact ⟨hinv.foreignVersion, fun take htake =>
        hinv.foreignTake take (List.mem_of_mem_filter htake)⟩
  | removeSongs songs =>
      obtain rfl := Option.some.inj happly
      exact ⟨fun one hone => hinv.foreignVersion one (List.mem_of_mem_filter hone),
        fun take htake => hinv.foreignTake take (List.mem_of_mem_filter htake)⟩
  | keep reference => exact hinv.foreign_keep happly
  | stamp unkeeps rows => exact hinv.foreign_stamp happly
  | clear rows => exact hinv.foreign_clear happly
  | removeReference reference => exact hinv.foreign_removeReference hok happly

omit [DecidableEq Tx] in
theorem Inv.versionIds_addReference {reference : Id} (hinv : Inv s)
    (happly : s.apply now (.addReference reference) = some t) :
    ∀ first ∈ t.versions, ∀ second ∈ t.versions, first.id = second.id → first = second := by
  rw [State.apply] at happly
  split at happly
  · obtain rfl := Option.some.inj happly
    exact hinv.versionIds
  · contradiction

omit [DecidableEq Tx] in
theorem Inv.versionIds_insertVersion {clears : Option Id} {row : Version Id} (hinv : Inv s)
    (happly : s.apply now (.insertVersion clears row) = some t) :
    ∀ first ∈ t.versions, ∀ second ∈ t.versions, first.id = second.id → first = second := by
  rw [State.apply] at happly
  split at happly
  · rename_i hfresh
    obtain rfl := Option.some.inj happly
    have hnew : ∀ version ∈ s.versions, version.id ≠ row.id := fun version hversion =>
      of_decide_eq_true (List.all_eq_true.mp hfresh version hversion)
    intro first hfirst second hsecond hid
    rcases List.mem_append.mp hfirst with hold | hrow
    · rcases List.mem_append.mp hsecond with hold' | hrow'
      · exact hinv.versionIds first hold second hold' hid
      · obtain rfl := List.mem_singleton.mp hrow'
        exact absurd hid (hnew first hold)
    · obtain rfl := List.mem_singleton.mp hrow
      rcases List.mem_append.mp hsecond with hold' | hrow'
      · exact absurd hid.symm (hnew second hold')
      · exact (List.mem_singleton.mp hrow').symm
  · contradiction

omit [DecidableEq Tx] in
theorem Inv.versionIds_rewriteVersion {clears : Option Id} {row : Version Id} (hinv : Inv s)
    (happly : s.apply now (.rewriteVersion clears row) = some t) :
    ∀ first ∈ t.versions, ∀ second ∈ t.versions, first.id = second.id → first = second := by
  obtain rfl := Option.some.inj happly
  intro first hfirst second hsecond hid
  obtain ⟨one, hone, rfl⟩ := List.mem_map.mp hfirst
  obtain ⟨two, htwo, rfl⟩ := List.mem_map.mp hsecond
  by_cases hfirstRow : one.id = row.id
  · by_cases hsecondRow : two.id = row.id
    · rw [if_pos hfirstRow, if_pos hsecondRow]
    · rw [if_pos hfirstRow, if_neg hsecondRow] at hid
      exact absurd hid.symm hsecondRow
  · by_cases hsecondRow : two.id = row.id
    · rw [if_neg hfirstRow, if_pos hsecondRow] at hid
      exact absurd hid hfirstRow
    · rw [if_neg hfirstRow, if_neg hsecondRow] at hid ⊢
      exact hinv.versionIds one hone two htwo hid

omit [DecidableEq Tx] in
theorem Inv.versionIds_apply (hinv : Inv s) (happly : s.apply now change = some t) :
    ∀ first ∈ t.versions, ∀ second ∈ t.versions, first.id = second.id → first = second := by
  have hfilter : ∀ keep : Version Id → Bool, ∀ first ∈ s.versions.filter keep,
      ∀ second ∈ s.versions.filter keep, first.id = second.id → first = second :=
    fun keep first hfirst second hsecond =>
      hinv.versionIds first (List.mem_of_mem_filter hfirst) second (List.mem_of_mem_filter hsecond)
  cases change with
  | addReference reference => exact hinv.versionIds_addReference happly
  | insertVersion clears row => exact hinv.versionIds_insertVersion happly
  | rewriteVersion clears row => exact hinv.versionIds_rewriteVersion happly
  | removeVersion version takes =>
      obtain rfl := Option.some.inj happly
      exact hfilter _
  | removeSongs songs =>
      obtain rfl := Option.some.inj happly
      exact hfilter _
  | addTake clears row =>
      obtain rfl := Option.some.inj happly
      exact hinv.versionIds
  | removeTakes takes =>
      obtain rfl := Option.some.inj happly
      exact hinv.versionIds
  | keep reference =>
      obtain rfl := Option.some.inj happly
      exact hinv.versionIds
  | stamp unkeeps rows =>
      obtain rfl := Option.some.inj happly
      exact hinv.versionIds
  | clear rows =>
      obtain rfl := Option.some.inj happly
      exact hinv.versionIds
  | removeReference reference =>
      obtain rfl := Option.some.inj happly
      exact hinv.versionIds

omit [DecidableEq Tx] in
theorem apply_rest (happly : s.apply now change = some t) :
    t.referenceLocks = s.referenceLocks ∧ t.songLocks = s.songLocks ∧
      t.transactions = s.transactions := by
  cases change with
  | addReference reference =>
      rw [State.apply] at happly
      split at happly
      · obtain rfl := Option.some.inj happly
        exact ⟨rfl, rfl, rfl⟩
      · contradiction
  | insertVersion clears row =>
      rw [State.apply] at happly
      split at happly
      · obtain rfl := Option.some.inj happly
        exact ⟨rfl, rfl, rfl⟩
      · contradiction
  | _ =>
      obtain rfl := Option.some.inj happly
      exact ⟨rfl, rfl, rfl⟩

omit [DecidableEq Id] in
theorem frame_finish (hne : other ≠ tx) : Frame s (s.finish tx) other :=
  frame_of_same rfl rfl rfl
    (fun _ _ hholds => List.mem_filter.mpr ⟨hholds, decide_eq_true hne⟩)
    fun _ hholds => List.mem_filter.mpr ⟨hholds, decide_eq_true hne⟩

omit [DecidableEq Id] in
theorem transactions_finish {transaction : Transaction Id}
    (htransaction : (s.finish tx).transactions other = some transaction) :
    other ≠ tx ∧ s.transactions other = some transaction := by
  have hupdate : Function.update s.transactions tx none other = some transaction := htransaction
  by_cases hother : other = tx
  · subst hother
    rw [Function.update_self] at hupdate
    contradiction
  · rw [Function.update_of_ne hother] at hupdate
    exact ⟨hother, hupdate⟩

omit [DecidableEq Id] in
theorem Inv.rollback (hinv : Inv s) (tx : Tx) : Inv (s.finish tx) := by
  refine ⟨hinv.stamped, hinv.foreignVersion, hinv.foreignTake, hinv.versionIds, ?_, ?_, ?_⟩
  · intro first second reference mode mode' hfirst hsecond
    exact hinv.compatible first second reference mode mode' (List.mem_of_mem_filter hfirst)
      (List.mem_of_mem_filter hsecond)
  · intro first second song hfirst hsecond
    exact hinv.songs first second song (List.mem_of_mem_filter hfirst)
      (List.mem_of_mem_filter hsecond)
  · intro other transaction htransaction
    obtain ⟨hne, hbefore⟩ := transactions_finish htransaction
    exact (frame_finish hne).stageOk (hinv.stages other transaction hbefore)

theorem Inv.commit (hinv : Inv s) (hstep : s.commit tx now = some t) : Inv t := by
  rw [State.commit] at hstep
  split at hstep
  · rename_i operation change hstage
    obtain ⟨next, happly, rfl⟩ := Option.map_eq_some_iff.mp hstep
    have hok : ChangeOk s tx change := hinv.stages tx _ hstage
    obtain ⟨hreferenceLocks, hsongLocks, htransactions⟩ := apply_rest happly
    have hforeign := hinv.foreign_apply hok happly
    have hids := hinv.versionIds_apply happly
    have hstamped := hinv.stamped_apply hok happly
    refine ⟨hstamped, hforeign.version, hforeign.take, hids, ?_, ?_, ?_⟩
    · intro first second reference mode mode' hfirst hsecond
      have hfirst' := List.mem_of_mem_filter hfirst
      have hsecond' := List.mem_of_mem_filter hsecond
      rw [hreferenceLocks] at hfirst' hsecond'
      exact hinv.compatible first second reference mode mode' hfirst' hsecond'
    · intro first second song hfirst hsecond
      have hfirst' := List.mem_of_mem_filter hfirst
      have hsecond' := List.mem_of_mem_filter hsecond
      rw [hsongLocks] at hfirst' hsecond'
      exact hinv.songs first second song hfirst' hsecond'
    · intro other transaction htransaction
      obtain ⟨hne, hafter⟩ := transactions_finish htransaction
      rw [htransactions] at hafter
      have hframe := hinv.frame_apply hok happly hne
      exact (frame_finish hne).stageOk
        (hframe.stageOk (hinv.stages other transaction hafter))
  · contradiction

theorem Inv.act (hinv : Inv s) {action : Action Id Tx} (hstep : act s action = some t) :
    Inv t := by
  cases action with
  | begin tx operation =>
      rw [References.act] at hstep
      split at hstep
      · obtain rfl := Option.some.inj hstep
        exact hinv.setStage trivial
      · contradiction
  | attachReference tx => exact hinv.attachReference hstep
  | lockSong tx => exact hinv.lockSong hstep
  | saveVersion tx rewrites newId => exact hinv.saveVersion hstep
  | prepare tx newId => exact hinv.prepare hstep
  | lockReference tx => exact hinv.lockReference hstep
  | select tx ids => exact hinv.select hstep
  | lockNext tx => exact hinv.lockNext hstep
  | countVersions tx => exact hinv.countVersions hstep
  | countTakes tx => exact hinv.countTakes hstep
  | commit tx now => exact hinv.commit hstep
  | rollback tx =>
      obtain ⟨transaction, -, rfl⟩ := Option.map_eq_some_iff.mp hstep
      exact hinv.rollback tx

theorem inv_of_reachable (hreach : (system : TransitionSystem (State Id Tx) _).Reachable s) :
    Inv s := by
  have hinvariant : (system : TransitionSystem (State Id Tx) (Action Id Tx)).Invariant Inv := by
    refine ⟨?_, fun s action t hs hstep => hs.act hstep.2⟩
    rintro _ rfl
    exact inv_empty
  exact hinvariant.of_reachable hreach

end Commit

end Songmaker.References
