import Songmaker.Player.DeckEntries

namespace Songmaker.Player.DeckInvariant

open Songmaker.Foundation
open Songmaker.Foundation.TransitionSystem
open Songmaker.Player.ContinuousDeck
open Songmaker.Player.DeckEntries

variable {Take : Type}

/-! ### The running step -/

/-- The step of the first pending take has its entry. -/
def begun : Stage → Bool
  | .idle | .removingAhead _ _ | .startingAppend => false
  | _ => true

/-- The pending takes without an entry. -/
def waiting (deck : Deck Take) : List Nat :=
  (if begun deck.stage then deck.pending.tail else deck.pending).map (·.id)

/-- What the running step knows at its await. -/
def Facts (deck : Deck Take) : Stage → Prop
  | .idle => True
  | .removingAhead ahead playingEnd =>
      playingEnd = endOf 0 (deck.entries.take ahead) ∧
        (deck.entries.take ahead).getLast? = deck.aimed ∧
          ∀ pending ∈ deck.pending.head?, pending.next = true
  | .startingAppend =>
      ∀ pending ∈ deck.pending.head?, pending.next = true → deck.entries.getLast? = deck.aimed
  | _ => ∃ rest entry, deck.entries = rest ++ [entry] ∧
      ∀ pending ∈ deck.pending.head?, pending.id = entry.id

/-- The buffer has the entries back to back, and the takes on their way follow them. -/
structure Invariant (deck : Deck Take) : Prop where
  manifest : Manifest deck.entries (waiting deck) deck.dropped deck.removed deck.requested
    deck.appended
  offset : deck.broken = false → deck.timestampOffset = endOf 0 deck.entries
  time : 0 ≤ deck.currentTime
  tail : ∀ pending ∈ deck.pending.tail, pending.begun = false
  head : ∀ pending ∈ deck.pending.head?, pending.begun = begun deck.stage
  takes : ∀ pending ∈ deck.pending, deck.requested[pending.id]? = some pending.take
  running : deck.stage ≠ .idle → deck.broken = false ∧ deck.pending ≠ []
  facts : Facts deck deck.stage

variable {deck : Deck Take}

theorem Facts.of_begun {stage stage' : Stage} (hstage : begun stage = true)
    (hstage' : begun stage' = true) (hfacts : Facts deck stage) : Facts deck stage' := by
  have hcurrent : ∃ rest entry, deck.entries = rest ++ [entry] ∧
      ∀ pending ∈ deck.pending.head?, pending.id = entry.id := by
    rcases stage with _ | _ | _ | _ | _ | _ | _ | _ | _ | _
    case idle | removingAhead | startingAppend => cases hstage
    all_goals exact hfacts
  rcases stage' with _ | _ | _ | _ | _ | _ | _ | _ | _ | _
  case idle | removingAhead | startingAppend => cases hstage'
  all_goals exact hcurrent

theorem Invariant.current (h : Invariant deck) (hbegun : begun deck.stage = true) :
    ∃ rest entry, deck.entries = rest ++ [entry] ∧
      ∀ pending ∈ deck.pending.head?, pending.id = entry.id := by
  have hfacts : Facts deck .appending := h.facts.of_begun hbegun rfl
  exact hfacts

theorem Invariant.goTo (h : Invariant deck) {stage : Stage} (hbegun : begun deck.stage = true)
    (hstage : begun stage = true) : Invariant (deck.goTo stage) := by
  have hrunning : deck.stage ≠ .idle := by
    intro hidle
    simp [hidle, begun] at hbegun
  refine ⟨?_, h.offset, h.time, h.tail, ?_, h.takes, fun _ => h.running hrunning, ?_⟩
  · have hmanifest := h.manifest
    unfold waiting at hmanifest ⊢
    rw [hbegun] at hmanifest
    show Manifest _ ((if begun stage then _ else _ : List (PendingTake Take)).map _) _ _ _ _
    rw [hstage]
    exact hmanifest
  · intro pending hpending
    exact (h.head pending hpending).trans (hbegun.trans hstage.symm)
  · exact h.facts.of_begun hbegun hstage

theorem Invariant.countFailures (h : Invariant deck) (failedInARow : Nat) :
    Invariant (deck.countFailures failedInARow) :=
  ⟨h.manifest, h.offset, h.time, h.tail, h.head, h.takes, h.running, h.facts⟩

section Step

variable {pending : PendingTake Take} {behind : List (PendingTake Take)}

theorem Invariant.begun_eq (h : Invariant deck) (hpending : deck.pending = pending :: behind) :
    pending.begun = begun deck.stage := by
  apply h.head
  rw [hpending]
  rfl

theorem Invariant.ends (h : Invariant deck) {entries : List (DeckEntry Take)}
    {dropped : List (Nat × Reason)} {broken : Bool} {offset : ℚ}
    (hmanifest : Manifest entries (deck.pending.tail.map (·.id)) dropped deck.removed
      deck.requested deck.appended)
    (hoffset : broken = false → offset = endOf 0 entries) :
    Invariant { deck.endStep with
      entries := entries, dropped := dropped, broken := broken, timestampOffset := offset } := by
  refine ⟨hmanifest, hoffset, h.time, ?_, ?_, ?_, ?_, trivial⟩
  · intro other hother
    exact h.tail other (List.mem_of_mem_tail hother)
  · intro other hother
    exact h.tail other (List.mem_of_mem_head? hother)
  · intro other hother
    exact h.takes other (List.mem_of_mem_tail hother)
  · intro hrunning
    exact absurd rfl hrunning

theorem Invariant.manifest_begun (h : Invariant deck) (hbegun : begun deck.stage = true) :
    Manifest deck.entries (deck.pending.tail.map (·.id)) deck.dropped deck.removed deck.requested
      deck.appended := by
  have hmanifest := h.manifest
  unfold waiting at hmanifest
  rw [hbegun] at hmanifest
  exact hmanifest

theorem Invariant.manifest_waiting (h : Invariant deck)
    (hpending : deck.pending = pending :: behind) (hwaits : begun deck.stage = false) :
    Manifest deck.entries (pending.id :: behind.map (·.id)) deck.dropped deck.removed
      deck.requested deck.appended := by
  have hmanifest := h.manifest
  unfold waiting at hmanifest
  rw [hwaits, hpending] at hmanifest
  exact hmanifest

theorem Invariant.manifest_dropped (h : Invariant deck)
    (hpending : deck.pending = pending :: behind) (hwaits : begun deck.stage = false)
    (reason : Reason) :
    Manifest deck.entries (deck.pending.tail.map (·.id))
      (deck.dropped ++ [(pending.id, reason)]) deck.removed deck.requested deck.appended := by
  have hmanifest := h.manifest_waiting hpending hwaits
  rw [hpending]
  apply hmanifest.drops rfl (List.prefix_refl deck.entries) _ _ reason
  · exact hmanifest.untouched pending.id (Or.inr (Or.inl List.mem_cons_self))
  · exact List.subset_cons_self _ _

theorem Invariant.breakStep (h : Invariant deck) (hpending : deck.pending = pending :: behind)
    (offset : ℚ) : Invariant ({ deck with timestampOffset := offset }.breakStep pending) := by
  have hbegun := h.begun_eq hpending
  unfold Deck.breakStep
  split
  · rename_i htrue
    exact h.ends (h.manifest_begun (hbegun ▸ htrue)) (by rintro ⟨⟩)
  · rename_i hfalse
    have hwaits : begun deck.stage = false := by
      rw [← hbegun]
      simpa using hfalse
    exact h.ends (h.manifest_dropped hpending hwaits _) (by rintro ⟨⟩)

theorem Invariant.giveUp (h : Invariant deck) (hpending : deck.pending = pending :: behind)
    (hrunning : deck.stage ≠ .idle) (reason : Reason) : Invariant (deck.giveUp pending reason) := by
  have hoffset := h.offset (h.running hrunning).1
  unfold Deck.giveUp
  rcases hbegun : begun deck.stage with _ | _
  · have hmanifest := h.manifest_waiting hpending hbegun
    have hne : ∀ entry ∈ deck.entries, entry.id ≠ pending.id := by
      intro entry hentry
      have hordered := hmanifest.ordered
      rw [List.pairwise_append] at hordered
      exact Nat.ne_of_lt (hordered.2.2 entry.id (List.mem_map_of_mem hentry) pending.id
        List.mem_cons_self)
    have hall : deck.nothingAppended pending = true := by
      unfold Deck.nothingAppended
      rw [List.all_eq_true]
      intro entry hentry
      simp [hne entry hentry]
    have hfilter : (deck.entries.filter fun entry => entry.id ≠ pending.id) = deck.entries := by
      rw [List.filter_eq_self]
      intro entry hentry
      simp [hne entry hentry]
    simp only [hall, if_true, hfilter]
    exact h.ends (h.manifest_dropped hpending hbegun reason) (fun _ => hoffset)
  · have hmanifest := h.manifest_begun hbegun
    obtain ⟨rest, entry, hentries, hid⟩ := h.current hbegun
    have hid : pending.id = entry.id := by
      apply hid
      rw [hpending]
      rfl
    rw [hentries] at hmanifest hoffset
    have hne : ∀ other ∈ rest, other.id ≠ pending.id := by
      intro other hother
      have hordered := hmanifest.ordered
      rw [List.map_append, List.append_assoc, List.pairwise_append] at hordered
      rw [hid]
      exact Nat.ne_of_lt (hordered.2.2 other.id (List.mem_map_of_mem hother) entry.id
        List.mem_cons_self)
    split
    · rename_i hempty
      have hzero : entry.duration = 0 := by
        unfold Deck.nothingAppended at hempty
        rw [List.all_eq_true] at hempty
        have hlast := hempty entry (hentries ▸ List.mem_append_right rest List.mem_cons_self)
        simpa [hid] using hlast
      have hfilter : (deck.entries.filter fun other => other.id ≠ pending.id) = rest := by
        rw [hentries, List.filter_append, List.filter_eq_self.mpr, List.filter_eq_nil_iff.mpr,
          List.append_nil]
        · intro other hother
          simp [List.mem_singleton.mp hother, hid]
        · intro other hother
          simp [hne other hother]
      rw [hfilter]
      refine h.ends ?_ (fun _ => ?_)
      · rw [hid]
        apply hmanifest.drops _ (List.prefix_append rest [entry]) _ (List.Subset.refl _) reason
        · simp
        · rw [hmanifest.measured entry (List.mem_append_right rest List.mem_cons_self), hzero]
      · have hcontiguous := hmanifest.contiguous
        rw [contiguous_append] at hcontiguous
        show deck.timestampOffset = endOf 0 rest
        rw [hoffset, endOf_append, endOf, endOf, DeckEntry.endOffset, hzero, add_zero]
        exact hcontiguous.2.1
    · exact h.ends (hentries ▸ hmanifest) (fun _ => hentries ▸ hoffset)

theorem Invariant.broken (h : Invariant deck) (hpending : deck.pending = pending :: behind) :
    Invariant (deck.breakStep pending) :=
  h.breakStep hpending deck.timestampOffset

theorem Invariant.update (h : Invariant deck) (hpending : deck.pending = pending :: behind)
    {stage : Stage} (hbegun : begun deck.stage = true) (hstage : begun stage = true) :
    Invariant (deck.update pending stage) := by
  unfold Deck.update
  split
  · exact h.broken hpending
  · exact h.goTo hbegun hstage

theorem Invariant.beginAppend (h : Invariant deck) (hpending : deck.pending = pending :: behind)
    (hstage : deck.stage = .startingAppend) : Invariant (deck.beginAppend pending) := by
  have hrunning : deck.stage ≠ .idle := by
    rw [hstage]
    rintro ⟨⟩
  have hwaits : begun deck.stage = false := by
    rw [hstage]
    rfl
  unfold Deck.beginAppend
  split
  · exact h.broken hpending
  · split
    · exact h.giveUp hpending hrunning .replaced
    · have hmanifest := h.manifest_waiting hpending hwaits
      have hoffset := h.offset (h.running hrunning).1
      have htake := h.takes pending (by rw [hpending]; exact List.mem_cons_self)
      have hbegins := hmanifest.begins htake
      refine ⟨?_, ?_, h.time, h.tail, ?_, ?_, ?_, ?_⟩
      · rw [hoffset]
        show Manifest _ (deck.pending.tail.map (·.id)) _ _ _ _
        rw [hpending]
        exact hbegins
      · intro _
        show deck.timestampOffset = endOf 0 (deck.entries ++ [_])
        rw [endOf_append, endOf, endOf, DeckEntry.endOffset, add_zero]
      · rintro other ⟨⟩
        rfl
      · intro other hother
        rcases List.mem_cons.mp hother with rfl | hother
        · exact htake
        · exact h.takes other (List.mem_of_mem_tail hother)
      · intro _
        exact ⟨(h.running hrunning).1, List.cons_ne_nil _ _⟩
      · refine ⟨deck.entries, _, rfl, ?_⟩
        rintro other ⟨⟩
        rfl

theorem Invariant.appendedChunk (h : Invariant deck)
    (hpending : deck.pending = pending :: behind) (hbegun : begun deck.stage = true)
    {seconds : ℚ} (hseconds : 0 ≤ seconds) : Invariant (deck.appendedChunk pending seconds) := by
  have hrunning : deck.stage ≠ .idle := by
    intro hidle
    simp [hidle, begun] at hbegun
  have hoffset := h.offset (h.running hrunning).1
  have hmanifest := h.manifest_begun hbegun
  obtain ⟨rest, entry, hentries, hid⟩ := h.current hbegun
  have hid : pending.id = entry.id := by
    apply hid
    rw [hpending]
    rfl
  rw [hentries] at hmanifest hoffset
  have hgrown := hmanifest.grows hseconds
  have hduration : deck.timestampOffset + seconds - entry.startOffset =
      entry.duration + seconds := by
    rw [hoffset, endOf_append, endOf, endOf, DeckEntry.endOffset]
    linarith
  have hmap : (deck.entries.map fun other =>
      if other.id = pending.id then
        { other with duration := deck.timestampOffset + seconds - other.startOffset }
      else other) = rest ++ [{ entry with duration := entry.duration + seconds }] := by
    have hordered := hmanifest.ordered
    rw [List.map_append, List.append_assoc, List.pairwise_append] at hordered
    have hrest : (rest.map fun other =>
        if other.id = pending.id then
          { other with duration := deck.timestampOffset + seconds - other.startOffset }
        else other) = rest.map id := by
      apply List.map_congr_left
      intro other hother
      have hne := Nat.ne_of_lt (hordered.2.2 other.id (List.mem_map_of_mem hother) entry.id
        List.mem_cons_self)
      rw [if_neg (hid ▸ hne), id]
    rw [hentries, List.map_append, hrest, List.map_id, List.map_singleton, if_pos hid.symm,
      hduration]
  refine ⟨?_, ?_, h.time, h.tail, ?_, h.takes, fun _ => h.running hrunning, ?_⟩
  · show Manifest (deck.entries.map _) (deck.pending.tail.map (·.id)) _ _ _
      (Function.update deck.appended pending.id (deck.appended pending.id + seconds))
    rw [hmap, hid]
    exact hgrown
  · intro _
    show deck.timestampOffset + seconds = endOf 0 (deck.entries.map _)
    rw [hmap, hoffset, endOf_append, endOf_append, endOf, endOf, endOf, endOf,
      DeckEntry.endOffset, DeckEntry.endOffset, add_assoc]
  · intro other hother
    exact (h.head other hother).trans hbegun
  · refine ⟨rest, _, hmap, ?_⟩
    intro other hother
    change other ∈ deck.pending.head? at hother
    rw [hpending] at hother
    obtain rfl := Option.some.inj hother
    exact hid

end Step

/-! ### The entry under the playhead -/

theorem mem_of_playing {playing : DeckEntry Take} (hplaying : deck.playing = some playing) :
    playing ∈ deck.entries := by
  unfold Deck.playing Deck.entryAt at hplaying
  rw [List.findRev?_eq_find?_reverse] at hplaying
  exact List.mem_reverse.mp (List.mem_of_find?_eq_some hplaying)

theorem Invariant.entries_eq_nil (h : Invariant deck) (hplaying : deck.playing = none) :
    deck.entries = [] := by
  unfold Deck.playing Deck.entryAt at hplaying
  rw [List.findRev?_eq_find?_reverse, List.find?_eq_none] at hplaying
  rcases hentries : deck.entries with _ | ⟨first, rest⟩
  · rfl
  · have hcontiguous := h.manifest.contiguous
    rw [hentries] at hcontiguous hplaying
    have hlate := hplaying first (List.mem_reverse.mpr List.mem_cons_self)
    rw [hcontiguous.1, decide_eq_true_eq] at hlate
    exact absurd h.time hlate

theorem playing_of_last {rest : List (DeckEntry Take)} {last : DeckEntry Take}
    (hentries : deck.entries = rest ++ [last]) (hlast : last.startOffset ≤ deck.currentTime) :
    deck.playing = some last := by
  unfold Deck.playing Deck.entryAt
  rw [List.findRev?_eq_find?_reverse, hentries, List.reverse_append, List.reverse_singleton,
    List.singleton_append]
  simp [hlast]

theorem Invariant.playing_split (h : Invariant deck) {playing : DeckEntry Take}
    (hplaying : deck.playing = some playing) :
    ∃ before after, deck.entries = before ++ playing :: after ∧
      deck.indexOf playing = before.length := by
  obtain ⟨before, after, hentries⟩ := List.append_of_mem (mem_of_playing hplaying)
  refine ⟨before, after, hentries, ?_⟩
  have hordered := h.manifest.ordered
  rw [hentries, List.map_append, List.append_assoc, List.pairwise_append] at hordered
  have hbefore : before.findIdx (fun entry => entry.id = playing.id) = before.length := by
    rw [List.findIdx_eq_length]
    intro entry hentry
    have hne := Nat.ne_of_lt (hordered.2.2 entry.id (List.mem_map_of_mem hentry) playing.id
      List.mem_cons_self)
    exact decide_eq_false hne
  rw [Deck.indexOf, hentries, List.findIdx_append, hbefore, if_neg (Nat.lt_irrefl _),
    List.findIdx_cons]
  simp

/-! ### The takes asked for -/

theorem Invariant.rejectAfterEnd (h : Invariant deck) (take : Take) :
    Invariant (deck.rejectAfterEnd take) := by
  refine ⟨h.manifest.rejected take _, h.offset, h.time, h.tail, h.head, ?_, h.running, h.facts⟩
  intro pending hpending
  have htake := h.takes pending hpending
  exact List.getElem?_append_left (List.getElem?_eq_some_iff.mp htake).1 ▸ htake

theorem Facts.of_head {deck' : Deck Take} {stage : Stage} (hfacts : Facts deck stage)
    (hentries : deck'.entries = deck.entries) (haimed : deck'.aimed = deck.aimed)
    (hhead : ∀ pending' ∈ deck'.pending.head?, ∃ pending ∈ deck.pending.head?,
      pending'.id = pending.id ∧ pending'.next = pending.next) : Facts deck' stage := by
  have hcurrent : (∃ rest entry, deck.entries = rest ++ [entry] ∧
      ∀ pending ∈ deck.pending.head?, pending.id = entry.id) →
      ∃ rest entry, deck'.entries = rest ++ [entry] ∧
        ∀ pending ∈ deck'.pending.head?, pending.id = entry.id := by
    rintro ⟨rest, entry, hsplit, hids⟩
    refine ⟨rest, entry, hentries.trans hsplit, ?_⟩
    intro pending' hpending'
    obtain ⟨pending, hpending, hid, -⟩ := hhead pending' hpending'
    exact hid.trans (hids pending hpending)
  rcases stage with _ | _ | _ | _ | _ | _ | _ | _ | _ | _
  case idle => trivial
  case removingAhead =>
    obtain ⟨hend, hlast, hnext⟩ := hfacts
    refine ⟨?_, ?_, ?_⟩
    · rw [hentries]
      exact hend
    · rw [hentries, haimed]
      exact hlast
    · intro pending' hpending'
      obtain ⟨pending, hpending, -, hsame⟩ := hhead pending' hpending'
      rw [hsame]
      exact hnext pending hpending
  case startingAppend =>
    intro pending' hpending' hnext
    obtain ⟨pending, hpending, -, hsame⟩ := hhead pending' hpending'
    rw [hentries, haimed]
    exact hfacts pending hpending (hsame ▸ hnext)
  all_goals exact hcurrent hfacts

theorem Invariant.request (h : Invariant deck) (take : Take) (next : Bool) :
    Invariant (deck.request take next) := by
  have hwaiting : waiting (deck.request take next) = waiting deck ++ [deck.requested.length] := by
    unfold waiting
    show (if begun deck.stage then (deck.pending ++ [_]).tail else deck.pending ++ [_]).map _ = _
    rcases hbegun : begun deck.stage with _ | _
    · simp
    · have hpending : deck.pending ≠ [] := by
        refine (h.running ?_).2
        intro hidle
        simp [hidle, begun] at hbegun
      simp [List.tail_append_of_ne_nil hpending]
  refine ⟨?_, h.offset, h.time, ?_, ?_, ?_, ?_, ?_⟩
  · rw [hwaiting]
    exact h.manifest.waits take
  · intro pending hpending
    have hpending : pending ∈ deck.pending.tail ∨
        pending = ⟨deck.requested.length, take, next, false, false⟩ := by
      change pending ∈ (deck.pending ++ [_]).tail at hpending
      rcases hlist : deck.pending with _ | ⟨first, rest⟩
      · simp [hlist] at hpending
      · rw [hlist, List.cons_append, List.tail_cons, List.mem_append, List.mem_singleton]
          at hpending
        exact hpending
    rcases hpending with hpending | rfl
    · exact h.tail pending hpending
    · rfl
  · intro pending hpending
    change pending ∈ (deck.pending ++ [_]).head? at hpending
    show pending.begun = begun deck.stage
    rcases hlist : deck.pending with _ | ⟨first, rest⟩
    · rw [hlist] at hpending
      obtain rfl := Option.some.inj hpending
      have hidle : deck.stage = .idle := by
        by_contra hrunning
        exact (h.running hrunning).2 hlist
      rw [hidle]
      rfl
    · rw [hlist] at hpending
      apply h.head
      rw [hlist]
      exact hpending
  · intro pending hpending
    rcases List.mem_append.mp hpending with hpending | hpending
    · have htake := h.takes pending hpending
      exact List.getElem?_append_left (List.getElem?_eq_some_iff.mp htake).1 ▸ htake
    · obtain rfl := List.mem_singleton.mp hpending
      exact List.getElem?_concat_length
  · intro hrunning
    exact ⟨(h.running hrunning).1, by simp [Deck.request]⟩
  · show Facts _ deck.stage
    by_cases hidle : deck.stage = .idle
    · rw [hidle]
      trivial
    · have hhead : ∀ pending ∈ (deck.request take next).pending.head?,
          ∃ old ∈ deck.pending.head?, pending.id = old.id ∧ pending.next = old.next := by
        intro pending hpending
        change pending ∈ (deck.pending ++ [_]).head? at hpending
        obtain ⟨first, rest, hlist⟩ := List.exists_cons_of_ne_nil (h.running hidle).2
        rw [hlist] at hpending ⊢
        exact ⟨pending, hpending, rfl, rfl⟩
      exact h.facts.of_head rfl rfl hhead

/-- A withdrawal changes nothing else of a pending take. -/
def Withdrawn (pending pending' : PendingTake Take) : Prop :=
  pending'.id = pending.id ∧ pending'.take = pending.take ∧ pending'.next = pending.next ∧
    pending'.begun = pending.begun

theorem withdrawAhead_pending (deck : Deck Take) :
    List.Forall₂ Withdrawn deck.pending deck.withdrawAhead.pending := by
  unfold Deck.withdrawAhead
  conv => arg 2; rw [← List.take_append_drop deck.firstAhead deck.pending]
  apply List.rel_append
  · exact List.forall₂_same.mpr fun pending _ => ⟨rfl, rfl, rfl, rfl⟩
  · rw [List.forall₂_map_right_iff]
    exact List.forall₂_same.mpr fun pending _ => ⟨rfl, rfl, rfl, rfl⟩

theorem ids_of_withdrawn {first second : List (PendingTake Take)}
    (hsame : List.Forall₂ Withdrawn first second) : second.map (·.id) = first.map (·.id) := by
  induction hsame with
  | nil => rfl
  | cons hhead _ ih => rw [List.map_cons, List.map_cons, ih, hhead.1]

theorem exists_of_withdrawn {first second : List (PendingTake Take)}
    (hsame : List.Forall₂ Withdrawn first second) :
    ∀ pending' ∈ second, ∃ pending ∈ first, Withdrawn pending pending' := by
  induction hsame with
  | nil =>
      intro pending' hpending'
      simp at hpending'
  | @cons head head' _ _ hhead _ ih =>
      intro pending' hpending'
      rcases List.mem_cons.mp hpending' with rfl | hpending'
      · exact ⟨head, List.mem_cons_self, hhead⟩
      · obtain ⟨pending, hpending, hwithdrawn⟩ := ih pending' hpending'
        exact ⟨pending, List.mem_cons_of_mem head hpending, hwithdrawn⟩

theorem head_tail_of_withdrawn {first second : List (PendingTake Take)}
    (hsame : List.Forall₂ Withdrawn first second) :
    (∀ pending' ∈ second.head?, ∃ pending ∈ first.head?, Withdrawn pending pending') ∧
      List.Forall₂ Withdrawn first.tail second.tail := by
  rcases hsame with _ | ⟨hhead, htail⟩
  · refine ⟨?_, List.Forall₂.nil⟩
    intro pending' hpending'
    simp at hpending'
  · refine ⟨?_, htail⟩
    intro pending' hpending'
    obtain rfl := Option.some.inj hpending'
    exact ⟨_, rfl, hhead⟩

theorem Invariant.withdrawAhead (h : Invariant deck) : Invariant deck.withdrawAhead := by
  have hsame := withdrawAhead_pending deck
  obtain ⟨hhead, htail⟩ := head_tail_of_withdrawn hsame
  refine ⟨?_, h.offset, h.time, ?_, ?_, ?_, ?_, ?_⟩
  · have hwaiting : waiting deck.withdrawAhead = waiting deck := by
      unfold waiting
      show (if begun deck.stage then _ else _ : List (PendingTake Take)).map _ = _
      split
      · exact ids_of_withdrawn htail
      · exact ids_of_withdrawn hsame
    rw [hwaiting]
    exact h.manifest
  · intro pending' hpending'
    obtain ⟨pending, hpending, -, -, -, hbegun⟩ := exists_of_withdrawn htail pending' hpending'
    exact hbegun.trans (h.tail pending hpending)
  · intro pending' hpending'
    obtain ⟨pending, hpending, -, -, -, hbegun⟩ := hhead pending' hpending'
    exact hbegun.trans (h.head pending hpending)
  · intro pending' hpending'
    obtain ⟨pending, hpending, hid, htake, -⟩ := exists_of_withdrawn hsame pending' hpending'
    rw [hid, htake]
    exact h.takes pending hpending
  · intro hrunning
    obtain ⟨hunbroken, hnonempty⟩ := h.running hrunning
    refine ⟨hunbroken, ?_⟩
    intro hnil
    rw [hnil, List.forall₂_nil_right_iff] at hsame
    exact hnonempty hsame
  · refine h.facts.of_head rfl rfl ?_
    intro pending' hpending'
    obtain ⟨pending, hpending, hid, -, hnext, -⟩ := hhead pending' hpending'
    exact ⟨pending, hpending, hid, hnext⟩

/-! ### The step of an `appendNext` -/

section Next

variable {pending : PendingTake Take} {behind : List (PendingTake Take)}

theorem Invariant.advance (h : Invariant deck) (hpending : deck.pending = pending :: behind)
    (hbroken : deck.broken = false) (hwaits : begun deck.stage = false) {stage : Stage}
    {aimed : Option (DeckEntry Take)} (hstage : begun stage = false)
    (hfacts : Facts { deck with aimed := aimed } stage) :
    Invariant ({ deck with aimed := aimed }.goTo stage) := by
  refine ⟨?_, h.offset, h.time, h.tail, ?_, h.takes, ?_, hfacts⟩
  · have hmanifest := h.manifest
    unfold waiting at hmanifest ⊢
    rw [hwaits] at hmanifest
    show Manifest _ ((if begun stage then _ else _ : List (PendingTake Take)).map _) _ _ _ _
    rw [hstage]
    exact hmanifest
  · intro other hother
    exact (h.head other hother).trans (hwaits.trans hstage.symm)
  · intro _
    refine ⟨hbroken, ?_⟩
    show deck.pending ≠ []
    rw [hpending]
    exact List.cons_ne_nil _ _

theorem Invariant.beginStep (h : Invariant deck) (hpending : deck.pending = pending :: behind)
    (hidle : deck.stage = .idle) : Invariant (deck.beginStep pending) := by
  have hwaits : begun deck.stage = false := by
    rw [hidle]
    rfl
  have haimed : Invariant deck.aim := by
    refine ⟨h.manifest, h.offset, h.time, h.tail, h.head, h.takes, h.running, ?_⟩
    show Facts _ deck.stage
    rw [hidle]
    trivial
  unfold Deck.beginStep
  split
  · exact haimed.broken hpending
  · rename_i hopen
    rw [not_or] at hopen
    have hbroken : deck.broken = false := by simpa using hopen.1
    split
    · rename_i hnext
      unfold Deck.removeAhead
      split
      · rename_i hplaying
        have hplaying : deck.playing = none := hplaying
        apply h.advance hpending hbroken hwaits rfl
        intro other _ _
        show deck.entries.getLast? = deck.playing
        rw [h.entries_eq_nil hplaying, hplaying]
        rfl
      · rename_i playing hplaying
        have hplaying : deck.playing = some playing := hplaying
        obtain ⟨before, after, hentries, hindex⟩ := h.playing_split hplaying
        have hindex : deck.aim.indexOf playing = before.length := hindex
        rw [hindex]
        have htaken : deck.entries.take (before.length + 1) = before ++ [playing] := by
          rw [hentries, List.take_append]
          simp
        have hbehind : deck.entries[before.length + 1]? = after.head? := by
          rw [hentries, List.getElem?_append_right (Nat.le_add_right _ _)]
          simp [List.head?_eq_getElem?]
        split
        · rename_i hnone
          have hafter : after = [] := by
            change deck.entries[before.length + 1]? = none at hnone
            rw [hbehind] at hnone
            simpa using hnone
          apply h.advance hpending hbroken hwaits rfl
          intro other _ _
          show deck.entries.getLast? = deck.playing
          rw [hentries, hafter, List.getLast?_concat, hplaying]
        · rename_i firstAhead hfirst
          unfold Deck.update
          split
          · exact haimed.broken hpending
          · apply h.advance hpending hbroken hwaits rfl
            refine ⟨?_, ?_, ?_⟩
            · show firstAhead.startOffset = endOf 0 (deck.entries.take (before.length + 1))
              have hcontiguous := h.manifest.contiguous
              change deck.entries[before.length + 1]? = some firstAhead at hfirst
              rw [hbehind] at hfirst
              rw [htaken]
              obtain ⟨rest, rfl⟩ : ∃ rest, after = firstAhead :: rest := by
                rcases after with _ | ⟨first, rest⟩
                · simp at hfirst
                · exact ⟨rest, by simpa using hfirst⟩
              rw [hentries, List.append_cons, contiguous_append] at hcontiguous
              exact hcontiguous.2.1
            · show (deck.entries.take (before.length + 1)).getLast? = deck.playing
              rw [htaken, List.getLast?_concat, hplaying]
            · intro other hother
              change other ∈ deck.pending.head? at hother
              rw [hpending] at hother
              obtain rfl := Option.some.inj hother
              exact hnext
    · rename_i hlater
      apply h.advance hpending hbroken hwaits rfl
      intro other hother hnext
      change other ∈ deck.pending.head? at hother
      rw [hpending] at hother
      obtain rfl := Option.some.inj hother
      exact absurd hnext hlater

theorem Invariant.dropAhead (h : Invariant deck) {ahead : Nat} {playingEnd : ℚ}
    (hstage : deck.stage = .removingAhead ahead playingEnd) :
    Invariant (deck.dropAhead ahead playingEnd) := by
  have hfacts := h.facts
  rw [hstage] at hfacts
  obtain ⟨hend, hlast, -⟩ := hfacts
  have hrunning : deck.stage ≠ .idle := by
    rw [hstage]
    rintro ⟨⟩
  refine ⟨?_, fun _ => hend, h.time, h.tail, ?_, h.takes, fun _ => h.running hrunning, ?_⟩
  · have hmanifest := h.manifest.removesAhead ahead
    unfold waiting at hmanifest
    rw [hstage] at hmanifest
    exact hmanifest
  · intro other hother
    have hbegun := h.head other hother
    rw [hstage] at hbegun
    exact hbegun
  · intro other _ _
    exact hlast

end Next

/-! ### Every step -/

section Act

variable {pending : PendingTake Take} {behind : List (PendingTake Take)} {next : Deck Take}

theorem Invariant.removeBefore (h : Invariant deck) (hpending : deck.pending = pending :: behind)
    {earliest : Option ℚ} {seconds : ℚ} {whenFull : Bool} {stage : Stage}
    (hbegun : begun deck.stage = true) (hstage : begun stage = true)
    (hnext : deck.removeBefore pending earliest seconds whenFull stage = some next) :
    Invariant next := by
  unfold Deck.removeBefore at hnext
  split at hnext
  · simp at hnext
  · split_ifs at hnext
    · obtain rfl := Option.some.inj hnext
      exact h.broken hpending
    · obtain rfl := Option.some.inj hnext
      have hmoved := h.goTo hbegun hstage
      exact ⟨hmoved.manifest, hmoved.offset, hmoved.time, hmoved.tail, hmoved.head, hmoved.takes,
        hmoved.running, hmoved.facts⟩

theorem Invariant.evictPlayedTakes (h : Invariant deck)
    (hpending : deck.pending = pending :: behind) (hbegun : begun deck.stage = true)
    (earliest : Option ℚ) : Invariant (deck.evictPlayedTakes pending earliest) := by
  unfold Deck.evictPlayedTakes
  split
  · exact h.update hpending hbegun rfl
  · rename_i playing _
    rcases hremoved : deck.removeBefore pending earliest playing.startOffset false
      (.evicting playing.startOffset) with _ | next
    · exact h.update hpending hbegun rfl
    · exact h.removeBefore hpending hbegun rfl hremoved

theorem Invariant.freePlayed (h : Invariant deck) (hpending : deck.pending = pending :: behind)
    (hbegun : begun deck.stage = true) (earliest : Option ℚ) :
    Invariant (deck.freePlayed pending earliest) := by
  unfold Deck.freePlayed
  rcases hremoved : deck.removeBefore pending earliest
    (deck.currentTime - secondsKeptBehindWhenFull) true
    (.freeing (deck.currentTime - secondsKeptBehindWhenFull)) with _ | next
  · exact h.broken hpending
  · exact h.removeBefore hpending hbegun rfl hremoved

theorem Invariant.noticeAbort (h : Invariant deck) (hpending : deck.pending = pending :: behind)
    (hbegun : begun deck.stage = true) {closing : Bool}
    (hnext : deck.noticeAbort pending closing = some next) : Invariant next := by
  have hrunning : deck.stage ≠ .idle := by
    intro hidle
    simp [hidle, begun] at hbegun
  unfold Deck.noticeAbort at hnext
  split_ifs at hnext
  · obtain rfl := Option.some.inj hnext
    exact h.broken hpending
  · obtain rfl := Option.some.inj hnext
    exact h.giveUp hpending hrunning .replaced

theorem Invariant.endStep (h : Invariant deck) (hbegun : begun deck.stage = true) :
    Invariant deck.endStep := by
  have hrunning : deck.stage ≠ .idle := by
    intro hidle
    simp [hidle, begun] at hbegun
  exact h.ends (h.manifest_begun hbegun) (fun _ => h.offset (h.running hrunning).1)

theorem Invariant.playableFrom (h : Invariant deck) (seconds : ℚ) :
    Invariant { deck with playableFrom := seconds } :=
  ⟨h.manifest, h.offset, h.time, h.tail, h.head, h.takes, h.running, h.facts⟩

theorem Invariant.resume (h : Invariant deck) (hpending : deck.pending = pending :: behind)
    {action : Action Take} (hstep : deck.resume pending deck.stage action = some next) :
    Invariant next := by
  unfold Deck.resume at hstep
  split at hstep
  case h_22 => simp at hstep
  all_goals rename_i hstage
  case h_1 =>
    split_ifs at hstep
    obtain rfl := Option.some.inj hstep
    exact h.beginStep hpending hstage
  case h_2 =>
    obtain rfl := Option.some.inj hstep
    exact h.dropAhead hstage
  case h_3 =>
    obtain rfl := Option.some.inj hstep
    exact h.beginAppend hpending hstage
  case h_17 | h_18 | h_19 | h_20 | h_21 =>
    obtain rfl := Option.some.inj hstep
    exact h.breakStep hpending _
  all_goals
    have hbegun : begun deck.stage = true := by
      rw [hstage]
      rfl
  case h_4 =>
    obtain rfl := Option.some.inj hstep
    exact h.goTo hbegun rfl
  case h_5 =>
    obtain rfl := Option.some.inj hstep
    exact h.endStep hbegun
  case h_6 =>
    split_ifs at hstep
    obtain rfl := Option.some.inj hstep
    exact h.giveUp hpending (by rw [hstage]; rintro ⟨⟩) .refused
  case h_7 =>
    split at hstep
    · obtain rfl := Option.some.inj hstep
      split
      · exact (h.countFailures 0).goTo hbegun rfl
      · exact h.countFailures _
    · simp at hstep
  case h_8 | h_9 | h_10 => exact h.noticeAbort hpending hbegun hstep
  case h_11 =>
    split_ifs at hstep
    obtain rfl := Option.some.inj hstep
    exact h.evictPlayedTakes hpending hbegun _
  case h_12 | h_15 =>
    rename_i seconds
    obtain rfl := Option.some.inj hstep
    exact (h.playableFrom seconds).update hpending hbegun rfl
  case h_13 | h_16 =>
    split_ifs at hstep with hseconds
    obtain rfl := Option.some.inj hstep
    exact h.appendedChunk hpending hbegun hseconds
  case h_14 =>
    obtain rfl := Option.some.inj hstep
    exact h.freePlayed hpending hbegun _

theorem Invariant.retryDownload (h : Invariant deck) : Invariant deck.retryDownload := by
  unfold Deck.retryDownload
  split
  · rename_i hstage
    exact h.goTo (by rw [hstage]; rfl) rfl
  · exact h.countFailures 0

theorem Invariant.setTime (h : Invariant deck) {seconds : ℚ} (hseconds : 0 ≤ seconds)
    (range : Option (ℚ × ℚ)) :
    Invariant { deck with liveSeekableRange := range, currentTime := seconds } :=
  ⟨h.manifest, h.offset, hseconds, h.tail, h.head, h.takes, h.running, h.facts⟩

theorem Invariant.streamEnds (h : Invariant deck) (hpending : deck.pending = [])
    {broken ended : Bool} (hbroken : broken = deck.broken ∨ broken = true) :
    Invariant { deck with broken := broken, ended := ended } := by
  refine ⟨h.manifest, ?_, h.time, h.tail, h.head, h.takes, ?_, h.facts⟩
  · rintro rfl
    rcases hbroken with hbroken | hbroken
    · exact h.offset hbroken.symm
    · cases hbroken
  · intro hrunning
    exact absurd hpending (h.running hrunning).2

theorem Invariant.act (h : Invariant deck) {action : Action Take}
    (hstep : deck.act action = some next) : Invariant next := by
  unfold Deck.act at hstep
  split at hstep
  · obtain rfl := Option.some.inj hstep
    unfold Deck.appendTake
    split
    · exact h.rejectAfterEnd _
    · exact h.request _ false
  · obtain rfl := Option.some.inj hstep
    unfold Deck.appendNext
    split
    · exact h.rejectAfterEnd _
    · exact h.withdrawAhead.request _ true
  · obtain rfl := Option.some.inj hstep
    exact ⟨h.manifest, h.offset, h.time, h.tail, h.head, h.takes, h.running, h.facts⟩
  · obtain rfl := Option.some.inj hstep
    exact ⟨h.manifest, h.offset, h.time, h.tail, h.head, h.takes, h.running, h.facts⟩
  · split_ifs at hstep with hseconds
    obtain rfl := Option.some.inj hstep
    exact h.setTime hseconds _
  · split_ifs at hstep with hseconds
    obtain rfl := Option.some.inj hstep
    exact h.setTime hseconds _
  · obtain rfl := Option.some.inj hstep
    exact h.retryDownload
  · obtain rfl := Option.some.inj hstep
    exact ⟨h.manifest, h.offset, h.time, h.tail, h.head, h.takes, h.running, h.facts⟩
  · split_ifs at hstep with hseconds
    obtain rfl := Option.some.inj hstep
    exact h.setTime hseconds _
  · split_ifs at hstep with hdone
    · obtain rfl := Option.some.inj hstep
      exact h.streamEnds hdone.1 (Or.inr rfl)
    · obtain rfl := Option.some.inj hstep
      exact h.streamEnds hdone.1 (Or.inl rfl)
  · split at hstep
    · simp at hstep
    · rename_i hpending
      exact h.resume hpending hstep

end Act

end Songmaker.Player.DeckInvariant
