import Songmaker.Playlists.PlaylistEntries

namespace Songmaker.Playlists.PlaylistOrder

open Songmaker.Foundation
open Songmaker.Foundation.Numbering
open Songmaker.Playlists.PlaylistEntries

/-- What of an entry a move leaves as it is. -/
def key (entry : PlaylistEntry) : EntryId × GenerationId :=
  (entry.id, entry.generationId)

/-- The value in front of the one at the index. -/
def insertAt {α : Type} (index : Nat) (value : α) (values : List α) : List α :=
  values.take index ++ value :: values.drop index

section Positions

variable {entries : List PlaylistEntry} {entry : PlaylistEntry}

theorem find?_entry (hids : (entries.map (·.id)).Nodup) (hentry : entry ∈ entries) :
    (entries.find? fun row => row.id = entry.id) = some entry := by
  rcases hfound : entries.find? fun row => row.id = entry.id with _ | found
  · have hnone := List.find?_eq_none.mp hfound entry hentry
    simp at hnone
  · have hid : found.id = entry.id := by simpa using List.find?_some hfound
    have hsame := List.inj_on_of_nodup_map hids (List.mem_of_find?_eq_some hfound) hentry hid
    exact hfound.trans (congrArg some hsame)

theorem nextPosition_eq_length (hnumbered : Numbered (·.position) entries) :
    nextPosition entries = entries.length := by
  unfold nextPosition
  split
  · rename_i maxPos hmax
    obtain ⟨hmem, hbound⟩ := List.max?_eq_some_iff.mp hmax
    have hlow : maxPos < entries.length := List.mem_range.mp (hnumbered.mem_iff.mp hmem)
    have hlast : entries.length - 1 ∈ entries.map (·.position) :=
      hnumbered.mem_iff.mpr (List.mem_range.mpr (by omega))
    have := hbound _ hlast
    omega
  · rename_i hnone
    rw [List.max?_eq_none_iff, List.map_eq_nil_iff] at hnone
    rw [hnone]
    rfl

theorem numbered_add (hnumbered : Numbered (·.position) entries) (id : EntryId)
    (generation : GenerationId) :
    Numbered (·.position) (entries ++ [⟨id, generation, nextPosition entries⟩]) := by
  have hperm := inOrder_perm PlaylistEntry.position entries
  refine numbered_of_perm (hperm.symm.append_right _) ?_
  rw [numberedFrom_append]
  refine ⟨hnumbered.inOrder, numberedFrom_cons.mpr ⟨?_, numberedFrom_nil _⟩⟩
  rw [hperm.length_eq, Nat.zero_add]
  exact nextPosition_eq_length hnumbered

theorem split_order (hentry : entry ∈ entries) :
    ∃ above below, inOrder (·.position) entries = above ++ entry :: below :=
  List.append_of_mem ((inOrder_perm _ entries).mem_iff.mpr hentry)

theorem numbered_split {above below : List PlaylistEntry}
    (h : NumberedFrom (·.position) 0 (above ++ entry :: below)) :
    NumberedFrom (·.position) 0 above ∧ entry.position = above.length ∧
      NumberedFrom (·.position) (above.length + 1) below := by
  obtain ⟨habove, hrest⟩ := numberedFrom_append.mp h
  obtain ⟨hposition, hbelow⟩ := numberedFrom_cons.mp hrest
  rw [Nat.zero_add] at hposition hbelow
  exact ⟨habove, hposition, hbelow⟩

theorem id_ne_of_split {above below : List PlaylistEntry}
    (hids : ((above ++ entry :: below).map (·.id)).Nodup) :
    (∀ row ∈ above, row.id ≠ entry.id) ∧ ∀ row ∈ below, row.id ≠ entry.id := by
  have hperm : (above ++ entry :: below).Perm (entry :: (above ++ below)) := List.perm_middle
  have hfirst := (List.nodup_cons.mp ((hperm.map (·.id)).nodup hids)).1
  constructor
  · rintro row hrow hsame
    exact hfirst (List.mem_map.mpr ⟨row, List.mem_append_left _ hrow, hsame⟩)
  · rintro row hrow hsame
    exact hfirst (List.mem_map.mpr ⟨row, List.mem_append_right _ hrow, hsame⟩)

theorem numbered_remove (hids : (entries.map (·.id)).Nodup)
    (hnumbered : Numbered (·.position) entries) (id : EntryId) :
    Numbered (·.position) (removeFromPlaylist entries id) := by
  unfold removeFromPlaylist
  split
  · exact hnumbered
  · rename_i removed hfound
    have hid : removed.id = id := by simpa using List.find?_some hfound
    subst hid
    obtain ⟨above, below, horder⟩ := split_order (List.mem_of_find?_eq_some hfound)
    have hperm := (inOrder_perm PlaylistEntry.position entries).symm
    have hordered := hnumbered.inOrder
    rw [horder] at hperm hordered
    obtain ⟨habove, hposition, hbelow⟩ := numbered_split hordered
    obtain ⟨hneAbove, hneBelow⟩ := id_ne_of_split ((hperm.map (·.id)).nodup hids)
    have hleft : (above ++ removed :: below).filter (fun row => row.id ≠ removed.id) =
        above ++ below := by
      rw [List.filter_append, List.filter_cons_of_neg (by simp),
        List.filter_eq_self.mpr (by simpa using hneAbove),
        List.filter_eq_self.mpr (by simpa using hneBelow)]
    refine numbered_of_perm ((hperm.filter _).map _) ?_
    rw [hleft, List.map_append, numberedFrom_append, List.length_map]
    constructor
    · have hstay : ∀ row ∈ above, (if removed.position < row.position then
          { row with position := row.position - 1 } else row) = row := by
        intro row hrow
        have := habove.mem hrow
        exact if_neg (by omega)
      rw [List.map_congr_left hstay, List.map_id']
      exact habove
    · rw [Nat.zero_add]
      apply hbelow.pred
      intro row hrow
      have := hbelow.mem hrow
      rw [if_pos (by omega)]

end Positions

section Reorder

variable {entries : List PlaylistEntry} {entry : PlaylistEntry} {newPosition : Nat}

theorem key_shifted (oldPos newPosition : Nat) (row : PlaylistEntry) :
    key (shifted oldPos newPosition row) = key row := by
  unfold shifted
  split
  · split <;> rfl
  · split <;> rfl

/-- Where one entry goes to a new position, and the others make room. -/
def movedTo (entry : PlaylistEntry) (newPosition : Nat) (row : PlaylistEntry) : PlaylistEntry :=
  if row.id = entry.id then { row with position := newPosition }
  else shifted entry.position newPosition row

theorem key_movedTo (row : PlaylistEntry) : key (movedTo entry newPosition row) = key row := by
  unfold movedTo
  split
  · rfl
  · exact key_shifted _ _ _

theorem map_movedTo_keys (rows : List PlaylistEntry) :
    (rows.map (movedTo entry newPosition)).map key = rows.map key := by
  rw [List.map_map]
  exact List.map_congr_left fun row _ => key_movedTo row

theorem movedTo_self : movedTo entry newPosition entry = { entry with position := newPosition } :=
  if_pos rfl

theorem map_movedTo_eq_self {rows : List PlaylistEntry} (hne : ∀ row ∈ rows, row.id ≠ entry.id)
    (hout : ∀ row ∈ rows, row.position < min entry.position newPosition ∨
      max entry.position newPosition < row.position) :
    rows.map (movedTo entry newPosition) = rows := by
  have hstay : ∀ row ∈ rows, movedTo entry newPosition row = row := by
    intro row hrow
    have hrange := hout row hrow
    rw [movedTo, if_neg (hne row hrow), shifted]
    split
    · rw [if_neg (by omega)]
    · rw [if_neg (by omega)]
  rw [List.map_congr_left hstay, List.map_id']

theorem movedUp {above below : List PlaylistEntry}
    (hordered : NumberedFrom (·.position) 0 (above ++ entry :: below))
    (hids : ((above ++ entry :: below).map (·.id)).Nodup) (hup : newPosition < above.length) :
    ∃ after, ((above ++ entry :: below).map (movedTo entry newPosition)).Perm after ∧
      NumberedFrom (·.position) 0 after ∧
      after.map key = insertAt newPosition (key entry) ((above ++ below).map key) := by
  obtain ⟨habove, hposition, hbelow⟩ := numbered_split hordered
  obtain ⟨hneAbove, hneBelow⟩ := id_ne_of_split hids
  obtain ⟨first, rest, rfl, hfirst⟩ : ∃ first rest, above = first ++ rest ∧
      first.length = newPosition :=
    ⟨above.take newPosition, above.drop newPosition, (List.take_append_drop _ _).symm,
      by rw [List.length_take]; omega⟩
  subst hfirst
  rw [List.length_append] at hup hposition hbelow
  obtain ⟨hfirst, hrest⟩ := numberedFrom_append.mp habove
  rw [Nat.zero_add] at hrest
  have hfirstStays : first.map (movedTo entry first.length) = first := by
    apply map_movedTo_eq_self fun row hrow => hneAbove row (List.mem_append_left _ hrow)
    intro row hrow
    have := hfirst.mem hrow
    omega
  have hbelowStays : below.map (movedTo entry first.length) = below := by
    apply map_movedTo_eq_self hneBelow
    intro row hrow
    have := hbelow.mem hrow
    omega
  have hrestMoves : NumberedFrom (·.position) (first.length + 1)
      (rest.map (movedTo entry first.length)) := by
    apply hrest.succ
    intro row hrow
    have := hrest.mem hrow
    rw [movedTo, if_neg (hneAbove row (List.mem_append_right _ hrow)), shifted, if_pos (by omega),
      if_pos (by omega)]
  refine ⟨first ++ { entry with position := first.length } ::
    (rest.map (movedTo entry first.length) ++ below), ?_, ?_, ?_⟩
  · rw [List.map_append, List.map_append, List.map_cons, hfirstStays, hbelowStays, movedTo_self,
      List.append_assoc]
    exact List.perm_middle.append_left first
  · rw [numberedFrom_append, numberedFrom_cons, numberedFrom_append, List.length_map]
    refine ⟨hfirst, (Nat.zero_add _).symm, ?_, ?_⟩
    · rw [Nat.zero_add]
      exact hrestMoves
    · rw [show 0 + first.length + 1 + rest.length = first.length + rest.length + 1 by omega]
      exact hbelow
  · rw [insertAt, List.append_assoc, List.map_append, @List.map_append _ _ _ first,
      List.take_left' (by simp), List.drop_left' (by simp), List.map_cons, List.map_append,
      map_movedTo_keys, List.map_append]
    rfl

theorem movedDown {above below : List PlaylistEntry}
    (hordered : NumberedFrom (·.position) 0 (above ++ entry :: below))
    (hids : ((above ++ entry :: below).map (·.id)).Nodup) (hdown : above.length < newPosition)
    (hnew : newPosition ≤ above.length + below.length) :
    ∃ after, ((above ++ entry :: below).map (movedTo entry newPosition)).Perm after ∧
      NumberedFrom (·.position) 0 after ∧
      after.map key = insertAt newPosition (key entry) ((above ++ below).map key) := by
  obtain ⟨habove, hposition, hbelow⟩ := numbered_split hordered
  obtain ⟨hneAbove, hneBelow⟩ := id_ne_of_split hids
  obtain ⟨passed, rest, rfl, hpassed⟩ : ∃ passed rest, below = passed ++ rest ∧
      above.length + passed.length = newPosition :=
    ⟨below.take (newPosition - above.length), below.drop (newPosition - above.length),
      (List.take_append_drop _ _).symm, by rw [List.length_take]; omega⟩
  subst hpassed
  obtain ⟨hpassed, hrest⟩ := numberedFrom_append.mp hbelow
  have haboveStays : above.map (movedTo entry (above.length + passed.length)) = above := by
    apply map_movedTo_eq_self hneAbove
    intro row hrow
    have := habove.mem hrow
    omega
  have hrestStays : rest.map (movedTo entry (above.length + passed.length)) = rest := by
    apply map_movedTo_eq_self fun row hrow => hneBelow row (List.mem_append_right _ hrow)
    intro row hrow
    have := hrest.mem hrow
    omega
  have hpassedMoves : NumberedFrom (·.position) above.length
      (passed.map (movedTo entry (above.length + passed.length))) := by
    apply hpassed.pred
    intro row hrow
    have := hpassed.mem hrow
    rw [movedTo, if_neg (hneBelow row (List.mem_append_left _ hrow)), shifted,
      if_neg (by omega), if_pos (by omega)]
  refine ⟨above ++ passed.map (movedTo entry (above.length + passed.length)) ++
    { entry with position := above.length + passed.length } :: rest, ?_, ?_, ?_⟩
  · rw [List.map_append, List.map_cons, List.map_append, haboveStays, hrestStays, movedTo_self,
      List.append_assoc]
    exact List.perm_middle.symm.append_left above
  · rw [numberedFrom_append, numberedFrom_append, numberedFrom_cons, List.length_append,
      List.length_map]
    refine ⟨⟨habove, ?_⟩, (Nat.zero_add _).symm, ?_⟩
    · rw [Nat.zero_add]
      exact hpassedMoves
    · rw [show 0 + (above.length + passed.length) + 1 = above.length + 1 + passed.length by omega]
      exact hrest
  · rw [insertAt, ← List.append_assoc, List.map_append, @List.map_append _ _ _ (above ++ passed),
      List.take_left' (by simp), List.drop_left' (by simp), List.map_cons, List.map_append,
      map_movedTo_keys, List.map_append]
    rfl

theorem reorder_spec (hids : (entries.map (·.id)).Nodup)
    (hnumbered : Numbered (·.position) entries) (hentry : entry ∈ entries)
    {above below : List PlaylistEntry}
    (horder : inOrder (·.position) entries = above ++ entry :: below)
    (hnew : newPosition < entries.length) :
    ∃ after, (reorderPlaylistEntry entries entry.id newPosition).Perm after ∧
      NumberedFrom (·.position) 0 after ∧
      after.map key = insertAt newPosition (key entry) ((above ++ below).map key) := by
  have hperm := (inOrder_perm PlaylistEntry.position entries).symm
  have hordered := hnumbered.inOrder
  rw [horder] at hperm hordered
  have hidsOrder := (hperm.map (·.id)).nodup hids
  obtain ⟨-, hposition, -⟩ := numbered_split hordered
  rw [hperm.length_eq, List.length_append, List.length_cons] at hnew
  unfold reorderPlaylistEntry
  rw [find?_entry hids hentry]
  by_cases hsame : entry.position = newPosition
  · refine ⟨above ++ entry :: below, ?_, hordered, ?_⟩
    · simpa only [hsame, if_true] using hperm
    · rw [← hsame, hposition, insertAt, List.map_append, List.map_append, List.map_cons,
        List.take_left' (by simp), List.drop_left' (by simp)]
  · simp only [if_neg hsame]
    by_cases hup : newPosition < above.length
    · obtain ⟨after, hafter, hspec⟩ := movedUp hordered hidsOrder hup
      exact ⟨after, (hperm.map _).trans hafter, hspec⟩
    · have hdown : above.length < newPosition := by omega
      obtain ⟨after, hafter, hspec⟩ := movedDown hordered hidsOrder hdown (by omega)
      exact ⟨after, (hperm.map _).trans hafter, hspec⟩

theorem not_numbered_reorder (hids : (entries.map (·.id)).Nodup) (hentry : entry ∈ entries)
    (hnumbered : Numbered (·.position) entries) (hnew : entries.length ≤ newPosition) :
    ¬ Numbered (·.position) (reorderPlaylistEntry entries entry.id newPosition) := by
  intro hafter
  have hposition : entry.position < entries.length :=
    List.mem_range.mp (hnumbered.mem_iff.mp (List.mem_map_of_mem hentry))
  unfold reorderPlaylistEntry at hafter
  rw [find?_entry hids hentry] at hafter
  simp only [if_neg (show entry.position ≠ newPosition by omega)] at hafter
  have hmem := hafter.mem_iff.mp (List.mem_map_of_mem (List.mem_map_of_mem hentry))
  rw [List.length_map, List.mem_range] at hmem
  simp only [if_true] at hmem
  omega

end Reorder

section Swaps

variable {α : Type} {above below above' below' : List α} {entry : α}

theorem goesUp_iff (hothers : above' ++ below' = above ++ below) (hentry : entry ∉ above ++ below)
    (hsome : above ≠ []) :
    (∃ front neighbour back, above ++ entry :: below = front ++ neighbour :: entry :: back ∧
      above' ++ entry :: below' = front ++ entry :: neighbour :: back) ↔
      above'.length + 1 = above.length := by
  have hentry' : entry ∉ above' ++ below' := hothers ▸ hentry
  rw [List.mem_append, not_or] at hentry hentry'
  constructor
  · rintro ⟨front, neighbour, back, hbefore, hafter⟩
    rw [show front ++ neighbour :: entry :: back = (front ++ [neighbour]) ++ entry :: back by simp,
      List.append_cons_inj_of_notMem hentry.1 hentry.2] at hbefore
    rw [List.append_cons_inj_of_notMem hentry'.1 hentry'.2] at hafter
    rw [hbefore.1, hafter.1, List.length_append, List.length_singleton]
  · intro hlength
    obtain ⟨front, neighbour, rfl⟩ := (List.eq_nil_or_concat' above).resolve_left hsome
    rw [List.length_append, List.length_singleton] at hlength
    rw [List.append_assoc, List.singleton_append] at hothers
    obtain ⟨rfl, rfl⟩ := List.append_inj hothers (by omega)
    exact ⟨above', neighbour, below, by simp, rfl⟩

theorem goesDown_iff (hothers : above' ++ below' = above ++ below)
    (hentry : entry ∉ above ++ below) (hsome : below ≠ []) :
    (∃ front neighbour back, above ++ entry :: below = front ++ entry :: neighbour :: back ∧
      above' ++ entry :: below' = front ++ neighbour :: entry :: back) ↔
      above'.length = above.length + 1 := by
  have hentry' : entry ∉ above' ++ below' := hothers ▸ hentry
  rw [List.mem_append, not_or] at hentry hentry'
  constructor
  · rintro ⟨front, neighbour, back, hbefore, hafter⟩
    rw [List.append_cons_inj_of_notMem hentry.1 hentry.2] at hbefore
    rw [show front ++ neighbour :: entry :: back = (front ++ [neighbour]) ++ entry :: back by simp,
      List.append_cons_inj_of_notMem hentry'.1 hentry'.2] at hafter
    rw [hbefore.1, hafter.1, List.length_append, List.length_singleton]
  · intro hlength
    obtain ⟨neighbour, back, rfl⟩ := List.exists_cons_of_ne_nil hsome
    rw [show above ++ neighbour :: back = (above ++ [neighbour]) ++ back by simp] at hothers
    obtain ⟨rfl, rfl⟩ := List.append_inj hothers (by simpa using hlength)
    exact ⟨above, neighbour, below', rfl, by simp⟩

end Swaps

section Moves

variable {state : State} {direction : Direction} {entry : PlaylistEntry} {sent : Nat}

/-- Whether the page shows an entry depends on its take alone. -/
def showsKey (state : State) (row : EntryId × GenerationId) : Bool :=
  state.songOf row.2 ∉ state.deletedSongs

/-- The entries of a list that the page shows. -/
def shownIds (state : State) (rows : List (EntryId × GenerationId)) : List EntryId :=
  (rows.filter (showsKey state)).map Prod.fst

theorem shownIds_append (rows more : List (EntryId × GenerationId)) :
    shownIds state (rows ++ more) = shownIds state rows ++ shownIds state more := by
  rw [shownIds, List.filter_append, List.map_append, shownIds, shownIds]

theorem shownIds_cons (hshown : state.shows entry = true)
    (rows : List (EntryId × GenerationId)) :
    shownIds state (key entry :: rows) = entry.id :: shownIds state rows := by
  have hkey : showsKey state (key entry) = true := hshown
  rw [shownIds, List.filter_cons_of_pos hkey, List.map_cons, shownIds]
  rfl

theorem shownIds_map_key (rows : List PlaylistEntry) :
    shownIds state (rows.map key) = (rows.filter state.shows).map (·.id) := by
  rw [shownIds, List.filter_map, List.map_map]
  rfl

theorem findIdx?_split {α : Type} {matching : α → Bool} {above below : List α} {value : α}
    (hbefore : ∀ other ∈ above, matching other = false) (hvalue : matching value = true) :
    (above ++ value :: below).findIdx? matching = some above.length := by
  rw [List.findIdx?_append, List.findIdx?_eq_none_iff.mpr hbefore, List.findIdx?_cons,
    if_pos hvalue]
  simp

theorem order_ids (hids : (state.entries.map (·.id)).Nodup) :
    (state.order.map (·.id)).Nodup :=
  ((inOrder_perm _ state.entries).symm.map _).nodup hids

theorem visible_findIdx? (hids : (state.entries.map (·.id)).Nodup)
    (hshown : state.shows entry = true) {above below : List PlaylistEntry}
    (horder : state.order = above ++ entry :: below) :
    (state.visible.findIdx? fun row => row.id = entry.id) =
      some (shownIds state (above.map key)).length := by
  have hne := id_ne_of_split (horder ▸ order_ids hids)
  rw [State.visible, horder, List.filter_append, List.filter_cons_of_pos hshown,
    findIdx?_split ?_ (by simp), shownIds_map_key, List.length_map]
  intro other hother
  simpa using hne.1 other (List.mem_of_mem_filter hother)

/-- Where the page sends an entry, in terms of the entries it shows around it. -/
def SentTo (state : State) (above below : List PlaylistEntry) (sent : Nat) : Direction → Prop
  | .up => (shownIds state (above.map key)).length = sent + 1
  | .down =>
      sent = (shownIds state (above.map key)).length + 1 ∧ shownIds state (below.map key) ≠ []

theorem sentPosition_spec (hids : (state.entries.map (·.id)).Nodup) {id : EntryId}
    (hsent : state.sentPosition direction id = some sent) :
    ∃ row ∈ state.entries, row.id = id ∧ state.shows row = true ∧
      ∀ above below, state.order = above ++ row :: below →
        SentTo state above below sent direction := by
  unfold State.sentPosition at hsent
  rcases hfound : state.visible.findIdx? (fun row => row.id = id) with _ | i
  · rw [hfound] at hsent
    cases hsent
  · obtain ⟨hlow, hid, -⟩ := List.findIdx?_eq_some_iff_getElem.mp hfound
    have hrow : state.visible[i] ∈ state.visible := List.getElem_mem hlow
    obtain ⟨hmem, hshown⟩ := List.mem_filter.mp hrow
    refine ⟨state.visible[i], (inOrder_perm _ state.entries).mem_iff.mp hmem, by simpa using hid,
      hshown, ?_⟩
    intro above below horder
    have hindex := visible_findIdx? hids hshown horder
    rw [of_decide_eq_true hid, hfound] at hindex
    obtain rfl := Option.some.inj hindex
    rw [hfound] at hsent
    rcases direction with _ | _
    · simp only [Option.ite_none_right_eq_some] at hsent
      obtain ⟨hpos, hsent⟩ := hsent
      have := Option.some.inj hsent
      show _ = sent + 1
      omega
    · simp only [Option.ite_none_right_eq_some] at hsent
      obtain ⟨hlast, hsent⟩ := hsent
      refine ⟨(Option.some.inj hsent).symm, ?_⟩
      intro hnone
      have hlength : state.visible.length =
          (shownIds state (above.map key)).length + 1 := by
        rw [State.visible, horder, List.filter_append, List.filter_cons_of_pos hshown,
          List.length_append, List.length_cons, shownIds_map_key, List.length_map]
        rw [shownIds_map_key, List.map_eq_nil_iff] at hnone
        rw [hnone]
        rfl
      omega

/-- No entry of the list is hidden. -/
def AllShown (state : State) (rows : List PlaylistEntry) : Prop :=
  ∀ row ∈ rows, state.shows row = true

theorem length_shownIds_iff (rows : List PlaylistEntry) :
    (shownIds state (rows.map key)).length = rows.length ↔ AllShown state rows := by
  rw [shownIds_map_key, List.length_map, List.length_filter_eq_length_iff, AllShown]

theorem le_shownIds_of_take {rows : List PlaylistEntry} {count : Nat} (hcount : count ≤ rows.length)
    (hshown : AllShown state (rows.take count)) :
    count ≤ (shownIds state (rows.map key)).length := by
  have htake := (length_shownIds_iff _).mpr hshown
  rw [List.length_take, Nat.min_eq_left hcount] at htake
  rw [← List.take_append_drop count rows, List.map_append, shownIds_append, List.length_append,
    htake]
  exact Nat.le_add_right _ _

/-- The hidden entries stand behind a place exactly when all entries up to it are shown. -/
theorem hidden_behind_iff (hnumbered : Numbered (·.position) state.entries) (count : Nat) :
    (∀ hidden ∈ state.entries, state.shows hidden = false → count ≤ hidden.position) ↔
      AllShown state (state.order.take count) := by
  have hmem : ∀ row, row ∈ state.order.take count ↔
      row ∈ state.entries ∧ row.position < count := by
    intro row
    rw [State.order, hnumbered.inOrder.mem_take, (inOrder_perm _ state.entries).mem_iff,
      Nat.zero_add]
  constructor
  · intro hbehind row hrow
    obtain ⟨hentry, hlow⟩ := (hmem row).mp hrow
    by_contra hhidden
    have := hbehind row hentry (by simpa using hhidden)
    omega
  · intro hall hidden hentry hhidden
    by_contra hlow
    rw [hall hidden ((hmem hidden).mpr ⟨hentry, by omega⟩)] at hhidden
    cases hhidden

/-- How far the entries in front of a sent position and those it passes reach. -/
def reach : Direction → Nat → Nat
  | .up, sent => sent
  | .down, sent => sent + 1

/-- The first of the other entries are shown exactly when the move passes no hidden one. -/
theorem keepsOrder_move_iff (hnumbered : Numbered (·.position) state.entries)
    (hshown : state.shows entry = true) {above below : List PlaylistEntry}
    (horder : state.order = above ++ entry :: below)
    (hsent : state.sentPosition direction entry.id = some sent)
    (hspec : SentTo state above below sent direction) :
    KeepsOrder state (.move direction entry.id) ↔
      AllShown state ((above ++ below).take sent) := by
  have hlength : (shownIds state (above.map key)).length ≤ above.length := by
    rw [shownIds_map_key, List.length_map]
    exact List.length_filter_le _ _
  have hkeeps : KeepsOrder state (.move direction entry.id) ↔
      AllShown state (state.order.take (reach direction sent)) := by
    rw [← hidden_behind_iff hnumbered]
    rcases direction with _ | _
    · constructor
      · exact fun h => h sent hsent
      · intro h other hother
        obtain rfl := Option.some.inj (hsent.symm.trans hother)
        exact h
    · constructor
      · exact fun h => h sent hsent
      · intro h other hother
        obtain rfl := Option.some.inj (hsent.symm.trans hother)
        exact h
  rw [hkeeps, horder]
  rcases direction with _ | _
  · have hup : (shownIds state (above.map key)).length = sent + 1 := hspec
    show AllShown state ((above ++ entry :: below).take sent) ↔ _
    rw [List.take_append_of_le_length (by omega), List.take_append_of_le_length (by omega)]
  · obtain ⟨hdown, -⟩ := hspec
    by_cases hfar : above.length ≤ sent
    · have hpassed : (above ++ entry :: below).take (sent + 1) =
          above ++ entry :: below.take (sent - above.length) := by
        rw [List.take_append, List.take_of_length_le (by omega), Nat.sub_add_comm hfar,
          List.take_succ_cons]
      have hothers : (above ++ below).take sent = above ++ below.take (sent - above.length) := by
        rw [List.take_append, List.take_of_length_le hfar]
      show AllShown state ((above ++ entry :: below).take (sent + 1)) ↔ _
      rw [hpassed, hothers]
      constructor
      · intro hall row hrow
        refine hall row ?_
        rw [List.mem_append] at hrow ⊢
        exact hrow.imp_right (List.mem_cons_of_mem _)
      · intro hall row hrow
        rw [List.mem_append, List.mem_cons] at hrow
        rcases hrow with hrow | rfl | hrow
        · exact hall row (List.mem_append_left _ hrow)
        · exact hshown
        · exact hall row (List.mem_append_right _ hrow)
    · -- Only entries above stand up to there, and too few of them are shown.
      have hclose : sent + 1 ≤ above.length := by omega
      show AllShown state ((above ++ entry :: below).take (sent + 1)) ↔ _
      rw [List.take_append_of_le_length hclose, List.take_append_of_le_length (by omega)]
      constructor
      · intro hall
        have := le_shownIds_of_take hclose hall
        omega
      · intro hall
        have := le_shownIds_of_take (by omega) hall
        omega

theorem filter_ne_insertAt {id : EntryId} {values : List EntryId} (hnone : id ∉ values)
    (index : Nat) : (insertAt index id values).filter (fun value => value ≠ id) = values := by
  have hself : ∀ part : List EntryId, (∀ value ∈ part, value ∈ values) →
      part.filter (fun value => value ≠ id) = part := by
    intro part hpart
    rw [List.filter_eq_self]
    intro value hvalue
    have hne : value ≠ id := fun hsame => hnone (hsame ▸ hpart value hvalue)
    simpa using hne
  rw [insertAt, List.filter_append, List.filter_cons_of_neg (by simp),
    hself _ fun _ => List.mem_of_mem_take, hself _ fun _ => List.mem_of_mem_drop,
    List.take_append_drop]

theorem move_spec (hids : (state.entries.map (·.id)).Nodup)
    (hnumbered : Numbered (·.position) state.entries) {id : EntryId}
    (hsent : state.sentPosition direction id = some sent) :
    ∃ move, (moveEntry state direction id sent).moves = state.moves ++ [move] ∧
      Numbered (·.position) (moveEntry state direction id sent).entries ∧
      (move.Swaps ↔ KeepsOrder state (.move direction id)) := by
  obtain ⟨entry, hentry, rfl, hshown, hspec⟩ := sentPosition_spec hids hsent
  obtain ⟨above, below, horder⟩ := split_order hentry
  have hspec := hspec above below horder
  have hperm := inOrder_perm PlaylistEntry.position state.entries
  have hlength : state.entries.length = above.length + (below.length + 1) := by
    rw [← hperm.length_eq, horder, List.length_append, List.length_cons]
  have habove : (shownIds state (above.map key)).length ≤ above.length := by
    rw [shownIds_map_key, List.length_map]
    exact List.length_filter_le _ _
  have hbelow : (shownIds state (below.map key)).length ≤ below.length := by
    rw [shownIds_map_key, List.length_map]
    exact List.length_filter_le _ _
  have hnew : sent ≤ above.length + below.length := by
    rcases direction with _ | _
    · have hup : (shownIds state (above.map key)).length = sent + 1 := hspec
      omega
    · obtain ⟨hdown, hsome⟩ := hspec
      have := List.length_pos_of_ne_nil hsome
      omega
  have hsentLt : sent < state.entries.length := by omega
  obtain ⟨after, hafterPerm, hafter, hkeys⟩ :=
    reorder_spec hids hnumbered hentry horder hsentLt
  have hafterOrder : inOrder (·.position) (reorderPlaylistEntry state.entries entry.id sent) =
      after := inOrder_eq hafterPerm hafter.pairwise
  refine ⟨_, rfl, numbered_of_perm hafterPerm hafter, ?_⟩
  rw [keepsOrder_move_iff hnumbered hshown horder hsent hspec]
  obtain ⟨hneAbove, hneBelow⟩ := id_ne_of_split (horder ▸ (hperm.symm.map _).nodup hids)
  have hnone : entry.id ∉ (above ++ below).map (·.id) := by
    rw [List.mem_map]
    rintro ⟨row, hrow, hsame⟩
    rcases List.mem_append.mp hrow with hrow | hrow
    · exact hneAbove row hrow hsame
    · exact hneBelow row hrow hsame
  have hids_map : ∀ rows : List PlaylistEntry, (rows.map key).map Prod.fst = rows.map (·.id) :=
    fun rows => List.map_map
  have hbefore : state.order.map (·.id) =
      insertAt above.length entry.id ((above ++ below).map (·.id)) := by
    rw [insertAt, List.map_append, List.take_left' (by simp), List.drop_left' (by simp),
      State.order, horder, List.map_append, List.map_cons]
  have hafterIds : (inOrder (·.position)
      (reorderPlaylistEntry state.entries entry.id sent)).map (·.id) =
      insertAt sent entry.id ((above ++ below).map (·.id)) := by
    rw [hafterOrder, ← hids_map, hkeys, insertAt, List.map_append, List.map_cons, List.map_take,
      List.map_drop, hids_map]
    rfl
  have hvisible : state.visible.map (·.id) = shownIds state (above.map key) ++
      entry.id :: shownIds state (below.map key) := by
    rw [← shownIds_cons hshown, ← List.map_cons, ← shownIds_append, ← List.map_append,
      shownIds_map_key, State.visible, State.order, horder]
  have hafterVisible : ((inOrder (·.position)
      (reorderPlaylistEntry state.entries entry.id sent)).filter state.shows).map (·.id) =
      shownIds state (((above ++ below).map key).take sent) ++
        entry.id :: shownIds state (((above ++ below).map key).drop sent) := by
    rw [hafterOrder, ← shownIds_map_key, hkeys, insertAt, shownIds_append, shownIds_cons hshown]
  have hothers : shownIds state (((above ++ below).map key).take sent) ++
      shownIds state (((above ++ below).map key).drop sent) =
        shownIds state (above.map key) ++ shownIds state (below.map key) := by
    rw [← shownIds_append, List.take_append_drop, List.map_append, shownIds_append]
  have hentryShown : entry.id ∉
      shownIds state (above.map key) ++ shownIds state (below.map key) := by
    rw [← shownIds_append, ← List.map_append, shownIds_map_key]
    intro hmem
    exact hnone ((List.filter_sublist.map _).subset hmem)
  have hshownIff : AllShown state ((above ++ below).take sent) ↔
      (shownIds state (((above ++ below).map key).take sent)).length = sent := by
    rw [← length_shownIds_iff, List.map_take, List.length_take, List.length_append,
      Nat.min_eq_left hnew]
  rw [hshownIff]
  have hrest : ((inOrder (·.position)
      (reorderPlaylistEntry state.entries entry.id sent)).map (·.id)).filter
        (fun row => row ≠ entry.id) =
            (state.order.map (·.id)).filter fun row => row ≠ entry.id := by
    rw [hafterIds, hbefore, filter_ne_insertAt hnone, filter_ne_insertAt hnone]
  rcases direction with _ | _
  · have hup : (shownIds state (above.map key)).length = sent + 1 := hspec
    have hiff := goesUp_iff hothers hentryShown (List.ne_nil_of_length_eq_add_one hup)
    rw [hup, Nat.add_right_cancel_iff] at hiff
    rw [← hiff]
    constructor
    · rintro ⟨⟨front, neighbour, back, hfirst, hsecond⟩, -⟩
      exact ⟨front, neighbour, back, hvisible.symm.trans hfirst, hafterVisible.symm.trans hsecond⟩
    · rintro ⟨front, neighbour, back, hfirst, hsecond⟩
      exact ⟨⟨front, neighbour, back, hvisible.trans hfirst, hafterVisible.trans hsecond⟩, hrest⟩
  · obtain ⟨hdown, hsome⟩ := hspec
    have hiff := goesDown_iff hothers hentryShown hsome
    rw [← hdown] at hiff
    rw [← hiff]
    constructor
    · rintro ⟨⟨front, neighbour, back, hfirst, hsecond⟩, -⟩
      exact ⟨front, neighbour, back, hvisible.symm.trans hfirst, hafterVisible.symm.trans hsecond⟩
    · rintro ⟨front, neighbour, back, hfirst, hsecond⟩
      exact ⟨⟨front, neighbour, back, hvisible.trans hfirst, hafterVisible.trans hsecond⟩, hrest⟩

end Moves

section Runs

variable {state next : State} {action : Action}

theorem map_ids_reorder (entries : List PlaylistEntry) (entryId : EntryId) (newPosition : Nat) :
    (reorderPlaylistEntry entries entryId newPosition).map (·.id) = entries.map (·.id) := by
  unfold reorderPlaylistEntry
  split
  · rfl
  · rename_i moved hfound
    split
    · rfl
    · rw [List.map_map]
      apply List.map_congr_left
      intro row _
      show (if row.id = entryId then { row with position := newPosition }
        else shifted moved.position newPosition row).id = row.id
      split
      · rfl
      · exact congrArg Prod.fst (key_shifted _ _ row)

theorem ids_remove (entries : List PlaylistEntry) (entryId : EntryId) :
    ((removeFromPlaylist entries entryId).map (·.id)).Sublist (entries.map (·.id)) := by
  unfold removeFromPlaylist
  split
  · exact .refl _
  · rw [List.map_map]
    rename_i removed hfound
    have hkeeps : ((·.id) ∘ fun row : PlaylistEntry =>
        if removed.position < row.position then { row with position := row.position - 1 }
        else row) = (·.id) := by
      funext row
      show (if removed.position < row.position then { row with position := row.position - 1 }
        else row).id = row.id
      split <;> rfl
    rw [hkeeps]
    exact List.filter_sublist.map _

theorem ids_act (hids : (state.entries.map (·.id)).Nodup)
    (hstep : act state action = some next) : (next.entries.map (·.id)).Nodup := by
  unfold act at hstep
  split at hstep
  · rename_i entry generation
    split_ifs at hstep with hthere
    obtain rfl := Option.some.inj hstep
    rw [List.map_append, List.nodup_append]
    refine ⟨hids, List.nodup_singleton _, ?_⟩
    rintro first hfirst second hsecond rfl
    obtain ⟨row, hrow, rfl⟩ := List.mem_map.mp hfirst
    apply hthere
    rw [List.any_eq_true]
    exact ⟨row, hrow, by simpa using hsecond⟩
  · obtain rfl := Option.some.inj hstep
    exact hids.sublist (ids_remove _ _)
  · obtain rfl := Option.some.inj hstep
    rw [map_ids_reorder]
    exact hids
  · obtain ⟨sent, -, rfl⟩ := Option.map_eq_some_iff.mp hstep
    show ((reorderPlaylistEntry _ _ _).map _).Nodup
    rw [map_ids_reorder]
    exact hids
  · obtain rfl := Option.some.inj hstep
    exact hids.sublist (List.filter_sublist.map _)
  · obtain rfl := Option.some.inj hstep
    exact hids
  · obtain rfl := Option.some.inj hstep
    exact hids

theorem inOrder_of_move {newMove : Move} (hmoves : next.moves = state.moves ++ [newMove])
    (horder : ∀ move ∈ state.moves, move.Swaps) (hpositions : Numbered (·.position) next.entries) :
    InOrder next ↔ newMove.Swaps := by
  constructor
  · intro h
    exact h.moves newMove (by simp [hmoves])
  · intro hswaps
    refine ⟨hpositions, ?_⟩
    intro move hmove
    rw [hmoves, List.mem_append, List.mem_singleton] at hmove
    rcases hmove with hmove | rfl
    · exact horder move hmove
    · exact hswaps

theorem inOrder_act_iff (hids : (state.entries.map (·.id)).Nodup) (horder : InOrder state)
    (hstep : act state action = some next) : InOrder next ↔ KeepsOrder state action := by
  have hnumbered := horder.positions
  unfold act at hstep
  split at hstep
  · rename_i entry generation
    split_ifs at hstep
    obtain rfl := Option.some.inj hstep
    exact iff_of_true ⟨numbered_add hnumbered entry generation, horder.moves⟩ trivial
  · rename_i entry
    obtain rfl := Option.some.inj hstep
    exact iff_of_true ⟨numbered_remove hids hnumbered entry, horder.moves⟩ trivial
  · rename_i entry newPosition
    obtain rfl := Option.some.inj hstep
    by_cases hentry : ∃ row ∈ state.entries, row.id = entry
    · obtain ⟨row, hrow, rfl⟩ := hentry
      by_cases hnew : newPosition < state.entries.length
      · obtain ⟨above, below, hsplit⟩ := split_order hrow
        obtain ⟨after, hperm, hafter, -⟩ := reorder_spec hids hnumbered hrow hsplit hnew
        exact iff_of_true ⟨numbered_of_perm hperm hafter, horder.moves⟩ (.inr hnew)
      · apply iff_of_false
        · intro hafter
          exact not_numbered_reorder hids hrow hnumbered (by omega) hafter.positions
        · rintro (hnone | hlow)
          · exact hnone row hrow rfl
          · exact hnew hlow
    · have hnone : ∀ row ∈ state.entries, row.id ≠ entry :=
        fun row hrow hid => hentry ⟨row, hrow, hid⟩
      refine iff_of_true ⟨?_, horder.moves⟩ (.inl hnone)
      have hfound : state.entries.find? (fun row => row.id = entry) = none := by
        rw [List.find?_eq_none]
        intro row hrow
        simpa using hnone row hrow
      show Numbered _ (reorderPlaylistEntry state.entries entry newPosition)
      rw [reorderPlaylistEntry, hfound]
      exact hnumbered
  · obtain ⟨sent, hsent, rfl⟩ := Option.map_eq_some_iff.mp hstep
    obtain ⟨newMove, hmoves, hpositions, hswaps⟩ := move_spec hids hnumbered hsent
    rw [inOrder_of_move hmoves horder.moves hpositions, hswaps]
  · rename_i generations
    obtain rfl := Option.some.inj hstep
    have hiff := hnumbered.filter_iff fun row => decide (row.generationId ∉ generations)
    simp only [decide_eq_true_eq, decide_eq_false_iff_not, not_not] at hiff
    constructor
    · exact fun h => hiff.mp h.positions
    · exact fun h => ⟨hiff.mpr h, horder.moves⟩
  · obtain rfl := Option.some.inj hstep
    exact iff_of_true ⟨hnumbered, horder.moves⟩ trivial
  · obtain rfl := Option.some.inj hstep
    exact iff_of_true ⟨hnumbered, horder.moves⟩ trivial

/-- Along a run the positions have no gap, and every move of the page is a swap,
exactly when all its actions keep the order. -/
theorem playlist_in_order_iff {state : State} (hstate : Opened state)
    {run : List (Action × State)} (hrun : playlistSystem.IsRun state run) :
    (∀ later ∈ TransitionSystem.visited state run, InOrder later) ↔
      TransitionSystem.StepsMeet KeepsOrder state run := by
  refine TransitionSystem.forall_visited_iff_stepsMeet (M := playlistSystem)
    (I := fun state => (state.entries.map (·.id)).Nodup ∧ InOrder state)
    (fun _ h => h.2) ?_ ?_ ?_ hrun
  · intro before action after h hstep hkeeps
    exact ⟨ids_act h.1 hstep, (inOrder_act_iff h.1 h.2 hstep).mpr hkeeps⟩
  · intro before action after h hstep hkeeps hafter
    exact hkeeps ((inOrder_act_iff h.1 h.2 hstep).mp hafter)
  · refine ⟨hstate.ids, hstate.positions, ?_⟩
    rw [hstate.moves]
    exact fun move hmove => absurd hmove List.not_mem_nil

end Runs

section Examples

/-- Four takes of four songs, in order. -/
def fourEntries : State where
  entries := [⟨0, 10, 0⟩, ⟨1, 11, 1⟩, ⟨2, 12, 2⟩, ⟨3, 13, 3⟩]
  songOf generation := generation
  deletedSongs := []
  moves := []

theorem fourEntries_opened : Opened fourEntries where
  ids := by decide
  positions := by decide
  moves := rfl

/-- A move up with a hidden entry behind it, and the last take deleted. -/
def orderlyActions : List Action :=
  [.deleteSong 13, .move .up 1, .deleteTakes [13]]

theorem playlist_in_order_iff_orderly :
    (TransitionSystem.lastOf fourEntries
      (TransitionSystem.follow act fourEntries orderlyActions)).entries =
        [⟨0, 10, 1⟩, ⟨1, 11, 0⟩, ⟨2, 12, 2⟩] ∧
      InOrder (TransitionSystem.lastOf fourEntries
        (TransitionSystem.follow act fourEntries orderlyActions)) := by
  have hiff := playlist_in_order_iff fourEntries_opened
    (TransitionSystem.isRun_follow Opened act fourEntries orderlyActions)
  refine ⟨by decide +kernel, ?_⟩
  exact hiff.mpr (by decide +kernel) _ (TransitionSystem.lastOf_mem_visited _ _)

/-- A take in the middle is deleted. -/
theorem deleted_take_leaves_gap :
    ¬ ∀ state run, Opened state → playlistSystem.IsRun state run →
      ∀ later ∈ TransitionSystem.visited state run, InOrder later := by
  intro hall
  have horder := hall fourEntries _ fourEntries_opened
    (TransitionSystem.isRun_follow Opened act fourEntries [.deleteTakes [11]]) _
    (TransitionSystem.lastOf_mem_visited _ _)
  exact absurd horder.positions (by decide +kernel)

end Examples

end Songmaker.Playlists.PlaylistOrder
