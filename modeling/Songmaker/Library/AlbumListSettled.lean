import Songmaker.Library.AlbumListKept

namespace Songmaker.Library.AlbumList

open Songmaker.Foundation Songmaker.Foundation.TransitionSystem

variable {s : State}

/-- In every run whose answers are sound where they are put into the list, the list is right once
every load has settled. -/
theorem right_of_sound {localeCompare : String → String → Ordering}
    {run : List (Action × State)} (hs : Initial s) (hrun : (albumStore localeCompare).IsRun s run)
    (hsound : StepsMeet Sound s run) : ∀ t ∈ visited s run, Settled t → Right t := by
  have hkeeps : ∀ s a t, Kept s → (albumStore localeCompare).step s a t → Sound s a → Kept t :=
    fun s a t h hstep hok => h.act hok hstep
  intro t ht hsettled
  exact (forall_visited_of_stepsMeet hkeeps (kept_of_initial hs) hrun hsound t ht).right hsettled

def pageLoad (server : List Album) : State where
  server := server
  albumList := []
  allAlbumsLoad := .idle
  allAlbumsInflight := none
  replaceOwed := false
  reloadPending := false
  waiting := 0
  released := 0
  browseGeneration := 0
  albumOffset := 0
  browse := []
  created := []
  removed := []
  deletedElsewhere _ := none
  gaps := 0
  caughtUp := 0

theorem initial_pageLoad {server : List Album} (hserver : (ids server).Nodup) :
    Initial (pageLoad server) :=
  ⟨hserver, rfl, rfl, rfl, rfl, rfl, rfl, rfl, rfl, rfl, fun _ => rfl, rfl, rfl⟩

def dawn : Album := ⟨"a", "Dawn"⟩

def dusk : Album := ⟨"b", "Dusk"⟩

/-- Every album is loaded, one is deleted elsewhere, and the gap in the stream is caught up. -/
def caughtUpAfterGap : List Action :=
  [.ensureAllAlbumsLoaded, .fullServed [dawn, dusk], .fullArrives, .serverLoses "b" true,
    .rereadAllAlbums, .fullServed [dawn], .fullArrives]

theorem right_of_sound_caughtUpAfterGap :
    Right (lastOf (pageLoad [dawn, dusk])
      (follow (act fun _ _ => .eq) (pageLoad [dawn, dusk]) caughtUpAfterGap)) := by
  refine right_of_sound (initial_pageLoad (by decide)) (isRun_follow Initial _ _ _) ?_ _
    (lastOf_mem_visited _ _) ⟨by decide +kernel, by decide +kernel, by decide +kernel,
      by decide +kernel⟩
  refine ⟨trivial, trivial, ?_, trivial, ?_, trivial, ?_, trivial⟩
  · intro load hload page hpage _
    obtain rfl := Option.some.inj hload
    obtain rfl := Option.some.inj hpage
    exact ⟨fun id _ => List.not_mem_nil, by decide +kernel⟩
  · intro hidle
    exact LoadStatus.noConfusion hidle
  · intro load hload page hpage _
    obtain rfl := Option.some.inj hload
    obtain rfl := Option.some.inj hpage
    exact ⟨fun id _ => List.not_mem_nil, by decide +kernel, fun id hid =>
      absurd hid List.not_mem_nil⟩

/-- The page of a full load is answered before the album it holds is removed here, and comes
after. -/
def removedWhileRead : List Action :=
  [.loadLibraryBrowse true, .browseServed 0 [dawn], .browseArrives 0, .ensureAllAlbumsLoaded,
    .fullServed [dawn], .serverLoses "a" false, .removeAlbumFromList "a", .fullArrives]

theorem removed_album_listed_again :
    ¬ ∀ s, (albumStore fun _ _ => .eq).Reachable s → Settled s → Right s := by
  intro hall
  have hstart : (albumStore fun _ _ => .eq).Reachable (pageLoad [dawn]) :=
    .initial (initial_pageLoad (by decide))
  have hright := hall _ (reachable_follow hstart removedWhileRead)
    ⟨by decide +kernel, by decide +kernel, by decide +kernel, by decide +kernel⟩
  exact hright.removed "a" (by decide +kernel) (by decide +kernel)

end Songmaker.Library.AlbumList
