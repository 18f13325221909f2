import Mathlib.Data.Prod.Lex
import Songmaker.Foundation.Keyset
import Songmaker.Library.LibrarySearch

/-!
Each sort puts the hits in one linear order: by a value of the hit, then by its
type, then by its id. The merge, the two queries and the filter of a cursor all
follow that order.
-/

namespace Songmaker.Library

open Songmaker.Foundation
open Songmaker.Foundation.Keyset (Sorted before remaining)

section Positions

variable {Value Id : Type} [LinearOrder Value] [LinearOrder Id]

/-- The place of a hit in the order of the results. -/
def position (value : Value) (itemType : String) (id : Id) : Value ×ₗ String ×ₗ Id :=
  toLex (value, toLex (itemType, id))

theorem position_lt {v w : Value} {s t : String} {i j : Id} :
    position v s i < position w t j ↔ v < w ∨ v = w ∧ (s < t ∨ s = t ∧ i < j) := by
  simp only [position, Prod.Lex.toLex_lt_toLex]

theorem position_le {v w : Value} {s : String} {i j : Id} :
    position v s i ≤ position w s j ↔ v < w ∨ v = w ∧ i ≤ j := by
  simp [position, Prod.Lex.toLex_le_toLex]

omit [LinearOrder Value] [LinearOrder Id] in
theorem position_inj {v w : Value} {s t : String} {i j : Id} :
    position v s i = position w t j ↔ v = w ∧ s = t ∧ i = j := by
  simp [position]

theorem lexicographic_iff {v w : Value} {s t : String} {i j : Id} :
    (if v ≠ w then decide (v < w) else if s ≠ t then decide (s < t) else decide (i < j)) = true ↔
      position v s i < position w t j := by
  rw [position_lt]
  split_ifs with hvalue htype
  · simp [hvalue]
  · have hvalue' := not_not.mp hvalue
    simp [hvalue', htype]
  · have hvalue' := not_not.mp hvalue
    have htype' := not_not.mp htype
    simp [hvalue', htype']

end Positions

theorem ascendingKeysetClause_iff {Key : Type} [LinearOrder Key] (key value : Key)
    (modelId cursorId modelType cursorType : String) :
    ascendingKeysetClause key value modelId cursorId (modelType = cursorType)
        (cursorType < modelType) = true ↔
      position value cursorType cursorId < position key modelType modelId := by
  rw [position_lt]
  unfold ascendingKeysetClause
  rcases lt_trichotomy cursorType modelType with htype | htype | htype
  · simp [htype, eq_comm (a := key)]
  · simp [htype, eq_comm (a := key)]
  · simp [htype.not_gt, htype.ne, htype.ne']

theorem descendingKeysetClause_iff {Key : Type} [LinearOrder Key] (key value : Key)
    (modelId cursorId modelType cursorType : String) :
    descendingKeysetClause key value modelId cursorId (modelType = cursorType)
        (cursorType < modelType) = true ↔
      position (OrderDual.toDual value) cursorType (OrderDual.toDual cursorId) <
        position (OrderDual.toDual key) modelType (OrderDual.toDual modelId) := by
  rw [position_lt]
  unfold descendingKeysetClause
  rcases lt_trichotomy cursorType modelType with htype | htype | htype
  · simp [htype, eq_comm (a := key)]
  · simp [htype, eq_comm (a := key)]
  · simp [htype.not_gt, htype.ne, htype.ne']

/-- A linear order of the hits that the whole search follows under one sort. -/
structure SearchOrder (lower : String → String) (sort : LibrarySort) where
  Value : Type
  Id : Type
  [values : LinearOrder Value]
  [ids : LinearOrder Id]
  value : String → Datetime → Value
  id : String → Id
  id_injective : Function.Injective id
  hitBefore_iff (left right : Hit) : hitBefore lower sort left right = true ↔
    position (value left.title left.createdAt) left.hitType (id left.id) <
      position (value right.title right.createdAt) right.hitType (id right.id)
  rowBefore_iff {Row : Type} (model : Model Row) (a b : Row) :
    rowBefore lower model sort a b = true ↔
      value (model.title a) (model.createdAt a) < value (model.title b) (model.createdAt b) ∨
        value (model.title a) (model.createdAt a) = value (model.title b) (model.createdAt b) ∧
          id (model.id a) ≤ id (model.id b)
  keysetClause_iff {Row : Type} (model : Model Row) (hit : Hit) (q : String) :
    ∃ keyset, keysetClause lower model sort (cursorFromHit lower hit q sort) = some keyset ∧
      ∀ row, keyset row = true ↔
        position (value hit.title hit.createdAt) hit.hitType (id hit.id) <
          position (value (model.title row) (model.createdAt row)) model.itemType
            (id (model.id row))

attribute [instance] SearchOrder.values SearchOrder.ids

theorem awareTimestamp_instant (value : Datetime) :
    (awareTimestamp value).instant = value.instant := by
  cases hoffset : value.utcoffset with
  | none => simp [awareTimestamp, DatetimeFields.instant, DatetimeFields.toordinal, hoffset]
  | some offset =>
      simp [awareTimestamp, DatetimeFields.instant, DatetimeFields.toordinal, hoffset]

theorem parseSortDatetime_isoformat (value : Datetime) :
    parseSortDatetime (String.ofList (awareTimestamp value).isoformat) =
      some (awareTimestamp (awareTimestamp value)) := by
  rw [parseSortDatetime, String.toList_ofList, Datetime.fromisoformat_isoformat, Option.map_some]

namespace SearchOrder

variable (lower : String → String)

def byTitle : SearchOrder lower .title where
  Value := String
  Id := String
  value title _ := lower title
  id itemId := itemId
  id_injective := Function.injective_id
  hitBefore_iff _ _ := lexicographic_iff
  rowBefore_iff _ _ _ := by simp [rowBefore]
  keysetClause_iff _ _ _ := ⟨_, rfl, fun _ => ascendingKeysetClause_iff ..⟩

def byOldest : SearchOrder lower .oldest where
  Value := Int
  Id := String
  value _ createdAt := createdAt.instant
  id itemId := itemId
  id_injective := Function.injective_id
  hitBefore_iff left right := by
    rw [hitBefore, awareTimestamp_instant, awareTimestamp_instant]
    exact lexicographic_iff
  rowBefore_iff _ _ _ := by simp [rowBefore]
  keysetClause_iff model hit q := by
    refine ⟨fun row => ascendingKeysetClause (model.createdAt row).instant hit.createdAt.instant
      (model.id row) hit.id (model.itemType = hit.hitType) (hit.hitType < model.itemType), ?_, ?_⟩
    · simp only [keysetClause, cursorFromHit, reduceCtorEq, if_false, parseSortDatetime_isoformat,
        awareTimestamp_instant, Option.bind_eq_bind, Option.bind_some, Option.pure_def]
    · intro row
      exact ascendingKeysetClause_iff ..

def byNewest : SearchOrder lower .newest where
  Value := OrderDual Int
  Id := OrderDual String
  value _ createdAt := OrderDual.toDual createdAt.instant
  id itemId := OrderDual.toDual itemId
  id_injective := OrderDual.toDual.injective
  hitBefore_iff left right := by
    rw [hitBefore, awareTimestamp_instant, awareTimestamp_instant, ← lexicographic_iff]
    rfl
  rowBefore_iff model a b := by simp [rowBefore, eq_comm (a := (model.createdAt b).instant)]
  keysetClause_iff model hit q := by
    refine ⟨fun row => descendingKeysetClause (model.createdAt row).instant hit.createdAt.instant
      (model.id row) hit.id (model.itemType = hit.hitType) (hit.hitType < model.itemType), ?_, ?_⟩
    · simp only [keysetClause, cursorFromHit, reduceCtorEq, if_false, parseSortDatetime_isoformat,
        awareTimestamp_instant, Option.bind_eq_bind, Option.bind_some, Option.pure_def]
    · intro row
      exact descendingKeysetClause_iff ..

/-- The order that the server gives a sort. -/
def ofSort : (sort : LibrarySort) → SearchOrder lower sort
  | .title => byTitle lower
  | .oldest => byOldest lower
  | .newest => byNewest lower

end SearchOrder

/-- How the rows of a model appear as hits. -/
structure Model.Shows {Row : Type} (model : Model Row) (toHit : Row → Hit) : Prop where
  id (row : Row) : (toHit row).id = model.id row
  title (row : Row) : (toHit row).title = model.title row
  createdAt (row : Row) : (toHit row).createdAt = model.createdAt row
  itemType (row : Row) : (toHit row).hitType = model.itemType

theorem albumModel_shows : albumModel.Shows Hit.album :=
  ⟨fun _ => rfl, fun _ => rfl, fun _ => rfl, fun _ => rfl⟩

theorem songModel_shows : songModel.Shows Hit.song :=
  ⟨fun _ => rfl, fun _ => rfl, fun _ => rfl, fun _ => rfl⟩

namespace SearchOrder

variable {lower : String → String} {sort : LibrarySort} (order : SearchOrder lower sort)

def key (hit : Hit) : order.Value ×ₗ String ×ₗ order.Id :=
  position (order.value hit.title hit.createdAt) hit.hitType (order.id hit.id)

theorem hitBefore_eq : hitBefore lower sort = before order.key := by
  funext left right
  rw [Bool.eq_iff_iff, order.hitBefore_iff]
  exact (decide_eq_true_iff).symm

theorem hitType_eq_of_key_eq {left right : Hit} (hkey : order.key left = order.key right) :
    left.hitType = right.hitType ∧ left.id = right.id := by
  obtain ⟨-, htype, hid⟩ := position_inj.mp hkey
  exact ⟨htype, order.id_injective hid⟩

section Rows

variable {Row : Type} {model : Model Row} {toHit : Row → Hit} (hshows : model.Shows toHit)
include hshows

theorem key_toHit (row : Row) : order.key (toHit row) =
    position (order.value (model.title row) (model.createdAt row)) model.itemType
      (order.id (model.id row)) := by
  rw [key, hshows.title, hshows.createdAt, hshows.itemType, hshows.id]

theorem rowBefore_iff_key_le (a b : Row) : rowBefore lower model sort a b = true ↔
    order.key (toHit a) ≤ order.key (toHit b) := by
  rw [order.key_toHit hshows, order.key_toHit hshows, position_le, order.rowBefore_iff]

theorem sorted_applyLibrarySort {rows : List Row} (hnodup : (rows.map model.id).Nodup) :
    Sorted order.key ((applyLibrarySort lower model sort rows).map toHit) := by
  have hle : (applyLibrarySort lower model sort rows).Pairwise fun a b =>
      rowBefore lower model sort a b = true := by
    apply List.pairwise_mergeSort
    · intro a b c hab hbc
      rw [order.rowBefore_iff_key_le hshows] at hab hbc ⊢
      exact hab.trans hbc
    · intro a b
      rw [Bool.or_eq_true, order.rowBefore_iff_key_le hshows, order.rowBefore_iff_key_le hshows]
      exact le_total _ _
  have hperm : ((applyLibrarySort lower model sort rows).map model.id).Perm (rows.map model.id) :=
    (List.mergeSort_perm rows _).map model.id
  have hne : (applyLibrarySort lower model sort rows).Pairwise fun a b =>
      model.id a ≠ model.id b :=
    List.pairwise_map.mp (hperm.nodup_iff.mpr hnodup)
  unfold Sorted
  rw [List.pairwise_map]
  refine (hle.and hne).imp ?_
  rintro a b ⟨hab, hid⟩
  apply lt_of_le_of_ne ((order.rowBefore_iff_key_le hshows a b).mp hab)
  intro hkey
  apply hid
  rw [← hshows.id, ← hshows.id]
  exact (order.hitType_eq_of_key_eq hkey).2

theorem filter_keyset {rows : List Row} (hnodup : (rows.map model.id).Nodup) {hit : Hit}
    {keyset : Row → Bool} (hkeyset : ∀ row, keyset row = before order.key hit (toHit row)) :
    (applyLibrarySort lower model sort (rows.filter keyset)).map toHit =
      ((applyLibrarySort lower model sort rows).map toHit).filter (before order.key hit) := by
  have hsorted := order.sorted_applyLibrarySort hshows hnodup
  have hsorted' : Sorted order.key
      ((applyLibrarySort lower model sort (rows.filter keyset)).map toHit) := by
    apply order.sorted_applyLibrarySort hshows
    exact hnodup.sublist ((List.filter_sublist).map model.id)
  apply hsorted'.eq_of_perm (hsorted.filter _)
  rw [List.filter_map]
  apply List.Perm.map
  have hcomp : before order.key hit ∘ toHit = keyset := by
    funext row
    exact (hkeyset row).symm
  rw [hcomp]
  exact (List.mergeSort_perm _ _).trans ((List.mergeSort_perm rows _).filter keyset).symm

theorem queryPage_eq {rows : List Row} (hnodup : (rows.map model.id).Nodup) (limit : Nat)
    (after : Option Hit) (q : String) :
    ∃ page, queryPage lower model sort
        (after.map fun hit => cursorFromHit lower hit q sort) limit rows = some page ∧
      page.map toHit = (remaining order.key
        ((applyLibrarySort lower model sort rows).map toHit) after).take limit := by
  cases after with
  | none => exact ⟨_, rfl, List.map_take⟩
  | some hit =>
      obtain ⟨keyset, hsome, hiff⟩ := order.keysetClause_iff model hit q
      have hkeyset : ∀ row, keyset row = before order.key hit (toHit row) := by
        intro row
        rw [Bool.eq_iff_iff, hiff, ← order.key_toHit hshows]
        exact (decide_eq_true_iff).symm
      refine ⟨(applyLibrarySort lower model sort (rows.filter keyset)).take limit, ?_, ?_⟩
      · rw [Option.map_some, queryPage, hsome]
        rfl
      · rw [List.map_take, order.filter_keyset hshows hnodup hkeyset, remaining]

end Rows

end SearchOrder

end Songmaker.Library
