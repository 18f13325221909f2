import Mathlib.Data.Finset.Card
import Songmaker.Scoring.ScoreBackfill

/-!
The backfill hands on the oldest takes that have attempts left, none of them too often, and
every counter lapses, as long as the window reaches far enough and no attempt breaks off
before its counter has a time to live.
-/

namespace Songmaker.Scoring.ScoreBackfill

open Songmaker.Foundation
open Songmaker.Foundation.TransitionSystem

/-- The tick has counted an attempt that is under way. -/
def State.InFlight (s : State) (tick : TickId) (attempt : Attempt) : Prop :=
  (s.ticks tick).bind (fun t => t.point.attempt) = some attempt

/-- The tick is about to give the counter of the take its time to live. -/
def State.Expiring (s : State) (tick : TickId) (id : TakeId) : Prop :=
  (s.ticks tick).bind (fun t => t.point.expires) = some id

/-- What a tick has read and chosen is as it should be. -/
structure Tick.Fair (t : Tick) : Prop where
  sorted : t.backlog.Pairwise fun older newer => older.createdAt ≤ newer.createdAt
  chosen : t.point.hasChosen = true →
    HandsOnOldest t.backlog t.spent (t.attempted ++ t.point.remaining)

/-- The attempt belongs to a former counter, or its counter has counted it. -/
def State.Counted (s : State) (attempt : Attempt) : Prop :=
  attempt.life < s.life attempt.id ∨
    attempt.life = s.life attempt.id ∧ attempt.number ≤ countOf s.counters attempt.id

/-- The counters say how often each take has been handed out. -/
structure Kept (s : State) : Prop where
  fair : ∀ tick t, s.ticks tick = some t → t.Fair
  number : ∀ attempt, (attempt ∈ s.handed ∨ ∃ tick, s.InFlight tick attempt) →
    1 ≤ attempt.number ∧ attempt.number ≤ scoreBackfillMaxAttempts ∧ s.Counted attempt
  unhanded : ∀ tick attempt, s.InFlight tick attempt → attempt ∉ s.handed
  apart : ∀ tick other attempt, s.InFlight tick attempt → s.InFlight other attempt →
    tick = other
  nodup : s.handed.Nodup
  left : ∀ id, ∀ counter ∈ s.counters id, ∀ left ∈ counter.left,
    0 < left ∧ left + s.since id ≤ scoreBackfillAttemptTtlSeconds
  lasting : ∀ id, ∀ counter ∈ s.counters id, counter.left = none → ∃ tick, s.Expiring tick id

variable {s : State} {tick : TickId} {t : Tick}

section Batch

theorem isExhausted_iff (counters : TakeId → Option Counter) (ids : List TakeId) (id : TakeId) :
    id ∈ exhaustedBackfillIds counters ids ↔
      id ∈ ids ∧ (counters id).any (fun counter =>
        decide (scoreBackfillMaxAttempts ≤ counter.count)) = true :=
  List.mem_filter

/-- Whether a read take has used up its attempts does not depend on what else is read. -/
theorem filter_exhausted {rows all : List Row} (counters : TakeId → Option Counter)
    (hrows : rows ⊆ all) :
    (rows.filter fun row => row.id ∉ exhaustedBackfillIds counters (rows.map Row.id)) =
      rows.filter fun row => row.id ∉ exhaustedBackfillIds counters (all.map Row.id) := by
  apply List.filter_congr
  intro row hrow
  have hown : row.id ∈ rows.map Row.id := List.mem_map_of_mem hrow
  have hall : row.id ∈ all.map Row.id := List.mem_map_of_mem (hrows hrow)
  rw [decide_eq_decide, isExhausted_iff, isExhausted_iff, and_iff_right hown, and_iff_right hall]

/-- Cutting to the window first changes nothing where the window reaches far enough. -/
theorem take_filter_take (backlog : List Row) (keep : Row → Bool) (window size : Nat)
    (hwindow : min size (backlog.filter keep).length ≤
      ((backlog.take window).filter keep).length) :
    ((backlog.take window).filter keep).take size = (backlog.filter keep).take size := by
  have hsplit : backlog.filter keep =
      (backlog.take window).filter keep ++ (backlog.drop window).filter keep := by
    rw [← List.filter_append, List.take_append_drop]
  rw [hsplit, List.take_append]
  rw [hsplit, List.length_append] at hwindow
  rcases Nat.lt_or_ge ((backlog.take window).filter keep).length size with hshort | hle
  · have hnil : (backlog.drop window).filter keep = [] := by
      apply List.eq_nil_of_length_eq_zero
      omega
    rw [hnil, List.take_nil, List.append_nil]
  · rw [Nat.sub_eq_zero_of_le hle, List.take_zero, List.append_nil]

theorem handsOnOldest_take {backlog : List Row} (spent : List TakeId)
    (hsorted : backlog.Pairwise fun older newer => older.createdAt ≤ newer.createdAt) :
    HandsOnOldest backlog spent
      (((backlog.filter fun row => row.id ∉ spent).take scoreBackfillBatchSize).map Row.id) := by
  refine ⟨(backlog.filter fun row => row.id ∉ spent).take scoreBackfillBatchSize, rfl,
    List.take_sublist _ _, List.length_take, ?_⟩
  intro row hrow hleft hunchosen older holder
  have heligible : row ∈ backlog.filter fun row => row.id ∉ spent :=
    List.mem_filter.mpr ⟨hrow, decide_eq_true hleft⟩
  have hsplit := List.take_append_drop scoreBackfillBatchSize
    (backlog.filter fun row => row.id ∉ spent)
  have hsortedLeft := hsorted.filter fun row => row.id ∉ spent
  rw [← hsplit] at heligible hsortedLeft
  have hlater := (List.mem_append.mp heligible).resolve_left hunchosen
  exact (List.pairwise_append.mp hsortedLeft).2.2 older holder row hlater

theorem remaining_attempting (ids : List TakeId) : (attempting ids).remaining = ids := by
  cases ids with
  | nil => rfl
  | cons id rest => rfl

theorem attempt_attempting (ids : List TakeId) : (attempting ids).attempt = none := by
  cases ids with
  | nil => rfl
  | cons id rest => rfl

theorem attempt_clearing (ids : List TakeId) : (clearing ids).attempt = none := by
  cases ids with
  | nil => rfl
  | cons id rest => rfl

theorem hasChosen_clearing (ids : List TakeId) : (clearing ids).hasChosen = false := by
  cases ids with
  | nil => rfl
  | cons id rest => rfl

theorem Tick.Fair.count (h : t.Fair) {counters : TakeId → Option Counter}
    (hwindow : WindowHolds counters t) : (t.count counters).Fair where
  sorted := h.sorted
  chosen := by
    intro _
    have hwindowed := filter_exhausted counters (List.take_subset
      scoreBackfillCandidatePoolSize t.backlog)
    rw [WindowHolds] at hwindow
    change HandsOnOldest t.backlog (exhaustedBackfillIds counters (t.backlog.map Row.id))
      ([] ++ (attempting _).remaining)
    rw [List.nil_append, remaining_attempting]
    rw [Tick.candidates] at hwindow ⊢
    rw [hwindowed] at hwindow ⊢
    rw [take_filter_take t.backlog _ _ _ hwindow]
    exact handsOnOldest_take _ h.sorted

theorem Tick.Fair.moveTo (h : t.Fair) {point : Point}
    (hchosen : point.hasChosen = true →
      t.point.hasChosen = true ∧ point.remaining = t.point.remaining) :
    (t.moveTo point).Fair where
  sorted := h.sorted
  chosen := by
    intro hpoint
    obtain ⟨hbefore, hremaining⟩ := hchosen hpoint
    change HandsOnOldest t.backlog t.spent (t.attempted ++ point.remaining)
    rw [hremaining]
    exact h.chosen hbefore

theorem Tick.Fair.goOn (h : t.Fair) {id : TakeId} {rest : List TakeId}
    (hchosen : t.point.hasChosen = true) (hremaining : t.point.remaining = id :: rest) :
    (t.goOn id rest).Fair where
  sorted := h.sorted
  chosen := by
    intro _
    change HandsOnOldest t.backlog t.spent ((t.attempted ++ [id]) ++ (attempting rest).remaining)
    rw [remaining_attempting, List.append_assoc, List.singleton_append, ← hremaining]
    exact h.chosen hchosen

end Batch

section Ticks

theorem ticks_putTick_self (s : State) (tick : TickId) (t : Tick) :
    (s.putTick tick t).ticks tick = some t :=
  Function.update_self ..

theorem ticks_putTick_of_ne (s : State) {tick other : TickId} (t : Tick) (hne : other ≠ tick) :
    (s.putTick tick t).ticks other = s.ticks other :=
  Function.update_of_ne hne ..

theorem inFlight_of_ticks (hticks : s.ticks tick = some t) (attempt : Attempt) :
    s.InFlight tick attempt ↔ t.point.attempt = some attempt := by
  rw [State.InFlight, hticks]
  rfl

theorem expiring_of_ticks (hticks : s.ticks tick = some t) (id : TakeId) :
    s.Expiring tick id ↔ t.point.expires = some id := by
  rw [State.Expiring, hticks]
  rfl

theorem inFlight_putTick (s : State) (tick other : TickId) (t : Tick) (attempt : Attempt) :
    (s.putTick tick t).InFlight other attempt ↔
      if other = tick then t.point.attempt = some attempt else s.InFlight other attempt := by
  by_cases hother : other = tick
  · subst hother
    rw [if_pos rfl, inFlight_of_ticks (ticks_putTick_self s other t)]
  · rw [if_neg hother, State.InFlight, ticks_putTick_of_ne s t hother]
    rfl

theorem expiring_putTick (s : State) (tick other : TickId) (t : Tick) (id : TakeId) :
    (s.putTick tick t).Expiring other id ↔
      if other = tick then t.point.expires = some id else s.Expiring other id := by
  by_cases hother : other = tick
  · subst hother
    rw [if_pos rfl, expiring_of_ticks (ticks_putTick_self s other t)]
  · rw [if_neg hother, State.Expiring, ticks_putTick_of_ne s t hother]
    rfl

end Ticks

namespace Kept

/-- Another tick, with at most the attempt that it had under way, and with no counter that it
alone was about to give a time to live. -/
theorem putTick (h : Kept s) (hfair : t.Fair)
    (hattempt : ∀ attempt, t.point.attempt = some attempt → s.InFlight tick attempt)
    (hexpires : ∀ id, s.Expiring tick id → t.point.expires = some id ∨
      ∀ counter ∈ s.counters id, counter.left = none →
        ∃ other, other ≠ tick ∧ s.Expiring other id) : Kept (s.putTick tick t) := by
  have hflying : ∀ other attempt, (s.putTick tick t).InFlight other attempt →
      s.InFlight other attempt := by
    intro other attempt hflies
    rw [inFlight_putTick] at hflies
    split at hflies
    · rename_i hsame
      exact hsame ▸ hattempt attempt hflies
    · exact hflies
  refine ⟨?_, ?_, ?_, ?_, h.nodup, h.left, ?_⟩
  · intro other found hfound
    by_cases hother : other = tick
    · subst hother
      rw [ticks_putTick_self] at hfound
      exact Option.some.inj hfound ▸ hfair
    · rw [ticks_putTick_of_ne s t hother] at hfound
      exact h.fair other found hfound
  · intro attempt hattempted
    refine h.number attempt ?_
    exact hattempted.imp_right fun ⟨other, hflies⟩ => ⟨other, hflying other attempt hflies⟩
  · intro other attempt hflies
    exact h.unhanded other attempt (hflying other attempt hflies)
  · intro one other attempt hone hother
    exact h.apart one other attempt (hflying one attempt hone) (hflying other attempt hother)
  · intro id counter hcounter hleft
    obtain ⟨other, hother⟩ := h.lasting id counter hcounter hleft
    by_cases hsame : other = tick
    · subst hsame
      rcases hexpires id hother with hstill | hnext
      · exact ⟨other, (expiring_putTick s other other t id).mpr (by rwa [if_pos rfl])⟩
      · obtain ⟨next, hne, hnext⟩ := hnext counter hcounter hleft
        exact ⟨next, (expiring_putTick s other next t id).mpr (by rwa [if_neg hne])⟩
    · exact ⟨other, (expiring_putTick s tick other t id).mpr (by rwa [if_neg hsame])⟩

theorem of_same_ticks (h : Kept s) {next : State} (hticks : next.ticks = s.ticks)
    (hhanded : next.handed = s.handed)
    (hcounted : ∀ attempt, s.Counted attempt → next.Counted attempt)
    (hleft : ∀ id, ∀ counter ∈ next.counters id, ∀ left ∈ counter.left,
      0 < left ∧ left + next.since id ≤ scoreBackfillAttemptTtlSeconds)
    (hlasting : ∀ id, ∀ counter ∈ next.counters id, counter.left = none →
      ∃ tick, s.Expiring tick id) : Kept next := by
  have hflying : ∀ tick attempt, next.InFlight tick attempt ↔ s.InFlight tick attempt := by
    intro tick attempt
    rw [State.InFlight, hticks]
    rfl
  have hexpiring : ∀ tick id, s.Expiring tick id → next.Expiring tick id := by
    intro tick id hexpires
    rw [State.Expiring, hticks]
    exact hexpires
  refine ⟨?_, ?_, ?_, ?_, hhanded ▸ h.nodup, hleft, ?_⟩
  · intro tick t ht
    exact h.fair tick t (hticks ▸ ht)
  · intro attempt hattempted
    rw [hhanded] at hattempted
    have hbefore := h.number attempt
      (hattempted.imp_right fun ⟨tick, hflies⟩ => ⟨tick, (hflying tick attempt).mp hflies⟩)
    exact ⟨hbefore.1, hbefore.2.1, hcounted attempt hbefore.2.2⟩
  · intro tick attempt hflies
    rw [hhanded]
    exact h.unhanded tick attempt ((hflying tick attempt).mp hflies)
  · intro tick other attempt hone hother
    exact h.apart tick other attempt ((hflying tick attempt).mp hone)
      ((hflying other attempt).mp hother)
  · intro id counter hcounter hnone
    obtain ⟨tick, hexpires⟩ := hlasting id counter hcounter hnone
    exact ⟨tick, hexpiring tick id hexpires⟩

theorem moveTo (h : Kept s) (hticks : s.ticks tick = some t) {point : Point}
    (hattempt : ∀ attempt, point.attempt = some attempt → t.point.attempt = some attempt)
    (hexpires : t.point.expires = none)
    (hchosen : point.hasChosen = true →
      t.point.hasChosen = true ∧ point.remaining = t.point.remaining) :
    Kept (s.putTick tick (t.moveTo point)) := by
  refine h.putTick ((h.fair tick t hticks).moveTo hchosen) ?_ ?_
  · intro attempt hflies
    exact (inFlight_of_ticks hticks attempt).mpr (hattempt attempt hflies)
  · intro id hexpiring
    rw [expiring_of_ticks hticks, hexpires] at hexpiring
    exact absurd hexpiring (Option.some_ne_none id).symm

section Redis

theorem countOf_update_of_ne (counters : TakeId → Option Counter) {id other : TakeId}
    (counter : Option Counter) (hne : other ≠ id) :
    countOf (Function.update counters id counter) other = countOf counters other := by
  rw [countOf, Function.update_of_ne hne]
  rfl

theorem dropCounter (h : Kept s) (id : TakeId) : Kept (s.dropCounter id) := by
  rw [State.dropCounter]
  split
  · exact h
  · refine h.of_same_ticks rfl rfl ?_ ?_ ?_
    · intro attempt hcounted
      by_cases hid : attempt.id = id
      · left
        subst hid
        change attempt.life < Function.update s.life attempt.id _ attempt.id
        rw [Function.update_self]
        rcases hcounted with hlife | ⟨hlife, -⟩ <;> omega
      · change attempt.life < Function.update s.life id _ attempt.id ∨
          attempt.life = Function.update s.life id _ attempt.id ∧
            attempt.number ≤ countOf (Function.update s.counters id none) attempt.id
        rw [Function.update_of_ne hid, countOf_update_of_ne _ _ hid]
        exact hcounted
    · intro other counter hcounter
      by_cases hother : other = id
      · subst hother
        change Function.update s.counters other none other = some counter at hcounter
        rw [Function.update_self] at hcounter
        exact absurd hcounter (Option.some_ne_none counter).symm
      · change Function.update s.counters id none other = some counter at hcounter
        rw [Function.update_of_ne hother] at hcounter
        exact h.left other counter hcounter
    · intro other counter hcounter
      by_cases hother : other = id
      · subst hother
        change Function.update s.counters other none other = some counter at hcounter
        rw [Function.update_self] at hcounter
        exact absurd hcounter (Option.some_ne_none counter).symm
      · change Function.update s.counters id none other = some counter at hcounter
        rw [Function.update_of_ne hother] at hcounter
        exact h.lasting other counter hcounter

theorem expire (h : Kept s) (id : TakeId) : Kept (s.expire id) := by
  have hown : ∀ counter ∈ (s.expire id).counters id,
      counter.left = some scoreBackfillAttemptTtlSeconds := by
    intro counter hcounter
    change Function.update s.counters id _ id = some counter at hcounter
    rw [Function.update_self] at hcounter
    obtain ⟨before, -, rfl⟩ := Option.map_eq_some_iff.mp hcounter
    rfl
  have hother : ∀ other, other ≠ id → (s.expire id).counters other = s.counters other :=
    fun other hne => Function.update_of_ne hne _ _
  refine h.of_same_ticks rfl rfl ?_ ?_ ?_
  · intro attempt hcounted
    refine hcounted.imp_right fun ⟨hlife, hnumber⟩ => ⟨hlife, Nat.le_trans hnumber ?_⟩
    by_cases hid : attempt.id = id
    · subst hid
      change _ ≤ ((Function.update s.counters attempt.id _ attempt.id).map Counter.count).getD 0
      rw [Function.update_self, Option.map_map]
      exact Nat.le_refl _
    · rw [countOf, countOf, hother attempt.id hid]
  · intro other counter hcounter left hleft
    by_cases hid : other = id
    · subst hid
      rw [hown counter hcounter] at hleft
      obtain rfl := Option.some.inj hleft
      change 0 < scoreBackfillAttemptTtlSeconds ∧ scoreBackfillAttemptTtlSeconds +
        Function.update s.since other 0 other ≤ scoreBackfillAttemptTtlSeconds
      rw [Function.update_self]
      exact ⟨by decide, Nat.le_refl _⟩
    · change 0 < left ∧ left + Function.update s.since id 0 other ≤ _
      rw [Function.update_of_ne hid]
      exact h.left other counter (hother other hid ▸ hcounter) left hleft
  · intro other counter hcounter hnone
    by_cases hid : other = id
    · subst hid
      rw [hown counter hcounter] at hnone
      exact absurd hnone (Option.some_ne_none _)
    · exact h.lasting other counter (hother other hid ▸ hcounter) hnone

theorem lasting_spec {seconds : Nat} {before counter : Counter}
    (hlasts : ScoreBackfill.State.lasting seconds before = some counter) :
    counter.count = before.count ∧
      counter.left = before.left.map (fun left => left - seconds) ∧
      ∀ left ∈ before.left, seconds < left := by
  rw [State.lasting] at hlasts
  split at hlasts
  · rename_i hall
    obtain rfl := Option.some.inj hlasts
    refine ⟨rfl, rfl, fun left hleft => ?_⟩
    rw [hleft] at hall
    exact of_decide_eq_true hall
  · exact absurd hlasts (Option.some_ne_none counter).symm

theorem pass (h : Kept s) (seconds : Nat) : Kept (s.pass seconds) := by
  refine h.of_same_ticks rfl rfl ?_ ?_ ?_
  · intro attempt hcounted
    change attempt.life < (if _ ∧ _ then s.life attempt.id + 1 else s.life attempt.id) ∨
      attempt.life = (if _ ∧ _ then s.life attempt.id + 1 else s.life attempt.id) ∧
        attempt.number ≤ (((s.counters attempt.id).bind (State.lasting seconds)).map
          Counter.count).getD 0
    split
    · left
      rcases hcounted with hlife | ⟨hlife, -⟩ <;> omega
    · rename_i hlasts
      refine hcounted.imp_right fun ⟨hlife, hnumber⟩ => ⟨hlife, ?_⟩
      rw [countOf] at hnumber
      cases hcounter : s.counters attempt.id with
      | none =>
          rw [hcounter] at hnumber
          exact hnumber
      | some before =>
          rw [hcounter] at hnumber hlasts
          cases hnext : State.lasting seconds before with
          | none => exact absurd ⟨rfl, hnext⟩ hlasts
          | some counter =>
              rw [Option.bind_some, hnext]
              change attempt.number ≤ counter.count
              rw [(lasting_spec hnext).1]
              exact hnumber
  · intro id counter hcounter left hleft
    obtain ⟨before, hbefore, hlasts⟩ := Option.bind_eq_some_iff.mp hcounter
    obtain ⟨-, hsame, hlonger⟩ := lasting_spec hlasts
    rw [hsame] at hleft
    obtain ⟨former, hformer, rfl⟩ := Option.map_eq_some_iff.mp hleft
    have hkept := h.left id before hbefore former hformer
    have hlong := hlonger former hformer
    change 0 < former - seconds ∧ former - seconds + (s.since id + seconds) ≤ _
    omega
  · intro id counter hcounter hnone
    obtain ⟨before, hbefore, hlasts⟩ := Option.bind_eq_some_iff.mp hcounter
    obtain ⟨-, hsame, -⟩ := lasting_spec hlasts
    rw [hsame] at hnone
    exact h.lasting id before hbefore (Option.map_eq_none_iff.mp hnone)

theorem of_same_counters (h : Kept s) (rows : List Row) (tracked : List TakeId) :
    Kept { s with rows := rows, tracked := tracked } :=
  h.of_same_ticks rfl rfl (fun _ hcounted => hcounted) h.left h.lasting

end Redis

section Attempts

theorem not_counted_attemptOf (s : State) (id : TakeId) : ¬s.Counted (s.attemptOf id) := by
  rintro (hlife | ⟨-, hnumber⟩)
  · exact Nat.lt_irrefl _ hlife
  · exact Nat.not_succ_le_self _ hnumber

theorem record (h : Kept s) (hticks : s.ticks tick = some t) {id : TakeId} {rest : List TakeId}
    (hpoint : t.point = .recording id rest)
    (hunspent : countOf s.counters id < scoreBackfillMaxAttempts) :
    Kept ((s.incr id).putTick tick (t.moveTo (.expiring (s.attemptOf id) rest))) := by
  have hother : ∀ other, other ≠ id → (s.incr id).counters other = s.counters other :=
    fun other hne => Function.update_of_ne hne _ _
  have hown : (s.incr id).counters id =
      some ⟨countOf s.counters id + 1, (s.counters id).bind Counter.left⟩ :=
    Function.update_self ..
  have hflying : ∀ other attempt,
      ((s.incr id).putTick tick (t.moveTo (.expiring (s.attemptOf id) rest))).InFlight other
          attempt →
        other = tick ∧ attempt = s.attemptOf id ∨ s.InFlight other attempt := by
    intro other attempt hflies
    rw [inFlight_putTick] at hflies
    split at hflies
    · rename_i hsame
      exact Or.inl ⟨hsame, (Option.some.inj hflies).symm⟩
    · exact Or.inr hflies
  have hcounted : ∀ attempt, s.Counted attempt → (s.incr id).Counted attempt := by
    intro attempt hbefore
    refine hbefore.imp_right fun ⟨hlife, hnumber⟩ => ⟨hlife, Nat.le_trans hnumber ?_⟩
    by_cases hid : attempt.id = id
    · subst hid
      rw [countOf, countOf, hown]
      exact Nat.le_succ _
    · rw [countOf, countOf, hother attempt.id hid]
  have hnew : (s.incr id).Counted (s.attemptOf id) := by
    refine Or.inr ⟨rfl, ?_⟩
    change countOf s.counters id + 1 ≤ (((s.incr id).counters id).map Counter.count).getD 0
    rw [hown]
    exact Nat.le_refl _
  refine ⟨?_, ?_, ?_, ?_, h.nodup, ?_, ?_⟩
  · intro other found hfound
    by_cases hsame : other = tick
    · subst hsame
      rw [ticks_putTick_self] at hfound
      obtain rfl := Option.some.inj hfound
      exact (h.fair other t hticks).moveTo fun _ => by rw [hpoint]; exact ⟨rfl, rfl⟩
    · rw [ticks_putTick_of_ne _ _ hsame] at hfound
      exact h.fair other found hfound
  · rintro attempt (hhanded | ⟨other, hflies⟩)
    · have hbefore := h.number attempt (Or.inl hhanded)
      exact ⟨hbefore.1, hbefore.2.1, hcounted attempt hbefore.2.2⟩
    · rcases hflying other attempt hflies with ⟨-, rfl⟩ | hflew
      · exact ⟨Nat.succ_pos _, hunspent, hnew⟩
      · have hbefore := h.number attempt (Or.inr ⟨other, hflew⟩)
        exact ⟨hbefore.1, hbefore.2.1, hcounted attempt hbefore.2.2⟩
  · intro other attempt hflies hhanded
    rcases hflying other attempt hflies with ⟨-, rfl⟩ | hflew
    · exact not_counted_attemptOf s id (h.number _ (Or.inl hhanded)).2.2
    · exact h.unhanded other attempt hflew hhanded
  · intro one other attempt hone hanother
    rcases hflying one attempt hone with ⟨rfl, rfl⟩ | hflew
    · rcases hflying other _ hanother with ⟨rfl, -⟩ | hflew
      · rfl
      · exact absurd (h.number _ (Or.inr ⟨other, hflew⟩)).2.2 (not_counted_attemptOf s id)
    · rcases hflying other attempt hanother with ⟨rfl, rfl⟩ | hflewToo
      · exact absurd (h.number _ (Or.inr ⟨one, hflew⟩)).2.2 (not_counted_attemptOf s id)
      · exact h.apart one other attempt hflew hflewToo
  · intro other counter hcounter left hleft
    by_cases hid : other = id
    · subst hid
      obtain rfl := Option.some.inj (hown.symm.trans hcounter)
      obtain ⟨before, hbefore, hformer⟩ := Option.bind_eq_some_iff.mp hleft
      have hkept := h.left other before hbefore left hformer
      change 0 < left ∧ left + Function.update s.since other 0 other ≤ _
      rw [Function.update_self]
      omega
    · change 0 < left ∧ left + Function.update s.since id 0 other ≤ _
      rw [Function.update_of_ne hid]
      exact h.left other counter ((hother other hid).symm.trans hcounter) left hleft
  · intro other counter hcounter hnone
    by_cases hid : other = id
    · subst hid
      exact ⟨tick, (expiring_putTick _ tick tick _ other).mpr (by rw [if_pos rfl]; rfl)⟩
    · obtain ⟨expirer, hexpires⟩ :=
        h.lasting other counter ((hother other hid).symm.trans hcounter) hnone
      refine ⟨expirer, (expiring_putTick _ tick expirer _ other).mpr ?_⟩
      by_cases hsame : expirer = tick
      · subst hsame
        rw [expiring_of_ticks hticks, hpoint] at hexpires
        exact absurd hexpires (Option.some_ne_none other).symm
      · rw [if_neg hsame]
        exact hexpires

theorem hand (h : Kept s) {attempt : Attempt}
    (hnumber : 1 ≤ attempt.number ∧ attempt.number ≤ scoreBackfillMaxAttempts ∧
      s.Counted attempt)
    (hunhanded : attempt ∉ s.handed) (hgrounded : ∀ tick, ¬s.InFlight tick attempt) :
    Kept (s.hand attempt) := by
  refine ⟨h.fair, ?_, ?_, h.apart, List.nodup_cons.mpr ⟨hunhanded, h.nodup⟩, h.left, h.lasting⟩
  · rintro other (hhanded | hflies)
    · rcases List.mem_cons.mp hhanded with rfl | hhanded
      · exact hnumber
      · exact h.number other (Or.inl hhanded)
    · exact h.number other (Or.inr hflies)
  · intro tick other hflies hhanded
    rcases List.mem_cons.mp hhanded with rfl | hhanded
    · exact hgrounded tick hflies
    · exact h.unhanded tick other hflies hhanded

theorem goOn (h : Kept s) (hticks : s.ticks tick = some t) (hleaves : LeavesTtl s tick t)
    {id : TakeId} {rest : List TakeId} (hchosen : t.point.hasChosen = true)
    (hremaining : t.point.remaining = id :: rest) : Kept (s.putTick tick (t.goOn id rest)) := by
  refine h.putTick ((h.fair tick t hticks).goOn hchosen hremaining) ?_ ?_
  · intro attempt hflies
    change (attempting rest).attempt = some attempt at hflies
    rw [attempt_attempting] at hflies
    exact absurd hflies (Option.some_ne_none attempt).symm
  · intro other hexpires
    exact Or.inr (hleaves other ((expiring_of_ticks hticks other).mp hexpires))

theorem handOn (h : Kept s) (hticks : s.ticks tick = some t) {attempt : Attempt}
    {rest : List TakeId} (hpoint : t.point = .handing attempt rest) :
    Kept ((s.hand attempt).putTick tick (t.goOn attempt.id rest)) := by
  have hflies : s.InFlight tick attempt := by
    rw [inFlight_of_ticks hticks, hpoint]
    rfl
  have hleaves : LeavesTtl s tick t := by
    intro id hexpires
    rw [hpoint] at hexpires
    exact absurd hexpires (Option.not_mem_none id)
  have hgone : Kept (s.putTick tick (t.goOn attempt.id rest)) :=
    h.goOn hticks hleaves (by rw [hpoint]; rfl) (by rw [hpoint]; rfl)
  refine hgone.hand (h.number attempt (Or.inr ⟨tick, hflies⟩)) (h.unhanded tick attempt hflies) ?_
  intro other hother
  rw [inFlight_putTick] at hother
  split at hother
  · change (attempting rest).attempt = some attempt at hother
    rw [attempt_attempting] at hother
    exact absurd hother (Option.some_ne_none attempt).symm
  · rename_i hne
    exact hne (h.apart other tick attempt hother hflies)

end Attempts

theorem runTick (h : Kept s) (hticks : s.ticks tick = some t) (hsound : RunsSoundly s t)
    {next : State} (hruns : s.runTick tick t = some next) : Kept next := by
  have hnothing : ∀ point : Point, point.attempt = none → ∀ attempt,
      point.attempt = some attempt → t.point.attempt = some attempt := by
    intro point hnone attempt hsome
    exact absurd (hnone.symm.trans hsome) (Option.some_ne_none attempt).symm
  have hunchosen : ∀ point : Point, point.hasChosen = false → point.hasChosen = true →
      t.point.hasChosen = true ∧ point.remaining = t.point.remaining := by
    intro point hfalse htrue
    exact absurd (hfalse.symm.trans htrue) Bool.false_ne_true
  rw [State.runTick] at hruns
  rw [RunsSoundly] at hsound
  cases hpoint : t.point with
  | listing =>
      rw [hpoint] at hruns
      obtain rfl := Option.some.inj hruns
      refine h.moveTo hticks (hnothing _ ?_) (by rw [hpoint]; rfl) (hunchosen _ ?_)
      · split <;> rfl
      · split <;> rfl
  | resolving tracked =>
      rw [hpoint] at hruns
      obtain rfl := Option.some.inj hruns
      exact h.moveTo hticks (hnothing _ (attempt_clearing _)) (by rw [hpoint]; rfl)
        (hunchosen _ (hasChosen_clearing _))
  | deleting id rest =>
      rw [hpoint] at hruns
      obtain rfl := Option.some.inj hruns
      have hdropped : (s.dropCounter id).ticks tick = some t := by
        rw [State.dropCounter]
        split
        · exact hticks
        · exact hticks
      exact (h.dropCounter id).moveTo hdropped (hnothing _ rfl) (by rw [hpoint]; rfl)
        (hunchosen _ rfl)
  | removing id rest =>
      rw [hpoint] at hruns
      obtain rfl := Option.some.inj hruns
      have hremoved : Kept (s.srem id) := h.of_same_counters s.rows _
      exact hremoved.moveTo hticks (hnothing _ (attempt_clearing _)) (by rw [hpoint]; rfl)
        (hunchosen _ (hasChosen_clearing _))
  | counting =>
      rw [hpoint] at hruns hsound
      obtain rfl := Option.some.inj hruns
      refine h.putTick ((h.fair tick t hticks).count hsound) ?_ ?_
      · intro attempt hflies
        change (attempting _).attempt = some attempt at hflies
        rw [attempt_attempting] at hflies
        exact absurd hflies (Option.some_ne_none attempt).symm
      · intro id hexpires
        rw [expiring_of_ticks hticks, hpoint] at hexpires
        exact absurd hexpires (Option.some_ne_none id).symm
  | recording id rest =>
      rw [hpoint] at hruns hsound
      obtain rfl := Option.some.inj hruns
      exact h.record hticks hpoint hsound
  | expiring attempt rest =>
      rw [hpoint] at hruns
      obtain rfl := Option.some.inj hruns
      have hsame : (s.expire attempt.id).ticks tick = some t := hticks
      refine (h.expire attempt.id).putTick ((h.fair tick t hticks).moveTo ?_) ?_ ?_
      · intro _
        rw [hpoint]
        exact ⟨rfl, rfl⟩
      · intro other hflies
        rw [inFlight_of_ticks hsame, hpoint]
        exact hflies
      · intro id hexpires
        refine Or.inr fun counter hcounter hnone => ?_
        rw [expiring_of_ticks hsame, hpoint] at hexpires
        obtain rfl := Option.some.inj hexpires
        change Function.update s.counters attempt.id _ attempt.id = some counter at hcounter
        rw [Function.update_self] at hcounter
        obtain ⟨before, -, rfl⟩ := Option.map_eq_some_iff.mp hcounter
        exact absurd hnone (Option.some_ne_none _)
  | tracking attempt rest =>
      rw [hpoint] at hruns
      obtain rfl := Option.some.inj hruns
      have hadded : Kept (s.sadd attempt.id) := h.of_same_counters s.rows _
      refine hadded.moveTo hticks ?_ (by rw [hpoint]; rfl) ?_
      · intro other hflies
        rw [hpoint]
        exact hflies
      · intro _
        rw [hpoint]
        exact ⟨rfl, rfl⟩
  | handing attempt rest =>
      rw [hpoint] at hruns
      obtain rfl := Option.some.inj hruns
      exact h.handOn hticks hpoint
  | _ =>
      rw [hpoint] at hruns
      exact absurd hruns (Option.some_ne_none next).symm

theorem failAttempt (h : Kept s) (hticks : s.ticks tick = some t) (hleaves : LeavesTtl s tick t)
    {next : State} (hfails : s.failAttempt tick t = some next) : Kept next := by
  rw [State.failAttempt] at hfails
  cases hpoint : t.point with
  | recording id rest =>
      rw [hpoint] at hfails
      obtain rfl := Option.some.inj hfails
      exact h.goOn hticks hleaves (by rw [hpoint]; rfl) (by rw [hpoint]; rfl)
  | expiring attempt rest =>
      rw [hpoint] at hfails
      obtain rfl := Option.some.inj hfails
      exact h.goOn hticks hleaves (by rw [hpoint]; rfl) (by rw [hpoint]; rfl)
  | tracking attempt rest =>
      rw [hpoint] at hfails
      obtain rfl := Option.some.inj hfails
      exact h.goOn hticks hleaves (by rw [hpoint]; rfl) (by rw [hpoint]; rfl)
  | handing attempt rest =>
      rw [hpoint] at hfails
      obtain rfl := Option.some.inj hfails
      exact h.goOn hticks hleaves (by rw [hpoint]; rfl) (by rw [hpoint]; rfl)
  | _ =>
      rw [hpoint] at hfails
      exact absurd hfails (Option.some_ne_none next).symm

theorem die (h : Kept s) (hticks : s.ticks tick = some t) (hleaves : LeavesTtl s tick t) :
    Kept (s.putTick tick (t.moveTo .dead)) := by
  refine h.putTick ((h.fair tick t hticks).moveTo fun hfalse => absurd hfalse (by decide)) ?_ ?_
  · intro attempt hflies
    exact absurd hflies (Option.some_ne_none attempt).symm
  · intro id hexpires
    exact Or.inr (hleaves id ((expiring_of_ticks hticks id).mp hexpires))

theorem act (h : Kept s) {action : Action} {next : State} (hsound : Sound s action)
    (hact : ScoreBackfill.act s action = some next) : Kept next := by
  cases action with
  | starts tick =>
      obtain ⟨hnew, rfl⟩ := Option.ite_some_none_eq_some.mp hact
      refine h.putTick ⟨List.Pairwise.nil, fun hfalse => absurd hfalse (by decide)⟩ ?_ ?_
      · intro attempt hflies
        exact absurd hflies (Option.some_ne_none attempt).symm
      · intro id hexpires
        rw [State.Expiring, hnew] at hexpires
        exact absurd hexpires (Option.some_ne_none id).symm
  | runs tick =>
      obtain ⟨t, hticks, hruns⟩ := Option.bind_eq_some_iff.mp hact
      exact h.runTick hticks (hsound t hticks) hruns
  | picks tick backlog =>
      obtain ⟨t, hticks, hpicks⟩ := Option.bind_eq_some_iff.mp hact
      obtain ⟨⟨hpoint, hanswers⟩, rfl⟩ := Option.ite_some_none_eq_some.mp hpicks
      refine h.putTick ⟨hanswers.2, fun hfalse => absurd hfalse Bool.false_ne_true⟩ ?_ ?_
      · intro attempt hflies
        exact absurd hflies (Option.some_ne_none attempt).symm
      · intro id hexpires
        rw [expiring_of_ticks hticks, hpoint] at hexpires
        exact absurd hexpires (Option.some_ne_none id).symm
  | attemptFails tick =>
      obtain ⟨t, hticks, hfails⟩ := Option.bind_eq_some_iff.mp hact
      exact h.failAttempt hticks (hsound t hticks) hfails
  | dies tick =>
      obtain ⟨t, hticks, rfl⟩ := Option.map_eq_some_iff.mp hact
      exact h.die hticks (hsound t hticks)
  | database rows =>
      obtain rfl := Option.some.inj hact
      exact h.of_same_counters rows s.tracked
  | passes seconds =>
      obtain rfl := Option.some.inj hact
      exact h.pass seconds

theorem serves (h : Kept s) : Serves s where
  oldest := fun tick t hticks => (h.fair tick t hticks).chosen
  handed_le := by
    intro id life
    have hnumbers : ((s.handed.filter fun attempt =>
        attempt.id = id ∧ attempt.life = life).map Attempt.number).Nodup := by
      refine (h.nodup.filter _).map_on ?_
      intro one hone other hother hsame
      obtain ⟨hid, hlife⟩ := of_decide_eq_true (List.mem_filter.mp hone).2
      obtain ⟨hidToo, hlifeToo⟩ := of_decide_eq_true (List.mem_filter.mp hother).2
      cases one
      cases other
      simp_all only
    have hsubset : (s.handed.filter fun attempt =>
        attempt.id = id ∧ attempt.life = life).map Attempt.number ⊆
          List.range' 1 scoreBackfillMaxAttempts := by
      intro number hnumber
      obtain ⟨attempt, hattempt, rfl⟩ := List.mem_map.mp hnumber
      have hkept := h.number attempt (Or.inl (List.mem_filter.mp hattempt).1)
      exact List.mem_range'_1.mpr ⟨hkept.1, Nat.lt_one_add_iff.mpr hkept.2.1⟩
    have hle := (hnumbers.subperm hsubset).length_le
    rw [List.length_map, List.length_range'] at hle
    exact hle
  lapses := by
    intro id hunexpiring hcounter
    obtain ⟨counter, hcounter⟩ := Option.isSome_iff_exists.mp hcounter
    cases hleft : counter.left with
    | none =>
        obtain ⟨tick, hexpires⟩ := h.lasting id counter hcounter hleft
        exact absurd hexpires (hunexpiring tick)
    | some left =>
        have hkept := h.left id counter hcounter left hleft
        omega

end Kept

theorem kept_of_fresh (hs : Fresh s) : Kept s := by
  obtain ⟨hcounters, hticks, hhanded⟩ := hs
  have hgrounded : ∀ tick attempt, ¬s.InFlight tick attempt := by
    intro tick attempt hflies
    rw [State.InFlight, hticks] at hflies
    exact absurd hflies (Option.some_ne_none attempt).symm
  refine ⟨?_, ?_, ?_, ?_, hhanded ▸ List.nodup_nil, ?_, ?_⟩
  · intro tick t ht
    rw [hticks] at ht
    exact absurd ht (Option.some_ne_none t).symm
  · rintro attempt (hmem | ⟨tick, hflies⟩)
    · exact absurd (hhanded ▸ hmem) List.not_mem_nil
    · exact absurd hflies (hgrounded tick attempt)
  · intro tick attempt hflies
    exact absurd hflies (hgrounded tick attempt)
  · intro tick other attempt hflies
    exact absurd hflies (hgrounded tick attempt)
  · intro id counter hcounter
    rw [hcounters] at hcounter
    exact absurd hcounter (Option.not_mem_none counter)
  · intro id counter hcounter
    rw [hcounters] at hcounter
    exact absurd hcounter (Option.not_mem_none counter)

/-- In every run in which the window of each tick reaches far enough, no take is counted
beyond its attempts and no attempt leaves a counter without a time to live, the backfill
starves nobody. -/
theorem serves_of_sound {run : List (Action × State)} (hs : Fresh s)
    (hrun : backfill.IsRun s run) (hsound : StepsMeet Sound s run) :
    ∀ t ∈ visited s run, Serves t := by
  have hkeeps : ∀ s a t, Kept s → backfill.step s a t → Sound s a → Kept t :=
    fun s a t h hstep hok => h.act hok hstep
  intro t ht
  exact (forall_visited_of_stepsMeet hkeeps (kept_of_fresh hs) hrun hsound t ht).serves

/-- Takes without a score, one made after another. -/
def madeInTurn (n : Nat) : List Row :=
  (List.range n).map fun i => ⟨i, i, false⟩

/-- Takes without a score, and nothing done about them yet. -/
def unserved (n : Nat) : State where
  rows := madeInTurn n
  counters _ := none
  tracked := []
  ticks _ := none
  life _ := 0
  since _ := 0
  handed := []

theorem fresh_unserved (n : Nat) : Fresh (unserved n) :=
  ⟨rfl, rfl, rfl⟩

/-- A whole tick that hands on as many takes as a batch holds. -/
def wholeTick (n : Nat) (tick : TickId) : List Action :=
  [.starts tick, .runs tick] ++ (if tick = 0 then [] else [.runs tick]) ++
    [.picks tick (madeInTurn n), .runs tick] ++
    List.replicate (scoreBackfillBatchSize * 4) (.runs tick)

/-- Four ticks over six takes: when the last one starts, five of them are used up. -/
def fourTicks : List Action :=
  (List.range 4).flatMap (wholeTick 6)

instance (counters : TakeId → Option Counter) (t : Tick) : Decidable (WindowHolds counters t) :=
  inferInstanceAs (Decidable (_ ≤ _))

/-- What `Sound` asks of the ticks where none of them fails or dies. -/
def runsOn (s : State) : Action → Bool
  | .runs tick => (s.ticks tick).all fun t =>
      match t.point with
      | .counting => WindowHolds s.counters t
      | .recording id _ => countOf s.counters id < scoreBackfillMaxAttempts
      | _ => true
  | .attemptFails _ | .dies _ => false
  | _ => true

theorem sound_of_runsOn (s : State) (a : Action) (h : runsOn s a = true) : Sound s a := by
  cases a with
  | runs tick =>
      intro t ht
      have hruns := (Option.all_eq_true _ _).mp h t ht
      rw [RunsSoundly]
      cases hpoint : t.point with
      | counting =>
          rw [hpoint] at hruns
          exact of_decide_eq_true (p := WindowHolds s.counters t) hruns
      | recording id rest =>
          rw [hpoint] at hruns
          exact of_decide_eq_true (p := countOf s.counters id < scoreBackfillMaxAttempts) hruns
      | _ => trivial
  | attemptFails => exact absurd h Bool.false_ne_true
  | dies => exact absurd h Bool.false_ne_true
  | _ => trivial

theorem serves_of_sound_fourTicks :
    Serves (lastOf (unserved 6) (follow act (unserved 6) fourTicks)) ∧
      (lastOf (unserved 6) (follow act (unserved 6) fourTicks)).handed.map Attempt.id =
        [5, 4, 3, 2, 1, 0, 4, 3, 2, 1, 0, 4, 3, 2, 1, 0] := by
  have hmeet : StepsMeet (fun s a => runsOn s a = true) (unserved 6)
      (follow act (unserved 6) fourTicks) := by
    decide +kernel
  refine ⟨?_, by decide +kernel⟩
  exact serves_of_sound (fresh_unserved 6) (isRun_follow _ _ _ _) (hmeet.mono sound_of_runsOn) _
    (lastOf_mem_visited _ _)

/-- Twelve ticks over twenty-one takes that never get a score, and one more. -/
def starving : List Action :=
  (List.range 12).flatMap (wholeTick 21) ++
    [.starts 12, .runs 12, .runs 12, .picks 12 (madeInTurn 21), .runs 12]

def starvedTick : Tick where
  point := .finished
  backlog := madeInTurn 21
  spent := List.range 20
  attempted := []

/-- The youngest take has attempts left and lies behind the window. -/
theorem backlog_starved : ¬ ∀ s, backfill.Reachable s → Serves s := by
  intro hall
  have hstart : backfill.Reachable (unserved 21) := .initial (fresh_unserved 21)
  have hserves := hall _ (reachable_follow hstart starving)
  have hticks : (lastOf (unserved 21) (follow act (unserved 21) starving)).ticks 12 =
      some starvedTick := by decide +kernel
  obtain ⟨oldest, hhanded, -, hlength, -⟩ := hserves.oldest 12 starvedTick hticks rfl
  rw [List.map_eq_nil_iff.mp hhanded] at hlength
  exact absurd hlength (by decide)

end Songmaker.Scoring.ScoreBackfill
