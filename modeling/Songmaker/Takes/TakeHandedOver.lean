import Songmaker.Takes.TakeHandoff

namespace Songmaker.Takes.TakeHandedOver

open Songmaker.Foundation
open Songmaker.Foundation.TransitionSystem
open Songmaker.Takes.TakeHandoff

/-- `_release_acquired` has still to run, or has released what there was. -/
inductive Releasing (s : Handoff) : Prop where
  | waits (hcallback : s.callback = true) (hreleased : s.released = 0)
      (hpresent : s.present = true ↔ s.acquisition = .opened)
  | done (hcallback : s.callback = false) (hacquired : s.acquisition ≠ .running)
      (hreleased : s.released = if s.acquisition = .opened then 1 else 0)
      (hpresent : s.present = false)

/-- Nothing has been received yet. -/
structure Untouched (body : Bytes) (s : Handoff) : Prop where
  closed : s.closed = false
  written : s.written = []
  rest : s.rest = body
  received : s.received = 0

/-- `acquire_in_thread` has not returned. -/
structure Waiting (body : Bytes) (s : Handoff) : Prop where
  own : s.own = none
  orphans : s.orphans = []
  untouched : s.point = .acquiring → Untouched body s
  stage : (s.point = .acquiring ∧ s.callback = false ∧ s.released = 0 ∧
      (s.present = true ↔ s.acquisition = .opened)) ∨
    ((s.point = .awaitingRelease ∨ s.point = .ended false) ∧ Releasing s)

/-- What the write of a chunk that nobody cancelled has made of the file. -/
def Writes (body : Bytes) (s : Handoff) (chunk : Bytes) : Stage → Prop
  | .queued | .running => s.written ++ chunk ++ s.rest = body
  | .ended true => s.written ++ s.rest = body
  | .ended false => True

/-- What the close of a whole file has made of it. -/
def Closes (body : Bytes) (s : Handoff) : Stage → Prop
  | .queued | .running => s.written = body
  | .ended true => s.closed = true ∧ s.disk = body
  | .ended false => True

/-- What there is of the worker's bytes while no exception is on its way. -/
def DataKept (limit : Nat) (body : Bytes) (s : Handoff) : Prop :=
  match s.point with
  | .requesting | .reading =>
      s.own = none ∧ s.orphans = [] ∧ s.closed = false ∧ s.written ++ s.rest = body ∧
        s.received + s.rest.length = body.length ∧ s.received ≤ limit
  | .writing =>
      s.orphans = [] ∧ s.closed = false ∧ s.received + s.rest.length = body.length ∧
        s.received ≤ limit ∧
          ∃ chunk stage, s.own = some ⟨.write chunk, stage⟩ ∧ Writes body s chunk stage
  | .leaving false =>
      s.own = none ∧ s.orphans = [] ∧ s.closed = false ∧ s.written = body ∧ body.length ≤ limit
  | .closing false =>
      s.orphans = [] ∧ body.length ≤ limit ∧
        ∃ stage, s.own = some ⟨.close, stage⟩ ∧ Closes body s stage
  | .freeing | .ended true =>
      s.own = none ∧ s.orphans = [] ∧ s.closed = true ∧ s.disk = body ∧ body.length ≤ limit
  | _ => True

/-- `acquire_in_thread` has returned the file. -/
structure HandedOver (s : Handoff) : Prop where
  acquisition : s.acquisition = .opened
  callback : s.callback = false
  released : s.released = 0
  acquired : s.point ≠ .acquiring ∧ s.point ≠ .awaitingRelease
  present : s.present = true ↔ s.point ≠ .ended false

/-- The file is the acquisition's until it is handed over, and the request's from then on. -/
structure Sound (limit : Nat) (body : Bytes) (s : Handoff) : Prop where
  waiting : s.handedOver = false → Waiting body s
  handed : s.handedOver = true → HandedOver s ∧ DataKept limit body s

variable {limit : Nat} {body : Bytes} {s t : Handoff}

section Waiting

theorem Waiting.acquireEnds (h : Waiting body s) (hrunning : s.acquisition = .running) (ok : Bool) :
    Waiting body { s with acquisition := if ok then .opened else .failed, present := ok } := by
  have hnew : ok = true ↔ (if ok then Acquisition.opened else .failed) = .opened := by
    cases ok with
    | true => simp
    | false => simp
  refine ⟨h.own, h.orphans, fun hpoint => ?_, ?_⟩
  · obtain ⟨hclosed, hwritten, hrest, hreceived⟩ := h.untouched hpoint
    exact ⟨hclosed, hwritten, hrest, hreceived⟩
  · rcases h.stage with ⟨hpoint, hcallback, hreleased, -⟩ | ⟨hpoint, hreleasing⟩
    · exact .inl ⟨hpoint, hcallback, hreleased, hnew⟩
    · cases hreleasing with
      | waits hcallback hreleased hpresent => exact .inr ⟨hpoint, .waits hcallback hreleased hnew⟩
      | done hcallback hacquired hreleased hpresent => exact absurd hrunning hacquired

theorem Waiting.runCallback (h : Waiting body s) (hcallback : s.callback = true)
    (hended : s.acquisition ≠ .running) : Waiting body s.runCallback := by
  rcases h.stage with ⟨-, hnone, -⟩ | ⟨hpoint, hreleasing⟩
  · rw [hcallback] at hnone
    cases hnone
  · cases hreleasing with
    | done hnone _ _ _ =>
        rw [hcallback] at hnone
        cases hnone
    | waits _ hreleased hpresent =>
        have hlater : s.point ≠ .acquiring := by
          rcases hpoint with hpoint | hpoint
          · simp [hpoint]
          · simp [hpoint]
        unfold Handoff.runCallback
        cases hacquisition : s.acquisition with
        | running => exact absurd hacquisition hended
        | failed =>
            have hgone : s.present = false := by
              rw [hacquisition] at hpresent
              simpa using hpresent
            refine ⟨h.own, h.orphans, fun hacquiring => absurd hacquiring hlater,
              .inr ⟨hpoint, .done rfl ?_ ?_ hgone⟩⟩
            · simp
            · simp [hreleased]
        | opened =>
            refine ⟨h.own, h.orphans, fun hacquiring => absurd hacquiring hlater,
              .inr ⟨hpoint, .done rfl ?_ ?_ rfl⟩⟩
            · simp
            · simp [hreleased]

theorem Waiting.cancel (h : Waiting body s) (hcancel : s.cancel = some t) : Waiting body t := by
  unfold Handoff.cancel at hcancel
  rcases h.stage with ⟨hpoint, hcallback, hreleased, hpresent⟩ | ⟨hpoint | hpoint, hreleasing⟩
  · rw [hpoint] at hcancel
    obtain rfl := Option.some.inj hcancel
    exact ⟨h.own, h.orphans, by simp, .inr ⟨.inl rfl, .waits rfl hreleased hpresent⟩⟩
  · rw [hpoint] at hcancel
    obtain rfl := Option.some.inj hcancel
    refine ⟨h.own, h.orphans, by simp, .inr ⟨.inr rfl, ?_⟩⟩
    cases hreleasing with
    | waits hcallback hreleased hpresent => exact .waits hcallback hreleased hpresent
    | done hcallback hacquired hreleased hpresent =>
        exact .done hcallback hacquired hreleased hpresent
  · rw [hpoint] at hcancel
    cases hcancel

theorem Waiting.point (h : Waiting body s) :
    s.point = .acquiring ∨ s.point = .awaitingRelease ∨ s.point = .ended false := by
  rcases h.stage with ⟨hpoint, -⟩ | ⟨hpoint, -⟩
  · exact .inl hpoint
  · exact .inr hpoint

theorem Sound.of_waiting (hnot : s.handedOver = false) (h : Waiting body s) : Sound limit body s :=
  ⟨fun _ => h, fun hhanded => absurd (hnot.symm.trans hhanded) Bool.false_ne_true⟩

theorem Sound.of_handed (hhanded : s.handedOver = true) (h : HandedOver s)
    (hdata : DataKept limit body s) : Sound limit body s :=
  ⟨fun hnot => absurd (hnot.symm.trans hhanded) Bool.false_ne_true, fun _ => ⟨h, hdata⟩⟩

theorem Sound.handed_of_point (h : Sound limit body s) (hacquiring : s.point ≠ .acquiring)
    (hawaiting : s.point ≠ .awaitingRelease) (hended : s.point ≠ .ended false) :
    s.handedOver = true ∧ HandedOver s ∧ DataKept limit body s := by
  cases hhanded : s.handedOver with
  | false =>
      rcases (h.waiting hhanded).point with hpoint | hpoint | hpoint
      · exact absurd hpoint hacquiring
      · exact absurd hpoint hawaiting
      · exact absurd hpoint hended
  | true => exact ⟨rfl, h.handed hhanded⟩

end Waiting

section HandedOver

theorem HandedOver.of_same (h : HandedOver s) (hacquisition : t.acquisition = s.acquisition)
    (hcallback : t.callback = s.callback) (hreleased : t.released = s.released)
    (hpresent : t.present = s.present) (hacquired : t.point ≠ .acquiring ∧
      t.point ≠ .awaitingRelease) (hended : t.point ≠ .ended false ↔ s.point ≠ .ended false) :
    HandedOver t where
  acquisition := hacquisition.trans h.acquisition
  callback := hcallback.trans h.callback
  released := hreleased.trans h.released
  acquired := hacquired
  present := by rw [hpresent, hended, h.present]

theorem HandedOver.fail (h : HandedOver s) (hrunning : ∀ returned, s.point ≠ .ended returned) :
    HandedOver s.fail ∧ DataKept limit body s.fail := by
  have hpresent : s.present = true := h.present.mpr (hrunning false)
  cases hpoint : s.point with
  | acquiring => exact absurd hpoint h.acquired.1
  | awaitingRelease => exact absurd hpoint h.acquired.2
  | ended returned => exact absurd hpoint (hrunning returned)
  | requesting =>
      simp only [Handoff.fail, hpoint]
      exact ⟨⟨h.acquisition, h.callback, h.released, by simp, by simp [hpresent]⟩, trivial⟩
  | reading =>
      simp only [Handoff.fail, hpoint]
      exact ⟨⟨h.acquisition, h.callback, h.released, by simp, by simp [hpresent]⟩, trivial⟩
  | writing =>
      simp only [Handoff.fail, hpoint]
      exact ⟨⟨h.acquisition, h.callback, h.released, by simp, by simp [hpresent]⟩, trivial⟩
  | leaving raised =>
      simp only [Handoff.fail, hpoint, Handoff.startClose]
      exact ⟨⟨h.acquisition, h.callback, h.released, by simp, by simp [hpresent]⟩, trivial⟩
  | closing raised =>
      simp only [Handoff.fail, hpoint]
      exact ⟨⟨h.acquisition, h.callback, h.released, by simp, by simp⟩, trivial⟩
  | freeing =>
      simp only [Handoff.fail, hpoint]
      exact ⟨⟨h.acquisition, h.callback, h.released, by simp, by simp⟩, trivial⟩

theorem abandon_point (s : Handoff) : s.abandon.point = s.point := by
  unfold Handoff.abandon
  split
  · rfl
  · rfl

theorem abandon_handedOver (s : Handoff) : s.abandon.handedOver = s.handedOver := by
  unfold Handoff.abandon
  split
  · rfl
  · rfl

theorem fail_handedOver (s : Handoff) : s.fail.handedOver = s.handedOver := by
  unfold Handoff.fail
  split
  all_goals rfl

theorem HandedOver.abandon (h : HandedOver s) : HandedOver s.abandon := by
  unfold Handoff.abandon
  split
  · exact h.of_same rfl rfl rfl rfl h.acquired Iff.rfl
  · exact h.of_same rfl rfl rfl rfl h.acquired Iff.rfl

theorem Sound.of_fail (hhanded : s.handedOver = true) (h : HandedOver s)
    (hrunning : ∀ returned, s.point ≠ .ended returned) : Sound limit body s.fail := by
  obtain ⟨hover, hdata⟩ := h.fail hrunning
  exact .of_handed ((fail_handedOver s).trans hhanded) hover hdata

end HandedOver

section Steps

theorem Sound.acquireEnds (h : Sound limit body s) (hrunning : s.acquisition = .running)
    (ok : Bool) : Sound limit body
      { s with acquisition := if ok then .opened else .failed, present := ok } := by
  rcases Bool.eq_false_or_eq_true s.handedOver with hhanded | hhanded
  · have hopened := (h.handed hhanded).1.acquisition
    rw [hrunning] at hopened
    cases hopened
  · exact .of_waiting hhanded ((h.waiting hhanded).acquireEnds hrunning ok)

theorem Sound.runCallback (h : Sound limit body s) (hcallback : s.callback = true)
    (hended : s.acquisition ≠ .running) : Sound limit body s.runCallback := by
  cases hhanded : s.handedOver with
  | false =>
      apply Sound.of_waiting
      · unfold Handoff.runCallback
        split
        · exact hhanded
        · exact hhanded
      · exact (h.waiting hhanded).runCallback hcallback hended
  | true =>
      have hnone := (h.handed hhanded).1.callback
      rw [hcallback] at hnone
      cases hnone

theorem Sound.cancel (h : Sound limit body s) (hcancel : s.cancel = some t) :
    Sound limit body t := by
  cases hhanded : s.handedOver with
  | false =>
      have hwaiting := h.waiting hhanded
      refine .of_waiting ?_ (hwaiting.cancel hcancel)
      unfold Handoff.cancel at hcancel
      rcases hwaiting.point with hpoint | hpoint | hpoint
      · rw [hpoint] at hcancel
        obtain rfl := Option.some.inj hcancel
        exact hhanded
      · rw [hpoint] at hcancel
        obtain rfl := Option.some.inj hcancel
        exact hhanded
      · rw [hpoint] at hcancel
        cases hcancel
  | true =>
      have hover := (h.handed hhanded).1
      have hfails : (∀ returned, s.point ≠ .ended returned) ∧ t = s.abandon.fail := by
        unfold Handoff.cancel at hcancel
        cases hpoint : s.point with
        | acquiring => exact absurd hpoint hover.acquired.1
        | awaitingRelease => exact absurd hpoint hover.acquired.2
        | ended returned => simp [hpoint] at hcancel
        | requesting => simpa [hpoint, eq_comm] using hcancel
        | reading => simpa [hpoint, eq_comm] using hcancel
        | writing => simpa [hpoint, eq_comm] using hcancel
        | leaving raised => simpa [hpoint, eq_comm] using hcancel
        | closing raised => simpa [hpoint, eq_comm] using hcancel
        | freeing => simpa [hpoint, eq_comm] using hcancel
      obtain ⟨hrunning, rfl⟩ := hfails
      exact .of_fail ((abandon_handedOver s).trans hhanded) hover.abandon
        fun returned => (abandon_point s).symm ▸ hrunning returned

theorem Sound.resume (h : Sound limit body s) (hresume : s.resume = some t) :
    Sound limit body t := by
  rcases Bool.eq_false_or_eq_true s.handedOver with hhanded | hhanded
  · obtain ⟨hover, hdata⟩ := h.handed hhanded
    unfold Handoff.resume at hresume
    unfold DataKept at hdata
    cases hpoint : s.point with
    | acquiring => exact absurd hpoint hover.acquired.1
    | awaitingRelease => exact absurd hpoint hover.acquired.2
    | requesting => simp [hpoint] at hresume
    | reading => simp [hpoint] at hresume
    | ended returned => simp [hpoint] at hresume
    | writing =>
        simp only [hpoint] at hresume hdata
        obtain ⟨horphans, hclosed, hreceived, hlimit, chunk, stage, hown, hwrites⟩ := hdata
        rw [hown] at hresume
        cases stage with
        | queued => cases hresume
        | running => cases hresume
        | ended ok =>
            cases ok with
            | true =>
                obtain rfl := Option.some.inj hresume
                refine .of_handed hhanded
                  (hover.of_same rfl rfl rfl rfl (by simp) (by simp [hpoint])) ?_
                exact ⟨rfl, horphans, hclosed, hwrites, hreceived, hlimit⟩
            | false =>
                obtain rfl := Option.some.inj hresume
                exact .of_fail hhanded (hover.of_same rfl rfl rfl rfl (by simp) (by simp [hpoint]))
                  (by simp)
    | leaving raised =>
        simp only [hpoint] at hresume hdata
        obtain rfl := Option.some.inj hresume
        refine .of_handed hhanded
          (hover.of_same rfl rfl rfl rfl (by simp [Handoff.startClose])
            (by simp [Handoff.startClose, hpoint])) ?_
        cases raised with
        | true => trivial
        | false =>
            obtain ⟨-, horphans, -, hwritten, hlimit⟩ := hdata
            exact ⟨horphans, hlimit, .queued, rfl, hwritten⟩
    | closing raised =>
        simp only [hpoint] at hresume hdata
        cases hown : s.own with
        | none => simp [hown] at hresume
        | some awaited =>
            obtain ⟨work, stage⟩ := awaited
            rw [hown] at hresume
            cases stage with
            | queued => cases hresume
            | running => cases hresume
            | ended ok =>
                cases ok with
                | false =>
                    obtain rfl := Option.some.inj hresume
                    exact .of_fail hhanded
                      (hover.of_same rfl rfl rfl rfl (by simp) (by simp [hpoint])) (by simp)
                | true =>
                    cases raised with
                    | true =>
                        simp only [if_true] at hresume
                        obtain rfl := Option.some.inj hresume
                        exact .of_fail hhanded
                          (hover.of_same rfl rfl rfl rfl (by simp) (by simp [hpoint])) (by simp)
                    | false =>
                        obtain ⟨horphans, hlimit, stage, hstage, hcloses⟩ := hdata
                        obtain rfl : stage = .ended true := by
                          simpa [hown, eq_comm] using (congrArg (Option.map Awaited.stage) hstage)
                        obtain rfl := Option.some.inj hresume
                        refine .of_handed hhanded
                          (hover.of_same rfl rfl rfl rfl (by simp) (by simp [hpoint])) ?_
                        exact ⟨rfl, horphans, hcloses.1, hcloses.2, hlimit⟩
    | freeing =>
        simp only [hpoint] at hresume hdata
        obtain rfl := Option.some.inj hresume
        exact .of_handed hhanded
          (hover.of_same rfl rfl rfl rfl (by simp) (by simp [hpoint])) hdata
  · have hwaiting := h.waiting hhanded
    unfold Handoff.resume at hresume
    rcases hwaiting.stage with ⟨hpoint, hcallback, hreleased, hpresent⟩ | ⟨hpoint, hreleasing⟩
    · simp only [hpoint] at hresume
      cases hacquisition : s.acquisition with
      | running => simp [hacquisition] at hresume
      | failed =>
          have hgone : s.present = false := by
            rw [hacquisition] at hpresent
            simpa using hpresent
          simp only [hacquisition, Option.some.injEq] at hresume
          obtain rfl := hresume
          refine .of_waiting hhanded
            ⟨hwaiting.own, hwaiting.orphans, by simp, .inr ⟨.inr rfl, ?_⟩⟩
          exact .done hcallback (by simp) (by simp [hreleased]) hgone
      | opened =>
          have huntouched := hwaiting.untouched hpoint
          simp only [hacquisition, Option.some.injEq] at hresume
          obtain rfl := hresume
          refine .of_handed rfl ⟨rfl, hcallback, hreleased, by simp, ?_⟩ ?_
          · simpa [hacquisition] using hpresent
          · refine ⟨hwaiting.own, hwaiting.orphans, huntouched.closed, ?_, ?_, ?_⟩
            · simp [huntouched.written, huntouched.rest]
            · simp [huntouched.rest, huntouched.received]
            · simp [huntouched.received]
    · rcases hpoint with hpoint | hpoint
      · simp only [hpoint] at hresume
        obtain ⟨hacquired, hended⟩ := Option.ite_none_left_eq_some.mp hresume
        obtain rfl := Option.some.inj hended
        refine .of_waiting hhanded
          ⟨hwaiting.own, hwaiting.orphans, by simp, .inr ⟨.inr rfl, ?_⟩⟩
        cases hreleasing with
        | waits hcallback hreleased hpresent => exact .waits hcallback hreleased hpresent
        | done hcallback hacquired hreleased hpresent =>
            exact .done hcallback hacquired hreleased hpresent
      · simp [hpoint] at hresume

theorem Sound.raises (h : Sound limit body s)
    (hpoint : s.point = .requesting ∨ s.point = .reading ∨ (∃ raised, s.point = .leaving raised) ∨
      s.point = .freeing) : Sound limit body s.fail := by
  have hfree : s.point ≠ .acquiring ∧ s.point ≠ .awaitingRelease ∧
      ∀ returned, s.point ≠ .ended returned := by
    rcases hpoint with hpoint | hpoint | ⟨raised, hpoint⟩ | hpoint
    all_goals simp [hpoint]
  obtain ⟨hhanded, hover, -⟩ := h.handed_of_point hfree.1 hfree.2.1 (hfree.2.2 false)
  exact .of_fail hhanded hover hfree.2.2

theorem Sound.headers (h : Sound limit body s) (hpoint : s.point = .requesting) :
    Sound limit body { s with point := .reading } := by
  obtain ⟨hhanded, hover, hdata⟩ :=
    h.handed_of_point (by simp [hpoint]) (by simp [hpoint]) (by simp [hpoint])
  unfold DataKept at hdata
  simp only [hpoint] at hdata
  exact .of_handed hhanded (hover.of_same rfl rfl rfl rfl (by simp) (by simp [hpoint])) hdata

theorem Sound.chunk (h : Sound limit body s) (hpoint : s.point = .reading) (length : Nat) :
    Sound limit body (s.chunk limit length) := by
  obtain ⟨hhanded, hover, hdata⟩ :=
    h.handed_of_point (by simp [hpoint]) (by simp [hpoint]) (by simp [hpoint])
  unfold Handoff.chunk
  split
  · exact .of_fail hhanded (hover.of_same rfl rfl rfl rfl hover.acquired Iff.rfl) (by simp [hpoint])
  · rename_i hlimit
    unfold DataKept at hdata
    simp only [hpoint] at hdata
    obtain ⟨-, horphans, hclosed, hwritten, hreceived, -⟩ := hdata
    refine .of_handed hhanded (hover.of_same rfl rfl rfl rfl (by simp) (by simp [hpoint])) ?_
    refine ⟨horphans, hclosed, ?_, Nat.not_lt.mp hlimit, _, .queued, rfl, ?_⟩
    · have hsplit := congrArg List.length (List.take_append_drop length s.rest)
      simp only [List.length_append] at hsplit
      change s.received + (s.rest.take length).length + (s.rest.drop length).length = body.length
      omega
    · change s.written ++ s.rest.take length ++ s.rest.drop length = body
      rw [List.append_assoc, List.take_append_drop, hwritten]

theorem Sound.streamEnds (h : Sound limit body s) (hpoint : s.point = .reading)
    (hrest : s.rest = []) : Sound limit body { s with point := .leaving false } := by
  obtain ⟨hhanded, hover, hdata⟩ :=
    h.handed_of_point (by simp [hpoint]) (by simp [hpoint]) (by simp [hpoint])
  unfold DataKept at hdata
  simp only [hpoint] at hdata
  obtain ⟨hown, horphans, hclosed, hwritten, hreceived, hlimit⟩ := hdata
  refine .of_handed hhanded (hover.of_same rfl rfl rfl rfl (by simp) (by simp [hpoint])) ?_
  refine ⟨hown, horphans, hclosed, by simpa [hrest] using hwritten, ?_⟩
  have hlength : s.received = body.length := by simpa [hrest] using hreceived
  exact hlength ▸ hlimit

theorem Sound.handed_of_own (h : Sound limit body s) {awaited : Awaited}
    (hown : s.own = some awaited) :
    s.handedOver = true ∧ HandedOver s ∧ DataKept limit body s := by
  rcases Bool.eq_false_or_eq_true s.handedOver with hhanded | hhanded
  · exact ⟨hhanded, h.handed hhanded⟩
  · rw [(h.waiting hhanded).own] at hown
    cases hown

theorem DataKept.threadStarts (h : DataKept limit body s) {work : Work}
    (hown : s.own = some ⟨work, .queued⟩) :
    DataKept limit body { s with own := some ⟨work, .running⟩ } := by
  unfold DataKept at h ⊢
  cases hpoint : s.point with
  | acquiring => trivial
  | awaitingRelease => trivial
  | requesting => simp [hpoint, hown] at h
  | reading => simp [hpoint, hown] at h
  | freeing => simp [hpoint, hown] at h
  | ended returned =>
      cases returned with
      | true => simp [hpoint, hown] at h
      | false => trivial
  | writing =>
      simp only [hpoint, hown] at h ⊢
      obtain ⟨horphans, hclosed, hreceived, hlimit, chunk, stage, hsame, hwrites⟩ := h
      obtain ⟨rfl, rfl⟩ : work = .write chunk ∧ Stage.queued = stage := by simpa using hsame
      exact ⟨horphans, hclosed, hreceived, hlimit, chunk, .running, rfl, hwrites⟩
  | leaving raised =>
      cases raised with
      | true => trivial
      | false => simp [hpoint, hown] at h
  | closing raised =>
      cases raised with
      | true => trivial
      | false =>
          simp only [hpoint, hown] at h ⊢
          obtain ⟨horphans, hlimit, stage, hsame, hcloses⟩ := h
          obtain ⟨rfl, rfl⟩ : work = .close ∧ Stage.queued = stage := by simpa using hsame
          exact ⟨horphans, hlimit, .running, rfl, hcloses⟩

theorem HandedOver.runWork (h : HandedOver s) (work : Work) (ok : Bool) (flushed : Nat)
    (own : Option Awaited) (orphans : List Work) :
    HandedOver { s.runWork work ok flushed with own := own, orphans := orphans } := by
  cases work with
  | close => exact h.of_same rfl rfl rfl rfl h.acquired Iff.rfl
  | write chunk =>
      unfold Handoff.runWork
      dsimp only
      split
      · exact h.of_same rfl rfl rfl rfl h.acquired Iff.rfl
      · exact h.of_same rfl rfl rfl rfl h.acquired Iff.rfl

theorem runWork_point (s : Handoff) (work : Work) (ok : Bool) (flushed : Nat) :
    (s.runWork work ok flushed).point = s.point := by
  cases work with
  | close => rfl
  | write chunk =>
      unfold Handoff.runWork
      dsimp only
      split
      · rfl
      · rfl

theorem runWork_handedOver (s : Handoff) (work : Work) (ok : Bool) (flushed : Nat) :
    (s.runWork work ok flushed).handedOver = s.handedOver := by
  cases work with
  | close => rfl
  | write chunk =>
      unfold Handoff.runWork
      dsimp only
      split
      · rfl
      · rfl

theorem DataKept.threadEnds (h : DataKept limit body s) {work : Work}
    (hown : s.own = some ⟨work, .running⟩) (ok : Bool) (flushed : Nat) :
    DataKept limit body
      { s.runWork work ok flushed with
        own := some ⟨work, .ended (ok && !(s.closed && decide (work ≠ .close)))⟩ } := by
  have hsame := runWork_point s work ok flushed
  unfold DataKept at h ⊢
  dsimp only
  cases hpoint : s.point with
  | acquiring => simp [hsame, hpoint]
  | awaitingRelease => simp [hsame, hpoint]
  | requesting => simp [hpoint, hown] at h
  | reading => simp [hpoint, hown] at h
  | freeing => simp [hpoint, hown] at h
  | ended returned =>
      cases returned with
      | true => simp [hpoint, hown] at h
      | false => simp [hsame, hpoint]
  | writing =>
      simp only [hpoint, hown] at h
      simp only [hsame, hpoint]
      obtain ⟨horphans, hclosed, hreceived, hlimit, chunk, stage, hthread, hwrites⟩ := h
      obtain ⟨rfl, rfl⟩ : work = .write chunk ∧ Stage.running = stage := by simpa using hthread
      have hstage : (ok && !(s.closed && decide (Work.write chunk ≠ .close))) = ok := by
        simp [hclosed]
      rw [hstage]
      simp only [Handoff.runWork, hclosed, Bool.false_eq_true, if_false]
      refine ⟨horphans, trivial, hreceived, hlimit, chunk, .ended ok, rfl, ?_⟩
      cases ok with
      | true => exact hwrites
      | false => trivial
  | leaving raised =>
      cases raised with
      | true => simp [hsame, hpoint]
      | false => simp [hpoint, hown] at h
  | closing raised =>
      cases raised with
      | true => simp [hsame, hpoint]
      | false =>
          simp only [hpoint, hown] at h
          simp only [hsame, hpoint]
          obtain ⟨horphans, hlimit, stage, hthread, hcloses⟩ := h
          obtain ⟨rfl, rfl⟩ : work = .close ∧ Stage.running = stage := by simpa using hthread
          have hstage : (ok && !(s.closed && decide (Work.close ≠ .close))) = ok := by simp
          rw [hstage]
          refine ⟨horphans, hlimit, .ended ok, rfl, ?_⟩
          cases ok with
          | true => exact ⟨rfl, hcloses⟩
          | false => trivial

theorem DataKept.orphanEnds (h : DataKept limit body s) (horphans : s.orphans ≠ []) (work : Work)
    (ok : Bool) (flushed : Nat) (left : List Work) :
    DataKept limit body { s.runWork work ok flushed with orphans := left } := by
  have hsame := runWork_point s work ok flushed
  unfold DataKept at h ⊢
  dsimp only
  cases hpoint : s.point with
  | acquiring => simp [hsame, hpoint]
  | awaitingRelease => simp [hsame, hpoint]
  | requesting => simp [hpoint, horphans] at h
  | reading => simp [hpoint, horphans] at h
  | writing => simp [hpoint, horphans] at h
  | freeing => simp [hpoint, horphans] at h
  | leaving raised =>
      cases raised with
      | true => simp [hsame, hpoint]
      | false => simp [hpoint, horphans] at h
  | closing raised =>
      cases raised with
      | true => simp [hsame, hpoint]
      | false => simp [hpoint, horphans] at h
  | ended returned =>
      cases returned with
      | true => simp [hpoint, horphans] at h
      | false => simp [hsame, hpoint]

theorem Sound.act {action : HandoffAct} (h : Sound limit body s)
    (hact : act limit s action = some t) : Sound limit body t := by
  unfold TakeHandoff.act at hact
  cases action with
  | acquireEnds ok =>
      obtain ⟨hrunning, hnext⟩ := Option.ite_none_right_eq_some.mp hact
      obtain rfl := Option.some.inj hnext
      exact h.acquireEnds hrunning ok
  | runCallback =>
      obtain ⟨⟨hcallback, hended⟩, hnext⟩ := Option.ite_none_right_eq_some.mp hact
      obtain rfl := Option.some.inj hnext
      exact h.runCallback hcallback hended
  | resume => exact h.resume hact
  | cancel => exact h.cancel hact
  | raises =>
      have hpoint : (s.point = .requesting ∨ s.point = .reading ∨
          (∃ raised, s.point = .leaving raised) ∨ s.point = .freeing) ∧ s.fail = t := by
        dsimp only at hact
        split at hact
        · exact ⟨.inl ‹_›, Option.some.inj hact⟩
        · exact ⟨.inr (.inl ‹_›), Option.some.inj hact⟩
        · exact ⟨.inr (.inr (.inl ⟨_, ‹_›⟩)), Option.some.inj hact⟩
        · exact ⟨.inr (.inr (.inr ‹_›)), Option.some.inj hact⟩
        · cases hact
      obtain ⟨hpoint, rfl⟩ := hpoint
      exact h.raises hpoint
  | headers =>
      obtain ⟨hpoint, hnext⟩ := Option.ite_none_right_eq_some.mp hact
      obtain rfl := Option.some.inj hnext
      exact h.headers hpoint
  | chunk length =>
      obtain ⟨hpoint, hnext⟩ := Option.ite_none_right_eq_some.mp hact
      obtain rfl := Option.some.inj hnext
      exact h.chunk hpoint length
  | streamEnds =>
      obtain ⟨⟨hpoint, hrest⟩, hnext⟩ := Option.ite_none_right_eq_some.mp hact
      obtain rfl := Option.some.inj hnext
      exact h.streamEnds hpoint hrest
  | threadStarts =>
      dsimp only at hact
      split at hact
      · obtain rfl := Option.some.inj hact
        obtain ⟨hhanded, hover, hdata⟩ := h.handed_of_own ‹_›
        exact .of_handed hhanded (hover.of_same rfl rfl rfl rfl hover.acquired Iff.rfl)
          (hdata.threadStarts ‹_›)
      · cases hact
  | threadEnds ok flushed =>
      dsimp only at hact
      split at hact
      · obtain rfl := Option.some.inj hact
        obtain ⟨hhanded, hover, hdata⟩ := h.handed_of_own ‹_›
        exact .of_handed ((runWork_handedOver s _ ok flushed).trans hhanded)
          (hover.runWork _ ok flushed _ _) (hdata.threadEnds ‹_› ok flushed)
      · cases hact
  | orphanEnds i ok flushed =>
      obtain ⟨work, hwork, rfl⟩ := Option.map_eq_some_iff.mp hact
      have hsome : s.orphans ≠ [] := by
        intro hnone
        simp [hnone] at hwork
      rcases Bool.eq_false_or_eq_true s.handedOver with hhanded | hhanded
      · obtain ⟨hover, hdata⟩ := h.handed hhanded
        exact .of_handed ((runWork_handedOver s _ ok flushed).trans hhanded)
          (hover.runWork work ok flushed _ _) (hdata.orphanEnds hsome work ok flushed _)
      · exact absurd (h.waiting hhanded).orphans hsome
  | asksFree =>
      obtain ⟨hpoint, hnext⟩ := Option.ite_none_right_eq_some.mp hact
      obtain rfl := Option.some.inj hnext
      obtain ⟨hhanded, hover, hdata⟩ :=
        h.handed_of_point (by simp [hpoint]) (by simp [hpoint]) (by simp [hpoint])
      refine .of_handed hhanded (hover.of_same rfl rfl rfl rfl hover.acquired Iff.rfl) ?_
      unfold DataKept at hdata ⊢
      simpa only [hpoint] using hdata

end Steps

theorem sound_start (limit : Nat) (body : Bytes) : Sound limit body (.start body) :=
  .of_waiting rfl
    ⟨rfl, rfl, fun _ => ⟨rfl, rfl, rfl, rfl⟩, .inl ⟨rfl, rfl, rfl, by simp [Handoff.start]⟩⟩

theorem sound_of_reachable (hs : (handoff limit body).Reachable s) : Sound limit body s := by
  induction hs with
  | initial hstart =>
      obtain rfl := hstart
      exact sound_start limit body
  | step _ hstep ih => exact ih.act hstep

/-- The coroutine is over, and so is the acquisition with the callback on it. -/
structure Settled (s : Handoff) : Prop where
  ended : ∃ returned, s.point = .ended returned
  acquisition : s.acquisition ≠ .running
  callback : s.callback = false

/-- What the hand-off guarantees, whatever failed or was cancelled on the way. -/
structure HandedOnce (limit : Nat) (body : Bytes) (s : Handoff) : Prop where
  once : s.released ≤ 1
  handed : s.handedOver = true → s.acquisition = .opened ∧ s.released = 0
  settled : Settled s → s.acquisition = .opened → s.handedOver = true ∨ s.released = 1
  gone : Settled s → s.present = true → s.point = .ended true
  whole : s.point = .ended true →
    s.present = true ∧ s.closed = true ∧ s.disk = body ∧ body.length ≤ limit
  freed : ∀ t, act limit s .asksFree = some t →
    s.present = true ∧ s.closed = true ∧ s.disk = body

theorem Sound.released (h : Sound limit body s) :
    s.released ≤ 1 ∧ (s.handedOver = true → s.acquisition = .opened ∧ s.released = 0) := by
  rcases Bool.eq_false_or_eq_true s.handedOver with hhanded | hhanded
  · obtain ⟨hover, -⟩ := h.handed hhanded
    exact ⟨by simp [hover.released], fun _ => ⟨hover.acquisition, hover.released⟩⟩
  · refine ⟨?_, fun hother => absurd (hhanded.symm.trans hother) Bool.false_ne_true⟩
    rcases (h.waiting hhanded).stage with ⟨-, -, hreleased, -⟩ | ⟨-, hreleasing⟩
    · simp [hreleased]
    · cases hreleasing with
      | waits _ hreleased _ => simp [hreleased]
      | done _ _ hreleased _ =>
          rw [hreleased]
          split
          · exact Nat.le_refl 1
          · exact Nat.zero_le 1

theorem Sound.settled (h : Sound limit body s) (hsettled : Settled s) :
    (s.acquisition = .opened → s.handedOver = true ∨ s.released = 1) ∧
      (s.present = true → s.point = .ended true) := by
  obtain ⟨returned, hended⟩ := hsettled.ended
  rcases Bool.eq_false_or_eq_true s.handedOver with hhanded | hhanded
  · refine ⟨fun _ => .inl hhanded, fun hpresent => ?_⟩
    have hreturned := (h.handed hhanded).1.present.mp hpresent
    cases returned with
    | true => exact hended
    | false => exact absurd hended hreturned
  · rcases (h.waiting hhanded).stage with ⟨hpoint, -⟩ | ⟨-, hreleasing⟩
    · rw [hended] at hpoint
      cases hpoint
    · cases hreleasing with
      | waits hcallback _ _ =>
          rw [hsettled.callback] at hcallback
          cases hcallback
      | done _ _ hreleased hpresent =>
          refine ⟨fun hopened => .inr (by simp [hreleased, hopened]), fun hthere => ?_⟩
          rw [hpresent] at hthere
          cases hthere

theorem Sound.whole (h : Sound limit body s) (hpoint : s.point = .freeing ∨ s.point = .ended true) :
    s.present = true ∧ s.closed = true ∧ s.disk = body ∧ body.length ≤ limit := by
  have hpast : s.point ≠ .acquiring ∧ s.point ≠ .awaitingRelease ∧ s.point ≠ .ended false := by
    rcases hpoint with hpoint | hpoint
    · simp [hpoint]
    · simp [hpoint]
  obtain ⟨-, hover, hdata⟩ := h.handed_of_point hpast.1 hpast.2.1 hpast.2.2
  have hkept : s.closed = true ∧ s.disk = body ∧ body.length ≤ limit := by
    unfold DataKept at hdata
    rcases hpoint with hpoint | hpoint
    · simp only [hpoint] at hdata
      exact hdata.2.2
    · simp only [hpoint] at hdata
      exact hdata.2.2
  exact ⟨hover.present.mpr hpast.2.2, hkept⟩

theorem handed_once (hs : (handoff limit body).Reachable s) : HandedOnce limit body s := by
  have hsound := sound_of_reachable hs
  refine ⟨hsound.released.1, hsound.released.2, fun hsettled => (hsound.settled hsettled).1,
    fun hsettled => (hsound.settled hsettled).2, fun hended => hsound.whole (.inr hended), ?_⟩
  intro t hasks
  obtain ⟨hpoint, -⟩ := Option.ite_none_right_eq_some.mp hasks
  obtain ⟨hpresent, hclosed, hdisk, -⟩ := hsound.whole (.inl hpoint)
  exact ⟨hpresent, hclosed, hdisk⟩

/-- A take of three bytes in two chunks. -/
def takeInTwoChunks : List HandoffAct :=
  [.acquireEnds true, .resume, .headers, .chunk 2, .threadStarts, .threadEnds true 0, .resume,
    .chunk 2, .threadStarts, .threadEnds true 0, .resume, .streamEnds, .resume, .threadStarts,
    .threadEnds true 0, .resume, .asksFree, .resume]

/-- The same take, cancelled while a thread writes its first chunk. -/
def cancelledWrite : List HandoffAct :=
  [.acquireEnds true, .resume, .headers, .chunk 2, .threadStarts, .cancel, .resume, .threadStarts,
    .orphanEnds 0 true 1, .threadEnds true 0, .resume]

/-- A take cancelled twice before its file is there. -/
def cancelledAcquisition : List HandoffAct := [.cancel, .cancel, .acquireEnds true, .runCallback]

def handedOff (actions : List HandoffAct) : Handoff :=
  lastOf (.start [1, 2, 3]) (follow (act 4) (.start [1, 2, 3]) actions)

theorem handed_once_two_chunks :
    (HandedOnce 4 [1, 2, 3] (handedOff takeInTwoChunks) ∧
      (handedOff takeInTwoChunks).point = .ended true) ∧
    (HandedOnce 4 [1, 2, 3] (handedOff cancelledWrite) ∧
      (handedOff cancelledWrite).point = .ended false ∧
      (handedOff cancelledWrite).present = false) ∧
    (HandedOnce 4 [1, 2, 3] (handedOff cancelledAcquisition) ∧
      (handedOff cancelledAcquisition).released = 1 ∧
      (handedOff cancelledAcquisition).present = false) := by
  have hstart : (handoff 4 [1, 2, 3]).Reachable (.start [1, 2, 3]) := .initial rfl
  refine ⟨⟨handed_once (reachable_follow hstart takeInTwoChunks), by decide⟩,
    ⟨handed_once (reachable_follow hstart cancelledWrite), by decide, by decide⟩,
    ⟨handed_once (reachable_follow hstart cancelledAcquisition), by decide, by decide⟩⟩

end Songmaker.Takes.TakeHandedOver
