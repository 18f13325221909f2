import Mathlib.Logic.Basic

/-!
Programs whose calls may return, raise or be cancelled, with the blocks that
clean up after them, and the rules for what holds however such a program ends.
-/

namespace Songmaker.Foundation

/-- How a call or a block ends. -/
inductive Completion where
  | returned
  | raised
  | cancelled
deriving DecidableEq

/-- A program over states `σ`. A call relates the state before it to the ways
it may end and the states it may leave. -/
inductive CleanupProgram (σ : Type) where
  | call (relation : σ → Completion → σ → Prop)
  | seq (first second : CleanupProgram σ)
  | branch (test : σ → Bool) (onTrue onFalse : CleanupProgram σ)
  | tryFinally (body cleanup : CleanupProgram σ)
  | tryExcept (caught : Completion → Bool) (body handler : CleanupProgram σ)

namespace CleanupProgram

variable {σ : Type}

/-- What a block whose body ended with `first` ends with once its cleanup ended
with `second`. -/
def afterCleanup (first second : Completion) : Completion :=
  if second = .returned then first else second

theorem afterCleanup_eq_returned {first second : Completion} :
    afterCleanup first second = .returned ↔ first = .returned ∧ second = .returned := by
  by_cases hsecond : second = .returned
  · simp [afterCleanup, hsecond]
  · simp [afterCleanup, hsecond]

/-- How a program started in a state may end, and in which state. A handler
raises again what it caught. -/
inductive Ends : CleanupProgram σ → σ → Completion → σ → Prop where
  | call {relation : σ → Completion → σ → Prop} {s t : σ} {c : Completion}
      (hcall : relation s c t) : Ends (.call relation) s c t
  | seq {first second : CleanupProgram σ} {s u t : σ} {c : Completion}
      (hfirst : Ends first s .returned u) (hsecond : Ends second u c t) :
      Ends (.seq first second) s c t
  | seqStops {first second : CleanupProgram σ} {s t : σ} {c : Completion}
      (hfirst : Ends first s c t) (hstops : c ≠ .returned) : Ends (.seq first second) s c t
  | branchTrue {test : σ → Bool} {onTrue onFalse : CleanupProgram σ} {s t : σ} {c : Completion}
      (htest : test s = true) (hends : Ends onTrue s c t) :
      Ends (.branch test onTrue onFalse) s c t
  | branchFalse {test : σ → Bool} {onTrue onFalse : CleanupProgram σ} {s t : σ}
      {c : Completion} (htest : test s = false) (hends : Ends onFalse s c t) :
      Ends (.branch test onTrue onFalse) s c t
  | tryFinally {body cleanup : CleanupProgram σ} {s u t : σ} {c c' : Completion}
      (hbody : Ends body s c u) (hcleanup : Ends cleanup u c' t) :
      Ends (.tryFinally body cleanup) s (afterCleanup c c') t
  | passes {caught : Completion → Bool} {body handler : CleanupProgram σ} {s t : σ}
      {c : Completion} (hbody : Ends body s c t) (hcaught : caught c = false) :
      Ends (.tryExcept caught body handler) s c t
  | catches {caught : Completion → Bool} {body handler : CleanupProgram σ} {s u t : σ}
      {c c' : Completion} (hbody : Ends body s c u) (hcaught : caught c = true)
      (hhandler : Ends handler u c' t) :
      Ends (.tryExcept caught body handler) s (afterCleanup c c') t

/-- Started where `pre` holds, the program ends, if it does, where `post` holds. -/
def Guarantees (pre : σ → Prop) (program : CleanupProgram σ) (post : Completion → σ → Prop) :
    Prop :=
  ∀ s c t, pre s → Ends program s c t → post c t

variable {pre : σ → Prop} {post : Completion → σ → Prop}

theorem guarantees_call {relation : σ → Completion → σ → Prop}
    (hcall : ∀ s c t, pre s → relation s c t → post c t) :
    Guarantees pre (.call relation) post := by
  rintro s c t hpre ⟨hrelation⟩
  exact hcall s c t hpre hrelation

theorem guarantees_seq {first second : CleanupProgram σ} {mid : Completion → σ → Prop}
    (hfirst : Guarantees pre first mid) (hsecond : Guarantees (mid .returned) second post)
    (hstops : ∀ c t, c ≠ .returned → mid c t → post c t) :
    Guarantees pre (.seq first second) post := by
  intro s c t hpre hends
  cases hends with
  | seq hbody hrest => exact hsecond _ _ _ (hfirst _ _ _ hpre hbody) hrest
  | seqStops hbody hne => exact hstops _ _ hne (hfirst _ _ _ hpre hbody)

theorem guarantees_branch {test : σ → Bool} {onTrue onFalse : CleanupProgram σ}
    (htrue : Guarantees (fun s => pre s ∧ test s = true) onTrue post)
    (hfalse : Guarantees (fun s => pre s ∧ test s = false) onFalse post) :
    Guarantees pre (.branch test onTrue onFalse) post := by
  intro s c t hpre hends
  cases hends with
  | branchTrue htest hbody => exact htrue _ _ _ ⟨hpre, htest⟩ hbody
  | branchFalse htest hbody => exact hfalse _ _ _ ⟨hpre, htest⟩ hbody

theorem guarantees_tryFinally {body cleanup : CleanupProgram σ} {mid : σ → Prop}
    {post : σ → Prop} (hbody : Guarantees pre body fun _ => mid)
    (hcleanup : Guarantees mid cleanup fun _ => post) :
    Guarantees pre (.tryFinally body cleanup) fun _ => post := by
  intro s c t hpre hends
  cases hends with
  | tryFinally hfirst hsecond => exact hcleanup _ _ _ (hbody _ _ _ hpre hfirst) hsecond

/-- A handler that catches every failure runs whenever the body has not returned. -/
theorem guarantees_tryExcept {caught : Completion → Bool} {body handler : CleanupProgram σ}
    {mid : Completion → σ → Prop} (hbody : Guarantees pre body mid)
    (hpasses : ∀ c t, caught c = false → mid c t → post c t)
    (hhandler : ∀ c, caught c = true →
      Guarantees (mid c) handler fun c' t => post (afterCleanup c c') t) :
    Guarantees pre (.tryExcept caught body handler) post := by
  intro s c t hpre hends
  cases hends with
  | passes hfirst hcaught => exact hpasses _ _ hcaught (hbody _ _ _ hpre hfirst)
  | catches hfirst hcaught hsecond =>
      exact hhandler _ hcaught _ _ _ (hbody _ _ _ hpre hfirst) hsecond

/-- `try` whose handler is the end of a failure. It catches every failure, or
those of some kinds only. -/
def recover (catchesAll : Bool) (body handler : CleanupProgram σ) : CleanupProgram σ :=
  .call fun s c t =>
    (Ends body s c t ∧ (catchesAll = true → c ≠ .raised)) ∨
      ∃ u, Ends body s .raised u ∧ Ends handler u c t

theorem guarantees_recover {catchesAll : Bool} {body handler : CleanupProgram σ}
    {mid : Completion → σ → Prop} (hbody : Guarantees pre body mid)
    (hpasses : ∀ c t, mid c t → (catchesAll = true → c ≠ .raised) → post c t)
    (hhandler : Guarantees (mid .raised) handler post) :
    Guarantees pre (recover catchesAll body handler) post := by
  apply guarantees_call
  rintro s c t hpre (⟨hends, hpass⟩ | ⟨u, hraised, hhandled⟩)
  · exact hpasses c t (hbody s c t hpre hends) hpass
  · exact hhandler u c t (hbody s .raised u hpre hraised) hhandled

theorem guarantees_skip (hskip : ∀ s, pre s → post .returned s) :
    Guarantees pre (.call fun s c t => c = .returned ∧ t = s) post := by
  apply guarantees_call
  rintro s c t hpre ⟨rfl, rfl⟩
  exact hskip _ hpre

theorem Guarantees.mono {program : CleanupProgram σ} {post' : Completion → σ → Prop}
    (h : Guarantees pre program post) (hpost : ∀ c t, post c t → post' c t) :
    Guarantees pre program post' :=
  fun s c t hpre hends => hpost c t (h s c t hpre hends)

end CleanupProgram

end Songmaker.Foundation
