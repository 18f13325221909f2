import Songmaker.Scoring.ScorerProcess

namespace Songmaker.Scoring.ResponsePairing

open Songmaker.Foundation
open Songmaker.Scoring.ScorerProcess
open Songmaker.Scoring.ScorePipeline (AnyExecution ScorerName ScorerOutcome ScorerRun aggregate
  byScorer scorerOf)

section KeptRuns

variable {runs : List ScorerRun} {scorer : ScorerName}

theorem keptRun_concat (runs : List ScorerRun) (run : ScorerRun) (scorer : ScorerName) :
    keptRun (runs ++ [run]) scorer =
      if run.scorer = scorer then some run else keptRun runs scorer := by
  rw [keptRun, List.reverse_append, List.reverse_singleton, List.singleton_append, List.find?_cons]
  by_cases hscorer : run.scorer = scorer
  · simp [hscorer]
  · simp [hscorer, keptRun]

theorem keptRun_eq_some {run : ScorerRun} :
    keptRun runs scorer = some run ↔ run.scorer = scorer ∧
      ∃ earlier later, runs = earlier ++ run :: later ∧ ∀ other ∈ later, other.scorer ≠ scorer := by
  rw [keptRun, List.find?_eq_some_iff_append, decide_eq_true_eq]
  refine and_congr_right fun _ => ⟨?_, ?_⟩
  · rintro ⟨later, earlier, hruns, hlater⟩
    refine ⟨earlier.reverse, later.reverse, ?_, fun other hother => ?_⟩
    · rw [← List.reverse_reverse runs, hruns]
      simp
    · simpa using hlater other (List.mem_reverse.mp hother)
  · rintro ⟨earlier, later, rfl, hlater⟩
    refine ⟨later.reverse, earlier.reverse, by simp, fun other hother => ?_⟩
    simpa using hlater other (List.mem_reverse.mp hother)

/-- A scorer timed out and was not run again. -/
def TimedOutLast (runs : List ScorerRun) : Prop :=
  ∃ earlier run later, runs = earlier ++ run :: later ∧ run.outcome = .timedOut ∧
    ∀ other ∈ later, other.scorer ≠ run.scorer

theorem anyChildScorerTimedOut_iff :
    anyChildScorerTimedOut runs = true ↔ TimedOutLast runs := by
  rw [anyChildScorerTimedOut, List.any_eq_true]
  constructor
  · rintro ⟨asked, -, hkept⟩
    obtain ⟨run, hrun, htimedOut⟩ := (Option.any_eq_true _ _).mp hkept
    obtain ⟨hscorer, earlier, later, hruns, hlater⟩ := keptRun_eq_some.mp hrun
    exact ⟨earlier, run, later, hruns, of_decide_eq_true htimedOut,
      fun other hother => hscorer ▸ hlater other hother⟩
  · rintro ⟨earlier, run, later, hruns, htimedOut, hlater⟩
    have hkept : keptRun runs run.scorer = some run :=
      keptRun_eq_some.mpr ⟨rfl, earlier, later, hruns, hlater⟩
    refine ⟨run, by simp [hruns], ?_⟩
    rw [hkept, Option.any_some]
    exact decide_eq_true htimedOut

theorem timedOutLast_of_nodup (hnodup : (runs.map ScorerRun.scorer).Nodup) {run : ScorerRun}
    (hrun : run ∈ runs) (htimedOut : run.outcome = .timedOut) : TimedOutLast runs := by
  obtain ⟨earlier, later, rfl⟩ := List.append_of_mem hrun
  refine ⟨earlier, run, later, rfl, htimedOut, fun other hother hsame => ?_⟩
  rw [List.map_append, List.map_cons] at hnodup
  have hfirst := (List.nodup_cons.mp (List.nodup_append.mp hnodup).2.1).1
  exact hfirst (hsame ▸ List.mem_map_of_mem hother)

theorem byScorer_run (executions : List AnyExecution) (scorer : ScorerName) :
    (byScorer executions scorer).map ScorePipeline.ScorerExecution.run =
      keptRun (executions.map fun execution => execution.2.run) scorer := by
  induction executions using List.reverseRecOn with
  | nil => rfl
  | append_singleton executions execution ih =>
      obtain ⟨name, execution⟩ := execution
      have hname : execution.run.scorer = name := by cases execution <;> rfl
      rw [byScorer, List.foldl_concat, ← byScorer, List.map_append, List.map_singleton,
        keptRun_concat, hname, ScorePipeline.ByScorer.record]
      by_cases hscorer : name = scorer
      · subst hscorer
        rw [if_pos rfl, Function.update_self, Option.map_some]
      · rw [if_neg hscorer, Function.update_of_ne (Ne.symm hscorer), ih]

theorem anyChildScorerTimedOut_aggregate {executions : List AnyExecution} {order : List String}
    (hasked : ∀ execution ∈ executions, ∃ text ∈ order, scorerOf text = some execution.1) :
    ((aggregate executions order).runs.any fun run => run.outcome = .timedOut) =
      anyChildScorerTimedOut (executions.map fun execution => execution.2.run) := by
  rw [Bool.eq_iff_iff, List.any_eq_true, anyChildScorerTimedOut, List.any_eq_true]
  constructor
  · rintro ⟨run, hrun, htimedOut⟩
    obtain ⟨text, -, htext⟩ := List.mem_filterMap.mp hrun
    obtain ⟨name, -, hname⟩ := Option.bind_eq_some_iff.mp htext
    rw [byScorer_run] at hname
    obtain ⟨hscorer, earlier, later, hruns, -⟩ := keptRun_eq_some.mp hname
    refine ⟨run, by simp [hruns], ?_⟩
    rw [hscorer, hname]
    exact htimedOut
  · rintro ⟨asked, hmem, hkept⟩
    obtain ⟨execution, hexecution, rfl⟩ := List.mem_map.mp hmem
    obtain ⟨run, hrun, htimedOut⟩ := (Option.any_eq_true _ _).mp hkept
    obtain ⟨text, htext, hname⟩ := hasked execution hexecution
    refine ⟨run, List.mem_filterMap.mpr ⟨text, htext, ?_⟩, htimedOut⟩
    have hscorer : execution.2.run.scorer = execution.1 := by cases execution.2 <;> rfl
    rw [hname, Option.bind_some, byScorer_run, ← hscorer, hrun]

end KeptRuns

/-- Every returned score was computed for the call's own request, and no request
went to a child that was over budget. -/
structure Paired (state : State) : Prop where
  returned : ∀ entry ∈ state.returned, entry.2.request = entry.1
  handed : ∀ overBudget ∈ state.handed, overBudget = false

instance (state : State) : Decidable (Paired state) :=
  decidable_of_iff
    ((∀ entry ∈ state.returned, entry.2.request = entry.1) ∧
      ∀ overBudget ∈ state.handed, overBudget = false)
    ⟨fun h => ⟨h.1, h.2⟩, fun h => ⟨h.1, h.2⟩⟩

/-- A scorer of the work ran over its budget. -/
def Overran (work : Work) : Prop :=
  work.overran ≠ [] ∨ ∃ run ∈ work.runs, run.outcome = .timedOut

instance (work : Work) : Decidable (Overran work) :=
  inferInstanceAs (Decidable (_ ∨ _))

instance (runs : List ScorerRun) : Decidable (TimedOutLast runs) :=
  decidable_of_iff _ anyChildScorerTimedOut_iff

/-- Whether a step leaves the pipe in order: a callback that raises has its call
retried, a child that answers with an error has no scorer over budget, and one that
answers with scores after a scorer was over budget has one that was so in its last run. -/
def InOrder (state : State) : Action → Prop
  | .callbackRaises connection =>
      connection = true ∧ ∀ call ∈ state.call, call.retried = false
  | .childAnswers (some _) =>
      ∀ child ∈ state.child, ∀ work ∈ child.working, ¬Overran work
  | .childAnswers none =>
      ∀ child ∈ state.child, ∀ work ∈ child.working, Overran work → TimedOutLast work.runs
  | _ => True

instance (state : State) : DecidablePred (InOrder state)
  | .callbackRaises connection =>
      inferInstanceAs (Decidable (connection = true ∧ ∀ call ∈ state.call, call.retried = false))
  | .childAnswers (some _) =>
      inferInstanceAs (Decidable (∀ child ∈ state.child, ∀ work ∈ child.working, ¬Overran work))
  | .childAnswers none =>
      inferInstanceAs (Decidable (∀ child ∈ state.child, ∀ work ∈ child.working,
        Overran work → TimedOutLast work.runs))
  | .score | .ensureStarted _ | .send | .receive | .endOfFile | .tornMessage | .pipelineTimeout
  | .recycle | .childReads | .childOverruns _ | .childReports .. | .childCrashes => .isTrue trivial

/-- Nothing of an earlier request is left in the child or in its pipe. -/
structure Quiet (child : Child) : Prop where
  inbox : child.inbox = []
  working : child.working = none
  outbox : child.outbox = []

/-- All messages are progress of the request. -/
def Reports (request : CallId) (messages : List Message) : Prop :=
  ∀ message ∈ messages, message.request = request ∧
    ∃ completed total scorerName, message.body = .progress completed total scorerName

/-- How far a child is with its only request. -/
inductive Serves (request : CallId) (child : Child) : Prop
  | unread (hinbox : child.inbox = [request]) (hworking : child.working = none)
      (houtbox : child.outbox = []) (hbudget : child.overBudget = false)
  | working (work : Work) (hinbox : child.inbox = []) (hworking : child.working = some work)
      (hrequest : work.request = request) (hbudget : child.overBudget = true → Overran work)
      (houtbox : Reports request child.outbox)
  | scored (messages : List Message) (timedOut : Bool) (hinbox : child.inbox = [])
      (hworking : child.working = none)
      (houtbox : child.outbox = messages ++ [⟨request, .scores ⟨request, timedOut⟩⟩])
      (hreports : Reports request messages) (hbudget : child.overBudget = true → timedOut = true)
  | failed (messages : List Message) (error : String) (hinbox : child.inbox = [])
      (hworking : child.working = none)
      (houtbox : child.outbox = messages ++ [⟨request, .error error⟩])
      (hreports : Reports request messages) (hbudget : child.overBudget = false)

/-- A child that is alive is quiet, and known to be over budget if it is. -/
def Free (state : State) : Prop :=
  ∀ child ∈ state.child, child.alive = true →
    Quiet child ∧ (child.overBudget = true → state.tainted = true)

/-- What holds of the child at each stage of a call. -/
def StageKept (state : State) : Option Call → Prop
  | none | some ⟨_, _, .starting⟩ => Free state
  | some ⟨_, _, .sending⟩ =>
      ∀ child ∈ state.child, child.alive = true → Quiet child ∧ child.overBudget = false
  | some ⟨id, _, .polling⟩ => ∀ child ∈ state.child, Serves id child

/-- The answers given so far are paired, and what is in the pipe belongs to the call under way. -/
structure Invariant (state : State) : Prop where
  paired : Paired state
  stage : StageKept state state.call

section Child

variable {child next : Child} {request : CallId}

theorem reports_append {messages : List Message} (hreports : Reports request messages)
    (completed total : Nat) (scorerName : String) :
    Reports request (messages ++ [⟨request, .progress completed total scorerName⟩]) := by
  intro message hmessage
  rcases List.mem_append.mp hmessage with hold | hnew
  · exact hreports message hold
  · obtain rfl := List.mem_singleton.mp hnew
    exact ⟨rfl, completed, total, scorerName, rfl⟩

theorem reports_cons {message : Message} {messages : List Message}
    (hreports : Reports request (message :: messages)) :
    (∃ completed total scorerName, message.body = .progress completed total scorerName) ∧
      Reports request messages :=
  ⟨(hreports message List.mem_cons_self).2,
    fun other hother => hreports other (List.mem_cons_of_mem _ hother)⟩

theorem Quiet.childStep (hquiet : Quiet child) {action : Action}
    (hstep : childStep child action = some next) : next.alive = false := by
  unfold ScorerProcess.childStep at hstep
  rw [hquiet.inbox, hquiet.working] at hstep
  split at hstep
  · cases hstep
  · cases hstep
  · cases hstep
  · cases hstep
  · obtain rfl := Option.some.inj hstep
    rfl
  · cases hstep

theorem Serves.of_working (hserves : Serves request child) {work : Work}
    (hwork : child.working = some work) :
    child.inbox = [] ∧ work.request = request ∧ (child.overBudget = true → Overran work) ∧
      Reports request child.outbox := by
  rcases hserves with ⟨-, hnone, -, -⟩ | ⟨other, hinbox, hworking, hrequest, hbudget, houtbox⟩ |
    ⟨_, _, -, hnone, -, -, -⟩ | ⟨_, _, -, hnone, -, -, -⟩
  · rw [hnone] at hwork
    cases hwork
  · rw [hworking] at hwork
    obtain rfl := Option.some.inj hwork
    exact ⟨hinbox, hrequest, hbudget, houtbox⟩
  · rw [hnone] at hwork
    cases hwork
  · rw [hnone] at hwork
    cases hwork

theorem Serves.of_inbox (hserves : Serves request child) {read : CallId} {rest : List CallId}
    (hinbox : child.inbox = read :: rest) :
    read = request ∧ rest = [] ∧ child.outbox = [] ∧ child.overBudget = false := by
  rcases hserves with ⟨hone, -, houtbox, hbudget⟩ | ⟨_, hnone, -, -, -, -⟩ |
    ⟨_, _, hnone, -, -, -, -⟩ | ⟨_, _, hnone, -, -, -, -⟩
  · rw [hone] at hinbox
    obtain ⟨rfl, rfl⟩ := List.cons.inj hinbox
    exact ⟨rfl, rfl, houtbox, hbudget⟩
  · rw [hnone] at hinbox
    cases hinbox
  · rw [hnone] at hinbox
    cases hinbox
  · rw [hnone] at hinbox
    cases hinbox

theorem Serves.crash (hserves : Serves request child) :
    Serves request { child with alive := false } := by
  rcases hserves with ⟨hinbox, hworking, houtbox, hbudget⟩ |
    ⟨work, hinbox, hworking, hrequest, hbudget, houtbox⟩ |
    ⟨messages, timedOut, hinbox, hworking, houtbox, hreports, hbudget⟩ |
    ⟨messages, error, hinbox, hworking, houtbox, hreports, hbudget⟩
  · exact .unread hinbox hworking houtbox hbudget
  · exact .working work hinbox hworking hrequest hbudget houtbox
  · exact .scored messages timedOut hinbox hworking houtbox hreports hbudget
  · exact .failed messages error hinbox hworking houtbox hreports hbudget

theorem overran_collect {work collected : Work} {run : ScorerRun}
    (hcollect : work.collect run = some collected) :
    collected.request = work.request ∧ (Overran work → Overran collected) := by
  have hruns : ∀ overran, (∃ other ∈ work.runs, other.outcome = .timedOut) →
      Overran ⟨work.request, overran, work.runs ++ [run]⟩ := by
    rintro overran ⟨other, hother, htimedOut⟩
    exact .inr ⟨other, List.mem_append_left _ hother, htimedOut⟩
  have hended : ∀ after, (⟨work.request, work.overran, work.runs ++ [run]⟩ : Work) = after →
      after.request = work.request ∧ (Overran work → Overran after) := by
    rintro _ rfl
    exact ⟨rfl, fun hover => hover.elim .inl (hruns work.overran)⟩
  unfold Work.collect at hcollect
  split at hcollect
  · exact hended _ (Option.some.inj hcollect)
  · exact hended _ (Option.some.inj hcollect)
  · rename_i htimedOut
    split_ifs at hcollect
    obtain rfl := Option.some.inj hcollect
    exact ⟨rfl, fun _ => .inr ⟨run, List.mem_append_right _ List.mem_cons_self, htimedOut⟩⟩
  · cases hcollect

/-- The child's answer, where it is in order, tells that a scorer was over budget. -/
theorem Serves.answer (hserves : Serves request child) {work : Work}
    (hwork : child.working = some work) {error : Option String}
    (hscores : error = none → Overran work → TimedOutLast work.runs)
    (herror : error ≠ none → ¬Overran work) {message : Message}
    (hanswer : answer work error = some message) :
    Serves request { child with working := none, outbox := child.outbox ++ [message] } := by
  obtain ⟨hinbox, rfl, hbudget, hreports⟩ := hserves.of_working hwork
  cases error with
  | some error =>
      obtain rfl := Option.some.inj hanswer
      refine .failed child.outbox error hinbox rfl rfl hreports (Bool.eq_false_iff.mpr ?_)
      exact fun hover => herror (Option.some_ne_none error) (hbudget hover)
  | none =>
      rw [ScorerProcess.answer, Option.ite_none_right_eq_some] at hanswer
      obtain ⟨-, hmessage⟩ := hanswer
      obtain rfl := Option.some.inj hmessage
      exact .scored child.outbox _ hinbox rfl rfl hreports fun hover =>
        anyChildScorerTimedOut_iff.mpr (hscores rfl (hbudget hover))

theorem Serves.childStep (hserves : Serves request child) {action : Action}
    (hscores : action = .childAnswers none → ∀ work ∈ child.working,
      Overran work → TimedOutLast work.runs)
    (herror : ∀ error, action = .childAnswers (some error) → ∀ work ∈ child.working,
      ¬Overran work)
    (hstep : childStep child action = some next) : Serves request next := by
  unfold ScorerProcess.childStep at hstep
  split at hstep
  · split at hstep
    · rename_i read rest hworking hinbox
      obtain rfl := Option.some.inj hstep
      obtain ⟨rfl, rfl, houtbox, hbudget⟩ := hserves.of_inbox hinbox
      refine .working _ rfl rfl rfl ?_ ?_
      · show child.overBudget = true → _
        rw [hbudget]
        exact fun hover => absurd hover Bool.false_ne_true
      · show Reports read child.outbox
        rw [houtbox]
        exact fun message hmessage => absurd hmessage (by simp)
    · cases hstep
  · rename_i scorer
    obtain ⟨work, hwork, hnext⟩ := Option.bind_eq_some_iff.mp hstep
    obtain rfl := Option.some.inj hnext
    obtain ⟨hinbox, hrequest, -, hreports⟩ := hserves.of_working hwork
    exact .working _ hinbox rfl hrequest (fun _ => .inl (by simp)) hreports
  · obtain ⟨work, hwork, hnext⟩ := Option.bind_eq_some_iff.mp hstep
    obtain ⟨collected, hcollect, hnext⟩ := Option.bind_eq_some_iff.mp hnext
    obtain rfl := Option.some.inj hnext
    obtain ⟨hinbox, rfl, hbudget, hreports⟩ := hserves.of_working hwork
    obtain ⟨hrequest, hover⟩ := overran_collect hcollect
    exact .working collected hinbox rfl hrequest (fun h => hover (hbudget h))
      (reports_append hreports _ _ _)
  · rename_i error
    obtain ⟨work, hwork, hnext⟩ := Option.bind_eq_some_iff.mp hstep
    obtain ⟨message, hanswer, hnext⟩ := Option.bind_eq_some_iff.mp hnext
    obtain rfl := Option.some.inj hnext
    refine hserves.answer hwork (fun hnone => hscores (by rw [hnone]) work hwork) ?_ hanswer
    intro hsome
    obtain ⟨text, rfl⟩ := Option.ne_none_iff_exists'.mp hsome
    exact herror text rfl work hwork
  · obtain rfl := Option.some.inj hstep
    exact hserves.crash
  · cases hstep

theorem Serves.nextMessage (hserves : Serves request child) {message : Message}
    {rest : List Message}
    (houtbox : child.outbox = message :: rest) :
    (∃ completed total scorerName, message.body = .progress completed total scorerName) ∧
        Serves request { child with outbox := rest } ∨
      (∃ timedOut, message.body = .scores ⟨request, timedOut⟩ ∧
        (child.overBudget = true → timedOut = true)) ∧ Quiet { child with outbox := rest } ∨
      (∃ error, message.body = .error error) ∧ Quiet { child with outbox := rest } ∧
        child.overBudget = false := by
  rcases hserves with ⟨-, -, hnone, -⟩ | ⟨work, hinbox, hworking, hrequest, hbudget, hreports⟩ |
    ⟨messages, timedOut, hinbox, hworking, hall, hreports, hbudget⟩ |
    ⟨messages, error, hinbox, hworking, hall, hreports, hbudget⟩
  · rw [hnone] at houtbox
    cases houtbox
  · rw [houtbox] at hreports
    obtain ⟨hprogress, hrest⟩ := reports_cons hreports
    exact .inl ⟨hprogress, .working work hinbox hworking hrequest hbudget hrest⟩
  · rw [hall] at houtbox
    rcases messages with _ | ⟨first, messages⟩
    · obtain ⟨rfl, rfl⟩ := List.cons.inj houtbox
      exact .inr (.inl ⟨⟨timedOut, rfl, hbudget⟩, ⟨hinbox, hworking, rfl⟩⟩)
    · obtain ⟨rfl, rfl⟩ := List.cons.inj houtbox
      obtain ⟨hprogress, hrest⟩ := reports_cons hreports
      exact .inl ⟨hprogress, .scored messages timedOut hinbox hworking rfl hrest hbudget⟩
  · rw [hall] at houtbox
    rcases messages with _ | ⟨first, messages⟩
    · obtain ⟨rfl, rfl⟩ := List.cons.inj houtbox
      exact .inr (.inr ⟨⟨error, rfl⟩, ⟨hinbox, hworking, rfl⟩, hbudget⟩)
    · obtain ⟨rfl, rfl⟩ := List.cons.inj houtbox
      obtain ⟨hprogress, hrest⟩ := reports_cons hreports
      exact .inl ⟨hprogress, .failed messages error hinbox hworking rfl hrest hbudget⟩

end Child

section Calls

variable {state next : State} {call : Call}

theorem free_of_no_child (hchild : state.child = none) : Free state := by
  intro child hmem
  rw [hchild] at hmem
  cases hmem

theorem free_of_dead {child : Child} (hchild : state.child = some child)
    (hdead : child.alive = false) : Free state := by
  intro other hmem halive
  rw [hchild] at hmem
  obtain rfl := Option.some.inj hmem
  rw [hdead] at halive
  cases halive

theorem retry_invariant (hpaired : Paired state) (hfree : call.retried = true → Free state) :
    Invariant (state.retry call) := by
  unfold State.retry
  split
  · rename_i hretried
    exact ⟨⟨hpaired.returned, hpaired.handed⟩, hfree hretried⟩
  · exact ⟨⟨hpaired.returned, hpaired.handed⟩, free_of_no_child rfl⟩

theorem ensureStarted_invariant (hpaired : Paired state) (hfree : Free state) (started : Bool) :
    Invariant (state.ensureStarted call started) := by
  unfold State.ensureStarted
  split
  · rename_i hfit
    obtain ⟨-, htainted⟩ := Bool.and_eq_true_iff.mp hfit
    refine ⟨⟨hpaired.returned, hpaired.handed⟩, ?_⟩
    intro child hmem halive
    obtain ⟨hquiet, hbudget⟩ := hfree child hmem halive
    refine ⟨hquiet, ?_⟩
    by_contra hover
    rw [hbudget (by simpa using hover)] at htainted
    cases htainted
  · split
    · refine ⟨⟨hpaired.returned, hpaired.handed⟩, ?_⟩
      intro child hmem _
      obtain rfl := Option.some.inj hmem
      exact ⟨⟨rfl, rfl, rfl⟩, rfl⟩
    · exact ⟨⟨hpaired.returned, hpaired.handed⟩, free_of_no_child rfl⟩

theorem send_invariant (hpaired : Paired state) {child : Child} (hchild : state.child = some child)
    (hclean : child.alive = true → Quiet child ∧ child.overBudget = false) :
    Invariant (state.send call child) := by
  unfold State.send
  split
  · rename_i halive
    obtain ⟨hquiet, hbudget⟩ := hclean halive
    constructor
    · refine ⟨hpaired.returned, ?_⟩
      intro overBudget hmem
      rcases List.mem_append.mp hmem with hold | hnew
      · exact hpaired.handed overBudget hold
      · rw [List.mem_singleton.mp hnew, hbudget]
    · intro sent hsent
      obtain rfl := Option.some.inj hsent
      refine .unread ?_ hquiet.working hquiet.outbox hbudget
      show child.inbox ++ [call.id] = [call.id]
      rw [hquiet.inbox, List.nil_append]
  · rename_i hdead
    exact retry_invariant hpaired fun _ => free_of_dead hchild (by simpa using hdead)

theorem receive_invariant (hpaired : Paired state) (hcall : state.call = some call)
    (hstage : call.stage = .polling) {child : Child} (hserves : Serves call.id child)
    {message : Message} {rest : List Message} (houtbox : child.outbox = message :: rest) :
    Invariant (state.receive call child message rest) := by
  obtain ⟨id, retried, stage⟩ := call
  obtain rfl : stage = .polling := hstage
  unfold State.receive
  rcases hserves.nextMessage houtbox with ⟨⟨completed, total, name, hbody⟩, hrest⟩ |
    ⟨⟨timedOut, hbody, hbudget⟩, hquiet⟩ | ⟨⟨error, hbody⟩, hquiet, hbudget⟩
  · rw [hbody]
    refine ⟨⟨hpaired.returned, hpaired.handed⟩, ?_⟩
    show StageKept _ state.call
    rw [hcall]
    intro other hother
    obtain rfl := Option.some.inj hother
    exact hrest
  · rw [hbody]
    constructor
    · refine ⟨?_, hpaired.handed⟩
      intro entry hentry
      rcases List.mem_append.mp hentry with hold | hnew
      · exact hpaired.returned entry hold
      · rw [List.mem_singleton.mp hnew]
    · intro other hother _
      obtain rfl := Option.some.inj hother
      exact ⟨hquiet, hbudget⟩
  · rw [hbody]
    refine ⟨⟨hpaired.returned, hpaired.handed⟩, ?_⟩
    intro other hother _
    obtain rfl := Option.some.inj hother
    refine ⟨hquiet, fun hover => ?_⟩
    rw [show child.overBudget = true from hover] at hbudget
    cases hbudget

theorem callStep_invariant (hI : Invariant state) (hcall : state.call = some call)
    {action : Action} (horder : InOrder state action)
    (hstep : callStep state call action = some next) : Invariant next := by
  obtain ⟨id, retried, stage⟩ := call
  have hstage : StageKept state (some ⟨id, retried, stage⟩) := hcall ▸ hI.stage
  unfold callStep at hstep
  split at hstep
  · rename_i started
    split_ifs at hstep with hstarting
    obtain rfl : stage = .starting := hstarting
    obtain rfl := Option.some.inj hstep
    exact ensureStarted_invariant hI.paired hstage started
  · split at hstep
    · rename_i child hsending hchild
      obtain rfl : stage = .sending := hsending
      obtain rfl := Option.some.inj hstep
      exact send_invariant hI.paired hchild (hstage child hchild)
    · cases hstep
  · split at hstep
    · rename_i child hpolling hchild
      obtain rfl : stage = .polling := hpolling
      split at hstep
      · rename_i message rest houtbox
        obtain rfl := Option.some.inj hstep
        exact receive_invariant hI.paired hcall rfl (hstage child hchild) houtbox
      · cases hstep
    · cases hstep
  · -- A callback that raises in order has its call retried on a new child.
    rename_i connection
    obtain ⟨rfl, hfirst⟩ := horder
    obtain rfl : retried = false := hfirst _ hcall
    split at hstep
    · split at hstep
      · simp only [if_true] at hstep
        obtain rfl := Option.some.inj hstep
        refine retry_invariant ⟨hI.paired.returned, hI.paired.handed⟩ fun hretried => ?_
        cases hretried
      · cases hstep
    · cases hstep
  · split at hstep
    · rename_i child _ hchild
      split_ifs at hstep with hgone
      obtain rfl := Option.some.inj hstep
      exact retry_invariant hI.paired fun _ => free_of_dead hchild hgone.2
    · cases hstep
  · split at hstep
    · rename_i child _ hchild
      split_ifs at hstep with hgone
      obtain rfl := Option.some.inj hstep
      exact ⟨⟨hI.paired.returned, hI.paired.handed⟩, free_of_dead hchild hgone.2⟩
    · cases hstep
  · split_ifs at hstep
    obtain rfl := Option.some.inj hstep
    exact ⟨⟨hI.paired.returned, hI.paired.handed⟩, free_of_no_child rfl⟩
  · cases hstep

theorem childStep_invariant (hI : Invariant state) {child after : Child} {action : Action}
    (horder : InOrder state action) (hchild : state.child = some child)
    (halive : child.alive = true) (hstep : childStep child action = some after) :
    Invariant { state with child := some after } := by
  have hscores : action = .childAnswers none → ∀ work ∈ child.working,
      Overran work → TimedOutLast work.runs := by
    rintro rfl
    exact horder child hchild
  have herror : ∀ error, action = .childAnswers (some error) → ∀ work ∈ child.working,
      ¬Overran work := by
    rintro error rfl
    exact horder child hchild
  refine ⟨⟨hI.paired.returned, hI.paired.handed⟩, ?_⟩
  have hstage := hI.stage
  show StageKept _ state.call
  rcases hcall : state.call with _ | ⟨id, retried, stage⟩
  · rw [hcall] at hstage
    exact free_of_dead rfl ((hstage child hchild halive).1.childStep hstep)
  · rw [hcall] at hstage
    rcases stage with _ | _ | _
    · exact free_of_dead rfl ((hstage child hchild halive).1.childStep hstep)
    · intro other hother hother_alive
      obtain rfl := Option.some.inj hother
      rw [(hstage child hchild halive).1.childStep hstep] at hother_alive
      cases hother_alive
    · intro other hother
      obtain rfl := Option.some.inj hother
      exact (hstage child hchild).childStep hscores herror hstep

theorem Invariant.step (hI : Invariant state) {action : Action} (horder : InOrder state action)
    (hstep : act state action = some next) : Invariant next := by
  unfold act at hstep
  split at hstep
  · split_ifs at hstep with hidle
    obtain rfl := Option.some.inj hstep
    refine ⟨⟨hI.paired.returned, hI.paired.handed⟩, ?_⟩
    have hfree : StageKept state none := hidle ▸ hI.stage
    exact hfree
  · split_ifs at hstep with hidle
    obtain rfl := Option.some.inj hstep
    refine ⟨⟨hI.paired.returned, hI.paired.handed⟩, ?_⟩
    show StageKept _ state.call
    rw [hidle]
    exact free_of_no_child rfl
  pick_goal 6
  · split at hstep
    · rename_i call hcall
      exact callStep_invariant hI hcall horder hstep
    · cases hstep
  all_goals
    split at hstep
    · rename_i child hchild
      split_ifs at hstep with halive
      obtain ⟨after, hafter, rfl⟩ := Option.map_eq_some_iff.mp hstep
      exact childStep_invariant hI horder hchild halive hafter
    · cases hstep

end Calls

theorem unstarted_invariant : Invariant unstarted :=
  ⟨⟨fun _ hmem => absurd hmem List.not_mem_nil, fun _ hmem => absurd hmem List.not_mem_nil⟩,
    free_of_no_child rfl⟩

/-- While each callback that raises has its call retried, no child answers with an error
over its budget and none hides in its scores that it is, scores and requests are paired in
every run. -/
theorem scores_paired {run : List (Action × State)} (hrun : scorerSystem.IsRun unstarted run)
    (horder : TransitionSystem.StepsMeet InOrder unstarted run) :
    ∀ state ∈ TransitionSystem.visited unstarted run, Paired state := by
  have hinvariant : (scorerSystem.restrict InOrder).Invariant Invariant := by
    constructor
    · rintro state rfl
      exact unstarted_invariant
    · rintro state action next hI ⟨hmeets, hstep⟩
      exact hI.step hmeets hstep
  intro state hstate
  have hreach := TransitionSystem.reachable_of_mem_visited (M := scorerSystem.restrict InOrder)
    (.initial rfl) (TransitionSystem.isRun_restrict hrun horder) hstate
  exact (hinvariant.of_reachable hreach).paired

section Runs

/-- A call that asks for one scorer twice, which times out the second time, and one after
it. -/
def twoCalls : List Action :=
  [.score, .ensureStarted true, .send, .childReads, .childReports ⟨.audiobox, .ok, ""⟩ 2,
    .childOverruns .audiobox, .childReports ⟨.audiobox, .timedOut, "60s"⟩ 2, .childAnswers none,
    .receive, .receive, .receive, .score, .ensureStarted true, .send, .childReads,
    .childReports ⟨.silence, .ok, ""⟩ 1, .childAnswers none, .receive, .receive]

theorem scores_paired_twoCalls :
    (TransitionSystem.lastOf unstarted (TransitionSystem.follow act unstarted twoCalls)).returned =
        [(0, ⟨0, true⟩), (1, ⟨1, false⟩)] ∧
      Paired (TransitionSystem.lastOf unstarted
        (TransitionSystem.follow act unstarted twoCalls)) := by
  refine ⟨by decide +kernel, ?_⟩
  exact scores_paired (TransitionSystem.isRun_follow (· = unstarted) act _ _)
    (by decide +kernel) _ (TransitionSystem.lastOf_mem_visited _ _)

/-- The callback of the first call raises, and the second call reads its answer. -/
def raisingCallback : List Action :=
  [.score, .ensureStarted true, .send, .childReads, .childReports ⟨.silence, .ok, ""⟩ 2,
    .callbackRaises false, .childAnswers none, .score, .ensureStarted true, .send, .receive]

theorem raising_callback_mispairs :
    ¬ ∀ run, scorerSystem.IsRun unstarted run →
      ∀ state ∈ TransitionSystem.visited unstarted run, Paired state := by
  intro hall
  have hpaired := hall _ (TransitionSystem.isRun_follow
    (· = unstarted) act unstarted raisingCallback)
    _ (TransitionSystem.lastOf_mem_visited _ _)
  exact absurd (hpaired.returned (1, ⟨0, false⟩) (by decide +kernel)) (by decide)

/-- One scorer is asked for twice and is over budget the first time only. -/
def hiddenTimeout : List Action :=
  [.score, .ensureStarted true, .send, .childReads, .childOverruns .audiobox,
    .childReports ⟨.audiobox, .timedOut, "60s"⟩ 2, .childReports ⟨.audiobox, .ok, ""⟩ 2,
    .childAnswers none, .receive, .receive, .receive, .score, .ensureStarted true, .send]

theorem hidden_timeout_reuses_child :
    ¬ ∀ run, scorerSystem.IsRun unstarted run →
      ∀ state ∈ TransitionSystem.visited unstarted run,
        ∀ overBudget ∈ state.handed, overBudget = false := by
  intro hall
  have hhanded := hall _ (TransitionSystem.isRun_follow (· = unstarted) act unstarted hiddenTimeout)
    _ (TransitionSystem.lastOf_mem_visited _ _)
  exact absurd (hhanded true (by decide +kernel)) (by decide)

end Runs

end Songmaker.Scoring.ResponsePairing
