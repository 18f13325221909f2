import Mathlib.Data.Fintype.Defs
import Songmaker.Worker.GenerationVoice

namespace Songmaker.Worker.GenerationVoice

open Songmaker.Foundation
open Songmaker.Foundation.TransitionSystem

/-- Its own load has taken effect, if it has one. -/
def Task.hasLoaded (task : Task) : Bool :=
  match task.phase with
  | .loading => task.served
  | .submitting _ | .retrying _ | .polling => true
  | _ => false

/-- The task has not sent its submission yet. -/
def Task.unsubmitted (task : Task) : Bool :=
  match task.phase with
  | .admitted | .loading => true
  | _ => false

/-- What a step of a client of its own does to its task. -/
structure ClientStep (task next : Task) : Prop where
  loraPath : next.loraPath = task.loraPath
  changes : next.changes = task.changes
  accepted : next.accepted = task.accepted
  hasLoaded : next.hasLoaded = true → task.loraPath = "" ∨ task.hasLoaded = true
  beforePollEnd : next.beforePollEnd = true →
    task.beforePollEnd = true ∨ task.unsubmitted = true
  unsubmitted : next.unsubmitted = true → task.unsubmitted = true

namespace ClientStep

variable {task next : Task}

theorem refl (task : Task) : ClientStep task task :=
  ⟨rfl, rfl, rfl, .inr, .inl, id⟩

theorem await_late {phase : Phase} (hloaded : ¬ (task.await phase).hasLoaded = true)
    (hbefore : ¬ (task.await phase).beforePollEnd = true)
    (hunsubmitted : ¬ (task.await phase).unsubmitted = true) :
    ClientStep task (task.await phase) :=
  ⟨rfl, rfl, rfl, fun h => absurd h hloaded, fun h => absurd h hbefore,
    fun h => absurd h hunsubmitted⟩

theorem await_ended (task : Task) : ClientStep task (task.await .ended) :=
  await_late (by simp [Task.await, Task.hasLoaded]) (by simp [Task.await, Task.beforePollEnd])
    (by simp [Task.await, Task.unsubmitted])

theorem await_downloading (task : Task) : ClientStep task (task.await .downloading) :=
  await_late (by simp [Task.await, Task.hasLoaded]) (by simp [Task.await, Task.beforePollEnd])
    (by simp [Task.await, Task.unsubmitted])

theorem cleanUp (task : Task) : ClientStep task task.cleanUp := by
  rw [Task.cleanUp]
  split
  · exact await_ended task
  · exact await_late (by simp [Task.await, Task.hasLoaded])
      (by simp [Task.await, Task.beforePollEnd]) (by simp [Task.await, Task.unsubmitted])

theorem await_early {phase : Phase} (hloaded : task.hasLoaded = true)
    (hbefore : task.beforePollEnd = true ∨ task.unsubmitted = true)
    (hunsubmitted : ¬ (task.await phase).unsubmitted = true) :
    ClientStep task (task.await phase) :=
  ⟨rfl, rfl, rfl, fun _ => .inr hloaded, fun _ => hbefore, fun h => absurd h hunsubmitted⟩

theorem of_start (hstart : task.start = some next) : ClientStep task next := by
  rw [Task.start] at hstart
  split at hstart
  · rename_i hphase
    obtain rfl := Option.some.inj hstart
    have hunsubmitted : task.unsubmitted = true := by simp [Task.unsubmitted, hphase]
    refine ⟨rfl, rfl, rfl, fun hloaded => ?_, fun _ => .inr hunsubmitted, fun _ => hunsubmitted⟩
    by_cases hpath : task.loraPath = ""
    · exact .inl hpath
    · simp [Task.await, Task.hasLoaded, hpath] at hloaded
  · contradiction

theorem of_answer {readable : Bool} (hanswer : task.answer readable = some next) :
    ClientStep task next := by
  rw [Task.answer] at hanswer
  split at hanswer
  · rename_i hserved
    split at hanswer
    · rename_i hphase
      obtain rfl := Option.some.inj hanswer
      exact await_early (by simp [Task.hasLoaded, hphase, hserved])
        (.inr (by simp [Task.unsubmitted, hphase])) (by simp [Task.await, Task.unsubmitted])
    · rename_i attempt hphase
      obtain rfl := Option.some.inj hanswer
      split
      · exact await_early (by simp [Task.hasLoaded, hphase])
          (.inl (by simp [Task.beforePollEnd, hphase])) (by simp [Task.await, Task.unsubmitted])
      · exact cleanUp task
    · obtain rfl := Option.some.inj hanswer
      exact await_ended task
    · contradiction
  · contradiction

theorem of_fail {failure : Failure} (hfail : task.fail failure = some next) :
    ClientStep task next := by
  rw [Task.fail] at hfail
  split at hfail
  · obtain rfl := Option.some.inj hfail
    exact await_ended task
  · rename_i attempt hphase
    split at hfail
    · obtain rfl := Option.some.inj hfail
      exact await_early (by simp [Task.hasLoaded, hphase])
        (.inl (by simp [Task.beforePollEnd, hphase])) (by simp [Task.await, Task.unsubmitted])
    · obtain rfl := Option.some.inj hfail
      exact cleanUp task
  · obtain rfl := Option.some.inj hfail
    exact await_ended task
  · contradiction

theorem of_retry (hretry : task.retry = some next) : ClientStep task next := by
  rw [Task.retry] at hretry
  split at hretry
  · rename_i attempt hphase
    obtain rfl := Option.some.inj hretry
    exact await_early (by simp [Task.hasLoaded, hphase])
      (.inl (by simp [Task.beforePollEnd, hphase])) (by simp [Task.await, Task.unsubmitted])
  · contradiction

theorem of_poll {outcome : PollOutcome} (hpoll : task.poll outcome = some next) :
    ClientStep task next := by
  unfold Task.poll at hpoll
  split at hpoll
  · obtain rfl := Option.some.inj hpoll
    exact refl task
  · obtain rfl := Option.some.inj hpoll
    exact await_downloading task
  · obtain rfl := Option.some.inj hpoll
    exact cleanUp task
  · contradiction

theorem of_download (hdownload : task.download = some next) : ClientStep task next := by
  rw [Task.download] at hdownload
  split at hdownload
  · obtain rfl := Option.some.inj hdownload
    exact cleanUp task
  · contradiction

end ClientStep

variable {Id : Type} {digest : String → String} {s t : State Id}

/-- The server's adapter is the one set last, a task that has loaded its adapter
and was not disturbed finds it active, and every take has its own voice. -/
structure Inv (digest : String → String) (s : State Id) : Prop where
  server : s.active = s.changes.head?.getD none
  loaded : ∀ id task, s.tasks id = some task → task.loraPath ≠ "" → task.hasLoaded = true →
    s.active = task.changes.head?.getD (task.voice digest)
  unsubmitted : ∀ id task, s.tasks id = some task → task.unsubmitted = true →
    task.accepted = false
  ownVoice : OwnVoice digest s

theorem hasLoaded_of_beforePollEnd {task : Task} (hbefore : task.beforePollEnd = true) :
    task.hasLoaded = true := by
  rw [Task.beforePollEnd] at hbefore
  rw [Task.hasLoaded]
  split at hbefore
  · simp only [*]
  · simp only [*]
  · simp only [*]
  · contradiction

theorem rendering_iff {task : Task} :
    task.rendering = true ↔ task.accepted = true ∧ task.beforePollEnd = true := by
  rw [Task.rendering, Bool.and_eq_true]

theorem voice_of_empty {task : Task} (hpath : task.loraPath = "") : task.voice digest = none := by
  rw [Task.voice, namedAdapter, if_pos hpath]

/-- What is active is the last change, and the task's own voice where there is none. -/
theorem Inv.active_eq (hinv : Inv digest s) {id : Id} {task : Task}
    (htask : s.tasks id = some task) (hbefore : task.beforePollEnd = true) :
    s.active = (s.lastChange task).getD (task.voice digest) := by
  rw [State.lastChange]
  by_cases hpath : task.loraPath = ""
  · rw [if_pos hpath, voice_of_empty hpath]
    exact hinv.server
  · rw [if_neg hpath]
    exact hinv.loaded id task htask hpath (hasLoaded_of_beforePollEnd hbefore)

theorem Inv.undisturbed_iff (hinv : Inv digest s) {id : Id} {task : Task}
    (htask : s.tasks id = some task) (hbefore : task.beforePollEnd = true) :
    s.Undisturbed digest task ↔ s.active = task.voice digest := by
  rw [hinv.active_eq htask hbefore, State.Undisturbed]
  rcases s.lastChange task with _ | voice
  · exact ⟨fun _ => rfl, fun _ voice hvoice => by contradiction⟩
  · constructor
    · intro hall
      exact hall voice rfl
    · rintro hvoice other hother
      obtain rfl := Option.some.inj hother
      exact hvoice

section Adapter

variable {voice : Option Adapter}

theorem setAdapter_task {id : Id} {task : Task}
    (htask : (s.setAdapter voice).tasks id = some task) :
    ∃ old, s.tasks id = some old ∧ task = old.overhear voice := by
  obtain ⟨old, hold, rfl⟩ := Option.map_eq_some_iff.mp htask
  exact ⟨old, hold, rfl⟩

theorem Inv.setAdapter (hinv : Inv digest s) (hadmits : s.Admits digest voice) :
    Inv digest (s.setAdapter voice) := by
  refine ⟨rfl, ?_, ?_, ?_⟩
  · intro id task htask hpath hloaded
    obtain ⟨old, hold, rfl⟩ := setAdapter_task htask
    rfl
  · intro id task htask hunsubmitted
    obtain ⟨old, hold, rfl⟩ := setAdapter_task htask
    exact hinv.unsubmitted id old hold hunsubmitted
  · intro id task htask hrendering
    obtain ⟨old, hold, rfl⟩ := setAdapter_task htask
    exact (hadmits id old hold hrendering).symm

theorem not_ownVoice_of_not_admits (hadmits : ¬ s.Admits digest voice) (hactive : t.active = voice)
    (hkept : ∀ id task, s.tasks id = some task → task.rendering = true →
      ∃ next, t.tasks id = some next ∧ next.rendering = true ∧
        next.voice digest = task.voice digest) :
    ¬ OwnVoice digest t := by
  intro hown
  apply hadmits
  intro id task htask hrendering
  obtain ⟨next, hnext, hstill, hvoice⟩ := hkept id task htask hrendering
  rw [← hvoice, ← hown id next hnext hstill, hactive]

theorem setAdapter_kept {id : Id} {task : Task} (htask : s.tasks id = some task)
    (hrendering : task.rendering = true) :
    ∃ next, (s.setAdapter voice).tasks id = some next ∧ next.rendering = true ∧
      next.voice digest = task.voice digest :=
  ⟨task.overhear voice, Option.map_eq_some_iff.mpr ⟨task, htask, rfl⟩, hrendering, rfl⟩

end Adapter

variable [DecidableEq Id]

theorem put_task {id other : Id} {task next : Task}
    (htask : (s.put id next).tasks other = some task) :
    (other = id ∧ task = next) ∨ (other ≠ id ∧ s.tasks other = some task) := by
  have hupdate : Function.update s.tasks id (some next) other = some task := htask
  by_cases hother : other = id
  · subst hother
    rw [Function.update_self] at hupdate
    exact .inl ⟨rfl, (Option.some.inj hupdate).symm⟩
  · rw [Function.update_of_ne hother] at hupdate
    exact .inr ⟨hother, hupdate⟩

theorem put_self (s : State Id) (id : Id) (next : Task) :
    (s.put id next).tasks id = some next :=
  Function.update_self ..

theorem Inv.put (hinv : Inv digest s) {id : Id} {next : Task}
    (hloaded : next.loraPath ≠ "" → next.hasLoaded = true →
      s.active = next.changes.head?.getD (next.voice digest))
    (hunsubmitted : next.unsubmitted = true → next.accepted = false)
    (hvoice : next.rendering = true → s.active = next.voice digest) :
    Inv digest (s.put id next) := by
  refine ⟨hinv.server, ?_, ?_, ?_⟩
  · intro other task htask
    rcases put_task htask with ⟨-, rfl⟩ | ⟨-, hold⟩
    · exact hloaded
    · exact hinv.loaded other task hold
  · intro other task htask
    rcases put_task htask with ⟨-, rfl⟩ | ⟨-, hold⟩
    · exact hunsubmitted
    · exact hinv.unsubmitted other task hold
  · intro other task htask
    rcases put_task htask with ⟨-, rfl⟩ | ⟨-, hold⟩
    · exact hvoice
    · exact hinv.ownVoice other task hold

theorem Inv.clientStep (hinv : Inv digest s) {id : Id} {task next : Task}
    (htask : s.tasks id = some task) (hstep : ClientStep task next) :
    Inv digest (s.put id next) := by
  have hvoice : next.voice digest = task.voice digest := by
    rw [Task.voice, Task.voice, hstep.loraPath]
  refine hinv.put ?_ ?_ ?_
  · intro hpath hloaded
    rw [hstep.loraPath] at hpath
    rw [hstep.changes, hvoice]
    exact hinv.loaded id task htask hpath ((hstep.hasLoaded hloaded).resolve_left hpath)
  · intro hunsubmitted
    rw [hstep.accepted]
    exact hinv.unsubmitted id task htask (hstep.unsubmitted hunsubmitted)
  · intro hrendering
    obtain ⟨haccepted, hbefore⟩ := rendering_iff.mp hrendering
    rw [hstep.accepted] at haccepted
    rw [hvoice]
    rcases hstep.beforePollEnd hbefore with hbefore | hunsubmitted
    · exact hinv.ownVoice id task htask (rendering_iff.mpr ⟨haccepted, hbefore⟩)
    · rw [hinv.unsubmitted id task htask hunsubmitted] at haccepted
      contradiction

omit [DecidableEq Id] in
theorem Inv.strays (hinv : Inv digest s) (strays : List (Id × Request)) :
    Inv digest { s with strays := strays } :=
  ⟨hinv.server, hinv.loaded, hinv.unsubmitted, hinv.ownVoice⟩

theorem Inv.client (hinv : Inv digest s) {id : Id} {step : Task → Option Task}
    (hstep : ∀ task next, step task = some next → ClientStep task next)
    (hclient : s.client id step = some t) : Inv digest t := by
  obtain ⟨task, htask, hmap⟩ := Option.bind_eq_some_iff.mp hclient
  obtain ⟨next, hnext, rfl⟩ := Option.map_eq_some_iff.mp hmap
  exact hinv.clientStep htask (hstep task next hnext)

theorem Inv.fail (hinv : Inv digest s) {id : Id} {failure : Failure}
    (hfail : s.fail digest id failure = some t) : Inv digest t := by
  obtain ⟨task, htask, hnext⟩ := Option.bind_eq_some_iff.mp hfail
  split at hnext
  · rename_i request next hawaited hstep
    obtain rfl := Option.some.inj hnext
    exact (hinv.strays _).clientStep htask (.of_fail hstep)
  · contradiction

theorem Inv.accept (hinv : Inv digest s) {id : Id} {task : Task} (htask : s.tasks id = some task)
    {served accepted : Bool} (hserved : task.phase = .loading → served = task.served)
    (haccepted : task.unsubmitted = true → accepted = task.accepted)
    (hharmless : s.Harmless digest id .releaseTask) :
    Inv digest (s.put id { task with served := served, accepted := accepted }) := by
  refine hinv.put ?_ ?_ ?_
  · intro hpath hloaded
    refine hinv.loaded id task htask hpath ?_
    by_cases hphase : task.phase = .loading
    · simpa only [Task.hasLoaded, hphase, hserved hphase] using hloaded
    · rw [Task.hasLoaded] at hloaded ⊢
      split
      · contradiction
      all_goals simp_all only
  · intro hunsubmitted
    show accepted = false
    rw [haccepted hunsubmitted]
    exact hinv.unsubmitted id task htask hunsubmitted
  · intro hrendering
    have hwaits : task.beforePollEnd = true := (rendering_iff.mp hrendering).2
    exact (hinv.undisturbed_iff htask hwaits).mp (hharmless task htask hwaits)

theorem awaited_load {task : Task} {adapter : Adapter}
    (hawaited : task.awaited digest = some (.loadLora adapter)) :
    task.phase = .loading ∧ adapter = ⟨task.loraPath, digest task.loraPath⟩ := by
  rw [Task.awaited] at hawaited
  split at hawaited
  · rename_i hphase
    exact ⟨hphase, (Request.loadLora.inj (Option.some.inj hawaited)).symm⟩
  all_goals simp at hawaited

theorem awaited_unload {task : Task} (hawaited : task.awaited digest = some .unloadLora) :
    task.phase = .unloading := by
  rw [Task.awaited] at hawaited
  split at hawaited
  · simp at hawaited
  · simp at hawaited
  · assumption
  · simp at hawaited

theorem awaited_release {task : Task} (hawaited : task.awaited digest = some .releaseTask) :
    ∃ attempt, task.phase = .submitting attempt := by
  rw [Task.awaited] at hawaited
  split at hawaited
  · simp at hawaited
  · exact ⟨_, by assumption⟩
  · simp at hawaited
  · simp at hawaited

theorem Inv.serve (hinv : Inv digest s) {id : Id} (hserve : s.serve digest id = some t)
    (horderly : Orderly digest s (.serve id)) : Inv digest t := by
  obtain ⟨task, htask, hnext⟩ := Option.bind_eq_some_iff.mp hserve
  split at hnext
  · contradiction
  · split at hnext
    · rename_i adapter hawaited
      obtain ⟨hphase, rfl⟩ := awaited_load hawaited
      obtain rfl := Option.some.inj hnext
      have hadmits := horderly task _ htask hawaited
      refine (hinv.setAdapter hadmits).put ?_ ?_ ?_
      · intro hpath _
        show some _ = namedAdapter digest task.loraPath
        rw [namedAdapter, if_neg hpath]
      · exact hinv.unsubmitted id task htask
      · intro hrendering
        simp [Task.rendering, Task.beforePollEnd, hphase] at hrendering
    · rename_i hawaited
      have hphase := awaited_unload hawaited
      obtain rfl := Option.some.inj hnext
      have hadmits := horderly task _ htask hawaited
      refine (hinv.setAdapter hadmits).put ?_ ?_ ?_
      · intro _ hloaded
        simp [Task.hasLoaded, hphase] at hloaded
      · exact hinv.unsubmitted id task htask
      · intro hrendering
        simp [Task.rendering, Task.beforePollEnd, hphase] at hrendering
    · rename_i hawaited
      obtain ⟨attempt, hphase⟩ := awaited_release hawaited
      obtain rfl := Option.some.inj hnext
      exact hinv.accept htask (by simp [hphase]) (by simp [Task.unsubmitted, hphase])
        (horderly task _ htask hawaited)
    · contradiction

theorem Inv.serveStray (hinv : Inv digest s) {index : Nat} (hserve : s.serveStray index = some t)
    (horderly : Orderly digest s (.serveStray index)) : Inv digest t := by
  rw [State.serveStray] at hserve
  split at hserve
  · contradiction
  · rename_i id request hstray
    have hharmless := horderly id request hstray
    split at hserve
    · obtain rfl := Option.some.inj hserve
      exact (hinv.strays _).setAdapter hharmless
    · obtain rfl := Option.some.inj hserve
      exact (hinv.strays _).setAdapter hharmless
    · obtain ⟨task, htask, rfl⟩ := Option.map_eq_some_iff.mp hserve
      refine (hinv.strays (s.strays.eraseIdx index)).accept htask (fun _ => rfl) ?_ hharmless
      intro hunsubmitted
      have hbefore : task.beforePollEnd = false := by
        rw [Task.unsubmitted] at hunsubmitted
        rw [Task.beforePollEnd]
        split at hunsubmitted
        · simp only [*]
        · simp only [*]
        · contradiction
      rw [hbefore, Bool.or_false]

theorem Inv.act (hinv : Inv digest s) {action : Action Id} (hact : act digest s action = some t)
    (horderly : Orderly digest s action) : Inv digest t := by
  cases action with
  | enqueue id loraPath =>
      rw [GenerationVoice.act] at hact
      split at hact
      · obtain rfl := Option.some.inj hact
        refine hinv.put ?_ ?_ ?_
        · intro _ hloaded
          contradiction
        · exact fun _ => rfl
        · intro hrendering
          contradiction
      · contradiction
  | start id => exact hinv.client (fun _ _ => .of_start) hact
  | serve id => exact hinv.serve hact horderly
  | serveStray index => exact hinv.serveStray hact horderly
  | answer id readable => exact hinv.client (fun _ _ => .of_answer) hact
  | fail id failure => exact hinv.fail hact
  | retry id => exact hinv.client (fun _ _ => .of_retry) hact
  | poll id outcome => exact hinv.client (fun _ _ => .of_poll) hact
  | download id => exact hinv.client (fun _ _ => .of_download) hact

/-- A load or an unload by a task that is not being rendered takes every other
take's voice away that it does not name. -/
theorem not_ownVoice_of_put {id : Id} {task next : Task} {voice : Option Adapter}
    (hadmits : ¬ s.Admits digest voice) (htask : s.tasks id = some task)
    (hidle : task.beforePollEnd = false) :
    ¬ OwnVoice digest ((s.setAdapter voice).put id next) := by
  refine not_ownVoice_of_not_admits hadmits rfl ?_
  intro other taken htaken hrendering
  have hother : other ≠ id := by
    rintro rfl
    obtain rfl : task = taken := Option.some.inj (htask.symm.trans htaken)
    rw [Task.rendering, hidle, Bool.and_false] at hrendering
    contradiction
  obtain ⟨kept, hkept, hstill, hvoice⟩ := setAdapter_kept htaken hrendering
  exact ⟨kept, (Function.update_of_ne hother ..).trans hkept, hstill, hvoice⟩

/-- A disturbed task whose submission is accepted is rendered with another voice. -/
theorem Inv.not_ownVoice_of_accept (hinv : Inv digest s) {id : Id} {task next : Task}
    (htask : s.tasks id = some task) (hpath : next.loraPath = task.loraPath)
    (hnext : task.beforePollEnd = true → next.rendering = true)
    (hharmless : ¬ s.Harmless digest id .releaseTask) : ¬ OwnVoice digest (s.put id next) := by
  intro hown
  apply hharmless
  intro other hother hbefore
  obtain rfl : task = other := Option.some.inj (htask.symm.trans hother)
  rw [hinv.undisturbed_iff htask hbefore]
  have hvoice : next.voice digest = task.voice digest := by
    rw [Task.voice, Task.voice, hpath]
  rw [← hvoice]
  exact hown id next (put_self s id next) (hnext hbefore)

theorem Inv.not_ownVoice_of_serve (hinv : Inv digest s) {id : Id}
    (hserve : s.serve digest id = some t) (horderly : ¬ Orderly digest s (.serve id)) :
    ¬ OwnVoice digest t := by
  obtain ⟨task, htask, hnext⟩ := Option.bind_eq_some_iff.mp hserve
  have hharmful : ∀ request, task.awaited digest = some request →
      ¬ s.Harmless digest id request := by
    intro request hawaited hharmless
    apply horderly
    intro other request' hother hawaited'
    obtain rfl : task = other := Option.some.inj (htask.symm.trans hother)
    obtain rfl : request = request' := Option.some.inj (hawaited.symm.trans hawaited')
    exact hharmless
  split at hnext
  · contradiction
  · split at hnext
    · rename_i adapter hawaited
      obtain rfl := Option.some.inj hnext
      exact not_ownVoice_of_put (hharmful _ hawaited) htask
        (by simp [Task.beforePollEnd, (awaited_load hawaited).1])
    · rename_i hawaited
      obtain rfl := Option.some.inj hnext
      exact not_ownVoice_of_put (hharmful _ hawaited) htask
        (by simp [Task.beforePollEnd, awaited_unload hawaited])
    · rename_i hawaited
      obtain rfl := Option.some.inj hnext
      obtain ⟨attempt, hphase⟩ := awaited_release hawaited
      exact hinv.not_ownVoice_of_accept htask rfl
        (fun _ => by simp [Task.rendering, Task.beforePollEnd, hphase]) (hharmful _ hawaited)
    · contradiction

theorem Inv.not_ownVoice_of_serveStray (hinv : Inv digest s) {index : Nat}
    (hserve : s.serveStray index = some t) (horderly : ¬ Orderly digest s (.serveStray index)) :
    ¬ OwnVoice digest t := by
  rw [State.serveStray] at hserve
  split at hserve
  · contradiction
  · rename_i id request hstray
    have hharmful : ¬ s.Harmless digest id request := by
      intro hharmless
      apply horderly
      intro other request' hother
      obtain ⟨rfl, rfl⟩ := Prod.mk.inj (Option.some.inj (hstray.symm.trans hother))
      exact hharmless
    split at hserve
    · obtain rfl := Option.some.inj hserve
      exact not_ownVoice_of_not_admits hharmful rfl fun _ _ => setAdapter_kept
    · obtain rfl := Option.some.inj hserve
      exact not_ownVoice_of_not_admits hharmful rfl fun _ _ => setAdapter_kept
    · obtain ⟨task, htask, rfl⟩ := Option.map_eq_some_iff.mp hserve
      refine (hinv.strays _).not_ownVoice_of_accept htask rfl ?_ hharmful
      intro hbefore
      simp only [Task.rendering, hbefore, Bool.or_true, Bool.true_and]
      exact hbefore

omit [DecidableEq Id] in
theorem inv_started : Inv digest (started : State Id) := by
  refine ⟨rfl, ?_, ?_, ?_⟩
  all_goals
    intro id task htask
    contradiction

/-- A take is rendered with its own voice in every state of a run exactly when
every load and unload of the run takes effect while no take of another voice is
rendered, and no submission is accepted after another adapter was set behind its
task's back. -/
theorem rendered_with_own_voice_iff {run : List (Action Id × State Id)}
    (hrun : (system digest).IsRun started run) :
    (∀ s ∈ visited started run, OwnVoice digest s) ↔ StepsMeet (Orderly digest) started run := by
  refine forall_visited_iff_stepsMeet (fun s hinv => hinv.ownVoice)
    (fun s action t hinv hstep horderly => hinv.act hstep horderly) ?_ inv_started hrun
  intro s action t hinv hstep horderly
  cases action with
  | serve id => exact hinv.not_ownVoice_of_serve hstep horderly
  | serveStray index => exact hinv.not_ownVoice_of_serveStray hstep horderly
  | _ => exact absurd trivial horderly

instance [Fintype Id] (s : State Id) : Decidable (OwnVoice digest s) :=
  inferInstanceAs (Decidable (∀ id, ∀ task ∈ s.tasks id, task.rendering = true →
    s.active = task.voice digest))

/-- Two takes of one voice, of which the first polls when the second is accepted. -/
def sharedVoice : List (Action Bool) :=
  [.enqueue false "anna", .enqueue true "anna", .start false, .serve false, .answer false true,
    .start true, .serve false, .serve true, .answer false true, .answer true true, .serve true,
    .answer true true]

/-- The first take unloads its voice when the second has been rendered too. -/
def unloadsLast : List (Action Bool) :=
  sharedVoice ++ [.poll true .completed, .poll false .completed, .download false, .serve false]

def unloadsEarly : List (Action Bool) :=
  sharedVoice ++ [.poll false .completed, .download false, .serve false]

theorem rendered_with_own_voice_iff_shared :
    StepsMeet (Orderly id) started (follow (act id) (started : State Bool) unloadsLast) ∧
      ¬StepsMeet (Orderly id) started (follow (act id) (started : State Bool) unloadsEarly) := by
  constructor
  · exact (rendered_with_own_voice_iff (isRun_follow _ _ _ _)).mp (by decide +kernel)
  · intro hmeet
    have hown := (rendered_with_own_voice_iff (isRun_follow _ _ _ _)).mpr hmeet
    exact absurd hown (by decide +kernel)

/-- A take with a voice is being rendered when a take without one is submitted. -/
def twoVoices : List (Action Nat) :=
  [.enqueue 0 "anna", .start 0, .serve 0, .answer 0 true, .serve 0, .answer 0 true,
    .enqueue 1 "", .start 1, .serve 1]

theorem rendered_with_anothers_voice :
    (system id).IsRun started (follow (act id) (started : State Nat) twoVoices) ∧
      ∃ s ∈ visited started (follow (act id) (started : State Nat) twoVoices), ¬ OwnVoice id s := by
  refine ⟨isRun_follow _ _ _ _, lastOf started (follow (act id) started twoVoices),
    lastOf_mem_visited _ _, ?_⟩
  intro hown
  have hactive := hown 1 ⟨"", .submitting 0, true, true, []⟩ (by decide +kernel) (by decide)
  exact absurd hactive (by decide +kernel)

end Songmaker.Worker.GenerationVoice
