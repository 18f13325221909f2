import Mathlib.Data.List.Infix
import Songmaker.Worker.TaskRunners

namespace Songmaker.Worker.TaskStore

open Songmaker.Foundation

variable {Result : Type}

/-- The events of one task in a log. -/
def eventsOf (taskId : Nat) (log : List (WorkerTaskEvent Result)) :
    List (WorkerTaskEvent Result) :=
  log.filter fun event => event.data.taskId = taskId

/-- The state of a task after a log, as an event. -/
def stateAfter (taskId : Nat) (log : List (WorkerTaskEvent Result)) :
    Option (WorkerTaskEvent Result) :=
  (eventsOf taskId log).getLast?

/-- The state of the task when the subscriber came, and every update since. -/
def Subscriber.feed (subscriber : Subscriber Result) (log : List (WorkerTaskEvent Result)) :
    List (WorkerTaskEvent Result) :=
  (stateAfter subscriber.taskId (log.take subscriber.since)).toList ++
    eventsOf subscriber.taskId (log.drop subscriber.since)

/-- Only the last event given may be terminal. -/
def Subscriber.EndsAtTerminal (subscriber : Subscriber Result) : Prop :=
  ∃ earlier event, subscriber.received = earlier ++ [event] ∧
    (∀ e ∈ earlier, endsStream e.type = false) ∧ subscriber.last = endsStream event.type

section Feed

variable {taskId : Nat} {log : List (WorkerTaskEvent Result)} {event : WorkerTaskEvent Result}

theorem eventsOf_append (log' : List (WorkerTaskEvent Result)) :
    eventsOf taskId (log ++ log') = eventsOf taskId log ++ eventsOf taskId log' :=
  List.filter_append _ _

theorem eventsOf_self (hevent : event.data.taskId = taskId) :
    eventsOf taskId [event] = [event] := by
  simp [eventsOf, hevent]

theorem eventsOf_other (hevent : event.data.taskId ≠ taskId) : eventsOf taskId [event] = [] := by
  simp [eventsOf, hevent]

theorem stateAfter_self (hevent : event.data.taskId = taskId) :
    stateAfter taskId (log ++ [event]) = some event := by
  rw [stateAfter, eventsOf_append, eventsOf_self hevent, List.getLast?_append]
  rfl

theorem stateAfter_other {log' : List (WorkerTaskEvent Result)}
    (hlog' : eventsOf taskId log' = []) :
    stateAfter taskId (log ++ log') = stateAfter taskId log := by
  rw [stateAfter, eventsOf_append, hlog', List.append_nil]
  rfl

theorem feed_append {subscriber : Subscriber Result} (hsince : subscriber.since ≤ log.length)
    (log' : List (WorkerTaskEvent Result)) :
    subscriber.feed (log ++ log') = subscriber.feed log ++ eventsOf subscriber.taskId log' := by
  rw [Subscriber.feed, Subscriber.feed, List.take_append_of_le_length hsince,
    List.drop_append_of_le_length hsince, eventsOf_append, List.append_assoc]

end Feed

/-- What the store holds about a task. -/
structure Recorded (store : Store Result) (taskId : Nat) (task : Task Result) : Prop where
  ownId : task.taskId = taskId
  known : taskId < store.nextTask
  logged : stateAfter taskId store.log = some task.toEvent
  queues : ∀ id ∈ task.subscribers,
    ∃ subscriber, store.subscribers id = some subscriber ∧ subscriber.taskId = taskId

/-- What the store owes a subscriber. -/
structure Served (store : Store Result) (id : Nat) (subscriber : Subscriber Result) : Prop where
  knownSubscriber : id < store.nextSubscriber
  known : subscriber.taskId < store.nextTask
  since_le : subscriber.since ≤ store.log.length
  begun : (stateAfter subscriber.taskId (store.log.take subscriber.since)).isSome
  ordered : subscriber.received <+: subscriber.feed store.log
  complete : subscriber.phase = .reading →
    subscriber.received ++ subscriber.queue = subscriber.feed store.log
  registered : subscriber.phase = .reading → ∀ task, store.tasks subscriber.taskId = some task →
    task.subscribers.count id = 1
  endsAtTerminal : subscriber.EndsAtTerminal
  ended : subscriber.ended = true → subscriber.last = true

/-- Every subscriber has been served what its task went through since it joined. -/
structure Serving (store : Store Result) : Prop where
  tasks : ∀ taskId task, store.tasks taskId = some task → Recorded store taskId task
  subscribers : ∀ id subscriber, store.subscribers id = some subscriber →
    Served store id subscriber

section Frames

variable {store store' : Store Result} {log' : List (WorkerTaskEvent Result)}
  (hlog : store'.log = store.log ++ log') (htasks : store.nextTask ≤ store'.nextTask)
include hlog htasks

theorem Recorded.mono {taskId : Nat} {task : Task Result} (h : Recorded store taskId task)
    (hother : eventsOf taskId log' = [])
    (hsubscribers : ∀ id subscriber, store.subscribers id = some subscriber →
      ∃ subscriber', store'.subscribers id = some subscriber' ∧
        subscriber'.taskId = subscriber.taskId) :
    Recorded store' taskId task where
  ownId := h.ownId
  known := lt_of_lt_of_le h.known htasks
  logged := by
    rw [hlog, stateAfter_other hother]
    exact h.logged
  queues := by
    intro id hid
    obtain ⟨subscriber, hsubscriber, htask⟩ := h.queues id hid
    obtain ⟨subscriber', hsubscriber', htask'⟩ := hsubscribers id subscriber hsubscriber
    exact ⟨subscriber', hsubscriber', htask'.trans htask⟩

theorem Served.mono {id : Nat} {subscriber : Subscriber Result} (h : Served store id subscriber)
    (hother : eventsOf subscriber.taskId log' = [])
    (hsubscribers : store.nextSubscriber ≤ store'.nextSubscriber)
    (hregistered : subscriber.phase = .reading → ∀ task,
      store'.tasks subscriber.taskId = some task → task.subscribers.count id = 1) :
    Served store' id subscriber := by
  have hfeed : subscriber.feed store'.log = subscriber.feed store.log := by
    rw [hlog, feed_append h.since_le, hother, List.append_nil]
  refine ⟨lt_of_lt_of_le h.knownSubscriber hsubscribers, lt_of_lt_of_le h.known htasks, ?_, ?_, ?_,
    ?_, hregistered, h.endsAtTerminal, h.ended⟩
  · rw [hlog, List.length_append]
    exact h.since_le.trans (Nat.le_add_right _ _)
  · rw [hlog, List.take_append_of_le_length h.since_le]
    exact h.begun
  · rw [hfeed]
    exact h.ordered
  · rw [hfeed]
    exact h.complete

end Frames

section Methods

variable {store store' : Store Result} (hserving : Serving store)
include hserving

theorem Serving.create {now : ℚ} {kind : TaskKind} {trainEpochs : Option Nat}
    {phase : Option String} (h : store.create now kind trainEpochs phase = some store') :
    Serving store' := by
  simp only [Store.create] at h
  split_ifs at h
  obtain rfl := Option.some.inj h
  have hfresh : ∀ {taskId}, taskId < store.nextTask → store.nextTask ≠ taskId :=
    fun htaskId => (Nat.ne_of_lt htaskId).symm
  constructor
  · intro taskId task htask
    rcases eq_or_ne taskId store.nextTask with rfl | hne
    · obtain rfl : _ = task := by simpa using htask
      exact ⟨rfl, Nat.lt_succ_self _, stateAfter_self rfl,
        fun id hid => absurd hid List.not_mem_nil⟩
    · have hold := hserving.tasks taskId task (by simpa [hne] using htask)
      exact hold.mono rfl (Nat.le_succ _) (eventsOf_other (hfresh hold.known))
        fun id subscriber hsubscriber => ⟨subscriber, hsubscriber, rfl⟩
  · intro id subscriber hsubscriber
    have hold := hserving.subscribers id subscriber hsubscriber
    refine hold.mono rfl (Nat.le_succ _) (eventsOf_other (hfresh hold.known)) le_rfl ?_
    intro hreading task htask
    have hne := (hfresh hold.known).symm
    exact hold.registered hreading task (by simpa [hne] using htask)

theorem Serving.update {now : ℚ} {taskId : Nat} {change : Change Result}
    (h : store.update now taskId change = some store') : Serving store' := by
  obtain ⟨task, htask, hupdated⟩ := Option.bind_eq_some_iff.mp h
  have hlog : store'.log = store.log ++ [(task.update now change.toUpdate).toEvent] :=
    congrArg Store.log (Option.some.inj hupdated).symm
  obtain rfl := Option.some.inj hupdated
  have hrecorded := hserving.tasks taskId task htask
  have hevent : (task.update now change.toUpdate).toEvent.data.taskId = taskId := hrecorded.ownId
  have hput : ∀ id subscriber, store.subscribers id = some subscriber →
      ∃ subscriber', store.putTo task.subscribers (task.update now change.toUpdate).toEvent id =
        some subscriber' ∧ subscriber'.taskId = subscriber.taskId :=
    fun id subscriber hsubscriber =>
      ⟨_, (congrArg (Option.map _) hsubscriber).trans (Option.map_some ..), rfl⟩
  constructor
  · intro taskId' task' htask'
    rcases eq_or_ne taskId' taskId with rfl | hne
    · obtain rfl : task.update now change.toUpdate = task' := by simpa using htask'
      refine ⟨hevent, hrecorded.known, stateAfter_self hevent, ?_⟩
      intro id hid
      obtain ⟨subscriber, hsubscriber, htaskId⟩ := hrecorded.queues id hid
      obtain ⟨subscriber', hsubscriber', htaskId'⟩ := hput id subscriber hsubscriber
      exact ⟨subscriber', hsubscriber', htaskId'.trans htaskId⟩
    · have hold := hserving.tasks taskId' task' (by simpa [hne] using htask')
      exact hold.mono hlog le_rfl (eventsOf_other (hevent.trans_ne hne.symm)) hput
  · intro id subscriber' hsubscriber'
    obtain ⟨subscriber, hsubscriber, rfl⟩ := Option.map_eq_some_iff.mp hsubscriber'
    have hold := hserving.subscribers id subscriber hsubscriber
    have hfeed := feed_append hold.since_le [(task.update now change.toUpdate).toEvent]
    refine ⟨hold.knownSubscriber, hold.known, ?_, ?_, ?_, ?_, ?_, hold.endsAtTerminal, hold.ended⟩
    · exact hold.since_le.trans (by simp)
    · show (stateAfter _ ((store.log ++ _).take _)).isSome = true
      rw [List.take_append_of_le_length hold.since_le]
      exact hold.begun
    · exact hold.ordered.trans ⟨_, hfeed.symm⟩
    · intro hreading
      refine Eq.trans ?_ hfeed.symm
      rw [← hold.complete hreading, List.append_assoc]
      rcases eq_or_ne subscriber.taskId taskId with hown | hother
      · have hcount := hold.registered hreading task (hown ▸ htask)
        rw [eventsOf_self (hevent.trans hown.symm)]
        show _ ++ (_ ++ List.replicate (task.subscribers.count id) _) = _
        rw [hcount]
        rfl
      · have hcount : task.subscribers.count id = 0 := by
          rw [List.count_eq_zero]
          intro hid
          obtain ⟨_, hsubscriber', htaskId⟩ := hrecorded.queues id hid
          rw [hsubscriber] at hsubscriber'
          exact hother (Option.some.inj hsubscriber' ▸ htaskId)
        rw [eventsOf_other (hevent.trans_ne hother.symm)]
        show _ ++ (_ ++ List.replicate (task.subscribers.count id) _) = _
        rw [hcount]
        rfl
    · intro hreading task' htask'
      rcases eq_or_ne subscriber.taskId taskId with hown | hother
      · obtain rfl : task.update now change.toUpdate = task' := by
          simpa [hown] using htask'
        exact hold.registered hreading task (hown ▸ htask)
      · exact hold.registered hreading task' (by simpa [hother] using htask')

theorem Serving.setSubscriber {id : Nat} {subscriber subscriber' : Subscriber Result}
    (hsubscriber : store.subscribers id = some subscriber)
    (htaskId : subscriber'.taskId = subscriber.taskId)
    (hserved : Served store id subscriber') : Serving (store.setSubscriber id subscriber') := by
  have hlog : (store.setSubscriber id subscriber').log = store.log ++ [] :=
    (List.append_nil _).symm
  constructor
  · intro taskId task htask
    have hold := hserving.tasks taskId task htask
    refine hold.mono hlog le_rfl rfl ?_
    intro id' other hother
    rcases eq_or_ne id' id with rfl | hne
    · rw [hsubscriber] at hother
      refine ⟨subscriber', Function.update_self .., ?_⟩
      rw [htaskId, Option.some.inj hother]
    · exact ⟨other, (Function.update_of_ne hne _ _).trans hother, rfl⟩
  · intro id' other hother
    rcases eq_or_ne id' id with rfl | hne
    · obtain rfl : subscriber' = other := by simpa [Store.setSubscriber] using hother
      exact ⟨hserved.knownSubscriber, hserved.known, hserved.since_le, hserved.begun,
        hserved.ordered, hserved.complete, hserved.registered, hserved.endsAtTerminal,
        hserved.ended⟩
    · have hold := hserving.subscribers id' other (by simpa [Store.setSubscriber, hne] using hother)
      exact hold.mono hlog le_rfl rfl le_rfl hold.registered

theorem Serving.subscribe {taskId : Nat} (h : store.subscribe taskId = some store') :
    Serving store' := by
  obtain ⟨task, htask, hsubscribed⟩ := Option.bind_eq_some_iff.mp h
  have hlog : store'.log = store.log ++ [] :=
    (congrArg Store.log (Option.some.inj hsubscribed).symm).trans (List.append_nil _).symm
  obtain rfl := Option.some.inj hsubscribed
  have hrecorded := hserving.tasks taskId task htask
  have hnew : ∀ {id subscriber}, store.subscribers id = some subscriber →
      id ≠ store.nextSubscriber :=
    fun hsubscriber => Nat.ne_of_lt (hserving.subscribers _ _ hsubscriber).knownSubscriber
  have hkeep : ∀ id subscriber, store.subscribers id = some subscriber → ∀ fresh,
      Function.update store.subscribers store.nextSubscriber (some fresh) id = some subscriber :=
    fun id subscriber hsubscriber fresh =>
      (Function.update_of_ne (hnew hsubscriber) _ _).trans hsubscriber
  constructor
  · intro taskId' task' htask'
    rcases eq_or_ne taskId' taskId with rfl | hne
    · obtain rfl : _ = task' := by simpa using htask'
      refine ⟨hrecorded.ownId, hrecorded.known, hrecorded.logged, ?_⟩
      intro id hid
      rcases List.mem_append.mp hid with hold | hfresh
      · obtain ⟨subscriber, hsubscriber, htaskId⟩ := hrecorded.queues id hold
        exact ⟨subscriber, hkeep id subscriber hsubscriber _, htaskId⟩
      · obtain rfl := List.mem_singleton.mp hfresh
        exact ⟨_, Function.update_self .., rfl⟩
    · have hold := hserving.tasks taskId' task' (by simpa [hne] using htask')
      exact hold.mono hlog le_rfl rfl
        fun id subscriber hsubscriber => ⟨subscriber, hkeep id subscriber hsubscriber _, rfl⟩
  · intro id subscriber hsubscriber
    rcases eq_or_ne id store.nextSubscriber with rfl | hne
    · obtain rfl : _ = subscriber := by simpa using hsubscriber
      have hfeed : Subscriber.feed ⟨taskId, [task.toEvent], [], isTerminal task.state, .reading,
          false, store.log.length⟩ store.log = [task.toEvent] := by
        simp [Subscriber.feed, hrecorded.logged, eventsOf]
      refine ⟨Nat.lt_succ_self _, hrecorded.known, le_rfl, ?_, ?_, ?_, ?_, ?_, ?_⟩
      · show (stateAfter taskId (store.log.take store.log.length)).isSome = true
        rw [List.take_length, hrecorded.logged]
        rfl
      · exact hfeed ▸ List.prefix_refl _
      · exact fun _ => hfeed.symm
      · intro _ task' htask'
        obtain rfl : _ = task' := by simpa using htask'
        have hnone : task.subscribers.count store.nextSubscriber = 0 := by
          rw [List.count_eq_zero]
          intro hmem
          obtain ⟨_, hsubscriber', -⟩ := hrecorded.queues _ hmem
          exact hnew hsubscriber' rfl
        show (task.subscribers ++ [store.nextSubscriber]).count store.nextSubscriber = 1
        rw [List.count_append, hnone, List.count_singleton_self]
      · exact ⟨[], task.toEvent, rfl, fun e he => (nomatch he), task.endsStream_toEvent.symm⟩
      · exact fun hended => (nomatch hended)
    · have hold := hserving.subscribers id subscriber (by simpa [hne] using hsubscriber)
      refine hold.mono hlog le_rfl rfl (Nat.le_succ _) ?_
      intro hreading task' htask'
      rcases eq_or_ne subscriber.taskId taskId with hown | hother
      · obtain rfl : _ = task' := by simpa [hown] using htask'
        show (task.subscribers ++ [store.nextSubscriber]).count id = 1
        rw [List.count_append, List.count_singleton, if_neg (by simpa using hne.symm)]
        exact hold.registered hreading task (hown ▸ htask)
      · exact hold.registered hreading task' (by simpa [hother] using htask')

theorem Serving.setTasks {tasks : Nat → Option (Task Result)}
    (h : ∀ taskId task', tasks taskId = some task' → ∃ task, store.tasks taskId = some task ∧
      task'.toTaskSnapshot = task.toTaskSnapshot ∧
      task'.subscribers ⊆ task.subscribers ∧
      ∀ id subscriber, store.subscribers id = some subscriber → subscriber.phase = .reading →
        task'.subscribers.count id = task.subscribers.count id) :
    Serving { store with tasks := tasks } := by
  have hlog : ({ store with tasks := tasks } : Store Result).log = store.log ++ [] :=
    (List.append_nil _).symm
  constructor
  · intro taskId task' htask'
    obtain ⟨task, htask, hsnapshot, hsubset, -⟩ := h taskId task' htask'
    have hold := hserving.tasks taskId task htask
    have hevent : task'.toEvent = task.toEvent := by
      rw [Task.toEvent, Task.toEvent, hsnapshot]
    refine ⟨?_, hold.known, ?_, fun id hid => hold.queues id (hsubset hid)⟩
    · rw [hsnapshot]
      exact hold.ownId
    · rw [hevent]
      exact hold.logged
  · intro id subscriber hsubscriber
    have hold := hserving.subscribers id subscriber hsubscriber
    refine hold.mono hlog le_rfl rfl le_rfl ?_
    intro hreading task' htask'
    obtain ⟨task, htask, -, -, hcount⟩ := h subscriber.taskId task' htask'
    rw [hcount id subscriber hsubscriber hreading]
    exact hold.registered hreading task htask

theorem Serving.next {id : Nat} (h : store.next id = some store') : Serving store' := by
  obtain ⟨subscriber, hsubscriber, hnext⟩ := Option.bind_eq_some_iff.mp h
  have hold := hserving.subscribers id subscriber hsubscriber
  split_ifs at hnext with hphase hlast
  · obtain rfl := Option.some.inj hnext
    refine hserving.setSubscriber hsubscriber rfl ?_
    exact ⟨hold.knownSubscriber, hold.known, hold.since_le, hold.begun, hold.ordered,
      fun hreading => (nomatch hreading), fun hreading => (nomatch hreading), hold.endsAtTerminal,
      fun _ => hlast⟩
  · split at hnext
    · cases hnext
    · rename_i event queue hqueue
      obtain rfl := Option.some.inj hnext
      have hreading : subscriber.phase = .reading := not_not.mp hphase
      have hcomplete := hold.complete hreading
      have hfeed : (subscriber.received ++ [event]) ++ queue = subscriber.feed store.log := by
        rw [← hcomplete, hqueue, List.append_assoc]
        rfl
      obtain ⟨earlier, before, hreceived, hearlier, hbefore⟩ := hold.endsAtTerminal
      refine hserving.setSubscriber hsubscriber rfl ?_
      refine ⟨hold.knownSubscriber, hold.known, hold.since_le, hold.begun, ⟨queue, hfeed⟩,
        fun _ => hfeed, hold.registered, ⟨subscriber.received, event, rfl, ?_, rfl⟩, ?_⟩
      · intro e he
        rw [hreceived, List.mem_append, List.mem_singleton] at he
        rcases he with he | rfl
        · exact hearlier e he
        · exact hbefore.symm.trans ((Bool.not_eq_true _).mp hlast)
      · exact fun hended => absurd (hold.ended hended) hlast

theorem Serving.leavesReading {id : Nat} {subscriber : Subscriber Result}
    (hsubscriber : store.subscribers id = some subscriber) {phase : Phase}
    (hphase : phase ≠ .reading) :
    Serving (store.setSubscriber id { subscriber with phase := phase }) := by
  have hold := hserving.subscribers id subscriber hsubscriber
  refine hserving.setSubscriber hsubscriber rfl ?_
  exact ⟨hold.knownSubscriber, hold.known, hold.since_le, hold.begun, hold.ordered,
    fun hreading => absurd hreading hphase, fun hreading => absurd hreading hphase,
    hold.endsAtTerminal, hold.ended⟩

theorem Serving.close {id : Nat} (h : store.close id = some store') : Serving store' := by
  obtain ⟨subscriber, hsubscriber, hclose⟩ := Option.bind_eq_some_iff.mp h
  split_ifs at hclose
  obtain rfl := Option.some.inj hclose
  exact hserving.leavesReading hsubscriber (by decide)

theorem Serving.leave {id : Nat} (h : store.leave id = some store') : Serving store' := by
  obtain ⟨subscriber, hsubscriber, hleave⟩ := Option.bind_eq_some_iff.mp h
  have hleft : Serving (store.setSubscriber id { subscriber with phase := .left }) :=
    hserving.leavesReading hsubscriber (by decide)
  split_ifs at hleave
  dsimp only at hleave
  split at hleave
  · obtain rfl := Option.some.inj hleave
    exact hleft
  · rename_i task htask
    obtain rfl := Option.some.inj hleave
    refine hleft.setTasks ?_
    intro taskId task' htask'
    rcases eq_or_ne taskId subscriber.taskId with rfl | hne
    · obtain rfl : _ = task' := by simpa using htask'
      refine ⟨task, htask, rfl, List.erase_subset, ?_⟩
      intro id' other hother hreading
      rcases eq_or_ne id' id with rfl | hne
      · obtain rfl : _ = other := by simpa [Store.setSubscriber] using hother
        cases hreading
      · exact List.count_erase_of_ne hne
    · refine ⟨task', by simpa [hne] using htask', rfl, List.Subset.refl _, fun _ _ _ _ => rfl⟩

theorem Serving.discardResult {taskId : Nat} (h : store.discardResult taskId = some store') :
    Serving store' := by
  obtain ⟨task, htask, hdiscard⟩ := Option.bind_eq_some_iff.mp h
  obtain rfl := Option.some.inj hdiscard
  refine hserving.setTasks ?_
  intro taskId' task' htask'
  rcases eq_or_ne taskId' taskId with rfl | hne
  · obtain rfl : _ = task' := by simpa using htask'
    exact ⟨task, htask, rfl, List.Subset.refl _, fun _ _ _ _ => rfl⟩
  · exact ⟨task', by simpa [hne] using htask', rfl, List.Subset.refl _, fun _ _ _ _ => rfl⟩

theorem Serving.cleanupTerminal (retention now : ℚ) (unlinks : String → Bool) :
    Serving (store.cleanupTerminal retention now unlinks) := by
  refine hserving.setTasks ?_
  intro taskId task htask
  exact ⟨task, (Option.filter_eq_some_iff.mp htask).1, rfl, List.Subset.refl _, fun _ _ _ _ => rfl⟩

end Methods

/-- A task that is due to be dropped some day has ended. -/
def TerminalKept (store : Store Result) : Prop :=
  ∀ taskId task, store.tasks taskId = some task → task.terminalAt.isSome →
    isTerminal task.state = true ∧ store.started taskId = true

section TerminalKept

variable {store store' : Store Result} (hkept : TerminalKept store)
include hkept

theorem TerminalKept.of_tasks (hstarted : store'.started = store.started)
    (h : ∀ taskId task', store'.tasks taskId = some task' → ∃ task,
      store.tasks taskId = some task ∧ task'.terminalAt = task.terminalAt ∧
        task'.state = task.state) : TerminalKept store' := by
  intro taskId task' htask' hterminal
  obtain ⟨task, htask, hterminalAt, hstate⟩ := h taskId task' htask'
  rw [hstate, hstarted]
  exact hkept taskId task htask (hterminalAt ▸ hterminal)

theorem TerminalKept.of_update {taskId : Nat} {task task' : Task Result}
    (htasks : store'.tasks = Function.update store.tasks taskId (some task'))
    (htask : store.tasks taskId = some task) (hterminalAt : task'.terminalAt = task.terminalAt)
    (hstate : task'.state = task.state) (hstarted : store'.started = store.started) :
    TerminalKept store' := by
  refine hkept.of_tasks hstarted ?_
  intro taskId' other hother
  rw [htasks] at hother
  rcases eq_or_ne taskId' taskId with rfl | hne
  · obtain rfl : task' = other := by simpa using hother
    exact ⟨task, htask, hterminalAt, hstate⟩
  · exact ⟨other, by simpa [hne] using hother, rfl, rfl⟩

theorem TerminalKept.create {now : ℚ} {kind : TaskKind} {trainEpochs : Option Nat}
    {phase : Option String} (h : store.create now kind trainEpochs phase = some store') :
    TerminalKept store' := by
  simp only [Store.create] at h
  split_ifs at h
  obtain rfl := Option.some.inj h
  intro taskId task htask hterminal
  rcases eq_or_ne taskId store.nextTask with rfl | hne
  · obtain rfl : _ = task := by simpa using htask
    cases hterminal
  · exact hkept taskId task (by simpa [hne] using htask) hterminal

theorem terminal_update {task : Task Result} {now : ℚ} {taskId : Nat} {change : Change Result}
    (htask : store.tasks taskId = some task) (hobey : runnersObey store (.update now taskId change))
    (hterminal : (task.update now change.toUpdate).terminalAt.isSome) :
    isTerminal (task.update now change.toUpdate).state = true := by
  cases change with
  | markRunning =>
      have hstarted := (hkept taskId task htask hterminal).2
      exact absurd hobey (by simp [runnersObey, hstarted])
  | markTrainingStarted startedAt => exact (hkept taskId task htask hterminal).1
  | updateProgress progress phase currentEpoch => exact (hkept taskId task htask hterminal).1
  | complete result resultFile => rfl
  | fail message errorKind => rfl

theorem TerminalKept.update {now : ℚ} {taskId : Nat} {change : Change Result}
    (hobey : runnersObey store (.update now taskId change))
    (h : store.update now taskId change = some store') : TerminalKept store' := by
  obtain ⟨task, htask, hupdated⟩ := Option.bind_eq_some_iff.mp h
  obtain rfl := Option.some.inj hupdated
  intro taskId' task' htask' hterminal
  rcases eq_or_ne taskId' taskId with rfl | hne
  · obtain rfl : task.update now change.toUpdate = task' := by simpa using htask'
    exact ⟨terminal_update hkept htask hobey hterminal, Function.update_self ..⟩
  · have hold := hkept taskId' task' (by simpa [hne] using htask') hterminal
    exact ⟨hold.1, (Function.update_of_ne hne _ _).trans hold.2⟩

theorem TerminalKept.act {retention : ℚ} {action : Action Result}
    (hobey : runnersObey store action) (h : act retention store action = some store') :
    TerminalKept store' := by
  cases action with
  | create now kind trainEpochs phase => exact hkept.create h
  | update now taskId change => exact hkept.update hobey h
  | subscribe taskId =>
      obtain ⟨task, htask, hsubscribed⟩ := Option.bind_eq_some_iff.mp h
      obtain rfl := Option.some.inj hsubscribed
      exact hkept.of_update rfl htask rfl rfl rfl
  | next id =>
      obtain ⟨subscriber, -, hnext⟩ := Option.bind_eq_some_iff.mp h
      split_ifs at hnext
      · obtain rfl := Option.some.inj hnext
        exact hkept
      · split at hnext
        · cases hnext
        · obtain rfl := Option.some.inj hnext
          exact hkept
  | close id =>
      obtain ⟨subscriber, -, hclose⟩ := Option.bind_eq_some_iff.mp h
      split_ifs at hclose
      obtain rfl := Option.some.inj hclose
      exact hkept
  | leave id =>
      obtain ⟨subscriber, -, hleave⟩ := Option.bind_eq_some_iff.mp h
      split_ifs at hleave
      dsimp only at hleave
      split at hleave
      · obtain rfl := Option.some.inj hleave
        exact hkept
      · rename_i task htask
        obtain rfl := Option.some.inj hleave
        exact hkept.of_update rfl htask rfl rfl rfl
  | discardResult taskId =>
      obtain ⟨task, htask, hdiscard⟩ := Option.bind_eq_some_iff.mp h
      obtain rfl := Option.some.inj hdiscard
      exact hkept.of_update rfl htask rfl rfl rfl
  | cleanupTerminal now unlinks =>
      obtain rfl := Option.some.inj h
      refine hkept.of_tasks rfl fun taskId task htask => ?_
      exact ⟨task, (Option.filter_eq_some_iff.mp htask).1, rfl, rfl⟩

end TerminalKept

/-- A subscriber is given `first`, the state that it found, and then `updates`,
the updates that came later. -/
structure Streams (store : Store Result) (id : Nat) (subscriber : Subscriber Result)
    (first : WorkerTaskEvent Result) (updates : List (WorkerTaskEvent Result)) : Prop where
  found : stateAfter subscriber.taskId (store.log.take subscriber.since) = some first
  later : eventsOf subscriber.taskId (store.log.drop subscriber.since) = updates
  inOrder : subscriber.received <+: first :: updates
  noGap : subscriber.phase = .reading →
    subscriber.received ++ subscriber.queue = first :: updates
  waits : subscriber.phase = .reading → store.next id = none →
    subscriber.received = first :: updates
  noneAfterTerminal : ∀ event ∈ subscriber.received.dropLast, endsStream event.type = false
  endsAtTerminal : subscriber.ended = true →
    ∃ event, subscriber.received.getLast? = some event ∧ endsStream event.type = true
  endsAtOnce : ∀ event, subscriber.phase = .reading →
    subscriber.received.getLast? = some event → endsStream event.type = true →
      store.next id =
        some (store.setSubscriber id { subscriber with phase := .leaving, ended := true })

theorem Serving.streams {store : Store Result} (hserving : Serving store) {id : Nat}
    {subscriber : Subscriber Result} (hsubscriber : store.subscribers id = some subscriber) :
    ∃ first updates, Streams store id subscriber first updates := by
  have hserved := hserving.subscribers id subscriber hsubscriber
  obtain ⟨first, hfirst⟩ := Option.isSome_iff_exists.mp hserved.begun
  have hfeed : subscriber.feed store.log =
      first :: eventsOf subscriber.taskId (store.log.drop subscriber.since) := by
    rw [Subscriber.feed, hfirst]
    rfl
  have hcomplete := hserved.complete
  have hordered := hserved.ordered
  rw [hfeed] at hcomplete hordered
  obtain ⟨earlier, last, hreceived, hearlier, hlast⟩ := hserved.endsAtTerminal
  have hgetLast : subscriber.received.getLast? = some last := by
    rw [hreceived, List.getLast?_concat]
  refine ⟨first, _, hfirst, rfl, hordered, hcomplete, ?_, ?_, ?_, ?_⟩
  · intro hreading hwaits
    rw [Store.next, hsubscriber, Option.bind_eq_bind, Option.bind_some,
      if_neg (not_not.mpr hreading)] at hwaits
    split_ifs at hwaits
    rw [← hcomplete hreading]
    split at hwaits
    · rename_i hqueue
      rw [hqueue, List.append_nil]
    · cases hwaits
  · rw [hreceived, List.dropLast_concat]
    exact hearlier
  · intro hended
    exact ⟨last, hgetLast, hlast ▸ hserved.ended hended⟩
  · intro event hreading hevent hends
    rw [hgetLast] at hevent
    obtain rfl := Option.some.inj hevent
    rw [Store.next, hsubscriber, Option.bind_eq_bind, Option.bind_some,
      if_neg (not_not.mpr hreading), if_pos (hlast.trans hends)]
    rfl

end Songmaker.Worker.TaskStore
