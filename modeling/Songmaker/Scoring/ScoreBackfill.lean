import Mathlib.Data.Int.Order.Basic
import Songmaker.Foundation.TransitionSystem

namespace Songmaker.Scoring.ScoreBackfill

open Songmaker.Foundation

abbrev TakeId := Nat
abbrev TickId := Nat

def scoreBackfillBatchSize : Nat := 5
def scoreBackfillMaxAttempts : Nat := 3
def scoreBackfillAttemptTtlSeconds : Nat := 7 * 24 * 60 * 60
def scoreBackfillCandidatePoolSize : Nat := scoreBackfillBatchSize * 4

/-- A take, and whether it has a score. -/
structure Row where
  id : TakeId
  createdAt : ℤ
  scored : Bool
deriving DecidableEq

/-- An attempt counter and the seconds it has left, where it has a time to live. -/
structure Counter where
  count : Nat
  left : Option Nat
deriving DecidableEq

/-- An attempt that was counted: the `number`-th in one life of the take's counter. -/
structure Attempt where
  id : TakeId
  life : Nat
  number : Nat
deriving DecidableEq

/-- The command that a tick waits for. -/
inductive Point where
  | listing
  | resolving (tracked : List TakeId)
  | deleting (id : TakeId) (rest : List TakeId)
  | removing (id : TakeId) (rest : List TakeId)
  | picking
  | counting
  | recording (id : TakeId) (rest : List TakeId)
  | expiring (attempt : Attempt) (rest : List TakeId)
  | tracking (attempt : Attempt) (rest : List TakeId)
  /-- `_auto_score_generation` is next. -/
  | handing (attempt : Attempt) (rest : List TakeId)
  | finished
  | dead
deriving DecidableEq

namespace Point

/-- The attempt that is under way and counted. -/
def attempt : Point → Option Attempt
  | .expiring attempt _ | .tracking attempt _ | .handing attempt _ => some attempt
  | _ => none

/-- The take whose counter is about to get its time to live. -/
def expires : Point → Option TakeId
  | .expiring attempt _ => some attempt.id
  | _ => none

/-- The chosen takes whose attempt is not over. -/
def remaining : Point → List TakeId
  | .recording id rest => id :: rest
  | .expiring attempt rest | .tracking attempt rest | .handing attempt rest =>
      attempt.id :: rest
  | _ => []

/-- The tick has read its backlog and chosen from it. -/
def hasChosen : Point → Bool
  | .recording _ _ | .expiring _ _ | .tracking _ _ | .handing _ _ | .finished => true
  | _ => false

end Point

/-- A tick of the backfill that has begun. -/
structure Tick where
  point : Point
  /-- The unscored takes, in the order of the query; the tick reads the first of them. -/
  backlog : List Row
  /-- Those of the backlog that have used up their attempts when the counters are read. -/
  spent : List TakeId
  /-- The takes whose attempt is over, also by an exception. -/
  attempted : List TakeId
deriving DecidableEq

/-- The takes with their scores, the counters in Redis, and the ticks under way. -/
structure State where
  rows : List Row
  counters : TakeId → Option Counter
  tracked : List TakeId
  ticks : TickId → Option Tick
  /-- How many counters of the take have lapsed or been deleted. -/
  life : TakeId → Nat
  /-- Seconds since the last attempt of the take was recorded. -/
  since : TakeId → Nat
  /-- The attempts that were handed on. -/
  handed : List Attempt

/-- How often the take has been tried, as the counter says. -/
def countOf (counters : TakeId → Option Counter) (id : TakeId) : Nat :=
  ((counters id).map Counter.count).getD 0

/-- `_exhausted_backfill_ids` -/
def exhaustedBackfillIds (counters : TakeId → Option Counter) (ids : List TakeId) :
    List TakeId :=
  ids.filter fun id => (counters id).any fun counter =>
    scoreBackfillMaxAttempts ≤ counter.count

/-- The takes that come after one another in `for gen_id in resolved`. -/
def clearing : List TakeId → Point
  | [] => .picking
  | id :: rest => .deleting id rest

/-- The takes that come after one another in `for gen_id, song_id in eligible`. -/
def attempting : List TakeId → Point
  | [] => .finished
  | id :: rest => .recording id rest

namespace Tick

def moveTo (t : Tick) (point : Point) : Tick :=
  { t with point := point }

/-- `_pick_unscored_generations`, of the unscored takes as the query orders them. -/
def candidates (t : Tick) : List Row :=
  t.backlog.take scoreBackfillCandidatePoolSize

/-- The counters are read and the batch is chosen. -/
def count (t : Tick) (counters : TakeId → Option Counter) : Tick :=
  let exhausted := exhaustedBackfillIds counters (t.candidates.map Row.id)
  let eligible := (t.candidates.filter fun row => row.id ∉ exhausted).take scoreBackfillBatchSize
  { t with
    point := attempting (eligible.map Row.id)
    spent := exhaustedBackfillIds counters (t.backlog.map Row.id)
    attempted := [] }

/-- The loop goes on behind the attempt of a take. -/
def goOn (t : Tick) (id : TakeId) (rest : List TakeId) : Tick :=
  { t with point := attempting rest, attempted := t.attempted ++ [id] }

end Tick

namespace State

def putTick (s : State) (tick : TickId) (t : Tick) : State :=
  { s with ticks := Function.update s.ticks tick (some t) }

/-- The take has a score. -/
def scored (s : State) (id : TakeId) : Bool :=
  s.rows.any fun row => row.id = id && row.scored

/-- The counter is gone, by a `DELETE` or because it lapses. -/
def dropCounter (s : State) (id : TakeId) : State :=
  if s.counters id = none then s
  else
    { s with
      counters := Function.update s.counters id none
      life := Function.update s.life id (s.life id + 1) }

/-- The counter goes up by one; without one it starts at one. -/
def incr (s : State) (id : TakeId) : State :=
  { s with
    counters := Function.update s.counters id
      (some ⟨countOf s.counters id + 1, (s.counters id).bind Counter.left⟩)
    since := Function.update s.since id 0 }

def attemptOf (s : State) (id : TakeId) : Attempt :=
  ⟨id, s.life id, countOf s.counters id + 1⟩

/-- The counter gets its time to live. -/
def expire (s : State) (id : TakeId) : State :=
  { s with
    counters := Function.update s.counters id ((s.counters id).map fun counter =>
      { counter with left := some scoreBackfillAttemptTtlSeconds })
    since := Function.update s.since id 0 }

def sadd (s : State) (id : TakeId) : State :=
  { s with tracked := if id ∈ s.tracked then s.tracked else id :: s.tracked }

def srem (s : State) (id : TakeId) : State :=
  { s with tracked := s.tracked.filter fun other => other ≠ id }

/-- The take is handed to the scoring of this attempt. -/
def hand (s : State) (attempt : Attempt) : State :=
  { s with handed := attempt :: s.handed }

/-- The counter after some time, where it does not lapse. -/
def lasting (seconds : Nat) (counter : Counter) : Option Counter :=
  if counter.left.all fun left => seconds < left then
    some { counter with left := counter.left.map fun left => left - seconds }
  else none

/-- The time goes on, and counters lapse. -/
def pass (s : State) (seconds : Nat) : State :=
  { s with
    counters := fun id => (s.counters id).bind (lasting seconds)
    life := fun id =>
      if (s.counters id).isSome ∧ (s.counters id).bind (lasting seconds) = none then s.life id + 1
      else s.life id
    since := fun id => s.since id + seconds }

/-- The next command of a tick is served. -/
def runTick (s : State) (tick : TickId) (t : Tick) : Option State :=
  match t.point with
  | .listing =>
      let point := if s.tracked = [] then .picking else .resolving s.tracked
      some (s.putTick tick (t.moveTo point))
  | .resolving tracked => some (s.putTick tick (t.moveTo (clearing (tracked.filter s.scored))))
  | .deleting id rest => some ((s.dropCounter id).putTick tick (t.moveTo (.removing id rest)))
  | .removing id rest => some ((s.srem id).putTick tick (t.moveTo (clearing rest)))
  | .counting => some (s.putTick tick (t.count s.counters))
  | .recording id rest =>
      some ((s.incr id).putTick tick (t.moveTo (.expiring (s.attemptOf id) rest)))
  | .expiring attempt rest =>
      some ((s.expire attempt.id).putTick tick (t.moveTo (.tracking attempt rest)))
  | .tracking attempt rest =>
      some ((s.sadd attempt.id).putTick tick (t.moveTo (.handing attempt rest)))
  | .handing attempt rest => some ((s.hand attempt).putTick tick (t.goOn attempt.id rest))
  | .picking | .finished | .dead => none

/-- An exception in the attempt of a take, which the loop logs. -/
def failAttempt (s : State) (tick : TickId) (t : Tick) : Option State :=
  match t.point with
  | .recording id rest => some (s.putTick tick (t.goOn id rest))
  | .expiring attempt rest | .tracking attempt rest | .handing attempt rest =>
      some (s.putTick tick (t.goOn attempt.id rest))
  | _ => none

end State

/-- An order in which the query may return the unscored takes: oldest first. -/
def Answers (rows backlog : List Row) : Prop :=
  backlog.Perm (rows.filter fun row => !row.scored) ∧
    backlog.Pairwise fun older newer => older.createdAt ≤ newer.createdAt

instance (rows backlog : List Row) : Decidable (Answers rows backlog) :=
  inferInstanceAs (Decidable (_ ∧ _))

/-- A tick goes on, the database changes, and the time passes. -/
inductive Action where
  | starts (tick : TickId)
  | runs (tick : TickId)
  | picks (tick : TickId) (backlog : List Row)
  | attemptFails (tick : TickId)
  /-- The process dies, or a command outside the attempts raises. -/
  | dies (tick : TickId)
  /-- Takes are made and removed and get and lose scores. -/
  | database (rows : List Row)
  | passes (seconds : Nat)
deriving DecidableEq

def act (s : State) : Action → Option State
  | .starts tick =>
      if s.ticks tick = none then some (s.putTick tick ⟨.listing, [], [], []⟩) else none
  | .runs tick => (s.ticks tick).bind fun t => s.runTick tick t
  | .picks tick backlog =>
      (s.ticks tick).bind fun t =>
        if t.point = .picking ∧ Answers s.rows backlog then
          some (s.putTick tick { t with point := .counting, backlog := backlog })
        else none
  | .attemptFails tick => (s.ticks tick).bind fun t => s.failAttempt tick t
  | .dies tick => (s.ticks tick).map fun t => s.putTick tick (t.moveTo .dead)
  | .database rows => some { s with rows := rows }
  | .passes seconds => some (s.pass seconds)

/-- Before the first tick. -/
def Fresh (s : State) : Prop :=
  s.counters = (fun _ => none) ∧ s.ticks = (fun _ => none) ∧ s.handed = []

def backfill : TransitionSystem State Action :=
  .ofAct Fresh act

/-- The handed takes are the oldest of those that are left of the backlog, as many as a batch
holds. -/
def HandsOnOldest (backlog : List Row) (spent handed : List TakeId) : Prop :=
  ∃ oldest : List Row, oldest.map Row.id = handed ∧
    oldest.Sublist (backlog.filter fun row => row.id ∉ spent) ∧
    oldest.length =
      min scoreBackfillBatchSize (backlog.filter fun row => row.id ∉ spent).length ∧
    ∀ row ∈ backlog, row.id ∉ spent → row ∉ oldest →
      ∀ older ∈ oldest, older.createdAt ≤ row.createdAt

/-- The backfill starves nobody. -/
structure Serves (s : State) : Prop where
  oldest : ∀ tick t, s.ticks tick = some t → t.point.hasChosen = true →
    HandsOnOldest t.backlog t.spent (t.attempted ++ t.point.remaining)
  handed_le : ∀ id life,
    (s.handed.filter fun attempt => attempt.id = id ∧ attempt.life = life).length ≤
      scoreBackfillMaxAttempts
  lapses : ∀ id, (∀ tick, (s.ticks tick).bind (fun t => t.point.expires) ≠ some id) →
    (s.counters id).isSome = true → s.since id < scoreBackfillAttemptTtlSeconds

/-! ### When it does -/

/-- Among the takes that the tick reads, enough have attempts left. -/
def WindowHolds (counters : TakeId → Option Counter) (t : Tick) : Prop :=
  min scoreBackfillBatchSize
      (t.backlog.filter fun row =>
        row.id ∉ exhaustedBackfillIds counters (t.backlog.map Row.id)).length ≤
    (t.candidates.filter fun row =>
      row.id ∉ exhaustedBackfillIds counters (t.candidates.map Row.id)).length

/-- A tick that stops here leaves no counter behind that never lapses. -/
def LeavesTtl (s : State) (tick : TickId) (t : Tick) : Prop :=
  ∀ id ∈ t.point.expires, ∀ counter ∈ s.counters id, counter.left = none →
    ∃ other, other ≠ tick ∧ (s.ticks other).bind (fun t => t.point.expires) = some id

/-- What a tick counts or chooses next. -/
def RunsSoundly (s : State) (t : Tick) : Prop :=
  match t.point with
  | .counting => WindowHolds s.counters t
  | .recording id _ => countOf s.counters id < scoreBackfillMaxAttempts
  | _ => True

def Sound (s : State) : Action → Prop
  | .runs tick => ∀ t ∈ s.ticks tick, RunsSoundly s t
  | .attemptFails tick => ∀ t ∈ s.ticks tick, LeavesTtl s tick t
  | .dies tick => ∀ t ∈ s.ticks tick, LeavesTtl s tick t
  | _ => True

end Songmaker.Scoring.ScoreBackfill
