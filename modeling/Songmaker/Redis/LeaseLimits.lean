import Songmaker.Redis.LeaseLimiter

namespace Songmaker.Redis.LeaseLimits

open Songmaker.Foundation
open Songmaker.Redis.LeaseLimiter

variable {Scope Token : Type}

def entryOf (lease : Lease Scope Token) : Token × Nat :=
  (lease.token, lease.expiresAt)

/-- The entries of a key that have not expired are those that `Held` says, and
the key outlives all of them. -/
structure Tracks (limiter : Limiter) (clock : Nat) (key : ExpiringSet Token)
    (Held : Token × Nat → Prop) : Prop where
  lasts : key.Lasts
  bounded : ∀ entry ∈ key.set.entries, entry.2 ≤ limiter.expiresAt clock
  mem : ∀ entry, clock < entry.2 → (entry ∈ key.set.entries ↔ Held entry)

section Keys

variable {limiter : Limiter} {clock : Nat} {key : ExpiringSet Token}
  {Held Held' : Token × Nat → Prop}

theorem Tracks.congr (h : Tracks limiter clock key Held)
    (hheld : ∀ entry, Held entry ↔ Held' entry) : Tracks limiter clock key Held' where
  lasts := h.lasts
  bounded := h.bounded
  mem entry hlater := (h.mem entry hlater).trans (hheld entry)

theorem Tracks.elapse (h : Tracks limiter clock key Held) (time : Nat) :
    Tracks limiter (clock + time) key Held where
  lasts := h.lasts
  bounded entry hentry := by
    have hbound := h.bounded entry hentry
    unfold Limiter.expiresAt at hbound ⊢
    omega
  mem entry hlater := h.mem entry (by omega)

theorem mem_pruned {entry : Token × Nat} (hlasts : key.Lasts) :
    entry ∈ (pruned key clock).set.entries ↔ entry ∈ key.set.entries ∧ clock < entry.2 := by
  simp only [pruned, SortedSet.mem_removeUpTo]
  constructor
  · rintro ⟨hentry, hlater⟩
    exact ⟨(ExpiringSet.mem_read hlasts hlater).mp hentry, hlater⟩
  · rintro ⟨hentry, hlater⟩
    exact ⟨(ExpiringSet.mem_read hlasts hlater).mpr hentry, hlater⟩

theorem Tracks.pruned (h : Tracks limiter clock key Held) :
    Tracks limiter clock (pruned key clock) Held where
  lasts entry hentry := h.lasts entry ((mem_pruned h.lasts).mp hentry).1
  bounded entry hentry := h.bounded entry ((mem_pruned h.lasts).mp hentry).1
  mem entry hlater := by
    rw [mem_pruned h.lasts, h.mem entry hlater]
    exact and_iff_left hlater

/-- The removed entries and those of an expired lease are all that a pruned key lacks. -/
theorem Tracks.card_pruned (h : Tracks limiter clock key Held) {leases : List (Lease Scope Token)}
    (hnodup : (leases.map (·.token)).Nodup)
    (hmem : ∀ entry, entry ∈ leases.map entryOf ↔ Held entry ∧ clock < entry.2) :
    (LeaseLimiter.pruned key clock).set.card = leases.length := by
  have hentries : (leases.map entryOf).Nodup := by
    apply List.Nodup.of_map Prod.fst
    rw [List.map_map]
    exact hnodup
  rw [show leases.length = (leases.map entryOf).length from (List.length_map _).symm]
  apply SortedSet.card_eq_length hentries
  intro entry
  rw [mem_pruned h.lasts, hmem entry]
  constructor
  · rintro ⟨hentry, hlater⟩
    exact ⟨(h.mem entry hlater).mp hentry, hlater⟩
  · rintro ⟨hheld, hlater⟩
    exact ⟨(h.mem entry hlater).mpr hheld, hlater⟩

variable [DecidableEq Token]

theorem Tracks.addLease (h : Tracks limiter clock key Held) (token : Token) :
    Tracks limiter clock (limiter.addLease key clock token)
      (fun entry => Held entry ∧ entry.1 ≠ token ∨ entry = (token, limiter.expiresAt clock)) where
  lasts entry hentry := by
    have hbound : entry.2 ≤ limiter.expiresAt clock := by
      rcases (SortedSet.mem_add _ _ _ entry).mp hentry with ⟨hold, -⟩ | rfl
      · exact h.bounded entry hold
      · exact Nat.le_refl _
    show entry.2 ≤ clock + (limiter.leaseSeconds + 1) * microsPerSecond
    unfold Limiter.expiresAt at hbound
    rw [Nat.add_mul]
    omega
  bounded entry hentry := by
    rcases (SortedSet.mem_add _ _ _ entry).mp hentry with ⟨hold, -⟩ | rfl
    · exact h.bounded entry hold
    · exact Nat.le_refl _
  mem entry hlater := by
    show entry ∈ (key.set.add _ token).entries ↔ _
    rw [SortedSet.mem_add, h.mem entry hlater]

theorem Tracks.removed (h : Tracks limiter clock key Held) (token : Token) :
    Tracks limiter clock (removed key clock token)
      (fun entry => Held entry ∧ entry.1 ≠ token) where
  lasts entry hentry :=
    h.lasts entry (ExpiringSet.mem_of_mem_read ((SortedSet.mem_remove _ _ entry).mp hentry).1)
  bounded entry hentry :=
    h.bounded entry (ExpiringSet.mem_of_mem_read ((SortedSet.mem_remove _ _ entry).mp hentry).1)
  mem entry hlater := by
    show entry ∈ ((key.read clock).remove token).entries ↔ _
    rw [SortedSet.mem_remove, ExpiringSet.mem_read h.lasts hlater, h.mem entry hlater]

end Keys

def heldIn (leases : List (Lease Scope Token)) (scope : Scope) (entry : Token × Nat) : Prop :=
  ⟨scope, entry.1, entry.2⟩ ∈ leases

def held (leases : List (Lease Scope Token)) (entry : Token × Nat) : Prop :=
  ∃ scope, heldIn leases scope entry

/-- Both keys of a lease hold it, and hold nothing else that has not expired. -/
structure Agrees (limiter : Limiter) (state : State Scope Token) : Prop where
  tokens : (state.leases.map (·.token)).Nodup
  each : ∀ scope,
    Tracks limiter state.clock (state.keys.scopeKey scope) (heldIn state.leases scope)
  all : Tracks limiter state.clock state.keys.globalKey (held state.leases)

section Counts

variable [DecidableEq Scope] {limiter : Limiter} {state : State Scope Token}

/-- At no time do more unexpired leases exist than the limits allow. -/
structure WithinLimits (limiter : Limiter) (state : State Scope Token) : Prop where
  perScope : ∀ scope, (state.unexpiredIn scope).length ≤ limiter.maxPerScope
  total : state.unexpired.length ≤ limiter.maxGlobal

theorem Agrees.card_scope (h : Agrees limiter state) (scope : Scope) :
    (pruned (state.keys.scopeKey scope) state.clock).set.card =
      (state.unexpiredIn scope).length := by
  apply (h.each scope).card_pruned
  · exact h.tokens.sublist ((List.filter_sublist.trans List.filter_sublist).map _)
  · rintro ⟨token, expiresAt⟩
    simp only [State.unexpiredIn, State.unexpired, List.mem_map, List.mem_filter,
      decide_eq_true_eq, entryOf, heldIn, Prod.mk.injEq]
    constructor
    · rintro ⟨lease, ⟨⟨hlease, hlater⟩, rfl⟩, rfl, rfl⟩
      exact ⟨hlease, hlater⟩
    · rintro ⟨hlease, hlater⟩
      exact ⟨_, ⟨⟨hlease, hlater⟩, rfl⟩, rfl, rfl⟩

omit [DecidableEq Scope] in
theorem Agrees.card_all (h : Agrees limiter state) :
    (pruned state.keys.globalKey state.clock).set.card = state.unexpired.length := by
  apply h.all.card_pruned
  · exact h.tokens.sublist (List.filter_sublist.map _)
  · rintro ⟨token, expiresAt⟩
    simp only [State.unexpired, List.mem_map, List.mem_filter, decide_eq_true_eq, entryOf, held,
      heldIn, Prod.mk.injEq]
    constructor
    · rintro ⟨lease, ⟨hlease, hlater⟩, rfl, rfl⟩
      exact ⟨⟨lease.scope, hlease⟩, hlater⟩
    · rintro ⟨⟨scope, hlease⟩, hlater⟩
      exact ⟨_, ⟨hlease, hlater⟩, rfl, rfl⟩

variable [DecidableEq Token]

theorem Agrees.acquired_iff (h : Agrees limiter state) (scope : Scope) (token : Token) :
    (limiter.acquire state.keys state.clock scope token).1 = true ↔
      (state.unexpiredIn scope).length < limiter.maxPerScope ∧
        state.unexpired.length < limiter.maxGlobal := by
  simp only [Limiter.acquire, h.card_scope scope, h.card_all]
  split
  · rename_i hfull
    simp only [Bool.false_eq_true, false_iff]
    omega
  · rename_i hfree
    simp only [true_iff]
    omega

end Counts

section Steps

variable [DecidableEq Scope] [DecidableEq Token] {limiter : Limiter}
  {state next : State Scope Token} {scope : Scope} {token : Token}

omit [DecidableEq Scope] in
theorem mem_withoutToken {lease : Lease Scope Token} :
    lease ∈ state.withoutToken token ↔ lease ∈ state.leases ∧ lease.token ≠ token := by
  simp [State.withoutToken]

omit [DecidableEq Scope] in
theorem heldIn_withoutToken (htoken : state.TokenOf scope token) {other : Scope}
    (hother : other ≠ scope) (entry : Token × Nat) :
    heldIn (state.withoutToken token) other entry ↔ heldIn state.leases other entry := by
  unfold heldIn
  rw [mem_withoutToken]
  constructor
  · exact And.left
  · intro hlease
    exact ⟨hlease, fun hsame => hother (htoken _ hlease hsame)⟩

omit [DecidableEq Scope] in
theorem withoutToken_tokens (h : Agrees limiter state) :
    ((state.withoutToken token).map (·.token)).Nodup :=
  h.tokens.sublist (List.filter_sublist.map _)

theorem Agrees.release (h : Agrees limiter state) (htoken : state.TokenOf scope token) :
    Agrees limiter
      { state with
        keys := release state.keys state.clock scope token
        leases := state.withoutToken token } where
  tokens := withoutToken_tokens h
  each other := by
    show Tracks limiter state.clock (Function.update state.keys.scopeKey scope _ other) _
    by_cases hother : other = scope
    · subst hother
      rw [Function.update_self]
      refine ((h.each other).removed token).congr fun entry => ?_
      exact mem_withoutToken.symm
    · rw [Function.update_of_ne hother]
      exact (h.each other).congr fun entry => (heldIn_withoutToken htoken hother entry).symm
  all := by
    refine (h.all.removed token).congr fun entry => ?_
    constructor
    · rintro ⟨⟨other, hlease⟩, hne⟩
      exact ⟨other, mem_withoutToken.mpr ⟨hlease, hne⟩⟩
    · rintro ⟨other, hlease⟩
      exact ⟨⟨other, (mem_withoutToken.mp hlease).1⟩, (mem_withoutToken.mp hlease).2⟩

omit [DecidableEq Token] in
theorem Agrees.refuse (h : Agrees limiter state) :
    Agrees limiter
      { state with
        keys :=
          ⟨Function.update state.keys.scopeKey scope
              (pruned (state.keys.scopeKey scope) state.clock),
            pruned state.keys.globalKey state.clock⟩ } where
  tokens := h.tokens
  each other := by
    show Tracks limiter state.clock (Function.update state.keys.scopeKey scope _ other) _
    by_cases hother : other = scope
    · subst hother
      rw [Function.update_self]
      exact (h.each other).pruned
    · rw [Function.update_of_ne hother]
      exact h.each other
  all := h.all.pruned

/-- The leases after one more has been granted. -/
def granted (limiter : Limiter) (state : State Scope Token) (scope : Scope) (token : Token) :
    List (Lease Scope Token) :=
  state.withoutToken token ++ [⟨scope, token, limiter.expiresAt state.clock⟩]

omit [DecidableEq Scope] in
theorem heldIn_granted (other : Scope) (entry : Token × Nat) :
    heldIn (granted limiter state scope token) other entry ↔
      heldIn (state.withoutToken token) other entry ∨
        other = scope ∧ entry = (token, limiter.expiresAt state.clock) := by
  simp [heldIn, granted, Prod.ext_iff]

theorem Agrees.grant (h : Agrees limiter state) (htoken : state.TokenOf scope token) :
    Agrees limiter
      { state with
        keys :=
          ⟨Function.update state.keys.scopeKey scope
              (limiter.addLease (pruned (state.keys.scopeKey scope) state.clock) state.clock token),
            limiter.addLease (pruned state.keys.globalKey state.clock) state.clock token⟩
        leases := granted limiter state scope token } where
  tokens := by
    show ((granted limiter state scope token).map _).Nodup
    rw [granted, List.map_append, List.nodup_append]
    refine ⟨withoutToken_tokens h, List.nodup_singleton _, ?_⟩
    rintro first hfirst second hsecond rfl
    obtain ⟨lease, hlease, rfl⟩ := List.mem_map.mp hfirst
    exact (mem_withoutToken.mp hlease).2 (by simpa using hsecond)
  each other := by
    show Tracks limiter state.clock (Function.update state.keys.scopeKey scope _ other) _
    by_cases hother : other = scope
    · subst hother
      rw [Function.update_self]
      refine ((h.each other).pruned.addLease token).congr fun entry => ?_
      rw [heldIn_granted]
      simp only [true_and]
      exact or_congr mem_withoutToken.symm Iff.rfl
    · rw [Function.update_of_ne hother]
      refine (h.each other).congr fun entry => ?_
      rw [heldIn_granted, heldIn_withoutToken htoken hother]
      simp [hother]
  all := by
    refine (h.all.pruned.addLease token).congr fun entry => ?_
    constructor
    · rintro (⟨⟨other, hlease⟩, hne⟩ | rfl)
      · exact ⟨other, (heldIn_granted other entry).mpr (.inl (mem_withoutToken.mpr ⟨hlease, hne⟩))⟩
      · exact ⟨scope, (heldIn_granted scope _).mpr (.inr ⟨rfl, rfl⟩)⟩
    · rintro ⟨other, hlease⟩
      rcases (heldIn_granted other entry).mp hlease with hlease | ⟨-, rfl⟩
      · exact .inl ⟨⟨other, (mem_withoutToken.mp hlease).1⟩, (mem_withoutToken.mp hlease).2⟩
      · exact .inr rfl

theorem acquire_cases (h : Agrees limiter state)
    (hstep : act limiter state (.acquire scope token) = some next) :
    Agrees limiter next ∧ next.clock = state.clock ∧
      (next.leases = state.leases ∨
        next.leases = granted limiter state scope token ∧
          (state.unexpiredIn scope).length < limiter.maxPerScope ∧
          state.unexpired.length < limiter.maxGlobal) := by
  have hiff := h.acquired_iff scope token
  simp only [act] at hstep
  split at hstep
  · rename_i htoken
    obtain rfl := Option.some.inj hstep
    unfold Limiter.acquire at hiff ⊢
    by_cases hfull : limiter.maxPerScope ≤
        (pruned (state.keys.scopeKey scope) state.clock).set.card ∨
          limiter.maxGlobal ≤ (pruned state.keys.globalKey state.clock).set.card
    · simp only [if_pos hfull] at hiff ⊢
      exact ⟨h.refuse, trivial, .inl rfl⟩
    · simp only [if_neg hfull] at hiff ⊢
      exact ⟨h.grant htoken, trivial, .inr ⟨rfl, hiff.mp trivial⟩⟩
  · cases hstep

theorem release_cases (h : Agrees limiter state)
    (hstep : act limiter state (.release scope token) = some next) :
    Agrees limiter next ∧ next.clock = state.clock ∧
      next.leases = state.withoutToken token := by
  simp only [act] at hstep
  split_ifs at hstep with htoken
  obtain rfl := Option.some.inj hstep
  exact ⟨h.release htoken, rfl, rfl⟩

omit [DecidableEq Scope] [DecidableEq Token] in
theorem unexpired_sublist {leases later : List (Lease Scope Token)} {clock clock' : Nat}
    (hleases : later.Sublist leases) (hclock : clock ≤ clock') :
    (later.filter fun lease => clock' < lease.expiresAt).Sublist
      (leases.filter fun lease => clock < lease.expiresAt) := by
  refine (List.monotone_filter_right later fun lease hlater => ?_).trans (hleases.filter _)
  rw [decide_eq_true_eq] at hlater ⊢
  omega

omit [DecidableEq Token] in
theorem WithinLimits.of_sublist (h : WithinLimits limiter state)
    (hleases : next.leases.Sublist state.leases) (hclock : state.clock ≤ next.clock) :
    WithinLimits limiter next where
  perScope scope :=
    Nat.le_trans ((unexpired_sublist hleases hclock).filter _).length_le (h.perScope scope)
  total := Nat.le_trans (unexpired_sublist hleases hclock).length_le h.total

theorem WithinLimits.grant (h : WithinLimits limiter state) (hclock : next.clock = state.clock)
    (hleases : next.leases = granted limiter state scope token)
    (hscope : (state.unexpiredIn scope).length < limiter.maxPerScope)
    (htotal : state.unexpired.length < limiter.maxGlobal) : WithinLimits limiter next := by
  have hwithout : (state.withoutToken token).Sublist state.leases := List.filter_sublist
  have hrest := unexpired_sublist hwithout (Nat.le_refl state.clock)
  have hunexpired : next.unexpired = (state.withoutToken token).filter
      (fun lease => state.clock < lease.expiresAt) ++
        [(⟨scope, token, limiter.expiresAt state.clock⟩ : Lease Scope Token)].filter
          (fun lease => state.clock < lease.expiresAt) := by
    rw [State.unexpired, hleases, hclock, granted, List.filter_append]
  constructor
  · intro other
    rw [State.unexpiredIn, hunexpired, List.filter_append, List.length_append]
    have hold := (hrest.filter fun lease => lease.scope = other).length_le
    by_cases hother : other = scope
    · subst hother
      have hnew := List.length_filter_le
        (fun lease : Lease Scope Token => decide (lease.scope = other))
        ([⟨other, token, limiter.expiresAt state.clock⟩].filter
          fun lease => state.clock < lease.expiresAt)
      have hone := List.length_filter_le
        (fun lease : Lease Scope Token => decide (state.clock < lease.expiresAt))
        [⟨other, token, limiter.expiresAt state.clock⟩]
      rw [List.length_singleton] at hone
      exact Nat.le_trans (Nat.add_le_add hold (Nat.le_trans hnew hone)) hscope
    · have hnone : ([(⟨scope, token, limiter.expiresAt state.clock⟩ : Lease Scope Token)].filter
          fun lease => state.clock < lease.expiresAt).filter (fun lease => lease.scope = other) =
          [] := by
        rw [List.filter_eq_nil_iff]
        intro lease hlease
        obtain rfl := List.mem_singleton.mp (List.mem_filter.mp hlease).1
        simpa using Ne.symm hother
      rw [hnone]
      exact Nat.le_trans hold (h.perScope other)
  · rw [hunexpired, List.length_append]
    have hnew := List.length_filter_le
      (fun lease : Lease Scope Token => decide (state.clock < lease.expiresAt))
      [⟨scope, token, limiter.expiresAt state.clock⟩]
    rw [List.length_singleton] at hnew
    exact Nat.le_trans (Nat.add_le_add hrest.length_le hnew) htotal

/-- The sets hold the leases that were granted and not released, within the limits. -/
structure Invariant (limiter : Limiter) (state : State Scope Token) : Prop where
  agrees : Agrees limiter state
  within : WithinLimits limiter state

theorem Invariant.step (h : Invariant limiter state) {action : Action Scope Token}
    (hstep : act limiter state action = some next) : Invariant limiter next := by
  rcases action with ⟨scope, token⟩ | ⟨scope, token⟩ | time
  · obtain ⟨hagrees, hclock, hleases⟩ := acquire_cases h.agrees hstep
    refine ⟨hagrees, ?_⟩
    rcases hleases with hleases | ⟨hleases, hscope, htotal⟩
    · exact h.within.of_sublist (hleases ▸ .refl _) (Nat.le_of_eq hclock.symm)
    · exact h.within.grant hclock hleases hscope htotal
  · obtain ⟨hagrees, hclock, hleases⟩ := release_cases h.agrees hstep
    exact ⟨hagrees, h.within.of_sublist (hleases ▸ List.filter_sublist) (Nat.le_of_eq hclock.symm)⟩
  · obtain rfl := Option.some.inj hstep
    constructor
    · exact ⟨h.agrees.tokens, fun scope => (h.agrees.each scope).elapse time,
        h.agrees.all.elapse time⟩
    · exact h.within.of_sublist (.refl _) (Nat.le_add_right _ _)

omit [DecidableEq Token] in
theorem empty_invariant : Invariant limiter (empty : State Scope Token) := by
  have htracks : ∀ Held : Token × Nat → Prop, (∀ entry, ¬ Held entry) →
      Tracks limiter 0 ExpiringSet.missing Held := by
    intro Held hnone
    constructor
    · exact fun entry hentry => absurd hentry (by simp [ExpiringSet.missing])
    · exact fun entry hentry => absurd hentry (by simp [ExpiringSet.missing])
    · intro entry _
      simp [ExpiringSet.missing, hnone entry]
  constructor
  · constructor
    · exact List.nodup_nil
    · intro scope
      exact htracks _ fun entry => by simp [empty, heldIn]
    · exact htracks _ fun entry => by simp [empty, held, heldIn]
  · constructor
    · intro scope
      exact Nat.zero_le _
    · exact Nat.zero_le _

theorem invariant_leaseSystem (limiter : Limiter) :
    (leaseSystem Scope Token limiter).Invariant (Invariant limiter) where
  initial state h := by
    subst h
    exact empty_invariant
  step _ _ _ h hstep := h.step hstep

/-- The limits hold at every time, and an acquire is refused only while enough
unexpired leases exist: a released or expired lease takes no slot. -/
theorem leases_within_limits (limiter : Limiter) (state : State Scope Token)
    (hstate : (leaseSystem Scope Token limiter).Reachable state) :
    (∀ scope, (state.unexpiredIn scope).length ≤ limiter.maxPerScope) ∧
      state.unexpired.length ≤ limiter.maxGlobal ∧
      ∀ scope token, (limiter.acquire state.keys state.clock scope token).1 = true ↔
        (state.unexpiredIn scope).length < limiter.maxPerScope ∧
          state.unexpired.length < limiter.maxGlobal := by
  have hI := (invariant_leaseSystem limiter).of_reachable hstate
  refine ⟨hI.within.perScope, hI.within.total, ?_⟩
  intro scope token
  exact hI.agrees.acquired_iff scope token

end Steps

section Example

/-- One lease a user, two in all, for a second. -/
def oneEach : Limiter := ⟨1, 2, 1⟩

/-- Two users take both slots, one lease is released and the other expires. -/
def twoUsers : State Nat Nat :=
  TransitionSystem.lastOf empty (TransitionSystem.follow (act oneEach) empty
    [.acquire 0 0, .acquire 1 1, .acquire 0 2, .release 0 0, .acquire 0 3, .elapse 1000000])

theorem leases_within_limits_twoUsers :
    twoUsers.leases.length = 2 ∧ twoUsers.unexpired.length ≤ 2 ∧
      (oneEach.acquire twoUsers.keys twoUsers.clock 0 4).1 = true := by
  have hreach : (leaseSystem Nat Nat oneEach).Reachable twoUsers :=
    TransitionSystem.reachable_follow
      (TransitionSystem.Reachable.initial (M := leaseSystem Nat Nat oneEach) rfl) _
  obtain ⟨-, htotal, hacquire⟩ := leases_within_limits oneEach twoUsers hreach
  refine ⟨by decide +kernel, htotal, (hacquire 0 4).mpr ?_⟩
  decide +kernel

end Example

end Songmaker.Redis.LeaseLimits
