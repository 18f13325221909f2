import Songmaker.Foundation.ExpiringSet
import Songmaker.Foundation.TransitionSystem

namespace Songmaker.Redis.LeaseLimiter

open Songmaker.Foundation

def microsPerSecond : Nat := 1000000

/-- The arguments that one `RedisConcurrentLeaseLimiter` passes to its scripts. -/
structure Limiter where
  maxPerScope : Nat
  maxGlobal : Nat
  leaseSeconds : Nat
deriving DecidableEq

variable {Scope Token : Type}

/-- The two sorted sets of leases, for the scope and for all of them. -/
structure Keys (Scope Token : Type) where
  scopeKey : Scope → ExpiringSet Token
  globalKey : ExpiringSet Token

/-- The members that are left once those up to `now` are removed. -/
def pruned (key : ExpiringSet Token) (now : Nat) : ExpiringSet Token :=
  { key with set := (key.read now).removeUpTo now }

/-- When a lease that is granted now expires. -/
def Limiter.expiresAt (limiter : Limiter) (now : Nat) : Nat :=
  now + limiter.leaseSeconds * microsPerSecond

variable [DecidableEq Scope] [DecidableEq Token]

/-- `ZADD` and `EXPIRE` on one key. -/
def Limiter.addLease (limiter : Limiter) (key : ExpiringSet Token) (now : Nat) (token : Token) :
    ExpiringSet Token where
  set := key.set.add (limiter.expiresAt now) token
  deadline := now + (limiter.leaseSeconds + 1) * microsPerSecond

/-- `_LUA_ACQUIRE`. -/
def Limiter.acquire (limiter : Limiter) (keys : Keys Scope Token) (now : Nat) (scope : Scope)
    (token : Token) : Bool × Keys Scope Token :=
  let scopeKey := pruned (keys.scopeKey scope) now
  let globalKey := pruned keys.globalKey now
  if limiter.maxPerScope ≤ scopeKey.set.card ∨ limiter.maxGlobal ≤ globalKey.set.card then
    (false, ⟨Function.update keys.scopeKey scope scopeKey, globalKey⟩)
  else
    (true,
      ⟨Function.update keys.scopeKey scope (limiter.addLease scopeKey now token),
        limiter.addLease globalKey now token⟩)

def removed (key : ExpiringSet Token) (now : Nat) (token : Token) : ExpiringSet Token :=
  { key with set := (key.read now).remove token }

/-- `_LUA_RELEASE`. -/
def release (keys : Keys Scope Token) (now : Nat) (scope : Scope) (token : Token) :
    Keys Scope Token where
  scopeKey := Function.update keys.scopeKey scope (removed (keys.scopeKey scope) now token)
  globalKey := removed keys.globalKey now token

/-- A lease that an acquire has been granted. -/
structure Lease (Scope Token : Type) where
  scope : Scope
  token : Token
  expiresAt : Nat
deriving DecidableEq

/-- `leases` is a record that Redis does not keep: the granted leases that have
not been released. -/
structure State (Scope Token : Type) where
  keys : Keys Scope Token
  clock : Nat
  leases : List (Lease Scope Token)

namespace State

variable (state : State Scope Token)

omit [DecidableEq Scope] [DecidableEq Token] in
def unexpired : List (Lease Scope Token) :=
  state.leases.filter fun lease => state.clock < lease.expiresAt

omit [DecidableEq Token] in
def unexpiredIn (scope : Scope) : List (Lease Scope Token) :=
  state.unexpired.filter fun lease => lease.scope = scope

omit [DecidableEq Scope] in
def withoutToken (token : Token) : List (Lease Scope Token) :=
  state.leases.filter fun lease => lease.token ≠ token

omit [DecidableEq Scope] [DecidableEq Token] in
/-- A token names one lease, of one scope. -/
def TokenOf (scope : Scope) (token : Token) : Prop :=
  ∀ lease ∈ state.leases, lease.token = token → lease.scope = scope

instance (scope : Scope) (token : Token) : Decidable (state.TokenOf scope token) :=
  inferInstanceAs (Decidable (∀ lease ∈ state.leases, _ → _))

end State

/-- A script that is sent again after its answer was lost takes the same token again. -/
inductive Action (Scope Token : Type) where
  | acquire (scope : Scope) (token : Token)
  | release (scope : Scope) (token : Token)
  | elapse (time : Nat)
deriving DecidableEq

def act (limiter : Limiter) (state : State Scope Token) :
    Action Scope Token → Option (State Scope Token)
  | .acquire scope token =>
      if state.TokenOf scope token then
        let (acquired, keys) := limiter.acquire state.keys state.clock scope token
        some
          { state with
            keys := keys
            leases :=
              if acquired then
                state.withoutToken token ++ [⟨scope, token, limiter.expiresAt state.clock⟩]
              else state.leases }
      else none
  | .release scope token =>
      if state.TokenOf scope token then
        some
          { state with
            keys := release state.keys state.clock scope token
            leases := state.withoutToken token }
      else none
  | .elapse time => some { state with clock := state.clock + time }

def empty : State Scope Token where
  keys := ⟨fun _ => .missing, .missing⟩
  clock := 0
  leases := []

/-- The limiter before any lease, and its steps. -/
def leaseSystem (Scope Token : Type) [DecidableEq Scope] [DecidableEq Token]
    (limiter : Limiter) : TransitionSystem (State Scope Token) (Action Scope Token) :=
  .ofAct (· = empty) (act limiter)

end Songmaker.Redis.LeaseLimiter
