import Mailroom.Batch.Accumulator
import Mailroom.Batch.PassThrough

/-!
# Caches

A handler of messages asks for the same things whether its effects are held back or not. A cache
is what it asks: lookups, jobs and threads to hand over no later than the next flush, and the
flush itself.
-/

namespace Mailroom.Batch

/-- A cache for jobs in memory. -/
class Cache (C : Type) (Work : outParam Type) where
  /-- What is remembered. -/
  lookups : C → Lookups
  /-- The cache with other things remembered. -/
  withLookups : Lookups → C → C
  /-- Whether effects are held back. -/
  holdsBack : C → Bool
  /-- Hands a job over no later than the next flush. -/
  addJob {σ : Type} : Outlet Work σ → Work → C → σ → Effect BatchError Unit C σ
  /-- Moves a thread to the top no later than the next flush. -/
  addThread {σ : Type} : Outlet Work σ → ThreadId → C → σ → Effect BatchError Unit C σ
  /-- Forgets all that was remembered and hands over what was held back. -/
  flush {σ : Type} : Outlet Work σ → C → σ → Effect BatchError Unit C σ

instance {Work : Type} : Cache (Accumulator Work) Work where
  lookups cache := cache.lookups
  withLookups lookups cache := { cache with lookups := lookups }
  holdsBack _ := true
  addJob _ work cache state := ⟨.ok (), cache.addJob work, state⟩
  addThread _ id cache state := ⟨.ok (), cache.addThread id, state⟩
  flush := Accumulator.flush

/-- A cache in either style. -/
inductive AnyCache (Work : Type) where
  | accumulating (cache : Accumulator Work)
  | passing (cache : PassThrough)

namespace AnyCache

variable {Work : Type}

/-- What is remembered. -/
def lookups : AnyCache Work → Lookups
  | .accumulating cache => cache.lookups
  | .passing cache => cache.lookups

/-- The cache with other things remembered. -/
def withLookups (lookups : Lookups) : AnyCache Work → AnyCache Work
  | .accumulating cache => .accumulating { cache with lookups := lookups }
  | .passing _ => .passing ⟨lookups⟩

end AnyCache

/-- The effect of a call on a cache inside another. -/
def Effect.wrap {ε α C D σ : Type} (wrap : C → D) (effect : Effect ε α C σ) : Effect ε α D σ :=
  ⟨effect.answer, wrap effect.cache, effect.state⟩

instance {Work : Type} : Cache (AnyCache Work) Work where
  lookups := AnyCache.lookups
  withLookups := AnyCache.withLookups
  holdsBack
    | .accumulating _ => true
    | .passing _ => false
  addJob outlet work cache state :=
    match cache with
    | .accumulating cache => ⟨.ok (), .accumulating (cache.addJob work), state⟩
    | .passing cache => (cache.addJob outlet work state).wrap .passing
  addThread outlet id cache state :=
    match cache with
    | .accumulating cache => ⟨.ok (), .accumulating (cache.addThread id), state⟩
    | .passing cache => (cache.addThread outlet id state).wrap .passing
  flush outlet cache state :=
    match cache with
    | .accumulating cache => (cache.flush outlet state).wrap .accumulating
    | .passing cache => ⟨.ok (), .passing cache.flush, state⟩

end Mailroom.Batch
