set_option autoImplicit false

namespace Catalog

structure Duration where
  seconds : UInt64
  nanoseconds : UInt32
  deriving DecidableEq, Repr

def Duration.zero : Duration := ⟨0, 0⟩

def Duration.ofSeconds (seconds : UInt64) : Duration := ⟨seconds, 0⟩

def nanosecondsPerSecond : Nat := 1000000000

/-- Carries whole seconds out of the nanoseconds; none if the seconds then exceed their range. -/
def Duration.of? (seconds : UInt64) (nanoseconds : UInt32) : Option Duration :=
  let total := seconds.toNat + nanoseconds.toNat / nanosecondsPerSecond
  if total < UInt64.size then
    some ⟨UInt64.ofNat total, UInt32.ofNat (nanoseconds.toNat % nanosecondsPerSecond)⟩
  else none

structure Timeout where
  duration : Duration
  nonzero : duration ≠ .zero
  deriving DecidableEq

def Timeout.of? (duration : Duration) : Option Timeout :=
  if h : duration = .zero then none else some ⟨duration, h⟩

theorem Timeout.of?_eq_none_iff (duration : Duration) :
    Timeout.of? duration = none ↔ duration = .zero := by
  unfold Timeout.of?
  split <;> simp_all

end Catalog
