namespace OutboxRelay

/-- One who waits for a wake-up, and whether it came but was not taken yet. -/
structure Waiter (κ : Type) where
  key : κ
  woken : Bool
  deriving Repr, DecidableEq

/-- A signal that wakes one waiter at a time. Without a waiter one wake-up is kept, and never more
than one. The waiters stand in the order in which they came. -/
structure Wakeup (κ : Type) where
  permit : Bool := false
  waiters : List (Waiter κ) := []
  deriving Repr, DecidableEq

namespace Wakeup

variable {κ : Type}

/-- Wakes the first waiter that is not woken yet; there may be none. -/
def wakeFirst? : List (Waiter κ) → Option (List (Waiter κ))
  | [] => none
  | waiter :: rest =>
    if waiter.woken then (wakeFirst? rest).map (waiter :: ·)
    else some ({ waiter with woken := true } :: rest)

def notify (w : Wakeup κ) : Wakeup κ :=
  match wakeFirst? w.waiters with
  | some waiters => { w with waiters }
  | none => { w with permit := true }

/-- Asks once without waiting. -/
def poll (w : Wakeup κ) : Bool × Wakeup κ :=
  (w.permit, { w with permit := false })

/-- Takes the kept wake-up or lines up. -/
def wait (w : Wakeup κ) (key : κ) : Bool × Wakeup κ :=
  if w.permit then (true, { w with permit := false })
  else (false, { w with waiters := w.waiters ++ [⟨key, false⟩] })

variable [DecidableEq κ]

def find? (w : Wakeup κ) (key : κ) : Option (Waiter κ) :=
  w.waiters.find? fun waiter => waiter.key = key

def remove (w : Wakeup κ) (key : κ) : Wakeup κ :=
  { w with waiters := w.waiters.filter fun waiter => waiter.key ≠ key }

/-- Whether a waiter was woken; then it leaves. -/
def check (w : Wakeup κ) (key : κ) : Option Bool × Wakeup κ :=
  match w.find? key with
  | none => (none, w)
  | some waiter => if waiter.woken then (some true, w.remove key) else (some false, w)

/-- A waiter leaves. A wake-up that it did not take goes on to the next one. -/
def drop (w : Wakeup κ) (key : κ) : Bool × Wakeup κ :=
  match w.find? key with
  | none => (false, w)
  | some waiter =>
    let rest := w.remove key
    (true, if waiter.woken then rest.notify else rest)

end Wakeup

end OutboxRelay
