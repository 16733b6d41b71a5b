/-!
# Schedules

A schedule says whose turn it is. It has two queues: the **inside** one holds those who can go on
because of what has happened while the client waits, the **outside** one those who can go on because
of what the client did before. It has alarms, and a clock that counts milliseconds.

**Selection is fair.** The inside queue comes first, but every so often the outside queue does
(`next?`), so that no one waits for ever. Turns come in rounds of a fixed length, and between two
rounds the client looks.

**Time moves only when nothing else can happen**: the clock jumps to the earliest alarm once no one
can go on. A schedule that has been stirred, by something that the client did or was told, first
spends one round in vain (`rest`).
-/

namespace TraceReconciler

/-- Who takes turns. -/
inductive Party where
  /-- The client, which has no turns of its own: it looks between the rounds. -/
  | client
  /-- An actor, by its number. -/
  | actor (i : Nat)
  /-- A call of the client, by its number. -/
  | call (i : Nat)
deriving DecidableEq

/-- A party whose turn it is. -/
structure Turn where
  party : Party
  /-- Whether what it has waited for has come. -/
  isDue : Bool := false
deriving DecidableEq

/-- An alarm that a party has set. -/
structure Alarm where
  party : Party
  /-- When it goes off. -/
  instant : Nat
deriving DecidableEq

/-- Who can go on, and when the others can. -/
structure Schedule where
  /-- Those who can go on since the client waits, in order. -/
  inside : List Turn := []
  /-- Those who can go on because of what the client did, in order. -/
  outside : List Turn := []
  /-- Those whose turn allowed no more, latest first. -/
  paused : List Party := []
  /-- The alarms that have not gone off, in the order in which they were set. -/
  alarms : List Alarm := []
  /-- The milliseconds gone by. -/
  clock : Nat := 0
  /-- How often someone has been looked for whose turn it is. -/
  count : Nat := 0
  /-- Whether the client has done something, or has been told to look, since the last round in which
  no one was left. -/
  isStirred : Bool := false
deriving DecidableEq

namespace Schedule

/-- The turns in a round. -/
def roundLength : Nat := 61

/-- Of so many turns one goes to the outside queue first. -/
def outsideEvery : Nat := 31

/-- Whether a party has a turn to come. -/
def expects (p : Party) (s : Schedule) : Bool := (s.inside ++ s.outside).any fun t ↦ t.party = p

/-- A party can go on because of what the client does. -/
def invite (p : Party) (s : Schedule) : Schedule :=
  { s with outside := s.outside ++ [{ party := p }], isStirred := true }

/-- A party can go on while the client waits. -/
def ready (p : Party) (s : Schedule) : Schedule :=
  { s with inside := s.inside ++ [{ party := p }] }

/-- A party pauses. It goes on after the round. -/
def pause (p : Party) (s : Schedule) : Schedule := { s with paused := p :: s.paused }

/-- The client is told to look. -/
def stir (s : Schedule) : Schedule := { s with isStirred := true }

/-! ### Alarms -/

/-- A party sets an alarm. -/
def setAlarm (p : Party) (delay : Nat) (s : Schedule) : Schedule :=
  { s with alarms := s.alarms ++ [⟨p, s.clock + delay⟩] }

/-- Whether an alarm of a party has not gone off yet. -/
def hasAlarm (p : Party) (s : Schedule) : Bool := s.alarms.any fun a ↦ a.party = p

/-- The alarms of a party do not matter any more. -/
def clearAlarms (p : Party) (s : Schedule) : Schedule :=
  { s with alarms := s.alarms.filter fun a ↦ a.party ≠ p }

/-- **The stops on the way** from an instant to a later one. The way is found by digits in base 64,
leading ones first: one stop sets the first digit right in which the two differ, and every digit
after it that is not zero takes another. The first argument says how many places there are before
the last; what is beyond the first place is gone through lap by lap. -/
def stops : Nat → Nat → Nat → Nat
  | 0, now, instant => (instant - now + 63) / 64
  | n + 1, now, instant =>
    if now / 64 = instant / 64 then 1
    else stops n (now / 64) (instant / 64) + min 1 (instant % 64)

/-- The clock jumps to an instant, and the alarms that are due go off. At every stop before it,
someone is looked for in vain. The client is told to look if an alarm of its own goes off. -/
def jump (instant : Nat) (s : Schedule) : Schedule :=
  let (due, later) := s.alarms.partition fun a ↦ a.instant ≤ instant
  let (own, others) := due.partition fun a ↦ a.party = .client
  { s with
    clock := instant
    alarms := later
    inside := s.inside ++ others.map fun a ↦ ⟨a.party, true⟩
    count := s.count + (stops 5 s.clock instant - 1)
    isStirred := !own.isEmpty }

/-! ### Rounds -/

/-- **Whose turn it is**: the first in the inside queue, or else in the outside one; every so often
it is the other way about. Every look is counted, also one in vain. -/
def next? (s : Schedule) : Option Turn × Schedule :=
  let count := s.count + 1
  match s.inside, s.outside with
  | [], [] => (none, { s with count })
  | t :: inside, [] => (some t, { s with count, inside })
  | [], t :: outside => (some t, { s with count, outside })
  | t :: inside, u :: outside =>
    if count % outsideEvery = 0 then (some u, { s with count, outside })
    else (some t, { s with count, inside })

/-- Those who have paused can go on, the one that paused last first. -/
def resume (s : Schedule) : Schedule :=
  { s with
    inside := s.inside ++ s.paused.map fun p ↦ { party := p }
    paused := []
    isStirred := false }

/-- **A round ends**, given whether it was a full one, with whether anything can happen after it.
The clock stands still after a full round, and as long as someone pauses. -/
def rest (isFull : Bool) (s : Schedule) : Bool × Schedule :=
  if isFull ∨ !s.paused.isEmpty then (true, s.resume)
  else
    match (s.alarms.map Alarm.instant).min? with
    | none => (false, s)
    | some t => (true, if s.isStirred then { s with isStirred := false } else s.jump t)

end Schedule

end TraceReconciler
