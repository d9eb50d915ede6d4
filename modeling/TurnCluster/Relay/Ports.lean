import Mathlib.Algebra.Group.Nat.Defs
import Mathlib.Logic.Function.Basic
import TurnCluster.Lib.Run

namespace TurnCluster
namespace Ports

def tpsOutOfRange : UInt32 := 0xFFFFFFFF
def tpsTakenSingle : UInt32 := 0xFFFFFFFE
def tpsTakenEven : UInt32 := 0xFFFFFFFD
def tpsTakenOdd : UInt32 := 0xFFFFFFFC

/-- `struct _turnports`: the ring `ports` between the running counters `low` and
`high`, and for each port its ring position or one of the markers above. -/
structure Turnports where
  status : UInt16 → UInt32
  low : UInt32
  high : UInt32
  rangeStart : UInt16
  rangeStop : UInt16
  ports : UInt16 → UInt16

def isTaken (status : UInt32) : Bool :=
  status == tpsTakenSingle || status == tpsTakenEven || status == tpsTakenOdd

/-- One round of `turnports_randomize` with its two random numbers. -/
def randomizeStep (tp : Turnports) (size : UInt32) (random1 random2 : Nat) : Turnports :=
  let port1 := tp.low.toUInt16 + UInt16.ofNat (random1 % size.toNat)
  let port2 := tp.low.toUInt16 + UInt16.ofNat (random2 % size.toNat)
  if port1 = port2 then tp
  else
    let pos1 := (tp.status port1).toUInt16
    let pos2 := (tp.status port2).toUInt16
    { tp with
      status := Function.update (Function.update tp.status port1 (tp.status port2)) port2 (tp.status port1)
      ports := Function.update (Function.update tp.ports pos1 (tp.ports pos2)) pos2 (tp.ports pos1) }

def turnportsRandomize (tp : Turnports) (random : Nat → Nat) : Turnports :=
  (List.range ((tp.high - tp.low) * 10).toNat).foldl
    (fun tp' i => randomizeStep tp' (tp.high - tp.low) (random (2 * i)) (random (2 * i + 1))) tp

/-- The tables before the shuffle. -/
def turnportsTable (start stop : UInt16) : Turnports where
  status port := if start ≤ port ∧ port ≤ stop then port.toUInt32 else tpsOutOfRange
  low := start.toUInt32
  high := stop.toUInt32 + 1
  rangeStart := start
  rangeStop := stop
  ports position := position

def turnportsInit (start stop : UInt16) (random : Nat → Nat) : Turnports :=
  turnportsRandomize (turnportsTable start stop) random

def turnportsSize (tp : Turnports) : UInt16 := (tp.high - tp.low).toUInt16

/-- The loop of `turnports_allocate`; `none` stands for the returned -1. -/
def allocateLoop : Nat → Turnports → Option UInt16 × Turnports
  | 0, tp => (none, tp)
  | fuel + 1, tp =>
    if tp.high ≤ tp.low then (none, tp)
    else
      let port := tp.ports tp.low.toUInt16
      if port < tp.rangeStart ∨ tp.rangeStop < port then (none, tp)
      else if isTaken (tp.status port) then allocateLoop fuel { tp with low := tp.low + 1 }
      else if tp.status port ≠ tp.low then allocateLoop fuel { tp with low := tp.low + 1 }
      else (some port,
        { tp with status := Function.update tp.status port tpsTakenSingle, low := tp.low + 1 })

/-- The counter `low` moves up to `high` at most, so the loop ends. -/
def turnportsAllocate (tp : Turnports) : Option UInt16 × Turnports :=
  allocateLoop (tp.high.toNat - tp.low.toNat + 1) tp

def turnportsRelease (tp : Turnports) (port : UInt16) : Turnports :=
  if tp.rangeStart ≤ port ∧ port ≤ tp.rangeStop ∧ isTaken (tp.status port) = true then
    { tp with
      status := Function.update tp.status port tp.high
      ports := Function.update tp.ports tp.high.toUInt16 port
      high := tp.high + 1 }
  else tp

def turnportsIsAvailable (tp : Turnports) (port : UInt16) : Bool :=
  let status := tp.status port
  status != tpsOutOfRange && !isTaken status && tp.ports status.toUInt16 == port

/-- An even port, with the token that stands for the odd port reserved beside it. -/
structure EvenPort where
  port : UInt16
  token : Option UInt64
  deriving DecidableEq, Repr

def reservationToken (tp : Turnports) (random : UInt32) : UInt64 :=
  UInt64.ofNat ((tp.ports tp.low.toUInt16).toNat + 2 ^ 16 * (tp.ports tp.high.toUInt16).toNat +
    2 ^ 32 * random.toNat)

/-- The rounds of `turnports_allocate_even`. A failed allocation returns -1,
which is odd, and is given back as the 16-bit port 0xFFFF. -/
def evenLoop (allocateRtcp : Bool) (random : UInt32) : Nat → Turnports → Option EvenPort × Turnports
  | 0, tp => (none, tp)
  | rounds + 1, tp =>
    match turnportsAllocate tp with
    | (none, tp) => evenLoop allocateRtcp random rounds (turnportsRelease tp 0xFFFF)
    | (some port, tp) =>
      if port.toNat % 2 = 1 then evenLoop allocateRtcp random rounds (turnportsRelease tp port)
      else if allocateRtcp = false then (some ⟨port, none⟩, tp)
      else if tp.rangeStop.toNat < port.toNat + 1 then
        evenLoop allocateRtcp random rounds (turnportsRelease tp port)
      else if turnportsIsAvailable tp (port + 1) = false then
        evenLoop allocateRtcp random rounds (turnportsRelease tp port)
      else
        let tp' := { tp with status := Function.update (Function.update tp.status port tpsTakenEven)
                                (port + 1) tpsTakenOdd }
        (some ⟨port, some (reservationToken tp' random)⟩, tp')

def turnportsAllocateEven (tp : Turnports) (allocateRtcp : Bool) (random : UInt32) :
    Option EvenPort × Turnports :=
  if 1 < turnportsSize tp then evenLoop allocateRtcp random (turnportsSize tp).toNat tp
  else (none, tp)

end Ports
end TurnCluster
