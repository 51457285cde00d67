import TestMatrix.Random.ChaCha

/-!
# A reproducible stream of numbers in the unit interval

A `RandomStream` is a seed and the number of values drawn from it so far, so that two runs with the
same seed that draw as often see the same values. `draw` takes one value; `chance` and `choose` are
decisions that cost one draw each.

`slot` is the weighted choice without its randomness: it says on which of a list of weights a given
fraction of the total falls. Whatever the weights and the fraction, it stays inside the list
(`slot_lt`).
-/

namespace TestMatrix

/-- A position in the stream of numbers that `seed` determines. -/
structure RandomStream where
  /-- The seed that the stream is determined by. -/
  seed : UInt64
  /-- How many values have been drawn. -/
  draws : Nat := 0
deriving DecidableEq, Repr, Inhabited

namespace RandomStream

/-- The stream of `seed`, with nothing drawn yet. -/
def ofSeed (seed : UInt64) : RandomStream := { seed }

/-- The spacing `2 ^ -53` of the values that can be drawn. -/
def spacing : Float := Float.ofBits 0x3CA0000000000000

/-- The value about to be drawn: 53 random bits as a multiple of `spacing`, so at least 0 and
below 1. -/
def value (s : RandomStream) : Float :=
  spacing * (Random.word s.seed s.draws >>> 11).toFloat

/-- The stream after `n` draws. -/
def skip (s : RandomStream) (n : Nat) : RandomStream := { s with draws := s.draws + n }

/-- No draws leave the stream where it is. -/
theorem skip_zero (s : RandomStream) : s.skip 0 = s := rfl

/-- Draws add up. -/
theorem skip_skip (s : RandomStream) (m n : Nat) : (s.skip m).skip n = s.skip (m + n) := by
  rw [skip, skip, skip, Nat.add_assoc]

/-- Draws one value. -/
def draw (s : RandomStream) : Float × RandomStream := (s.value, s.skip 1)

/-- True with probability `p`, at the cost of one draw. -/
def chance (s : RandomStream) (p : Float) : Bool × RandomStream := (s.value < p, s.skip 1)

end RandomStream

/-! ## Weighted choice -/

/-- The first weight whose running total, counted from `below`, exceeds `target`; the last weight
if none does. -/
def slotFrom (target : Float) : Float → List Float → Nat
  | _, [] => 0
  | _, [_] => 0
  | below, w :: rest => if target < below + w then 0 else slotFrom target (below + w) rest + 1

/-- The sum of the weights, added from the left. -/
def totalWeight (weights : List Float) : Float := weights.foldl (· + ·) 0

/-- The position of the weight on which the given fraction of the total falls. -/
def slot (fraction : Float) (weights : List Float) : Nat :=
  slotFrom (fraction * totalWeight weights) 0 weights

/-- A slot is the place of one of the weights. -/
theorem slotFrom_lt (target below : Float) (weights : List Float) (h : weights ≠ []) :
    slotFrom target below weights < weights.length := by
  induction weights generalizing below with
  | nil => exact absurd rfl h
  | cons w rest ih =>
    cases rest with
    | nil => simp [slotFrom]
    | cons w' rest =>
      rw [slotFrom]
      · split
        · simp
        · exact Nat.succ_lt_succ (ih _ (by simp))
      · simp

/-- A choice among some weights is one of them. -/
theorem slot_lt (fraction : Float) (weights : List Float) (h : weights ≠ []) :
    slot fraction weights < weights.length :=
  slotFrom_lt _ _ _ h

/-- A weighted choice among `weights`, at the cost of one draw; nothing is drawn to choose among
none. -/
def RandomStream.choose (s : RandomStream) (weights : List Float) : Option Nat × RandomStream :=
  if weights.isEmpty then (none, s) else (some (slot s.value weights), s.skip 1)

end TestMatrix
