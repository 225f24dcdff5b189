/-
  Spans of time: whole seconds in a word and the nanoseconds below one second.
-/

namespace Interposition

/-- A span of time with nanosecond resolution. -/
structure Duration where
  secs : UInt64
  nanos : UInt32
  below : nanos < 1000000000
deriving DecidableEq

namespace Duration

instance : Inhabited Duration := ⟨⟨0, 0, by decide⟩⟩

/-- The span of a number of nanoseconds; the seconds wrap at a word. -/
def ofNanoseconds (n : Nat) : Duration :=
  ⟨UInt64.ofNat (n / 1000000000), UInt32.ofNat (n % 1000000000), by
    have h : n % 1000000000 < 1000000000 := Nat.mod_lt _ (by decide)
    rw [UInt32.lt_iff_toNat_lt, UInt32.toNat_ofNat_of_lt' (by
      simp only [UInt32.size]; omega)]
    exact h⟩

/-- The span in nanoseconds. -/
def nanoseconds (d : Duration) : Nat := d.secs.toNat * 1000000000 + d.nanos.toNat

/-- Whole seconds. -/
def seconds (n : UInt64) : Duration := ⟨n, 0, by decide⟩

/-- Whole milliseconds. -/
def milliseconds (n : UInt64) : Duration := ofNanoseconds (n.toNat * 1000000)

/-- The span in whole milliseconds, rounded down. -/
def inMilliseconds (d : Duration) : Nat := d.nanoseconds / 1000000

/-- Seconds and any number of nanoseconds; full seconds among the nanoseconds carry, and there is
    no span when the seconds leave the word. -/
def carrying? (secs : UInt64) (nanos : UInt32) : Option Duration :=
  let total := secs.toNat * 1000000000 + nanos.toNat
  if total < UInt64.size * 1000000000 then some (ofNanoseconds total) else none

/-- A decimal fraction of `width` digits without its trailing zeros, point included. -/
def fraction (value width : Nat) : String :=
  let digits := Nat.toDigits 10 value
  let padded := List.replicate (width - digits.length) '0' ++ digits
  let kept := (padded.reverse.dropWhile (· = '0')).reverse
  if kept.isEmpty then "" else "." ++ String.ofList kept

/-- The span in the largest unit that leaves a whole part: `1.5s`, `20ms`, `3µs`, `0ns`. -/
instance : ToString Duration where
  toString d :=
    let nanos := d.nanos.toNat
    if d.secs ≠ 0 then s!"{d.secs}{fraction nanos 9}s"
    else if nanos ≥ 1000000 then s!"{nanos / 1000000}{fraction (nanos % 1000000) 6}ms"
    else if nanos ≥ 1000 then s!"{nanos / 1000}{fraction (nanos % 1000) 3}µs"
    else s!"{nanos}ns"

end Duration

end Interposition
