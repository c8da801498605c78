/-!
Spans of time and their text: the largest unit that gives a whole part, and as many places after
the point as are needed.
-/

namespace Parley

structure Span where
  nanoseconds : Nat
  deriving DecidableEq, Repr

namespace Span

def ofMilliseconds (milliseconds : Nat) : Span := ⟨milliseconds * 1000000⟩

def places (remainder count : Nat) : List Char :=
  let digits := (Nat.toDigits 10 remainder)
  let padded := List.replicate (count - digits.length) '0' ++ digits
  (padded.reverse.dropWhile (· == '0')).reverse

def decimal (whole remainder count : Nat) : String :=
  let digits := places remainder count
  toString whole ++ (if digits.isEmpty then "" else "." ++ String.ofList digits)

def text (span : Span) : String :=
  let total := span.nanoseconds
  if 1000000000 ≤ total then decimal (total / 1000000000) (total % 1000000000) 9 ++ "s"
  else if 1000000 ≤ total then decimal (total / 1000000) (total % 1000000) 6 ++ "ms"
  else if 1000 ≤ total then decimal (total / 1000) (total % 1000) 3 ++ "µs"
  else toString total ++ "ns"

end Span

end Parley
