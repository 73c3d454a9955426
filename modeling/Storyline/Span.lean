/-!
# Spans

A span is a half-open range of byte offsets in a goal's text. The span `0..0` is a dummy: it marks
a node that no text produced. Nothing forces a span's start before its end, so `length` can
fail.
-/

namespace Storyline

structure Span where
  start : UInt32
  stop : UInt32
deriving DecidableEq, Repr

namespace Span

def dummy : Span := ⟨0, 0⟩

instance : Inhabited Span := ⟨dummy⟩

inductive Error where
  | startTooLarge (offset : Nat)
  | stopTooLarge (offset : Nat)
  | reversed
deriving DecidableEq, Repr

def upperHex (n : Nat) : String := String.ofList ((Nat.toDigits 16 n).map Char.toUpper)

def Error.message : Error → String
  | .startTooLarge n =>
    "span start " ++ toString n ++ " (0x" ++ upperHex n ++ ") exceeds u32::MAX"
  | .stopTooLarge n =>
    "span end " ++ toString n ++ " (0x" ++ upperHex n ++ ") exceeds u32::MAX"
  | .reversed => "attempt to subtract with overflow"

/-- The start is checked first. -/
def ofRange (start stop : Nat) : Except Error Span :=
  if UInt32.size ≤ start then .error (.startTooLarge start)
  else if UInt32.size ≤ stop then .error (.stopTooLarge stop)
  else .ok ⟨UInt32.ofNat start, UInt32.ofNat stop⟩

def toRange (s : Span) : Nat × Nat := (s.start.toNat, s.stop.toNat)

def length (s : Span) : Except Error UInt32 :=
  if s.stop < s.start then .error .reversed else .ok (s.stop - s.start)

def isEmpty (s : Span) : Bool := s.start = s.stop

def isDummy (s : Span) : Bool := s = dummy

instance : Membership UInt32 Span where
  mem s offset := s.start ≤ offset ∧ offset < s.stop

instance (offset : UInt32) (s : Span) : Decidable (offset ∈ s) :=
  inferInstanceAs (Decidable (s.start ≤ offset ∧ offset < s.stop))

/-- The smallest span that covers both. -/
def merge (s t : Span) : Span := ⟨min s.start t.start, max s.stop t.stop⟩

def text (s : Span) : String := toString s.start.toNat ++ ".." ++ toString s.stop.toNat

end Span

end Storyline
