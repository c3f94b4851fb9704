import Stencil.Pattern.Basic

/-!
The weight of a pattern: the bytes that a machine for it takes when its repetitions are written out,
built to read the encoded text forwards, or backwards. A machine has a state for each byte range on a way
through a set of characters; read backwards, only ways that begin alike share states. Patterns over a
limit of weight are refused.
-/
namespace Stencil.Pattern

/-- Runs of code points in order, first and last. -/
abbrev Spans := List (Nat × Nat)

namespace Spans

/-- The runs of ascending code points. -/
def ofCodes : List Nat → Spans
  | [] => []
  | n :: rest =>
      match ofCodes rest with
      | (first, last) :: more =>
          if n + 1 = first then (n, last) :: more else (n, n) :: (first, last) :: more
      | [] => [(n, n)]

/-- Places beyond the first two planes where properties of characters change. -/
def farLandmarks : List Nat :=
  [0x20000, 0x2A6E0, 0x2A700, 0x2B73A, 0x2B740, 0x2B81E, 0x2B820, 0x2CEA2, 0x2CEB0, 0x2EBE1, 0x2EBF0,
    0x2EE5E, 0x2F800, 0x2FA1E, 0x2FFFE, 0x30000, 0x3134B, 0x31350, 0x323B0]
  ++ (List.range 11).flatMap (fun plane => [0x3FFFE + 0x10000 * plane, 0x40000 + 0x10000 * plane])
  ++ [0xE0000, 0xE0001, 0xE0002, 0xE0020, 0xE0080, 0xE0100, 0xE01F0, 0xE1000, 0xEFFFE, 0xF0000, 0xFFFFE,
    0x100000, 0x10FFFE]

def landmarks : List Nat := List.range 0x20000 ++ farLandmarks

/-- The runs of a set that changes at landmarks only. A run that is open has begun at `start?`. -/
def between (set : CharSet) : Option Nat → List Nat → Spans
  | none, [] => []
  | some start, [] => [(start, 0x10FFFF)]
  | start?, n :: rest =>
      let isMember := decide n.isValidChar && set (Char.ofNat n)
      match start?, isMember with
      | none, false => between set none rest
      | none, true => between set (some n) rest
      | some start, true => between set (some start) rest
      | some start, false => (start, n - 1) :: between set none rest

def ofSet (set : CharSet) : Spans := between set none landmarks

end Spans

/-- Bytes, the first and the last of a range. -/
abbrev ByteRange := Nat × Nat

/-- The encoding of a code point. -/
def encoded (n : Nat) : List Nat :=
  if n < 0x80 then [n]
  else if n < 0x800 then [0xC0 + n / 0x40, 0x80 + n % 0x40]
  else if n < 0x10000 then [0xE0 + n / 0x1000, 0x80 + n / 0x40 % 0x40, 0x80 + n % 0x40]
  else [0xF0 + n / 0x40000, 0x80 + n / 0x1000 % 0x40, 0x80 + n / 0x40 % 0x40, 0x80 + n % 0x40]

/-- The last code point of the first part, if the run is not encoded by one range for each byte: it has
encodings of two lengths, or goes past a block of trailing bytes that it does not fill. -/
def splitAt? (first last : Nat) : Option Nat :=
  ([0x7F, 0x7FF, 0xFFFF].find? fun longest => first ≤ longest && longest < last).or
    (if last < 0x80 then none
    else [0x40, 0x1000, 0x40000].findSome? fun block =>
      if first / block = last / block then none
      else if first % block != 0 then some (first / block * block + block - 1)
      else if last % block != block - 1 then some (last / block * block - 1)
      else none)

/-- The byte ranges that encode a run. A run is split at most so often one part inside another. -/
def byteRanges : Nat → Nat → Nat → List (List ByteRange)
  | 0, _, _ => []
  | more + 1, first, last =>
      match splitAt? first last with
      | some middle => byteRanges more first middle ++ byteRanges more (middle + 1) last
      | none => [(encoded first).zip (encoded last)]

def Spans.byteRanges (spans : Spans) : List (List ByteRange) :=
  spans.flatMap fun (first, last) => Pattern.byteRanges 16 first last

def sharedLength : List ByteRange → List ByteRange → Nat
  | a :: as, b :: bs => if a = b then sharedLength as bs + 1 else 0
  | _, _ => 0

/-- How many byte ranges there are when ways that begin alike share them; the ways come in order. -/
def stateCount (before : List ByteRange) : List (List ByteRange) → Nat
  | [] => 0
  | way :: rest => way.length - sharedLength before way + stateCount way rest

structure Weight where
  forwards : Nat
  backwards : Nat

namespace Weight

def both (bytes : Nat) : Weight := ⟨bytes, bytes⟩

def add (a b : Weight) : Weight := ⟨a.forwards + b.forwards, a.backwards + b.backwards⟩

def times (count : Nat) (a : Weight) : Weight := ⟨count * a.forwards, count * a.backwards⟩

/-- The bytes of a state, of a range in it, and of a way on from it. -/
def state : Nat := 32

def range : Nat := 8

def way : Nat := 4

/-- One character is a state for each byte. A set within ASCII is one state with all of its ranges. -/
def ofSpans (spans : Spans) : Weight :=
  match spans with
  | [] => both state
  | (first, last) :: rest =>
      if first = last && rest.isEmpty then both (state * (encoded first).length)
      else if spans.all (·.2 < 0x80) then both (2 * state + range * spans.length)
      else
        let ways := spans.byteRanges
        let states := stateCount [] ways
        ⟨2 * state + (state + range) * states - state * ways.length,
          2 * state + state * states + way * ways.length⟩

end Weight

/-- The set of a pattern that takes just one character. -/
def toSet? : Pattern → Option CharSet
  | character variants => some (variants.contains ·)
  | single set => some set
  | choice first second =>
      match first.toSet?, second.toSet? with
      | some a, some b => some (a.union b)
      | _, _ => none
  | _ => none

/-- The weight of a pattern, given the weights of sets. -/
def weigh (ofSet : CharSet → Weight) : Pattern → Weight
  | empty => .both Weight.state
  | character variants =>
      .ofSpans (.ofCodes ((variants.map Char.toNat).mergeSort.eraseDups))
  | single set => ofSet set
  | place _ => .both Weight.state
  | sequence first second => (first.weigh ofSet).add (second.weigh ofSet)
  | choice first second =>
      match (choice first second).toSet? with
      | some set => ofSet set
      | none =>
        let junction := match second with
          | choice _ _ => Weight.way
          | _ => 2 * Weight.state + 2 * Weight.way
        ((first.weigh ofSet).add (second.weigh ofSet)).add (.both junction)
  | group _ body => (body.weigh ofSet).add ⟨2 * Weight.state, 0⟩
  | iterate body least most _ =>
      let once := body.weigh ofSet
      let loop := Weight.both (Weight.state + 2 * Weight.way)
      match most with
      | none =>
          if least = 0 && body.matchesNothing then (once.add loop).add (loop.add (.both Weight.state))
          else (once.times (max 1 least)).add loop
      | some most =>
          if most = least then once.times least
          else ((once.times least).add ((once.add loop).times (most - least))).add (.both Weight.state)

/-- The weight of what a machine has besides its pattern: the way to the start of a match, the marks of
the match, and its end. -/
def frameWeight : Weight := ⟨7 * Weight.state, 5 * Weight.state⟩

def greatestWeight : Nat := 10 * 0x100000

/-- No set of properties weighs more. -/
def heaviestSet : Weight := .both 200000

def isWithinWeight (ofSet : CharSet → Weight) (pattern : Pattern) : Bool :=
  let weight := (pattern.weigh ofSet).add frameWeight
  weight.forwards ≤ greatestWeight && weight.backwards ≤ greatestWeight

/-- Whether the pattern is within the limit of weight. Sets are examined only where it depends on them. -/
def isLight (pattern : Pattern) : Bool :=
  pattern.isWithinWeight (fun _ => heaviestSet) || pattern.isWithinWeight fun set => .ofSpans (.ofSet set)

end Stencil.Pattern
