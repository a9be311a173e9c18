/-!
# Sets of characters

A set of code points is a list of ranges.  `CharSet.normalize` brings it into the one form in
which the ranges ascend and neither touch nor overlap; complement and difference need that form,
membership does not.

Tables are written as text: `41-5A` for a range, `AA` for one code point and `100:17E` for every
second code point of a range.
-/

namespace MetricPath.Unicode

/-- A set of code points: the members are those within one of the ranges, ends included. -/
structure CharSet where
  ranges : List (Nat × Nat)
deriving DecidableEq, Repr

namespace CharSet

def empty : CharSet := ⟨[]⟩

def single (n : Nat) : CharSet := ⟨[(n, n)]⟩

def range (first last : Nat) : CharSet := ⟨[(first, last)]⟩

/-- The greatest code point. -/
def greatest : Nat := 0x10FFFF

/-- All code points. -/
def any : CharSet := range 0 greatest

/-- The code points below 128. -/
def ascii : CharSet := range 0 0x7F

/-- Whether a code point is a member. -/
def hasPoint (s : CharSet) (n : Nat) : Bool := s.ranges.any fun r => r.1 ≤ n && n ≤ r.2

/-- Whether a character is a member. -/
def contains (s : CharSet) (c : Char) : Bool := s.hasPoint c.toNat

/-- The members of either set. -/
def union (s t : CharSet) : CharSet := ⟨s.ranges ++ t.ranges⟩

/-- The members of any of the sets. -/
def unionAll (sets : List CharSet) : CharSet := ⟨sets.flatMap CharSet.ranges⟩

/-! ## Normal form -/

/-- Join each range with the ones before it that it touches; `first` and `last` are the range being
joined. -/
def joinTouching (first last : Nat) : List (Nat × Nat) → List (Nat × Nat)
  | [] => [(first, last)]
  | (a, b) :: rest =>
    if a ≤ last + 1 then joinTouching first (max last b) rest
    else (first, last) :: joinTouching a b rest

/-- The same set with ascending ranges that neither touch nor overlap. -/
def normalize (s : CharSet) : CharSet :=
  match s.ranges.mergeSort fun r t => r.1 ≤ t.1 with
  | [] => empty
  | (a, b) :: rest => ⟨joinTouching a b rest⟩

/-- The gaps between ascending ranges, from `start` on. -/
def gapsFrom (start : Nat) : List (Nat × Nat) → List (Nat × Nat)
  | [] => if start ≤ greatest then [(start, greatest)] else []
  | (a, b) :: rest =>
    if start < a then (start, a - 1) :: gapsFrom (b + 1) rest else gapsFrom (b + 1) rest

/-- The code points that are not members. -/
def complement (s : CharSet) : CharSet := ⟨gapsFrom 0 s.normalize.ranges⟩

/-- The members of both sets. -/
def intersect (s t : CharSet) : CharSet := (s.complement.union t.complement).complement

/-- The members of the first set only. -/
def difference (s t : CharSet) : CharSet := (s.complement.union t).complement

/-- The members of exactly one set. -/
def symmetricDifference (s t : CharSet) : CharSet :=
  (s.difference t).union (t.difference s)

/-! ## Tables -/

/-- The value of a hexadecimal digit. -/
def hexValue? (c : Char) : Option Nat :=
  if '0' ≤ c ∧ c ≤ '9' then some (c.toNat - '0'.toNat)
  else if 'A' ≤ c ∧ c ≤ 'F' then some (c.toNat - 'A'.toNat + 10)
  else if 'a' ≤ c ∧ c ≤ 'f' then some (c.toNat - 'a'.toNat + 10)
  else none

/-- What stands between the two numbers of a table's entry. -/
inductive Joint where
  | none
  | throughout
  | alternately
deriving DecidableEq

/-- The ranges of an entry, put in front of the ranges already read. -/
def entryRanges (joint : Joint) (first last : Nat) (rest : List (Nat × Nat)) : List (Nat × Nat) :=
  match joint with
  | .none => (last, last) :: rest
  | .throughout => (first, last) :: rest
  | .alternately =>
    let evens := (List.range ((last - first) / 2 + 1)).map fun i => (first + 2 * i, first + 2 * i)
    evens ++ rest

/-- Read the entries of a table; `first` is the number before the joint of the current entry and
`current` the one being read. -/
def readFrom (joint : Joint) (first current : Nat) : List Char → List (Nat × Nat)
  | [] => entryRanges joint first current []
  | c :: cs =>
    match c with
    | ' ' => entryRanges joint first current (readFrom .none 0 0 cs)
    | '-' => readFrom .throughout current 0 cs
    | ':' => readFrom .alternately current 0 cs
    | _ => readFrom joint first (16 * current + (hexValue? c).getD 0) cs

/-- The set that a table lists. -/
def read (table : String) : CharSet := (⟨readFrom .none 0 0 table.toList⟩ : CharSet).normalize

end CharSet

end MetricPath.Unicode
