/-!
# Sets of characters given by ranges

A Unicode property is a finite union of ranges of code points. `Ranges` writes such a set down as
a list of closed ranges, and `Ranges.has` asks for membership. The operations on sets are carried
out on ranges in order; they put ranges together that overlap or touch, so that a set that they make
has one list only.
-/

namespace ModuleReadme.Text

/-- A set of code points, as a list of closed ranges `(first, last)`. -/
abbrev Ranges := List (Nat × Nat)

namespace Ranges

/-- A character is in the set iff its code point lies in one of the ranges. -/
def has (ranges : Ranges) (c : Char) : Bool :=
  ranges.any fun r => decide (r.1 ≤ c.toNat) && decide (c.toNat ≤ r.2)

/-!
### Putting ranges together

Ranges in order of their first code points are read from left to right. The range at the front grows
as long as the next one overlaps or touches it.
-/

/-- Whether a range comes before another one, or begins together with it. -/
def beginsBefore (r s : Nat × Nat) : Bool := decide (r.1 ≤ s.1)

/-- A range and ranges in order behind it, put together where they overlap or touch. -/
def joinFrom (r : Nat × Nat) : Ranges → Ranges
  | [] => [r]
  | s :: rest =>
    if s.1 ≤ r.2 + 1 then joinFrom (r.1, max r.2 s.2) rest else r :: joinFrom s rest

/-- Ranges in order, put together where they overlap or touch. -/
def join : Ranges → Ranges
  | [] => []
  | r :: rest => joinFrom r rest

/-! ### Union -/

def union (a b : Ranges) : Ranges := join (List.merge a b beginsBefore)

def unions (sets : List Ranges) : Ranges := sets.foldr union []

/-- The code points in any of some ranges, which come in any order. -/
def ofList (ranges : Ranges) : Ranges := join (ranges.mergeSort beginsBefore)

/-!
### Complement

What is not in a set is what lies between its ranges, in front of the first and behind the last. The
surrogates are code points but no characters, so they are never in a complement.
-/

def lastCode : Nat := 0x10FFFF

/-- The code points that are no characters. -/
def surrogates : Ranges := [(0xD800, 0xDFFF)]

/-- The code points from `n` on that are in none of some ranges in order. -/
def gapsFrom (n : Nat) : Ranges → Ranges
  | [] => if n ≤ lastCode then [(n, lastCode)] else []
  | r :: rest =>
    if n < r.1 then (n, r.1 - 1) :: gapsFrom (max n (r.2 + 1)) rest
    else gapsFrom (max n (r.2 + 1)) rest

/-- The characters that are not in a set. -/
def complement (a : Ranges) : Ranges := gapsFrom 0 (a.union surrogates)

/-!
### Further operations

The other operations come from union and complement by De Morgan's laws.
-/

def inter (a b : Ranges) : Ranges := (a.complement.union b.complement).complement

def diff (a b : Ranges) : Ranges := (a.complement.union b).complement

def symmDiff (a b : Ranges) : Ranges := (a.diff b).union (b.diff a)

/-- A set, or all characters that are not in it. -/
def signed (negated : Bool) (a : Ranges) : Ranges := if negated then a.complement else a

def all : Ranges := complement []

/-- The characters from one to another. -/
def between (first last : Char) : Ranges :=
  -- The surrogates in between are no characters.
  if first.toNat < 0xD800 ∧ 0xDFFF < last.toNat then
    [(first.toNat, 0xD7FF), (0xE000, last.toNat)]
  else [(first.toNat, last.toNat)]

def single (c : Char) : Ranges := [(c.toNat, c.toNat)]

end Ranges

/-!
### Sets by name

Tables of properties are searched from the front, by names from which case and separators have been
taken away.
-/

/-- A set of code points by the names of a Unicode property, in lower case and without
separators. -/
structure NamedRanges where
  names : List String
  ranges : Ranges

def named? (sets : List NamedRanges) (name : String) : Option Ranges :=
  (sets.find? (·.names.contains name)).map (·.ranges)

end ModuleReadme.Text
