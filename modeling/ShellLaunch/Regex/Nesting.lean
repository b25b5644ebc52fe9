import ShellLaunch.Regex.Basic

/-!
# Nesting of regular expressions

An expression that is being read has groups and square brackets open around the place of
reading. Each keeps the depth of what it holds so far, since an expression can be nested too
deeply. A character has depth zero; a group, a repetition, a pair of brackets, a sequence,
a choice and an operation on classes are one deeper than the deepest thing in them.
-/

namespace ShellLaunch.Regex

/-- The depth of things side by side. A single thing is not one of several. -/
def depthOf : List Nat → Nat
  | [] => 0
  | [depth] => depth
  | depths => depths.foldr max 0 + 1

inductive Part where
  /-- A change of flags, which cannot be repeated. -/
  | directive
  | item (depth : Nat)

def Part.depth : Part → Nat
  | directive => 0
  | item depth => depth

/-- A group under way, or the whole expression: the flags at the place of reading, the
depths of the branches that are finished, and the parts of the branch under way, the last
first. -/
structure Group where
  flags : Flags
  branches : List Nat
  parts : List Part

namespace Group

def empty (flags : Flags) : Group := ⟨flags, [], []⟩

def add (group : Group) (part : Part) : Group :=
  { group with parts := part :: group.parts }

/-- Repeats the last part of the branch under way. -/
def repeatLast? (group : Group) : Option Group :=
  match group.parts with
  | .item depth :: parts => some { group with parts := .item (depth + 1) :: parts }
  | _ => none

def branchDepth (group : Group) : Nat :=
  depthOf (group.parts.map Part.depth)

/-- Ends the branch under way and begins the next. -/
def endBranch (group : Group) : Group :=
  { group with branches := group.branchDepth :: group.branches, parts := [] }

def depth (group : Group) : Nat :=
  depthOf (group.branchDepth :: group.branches)

end Group

/-- Square brackets under way: whether the class is negated, the depth of what stands in
front of the last operator, if there is one, and the depths of the items behind it. -/
structure Bracket where
  negated : Bool
  front : Option Nat
  items : List Nat

namespace Bracket

def empty : Bracket := ⟨false, none, []⟩

def add (bracket : Bracket) (depth : Nat) : Bracket :=
  { bracket with items := depth :: bracket.items }

def depth (bracket : Bracket) : Nat :=
  match bracket.front with
  | none => depthOf bracket.items
  | some front => depthOf [front, depthOf bracket.items]

/-- Goes on behind an operator. -/
def operate (bracket : Bracket) : Bracket :=
  { bracket with front := some bracket.depth, items := [] }

end Bracket

end ShellLaunch.Regex
