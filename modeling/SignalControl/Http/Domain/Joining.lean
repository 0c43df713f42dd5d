import SignalControl.Http.Domain.Joining.Table
import SignalControl.Text.Composition

namespace SignalControl.Http.Domain.Joining

/-! Joiners, which are not shown, are allowed in a label only where they change
how their neighbours look: right after a sign that silences a vowel, and, for
the one that keeps letters apart, between two letters that would join. -/

def joiner : Nat := 0x200D

def nonJoiner : Nat := 0x200C

def viramaClass : Nat := 9

def joinsFollowing : List (Nat × Nat) :=
  Text.writtenRanges leftLines

def joinsPreceding : List (Nat × Nat) :=
  Text.writtenRanges rightLines

def joinsBoth : List (Nat × Nat) :=
  Text.writtenRanges dualLines

def transparent : List (Nat × Nat) :=
  Text.writtenRanges transparentLines

def startsWith (letters : List (Nat × Nat)) (codes : List Nat) : Bool :=
  match codes.dropWhile fun code => Text.inRanges code transparent with
  | [] => false
  | code :: _ => Text.inRanges code letters || Text.inRanges code joinsBoth

def isAllowed (before : List Nat) (code : Nat) (after : List Nat) : Bool :=
  (before.head?.any fun previous => Text.Composition.classOf previous == viramaClass)
    || (code == nonJoiner && startsWith joinsFollowing before
      && startsWith joinsPreceding after)

def allAllowed (before : List Nat) : List Nat → Bool
  | [] => true
  | code :: after =>
      (if code = joiner ∨ code = nonJoiner then isAllowed before code after else true)
        && allAllowed (code :: before) after

end SignalControl.Http.Domain.Joining
