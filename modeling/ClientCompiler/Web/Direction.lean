import ClientCompiler.Text.Mark

/-!
The direction in which a label of a host name is written. A label that holds letters of a right-to-left
script is written so as a whole.
-/

namespace ClientCompiler.Web

inductive Direction where
  | leftToRight
  | rightToLeft
  | arabicLetter
  | europeanNumber
  | arabicNumber
  | mark
  | neutral
  deriving DecidableEq, Repr

/-- The runs of characters of labels that are not left-to-right letters. -/
def directionRuns : List (Nat × Nat × Direction) := [
  (45, 45, .neutral), (48, 57, .europeanNumber), (183, 183, .neutral), (697, 698, .neutral),
  (710, 719, .neutral), (748, 748, .neutral), (885, 885, .neutral), (1488, 1524, .rightToLeft),
  (1568, 1610, .arabicLetter), (1632, 1641, .arabicNumber), (1646, 1775, .arabicLetter),
  (1776, 1785, .europeanNumber), (1786, 1969, .arabicLetter), (1984, 2136, .rightToLeft),
  (2144, 2249, .arabicLetter), (8204, 8205, .neutral), (11823, 11823, .neutral),
  (12539, 12539, .neutral), (42623, 42623, .neutral), (42775, 42783, .neutral),
  (42888, 42888, .neutral), (65139, 65139, .arabicLetter), (67584, 68850, .rightToLeft),
  (68864, 68899, .arabicLetter), (68912, 68921, .arabicNumber), (69248, 69415, .rightToLeft),
  (69424, 69445, .arabicLetter), (69488, 69622, .rightToLeft), (124928, 125273, .rightToLeft)]

def leftToRightMarks : List Nat := [3263, 3270, 72199, 72200, 72767]

def directionOf (n : Nat) : Direction :=
  if Text.isNonspacingMark n && !leftToRightMarks.contains n then .mark
  else match directionRuns.find? fun (a, b, _) => a ≤ n && n ≤ b with
    | some (_, _, d) => d
    | none => .leftToRight

namespace Direction

def turns (d : Direction) : Bool := d = .rightToLeft || d = .arabicLetter || d = .arabicNumber

/-- A right-to-left label starts with a letter of its direction, holds no letter of the other, ends
in a letter or a number, marks aside, and does not mix the two kinds of numbers. -/
def isRightToLeft (ds : List Direction) : Bool :=
  (match ds.head? with
    | some d => d = .rightToLeft || d = .arabicLetter
    | none => false) &&
  !ds.contains .leftToRight &&
  (match ds.reverse.dropWhile (· = .mark) with
    | d :: _ => d.turns || d = .europeanNumber
    | [] => false) &&
  !(ds.contains .europeanNumber && ds.contains .arabicNumber)

def agree (ds : List Direction) : Bool := !ds.any turns || isRightToLeft ds

end Direction
end ClientCompiler.Web
