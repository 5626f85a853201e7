/-!
Blank characters, trimming, and the words of a text. Blanks are Unicode white space and the four
information separators; a zero width space and a byte order mark are not blank.
-/

namespace ClientCompiler.Text

/-- White space of Unicode, and U+001C to U+001F. -/
def isBlank (c : Char) : Bool :=
  let n := c.toNat
  (9 ≤ n && n ≤ 13) || (28 ≤ n && n ≤ 32) || n == 0x85 || n == 0xA0 || n == 0x1680 ||
    (0x2000 ≤ n && n ≤ 0x200A) || n == 0x2028 || n == 0x2029 || n == 0x202F || n == 0x205F ||
    n == 0x3000

def trimLeft (s : List Char) : List Char := s.dropWhile isBlank

def trimRight (s : List Char) : List Char := (s.reverse.dropWhile isBlank).reverse

def trim (s : List Char) : List Char := trimRight (trimLeft s)

/-- The words of `pending ++ s`, where `pending` holds no blank. -/
def wordsAfter (pending : List Char) : List Char → List (List Char)
  | [] => if pending.isEmpty then [] else [pending]
  | c :: cs =>
    if isBlank c then
      if pending.isEmpty then wordsAfter [] cs else pending :: wordsAfter [] cs
    else wordsAfter (pending ++ [c]) cs

def words (s : List Char) : List (List Char) := wordsAfter [] s

def splitOn (sep : Char) : List Char → List (List Char)
  | [] => [[]]
  | c :: cs =>
    if c = sep then [] :: splitOn sep cs
    else match splitOn sep cs with
      | [] => [[c]]
      | p :: ps => (c :: p) :: ps

def dropPrefix? (p : List Char) (s : List Char) : Option (List Char) :=
  match p, s with
  | [], s => some s
  | _ :: _, [] => none
  | a :: p, b :: s => if a = b then dropPrefix? p s else none

def occurs (p : List Char) : List Char → Bool
  | [] => p.isEmpty
  | c :: cs => (dropPrefix? p (c :: cs)).isSome || occurs p cs

def normalizeNewlines : List Char → List Char
  | '\r' :: '\n' :: cs => '\n' :: normalizeNewlines cs
  | '\r' :: cs => '\n' :: normalizeNewlines cs
  | c :: cs => c :: normalizeNewlines cs
  | [] => []

/-- The characters that end a line when a text is cut into lines. -/
def isLineEnd (c : Char) : Bool :=
  let n := c.toNat
  (10 ≤ n && n ≤ 13) || (28 ≤ n && n ≤ 30) || n == 0x85 || n == 0x2028 || n == 0x2029

def firstLine (s : List Char) : List Char := s.takeWhile fun c => !isLineEnd c

def lowerAscii (s : List Char) : List Char := s.map Char.toLower

@[simp] theorem trimLeft_nil : trimLeft [] = [] := rfl

@[simp] theorem trim_nil : trim [] = [] := rfl

theorem trimLeft_of_blank {c : Char} (h : isBlank c = true) (s : List Char) :
    trimLeft (c :: s) = trimLeft s := by
  simp [trimLeft, h]

@[simp] theorem dropPrefix?_append (p s : List Char) : dropPrefix? p (p ++ s) = some s := by
  induction p with
  | nil => rfl
  | cons a p ih => simp [dropPrefix?, ih]

theorem eq_append_of_dropPrefix? {p s r : List Char} (h : dropPrefix? p s = some r) :
    s = p ++ r := by
  induction p generalizing s with
  | nil => simpa [dropPrefix?] using h
  | cons a p ih =>
    cases s with
    | nil => simp [dropPrefix?] at h
    | cons b s =>
      by_cases hab : a = b
      · simp [dropPrefix?, hab] at h
        simp [hab, ih h]
      · simp [dropPrefix?, hab] at h

end ClientCompiler.Text
