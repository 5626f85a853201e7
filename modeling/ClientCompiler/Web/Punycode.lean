/-!
Punycode, which spells any label in ASCII: the ASCII characters as they are, and then where the
others go, in the order of their numbers, as distances in digits of base 36. A label is here the
list of its code points, since a spelling may name halves of surrogate pairs.
-/

namespace ClientCompiler.Web.Punycode

/-- The digit from which on a distance goes on at a digit, where `k` is 36 for the first one. -/
def threshold (k bias : Nat) : Nat := max 1 (min 26 (k - bias))

theorem threshold_pos (k bias : Nat) : 1 ≤ threshold k bias := by unfold threshold; omega

/-- A distance scaled down until it is small, and 36 for each time. -/
def scaled (distance passed : Nat) : Nat × Nat :=
  if 455 < distance then scaled (distance / 35) (passed + 36) else (distance, passed)
termination_by distance
decreasing_by exact Nat.div_lt_self (by omega) (by omega)

/-- The bias after a distance in a label that now has `count` characters. -/
def adapt (distance count : Nat) (isFirst : Bool) : Nat :=
  let d := if isFirst then distance / 700 else distance / 2
  let (d, passed) := scaled (d + d / count) 0
  passed + 36 * d / (d + 38)

/-! ## Spelling -/

def digitChar (d : Nat) : Char := Char.ofNat (if d < 26 then 0x61 + d else 0x30 + (d - 26))

def digits (bias k distance : Nat) : List Char :=
  let t := threshold k bias
  if distance < t then [digitChar distance]
  else digitChar (t + (distance - t) % (36 - t)) :: digits bias (k + 36) ((distance - t) / (36 - t))
termination_by distance
decreasing_by
  have h := threshold_pos k bias
  calc (distance - threshold k bias) / (36 - threshold k bias)
      ≤ distance - threshold k bias := Nat.div_le_self _ _
    _ < distance := by omega

/-- What is spelled so far: how many characters, the last one, and the distance to the next. -/
structure Progress where
  spelled : List Char
  count : Nat
  last : Nat
  distance : Nat
  bias : Nat
  isFirst : Bool

def Progress.pass (n : Nat) (p : Progress) (c : Nat) : Progress :=
  if c < n then { p with distance := p.distance + 1 }
  else if c = n then
    { p with
      spelled := p.spelled ++ digits p.bias 36 p.distance
      bias := adapt p.distance (p.count + 1) p.isFirst
      count := p.count + 1
      distance := 0
      isFirst := false }
  else p

def Progress.spell (label : List Nat) (p : Progress) (n : Nat) : Progress :=
  let start := { p with distance := p.distance + (n - p.last) * (p.count + 1) }
  let p := label.foldl (Progress.pass n) start
  { p with last := n + 1, distance := p.distance + 1 }

def otherNumbers (label : List Nat) : List Nat :=
  ((label.filter (0x80 ≤ ·)).mergeSort (· ≤ ·)).eraseReps

def encode (label : List Nat) : List Char :=
  let plain := (label.filter (· < 0x80)).map Char.ofNat
  let start : Progress := ⟨[], plain.length, 0x80, 0, 72, true⟩
  (if plain.isEmpty then [] else plain ++ ['-']) ++
    ((otherNumbers label).foldl (Progress.spell label) start).spelled

/-! ## Reading -/

def digitValue? (c : Char) : Option Nat :=
  if 'a' ≤ c && c ≤ 'z' then some (c.toNat - 0x61)
  else if 'A' ≤ c && c ≤ 'Z' then some (c.toNat - 0x41)
  else if '0' ≤ c && c ≤ '9' then some (c.toNat - 0x30 + 26)
  else none

def distance? (bias : Nat) : Nat → Nat → Nat → List Char → Option (Nat × List Char)
  | _, _, _, [] => none
  | k, weight, sum, c :: rest => do
    let d ← digitValue? c
    let t := threshold k bias
    if d < t then return (sum + d * weight, rest)
    else distance? bias (k + 36) (weight * (36 - t)) (sum + d * weight) rest

theorem length_distance? {bias k weight sum d : Nat} {s rest : List Char}
    (h : distance? bias k weight sum s = some (d, rest)) : rest.length < s.length := by
  induction s generalizing k weight sum with
  | nil => simp [distance?] at h
  | cons c s ih =>
    unfold distance? at h
    cases hc : digitValue? c with
    | none => simp [hc] at h
    | some v =>
      simp only [hc, Option.bind_eq_bind, Option.bind_some] at h
      split at h
      · simp only [pure, Option.some.injEq, Prod.mk.injEq] at h
        simp [← h.2]
      · have := ih h
        simp only [List.length_cons]
        omega

/-- Puts each character where its distance from the last one leads, counting round the label once for
every number in between. -/
def inserted (label : List Nat) (number place bias : Nat) (isFirst : Bool) (s : List Char) :
    Option (List Nat) :=
  if s.isEmpty then some label
  else match h : distance? bias 36 1 0 s with
    | none => none
    | some (distance, rest) =>
      let count := label.length + 1
      let n := number + (place + distance) / count
      let here := (place + distance) % count
      if 0x10FFFF < n then none
      else inserted (label.take here ++ n :: label.drop here) n (here + 1) (adapt distance count isFirst)
        false rest
termination_by s.length
decreasing_by exact length_distance? h

def halves (s : List Char) : List Char × List Char :=
  let last := (s.reverse.takeWhile (· ≠ '-')).reverse
  (s.take (s.length - last.length - 1), last)

def decode? (s : List Char) : Option (List Nat) :=
  let (plain, distances) := halves s
  inserted (plain.map Char.toNat) 0x80 0 72 true distances

end ClientCompiler.Web.Punycode
