import ClientCompiler.Text.Composition

/-!
The characters that labels of host names may hold in the right surroundings only: the two invisible
joiners of letters, and signs that belong to one script.
-/

namespace ClientCompiler.Web

/-! ## Joiners -/

inductive Joining where
  | onBoth
  | onward
  | backward
  deriving DecidableEq, Repr

def joiningRuns : List (Nat × Nat × Joining) := [
  (1568, 1568, .onBoth), (1570, 1573, .backward), (1574, 1574, .onBoth), (1575, 1575, .backward),
  (1576, 1576, .onBoth), (1577, 1577, .backward), (1578, 1582, .onBoth), (1583, 1586, .backward),
  (1587, 1607, .onBoth), (1608, 1608, .backward), (1609, 1610, .onBoth), (1646, 1647, .onBoth),
  (1649, 1651, .backward), (1657, 1671, .onBoth), (1672, 1689, .backward), (1690, 1727, .onBoth),
  (1728, 1728, .backward), (1729, 1730, .onBoth), (1731, 1739, .backward), (1740, 1740, .onBoth),
  (1741, 1741, .backward), (1742, 1742, .onBoth), (1743, 1743, .backward), (1744, 1745, .onBoth),
  (1746, 1749, .backward), (1774, 1775, .backward), (1786, 1788, .onBoth), (1791, 1791, .onBoth),
  (1808, 1808, .backward), (1810, 1812, .onBoth), (1813, 1817, .backward), (1818, 1821, .onBoth),
  (1822, 1822, .backward), (1823, 1831, .onBoth), (1832, 1832, .backward), (1833, 1833, .onBoth),
  (1834, 1834, .backward), (1835, 1835, .onBoth), (1836, 1836, .backward), (1837, 1838, .onBoth),
  (1839, 1869, .backward), (1870, 1880, .onBoth), (1881, 1883, .backward), (1884, 1898, .onBoth),
  (1899, 1900, .backward), (1901, 1904, .onBoth), (1905, 1905, .backward), (1906, 1906, .onBoth),
  (1907, 1908, .backward), (1909, 1911, .onBoth), (1912, 1913, .backward), (1914, 1919, .onBoth),
  (1994, 2026, .onBoth), (2112, 2112, .backward), (2113, 2117, .onBoth), (2118, 2119, .backward),
  (2120, 2120, .onBoth), (2121, 2121, .backward), (2122, 2131, .onBoth), (2132, 2132, .backward),
  (2133, 2133, .onBoth), (2134, 2136, .backward), (2144, 2144, .onBoth), (2146, 2149, .onBoth),
  (2151, 2151, .backward), (2152, 2152, .onBoth), (2153, 2178, .backward), (2182, 2182, .onBoth),
  (2185, 2189, .onBoth), (2190, 2190, .backward), (2208, 2217, .onBoth), (2218, 2220, .backward),
  (2222, 2222, .backward), (2223, 2224, .onBoth), (2225, 2226, .backward), (2227, 2232, .onBoth),
  (2233, 2233, .backward), (2234, 2248, .onBoth), (6176, 6264, .onBoth), (6279, 6314, .onBoth),
  (43072, 43121, .onBoth), (43122, 43122, .onward), (68288, 68292, .onBoth),
  (68293, 68293, .backward), (68295, 68298, .backward), (68301, 68301, .onward),
  (68302, 68306, .backward), (68307, 68310, .onBoth), (68311, 68311, .onward),
  (68312, 68316, .onBoth), (68317, 68317, .backward), (68318, 68320, .onBoth),
  (68321, 68321, .backward), (68324, 68324, .backward), (68480, 68480, .onBoth),
  (68481, 68481, .backward), (68482, 68482, .onBoth), (68483, 68485, .backward),
  (68486, 68488, .onBoth), (68489, 68489, .backward), (68490, 68491, .onBoth),
  (68492, 68492, .backward), (68493, 68493, .onBoth), (68494, 68495, .backward),
  (68496, 68496, .onBoth), (68497, 68497, .backward), (68864, 68864, .onward),
  (68865, 68897, .onBoth), (68898, 68898, .backward), (68899, 68899, .onBoth),
  (69424, 69426, .onBoth), (69427, 69427, .backward), (69428, 69444, .onBoth),
  (69488, 69491, .onBoth), (69492, 69493, .backward), (69494, 69552, .onBoth),
  (69554, 69555, .onBoth), (69556, 69558, .backward), (69560, 69560, .onBoth),
  (69561, 69562, .backward), (69563, 69564, .onBoth), (69565, 69565, .backward),
  (69566, 69567, .onBoth), (69569, 69569, .onBoth), (69570, 69571, .backward),
  (69572, 69572, .onBoth), (125218, 125251, .onBoth)]

def joiningOf? (n : Nat) : Option Joining :=
  (joiningRuns.find? fun (a, b, _) => a ≤ n && n ≤ b).map (·.2.2)

def isTransparent (n : Nat) : Bool := Text.isNonspacingMark n || n = 0x1E94B

/-- The first letter of a text, past the marks on it, joins in one of two ways. -/
def joins (a b : Joining) (s : List Nat) : Bool :=
  match s.dropWhile isTransparent with
  | n :: _ => joiningOf? n = some a || joiningOf? n = some b
  | [] => false

def isJoiner (n : Nat) : Bool := n = 0x200C || n = 0x200D

/-- A mark that takes the vowel from the letter before it. -/
def isVowelKiller (n : Nat) : Bool := Text.combiningClass n = 9

/-- A joiner follows a vowel killer, and the one that parts letters may also stand between two that
would join. What is before it is given from its end. -/
def joinerFits (before : List Nat) (n : Nat) (after : List Nat) : Bool :=
  (match before with
    | m :: _ => isVowelKiller m
    | [] => false) ||
  (n = 0x200C && joins .onBoth .onward before && joins .onBoth .backward after)

/-! ## Signs -/

def greekRuns : List (Nat × Nat) := [
  (880, 883), (885, 887), (890, 893), (895, 895), (900, 900), (902, 902), (904, 906), (908, 908),
  (910, 929), (931, 993), (1008, 1023), (7462, 7466), (7517, 7521), (7526, 7530), (7615, 7615),
  (7936, 7957), (7960, 7965), (7968, 8005), (8008, 8013), (8016, 8023), (8025, 8025), (8027, 8027),
  (8029, 8029), (8031, 8061), (8064, 8116), (8118, 8132), (8134, 8147), (8150, 8155), (8157, 8175),
  (8178, 8180), (8182, 8190), (8486, 8486), (43877, 43877), (65856, 65934), (65952, 65952),
  (119296, 119365)]

def hebrewRuns : List (Nat × Nat) := [
  (1425, 1479), (1488, 1514), (1519, 1524), (64285, 64310), (64312, 64316), (64318, 64318),
  (64320, 64321), (64323, 64324), (64326, 64335)]

def japaneseRuns : List (Nat × Nat) := [
  (12353, 12438), (12445, 12447), (110593, 110879), (110898, 110898), (110928, 110930),
  (127488, 127488), (12449, 12538), (12541, 12543), (12784, 12799), (13008, 13054), (13056, 13143),
  (65382, 65391), (65393, 65437), (110576, 110579), (110581, 110587), (110589, 110590),
  (110592, 110592), (110880, 110882), (110933, 110933), (110948, 110951), (11904, 11929),
  (11931, 12019), (12032, 12245), (12293, 12293), (12295, 12295), (12321, 12329), (12344, 12347),
  (13312, 19903), (19968, 40959), (63744, 64109), (64112, 64217), (94178, 94179), (94192, 94198),
  (131072, 173791), (173824, 178205), (178208, 183981), (183984, 191456), (191472, 192093),
  (194560, 195101), (196608, 201546), (201552, 210041)]

def isArabicDigit (n : Nat) : Bool := 0x660 ≤ n && n ≤ 0x669

def isEasternArabicDigit (n : Nat) : Bool := 0x6F0 ≤ n && n ≤ 0x6F9

def isScriptSign (n : Nat) : Bool :=
  n = 0xB7 || n = 0x375 || n = 0x5F3 || n = 0x5F4 || n = 0x30FB || isArabicDigit n ||
    isEasternArabicDigit n

/-- A middle dot stands between two letters l, a Greek or Hebrew sign at a letter of its script, a
Japanese middle dot in a label that holds a Japanese letter, and the two forms of Arabic digits
never in one label. -/
def signFits (before : List Nat) (n : Nat) (after : List Nat) : Bool :=
  let label := before ++ after
  if n = 0xB7 then before.head? = some 0x6C && after.head? = some 0x6C
  else if n = 0x375 then after.head?.any (Text.within greekRuns)
  else if n = 0x5F3 || n = 0x5F4 then before.head?.any (Text.within hebrewRuns)
  else if n = 0x30FB then label.any fun m => m ≠ 0x30FB && Text.within japaneseRuns m
  else if isArabicDigit n then !label.any isEasternArabicDigit
  else !label.any isArabicDigit

end ClientCompiler.Web
