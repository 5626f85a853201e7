/-!
Characters by their names in Unicode, for the escapes in the strings of templates. Only the blocks
Basic Latin, Latin-1 Supplement and General Punctuation are here, with the names of controls. A name
from another block is taken for one that no character has.
-/

namespace ClientCompiler.Text

namespace CharacterName

/-! A block is the number of its first character and lines of the names from there on, with commas
between the names of a line; a character without a name has an empty one. -/

def basicLatin : Nat × List String := (32, [
  "SPACE,EXCLAMATION MARK,QUOTATION MARK,NUMBER SIGN,DOLLAR SIGN,PERCENT SIGN,AMPERSAND",
  "APOSTROPHE,LEFT PARENTHESIS,RIGHT PARENTHESIS,ASTERISK,PLUS SIGN,COMMA,HYPHEN-MINUS,FULL STOP",
  "SOLIDUS,DIGIT ZERO,DIGIT ONE,DIGIT TWO,DIGIT THREE,DIGIT FOUR,DIGIT FIVE,DIGIT SIX,DIGIT SEVEN",
  "DIGIT EIGHT,DIGIT NINE,COLON,SEMICOLON,LESS-THAN SIGN,EQUALS SIGN,GREATER-THAN SIGN",
  "QUESTION MARK,COMMERCIAL AT,LATIN CAPITAL LETTER A,LATIN CAPITAL LETTER B",
  "LATIN CAPITAL LETTER C,LATIN CAPITAL LETTER D,LATIN CAPITAL LETTER E,LATIN CAPITAL LETTER F",
  "LATIN CAPITAL LETTER G,LATIN CAPITAL LETTER H,LATIN CAPITAL LETTER I,LATIN CAPITAL LETTER J",
  "LATIN CAPITAL LETTER K,LATIN CAPITAL LETTER L,LATIN CAPITAL LETTER M,LATIN CAPITAL LETTER N",
  "LATIN CAPITAL LETTER O,LATIN CAPITAL LETTER P,LATIN CAPITAL LETTER Q,LATIN CAPITAL LETTER R",
  "LATIN CAPITAL LETTER S,LATIN CAPITAL LETTER T,LATIN CAPITAL LETTER U,LATIN CAPITAL LETTER V",
  "LATIN CAPITAL LETTER W,LATIN CAPITAL LETTER X,LATIN CAPITAL LETTER Y,LATIN CAPITAL LETTER Z",
  "LEFT SQUARE BRACKET,REVERSE SOLIDUS,RIGHT SQUARE BRACKET,CIRCUMFLEX ACCENT,LOW LINE",
  "GRAVE ACCENT,LATIN SMALL LETTER A,LATIN SMALL LETTER B,LATIN SMALL LETTER C",
  "LATIN SMALL LETTER D,LATIN SMALL LETTER E,LATIN SMALL LETTER F,LATIN SMALL LETTER G",
  "LATIN SMALL LETTER H,LATIN SMALL LETTER I,LATIN SMALL LETTER J,LATIN SMALL LETTER K",
  "LATIN SMALL LETTER L,LATIN SMALL LETTER M,LATIN SMALL LETTER N,LATIN SMALL LETTER O",
  "LATIN SMALL LETTER P,LATIN SMALL LETTER Q,LATIN SMALL LETTER R,LATIN SMALL LETTER S",
  "LATIN SMALL LETTER T,LATIN SMALL LETTER U,LATIN SMALL LETTER V,LATIN SMALL LETTER W",
  "LATIN SMALL LETTER X,LATIN SMALL LETTER Y,LATIN SMALL LETTER Z,LEFT CURLY BRACKET",
  "VERTICAL LINE,RIGHT CURLY BRACKET,TILDE"])

def latinSupplement : Nat × List String := (160, [
  "NO-BREAK SPACE,INVERTED EXCLAMATION MARK,CENT SIGN,POUND SIGN,CURRENCY SIGN,YEN SIGN",
  "BROKEN BAR,SECTION SIGN,DIAERESIS,COPYRIGHT SIGN,FEMININE ORDINAL INDICATOR",
  "LEFT-POINTING DOUBLE ANGLE QUOTATION MARK,NOT SIGN,SOFT HYPHEN,REGISTERED SIGN,MACRON",
  "DEGREE SIGN,PLUS-MINUS SIGN,SUPERSCRIPT TWO,SUPERSCRIPT THREE,ACUTE ACCENT,MICRO SIGN",
  "PILCROW SIGN,MIDDLE DOT,CEDILLA,SUPERSCRIPT ONE,MASCULINE ORDINAL INDICATOR",
  "RIGHT-POINTING DOUBLE ANGLE QUOTATION MARK,VULGAR FRACTION ONE QUARTER",
  "VULGAR FRACTION ONE HALF,VULGAR FRACTION THREE QUARTERS,INVERTED QUESTION MARK",
  "LATIN CAPITAL LETTER A WITH GRAVE,LATIN CAPITAL LETTER A WITH ACUTE",
  "LATIN CAPITAL LETTER A WITH CIRCUMFLEX,LATIN CAPITAL LETTER A WITH TILDE",
  "LATIN CAPITAL LETTER A WITH DIAERESIS,LATIN CAPITAL LETTER A WITH RING ABOVE",
  "LATIN CAPITAL LETTER AE,LATIN CAPITAL LETTER C WITH CEDILLA,LATIN CAPITAL LETTER E WITH GRAVE",
  "LATIN CAPITAL LETTER E WITH ACUTE,LATIN CAPITAL LETTER E WITH CIRCUMFLEX",
  "LATIN CAPITAL LETTER E WITH DIAERESIS,LATIN CAPITAL LETTER I WITH GRAVE",
  "LATIN CAPITAL LETTER I WITH ACUTE,LATIN CAPITAL LETTER I WITH CIRCUMFLEX",
  "LATIN CAPITAL LETTER I WITH DIAERESIS,LATIN CAPITAL LETTER ETH",
  "LATIN CAPITAL LETTER N WITH TILDE,LATIN CAPITAL LETTER O WITH GRAVE",
  "LATIN CAPITAL LETTER O WITH ACUTE,LATIN CAPITAL LETTER O WITH CIRCUMFLEX",
  "LATIN CAPITAL LETTER O WITH TILDE,LATIN CAPITAL LETTER O WITH DIAERESIS,MULTIPLICATION SIGN",
  "LATIN CAPITAL LETTER O WITH STROKE,LATIN CAPITAL LETTER U WITH GRAVE",
  "LATIN CAPITAL LETTER U WITH ACUTE,LATIN CAPITAL LETTER U WITH CIRCUMFLEX",
  "LATIN CAPITAL LETTER U WITH DIAERESIS,LATIN CAPITAL LETTER Y WITH ACUTE",
  "LATIN CAPITAL LETTER THORN,LATIN SMALL LETTER SHARP S,LATIN SMALL LETTER A WITH GRAVE",
  "LATIN SMALL LETTER A WITH ACUTE,LATIN SMALL LETTER A WITH CIRCUMFLEX",
  "LATIN SMALL LETTER A WITH TILDE,LATIN SMALL LETTER A WITH DIAERESIS",
  "LATIN SMALL LETTER A WITH RING ABOVE,LATIN SMALL LETTER AE,LATIN SMALL LETTER C WITH CEDILLA",
  "LATIN SMALL LETTER E WITH GRAVE,LATIN SMALL LETTER E WITH ACUTE",
  "LATIN SMALL LETTER E WITH CIRCUMFLEX,LATIN SMALL LETTER E WITH DIAERESIS",
  "LATIN SMALL LETTER I WITH GRAVE,LATIN SMALL LETTER I WITH ACUTE",
  "LATIN SMALL LETTER I WITH CIRCUMFLEX,LATIN SMALL LETTER I WITH DIAERESIS",
  "LATIN SMALL LETTER ETH,LATIN SMALL LETTER N WITH TILDE,LATIN SMALL LETTER O WITH GRAVE",
  "LATIN SMALL LETTER O WITH ACUTE,LATIN SMALL LETTER O WITH CIRCUMFLEX",
  "LATIN SMALL LETTER O WITH TILDE,LATIN SMALL LETTER O WITH DIAERESIS,DIVISION SIGN",
  "LATIN SMALL LETTER O WITH STROKE,LATIN SMALL LETTER U WITH GRAVE",
  "LATIN SMALL LETTER U WITH ACUTE,LATIN SMALL LETTER U WITH CIRCUMFLEX",
  "LATIN SMALL LETTER U WITH DIAERESIS,LATIN SMALL LETTER Y WITH ACUTE,LATIN SMALL LETTER THORN",
  "LATIN SMALL LETTER Y WITH DIAERESIS"])

def punctuation : Nat × List String := (8192, [
  "EN QUAD,EM QUAD,EN SPACE,EM SPACE,THREE-PER-EM SPACE,FOUR-PER-EM SPACE,SIX-PER-EM SPACE",
  "FIGURE SPACE,PUNCTUATION SPACE,THIN SPACE,HAIR SPACE,ZERO WIDTH SPACE,ZERO WIDTH NON-JOINER",
  "ZERO WIDTH JOINER,LEFT-TO-RIGHT MARK,RIGHT-TO-LEFT MARK,HYPHEN,NON-BREAKING HYPHEN,FIGURE DASH",
  "EN DASH,EM DASH,HORIZONTAL BAR,DOUBLE VERTICAL LINE,DOUBLE LOW LINE,LEFT SINGLE QUOTATION MARK",
  "RIGHT SINGLE QUOTATION MARK,SINGLE LOW-9 QUOTATION MARK,SINGLE HIGH-REVERSED-9 QUOTATION MARK",
  "LEFT DOUBLE QUOTATION MARK,RIGHT DOUBLE QUOTATION MARK,DOUBLE LOW-9 QUOTATION MARK",
  "DOUBLE HIGH-REVERSED-9 QUOTATION MARK,DAGGER,DOUBLE DAGGER,BULLET,TRIANGULAR BULLET",
  "ONE DOT LEADER,TWO DOT LEADER,HORIZONTAL ELLIPSIS,HYPHENATION POINT,LINE SEPARATOR",
  "PARAGRAPH SEPARATOR,LEFT-TO-RIGHT EMBEDDING,RIGHT-TO-LEFT EMBEDDING,POP DIRECTIONAL FORMATTING",
  "LEFT-TO-RIGHT OVERRIDE,RIGHT-TO-LEFT OVERRIDE,NARROW NO-BREAK SPACE,PER MILLE SIGN",
  "PER TEN THOUSAND SIGN,PRIME,DOUBLE PRIME,TRIPLE PRIME,REVERSED PRIME,REVERSED DOUBLE PRIME",
  "REVERSED TRIPLE PRIME,CARET,SINGLE LEFT-POINTING ANGLE QUOTATION MARK",
  "SINGLE RIGHT-POINTING ANGLE QUOTATION MARK,REFERENCE MARK,DOUBLE EXCLAMATION MARK,INTERROBANG",
  "OVERLINE,UNDERTIE,CHARACTER TIE,CARET INSERTION POINT,ASTERISM,HYPHEN BULLET,FRACTION SLASH",
  "LEFT SQUARE BRACKET WITH QUILL,RIGHT SQUARE BRACKET WITH QUILL,DOUBLE QUESTION MARK",
  "QUESTION EXCLAMATION MARK,EXCLAMATION QUESTION MARK,TIRONIAN SIGN ET,REVERSED PILCROW SIGN",
  "BLACK LEFTWARDS BULLET,BLACK RIGHTWARDS BULLET,LOW ASTERISK,REVERSED SEMICOLON,CLOSE UP",
  "TWO ASTERISKS ALIGNED VERTICALLY,COMMERCIAL MINUS SIGN,SWUNG DASH,INVERTED UNDERTIE",
  "FLOWER PUNCTUATION MARK,THREE DOT PUNCTUATION,QUADRUPLE PRIME,FOUR DOT PUNCTUATION",
  "FIVE DOT PUNCTUATION,TWO DOT PUNCTUATION,FOUR DOT MARK,DOTTED CROSS,TRICOLON",
  "VERTICAL FOUR DOTS,MEDIUM MATHEMATICAL SPACE,WORD JOINER,FUNCTION APPLICATION,INVISIBLE TIMES",
  "INVISIBLE SEPARATOR,INVISIBLE PLUS,,LEFT-TO-RIGHT ISOLATE,RIGHT-TO-LEFT ISOLATE",
  "FIRST STRONG ISOLATE,POP DIRECTIONAL ISOLATE,INHIBIT SYMMETRIC SWAPPING",
  "ACTIVATE SYMMETRIC SWAPPING,INHIBIT ARABIC FORM SHAPING,ACTIVATE ARABIC FORM SHAPING",
  "NATIONAL DIGIT SHAPES,NOMINAL DIGIT SHAPES"])

def blocks : List (Nat × List String) := [basicLatin, latinSupplement, punctuation]

end CharacterName

/-- Names of characters that have no name of their own, and short names. -/
def otherNames : List (String × Nat) := [
  ("NULL", 0), ("START OF HEADING", 1), ("START OF TEXT", 2), ("END OF TEXT", 3),
  ("END OF TRANSMISSION", 4), ("ENQUIRY", 5), ("ACKNOWLEDGE", 6), ("ALERT", 7), ("BACKSPACE", 8),
  ("CHARACTER TABULATION", 9), ("HORIZONTAL TABULATION", 9), ("LINE FEED", 10), ("NEW LINE", 10),
  ("END OF LINE", 10), ("LINE TABULATION", 11), ("VERTICAL TABULATION", 11), ("FORM FEED", 12),
  ("CARRIAGE RETURN", 13), ("SHIFT OUT", 14), ("LOCKING-SHIFT ONE", 14), ("SHIFT IN", 15),
  ("LOCKING-SHIFT ZERO", 15), ("DATA LINK ESCAPE", 16), ("DEVICE CONTROL ONE", 17),
  ("DEVICE CONTROL TWO", 18), ("DEVICE CONTROL THREE", 19), ("DEVICE CONTROL FOUR", 20),
  ("NEGATIVE ACKNOWLEDGE", 21), ("SYNCHRONOUS IDLE", 22), ("END OF TRANSMISSION BLOCK", 23),
  ("CANCEL", 24), ("END OF MEDIUM", 25), ("SUBSTITUTE", 26), ("ESCAPE", 27),
  ("INFORMATION SEPARATOR FOUR", 28), ("FILE SEPARATOR", 28), ("INFORMATION SEPARATOR THREE", 29),
  ("GROUP SEPARATOR", 29), ("INFORMATION SEPARATOR TWO", 30), ("RECORD SEPARATOR", 30),
  ("INFORMATION SEPARATOR ONE", 31), ("UNIT SEPARATOR", 31), ("DELETE", 127), ("NEXT LINE", 133),
  ("NUL", 0), ("SOH", 1), ("STX", 2), ("ETX", 3), ("EOT", 4), ("ENQ", 5), ("ACK", 6), ("BEL", 7),
  ("BS", 8), ("HT", 9), ("TAB", 9), ("LF", 10), ("NL", 10), ("EOL", 10), ("VT", 11), ("FF", 12),
  ("CR", 13), ("SO", 14), ("SI", 15), ("DLE", 16), ("DC1", 17), ("DC2", 18), ("DC3", 19),
  ("DC4", 20), ("NAK", 21), ("SYN", 22), ("ETB", 23), ("CAN", 24), ("EOM", 25), ("SUB", 26),
  ("ESC", 27), ("FS", 28), ("GS", 29), ("RS", 30), ("US", 31), ("SP", 32), ("DEL", 127),
  ("NEL", 133), ("NBSP", 160), ("SHY", 173), ("CGJ", 847), ("ZWSP", 8203), ("ZWNJ", 8204),
  ("ZWJ", 8205), ("LRM", 8206), ("RLM", 8207), ("LRE", 8234), ("RLE", 8235), ("PDF", 8236),
  ("LRO", 8237), ("RLO", 8238), ("NNBSP", 8239), ("MMSP", 8287), ("WJ", 8288), ("LRI", 8294),
  ("RLI", 8295), ("FSI", 8296), ("PDI", 8297), ("BYTE ORDER MARK", 65279), ("BOM", 65279),
  ("ZWNBSP", 65279), ("ZERO WIDTH NO-BREAK SPACE", 65279)]

def numberIn? (name : String) (block : Nat × List String) : Option Nat :=
  ((block.2.flatMap (·.splitOn ",")).findIdx? (· == name)).map (block.1 + ·)

def characterNamed? (name : List Char) : Option Char :=
  let name := String.ofList (name.map Char.toUpper)
  if name.isEmpty then none
  else
    let known := CharacterName.blocks.findSome? (numberIn? name)
    (known.or (otherNames.lookup name)).map Char.ofNat

end ClientCompiler.Text
