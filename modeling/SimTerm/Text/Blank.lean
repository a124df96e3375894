/-!
# Blank Characters, Trimming and Words

White space in the sense of the Unicode `White_Space` characters together with the four
information separators U+001C to U+001F. A line is trimmed and cut into words at maximal
runs of such characters.

## Main definitions

* `isBlank`: The class of white space characters.
* `trim`: A text without leading and trailing blanks.
* `isNumberBlank`, `trimNumber`: The blanks that may stand around a number, and a text without
  them.
* `words`: The maximal runs of characters that are not blank.
* `headWord`, `afterFirstWord`: The characters before the first blank, and what follows the
  first word and the blanks after it.
-/

namespace SimTerm

namespace Text

/-- White space: the Unicode blanks and the information separators. -/
def isBlank (c : Char) : Bool :=
  let n := c.toNat
  (9 ≤ n && n ≤ 13) || (28 ≤ n && n ≤ 32) || n == 0x85 || n == 0xA0 || n == 0x1680 ||
    (0x2000 ≤ n && n ≤ 0x200A) || n == 0x2028 || n == 0x2029 || n == 0x202F || n == 0x205F ||
    n == 0x3000

/-- The information separators, which are blank but may not stand around a number. -/
def isSeparator (c : Char) : Bool := 28 ≤ c.toNat && c.toNat ≤ 31

/-- White space that may stand around a number. -/
def isNumberBlank (c : Char) : Bool := isBlank c && !isSeparator c

/-- The text from its first character that is not blank. -/
def trimLeft (cs : List Char) : List Char := cs.dropWhile isBlank

/-- The text up to its last character that is not blank. -/
def trimRight (cs : List Char) : List Char := (cs.reverse.dropWhile isBlank).reverse

/-- The text without leading and trailing blanks. -/
def trim (cs : List Char) : List Char := trimRight (trimLeft cs)

/-- The text without the white space around the number that it writes. -/
def trimNumber (cs : List Char) : List Char :=
  ((cs.dropWhile isNumberBlank).reverse.dropWhile isNumberBlank).reverse

/-- The maximal runs of characters that are not blank, in order. -/
def words (cs : List Char) : List (List Char) :=
  (cs.splitOnP isBlank).filter (fun w => !w.isEmpty)

/-- The characters before the first blank. -/
def headWord (cs : List Char) : List Char := cs.takeWhile (fun c => !isBlank c)

/-- The characters from the first blank on. -/
def afterHead (cs : List Char) : List Char := cs.dropWhile (fun c => !isBlank c)

/-- What remains of a text when its first word and the blanks around it are dropped. -/
def afterFirstWord (cs : List Char) : List Char := trimLeft (afterHead (trimLeft cs))

end Text

/-- A string without its leading and trailing blanks. -/
def trimmed (s : String) : String := String.ofList (Text.trim s.toList)

end SimTerm
