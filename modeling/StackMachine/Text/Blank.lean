/-!
White space, and what is cut or trimmed at it.

Two classes differ by four characters. A *pad* may stand around a numeral. A *blank* separates the
words of a line and is trimmed from its ends; the separators U+001C to U+001F are blanks and not pads.
-/

set_option autoImplicit false

namespace StackMachine.Text

/-- White space that may surround a numeral. -/
def isPad (c : Char) : Bool :=
  let n := c.toNat
  (0x9 ≤ n && n ≤ 0xd) || n == 0x20 || n == 0x85 || n == 0xa0 || n == 0x1680 ||
    (0x2000 ≤ n && n ≤ 0x200a) || n == 0x2028 || n == 0x2029 || n == 0x202f || n == 0x205f ||
    n == 0x3000

/-- White space between words: the pads and the four information separators. -/
def isBlank (c : Char) : Bool :=
  isPad c || (0x1c ≤ c.toNat && c.toNat ≤ 0x1f)

/-- The text without the characters of a class at its two ends. -/
def trimBy (class_ : Char → Bool) (text : List Char) : List Char :=
  ((text.dropWhile class_).reverse.dropWhile class_).reverse

def trim (text : List Char) : List Char :=
  trimBy isBlank text

/-- The pieces of a text between the characters of a class. There is always one piece more than there
are such characters, and a piece may be empty. -/
def cut (class_ : Char → Bool) : List Char → List (List Char)
  | [] => [[]]
  | c :: rest =>
    if class_ c then [] :: cut class_ rest
    else
      match cut class_ rest with
      | [] => [[c]]
      | piece :: pieces => (c :: piece) :: pieces

/-- The words of a text: its pieces between blanks, the empty ones left out. -/
def words (text : List Char) : List (List Char) :=
  (cut isBlank text).filter fun word => !word.isEmpty

/-- The first word of a text that starts with none of the blanks, and what follows the blanks after it. -/
def firstWord (text : List Char) : List Char × List Char :=
  (text.takeWhile fun c => !isBlank c, (text.dropWhile fun c => !isBlank c).dropWhile isBlank)

theorem isBlank_of_isPad {c : Char} (pad : isPad c = true) : isBlank c = true := by
  simp [isBlank, pad]

theorem cut_ne_nil (class_ : Char → Bool) (text : List Char) : cut class_ text ≠ [] := by
  cases text with
  | nil => simp [cut]
  | cons c rest =>
      unfold cut
      split
      · simp
      · split <;> simp

end StackMachine.Text
