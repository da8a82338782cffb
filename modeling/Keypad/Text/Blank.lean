/-!
Blank characters, and the words that they separate. Blank is every character with the Unicode
property White_Space, which has members beyond ASCII and leaves out invisible characters such
as the zero-width space. A blank between two texts keeps their words apart.
-/

namespace Keypad.Text

/-- The code points with the property White_Space. -/
def blankRanges : List (Nat × Nat) :=
  [(0x09, 0x0D), (0x20, 0x20), (0x85, 0x85), (0xA0, 0xA0), (0x1680, 0x1680), (0x2000, 0x200A),
    (0x2028, 0x2029), (0x202F, 0x202F), (0x205F, 0x205F), (0x3000, 0x3000)]

def isBlank (character : Char) : Bool :=
  blankRanges.any fun range => range.1 ≤ character.toNat && character.toNat ≤ range.2

def words (text : List Char) : List (List Char) :=
  (text.splitOnP isBlank).filter (!·.isEmpty)

def trim (text : List Char) : List Char :=
  ((text.dropWhile isBlank).reverse.dropWhile isBlank).reverse

theorem words_append_blank (before after : List Char) (blank : Char)
    (separates : isBlank blank = true) :
    words (before ++ blank :: after) = words before ++ words after := by
  simp [words, List.splitOnP_append_cons _ _ separates]

theorem words_of_word (word : List Char) (nonempty : word ≠ [])
    (solid : ∀ character ∈ word, isBlank character = false) : words word = [word] := by
  rw [words, List.splitOnP_eq_singleton solid]
  cases word with
  | nil => contradiction
  | cons first rest => rfl

theorem words_nil : words [] = [] := rfl

end Keypad.Text
