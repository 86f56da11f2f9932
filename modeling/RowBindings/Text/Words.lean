import RowBindings.Text.Alphanumeric
import RowBindings.Text.LetterCase

/-!
# Words and their cases

A name is cut into words, which are then joined again in snake case, shouty snake case or Pascal
case. A word ends at a character that is neither letter nor digit, between a lower-case and an
upper-case letter (`fooBar`), and before the last of several upper-case letters if a lower-case one
follows it (`XMLHttp`). Digits belong to the word they stand in and do not change how it is read.
-/

namespace RowBindings.Text

/-- The case of the latest cased letter of the word being read. -/
inductive WordMode
  /-- The word has no cased letter yet. -/
  | start
  | lower
  | upper
  deriving DecidableEq

/-- The mode once `c` belongs to the word. -/
def WordMode.after (mode : WordMode) (c : Char) : WordMode :=
  if isLowercase c then .lower else if isUppercase c then .upper else mode

/-- The word whose letters are given last first, unless it has none. -/
def flush : List Char → List (List Char)
  | [] => []
  | word => [word.reverse]

/-- Cut a text into words, with the letters read so far of the current word given last first. -/
def wordsFrom (mode : WordMode) (word : List Char) : List Char → List (List Char)
  | [] => flush word
  | c :: rest =>
    if isAlphanumeric c then
      if mode.after c = .lower ∧ rest.head?.any isUppercase then
        flush (c :: word) ++ wordsFrom .start [] rest
      else if mode = .upper ∧ isUppercase c ∧ rest.head?.any isLowercase then
        flush word ++ wordsFrom .start [c] rest
      else
        wordsFrom (mode.after c) (c :: word) rest
    else
      flush word ++ wordsFrom .start [] rest

def words (s : List Char) : List (List Char) :=
  wordsFrom .start [] s

/-- A word in lower case. A capital sigma at its end becomes the final form of the letter. -/
def lowerWord : List Char → List Char
  | [] => []
  | c :: rest => (if c = 'Σ' ∧ rest = [] then ['ς'] else toLower c) ++ lowerWord rest

def upperWord (word : List Char) : List Char :=
  word.flatMap toUpper

/-- A word in lower case but for its first letter. -/
def capitalWord : List Char → List Char
  | [] => []
  | c :: rest => toUpper c ++ lowerWord rest

/-- `order_item`: the words in lower case, joined by underscores. -/
def snakeCase (s : String) : String :=
  String.ofList (['_'].intercalate ((words s.toList).map lowerWord))

/-- `ORDER_ITEM`: the words in upper case, joined by underscores. -/
def shoutySnakeCase (s : String) : String :=
  String.ofList (['_'].intercalate ((words s.toList).map upperWord))

/-- `OrderItem`: the words capitalised, with nothing between them. -/
def pascalCase (s : String) : String :=
  String.ofList ((words s.toList).flatMap capitalWord)

end RowBindings.Text
