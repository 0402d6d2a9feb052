import ProseLinter.Rule.Match
import ProseLinter.Text.Alphanumeric
import ProseLinter.Text.Blank
import ProseLinter.Text.LowerCase

/-!
# Doubled words

The rule finds a word that follows the same word, in letters of any case, with only blanks between
them. A word is a run of letters, numbers and apostrophes.

* `NoDoubledWord.words` are the words of a text.
* `NoDoubledWord.rule` is the rule.
-/

namespace ProseLinter.NoDoubledWord

/-- The characters that form words. -/
def isWordChar (c : Char) : Bool :=
  Text.isAlphanumeric c || c == '\''

/-- A word: its byte offset, its characters, and whether only blanks stand between it and the word
before. -/
structure Word where
  start : Nat
  chars : List Char
  afterBlank : Bool
deriving Repr

/-- The words of the rest of a text that begins at `offset`. `current` holds the characters of an
unfinished word, the last one first, and `start` its offset; `afterBlank` says whether the word
that is unfinished or comes next follows another with only blanks between; `done` holds the words
before, the last one first. -/
def wordsFrom (done : List Word) (start : Nat) (current : List Char) (afterBlank : Bool)
    (offset : Nat) : List Char → List Word
  | [] =>
    (if current.isEmpty then done else ⟨start, current.reverse, afterBlank⟩ :: done).reverse
  | c :: cs =>
    let next := offset + c.utf8Size
    if isWordChar c then
      wordsFrom done (if current.isEmpty then offset else start) (c :: current) afterBlank next cs
    else if current.isEmpty then
      wordsFrom done start [] (afterBlank && Text.isBlank c) next cs
    else
      wordsFrom (⟨start, current.reverse, afterBlank⟩ :: done) start [] (Text.isBlank c) next cs

/-- The words of a text. -/
def words (text : List Char) : List Word :=
  wordsFrom [] 0 [] false 0 text

/-- Whether a word repeats the one before it. -/
def repeats (before word : Word) : Bool :=
  word.afterBlank && Text.lower word.chars == Text.lower before.chars

/-- The text of the message for a word. -/
def messageText (word : List Char) : String :=
  "\"" ++ String.ofList word ++ "\" is repeated."

/-- The match for a word that repeats the one before it. -/
def match? (before word : Word) : Option Match :=
  if repeats before word then some ⟨word.start, word.chars, messageText word.chars, .error⟩
  else none

/-- The matches among words: each is compared with the one before it. -/
def searchAmong (tokens : List Word) : List Match :=
  (tokens.zip (tokens.drop 1)).filterMap fun (before, word) => match? before word

/-- The matches in a text. -/
def search (text : List Char) : List Match :=
  searchAmong (words text)

/-- The findings in a document. -/
def check (c : Rule.Context) : List Finding :=
  c.scan .str search

/-- The rule against doubled words. -/
def rule : Rule where
  tag := none
  description := "Disallow the same word twice in a row"
  check c := ⟨check c, none⟩

end ProseLinter.NoDoubledWord
