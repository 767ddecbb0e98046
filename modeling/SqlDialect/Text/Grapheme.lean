import SqlDialect.Text.GraphemeClass

/-!
# Graphemes

A text falls apart into graphemes, each of which a reader takes for one
character. Whether a character goes on with the grapheme before it depends on the
classes of the characters of that grapheme and on its own class.
-/

namespace SqlDialect

namespace GraphemeClass

/-- Whether a character of a class is a grapheme by itself, at least if no line
feed follows a carriage return. -/
def standsAlone : GraphemeClass → Bool
  | carriageReturn | lineFeed | control => true
  | _ => false

/-- Whether a character of a class belongs to the one before it. -/
def attaches : GraphemeClass → Bool
  | mark | linker | separator | joiner | spacingMark => true
  | _ => false

/-- Whether a character of a class can stand between two consonants of one
shape. -/
def joinsConsonants : GraphemeClass → Bool
  | mark | linker | joiner => true
  | _ => false

/-- Whether a character of a class can stand between a picture and a joiner. -/
def changesPictograph : GraphemeClass → Bool
  | mark | linker | separator => true
  | _ => false

end GraphemeClass

/-- Whether classes, the last one first, end in a consonant and something that
joins it to the next one. -/
def endsInLinkedConsonant (before : List GraphemeClass) : Bool :=
  (before.takeWhile GraphemeClass.joinsConsonants).contains .linker &&
    (before.dropWhile GraphemeClass.joinsConsonants).head? = some .consonant

/-- Whether classes, the last one first, end in a picture, which may be changed. -/
def endsInPictograph (before : List GraphemeClass) : Bool :=
  (before.dropWhile GraphemeClass.changesPictograph).head? = some .pictograph

/-- Whether classes, the last one first, end in an odd number of letters of
flags. -/
def endsInHalfFlag (before : List GraphemeClass) : Bool :=
  (before.takeWhile (· = .flagLetter)).length % 2 = 1

/-- Whether a character goes on with a grapheme. The classes of the grapheme are
given with the last one first. -/
def continuesGrapheme :
    List GraphemeClass → GraphemeClass → Bool
  | [], _ => false
  | last :: earlier, next =>
      if last.standsAlone || next.standsAlone then
        last = .carriageReturn && next = .lineFeed
      else if next.attaches || last = .leading then
        true
      else
        match last, next with
        | .initialSound, .initialSound
        | .initialSound, .vowel
        | .initialSound, .openSyllable
        | .initialSound, .closedSyllable
        | .openSyllable, .vowel
        | .openSyllable, .finalSound
        | .vowel, .vowel
        | .vowel, .finalSound
        | .closedSyllable, .finalSound
        | .finalSound, .finalSound => true
        | .flagLetter, .flagLetter => endsInHalfFlag (last :: earlier)
        | .joiner, .pictograph => endsInPictograph earlier
        | _, .consonant => endsInLinkedConsonant (last :: earlier)
        | _, _ => false

/-- The graphemes of a text of which a part has been read: of the grapheme that
it ends with, the classes and the characters are given, the last ones first. -/
def graphemesAfter
    (classes : List GraphemeClass)
    (grapheme : List Char) : List Char → List (List Char)
  | [] => [grapheme.reverse]
  | character :: rest =>
      let next := GraphemeClass.ofCharacter character
      if continuesGrapheme classes next then
        graphemesAfter (next :: classes) (character :: grapheme) rest
      else
        grapheme.reverse :: graphemesAfter [next] [character] rest

/-- The graphemes of a text. -/
def graphemes : List Char → List (List Char)
  | [] => []
  | character :: rest =>
      graphemesAfter [.ofCharacter character] [character] rest

end SqlDialect
