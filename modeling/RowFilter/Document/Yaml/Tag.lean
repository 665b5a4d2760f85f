import RowFilter.Number.Integer

/-!
# YAML tags

What the tag of a node announces, and the tag of a plain scalar without one by
the rules of YAML 1.1: null, truth values, integers in four bases and in base
sixty, floating-point numbers, dates and date-times, and the keys of merging
and of the default value.  Whatever fits none of them is a text.
-/

namespace RowFilter
namespace Yaml

/-- What the tag of a node announces. -/
inductive Tag where
  /-- The absent value. -/
  | null
  /-- A truth value. -/
  | bool
  /-- An integer. -/
  | int
  /-- A floating-point number. -/
  | float
  /-- A date or a date-time. -/
  | timestamp
  /-- Octets in base 64. -/
  | binary
  /-- A text. -/
  | text
  /-- A sequence. -/
  | sequence
  /-- A mapping. -/
  | mapping
  /-- A set. -/
  | set
  /-- A sequence of pairs. -/
  | pairs
  /-- The key that merges other mappings into its own. -/
  | merge
  /-- The key of the default value. -/
  | default
  /-- Something that plain data do not hold. -/
  | foreign
deriving DecidableEq, Repr

/-- The address that the tags of the language start with. -/
def coreAddress : List Char :=
  "tag:yaml.org,2002:".toList

/-- The tags of the language by the ends of their names. -/
def coreTags : List (String × Tag) :=
  [("null", .null), ("bool", .bool), ("int", .int), ("float", .float), ("timestamp", .timestamp),
    ("binary", .binary), ("str", .text), ("seq", .sequence), ("map", .mapping), ("set", .set),
    ("omap", .pairs), ("pairs", .pairs), ("merge", .merge), ("value", .default)]

/-- The tag with the given full name. -/
def Tag.ofName (name : List Char) : Tag :=
  if coreAddress.isPrefixOf name then
    (coreTags.lookup (String.ofList (name.drop coreAddress.length))).getD .foreign
  else .foreign

/-! ## Words -/

/-- The words for truth values, in lower case. -/
def truthWords : List (String × Bool) :=
  [("yes", true), ("no", false), ("true", true), ("false", false), ("on", true), ("off", false)]

/-- A word in lower case, in upper case, or with a capital alone. -/
def isCased (word : String) (characters : List Char) : Bool :=
  let lowered := word.toList
  let raised := lowered.map Char.toUpper
  characters = lowered || characters = raised ||
    characters = raised.take 1 ++ lowered.drop 1

/-- A word for a truth value. -/
def isTruthForm (characters : List Char) : Bool :=
  truthWords.any fun entry => isCased entry.1 characters

/-- A word for the absent value. -/
def isNullForm (characters : List Char) : Bool :=
  characters = ['~'] || isCased "null" characters

/-! ## Numbers -/

/-- An ASCII digit or an underscore. -/
def isDigitOrBar (character : Char) : Bool :=
  character.isDigit || character = '_'

/-- Digits of a base, or underscores, and at least one of them. -/
def areDigits (base : Nat) (characters : List Char) : Bool :=
  !characters.isEmpty &&
    characters.all fun character =>
      character = '_' || ((Text.hexDigit? character).filter (· < base)).isSome

/-- A number of minutes or seconds: one digit, or two of which the first is below six. -/
def isSixtieth : List Char → Bool
  | [ones] => ones.isDigit
  | [tens, ones] => '0' ≤ tens && tens ≤ '5' && ones.isDigit
  | _ => false

/-- Cuts a sequence at the colons. -/
def splitColons : List Char → List (List Char)
  | [] => [[]]
  | character :: rest =>
      match splitColons rest with
      | [] => [[character]]
      | piece :: pieces =>
          if character = ':' then [] :: piece :: pieces
          else (character :: piece) :: pieces

/-- The digits of a decimal integer: a zero alone, or digits that start with none. -/
def isDecimalForm : List Char → Bool
  | ['0'] => true
  | first :: rest => first.isDigit && first ≠ '0' && rest.all isDigitOrBar
  | [] => false

/-- A number in base sixty: a decimal integer and sixtieths after it. -/
def isSixtyForm (characters : List Char) : Bool :=
  match splitColons characters with
  | whole :: piece :: pieces =>
      isDecimalForm whole && whole ≠ ['0'] && (piece :: pieces).all isSixtieth
  | _ => false

/-- An integer with its sign. -/
def isIntegerForm (characters : List Char) : Bool :=
  match (Numeral.takeSign characters).2 with
  | '0' :: 'b' :: digits => areDigits 2 digits
  | '0' :: 'x' :: digits => areDigits 16 digits
  | '0' :: first :: rest => areDigits 8 (first :: rest)
  | unsigned => isDecimalForm unsigned || isSixtyForm unsigned

/-- An exponent with its sign; it may be missing. -/
def isExponentForm : List Char → Bool
  | [] => true
  | mark :: sign :: digits =>
      (mark = 'e' || mark = 'E') && (sign = '-' || sign = '+') && !digits.isEmpty &&
        digits.all Char.isDigit
  | _ => false

/-- The words for infinity. -/
def infiniteWords : List String :=
  [".inf", ".Inf", ".INF"]

/-- The words for not-a-number. -/
def nanWords : List String :=
  [".nan", ".NaN", ".NAN"]

/-- A floating-point number: a word, or digits with a point among them. -/
def isFloatForm (characters : List Char) : Bool :=
  let unsigned := (Numeral.takeSign characters).2
  nanWords.contains (String.ofList characters) ||
    infiniteWords.contains (String.ofList unsigned) ||
    (let isWhole (character : Char) : Bool := isDigitOrBar character || character = ':'
     match unsigned.takeWhile isWhole, unsigned.dropWhile isWhole with
     | [], '.' :: first :: rest =>
         unsigned.length = characters.length && first.isDigit &&
           isExponentForm (rest.dropWhile isDigitOrBar)
     | first :: others, '.' :: rest =>
         let tail := rest.dropWhile isDigitOrBar
         first.isDigit &&
           (if others.contains ':' then
              (splitColons (first :: others)).tail.all isSixtieth && tail.isEmpty
            else isExponentForm tail)
     | _, _ => false)

/-! ## Dates -/

/-- The parts of a date, and of a time of day where there is one, by their digits. -/
structure TimestampParts where
  /-- The digits of the year. -/
  year : List Char
  /-- The digits of the month. -/
  month : List Char
  /-- The digits of the day. -/
  day : List Char
  /-- The digits of hour, minute, second and fraction, and the characters of the zone. -/
  time : Option (List Char × List Char × List Char × List Char × List Char)

/-- The digits at the front and the rest. -/
def takeDigits (characters : List Char) : List Char × List Char :=
  (characters.takeWhile Char.isDigit, characters.dropWhile Char.isDigit)

/-- One or two digits. -/
def isShort (digits : List Char) : Bool :=
  digits.length = 1 || digits.length = 2

/-- The characters after the blanks at the front. -/
def dropBlanks (characters : List Char) : List Char :=
  characters.dropWhile fun character => character = ' ' || character = '\t'

/-- What stands between a date and a time of day: a `T`, or blanks. -/
def afterGap? : List Char → Option (List Char)
  | 'T' :: rest | 't' :: rest => some rest
  | ' ' :: rest | '\t' :: rest => some (dropBlanks rest)
  | _ => none

/-- A zone after a time of day: none, `Z`, or an offset of hours and minutes. -/
def isZoneForm (characters : List Char) : Bool :=
  match dropBlanks characters with
  | [] => characters = []
  | ['Z'] => true
  | sign :: rest =>
      (sign = '+' || sign = '-') &&
        match takeDigits rest with
        | (hours, []) => isShort hours
        | (hours, ':' :: minutes) =>
            isShort hours && minutes.length = 2 && minutes.all Char.isDigit
        | _ => false

/-- The digits of a time of day, and the characters of its zone. -/
def timeParts? (characters : List Char) :
    Option (List Char × List Char × List Char × List Char × List Char) :=
  match takeDigits characters with
  | (hour, ':' :: m₁ :: m₂ :: ':' :: s₁ :: s₂ :: rest) =>
      let (fraction, zone) :=
        match rest with
        | '.' :: rest => takeDigits rest
        | rest => ([], rest)
      if isShort hour && [m₁, m₂, s₁, s₂].all Char.isDigit && isZoneForm zone then
        some (hour, [m₁, m₂], [s₁, s₂], fraction, zone)
      else none
  | _ => none

/-- The parts of a date or a date-time. -/
def timestampParts? (characters : List Char) : Option TimestampParts :=
  match takeDigits characters with
  | (year, '-' :: afterYear) =>
      match takeDigits afterYear with
      | (month, '-' :: afterMonth) =>
          let (day, rest) := takeDigits afterMonth
          if year.length ≠ 4 || !isShort month || !isShort day then none
          else if rest = [] then some { year, month, day, time := none }
          else
            ((afterGap? rest).bind timeParts?).map fun time =>
              { year, month, day, time := some time }
      | _ => none
  | _ => none

/-- A date-time, or a date whose month and day have two digits each. -/
def isTimestampForm (characters : List Char) : Bool :=
  (timestampParts? characters).any fun parts =>
    parts.time.isSome || (parts.month.length = 2 && parts.day.length = 2)

/-! ## Plain scalars -/

/-- Marks that stand for nothing where one of them is a whole scalar. -/
def reservedMarks : List Char :=
  ['!', '&', '*']

/-- The tag of a scalar whose characters alone tell what it is; one line feed may end them. -/
def Tag.ofPlain (content : List Char) : Tag :=
  let characters := Text.dropFinalNewline content
  if content = [] || isNullForm characters then .null
  else if isTruthForm characters then .bool
  else if isFloatForm characters then .float
  else if isIntegerForm characters then .int
  else if characters = ['<', '<'] then .merge
  else if isTimestampForm characters then .timestamp
  else if characters = ['='] then .default
  else if reservedMarks.any fun mark => characters = [mark] then .foreign
  else .text

end Yaml
end RowFilter
