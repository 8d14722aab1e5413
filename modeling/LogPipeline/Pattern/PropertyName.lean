import LogPipeline.Pattern.CharClass

/-!
# Names of properties

The names by which a pattern asks for the characters that have a property. Case, blanks, hyphens and
low lines do not count in a name, and neither does an `is` before it.
-/

namespace LogPipeline.CharClass

def plainName (name : List Char) : List Char :=
  let name := match name with
    | i :: s :: rest => if i.toLower = 'i' ∧ s.toLower = 's' then rest else name
    | name => name
  (name.filter fun c => c.toNat < 128 && c != ' ' && c != '_' && c != '-').map Char.toLower

def categories : List (List String × CharClass) :=
  let letter := property .letter
  let upper := property .uppercaseLetter
  let lower := property .lowercaseLetter
  let visible := anyOf [letter, property .mark, property .number, property .punctuation,
    property .symbol, property .separator]
  [(["l", "letter"], letter), (["lu", "uppercaseletter"], upper),
    (["ll", "lowercaseletter"], lower), (["m", "mark", "combiningmark"], property .mark),
    (["n", "number"], property .number), (["nd", "decimalnumber", "digit"], digit),
    (["p", "punctuation", "punct"], property .punctuation),
    (["pc", "connectorpunctuation"], anyOf [single '_', range '\u203f' '\u2040', single '\u2054',
      range '\ufe33' '\ufe34', range '\ufe4d' '\ufe4f', single '\uff3f']),
    (["s", "symbol"], property .symbol), (["sc", "currencysymbol"], property .currency),
    (["z", "separator"], property .separator),
    (["zs", "spaceseparator"], difference (property .separator) (range '\u2028' '\u2029')),
    (["zl", "lineseparator"], single '\u2028'), (["zp", "paragraphseparator"], single '\u2029'),
    (["cc", "control", "cntrl"], anyOf [range '\x00' '\x1f', range '\x7f' '\u009f']),
    (["c", "other"], except visible), (["any"], any), (["ascii"], range '\x00' '\x7f')]

def flags : List (List String × CharClass) :=
  [(["alphabetic", "alpha"], anyOf [property .letter, property .otherAlphabetic]),
    (["uppercase", "upper"], anyOf [property .uppercaseLetter, property .otherUppercase]),
    (["lowercase", "lower"], anyOf [property .lowercaseLetter, property .otherLowercase]),
    (["whitespace", "wspace", "space"], blank)]

def scripts : List (List String × CharClass) :=
  [(["latin", "latn"], property .latin), (["greek", "grek"], property .greek),
    (["cyrillic", "cyrl"], property .cyrillic), (["han", "hani"], property .han),
    (["hiragana", "hira"], property .hiragana), (["katakana", "kana"], property .katakana)]

def lookup? (table : List (List String × CharClass)) (name : List Char) : Option CharClass :=
  (table.find? fun row => row.1.contains (String.ofList name)).map (·.2)

def ofPropertyName? (name : List Char) : Option CharClass :=
  let kind := plainName (name.takeWhile fun c => c != '=' && c != ':')
  match name.dropWhile fun c => c != '=' && c != ':' with
  | [] => lookup? (flags ++ categories ++ scripts) kind
  | _ :: value =>
    let value := plainName value
    if kind = "gc".toList ∨ kind = "generalcategory".toList then lookup? categories value
    else if kind = "sc".toList ∨ kind = "script".toList then lookup? scripts value
    else Option.none

end LogPipeline.CharClass
