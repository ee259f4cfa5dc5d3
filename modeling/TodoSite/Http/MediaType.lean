/-
  Media types by the endings of names.

  A file is sent with a media type, which tells the browser how to take it.  The type follows from
  the ending of the name, what comes after its last dot, by a table; a name with no ending, or with
  one that is not in the table, is of the type for bytes of any kind.

  Endings are compared by their full case folding: besides the capitals, the long s (U+017F) counts
  as s, the Kelvin sign (U+212A) as k, the sharp s in its three forms (U+00DF, U+1E9E, U+1DF95) as
  ss, and the seven Latin ligatures as their letters.  No other character folds to ASCII letters
  alone, so these are all that can matter for a table whose endings are ASCII.
-/
import TodoSite.Http.MediaType.Table

namespace TodoSite.MediaType

/-- The type for bytes of any kind. -/
def bytes : String := "application/octet-stream"

/-! ## Folding -/

/-- A character as its case folding has it, where that is ASCII. -/
def foldChar (c : Char) : List Char :=
  if c = '\u017f' then ['s']
  else if c = '\u212a' then ['k']
  else if c = '\u00df' || c = '\u1e9e' || c.toNat = 0x1DF95 then ['s', 's']
  else if c = '\ufb00' then ['f', 'f']
  else if c = '\ufb01' then ['f', 'i']
  else if c = '\ufb02' then ['f', 'l']
  else if c = '\ufb03' then ['f', 'f', 'i']
  else if c = '\ufb04' then ['f', 'f', 'l']
  else if c = '\ufb05' || c = '\ufb06' then ['s', 't']
  else [c.toLower]

/-- An ending as it stands in the table. -/
def fold (ending : String) : String :=
  String.ofList (ending.toList.flatMap foldChar)

/-! ## Looking up -/

/-- The type that the table gives to an ending. -/
def ofEnding? (ending : String) : Option String :=
  let folded := fold ending
  (table.find? fun row => folded ∈ row.2).map (·.1)

/-- The type of the files whose names have this ending, if they have one. -/
def ofEnding (ending : Option String) : String :=
  (ending.bind ofEnding?).getD bytes

end TodoSite.MediaType
