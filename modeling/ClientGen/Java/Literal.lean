/-!
# Text in string literals

What stands between the quotes of a Java string literal: [escapeQuotes] puts a backslash in front of
backslashes and quotes, and [escapeText] writes line feeds as escapes beside that.
-/

namespace ClientGen.Java

/-- A character with a backslash in front if it needs one. -/
def escapeQuote (c : Char) : List Char :=
  if c = '\\' || c = '"' then ['\\', c] else [c]

/-- A character of a text that may have several lines. -/
def escapeChar (c : Char) : List Char :=
  if c = '\n' then ['\\', 'n'] else escapeQuote c

/-- A text with its backslashes and quotes escaped. -/
def escapeQuotes (s : String) : String := String.ofList (s.toList.flatMap escapeQuote)

/-- A text with its backslashes, quotes and line feeds escaped. -/
def escapeText (s : String) : String := String.ofList (s.toList.flatMap escapeChar)

end ClientGen.Java
