/-!
# Words of a shell command

A word is written bare, or quoted so that a shell reads it as one word with
exactly the given characters: between single quotes everything is literal but
the single quote itself, which is written outside them with a backslash.
-/

namespace VolumeMigration.Text

/-- Writes each single quote as a closing quote, an escaped quote and an opening quote. -/
def escapeQuotes : List Char → List Char
  | [] => []
  | c :: r => if c = '\'' then '\'' :: '\\' :: '\'' :: '\'' :: escapeQuotes r else c :: escapeQuotes r

/-- A text in single quotes. -/
def shellQuote (s : String) : String := String.ofList ('\'' :: escapeQuotes s.toList ++ ['\''])

/-- A word of a command line, as it is written. -/
inductive ShellWord where
  /-- A word that needs no quoting. -/
  | bare (text : String)
  /-- A word in single quotes. -/
  | quoted (text : String)
deriving DecidableEq, Repr

namespace ShellWord

/-- The argument that the word stands for. -/
def text : ShellWord → String
  | bare s => s
  | quoted s => s

def render : ShellWord → String
  | bare s => s
  | quoted s => shellQuote s

end ShellWord

end VolumeMigration.Text
