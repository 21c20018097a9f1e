import ComposeCluster.Text.Blank

/-!
# Command lines

A command that is written as one text is cut into words at its white space. Single quotes keep
everything as it stands; double quotes and backslashes keep white space too, and within double
quotes a backslash counts only before the characters that would otherwise mean something. Nothing
is substituted.
-/

set_option autoImplicit false

namespace ComposeCluster.Compose

/-- What is wrong with a command line. -/
inductive CommandError where
  | openSingleQuote
  | openDoubleQuote
  | danglingEscape
  deriving DecidableEq

namespace CommandError

def message : CommandError → String
  | .openSingleQuote => "unterminated single quote"
  | .openDoubleQuote => "unterminated double quote"
  | .danglingEscape => "dangling escape"

end CommandError

/-- Which quotes are open, and whether a backslash precedes. -/
inductive Quoting where
  | none
  | escape
  | single
  | double
  | doubleEscape
  deriving DecidableEq

/-- The characters that a backslash takes along within double quotes. -/
def isEscapable (c : Char) : Bool :=
  c == '"' || c == '\\' || c == '$' || c == '\x60'

/-- The words once the last one is complete; `word` holds its characters last first, if there is
one, and `done` the words before it, last first. -/
def closeWord (word : Option (List Char)) (done : List String) : List String :=
  match word with
  | none => done
  | some cs => String.ofList cs.reverse :: done

/-- A character more in the current word. -/
def addChar (c : Char) (word : Option (List Char)) : Option (List Char) :=
  some (c :: word.getD [])

/-- Cuts characters into words; a quote begins a word even if nothing is in it. -/
def scanWords (quoting : Quoting) (word : Option (List Char)) (done : List String) :
    List Char → Except CommandError (List String)
  | [] =>
    match quoting with
    | .none => .ok (closeWord word done).reverse
    | .escape => .error .danglingEscape
    | .single => .error .openSingleQuote
    | .double => .error .openDoubleQuote
    | .doubleEscape => .error .openDoubleQuote
  | c :: rest =>
    match quoting with
    | .none =>
      if c = '\'' then scanWords .single (some (word.getD [])) done rest
      else if c = '"' then scanWords .double (some (word.getD [])) done rest
      else if c = '\\' then scanWords .escape word done rest
      else if Text.isBlank c then scanWords .none none (closeWord word done) rest
      else scanWords .none (addChar c word) done rest
    | .escape => scanWords .none (addChar c word) done rest
    | .single =>
      if c = '\'' then scanWords .none word done rest
      else scanWords .single (addChar c word) done rest
    | .double =>
      if c = '"' then scanWords .none word done rest
      else if c = '\\' then scanWords .doubleEscape word done rest
      else scanWords .double (addChar c word) done rest
    | .doubleEscape =>
      if isEscapable c then scanWords .double (addChar c word) done rest
      else scanWords .double (addChar c (addChar '\\' word)) done rest

/-- The words of a command line. -/
def shellWords (text : String) : Except CommandError (List String) :=
  scanWords .none none [] text.toList

end ComposeCluster.Compose
