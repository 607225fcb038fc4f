import SeriesScript.Language.Token

/-!
# Syntax errors

Why a text is no script, and where that shows.
-/
namespace SeriesScript

inductive SyntaxFault where
  | integerTooLarge (digits : String)
  | unterminatedText
  | unexpectedCharacter (c : Char)
  /-- A statement is followed by something other than the end of its line. -/
  | trailingToken (found : Token)
  /-- A line starts like no statement. -/
  | notAStatement (found : Token)
  | nameExpected (found : Token)
  | tokenExpected (wanted found : Token)
  | operandExpected (found : Token)

namespace SyntaxFault

def message : SyntaxFault → String
  | integerTooLarge digits => "Invalid integer number: " ++ digits
  | unterminatedText => "Unterminated string"
  | unexpectedCharacter c => "Unexpected character: '" ++ c.toString ++ "'"
  | trailingToken found => "Unexpected token after statement: " ++ found.describe
  | notAStatement found =>
    "Unexpected token: " ++ found.describe ++ ". Expected var, print or an assignment"
  | nameExpected found => "Expected variable name after var, got " ++ found.describe
  | tokenExpected wanted found => "Expected " ++ wanted.describe ++ ", got " ++ found.describe
  | operandExpected found => "Unexpected token in expression: " ++ found.describe

end SyntaxFault

structure SyntaxError where
  fault : SyntaxFault
  position : Position

namespace SyntaxError

def message (e : SyntaxError) : String :=
  "Parse error at " ++ e.position.render ++ ": " ++ e.fault.message

end SyntaxError

end SeriesScript
