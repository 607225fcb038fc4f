import SeriesScript.Decimal.Layout
import SeriesScript.Reduction
import SeriesScript.Source.Position
import SeriesScript.Text.Quoted
import SeriesScript.Time.Unit

/-!
# Tokens

The words and signs of a script. Messages about a script show a token by its class and, where the
class has several members, by its content.
-/
namespace SeriesScript

inductive Token where
  | var
  | print
  | unit (u : TimeUnit)
  | reduction (r : Reduction)
  | identifier (name : String)
  | integer (n : Int64)
  | decimal (x : Float)
  | text (s : String)
  | assign
  | plus
  | minus
  | star
  | slash
  | leftParen
  | rightParen
  | comma
  | newline
  | eof
deriving Inhabited

namespace Token

private def withContent (name content : String) : String := name ++ "(" ++ content ++ ")"

def describe : Token → String
  | var => "Var"
  | print => "Print"
  | unit u => withContent "TimeUnit" u.name
  | reduction r => withContent "Aggregation" r.name
  | identifier name => withContent "Identifier" (Text.quote name)
  | integer n => withContent "Integer" (toString n)
  | decimal x => withContent "Decimal" (Decimal.quoted.render x)
  | text s => withContent "String" (Text.quote s)
  | assign => "Assign"
  | plus => "Plus"
  | minus => "Minus"
  | star => "Star"
  | slash => "Slash"
  | leftParen => "LeftParen"
  | rightParen => "RightParen"
  | comma => "Comma"
  | newline => "Newline"
  | eof => "Eof"

def isNewline : Token → Bool
  | newline => true
  | _ => false

/-- The token of a word: a keyword, or else a name. -/
def ofWord (word : String) : Token :=
  if word = "var" then var
  else if word = "print" then print
  else
    match TimeUnit.ofKeyword? word, Reduction.ofKeyword? word with
    | some u, _ => unit u
    | none, some r => reduction r
    | none, none => identifier word

def ofSign? : Char → Option Token
  | '=' => some assign
  | '+' => some plus
  | '-' => some minus
  | '*' => some star
  | '/' => some slash
  | '(' => some leftParen
  | ')' => some rightParen
  | ',' => some comma
  | '\n' => some newline
  | _ => none

end Token

structure Located where
  token : Token
  span : Span
deriving Inhabited

end SeriesScript
