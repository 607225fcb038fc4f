import SeriesScript.Language.Program
import SeriesScript.Language.Token

/-!
# The grammar of scripts

Which lists of tokens write which trees. The trees carry no spans, and there is one rule for each
alternative of each phrase:

* script: newlines, then lines with at least one newline between any two, then newlines, and the
  end of the text
* line: `var` name `=` sum, or name `=` sum, or `print` `(` sum `)`
* sum: products with `+` and `-` between them
* product: operands with `*` and `/` between them
* operand: a number, a text, a unit, a reduction, a name, a call, or a sum in brackets
* arguments of a call: sums with commas between them, and one more comma at will behind the last

Sums and products extend to the right, so their operators group to the left.
-/
namespace SeriesScript.Grammar

mutual

inductive Operand : List Token → Expr → Prop
  | integer (n : Int64) : Operand [.integer n] (.literal (.integer n) none)
  | decimal (x : Float) : Operand [.decimal x] (.literal (.decimal x) none)
  | text (s : String) : Operand [.text s] (.literal (.text s) none)
  | unit (u : TimeUnit) : Operand [.unit u] (.literal (.unit u) none)
  | reduction (r : Reduction) : Operand [.reduction r] (.literal (.reduction r) none)
  | reference (name : String) : Operand [.identifier name] (.reference name none)
  | call (function : String) {ts : List Token} {args : List Expr} (h : Arguments ts args) :
      Operand (.identifier function :: .leftParen :: (ts ++ [.rightParen]))
        (.call function args none)
  | group {ts : List Token} {e : Expr} (h : Sum ts e) :
      Operand (.leftParen :: (ts ++ [.rightParen])) e

inductive Product : List Token → Expr → Prop
  | operand {ts : List Token} {e : Expr} (h : Operand ts e) : Product ts e
  | multiply {ts us : List Token} {e f : Expr} (left : Product ts e) (right : Operand us f) :
      Product (ts ++ .star :: us) (.binary .multiply e f none)
  | divide {ts us : List Token} {e f : Expr} (left : Product ts e) (right : Operand us f) :
      Product (ts ++ .slash :: us) (.binary .divide e f none)

inductive Sum : List Token → Expr → Prop
  | product {ts : List Token} {e : Expr} (h : Product ts e) : Sum ts e
  | add {ts us : List Token} {e f : Expr} (left : Sum ts e) (right : Product us f) :
      Sum (ts ++ .plus :: us) (.binary .add e f none)
  | subtract {ts us : List Token} {e f : Expr} (left : Sum ts e) (right : Product us f) :
      Sum (ts ++ .minus :: us) (.binary .subtract e f none)

/-- One sum or more, with commas between them. -/
inductive Listed : List Token → List Expr → Prop
  | one {ts : List Token} {e : Expr} (h : Sum ts e) : Listed ts [e]
  | more {ts us : List Token} {es : List Expr} {e : Expr} (init : Listed ts es) (last : Sum us e) :
      Listed (ts ++ .comma :: us) (es ++ [e])

inductive Arguments : List Token → List Expr → Prop
  | none : Arguments [] []
  | listed {ts : List Token} {es : List Expr} (h : Listed ts es) : Arguments ts es
  | trailingComma {ts : List Token} {es : List Expr} (h : Listed ts es) :
      Arguments (ts ++ [.comma]) es

end

inductive Line : List Token → Statement → Prop
  | declare (name : String) {ts : List Token} {e : Expr} (h : Sum ts e) :
      Line (.var :: .identifier name :: .assign :: ts) (.declare name e none)
  | assign (name : String) {ts : List Token} {e : Expr} (h : Sum ts e) :
      Line (.identifier name :: .assign :: ts) (.assign name e none)
  | print {ts : List Token} {e : Expr} (h : Sum ts e) :
      Line (.print :: .leftParen :: (ts ++ [.rightParen])) (.print e none)

def newlines (n : Nat) : List Token := List.replicate n .newline

inductive Lines : List Token → Program → Prop
  | one {ts : List Token} {s : Statement} (h : Line ts s) : Lines ts [s]
  | more (n : Nat) {ts us : List Token} {p : Program} {s : Statement} (init : Lines ts p)
      (last : Line us s) : Lines (ts ++ newlines (n + 1) ++ us) (p ++ [s])

inductive Script : List Token → Program → Prop
  | empty (n : Nat) : Script (newlines n ++ [.eof]) []
  | lines (m n : Nat) {ts : List Token} {p : Program} (h : Lines ts p) :
      Script (newlines m ++ ts ++ newlines n ++ [.eof]) p

end SeriesScript.Grammar
