import Reckoner.Number.Text
import Reckoner.Text.Quoted

namespace Reckoner

/-- The reserved words. -/
inductive Keyword where
  | letK | constK | varK | ifK | elseK | returnK | throwK | newK | typeofK | thisK
  | trueK | falseK | nullK | undefinedK
deriving DecidableEq, Repr

namespace Keyword

def all : List Keyword :=
  [letK, constK, varK, ifK, elseK, returnK, throwK, newK, typeofK, thisK, trueK, falseK, nullK,
    undefinedK]

def word : Keyword → String
  | letK => "let"
  | constK => "const"
  | varK => "var"
  | ifK => "if"
  | elseK => "else"
  | returnK => "return"
  | throwK => "throw"
  | newK => "new"
  | typeofK => "typeof"
  | thisK => "this"
  | trueK => "true"
  | falseK => "false"
  | nullK => "null"
  | undefinedK => "undefined"

/-- The keyword that a word is. -/
def ofWord? (word : String) : Option Keyword := all.find? (·.word == word)

end Keyword

/-- The operators of expressions, apart from plain assignment. -/
inductive Operator where
  | dot | question | nullish
  | looseEqual | looseNotEqual | strictEqual | strictNotEqual
  | greater | greaterEqual | less | lessEqual
  | plus | minus | times | divide | modulo | power
  | and | or | not
  | plusAssign | minusAssign | timesAssign | divideAssign | moduloAssign
deriving DecidableEq, Repr

namespace Operator

def symbol : Operator → String
  | dot => "."
  | question => "?"
  | nullish => "??"
  | looseEqual => "=="
  | looseNotEqual => "!="
  | strictEqual => "==="
  | strictNotEqual => "!=="
  | greater => ">"
  | greaterEqual => ">="
  | less => "<"
  | lessEqual => "<="
  | plus => "+"
  | minus => "-"
  | times => "*"
  | divide => "/"
  | modulo => "%"
  | power => "**"
  | and => "&&"
  | or => "||"
  | not => "!"
  | plusAssign => "+="
  | minusAssign => "-="
  | timesAssign => "*="
  | divideAssign => "/="
  | moduloAssign => "%="

/-- The operators with the longer symbols first. -/
def longestFirst : List Operator :=
  [strictEqual, strictNotEqual,
    looseEqual, looseNotEqual, greaterEqual, lessEqual, and, or, nullish, power, plusAssign,
    minusAssign, timesAssign, divideAssign, moduloAssign,
    dot, question, greater, less, plus, minus, times, divide, modulo, not]

end Operator

/-- Brackets and separators, and the sign of plain assignment. -/
inductive Delimiter where
  | openBrace | closeBrace | openParen | closeParen | openBracket | closeBracket
  | comma | semicolon | colon | equal
deriving DecidableEq, Repr

namespace Delimiter

def all : List Delimiter :=
  [openBrace, closeBrace, openParen, closeParen, openBracket, closeBracket, comma, semicolon,
    colon, equal]

def char : Delimiter → Char
  | openBrace => '\x7b'
  | closeBrace => '\x7d'
  | openParen => '('
  | closeParen => ')'
  | openBracket => '['
  | closeBracket => ']'
  | comma => ','
  | semicolon => ';'
  | colon => ':'
  | equal => '='

end Delimiter

/-- The pieces that a text is cut into. -/
inductive Token where
  | keyword (word : Keyword)
  | identifier (name : String)
  | operator (op : Operator)
  | delimiter (d : Delimiter)
  | string (content : String)
  | number (value : Float)
  | whitespace (blanks : String)
  | newline
  | lineComment (content : String)
  | blockComment (content : String)
deriving DecidableEq

namespace Token

/-- Blanks, line ends and comments carry no meaning. -/
def isSignificant : Token → Bool
  | whitespace _ | newline | lineComment _ | blockComment _ => false
  | _ => true

/-- The text of a token in messages. -/
def text : Token → String
  | keyword word => word.word
  | identifier name => name
  | operator op => op.symbol
  | delimiter d => String.singleton d.char
  | string content => Text.quoted content
  | number value => Number.Layout.unscaled.render value
  | whitespace blanks => blanks
  | newline => "\n"
  | lineComment content | blockComment content => "/*" ++ content ++ "*/"

end Token

end Reckoner
