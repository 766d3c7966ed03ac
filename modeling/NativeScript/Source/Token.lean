/-!
# Tokens

The text of a unit is a sequence of words, marks and literals, and of groups of
tokens between brackets.  A mark knows whether the next mark follows it without
a gap, so that `a <- b` and `a < - b` stay apart.
-/

namespace NativeScript.Source

/-- The brackets around a group. -/
inductive Delimiter where
  | paren
  | bracket
  | brace
deriving DecidableEq

/-- A token of source text. -/
inductive Token where
  /-- An identifier or a keyword; a raw identifier keeps its `r#`. -/
  | word (text : String)
  /-- A punctuation character; `joint` if another one follows directly. -/
  | mark (char : Char) (joint : Bool)
  /-- A literal, spelled as in the source. -/
  | literal (text : String)
  | group (delimiter : Delimiter) (tokens : List Token)

namespace Token

/-- Whether the next token is written without a space after this one. -/
def isJoint : Token → Bool
  | mark _ joint => joint
  | _ => false

/-- The text around the tokens of a group.  Braces keep a space inside. -/
def enclose : Delimiter → String → String
  | .paren, inner => "(" ++ inner ++ ")"
  | .bracket, inner => "[" ++ inner ++ "]"
  | .brace, inner => if inner.isEmpty then "\x7b \x7d" else "\x7b " ++ inner ++ " \x7d"

mutual

/-- The text of one token. -/
def render : Token → String
  | word text => text
  | mark char _ => String.singleton char
  | literal text => text
  | group delimiter tokens => enclose delimiter (renderAll tokens)

/-- The text of a sequence of tokens: a space between any two of them, except
after a joint mark. -/
def renderAll : List Token → String
  | [] => ""
  | token :: tokens =>
      token.render ++ (if tokens.isEmpty || token.isJoint then "" else " ") ++ renderAll tokens

end

mutual

/-- The number of tokens in a token, with those inside groups. -/
def count : Token → Nat
  | group _ tokens => 1 + countAll tokens
  | _ => 1

/-- The number of tokens in a sequence, with those inside groups. -/
def countAll : List Token → Nat
  | [] => 0
  | token :: tokens => token.count + countAll tokens

end

end Token

end NativeScript.Source
