import MonkeyLang.Token.Kind
import MonkeyLang.Text.Quoted

/-
  This file defines tokens.

  Key definitions include:
    * `Mark`         (a piece of source text and where it starts)
    * `Token`        (a mark with its kind)
    * `Token.text`   (how a token is shown)
-/

------------------------------------------------------------
-- Marks
------------------------------------------------------------

namespace MonkeyLang

/-
  A piece of source text with the line and the column at which
  it starts. Both count from 1 in a source; marks that come
  from no source may have any numbers.
-/
structure Mark where
  literal : String
  line : Int
  column : Int
deriving DecidableEq

------------------------------------------------------------
-- Tokens
------------------------------------------------------------

/- A token: a mark with its kind. -/
structure Token extends Mark where
  kind : TokenKind
deriving DecidableEq

namespace Token

/- How a token is shown: its kind and its quoted literal. -/
def text
    (token : Token) :
    String :=
  "Token(" ++ token.kind.name ++ ", " ++ Text.quoted token.literal ++ ")"

def endAt
    (line column : Int) :
    Token :=
  ⟨⟨"", line, column⟩, .eof⟩

end Token

end MonkeyLang
