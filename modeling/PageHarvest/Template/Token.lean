import PageHarvest.Text.Basic

/-!
# Tokens of a definition

A definition is literal text with placeholders such as `name` or `name|filter|filter` between double braces. Its
tokens cover the source without gaps: `Token.print` puts their literals side by side again.
-/

namespace PageHarvest

namespace Token

/-- What a token stands for. -/
inductive Kind where
  | text
  | leftDelimiter
  | rightDelimiter
  | variableName
  | pipe
  | filterName
  | endOfTemplate
  | error
  deriving DecidableEq, Repr

end Token

/-- A kind and the source text it covers. The end of the template covers nothing, and an error carries its reason in
place of source text. -/
structure Token where
  kind : Token.Kind
  literal : Text
  deriving DecidableEq, Repr

namespace Token

/-- The source text that a list of tokens covers. -/
def print (ts : List Token) : Text := ts.flatMap Token.literal

@[simp] theorem print_nil : print [] = [] := rfl

@[simp] theorem print_cons (t : Token) (ts : List Token) : print (t :: ts) = t.literal ++ print ts := rfl

@[simp] theorem print_append (ts us : List Token) : print (ts ++ us) = print ts ++ print us := by
  simp [print]

/-- The delimiter that opens a placeholder. -/
def opening : Text := ['\x7b', '\x7b']

/-- The delimiter that closes a placeholder. -/
def closing : Text := ['\x7d', '\x7d']

/-- The separator between a name and a filter. -/
def bar : Text := ['|']

end Token

end PageHarvest
