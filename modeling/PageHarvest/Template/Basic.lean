import PageHarvest.Template.Scanner

/-!
# Templates

A `Template` is a definition whose placeholders can be told apart in a page: between two placeholders, and behind the
last one, stands literal text that is not blank. `Template.parse` tokenizes a source and checks this rule.
-/

namespace PageHarvest

open Text (isBlankText)

/-- The tokens of an accepted definition, ending in the end of the template. -/
structure Template where
  tokens : List Token
  deriving DecidableEq, Repr

namespace Template

/-- Why a source is not a template. -/
inductive Error where
  | malformed (position : Nat) (fault : Fault)
  | adjacent (first second : Text)
  | unbounded (name : Text)
  deriving DecidableEq, Repr

/-- The wording of an error. -/
def Error.message : Error → Text
  | .malformed position fault => s!"Tokenization error at position {position}: ".toList ++ fault.reason
  | .adjacent first second =>
    "Placeholders '".toList ++ first ++ "' and '".toList ++ second ++ "' need literal text between them".toList
  | .unbounded name => "Placeholder '".toList ++ name ++ "' must be followed by literal text".toList

/-- Checks tokens behind a placeholder that no text closes yet (`opened`), or behind none. -/
def checkFrom (opened : Option Text) : List Token → Except Error Unit
  | [] => .ok ()
  | t :: ts =>
    match t.kind, opened with
    | .variableName, some first => .error (.adjacent first t.literal)
    | .variableName, none => checkFrom (some t.literal) ts
    | .text, _ => checkFrom (if isBlankText t.literal then opened else none) ts
    | .endOfTemplate, some name => .error (.unbounded name)
    | _, _ => checkFrom opened ts

/-- Checks that literal text which is not blank stands behind every placeholder. -/
def checkPlaceholders (ts : List Token) : Except Error Unit := checkFrom none ts

/-- Reads a definition. -/
def parse (source : Text) : Except Error Template :=
  match tokenize source with
  | .error (position, fault) => .error (.malformed position fault)
  | .ok ts =>
    match checkPlaceholders ts with
    | .error e => .error e
    | .ok () => .ok ⟨ts⟩

/-- Holds the template nothing but its end? -/
def isEmpty (t : Template) : Bool := t.tokens.length ≤ 1

/-- The literals of the tokens of one kind, in order. -/
def literals (kind : Token.Kind) (ts : List Token) : List Text :=
  (ts.filter (·.kind = kind)).map Token.literal

/-- The names of all placeholders, in order. -/
def variableNames (t : Template) : List Text := literals .variableName t.tokens

/-- The names of all filters, in order. -/
def filterNames (t : Template) : List Text := literals .filterName t.tokens

/-- The filter names in front of the first token that is neither a bar nor a filter. -/
def leadingFilters (ts : List Token) : List Text :=
  literals .filterName (ts.takeWhile fun t => t.kind = .pipe || t.kind = .filterName)

/-- The filters of the placeholder whose name is the token with index `i`. -/
def filtersFor (t : Template) (i : Nat) : List Text := leadingFilters (t.tokens.drop (i + 1))

end Template

end PageHarvest
