import PageHarvest.Text.Digits
import PageHarvest.Yaml.Node

/-!
# What scalars stand for

The same text may be a string, a number or nothing at all, depending on how it is written and on what is asked for.
-/

namespace PageHarvest.Yaml.Scalar

/-- Does a text mean that there is no value? -/
def isNullText (t : Text) : Bool :=
  t = "null".toList || t = "Null".toList || t = "NULL".toList || t = "~".toList

/-- The tag of what is no value. -/
def nullTag : Text := "tag:yaml.org,2002:null".toList

/-- The tag of integers. -/
def integerTag : Text := "tag:yaml.org,2002:int".toList

/-- Is a scalar, its tag apart, no value? -/
def isNull (s : Scalar) : Bool := s.style = .plain && (s.text = [] || isNullText s.text)

/-- The string that a scalar is, or `some none` for no value. A scalar tagged as no value must not hold a string. -/
def optional? (s : Scalar) : Option (Option Text) :=
  if s.style = .plain ∧ s.tag = some nullTag then (if isNullText s.text then some none else none)
  else if s.tag.isNone ∧ s.isNull then some none
  else some (some s.text)

/-- The bound on numbers. -/
def maxNatural : Nat := UInt64.size - 1

/-- The number that one or more digits make up, up to the bound. -/
def bounded? (base : Nat) (t : Text) : Option Nat :=
  if t = [] then none else (Text.digits? base t).filter (· ≤ maxNatural)

/-- The number that a text stands for: hexadecimal, octal or binary behind `0x`, `0o` and `0b`, else decimal without
leading zeros. A plus sign may stand in front. -/
def naturalText? (t : Text) : Option Nat :=
  let unsigned := match t with | '+' :: t => t | t => t
  match unsigned with
  | '0' :: 'x' :: t => bounded? 16 t
  | '0' :: 'o' :: t => bounded? 8 t
  | '0' :: 'b' :: t => bounded? 2 t
  | '0' :: c :: t => if (c :: t).all Char.isDigit then none else bounded? 10 unsigned
  | _ => bounded? 10 unsigned

/-- The number that a scalar is. It must be plain, or literal and tagged as an integer. -/
def natural? (s : Scalar) : Option Nat :=
  if s.style = .plain ∨ (s.style = .literal ∧ s.tag = some integerTag) then naturalText? s.text else none

/-- The name that a scalar chooses: its tag if it has one of its own (with nothing else written), else its text. -/
def choice? (s : Scalar) : Option Text :=
  match s.tag with
  | some ('!' :: c :: name) => if s.isNull then some (c :: name) else none
  | _ => some s.text

end PageHarvest.Yaml.Scalar
