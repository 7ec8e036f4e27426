import SqlTemplate.NativeType
import SqlTemplate.Text.Escaped
import SqlTemplate.Token
import SqlTemplate.Value.Text

/-!
# Failures

A failure is a cause, under any number of contexts that callers have put around it. The wording of
every cause is in this module; a message shows the contexts, the outermost first, and then the
cause.
-/

namespace SqlTemplate

open Text (asciiEscaped bracketed escapedNames)

/-- Why a value cannot be converted to a native type. -/
inductive ConversionFault where
  /-- The variant has no conversion to the type. -/
  | noConversion (value : Value) (target : NativeType)
  /-- The number is outside the range of the type; `origin` names the type it comes from. -/
  | outOfRange (shown origin : String) (target : NativeType)
  /-- A number that the type has no room for; `origin` names the type it comes from. -/
  | doesNotFit (shown origin target : String)
  /-- A text of any other length than one. -/
  | notOneChar (text : String)
  /-- Borrowed text cannot be had from a value. -/
  | notOwned (value : Value)

namespace ConversionFault

/-- The wording of the fault. -/
def message : ConversionFault → String
  | noConversion value target => "Cannot convert " ++ value.diagnostic ++ " to " ++ target.name
  | outOfRange shown origin target =>
    "Value " ++ shown ++ ": " ++ origin ++ " is out of range for " ++ target.name
  | doesNotFit shown origin target =>
    "Value " ++ shown ++ ": " ++ origin ++ " does not fit into " ++ target
  | notOneChar text => "Cannot convert the string `" ++ text ++ "` to a single char"
  | notOwned value =>
    "Cannot borrow a &str out of " ++ value.diagnostic ++ ", use String instead"

end ConversionFault

/-- How declared parameters and bound arguments disagree, with every offender. -/
inductive Mismatch where
  | missingPositional (positions : List Nat)
  | unusedPositional (positions : List Nat)
  | missingNamed (names : List String)
  | unusedNamed (names : List String)
  deriving DecidableEq

namespace Mismatch

/-- A list of positions. -/
def positionList (positions : List Nat) : String :=
  bracketed (positions.map toString)

/-- The wording of the mismatch. -/
def message : Mismatch → String
  | missingPositional positions =>
    "Missing positional parameters at (0 based) positions " ++ positionList positions
  | unusedPositional positions =>
    "Superfluous positional parameters at (0 based) positions " ++ positionList positions
  | missingNamed names => "Missing named parameters " ++ escapedNames names
  | unusedNamed names =>
    "Superfluous named parameters " ++ escapedNames names ++
      ", they are bound but the query does not declare them"

end Mismatch

/-- A failed operation: a cause, and the contexts around it. -/
inductive Failure where
  | lex (failure : LexFailure)
  /-- A reference to an attribute without a value; the token has its brackets. -/
  | undefinedAttribute (token : String)
  /-- An attribute reference that begins or ends inside a character. -/
  | splitCharacter (offset : Nat)
  | mismatch (kind : Mismatch)
  /-- No adapter is registered for the type of an argument. -/
  | unregistered (typeName value : String)
  /-- The adapter for the type of an argument failed. -/
  | adapter (typeName value : String) (source : Failure)
  | conversion (fault : ConversionFault)
  /-- A character that cannot introduce parameters. -/
  | badSigil (c : Char)
  /-- A list key that cannot be part of a parameter name. -/
  | badListKey (key : String)
  /-- A list without values; `call` is what was given it. -/
  | emptyList (call key : String)
  /-- A row without bindings; the template is shortened. -/
  | emptyRow (template : String)
  | rowOutOfRange (row count : Nat)
  /-- What a supplier, an adapter or a handle of the application reports. -/
  | reported (message : String)
  | context (text : String) (inner : Failure)

namespace Failure

/-- The contexts and the cause in words. -/
def message : Failure → String
  | lex failure => failure.message
  | undefinedAttribute token => "Undefined attribute for token '" ++ token ++ "'"
  | splitCharacter offset => "Byte " ++ toString offset ++ " is inside a character"
  | mismatch kind => kind.message
  | unregistered typeName value =>
    "No argument adapter registered for " ++ value ++ " of type " ++ typeName
  | adapter typeName value source =>
    "The argument adapter for type " ++ typeName ++ " rejected " ++ value ++ ": " ++ source.message
  | conversion fault => fault.message
  | badSigil c => "Character `" ++ asciiEscaped c ++ "` cannot be used as parameter prefix"
  | badListKey key =>
    "bind_list key `" ++ key ++
      "` cannot form parameter names, use ASCII letters, digits, `_` and single dots"
  | emptyList call key => call ++ " was called with an empty list for `" ++ key ++ "`"
  | emptyRow template => "Attempt to add() an empty row to the batch of:\n" ++ template
  | rowOutOfRange row count =>
    "Row " ++ toString row ++ " is out of range, the batch has " ++ toString count ++ " rows"
  | reported message => message
  | context text inner => text ++ ": " ++ inner.message

/-- The failure without the contexts around it. -/
def cause : Failure → Failure
  | context _ inner => inner.cause
  | failure => failure

end Failure

/-- The failure of a computation put under a context. -/
def withContext {α : Type} (text : String) : Except Failure α → Except Failure α
  | .ok a => .ok a
  | .error failure => .error (.context text failure)

end SqlTemplate
