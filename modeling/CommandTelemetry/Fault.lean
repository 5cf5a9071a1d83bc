import CommandTelemetry.Text.Quoted

/-!
# Faults

What can go wrong inside the library itself while it handles what commands hand to it: values that
cannot be ordered, converted or written, results of the wrong kind, settings out of range. A fault
belongs to a kind, which decides the exit code of a command that dies of it, and has one wording.
-/

namespace CommandTelemetry

open Text

/-- The kinds of fault, as far as anyone can tell them apart. -/
inductive FaultKind where
  | badType
  | badValue
  | outOfRange
  | missingMember
  | misuse
  deriving DecidableEq, Repr

def FaultKind.name : FaultKind → String
  | badType => "TypeError"
  | badValue => "ValueError"
  | outOfRange => "OverflowError"
  | missingMember => "AttributeError"
  | misuse => "RuntimeError"

inductive Fault where
  /-- Two values of these types have no order. -/
  | unordered (left right : String)
  /-- A mapping key of this type has no text. -/
  | unwritableKey (type : String)
  /-- An integer is beyond every floating-point number. -/
  | integerTooLarge
  /-- A quoted text, or other content, is no integer. -/
  | notAnInteger (shown : String)
  /-- An integer text has too many digits. -/
  | tooManyDigits (digits : Nat)
  /-- An integer has too many digits for a text. -/
  | integerTooLong
  /-- A mapping or a list holds itself. -/
  | circular
  /-- A datum of no known kind does not do what is asked of it, for a reason of its own. -/
  | uncooperative (kind : FaultKind) (reason : String)
  /-- A value of this type cannot stand for an integer. -/
  | noInteger (type : String)
  | integerOfNaN
  | integerOfInfinity
  /-- A text was given where a number is written with decimals. -/
  | notANumber (type : String)
  /-- A value of this type cannot be written with decimals. -/
  | unformattable (type : String)
  /-- A value of this type was returned where an action result is stamped. -/
  | notAResult (type : String)
  /-- A command returned a value of this type. -/
  | unexpectedReturn (type : String)
  /-- A sampling ratio lies outside the unit interval. -/
  | badProbability
  /-- A limit variable holds a text that is no natural number. -/
  | badLimit (setting shown : String)
  | emptySeparator
  /-- A log level is not known. -/
  | unknownLevel (name : String)
  /-- A log format is not usable: the reason. -/
  | badLogFormat (reason : String)
  /-- A group of failures has no members. -/
  | emptyGroup
  /-- A group of ordinary failures has a member that is not ordinary. -/
  | misplacedMember
  /-- What makes failures of a class takes this many parts and was given a message alone. -/
  | incompleteFailure (maker : String) (parts : Nat)
  /-- A restore token was used before. -/
  | tokenUsed
  /-- A module has no such export. -/
  | noExport (home name : String)
  /-- A command lacks a value that only its caller could have given it. -/
  | missingInjection (command parameter : String)
  /-- An encoder failed for a reason of its own. -/
  | encoderBroken (reason : String)
  deriving DecidableEq, Repr

namespace Fault

def kind : Fault → FaultKind
  | unordered .. | unwritableKey .. | noInteger .. | unformattable .. | unexpectedReturn ..
  | misplacedMember | incompleteFailure .. | missingInjection .. => .badType
  | notAnInteger .. | tooManyDigits .. | integerTooLong | circular | integerOfNaN | notANumber ..
  | badProbability | badLimit .. | emptySeparator | unknownLevel .. | badLogFormat ..
  | emptyGroup | encoderBroken .. => .badValue
  | uncooperative kind _ => kind
  | integerTooLarge | integerOfInfinity => .outOfRange
  | notAResult .. | noExport .. => .missingMember
  | tokenUsed => .misuse

def message : Fault → String
  | unordered left right =>
    s!"'<' not supported between instances of '{left}' and '{right}'"
  | unwritableKey type => s!"keys must be str, int, float, bool or None, not {type}"
  | integerTooLarge => "int too large to convert to float"
  | notAnInteger shown =>
    "invalid literal for int() with base 10: " ++ takeChars 200 shown
  | tooManyDigits digits =>
    s!"Exceeds the limit (4300 digits) for integer string conversion: value has {digits} digits; "
      ++ "use sys.set_int_max_str_digits() to increase the limit"
  | integerTooLong =>
    "Exceeds the limit (4300 digits) for integer string conversion; "
      ++ "use sys.set_int_max_str_digits() to increase the limit"
  | circular => "Circular reference detected"
  | uncooperative _ reason => reason
  | noInteger type =>
    s!"int() argument must be a string, a bytes-like object or a real number, not '{type}'"
  | integerOfNaN => "cannot convert float NaN to integer"
  | integerOfInfinity => "cannot convert float infinity to integer"
  | notANumber type => s!"Unknown format code 'f' for object of type '{type}'"
  | unformattable type => s!"unsupported format string passed to {type}.__format__"
  | notAResult type => s!"'{type}' object has no attribute 'with_trace_id'"
  | unexpectedReturn type => s!"Unexpected command return type: {type}."
  | badProbability => "Probability must be in range [0.0, 1.0]."
  | badLimit setting shown => s!"{setting} must be a non-negative integer but got {shown}"
  | emptySeparator => "empty separator"
  | unknownLevel name => s!"Unknown level: {quoted name}"
  | badLogFormat reason => reason
  | emptyGroup => "second argument (exceptions) must be a non-empty sequence"
  | misplacedMember => "Cannot nest BaseExceptions in an ExceptionGroup"
  | incompleteFailure maker parts => s!"{maker} takes exactly {parts} arguments (1 given)"
  | tokenUsed => "the restore token has already been used once"
  | noExport home name => s!"module {quoted home} has no attribute {quoted name}"
  | missingInjection command parameter =>
    s!"{command}() missing 1 required positional argument: {quoted parameter}"
  | encoderBroken reason => reason

end Fault

end CommandTelemetry
