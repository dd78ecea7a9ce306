import Keyspan.Duration.Unit
import Keyspan.Setting.Kind
import Keyspan.Text.Quoted

/-!
# What can go wrong

One type for all failures of the library. A constructor is a cause, with the data its message
shows; the wording is in `Failure.message` alone. `Failure.category` sorts the causes by what a
caller can do about them, and `Failure.isInvalidInput` picks the category that conversions
promise to stay within; `Failure.isCatalogFailure` picks those of the catalog (`CatalogException`).
-/

namespace Keyspan

open Setting (Kind)

/-- The causes of failure. -/
inductive Failure where
  /-- A text that is to be an integer is no integer literal. -/
  | notAnInteger (text : String)
  /-- A text that is to be a number is no number literal. -/
  | notANumber (text : String)
  /-- An integer literal has more digits than are read. -/
  | tooManyDigits (count : Nat)
  /-- An integer has more digits than are written. -/
  | numeralTooLong
  /-- An integer is beyond the range of floating-point numbers. -/
  | integerTooLarge
  /-- An infinity has no integer part. -/
  | infiniteInteger
  /-- What is no number has no integer part. -/
  | undefinedInteger
  /-- A whole division by zero. -/
  | wholeDivisionByZero
  /-- A division by zero. -/
  | divisionByZero
  /-- There is no duration text at all. -/
  | durationMissing
  /-- A duration text is blank. -/
  | durationBlank
  /-- A duration text does not start with a digit. -/
  | durationWithoutNumber
  /-- The unit of a duration text is none of the known ones. -/
  | unknownUnit (label : String)
  /-- A duration has more days than durations can have. -/
  | daysOutOfRange (days : Int)
  /-- A duration has more days than are even counted. -/
  | daysUncountable
  /-- A day is before the first or after the last date of the calendar. -/
  | dateOutOfRange
  /-- An instant in nanoseconds does not fall on a whole microsecond. -/
  | nanosecondsLost (value : Int)
  /-- A text that is to be a decimal is none. -/
  | notADecimal (text : String)
  /-- A decimal has more places than are written; its scale. -/
  | scaleUnwritable (scale : Int)
  /-- A text is none of the words for true and false. -/
  | notAFlag (text : String)
  /-- A value of one kind cannot become one of another. -/
  | notConvertible (source goal : Kind)
  /-- No value is ever converted to this kind. -/
  | unsupportedKind (goal : Kind)
  /-- A setting is declared without a key. -/
  | keyBlank
  /-- A setting is built without a key. -/
  | keyMissing
  /-- Values of this kind have no hash. -/
  | notHashable (kind : Kind)
  /-- Values of these kinds are not compared by the given sign. -/
  | notComparable (sign : String) (left right : Kind)
  /-- The number of rows to sample is negative; the number as shown. -/
  | negativeSampleCount (key shown : String)
  /-- The share of rows that survive a filter is no share; the number as shown. -/
  | selectivityOutOfRange (key shown : String)
  /-- A size in bytes is negative. -/
  | negativeSize
  /-- There is no endpoint to assign partitions to. -/
  | noEndpoints
  /-- There are more endpoints than partitions. -/
  | tooManyEndpoints (endpoints partitions : Nat)
  /-- Two partitions of an assignment have one id; the ids in order. -/
  | repeatedPartitions (ids : List String)
  /-- An assignment has no slot with this index. -/
  | noSuchSlot (slots : Nat) (index : Int)
  /-- A list has no item at the index asked for. -/
  | noSuchItem
  /-- An index is beyond what a list can have. -/
  | indexTooLarge
  /-- A slot has no partition to give away. -/
  | slotEmpty
  /-- No slot is left to take a partition. -/
  | noSlotLeft
  /-- A slot was left without partitions; the endpoints as shown, and the ids in every slot. -/
  | slotLeftEmpty (endpoints : String) (slots : List (List String))
  /-- A partition is registered under a table it does not belong to. -/
  | foreignPartition (id owner table : String)
  /-- Two partitions registered for a table have one id; the ids in order. -/
  | duplicatePartitions (table : String) (ids : List String)
  /-- The catalog cannot be reached; the report, and what caused it, if known. -/
  | catalogUnavailable (report : String) (cause : Option String)
  /-- The catalog has no such table. -/
  | unknownTable (table : String)
  /-- A projected column is no column of the table. -/
  | unknownColumn (table column : String)
  /-- The table to sample has no row key column of this name; its columns in order. -/
  | rowKeyMissing (rowKey : String) (columns : List String)
  /-- The row key column holds neither texts nor bytes; its type as shown. -/
  | rowKeyType (rowKey shownType : String)
  /-- A row without a key holds a cell. -/
  | cellWithoutKey
  /-- Several columns have the name of the row key. -/
  | rowKeyRepeated (rowKey : String)
  /-- An index in a path to a field is not closed. -/
  | pathUnclosed (path : String)
  /-- A step of a path to a field is neither a name nor an index. -/
  | pathUnmarked (path : String)
  /-- No column is at the end of the path to sort by; path and columns as shown. -/
  | sortColumnMissing (path columns : String)
  /-- Several columns are at the end of the path to sort by; path and columns as shown. -/
  | sortColumnRepeated (path columns : String)
  /-- Cells of this type have no order; the type as shown. -/
  | notSortable (shownType : String)
  /-- Several fields of a record share a name. -/
  | repeatedField
  /-- Several value columns share a name. -/
  | repeatedColumn (name : String) (times : Nat)
  /-- The number of rows to sample is beyond what a cursor counts. -/
  | sampleCountTooLarge
  /-- The number of rows to sample is beyond what a table can slice. -/
  | sliceTooLarge
  /-- The scanner failed. -/
  | scanFailed (report : String)
  /-- The wait for the cluster status is longer than the clock counts. -/
  | waitTooLong
  /-- Asking for the cluster status left neither a status nor a report behind. -/
  | statusLost
  /-- A plan node without inputs was given some. -/
  | notALeaf (children : Nat)
  /-- The bounds of a scan leave no row key between them. -/
  | emptyRange (start stop : List UInt8)
  deriving DecidableEq

namespace Failure

/-- What a failure means to a caller. -/
inductive Category where
  | invalidInput
  | outOfRange
  | wrongKind
  | badIndex
  | zeroDivision
  | invalidOperation
  | badKey
  | broken
  | invalidTable
  | unsupported
  | storage
  | unavailable
  | unknownTable
  | schemaMismatch
  deriving DecidableEq

/-- The category of a cause. -/
def category : Failure → Category
  | integerTooLarge | infiniteInteger | daysOutOfRange _ | daysUncountable | dateOutOfRange
  | waitTooLong | sliceTooLarge => .outOfRange
  | wholeDivisionByZero | divisionByZero => .zeroDivision
  | notADecimal _ | scaleUnwritable _ => .invalidOperation
  | notHashable _ | notComparable .. | cellWithoutKey => .wrongKind
  | noSuchSlot .. | noSuchItem | indexTooLarge | slotEmpty | noSlotLeft => .badIndex
  | rowKeyRepeated _ | repeatedColumn .. | statusLost => .badKey
  | slotLeftEmpty .. => .broken
  | pathUnclosed _ | pathUnmarked _ | sortColumnMissing .. | sortColumnRepeated .. => .invalidTable
  | notSortable _ => .unsupported
  | scanFailed _ => .storage
  | catalogUnavailable .. => .unavailable
  | unknownTable _ => .unknownTable
  | unknownColumn .. => .schemaMismatch
  | _ => .invalidInput

/-- Whether the failure blames the input's form, as opposed to its size. -/
def isInvalidInput (f : Failure) : Bool := f.category == .invalidInput

/-- Whether the catalog reports the failure. -/
def isCatalogFailure (f : Failure) : Bool :=
  match f.category with
  | .unavailable | .unknownTable | .schemaMismatch => true
  | _ => false

/-- What caused a failure, as far as it is known. -/
def cause? : Failure → Option String
  | catalogUnavailable _ cause => cause
  | _ => none

/-- The first two hundred characters of a quoted text. -/
def excerpt (text : String) : String :=
  String.ofList ((Text.quotedChars text.toList).take 200)

/-- **The wording of every failure.** -/
def message : Failure → String
  | notAnInteger text => "invalid literal for int() with base 10: " ++ excerpt text
  | notANumber text => "could not convert string to float: " ++ Text.quoted text
  | tooManyDigits count =>
    "Exceeds the limit (4300 digits) for integer string conversion: value has " ++
      toString count ++ " digits; use sys.set_int_max_str_digits() to increase the limit"
  | numeralTooLong =>
    "Exceeds the limit (4300 digits) for integer string conversion; " ++
      "use sys.set_int_max_str_digits() to increase the limit"
  | integerTooLarge => "int too large to convert to float"
  | infiniteInteger => "cannot convert float infinity to integer"
  | undefinedInteger => "cannot convert float NaN to integer"
  | wholeDivisionByZero => "integer division or modulo by zero"
  | divisionByZero => "division by zero"
  | durationMissing => "text cannot be None"
  | durationBlank => "argument is an empty- or whitespace-only string"
  | durationWithoutNumber => "text does not start with a number"
  | unknownUnit label =>
    "Time interval unit label '" ++ label ++
      "' does not match any of the recognized units: " ++ TimeUnit.listing
  | daysOutOfRange days => "days=" ++ toString days ++ "; must have magnitude <= 999999999"
  | daysUncountable => "Python int too large to convert to C int"
  | dateOutOfRange => "date value out of range"
  | nanosecondsLost value =>
    "Nanosecond resolution temporal type " ++ toString value ++
      " is not safely convertible to microseconds to convert to datetime.datetime. " ++
      "Install pandas to return as Timestamp with nanosecond support or access the " ++
      ".value attribute."
  | notADecimal _ | scaleUnwritable _ => "[<class 'decimal.ConversionSyntax'>]"
  | notAFlag text => "Cannot convert '" ++ text ++ "' to boolean"
  | notConvertible source goal => "Cannot convert " ++ source.shown ++ " to " ++ goal.goal
  | unsupportedKind goal => "Unsupported type: " ++ goal.shown
  | keyBlank => "Key must not be None or empty."
  | keyMissing => "Key must not be null."
  | notHashable kind => "unhashable type: '" ++ kind.label ++ "'"
  | notComparable sign left right =>
    "'" ++ sign ++ "' not supported between instances of '" ++ left.label ++ "' and '" ++
      right.label ++ "'"
  | negativeSampleCount key shown => key ++ " must not be negative, but is " ++ shown
  | selectivityOutOfRange key shown => key ++ " must be within [0, 1], but is " ++ shown
  | negativeSize => "bytes must be >= 0"
  | noEndpoints => "At least one endpoint is required to assign scan partitions"
  | tooManyEndpoints endpoints partitions =>
    "Incoming endpoints " ++ toString endpoints ++
      " is greater than number of scan partitions " ++ toString partitions
  | repeatedPartitions ids =>
    "Partitions must be unique, got " ++ Text.bracketed (ids.map Text.quoted)
  | noSuchSlot slots index =>
    "Mappings length [" ++ toString slots ++ "] should be greater than slot index [" ++
      toString index ++ "] but it isn't."
  | noSuchItem => "list index out of range"
  | indexTooLarge => "cannot fit 'int' into an index-sized integer"
  | slotEmpty => "pop from empty list"
  | noSlotLeft => "index out of range"
  | slotLeftEmpty endpoints slots =>
    "Unable to assign tasks to some endpoints.\nEndpoints: " ++ endpoints ++
      ".\nAssignment Map: " ++
      Text.numbered (slots.map fun ids => Text.bracketed (ids.map Text.quoted)) ++ "."
  | foreignPartition id owner table =>
    "Partition " ++ id ++ " belongs to table " ++ owner ++ ", not " ++ table
  | duplicatePartitions table ids =>
    "Duplicate partition ids for table " ++ table ++ ": " ++
      Text.bracketed (ids.map Text.quoted)
  | catalogUnavailable report _ => report
  | unknownTable table => "Table " ++ table ++ " does not exist"
  | unknownColumn table column =>
    "The column '" ++ column ++ "' does not exist in table: " ++ table
  | rowKeyMissing rowKey columns =>
    "Row key column '" ++ rowKey ++ "' not found in " ++
      Text.bracketed (columns.map Text.quoted)
  | rowKeyType rowKey shownType =>
    "Row key column '" ++ rowKey ++ "' must be binary or string, but is " ++ shownType
  | cellWithoutKey => "object of type 'NoneType' has no len()"
  | rowKeyRepeated rowKey =>
    Text.quoted ("Column " ++ rowKey ++ " does not exist in schema")
  | pathUnclosed path => "Dot path '" ++ path ++ "' contained an unterminated index"
  | pathUnmarked path => "Dot path must begin with '[' or '.', got '" ++ path ++ "'"
  | sortColumnMissing path columns =>
    "Invalid sort key column: No match for " ++ path ++ " in " ++ columns
  | sortColumnRepeated path columns =>
    "Invalid sort key column: Multiple matches for " ++ path ++ " in " ++ columns
  | notSortable shownType => shownType
  | repeatedField =>
    "Converting to Python dictionary is not supported when duplicate field names are present"
  | repeatedColumn name times =>
    Text.quoted
      ("Field \"" ++ name ++ "\" exists " ++ toString times ++ " times in schema")
  | sampleCountTooLarge =>
    "Stop argument for islice() must be None or an integer: 0 <= x <= sys.maxsize."
  | sliceTooLarge => "Python int too large to convert to C long"
  | scanFailed report => report
  | waitTooLong => "timestamp too large to convert to C _PyTime_t"
  | statusLost => Text.quoted "status"
  | notALeaf children =>
    "RangeScanPlanNode is a leaf node, got " ++ toString children ++ " children"
  | emptyRange start stop =>
    "Start row " ++ Text.quotedBytes start ++ " must be less than stop row " ++
      Text.quotedBytes stop

end Failure

/-- Two outcomes are equal when both succeed with equal values or fail for one cause. -/
instance {α : Type} [DecidableEq α] : DecidableEq (Except Failure α)
  | .ok a, .ok b => if h : a = b then isTrue (h ▸ rfl) else isFalse fun e => h (Except.ok.inj e)
  | .error a, .error b =>
    if h : a = b then isTrue (h ▸ rfl) else isFalse fun e => h (Except.error.inj e)
  | .ok _, .error _ => isFalse fun e => nomatch e
  | .error _, .ok _ => isFalse fun e => nomatch e

end Keyspan
