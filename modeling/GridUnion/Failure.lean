import GridUnion.Value
import GridUnion.Text.Utf8

/-!
# Failures

Everything that can go wrong, by cause.  `Failure.kind` sorts the causes, `Failure.message` words
them.  A failure of kind `key` is worded by quoting its text.
-/

namespace GridUnion

/-- The kinds of failures. -/
inductive Kind where
  | configuration
  | inconsistency
  | argument
  | value
  | key
  | type
  | index
  | overflow
  | zeroDivision
  | system
  | fileNotFound
  | isDirectory
  | undecodable
  | notImplemented
  | missingAttribute
  /-- A kind that only an outside source raises, by its name.  Failures are the ordinary ones, which can
  be caught and logged; that the program is interrupted or told to end is no failure of any kind. -/
  | other (name : String)
  deriving DecidableEq, Repr

namespace Kind

/-- The name of a kind. -/
def name : Kind → String
  | configuration => "ConfigurationError"
  | inconsistency => "InternalConsistencyError"
  | argument => "ArgumentTypeError"
  | value => "ValueError"
  | key => "KeyError"
  | type => "TypeError"
  | index => "IndexError"
  | overflow => "OverflowError"
  | zeroDivision => "ZeroDivisionError"
  | system => "OSError"
  | fileNotFound => "FileNotFoundError"
  | isDirectory => "IsADirectoryError"
  | undecodable => "UnicodeDecodeError"
  | notImplemented => "NotImplementedError"
  | missingAttribute => "AttributeError"
  | other name => name

/-- The kinds that have a meaning of their own. -/
def known : List Kind :=
  [configuration, inconsistency, argument, value, key, type, index, overflow, zeroDivision, system,
    fileNotFound, isDirectory, undecodable, notImplemented, missingAttribute]

/-- The kind of a name. -/
def ofName (s : String) : Kind := (known.find? fun k => k.name == s).getD (other s)

/-- Whether a failure of this kind says that a value is wrong. -/
def isValue : Kind → Bool
  | value => true
  | undecodable => true
  | other "UnicodeError" => true
  | other "UnicodeEncodeError" => true
  | other "UnicodeTranslateError" => true
  | _ => false

/-- Whether a failure of this kind is the user's to mend: a wrong configuration, key or value. -/
def isUserLevel (k : Kind) : Bool := k == configuration || k == key || k.isValue

end Kind

/-- What went wrong. -/
inductive Failure where
  -- axes
  | noAxes
  | axisNotALine (child : Nat) (shape : List Nat)
  | axisNotANumber (child position : Nat)
  | axisNotAscending (child position : Nat) (value previous : Scalar)
  | axisWithoutDifferences
  | axisDifferenceTooLarge
  | noCommonType (first second : ElementType) (types : List ElementType)
  | noCommonUnit (fault : UnitFault)
  | notOrdered (value lowest : Scalar)
  /-- Values of two kinds are not ordered among each other. -/
  | notSupported (kind other : String)
  | axisOverrun (capacity : Nat)
  | noLength
  | noLengthOf (kind : String)
  -- index maps and coverage
  | mapShapesDiffer
  | outOfBounds (position : Int) (size : Nat)
  /-- Positions for more dimensions than there are. -/
  | tooManyPositions (dimensions given : Nat)
  /-- A mask of another size than the dimension. -/
  | maskMismatch (dimension size given : Nat)
  | notAPosition
  /-- A position picks more than a single row. -/
  | notASingleRow
  | indexTooLarge
  | listPosition (kind : String)
  | ambiguousTruth
  | emptyTruth
  | shapesDoNotMatch (first second : List Nat)
  | readOnly
  | noSuchChild
  | namesMissing (expected given : Nat)
  | unhashable (kind : String)
  /-- Two columns of a table have the same label. -/
  | labelsNotDistinct
  -- requests and reads
  | strideTooSmall (stride : Int)
  | invalidRange (start stop size : Int)
  | zeroStride
  | onAxis (name : String) (fault : Failure)
  | unexpectedShape (start stride stop : Int) (got : List Nat) (expected : List Int)
  | negativeSize
  | sizeTooLarge
  | tooManyDimensions (dimensions : Nat)
  /-- There is no space for a block. -/
  | noSpace (type : ElementType) (shape : List Nat)
  | blockTooLarge
  | wrongTotal (start stride stop : Int) (produced expected : Int)
  | zeroSliceStep
  /-- A step of zero in a selection from a child. -/
  | zeroSelectionStep
  | conversion (fault : ConversionFault)
  -- children
  | childWithoutVariables (label : Value)
  | childDimensionsDiffer (label : Value) (name : String) (got expected : List String)
  | childWithoutDimensions (label : Value)
  | childAxisNotFirst (label expected : Value) (got : String)
  | childConstraints (expected given : Nat)
  | childFileMissing (path : String)
  | unknownName (name : String)
  /-- A field has no part of this name. -/
  | unknownPart (name : String)
  /-- What is asked of times has no value for every one of them. -/
  | partNotAField
  | missingDimensions (names : List String)
  | unevenGrid (name : String)
  -- datasets
  | datasetWithoutChildren (id : Value)
  | axisNamesDiffer (child : Nat) (first other : String)
  | notSimilar (child : Nat) (difference : String)
  | variableTwice (name : String) (first second : Nat)
  | unknownVariable (id : Value) (name : String)
  | datasetConstraints (expected given : Nat)
  | tooManyConstraints (axes : Nat)
  /-- A constraint without numbers. -/
  | blankConstraint
  | noSibling
  | noUpdate
  | noMap (axes : List String)
  -- configuration files
  /-- A whole number with too many digits to be put into text. -/
  | numberTooLong
  | entryNotAMapping (entry : Value)
  | entryWithoutId
  | entryWithoutChildren (id : String)
  | entryChildrenNotAList (id : String)
  | childWithoutPath (id : String)
  | unparsable (path : String)
  | noDatasetList (path : String)
  | datasetsNotAList (path : String)
  | duplicateIds (path : String) (ids : List String)
  | undecodable (fault : Text.Utf8Fault)
  /-- A plain value of a configuration file that is not what its tag says. -/
  | badScalar (kind : Kind) (text : String)
  -- the registry and the command line
  | notPublished (id : Value)
  | noDataset (id : Value)
  | notConfigured (id path : String)
  | badConstraint (text : String)
  -- the outside
  | missingFile (path : String)
  | directoryAsFile (path : String)
  | notADirectory (path : String)
  | alreadyThere (path : String)
  | nameTooLong (path : String)
  | nullInPath
  /-- Characters of a path, from a place on, that have no bytes. -/
  | lostInPath (place : Nat) (characters : List Char)
  | noDataDirectory
  | raised (kind : Kind) (text : String)
  deriving Repr

namespace Failure

/-- The class of a scalar as it is named where there is no comparison; plain numbers have their
own. -/
def operandName (s : Scalar) : String :=
  match s.type, s.element with
  | .object, .bool _ => ElementType.bool.className
  | .object, .int _ => "<class 'numpy.dtypes._PyLongDType'>"
  | .object, .real _ => "<class 'numpy.dtypes._PyFloatDType'>"
  | .object, .text t => (ElementType.text t.length).className
  | t, _ => t.className

/-- A comparison that there is not for values of two types. -/
def noComparisonText (question : String) (one other : Scalar) : String :=
  if (one.type.isInstant && other.type.isDuration) ||
      (one.type.isDuration && other.type.isInstant) then
    "ufunc '" ++ question ++ "' cannot use operands with types dtype('" ++ one.type.shortName ++
      "') and dtype('" ++ other.type.shortName ++ "')"
  else
    "ufunc '" ++ question ++ "' did not contain a loop with signature matching types (" ++
      operandName one ++ ", " ++ operandName other ++ ") -> None"

/-- A comparison that plain values refuse. -/
def refusedText (sign one other : String) : String :=
  "'" ++ sign ++ "' not supported between instances of '" ++ one ++ "' and '" ++ other ++ "'"

/-- The kind of a scalar where it is compared as a plain value; text keeps its type. -/
def comparedKind (s : Scalar) : String :=
  match s.type with
  | .text _ => "numpy.str_"
  | _ => s.plainKind

/-- A value that is not ordered with the lowest one before it.  A plain value and text ask the
other side whether it is greater. -/
def notOrderedText (value lowest : Scalar) : String :=
  let isText (s : Scalar) : Bool := match s.element with
    | .text _ => true
    | _ => false
  let isNull (s : Scalar) : Bool := s.element == .null
  if (value.isPlain && (lowest.isPlain || isText lowest)) || (lowest.isPlain && isText value) then
    refusedText "<" (comparedKind value) (comparedKind lowest)
  else if isNull value then refusedText ">" lowest.plainKind "NoneType"
  else if value.isPlain || isText value then noComparisonText "greater" lowest value
  else noComparisonText "less" value lowest

/-- A number of bytes with three digits and a unit of a power of `1024`. -/
def spaceText (bytes : Nat) : String :=
  let units := ["bytes", "KiB", "MiB", "GiB", "TiB", "PiB", "EiB"]
  let power := (max (bytes.log2) 1) / 10
  let (power, scale) :=
    if roundHalfEven bytes (1024 ^ power) = 1024 then (power + 1, 1024 ^ (power + 1))
    else (power, 1024 ^ power)
  let unit := units.getD power "EiB"
  if power = 0 then toString bytes ++ " " ++ unit
  else
    let scale := if units.length ≤ power then 1024 ^ (units.length - 1) else scale
    let fits (places : Nat) : Bool := roundHalfEven (bytes * 10 ^ places) scale < 1000
    let places := if fits 2 then 2 else if fits 1 then 1 else 0
    let scaled := roundHalfEven (bytes * 10 ^ places) scale
    let digits := toString scaled
    let cut := digits.length - places
    String.ofList (digits.toList.take cut) ++ "." ++
      String.ofList (digits.toList.drop cut) ++ " " ++
      unit

/-- Names in parentheses; a comma follows a single name. -/
def namesText (names : List String) : String := (Value.tuple (names.map .text)).shown

end Failure

namespace ConversionFault

/-- The kind of a failed conversion. -/
def kind : ConversionFault → Kind
  | noInteger _ | noReal _ | notSameKind _ _ => .type
  | infinityToInteger | outOfBounds _ _ | tooLargeForWord | tooLargeForInstant
  | tooLargeForDouble | unitsTooFar _ _ => .overflow
  | instantTooWide _ => .other "RuntimeError"
  | notPlainText _ => .other "UnicodeEncodeError"
  | _ => .value

/-- The places of the first characters of a text that are not among the first 128, and the
characters. -/
def beyondPlain (text : String) : Nat × List Char :=
  let isPlain (c : Char) : Bool := c.toNat < 128
  ((text.toList.takeWhile isPlain).length,
    (text.toList.dropWhile isPlain).takeWhile fun c => !isPlain c)

/-- The text of a failure to put characters into a code. -/
def unencodableText (code reason : String) (place : Nat) (cs : List Char) : String :=
  let head := "'" ++ code ++ "' codec can't encode character"
  match cs with
  | [c] =>
    head ++ " '" ++ String.ofList (Text.escapeCode (Text.codeOf c)) ++ "' in position " ++
      toString place ++ ": " ++ reason
  | cs =>
    head ++ "s in position " ++ toString place ++ "-" ++ toString (place + cs.length - 1) ++ ": " ++
      reason

/-- The text of characters that are not among the first 128. -/
def beyondPlainText (text : String) : String :=
  let (place, cs) := beyondPlain text
  unencodableText "ascii" "ordinal not in range(128)" place cs

/-- The text of an instant that cannot be read; it ends before its first null character. -/
def instantText (text : String) : InstantFault → String
  | .malformed position =>
    "Error parsing datetime string \"" ++ shownText ++ "\" at position " ++ toString position
  | .outOfRange part => part ++ " out of range in datetime string \"" ++ shownText ++ "\""
where
  shownText : String := String.ofList (text.toList.takeWhile (· != '\x00'))

/-- The text of a failed conversion. -/
def text : ConversionFault → String
  | notAnInteger shown => "invalid literal for int() with base 10: " ++ shown
  | tooManyDigits digits =>
    "Exceeds the limit (4300 digits) for integer string conversion: value has " ++
      toString digits ++ " digits; use sys.set_int_max_str_digits() to increase the limit"
  | notANumber shown => "could not convert string to float: " ++ shown
  | noInteger kind =>
    "int() argument must be a string, a bytes-like object or a real number, not '" ++ kind ++ "'"
  | noReal kind => "float() argument must be a string or a real number, not '" ++ kind ++ "'"
  | nanToInteger => "cannot convert float NaN to integer"
  | infinityToInteger => "cannot convert float infinity to integer"
  | outOfBounds value type =>
    "Python integer " ++ toString value ++ " out of bounds for " ++ type.name
  | tooLargeForWord => "Python int too large to convert to C long"
  | tooLargeForInstant => "int too big to convert"
  | tooLargeForDouble => "int too large to convert to float"
  | noInstant => "Could not convert object to NumPy datetime"
  | noDuration => "Could not convert object to NumPy timedelta"
  | unreadableInstant text fault => instantText text fault
  | notPlainText text => beyondPlainText text
  | chooseInstantUnit => "Converting an integer to a NumPy datetime requires a specified unit"
  | unitsTooFar coarse fine =>
    "Integer overflow while computing the conversion factor between NumPy datetime units " ++
      coarse.symbol ++ " and " ++ fine.symbol
  | unitLost =>
    "Cannot convert from specific units to generic units in NumPy datetimes or timedeltas"
  | notSameKind source target =>
    "Cannot cast NumPy timedelta64 scalar from metadata " ++
      ElementType.unitText source ++ " to " ++
      ElementType.unitText target ++ " according to the rule 'same_kind'"
  | instantTooWide width =>
    "The string provided for NumPy ISO datetime formatting was too short, with length " ++
      toString width
  | durationTooLong value target =>
    "Cannot convert " ++ value.text ++ " to " ++ target.name ++ " without overflow"
  | instantTooFar seconds => "Out of bounds second timestamp: " ++ Count.secondsText seconds
  | cannotSpread source target =>
    let tight (shape : List Nat) : String := (Block.shapeText shape).replace ", " ","
    "could not broadcast input array from shape " ++ tight source ++ " into shape " ++ tight target
  | ragged shape =>
    "setting an array element with a sequence. The requested array has an inhomogeneous shape " ++
      "after " ++ toString shape.length ++ " dimensions. The detected shape was " ++
      Block.shapeText shape ++ " + inhomogeneous part."
  | tooDeep dimensions =>
    "setting an array element with a sequence. The requested array would exceed the maximum " ++
      "number of dimension of " ++ toString dimensions ++ "."
  | sequenceForElement => "setting an array element with a sequence."

end ConversionFault

namespace Failure

/-- The kind of a failure. -/
def kind : Failure → Kind
  | noAxes | axisNotALine _ _ | axisNotANumber _ _ | axisNotAscending _ _ _ _ => .configuration
  | axisWithoutDifferences | noCommonType _ _ _ | noCommonUnit (.incommensurable _ _)
  | notOrdered _ _ | notSupported _ _ | noLength | noLengthOf _
  | notASingleRow | listPosition _ => .type
  | axisDifferenceTooLarge | noCommonUnit (.tooFar _ _) => .overflow
  | axisOverrun _ | outOfBounds _ _ | tooManyPositions _ _ | maskMismatch _ _ _
  | notAPosition | indexTooLarge | noSuchChild => .index
  | negativeSize | sizeTooLarge | tooManyDimensions _ | blockTooLarge => .value
  | noSpace _ _ => .other "MemoryError"
  | mapShapesDiffer | ambiguousTruth | emptyTruth | shapesDoNotMatch _ _ | readOnly
  | namesMissing _ _ => .value
  | unhashable _ | labelsNotDistinct => .type
  | strideTooSmall _ | invalidRange _ _ _ | onAxis _ _ | zeroSliceStep
  | zeroSelectionStep => .value
  | zeroStride => .zeroDivision
  | unexpectedShape _ _ _ _ _ | wrongTotal _ _ _ _ _ => .inconsistency
  | conversion fault => fault.kind
  | childWithoutVariables _ | childDimensionsDiffer _ _ _ _ | childWithoutDimensions _
  | childAxisNotFirst _ _ _ => .configuration
  | childConstraints _ _ => .value
  | childFileMissing _ => .fileNotFound
  | unknownName _ => .key
  | unknownPart _ => .other "AttributeError"
  | partNotAField | missingDimensions _ | unevenGrid _ => .value
  | datasetWithoutChildren _ | axisNamesDiffer _ _ _ | notSimilar _ _
  | variableTwice _ _ _ => .configuration
  | unknownVariable _ _ => .key
  | datasetConstraints _ _ | tooManyConstraints _ | blankConstraint => .value
  | noMap _ | numberTooLong => .value
  | noSibling | noUpdate => .notImplemented
  | entryNotAMapping _ | entryWithoutId | entryWithoutChildren _ | entryChildrenNotAList _
  | childWithoutPath _ | unparsable _ | noDatasetList _ | datasetsNotAList _
  | duplicateIds _ _ => .configuration
  | undecodable _ => .undecodable
  | badScalar kind _ => kind
  | notPublished _ | noDataset _ => .key
  | notConfigured _ _ => .configuration
  | badConstraint _ => .argument
  | missingFile _ => .fileNotFound
  | directoryAsFile _ => .isDirectory
  | notADirectory _ => .other "NotADirectoryError"
  | alreadyThere _ => .other "FileExistsError"
  | nameTooLong _ => .system
  | nullInPath => .value
  | lostInPath _ _ => .other "UnicodeEncodeError"
  | noDataDirectory => .type
  | raised kind _ => kind

/-- The text of a failure. -/
def text : Failure → String
  | noAxes => "At least one child is needed to merge axes"
  | axisNotALine child shape =>
    s!"Axis of child #{child} must be one dimensional, got shape " ++ Block.shapeText shape
  | axisNotANumber child position =>
    s!"Axis of child #{child} has a NaN value at position {position}"
  | axisNotAscending child position value previous =>
    s!"Axis of child #{child} is not sorted ascending: value " ++ value.formatted ++
      s!" at position {position} follows " ++ previous.formatted
  | axisWithoutDifferences => "values without differences"
  | axisDifferenceTooLarge => "int too large to convert to float"
  | noCommonType first second types =>
    "The DType " ++ first.className ++ " could not be promoted by " ++ second.className ++
      ". This means that no common DType exists for the given inputs. For example they cannot " ++
      "be stored in a single array unless the dtype is \x60object\x60. The full list of DTypes " ++
      "is: (" ++ ", ".intercalate (types.map ElementType.className) ++ ")"
  | noCommonUnit (.incommensurable one other) =>
    "Cannot get a common metadata divisor for Numpy datetime metadata [" ++ one.symbol ++
      "] and [" ++ other.symbol ++ "] because they have incompatible nonlinear base time units."
  | noCommonUnit (.tooFar one other) =>
    "Integer overflow getting a common metadata divisor for NumPy datetime metadata [" ++
      one.symbol ++ "] and [" ++ other.symbol ++ "]."
  | notOrdered value lowest => notOrderedText value lowest
  | notSupported kind other => refusedText "<" kind other
  | axisOverrun capacity =>
    s!"index {capacity} is out of bounds for axis 0 with size {capacity}"
  | noLength => "len() of unsized object"
  | noLengthOf kind => "object of type '" ++ kind ++ "' has no len()"
  | mapShapesDiffer => "index and present must have the same shape"
  | outOfBounds position size =>
    s!"index {position} is out of bounds for axis 0 with size {size}"
  | tooManyPositions dimensions given =>
    s!"too many indices for array: array is {dimensions}-dimensional, but {given} were indexed"
  | maskMismatch dimension size given =>
    s!"boolean index did not match indexed array along axis {dimension}; size of axis is {size} " ++
      s!"but size of corresponding boolean axis is {given}"
  | notAPosition => "only integers, slices (\x60:\x60), ellipsis (\x60...\x60), numpy.newaxis " ++
      "(\x60None\x60) and integer or boolean arrays are valid indices"
  | notASingleRow => "only 0-dimensional arrays can be converted to Python scalars"
  | indexTooLarge => "cannot fit 'int' into an index-sized integer"
  | listPosition kind => "list indices must be integers or slices, not " ++ kind
  | ambiguousTruth =>
    "The truth value of an array with more than one element is ambiguous. " ++
      "Use a.any() or a.all()"
  | emptyTruth =>
    "The truth value of an empty array is ambiguous. Use \x60array.size > 0\x60 to check that " ++
      "an array is not empty."
  | shapesDoNotMatch first second =>
    "operands could not be broadcast together with shapes " ++
      (Block.shapeText first).replace ", " "," ++ " " ++
      (Block.shapeText second).replace ", " "," ++ " "
  | readOnly => "assignment destination is read-only"
  | noSuchChild => "list index out of range"
  | namesMissing expected given => s!"Expected {expected} names, got {given}"
  | unhashable kind => "unhashable type: '" ++ kind ++ "'"
  | labelsNotDistinct =>
    "int() argument must be a string, a bytes-like object or a real number, not 'Series'"
  | strideTooSmall stride => s!"stride must be at least 1, got {stride}"
  | invalidRange start stop size =>
    s!"Invalid range start={start} stop={stop} for an axis with {size} values"
  | zeroStride => "integer division or modulo by zero"
  | onAxis name fault => name ++ ": " ++ fault.text
  | unexpectedShape start stride stop got expected =>
    s!"Read of child rows {start}:{stride}:{stop} returned shape " ++ Block.shapeText got ++
      ", expected " ++ Block.shapeText expected
  | negativeSize => "negative dimensions are not allowed"
  | sizeTooLarge => "Maximum allowed dimension exceeded"
  | tooManyDimensions dimensions =>
    s!"maximum supported dimension for an ndarray is 64, found {dimensions}"
  | noSpace type shape =>
    "Unable to allocate " ++ spaceText (shape.prod * type.byteSize) ++
      " for an array with shape " ++ Block.shapeText shape ++ " and data type " ++ type.name
  | blockTooLarge =>
    "array is too big; \x60arr.size * arr.dtype.itemsize\x60 is larger than the " ++
      "maximum possible size."
  | wrongTotal start stride stop produced expected =>
    s!"Range {start}:{stride}:{stop} produced {produced} values, expected {expected}"
  | zeroSliceStep | zeroSelectionStep => "slice step cannot be zero"
  | conversion fault => fault.text
  | childWithoutVariables label => "Child " ++ label.formatted ++ " has no data variables"
  | childDimensionsDiffer label name got expected =>
    "Child " ++ label.formatted ++ ": variable " ++ name ++ " has dims " ++ namesText got ++
      ", expected " ++ namesText expected
  | childWithoutDimensions label =>
    "Child " ++ label.formatted ++ ": data variables have no dimensions"
  | childAxisNotFirst label expected got =>
    "Child " ++ label.formatted ++ ": the merged axis must be the first dimension. Expected " ++
      expected.formatted ++ ", found " ++ got
  | childConstraints expected given =>
    s!"Expected {expected} constraints for the remaining axes, got {given}"
  | childFileMissing path => "File not found: " ++ path
  | unknownName name => name
  | unknownPart name => "there is no " ++ Text.quoted name
  | partNotAField => "what is asked of times is no field"
  | missingDimensions names => "Dimensions " ++ namesText names ++ " do not exist"
  | unevenGrid name => "conflicting sizes for dimension " ++ Text.quoted name
  | datasetWithoutChildren id => "Dataset " ++ id.formatted ++ " needs at least one child"
  | axisNamesDiffer child first other =>
    s!"Datasets #0 and #{child} are not similar: merged axis names differ (" ++ first ++ " != " ++
      other ++ ")"
  | notSimilar child difference =>
    s!"Datasets #0 and #{child} are not similar: " ++ difference
  | variableTwice name first second =>
    "Data variable " ++ name ++ s!" is in datasets #{first} and #{second}"
  | unknownVariable id name => "Dataset " ++ id.formatted ++ " has no variable " ++ name
  | datasetConstraints expected given => s!"Expected {expected} constraints, got {given}"
  | tooManyConstraints axes => s!"Too many constraints: dataset has {axes} axes"
  | blankConstraint => "not enough values to unpack (expected 3, got 0)"
  | noSibling => "SideBySideDataset doesn't support sibling()"
  | noUpdate => "SideBySideDataset can't be updated in place. Reload it from its children."
  | noMap axes => "Can't plot a map for axes " ++ (Value.list (axes.map .text)).shown
  | numberTooLong => "Exceeds the limit (4300 digits) for integer string conversion; " ++
      "use sys.set_int_max_str_digits() to increase the limit"
  | entryNotAMapping entry => "Dataset entries must be mappings, got " ++ entry.shown
  | entryWithoutId => "Dataset entry is missing dataset_id"
  | entryWithoutChildren id => "Dataset " ++ id ++ " has no children"
  | entryChildrenNotAList id => "Dataset " ++ id ++ ": children must be a list"
  | childWithoutPath id => "Dataset " ++ id ++ ": each child needs a path"
  | unparsable path => "Could not parse " ++ path ++ ": <yaml>"
  | noDatasetList path => path ++ " must have a top level 'datasets' list"
  | datasetsNotAList path => path ++ ": 'datasets' must be a list of dataset entries"
  | duplicateIds path ids => "Duplicate dataset ids in " ++ path ++ ": " ++ ", ".intercalate ids
  | undecodable fault => fault.message
  | badScalar _ text => text
  | notPublished id => id.formatted
  | noDataset id => "No dataset with id " ++ id.formatted
  | notConfigured id path => "No dataset " ++ id ++ " in " ++ path
  | badConstraint text => "Invalid constraint " ++ Text.quoted text
  | missingFile path => "[Errno 2] No such file or directory: " ++ Text.quoted path
  | directoryAsFile path => "[Errno 21] Is a directory: " ++ Text.quoted path
  | notADirectory path => "[Errno 20] Not a directory: " ++ Text.quoted path
  | alreadyThere path => "[Errno 17] File exists: " ++ Text.quoted path
  | nameTooLong path => "[Errno 36] File name too long: " ++ Text.quoted path
  | nullInPath => "embedded null byte"
  | lostInPath place characters =>
    ConversionFault.unencodableText "utf-8" "surrogates not allowed" place characters
  | noDataDirectory => "expected str, bytes or os.PathLike object, not NoneType"
  | raised _ text => text

/-- The message of a failure; a key that is missing is shown, and quoted if it is text. -/
def message (f : Failure) : String :=
  match f with
  | .notPublished id => id.shown
  | f => if f.kind = .key then Text.quoted f.text else f.text

end Failure

/-- The failure of a conversion inside a larger computation. -/
def liftConversion {α : Type} (r : Except ConversionFault α) : Except Failure α :=
  r.mapError .conversion

end GridUnion
