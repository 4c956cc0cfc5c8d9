import PromptTemplate.Number.Integer
/-!
# Template errors

Everything that can be wrong with a template, as causes. Each cause belongs to one of nineteen
kinds (`TemplateError.kind`) and has one wording (`TemplateError.message`). The first six kinds
arise while a template is read, the others while it is rendered (`ErrorKind.isSyntax`).
-/

namespace PromptTemplate

/-- The kinds of template error. -/
inductive ErrorKind where
  | unclosedTag
  | emptyTag
  | invalidParam
  | invalidForLoopSyntax
  | unclosedRangeParen
  | invalidRangeBound
  | unterminatedForLoop
  | unexpectedEndFor
  | unknownCollection
  | unknownTag
  | unknownLoopVariable
  | unknownLoopField
  | unknownDictionaryKey
  | unknownSecret
  | invalidDurationFormat
  | invalidMemoryOffset
  | memoryOffsetOutOfRange
  | unknownPipe
  | interpolationTypeMismatch
  deriving Repr, DecidableEq, Inhabited

namespace ErrorKind

/-- Every kind, those of reading first. -/
def all : List ErrorKind :=
  [unclosedTag, emptyTag, invalidParam, invalidForLoopSyntax, unclosedRangeParen,
    invalidRangeBound, unterminatedForLoop, unexpectedEndFor, unknownCollection, unknownTag,
    unknownLoopVariable, unknownLoopField, unknownDictionaryKey, unknownSecret,
    invalidDurationFormat, invalidMemoryOffset, memoryOffsetOutOfRange, unknownPipe,
    interpolationTypeMismatch]

/-- The name that reports show. -/
def name : ErrorKind → String
  | unclosedTag => "UnclosedTag"
  | emptyTag => "EmptyTag"
  | invalidParam => "InvalidParam"
  | invalidForLoopSyntax => "InvalidForLoopSyntax"
  | unclosedRangeParen => "UnclosedRangeParen"
  | invalidRangeBound => "InvalidRangeBound"
  | unterminatedForLoop => "UnterminatedForLoop"
  | unexpectedEndFor => "UnexpectedEndFor"
  | unknownCollection => "UnknownCollection"
  | unknownTag => "UnknownTag"
  | unknownLoopVariable => "UnknownLoopVariable"
  | unknownLoopField => "UnknownLoopField"
  | unknownDictionaryKey => "UnknownDictionaryKey"
  | unknownSecret => "UnknownSecret"
  | invalidDurationFormat => "InvalidDurationFormat"
  | invalidMemoryOffset => "InvalidMemoryOffset"
  | memoryOffsetOutOfRange => "MemoryOffsetOutOfRange"
  | unknownPipe => "UnknownPipe"
  | interpolationTypeMismatch => "InterpolationTypeMismatch"

/-- The kind arises while a template is read. -/
def isSyntax : ErrorKind → Bool
  | unclosedTag | emptyTag | invalidParam | invalidForLoopSyntax | unclosedRangeParen
  | invalidRangeBound => true
  | _ => false

/-- The kind of a name. -/
def ofName? (name : String) : Option ErrorKind := all.find? fun k => k.name = name

theorem mem_all (k : ErrorKind) : k ∈ all := by cases k <;> decide

@[simp] theorem ofName?_name (k : ErrorKind) : ofName? k.name = some k := by
  cases k <;> decide

theorem name_injective {a b : ErrorKind} (h : a.name = b.name) : a = b :=
  Option.some.inj (by rw [← ofName?_name a, h, ofName?_name])

end ErrorKind

/-- What is wrong with a duration text. -/
inductive DurationFault where
  | empty
  | number
  | unit
  | range
  deriving Repr, DecidableEq

/-- The two ends of a range. -/
inductive RangeEnd where
  | start
  | stop
  deriving Repr, DecidableEq

/-- The word for an end of a range. -/
def RangeEnd.word : RangeEnd → String
  | .start => "start"
  | .stop => "end"

/-- A template that cannot be read or rendered, by cause. -/
inductive TemplateError where
  /-- A tag is opened and not closed. -/
  | unclosedTag
  /-- A tag has no name. -/
  | emptyTag
  /-- A param has neither `=` nor `:`. -/
  | paramWithoutSeparator (part : String)
  /-- A param begins with its separator. -/
  | paramWithoutKey (part : String)
  /-- A for-header is not of the form `<var> in <items>`. -/
  | malformedFor (header : String)
  /-- A for-header names no collection. -/
  | forWithoutCollection (header : String)
  /-- A range is opened and not closed. -/
  | unclosedRange
  /-- A range has not exactly two bounds. -/
  | malformedRange (text : String)
  /-- A bound of a range is no safe integer. -/
  | badBound (which : RangeEnd) (text : String)
  /-- A for-block has no end. -/
  | unterminatedFor
  /-- An end belongs to no for-block. -/
  | strayEndFor
  /-- There is no collection of this name. -/
  | unknownCollection (name : String)
  /-- The tag is neither built in nor a loop variable. -/
  | unknownTag (name : String)
  /-- A field is taken of a name that no loop binds. -/
  | unknownLoopVariable (name : String)
  /-- A field is taken of an index. -/
  | indexHasNoField (variableName field : String)
  /-- A field is taken that a memory does not have. -/
  | memoryHasNoField (field : String)
  /-- The dictionary has no such key in its general section. -/
  | unknownDictionaryKey (key : String)
  /-- There is no secret of this name. -/
  | unknownSecret (name : String)
  /-- A text is no duration. -/
  | invalidDuration (input : String) (fault : DurationFault) (message : String)
  /-- An offset leads out of the range of dates. -/
  | dateOutOfRange (offset : Int)
  /-- A memory offset is no safe natural number. -/
  | invalidMemoryOffset (text : String)
  /-- There are not so many memories. -/
  | memoryOutOfRange (offset available : Int)
  /-- There is no pipe of this name. -/
  | unknownPipe (name : String)
  /-- A memory stands where a param needs an index. -/
  | interpolatedMemory (variableName : String)
  /-- An error of a given kind that a pipe raises itself. -/
  | raised (kind : ErrorKind) (message : String)
  deriving Repr, DecidableEq

namespace TemplateError

open Number (intText)

/-- The kind an error belongs to. -/
def kind : TemplateError → ErrorKind
  | unclosedTag => .unclosedTag
  | emptyTag => .emptyTag
  | paramWithoutSeparator _ | paramWithoutKey _ => .invalidParam
  | malformedFor _ | forWithoutCollection _ => .invalidForLoopSyntax
  | unclosedRange => .unclosedRangeParen
  | malformedRange _ | badBound _ _ => .invalidRangeBound
  | unterminatedFor => .unterminatedForLoop
  | strayEndFor => .unexpectedEndFor
  | unknownCollection _ => .unknownCollection
  | unknownTag _ => .unknownTag
  | unknownLoopVariable _ => .unknownLoopVariable
  | indexHasNoField _ _ | memoryHasNoField _ => .unknownLoopField
  | unknownDictionaryKey _ => .unknownDictionaryKey
  | unknownSecret _ => .unknownSecret
  | invalidDuration _ _ _ | dateOutOfRange _ => .invalidDurationFormat
  | invalidMemoryOffset _ => .invalidMemoryOffset
  | memoryOutOfRange _ _ => .memoryOffsetOutOfRange
  | unknownPipe _ => .unknownPipe
  | interpolatedMemory _ => .interpolationTypeMismatch
  | raised kind _ => kind

/-- The wording of an error. -/
def message : TemplateError → String
  | unclosedTag => "unclosed tag: missing '%\x7d'"
  | emptyTag => "empty tag"
  | paramWithoutSeparator part => "invalid parameter (missing '=' or ':'): '" ++ part ++ "'"
  | paramWithoutKey part => "empty parameter key in '" ++ part ++ "'"
  | malformedFor header => "invalid for loop syntax: 'for " ++ header ++ "'"
  | forWithoutCollection header => "missing collection name in for loop: 'for " ++ header ++ "'"
  | unclosedRange => "unclosed range parenthesis"
  | malformedRange text => "invalid range syntax: '" ++ text ++ "'"
  | badBound which text => "invalid range " ++ which.word ++ ": '" ++ text ++ "'"
  | unterminatedFor => "for loop without matching endfor"
  | strayEndFor => "unexpected endfor outside for loop"
  | unknownCollection name => "unknown collection: '" ++ name ++ "'"
  | unknownTag name => "unknown tag: '" ++ name ++ "'"
  | unknownLoopVariable name => "unknown loop variable: '" ++ name ++ "'"
  | indexHasNoField variableName field =>
    "index variable '" ++ variableName ++ "' has no field '" ++ field ++ "'"
  | memoryHasNoField field => "memory has no field '" ++ field ++ "'"
  | unknownDictionaryKey key => "unknown dictionary key: 'custom:" ++ key ++ "'"
  | unknownSecret name => "unknown secret for proxy: '" ++ name ++ "'"
  | invalidDuration _ _ message => message
  | dateOutOfRange offset => "date offset out of range: " ++ intText offset ++ "ms"
  | invalidMemoryOffset text => "invalid memory offset: '" ++ text ++ "'"
  | memoryOutOfRange offset available =>
    "no memory at offset " ++ intText offset ++ " (have " ++ intText available ++ " memories)"
  | unknownPipe name => "unknown pipe: '" ++ name ++ "'"
  | interpolatedMemory variableName =>
    "loop variable '" ++ variableName ++ "' is not an index, cannot interpolate"
  | raised _ message => message

end TemplateError

end PromptTemplate
