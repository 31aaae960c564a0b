import Quarry.Value.Text

namespace Quarry

inductive NumberKind
  | int
  | float
  deriving DecidableEq, Repr

def NumberKind.text : NumberKind → String
  | .int => "int"
  | .float => "float"

inductive ConfigFault
  | notMapping (kind : String)
  | unknownKeys (keys : List Value)
  | notBool (key kind : String)
  | encodingNotText (kind : String)

/-- What is wrong with a path. A spliced path is given by its kind and the text that shows it, if
it can be shown. -/
inductive PathFault
  | unknownShape (item : Value)
  | keyKind (key : Value)
  | negativeIndex (index : Int)
  | spliced (kind : String) (shown : Option String) (got : String)

inductive OperationFault
  | queryTarget (query kind : String)
  | patternTarget (kind : String)
  | notNumeric (kind : String) (aim : NumberKind)
  | noFirst (kind : String)
  | noRootQuery
  | misaligned (values nodes : Nat)

inductive Fault
  | config (f : ConfigFault)
  | path (f : PathFault)
  | indexRange (index size : Nat)
  | operation (f : OperationFault)
  | query (query : String)
  | queryCharacters
  | pattern (pattern source : String)
  | malformedDocument
  | unknownEncoding (name : String)
  | noMarkup (kind : String)
  | noLength (kind : String)
  | notIterable (kind : String)
  | notCallable (kind : String)
  | missingPath (maker : String)
  | pathOperand
  | unordered (left right : String)
  | unwritable
  | emptySelection
  | notANumber
  | infinite
  | hugeInteger
  | notNumeral (text : String)
  | raised (message : String)

instance : Inhabited Fault := ⟨.emptySelection⟩

abbrev Outcome := Except Fault

namespace ConfigFault

def knownKeys : List String :=
  ["encoding", "huge_tree", "remove_blank_text", "remove_comments", "resolve_entities"]

def message : ConfigFault → String
  | notMapping kind => "expected dict, got " ++ kind
  | unknownKeys keys =>
    "unknown parser config keys: " ++ (Value.list keys).shown ++ " (expected some of " ++
      (Value.list (knownKeys.map Value.ofString)).shown ++ ")"
  | notBool key kind => "'" ++ key ++ "' must be a bool, got " ++ kind
  | encodingNotText kind => "'encoding' must be a string, got " ++ kind

end ConfigFault

namespace PathFault

def subject : PathFault → String
  | unknownShape item => item.typeName
  | keyKind key => key.typeName
  | negativeIndex _ => "int"
  | spliced kind _ _ => kind

def reason? : PathFault → Option String
  | unknownShape _ => none
  | keyKind _ => some "keys must be strings or integers"
  | negativeIndex _ => some "child index must be non-negative"
  | spliced _ _ got => some ("spliced result must be a sequence, got " ++ got)

def shown : PathFault → String
  | unknownShape item => item.shown
  | keyKind key => key.shown
  | negativeIndex index => toString index
  | spliced _ shown _ => shown.getD ""

def isWritable : PathFault → Bool
  | unknownShape _ => true
  | keyKind key => key.isWritable
  | negativeIndex index => Number.isWritable index
  | spliced _ shown _ => shown.isSome

def message (f : PathFault) : String :=
  match f.reason? with
  | none =>
    "invalid path: expected str, int, dict, list, Matcher or function, got " ++ f.subject
  | some r => "invalid path " ++ f.shown ++ ": " ++ r

end PathFault

def OperationFault.message : OperationFault → String
  | queryTarget query kind =>
    "cannot run query " ++ Text.quoted query ++ " against " ++ kind ++ ", expected an element"
  | patternTarget kind =>
    "regex may only be applied to string or string-container results, got " ++ kind
  | notNumeric kind aim => "cannot convert " ++ kind ++ " to " ++ aim.text
  | noFirst kind => "first() expects a sequence or mapping result, got " ++ kind
  | noRootQuery => "seq_or can only combine matchers built on a plain query string"
  | misaligned values nodes =>
    "seq_or sides must produce one value per matched node, got " ++ toString values ++
      " values for " ++ toString nodes ++ " nodes"

def Fault.message : Fault → String
  | config f => f.message
  | path f => f.message
  | indexRange index size =>
    "child index " ++ toString index ++ " out of range (node has " ++ toString size ++
      " children)"
  | operation f => f.message
  | query q => "invalid query " ++ Text.quoted q
  | queryCharacters =>
    "All strings must be XML compatible: Unicode or ASCII, no NULL bytes or control characters"
  | pattern p source => "invalid regex pattern \"" ++ p ++ "\": " ++ source
  | malformedDocument => "malformed XML"
  | unknownEncoding name => "unknown encoding: 'b'" ++ name ++ "''"
  | noMarkup kind => "memoryview: a bytes-like object is required, not '" ++ kind ++ "'"
  | noLength kind => "object of type '" ++ kind ++ "' has no len()"
  | notIterable kind => "'" ++ kind ++ "' object is not iterable"
  | notCallable kind => "'" ++ kind ++ "' object is not callable"
  | missingPath maker => maker ++ "() missing 1 required positional argument: 'path'"
  | pathOperand => "'QueryPath' object has no attribute 'raw'"
  | unordered left right =>
    "'<' not supported between instances of '" ++ left ++ "' and '" ++ right ++ "'"
  | unwritable =>
    "Exceeds the limit (" ++ toString Number.exactDigits ++
      " digits) for integer string conversion; " ++
      "use sys.set_int_max_str_digits() to increase the limit"
  | emptySelection => "list index out of range"
  | notANumber => "cannot convert float NaN to integer"
  | infinite => "cannot convert float infinity to integer"
  | hugeInteger => "int too large to convert to float"
  | notNumeral text => "could not convert string to float: " ++ Text.quoted text
  | raised message => message

def Fault.isWritable : Fault → Bool
  | config (.unknownKeys keys) => Value.allWritable keys
  | path f => f.isWritable
  | indexRange index _ => Number.isWritable index
  | _ => true

/-- What is reported: the cause itself, unless its message cannot be written. -/
def Fault.reported (f : Fault) : Fault := if f.isWritable then f else .unwritable

end Quarry
