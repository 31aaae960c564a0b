import Quarry.Fault
import Quarry.Value.Order

namespace Quarry

structure Config where
  removeComments : Bool
  removeBlankText : Bool
  hugeTree : Bool
  /-- The encoding of markup given as bytes; it is found out from the markup when absent. -/
  encoding : Option String
  resolveEntities : Bool
  deriving DecidableEq, Repr

namespace Config

def standard : Config := ⟨false, false, false, none, false⟩

def maxDepth (c : Config) : Nat := if c.hugeTree then 2048 else 256

def option? (key : Value) : Option String :=
  ConfigFault.knownKeys.find? fun k => key.same (.ofString k)

def lookup (entries : List (Value × Value)) (name : String) : Option Value :=
  (entries.find? fun e => e.1.same (.ofString name)).map Prod.snd

def flag (entries : List (Value × Value)) (name : String) : Outcome Bool :=
  match lookup entries name with
  | none => .ok false
  | some (.bool b) => .ok b
  | some v => .error (.config (.notBool name v.typeName))

/-- The encoding under its key; no value there means none. -/
def encodingOf (entries : List (Value × Value)) : Outcome (Option String) :=
  match lookup entries "encoding" with
  | none | some .none => .ok none
  | some (.str s _) => .ok (some s)
  | some v => .error (.config (.encodingNotText v.typeName))

def unknownKeys (entries : List (Value × Value)) : List Value :=
  (entries.map Prod.fst).filter fun k => (option? k).isNone

/-- Reports keys that name no option, in order. -/
def refuseUnknown (c : Value.Comparison) (entries : List (Value × Value)) : Outcome Unit :=
  match unknownKeys entries with
  | [] => .ok ()
  | keys => do
    let ks ← Value.sorted c keys
    .error (Fault.config (.unknownKeys ks)).reported

def ofValue (c : Value.Comparison) : Value → Outcome Config
  | .dict entries => do
    refuseUnknown c entries
    let hugeTree ← flag entries "huge_tree"
    let removeBlankText ← flag entries "remove_blank_text"
    let removeComments ← flag entries "remove_comments"
    let resolveEntities ← flag entries "resolve_entities"
    let encoding ← encodingOf entries
    return ⟨removeComments, removeBlankText, hugeTree, encoding, resolveEntities⟩
  | v => .error (.config (.notMapping v.typeName))

end Config

end Quarry
