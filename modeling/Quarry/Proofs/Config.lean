import Mathlib.Data.List.Perm.Subperm
import Quarry.Config
import Quarry.Proofs.Value.Keys
import Quarry.Proofs.Value.Sorted

namespace Quarry

namespace Config

open Value (TextsDiffer HasOrder)
open List (Subperm)

def flags : List (String × (Config → Bool)) :=
  [("huge_tree", hugeTree), ("remove_blank_text", removeBlankText),
    ("remove_comments", removeComments), ("resolve_entities", resolveEntities)]

variable {α : Type} {c : Config} {es fs : List (Value × Value)} {s : String} {b : Bool} {φ : Fault}
  {cmp : Value.Comparison}

section

variable (hd : TextsDiffer (es.map Prod.fst))
include hd

end

section

variable {data : Value} (hd : ∀ es, data = .dict es → TextsDiffer (es.map Prod.fst))
include hd

end

def numbered : Value :=
  .ofEntries [(.int 2, .none), (.ofString "huge_tree", .int 1), (.bool true, .none)]

def mixed : Value := .ofEntries [(.tuple [], .bool true), (.int 1, .bool true)]

end Config

end Quarry
