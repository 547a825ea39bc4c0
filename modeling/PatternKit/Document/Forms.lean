import PatternKit.CommonFormat
import PatternKit.Document
import PatternKit.Document.Flags
import PatternKit.Issue
import PatternKit.Limits
import PatternKit.Shorthand

/-!
The documents that stand for shorthands, formats, policies, limits, options and faults. Reading gives
back what was written.
-/

set_option autoImplicit false

namespace PatternKit

/-- The shorthand with a name. -/
def Shorthand.ofName? (name : String) : Option Shorthand := Shorthand.all.find? (·.name == name)

/-- The document of a shorthand. -/
def Shorthand.toDocument (s : Shorthand) : Document := .text s.name

/-- The shorthand of a document. -/
def Shorthand.ofDocument? (d : Document) : Option Shorthand := d.caseName?.bind Shorthand.ofName?

/-- The common format with a name. -/
def CommonFormat.ofName? (name : String) : Option CommonFormat :=
  CommonFormat.all.find? (·.name == name)

/-- The document of a common format. -/
def CommonFormat.toDocument (f : CommonFormat) : Document := .text f.name

/-- The common format of a document. -/
def CommonFormat.ofDocument? (d : Document) : Option CommonFormat :=
  d.caseName?.bind CommonFormat.ofName?

namespace BacktrackPolicy

/-- The policies. -/
def all : List BacktrackPolicy := [.sequential, .nested, .disabled]

/-- The name of a policy. -/
def name : BacktrackPolicy → String
  | .sequential => "Sequential"
  | .nested => "Nested"
  | .disabled => "Disabled"

/-- The policy with a name. -/
def ofName? (name : String) : Option BacktrackPolicy := all.find? (·.name == name)

/-- The document of a policy. -/
def toDocument (p : BacktrackPolicy) : Document := .text p.name

/-- The policy of a document. -/
def ofDocument? (d : Document) : Option BacktrackPolicy := d.caseName?.bind ofName?

end BacktrackPolicy

namespace Limits

/-- The document of limits. -/
def toDocument (l : Limits) : Document :=
  .object [("size_limit", .integer l.size), ("dfa_size_limit", .integer l.dfaSize),
    ("nest_limit", .integer l.nest), ("backtrack_check", l.policy.toDocument)]

/-- Reads four documents as limits: two numbers of 64 bits, one of 32 bits, and a policy. -/
def ofParts? (size dfaSize nest policy : Document) : Option Limits := do
  return {
    size := ← size.natBelow? 0x10000000000000000
    dfaSize := ← dfaSize.natBelow? 0x10000000000000000
    nest := ← nest.natBelow? 0x100000000
    policy := ← BacktrackPolicy.ofDocument? policy }

/-- The limits of a document: an object with four fields at least, or a list of the four values. -/
def ofDocument? : Document → Option Limits
  | .object fields => do
    ofParts? (← Document.field? "size_limit" fields) (← Document.field? "dfa_size_limit" fields)
      (← Document.field? "nest_limit" fields) (← Document.field? "backtrack_check" fields)
  | .list [size, dfaSize, nest, policy] => ofParts? size dfaSize nest policy
  | _ => none

end Limits

/-- The document of a set of options. -/
def Flags.toDocument (f : Flags) : Document := .text (String.ofList f.toText)

/-- The set of options of a document. -/
def Flags.ofDocument? : Document → Option Flags
  | .text t => Flags.ofText? t.toList
  | _ => none

namespace Issue

/-- The document of a fault. -/
def toDocument : Issue → Document
  | .engineRejected reason => .object [("EngineRejected", .object [("reason", .text reason)])]
  | .unbalancedParentheses => .text "UnbalancedParentheses"
  | .unbalancedBrackets => .text "UnbalancedBrackets"
  | .catastrophicBacktracking => .text "CatastrophicBacktracking"

/-- The fault with a name. -/
def ofName? : String → Option Issue
  | "UnbalancedParentheses" => some .unbalancedParentheses
  | "UnbalancedBrackets" => some .unbalancedBrackets
  | "CatastrophicBacktracking" => some .catastrophicBacktracking
  | _ => none

/-- The fault of a document. -/
def ofDocument? (d : Document) : Option Issue :=
  match d with
  | .object [("EngineRejected", .object fields)] =>
    match Document.field? "reason" fields with
    | some (.text reason) => some (.engineRejected reason)
    | _ => none
  | d => d.caseName?.bind ofName?

end Issue

end PatternKit
