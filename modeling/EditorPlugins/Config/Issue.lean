import EditorPlugins.Value.Display

/-! # Issues found while checking a document

A check does not stop at its first finding: it lists every issue with the place where the value
stands, in the order of the declared fields, of the items of lists and of the entries of maps.
-/

namespace EditorPlugins.Config

/-- A step on the way from a document to one of its values. -/
inductive Step where
  | field (name : String)
  | index (number : Int)
deriving DecidableEq, Repr

/-- What is wrong with a value. -/
inductive IssueKind where
  | missing
  | notText
  | badText
  | notList
  | notMap
  | notRecord
  | notWhole
  | unreadableWhole
  | wholeOutOfRange
  | fractional
  | notFinite
  | refused (reason : String)
deriving DecidableEq, Repr

/-- Something wrong at some place of a document. -/
structure Issue where
  place : List Step
  kind : IssueKind
deriving DecidableEq, Repr

namespace Issue

/-- The same issue seen from one step further out. -/
def under (step : Step) (issue : Issue) : Issue := { issue with place := step :: issue.place }

end Issue

/-- The outcome of a check: a value, or everything that is wrong. -/
abbrev Checked (α : Type) := Except (List Issue) α

namespace Checked

variable {α β : Type}

def fail (kind : IssueKind) : Checked α := .error [⟨[], kind⟩]

/-- The outcome seen from one step further out. -/
def under (step : Step) : Checked α → Checked α
  | .ok value => .ok value
  | .error issues => .error (issues.map (Issue.under step))

/-- Two outcomes side by side; the issues of both are kept, the first one's first. -/
def both (first : Checked α) (second : Checked β) : Checked (α × β) :=
  match first, second with
  | .ok a, .ok b => .ok (a, b)
  | .ok _, .error issues => .error issues
  | .error issues, .ok _ => .error issues
  | .error issues, .error more => .error (issues ++ more)

/-- Many outcomes in a row; the issues of all are kept. -/
def all : List (Checked α) → Checked (List α)
  | [] => .ok []
  | first :: rest => (both first (all rest)).map fun (a, as) => a :: as

end Checked

/-- The step to an entry of a map; a whole number of sixty-four bits is a step of its own kind. -/
def keyStep : Scalar → Step
  | .text name => .field name
  | .int n =>
    if -(Number.twoTo 63 : Int) ≤ n ∧ n < Number.twoTo 63 then .index n
    else .field (Scalar.int n).literal
  | .bool value => .index (if value then 1 else 0)
  | other => .field other.literal

/-- The step that stands for the key of an entry rather than its value. -/
def keyMark : Step := .field "[key]"

end EditorPlugins.Config
