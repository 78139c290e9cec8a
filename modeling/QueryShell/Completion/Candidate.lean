import QueryShell.Completion.Context
import QueryShell.Completion.Snippet
import QueryShell.Completion.Table
import QueryShell.Schema
import QueryShell.Text.LowerCase

/-!
# Candidates

What fits into a slot, and in which order it is offered for what has been typed.
-/

namespace QueryShell.Completion

inductive Category where
  | collection
  | method
  | queryOperator
  | aggregationStage
  | accumulator
  | field
deriving DecidableEq, Repr

namespace Category

/-- The word for a category beside a suggestion. -/
def label : Category → String
  | collection => "collection"
  | method => "method"
  | queryOperator => "operator"
  | aggregationStage => "stage"
  | accumulator => "accumulator"
  | field => "field"

/-- The name of a category in JSON. -/
def name : Category → String
  | collection => "Collection"
  | method => "Method"
  | queryOperator => "QueryOperator"
  | aggregationStage => "AggregationStage"
  | accumulator => "Accumulator"
  | field => "Field"

end Category

/-- Something that can be inserted. -/
structure Candidate where
  label : String
  category : Category
  detail : String
  /-- The snippet to insert. -/
  template : String
deriving DecidableEq, Repr

namespace Candidate

/-- The candidate of a table. -/
def ofEntry (category : Category) (e : Entry) : Candidate :=
  ⟨e.label, category, e.detail, e.template⟩

def ofCollection (name : String) : Candidate :=
  ⟨name, .collection, "Collection", String.ofList (Snippet.escape name.toList)⟩

/-- The candidate for a field of a collection. A reference has a dollar sign in
front. -/
def ofField (collection : String) (reference : Bool) (path : String) : Candidate :=
  let template := Snippet.escape path.toList
  ⟨path, .field, s!"Field in {collection}",
    String.ofList (if reference then '\\' :: '$' :: template else template)⟩

def ofAccumulator (e : Entry) : Candidate :=
  { ofEntry .accumulator e with detail := s!"Accumulator: {e.detail}" }

/-- All that fits into a slot. -/
def forSlot (collections : List String) (schema : Option Schema) : Slot → List Candidate
  | .collection => collections.map ofCollection
  | .method => Entry.methods.map (ofEntry .method)
  | .modifier => Entry.modifiers.map (ofEntry .method)
  | .stage => Entry.aggregationStages.map (ofEntry .aggregationStage)
  | .operator =>
    Entry.queryOperators.map (ofEntry .queryOperator) ++ Entry.accumulators.map ofAccumulator
  | .field reference =>
    match schema with
    | some s => s.fields.map (ofField s.collection reference)
    | none => []

/-- How well a label fits what has been typed. -/
inductive Fit where
  /-- The label is what has been typed. -/
  | exact
  /-- The label begins with it. -/
  | initial
  /-- The label begins with it if case is ignored. -/
  | folded
deriving DecidableEq, Repr

/-- The place of a fit in the order of preference. -/
def Fit.rank : Fit → Nat
  | exact => 0
  | initial => 1
  | folded => 2

/-- The best fit of a label, if there is any. -/
def fit? (typed : List Char) (label : String) : Option Fit :=
  if label.toList = typed then some .exact
  else if typed.isPrefixOf label.toList then some .initial
  else if (Text.lower (String.ofList typed)).toList.isPrefixOf (Text.lower label).toList then
    some .folded
  else none

/-- The candidates that fit what has been typed, the better fits first, and
otherwise in the order given. -/
def ranked (typed : List Char) (cs : List Candidate) : List Candidate :=
  if typed.isEmpty then cs
  else
    let fitting := cs.filterMap fun c => (fit? typed c.label).map fun f => (f, c)
    (fitting.mergeSort fun x y => decide (x.1.rank ≤ y.1.rank)).map Prod.snd

end Candidate

end QueryShell.Completion
