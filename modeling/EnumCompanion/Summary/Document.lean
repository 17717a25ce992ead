import EnumCompanion.Summary

/-!
# `EnumCompanion.Summary.Document`: summaries as documents

A document is a value of a self-describing format: texts, lists, objects
and the rest. A summary is written as an object with four keys and read
from an object or from the list of the same four values in that order;
a parameter likewise has two. Keys may come in any order, none of these
may be there twice, and unknown ones are passed over. The parameters may
be left out, and are then none; nothing else may be.
-/

set_option autoImplicit false

namespace EnumCompanion

/-- A value of a self-describing format. What is neither text, list nor
object has no part in a summary and is one case. -/
inductive Document where
  | text (s : String)
  | list (items : List Document)
  | object (entries : List (String × Document))
  | other
  deriving Repr, Inhabited

namespace Document

/-- The text, if the document is one. -/
def text? : Document → Option String
  | .text s => some s
  | _ => none

/-- The texts, if the document is a list of them. -/
def texts? : Document → Option (List String)
  | .list items => items.mapM text?
  | _ => none

/-- The value under a key that has to be there, and only once. -/
def value? (entries : List (String × Document)) (key : String) : Option Document :=
  match entries.filter (·.1 == key) with
  | [entry] => some entry.2
  | _ => none

/-- The value under a key that may be missing, but may not be there twice. -/
def valueOrNone? (entries : List (String × Document)) (key : String) :
    Option (Option Document) :=
  match entries.filter (·.1 == key) with
  | [] => some none
  | [entry] => some (some entry.2)
  | _ => none

end Document

/-! ### Parameters -/

namespace Parameter

/-- A parameter as a document. -/
def toDocument (p : Parameter) : Document :=
  .object [("name", .text p.name), ("type_name", .text p.type)]

/-- The parameter with the given name and type. -/
def ofValues? (name type : Document) : Option Parameter := do
  return ⟨← name.text?, ← type.text?⟩

/-- Reads a parameter. -/
def ofDocument? : Document → Option Parameter
  | .list [name, type] => ofValues? name type
  | .object entries => do
    ofValues? (← Document.value? entries "name") (← Document.value? entries "type_name")
  | _ => none

end Parameter

/-! ### Summaries -/

namespace Summary

/-- A summary as a document. -/
def toDocument (s : Summary) : Document :=
  .object
    [("namespace", .text s.scope), ("type_name", .text s.name),
     ("constant_names", .list (s.constants.map .text)),
     ("constructor_parameters", .list (s.parameters.map Parameter.toDocument))]

/-- The parameters in a document; none if there is no document. -/
def parametersOf? : Option Document → Option (List Parameter)
  | none => some []
  | some (.list items) => items.mapM Parameter.ofDocument?
  | some _ => none

/-- The summary with the given values. -/
def ofValues? (scope name constants : Document) (parameters : Option Document) :
    Option Summary := do
  return ⟨← scope.text?, ← name.text?, ← constants.texts?, ← parametersOf? parameters⟩

/-- Reads a summary. -/
def ofDocument? : Document → Option Summary
  | .list [scope, name, constants] => ofValues? scope name constants none
  | .list [scope, name, constants, parameters] => ofValues? scope name constants (some parameters)
  | .object entries => do
    ofValues? (← Document.value? entries "namespace") (← Document.value? entries "type_name")
      (← Document.value? entries "constant_names")
      (← Document.valueOrNone? entries "constructor_parameters")
  | _ => none

end Summary

end EnumCompanion
