import SignedHttp.Settings.File.Line
import SignedHttp.Settings.File.Reference

/-!
# Settings files

A settings file is a text whose lines bind names to values. Its lines end with a line
feed, a carriage return, or both. The bindings are taken in order: the references in a
value are replaced by what earlier lines bound, else by the environment. A name keeps
the place at which it was bound first and has the value that it was bound to last.

Key definitions: `normalizeLines`, `Table`, `define`, `values`.
-/

namespace SignedHttp.Settings.File

/-- The text with every line end written as a line feed. -/
def normalizeLines : List Char → List Char
  | [] => []
  | '\r' :: '\n' :: s => '\n' :: normalizeLines s
  | '\r' :: s => '\n' :: normalizeLines s
  | c :: s => c :: normalizeLines s

/-- Bound names, each where it was bound first and with the value bound last. -/
abbrev Table := List (String × Option String)

def Table.bind (name : String) (value : Option String) : Table → Table
  | [] => [(name, value)]
  | (key, old) :: rest =>
    if key = name then (name, value) :: rest else (key, old) :: Table.bind name value rest

/-- What a reference to a name is replaced by: a name that is bound without a value is
replaced by nothing. -/
def resolve (environment : String → Option String) (table : Table) (name : String) :
    Option String :=
  match table.lookup name with
  | some value => some (value.getD "")
  | none => environment name

/-- The table after one more binding, whose references are put in. -/
def define (environment : String → Option String) (table : Table) (binding : Binding) : Table :=
  let lookup (name : List Char) : Option (List Char) :=
    (resolve environment table (.ofList name)).map String.toList
  table.bind binding.name (binding.value.map fun s => .ofList (expand lookup s.toList))

/-- The names that a file binds and their values. A byte order mark in front is no
part of the text. -/
def values (reader : Reader) (environment : String → Option String) (text : String) : Table :=
  let s := match text.toList with
    | '\ufeff' :: s => s
    | s => s
  (bindings reader (normalizeLines s)).foldl (define environment) []

end SignedHttp.Settings.File
