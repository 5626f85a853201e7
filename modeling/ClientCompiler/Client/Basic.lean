import ClientCompiler.Text.Blank

/-!
The compiled client: models, and one module of operations for each tag.
-/

namespace ClientCompiler

inductive Method where
  | get
  | put
  | post
  | delete
  | options
  | head
  | patch
  deriving DecidableEq, Repr

namespace Method

def all : List Method := [.get, .put, .post, .delete, .options, .head, .patch]

def name : Method → String
  | .get => "get"
  | .put => "put"
  | .post => "post"
  | .delete => "delete"
  | .options => "options"
  | .head => "head"
  | .patch => "patch"

def title : Method → String
  | .get => "GET"
  | .put => "PUT"
  | .post => "POST"
  | .delete => "DELETE"
  | .options => "OPTIONS"
  | .head => "HEAD"
  | .patch => "PATCH"

def ofName? (s : String) : Option Method := all.find? fun m => m.name == s

/-- The method that a key of a path item names, in letters of any case. -/
def ofKey? (s : String) : Option Method := ofName? (String.ofList (Text.lowerAscii s.toList))

@[simp] theorem ofName?_name (m : Method) : ofName? m.name = some m := by cases m <;> decide

end Method

inductive Location where
  | query
  | header
  | path
  | cookie
  | formData
  | body
  deriving DecidableEq, Repr

namespace Location

def all : List Location := [.query, .header, .path, .cookie, .formData, .body]

def name : Location → String
  | .query => "query"
  | .header => "header"
  | .path => "path"
  | .cookie => "cookie"
  | .formData => "formData"
  | .body => "body"

def ofName? (s : String) : Option Location := all.find? fun l => l.name == s

@[simp] theorem ofName?_name (l : Location) : ofName? l.name = some l := by cases l <;> decide

end Location

structure Property where
  name : String
  type : String
  required : Bool
  description : Option String
  deriving DecidableEq, Repr

structure Model where
  name : String
  title : Option String
  generics : List String
  properties : List Property
  deriving DecidableEq, Repr

structure Parameter where
  name : String
  location : Location
  type : String
  required : Bool
  deriving DecidableEq, Repr

/-- A method bound to a path. The return type is empty when nothing is said about the result. -/
structure Operation where
  name : String
  method : Method
  path : String
  description : Option String
  returnType : String
  parameters : List Parameter
  deriving DecidableEq, Repr

structure ApiModule where
  name : String
  description : Option String
  operations : List Operation
  imports : List String
  deriving DecidableEq, Repr

end ClientCompiler
