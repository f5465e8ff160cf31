namespace Scoping

/-- The words that are known, and their aliases, have constructors. Every other word is kept as
written. -/
inductive TypeTag
  | int
  | char
  | float
  | double
  | bool
  | void
  | struct
  | union
  | enum
  | pointer
  | function
  | other (word : String)
  deriving DecidableEq, Ord, Repr

namespace TypeTag

def ofWord : String → TypeTag
  | "int" => int
  | "char" => char
  | "float" => float
  | "double" => double
  | "bool" => bool
  | "void" => void
  | "struct" => struct
  | "union" => union
  | "enum" => enum
  | "pointer" => pointer
  | "ptr" => pointer
  | "func" => function
  | "function" => function
  | word => other word

def spelling : TypeTag → String
  | int => "int"
  | char => "char"
  | float => "float"
  | double => "double"
  | bool => "bool"
  | void => "void"
  | struct => "struct"
  | union => "union"
  | enum => "enum"
  | pointer => "pointer"
  | function => "func"
  | other word => word

def custom? : TypeTag → Option String
  | other word => some word
  | _ => none

end TypeTag

inductive KindTag
  | var
  | function
  | array
  | parameter
  | constant
  | typeDefinition
  | label
  | other (word : String)
  deriving DecidableEq, Ord, Repr

namespace KindTag

def ofWord : String → KindTag
  | "variable" => var
  | "var" => var
  | "function" => function
  | "func" => function
  | "array" => array
  | "parameter" => parameter
  | "param" => parameter
  | "constant" => constant
  | "const" => constant
  | "typedef" => typeDefinition
  | "label" => label
  | word => other word

def spelling : KindTag → String
  | var => "variable"
  | function => "function"
  | array => "array"
  | parameter => "parameter"
  | constant => "constant"
  | typeDefinition => "typedef"
  | label => "label"
  | other word => word

def custom? : KindTag → Option String
  | other word => some word
  | _ => none

/-- Whether a symbol of this kind can stand where a value is expected. -/
def isValue : KindTag → Bool
  | var | array | parameter | constant => true
  | _ => false

def isCallable : KindTag → Bool
  | function => true
  | _ => false

end KindTag

end Scoping
