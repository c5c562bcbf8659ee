import ArchiveScout.Text.Split

/-!
# ArchiveScout.Archive.ClassName

**Names of classes.** In source code a class is called `com.app.Main`, in a class
file `Lcom/app/Main;`. Primitive types have one letter in class files, and every
dimension of an array is a bracket in front.
-/

namespace ArchiveScout.Archive

/-- Points become slashes. -/
def slashed (name : String) : String := Text.replaceChar '.' '/' name

/-- Slashes become points. -/
def dotted (path : String) : String := Text.replaceChar '/' '.' path

/-- The names of primitive types in class files. -/
def primitiveTable : List (String × String) :=
  [("boolean", "Z"), ("byte", "B"), ("char", "C"), ("short", "S"), ("int", "I"),
    ("long", "J"), ("float", "F"), ("double", "D"), ("void", "V")]

/-- The pairs of brackets at the front of a reversed name, and the rest of it. -/
def dimensions : List Char → Nat × List Char
  | ']' :: '[' :: cs =>
    let (n, element) := dimensions cs
    (n + 1, element)
  | cs => (0, cs)

/-- The name of a class or primitive type in class files. -/
def elementName (name : String) : String :=
  (primitiveTable.lookup name).getD ("L" ++ slashed name ++ ";")

/-- The name of a type in class files; the empty name stays empty. -/
def internalName (name : String) : String :=
  if name.isEmpty then ""
  else
    let (n, element) := dimensions name.toList.reverse
    String.ofList (List.replicate n '[') ++ elementName (String.ofList element.reverse)

/-- The name in class files of the class with a path such as `com/app/Main`. -/
def rawName (classPath : String) : String := "L" ++ classPath ++ ";"

end ArchiveScout.Archive
