import Typings.Java.Name

/-!
# Module specifiers

Each class has a module of its own. Its packages are directories, its simple name is the file, and a module reaches
another one by a path relative to the directory it lies in.
-/

namespace Typings.Conversion

/-- The number of leading elements that two lists share. -/
def sharedLength : List String → List String → Nat
  | a :: as, b :: bs => if a = b then sharedLength as bs + 1 else 0
  | _, _ => 0

/-- The specifier by which the module of the class `importer` imports that of the class `imported`. -/
def moduleSpecifier (importer imported : String) : String :=
  let start := Java.segments importer
  let target := Java.segments imported
  let shared := sharedLength start target
  "./" ++ String.join (List.replicate (start.length - shared - 1) "../") ++ "/".intercalate (target.drop shared)

end Typings.Conversion
