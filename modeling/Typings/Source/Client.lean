import Typings.Java.Inheritance
import Typings.Source.Resolution

/-!
# Classes from Java sources

A client that reports the classes of an index of Java sources, and asks another client for all others. The members that
a class has without declaring them are added, and then what its supertypes hand down.
-/

namespace Typings.Source

open Java (Field Method Constructor ClassInfo Modifier Modifiers)

/-- What the client has learned: whether the index was made, the classes loaded, and the state of the other client. -/
structure ClientState (σ : Type) where
  isIndexed : Bool := false
  cache : Cache := []
  fallback : σ

variable {σ : Type}

/-! ## Members -/

/-- The modifiers of a type, with those that follow from its kind and from where it stands. -/
def SourceType.keywords (t : SourceType) : List String :=
  let nested := match t.enclosing.head?.map (·.header.kind) with
    | some .interfaceType => ["public", "static"]
    | _ => []
  let ofKind := match t.header.kind with
    | .interfaceType => ["interface", "abstract"]
    | .enumType => ["final"]
    | .classType => []
  t.header.modifiers ++ nested ++ ofKind

/-- Whether the type is an interface. -/
def Header.isInterface (h : Header) : Bool := h.kind = .interfaceType

/-- The modifiers of a field. -/
def fieldModifiers (h : Header) (keywords : List String) : Modifiers :=
  .ofKeywords (keywords ++ if h.isInterface then ["public", "static", "final"] else [])

/-- The modifiers of a method. In an interface a method is public unless it is private, and has no body unless it says
so. -/
def methodModifiers (h : Header) (keywords : List String) : Modifiers :=
  let implied :=
    if h.isInterface ∧ "private" ∉ keywords then
      "public" :: if "default" ∈ keywords ∨ "static" ∈ keywords then [] else ["abstract"]
    else []
  .ofKeywords (keywords ++ implied)

/-- How types are named in the members of a type. -/
abbrev Naming (σ : Type) := TypeVariables → TypeUse → Action σ LoadError String

/-- The erased types of parameters. A variadic parameter is an array. -/
def parameterTypes (naming : Naming σ) (vars : TypeVariables) (ps : List Parameter) :
    Action σ LoadError (List String) :=
  ps.mapM fun p => do
    let type ← naming vars p.type
    return if p.isVariadic then type ++ "[]" else type

/-- The members that a type declares. -/
structure Members where
  fields : List Field := []
  methods : List Method := []
  constructors : List Constructor := []
  deriving DecidableEq, Repr

/-- All members of two groups. -/
def Members.append (a b : Members) : Members :=
  ⟨a.fields ++ b.fields, a.methods ++ b.methods, a.constructors ++ b.constructors⟩

/-- A declared member. The type parameters of a constructor are not known in its parameters. -/
def convertMember (naming : Naming σ) (t : SourceType) : Member → Action σ LoadError Members
  | .field keywords type declarators => do
    let base ← naming t.typeVariables type
    let modifiers := fieldModifiers t.header keywords
    return { fields := declarators.map fun d => ⟨d.name, base ++ Java.TypeName.brackets d.rank, modifiers⟩ }
  | .method keywords typeParameters returnType? name parameters => do
    let vars := Source.typeVariables typeParameters ++ t.typeVariables
    let parameters ← parameterTypes naming vars parameters
    let returnType ← match returnType? with
      | none => pure "void"
      | some type => naming vars type
    return { methods := [⟨name, parameters, returnType, methodModifiers t.header keywords⟩] }
  | .constructor keywords parameters => do
    return { constructors := [⟨← parameterTypes naming t.typeVariables parameters, .ofKeywords keywords⟩] }

/-- The declared members in their order. -/
def convertMembers (naming : Naming σ) (t : SourceType) : List Member → Action σ LoadError Members
  | [] => return {}
  | m :: ms => do
    let first ← convertMember naming t m
    return first.append (← convertMembers naming t ms)

/-- The constants of an enum. -/
def SourceType.constants (t : SourceType) : List Field :=
  t.header.constants.map fun name => ⟨name, t.name, .ofList [.publicAccess, .static, .final]⟩

/-- The methods that every enum has. -/
def SourceType.enumMethods (t : SourceType) : List Method :=
  let modifiers := Modifiers.ofList [.publicAccess, .static]
  [⟨"values", [], t.name ++ "[]", modifiers⟩, ⟨"valueOf", [Java.stringClass], t.name, modifiers⟩]

/-- The constructor of a type that declares none. -/
def SourceType.implicitConstructor (t : SourceType) : List Constructor :=
  match t.header.kind with
  | .interfaceType => []
  | .enumType => [⟨[], .ofList [.privateAccess]⟩]
  | .classType => [⟨[], .ofKeywords (t.keywords.filter (· ∈ ["public", "protected", "private"]))⟩]

/-- Adds the members that a type has without declaring them. -/
def SourceType.withImplicit (t : SourceType) (declared : Members) : Members :=
  { fields := t.constants ++ declared.fields
    methods := declared.methods ++ if t.header.kind = .enumType then t.enumMethods else []
    constructors := if declared.constructors.isEmpty then t.implicitConstructor else declared.constructors }

/-! ## Supertypes -/

/-- The names of the supertypes in their order. -/
def supertypeNames (naming : Naming σ) (t : SourceType) : Action σ LoadError (List String) := do
  let named (ts : List TypeUse) := ts.mapM (naming t.typeVariables)
  match t.header.kind with
  | .interfaceType => named t.header.extended
  | .enumType => return Java.enumClass :: (← named t.header.implemented)
  | .classType => do
    let superclass ← match t.header.extended with
      | [] => pure (if t.name = Java.objectClass then [] else [Java.objectClass])
      | ts => named ts
    return superclass ++ (← named t.header.implemented)

/-- The class with what its supertypes hand down. -/
def SourceType.withInherited (t : SourceType) (own : Members) (supertypes : List ClassInfo) : ClassInfo :=
  { name := t.name
    modifiers := .ofKeywords t.keywords
    isInterface := t.header.isInterface
    fields := Java.inheritFields own.fields supertypes
    methods := Java.inheritMethods own.methods supertypes
    constructors := own.constructors }

/-! ## Loading -/

/-- Runs a step of the other client. -/
def onFallback {ε α : Type} : Action σ ε α → Action (ClientState σ) ε α :=
  Action.onPart (·.fallback) fun fallback s => { s with fallback := fallback }

/-- Whether the other client can load a class. -/
def knows (fallback? : Option (Client σ)) (className : String) : Action (ClientState σ) LoadError Bool := do
  match fallback? with
  | none => return false
  | some fallback =>
    match ← Action.toExcept (onFallback (fallback.load className)) with
    | .ok _ => return true
    | .error e =>
      if e.isUnresolved then
        Action.report (.unknownToFallback className)
        return false
      else throw e

/-- The index, which is made the first time that it is needed. -/
def indexed (sources : Sources) : Action (ClientState σ) LoadError Index := do
  let s ← Action.state
  if !s.isIndexed then sources.events.forM Action.report
  match sources.result with
  | .error e => throw e
  | .ok index => do
    Action.setState { s with isIndexed := true }
    return index

/-- Loads a class and its supertypes before it. A supertype that is not indexed is left out when there is no other
client. A chain of supertypes that is longer than there are types comes back to a type in it, so it is enough to go down
`depth` steps. -/
def load (sources : Sources) (fallback? : Option (Client σ)) :
    Nat → String → Action (ClientState σ) LoadError ClassInfo
  | 0, _ => throw .cyclicInheritance
  | depth + 1, className => do
    match (← Action.state).cache.lookup className with
    | some info => return info
    | none =>
      let index ← indexed sources
      match index.find? className, fallback? with
      | none, none => throw (.classNotFound className)
      | none, some fallback => onFallback (fallback.load className)
      | some t, _ => do
        let naming := typeName index (knows fallback?) t
        let own := t.withImplicit (← convertMembers naming t t.header.members)
        let supertypes ← (← supertypeNames naming t).filterMapM fun supertype => do
          if fallback?.isNone ∧ !index.contains supertype then
            Action.report (.supertypeLeftOut supertype)
            return none
          else return some (← load sources fallback? depth supertype)
        Action.report (.compiled t.name own.fields.length own.methods.length own.constructors.length)
        let info := t.withInherited own supertypes
        let s ← Action.state
        Action.setState { s with cache := (className, info) :: s.cache }
        return info

/-- The names of the indexed types. -/
def Sources.names (sources : Sources) : List String :=
  match sources.result with
  | .ok index => index.names
  | .error _ => []

/-- The client that reports the classes of Java sources. -/
def client (sources : Sources) (fallback? : Option (Client σ)) : Client (ClientState σ) where
  load := load sources fallback? (sources.names.length + 1)
  known := sources.names ++ (fallback?.map (·.known)).getD []

end Typings.Source
