import Typings.Client
import Typings.Conversion.Module

/-!
# Walking the references

Modules are generated depth first: a class is opened, the classes it refers to are generated in the order of reference,
and then its own module is finished. Opened classes wait on a stack of frames, so that the classes still to come can be
seen at any time; a walk that fails leaves its frames on the stack.
-/

namespace Typings

/-- The module of a class. -/
structure Module where
  name : String
  contents : String
  deriving DecidableEq, Repr

/-- A module that waits for some of the classes it refers to. -/
structure Frame where
  module : Module
  imports : List String
  deriving DecidableEq, Repr

/-- What the walks of one run share: the classes opened so far, and the waiting modules, innermost first. -/
structure Context where
  visited : List String := []
  pending : List Frame := []
  deriving DecidableEq, Repr

/-- The classes that waiting modules refer to, in the order in which they will be tried. -/
def pendingImports (frames : List Frame) : List String :=
  frames.flatMap (·.imports)

namespace Context

/-- Marks a class as visited; tells whether it was not yet. -/
def enter (className : String) (c : Context) : Bool × Context :=
  if className ∈ c.visited then (false, c) else (true, { c with visited := className :: c.visited })

end Context

/-- Why modules cannot be generated. -/
inductive GenerationError
  | load (cause : LoadError)
  | unsupported (cause : Conversion.UnsupportedType)
  deriving DecidableEq, Repr

namespace GenerationError

/-- The text of the error, where it has one. -/
def message? : GenerationError → Option String
  | load cause => cause.message?
  | unsupported cause => some cause.message

end GenerationError

/-- What a conversion reports. -/
def Conversion.Converted.events (c : Conversion.Converted) : List Event :=
  (if c.info.isAbstract then []
    else [.constructorsConverted c.info.name (publicSignatures c.info.constructors).length]) ++
    [.importsCollected c.info.name (c.references.imports c.info.name).length,
      .converted c.info.name c.members.length c.references.unresolved.length]

namespace Traversal

variable {σ : Type}

/-- Loads and converts a class. Classes in `visited`, which has the class itself, count as resolved. -/
def openClass (client : Client σ) (visited pending : List String) (className : String) :
    Action σ GenerationError Frame := do
  Action.report (.opened className pending)
  let info ← (client.load className).withError .load
  match Conversion.convertClass info visited with
  | .error e => throw (.unsupported e)
  | .ok c => do
    c.events.forM Action.report
    return ⟨⟨c.info.name, c.contents⟩, c.references.unresolved⟩

/-- A stack after its finished modules have been taken off. -/
structure Settled where
  finished : List Module
  frames : List Frame
  next? : Option String

/-- Takes the modules off the stack that no longer wait for a class, up to the first class that is not visited. -/
def settle (visited : List String) : List Frame → Settled
  | [] => ⟨[], [], none⟩
  | f :: fs =>
    match f.imports.dropWhile (· ∈ visited) with
    | [] =>
      let rest := settle visited fs
      { rest with finished := f.module :: rest.finished }
    | next :: imports => ⟨[], { f with imports := imports } :: fs, some next⟩

theorem not_mem_of_settle_next {visited : List String} {frames : List Frame} {next : String}
    (h : (settle visited frames).next? = some next) : next ∉ visited := by
  induction frames with
  | nil => simp [settle] at h
  | cons f fs ih =>
    rw [settle] at h
    split at h
    · exact ih h
    · rename_i n imports hd
      have hn := List.head?_dropWhile_not (fun x => decide (x ∈ visited)) f.imports
      simp only [hd, List.head?_cons] at hn
      simp only [Option.some.injEq] at h
      simpa [← h] using hn

/-- The number of classes the client knows that are not visited. -/
def unvisited (known visited : List String) : Nat :=
  (known.filter (· ∉ visited)).length

theorem unvisited_cons_lt {known visited : List String} {className : String} (hk : className ∈ known)
    (hv : className ∉ visited) : unvisited known (className :: visited) < unvisited known visited := by
  unfold unvisited
  have hsub : known.filter (· ∉ className :: visited) =
      (known.filter (· ∉ visited)).filter (· ≠ className) := by
    rw [List.filter_filter]
    congr 1
    funext x
    simp [List.mem_cons, not_or]
  rw [hsub]
  refine Nat.lt_of_le_of_ne (List.length_filter_le _ _) fun h => ?_
  have := List.length_filter_eq_length_iff.1 h className (by simp [hk, hv])
  simp at this

/-- How a walk ends. -/
structure Outcome (σ : Type) where
  result : Except GenerationError (List Module)
  context : Context
  session : Session σ

/-- Goes on with a stack of frames until it is empty, above the frames `below` of earlier walks. A class outside those
that the client knows counts as not found. -/
def walk (client : Client σ) (below : List Frame) (visited : List String) (frames : List Frame) (s : Session σ) :
    Outcome σ :=
  let settled := settle visited frames
  match _h : settled.next? with
  | none => ⟨.ok settled.finished, ⟨visited, below⟩, s⟩
  | some next =>
    match openClass client (next :: visited) (pendingImports (settled.frames ++ below)) next s with
    | .error e s => ⟨.error e, ⟨next :: visited, settled.frames ++ below⟩, s⟩
    | .ok frame s =>
      if _k : next ∈ client.known then
        let rest := walk client below (next :: visited) (frame :: settled.frames) s
        { rest with result := rest.result.map (settled.finished ++ ·) }
      else ⟨.error (.load (.classNotFound next)), ⟨next :: visited, settled.frames ++ below⟩, s⟩
termination_by unvisited client.known visited
decreasing_by exact unvisited_cons_lt _k (not_mem_of_settle_next _h)

/-- Generates the modules of a class and of everything it refers to, except those of classes that were visited
before. -/
def generateFrom (client : Client σ) (className : String) (c : Context) (s : Session σ) : Outcome σ :=
  if className ∈ c.visited then ⟨.ok [], c, s⟩
  else
    let visited := className :: c.visited
    match openClass client visited (pendingImports c.pending) className s with
    | .error e s => ⟨.error e, ⟨visited, c.pending⟩, s⟩
    | .ok frame s => walk client c.pending visited [frame] s

end Traversal

/-- A client's state and the context that the walks on it share. -/
structure Traversal (σ : Type) where
  client : σ
  context : Context := {}

namespace Traversal

variable {σ : Type}

/-- Generates the modules of a class and of everything it refers to. Modules come after those they refer to, cycles
apart. -/
def generate (client : Client σ) (className : String) : Action (Traversal σ) GenerationError (List Module) := fun s =>
  let isNew := className ∉ s.state.context.visited
  let o := generateFrom client className s.state.context { state := s.state.client, journal := s.journal }
  let state : Traversal σ := ⟨o.session.state, o.context⟩
  match o.result with
  | .error e => .error e { state := state, journal := o.session.journal }
  | .ok modules =>
    let journal := if isNew then o.session.journal.push (.generated className modules.length) else o.session.journal
    .ok modules { state := state, journal := journal }

/-- Generates the modules of several classes, one after the other. -/
def generateAll (client : Client σ) (classNames : List String) :
    Action (Traversal σ) GenerationError (List Module) := do
  return (← classNames.mapM (generate client)).flatten

end Traversal

end Typings
