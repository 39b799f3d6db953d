import Scriptlet.Host.Conversion

/-
  Host functions.
  What a host function does is an action: it ends with a value or a failure, or asks something of
  the interpreter and goes on with the answer. A typed function converts its arguments from left to
  right before it acts, so its body is reached only with all of them.
-/

namespace Scriptlet

/-- What an environment is known by. The root has the number 0. -/
inductive ScopeId where
  /-- The root, or one that was made under it: they are numbered in the order in which they are
  made. -/
  | made (n : Nat)
  /-- The environment of a call under way, with the environments of `n` other ones below it. -/
  | frame (n : Nat)
deriving DecidableEq

/-- What is recorded while scripts run. -/
inductive Entry where
  /-- A printed line. -/
  | line (text : String)
  /-- A remark of a host function. -/
  | note (text : String)
  /-- How something that a print handler executed ended. -/
  | outcome (result : Except Failure Value)

/-- What an action may ask of the interpreter. -/
inductive HostRequest where
  /-- Record an entry. -/
  | record (entry : Entry)
  /-- Hand a line to the print handler. -/
  | print (line : String)
  /-- Call a function by name. -/
  | call (scope : ScopeId) (name : String) (args : List Value)
  /-- Execute a source. -/
  | execute (scope : ScopeId) (source : String)
  /-- Bind a variable. -/
  | define (scope : ScopeId) (name : String) (value : Value)
  /-- Read a variable, as code at the span would. -/
  | read (scope : ScopeId) (name : String) (span : Span)
  /-- List the own variables of an environment. -/
  | bindings (scope : ScopeId)
  /-- List the names in the table of functions. -/
  | functions
  /-- Make an environment. -/
  | child (scope : ScopeId)
  /-- Register a function. -/
  | register (scope : ScopeId) (name : String) (slots : Option (List Slot))
  /-- Set the print handler. It is in use while it handles a line; then this is refused. -/
  | onPrint

namespace HostRequest

/-- What the code is given that comes with a request: the arguments of a function that is to be
registered, a line that is to be handled. No other request comes with code. -/
abbrev Given : HostRequest → Type
  | .register _ _ _ => List Value
  | .onPrint => String
  | _ => Empty

/-- What a request is answered with. -/
abbrev Answer : HostRequest → Type
  | .bindings _ => List (String × Value)
  | .functions => List String
  | .child _ => ScopeId
  | .onPrint => Bool
  | _ => Except Failure Value

end HostRequest

/-- What a function of the host or a print handler does: it ends, or asks for something, which may
come with code, and goes on with the answer. -/
inductive HostAction where
  | done (result : Except Failure Value)
  | ask (request : HostRequest) (code : request.Given → HostAction)
    (resume : request.Answer → HostAction)

namespace HostAction

/-- Ends with a value. -/
def value (v : Value) : HostAction :=
  .done (.ok v)

/-- Ends with a failure. -/
def fail (e : Failure) : HostAction :=
  .done (.error e)

/-- Records an entry and goes on. -/
def record (entry : Entry) (next : HostAction) : HostAction :=
  .ask (.record entry) nofun fun _ => next

end HostAction

/-- A function of the host. `slots` are the kinds of its parameters; without them it takes any
number of arguments. -/
structure HostFunction where
  name : String
  slots : Option (List Slot)
  body : List Value → HostAction

/-- The arguments of a function with parameters of the given types. -/
abbrev Arguments : List ParamType → Type
  | [] => Unit
  | type :: types => type.Carrier × Arguments types

namespace HostFunction

/-- How many arguments the function takes; none if any number. -/
def arity (f : HostFunction) : Option Nat :=
  f.slots.map List.length

/-- What a call with the given arguments does; a wrong count of them is refused. -/
def invoke (f : HostFunction) (args : List Value) : HostAction :=
  match f.arity with
  | some count =>
    if args.length = count then f.body args
    else .fail (Fault.argumentCount f.name count args.length).bare
  | none => f.body args

/-- The remark on an argument that does not convert. -/
def conversionNote (name : String) (place : Nat) : String :=
  s!"while converting argument {place} of `{name}`"

/-- The converted arguments, or the failure of the first one that is missing or does not convert;
`place` is the place of the first argument. -/
def convertArguments (name : String) (place : Nat) :
    (types : List ParamType) → List Value → Except Failure (Arguments types)
  | [], _ => .ok ()
  | _ :: _, [] => .error (Fault.missingArgument name place).bare
  | type :: types, v :: vs =>
    match v.convert type with
    | .error e => .error (e.withNote (conversionNote name place))
    | .ok x => (convertArguments name (place + 1) types vs).map fun xs => (x, xs)

/-- A function with parameters of the given types. -/
def typed (name : String) (types : List ParamType) (body : Arguments types → HostAction) :
    HostFunction where
  name := name
  slots := some (types.map ParamType.slot)
  body args :=
    match convertArguments name 1 types args with
    | .error e => .fail e
    | .ok xs => body xs

/-- A function that takes any number of arguments as they are. -/
def variadic (name : String) (body : List Value → HostAction) : HostFunction where
  name := name
  slots := none
  body := body

/-- Prints the texts of its arguments, one after the other, as a line. -/
def print : HostFunction :=
  variadic "print" fun args =>
    .ask (.print (String.join (args.map Value.text))) nofun fun answer =>
      .done (answer.map fun _ => .void)

end HostFunction

end Scriptlet
