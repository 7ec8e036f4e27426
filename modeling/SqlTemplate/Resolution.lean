import SqlTemplate.Binding

/-!
# Resolution

The arguments of a binding are matched with the parameters of a query, one for each placeholder.

Resolution has three phases. First every parameter gets its source: what is bound to it, or for a
name the answer of the first finder that has one. Then the classes of mismatches are looked through
in a fixed order, missing arguments first, and the first class with an offender is the failure.
Only then are the sources realized, each once, in the order in which the parameters first appear.
-/

namespace SqlTemplate

namespace Binding

/-! ## Sources -/

/-- The answer of the first finder that has one; `index` is the place of the first of the finders in
the order of registration. -/
def askFinders (site : BindingSite) (name : String) (index : Nat) :
    List Finder → StateM History (Option Argument)
  | [] => pure none
  | finder :: rest => do
    record (.asked index name)
    match finder.find? site name with
    | some argument => pure (some argument)
    | none => askFinders site name (index + 1) rest

/-- The source for a name: its own argument, or else that of a finder. -/
def lookUp (b : Binding) (site : BindingSite) (name : String) :
    StateM History (Option Argument) :=
  match b.named.get? name with
  | some argument => pure (some argument)
  | none => askFinders site name 0 b.finders

/-- The sources for different names. -/
def lookUpAll (b : Binding) (site : BindingSite) :
    List String → StateM History (List (String × Option Argument))
  | [] => pure []
  | name :: rest => do
    let source ← b.lookUp site name
    let others ← b.lookUpAll site rest
    pure ((name, source) :: others)

/-- The names without a source. -/
def missingNames (sources : List (String × Option Argument)) : List String :=
  sources.filterMap fun (name, source) => if source.isNone then some name else none

/-- The sources that there are, each under its name. -/
def foundSources (sources : List (String × Option Argument)) : List (String × Argument) :=
  sources.filterMap fun (name, source) => source.map (name, ·)

theorem missingNames_map (names : List String) (f : String → Option Argument) :
    missingNames (names.map fun name => (name, f name)) =
      names.filter fun name => (f name).isNone := by
  induction names with
  | nil => rfl
  | cons name names ih =>
    unfold missingNames at ih ⊢
    cases source : f name <;> simp_all

theorem foundSources_map (names : List String) (f : String → Option Argument) :
    foundSources (names.map fun name => (name, f name)) =
      names.filterMap fun name => (f name).map (name, ·) := by
  rw [foundSources, List.filterMap_map]
  rfl

/-! ## Mismatches -/

/-- The first of the classes with an offender. -/
def firstMismatch (classes : List (Option Mismatch)) : Option Mismatch :=
  classes.findSome? id

/-- A class of mismatched positions, if there are any. -/
def positionClass (make : List Nat → Mismatch) (positions : List Nat) : Option Mismatch :=
  if positions = [] then none else some (make positions)

/-- A class of mismatched names, if there are any. -/
def nameClass (make : List String → Mismatch) (names : List String) : Option Mismatch :=
  if names = [] then none else some (make names)

/-- How a binding disagrees with `count` positional parameters. -/
def positionalMismatch (b : Binding) (allowUnused : Bool) (count : Nat) : Option Mismatch :=
  let missing := (List.range count).filter fun i => !b.positional.contains i
  let unused := b.positional.keys.filter fun i => count ≤ i
  firstMismatch <|
    positionClass .missingPositional missing ::
      if allowUnused then []
      else [positionClass .unusedPositional unused, nameClass .unusedNamed b.named.keys]

/-- How a binding disagrees with named parameters, those in `missing` having no source. -/
def namedMismatch (b : Binding) (allowUnused : Bool) (names missing : List String) :
    Option Mismatch :=
  let unused := b.named.keys.filter fun name => !names.contains name
  firstMismatch <|
    nameClass .missingNamed missing ::
      if allowUnused then []
      else [nameClass .unusedNamed unused, positionClass .unusedPositional b.positional.keys]

/-! ## Realization -/

/-- Puts a failure of a recording computation under a context. -/
def inContext {α : Type} (text : String) (action : Recording α) : Recording α :=
  fun history =>
    match action history with
    | (result, history') => (withContext text result, history')

/-- The realized arguments, each under its key; the first failure ends it. -/
def realizeAll {κ : Type} (described : κ → String) :
    List (κ × Argument) → Recording (List (κ × Resolved))
  | [] => pure []
  | (key, argument) :: rest => do
    let resolved ← inContext ("Cannot compute the argument " ++ described key) argument.realize
    let others ← realizeAll described rest
    pure ((key, resolved) :: others)

/-- The arguments of `count` positional parameters. -/
def resolvePositional (b : Binding) (allowUnused : Bool) (count : Nat) :
    Recording (List Resolved) :=
  match b.positionalMismatch allowUnused count with
  | some mismatch => throw (.mismatch mismatch)
  | none => do
    let bound := b.positional.entries.filter fun (i, _) => i < count
    let realized ← realizeAll (fun i => "at position " ++ toString i) bound
    pure (realized.map Prod.snd)

/-- The arguments of named parameters, one for each placeholder. -/
def resolveNamed (b : Binding) (site : BindingSite) (allowUnused : Bool) (names : List String) :
    Recording (List Resolved) := do
  let sources ← b.lookUpAll site names.eraseDups
  match b.namedMismatch allowUnused names (missingNames sources) with
  | some mismatch => throw (.mismatch mismatch)
  | none => do
    let realized ←
      realizeAll (fun name => "for parameter `" ++ name ++ "`") (foundSources sources)
    pure (names.filterMap (realized.lookup ·))

/-- The arguments for the placeholders of parameters, the finders being shown the statement at
`site`. Unless `allowUnused`, everything that is bound has to be used, also what is bound in the
other way than the parameters are declared. -/
def resolve (b : Binding) (parameters : Parameters) (site : BindingSite) (allowUnused : Bool) :
    Recording (List Resolved) :=
  match parameters with
  | .positional count => b.resolvePositional allowUnused count
  | .named names => b.resolveNamed site allowUnused names

end Binding

end SqlTemplate
