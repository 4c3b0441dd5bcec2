import ClientGen.Console.Run

/-!
# What a run touches

A run sees only a part of the files that there are: the places on the way to its sources
([sourcePlaces]) and, as soon as those are known, the places on the way to the files that it would
write ([targetPlaces]). Of the environment it sees the variables of [environmentNames].
-/

namespace ClientGen.Console

open Files

/-- The places on the way of some segments, from a place on. -/
def placesAlong (start : Place) : List String → List Place
  | [] => [start]
  | s :: rest => start :: placesAlong (Path.stepTo start s) rest

/-- The places on the way of a path. -/
def placesOn (start : Place) (p : Path) : List Place :=
  placesAlong (if p.isAbsolute then [] else start) p.parts

/-- The paths that are read for a client. -/
def GenerateRequest.sources (q : GenerateRequest) : List String :=
  projectFileName :: q.input :: q.config.toList

/-- The places on the way to the sources of a run. -/
def sourcePlaces (start : Place) : Invocation → List Place
  | .run _ (.generate q) =>
    placesAlong [] start ++ q.sources.flatMap fun s => placesOn start (.ofText s)
  | _ => []

/-- The places on the way to the files that a run would write. -/
def targetPlaces (w : World) : Invocation → List Place
  | .run v (.generate q) =>
    match (planned w (w.reporter v) q).2 with
    | .error _ => []
    | .ok (g, target) => g.files.flatMap fun f =>
        placesAlong [] (targetOf (target.settle w.start) f)
  | _ => []

/-- Whether a run reads the standard input. -/
def readsInput : Invocation → Bool
  | .run _ (.generate q) => q.input = "-"
  | _ => false

/-- The options of the built-in backends. -/
def builtInOptions : List OptionDecl :=
  match Registry.builtIn.all with
  | .ok backends => backends.flatMap (·.options)
  | .error _ => []

/-- The environment variables that a run sees. -/
def environmentNames : List String :=
  ["NO_COLOR", "TERM"] ++ builtInOptions.map fun o => environmentName o.name

end ClientGen.Console
