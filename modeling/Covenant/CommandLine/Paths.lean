import Covenant.CommandLine.Run

namespace Covenant.CommandLine

def sourcePaths (o : Options) (settings : Mapping) : List String :=
  match (subjectOf o settings).bind Subject.sourceFile with
  | .ok p => [p.text]
  | .error _ => []

def modelPaths (o : Options) (settings : Mapping) : List String :=
  match Choice.options settings with
  | .error _ => []
  | .ok options => match (Choice.boundedOf options).modelSuffix with
    | .str suffix =>
      (o.className :: o.needed.flatMap splitClasses).map fun name => (classFile o.path name suffix).text
    | _ => []

def reportPaths (o : Options) (settings : Mapping) : List String :=
  match reportPath o settings with
  | .ok (.str path) =>
    let p := Path.parse path
    [({ p with parts := p.parts.dropLast } : Path).text, path]
  | _ => []

def paths (o : Options) (settings : Mapping) : List String :=
  sourcePaths o settings ++ modelPaths o settings ++ reportPaths o settings

end Covenant.CommandLine
