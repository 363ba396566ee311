import Covenant.Command.Builtin
import Covenant.Command.Program

namespace Covenant.Command.Job

def loopLimit : Nat := 1000000
def functionLimit : Nat := 1000

/-! ## Marks -/

def marksOf (isQuoted : Bool) (s : String) : List Mark :=
  if isQuoted then .empty :: s.toList.map .quoted else s.toList.map .split

def listMarks (isQuoted : Bool) (texts : List String) : List Mark :=
  ((texts.map (marksOf isQuoted)).intersperse [.boundary]).flatten

def joinedParameters : Job String := do
  let separator := match (← separators).head? with
    | some c => c.toString
    | none => ""
  return Text.joined separator (← get).parameters

def parameterMarks (name : String) (isQuoted : Bool) : Job (List Mark × Option String) := do
  let parameters := (← get).parameters
  let whole ← joinedParameters
  match name with
  | "@" => return (listMarks isQuoted parameters, some whole)
  | "*" => return (if isQuoted then marksOf true whole else listMarks false parameters, some whole)
  | name =>
    let value ← parameter? name
    return (marksOf isQuoted (value.getD ""), value)

def withHome (w : Word) : Job Word := do
  match w with
  | .plain s :: rest =>
    if s.startsWith "~/" || (s == "~" && rest.isEmpty) then
      return .quoted ((← valueOf? "HOME").getD "~") :: .plain (String.ofList (s.toList.drop 1)) :: rest
    return w
  | w => return w

/-! ## Channels of redirections -/

def descriptorFiles : List (String × Nat) :=
  [("/dev/stdin", 0), ("/dev/stdout", 1), ("/dev/stderr", 2), ("/dev/fd/0", 0), ("/dev/fd/1", 1), ("/dev/fd/2", 2)]

def copyChannel (descriptor source : Nat) : Job Bool := do
  match ← channel? source with
  | some c =>
    setChannel descriptor c
    return true
  | none => return false

def openFile (descriptor : Nat) (mode : RedirectMode) (path : String) : Job Bool := do
  if let some source := descriptorFiles.lookup path then return ← copyChannel descriptor source
  let s ← get
  match s.disk.resolve s.directory path with
  | none => return false
  | some place =>
    let entry := s.disk.entry? place
    match mode, entry with
    | _, some .device => setChannel descriptor .nothing
    | .read, some (.file text) => setChannel descriptor (← newSource text.toList)
    | .read, some _ => setChannel descriptor (← newSource [])
    | .read, none => return false
    | _, some .directory => return false
    | .write, some _ =>
      if s.options.keepFiles then return false
      modify fun s => { s with disk := s.disk.put place (.file "") }
      setChannel descriptor (.file place)
    | .readWrite, some (.file text) => setChannel descriptor (← newSource text.toList)
    | _, some _ => setChannel descriptor (.file place)
    | _, none =>
      modify fun s => { s with disk := s.disk.put place (.file "") }
      setChannel descriptor (.file place)
    return true

/-! ## Finding commands -/

def searchPath : Job (List String) := return Text.splitText ':' ((← valueOf? "PATH").getD "")

def notFound : Nat := 127
def notExecutable : Nat := 126

def locate (name : String) : Job (Except Nat String) := do
  let s ← get
  if name.toList.contains '/' then
    match s.disk.find? s.directory name with
    | some .program => return .ok name
    | some _ => return .error notExecutable
    | none => return .error notFound
  else
    let candidates := (← searchPath).map fun directory => (if directory == "" then "." else directory) ++ "/" ++ name
    match candidates.find? fun path => s.disk.find? s.directory path == some .program with
    | some path => return .ok path
    | none => return .error notFound

def describe? (name : String) : Job (Option String) := do
  if reservedWords.contains name || specialNames.contains name || ordinaryNames.contains name ||
      ((← get).functions.lookup name).isSome then
    return some name
  return (← locate name).toOption

def describeAll (names : List String) : Job Nat := do
  let mut status := 0
  for name in names do
    if (← describe? name).isNone then
      let _ ← write 1 (bytesOf (name ++ ": not found\n"))
      status := notFound
  return status

def readers : List String := ["cat", "grep", "head", "wc"]

def runOther (name : String) (args : List String) : Job Nat := do
  let input ← if readers.contains name then readAll else pure []
  let s ← get
  match Program.run? name ⟨s.disk, s.directory, args, input⟩ with
  | none => return notFound
  | some result =>
    modify fun s => { s with disk := result.disk.getD s.disk }
    write 1 (bytesOf result.out) result.status

/-! ## Statuses -/

def conclude (tested : Bool) (status : Nat) : Job Nat := do
  modify fun s => { s with last := status }
  if status != 0 && !tested && (← get).options.stopOnFailure then throw (.exit status)
  return status

def ended : Except Stop Nat → Job Nat
  | .ok code => return code
  | .error (.exit code) => return code
  | .error .mistake => return 2
  | .error (.leaveFunction code) => return code
  | .error (.leaveLoop ..) => return 0
  | .error (.killed signal) => throw (.killed signal)

/-- Runs a turn of a loop, which has a status unless the loop ends; the answer says whether another one may follow. -/
def turn (job : Job (Option Nat)) : Job Bool := do
  match ← observe job with
  | .ok none => return false
  | .ok (some status) =>
    modify fun s => { s with turned := status }
    return true
  | .error (.leaveLoop 1 again) =>
    modify fun s => { s with turned := 0 }
    return again
  | .error (.leaveLoop (levels + 1) again) => throw (.leaveLoop levels again)
  | .error stop => throw stop

def looping (turns : Job Unit) : Job Nat := do
  let outside := (← get).loops
  modify fun s => { s with loops := outside + 1, turned := 0 }
  let result ← observe turns
  modify fun s => { s with loops := outside }
  match result with
  | .ok () => conclude true (← get).turned
  | .error stop => throw stop

def shellOptions : List String → (isText : Bool) → Job (Bool × List String)
  | [], isText => return (isText, [])
  | "--" :: rest, isText => return (isText, rest)
  | "-" :: rest, isText => return (isText, rest)
  | arg :: rest, isText =>
    match arg.toList with
    | sign :: letters => do
      if sign != '-' && sign != '+' then return (isText, arg :: rest)
      (letters.filter (· != 'c')).forM (setOption · (sign == '-'))
      shellOptions rest (isText || letters.contains 'c')
    | [] => return (isText, arg :: rest)

mutual
/-- The marks of a word. Plain characters inside a form are split like the value of a parameter. -/
def expand : Nat → (inForm : Bool) → Word → Job (List Mark)
  | 0, _, _ => mistake
  | fuel + 1, inForm, w => do
    let parts ← w.mapM fun
      | .plain s => pure (s.toList.map (if inForm then .split else .plain))
      | .quoted s => pure (.empty :: s.toList.map .quoted)
      | .parameter name form isQuoted => expandParameter fuel name form isQuoted
      | .output body isQuoted => do return marksOf isQuoted (← outputOf fuel body)
      | .arithmetic expression isQuoted => do
        let text ← textOfWord fuel expression
        let bindings := (← get).bindings
        match Arithmetic.evaluate (fun name => (bindings.lookup name).bind (·.value)) text with
        | none => mistake
        | some (n, assigned) =>
          assigned.reverse.forM fun (name, n) => assign name (toString n)
          return marksOf isQuoted (toString n)
    return parts.flatten
def textOfWord : Nat → Word → Job String
  | 0, _ => mistake
  | fuel + 1, w => do return Mark.text (← separators).head? (← expand fuel false (← withHome w))
def patternOf : Nat → Word → Job Glob
  | 0, _ => mistake
  | fuel + 1, w => do return Glob.ofGlyphs ((← expand fuel false w).filterMap Mark.glyph?)
def fields : Nat → Word → Job (List String)
  | 0, _ => mistake
  | fuel + 1, w => do
    let marks ← expand fuel false (← withHome w)
    let found := fieldsOf (← separators) marks none .start
    let s ← get
    if s.options.keepPatterns then return found.map textOf
    return found.flatMap (expandNames s.disk s.directory)
def expandParameter : Nat → String → Form → (isQuoted : Bool) → Job (List Mark)
  | 0, _, _, _ => mistake
  | fuel + 1, name, form, isQuoted => do
    let (marks, text) ← parameterMarks name isQuoted
    let has (emptyToo : Bool) : Bool := text.any fun s => !emptyToo || s != ""
    let unlessMissing (job : Job (List Mark)) : Job (List Mark) := do
      if text.isNone && (← get).options.stopOnUnset then mistake else job
    match form with
    | .bad => mistake
    | .value => unlessMissing (return marks)
    | .length => unlessMissing do
      return marksOf isQuoted (toString (text.getD "").utf8ByteSize)
    | .orElse emptyToo w => if has emptyToo then return marks else inPlace fuel isQuoted w
    | .ifPresent emptyToo w =>
      if has emptyToo then inPlace fuel isQuoted w else return if isQuoted then [.empty] else []
    | .orAssign emptyToo w =>
      if has emptyToo then return marks
      if !isName name then mistake
      let value ← textOfWord fuel w
      assign name value
      return marksOf isQuoted value
    | .orFail emptyToo w =>
      if has emptyToo then return marks
      let _ ← textOfWord fuel w
      mistake
    | .trimmed atEnd longest w => unlessMissing do
      let pattern ← patternOf fuel w
      let trimmed (s : String) : String := String.ofList (pattern.trim atEnd longest s.toList)
      if name == "@" || name == "*" then
        -- only the first parameter is trimmed, and nothing follows one that has lost its end
        match (← get).parameters with
        | [] => return marks
        | first :: rest =>
          let kept := trimmed first
          return listMarks isQuoted (kept :: if kept == "" || (atEnd && kept != first) then [] else rest)
      return marksOf isQuoted (trimmed (text.getD ""))
def inPlace : Nat → (isQuoted : Bool) → Word → Job (List Mark)
  | 0, _, _ => mistake
  | fuel + 1, isQuoted, w => do
    let marks ← expand fuel (!isQuoted) (← withHome w)
    return if isQuoted then .empty :: marks else marks
def outputOf : Nat → List Statement → Job String
  | 0, _ => mistake
  | fuel + 1, body => do
    let i ← newBuffer
    let code ← isolated fuel do
      setChannel 1 (.buffer i)
      runAll fuel false body
    modify fun s => { s with taken := some code }
    let written := decoded ((← get).buffers.getD i [])
    return String.ofList ((written.toList.filter (· != '\x00')).reverse.dropWhile (· == '\n')).reverse
def redirect : Nat → List Redirection → Job Bool
  | 0, _ => mistake
  | _, [] => return true
  | fuel + 1, r :: rest => do
    let done ← match r with
      | .text descriptor body => do
        setChannel descriptor (← newSource (← textOfWord fuel body).toList)
        pure true
      | .file descriptor .copy w => do
        let target ← textOfWord fuel w
        if target == "-" then
          closeChannel descriptor
          pure true
        else match target.toNat? with
          | some source => copyChannel descriptor source
          | none => mistake
      | .file descriptor mode w => do openFile descriptor mode (← textOfWord fuel w)
    if done then redirect fuel rest else return false
def redirected : Nat → List Redirection → (impossible job : Job Nat) → Job Nat
  | 0, _, _, _ => mistake
  | fuel + 1, rs, impossible, job => do
    let before := (← get).channels
    if ← redirect fuel rs then
      let result ← observe job
      modify fun s => { s with channels := before }
      match result with
      | .ok code => return code
      | .error stop => throw stop
    modify fun s => { s with channels := before }
    impossible
def runAll : Nat → (tested : Bool) → List Statement → Job Nat
  | 0, _, _ => mistake
  | _, _, [] => return 0
  | fuel + 1, tested, [c] => run fuel tested c
  | fuel + 1, tested, c :: rest => do
    let _ ← run fuel tested c
    runAll fuel tested rest
/-- Runs a command; `tested` says that its status is asked for. -/
def run : Nat → (tested : Bool) → Statement → Job Nat
  | 0, _, _ => mistake
  | fuel + 1, tested, c => do
    match c with
    | .simple assignments words redirections =>
      let status ← runSimple fuel tested assignments words redirections
      deliver fuel
      conclude tested status
    | .redirected body redirections =>
      let status ← redirected fuel redirections (return 2) (run fuel tested body)
      conclude true status
    | .group body => runAll fuel tested body
    | .subshell body => conclude tested (← isolated fuel (runAll fuel tested body))
    | .background body =>
      let code ← isolated fuel do
        setChannel 0 .nothing
        run fuel true body
      modify fun s => { s with background := (s.number + 100 + s.background.length, code) :: s.background }
      conclude true 0
    | .negated body =>
      let status ← run fuel true body
      conclude true (if status == 0 then 1 else 0)
    | .both first second =>
      let status ← run fuel true first
      if status == 0 then run fuel tested second else return status
    | .either first second =>
      let status ← run fuel true first
      if status == 0 then return status else run fuel tested second
    | .pipeline stages => conclude tested (← runStages fuel stages)
    | .choice condition yes no =>
      if (← runAll fuel true condition) == 0 then runAll fuel tested yes
      else if no.isEmpty then conclude true 0
      else runAll fuel tested no
    | .loop wanted condition body =>
      looping (repeatWhile loopLimit (turn do
        if ((← runAll fuel true condition) == 0) != wanted then return none
        return some (← runAll fuel tested body)))
    | .each name words body =>
      let values ← match words with
        | some words => do pure (← words.mapM (fields fuel)).flatten
        | none => pure (← get).parameters
      looping (runEach fuel tested name body values)
    | .select w branches =>
      let text ← textOfWord fuel w
      runBranches fuel tested text.toList branches
    | .function name body =>
      modify fun s => { s with functions := (name, body) :: s.functions.filter (·.1 != name) }
      conclude true 0
def runEach : Nat → (tested : Bool) → String → List Statement → List String → Job Unit
  | 0, _, _, _, _ => mistake
  | _, _, _, _, [] => return
  | fuel + 1, tested, name, body, value :: rest => do
    let more ← turn do
      assign name value
      return some (← runAll fuel tested body)
    if more then runEach fuel tested name body rest
def runBranches : Nat → (tested : Bool) → List Char → List (List Word × List Statement) → Job Nat
  | 0, _, _, _ => mistake
  | _, _, _, [] => conclude true 0
  | fuel + 1, tested, text, (patterns, body) :: rest => do
    if ← matchesAny fuel text patterns then
      if body.isEmpty then conclude true 0 else runAll fuel tested body
    else runBranches fuel tested text rest
def matchesAny : Nat → List Char → List Word → Job Bool
  | 0, _, _ => mistake
  | _, _, [] => return false
  | fuel + 1, text, w :: rest => do
    if (← patternOf fuel w).fits text then return true else matchesAny fuel text rest
def runStages : Nat → List Statement → Job Nat
  | 0, _ => mistake
  | _, [] => return 0
  | fuel + 1, [c] => isolated fuel (run fuel true c)
  | fuel + 1, c :: rest => do
    let i ← newBuffer
    let before := (← get).channels
    let _ ← isolated fuel do
      setChannel 1 (.buffer i)
      run fuel true c
    setChannel 0 (← newSource (decoded ((← get).buffers.getD i [])).toList)
    let status ← runStages fuel rest
    modify fun s => { s with channels := before }
    return status
def isolated : Nat → Job Nat → Job Nat
  | 0, _ => mistake
  | fuel + 1, job => do
    let before ← get
    modify fun s => { s with traps := s.traps.filter (·.2 == ""), background := [] }
    let code ← finish fuel (← observe job)
    modify fun s => { before with disk := s.disk, buffers := s.buffers, sources := s.sources }
    return code % 256
def finish : Nat → Except Stop Nat → Job Nat
  | 0, _ => mistake
  | fuel + 1, result => do
    let code ← ended result
    match (← get).traps.lookup "EXIT" with
    | none => return code
    | some action =>
      modify fun s => { s with traps := s.traps.filter (·.1 != "EXIT"), last := code }
      match ← observe (runText fuel false action.toList 0) with
      | .error (.exit other) => return other
      | .error (.killed signal) => throw (.killed signal)
      | _ => return code
def deliver : Nat → Job Unit
  | 0 => mistake
  | fuel + 1 => do
    let s ← get
    if !s.pending.isEmpty then
      modify fun s => { s with pending := [] }
      for name in s.pending do
        let _ ← runText fuel true ((s.traps.lookup name).getD "").toList 0
        modify fun after => { after with last := s.last }
def runText : Nat → (tested : Bool) → List Char → (status : Nat) → Job Nat
  | 0, _, _, _ => mistake
  | fuel + 1, tested, text, status =>
    match nextLine text with
    | .done => return status
    | .mistake => mistake
    | .line commands rest => do
      if (← get).options.readOnly then runText fuel tested rest status
      else runText fuel tested rest (← runAll fuel tested commands)
def runSimple : Nat → (tested : Bool) → List (String × Word) → List Word → List Redirection → Job Nat
  | 0, _, _, _, _ => mistake
  | fuel + 1, tested, assignments, words, redirections => do
    modify fun s => { s with taken := none }
    match (← words.mapM (fields fuel)).flatten with
    | [] => redirected fuel redirections (return 2) do
      assignAll fuel assignments
      return (← get).taken.getD 0
    | name :: args =>
      if specialNames.contains name then runSpecial fuel tested name args assignments redirections
      else redirected fuel redirections (return 2) do
        let before ← assignments.mapM fun (name, _) => do return (name, ← stored? name)
        assignAll fuel assignments
        for (name, _) in assignments do
          put name { (← stored? name).getD {} with isExported := true }
        let result ← observe (runNamed fuel tested name args)
        before.reverse.forM fun (name, v) => restore name v
        match result with
        | .ok code => return code
        | .error stop => throw stop
def assignAll : Nat → List (String × Word) → Job Unit
  | 0, _ => mistake
  | _, [] => return
  | fuel + 1, (name, w) :: rest => do
    assign name (← textOfWord fuel w)
    assignAll fuel rest
def runSpecial : Nat → (tested : Bool) → String → List String → List (String × Word) → List Redirection → Job Nat
  | 0, _, _, _, _, _ => mistake
  | fuel + 1, tested, name, args, assignments, redirections => do
    if name == "exec" then
      if !(← redirect fuel redirections) then mistake
      assignAll fuel assignments
      match args with
      | [] => return 0
      | program :: args => throw (.exit (← runProgram fuel program args))
    else redirected fuel redirections mistake do
      assignAll fuel assignments
      special fuel tested name args
def special : Nat → (tested : Bool) → String → List String → Job Nat
  | 0, _, _, _ => mistake
  | fuel + 1, tested, name, args => do
    match name with
    | "eval" => runText fuel tested (Text.joined " " args).toList 0
    | "exec" => match args with
      | [] => return 0
      | program :: args => throw (.exit (← runProgram fuel program args))
    | "." => match args with
      | [] => return 0
      | path :: _ =>
        let s ← get
        if !path.toList.contains '/' then mistake
        match s.disk.find? s.directory path with
        | some (.file text) =>
          match ← observe (runText fuel false text.toList 0) with
          | .ok code => return code
          | .error (.leaveFunction code) => return code
          | .error stop => throw stop
        | some _ => return 0
        | none => mistake
    | name => (builtin? name args).getD mistake
def runNamed : Nat → (tested : Bool) → String → List String → Job Nat
  | 0, _, _, _ => mistake
  | fuel + 1, tested, name, args => do
    match (← get).functions.lookup name with
    | some body => callFunction fuel tested body args
    | none => runOrdinary fuel tested name args
def runOrdinary : Nat → (tested : Bool) → String → List String → Job Nat
  | 0, _, _, _ => mistake
  | fuel + 1, tested, name, args => do
    let forgiving (job : Job Nat) : Job Nat := do
      match ← observe job with
      | .ok code => return code
      | .error .mistake => return 2
      | .error stop => throw stop
    match name with
    | "type" => describeAll args
    | "hash" =>
      let found ← (args.filter (· != "-r")).mapM locate
      return if found.all (·.toOption.isSome) then 0 else 1
    | "command" => match args with
      | "-v" :: names | "-V" :: names => match names with
        | [] => return 0
        | name :: _ => match ← describe? name with
          | some text => write 1 (bytesOf (text ++ "\n"))
          | none => return notFound
      | args => match args.dropWhile fun a => a == "-p" || a == "--" with
        | [] => return 0
        | name :: args =>
          if specialNames.contains name then forgiving (special fuel tested name args)
          else runOrdinary fuel tested name args
    | name =>
      match builtin? name args with
      | some job => forgiving job
      | none => runProgram fuel name args
def callFunction : Nat → (tested : Bool) → Statement → List String → Job Nat
  | 0, _, _, _ => mistake
  | fuel + 1, tested, body, args => do
    let before ← get
    if before.hidden.length ≥ functionLimit then mistake
    modify fun s => { s with parameters := args, loops := 0, hidden := [] :: s.hidden }
    let result ← observe (run fuel tested body)
    let hiddenHere := (← get).hidden.headD []
    hiddenHere.forM fun (name, v) => restore name v
    modify fun s => { s with parameters := before.parameters, loops := before.loops, hidden := before.hidden }
    match result with
    | .ok code => return code
    | .error (.leaveFunction code) => return code
    | .error stop => throw stop
def runProgram : Nat → String → List String → Job Nat
  | 0, _, _ => mistake
  | fuel + 1, name, args => do
    match ← locate name with
    | .error code => return code
    | .ok path => match Program.basename path "" with
      | "sh" | "dash" => startShell fuel args
      | "env" => startWith fuel args
      | program => runOther program args
def startWith : Nat → List String → Job Nat
  | 0, _ => mistake
  | _, [] => return 0
  | fuel + 1, arg :: rest => do
    let within (change job : Job Unit) (next : Job Nat) : Job Nat := do
      let before := (← get).bindings
      change
      job
      let result ← observe next
      modify fun s => { s with bindings := before }
      match result with
      | .ok code => return code
      | .error stop => throw stop
    match arg, rest with
    | "-i", rest | "-", rest =>
      within (modify fun s => { s with bindings := s.bindings.filter (·.1 == "PATH") }) (pure ()) (startWith fuel rest)
    | "-u", name :: rest => within (drop name) (pure ()) (startWith fuel rest)
    | "--", rest => startWith fuel rest
    | arg, rest =>
      match declaration arg with
      | (name, some value) => within (put name ⟨some value, true, false⟩) (pure ()) (startWith fuel rest)
      | _ => if arg.startsWith "-" then return 125 else runProgram fuel arg rest
def startShell : Nat → List String → Job Nat
  | 0, _ => mistake
  | fuel + 1, args => do
    let before ← get
    set { disk := before.disk, directory := before.directory, number := before.number + 1,
          bindings := before.bindings.filter (·.2.isExported), traps := before.traps.filter (·.2 == ""),
          channels := before.channels, buffers := before.buffers, sources := before.sources : Shell }
    let result ← observe (finish fuel (← observe (shell fuel args)))
    modify fun s => { before with disk := s.disk, buffers := s.buffers, sources := s.sources }
    match result with
    | .error (.killed signal) => return 128 + signal
    | result => return (← ended result) % 256
def shell : Nat → List String → Job Nat
  | 0, _ => mistake
  | fuel + 1, args => do
    match ← shellOptions args false with
    | (true, []) => mistake
    | (true, text :: parameters) =>
      modify fun s => { s with name := parameters.headD "sh", parameters := parameters.drop 1 }
      runText fuel false text.toList 0
    | (false, []) => runText fuel false (← readAll) 0
    | (false, path :: parameters) =>
      modify fun s => { s with name := path, parameters := parameters }
      let s ← get
      match s.disk.find? s.directory path with
      | some (.file text) => runText fuel false text.toList 0
      | some _ => return 0
      | none => mistake
end

end Covenant.Command.Job
