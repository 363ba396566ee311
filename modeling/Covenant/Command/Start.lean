import Covenant.Command.Execute
import Covenant.Text.Quoted
import Covenant.Text.Utf8

namespace Covenant.Command

structure Outcome where
  succeeded : Bool
  files : FileTree
deriving Repr, DecidableEq

def environment : List (String × Variable) :=
  [("PATH", "/usr/local/bin:/usr/bin:/bin"), ("HOME", "/root"), ("PWD", Disk.pathText Disk.home)].map
    fun (name, value) => (name, { value := some value, isExported := true })

def processNumber : Nat := 4242

def commandDepth : Nat := 20000

def undecodable (u : Text.Undecodable) : Fault :=
  let place := match u.bytes with
    | [b] => "byte 0x" ++ Text.hex 2 b.toNat ++ " in position " ++ toString u.start
    | bytes => s!"bytes in position {u.start}-{u.start + bytes.length - 1}"
  ⟨.undecodable, "'utf-8' codec can't decode " ++ place ++ ": " ++ u.reason, []⟩

def initial (files : FileTree) (scratch : String) : Shell where
  disk := .ofTree files scratch
  number := processNumber
  bindings := environment

def outcome (result : Except Stop Nat) (s : Shell) : Except Fault Outcome := do
  for bytes in s.buffers.toList.take 2 do
    if let some u := Text.undecodable? bytes then throw (undecodable u)
  let succeeded := match result with
    | .ok 0 => true
    | _ => false
  return ⟨succeeded, s.disk.tree⟩

/-- Starts a program with its arguments. There is no outcome if there is no such program; what is found under a path
but is no program may not be started. -/
def start (files : FileTree) (scratch command : String) (args : List String) : Except Fault (Option Outcome) :=
  if (command :: args).any FileTree.hasNull then .error FileTree.nullByte
  else
    let s := initial files scratch
    match Job.locate command s with
    | (.ok (.ok _), s) =>
      let (result, s) := Job.runProgram commandDepth command args s
      (outcome result s).map some
    | _ =>
      if command == "" then .error (.permissionDenied command)
      else if !command.toList.contains '/' then .ok none
      else match files.find command with
        | .ok (.file ..) => .error (.permissionDenied command)
        | .ok .directory => .error (.permissionDenied command)
        | .error .notDirectory => .error (.notADirectory command)
        | .error .nameTooLong => .error (.nameTooLong command)
        | _ => .ok none

end Covenant.Command
