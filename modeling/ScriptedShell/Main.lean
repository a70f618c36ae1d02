import ScriptedShell.CommandLine
import ScriptedShell.Script.Standard

/-!
The program: it collects what it runs on, runs it, and prints what comes out.
-/

open ScriptedShell

def readEnvironment : IO (List (String × String)) := do
  let bytes ← IO.FS.readBinFile "/proc/self/environ"
  let text := (String.fromUTF8? bytes).getD ""
  return (text.splitOn "\x00").filterMap splitAtEquals

def supplyFile (tree : FileTree) (path : String) : IO FileTree := do
  try
    let bytes ← IO.FS.readBinFile path
    return tree.supply path bytes
  catch _ => return tree

def readFiles (named : List String) : IO FileTree := do
  let entries ← (← IO.currentDir).readDir
  let names := entries.toList.map fun entry => entry.fileName
  (names ++ named).foldlM supplyFile FileTree.bare

partial def readToEnd (stream : IO.FS.Stream) (read : ByteArray) : IO ByteArray := do
  let bytes ← stream.read 65536
  if bytes.isEmpty then return read else readToEnd stream (read ++ bytes)

def main (arguments : List String) : IO UInt32 := do
  let environment ← readEnvironment
  let files ← readFiles (arguments.take 1)
  let input ← if arguments.isEmpty then readToEnd (← IO.getStdin) ByteArray.empty
    else pure ByteArray.empty
  let exit := CommandLine.run { arguments, environment, files, input }
  IO.print exit.output
  IO.eprint exit.diagnostics
  return exit.code.toUInt32
