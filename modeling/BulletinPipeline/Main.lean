import BulletinPipeline.Command.Basic

namespace BulletinPipeline

namespace SystemStorage

def attempt (act : IO Unit) : IO Bool :=
  tryCatch (do act; return true) fun _ => return false

partial def filesBelow (p : Path) : IO (List Path) := do
  let dir := (← IO.currentDir) / p
  let names := (← dir.readDir).toList.map (·.fileName)
  let below ← (names.mergeSort fun a b => decide (a ≤ b)).mapM fun name => do
    let path := Path.join p name
    if ← (dir / name).isDir then filesBelow path else return [path]
  return below.flatten

end SystemStorage

open SystemStorage in
instance : Storage IO where
  readText? p         := tryCatch (do return some (← IO.FS.readFile ((← IO.currentDir) / p))) fun _ =>
    return none
  isDirectory p       := do ((← IO.currentDir) / p).isDir
  filesBelow p        := filesBelow p
  createDirectories p := attempt do IO.FS.createDirAll ((← IO.currentDir) / p)
  append p text       := attempt do
    let file ← IO.FS.Handle.mk ((← IO.currentDir) / p) .append
    file.putStr text
  pause millis        := IO.sleep millis.toUInt32

end BulletinPipeline

open BulletinPipeline in
def main (words : List String) : IO UInt32 := do
  let outcome ← (Outcome.ofWords words : IO Outcome)
  for note in outcome.notes do
    IO.eprintln ("INFO " ++ note)
  IO.print outcome.output
  if let some message := outcome.error then
    IO.eprintln ("Error: " ++ message)
  if outcome.code = 2 then
    IO.eprint Outcome.usage
  return outcome.code.toUInt32
