import BulletinPipeline.Path

namespace BulletinPipeline

-- Files and directories that a program can read and write. A write that fails gives `false`.
class Storage (m : Type → Type) where
  readText?         : Path → m (Option String)
  isDirectory       : Path → m Bool
  -- All files in a directory and below it, in the order of the names on the way to them.
  filesBelow        : Path → m (List Path)
  createDirectories : Path → m Bool
  append            : Path → String → m Bool
  pause             : Nat → m Unit

end BulletinPipeline
