namespace BulletinPipeline

structure Bulletin where
  kind    : String
  station : String
  issued  : String
  text    : String
  source  : String
  deriving DecidableEq, Repr

end BulletinPipeline
