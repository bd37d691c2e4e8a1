namespace BulletinPipeline

abbrev twoTo (n : Nat) : Nat :=
  Nat.pow 2 n

abbrev tenTo (n : Nat) : Nat :=
  Nat.pow 10 n

end BulletinPipeline
