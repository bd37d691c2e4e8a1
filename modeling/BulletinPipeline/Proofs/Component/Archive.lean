import BulletinPipeline.Proofs.Bulletin.Reader
import BulletinPipeline.Proofs.Catalog
import BulletinPipeline.Proofs.Path

namespace BulletinPipeline

-- What the name of the file for a bulletin begins with.
def Bulletin.stem (b : Bulletin) : String :=
  b.kind ++ "_" ++ b.station ++ "."

namespace Bulletin.Proper

variable {b : Bulletin}

theorem slash_not_mem (h : b.Proper) : '/' ∉ b.stem.toList := by
  have hk : '/' ∉ b.kind.toList := by
    have hs : ∀ k ∈ ["METAR", "SPECI", "TAF"], '/' ∉ k.toList := by decide
    exact hs _ h.kind
  have hs : '/' ∉ b.station.toList := by
    intro hm
    have hu := List.all_eq_true.mp h.station _ hm
    contradiction
  simp [stem, hk, hs]

end Bulletin.Proper

theorem Bulletin.mem_stem (b : Bulletin) (s : String) : '_' ∈ (b.stem ++ s).toList := by
  simp [stem]

theorem Bulletin.stem_ne (b : Bulletin) : b.stem ≠ "" := fun h => by
  have hm := b.mem_stem ""
  simp [h] at hm

-- The directory and the extension do not lead out of where they start: neither the directory nor what is behind a
-- slash of the extension goes above it.
structure Confined (directory extension : String) : Prop where
  relative : Path.isAbsolute directory = false
  below    : ∃ n m, Path.depth? 0 (Path.parts directory) = some n
    ∧ Path.depth? (n + 1) (Path.deeper extension) = some (m + 1)

namespace Archive

open BulletinPipeline.Path

variable {root : Path} {directory extension : String} {b : Bulletin}

theorem pathFor_eq (a : Archive) (b : Bulletin) : a.pathFor b = a.directory.join (b.stem ++ a.extension) :=
  rfl

theorem isAbsolute_pathFor (hb : b.Proper) (a : Archive) : (a.pathFor b).isAbsolute = a.directory.isAbsolute :=
  isAbsolute_join (isAbsolute_append b.stem_ne hb.slash_not_mem a.extension)

-- The name of the file stands behind the directory, and is no dots.
theorem exists_parts_pathFor (hb : b.Proper) (hd : Path.isAbsolute directory = false) (extension : String) :
    ∃ name : String, (name ≠ "." ∧ name ≠ "..")
      ∧ ∀ root : Path, (pathFor ⟨root.join directory, extension⟩ b).parts
        = root.parts ++ (Path.parts directory ++ name :: deeper extension) := by
  obtain ⟨first, hp⟩ := exists_parts_append b.stem_ne hb.slash_not_mem extension
  refine ⟨b.stem ++ first, ⟨fun h => ?_, fun h => ?_⟩, fun root => ?_⟩
  · simpa [h] using b.mem_stem first
  · simpa [h] using b.mem_stem first
  · rw [pathFor_eq, parts_join (isAbsolute_append b.stem_ne hb.slash_not_mem extension), parts_join hd, hp,
      List.append_assoc]

theorem confined_iff (hd : Path.isAbsolute directory = false) {name : String} (hn : name ≠ "." ∧ name ≠ "..") :
    Confined directory extension
      ↔ ∃ n, depth? 0 (Path.parts directory ++ name :: deeper extension) = some (n + 1) := by
  simp only [depth?_append, Option.bind_eq_some_iff, depth?_name hn]
  exact ⟨fun ⟨_, n, m, h⟩ => ⟨m, n, h⟩, fun ⟨m, n, h⟩ => ⟨hd, n, m, h⟩⟩

theorem inside_of_confined (hb : b.Proper) (h : Confined directory extension) (root : Path) :
    Inside root (pathFor ⟨root.join directory, extension⟩ b) := by
  obtain ⟨name, hn, hp⟩ := exists_parts_pathFor hb h.relative extension
  obtain ⟨n, hw⟩ := (confined_iff h.relative hn).mp h
  exact inside_of_depth? ((isAbsolute_pathFor hb _).trans (isAbsolute_join h.relative)) (hp root) hw

-- A root that is not on the way tells whether it is left.
theorem confined_of_inside (hb : b.Proper) (h : ∀ root, Inside root (pathFor ⟨root.join directory, extension⟩ b)) :
    Confined directory extension := by
  have hd : Path.isAbsolute directory = false := by
    by_contra hd
    have ha := (h "").isAbsolute
    rw [isAbsolute_pathFor hb, join_of_isAbsolute (by simpa using hd)] at ha
    exact hd ha
  obtain ⟨name, hn, hp⟩ := exists_parts_pathFor hb hd extension
  obtain ⟨root, hr, hs, hm⟩ := exists_root (Path.parts directory ++ name :: deeper extension)
  exact (confined_iff hd hn).mpr (exists_depth?_of_inside hr hs hm (hp root) (h root))

end Archive

-- Whatever the root is, the archive that the options make writes the bulletin below it.
def ArchivesBelow (raw : Entries Value) (b : Bulletin) : Prop :=
  ∀ root catalog a, Catalog.builtin root = .ok catalog → (catalog.actions.create "archive" raw).run = .ok a →
    Path.Inside root (a.pathFor b)

-- The files of an archive lie below every root exactly if its directory and its extension never lead out of it.
theorem archivesBelow_iff {raw : Entries Value} {b : Bulletin} {text source : String} (hr : raw.Ascending)
    (hb : b ∈ Bulletin.readAll text source) :
    ArchivesBelow raw b
      ↔ ∀ directory extension, ArchiveOptions raw directory extension → Confined directory extension := by
  have hb := Bulletin.proper_of_readAll hb
  constructor
  case mp =>
    intro h directory extension ho
    refine Archive.confined_of_inside hb fun root => ?_
    obtain ⟨catalog, hc⟩ : ∃ catalog, Catalog.builtin root = .ok catalog := ⟨_, rfl⟩
    exact h root catalog _ hc ((Catalog.create_archive_eq_ok_iff hc hr).mpr ⟨directory, extension, ho, rfl⟩)
  case mpr =>
    intro h root catalog a hc ha
    obtain ⟨directory, extension, ho, rfl⟩ := (Catalog.create_archive_eq_ok_iff hc hr).mp ha
    exact Archive.inside_of_confined hb (h directory extension ho) root

def reportText : String :=
  "METAR EFHK 041020Z 22005KT="

def report : Bulletin where
  kind    := "METAR"
  station := "EFHK"
  issued  := "041020Z"
  text    := reportText
  source  := "in.txt"

theorem archivesBelow_iff_report : report ∈ Bulletin.readAll reportText "in.txt"
    ∧ Entries.Ascending [("directory", Value.string "metar/../taf"), ("extension", .string "txt")]
    ∧ (ArchivesBelow [("directory", .string "metar/../taf"), ("extension", .string "txt")] report
        ↔ ∀ directory extension, ArchiveOptions [("directory", .string "metar/../taf"), ("extension", .string "txt")]
            directory extension → Confined directory extension) := by
  have hb : report ∈ Bulletin.readAll reportText "in.txt" := by decide
  have hr : Entries.Ascending [("directory", Value.string "metar/../taf"), ("extension", .string "txt")] := by
    unfold Entries.Ascending
    decide
  exact ⟨hb, hr, archivesBelow_iff hr hb⟩

theorem not_archivesBelow_report : report ∈ Bulletin.readAll reportText "in.txt"
    ∧ Entries.Ascending [("directory", Value.string "../x")]
    ∧ ¬ArchivesBelow [("directory", .string "../x")] report := by
  have hr : Entries.Ascending [("directory", Value.string "../x")] := List.pairwise_singleton ..
  refine ⟨by decide, hr, fun h => ?_⟩
  obtain ⟨catalog, hc⟩ : ∃ catalog, Catalog.builtin "out" = .ok catalog := ⟨_, rfl⟩
  have ho : ArchiveOptions [("directory", .string "../x")] "../x" "txt" :=
    ⟨by simp [Entries.keys], ⟨_, rfl, Conversion.convert_string ..⟩, .inl ⟨rfl, rfl⟩⟩
  have hi := h "out" catalog _ hc ((Catalog.create_archive_eq_ok_iff hc hr).mpr ⟨_, _, ho, rfl⟩)
  obtain ⟨names, _, _, he⟩ := hi.below
  have hp : Path.resolved (Archive.pathFor ⟨Path.join "out" "../x", "txt"⟩ report) = ["x", "METAR_EFHK.txt"] := by
    decide
  have ho : Path.resolved "out" = ["out"] := by decide
  simp [hp, ho] at he

end BulletinPipeline
