import BulletinPipeline.Catalog
import BulletinPipeline.Proofs.Conversion.Basic
import BulletinPipeline.Proofs.Factory.Arguments

namespace BulletinPipeline

namespace ObjectFactory

variable {α : Type} {f : ObjectFactory Id α} {env : Environment} {raw : Entries Value} {a : α}

theorem create_eq_ok_iff : (f.create env raw).run = .ok a ↔ (∀ k ∈ Entries.keys raw, f.understands k)
    ∧ ∃ values, f.argumentsFrom env raw 0 f.slots = .ok values
      ∧ ∃ object, (f.constructor.invoke ⟨values, f.signature⟩).run = .ok object
        ∧ ((f.settings raw).foldlM (f.set env) object).run = .ok a := by
  have hk : (∀ k ∈ Entries.keys raw, f.understands k) ↔ (Entries.keys raw).find? (!f.understands ·) = none := by
    simp
  rw [hk, create]
  cases (Entries.keys raw).find? (!f.understands ·)
  case some k => exact ⟨nofun, nofun⟩
  case none   => simp only [run_bind_eq_ok_iff, run_adapt_eq_ok_iff, true_and]; rfl

-- One property is set at most once.
theorem settings_eq (hr : raw.Ascending) {key : String} {x : Mutator Id α} (hs : key ∉ f.optionSlots)
    (hm : f.mutators = [(key, x)]) : f.settings raw = (raw.lookup key).toList.map (key, x, ·) := by
  rw [← hr.filterMap_eq, settings]
  refine List.filterMap_congr fun e _ => ?_
  by_cases he : e.1 = key
  case pos => simp [he, hs, hm]
  case neg => simp [he, hm, Entries.lookup_cons_eq]

end ObjectFactory

-- The factory of archives under a root: its constructor takes the root and a directory, its only mutator takes an
-- extension.
structure ArchiveFactory (root : Path) (f : ObjectFactory Id Archive) (x : Mutator Id Archive) : Prop where
  converter : f.converter = .standard
  slots     : f.slots = [.fixed (.string root) .string, .option "directory" .string]
  params    : f.constructor.params = [.string, .string]
  invoke    : ∀ {v s a}, (f.constructor.invoke ⟨[.string root, v], s⟩).run = .ok a
    ↔ ∃ directory, v = .string directory ∧ a = .below root directory
  mutators  : f.mutators = [("extension", x)]
  param     : x.param = .string
  mutate    : ∀ {a v b}, (x.mutate a v).run = .ok b ↔ ∃ extension, v = .string extension ∧ b = { a with extension }

-- What options say about an archive.
structure ArchiveOptions (raw : Entries Value) (directory extension : String) : Prop where
  known     : ∀ k ∈ Entries.keys raw, k = "directory" ∨ k = "extension"
  directory : ∃ v, raw.lookup "directory" = some v ∧ Conversion.convert .empty v .string = .ok (.string directory)
  extension : raw.lookup "extension" = none ∧ extension = "txt"
    ∨ ∃ v, raw.lookup "extension" = some v ∧ Conversion.convert .empty v .string = .ok (.string extension)

namespace ArchiveFactory

variable {root : Path} {f : ObjectFactory Id Archive} {x : Mutator Id Archive} {raw : Entries Value}
  {a b : Archive} {v : Value} {values : List Value}

theorem optionSlots (h : ArchiveFactory root f x) : f.optionSlots = ["directory"] := by
  rw [ObjectFactory.optionSlots, h.slots]
  rfl

theorem understands_iff (h : ArchiveFactory root f x) (k : String) :
    f.understands k ↔ k = "directory" ∨ k = "extension" := by
  rw [ObjectFactory.understands, h.optionSlots, h.mutators, Entries.lookup_cons_eq]
  simp

theorem argumentsFrom_eq_ok_iff (h : ArchiveFactory root f x) :
    f.argumentsFrom .empty raw 0 f.slots = .ok values ↔ ∃ v w, raw.lookup "directory" = some v
      ∧ Conversion.convert .empty v .string = .ok w ∧ values = [.string root, w] := by
  have hp (v : Value) : f.converter.toParameter .empty v f.signature 1 = Conversion.convert .empty v .string := by
    simp [h.converter, Converter.standard, ObjectFactory.signature, h.params]
  simp only [h.slots, ObjectFactory.argumentsFrom, bind_eq_ok_iff, ← Slot.fills_iff, Slot.fills_fixed_iff,
    Slot.fills_option_iff, hp]
  constructor
  case mp =>
    rintro ⟨_, rfl, _, ⟨w, ⟨v, hv, hw⟩, _, ⟨⟩, ⟨⟩⟩, ⟨⟩⟩
    exact ⟨v, w, hv, hw, rfl⟩
  case mpr =>
    rintro ⟨v, w, hv, hw, rfl⟩
    exact ⟨_, rfl, _, ⟨w, ⟨v, hv, hw⟩, _, rfl, rfl⟩, rfl⟩

theorem set_eq_ok_iff (h : ArchiveFactory root f x) : (f.set .empty a ("extension", x, v)).run = .ok b
    ↔ ∃ extension, Conversion.convert .empty v .string = .ok (.string extension) ∧ b = { a with extension } := by
  have hp : f.converter.toParameter .empty v (f.mutatorSignature x) 0 = Conversion.convert .empty v .string := by
    simp [h.converter, Converter.standard, ObjectFactory.mutatorSignature, h.param]
  simp only [ObjectFactory.set, hp]
  cases Conversion.convert .empty v .string
  case error => exact ⟨nofun, nofun⟩
  case ok w  => simp only [run_adapt_eq_ok_iff, h.mutate, Except.ok.injEq]

-- The extension is set if there is an option for it.
theorem foldlM_set_eq_ok_iff (h : ArchiveFactory root f x) (u : Option Value) :
    ((u.toList.map ("extension", x, ·)).foldlM (f.set .empty) a).run = .ok b
      ↔ u = none ∧ b = a ∨ ∃ v extension, u = some v
        ∧ Conversion.convert .empty v .string = .ok (.string extension) ∧ b = { a with extension } := by
  cases u
  case none   =>
    constructor
    case mp =>
      intro h
      cases h
      exact .inl ⟨rfl, rfl⟩
    case mpr =>
      rintro (⟨_, rfl⟩ | ⟨_, _, ⟨⟩, _⟩)
      rfl
  case some v => simp [h.set_eq_ok_iff]

theorem create_eq_ok_iff (h : ArchiveFactory root f x) (hr : raw.Ascending) : (f.create .empty raw).run = .ok a
    ↔ ∃ directory extension, ArchiveOptions raw directory extension ∧ a = ⟨root.join directory, extension⟩ := by
  have hx : "extension" ∉ f.optionSlots := by simp [h.optionSlots]
  have hs := f.settings_eq hr hx h.mutators
  simp only [ObjectFactory.create_eq_ok_iff, h.understands_iff, h.argumentsFrom_eq_ok_iff, hs,
    h.foldlM_set_eq_ok_iff]
  constructor
  case mp =>
    rintro ⟨hk, _, ⟨v, w, hv, hw, rfl⟩, object, hi, he⟩
    obtain ⟨directory, rfl, rfl⟩ := h.invoke.mp hi
    rcases he with ⟨he, rfl⟩ | ⟨u, extension, he, hu, rfl⟩
    · exact ⟨directory, "txt", ⟨hk, ⟨v, hv, hw⟩, .inl ⟨he, rfl⟩⟩, rfl⟩
    · exact ⟨directory, extension, ⟨hk, ⟨v, hv, hw⟩, .inr ⟨u, he, hu⟩⟩, rfl⟩
  case mpr =>
    rintro ⟨directory, extension, ⟨hk, ⟨v, hv, hw⟩, he⟩, rfl⟩
    refine ⟨hk, _, ⟨v, _, hv, hw, rfl⟩, .below root directory, h.invoke.mpr ⟨directory, rfl, rfl⟩, ?_⟩
    rcases he with ⟨he, rfl⟩ | ⟨u, he, hu⟩
    · exact .inl ⟨he, rfl⟩
    · exact .inr ⟨u, extension, he, hu, rfl⟩

end ArchiveFactory

namespace Catalog

variable {root : Path} {catalog : Catalog}

theorem exists_archiveFactory (h : builtin root = .ok catalog) :
    ∃ f x, catalog.actions.get? "archive" = some (f.toFactory .empty) ∧ ArchiveFactory root f x := by
  cases h
  refine ⟨_, _, rfl, rfl, rfl, rfl, @fun v s a => ?_, rfl, rfl, @fun a v b => ?_⟩
  · constructor
    case mp =>
      intro h
      cases v <;> cases h
      exact ⟨_, rfl, rfl⟩
    case mpr =>
      rintro ⟨directory, rfl, rfl⟩
      rfl
  · constructor
    case mp =>
      intro h
      cases v <;> cases h
      exact ⟨_, rfl, rfl⟩
    case mpr =>
      rintro ⟨extension, rfl, rfl⟩
      rfl

theorem create_archive_eq_ok_iff {raw : Entries Value} {a : Archive} (h : builtin root = .ok catalog)
    (hr : raw.Ascending) : (catalog.actions.create "archive" raw).run = .ok a
      ↔ ∃ directory extension, ArchiveOptions raw directory extension ∧ a = ⟨root.join directory, extension⟩ := by
  obtain ⟨f, x, hg, hf⟩ := exists_archiveFactory h
  rw [Registry.create, hg]
  exact hf.create_eq_ok_iff hr

theorem create_trim (h : builtin root = .ok catalog) :
    (catalog.transformers.create "trim" []).run = .ok (.trim false) := by
  cases h
  rfl

theorem names_predicates (h : builtin root = .ok catalog) : catalog.predicates.names = ["kind", "station"] := by
  cases h
  rfl

-- A single kind may stand for the list of kinds.
theorem create_kind (h : builtin root = .ok catalog) (k : String) :
    (catalog.predicates.create "kind" [("kinds", .string k)]).run = .ok (.kind [k]) := by
  obtain ⟨f, hf, hg⟩ : ∃ f, kind.resolve = .ok f
      ∧ catalog.predicates.get? "kind" = some ((f.toFactory .empty).map .kind) := by
    cases h
    exact ⟨_, rfl, rfl⟩
  have hc : (f.create .empty [("kinds", .string k)]).run = .ok [k] := by
    cases hf
    refine ObjectFactory.create_eq_ok_iff.mpr ⟨?known, [.list [.string k]], ?arguments, [k], rfl, rfl⟩
    case known =>
      intro j hj
      cases List.mem_singleton.mp hj
      rfl
    case arguments =>
      refine bind_eq_ok_iff.mpr ⟨_, Slot.fills_iff.mp (Slot.fills_option_iff.mpr ⟨_, rfl, ?_⟩), rfl⟩
      exact Conversion.convert_list_string .empty k
  rw [Registry.create, hg]
  change (Condition.kind <$> f.create .empty _ : ExceptT Error Id Condition).run = _
  rw [map_eq_pure_bind, run_bind_eq_ok_iff]
  exact ⟨[k], hc, rfl⟩

end Catalog
end BulletinPipeline
