import BulletinPipeline.Pipeline.Assembly
import BulletinPipeline.Proofs.Catalog
import BulletinPipeline.Proofs.Settings

namespace BulletinPipeline

open Relation

namespace ComponentSpec

variable {c g h : ComponentSpec}

-- The predicate of a component, the predicate of that one, and so on.
def Gates (c g : ComponentSpec) : Prop :=
  TransGen (fun c g => c.condition = some g) c g

theorem gates_iff : c.Gates h ↔ ∃ g, c.condition = some g ∧ (h = g ∨ g.Gates h) where
  mp hg := by
    have ⟨g, hc, hr⟩ := TransGen.head'_iff.mp hg
    exact ⟨g, hc, (reflTransGen_iff_eq_or_transGen.mp hr)⟩
  mpr := fun ⟨g, hc, hr⟩ => TransGen.head'_iff.mpr ⟨g, hc, reflTransGen_iff_eq_or_transGen.mpr hr⟩

-- The component with its predicate, but without a predicate for that one.
def shallow (c : ComponentSpec) : ComponentSpec :=
  { c with condition := c.condition.map ({ · with condition := none }) }

end ComponentSpec

def PipelineDocument.components (d : PipelineDocument) : List ComponentSpec :=
  d.transformers ++ d.actions

def PipelineDocument.shallow (d : PipelineDocument) : PipelineDocument :=
  { d with
    transformers := d.transformers.map ComponentSpec.shallow
    actions      := d.actions.map ComponentSpec.shallow }

namespace Registry

variable {α : Type}

-- What the factory for the type of a declared component makes of its options.
def Builds (r : Registry Id α) (c : ComponentSpec) (a : α) : Prop :=
  (r.create c.type c.config).run = .ok a

theorem Builds.mem_names {r : Registry Id α} {c : ComponentSpec} {a : α} (h : r.Builds c a) : c.type ∈ r.names := by
  cases hg : r.get? c.type
  case some f => exact Entries.mem_keys_of_lookup hg
  case none =>
    rw [Builds, create, hg] at h
    contradiction

end Registry

namespace Pipeline

variable {α : Type} {registry : Registry Id α} {predicates : Registry Id Condition}
  {label : String → Error → Failure} {c : ComponentSpec} {cs : List ComponentSpec} {s : Stage α}
  {d : PipelineDocument} {base : Path} {p : Pipeline} {catalog : Catalog}

-- A declared component and its stage.
structure Staged (registry : Registry Id α) (predicates : Registry Id Condition) (c : ComponentSpec)
    (s : Stage α) : Prop where
  name      : s.name = c.label
  component : registry.Builds c s.component
  condition : Option.Rel predicates.Builds c.condition s.condition

-- The component can be built, and so can its predicate.
structure Stageable (registry : Registry Id α) (predicates : Registry Id Condition) (c : ComponentSpec) :
    Prop where
  component : ∃ a, registry.Builds c a
  condition : ∀ g, c.condition = some g → ∃ x, predicates.Builds g x

theorem blame_eq_ok_iff {f : Error → Failure} {r : Except Error α} {a : α} :
    blame f r = .ok a ↔ r = .ok a := by
  cases r <;> simp [blame, Except.mapError]

theorem condition?_eq_ok_iff {x : Option Condition} :
    condition? predicates c = .ok x ↔ Option.Rel predicates.Builds c.condition x := by
  unfold condition?
  cases c.condition
  case none =>
    constructor
    case mp  => intro h; cases h; exact .none
    case mpr => intro h; cases h; rfl
  case some g =>
    have hb {y : Condition} : blame (.predicate g.label c.label) (predicates.create g.type g.config).run
        = .ok y ↔ predicates.Builds g y := blame_eq_ok_iff
    simp only [map_eq_pure_bind, bind_eq_ok_iff, hb]
    constructor
    case mp  => intro ⟨y, hy, h⟩; cases h; exact .some hy
    case mpr => intro h; cases h; exact ⟨_, ‹_›, rfl⟩

theorem stage_eq_ok_iff : stage registry predicates label c = .ok s ↔ Staged registry predicates c s := by
  have hb {a : α} : blame (label c.label) (registry.create c.type c.config).run = .ok a
      ↔ registry.Builds c a := blame_eq_ok_iff
  simp only [stage, bind_eq_ok_iff, hb, condition?_eq_ok_iff]
  constructor
  case mp  => intro ⟨a, ha, x, hx, h⟩; cases h; exact ⟨rfl, ha, hx⟩
  case mpr =>
    intro ⟨hn, ha, hx⟩
    cases s
    cases hn
    exact ⟨_, ha, _, hx, rfl⟩

theorem exists_staged_iff : (∃ s, Staged registry predicates c s) ↔ Stageable registry predicates c where
  mp := fun ⟨s, hs⟩ => by
    refine ⟨⟨s.component, hs.component⟩, fun g hg => ?_⟩
    have hc := hg ▸ hs.condition
    cases hx : s.condition <;> rw [hx] at hc <;> cases hc
    case some x hb => exact ⟨x, hb⟩
  mpr := fun ⟨⟨a, ha⟩, hc⟩ => by
    cases hg : c.condition
    case none   => exact ⟨⟨c.label, a, none⟩, rfl, ha, hg ▸ .none⟩
    case some g =>
      have ⟨x, hx⟩ := hc g hg
      exact ⟨⟨c.label, a, some x⟩, rfl, ha, hg ▸ .some hx⟩

theorem exists_forall₂_staged_iff :
    (∃ ss, List.Forall₂ (Staged registry predicates) cs ss) ↔ ∀ c ∈ cs, Stageable registry predicates c := by
  induction cs
  case nil => simp
  case cons c cs hi =>
    rw [List.forall_mem_cons, ← hi, ← exists_staged_iff]
    constructor
    case mp =>
      intro ⟨ss, h⟩
      cases h
      case cons hs hr => exact ⟨⟨_, hs⟩, ⟨_, hr⟩⟩
    case mpr =>
      intro ⟨⟨s, hs⟩, ⟨ss, hr⟩⟩
      exact ⟨s :: ss, .cons hs hr⟩

-- A predicate of a predicate makes no difference to a stage.
theorem stage_shallow : stage registry predicates label c.shallow = stage registry predicates label c := by
  cases c
  case mk type name condition config =>
    cases condition <;> rfl

-- A pipeline with all that a document declares: its settings, and a stage for each component in order.
structure Assembled (d : PipelineDocument) (base : Path) (catalog : Catalog) (p : Pipeline) : Prop where
  name           : p.name = d.name
  materialized   : PipelineSettings.materialize d.settings = .ok p.config
  read           : PipelineSettings.ofConfig p.config = .ok p.settings
  inputDirectory : p.inputDirectory = base.join p.settings.inputDirectory
  builtin        : Catalog.builtin (base.join p.settings.outputDirectory) = .ok catalog
  transformers   : List.Forall₂ (Staged catalog.transformers catalog.predicates) d.transformers p.transformers
  actions        : List.Forall₂ (Staged catalog.actions catalog.predicates) d.actions p.actions

-- All that assembly looks at is in order.
structure Sound (d : PipelineDocument) (base : Path) (config : Config) (settings : PipelineSettings)
    (catalog : Catalog) : Prop where
  materialized : PipelineSettings.materialize d.settings = .ok config
  read         : PipelineSettings.ofConfig config = .ok settings
  builtin      : Catalog.builtin (base.join settings.outputDirectory) = .ok catalog
  transformers : ∀ c ∈ d.transformers, Stageable catalog.transformers catalog.predicates c
  actions      : ∀ c ∈ d.actions, Stageable catalog.actions catalog.predicates c

theorem mapM_stage_eq_ok_iff {ss : List (Stage α)} :
    cs.mapM (stage registry predicates label) = .ok ss
      ↔ List.Forall₂ (Staged registry predicates) cs ss := by
  simp only [mapM_eq_ok_iff, stage_eq_ok_iff]

theorem assemble_eq_ok_iff : assemble d base = .ok p ↔ ∃ catalog, Assembled d base catalog p := by
  simp only [assemble, bind_eq_ok_iff, blame_eq_ok_iff, mapM_stage_eq_ok_iff]
  constructor
  case mp =>
    intro ⟨config, hm, settings, hr, catalog, hb, ts, ht, as, ha, h⟩
    cases h
    exact ⟨catalog, rfl, hm, hr, rfl, hb, ht, ha⟩
  case mpr =>
    intro ⟨catalog, h⟩
    refine ⟨_, h.materialized, _, h.read, catalog, h.builtin, _, h.transformers, _, h.actions, ?_⟩
    rw [← h.name, ← h.inputDirectory]
    rfl

theorem Assembled.sound (h : Assembled d base catalog p) : Sound d base p.config p.settings catalog where
  materialized := h.materialized
  read         := h.read
  builtin      := h.builtin
  transformers := exists_forall₂_staged_iff.mp ⟨_, h.transformers⟩
  actions      := exists_forall₂_staged_iff.mp ⟨_, h.actions⟩

theorem Sound.exists_assembled {config : Config} {settings : PipelineSettings}
    (h : Sound d base config settings catalog) : ∃ p, Assembled d base catalog p := by
  have ⟨ts, ht⟩ := exists_forall₂_staged_iff.mpr h.transformers
  have ⟨as, ha⟩ := exists_forall₂_staged_iff.mpr h.actions
  let p : Pipeline :=
    { name := d.name, config, settings, inputDirectory := base.join settings.inputDirectory,
      transformers := ts, actions := as }
  exact ⟨p, { h with name := rfl, inputDirectory := rfl, transformers := ht, actions := ha }⟩

theorem exists_assemble_iff :
    (∃ p, assemble d base = .ok p) ↔ ∃ config settings catalog, Sound d base config settings catalog := by
  constructor
  case mp =>
    intro ⟨p, hp⟩
    have ⟨catalog, h⟩ := assemble_eq_ok_iff.mp hp
    exact ⟨p.config, p.settings, catalog, h.sound⟩
  case mpr =>
    intro ⟨config, settings, catalog, h⟩
    have ⟨p, hp⟩ := h.exists_assembled
    exact ⟨p, assemble_eq_ok_iff.mpr ⟨catalog, hp⟩⟩

theorem assemble_shallow : assemble d.shallow base = assemble d base := by
  have hs (α : Type) (registry : Registry Id α) (predicates : Registry Id Condition) (label) :
      stage registry predicates label ∘ ComponentSpec.shallow = stage registry predicates label :=
    funext fun _ => stage_shallow
  simp only [assemble, PipelineDocument.shallow, List.mapM_map, hs]

theorem Assembled.builds_gate (h : Assembled d base catalog p) {c g : ComponentSpec} (hc : c ∈ d.components)
    (hg : c.condition = some g) : ∃ x, catalog.predicates.Builds g x := by
  cases List.mem_append.mp hc
  case inl hc => exact (h.sound.transformers c hc).condition g hg
  case inr hc => exact (h.sound.actions c hc).condition g hg

-- Nothing that the document declares is left out of a pipeline, down to the predicates of predicates.
def NothingSkipped (d : PipelineDocument) (base : Path) : Prop :=
  ∀ p, assemble d base = .ok p → ∃ catalog, Assembled d base catalog p
    ∧ ∀ c ∈ d.components, ∀ g, c.Gates g → ∃ x, catalog.predicates.Builds g x

theorem Assembled.catalog_unique {catalog' : Catalog} (h : Assembled d base catalog p)
    (h' : Assembled d base catalog' p) : catalog = catalog' :=
  Except.ok.inj (h.builtin.symm.trans h'.builtin)

-- A predicate of a predicate is not looked at.
theorem assemble_complete_iff (d : PipelineDocument) (base : Path) :
    (∀ p, assemble d base = .ok p ↔ ∃ catalog, Assembled d base catalog p)
    ∧ ((∃ p, assemble d base = .ok p) ↔ ∃ config settings catalog, Sound d base config settings catalog)
    ∧ assemble d.shallow base = assemble d base
    ∧ (NothingSkipped d base ↔ ∀ p catalog, Assembled d base catalog p →
        ∀ c ∈ d.components, ∀ g h, c.condition = some g → g.Gates h → ∃ x, catalog.predicates.Builds h x) := by
  refine ⟨fun p => assemble_eq_ok_iff, exists_assemble_iff, assemble_shallow, ?mp, ?mpr⟩
  case mp =>
    intro hn p catalog ha c hc g h hg hh
    have ⟨catalog', ha', hb⟩ := hn p (assemble_eq_ok_iff.mpr ⟨catalog, ha⟩)
    exact ha.catalog_unique ha' ▸ hb c hc h (ComponentSpec.gates_iff.mpr ⟨g, hg, .inr hh⟩)
  case mpr =>
    intro hb p ha
    have ⟨catalog, ha⟩ := assemble_eq_ok_iff.mp ha
    refine ⟨catalog, ha, fun c hc h hh => ?_⟩
    have ⟨g, hg, hr⟩ := ComponentSpec.gates_iff.mp hh
    cases hr
    case inl he => exact he ▸ ha.builds_gate hc hg
    case inr hr => exact hb p catalog ha c hc g h hg hr

-- There is no predicate `nosuch`.
def unguarded : ComponentSpec :=
  ⟨"kind", none, some ⟨"nosuch", none, none, []⟩, [("kinds", .string "METAR")]⟩

def nordic : PipelineDocument where
  name         := "nordic"
  settings     := [("inputDirectory", .string "in"), ("outputDirectory", .string "out")]
  transformers := [⟨"trim", none, some unguarded, []⟩]
  actions      := []

theorem sound_nordic {catalog : Catalog} (hb : Catalog.builtin (base.join "out") = .ok catalog) :
    Sound nordic base (PipelineSettings.ofDirectories "in" "out") ⟨"in", "out", none, none, none⟩ catalog where
  materialized := PipelineSettings.materialize_directories "in" "out"
  read         := PipelineSettings.ofConfig_ofDirectories "in" "out"
  builtin      := hb
  transformers := by
    intro c hc
    cases List.mem_singleton.mp hc
    refine ⟨⟨_, Catalog.create_trim hb⟩, fun g hg => ?_⟩
    cases hg
    exact ⟨_, Catalog.create_kind hb "METAR"⟩
  actions      := nofun

theorem not_nothingSkipped_nordic :
    (∃ p, assemble nordic "." = .ok p) ∧ ¬NothingSkipped nordic "." := by
  obtain ⟨catalog, hb⟩ : ∃ catalog, Catalog.builtin (Path.join "." "out") = .ok catalog := ⟨_, rfl⟩
  obtain ⟨p, hp⟩ := exists_assemble_iff.mpr ⟨_, _, catalog, sound_nordic hb⟩
  refine ⟨⟨p, hp⟩, fun h => ?_⟩
  obtain ⟨catalog, ha, hg⟩ := h p hp
  obtain ⟨x, hx⟩ := hg _ List.mem_cons_self ⟨"nosuch", none, none, []⟩
    (ComponentSpec.gates_iff.mpr ⟨unguarded, rfl, .inr (.single rfl)⟩)
  have hn := hx.mem_names
  rw [Catalog.names_predicates ha.builtin] at hn
  simp at hn

end Pipeline
end BulletinPipeline
