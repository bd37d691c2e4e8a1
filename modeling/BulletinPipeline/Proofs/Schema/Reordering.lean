import BulletinPipeline.Proofs.Recursion.Evaluation
import BulletinPipeline.Proofs.Schema.Agreement
import BulletinPipeline.Proofs.Schema.Flaw
import BulletinPipeline.Proofs.Schema.OtherNames

namespace BulletinPipeline

-- Two errors about a descriptor that are the same, except that each may name an accessor of it for what both
-- have: parameters.
inductive SameError (d : Descriptor) : Error → Error → Prop
  | same (f : Error) : SameError d f f
  | parameters {a b : Signature} :
    a ∈ d.accessors → b ∈ d.accessors → a.params ≠ [] → b.params ≠ [] →
      SameError d (.schema (.violation d.name (.parameters a.name)))
        (.schema (.violation d.name (.parameters b.name)))

inductive SameAnswer {α : Type} (d : Descriptor) : Except Error α → Except Error α → Prop
  | ok (a : α) : SameAnswer d (.ok a) (.ok a)
  | error {f g : Error} : SameError d f g → SameAnswer d (.error f) (.error g)

theorem SameError.kind_eq {d : Descriptor} {f g : Error} (h : SameError d f g) : f.kind = g.kind := by
  cases h <;> simp [Error.kind]

theorem SameAnswer.refl {α : Type} (d : Descriptor) (x : Except Error α) : SameAnswer d x x := by
  cases x
  case ok a    => exact .ok a
  case error f => exact .error (.same f)

namespace Descriptor

-- All that a descriptor is read for, in any order.
structure Alike (d e : Descriptor) : Prop where
  name      : e.name = d.name
  form      : e.form = d.form
  tagged    : e.tagged = d.tagged
  accessors : e.accessors.Perm d.accessors

namespace Alike

variable {d e : Descriptor} {f : SchemaError} {groups : Entries (List String)}

theorem legal (h : d.Alike e) (hl : d.Legal) : e.Legal where
  contract     := h.form.trans hl.contract
  tagged       := h.tagged.trans hl.tagged
  noParams a m := hl.noParams a (h.accessors.mem_iff.mp m)
  distinct     := (h.accessors.map _).nodup_iff.mpr hl.distinct

theorem table_eq (h : d.Alike e) (hl : d.Legal) : e.table = d.table := by
  have hp : e.table.properties = d.table.properties := by
    refine Entries.eq_of_mem_iff_of_ascending e.ascending_optionNames d.ascending_optionNames fun p => ?_
    rw [(h.legal hl).mem_properties, hl.mem_properties, h.accessors.mem_iff]
  exact (Schema.mk.injEq ..).mpr ⟨h.name, hp⟩

theorem ambiguities (h : d.Alike e) (hg : d.Ambiguities groups) : e.Ambiguities groups where
  ascending := hg.ascending
  listed k names := by
    have hp : (e.accessorsOf k).Perm (d.accessorsOf k) := h.accessors.filter _
    rw [hg.listed, hp.length_eq, (hp.map Signature.name).congr_right]

-- The first accessor with parameters depends on the order, and nothing else that is wrong does.
theorem flaw (h : d.Alike e) (hf : d.Flaw f) : ∃ g, SameError d (.schema f) (.schema g) ∧ e.Flaw g := by
  cases hf
  case concrete hf    => exact ⟨_, .same _, h.name ▸ .concrete (h.form.trans hf)⟩
  case untagged hf ht => exact ⟨_, .same _, h.name ▸ .untagged (h.form.trans hf) (h.tagged.trans ht)⟩
  case parameters before after a hf ht hs hb ha =>
    have hm : a ∈ d.accessors := by simp [hs]
    cases hf' : e.accessors.find? (!·.params.isEmpty)
    case none =>
      have hn := List.find?_eq_none.mp hf' a (h.accessors.mem_iff.mpr hm)
      exact absurd ha (by simpa using hn)
    case some b =>
      have hb := h.accessors.mem_iff.mp (List.mem_of_find?_eq_some hf')
      have ⟨hp, before, after, hs, hn⟩ := List.find?_eq_some_iff_append.mp hf'
      have hp : b.params ≠ [] := by simpa using hp
      refine ⟨_, .parameters hm hb ha hp, h.name ▸ ?_⟩
      exact .parameters (h.form.trans hf) (h.tagged.trans ht) hs (by simpa using hn) hp
  case ambiguous hf ht hp hg hn =>
    refine ⟨_, .same _, h.name ▸ .ambiguous (h.form.trans hf) (h.tagged.trans ht) (fun a ha => ?_) ?_ hn⟩
    · exact hp a (h.accessors.mem_iff.mp ha)
    · exact h.ambiguities hg

end Alike
end Descriptor

namespace Materializer

open Environment

variable {env : Environment} {d e : Descriptor}

theorem cases_of_alike (env : Environment) (h : d.Alike e) :
    (∃ f g, SameError d f g ∧ (validate env d .fresh).1 = .error f ∧ (validate env e .fresh).1 = .error g)
    ∨ (validate env d .fresh).1 = .ok d.table ∧ (validate env e .fresh).1 = .ok d.table
      ∧ (env.Misses d.name d → ∀ converter raw,
          (materialize env converter d raw .fresh).1 = (materialize env converter e raw .fresh).1) := by
  cases ho : Schema.ofDescriptor d
  case error f =>
    have ⟨g, hs, hg⟩ := h.flaw (Schema.flaw_of_ofDescriptor ho)
    exact .inl ⟨_, _, hs, validate_of_flaw ho, validate_of_flaw (Schema.ofDescriptor_of_flaw hg)⟩
  case ok s =>
    have hl := (Schema.legal_of_ofDescriptor ho).1
    have ht := h.table_eq hl
    cases fresh_twins env hl (h.legal hl) h.name (congrArg _ ht)
    case inl he =>
      have ⟨f, hd, he⟩ := he
      exact .inl ⟨f, f, .same f, hd, he⟩
    case inr he =>
      have ⟨hd, he, hm⟩ := he
      refine .inr ⟨hd, ht ▸ he, fun hn converter raw => ?_⟩
      have ⟨m, m', ha, hr⟩ := hm hn
      rw [(hr converter raw).1, (hr converter raw).2, ht]
      exact (Overlooks.fill (hn.table hl) raw [] m m' ha).fst_eq

-- What comes of two descriptors on fresh materializers.
structure Interchangeable (env : Environment) (d e : Descriptor) : Prop where
  valid       : (isValid env d .fresh).1 = (isValid env e .fresh).1
  kind        : ∀ f g, (validate env d .fresh).1 = .error f → (validate env e .fresh).1 = .error g →
    f.kind = g.kind
  optionNames : ∀ s t, (validate env d .fresh).1 = .ok s → (validate env e .fresh).1 = .ok t →
    s.optionNames = t.optionNames
  answers     : SameAnswer d (validate env d .fresh).1 (validate env e .fresh).1
  configs     : Unrepeated env d → ∀ converter raw,
    SameAnswer d (materialize env converter d raw .fresh).1 (materialize env converter e raw .fresh).1

-- Order and members with a body count for nothing.
theorem interchangeable_of_alike (env : Environment) (h : d.Alike e) : Interchangeable env d e := by
  have hv (x : Descriptor) : (isValid env x .fresh).1 = (validate env x .fresh).1.isOk := rfl
  cases cases_of_alike env h
  case inl hf =>
    have ⟨f, g, hs, hd, he⟩ := hf
    constructor
    case valid       => rw [hv, hv, hd, he]; rfl
    case kind        => simpa [hd, he] using hs.kind_eq
    case optionNames => simp [hd]
    case answers     =>
      rw [hd, he]
      exact .error hs
    case configs     =>
      intro _ converter raw
      rw [materialize_of_validate_error hd, materialize_of_validate_error he]
      exact .error hs
  case inr hs =>
    have ⟨hd, he, hm⟩ := hs
    constructor
    case valid       => rw [hv, hv, hd, he]
    case kind        => simp [hd]
    case optionNames => simp [hd, he]
    case answers     =>
      rw [hd, he]
      exact .ok _
    case configs     =>
      intro hu converter raw
      rw [hm (hu.misses hd) converter raw]
      exact .refl d _

def axle : Descriptor :=
  .schema "Axle" [("getHub", .optional (.schema ⟨"Hub", "Hub"⟩)), ("getLoad", .long), ("label", .optional .string)]

-- The accessors backwards, between two members with a body.
def axleTurned : Descriptor where
  name    := "Axle"
  form    := .contract
  tagged  := true
  members :=
    ⟨⟨"Axle", "describe", [.int], .string⟩, .default⟩ :: axle.members.reverse
      ++ [⟨⟨"Axle", "label", [.string], .any⟩, .static⟩]

def axles : Environment where
  descriptors := [("Axle", axle), ("Hub", .schema "Hub" [("size", .long)])]

def axleRaw : Entries Value :=
  [("hub", .map [("size", .long 3)]), ("load", .long 7)]

def axleConfig : Config where
  schema     := "Axle"
  properties := [("hub", .present (.config "Hub" [("size", .long 3)])), ("label", .absent), ("load", .long 7)]

theorem namesUnique_axles : axles.NamesUnique :=
  namesUnique_of_nodup (by decide)

theorem validate_axle : (validate axles axle .fresh).1 = .ok axle.table :=
  validate_of_within (n := 1) rfl

theorem materialize_axle : (materialize axles .standard axle axleRaw .fresh).1 = .ok axleConfig :=
  materialize_of_within (n := 2) rfl

theorem interchangeable_axle :
    axle.Alike axleTurned ∧ Unrepeated axles axle ∧ Interchangeable axles axle axleTurned
      ∧ (isValid axles axleTurned .fresh).1 = true
      ∧ (materialize axles .standard axleTurned axleRaw .fresh).1 = .ok axleConfig := by
  have h : axle.Alike axleTurned := ⟨rfl, rfl, rfl, by decide⟩
  have hu : Unrepeated axles axle := .inl namesUnique_axles
  have hi := interchangeable_of_alike axles h
  have hv : (isValid axles axle .fresh).1 = true := isValid_iff.mpr ⟨axle.table, validate_axle⟩
  have ha := hi.configs hu .standard axleRaw
  rw [materialize_axle] at ha
  refine ⟨h, hu, hi, hi.valid ▸ hv, ?_⟩
  generalize (materialize axles .standard axleTurned axleRaw .fresh).1 = x at ha ⊢
  cases ha
  rfl

-- Forms and clerks under names that stand for several of each, behind a desk that one of the clerks refers to.
def desk : Descriptor :=
  .schema "Desk"
    [("accepted", .optional (.schema ⟨"Form", "new"⟩)), ("current", .optional (.schema ⟨"Form", "form"⟩)),
     ("dropped", .optional (.schema ⟨"Form", "old"⟩))]

def desks : Environment where
  descriptors :=
    [("busy", .schema "Clerk" [("desk", .optional (.schema ⟨"Desk", "desk"⟩))]), ("clerk", .schema "Clerk" []),
     ("desk", desk), ("form", .schema "Form" [("clerk", .optional (.schema ⟨"Clerk", "busy"⟩))]),
     ("new", .schema "Form" [("clerk", .optional (.schema ⟨"Clerk", "clerk"⟩))]), ("old", .schema "Form" [])]

def deskTurned : Descriptor :=
  { desk with members := desk.members.reverse }

def deskRaw : Entries Value :=
  [("current", .map [])]

def deskConfig : Config where
  schema     := "Desk"
  properties :=
    [("accepted", .absent), ("current", .present (.config "Form" [("clerk", .absent)])), ("dropped", .absent)]

theorem materialize_desk : (materialize desks .standard desk deskRaw .fresh).1 = .ok deskConfig :=
  materialize_of_within (n := 4) rfl

-- A walk from the desk comes back to it, and there memory has it or the other one.
theorem not_sameAnswer_desk :
    desk.Alike deskTurned
      ∧ (materialize desks .standard desk deskRaw .fresh).1 = .ok deskConfig
      ∧ (materialize desks .standard deskTurned deskRaw .fresh).1
          = .error (.schema (.circular ["Form", "Clerk", "Desk", "Form"]))
      ∧ ¬SameAnswer desk (materialize desks .standard desk deskRaw .fresh).1
          (materialize desks .standard deskTurned deskRaw .fresh).1 := by
  have he : (materialize desks .standard deskTurned deskRaw .fresh).1
      = .error (.schema (.circular ["Form", "Clerk", "Desk", "Form"])) :=
    materialize_of_within (n := 5) rfl
  refine ⟨⟨rfl, rfl, rfl, by decide⟩, materialize_desk, he, fun h => ?_⟩
  rw [materialize_desk, he] at h
  cases h

end Materializer
end BulletinPipeline
